import Mathlib.Data.List.Forall2
import Marktree.Proofs.Markup.Direct
import Marktree.Proofs.Node.Placeholder
import Marktree.Proofs.Text.Escape

/-!
# Streams of tokens

What builders answer with is a stream of tokens with newlines between them. Such a stream is cut
into exactly its tokens and the runs of newlines (`pieces_stream`), and if its tokens are of
different full slots, reading it takes the nodes of these slots and no other (`decode_stream`).
-/
namespace Marktree

namespace Node

open Placeholder (Piece encode encodeChars)

/-- What a stream of answers is made of: the token of a slot, or the newline of a soft break. -/
inductive Mark
  | token (slot : Nat)
  | newline
  deriving Repr, DecidableEq

namespace Mark

def chars : Mark → List Char
  | token i => encodeChars i
  | newline => ['\n']

/-- The text of a stream. -/
def stream (ms : List Mark) : List Char :=
  ms.flatMap chars

theorem stream_encode (i : Nat) : (encode i).toList = stream [.token i] := by
  simp [encode, stream, chars]

def slot? : Mark → Option Nat
  | token i => some i
  | newline => none

/-- The slots that the tokens of a stream name. -/
def slots (ms : List Mark) : List Nat :=
  ms.filterMap slot?

/-- The tokens of a stream and the runs of newlines between them. -/
def pieces : List Mark → List Piece
  | [] => []
  | token i :: ms => .token (Nat.toDigits 10 i) :: pieces ms
  | newline :: ms =>
    match pieces ms with
    | .leak t :: ps => .leak ('\n' :: t) :: ps
    | ps => .leak ['\n'] :: ps

/-- **A stream is cut into its tokens and runs of newlines.** -/
theorem pieces_stream (ms : List Mark) : Placeholder.pieces (stream ms) = pieces ms := by
  induction ms with
  | nil => exact Placeholder.pieces_nil
  | cons m ms ih =>
    cases m with
    | token i =>
      rw [pieces, ← ih]
      exact Placeholder.pieces_of_token? (Placeholder.token?_encodeChars i _)
    | newline =>
      rw [pieces, ← ih]
      refine Placeholder.pieces_newline fun cs hcs => ?_
      cases ms with
      | nil => cases hcs
      | cons m ms =>
        cases m with
        | token i => simp [chars, Placeholder.token?_encodeChars]
        | newline => simp [chars] at hcs

/-! ## Reading -/

/-- A mark stands for a part, a token for the node in its slot. -/
def Reads (r : Registry) : Mark → Part → Prop
  | token i, .node n => r.get? i = some n
  | newline, .leak s => s = "\n"
  | _, _ => False

theorem Reads.mono {r r' : Registry} {m : Mark} {p : Part} (h : m.Reads r p)
    (hr : ∀ i ∈ m.slot?, r'.get? i = r.get? i) : m.Reads r' p := by
  cases m <;> cases p <;> simp_all [Reads, slot?]

/-- Parts stay read while their slots stay as they are. -/
theorem forall₂_reads_mono {r r' : Registry} {ms : List Mark} {ps : List Part}
    (h : List.Forall₂ (Reads r) ms ps) (hr : ∀ i ∈ slots ms, r'.get? i = r.get? i) :
    List.Forall₂ (Reads r') ms ps := by
  induction h with
  | nil => exact .nil
  | cons hm _ ih =>
    refine .cons (hm.mono fun i hi => hr i ?_) (ih fun i hi => hr i ?_)
    · exact List.mem_filterMap.2 ⟨_, by simp, hi⟩
    · simp only [slots, List.filterMap_cons] at hi ⊢
      split <;> simp [hi]

theorem lt_size_of_mem_slots {r : Registry} {ms : List Mark} {ps : List Part}
    (h : List.Forall₂ (Reads r) ms ps) {i : Nat} (hi : i ∈ slots ms) : i < r.size := by
  induction h with
  | nil => cases hi
  | @cons m p ms ps hm _ ih =>
    cases m with
    | newline => exact ih hi
    | token j =>
      cases p with
      | leak s => exact hm.elim
      | node n =>
        rcases List.mem_cons.1 hi with rfl | hi
        · exact Registry.lt_size_of_get? hm
        · exact ih hi

/-- A piece of a stream and the joined part that it comes from. -/
def Joined : Piece → Part → Prop
  | .token _, .node _ => True
  | .leak t, .leak s => s = String.ofList t ∧ '&' ∉ t
  | _, _ => False

theorem joined_pieces {r : Registry} {ms : List Mark} {ps : List Part}
    (h : List.Forall₂ (Reads r) ms ps) : List.Forall₂ Joined (pieces ms) (Part.join ps) := by
  induction h with
  | nil => exact .nil
  | @cons m p ms ps hm _ ih =>
    cases m with
    | token i =>
      cases p with
      | leak s => exact hm.elim
      | node n => exact .cons trivial ih
    | newline =>
      cases p with
      | node n => exact hm.elim
      | leak s =>
        obtain rfl : s = "\n" := hm
        simp only [pieces, Part.join]
        generalize pieces ms = pcs, Part.join ps = qs at ih
        cases ih with
        | nil => exact .cons ⟨rfl, by decide⟩ .nil
        | @cons pc q pcs qs hq hrest =>
          cases pc with
          | token ds =>
            cases q with
            | node n => exact .cons ⟨rfl, by decide⟩ (.cons trivial hrest)
            | leak t => exact hq.elim
          | leak t =>
            cases q with
            | node n => exact hq.elim
            | leak t' =>
              obtain ⟨rfl, ht⟩ := hq
              exact .cons ⟨by simp, by simp [ht]⟩ hrest

theorem resolve_token {r : Registry} {i : Nat} {n : Node} (h : r.get? i = some n) :
    Placeholder.resolve r (.token (Nat.toDigits 10 i)) = (some n, (r.take i).2) := by
  rw [Placeholder.resolve, Text.number?_toDigits (by decide) (by decide)]
  exact Prod.ext (by simp [h]) rfl

theorem resolveAll_leak {r : Registry} {t : List Char} (ht : '&' ∉ t) (pcs : List Piece) :
    Placeholder.resolveAll r (.leak t :: pcs) =
      (.text (String.ofList t) :: (Placeholder.resolveAll r pcs).1, (Placeholder.resolveAll r pcs).2) := by
  simp [Placeholder.resolveAll, Placeholder.resolve, Text.unescapeChars_of_notMem ht]

/-- A newline before a stream is joined to the text that the rest of it begins with. -/
theorem resolveAll_newline {r r' : Registry} {ms : List Mark} {ps : List Part}
    (hj : List.Forall₂ Joined (pieces ms) (Part.join ps))
    (hr : Placeholder.resolveAll r (pieces ms) = (Part.nodes ps, r')) :
    Placeholder.resolveAll r (pieces (newline :: ms)) = (Part.nodes (.leak "\n" :: ps), r') := by
  have hn : '&' ∉ ['\n'] := by decide
  simp only [pieces, Part.nodes, Part.join] at hr ⊢
  generalize pieces ms = pcs, Part.join ps = qs at hj hr
  cases hj with
  | nil =>
    rw [resolveAll_leak hn, hr]
    rfl
  | @cons pc q pcs qs hq hrest =>
    cases pc with
    | token ds =>
      cases q with
      | node n =>
        rw [resolveAll_leak hn, hr]
        rfl
      | leak t => exact hq.elim
    | leak t =>
      cases q with
      | node n => exact hq.elim
      | leak t' =>
        obtain ⟨rfl, ht⟩ := hq
        rw [resolveAll_leak ht] at hr
        rw [resolveAll_leak (by simp [ht])]
        simp only [List.map_cons, Part.toNode, Prod.mk.injEq, List.cons.injEq] at hr ⊢
        obtain ⟨⟨-, h₁⟩, h₂⟩ := hr
        exact ⟨⟨by simp, h₁⟩, h₂⟩

/-- **Reading a stream.** The nodes of its slots come out, with one text for every run of newlines;
these slots are empty afterwards and all others as before. -/
theorem decode_stream {r : Registry} {ms : List Mark} {ps : List Part}
    (h : List.Forall₂ (Reads r) ms ps) (hnd : (slots ms).Nodup) {x : String}
    (hx : x.toList = stream ms) :
    ∃ r', Placeholder.decode r x = (Part.nodes ps, r') ∧ r'.size = r.size ∧
      ∀ i, r'.get? i = if i ∈ slots ms then none else r.get? i := by
  rw [Placeholder.decode, Placeholder.decodeChars, hx, pieces_stream]
  clear hx
  induction ms generalizing r ps with
  | nil =>
    cases h
    exact ⟨r, rfl, rfl, by simp [slots]⟩
  | cons m ms ih =>
    obtain ⟨p, ps, hm, hms, rfl⟩ := List.forall₂_cons_left_iff.1 h
    cases m with
    | token i =>
      cases p with
      | leak s => exact hm.elim
      | node n =>
        obtain ⟨hi, hnd⟩ := List.nodup_cons.1 (show (i :: slots ms).Nodup from hnd)
        have hms' : List.Forall₂ (Reads (r.take i).2) ms ps :=
          forall₂_reads_mono hms fun j hj => by
            rw [Registry.get?_take, if_neg fun e : j = i => hi (e ▸ hj)]
        obtain ⟨r', hr, hsize, hget⟩ := ih hms' hnd
        refine ⟨r', ?_, by rw [hsize, Registry.size_take], fun j => ?_⟩
        · simp only [pieces, Placeholder.resolveAll, resolve_token hm, hr]
          rfl
        · rw [hget, Registry.get?_take]
          show _ = if j ∈ i :: slots ms then none else r.get? j
          by_cases hj : j = i <;> simp [hj]
    | newline =>
      cases p with
      | node n => exact hm.elim
      | leak s =>
        obtain rfl : s = "\n" := hm
        obtain ⟨r', hr, hsize, hget⟩ := ih hms hnd
        exact ⟨r', resolveAll_newline (joined_pieces hms) hr, hsize, hget⟩

end Mark

/-- The token of a slot is read as the node in it. -/
theorem Placeholder.decode_encode {r : Registry} {i : Nat} {n : Node} (h : r.get? i = some n) :
    decode r (encode i) = ([n], (r.take i).2) := by
  have hpieces : pieces (encode i).toList = [.token (Nat.toDigits 10 i)] := by
    have htoken := token?_encodeChars i []
    rw [List.append_nil] at htoken
    rw [encode, String.toList_ofList, pieces_of_token? htoken, pieces_nil]
  rw [decode, decodeChars, hpieces, resolveAll, Mark.resolve_token h]
  rfl

end Node
end Marktree
