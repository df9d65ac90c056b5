import Marktree.Node.Placeholder
import Marktree.Proofs.Text.Digits

/-!
# Slots and tokens

What registering and taking a node do to the slots of a registry, that the token of a slot is read
back as its number, and how a text is cut in front of a token, a newline and other text.
-/
namespace Marktree

/-! ## Registries -/

namespace Node.Registry

variable {r : Registry}

theorem get?_register (n : Node) (i : Nat) :
    (r.register n).2.get? i = if i = r.size then some n else r.get? i := by
  simp only [register, get?, size, Array.getElem?_push]
  split <;> simp [*]

theorem lt_size_of_get? {i : Nat} {n : Node} (h : r.get? i = some n) : i < r.size := by
  obtain ⟨hi, -⟩ := Array.getElem?_eq_some_iff.1 (Option.join_eq_some_iff.1 h)
  exact hi

theorem get?_of_size_le {i : Nat} (h : r.size ≤ i) : r.get? i = none :=
  Option.eq_none_iff_forall_ne_some.2 fun _ hn => Nat.not_lt.2 h (lt_size_of_get? hn)

@[simp] theorem take_fst (i : Nat) : (r.take i).1 = r.get? i := by
  unfold take
  split <;> simp [*]

@[simp] theorem size_take (i : Nat) : (r.take i).2.size = r.size := by
  unfold take
  split <;> simp [size]

theorem get?_take (i j : Nat) : (r.take i).2.get? j = if j = i then none else r.get? j := by
  unfold take
  split
  · simp only [get?, Array.getElem?_setIfInBounds]
    grind
  · grind

end Node.Registry

/-! ## Pieces -/

namespace Node

namespace Placeholder

theorem token?_digits {ds : List Char} (hne : ds ≠ []) (hd : ∀ c ∈ ds, c.isDigit) (rest : List Char) :
    token? ('\x7b' :: '\x7b' :: (ds ++ '\x7d' :: '\x7d' :: rest)) = some (ds, rest) := by
  have hb : ('\x7d' : Char).isDigit = false := by decide
  have h₁ : (ds ++ '\x7d' :: '\x7d' :: rest).takeWhile Char.isDigit = ds := by
    rw [List.takeWhile_append_of_pos hd]
    simp [hb]
  have h₂ : (ds ++ '\x7d' :: '\x7d' :: rest).dropWhile Char.isDigit = '\x7d' :: '\x7d' :: rest := by
    rw [List.dropWhile_append_of_pos hd]
    simp [hb]
  obtain ⟨d, ds, rfl⟩ := List.exists_cons_of_ne_nil hne
  rw [token?, h₁, h₂]
  rfl

theorem eq_of_token? {s ds rest : List Char} (h : token? s = some (ds, rest)) :
    ds ≠ [] ∧ (∀ c ∈ ds, c.isDigit) ∧ s = '\x7b' :: '\x7b' :: (ds ++ '\x7d' :: '\x7d' :: rest) := by
  unfold token? at h
  split at h
  · rename_i cs
    split at h
    · rename_i d ds' rest' h₁ h₂
      simp only [Option.some.injEq, Prod.mk.injEq] at h
      obtain ⟨rfl, rfl⟩ := h
      refine ⟨List.cons_ne_nil _ _, fun c hc => ?_, ?_⟩
      · rw [← h₁] at hc
        exact List.all_eq_true.1 List.all_takeWhile c hc
      · rw [← h₁, ← h₂, List.takeWhile_append_dropWhile]
    · cases h
  · cases h

theorem token?_encodeChars (i : Nat) (rest : List Char) :
    token? (encodeChars i ++ rest) = some (Nat.toDigits 10 i, rest) := by
  have hd : ∀ c ∈ Nat.toDigits 10 i, c.isDigit := fun c hc =>
    Nat.isDigit_of_mem_toDigits (by decide) (by decide) hc
  simpa [encodeChars] using token?_digits Nat.toDigits_ne_nil hd rest

@[simp] theorem pieces_nil : pieces [] = [] := by
  rw [pieces]
  rfl

theorem pieces_of_token? {s ds rest : List Char} (h : token? s = some (ds, rest)) :
    pieces s = .token ds :: pieces rest := by
  rw [pieces]
  split
  · rename_i h'
    rw [h] at h'
    cases h'
    rfl
  · rename_i h'
    rw [h] at h'
    cases h'

theorem leak_of_token? {s ds rest : List Char} (h : token? s = some (ds, rest)) : (leak s).1 = [] := by
  unfold token? at h
  split at h
  · rfl
  · cases h

/-- A text that no token opens begins with a leak: up to the next double brace, or all of it. -/
theorem pieces_of_token?_none {c : Char} {cs : List Char} (h : token? (c :: cs) = none) :
    pieces (c :: cs) =
      if (leak (c :: cs)).1 = [] then [.leak (c :: cs)]
      else .leak (leak (c :: cs)).1 :: pieces ((c :: cs).drop (leak (c :: cs)).1.length) := by
  rw [pieces]
  split
  · rename_i h'
    rw [h] at h'
    cases h'
  · dsimp only
    split <;> simp [*]

theorem leak_eq_nil {c : Char} {cs : List Char} (h : (leak (c :: cs)).1 = []) :
    ∃ cs', c :: cs = '\x7b' :: '\x7b' :: cs' := by
  unfold leak at h
  split at h
  · contradiction
  · rename_i cs' he
    exact ⟨cs', he⟩
  · cases h

/-- A newline joins the leak that follows it, unless what follows is a malformed token. -/
theorem pieces_newline {s : List Char}
    (hs : ∀ cs, s = '\x7b' :: '\x7b' :: cs → (token? s).isSome) :
    pieces ('\n' :: s) =
      match pieces s with
      | .leak t :: ps => .leak ('\n' :: t) :: ps
      | ps => .leak ['\n'] :: ps := by
  have hleak : leak ('\n' :: s) = ('\n' :: (leak s).1, (leak s).2) := by simp [leak]
  have hnone : token? ('\n' :: s) = none := by simp [token?]
  have hfirst : pieces ('\n' :: s) = .leak ('\n' :: (leak s).1) :: pieces (s.drop (leak s).1.length) := by
    simpa [hleak] using pieces_of_token?_none hnone
  rw [hfirst]
  match s, hs with
  | [], _ => simp [leak]
  | c :: cs, hs =>
    cases ht : token? (c :: cs) with
    | some dr =>
      obtain ⟨ds, rest⟩ := dr
      simp [leak_of_token? ht, pieces_of_token? ht]
    | none =>
      have hne : (leak (c :: cs)).1 ≠ [] := by
        intro h
        obtain ⟨cs', he⟩ := leak_eq_nil h
        simpa [ht] using hs cs' he
      simp [pieces_of_token?_none ht, hne]

/-- The text node of a leak. -/
def leakNode (t : List Char) : Node :=
  .text (Text.unescape (String.ofList t))

theorem resolve_leak (r : Registry) (t : List Char) : resolve r (.leak t) = (some (leakNode t), r) := by
  simp [resolve, leakNode, Text.unescape]

end Placeholder

/-! ## What holds of all nodes -/

/-- All nodes that a registry holds are in `Q`. -/
def Registry.All (Q : Node → Prop) (r : Registry) : Prop :=
  ∀ i n, r.get? i = some n → Q n

namespace Registry

variable {Q : Node → Prop} {r : Registry}

theorem all_empty : All Q {} := by
  intro i n h
  simp [get?] at h

theorem all_register (hr : r.All Q) {n : Node} (hn : Q n) : (r.register n).2.All Q := by
  intro i m h
  rw [get?_register] at h
  split at h
  · cases h
    exact hn
  · exact hr i m h

theorem all_take (hr : r.All Q) (i : Nat) : (r.take i).2.All Q := by
  intro j m h
  rw [get?_take] at h
  split at h
  · cases h
  · exact hr j m h

end Registry

namespace Placeholder

variable {Q : Node → Prop}

theorem all_resolve (htext : ∀ s, Q (.text s)) {r : Registry} (hr : r.All Q) (p : Piece) :
    (∀ n, (resolve r p).1 = some n → Q n) ∧ (resolve r p).2.All Q := by
  cases p with
  | token ds =>
    rw [resolve]
    split
    · rename_i i hi
      exact ⟨fun n hn => hr i n (by rwa [Registry.take_fst] at hn), Registry.all_take hr i⟩
    · exact ⟨by simp, hr⟩
  | leak cs => exact ⟨fun n hn => by cases hn; exact htext _, hr⟩

/-- **Whatever a stream is, the nodes it stands for are texts and nodes of the registry.** -/
theorem all_decode (htext : ∀ s, Q (.text s)) {r : Registry} (hr : r.All Q) (stream : String) :
    (∀ n ∈ (decode r stream).1, Q n) ∧ (decode r stream).2.All Q := by
  rw [decode, decodeChars]
  generalize pieces stream.toList = ps
  induction ps generalizing r with
  | nil => exact ⟨by simp [resolveAll], hr⟩
  | cons p ps ih =>
    obtain ⟨hp, hr'⟩ := all_resolve htext hr p
    obtain ⟨hps, hr''⟩ := ih hr'
    refine ⟨fun n hn => ?_, hr''⟩
    rcases List.mem_append.1 hn with hn | hn
    · exact hp n (Option.mem_toList.1 hn)
    · exact hps n hn

end Placeholder

end Node

end Marktree
