import Mathlib.Data.List.Chain
import Marktree.Proofs.Node.Stream

/-!
# What a stream stands for

A stream is cut in one way only into tokens, leaks between them and a malformed tail
(`Cut.unique`, `exists_cut`), and `pieces` cuts it so (`pieces_of_cut`). What it stands for is told by
its cut and the registry at the start alone: `expand` looks slots up and changes none, and that is
what reading gives (`decode_cut`). A stream of answers names the slots of its tokens and no other
(`slots_of_stream`).
-/
namespace Marktree.Node.Placeholder

/-! ## Cuts -/

/-- What a token begins with. -/
def opening : List Char :=
  ['\x7b', '\x7b']

/-- The text of a piece. -/
def Piece.chars : Piece → List Char
  | .token ds => opening ++ ds ++ ['\x7d', '\x7d']
  | .leak t => t

def Piece.isLeak : Piece → Bool
  | .token _ => false
  | .leak _ => true

/-- One or more decimal digits. -/
def IsNumber (ds : List Char) : Prop :=
  ds ≠ [] ∧ ∀ c ∈ ds, c.isDigit

/-- A text is cut into tokens and leaks, with the rest from a malformed token on as its tail. -/
structure Cut (s : List Char) (ps : List Piece) (tail : Option (List Char)) : Prop where
  whole : s = ps.flatMap Piece.chars ++ tail.getD []
  token : ∀ ds, .token ds ∈ ps → IsNumber ds
  leak : ∀ t, .leak t ∈ ps → t ≠ [] ∧ ¬ opening <:+: t
  /-- No two leaks stand side by side. -/
  apart : ps.IsChain fun p q => p.isLeak → ¬ q.isLeak
  /-- A leak before something else does not end in a brace. -/
  brace : ∀ before t after, ps = before ++ .leak t :: after → t.getLast? = some '\x7b' →
    after = [] ∧ tail = none
  tail : ∀ t, tail = some t →
    opening <+: t ∧ ∀ ds rest, IsNumber ds → t ≠ (Piece.token ds).chars ++ rest

namespace Cut

variable {s : List Char} {p : Piece} {ps : List Piece} {tail : Option (List Char)}

theorem nil : Cut [] [] none :=
  ⟨rfl, by simp, by simp, .nil, by simp, by simp⟩

theorem rest (h : Cut s (p :: ps) tail) : Cut (ps.flatMap Piece.chars ++ tail.getD []) ps tail where
  whole := rfl
  token ds hds := h.token ds (List.mem_cons_of_mem p hds)
  leak t ht := h.leak t (List.mem_cons_of_mem p ht)
  apart := h.apart.tail
  brace before t after he := h.brace (p :: before) t after (by rw [he, List.cons_append])
  tail := h.tail

theorem eq_nil (h : Cut [] ps tail) : ps = [] ∧ tail = none := by
  have hnil := h.whole.symm
  rw [List.append_eq_nil_iff, List.flatMap_eq_nil_iff] at hnil
  obtain ⟨hps, htail⟩ := hnil
  constructor
  · refine List.eq_nil_iff_forall_not_mem.2 fun p hp => ?_
    cases p with
    | token ds => simpa [Piece.chars, opening] using hps _ hp
    | leak t => exact (h.leak t hp).1 (hps _ hp)
  · cases tail with
    | none => rfl
    | some t =>
      obtain rfl : t = [] := htail
      simpa [opening] using (h.tail [] rfl).1

/-- A text that begins with a leak does not begin as a token does. -/
theorem not_opening {t : List Char} (h : Cut s (.leak t :: ps) tail) : ¬ opening <+: s := by
  intro hs
  obtain ⟨hne, hno⟩ := h.leak t (List.mem_cons_self ..)
  have hwhole : s = t ++ (ps.flatMap Piece.chars ++ tail.getD []) := by
    simpa [Piece.chars] using h.whole
  rw [hwhole] at hs
  match t, hne with
  | [c], _ =>
    obtain ⟨rfl, hnext⟩ := List.cons_prefix_cons.1 hs
    obtain ⟨rfl, rfl⟩ := h.brace [] _ ps rfl rfl
    simp at hnext
  | c :: d :: t, _ =>
    obtain ⟨rfl, hnext⟩ := List.cons_prefix_cons.1 hs
    obtain ⟨rfl, -⟩ := List.cons_prefix_cons.1 hnext
    exact hno ⟨[], t, rfl⟩

/-- After a leak the text ends or begins as a token does, and the leak does not reach into it. -/
theorem follows {t : List Char} (h : Cut s (.leak t :: ps) tail) :
    ps.flatMap Piece.chars ++ tail.getD [] = [] ∨
      opening <+: ps.flatMap Piece.chars ++ tail.getD [] ∧ t.getLast? ≠ some '\x7b' := by
  match ps, tail with
  | [], none => exact .inl rfl
  | [], some u =>
    refine .inr ⟨(h.tail u rfl).1, fun hlast => ?_⟩
    have hnone := (h.brace [] t [] rfl hlast).2
    cases hnone
  | .token ds :: ps, tail =>
    have hopen : opening <+: (Piece.token ds :: ps).flatMap Piece.chars ++ tail.getD [] := by
      simp only [List.flatMap_cons, Piece.chars, List.append_assoc]
      exact List.prefix_append ..
    refine .inr ⟨hopen, fun hlast => ?_⟩
    have hnil := (h.brace [] t _ rfl hlast).1
    cases hnil
  | .leak u :: ps, tail =>
    have hapart := (List.isChain_cons_cons.1 h.apart).1
    exact absurd rfl (hapart rfl)

theorem cons_token (ds : List Char) (hds : IsNumber ds) (h : Cut s ps tail) :
    Cut ((Piece.token ds).chars ++ s) (.token ds :: ps) tail where
  whole := by rw [List.flatMap_cons, List.append_assoc, ← h.whole]
  token ds' hmem := by
    rcases List.mem_cons.1 hmem with he | hmem
    · cases he
      exact hds
    · exact h.token ds' hmem
  leak t hmem := h.leak t (by simpa using hmem)
  apart := h.apart.cons fun _ _ hleak => by cases hleak
  brace before t after he hlast := by
    cases before with
    | nil => cases he
    | cons q before =>
      cases he
      exact h.brace before t after rfl hlast
  tail := h.tail

theorem cons_leak {t : List Char} (ht : t ≠ [] ∧ ¬ opening <:+: t) (h : Cut s ps tail)
    (hs : s = [] ∨ opening <+: s ∧ t.getLast? ≠ some '\x7b') : Cut (t ++ s) (.leak t :: ps) tail where
  whole := by rw [List.flatMap_cons, List.append_assoc, ← h.whole, Piece.chars]
  token ds hmem := h.token ds (by simpa using hmem)
  leak u hmem := by
    rcases List.mem_cons.1 hmem with he | hmem
    · cases he
      exact ht
    · exact h.leak u hmem
  apart := by
    refine h.apart.cons fun q hq _ hleak => ?_
    obtain ⟨ps, rfl⟩ := List.head?_eq_some_iff.1 hq
    cases q with
    | token ds => cases hleak
    | leak u =>
      rcases hs with rfl | ⟨hopen, -⟩
      · have hnil := h.eq_nil.1
        cases hnil
      · exact h.not_opening hopen
  brace before u after he hlast := by
    cases before with
    | nil =>
      cases he
      rcases hs with rfl | ⟨-, hbrace⟩
      · exact h.eq_nil
      · exact absurd hlast hbrace
    | cons q before =>
      cases he
      exact h.brace before u after rfl hlast
  tail := h.tail

/-- A malformed token and all after it. -/
theorem of_tail (hopen : opening <+: s) (hs : token? s = none) : Cut s [] (some s) where
  whole := rfl
  token := by simp
  leak := by simp
  apart := .nil
  brace := by simp
  tail t ht := by
    cases ht
    refine ⟨hopen, fun ds rest hds he => ?_⟩
    have htoken : token? s = some (ds, rest) := by
      simpa [he, Piece.chars, opening] using token?_digits hds.1 hds.2 rest
    rw [hs] at htoken
    cases htoken

end Cut

/-! ## Every text has one cut -/

/-- A leak ends where a token could begin. -/
theorem leak_append {t u : List Char} (ht : ¬ opening <:+: t)
    (hu : u = [] ∨ opening <+: u ∧ t.getLast? ≠ some '\x7b') : leak (t ++ u) = (t, u) := by
  induction t with
  | nil =>
    rcases hu with rfl | ⟨⟨v, rfl⟩, -⟩
    · rfl
    · rfl
  | cons c t ih =>
    have hcut : ∀ cs, c = '\x7b' → t ++ u = '\x7b' :: cs → False := by
      rintro cs rfl he
      cases t with
      | nil =>
        rcases hu with rfl | ⟨-, hlast⟩
        · cases he
        · exact hlast rfl
      | cons d t =>
        obtain ⟨rfl, -⟩ := List.cons.inj he
        exact ht ⟨[], t, rfl⟩
    have htail : leak (t ++ u) = (t, u) := by
      refine ih (fun hin => ht (List.infix_cons hin)) (hu.imp_right fun ⟨hopen, hlast⟩ => ⟨hopen, ?_⟩)
      cases t with
      | nil => simp
      | cons d t => simpa [List.getLast?_cons_cons] using hlast
    rw [List.cons_append, leak]
    · rw [htail]
    · exact hcut

/-- What a leak is, and what follows it. -/
theorem leak_spec (s : List Char) :
    (leak s).1 ++ (leak s).2 = s ∧ (¬ opening <:+: (leak s).1) ∧
      ((leak s).2 = [] ∨ opening <+: (leak s).2 ∧ (leak s).1.getLast? ≠ some '\x7b') := by
  fun_induction leak s with
  | case1 => simp [opening]
  | case2 cs => exact ⟨rfl, by simp [opening], .inr ⟨⟨cs, rfl⟩, by simp⟩⟩
  | case3 c cs hcut ih =>
    obtain ⟨hwhole, hno, hfollows⟩ := ih
    refine ⟨by rw [List.cons_append, hwhole], fun hin => ?_, hfollows.imp_right ?_⟩
    · rcases List.infix_cons_iff.1 hin with hin | hin
      · obtain ⟨rfl, v, hv⟩ := List.cons_prefix_cons.1 hin
        rw [← hv] at hwhole
        exact hcut _ rfl hwhole.symm
      · exact hno hin
    · rintro ⟨⟨v, hv⟩, hlast⟩
      refine ⟨⟨v, hv⟩, fun he => ?_⟩
      cases ht : (leak cs).1 with
      | nil =>
        rw [ht] at he hwhole
        cases he
        rw [← hv] at hwhole
        exact hcut _ rfl hwhole.symm
      | cons d t =>
        rw [ht, List.getLast?_cons_cons, ← ht] at he
        exact hlast he

/-- The pieces of a text are those of its cut, the tail as a leak. -/
theorem pieces_of_cut {s : List Char} {ps : List Piece} {tail : Option (List Char)} (h : Cut s ps tail) :
    pieces s = ps ++ (tail.map Piece.leak).toList := by
  induction ps generalizing s with
  | nil =>
    obtain rfl : s = tail.getD [] := h.whole
    cases tail with
    | none => exact pieces_nil
    | some t =>
      obtain ⟨⟨v, rfl⟩, hno⟩ := h.tail t rfl
      have hnone : token? (opening ++ v) = none := by
        refine Option.eq_none_iff_forall_ne_some.2 fun ⟨ds, rest⟩ hsome => ?_
        obtain ⟨hne, hd, he⟩ := eq_of_token? hsome
        refine hno ds rest ⟨hne, hd⟩ ?_
        simpa [Piece.chars, opening] using he
      exact pieces_of_token?_none hnone
  | cons p ps ih =>
    have hrest := ih h.rest
    have hwhole := h.whole
    rw [List.flatMap_cons, List.append_assoc] at hwhole
    generalize hu : ps.flatMap Piece.chars ++ tail.getD [] = u at hrest hwhole
    subst hwhole
    cases p with
    | token ds =>
      obtain ⟨hne, hd⟩ := h.token ds (List.mem_cons_self ..)
      have htoken : token? ((Piece.token ds).chars ++ u) = some (ds, u) := by
        simpa [Piece.chars, opening] using token?_digits hne hd u
      rw [pieces_of_token? htoken, hrest, List.cons_append]
    | leak t =>
      obtain ⟨hne, hno⟩ := h.leak t (List.mem_cons_self ..)
      have hfollows := h.follows
      rw [hu] at hfollows
      have hleak := leak_append hno hfollows
      have hnone : token? (t ++ u) = none := by
        refine Option.eq_none_iff_forall_ne_some.2 fun ⟨ds, rest⟩ hsome => ?_
        refine h.not_opening ⟨ds ++ '\x7d' :: '\x7d' :: rest, ?_⟩
        exact (eq_of_token? hsome).2.2.symm
      obtain ⟨c, cs, rfl⟩ := List.exists_cons_of_ne_nil hne
      rw [Piece.chars, List.cons_append] at *
      rw [pieces_of_token?_none hnone, hleak, if_neg hne, ← List.cons_append, List.drop_left, hrest]
      rfl

/-- A text has no other cut. -/
theorem Cut.unique {s : List Char} {ps qs : List Piece} {tail tail' : Option (List Char)}
    (h : Cut s ps tail) (h' : Cut s qs tail') : ps = qs ∧ tail = tail' := by
  have he := (pieces_of_cut h).symm.trans (pieces_of_cut h')
  -- a tail begins as a token does, and no leak does
  have apart : ∀ {rs : List Piece} {o : Option (List Char)} {t : List Char}, Cut s rs o →
      opening <+: t → rs = ps ++ [.leak t] ∨ rs = qs ++ [.leak t] → False := by
    intro rs o t hrs hopen hlast
    have hmem : Piece.leak t ∈ rs := by
      rcases hlast with rfl | rfl <;> simp
    exact (hrs.leak t hmem).2 hopen.isInfix
  match tail, tail' with
  | none, none => exact ⟨by simpa using he, rfl⟩
  | some t, none => exact (apart h' (h.tail t rfl).1 (.inl (by simpa using he.symm))).elim
  | none, some t => exact (apart h (h'.tail t rfl).1 (.inr (by simpa using he))).elim
  | some t, some t' =>
    obtain ⟨rfl, hlast⟩ := List.append_inj' he rfl
    cases hlast
    exact ⟨rfl, rfl⟩

/-- Every text has a cut. -/
theorem exists_cut (s : List Char) : ∃ ps tail, Cut s ps tail := by
  induction hn : s.length using Nat.strongRecOn generalizing s with
  | ind n ih =>
    subst hn
    cases htoken : token? s with
    | some x =>
      obtain ⟨ds, rest⟩ := x
      obtain ⟨ps, tail, h⟩ := ih rest.length (length_of_token? htoken) rest rfl
      obtain ⟨hne, hd, rfl⟩ := eq_of_token? htoken
      refine ⟨.token ds :: ps, tail, ?_⟩
      simpa [Piece.chars, opening] using h.cons_token ds ⟨hne, hd⟩
    | none =>
      obtain ⟨hwhole, hno, hfollows⟩ := leak_spec s
      by_cases hne : (leak s).1 = []
      · rw [hne, List.nil_append] at hwhole
        rw [hwhole] at hfollows
        rcases hfollows with rfl | ⟨hopen, -⟩
        · exact ⟨[], none, .nil⟩
        · exact ⟨[], some s, .of_tail hopen htoken⟩
      · have hlt : (leak s).2.length < s.length := by
          have hlength := length_leak s
          have hpos := List.length_pos_iff.2 hne
          omega
        obtain ⟨ps, tail, h⟩ := ih _ hlt (leak s).2 rfl
        refine ⟨.leak (leak s).1 :: ps, tail, ?_⟩
        have hcut := h.cons_leak ⟨hne, hno⟩ hfollows
        rwa [hwhole] at hcut

/-! ## What a cut stands for -/

/-- The slot that a token names; zeros in front do not count. -/
def Piece.slot? : Piece → Option Nat
  | .token ds => some (Nat.ofDigitChars 10 ds 0)
  | .leak _ => none

/-- The nodes that pieces stand for in a registry, after tokens for the slots `named`. A token stands
for the node of its slot the first time that the slot is named, and for nothing if there is none. -/
def expand (r : Registry) (named : List Nat) : List Piece → List Node
  | [] => []
  | .token ds :: ps =>
    let i := Nat.ofDigitChars 10 ds 0
    (if i ∈ named then [] else (r.get? i).toList) ++ expand r (i :: named) ps
  | .leak t :: ps => leakNode t :: expand r named ps

theorem resolve_number (r : Registry) {ds : List Char} (hds : IsNumber ds) :
    resolve r (.token ds) = r.take (Nat.ofDigitChars 10 ds 0) := by
  rw [resolve, Text.number?_ten hds.1 hds.2]

theorem resolveAll_cons (r : Registry) (p : Piece) (ps : List Piece) :
    resolveAll r (p :: ps) =
      ((resolve r p).1.toList ++ (resolveAll (resolve r p).2 ps).1, (resolveAll (resolve r p).2 ps).2) :=
  rfl

/-- Taken slots are empty afterwards, and no other slot is touched. -/
theorem get?_resolveAll {ps : List Piece} (hps : ∀ ds, .token ds ∈ ps → IsNumber ds) (r : Registry) :
    (resolveAll r ps).2.size = r.size ∧
      ∀ i, (resolveAll r ps).2.get? i = if i ∈ ps.filterMap Piece.slot? then none else r.get? i := by
  induction ps generalizing r with
  | nil => exact ⟨rfl, fun i => rfl⟩
  | cons p ps ih =>
    obtain ⟨hsize, hget⟩ := ih (fun ds hds => hps ds (List.mem_cons_of_mem p hds)) (resolve r p).2
    rw [resolveAll_cons]
    cases p with
    | token ds =>
      rw [resolve_number r (hps ds (List.mem_cons_self ..))] at hsize hget ⊢
      refine ⟨hsize.trans (Registry.size_take _), fun i => ?_⟩
      have hslots : (Piece.token ds :: ps).filterMap Piece.slot? =
          Nat.ofDigitChars 10 ds 0 :: ps.filterMap Piece.slot? := rfl
      rw [hget, Registry.get?_take, hslots]
      by_cases hi : i = Nat.ofDigitChars 10 ds 0 <;> simp [hi]
    | leak t =>
      rw [resolve_leak] at hsize hget ⊢
      exact ⟨hsize, hget⟩

theorem isNumber_of_mem_pieces {s ds : List Char} (h : .token ds ∈ pieces s) : IsNumber ds := by
  obtain ⟨ps, tail, hcut⟩ := exists_cut s
  rw [pieces_of_cut hcut] at h
  refine hcut.token ds ?_
  cases tail <;> simpa using h

/-- The slots that the tokens of a stream name. -/
def slots (stream : String) : List Nat :=
  (pieces stream.toList).filterMap Piece.slot?

theorem get?_decode (r : Registry) (stream : String) (i : Nat) :
    (decode r stream).2.get? i = if i ∈ slots stream then none else r.get? i :=
  (get?_resolveAll (fun _ => isNumber_of_mem_pieces) r).2 i

/-- Where the slots named before are empty and all others as they were, reading pieces gives what they
stand for. -/
theorem resolveAll_eq_expand (named : List Nat) {r₀ r : Registry} {ps : List Piece}
    (hps : ∀ ds, .token ds ∈ ps → IsNumber ds)
    (hr : ∀ i, r.get? i = if i ∈ named then none else r₀.get? i) :
    (resolveAll r ps).1 = expand r₀ named ps := by
  induction ps generalizing r named with
  | nil => rfl
  | cons p ps ih =>
    have hrest : ∀ ds, .token ds ∈ ps → IsNumber ds := fun ds hds => hps ds (List.mem_cons_of_mem p hds)
    rw [resolveAll_cons]
    cases p with
    | token ds =>
      have htaken : ∀ i, (r.take (Nat.ofDigitChars 10 ds 0)).2.get? i =
          if i ∈ Nat.ofDigitChars 10 ds 0 :: named then none else r₀.get? i := by
        intro i
        rw [Registry.get?_take, hr]
        by_cases hi : i = Nat.ofDigitChars 10 ds 0 <;> simp [hi]
      rw [resolve_number r (hps ds (List.mem_cons_self ..)), Registry.take_fst, hr, expand, ih _ hrest htaken]
      by_cases hi : Nat.ofDigitChars 10 ds 0 ∈ named <;> simp [hi]
    | leak t =>
      rw [resolve_leak, expand, ih _ hrest hr]
      rfl

theorem expand_append_leak (r : Registry) (named : List Nat) (ps : List Piece) (t : List Char) :
    expand r named (ps ++ [.leak t]) = expand r named ps ++ [leakNode t] := by
  induction ps generalizing named with
  | nil => rfl
  | cons p ps ih =>
    cases p with
    | token ds => simp [expand, ih]
    | leak u => simp [expand, ih]

/-! ## Streams of tokens -/

/-- A text made of tokens and newlines. -/
def Spelled (x : String) : Prop :=
  ∃ ms, x.toList = Mark.stream ms

theorem slot?_toDigits (i : Nat) : Piece.slot? (.token (Nat.toDigits 10 i)) = some i :=
  congrArg some Nat.ofDigitChars_ten_toDigits

theorem slots_of_stream {x : String} {ms : List Mark} (h : x.toList = Mark.stream ms) :
    slots x = Mark.slots ms := by
  rw [slots, h, Mark.pieces_stream]
  clear h
  induction ms with
  | nil => rfl
  | cons m ms ih =>
    cases m with
    | token i =>
      rw [Mark.pieces, List.filterMap_cons_some (slot?_toDigits i), ih]
      rfl
    | newline =>
      change _ = Mark.slots ms
      rw [← ih, Mark.pieces]
      split
      · rename_i t ps hps
        rw [hps]
        rfl
      · rfl

theorem slots_empty : slots "" = [] := by
  have hempty : ("" : String).toList = Mark.stream [] := rfl
  exact slots_of_stream hempty

theorem spelled_append {x y : String} (hx : Spelled x) (hy : Spelled y) : Spelled (x ++ y) := by
  obtain ⟨ms, hx⟩ := hx
  obtain ⟨ms', hy⟩ := hy
  exact ⟨ms ++ ms', by simp [hx, hy, Mark.stream]⟩

theorem slots_append {x y : String} (hx : Spelled x) (hy : Spelled y) :
    slots (x ++ y) = slots x ++ slots y := by
  obtain ⟨ms, hx⟩ := hx
  obtain ⟨ms', hy⟩ := hy
  have hboth : (x ++ y).toList = Mark.stream (ms ++ ms') := by simp [hx, hy, Mark.stream]
  rw [slots_of_stream hx, slots_of_stream hy, slots_of_stream hboth, Mark.slots, List.filterMap_append]
  rfl

theorem slots_encode (i : Nat) : slots (encode i) = [i] :=
  slots_of_stream (Mark.stream_encode i)

/-- The tokens of different full slots stand for the nodes in them. -/
theorem decode_join_encode {r : Registry} {is : List Nat} {ns : List Node} (hnd : is.Nodup)
    (h : List.Forall₂ (fun i n => r.get? i = some n) is ns) :
    (decode r (String.join (is.map encode))).1 = ns := by
  have hreads : List.Forall₂ (Mark.Reads r) (is.map Mark.token) (ns.map Part.node) := by
    rw [List.forall₂_map_left_iff, List.forall₂_map_right_iff]
    exact h
  have hslots : Mark.slots (is.map Mark.token) = is := by
    rw [Mark.slots, List.filterMap_map]
    exact List.filterMap_some
  have hstream : (String.join (is.map encode)).toList = Mark.stream (is.map Mark.token) := by
    simp [Mark.stream, Mark.chars, encode, List.flatMap_map]
  have hnodes : Part.nodes (ns.map Part.node) = ns := by
    clear h hreads
    induction ns with
    | nil => rfl
    | cons n ns ih => exact congrArg (n :: ·) ih
  obtain ⟨r', hdecode, -⟩ := Mark.decode_stream hreads (hslots.symm ▸ hnd) hstream
  rw [hdecode, hnodes]

/-- **What reading a stream gives.** The stream has one cut. Its tokens stand for the nodes of the
slots that they name, if the slot is full and was not named before, each of its leaks for a text, and
its tail for one text, whatever looks like a token in it. The slots that were named are empty
afterwards, and all others as before. So the tokens of different full slots stand for the nodes in
these slots. -/
theorem decode_cut (r : Registry) (stream : String) :
    (∃ ps tail, Cut stream.toList ps tail ∧
      (∀ qs tail', Cut stream.toList qs tail' → qs = ps ∧ tail' = tail) ∧
      (decode r stream).1 = expand r [] ps ++ (tail.map leakNode).toList ∧
      (decode r stream).2.size = r.size ∧
      ∀ i, (decode r stream).2.get? i = if i ∈ ps.filterMap Piece.slot? then none else r.get? i) ∧
    ∀ is ns, is.Nodup → List.Forall₂ (fun i n => r.get? i = some n) is ns →
      (decode r (String.join (is.map encode))).1 = ns := by
  refine ⟨?_, fun is ns hnd h => decode_join_encode hnd h⟩
  obtain ⟨ps, tail, hcut⟩ := exists_cut stream.toList
  have htoken : ∀ ds, .token ds ∈ ps ++ (tail.map Piece.leak).toList → IsNumber ds := by
    rw [← pieces_of_cut hcut]
    exact fun _ => isNumber_of_mem_pieces
  have hslots : (ps ++ (tail.map Piece.leak).toList).filterMap Piece.slot? = ps.filterMap Piece.slot? := by
    cases tail <;> simp [Piece.slot?]
  have hexpand : expand r [] (ps ++ (tail.map Piece.leak).toList) =
      expand r [] ps ++ (tail.map leakNode).toList := by
    cases tail with
    | none => simp
    | some t => exact expand_append_leak r [] ps t
  obtain ⟨hsize, hget⟩ := get?_resolveAll htoken r
  rw [hslots] at hget
  refine ⟨ps, tail, hcut, fun qs tail' h => h.unique hcut, ?_⟩
  rw [decode, decodeChars, pieces_of_cut hcut]
  refine ⟨?_, hsize, hget⟩
  rw [resolveAll_eq_expand [] htoken fun i => ?_, hexpand]
  simp

/-- A zero in front, a slot that is named again, one that was never there, and a brace too many. -/
theorem decode_cut_braces :
    let r : Registry := ⟨#[some (.leaf .rule), some (.leaf .lineBreak)]⟩
    let stream := "\x7b\x7b01\x7d\x7da &amp; b\x7b\x7b1\x7d\x7d\x7b\x7b99\x7d\x7dc\x7b\x7b\x7b0\x7d\x7d"
    (decode r stream).1 =
        [.leaf .lineBreak, .text "a & b", .text "c", .text "\x7b\x7b\x7b0\x7d\x7d"] ∧
      (decode r stream).2.get? 0 = some (.leaf .rule) ∧ (decode r stream).2.get? 1 = none ∧
      (decode r (String.join ([1, 0].map encode))).1 = [.leaf .lineBreak, .leaf .rule] := by
  intro r stream
  obtain ⟨⟨ps, tail, -, hunique, hnodes, -, hget⟩, hjoin⟩ := decode_cut r stream
  have htail : Cut "\x7b\x7b\x7b0\x7d\x7d".toList [] (some "\x7b\x7b\x7b0\x7d\x7d".toList) :=
    .of_tail (by decide +kernel) (by decide +kernel)
  have hc := htail.cons_leak (t := ['c']) (by decide +kernel) (.inr (by decide +kernel))
  have hunknown := hc.cons_token ['9', '9'] (by simp [IsNumber])
  have hagain := hunknown.cons_token ['1'] (by simp [IsNumber])
  have hb := hagain.cons_leak (t := "a &amp; b".toList) (by decide +kernel) (.inr (by decide +kernel))
  have hcut := hb.cons_token ['0', '1'] (by simp [IsNumber])
  have hstream : (Piece.token ['0', '1']).chars ++ ("a &amp; b".toList ++ ((Piece.token ['1']).chars ++
      ((Piece.token ['9', '9']).chars ++ (['c'] ++ "\x7b\x7b\x7b0\x7d\x7d".toList)))) = stream.toList := by
    decide +kernel
  rw [hstream] at hcut
  obtain ⟨rfl, rfl⟩ := hunique _ _ hcut
  have hleak : Text.unescape "a &amp; b" = "a & b" := by decide +kernel
  have hlast : Text.unescape "c" = "c" := by decide +kernel
  have htext : Text.unescape "\x7b\x7b\x7b0\x7d\x7d" = "\x7b\x7b\x7b0\x7d\x7d" := by decide +kernel
  have hr₀ : r.get? 0 = some (.leaf .rule) := rfl
  have hr₁ : r.get? 1 = some (.leaf .lineBreak) := rfl
  have hr₉₉ : r.get? 99 = none := rfl
  refine ⟨?_, ?_, ?_, hjoin _ _ (by decide) (.cons hr₁ (.cons hr₀ .nil))⟩
  · rw [hnodes]
    simp [expand, leakNode, hleak, hlast, htext, hr₁, hr₉₉, Nat.ofDigitChars]
  · rw [hget]
    simp [Piece.slot?, hr₀, Nat.ofDigitChars]
  · rw [hget]
    simp [Piece.slot?, Nat.ofDigitChars]

end Marktree.Node.Placeholder
