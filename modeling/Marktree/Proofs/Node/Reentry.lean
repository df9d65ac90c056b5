import Marktree.Proofs.Node.Cut

/-!
# Readings that do not meet

Reading a stream looks at the slots that its tokens name and empties them; all else of the registry
can be what it likes (`decode_congr`). So two streams can be read in either order, unless both name a
slot that holds a node (`decode_comm_iff`), and nodes can be registered before a reading as well as
after it (`decode_registerAll`).
-/
namespace Marktree.Node

namespace Registry

/-- Two registries with the same slots are the same. -/
theorem eq_of_get? {r r' : Registry} (hsize : r.size = r'.size) (hget : ∀ i, r.get? i = r'.get? i) :
    r = r' := by
  obtain ⟨slots⟩ := r
  obtain ⟨slots'⟩ := r'
  simp only [size] at hsize
  have hslots : slots = slots' := by
    refine Array.ext hsize fun i hi hi' => ?_
    have hi := hget i
    simp only [get?, Array.getElem?_eq_getElem, *] at hi
    simpa using hi
  rw [hslots]

/-- Puts nodes into new slots, one after another. -/
def registerAll (r : Registry) (ns : List Node) : Registry :=
  ns.foldl (fun r n => (r.register n).2) r

@[simp] theorem size_register (r : Registry) (n : Node) : (r.register n).2.size = r.size + 1 := by
  simp [register, size]

theorem size_registerAll (r : Registry) (ns : List Node) : (r.registerAll ns).size = r.size + ns.length := by
  induction ns generalizing r with
  | nil => rfl
  | cons n ns ih =>
    have hrest : ((r.register n).2.registerAll ns).size = _ := ih _
    rw [registerAll, List.foldl_cons, ← registerAll, hrest, size_register, List.length_cons]
    omega

theorem get?_registerAll (r : Registry) (ns : List Node) (i : Nat) :
    (r.registerAll ns).get? i = if i < r.size then r.get? i else ns[i - r.size]? := by
  induction ns generalizing r with
  | nil =>
    rw [registerAll, List.foldl_nil]
    split
    · rfl
    · rw [get?_of_size_le (by omega), List.getElem?_nil]
  | cons n ns ih =>
    have hrest : ((r.register n).2.registerAll ns).get? i = _ := ih _
    rw [registerAll, List.foldl_cons, ← registerAll, hrest, size_register, get?_register]
    by_cases hlt : i < r.size
    · have hne : i ≠ r.size := by omega
      simp [hlt, hne, Nat.lt_succ_of_lt hlt]
    · by_cases heq : i = r.size
      · simp [heq]
      · have hsucc : i - r.size = (i - (r.size + 1)) + 1 := by omega
        have hge : ¬ i < r.size + 1 := by omega
        simp [hlt, hge, hsucc]

end Registry

namespace Placeholder

variable {r r' : Registry} {named : List Nat} {ps : List Piece} {s t : String}

/-! ## One reading -/

theorem nodes_decode (r : Registry) (s : String) : (decode r s).1 = expand r [] (pieces s.toList) :=
  resolveAll_eq_expand [] (fun _ => isNumber_of_mem_pieces) fun i => by simp

@[simp] theorem size_decode (r : Registry) (s : String) : (decode r s).2.size = r.size :=
  (get?_resolveAll (fun _ => isNumber_of_mem_pieces) r).1

/-- What pieces stand for is told by the slots that they name. -/
theorem expand_congr (h : ∀ i ∈ ps.filterMap Piece.slot?, r'.get? i = r.get? i) :
    expand r' named ps = expand r named ps := by
  induction ps generalizing named with
  | nil => rfl
  | cons p ps ih =>
    cases p with
    | token ds =>
      obtain ⟨hfirst, hrest⟩ := List.forall_mem_cons.1 h
      simp only [expand]
      rw [hfirst, ih hrest]
    | leak t =>
      have hrest : expand r' named ps = expand r named ps := ih h
      simp only [expand]
      rw [hrest]

/-- **Reading depends on the slots that the stream names alone.** -/
theorem decode_congr (h : ∀ i ∈ slots s, r'.get? i = r.get? i) : (decode r' s).1 = (decode r s).1 := by
  rw [nodes_decode, nodes_decode]
  exact expand_congr h

/-- A slot that was emptied is missed: the same pieces stand for fewer nodes. -/
theorem length_expand_le (h : ∀ i, r'.get? i = none ∨ r'.get? i = r.get? i) :
    (expand r' named ps).length ≤ (expand r named ps).length := by
  induction ps generalizing named with
  | nil => exact Nat.le_refl _
  | cons p ps ih =>
    cases p with
    | token ds =>
      simp only [expand, List.length_append]
      refine Nat.add_le_add ?_ ih
      split
      · exact Nat.le_refl _
      · rcases h (Nat.ofDigitChars 10 ds 0) with hnone | hsame
        · simp [hnone]
        · rw [hsame]
    | leak t =>
      simp only [expand, List.length_cons]
      exact Nat.succ_le_succ ih

theorem length_expand_lt {i : Nat} {n : Node} (h : ∀ i, r'.get? i = none ∨ r'.get? i = r.get? i)
    (hi : i ∈ ps.filterMap Piece.slot?) (hnamed : i ∉ named) (hr : r.get? i = some n)
    (hr' : r'.get? i = none) : (expand r' named ps).length < (expand r named ps).length := by
  induction ps generalizing named with
  | nil => cases hi
  | cons p ps ih =>
    cases p with
    | token ds =>
      simp only [expand, List.length_append]
      by_cases hfirst : i = Nat.ofDigitChars 10 ds 0
      · -- the slot is named here: it gives a node in one registry and none in the other
        have hrest : (expand r' (i :: named) ps).length ≤ (expand r (i :: named) ps).length :=
          length_expand_le h
        rw [← hfirst, if_neg hnamed, if_neg hnamed, hr, hr']
        simp only [Option.toList_none, Option.toList_some, List.length_nil, List.length_singleton]
        omega
      · have hmem : i ∈ ps.filterMap Piece.slot? := by
          simpa [Piece.slot?, hfirst] using hi
        have hrest : (expand r' (Nat.ofDigitChars 10 ds 0 :: named) ps).length <
            (expand r (Nat.ofDigitChars 10 ds 0 :: named) ps).length := ih hmem (by simp [hfirst, hnamed])
        have hhead : (expand r' named [.token ds]).length ≤ (expand r named [.token ds]).length :=
          length_expand_le h
        simp only [expand, List.append_nil] at hhead
        omega
    | leak t =>
      have hrest := ih hi hnamed
      simp only [expand, List.length_cons]
      omega

/-! ## Two readings -/

/-- In whatever order two streams are read, the slots of both are empty and all others as before. -/
theorem registry_decode_comm (r : Registry) (s t : String) :
    (decode (decode r s).2 t).2 = (decode (decode r t).2 s).2 := by
  refine Registry.eq_of_get? (by simp) fun i => ?_
  rw [get?_decode, get?_decode, get?_decode, get?_decode]
  by_cases hs : i ∈ slots s
  · by_cases ht : i ∈ slots t <;> simp [hs, ht]
  · by_cases ht : i ∈ slots t <;> simp [hs, ht]

/-- A stream reads the same before another one and after it, unless both name a slot with a node in it. -/
theorem nodes_decode_after_iff (r : Registry) (s t : String) :
    (decode (decode r t).2 s).1 = (decode r s).1 ↔ ∀ i ∈ slots s, i ∈ slots t → r.get? i = none := by
  constructor
  · intro h i hs ht
    by_contra hfull
    obtain ⟨n, hn⟩ := Option.ne_none_iff_exists'.1 hfull
    have hkept : ∀ j, (decode r t).2.get? j = none ∨ (decode r t).2.get? j = r.get? j := by
      intro j
      rw [get?_decode]
      by_cases hj : j ∈ slots t <;> simp [hj]
    have hempty : (decode r t).2.get? i = none := by
      rw [get?_decode, if_pos ht]
    have hlt : (expand (decode r t).2 [] (pieces s.toList)).length < (expand r [] (pieces s.toList)).length :=
      length_expand_lt hkept hs (by simp) hn hempty
    rw [← nodes_decode, ← nodes_decode, h] at hlt
    exact Nat.lt_irrefl _ hlt
  · intro h
    refine decode_congr fun i hs => ?_
    rw [get?_decode]
    by_cases ht : i ∈ slots t
    · rw [if_pos ht, h i hs ht]
    · rw [if_neg ht]

/-- **Two readings commute** exactly if no slot with a node in it is named by both streams. -/
theorem decode_comm_iff (r : Registry) (s t : String) :
    ((decode (decode r t).2 s).1 = (decode r s).1 ∧ (decode (decode r s).2 t).1 = (decode r t).1) ↔
      ∀ i ∈ slots s, i ∈ slots t → r.get? i = none := by
  rw [nodes_decode_after_iff, nodes_decode_after_iff]
  exact ⟨fun h => h.1, fun h => ⟨h, fun i ht hs => h i hs ht⟩⟩

/-! ## Readings and new nodes -/

/-- **Nodes that a stream does not name can be registered before it is read or after.** -/
theorem decode_registerAll {ns : List Node}
    (h : ∀ i ∈ slots s, ¬ (r.size ≤ i ∧ i < r.size + ns.length)) :
    decode (r.registerAll ns) s = ((decode r s).1, (decode r s).2.registerAll ns) := by
  have hsame : ∀ i ∈ slots s, (r.registerAll ns).get? i = r.get? i := by
    intro i hi
    have hout := h i hi
    rw [Registry.get?_registerAll]
    by_cases hlt : i < r.size
    · rw [if_pos hlt]
    · rw [if_neg hlt, Registry.get?_of_size_le (by omega), List.getElem?_eq_none (by omega)]
  refine Prod.ext (decode_congr hsame) (Registry.eq_of_get? ?_ fun i => ?_)
  · simp [Registry.size_registerAll]
  · rw [get?_decode, Registry.get?_registerAll, Registry.get?_registerAll, get?_decode, size_decode]
    by_cases hi : i ∈ slots s
    · have hout := h i hi
      by_cases hlt : i < r.size
      · simp [hi, hlt]
      · have hge : ns.length ≤ i - r.size := by omega
        simp [hi, hlt, hge]
    · simp [hi]

/-- **Readings do not depend on one another.** Two streams give the same nodes in either order exactly if
no slot that holds a node is named by both, and leave the same registry in any case. Nodes in slots that a
stream does not name can be registered before it or after. What a stream stands for is told by the slots
that its tokens name, up to a malformed token, and these are emptied; all others stay as they are. -/
theorem decode_reentrant (r : Registry) (s t : String) :
    (((decode (decode r t).2 s).1 = (decode r s).1 ∧ (decode (decode r s).2 t).1 = (decode r t).1) ↔
        ∀ i ∈ slots s, i ∈ slots t → r.get? i = none) ∧
      (decode (decode r s).2 t).2 = (decode (decode r t).2 s).2 ∧
      (∀ ns, (∀ i ∈ slots s, ¬ (r.size ≤ i ∧ i < r.size + ns.length)) →
        decode (r.registerAll ns) s = ((decode r s).1, (decode r s).2.registerAll ns)) ∧
      (∀ r', (∀ i ∈ slots s, r'.get? i = r.get? i) → (decode r' s).1 = (decode r s).1) ∧
      (decode r s).2.size = r.size ∧
      ∀ i, (decode r s).2.get? i = if i ∈ slots s then none else r.get? i := by
  refine ⟨decode_comm_iff r s t, registry_decode_comm r s t, ?_, ?_, size_decode r s, get?_decode r s⟩
  · intro ns h
    exact decode_registerAll h
  · intro r' h
    exact decode_congr h

/-- One stream names a slot twice and the slot of the other one after a malformed token, the other one
names a slot that was never there, and a node is registered that none of them names. -/
theorem decode_reentrant_tail :
    let r : Registry := ⟨#[some (.leaf .rule), some (.leaf .lineBreak)]⟩
    let s := "\x7b\x7b0\x7d\x7da\x7b\x7b0\x7d\x7d\x7b\x7bx\x7d\x7d\x7b\x7b1\x7d\x7d"
    let t := "\x7b\x7b1\x7d\x7d\x7b\x7b7\x7d\x7d"
    slots s = [0, 0] ∧ slots t = [1, 7] ∧
      (decode (decode r t).2 s).1 = (decode r s).1 ∧ (decode (decode r s).2 t).1 = [.leaf .lineBreak] ∧
      (decode (r.registerAll [.text "b"]) s).2 = (decode r s).2.registerAll [.text "b"] ∧
      (decode { slots := #[some (.leaf .rule)] } s).1 = (decode r s).1 ∧
      (decode r s).2.get? 0 = none ∧ (decode r s).2.get? 1 = some (.leaf .lineBreak) := by
  intro r s t
  have hs : slots s = [0, 0] := by decide +kernel
  have ht : slots t = [1, 7] := by decide +kernel
  have hpieces : pieces t.toList = [.token ['1'], .token ['7']] := by decide +kernel
  have hlast : (decode r t).1 = [.leaf .lineBreak] := by
    rw [nodes_decode, hpieces]
    rfl
  obtain ⟨hcomm, -, hregister, hcongr, -, hget⟩ := decode_reentrant r s t
  have hapart : ∀ i ∈ slots s, i ∈ slots t → r.get? i = none := by
    rw [hs, ht]
    decide
  obtain ⟨hfirst, hsecond⟩ := hcomm.2 hapart
  refine ⟨hs, ht, hfirst, hsecond.trans hlast, ?_, hcongr _ ?_, ?_, ?_⟩
  · rw [hregister [.text "b"]]
    rw [hs]
    decide
  · rw [hs]
    intro i hi
    obtain rfl : i = 0 := by simpa using hi
    rfl
  · rw [hget, hs]
    rfl
  · rw [hget, hs]
    rfl

end Placeholder

end Marktree.Node
