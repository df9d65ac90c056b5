import Mathlib.Data.List.Perm.Basic
import Mathlib.Data.List.ReduceOption
import Marktree.Proofs.Node.Placeholder

/-!
# Nodes are moved

What is read from a stream and what the registry still holds are together what the registry held
before, and a text node for each leak (`moves_decode`). So no node is lost between a registry and the
contents that it is read into, and none comes twice, whatever the streams are. What came out are the
nodes of the slots that were emptied (`Moves.perm_emptied`).
-/
namespace Marktree.Node

/-! ## Walks -/

theorem walkAll_eq_flatMap (ns : List Node) : walkAll ns = ns.flatMap walk := by
  induction ns with
  | nil => rfl
  | cons n ns ih => rw [walkAll, ih, List.flatMap_cons]

theorem walkAll_append (ns ms : List Node) : walkAll (ns ++ ms) = walkAll ns ++ walkAll ms := by
  simp [walkAll_eq_flatMap]

theorem walkAll_perm {ns ms : List Node} (h : ns.Perm ms) : (walkAll ns).Perm (walkAll ms) := by
  rw [walkAll_eq_flatMap, walkAll_eq_flatMap]
  exact h.flatMap_right walk

/-- A walk goes through the children after the node itself. -/
theorem walk_eq_cons (n : Node) : n.walk = n :: walkAll n.children := by
  cases n with
  | leaf l => rfl
  | branch b cs => rfl
  | table head body => rw [walk, children, walkAll_append]

/-- What holds of all nodes of a tree holds of its root and in each child. -/
theorem forall_mem_walk_iff {Q : Node → Prop} {n : Node} :
    (∀ m ∈ n.walk, Q m) ↔ Q n ∧ ∀ c ∈ n.children, ∀ m ∈ c.walk, Q m := by
  rw [walk_eq_cons, walkAll_eq_flatMap, List.forall_mem_cons]
  refine and_congr_right fun _ => ⟨fun h c hc m hm => h m ?_, fun h m hm => ?_⟩
  · exact List.mem_flatMap.2 ⟨c, hc, hm⟩
  · obtain ⟨c, hc, hm⟩ := List.mem_flatMap.1 hm
    exact h c hc m hm

/-- What nodes and all below them carry, in the order of the walk. -/
def collect {γ : Type} (item? : Node → Option γ) (ns : List Node) : List γ :=
  (walkAll ns).filterMap item?

section

variable {γ : Type} {item? : Node → Option γ}

theorem collect_append (ns ms : List Node) :
    collect item? (ns ++ ms) = collect item? ns ++ collect item? ms := by
  rw [collect, walkAll_append, List.filterMap_append]
  rfl

theorem collect_perm {ns ms : List Node} (h : ns.Perm ms) :
    (collect item? ns).Perm (collect item? ms) :=
  (walkAll_perm h).filterMap item?

theorem collect_singleton (n : Node) :
    collect item? [n] = (item? n).toList ++ collect item? n.children := by
  rw [collect, walkAll, walk_eq_cons, walkAll, List.append_nil, List.filterMap_cons]
  cases item? n <;> rfl

end

/-! ## Registries -/

namespace Registry

/-- The nodes that a registry holds, in the order of their slots. -/
def nodes (r : Registry) : List Node :=
  r.slots.toList.reduceOption

theorem nodes_register (r : Registry) (n : Node) : (r.register n).2.nodes = r.nodes ++ [n] := by
  simp [nodes, register, List.reduceOption_append]

theorem perm_reduceOption_set {α : Type} {l : List (Option α)} {i : Nat} {a : α}
    (h : l[i]? = some (some a)) : (a :: (l.set i none).reduceOption).Perm l.reduceOption := by
  induction l generalizing i with
  | nil => simp at h
  | cons o l ih =>
    cases i with
    | zero =>
      obtain rfl : o = some a := by simpa using h
      simp
    | succ i =>
      have hl := ih (i := i) (by simpa using h)
      cases o with
      | none => simpa using hl
      | some b =>
        simp only [List.set_cons_succ, List.reduceOption_cons_of_some]
        exact (List.Perm.swap b a _).trans (hl.cons b)

theorem perm_take (r : Registry) (i : Nat) :
    ((r.take i).1.toList ++ (r.take i).2.nodes).Perm r.nodes := by
  unfold take
  split
  · rename_i n hn
    have hslot : r.slots.toList[i]? = some (some n) := by
      simpa [get?, Option.join_eq_some_iff] using hn
    simpa [nodes] using perm_reduceOption_set hslot
  · simp

theorem reduceOption_eq_filterMap_range {α : Type} (l : List (Option α)) :
    l.reduceOption = (List.range l.length).filterMap fun i => l[i]?.join := by
  induction l with
  | nil => rfl
  | cons o l ih =>
    rw [List.length_cons, List.range_succ_eq_map, List.filterMap_cons, List.filterMap_map]
    cases o with
    | none => simpa [Function.comp_def] using ih
    | some a => simpa [Function.comp_def] using ih

theorem nodes_eq_filterMap (r : Registry) : r.nodes = (List.range r.size).filterMap r.get? := by
  rw [nodes, reduceOption_eq_filterMap_range, Array.length_toList]
  exact List.filterMap_congr fun i _ => by rw [Array.getElem?_toList, get?]

theorem nodes_eq_nil {r : Registry} (h : ∀ i, r.get? i = none) : r.nodes = [] := by
  rw [nodes_eq_filterMap, List.filterMap_eq_nil_iff]
  exact fun i _ => h i

theorem unconsumed_eq_length (r : Registry) : r.unconsumed = r.nodes.length := by
  rw [unconsumed, nodes, List.reduceOption_length_eq, ← Array.countP_toList, List.countP_eq_length_filter]

/-- The slots that hold a node in one registry and none in another. -/
def emptied (r r' : Registry) : List Nat :=
  (List.range r.size).filter fun i => (r.get? i).isSome && (r'.get? i).isNone

theorem mem_emptied {r r' : Registry} {i : Nat} :
    i ∈ emptied r r' ↔ (∃ n, r.get? i = some n) ∧ r'.get? i = none := by
  rw [emptied, List.mem_filter, List.mem_range]
  constructor
  · intro h
    simpa [Option.isSome_iff_exists] using h.2
  · rintro ⟨⟨n, hn⟩, hnone⟩
    exact ⟨lt_size_of_get? hn, by simp [hn, hnone]⟩

theorem emptied_self (r : Registry) : emptied r r = [] := by
  refine List.eq_nil_iff_forall_not_mem.2 fun i hi => ?_
  obtain ⟨⟨n, hn⟩, hnone⟩ := mem_emptied.1 hi
  rw [hn] at hnone
  cases hnone

/-- A new node is in a slot of its own. -/
theorem emptied_register {r r' : Registry} (h : r'.size = r.size) (n : Node) :
    emptied r (r'.register n).2 = emptied r r' := by
  refine List.filter_congr fun i hi => ?_
  have hne : i ≠ r'.size := by
    have := List.mem_range.1 hi
    omega
  rw [get?_register, if_neg hne]

theorem nodup_emptied (r r' : Registry) : (emptied r r').Nodup :=
  List.nodup_range.filter _

/-- Nodes were moved out of a registry, and those of them that are in no slot any more came out, with
some others. -/
structure Moves (r r' : Registry) (out others : List Node) : Prop where
  size : r'.size = r.size
  get? : ∀ i, r'.get? i = none ∨ r'.get? i = r.get? i
  perm : (out ++ r'.nodes).Perm (others ++ r.nodes)

namespace Moves

variable {r r' r'' : Registry} {out out' others others' : List Node}

theorem refl (r : Registry) : Moves r r [] [] :=
  ⟨rfl, fun _ => .inr rfl, .refl _⟩

theorem trans (h : Moves r r' out others) (h' : Moves r' r'' out' others') :
    Moves r r'' (out ++ out') (others ++ others') where
  size := h'.size.trans h.size
  get? i := by
    rcases h'.get? i with hi | hi
    · exact .inl hi
    · rw [hi]
      exact h.get? i
  perm := by
    rw [List.append_assoc, List.append_assoc]
    calc out ++ (out' ++ r''.nodes)
      List.Perm _ (out ++ (others' ++ r'.nodes)) := h'.perm.append_left _
      List.Perm _ (others' ++ (out ++ r'.nodes)) := List.perm_append_comm_assoc ..
      List.Perm _ (others' ++ (others ++ r.nodes)) := h.perm.append_left _
      List.Perm _ (others ++ (others' ++ r.nodes)) := List.perm_append_comm_assoc ..

theorem get?_eq (h : Moves r r' out others) (i : Nat) :
    r'.get? i = if i ∈ emptied r r' then none else r.get? i := by
  split
  · rename_i hi
    exact (mem_emptied.1 hi).2
  · rename_i hi
    rcases h.get? i with hnone | hsame
    · cases hr : r.get? i with
      | none => exact hnone
      | some n => exact absurd (mem_emptied.2 ⟨⟨n, hr⟩, hnone⟩) hi
    · exact hsame

/-- What came out are the nodes of the emptied slots and the others. -/
theorem perm_emptied (h : Moves r r' out others) :
    out.Perm (others ++ (emptied r r').filterMap r.get?) := by
  have hkept : ((List.range r.size).filter fun i => !((r.get? i).isSome && (r'.get? i).isNone)).filterMap
      r.get? = r'.nodes := by
    rw [nodes_eq_filterMap, h.size, List.filterMap_filter]
    refine List.filterMap_congr fun i _ => ?_
    rcases h.get? i with hi | hi
    · cases hr : r.get? i <;> simp [hi]
    · cases hr : r.get? i <;> simp [hi, hr]
  have hsplit : r.nodes.Perm ((emptied r r').filterMap r.get? ++ r'.nodes) := by
    rw [← hkept, nodes_eq_filterMap, emptied, ← List.filterMap_append]
    exact (List.filter_append_perm _ _).symm.filterMap _
  refine (List.perm_append_right_iff r'.nodes).1 ?_
  rw [List.append_assoc]
  exact h.perm.trans (hsplit.append_left _)

end Moves

theorem moves_take (r : Registry) (i : Nat) : r.Moves (r.take i).2 (r.take i).1.toList [] where
  size := r.size_take i
  get? j := by
    rw [get?_take]
    split
    · exact .inl rfl
    · exact .inr rfl
  perm := r.perm_take i

end Registry

namespace Placeholder

/-- The text node of a leak. -/
def Piece.text? : Piece → Option Node
  | .token _ => none
  | .leak cs => some (leakNode cs)

/-- The text nodes of the leaks of a stream. -/
def leaks (ps : List Piece) : List Node :=
  ps.filterMap Piece.text?

theorem moves_resolve (r : Registry) (p : Piece) :
    r.Moves (resolve r p).2 (resolve r p).1.toList (leaks [p]) := by
  cases p with
  | token ds =>
    rw [resolve]
    split
    · exact r.moves_take _
    · exact .refl r
  | leak cs =>
    rw [resolve_leak]
    exact ⟨rfl, fun _ => .inr rfl, .refl _⟩

/-- **Reading a stream moves nodes and makes none but texts.** -/
theorem moves_resolveAll (r : Registry) (ps : List Piece) :
    r.Moves (resolveAll r ps).2 (resolveAll r ps).1 (leaks ps) := by
  induction ps generalizing r with
  | nil => exact .refl r
  | cons p ps ih =>
    have hleaks : leaks (p :: ps) = leaks [p] ++ leaks ps := List.filterMap_append (l := [p])
    rw [hleaks]
    exact (moves_resolve r p).trans (ih _)

/-- The text nodes that reading a stream makes. -/
def leaksOf (stream : String) : List Node :=
  leaks (pieces stream.toList)

theorem moves_decode (r : Registry) (stream : String) :
    r.Moves (decode r stream).2 (decode r stream).1 (leaksOf stream) :=
  moves_resolveAll r _

/-- The walk through texts of leaks has nothing but them. -/
theorem walkAll_leaks (ps : List Piece) : walkAll (leaks ps) = leaks ps := by
  induction ps with
  | nil => rfl
  | cons p ps ih =>
    cases p with
    | token ds => exact ih
    | leak cs => exact congrArg (_ :: ·) ih

theorem walkAll_leaksOf (streams : List String) :
    walkAll (streams.flatMap leaksOf) = streams.flatMap leaksOf := by
  induction streams with
  | nil => rfl
  | cons x streams ih => rw [List.flatMap_cons, walkAll_append, ih, leaksOf, walkAll_leaks]

/-- Leaks carry nothing that texts do not carry. -/
theorem collect_leaksOf {γ : Type} {item? : Node → Option γ} (htext : ∀ s, item? (.text s) = none)
    (stream : String) : collect item? (leaksOf stream) = [] := by
  rw [collect, leaksOf, walkAll_leaks, List.filterMap_eq_nil_iff]
  intro n hn
  obtain ⟨p, -, hp⟩ := List.mem_filterMap.1 hn
  cases p with
  | token ds => cases hp
  | leak cs =>
    cases hp
    exact htext _

/-- Reading a stream moves what nodes carry out of the slots. -/
theorem collect_decode {γ : Type} {item? : Node → Option γ} (htext : ∀ s, item? (.text s) = none)
    (r : Registry) (stream : String) :
    (collect item? (decode r stream).1 ++ collect item? (decode r stream).2.nodes).Perm
      (collect item? r.nodes) := by
  have h : (collect item? _).Perm (collect item? _) := collect_perm (moves_decode r stream).perm
  rwa [collect_append, collect_append, collect_leaksOf htext, List.nil_append] at h

end Placeholder

end Marktree.Node
