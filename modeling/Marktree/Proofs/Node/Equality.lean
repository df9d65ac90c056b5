import Mathlib.Data.List.Basic
import Marktree.Node.Placeholder

/-!
# Equal nodes

Nodes are equal exactly if they are the same once their hooks are put aside (`Node.equal_iff`). So which
nodes are equal does not depend on what became of their hooks (`Node.equal_congr`). Hooks may be put aside
before a stream is read or afterwards (`Placeholder.decode_unhooked`).
-/
namespace Marktree

/-- An image with the hook that images have which notify nothing. -/
def Image.unhooked (i : Image) : Image :=
  { i with onLoad := {} }

def Leaf.unhooked : Leaf → Leaf
  | .image i => .image i.unhooked
  | l => l

@[simp] theorem Leaf.unhooked_text (s : String) : (Leaf.text s).unhooked = .text s :=
  rfl

@[simp] theorem Leaf.unhooked_unhooked (l : Leaf) : l.unhooked.unhooked = l.unhooked := by
  cases l <;> rfl

theorem Image.equal_iff (h : Hooks) {i j : Image} : i.equal h j = true ↔ i.unhooked = j.unhooked := by
  simp [Image.equal, LoadHook.equal, Image.unhooked, and_assoc]

theorem Leaf.equal_iff (h : Hooks) {k l : Leaf} : k.equal h l = true ↔ k.unhooked = l.unhooked := by
  cases k with
  | image i =>
    cases l with
    | image j => simp [Leaf.equal, Leaf.unhooked, Image.equal_iff]
    | _ => simp [Leaf.equal, Leaf.unhooked]
  | _ => cases l <;> simp [Leaf.equal, Leaf.unhooked]

namespace Node

mutual

/-- The tree without the hooks of its images. -/
def unhooked : Node → Node
  | leaf l => leaf l.unhooked
  | branch b cs => branch b (unhookedAll cs)
  | table head body => table (unhookedAll head) (unhookedAll body)

def unhookedAll : List Node → List Node
  | [] => []
  | n :: ns => unhooked n :: unhookedAll ns

end

mutual

/-- **Nodes are equal exactly if they are the same without hooks.** -/
theorem equal_iff (h : Hooks) : ∀ {m n : Node}, m.equal h n = true ↔ m.unhooked = n.unhooked
  | leaf k, leaf l => by simp [equal, unhooked, Leaf.equal_iff]
  | branch b cs, branch c ds => by simp [equal, unhooked, equalAll_iff h]
  | table head body, table head' body' => by simp [equal, unhooked, equalAll_iff h]
  | leaf _, branch .. | leaf _, table .. | branch .., leaf _ | branch .., table .. | table .., leaf _
  | table .., branch .. => by simp [equal, unhooked]

theorem equalAll_iff (h : Hooks) : ∀ {ms ns : List Node},
    equalAll h ms ns = true ↔ unhookedAll ms = unhookedAll ns
  | [], [] => by simp [equalAll]
  | m :: ms, n :: ns => by simp [equalAll, unhookedAll, equal_iff h, equalAll_iff h]
  | [], _ :: _ | _ :: _, [] => by simp [equalAll, unhookedAll]

end

/-- What became of hooks does not change which nodes are equal. -/
theorem equal_congr (h h' : Hooks) (m n : Node) : m.equal h n = m.equal h' n := by
  rw [Bool.eq_iff_iff, equal_iff, equal_iff]

/-! ## Without hooks -/

theorem unhookedAll_eq_map (ns : List Node) : unhookedAll ns = ns.map unhooked := by
  induction ns with
  | nil => rfl
  | cons n ns ih => rw [unhookedAll, ih, List.map_cons]

mutual

@[simp] theorem unhooked_unhooked : ∀ n : Node, n.unhooked.unhooked = n.unhooked
  | leaf l => by rw [unhooked, unhooked, Leaf.unhooked_unhooked]
  | branch b cs => by rw [unhooked, unhooked, unhookedAll_unhookedAll cs]
  | table head body => by
    rw [unhooked, unhooked, unhookedAll_unhookedAll head, unhookedAll_unhookedAll body]

theorem unhookedAll_unhookedAll : ∀ ns : List Node, unhookedAll (unhookedAll ns) = unhookedAll ns
  | [] => rfl
  | n :: ns => by rw [unhookedAll, unhookedAll, unhooked_unhooked n, unhookedAll_unhookedAll ns]

end

mutual

theorem walk_unhooked : ∀ n : Node, n.unhooked.walk = n.walk.map unhooked
  | leaf l => rfl
  | branch b cs => by rw [unhooked, walk, walk, walkAll_unhooked cs, List.map_cons, unhooked]
  | table head body => by
    rw [unhooked, walk, walk, walkAll_unhooked head, walkAll_unhooked body, List.map_cons, List.map_append,
      unhooked]

theorem walkAll_unhooked : ∀ ns : List Node, walkAll (unhookedAll ns) = (walkAll ns).map unhooked
  | [] => rfl
  | n :: ns => by rw [unhookedAll, walkAll, walkAll, walk_unhooked n, walkAll_unhooked ns, List.map_append]

end

theorem image?_unhooked (n : Node) : n.unhooked.image? = n.image?.map Image.unhooked := by
  cases n with
  | leaf l => cases l <;> rfl
  | branch b cs => rfl
  | table head body => rfl

theorem images_unhooked (n : Node) : n.unhooked.images = n.images.map Image.unhooked := by
  rw [images, images, walk_unhooked, List.filterMap_map, List.map_filterMap]
  exact List.filterMap_congr fun m _ => image?_unhooked m

namespace Registry

/-- The registry with the nodes in its slots without their hooks. -/
def unhooked (r : Registry) : Registry :=
  ⟨r.slots.map (Option.map Node.unhooked)⟩

@[simp] theorem unhooked_unhooked (r : Registry) : r.unhooked.unhooked = r.unhooked := by
  simp [unhooked, Function.comp_def]

theorem get?_unhooked (r : Registry) (i : Nat) : r.unhooked.get? i = (r.get? i).map Node.unhooked := by
  simp only [get?, unhooked, Array.getElem?_map]
  cases r.slots[i]? <;> rfl

theorem register_unhooked (r : Registry) (n : Node) :
    r.unhooked.register n.unhooked = ((r.register n).1, (r.register n).2.unhooked) := by
  simp [register, unhooked, size]

theorem take_unhooked (r : Registry) (i : Nat) :
    r.unhooked.take i = ((r.take i).1.map Node.unhooked, (r.take i).2.unhooked) := by
  rw [take, take, get?_unhooked]
  cases r.get? i with
  | none => rfl
  | some n => simp [unhooked]

end Registry

namespace Placeholder

theorem resolve_unhooked (r : Registry) (p : Piece) :
    resolve r.unhooked p = ((resolve r p).1.map Node.unhooked, (resolve r p).2.unhooked) := by
  cases p with
  | token ds =>
    rw [resolve, resolve]
    split
    · exact r.take_unhooked _
    · rfl
  | leak cs => rfl

theorem resolveAll_unhooked (r : Registry) (ps : List Piece) :
    resolveAll r.unhooked ps = (unhookedAll (resolveAll r ps).1, (resolveAll r ps).2.unhooked) := by
  induction ps generalizing r with
  | nil => rfl
  | cons p ps ih =>
    simp only [resolveAll, resolve_unhooked, ih, unhookedAll_eq_map, List.map_append, Option.toList_map]

/-- **Reading a stream has no part in hooks.** -/
theorem decode_unhooked (r : Registry) (stream : String) :
    decode r.unhooked stream = (unhookedAll (decode r stream).1, (decode r stream).2.unhooked) :=
  resolveAll_unhooked r _

end Placeholder

end Node

end Marktree
