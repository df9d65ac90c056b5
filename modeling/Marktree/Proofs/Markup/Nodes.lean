import Marktree.Proofs.Compile.Language
import Marktree.Proofs.Markup.Direct
import Marktree.Proofs.Node.Placeholder

/-!
# What all nodes of a document have

A property that texts have, and that every construct hands on from the nodes in its content to the node
it makes, is one of all nodes that a document is read into (`forall_of_compile`).
-/
namespace Marktree

theorem Construct.Worded.escaped {c : Construct String} (h : c.Worded) (sanitize : Bool) :
    (c.escaped sanitize).Worded := by
  cases c with
  | code body language => exact h
  | html raw => cases sanitize <;> trivial
  | _ => trivial

namespace TreeBuilder

/-- Texts are in `Q`, and the node of a construct is if the nodes in its content are. -/
structure Hereditary (restrict : Bool) (Q : Node → Prop) : Prop where
  text : ∀ s, Q (.text s)
  leaf : ∀ {hooks c l}, c.Worded → (leaf? restrict hooks c).1 = some l → Q (.leaf l)
  branch : ∀ {anchors w k ns}, (branch? restrict anchors w).1 = some k → (∀ n ∈ ns, Q n) →
    Q (.branch k ns)
  table : ∀ {head body}, (∀ n ∈ head, Q n) → (∀ n ∈ body, Q n) → Q (.table head body)

namespace Hereditary

variable {restrict : Bool} {Q : Node → Prop} {b : TreeBuilder}

theorem read (h : Hereditary restrict Q) (hb : b.registry.All Q) (content : String) :
    (∀ n ∈ (b.read content).1, Q n) ∧ (b.read content).2.registry.All Q :=
  Node.Placeholder.all_decode h.text hb content

theorem emit {n : Node} (hn : Q n) (hb : b.registry.All Q) : (b.emit n).2.registry.All Q :=
  Node.Registry.all_register hb hn

theorem markup_leaf (h : Hereditary restrict Q) {c : Construct String} (hleaf : c.isLeaf) (hc : c.Worded)
    (hb : b.registry.All Q) : (markup restrict c b).2.registry.All Q := by
  rw [markup_of_isLeaf hleaf]
  split
  · rename_i l hooks hl
    exact emit (b := { b with hooks }) (h.leaf hc (congrArg Prod.fst hl)) hb
  · exact hb

/-- **Every answer keeps all registered nodes in `Q`.** -/
theorem markup (h : Hereditary restrict Q) {c : Construct String} (hc : c.Worded) (hb : b.registry.All Q) :
    (markup restrict c b).2.registry.All Q := by
  cases c with
  | wrap w content =>
    rw [TreeBuilder.markup]
    split
    · rename_i k anchors hk
      obtain ⟨hns, hread⟩ := h.read (b := { b with anchors }) hb content
      exact emit (h.branch (congrArg Prod.fst hk) hns) hread
    · exact hb
  | table header body =>
    obtain ⟨hhead, hb₁⟩ := h.read hb header
    obtain ⟨hbody, hb₂⟩ := h.read hb₁ body
    exact emit (h.table hhead hbody) hb₂
  | _ => exact h.markup_leaf rfl hc hb

theorem forall_of_compile (h : Hereditary restrict Q) {o : Options} {g : Supply} {events : List Event}
    {stream : String} (hstream : compile (TreeBuilder.markup restrict) o ⟨g, {}⟩ events = (.ok stream, b)) :
    ∀ n ∈ (b.finish stream).1, Q n := by
  have hend : b.registry.All Q :=
    build_state_worded (S := fun b => b.registry.All Q) (fun _ _ hc hb => h.markup (hc.escaped o.sanitize) hb)
      Node.Registry.all_empty hstream
  exact (h.read hend stream).1

end Hereditary

end TreeBuilder

end Marktree
