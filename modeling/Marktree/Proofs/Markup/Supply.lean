import Mathlib.Data.List.Perm.Subperm
import Marktree.Proofs.Compile.Run
import Marktree.Proofs.Markup.Direct
import Marktree.Proofs.Node.Conservation

/-!
# What is given out to nodes

Headings take anchors and images take hooks, and each takes a new one. Nodes are moved between slots and
contents, and none comes twice. So whatever is given out in this way, the nodes of a document carry at
most what was given out, each thing once (`Issues.subperm_of_compile`).
-/
namespace Marktree.TreeBuilder

open Node (collect)

variable {γ : Type} {item? : Node → Option γ} {Good : Supply → Prop} {issued : Supply → List γ}
  {restrict : Bool}

/-- Each node that carries an item takes one that is given out for it; `issued` are those given out so
far. -/
structure Issues (restrict : Bool) (item? : Node → Option γ) (Good : Supply → Prop)
    (issued : Supply → List γ) : Prop where
  text : ∀ s, item? (.text s) = none
  table : ∀ head body, item? (.table head body) = none
  branch : ∀ {s w k? anchors}, Good s → branch? restrict s.anchors w = (k?, anchors) →
    Good { s with anchors } ∧
      ∀ ns, (issued { s with anchors }).Perm ((k?.bind fun k => item? (.branch k ns)).toList ++ issued s)
  leaf : ∀ {s c l? hooks}, Good s → leaf? restrict s.hooks c = (l?, hooks) →
    Good { s with hooks } ∧
      (issued { s with hooks }).Perm ((l?.bind fun l => item? (.leaf l)).toList ++ issued s)

/-- What the nodes in the slots carry was given out, each item at least as often as it is carried. -/
structure Accounts (item? : Node → Option γ) (Good : Supply → Prop) (issued : Supply → List γ)
    (b : TreeBuilder) : Prop where
  good : Good b.toSupply
  subperm : List.Subperm (collect item? b.registry.nodes) (issued b.toSupply)

namespace Issues

variable {b : TreeBuilder}

theorem accounts_emit {n : Node} (hgood : Good b.toSupply)
    (hn : List.Subperm (((item? n).toList ++ collect item? n.children) ++ collect item? b.registry.nodes)
      (issued b.toSupply)) : (b.emit n).2.Accounts item? Good issued := by
  refine ⟨hgood, ?_⟩
  change List.Subperm (collect item? (b.registry.register n).2.nodes) _
  rw [Node.Registry.nodes_register, Node.collect_append, Node.collect_singleton]
  exact List.perm_append_comm.subperm.trans hn

variable (h : Issues restrict item? Good issued)

include h

theorem accounts_leaf (hb : b.Accounts item? Good issued) {c : Construct String} (hc : c.isLeaf) :
    (markup restrict c b).2.Accounts item? Good issued := by
  rw [markup_of_isLeaf hc]
  split
  · rename_i l hooks hl
    obtain ⟨hgood, hperm⟩ := h.leaf hb.good hl
    refine accounts_emit (b := { b with hooks }) hgood (List.Subperm.trans ?_ hperm.symm.subperm)
    rw [Node.children, collect, Node.walkAll, List.filterMap_nil, List.append_nil]
    exact (List.Subperm.refl _).append hb.subperm
  · rename_i hooks hl
    obtain ⟨hgood, hperm⟩ := h.leaf hb.good hl
    exact ⟨hgood, hb.subperm.trans hperm.symm.subperm⟩

theorem accounts_wrap (hb : b.Accounts item? Good issued) (w : Wrapper) (content : String) :
    (markup restrict (.wrap w content) b).2.Accounts item? Good issued := by
  rw [markup]
  split
  · rename_i k anchors hk
    obtain ⟨hgood, hperm⟩ := h.branch hb.good hk
    let read := ({ b with anchors } : TreeBuilder).read content
    have hread : (collect item? read.1 ++ collect item? read.2.registry.nodes).Perm
        (collect item? b.registry.nodes) := Node.Placeholder.collect_decode h.text _ _
    refine accounts_emit (b := read.2) hgood (List.Subperm.trans ?_ (hperm read.1).symm.subperm)
    rw [List.append_assoc]
    exact (List.Subperm.refl _).append (hread.subperm.trans hb.subperm)
  · rename_i anchors hk
    obtain ⟨hgood, hperm⟩ := h.branch hb.good hk
    exact ⟨hgood, hb.subperm.trans (hperm []).symm.subperm⟩

theorem accounts_table (hb : b.Accounts item? Good issued) (header body : String) :
    (markup restrict (.table header body) b).2.Accounts item? Good issued := by
  let first := b.read header
  let second := first.2.read body
  have hfirst : (collect item? first.1 ++ collect item? first.2.registry.nodes).Perm
      (collect item? b.registry.nodes) := Node.Placeholder.collect_decode h.text _ _
  have hsecond : (collect item? second.1 ++ collect item? second.2.registry.nodes).Perm
      (collect item? first.2.registry.nodes) := Node.Placeholder.collect_decode h.text _ _
  refine accounts_emit (n := .table first.1 second.1) (b := second.2) hb.good ?_
  rw [h.table, Node.children, Node.collect_append, Option.toList_none, List.nil_append, List.append_assoc]
  exact ((hsecond.append_left _).trans hfirst).subperm.trans hb.subperm

/-- **Every answer keeps the accounts.** -/
theorem accounts_markup (hb : b.Accounts item? Good issued) (c : Construct String) :
    (markup restrict c b).2.Accounts item? Good issued := by
  cases c with
  | wrap w content => exact h.accounts_wrap hb w content
  | table header body => exact h.accounts_table hb header body
  | _ => exact h.accounts_leaf hb rfl

variable {s : Supply} {o : Options} {events : List Event} {stream : String}

theorem accounts_compile (hs : Good s) (events : List Event) :
    (compile (markup restrict) o ⟨s, {}⟩ events).2.Accounts item? Good issued := by
  have hstart : Accounts item? Good issued ⟨s, {}⟩ := ⟨hs, List.nil_subperm⟩
  exact state_build (S := Accounts item? Good issued) (fun _ _ hb => h.accounts_markup hb _) hstart events

/-- **What the nodes of a document carry was given out, and each time to one of them.** -/
theorem subperm_of_compile (hs : Good s) (hb : compile (markup restrict) o ⟨s, {}⟩ events = (.ok stream, b)) :
    List.Subperm (collect item? (b.finish stream).1) (issued b.toSupply) := by
  have haccounts := h.accounts_compile (o := o) hs events
  rw [hb] at haccounts
  have hread := Node.Placeholder.collect_decode h.text b.registry stream
  exact (List.sublist_append_left _ _).subperm.trans (hread.subperm.trans haccounts.subperm)

end Issues

end Marktree.TreeBuilder
