import Marktree.Proofs.Markup.Anchors
import Marktree.Proofs.Markup.HtmlBlock
import Marktree.Proofs.Markup.Targets
import Marktree.Proofs.Node.Equality

/-!
# Sanitizing prunes

The nodes of a document with sanitizing on are those with sanitizing off, less the links and images
whose destinations are barred, each with all below it (`tidyAll_finish_sanitized`). What stood around
such a link comes to stand side by side, so texts that are neighbours are taken for one text in both
trees (`Node.tidyAll`). The two trees are built side by side without tokens; `pruning` is what holds
of them all along.
-/
namespace Marktree

namespace Node

/-! ## Neighbouring texts -/

/-- Puts a node before others; two texts become one. -/
def joinText : Node → List Node → List Node
  | .leaf (.text s), .leaf (.text t) :: ns => .text (s ++ t) :: ns
  | n, ns => n :: ns

mutual

/-- The node without hooks, and with runs of neighbouring texts as one text each, at every depth. -/
def tidy : Node → Node
  | leaf l => leaf l.unhooked
  | branch b cs => branch b (tidyAll cs)
  | table head body => table (tidyAll head) (tidyAll body)

def tidyAll : List Node → List Node
  | [] => []
  | n :: ns => joinText (tidy n) (tidyAll ns)

end

theorem joinText_joinText (s t : String) (ns : List Node) :
    joinText (.text s) (joinText (.text t) ns) = joinText (.text (s ++ t)) ns := by
  rcases ns with _ | ⟨⟨_ | _⟩ | _ | _, ns⟩ <;> simp [joinText, String.append_assoc]

/-- What a node is joined to may be joined to the rest before. -/
theorem foldr_joinText (n : Node) (ns ms : List Node) :
    (joinText n ns).foldr joinText ms = joinText n (ns.foldr joinText ms) := by
  fun_cases joinText n ns with
  | case1 s t ns => exact (joinText_joinText s t _).symm
  | case2 => rfl

theorem foldr_joinText_assoc (ns ms ls : List Node) :
    (ns.foldr joinText ms).foldr joinText ls = ns.foldr joinText (ms.foldr joinText ls) := by
  induction ns with
  | nil => rfl
  | cons n ns ih => rw [List.foldr_cons, foldr_joinText, ih, List.foldr_cons]

/-- What is tidy in front stays so. -/
theorem tidyAll_append (ns ms : List Node) :
    tidyAll (ns ++ ms) = (tidyAll ns).foldr joinText (tidyAll ms) := by
  induction ns with
  | nil => rfl
  | cons n ns ih => rw [List.cons_append, tidyAll, ih, tidyAll, foldr_joinText]

theorem ids_joinText (n : Node) (ns : List Node) : ids (joinText n ns) = ids (n :: ns) := by
  unfold joinText
  split <;> rfl

mutual

theorem ids_tidy : ∀ n : Node, ids [n.tidy] = ids [n]
  | leaf _ => rfl
  | branch b cs => by rw [tidy, ids_branch, ids_branch, ids_tidyAll cs]
  | table head body => by rw [tidy, ids_table, ids_table, ids_tidyAll head, ids_tidyAll body]

/-- Texts have no anchors. -/
theorem ids_tidyAll : ∀ ns : List Node, ids (tidyAll ns) = ids ns
  | [] => rfl
  | n :: ns => by
    rw [tidyAll, ids_joinText, ← List.singleton_append, ids_append, ids_tidy n, ids_tidyAll ns,
      ← ids_append, List.singleton_append]

end

/-! ## Pruning -/

/-- A link or image that sanitizing leaves out. -/
def barred (n : Node) : Bool :=
  n.target?.any fun d => (Destination.resolve? true (Text.escape d)).isNone

mutual

/-- The node without what is barred below it, or nothing if it is barred itself. -/
def prune : Node → List Node
  | leaf l => if barred (leaf l) then [] else [leaf l]
  | branch b cs => if barred (branch b cs) then [] else [branch b (pruneAll cs)]
  | table head body => [table (pruneAll head) (pruneAll body)]

def pruneAll : List Node → List Node
  | [] => []
  | n :: ns => prune n ++ pruneAll ns

end

theorem pruneAll_eq_flatMap (ns : List Node) : pruneAll ns = ns.flatMap prune := by
  induction ns with
  | nil => rfl
  | cons n ns ih => rw [pruneAll, ih, List.flatMap_cons]

theorem pruneAll_append (ns ms : List Node) : pruneAll (ns ++ ms) = pruneAll ns ++ pruneAll ms := by
  simp [pruneAll_eq_flatMap]

theorem prune_of_barred {n : Node} (h : n.barred) : prune n = [] := by
  cases n with
  | leaf l => rw [prune, if_pos h]
  | branch b cs => rw [prune, if_pos h]
  | table head body => cases h

theorem barred_iff {n : Node} {d : String} (hd : n.target? = some d) :
    n.barred = !Direct.allows true d := by
  rw [barred, hd, Option.any_some, Direct.resolve?_escape]
  cases Direct.allows true d <;> rfl

end Node

open Node (tidyAll pruneAll)

/-- Whether leaks were joined before is not seen once a list is tidy. -/
theorem Part.tidyAll_nodes {f : Node → List Node}
    (hf : ∀ s t, tidyAll (f (.text (s ++ t))) = tidyAll (f (.text s) ++ f (.text t))) (ps : List Part) :
    tidyAll ((nodes ps).flatMap f) = tidyAll ((ps.map toNode).flatMap f) := by
  induction ps with
  | nil => rfl
  | cons p ps ih =>
    simp only [nodes] at ih
    cases p with
    | node n => simp only [nodes, join, List.map_cons, List.flatMap_cons, Node.tidyAll_append, ih]
    | leak s =>
      simp only [nodes, join, List.map_cons, List.flatMap_cons, toNode, Node.tidyAll_append, ← ih]
      -- the leak is joined to one that follows it, here or once the list is tidy
      split
      · rename_i t qs hj
        simp only [hj, List.map_cons, List.flatMap_cons, toNode, Node.tidyAll_append, hf,
          Node.foldr_joinText_assoc]
      · simp only [List.map_cons, List.flatMap_cons, toNode, Node.tidyAll_append]

/-! ## With sanitizing and without -/

/-- Both trees side by side: contents are the same once one is pruned and both are tidy. -/
def pruning : Compile.Rule (List Part × List Part) (Supply × Supply) where
  Each x := tidyAll (x.1.map Part.toNode) = tidyAll (pruneAll (x.2.map Part.toNode))
  State s := s.1.anchors = s.2.anchors
  Block x := x.1 = x.2
  Body _ := True
  raw := True
  mixed := False

theorem tidyAll_of_each {x : List Part × List Part} (hx : pruning.Each x) :
    tidyAll (Part.nodes x.1) = tidyAll (pruneAll (Part.nodes x.2)) := by
  have hon := Part.tidyAll_nodes (f := fun n => [n]) (fun _ _ => rfl) x.1
  have hoff := Part.tidyAll_nodes (f := Node.prune) (fun _ _ => rfl) x.2
  simp only [List.flatMap_singleton'] at hon
  rw [← Node.pruneAll_eq_flatMap, ← Node.pruneAll_eq_flatMap] at hoff
  exact hon.trans (hx.trans hoff.symm)

namespace Direct

/-- Sanitizing leaves out the branches that are barred and changes no other. -/
theorem exists_branch (anchors : Text.Slugs) (w : Wrapper) :
    ∃ k anchors', branch? false anchors w = (some k, anchors') ∧
      ∀ cs, branch? true anchors w = (if (Node.branch k cs).barred then none else some k, anchors') := by
  cases w with
  | cell header align => cases header <;> exact ⟨_, _, rfl, fun _ => rfl⟩
  | link href title =>
    refine ⟨_, _, rfl, fun cs => ?_⟩
    rw [Node.barred_iff rfl, branch?]
    cases allows true href <;> rfl
  | _ => exact ⟨_, _, rfl, fun _ => rfl⟩

/-- Sanitizing leaves out the leaves that are barred and changes of no other anything but its hook. -/
theorem exists_leaf {x : Construct (List Part × List Part)} (hx : x.isLeaf)
    (hraw : ∀ y, x = .html y → y.1 = y.2) (hooks hooks' : Hooks) :
    ∃ l off, leaf? false hooks' (x.map Prod.snd) = (some l, off) ∧
      ((Node.leaf l).barred → ∃ on, leaf? true hooks (x.map Prod.fst) = (none, on)) ∧
      (¬ (Node.leaf l).barred →
        ∃ k on, leaf? true hooks (x.map Prod.fst) = (some k, on) ∧ k.unhooked = l.unhooked) := by
  cases x with
  | wrap w y => cases hx
  | table y z => cases hx
  | html y =>
    refine ⟨_, _, rfl, fun hb => absurd hb Bool.false_ne_true, fun _ => ⟨_, _, rfl, ?_⟩⟩
    rw [hraw y rfl]
  | image src title alt =>
    refine ⟨_, _, rfl, ?_⟩
    rw [Node.barred_iff rfl, Construct.map, leaf?]
    cases allows true src with
    | true => exact ⟨fun hb => absurd hb Bool.false_ne_true, fun _ => ⟨_, _, rfl, rfl⟩⟩
    | false => exact ⟨fun _ => ⟨_, rfl⟩, fun hb => absurd rfl hb⟩
  | _ => exact ⟨_, _, rfl, fun hb => absurd hb Bool.false_ne_true, fun _ => ⟨_, _, rfl, rfl⟩⟩

end Direct

namespace Pruning

/-- Both builders of trees without tokens. -/
abbrev builders : Builder (List Part × List Part) (Supply × Supply) :=
  (Direct.builder true).pair (Direct.builder false)

/-- What is barred is left out on one side and pruned on the other. -/
theorem each_barred {n : Node} (h : n.barred) : pruning.Each ([], [.node n]) := by
  simp [pruning, Part.toNode, Node.pruneAll, Node.prune_of_barred h]

theorem each_branch {k : Branch} {x : List Part × List Part} (hx : pruning.Each x)
    (h : ¬ (Node.branch k (Part.nodes x.2)).barred) :
    pruning.Each ([.node (.branch k (Part.nodes x.1))], [.node (.branch k (Part.nodes x.2))]) := by
  simp [h, pruning, Part.toNode, Node.pruneAll, Node.prune, tidyAll, Node.tidy, tidyAll_of_each hx]

theorem each_leaf {k l : Leaf} (hk : k.unhooked = l.unhooked) (h : ¬ (Node.leaf l).barred) :
    pruning.Each ([.node (.leaf k)], [.node (.leaf l)]) := by
  simp [h, hk, pruning, Part.toNode, Node.pruneAll, Node.prune, tidyAll, Node.tidy]

theorem answer_wrap (w : Wrapper) {x : List Part × List Part} {s : Supply × Supply}
    (hx : pruning.Each x) (hs : pruning.State s) :
    pruning.Each (builders (.wrap w x) s).1 ∧ pruning.State (builders (.wrap w x) s).2 := by
  obtain ⟨g, g'⟩ := s
  have hanchors : g.anchors = g'.anchors := hs
  obtain ⟨k, anchors', hoff, hon⟩ := Direct.exists_branch g'.anchors w
  have hon := hon (Part.nodes x.2)
  by_cases hb : (Node.branch k (Part.nodes x.2)).barred
  · rw [if_pos hb] at hon
    simp only [builders, Builder.pair, Construct.map, Direct.builder, hanchors, hoff, hon]
    exact ⟨each_barred hb, rfl⟩
  · rw [if_neg hb] at hon
    simp only [builders, Builder.pair, Construct.map, Direct.builder, hanchors, hoff, hon]
    exact ⟨each_branch hx hb, rfl⟩

theorem answer_table {x y : List Part × List Part} {s : Supply × Supply}
    (hx : pruning.Each x) (hy : pruning.Each y) (hs : pruning.State s) :
    pruning.Each (builders (.table x y) s).1 ∧ pruning.State (builders (.table x y) s).2 := by
  refine ⟨?_, hs⟩
  simp [builders, Builder.pair, Construct.map, Direct.builder, pruning, Part.toNode, Node.pruneAll,
    Node.prune, tidyAll, Node.tidy, tidyAll_of_each hx, tidyAll_of_each hy]

theorem answer_leaf {c : Construct (List Part × List Part)} (hc : c.isLeaf)
    (hraw : ∀ x, c = .html x → x.1 = x.2) {s : Supply × Supply} (hs : pruning.State s) :
    pruning.Each (builders c s).1 ∧ pruning.State (builders c s).2 := by
  have hc₁ : (c.map Prod.fst).isLeaf := by rw [Construct.isLeaf_map, hc]
  have hc₂ : (c.map Prod.snd).isLeaf := by rw [Construct.isLeaf_map, hc]
  obtain ⟨l, off, hoff, hbarred, hkept⟩ := Direct.exists_leaf hc hraw s.1.hooks s.2.hooks
  by_cases hb : (Node.leaf l).barred
  · obtain ⟨on, hon⟩ := hbarred hb
    simp only [builders, Builder.pair, Direct.builder_of_isLeaf hc₁, Direct.builder_of_isLeaf hc₂, hoff, hon]
    exact ⟨each_barred hb, hs⟩
  · obtain ⟨k, on, hon, hk⟩ := hkept hb
    simp only [builders, Builder.pair, Direct.builder_of_isLeaf hc₁, Direct.builder_of_isLeaf hc₂, hoff, hon]
    exact ⟨each_leaf hk hb, hs⟩

theorem kept : pruning.Kept builders where
  empty := rfl
  append {x y} hx hy := by
    simp only [pruning, Content.append, List.map_append, Node.pruneAll_append, Node.tidyAll_append] at *
    rw [hx, hy]
  newline := rfl
  answer {c s} hc hcontents hs := by
    cases c with
    | wrap w x => exact answer_wrap w (hcontents x (List.mem_singleton_self x)) hs
    | table x y =>
      have hx := hcontents x (by simp [Construct.contents])
      have hy := hcontents y (by simp [Construct.contents])
      exact answer_table hx hy hs
    | html x => exact hc.elim
    | _ => exact answer_leaf rfl (by simp) hs
  html hx hs := answer_leaf rfl (fun _ e => by cases e; exact hx) hs
  blockEmpty := rfl
  blockRaw _ _ := rfl
  blockLine _ {x} hx t := by
    simp only [pruning, Content.append, Content.verbatim] at *
    rw [hx]
  blockMixed h := h.elim

end Pruning

/-- **Sanitizing only prunes.** Where html blocks hold raw html alone, the nodes of a document with
sanitizing on are those with sanitizing off, other options equal, less the links and images that are
barred, with neighbouring texts as one. Raw html becomes the same text nodes, and headings that are
still there have the same anchors. -/
theorem tidyAll_finish_sanitized {o : Options} {events : List Event} {stream : String} {b : TreeBuilder}
    (hraw : Event.Along Event.Raw .flow events)
    (h : compile (TreeBuilder.markup o.sanitize) o {} events = (.ok stream, b)) :
    ∃ on b₁ off b₂,
      compile (TreeBuilder.markup true) { o with sanitize := true } {} events = (.ok on, b₁) ∧
      compile (TreeBuilder.markup false) { o with sanitize := false } {} events = (.ok off, b₂) ∧
      tidyAll (b₁.finish on).1 = tidyAll (pruneAll (b₂.finish off).1) ∧
      Node.ids (b₁.finish on).1 = Node.ids (pruneAll (b₂.finish off).1) ∧
      ∀ raw b, (TreeBuilder.markup true).builder true (.html raw) b =
        (TreeBuilder.markup false).builder false (.html raw) b := by
  obtain ⟨on, b₁, hon, -⟩ := build_pair h ((TreeBuilder.markup true).builder true) {}
  obtain ⟨off, b₂, hoff, -⟩ := build_pair h ((TreeBuilder.markup false).builder false) {}
  obtain ⟨x, g, hx, -⟩ := build_pair h (Direct.builder true) {}
  obtain ⟨y, g', hy, hpair⟩ := build_pair hx (Direct.builder false) {}
  have hallowed : Event.Along pruning.law.Allows .flow events :=
    hraw.imp fun hr => ⟨fun _ _ => trivial, fun _ _ _ => trivial, hr⟩
  have hstate : pruning.State (({} : Supply), ({} : Supply)) := rfl
  obtain ⟨heach, -⟩ := build_each Pruning.kept hstate hallowed hpair
  have htidy : tidyAll (b₁.finish on).1 = tidyAll (pruneAll (b₂.finish off).1) := by
    rw [Streams.finish_answer (o := { o with sanitize := true }) hraw hon hx,
      Streams.finish_answer (o := { o with sanitize := false }) hraw hoff hy]
    exact tidyAll_of_each heach
  refine ⟨on, b₁, off, b₂, hon, hoff, htidy, ?_, fun raw b => ?_⟩
  · rw [← Node.ids_tidyAll, htidy, Node.ids_tidyAll]
  · rw [TreeBuilder.builder_html, TreeBuilder.builder_html]

/-- A link that is barred, with soft breaks on both sides and a link in it that is not. -/
theorem tidyAll_finish_sanitized_link :
    let events : List Event :=
      [.start .html, .html "<b>", .stop .html, .start .paragraph, .text "a", .softBreak,
        .start (.link "javascript:a" ""), .start (.link "https://a" ""), .stop .link, .stop .link,
        .softBreak, .start (.link "https://b" ""), .text "b", .stop .link, .stop .paragraph]
    let tree (r : Except CompileError String × TreeBuilder) := (r.2.finish (r.1.toOption.getD "")).1
    let on := tree (compile (TreeBuilder.markup true) { Options.default with sanitize := true } {} events)
    let off := tree (compile (TreeBuilder.markup false) .default {} events)
    Event.Along Event.Raw .flow events ∧ tidyAll on = tidyAll (pruneAll off) ∧
      (Node.walkAll off).map Node.kind =
        ["text", "paragraph", "text", "text", "link", "link", "text", "link", "text"] ∧
      (Node.walkAll on).map Node.kind = ["text", "paragraph", "text", "text", "link", "text"] ∧
      (Node.walkAll (tidyAll on)).map Node.kind = ["text", "paragraph", "text", "link", "text"] := by
  intro events tree on off
  have hraw : Event.Along Event.Raw .flow events := by
    simp [events, Event.Along, Event.Raw, Event.Place.next]
  have hdirect : build (Direct.builder false) false {} events = (.ok _, _) := rfl
  obtain ⟨stream, b, h, -⟩ := build_pair hdirect ((TreeBuilder.markup false).builder false) {}
  obtain ⟨_, _, _, _, hon, hoff, htidy, -⟩ := tidyAll_finish_sanitized (o := .default) hraw h
  have hoff : compile (TreeBuilder.markup false) .default {} events = _ := hoff
  refine ⟨hraw, ?_, ?_, ?_, ?_⟩
  · simp only [on, off, tree, hon, hoff]
    exact htidy
  · simp only [off, tree, events]
    decide +kernel
  · simp only [on, tree, events]
    decide +kernel
  · simp only [on, tree, events]
    decide +kernel

end Marktree
