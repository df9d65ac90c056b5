import Mathlib.Data.List.Perm.Lattice
import Mathlib.Data.List.Perm.Basic
import Marktree.Proofs.Compile.Run
import Marktree.Proofs.Node.Stream

/-!
# Tokens cannot be seen

Building trees through strings of tokens gives the nodes that building without tokens gives
(`finish_eq_nodes`). Both compilations run side by side; the texts of the one are streams that read
as the parts of the other, and no slot is named twice in all of them (`Streams`).
-/
namespace Marktree

open Node (Mark Registry)

/-- A text is a stream of marks that reads as parts. -/
def Node.Mark.Tells (r : Registry) (ms : List Mark) (x : String × List Part) : Prop :=
  x.1.toList = Mark.stream ms ∧ List.Forall₂ (Mark.Reads r) ms x.2

/-- The contents of two compilations side by side: each text reads as the parts beside it, and no
slot is named twice. -/
def Streams (r : Registry) (l : List (String × List Part)) : Prop :=
  ∃ mss, List.Forall₂ (Mark.Tells r) mss l ∧ (mss.flatMap Mark.slots).Nodup

namespace Streams

variable {r : Registry} {l l' : List (String × List Part)} {x y : String × List Part}

theorem perm (hl : l.Perm l') (h : Streams r l) : Streams r l' := by
  obtain ⟨mss, hm, hnd⟩ := h
  obtain ⟨mss', hp, hm'⟩ : Relation.Comp List.Perm (List.Forall₂ (Mark.Tells r)) mss l' := by
    rw [← List.forall₂_comp_perm_eq_perm_comp_forall₂]
    exact ⟨l, hm, hl⟩
  exact ⟨mss', hm', (hp.flatMap_right _).nodup_iff.1 hnd⟩

theorem drop (h : Streams r (x :: l)) : Streams r l := by
  obtain ⟨_, ⟨⟩ | ⟨_, hm⟩, hnd⟩ := h
  exact ⟨_, hm, (List.nodup_append.1 hnd).2.1⟩

theorem cons_empty (h : Streams r l) : Streams r (("", []) :: l) := by
  obtain ⟨mss, hm, hnd⟩ := h
  exact ⟨[] :: mss, .cons ⟨rfl, .nil⟩ hm, hnd⟩

theorem cons_newline (h : Streams r l) : Streams r (("\n", [.leak "\n"]) :: l) := by
  obtain ⟨mss, hm, hnd⟩ := h
  exact ⟨[.newline] :: mss, .cons ⟨rfl, .cons rfl .nil⟩ hm, hnd⟩

theorem append (h : Streams r (x :: y :: l)) : Streams r ((x.1 ++ y.1, x.2 ++ y.2) :: l) := by
  obtain ⟨_, ⟨⟩ | @⟨ms₁, _, _, _, ⟨hx, hxr⟩, ⟨⟩ | @⟨ms₂, _, mss, _, ⟨hy, hyr⟩, hm⟩⟩, hnd⟩ := h
  refine ⟨(ms₁ ++ ms₂) :: mss, .cons ⟨?_, List.rel_append hxr hyr⟩ hm, ?_⟩
  · simp [hx, hy, Mark.stream]
  · simpa [Mark.slots, List.append_assoc] using hnd

theorem forall₂_tells_mono {r r' : Registry} {mss : List (List Mark)}
    (h : List.Forall₂ (Mark.Tells r) mss l)
    (hr : ∀ i ∈ mss.flatMap Mark.slots, r'.get? i = r.get? i) :
    List.Forall₂ (Mark.Tells r') mss l := by
  induction h with
  | nil => exact .nil
  | cons hx _ ih =>
    simp only [List.flatMap_cons, List.forall_mem_append] at hr
    exact .cons ⟨hx.1, Mark.forall₂_reads_mono hx.2 hr.1⟩ (ih hr.2)

/-- A content that is read leaves the others as they are. -/
theorem read (h : Streams r (x :: l)) :
    ∃ r', Node.Placeholder.decode r x.1 = (Part.nodes x.2, r') ∧ Streams r' l := by
  obtain ⟨_, ⟨⟩ | @⟨ms, _, mss, _, ⟨hx, hxr⟩, hm⟩, hnd⟩ := h
  rw [List.flatMap_cons, List.nodup_append] at hnd
  obtain ⟨hms, hmss, hdisjoint⟩ := hnd
  obtain ⟨r', hdecode, -, hget⟩ := Mark.decode_stream hxr hms hx
  refine ⟨r', hdecode, mss, forall₂_tells_mono hm fun i hi => ?_, hmss⟩
  rw [hget, if_neg fun hi' => hdisjoint i hi' i hi rfl]

theorem lt_size_of_mem {mss : List (List Mark)} (h : List.Forall₂ (Mark.Tells r) mss l) {i : Nat}
    (hi : i ∈ mss.flatMap Mark.slots) : i < r.size := by
  induction h with
  | nil => cases hi
  | cons hx _ ih =>
    rcases List.mem_append.1 hi with hi | hi
    · exact Mark.lt_size_of_mem_slots hx.2 hi
    · exact ih hi

/-- A new node gets a token that no content has. -/
theorem emit (h : Streams r l) (n : Node) :
    Streams (r.register n).2 ((Node.Placeholder.encode r.size, [.node n]) :: l) := by
  obtain ⟨mss, hm, hnd⟩ := h
  have hfresh : r.size ∉ mss.flatMap Mark.slots := fun hi => Nat.lt_irrefl _ (lt_size_of_mem hm hi)
  have hkept : ∀ i ∈ mss.flatMap Mark.slots, (r.register n).2.get? i = r.get? i := fun i hi => by
    rw [Registry.get?_register, if_neg fun e : i = r.size => hfresh (e ▸ hi)]
  refine ⟨[.token r.size] :: mss,
    .cons ⟨Mark.stream_encode _, .cons ?_ .nil⟩ (forall₂_tells_mono hm hkept), ?_⟩
  · simp [Mark.Reads, Registry.get?_register]
  · exact List.nodup_cons.2 ⟨hfresh, hnd⟩

end Streams

/-! ## The two builders -/

theorem Construct.isLeaf_map {α β : Type} (f : α → β) (c : Construct α) :
    (c.map f).isLeaf = c.isLeaf := by
  cases c <;> rfl

theorem Construct.isLeaf_escaped (sanitize : Bool) (c : Construct String) :
    (c.escaped sanitize).isLeaf = c.isLeaf := by
  cases c with
  | html raw => cases sanitize <;> rfl
  | _ => rfl

namespace Direct

/-- Escaping on the way to the markup and replacing references in it undo each other. -/
theorem resolve?_escape (restrict : Bool) (target : String) :
    Destination.resolve? restrict (Text.escape target) =
      if allows restrict target then some target else none := by
  simp [Destination.resolve?, allows]

theorem branch?_escaped (restrict : Bool) (anchors : Text.Slugs) (w : Wrapper) :
    TreeBuilder.branch? restrict anchors w.escaped = branch? restrict anchors w := by
  cases w with
  | link href title =>
    simp only [Wrapper.escaped, TreeBuilder.branch?, branch?, resolve?_escape, Text.map_unescape_map_escape]
    split <;> rfl
  | cell header align => cases header <;> rfl
  | _ => rfl

theorem leaf?_escaped (restrict sanitize : Bool) (hooks : Hooks) {c : Construct (String × List Part)}
    (h : ∀ x, c = .html x → x.1 = Part.raw x.2) :
    TreeBuilder.leaf? restrict hooks ((c.map Prod.fst).escaped sanitize) =
      leaf? restrict hooks (c.map Prod.snd) := by
  cases c with
  | html x =>
    obtain ⟨x, ps⟩ := x
    obtain rfl : x = Part.raw ps := h _ rfl
    cases sanitize <;> simp [Construct.map, Construct.escaped, TreeBuilder.leaf?, leaf?]
  | image src title alt =>
    simp only [Construct.map, Construct.escaped, TreeBuilder.leaf?, leaf?, resolve?_escape,
      Text.map_unescape_map_escape, Text.unescape_escape]
    cases allows restrict src <;> rfl
  | _ => simp [Construct.map, Construct.escaped, TreeBuilder.leaf?, leaf?]

end Direct

/-- Builders of trees through tokens and without them, side by side. -/
def sideBySide (restrict sanitize : Bool) :
    Builder (String × List Part) (TreeBuilder × Supply) :=
  ((TreeBuilder.markup restrict).builder sanitize).pair (Direct.builder restrict)

def Streams.law : Compile.Law (String × List Part) (TreeBuilder × Supply) where
  Holds l s := s.1.toSupply = s.2 ∧ Streams s.1.registry l
  Block x := x.1 = Part.raw x.2
  Body _ := True
  raw := True
  mixed := False

theorem Streams.answer_wrap {restrict sanitize : Bool} {w : Wrapper} {x : String × List Part}
    {l : List (String × List Part)} {s : TreeBuilder × Supply}
    (h : law.Holds (x :: l) s) :
    law.Holds ((sideBySide restrict sanitize (.wrap w x) s).1 :: l)
      (sideBySide restrict sanitize (.wrap w x) s).2 := by
  obtain ⟨⟨g, r⟩, g'⟩ := s
  obtain ⟨hg, hl⟩ := h
  obtain rfl : g = g' := hg
  obtain ⟨r', hdecode, h'⟩ := hl.read
  simp only [sideBySide, Builder.pair, Markup.builder, Construct.map, Construct.escaped,
    TreeBuilder.markup, Direct.builder, Direct.branch?_escaped]
  generalize Direct.branch? restrict g.anchors w = k
  obtain ⟨k, anchors⟩ := k
  cases k with
  | none => exact ⟨rfl, hl.drop.cons_empty⟩
  | some k =>
    simp only [TreeBuilder.read, hdecode]
    exact ⟨rfl, h'.emit _⟩

theorem Streams.answer_table {restrict sanitize : Bool} {x y : String × List Part}
    {l : List (String × List Part)} {s : TreeBuilder × Supply} (h : law.Holds (x :: y :: l) s) :
    law.Holds ((sideBySide restrict sanitize (.table x y) s).1 :: l)
      (sideBySide restrict sanitize (.table x y) s).2 := by
  obtain ⟨⟨g, r⟩, g'⟩ := s
  obtain ⟨hg, hl⟩ := h
  obtain rfl : g = g' := hg
  obtain ⟨r₁, hx, h₁⟩ := hl.read
  obtain ⟨r₂, hy, h₂⟩ := h₁.read
  simp only [sideBySide, Builder.pair, Markup.builder, Construct.map, Construct.escaped,
    TreeBuilder.markup, Direct.builder, TreeBuilder.read, hx, hy]
  exact ⟨rfl, h₂.emit _⟩

theorem Streams.answer_leaf {restrict sanitize : Bool} {c : Construct (String × List Part)}
    {l : List (String × List Part)} {s : TreeBuilder × Supply} (hc : c.isLeaf)
    (hraw : ∀ x, c = .html x → x.1 = Part.raw x.2) (h : law.Holds l s) :
    law.Holds ((sideBySide restrict sanitize c s).1 :: l) (sideBySide restrict sanitize c s).2 := by
  obtain ⟨⟨g, r⟩, g'⟩ := s
  obtain ⟨hg, hl⟩ := h
  obtain rfl : g = g' := hg
  have hc₁ : ((c.map Prod.fst).escaped sanitize).isLeaf := by
    rw [Construct.isLeaf_escaped, Construct.isLeaf_map, hc]
  have hc₂ : (c.map Prod.snd).isLeaf := by rw [Construct.isLeaf_map, hc]
  simp only [sideBySide, Builder.pair, Markup.builder, TreeBuilder.markup_of_isLeaf hc₁,
    Direct.builder_of_isLeaf hc₂, Direct.leaf?_escaped restrict sanitize _ hraw]
  rcases Direct.leaf? restrict g.hooks (c.map Prod.snd) with ⟨_ | k, hooks⟩
  · exact ⟨rfl, hl.cons_empty⟩
  · exact ⟨rfl, hl.emit _⟩

theorem Streams.law_drops : law.Drops := fun h => ⟨h.1, h.2.drop⟩

theorem Streams.law_kept (restrict sanitize : Bool) : law.Kept (sideBySide restrict sanitize) where
  perm hl h := ⟨h.1, h.2.perm hl⟩
  empty h := ⟨h.1, h.2.cons_empty⟩
  dropEmpty h := law_drops h
  append h := ⟨h.1, h.2.append⟩
  newline h := ⟨h.1, h.2.cons_newline⟩
  answer {c l s} hc h := by
    cases c with
    | wrap w x => exact answer_wrap h
    | table x y => exact answer_table h
    | html x => exact hc.elim
    | _ => exact answer_leaf rfl (by simp) h
  html hx h := answer_leaf rfl (fun _ e => by cases e; exact hx) h
  blockEmpty := rfl
  blockRaw _ t := by simp [law, Part.raw, Part.leak?, Content.verbatim, String.join]
  blockLine _ {x} hx t := by
    simp only [law] at hx ⊢
    simp [Part.raw, Content.append, Content.verbatim, hx, Part.leak?, String.join]
  blockMixed h := h.elim

/-- What the answer to a whole document stands for is what the same events build without tokens,
whatever has been registered before. -/
theorem Streams.finish_answer {o : Options} {restrict : Bool} {events : List Event} {stream : String}
    {b₀ b : TreeBuilder} {parts : List Part} {g : Supply}
    (hraw : Event.Along Event.Raw .flow events)
    (h : compile (TreeBuilder.markup restrict) o b₀ events = (.ok stream, b))
    (hdirect : build (Direct.builder restrict) o.breaks b₀.toSupply events = (.ok parts, g)) :
    (b.finish stream).1 = Part.nodes parts := by
  obtain ⟨parts', g', hdirect', hpair⟩ := build_pair h (Direct.builder restrict) b₀.toSupply
  obtain ⟨⟨⟩, rfl⟩ := Prod.mk.inj (hdirect.symm.trans hdirect')
  have hallowed : Event.Along law.Allows .flow events :=
    hraw.imp fun hr => ⟨fun _ _ => trivial, fun _ _ _ => trivial, hr⟩
  have hstart : law.Holds [Content.empty] (b₀, b₀.toSupply) :=
    ⟨rfl, [[]], .cons ⟨rfl, .nil⟩ .nil, .nil⟩
  obtain ⟨-, hend⟩ := build_holds (law_kept restrict o.sanitize) law_drops hstart hallowed hpair
  obtain ⟨r, hdecode, -⟩ := hend.read
  simp [TreeBuilder.finish, TreeBuilder.read, hdecode]

/-- What is built without tokens is what the nodes of a document are. -/
theorem Streams.exists_finish {o : Options} {events : List Event} {parts : List Part} {g : Supply}
    (hraw : Event.Along Event.Raw .flow events)
    (hdirect : build (Direct.builder o.sanitize) o.breaks {} events = (.ok parts, g)) :
    ∃ stream b, compile (TreeBuilder.markup o.sanitize) o {} events = (.ok stream, b) ∧
      (b.finish stream).1 = Part.nodes parts := by
  obtain ⟨stream, b, h, -⟩ := build_pair hdirect ((TreeBuilder.markup o.sanitize).builder o.sanitize) {}
  exact ⟨stream, b, h, Streams.finish_answer hraw h hdirect⟩

/-- **Tokens cannot be seen.** Where html blocks hold raw html alone, the nodes that the answer to a
whole document stands for are the nodes that the same events build without tokens, whatever the
texts of the events are. -/
theorem finish_eq_nodes {o : Options} {events : List Event} {stream : String} {b : TreeBuilder}
    (hraw : Event.Along Event.Raw .flow events)
    (h : compile (TreeBuilder.markup o.sanitize) o {} events = (.ok stream, b)) :
    Direct.nodes o events = .ok (b.finish stream).1 := by
  obtain ⟨parts, g, hdirect, -⟩ := build_pair h (Direct.builder o.sanitize) {}
  simp [Direct.nodes, hdirect, Streams.finish_answer hraw h hdirect, Except.map]

/-- Texts that look like tokens and references, raw html, and a run of newlines. -/
theorem finish_eq_nodes_lookalike :
    let events : List Event :=
      [.start .html, .html "<b>\x7b\x7b1\x7d\x7d\n", .stop .html, .start .paragraph,
        .text "\x7b\x7b0\x7d\x7d &lt; \x7b\x7b", .softBreak, .softBreak,
        .start (.link "a&b" "\"\x7b\x7b2\x7d\x7d\""), .code "\x7d\x7d", .stop .link, .stop .paragraph]
    Event.Along Event.Raw .flow events ∧
      ∃ stream b, compile (TreeBuilder.markup false) .default {} events = (.ok stream, b) ∧
        (b.finish stream).1 = [.text "<b>\x7b\x7b1\x7d\x7d\n", .branch .paragraph
          [.text "\x7b\x7b0\x7d\x7d &lt; \x7b\x7b", .text "\n\n",
            .branch (.link "a&b" (some "\"\x7b\x7b2\x7d\x7d\"") true)
              [.leaf (.inlineCode "\x7d\x7d")]]] := by
  intro events
  have hraw : Event.Along Event.Raw .flow events := by
    simp [events, Event.Along, Event.Raw, Event.Place.next]
  have hdirect : build (Direct.builder false) false {} events = (.ok _, _) := rfl
  obtain ⟨stream, b, h, -⟩ := build_pair hdirect ((TreeBuilder.markup false).builder false) {}
  have hnodes := finish_eq_nodes (o := .default) hraw h
  exact ⟨hraw, stream, b, h, Except.ok.inj (hnodes.symm.trans rfl)⟩

end Marktree
