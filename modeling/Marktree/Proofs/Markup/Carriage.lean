import Marktree.Proofs.Compile.Outline
import Marktree.Proofs.Markup.Contents

/-!
# The way of a node into the tree

A node that was registered goes from content to content as the constructs around it close: the content
is read, and the node stands below the new one, whose token goes on. Nothing else names its slot, since
all that is made after it is newer (`Bears`). So it comes to stand in the tree, unless one of the open
constructs keeps its content back (`Carried.finish`, `Tag.carries`); in any case it is in the tree or
left in the registry (`held_finish`).
-/
namespace Marktree

open Compile (Pass Frame Role Rule TablePlace)
open Node (Registry walkAll)
open Node.Placeholder (Spelled slots encode)

/-! ## What hands its content on -/

/-- A construct that hands its content on when it closes. What stands in an html block is raw, what
stands in a barred link is dropped, and the head of a table may give way to another one. -/
def Compile.Role.carries {α : Type} (restrict : Bool) : Role α → Bool
  | .wrap (.link href _) => (Destination.resolve? restrict (Text.escape href)).isSome
  | .html | .head => false
  | _ => true

def Tag.carries (restrict : Bool) : Tag → Bool
  | .link href _ => (Destination.resolve? restrict (Text.escape href)).isSome
  | .html | .head => false
  | _ => true

namespace TreeBuilder

/-- The pass of a document after its first events. -/
def After (o : Options) (es : List Event) (p : Pass String TreeBuilder) : Prop :=
  Pass.run (builder o) o.breaks (.initial {}) es = (p, none)

theorem After.append {o : Options} {es fs : List Event} {p q : Pass String TreeBuilder} (h : After o es p)
    (hq : p.run (builder o) o.breaks fs = (q, none)) : After o (es ++ fs) q :=
  (Pass.run_append h).trans hq

theorem After.start {o : Options} {es : List Event} {p : Pass String TreeBuilder} (h : After o es p)
    (hc : p.capture = none) (t : Tag) : After o (es ++ [.start t]) (p.start t) :=
  h.append (Pass.run_cons (Pass.step_start hc t) [])

variable {o : Options} {breaks : Bool} {b b₀ : TreeBuilder} {p q : Pass String TreeBuilder} {n m : Node}
  {i : Nat} {x : String} {c : Construct String}

theorem carries_start (restrict : Bool) (p : Pass String TreeBuilder) (t : Tag) (ht : t.isFrame) :
    (p.start t).outline.map (·.role.carries restrict) =
      t.carries restrict :: p.outline.map (·.role.carries restrict) := by
  cases t <;> first | rfl | cases ht

theorem carries_map (restrict : Bool) (x : Frame String) :
    (x.map fun _ => ()).role.carries restrict = x.role.carries restrict := by
  obtain ⟨role, closing, content⟩ := x
  rcases role with w | _ | _ | _ | _ | _ | _
  · cases w <;> rfl
  all_goals rfl

theorem makes_wrap {restrict : Bool} {w : Wrapper} (hw : (Role.wrap w : Role String).carries restrict)
    (x : String) (b : TreeBuilder) : ∃ n r, Makes restrict (.wrap w.escaped x) b n r := by
  have hcases : Refuses restrict _ b ∨ _ := markup_wrap w.escaped x b
  rcases hcases with hrefuses | hmakes
  · have hanswer := hrefuses.answer
    rw [markup] at hanswer
    rcases hb : branch? restrict b.anchors w.escaped with ⟨_ | k, anchors⟩
    · cases w with
      | link href title =>
        have hnone : Destination.resolve? restrict (Text.escape href) = none :=
          Option.map_eq_none_iff.1 (congrArg Prod.fst hb)
        simp [Role.carries, hnone] at hw
      | cell header align => cases header <;> cases hb
      | _ => cases hb
    · rw [hb] at hanswer
      exact absurd hanswer (encode_ne_empty _)
  · exact hmakes

/-! ## Nodes that move -/

section

variable {r r' : Registry} {out others : List Node}

/-- The node of a slot that is emptied comes out. -/
theorem mem_of_moves (h : r.Moves r' out others) (hget : r.get? i = some m) (hnone : r'.get? i = none) :
    m ∈ out := by
  have hemptied : i ∈ Registry.emptied r r' := Registry.mem_emptied.2 ⟨⟨m, hget⟩, hnone⟩
  refine h.perm_emptied.mem_iff.2 (List.mem_append_right _ ?_)
  exact List.mem_filterMap.2 ⟨i, hemptied, hget⟩

/-- What was in the slots has come out or is still there. -/
theorem mem_walkAll_of_moves (h : r.Moves r' out others) (hn : n ∈ walkAll r.nodes) :
    n ∈ walkAll out ∨ n ∈ walkAll r'.nodes := by
  have hbefore : n ∈ walkAll (others ++ r.nodes) := by
    rw [Node.walkAll_append]
    exact List.mem_append_right _ hn
  have hafter := (Node.walkAll_perm h.perm).mem_iff.2 hbefore
  rw [Node.walkAll_append] at hafter
  exact List.mem_append.1 hafter

end

/-! ## Contents that are newer -/

theorem each_append {x y : String} (hx : (since b₀).Each x) (hy : (since b₀).Each y) :
    (since b₀).Each (x ++ y) :=
  (since_kept b₀ false false).append hx hy

theorem each_empty (b₀ : TreeBuilder) : (since b₀).Each "" :=
  (since_kept b₀ false false).empty

theorem fresh_builder (hc : ∀ x ∈ c.contents, (since b₀).Each x) (hb : b₀.Extends b) :
    b₀.Fresh (builder o c b).2 (builder o c b).1 :=
  fresh_markup ((contents_escaped o.sanitize c).symm ▸ hc) hb

theorem mem_slots_left {x y : String} (hx : Spelled x) (hy : Spelled y) (hi : i ∈ slots x) :
    i ∈ slots (x ++ y) :=
  Node.Placeholder.slots_append hx hy ▸ List.mem_append_left _ hi

theorem mem_slots_right {x y : String} (hx : Spelled x) (hy : Spelled y) (hi : i ∈ slots y) :
    i ∈ slots (x ++ y) :=
  Node.Placeholder.slots_append hx hy ▸ List.mem_append_right _ hi

/-! ## A slot on its way -/

/-- A frame that hands its content on, which is made of tokens and newlines. -/
def HandsOn (restrict : Bool) (f : Frame String) : Prop :=
  f.role.carries restrict ∧ Spelled f.content

/-- All that is open hands its content on. -/
structure Clear (o : Options) (p : Pass String TreeBuilder) : Prop where
  document : Spelled p.document
  frames : ∀ f ∈ p.frames, HandsOn o.sanitize f

/-- The token of the slot stands in a content that is handed on, and so are those around it; all that is
inside of it is newer than `b₀`. -/
inductive Borne (restrict : Bool) (b₀ : TreeBuilder) (i : Nat) (document : String) :
    List (Frame String) → Prop
  | document (hi : i ∈ slots document) : Borne restrict b₀ i document []
  | frame {f : Frame String} {fs : List (Frame String)} (hi : i ∈ slots f.content)
    (hfs : ∀ g ∈ f :: fs, HandsOn restrict g) : Borne restrict b₀ i document (f :: fs)
  | inner {f : Frame String} {fs : List (Frame String)} (hf : ∀ x ∈ f.contents, (since b₀).Each x)
    (hfs : Borne restrict b₀ i document fs) : Borne restrict b₀ i document (f :: fs)

/-- The slot is on its way in a pass. -/
structure Bears (o : Options) (b₀ : TreeBuilder) (i : Nat) (p : Pass String TreeBuilder) : Prop where
  state : b₀.Extends p.state
  document : Spelled p.document
  frames : Borne o.sanitize b₀ i p.document p.frames

namespace Bears

/-- What is added to a content that is handed on. -/
theorem of_push (hp : Clear o p) (hx : Spelled x) (hi : i ∈ slots x) : Bears o p.state i (p.push x) := by
  obtain ⟨state, document, frames, capture, table, heading⟩ := p
  obtain ⟨hd, hfs⟩ := hp
  cases frames with
  | nil =>
    exact ⟨.refl state, Node.Placeholder.spelled_append hd hx, .document (mem_slots_right hd hx hi)⟩
  | cons f fs =>
    obtain ⟨⟨hf, hspelled⟩, hrest⟩ := List.forall_mem_cons.1 hfs
    exact ⟨.refl state, hd, .frame (mem_slots_right hspelled hx hi) (List.forall_mem_cons.2
      ⟨⟨hf, Node.Placeholder.spelled_append hspelled hx⟩, hrest⟩)⟩

theorem push (h : Bears o b₀ i p) (hx : (since b₀).Each x) : Bears o b₀ i (p.push x) := by
  obtain ⟨state, document, frames, capture, table, heading⟩ := p
  obtain ⟨hstate, hd, hborne⟩ := h
  cases hborne with
  | document hi =>
    exact ⟨hstate, Node.Placeholder.spelled_append hd hx.1, .document (mem_slots_left hd hx.1 hi)⟩
  | @frame f fs hi hfs =>
    obtain ⟨⟨hf, hspelled⟩, hrest⟩ := List.forall_mem_cons.1 hfs
    exact ⟨hstate, hd, .frame (mem_slots_left hspelled hx.1 hi) (List.forall_mem_cons.2
      ⟨⟨hf, Node.Placeholder.spelled_append hspelled hx.1⟩, hrest⟩)⟩
  | @inner f fs hf hfs =>
    refine ⟨hstate, hd, .inner ?_ hfs⟩
    obtain ⟨role, closing, content⟩ := f
    cases role with
    | html =>
      intro y hy
      cases hy
    | table header =>
      obtain ⟨hheader, hcontent⟩ := List.forall_mem_cons.1 hf
      exact List.forall_mem_cons.2
        ⟨hheader, List.forall_mem_singleton.2 (each_append (List.forall_mem_singleton.1 hcontent) hx)⟩
    | _ => exact List.forall_mem_singleton.2 (each_append (List.forall_mem_singleton.1 hf) hx)

theorem answer (h : Bears o b₀ i p) (hc : ∀ x ∈ c.contents, (since b₀).Each x) :
    Bears o b₀ i (p.answer (builder o) c) := by
  have hfresh := fresh_builder (o := o) hc h.state
  exact push (p := { p with state := _ }) ⟨hfresh.toExtends, h.document, h.frames⟩
    ⟨hfresh.spelled, hfresh.fresh⟩

theorem answer_leaf (h : Bears o b₀ i p) (hc : c.contents = []) : Bears o b₀ i (p.answer (builder o) c) :=
  h.answer (by simp [hc])

theorem htmlLine (h : Bears o b₀ i p) (s : String) : Bears o b₀ i (p.htmlLine (builder o) s) := by
  unfold Pass.htmlLine
  split
  · rename_i closing content fs hframes
    obtain ⟨state, document, frames, capture, table, heading⟩ := p
    obtain ⟨hstate, hd, hborne⟩ := h
    subst hframes
    cases hborne with
    | frame hi hfs => exact absurd (hfs _ (List.mem_cons_self ..)).1 (by simp [Role.carries])
    | inner hf hfs => exact ⟨hstate, hd, .inner (fun y hy => by cases hy) hfs⟩
  · exact h.answer_leaf rfl

theorem start (h : Bears o b₀ i p) (t : Tag) : Bears o b₀ i (p.start t) := by
  have hin (role : Role String) (closing : EndTag) (table : TablePlace) (heading : Option String)
      (hrole : ∀ x ∈ (⟨role, closing, ""⟩ : Frame String).contents, x = "") :
      Bears o b₀ i ({ p with table, heading }.enter role closing) :=
    ⟨h.state, h.document, .inner (fun x hx => hrole x hx ▸ each_empty b₀) h.frames⟩
  cases t with
  | code info => exact ⟨h.state, h.document, h.frames⟩
  | image src title => exact ⟨h.state, h.document, h.frames⟩
  | _ =>
    refine hin _ _ _ _ ?_
    simp [Frame.contents, Content.empty]

theorem setHeader (h : Bears o b₀ i p) (hx : (since b₀).Each x) : Bears o b₀ i (p.setHeader x) := by
  obtain ⟨state, document, frames, capture, table, heading⟩ := p
  match frames with
  | [] => exact h
  | ⟨role, closing, content⟩ :: fs =>
    cases role with
    | table header =>
      obtain ⟨hstate, hd, hborne⟩ := h
      cases hborne with
      | frame hi hfs =>
        obtain ⟨⟨-, hcontent⟩, hrest⟩ := List.forall_mem_cons.1 hfs
        exact ⟨hstate, hd, .frame hi (List.forall_mem_cons.2 ⟨⟨rfl, hcontent⟩, hrest⟩)⟩
      | inner hf hfs =>
        exact ⟨hstate, hd, .inner (List.forall_mem_cons.2 ⟨hx, (List.forall_mem_cons.1 hf).2⟩) hfs⟩
    | _ => exact h

/-- A frame inside of the content that bears the slot closes. -/
theorem close (h : Bears o b₀ i p) {f : Frame String} (hf : ∀ x ∈ f.contents, (since b₀).Each x) :
    Bears o b₀ i (p.close (builder o) f) := by
  obtain ⟨role, closing, content⟩ := f
  cases role with
  | wrap w => exact h.answer (c := .wrap w content) hf
  | heading l =>
    exact answer (p := { p with heading := none })
      (c := .wrap (.heading l.number (Text.trim (p.heading.getD ""))) content)
      ⟨h.state, h.document, h.frames⟩ hf
  | html => exact h.answer_leaf rfl
  | table header => exact h.answer (c := .table header content) hf
  | head =>
    have hfresh : b₀.Fresh _ _ := fresh_builder (o := o) (c := .wrap .row content) hf h.state
    exact setHeader (p := { p with state := _, table := _ }) ⟨hfresh.toExtends, h.document, h.frames⟩
      ⟨hfresh.spelled, hfresh.fresh⟩
  | cell header align =>
    exact answer (p := { p with table := _ }) (c := .wrap _ content) ⟨h.state, h.document, h.frames⟩ hf
  | through => exact h.push (List.forall_mem_singleton.1 hf)

theorem codeBlock (h : Bears o b₀ i p) {language : Option String} {body : String} {e : Event}
    (hq : p.codeBlock (builder o) language body e = .ok q) : Bears o b₀ i q := by
  have hsame (capture : Option Compile.Capture) : Bears o b₀ i { p with capture } :=
    ⟨h.state, h.document, h.frames⟩
  cases e with
  | stop t =>
    cases t with
    | code =>
      cases hq
      exact (hsame none).answer_leaf (c := .code body language) rfl
    | _ => cases hq
  | text s =>
    cases hq
    exact hsame _
  | _ =>
    cases hq
    exact h

theorem imageAlt (h : Bears o b₀ i p) (inner : Nat) (src : String) (title : Option String) (alt : String)
    (e : Event) : Bears o b₀ i (p.imageAlt (builder o) inner src title alt e) := by
  have hsame (capture : Option Compile.Capture) : Bears o b₀ i { p with capture } :=
    ⟨h.state, h.document, h.frames⟩
  cases e with
  | start t =>
    cases t with
    | image src' title' => exact hsame _
    | _ => exact h
  | stop t =>
    cases t with
    | image =>
      cases inner with
      | zero => exact (hsame none).answer_leaf (c := .image src title alt) rfl
      | succ n => exact hsame _
    | _ => exact h
  | text s | code s => exact hsame _
  | softBreak | hardBreak => exact hsame _
  | _ => exact h

/-- What is neither the start nor the end of a construct adds to what is innermost. -/
theorem flow (h : Bears o b₀ i p) {e : Event} (he : e.isLeaf) (hq : p.flow (builder o) breaks e = .ok q) :
    Bears o b₀ i q := by
  have hnote (s : String) : Bears o b₀ i (p.note s) := ⟨h.state, h.document, h.frames⟩
  cases e with
  | start t => cases he
  | stop t => cases he
  | html s =>
    cases hq
    exact h.htmlLine s
  | softBreak =>
    cases hq
    unfold Pass.softBreak
    split
    · exact (hnote " ").answer_leaf rfl
    · exact (hnote " ").push (since_kept b₀ false false).newline
  | footnoteReference label =>
    cases hq
    exact h
  | text s | inlineMath s | displayMath s | code s =>
    cases hq
    exact (hnote s).answer_leaf rfl
  | _ =>
    cases hq
    exact h.answer_leaf rfl

end Bears

/-! ## A node on its way -/

/-- A node is in a slot that is on its way, or below the node in it. -/
def Carried (o : Options) (n : Node) (p : Pass String TreeBuilder) : Prop :=
  ∃ b₀ i m, b₀.registry.get? i = some m ∧ n ∈ m.walk ∧ Bears o b₀ i p

namespace Carried

/-- A new node is on its way where all frames hand their contents on. -/
theorem emit (hp : Clear o p) (b : TreeBuilder) (n : Node) :
    Carried o n ({ p with state := (b.emit n).2 }.push (b.emit n).1) := by
  have hget : (b.emit n).2.registry.get? b.registry.size = some n :=
    (Registry.get?_register n _).trans (if_pos rfl)
  have hslot : b.registry.size ∈ slots (b.emit n).1 := by
    rw [show slots (b.emit n).1 = [b.registry.size] from Node.Placeholder.slots_encode _]
    exact List.mem_singleton_self _
  refine ⟨_, _, n, hget, ?_, Bears.of_push (p := { p with state := (b.emit n).2 }) ⟨hp.document, hp.frames⟩
    (b.stands_emit n).spelled hslot⟩
  rw [Node.walk_eq_cons]
  exact List.mem_cons_self ..

/-- A slot keeps its node until its content is read. -/
theorem get?_of_bears (h : Bears o b₀ i p) (hget : b₀.registry.get? i = some m) :
    p.state.registry.get? i = some m :=
  (h.state.kept i (Registry.lt_size_of_get? hget)).trans hget

theorem answer (hp : Clear o p)
    (hmakes : ∃ m r, Makes o.sanitize (c.escaped o.sanitize) p.state m r)
    (hget : p.state.registry.get? i = some m) (hn : n ∈ m.walk) (hi : i ∈ c.contents.flatMap slots) :
    Carried o n (p.answer (builder o) c) := by
  obtain ⟨m', r, hmakes⟩ := hmakes
  rw [← contents_escaped o.sanitize c] at hi
  have hanswer : (builder o c p.state).1 = encode p.state.registry.size := hmakes.answer
  have hregistry : (builder o c p.state).2.registry = (r.register m').2 := hmakes.registry
  have hsize : r.size = p.state.registry.size := hmakes.moves.size
  have hget' : (builder o c p.state).2.registry.get? p.state.registry.size = some m' := by
    rw [hregistry, Registry.get?_register, if_pos hsize.symm]
  have hbelow : n ∈ m'.walk := by
    rw [Node.walk_eq_cons, Node.walkAll_eq_flatMap]
    have hm : m ∈ m'.children := mem_of_moves hmakes.moves hget (hmakes.empty i hi)
    exact List.mem_cons_of_mem _ (List.mem_flatMap.2 ⟨m, hm, hn⟩)
  have htoken : Spelled (builder o c p.state).1 ∧ p.state.registry.size ∈ slots (builder o c p.state).1 := by
    rw [hanswer, Node.Placeholder.slots_encode]
    exact ⟨⟨_, Node.Mark.stream_encode _⟩, List.mem_singleton_self _⟩
  exact ⟨_, _, m', hget', hbelow,
    Bears.of_push (p := { p with state := (builder o c p.state).2 }) ⟨hp.document, hp.frames⟩
      htoken.1 htoken.2⟩

/-- The frame that bears the slot closes. -/
theorem close (hp : Clear o p) {f : Frame String} (hf : HandsOn o.sanitize f)
    (hget : p.state.registry.get? i = some m) (hn : n ∈ m.walk) (hi : i ∈ slots f.content) :
    Carried o n (p.close (builder o) f) := by
  obtain ⟨role, closing, content⟩ := f
  obtain ⟨hf, hcontent⟩ := hf
  have hmem : i ∈ [content].flatMap slots := by simpa using hi
  cases role with
  | wrap w => exact answer (c := .wrap w content) hp (makes_wrap hf content _) hget hn hmem
  | heading l =>
    exact answer (p := { p with heading := none }) (c := .wrap (.heading _ _) content)
      ⟨hp.document, hp.frames⟩ (makes_wrap rfl content _) hget hn hmem
  | html => cases hf
  | table header =>
    have hmem : i ∈ [header, content].flatMap slots := by simp [hi]
    exact answer (c := .table header content) hp (markup_table header content _) hget hn hmem
  | head => cases hf
  | cell header align =>
    exact answer (p := { p with table := _ }) (c := .wrap (.cell header align) content)
      ⟨hp.document, hp.frames⟩ (makes_wrap rfl content _) hget hn hmem
  | through => exact ⟨p.state, i, m, hget, hn, .of_push hp hcontent hi⟩

theorem stop (h : Carried o n p) {t : EndTag} (hq : p.stop (builder o) t = .ok q) : Carried o n q := by
  obtain ⟨b₀, i, m, hget, hn, hbears⟩ := h
  have hget' := get?_of_bears hbears hget
  obtain ⟨state, document, frames, capture, table, heading⟩ := p
  obtain ⟨hstate, hd, hborne⟩ := hbears
  cases frames with
  | nil => cases hq
  | cons f fs =>
    simp only [Pass.stop] at hq
    split at hq
    · cases hq
      cases hborne with
      | frame hi hfs =>
        obtain ⟨hf, hrest⟩ := List.forall_mem_cons.1 hfs
        exact close (p := ⟨state, document, fs, capture, table, heading⟩) ⟨hd, hrest⟩ hf hget' hn hi
      | inner hf hfs =>
        exact ⟨b₀, i, m, hget, hn, Bears.close (p := ⟨state, document, fs, capture, table, heading⟩)
          ⟨hstate, hd, hfs⟩ hf⟩
    · cases hq

theorem step (h : Carried o n p) {e : Event} (hq : p.step (builder o) breaks e = .ok q) :
    Carried o n q := by
  obtain ⟨b₀, i, m, hget, hn, hbears⟩ := h
  unfold Pass.step at hq
  split at hq
  · cases he : e.isLeaf with
    | true => exact ⟨b₀, i, m, hget, hn, hbears.flow he hq⟩
    | false =>
      cases e with
      | start t =>
        cases hq
        exact ⟨b₀, i, m, hget, hn, hbears.start t⟩
      | stop t => exact stop ⟨b₀, i, m, hget, hn, hbears⟩ hq
      | _ => cases he
  · exact ⟨b₀, i, m, hget, hn, hbears.codeBlock hq⟩
  · cases hq
    exact ⟨b₀, i, m, hget, hn, hbears.imageAlt _ _ _ _ e⟩

/-- **A node that is on its way stays so.** -/
theorem run (h : Carried o n p) {es : List Event} (hq : p.run (builder o) breaks es = (q, none)) :
    Carried o n q :=
  Pass.run_induction (I := fun p _ => Carried o n p) (fun hp hq => hp.step hq) h hq

/-- **A node that is on its way comes to the tree.** -/
theorem finish (h : Carried o n p) {stream : String} (hp : p.finish = .ok stream) :
    n ∈ walkAll (p.state.finish stream).1 := by
  obtain ⟨b₀, i, m, hget, hn, hbears⟩ := h
  have hget' := get?_of_bears hbears hget
  obtain ⟨hframes, -, rfl⟩ := Pass.eq_of_finish hp
  have hborne := hbears.frames
  rw [hframes] at hborne
  cases hborne with
  | document hi =>
    have hread := (get?_read p.state p.document i).trans (if_pos hi)
    have hm : m ∈ (p.state.read p.document).1 := mem_of_moves (moves_read _ _) hget' hread
    rw [Node.walkAll_eq_flatMap]
    exact List.mem_flatMap.2 ⟨m, hm, hn⟩

end Carried

/-! ## What is left -/

/-- A node is in a slot, or below a node that is in one. -/
def Held (n : Node) (b : TreeBuilder) : Prop :=
  n ∈ walkAll b.registry.nodes

theorem held_emit (b : TreeBuilder) (n : Node) : Held n (b.emit n).2 := by
  have hnodes : (b.emit n).2.registry.nodes = b.registry.nodes ++ [n] := Registry.nodes_register _ n
  rw [Held, hnodes, Node.walkAll_append, walkAll, Node.walk_eq_cons]
  exact List.mem_append_right _ (List.mem_cons_self ..)

/-- What moves out of the slots is held below the new node. -/
theorem held_markup {restrict : Bool} (c : Construct String) (h : Held n b) :
    Held n (markup restrict c b).2 := by
  rcases markup_cases restrict c b with hrefuses | ⟨m, r, hmakes⟩
  · rw [Held, hrefuses.registry]
    exact h
  · rw [Held, hmakes.registry, Registry.nodes_register, Node.walkAll_append, walkAll, walkAll,
      List.append_nil, Node.walk_eq_cons]
    rcases mem_walkAll_of_moves hmakes.moves h with hbelow | hslot
    · exact List.mem_append_right _ (List.mem_cons_of_mem _ hbelow)
    · exact List.mem_append_left _ hslot

theorem held_finish (stream : String) (h : Held n b) :
    n ∈ walkAll (b.finish stream).1 ∨ Held n (b.finish stream).2 :=
  mem_walkAll_of_moves (moves_read b stream) h

/-! ## Passes of documents -/

namespace After

variable {es fs : List Event} {ts : List Tag}

theorem obeys (h : After o es p) : p.Obeys (since {}).law :=
  Pass.obeys_run_mixed (since_kept {} o.sanitize o.sanitize).law (Rule.drops _) trivial (fun _ => trivial)
    (Pass.obeys_initial ⟨List.forall_mem_singleton.2 (each_empty _), .refl _⟩) (fun _ _ _ _ => trivial) h

/-- What every answer keeps of the state is kept by the events that follow in a document. -/
theorem state {S : TreeBuilder → Prop} (hp : After o es p) (hanswer : ∀ c b, S b → S (builder o c b).2)
    (hs : S p.state) (hq : p.run (builder o) o.breaks fs = (q, none)) : S q.state := by
  have hobeys : p.Obeys (Rule.ofState S).law :=
    ⟨⟨hp.obeys.frames, hp.obeys.columns⟩, fun _ _ => trivial, hs⟩
  exact (Pass.obeys_run_mixed (Rule.ofState_kept hanswer).law (Rule.drops _) trivial (fun _ => trivial) hobeys
    (fun _ _ _ _ => trivial) hq).holds.2

theorem capture (h : After o es p) (hes : Grammar.Frames es ts) : p.capture = none :=
  (Pass.outline_frames (carries_start true) hes h).2

/-- Where all tags that are open hand their contents on, so do the frames. -/
theorem clear (h : After o es p) (hes : Grammar.Frames es ts) (hts : ∀ t ∈ ts, t.carries o.sanitize) :
    Clear o p := by
  refine ⟨(h.obeys.holds.1 _ (List.mem_cons_self ..)).1, fun g hg => ?_⟩
  have hsame := (Pass.outline_frames (carries_start o.sanitize) hes h).1
  have hmem : g.role.carries o.sanitize ∈ ts.map (Tag.carries o.sanitize) := by
    rw [← hsame, Pass.outline, List.map_map]
    exact List.mem_map.2 ⟨g, hg, carries_map o.sanitize g⟩
  obtain ⟨t, ht, hg'⟩ := List.mem_map.1 hmem
  have hcarries : g.role.carries o.sanitize := hg' ▸ hts t ht
  have hcontent : g.content ∈ g.contents := by
    obtain ⟨role, closing, content⟩ := g
    cases role with
    | html => cases hcarries
    | _ => simp [Frame.contents]
  have hcontents : g.content ∈ p.contents :=
    List.mem_cons_of_mem _ (List.mem_flatMap.2 ⟨g, hg, hcontent⟩)
  exact ⟨hcarries, (h.obeys.holds.1 _ hcontents).1⟩

end After

end TreeBuilder

end Marktree
