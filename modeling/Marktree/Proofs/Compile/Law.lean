import Marktree.Proofs.Compile.Transport

/-!
# Laws of contents

A law speaks of the contents of all open constructs together, whatever frames they stand in, and of
the state of the builder. A builder keeps it if every answer does (`Law.Kept`); then one event keeps
it (`obeys_step`), and so does a whole run. Html blocks are apart: their content is raw, so the law
says of them what it likes. A content gets lost only where the row of a head is put over an earlier
one or over none (`Pass.Placed`); there a law must allow that contents are dropped (`Law.Drops`).
-/
namespace Marktree

variable {α σ : Type}

/-- The contents that a construct brings, raw html apart. -/
def Construct.contents : Construct α → List α
  | .wrap _ x => [x]
  | .table header body => [header, body]
  | _ => []

/-- A wrapper as events make it: the level of a heading is one of six, and an alignment that is
given is not `auto`. -/
def Wrapper.Usual : Wrapper → Prop
  | .heading level _ => 1 ≤ level ∧ level ≤ 6
  | .cell _ align => align ≠ some .auto
  | _ => True

/-- A construct as events make it, raw html apart; the body of a code block is in `B`. -/
def Construct.Usual (B : String → Prop) : Construct α → Prop
  | .html _ => False
  | .code body _ => B body
  | .wrap w _ => w.Usual
  | _ => True

namespace Compile

def Role.isHtml : Role α → Bool
  | .html => true
  | _ => false

def Frame.contents (x : Frame α) : List α :=
  match x.role with
  | .html => []
  | .table header => [header, x.content]
  | _ => [x.content]

/-- All contents of a compilation, html blocks apart. -/
def Pass.contents (p : Pass α σ) : List α :=
  p.document :: p.frames.flatMap Frame.contents

/-- Which of the open constructs are html blocks. -/
def Pass.blocks (p : Pass α σ) : List Bool :=
  p.frames.map (·.role.isHtml)

/-- What is to hold while events are compiled. -/
structure Law (α σ : Type) where
  /-- Of the contents in any order, and the state. -/
  Holds : List α → σ → Prop
  /-- Of what stands in an html block. -/
  Block : α → Prop
  /-- Of the body of a code block. -/
  Body : String → Prop
  /-- Raw html may occur. -/
  raw : Prop
  /-- Html blocks may hold more than raw html. -/
  mixed : Prop

/-- What holds of contents holds of fewer. -/
def Law.Drops (L : Law α σ) : Prop :=
  ∀ {x l s}, L.Holds (x :: l) s → L.Holds l s

/-- A builder keeps a law. -/
structure Law.Kept [Content α] (L : Law α σ) (b : Builder α σ) : Prop where
  perm : ∀ {l l' s}, l.Perm l' → L.Holds l s → L.Holds l' s
  empty : ∀ {l s}, L.Holds l s → L.Holds (Content.empty :: l) s
  dropEmpty : ∀ {l s}, L.Holds (Content.empty :: l) s → L.Holds l s
  append : ∀ {x y l s}, L.Holds (x :: y :: l) s → L.Holds (Content.append x y :: l) s
  newline : ∀ {l s}, L.Holds l s → L.Holds (Content.verbatim "\n" :: l) s
  answer : ∀ {c l s}, c.Usual L.Body → L.Holds (c.contents ++ l) s →
    L.Holds ((b c s).1 :: l) (b c s).2
  html : ∀ {x l s}, L.Block x → L.Holds l s → L.Holds ((b (.html x) s).1 :: l) (b (.html x) s).2
  blockEmpty : L.Block Content.empty
  blockRaw : L.raw → ∀ t, L.Block (Content.verbatim t)
  blockLine : L.raw → ∀ {x}, L.Block x → ∀ t, L.Block (Content.append x (Content.verbatim t))
  blockMixed : L.mixed → ∀ {x y l s}, L.Block x → L.Holds (y :: l) s →
    L.Block (Content.append x y) ∧ L.Holds l s

/-! ## Rules -/

/-- A law that speaks of each content by itself, and of the state. -/
structure Rule (α σ : Type) where
  Each : α → Prop
  State : σ → Prop
  /-- Of what stands in an html block. -/
  Block : α → Prop
  /-- Of the body of a code block. -/
  Body : String → Prop
  raw : Prop
  mixed : Prop

def Rule.law (R : Rule α σ) : Law α σ where
  Holds l s := (∀ x ∈ l, R.Each x) ∧ R.State s
  Block := R.Block
  Body := R.Body
  raw := R.raw
  mixed := R.mixed

/-- A builder keeps a rule. -/
structure Rule.Kept [Content α] (R : Rule α σ) (b : Builder α σ) : Prop where
  empty : R.Each Content.empty
  append : ∀ {x y}, R.Each x → R.Each y → R.Each (Content.append x y)
  newline : R.Each (Content.verbatim "\n")
  answer : ∀ {c s}, c.Usual R.Body → (∀ x ∈ c.contents, R.Each x) → R.State s →
    R.Each (b c s).1 ∧ R.State (b c s).2
  html : ∀ {x s}, R.Block x → R.State s → R.Each (b (.html x) s).1 ∧ R.State (b (.html x) s).2
  blockEmpty : R.Block Content.empty
  blockRaw : R.raw → ∀ t, R.Block (Content.verbatim t)
  blockLine : R.raw → ∀ {x}, R.Block x → ∀ t, R.Block (Content.append x (Content.verbatim t))
  blockMixed : R.mixed → ∀ {x y}, R.Block x → R.Each y → R.Block (Content.append x y)

theorem Rule.drops (R : Rule α σ) : R.law.Drops := fun h => ⟨(List.forall_mem_cons.1 h.1).2, h.2⟩

/-- A rule that is kept is a law that is kept. -/
theorem Rule.Kept.law [Content α] {R : Rule α σ} {b : Builder α σ} (h : R.Kept b) : R.law.Kept b where
  perm hl hx := ⟨fun x hm => hx.1 x (hl.mem_iff.2 hm), hx.2⟩
  empty hx := ⟨List.forall_mem_cons.2 ⟨h.empty, hx.1⟩, hx.2⟩
  dropEmpty hx := R.drops hx
  append hx := by
    obtain ⟨hfirst, hrest⟩ := List.forall_mem_cons.1 hx.1
    obtain ⟨hsecond, hrest⟩ := List.forall_mem_cons.1 hrest
    exact ⟨List.forall_mem_cons.2 ⟨h.append hfirst hsecond, hrest⟩, hx.2⟩
  newline hx := ⟨List.forall_mem_cons.2 ⟨h.newline, hx.1⟩, hx.2⟩
  answer hc hx := by
    obtain ⟨hcontents, hrest⟩ := List.forall_mem_append.1 hx.1
    obtain ⟨heach, hstate⟩ := h.answer hc hcontents hx.2
    exact ⟨List.forall_mem_cons.2 ⟨heach, hrest⟩, hstate⟩
  html hb hx := by
    obtain ⟨heach, hstate⟩ := h.html hb hx.2
    exact ⟨List.forall_mem_cons.2 ⟨heach, hx.1⟩, hstate⟩
  blockEmpty := h.blockEmpty
  blockRaw := h.blockRaw
  blockLine := h.blockLine
  blockMixed hm _ _ _ _ hx hy := ⟨h.blockMixed hm hx (List.forall_mem_cons.1 hy.1).1, R.drops hy⟩

/-! ## Laws of frames -/

/-- What a law says of a frame, its contents apart. -/
def Frame.Fits (L : Law α σ) (x : Frame α) : Prop :=
  match x.role with
  | .html => L.Block x.content
  | .wrap w => w.Usual
  | .cell _ align => align ≠ some .auto
  | _ => True

structure Pass.Fits (L : Law α σ) (p : Pass α σ) : Prop where
  frames : ∀ x ∈ p.frames, x.Fits L
  columns : some .auto ∉ p.table.columns

/-- A compilation obeys a law. -/
structure Pass.Obeys (L : Law α σ) (p : Pass α σ) : Prop extends p.Fits L where
  holds : L.Holds p.contents p.state

namespace Pass

variable [Content α] {L : Law α σ} {b : Builder α σ} {p : Pass α σ}

/-- The innermost frame is a table without a head. -/
def Headless (p : Pass α σ) : Prop :=
  ∃ closing content fs, p.frames = ⟨.table Content.empty, closing, content⟩ :: fs

/-- A head that is innermost stands in a table without one. -/
def Placed (p : Pass α σ) : Prop :=
  ∀ x fs, p.frames = x :: fs → x.role = .head → ({ p with frames := fs } : Pass α σ).Headless

/-! ## Adding to contents -/

/-- What is added may go into an html block only where blocks may hold more than raw html. -/
theorem obeys_push (hk : L.Kept b) (hf : p.Fits L) {x : α} (hx : L.Holds (x :: p.contents) p.state)
    (hm : L.mixed ∨ p.blocks.head? ≠ some true) : (p.push x).Obeys L := by
  obtain ⟨state, document, frames, capture, table, heading⟩ := p
  obtain ⟨hframes, hcolumns⟩ := hf
  match frames with
  | [] => exact ⟨⟨hframes, hcolumns⟩, hk.append (hk.perm (.swap _ _ _) hx)⟩
  | ⟨role, closing, content⟩ :: fs =>
    obtain ⟨hfirst, hrest⟩ := List.forall_mem_cons.1 hframes
    -- the content of the frame comes to the front, takes the addition and goes back
    have joined : ∀ before after : List α, L.Holds (x :: (before ++ content :: after)) state →
        L.Holds (before ++ Content.append content x :: after) state := by
      intro before after h
      have hmiddle : (x :: before ++ content :: after).Perm (content :: (x :: before ++ after)) :=
        List.perm_middle
      have h' : L.Holds (content :: x :: (before ++ after)) state := hk.perm hmiddle h
      exact hk.perm List.perm_middle.symm (hk.append h')
    cases role with
    | html =>
      have hmixed : L.mixed := hm.resolve_right (by simp [blocks, Role.isHtml])
      obtain ⟨hblock, hkept⟩ := hk.blockMixed hmixed hfirst hx
      exact ⟨⟨List.forall_mem_cons.2 ⟨hblock, hrest⟩, hcolumns⟩, hkept⟩
    | table header =>
      exact ⟨⟨List.forall_mem_cons.2 ⟨trivial, hrest⟩, hcolumns⟩, joined [document, header] _ hx⟩
    | _ => exact ⟨⟨List.forall_mem_cons.2 ⟨hfirst, hrest⟩, hcolumns⟩, joined [document] _ hx⟩

theorem obeys_answer (hk : L.Kept b) (hf : p.Fits L) {c : Construct α} (hc : c.Usual L.Body)
    (hx : L.Holds (c.contents ++ p.contents) p.state)
    (hm : L.mixed ∨ p.blocks.head? ≠ some true) : (p.answer b c).Obeys L :=
  obeys_push (p := { p with state := (b c p.state).2 }) hk ⟨hf.frames, hf.columns⟩
    (hk.answer hc hx) hm

theorem obeys_answer_html (hk : L.Kept b) (hf : p.Fits L) {x : α} (hx : L.Block x)
    (h : L.Holds p.contents p.state) (hm : L.mixed ∨ p.blocks.head? ≠ some true) :
    (p.answer b (.html x)).Obeys L :=
  obeys_push (p := { p with state := (b (.html x) p.state).2 }) hk ⟨hf.frames, hf.columns⟩
    (hk.html hx h) hm

theorem obeys_enter (hk : L.Kept b) (hp : p.Obeys L) (role : Role α)
    (hr : ∀ closing, Frame.Fits L ⟨role, closing, Content.empty⟩)
    (hh : ∀ header, role ≠ .table header) (closing : EndTag) : (p.enter role closing).Obeys L := by
  refine ⟨⟨List.forall_mem_cons.2 ⟨hr closing, hp.frames⟩, hp.columns⟩, ?_⟩
  have h := hk.perm (.swap _ _ _) (hk.empty hp.holds)
  cases role with
  | html => exact hp.holds
  | table header => exact absurd rfl (hh header)
  | _ => exact h

theorem obeys_setHeader (hk : L.Kept b) (hf : p.Fits L) {row : α}
    (hx : L.Holds (row :: p.contents) p.state) (hd : L.Drops ∨ p.Headless) :
    (p.setHeader row).Obeys L := by
  obtain ⟨state, document, frames, capture, table, heading⟩ := p
  match frames with
  | [] =>
    have hdrops : L.Drops := hd.resolve_right (by rintro ⟨_, _, _, h⟩; cases h)
    exact ⟨hf, hdrops hx⟩
  | ⟨role, closing, content⟩ :: fs =>
    cases role with
    | table header =>
      obtain ⟨-, hrest⟩ := List.forall_mem_cons.1 hf.frames
      -- the new header takes the place of the old one
      have hmiddle : ([row, document] ++ header :: content :: fs.flatMap Frame.contents).Perm
          (header :: ([row, document] ++ content :: fs.flatMap Frame.contents)) := List.perm_middle
      have h : L.Holds (header :: row :: document :: content :: fs.flatMap Frame.contents) state :=
        hk.perm hmiddle hx
      refine ⟨⟨List.forall_mem_cons.2 ⟨trivial, hrest⟩, hf.columns⟩, hk.perm (.swap _ _ _) ?_⟩
      rcases hd with hdrops | ⟨_, _, _, hhead⟩
      · exact hdrops h
      · cases hhead
        exact hk.dropEmpty h
    | _ =>
      have hdrops : L.Drops := hd.resolve_right (by rintro ⟨_, _, _, h⟩; cases h)
      exact ⟨hf, hdrops hx⟩

/-! ## One event -/

theorem auto_notMem_before (columns : List (Option Align)) :
    some .auto ∉ (TablePlace.before columns).columns := by
  intro h
  obtain ⟨a, -, ha⟩ := List.mem_map.1 h
  cases a <;> simp [Option.filter] at ha

theorem align_ne_auto {t : TablePlace} (h : some .auto ∉ t.columns) : t.align ≠ some .auto := by
  intro he
  exact h (List.mem_of_getElem? (Option.join_eq_some_iff.1 he))

theorem obeys_start (hk : L.Kept b) (hp : p.Obeys L) (t : Tag) : (p.start t).Obeys L := by
  have hin : ∀ {q : Pass α σ}, q.Obeys L → ∀ w : Wrapper, w.Usual →
      ∀ closing, (q.enter (.wrap w) closing).Obeys L := fun hq _ hw =>
    obeys_enter hk hq _ (fun _ => hw) (by simp)
  have hthrough := obeys_enter hk hp .through (fun _ => trivial) (by simp)
  cases t with
  | heading l =>
    exact obeys_enter (p := { p with heading := some "" }) hk ⟨⟨hp.frames, hp.columns⟩, hp.holds⟩
      (.heading l) (fun _ => trivial) (by simp) _
  | code info => exact ⟨⟨hp.frames, hp.columns⟩, hp.holds⟩
  | image src title => exact ⟨⟨hp.frames, hp.columns⟩, hp.holds⟩
  | html => exact obeys_enter hk hp .html (fun _ => hk.blockEmpty) (by simp) _
  | table columns =>
    have hmiddle : ([Content.empty, Content.empty] ++ p.document :: p.frames.flatMap Frame.contents).Perm
        (p.document :: ([Content.empty, Content.empty] ++ p.frames.flatMap Frame.contents)) :=
      List.perm_middle
    have h := hk.perm hmiddle (hk.empty (hk.empty hp.holds))
    exact ⟨⟨List.forall_mem_cons.2 ⟨trivial, hp.frames⟩, auto_notMem_before columns⟩, h⟩
  | head =>
    exact obeys_enter (p := { p with table := { p.table with inHead := true, column := 0 } }) hk
      ⟨⟨hp.frames, hp.columns⟩, hp.holds⟩ .head (fun _ => trivial) (by simp) _
  | row =>
    exact hin (q := { p with table := { p.table with column := 0 } })
      ⟨⟨hp.frames, hp.columns⟩, hp.holds⟩ .row trivial _
  | cell =>
    exact obeys_enter hk hp (.cell _ _) (fun _ => align_ne_auto hp.columns) (by simp) _
  | footnote | metadata _ | definitions | term | definition | superscript | subscript =>
    exact hthrough _
  | _ => exact hin hp _ (by trivial) _

/-- Closing a frame that is no longer on the stack. -/
theorem obeys_close (hk : L.Kept b) (hf : p.Fits L) {x : Frame α} (hx : x.Fits L)
    (h : L.Holds (x.contents ++ p.contents) p.state) (hm : L.mixed ∨ p.blocks.head? ≠ some true)
    (hd : L.Drops ∨ (x.role = .head → p.Headless)) : (p.close b x).Obeys L := by
  obtain ⟨role, closing, content⟩ := x
  cases role with
  | wrap w => exact obeys_answer hk hf (c := .wrap w content) hx h hm
  | heading l =>
    have hl : 1 ≤ l.number ∧ l.number ≤ 6 := ⟨Nat.le_add_left 1 _, l.isLt⟩
    exact obeys_answer (p := { p with heading := none }) hk ⟨hf.frames, hf.columns⟩
      (c := .wrap (.heading l.number _) content) hl h hm
  | html => exact obeys_answer_html hk hf hx h hm
  | table header => exact obeys_answer hk hf (c := .table header content) trivial h hm
  | head =>
    exact obeys_setHeader (p := { p with
      state := (b (.wrap .row content) p.state).2
      table := { p.table with inHead := false } }) hk ⟨hf.frames, hf.columns⟩
      (hk.answer (c := .wrap .row content) trivial h) (hd.imp_right fun hp => hp rfl)
  | cell header align =>
    exact obeys_answer (p := { p with table := { p.table with column := p.table.column + 1 } }) hk
      ⟨hf.frames, hf.columns⟩ (c := .wrap (.cell header align) content) hx h hm
  | through => exact obeys_push hk hf h hm

theorem obeys_stop (hk : L.Kept b) (hp : p.Obeys L) {t : EndTag} {q : Pass α σ}
    (hm : L.mixed ∨ true ∉ p.blocks.tail) (hd : L.Drops ∨ p.Placed) (h : p.stop b t = .ok q) :
    q.Obeys L := by
  obtain ⟨state, document, frames, capture, table, heading⟩ := p
  match frames with
  | [] => simp [stop] at h
  | x :: fs =>
    simp only [stop] at h
    split at h
    · cases h
      obtain ⟨hx, hrest⟩ := List.forall_mem_cons.1 hp.frames
      have hcontents : L.Holds (x.contents ++ document :: fs.flatMap Frame.contents) state :=
        hk.perm List.perm_middle.symm hp.holds
      exact obeys_close (p := ⟨state, document, fs, capture, table, heading⟩) hk ⟨hrest, hp.columns⟩
        hx hcontents (hm.imp_right fun hn he => hn (List.mem_of_mem_head? he))
        (hd.imp_right fun hplaced => hplaced x fs rfl)
    · cases h

/-- What an event adds goes into no html block, unless it is a line of one. -/
def Quiet (p : Pass α σ) (e : Event) : Prop :=
  true ∉ p.blocks.tail ∧
    (p.blocks.head? = some true → p.capture = none ∧ ((∃ t, e = .html t) ∨ e = .stop .html))

/-- A law admits an event after the events so far. -/
structure Admits (L : Law α σ) (p : Pass α σ) (e : Event) : Prop where
  raw : ∀ t, e = .html t ∨ e = .inlineHtml t → L.raw
  body : ∀ language body, p.capture = some (.code language body) → e = .stop .code → L.Body body
  quiet : L.mixed ∨ p.Quiet e
  head : L.Drops ∨ p.Placed

theorem Admits.place {e : Event} (h : p.Admits L e) (h₁ : ∀ t, e ≠ .html t) (h₂ : e ≠ .stop .html) :
    L.mixed ∨ p.blocks.head? ≠ some true :=
  h.quiet.imp_right fun hq he => by
    rcases (hq.2 he).2 with ⟨t, rfl⟩ | rfl
    · exact h₁ t rfl
    · exact h₂ rfl

theorem obeys_htmlLine (hk : L.Kept b) (hp : p.Obeys L) (hraw : L.raw) (t : String) :
    (p.htmlLine b t).Obeys L := by
  have hanswer (hm : p.blocks.head? ≠ some true) :
      (p.answer b (.html (Content.verbatim t))).Obeys L :=
    obeys_answer_html hk hp.toFits (hk.blockRaw hraw t) hp.holds (.inr hm)
  obtain ⟨state, document, frames, capture, table, heading⟩ := p
  match frames with
  | [] => exact hanswer (by simp [blocks])
  | ⟨role, closing, content⟩ :: fs =>
    obtain ⟨hx, hrest⟩ := List.forall_mem_cons.1 hp.frames
    cases role with
    | html =>
      exact ⟨⟨List.forall_mem_cons.2 ⟨hk.blockLine hraw hx t, hrest⟩, hp.columns⟩, hp.holds⟩
    | _ => exact hanswer (by simp [blocks, Role.isHtml])

theorem obeys_flow (hk : L.Kept b) (hp : p.Obeys L) {breaks : Bool} {e : Event} {q : Pass α σ}
    (ha : p.Admits L e) (h : p.flow b breaks e = .ok q) : q.Obeys L := by
  have hanswer (c : Construct α) (hc : c.Usual L.Body) (hx : c.contents = [])
      (h₁ : ∀ t, e ≠ .html t) (h₂ : e ≠ .stop .html) (s : String) :
      (p.answer b c).Obeys L ∧ ((p.note s).answer b c).Obeys L := by
    have hm := ha.place h₁ h₂
    have hx' : L.Holds (c.contents ++ p.contents) p.state := by rw [hx]; exact hp.holds
    exact ⟨obeys_answer hk hp.toFits hc hx' hm,
      obeys_answer (p := p.note s) hk ⟨hp.frames, hp.columns⟩ hc hx' hm⟩
  cases e with
  | start t => cases h; exact obeys_start hk hp t
  | stop t => exact obeys_stop hk hp (ha.quiet.imp_right And.left) ha.head h
  | text s | inlineMath s | displayMath s =>
    cases h; exact (hanswer (.text s) trivial rfl (by simp) (by simp) s).2
  | code s => cases h; exact (hanswer (.codeSpan s) trivial rfl (by simp) (by simp) s).2
  | html s => cases h; exact obeys_htmlLine hk hp (ha.raw s (.inl rfl)) s
  | inlineHtml s =>
    cases h
    exact obeys_answer_html hk hp.toFits (hk.blockRaw (ha.raw s (.inr rfl)) s) hp.holds
      (ha.place (by simp) (by simp))
  | softBreak =>
    cases h
    cases breaks with
    | true => exact (hanswer .lineBreak trivial rfl (by simp) (by simp) " ").2
    | false =>
      exact obeys_push (p := p.note " ") hk ⟨hp.frames, hp.columns⟩ (hk.newline hp.holds)
        (ha.place (by simp) (by simp))
  | hardBreak => cases h; exact (hanswer .lineBreak trivial rfl (by simp) (by simp) "").1
  | rule => cases h; exact (hanswer .rule trivial rfl (by simp) (by simp) "").1
  | task checked => cases h; exact (hanswer (.checkbox checked) trivial rfl (by simp) (by simp) "").1
  | footnoteReference label => cases h; exact hp

theorem obeys_codeBlock (hk : L.Kept b) (hp : p.Obeys L) {language : Option String} {body : String}
    {e : Event} {q : Pass α σ} (hc : p.capture = some (.code language body)) (ha : p.Admits L e)
    (h : p.codeBlock b language body e = .ok q) : q.Obeys L := by
  have hclose (he : e = .stop .code) : ({ p with capture := none }.answer b (.code body language)).Obeys L :=
    obeys_answer (p := { p with capture := none }) hk ⟨hp.frames, hp.columns⟩
      (ha.body language body hc he) hp.holds (ha.place (by simp [he]) (by simp [he]))
  cases e with
  | stop t =>
    cases t with
    | code => cases h; exact hclose rfl
    | _ => cases h
  | text s => cases h; exact ⟨⟨hp.frames, hp.columns⟩, hp.holds⟩
  | _ => cases h; exact hp

theorem obeys_imageAlt (hk : L.Kept b) (hp : p.Obeys L) {inner : Nat} {src : String}
    {title : Option String} {alt : String} {e : Event} (ha : p.Admits L e) :
    (p.imageAlt b inner src title alt e).Obeys L := by
  have hcollect (c : Option Capture) : ({ p with capture := c } : Pass α σ).Obeys L :=
    ⟨⟨hp.frames, hp.columns⟩, hp.holds⟩
  have hclose (he : e = .stop .image) :
      ({ p with capture := none }.answer b (.image src title alt)).Obeys L :=
    obeys_answer (p := { p with capture := none }) hk ⟨hp.frames, hp.columns⟩
      (c := .image src title alt) trivial hp.holds (ha.place (by simp [he]) (by simp [he]))
  cases e with
  | start t =>
    cases t with
    | image src' title' => exact hcollect _
    | _ => exact hp
  | stop t =>
    cases t with
    | image =>
      cases inner with
      | zero => exact hclose rfl
      | succ n => exact hcollect _
    | _ => exact hp
  | text s | code s => exact hcollect _
  | softBreak | hardBreak => exact hcollect _
  | _ => exact hp

/-- **One event keeps a law that the builder keeps.** -/
theorem obeys_step (hk : L.Kept b) (hp : p.Obeys L) {breaks : Bool} {e : Event} {q : Pass α σ}
    (ha : p.Admits L e) (h : p.step b breaks e = .ok q) : q.Obeys L := by
  unfold step at h
  split at h
  · exact obeys_flow hk hp ha h
  · exact obeys_codeBlock hk hp ‹_› ha h
  · cases h
    exact obeys_imageAlt hk hp ha

end Pass
end Compile
end Marktree
