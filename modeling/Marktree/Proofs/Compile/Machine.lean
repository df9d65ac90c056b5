import Marktree.Proofs.Compile.Turn

/-!
# The machine behind a pass

A pass keeps the document apart from the open frames, and what is collected apart from them in one
`Capture`, so that much of what must not happen cannot be written down. The `Machine` holds the same in
the loose form of a device: one stack with the document at its bottom, a code block, a count of open
images with their alternative text and what is kept for the image, the place in a table and the text of a
heading. Nothing in its types ties these together, a stack may be empty, every layer may be popped, and
an event that fails hands back a state.

Every pass has its layout as a machine (`Pass.layout`), and the machine does on layouts what the pass does
(`process_layout`, `run_layout`, `finish_layout`). So the machine is `Sound` along every run
(`sound_run`), rests while something is collected, and is left as it was by an event that fails.
-/
namespace Marktree.Compile

/-- An open construct, or the document, which has no role and waits for no end. -/
structure Layer (α : Type) where
  role : Option (Role α)
  closing : Option EndTag
  content : α
  deriving Repr, DecidableEq, Inhabited

structure Machine (α σ : Type) where
  state : σ
  /-- From the inside out. -/
  stack : List (Layer α)
  /-- The language and the body of the open code block. -/
  code : Option (Option String × String) := none
  /-- The number of open images, with the alternative text so far. -/
  images : Nat := 0
  alt : String := ""
  /-- The destination and the title of the outermost open image. -/
  pending : Option (String × Option String) := none
  table : TablePlace := {}
  heading : Option String := none
  deriving Repr

namespace Machine

variable {α σ : Type} [Content α]

def fresh (s : σ) : Machine α σ :=
  { state := s, stack := [⟨none, none, Content.empty⟩] }

def push (m : Machine α σ) (x : α) : Machine α σ :=
  match m.stack with
  | [] => m
  | l :: ls => { m with stack := { l with content := Content.append l.content x } :: ls }

def answer (b : Builder α σ) (m : Machine α σ) (c : Construct α) : Machine α σ :=
  let (x, state) := b c m.state
  { m with state }.push x

def note (m : Machine α σ) (s : String) : Machine α σ :=
  { m with heading := m.heading.map (· ++ s) }

def enter (m : Machine α σ) (role : Role α) (closing : EndTag) : Machine α σ :=
  { m with stack := ⟨some role, some closing, Content.empty⟩ :: m.stack }

def htmlLine (b : Builder α σ) (m : Machine α σ) (s : String) : Machine α σ :=
  match m.stack with
  | ⟨some .html, _, _⟩ :: _ => m.push (Content.verbatim s)
  | _ => m.answer b (.html (Content.verbatim s))

/-- The outermost image begins its alternative text afresh. -/
def openImage (m : Machine α σ) : Machine α σ :=
  { m with images := m.images + 1, alt := if m.images = 0 then "" else m.alt }

def start (m : Machine α σ) (t : Tag) : Machine α σ :=
  match t with
  | .paragraph => m.enter (.wrap .paragraph) t.closing
  | .heading l => { m with heading := some "" }.enter (.heading l) t.closing
  | .quote _ => m.enter (.wrap .quote) t.closing
  | .code info => { m with code := some (language? info, "") }
  | .html => m.enter .html t.closing
  | .list first => m.enter (.wrap (.list first.isSome first)) t.closing
  | .item => m.enter (.wrap .item) t.closing
  | .table columns => { m with table := .before columns }.enter (.table Content.empty) t.closing
  | .head => { m with table := { m.table with inHead := true, column := 0 } }.enter .head t.closing
  | .row => { m with table := { m.table with column := 0 } }.enter (.wrap .row) t.closing
  | .cell => m.enter (.cell m.table.inHead m.table.align) t.closing
  | .emphasis => m.enter (.wrap .emphasis) t.closing
  | .strong => m.enter (.wrap .strong) t.closing
  | .strikethrough => m.enter (.wrap .strikethrough) t.closing
  | .link href title => m.enter (.wrap (.link href (title? title))) t.closing
  | .image src title => { m.openImage with pending := some (src, title? title) }
  | .footnote | .metadata _ | .definitions | .term | .definition | .superscript | .subscript =>
    m.enter .through t.closing

def setHeader (m : Machine α σ) (row : α) : Machine α σ :=
  match m.stack with
  | ⟨some (.table _), closing, content⟩ :: ls =>
    { m with stack := ⟨some (.table row), closing, content⟩ :: ls }
  | _ => m

/-- Closes a layer that was popped. -/
def close (b : Builder α σ) (m : Machine α σ) (l : Layer α) : Machine α σ :=
  match l.role with
  | none | some .through => m.push l.content
  | some (.wrap w) => m.answer b (.wrap w l.content)
  | some (.heading level) =>
    { m with heading := none }.answer b
      (.wrap (.heading level.number (Text.trim (m.heading.getD ""))) l.content)
  | some .html => m.answer b (.html l.content)
  | some (.table header) => m.answer b (.table header l.content)
  | some .head =>
    let (row, state) := b (.wrap .row l.content) m.state
    { m with state, table := { m.table with inHead := false } }.setHeader row
  | some (.cell header align) =>
    { m with table := { m.table with column := m.table.column + 1 } }.answer b
      (.wrap (.cell header align) l.content)

/-- The innermost layer is popped before its end is looked at, and pushed back if that is another. -/
def stop (b : Builder α σ) (m : Machine α σ) (t : EndTag) : Machine α σ × Option CompileError :=
  match m.stack with
  | [] => (m, some (.unbalanced .document t))
  | l :: ls =>
    let popped := { m with stack := ls }
    if l.closing = some t then (popped.close b l, none)
    else
      ({ popped with stack := l :: popped.stack },
        some (.unbalanced (l.closing.elim .document .construct) t))

def softBreak (b : Builder α σ) (breaks : Bool) (m : Machine α σ) : Machine α σ :=
  if breaks then (m.note " ").answer b .lineBreak
  else (m.note " ").push (Content.verbatim "\n")

def flow (b : Builder α σ) (breaks : Bool) (m : Machine α σ) :
    Event → Machine α σ × Option CompileError
  | .start t => (m.start t, none)
  | .stop t => m.stop b t
  | .text s | .inlineMath s | .displayMath s => ((m.note s).answer b (.text s), none)
  | .code s => ((m.note s).answer b (.codeSpan s), none)
  | .html s => (m.htmlLine b s, none)
  | .inlineHtml s => (m.answer b (.html (Content.verbatim s)), none)
  | .softBreak => (m.softBreak b breaks, none)
  | .hardBreak => (m.answer b .lineBreak, none)
  | .rule => (m.answer b .rule, none)
  | .task checked => (m.answer b (.checkbox checked), none)
  | .footnoteReference _ => (m, none)

def closeCode (b : Builder α σ) (m : Machine α σ) : Machine α σ :=
  match m.code with
  | some (language, body) => { m with code := none }.answer b (.code body language)
  | none => m

def codeEvent (b : Builder α σ) (m : Machine α σ) : Event → Machine α σ × Option CompileError
  | .text s => ({ m with code := m.code.map fun (language, body) => (language, body ++ s) }, none)
  | .stop .code => (m.closeCode b, none)
  | .stop t => (m, some (.unbalanced .codeBlock t))
  | _ => (m, none)

def finishImage (b : Builder α σ) (m : Machine α σ) (alt : String) : Machine α σ :=
  match m.pending with
  | some (src, title) => { m with pending := none }.answer b (.image src title alt)
  | none => m

/-- Only the outermost image is answered. -/
def closeImage (b : Builder α σ) (m : Machine α σ) : Machine α σ :=
  let left := { m with images := m.images - 1 }
  if left.images = 0 then { left with alt := "" }.finishImage b m.alt else left

def imageEvent (b : Builder α σ) (m : Machine α σ) : Event → Machine α σ
  | .start (.image ..) => m.openImage
  | .stop .image => m.closeImage b
  | .text s | .code s => { m with alt := m.alt ++ s }
  | .softBreak | .hardBreak => { m with alt := m.alt ++ " " }
  | _ => m

/-- One event: the state after it, and the error if it fails. -/
def process (b : Builder α σ) (breaks : Bool) (m : Machine α σ) (e : Event) :
    Machine α σ × Option CompileError :=
  if 0 < m.images then (m.imageEvent b e, none)
  else if m.code.isSome then m.codeEvent b e
  else m.flow b breaks e

/-- The events up to the first that fails. -/
def run (b : Builder α σ) (breaks : Bool) (m : Machine α σ) :
    List Event → Machine α σ × Option CompileError
  | [] => (m, none)
  | e :: es =>
    match m.process b breaks e with
    | (m', none) => m'.run b breaks es
    | (m', some err) => (m', some err)

/-- The content of the layer that is left, unless constructs are open. The layers but one are counted,
which cannot be done where there is none. -/
def finish (m : Machine α σ) : Option (Except CompileError α) :=
  match m.stack with
  | [] => none
  | l :: ls =>
    let count := ls.length + (if m.code.isSome then 1 else 0) + (if 0 < m.images then 1 else 0)
    some (if count = 0 then .ok l.content else .error (.unclosed count))

/-- A code block or an image is open. -/
def Collecting (m : Machine α σ) : Prop :=
  m.code.isSome ∨ 0 < m.images

/-- Two machines agree in all but what is collected apart from the stack. -/
structure SameStack (m m' : Machine α σ) : Prop where
  stack : m'.stack = m.stack
  state : m'.state = m.state
  table : m'.table = m.table
  heading : m'.heading = m.heading

/-- What holds between the pieces of a machine that is run from the start. -/
structure Sound (m : Machine α σ) : Prop where
  /-- At the bottom is the document, and it alone has no role and waits for no end. -/
  bottom : ∃ above document, m.stack = above ++ [⟨none, none, document⟩] ∧
    ∀ l ∈ above, l.role.isSome ∧ l.closing.isSome
  image : 0 < m.images ↔ m.pending.isSome
  apart : ¬(m.code.isSome ∧ 0 < m.images)
  heading : m.heading.isSome → ∃ l ∈ m.stack, ∃ level, l.role = some (.heading level)

end Machine

/-! ## The layout of a pass -/

variable {α σ : Type}

def Frame.layer (x : Frame α) : Layer α :=
  ⟨some x.role, some x.closing, x.content⟩

namespace Capture

def code? : Capture → Option (Option String × String)
  | code language body => some (language, body)
  | image .. => none

def images : Capture → Nat
  | code .. => 0
  | image inner .. => inner + 1

def alt : Capture → String
  | code .. => ""
  | image _ _ _ alt => alt

def pending? : Capture → Option (String × Option String)
  | code .. => none
  | image _ src title _ => some (src, title)

end Capture

/-- A pass as a machine. -/
def Pass.layout (p : Pass α σ) : Machine α σ where
  state := p.state
  stack := p.frames.map Frame.layer ++ [⟨none, none, p.document⟩]
  code := p.capture.bind Capture.code?
  images := p.capture.elim 0 Capture.images
  alt := p.capture.elim "" Capture.alt
  pending := p.capture.bind Capture.pending?
  table := p.table
  heading := p.heading

namespace Machine

variable [Content α] {b : Builder α σ} {breaks : Bool} {p q : Pass α σ} {es : List Event}

theorem fresh_layout (s : σ) : (fresh s : Machine α σ) = (Pass.initial s).layout := rfl

/-! ### One operation after another -/

theorem push_layout (p : Pass α σ) (x : α) : p.layout.push x = (p.push x).layout := by
  obtain ⟨state, document, frames, capture, table, heading⟩ := p
  cases frames <;> rfl

theorem answer_layout (b : Builder α σ) (p : Pass α σ) (c : Construct α) :
    p.layout.answer b c = (p.answer b c).layout :=
  push_layout { p with state := (b c p.state).2 } (b c p.state).1

theorem start_layout (p : Pass α σ) (hc : p.capture = none) (t : Tag) :
    p.layout.start t = (p.start t).layout := by
  obtain ⟨state, document, frames, capture, table, heading⟩ := p
  subst hc
  cases t <;> rfl

theorem htmlLine_layout (b : Builder α σ) (p : Pass α σ) (s : String) :
    p.layout.htmlLine b s = (p.htmlLine b s).layout := by
  have hanswer := answer_layout b p (.html (Content.verbatim s))
  have hpush := push_layout p (Content.verbatim s)
  obtain ⟨state, document, frames, capture, table, heading⟩ := p
  match frames with
  | [] => exact hanswer
  | ⟨role, closing, content⟩ :: fs =>
    cases role with
    | html => exact hpush
    | _ => exact hanswer

omit [Content α] in
theorem setHeader_layout (p : Pass α σ) (row : α) :
    p.layout.setHeader row = (p.setHeader row).layout := by
  obtain ⟨state, document, frames, capture, table, heading⟩ := p
  match frames with
  | [] => rfl
  | ⟨role, closing, content⟩ :: fs => cases role <;> rfl

theorem close_layout (b : Builder α σ) (p : Pass α σ) (x : Frame α) :
    p.layout.close b x.layer = (p.close b x).layout := by
  obtain ⟨role, closing, content⟩ := x
  cases role with
  | wrap w => exact answer_layout b p (.wrap w content)
  | heading l => exact answer_layout b { p with heading := none } (.wrap _ content)
  | html => exact answer_layout b p (.html content)
  | table header => exact answer_layout b p (.table header content)
  | head =>
    exact setHeader_layout
      { p with
        state := (b (.wrap .row content) p.state).2
        table := { p.table with inHead := false } } (b (.wrap .row content) p.state).1
  | cell header align =>
    exact answer_layout b { p with table := { p.table with column := p.table.column + 1 } }
      (.wrap (.cell header align) content)
  | through => exact push_layout p content

/-- How the machine tells what a pass answers: with the state before the event if it fails. -/
def told (p : Pass α σ) : Except CompileError (Pass α σ) → Machine α σ × Option CompileError
  | .ok q => (q.layout, none)
  | .error err => (p.layout, some err)

/-- Popping and pushing back leaves the stack as it was, and the document is never closed. -/
theorem stop_layout (b : Builder α σ) (p : Pass α σ) (t : EndTag) :
    p.layout.stop b t = told p (p.stop b t) := by
  obtain ⟨state, document, frames, capture, table, heading⟩ := p
  match frames with
  | [] => rfl
  | x :: fs =>
    let rest : Pass α σ := ⟨state, document, fs, capture, table, heading⟩
    let p : Pass α σ := ⟨state, document, x :: fs, capture, table, heading⟩
    change p.layout.stop b t = told p (p.stop b t)
    by_cases hx : x.closing = t
    · have hpass : p.stop b t = .ok (rest.close b x) := if_pos hx
      have hmachine : p.layout.stop b t = (rest.layout.close b x.layer, none) :=
        if_pos (congrArg some hx)
      rw [hpass, hmachine, close_layout, told]
    · have hpass : p.stop b t = .error (.unbalanced (.construct x.closing) t) := if_neg hx
      have hmachine : p.layout.stop b t = (p.layout, some (.unbalanced (.construct x.closing) t)) :=
        if_neg fun h => hx (Option.some.inj h)
      rw [hpass, hmachine, told]

theorem softBreak_layout (b : Builder α σ) (breaks : Bool) (p : Pass α σ) :
    p.layout.softBreak b breaks = (p.softBreak b breaks).layout := by
  cases breaks with
  | true => exact answer_layout b (p.note " ") .lineBreak
  | false => exact push_layout (p.note " ") (Content.verbatim "\n")

/-! ### One event after another -/

theorem flow_layout (hc : p.capture = none) (e : Event) :
    p.layout.flow b breaks e = told p (p.flow b breaks e) := by
  have hok {m : Machine α σ} {q : Pass α σ} (h : m = q.layout) : (m, none) = told p (.ok q) := by
    rw [h, told]
  cases e with
  | start t => exact hok (start_layout p hc t)
  | stop t => exact stop_layout b p t
  | text s | inlineMath s | displayMath s => exact hok (answer_layout b (p.note s) (.text s))
  | code s => exact hok (answer_layout b (p.note s) (.codeSpan s))
  | html s => exact hok (htmlLine_layout b p s)
  | inlineHtml s => exact hok (answer_layout b p (.html (Content.verbatim s)))
  | softBreak => exact hok (softBreak_layout b breaks p)
  | hardBreak => exact hok (answer_layout b p .lineBreak)
  | rule => exact hok (answer_layout b p .rule)
  | task checked => exact hok (answer_layout b p (.checkbox checked))
  | footnoteReference label => rfl

theorem codeEvent_layout {language : Option String} {body : String}
    (hc : p.capture = some (.code language body)) (e : Event) :
    p.layout.codeEvent b e = told p (p.codeBlock b language body e) := by
  have hclose := answer_layout b { p with capture := none } (.code body language)
  obtain ⟨state, document, frames, capture, table, heading⟩ := p
  subst hc
  cases e with
  | stop t =>
    cases t with
    | code => exact congrArg (·, none) hclose
    | _ => rfl
  | _ => rfl

/-- What is kept for the image is there when the outermost one ends. -/
theorem closeImage_layout {inner : Nat} {src : String} {title : Option String} {alt : String}
    (hc : p.capture = some (.image inner src title alt)) :
    p.layout.closeImage b = (p.imageAlt b inner src title alt (.stop .image)).layout := by
  have hclose := answer_layout b { p with capture := none } (.image src title alt)
  obtain ⟨state, document, frames, capture, table, heading⟩ := p
  subst hc
  cases inner with
  | zero => exact hclose
  | succ n => rfl

theorem imageEvent_layout {inner : Nat} {src : String} {title : Option String} {alt : String}
    (hc : p.capture = some (.image inner src title alt)) (e : Event) :
    p.layout.imageEvent b e = (p.imageAlt b inner src title alt e).layout := by
  have hclose := closeImage_layout (b := b) hc
  obtain ⟨state, document, frames, capture, table, heading⟩ := p
  subst hc
  cases e with
  | start t => cases t <;> rfl
  | stop t =>
    cases t with
    | image => exact hclose
    | _ => rfl
  | _ => rfl

/-- **One event does to the machine what it does to the pass**, and leaves it alone if it fails. -/
theorem process_layout (b : Builder α σ) (breaks : Bool) (p : Pass α σ) (e : Event) :
    p.layout.process b breaks e = told p (p.step b breaks e) := by
  match hc : p.capture with
  | none =>
    have hm : p.layout.process b breaks e = p.layout.flow b breaks e := by
      simp [process, Pass.layout, hc]
    rw [hm, flow_layout hc, Pass.step, hc]
  | some (.code language body) =>
    have hm : p.layout.process b breaks e = p.layout.codeEvent b e := by
      simp [process, Pass.layout, hc, Capture.images, Capture.code?]
    rw [hm, codeEvent_layout hc, Pass.step, hc]
  | some (.image inner src title alt) =>
    have hm : p.layout.process b breaks e = (p.layout.imageEvent b e, none) := by
      simp [process, Pass.layout, hc, Capture.images]
    rw [hm, imageEvent_layout hc, Pass.step, hc, told]

theorem run_layout (b : Builder α σ) (breaks : Bool) (p : Pass α σ) (es : List Event) :
    p.layout.run b breaks es = ((p.run b breaks es).1.layout, (p.run b breaks es).2) := by
  induction es generalizing p with
  | nil => rfl
  | cons e es ih =>
    unfold run Pass.run
    rw [process_layout]
    cases p.step b breaks e with
    | ok q => exact ih q
    | error err => rfl

omit [Content α] in
theorem finish_layout (p : Pass α σ) : p.layout.finish = some p.finish := by
  obtain ⟨state, document, frames, capture, table, heading⟩ := p
  match capture with
  | none => cases frames <;> simp [finish, Pass.layout, Pass.finish, Pass.depth]
  | some (.code language body) =>
    cases frames <;>
      simp [finish, Pass.layout, Pass.finish, Pass.depth, Capture.code?, Capture.images]
  | some (.image inner src title alt) =>
    cases frames <;>
      simp [finish, Pass.layout, Pass.finish, Pass.depth, Capture.code?, Capture.images]

end Machine

/-! ## What is collected apart -/

namespace Pass

variable [Content α] {b : Builder α σ} {breaks : Bool} {p q : Pass α σ}

/-- While a code block or an image stays open, nothing else changes. -/
theorem rests_step {e : Event} (hp : p.capture.isSome) (h : p.step b breaks e = .ok q)
    (hq : q.capture.isSome) : q = { p with capture := q.capture } := by
  cases turn_of_step h with
  | start t hc => simp [hc] at hp
  | stop hc hf => simp [hc] at hp
  | leaf s hc he ha => simp [hc] at hp
  | collect hc next => rfl
  | finish hc ha => simp [ha.capture] at hq

/-- A code block or an image that does not close with an event asks no builder. -/
theorem step_of_rests {e : Event} (hp : p.capture.isSome)
    (hq : ∀ q, p.step b breaks e = .ok q → q.capture.isSome) (d : Builder α σ) :
    p.step d breaks e = p.step b breaks e := by
  -- The answer to what closes would leave nothing collected.
  have hclose {c : Construct α} (h : p.step b breaks e = .ok ({ p with capture := none }.answer b c)) :
      False := by
    have hsome := hq _ h
    rw [(alike_answer b _ c).capture] at hsome
    cases hsome
  match hc : p.capture with
  | none => simp [hc] at hp
  | some (.code language body) =>
    rw [step, step, hc]
    rw [step, hc] at hclose
    cases e with
    | stop t =>
      cases t with
      | code => exact (hclose rfl).elim
      | _ => rfl
    | _ => rfl
  | some (.image inner src title alt) =>
    rw [step, step, hc]
    rw [step, hc] at hclose
    cases e with
    | start t => cases t <;> rfl
    | stop t =>
      cases t with
      | image =>
        cases inner with
        | zero => exact (hclose rfl).elim
        | succ n => rfl
      | _ => rfl
    | _ => rfl

theorem rests_run {fs : List Event}
    (h : ∀ gs, gs <+: fs → (p.run b breaks gs).1.capture.isSome) :
    (∃ c, (p.run b breaks fs).1 = { p with capture := c }) ∧
      ∀ d : Builder α σ, p.run d breaks fs = p.run b breaks fs := by
  induction fs generalizing p with
  | nil => exact ⟨⟨p.capture, rfl⟩, fun _ => rfl⟩
  | cons e fs ih =>
    have hp : p.capture.isSome := h [] List.nil_prefix
    have hq (q : Pass α σ) (hs : p.step b breaks e = .ok q) : q.capture.isSome := by
      have hone := h [e] (List.prefix_append [e] fs)
      rwa [run, hs] at hone
    have hd (d : Builder α σ) : p.step d breaks e = p.step b breaks e := step_of_rests hp hq d
    cases hs : p.step b breaks e with
    | error err =>
      refine ⟨⟨p.capture, by rw [run, hs]⟩, fun d => ?_⟩
      rw [run, run, hd, hs]
    | ok q =>
      have hrest (gs : List Event) (hgs : gs <+: fs) : (q.run b breaks gs).1.capture.isSome := by
        have hlong := h (e :: gs) (List.cons_prefix_cons.2 ⟨rfl, hgs⟩)
        rwa [run, hs] at hlong
      obtain ⟨⟨c, hc⟩, hall⟩ := ih hrest
      refine ⟨⟨c, ?_⟩, fun d => ?_⟩
      · rw [run, hs, hc, rests_step hp hs (hq q hs)]
      · rw [run, run, hd, hs]
        exact hall d

end Pass

/-! ## The machine along a run -/

namespace Machine

variable [Content α] {b : Builder α σ} {breaks : Bool} {p : Pass α σ} {es : List Event}

omit [Content α] in
theorem collecting_layout : p.layout.Collecting ↔ p.capture.isSome := by
  match hc : p.capture with
  | none => simp [Collecting, Pass.layout, hc]
  | some (.code language body) => simp [Collecting, Pass.layout, hc, Capture.code?]
  | some (.image inner src title alt) => simp [Collecting, Pass.layout, hc, Capture.images]

omit [Content α] in
theorem sound_layout (h : p.Titled) : p.layout.Sound where
  bottom := ⟨p.frames.map Frame.layer, p.document, rfl, by simp [Frame.layer]⟩
  image := by
    match hc : p.capture with
    | none => simp [Pass.layout, hc]
    | some (.code language body) => simp [Pass.layout, hc, Capture.images, Capture.pending?]
    | some (.image inner src title alt) => simp [Pass.layout, hc, Capture.images, Capture.pending?]
  apart := by
    match hc : p.capture with
    | none => simp [Pass.layout, hc]
    | some (.code language body) => simp [Pass.layout, hc, Capture.images]
    | some (.image inner src title alt) => simp [Pass.layout, hc, Capture.code?]
  heading := by
    intro hs
    obtain ⟨y, hy, hheading⟩ := h hs
    obtain ⟨x, hx, rfl⟩ := List.mem_map.1 hy
    rw [Pass.isHeading_map] at hheading
    refine ⟨x.layer, List.mem_append_left _ (List.mem_map_of_mem hx), ?_⟩
    obtain ⟨role, closing, content⟩ := x
    cases role with
    | heading level => exact ⟨level, rfl⟩
    | _ => cases hheading

/-- **The machine is sound along every run.** It goes the way of the pass, and its layers can be counted at
the end. From then on it rests while something is collected, whatever builder it is run with, and an
event that fails leaves it as it was. -/
theorem sound_run {s : σ} (h : Pass.run b breaks (.initial s) es = (p, none)) :
    (fresh s).run b breaks es = (p.layout, none) ∧
    p.layout.Sound ∧
    p.layout.finish = some p.finish ∧
    (∀ fs, (∀ gs, gs <+: fs → (p.layout.run b breaks gs).1.Collecting) →
      p.layout.SameStack (p.layout.run b breaks fs).1 ∧
      ∀ d : Builder α σ, p.layout.run d breaks fs = p.layout.run b breaks fs) ∧
    ∀ e m err, p.layout.process b breaks e = (m, some err) →
      m = p.layout ∧ p.step b breaks e = .error err := by
  refine ⟨?_, ?_, finish_layout p, fun fs hfs => ?_, fun e m err he => ?_⟩
  · rw [fresh_layout, run_layout, h]
  · exact sound_layout (Pass.titled_run (fun hs => by cases hs) h)
  · have hrests (gs : List Event) (hgs : gs <+: fs) : (p.run b breaks gs).1.capture.isSome := by
      have hcollecting := hfs gs hgs
      rwa [run_layout, collecting_layout] at hcollecting
    obtain ⟨⟨c, hc⟩, hall⟩ := Pass.rests_run hrests
    refine ⟨?_, fun d => ?_⟩
    · rw [run_layout, hc]
      exact ⟨rfl, rfl, rfl, rfl⟩
    · rw [run_layout, run_layout, hall]
  · rw [process_layout] at he
    cases hs : p.step b breaks e with
    | ok q => simp [hs, told] at he
    | error err' =>
      rw [hs, told, Prod.mk.injEq, Option.some.injEq] at he
      exact ⟨he.1.symm, congrArg _ he.2⟩

/-- A code block inside a heading, with a builder that counts its answers: none comes while the block is
open, and the end of the heading fails there without a trace. -/
theorem sound_run_code_in_heading :
    let b : Builder String Nat := fun _ count => ("x", count + 1)
    let es : List Event := [.start (.heading 0), .text "a", .start (.code none)]
    ∃ p, Pass.run b false (.initial 0) es = (p, none) ∧
      (fresh 0).run b false es = (p.layout, none) ∧
      p.layout.Sound ∧
      p.layout.finish = some (.error (.unclosed 2)) ∧
      (p.layout.run b false [.text "b", .rule]).1.state = 1 ∧
      (p.layout.run b false [.text "b", .rule]).1.stack = p.layout.stack ∧
      p.layout.process b false (.stop (.heading 0)) =
        (p.layout, some (.unbalanced .codeBlock (.heading 0))) := by
  intro b es
  have h : Pass.run b false (.initial 0) es = ((Pass.run b false (.initial 0) es).1, none) := rfl
  obtain ⟨hrun, hsound, hfinish, hrests, hfails⟩ := sound_run h
  have hcollecting (gs : List Event) (hgs : gs <+: [.text "b", .rule]) :
      ((Pass.run b false (.initial 0) es).1.layout.run b false gs).1.Collecting := by
    simp only [List.prefix_cons_iff, List.prefix_nil] at hgs
    obtain rfl | ⟨_, rfl, rfl | ⟨_, rfl, rfl⟩⟩ := hgs
    all_goals exact .inl rfl
  obtain ⟨hsame, -⟩ := hrests _ hcollecting
  have hstop : (Pass.run b false (.initial 0) es).1.layout.process b false (.stop (.heading 0)) =
      (_, some (.unbalanced .codeBlock (.heading 0))) := rfl
  refine ⟨_, h, hrun, hsound, hfinish, ?_, hsame.stack, ?_⟩
  · rw [hsame.state]
    rfl
  · rw [hstop, (hfails _ _ _ hstop).1]

end Machine
end Marktree.Compile
