import Marktree.Config.Options
import Marktree.Markup.Basic
import Marktree.Text.Basic

/-!
# Compilation

Events are compiled with a builder in one pass over a stack of frames, one per open construct. A
construct that closes is handed to the builder with the content of its frame, and the answer goes
into the frame around it. The bodies of code blocks and the alternative texts of images are
collected apart; while that lasts, the frames rest.
-/
namespace Marktree

/-! ## Errors -/

/-- What could have been closed instead. -/
inductive Pending
  | construct (tag : EndTag)
  | codeBlock
  | document
  deriving Repr, DecidableEq, Inhabited

def Pending.name : Pending → String
  | construct t => "end of " ++ t.name
  | codeBlock => "end of code block"
  | document => "end of document"

inductive CompileError
  /-- An end that does not close the innermost construct. -/
  | unbalanced (expected : Pending) (found : EndTag)
  /-- The events are over and constructs are still open. -/
  | unclosed (count : Nat)
  deriving Repr, DecidableEq, Inhabited

namespace CompileError

def message : CompileError → String
  | unbalanced expected found =>
    "unbalanced markdown events: expected " ++ expected.name ++ ", found end of " ++ found.name
  | unclosed count => "markdown events ended with " ++ toString count ++ " construct(s) still open"

end CompileError

end Marktree

/-! ## Passes -/

namespace Marktree.Compile

/-- How the content of a frame is handled when its construct closes. -/
inductive Role (α : Type)
  | wrap (wrapper : Wrapper)
  | heading (level : Level)
  | html
  /-- The head of a table is kept apart from its rows. -/
  | table (header : α)
  | head
  | cell (header : Bool) (align : Option Align)
  /-- The content goes into the frame around as it is. -/
  | through
  deriving Repr, DecidableEq, Inhabited

/-- An open construct, the end it waits for, and its content so far. -/
structure Frame (α : Type) where
  role : Role α
  closing : EndTag
  content : α
  deriving Repr, DecidableEq, Inhabited

/-- What is collected apart from the frames. -/
inductive Capture
  | code (language : Option String) (body : String)
  /-- An image with the number of images open inside it. -/
  | image (inner : Nat) (src : String) (title : Option String) (alt : String)
  deriving Repr, DecidableEq, Inhabited

/-- The place in the current table. -/
structure TablePlace where
  columns : List (Option Align) := []
  inHead : Bool := false
  column : Nat := 0
  deriving Repr, DecidableEq, Inhabited

/-- The alignment that the source gives for the current column. -/
def TablePlace.align (t : TablePlace) : Option Align :=
  t.columns[t.column]?.join

/-- The place before a table; `auto` is no alignment that the source gives. -/
def TablePlace.before (columns : List (Option Align)) : TablePlace :=
  { columns := columns.map (·.filter (· != .auto)) }

/-- A compilation under way: the content of the document, the open frames from the inside out, the
state of the builder, and what spans several frames. -/
structure Pass (α σ : Type) where
  state : σ
  document : α
  frames : List (Frame α) := []
  capture : Option Capture := none
  table : TablePlace := {}
  /-- The plain text of the open heading. -/
  heading : Option String := none
  deriving Repr

/-- An empty title is none. -/
def title? (s : String) : Option String :=
  if s.isEmpty then none else some s

/-- The language of a code block is the first word of its info string. -/
def language? (info : Option String) : Option String :=
  info.bind fun s => (Text.words s.toList).head?.map String.ofList

namespace Pass

variable {α σ : Type} [Content α]

/-- The pass before the first event. -/
def initial (s : σ) : Pass α σ :=
  { state := s, document := Content.empty }

/-- Adds to the innermost open frame, or to the document. -/
def push (p : Pass α σ) (x : α) : Pass α σ :=
  match p.frames with
  | [] => { p with document := Content.append p.document x }
  | f :: fs => { p with frames := { f with content := Content.append f.content x } :: fs }

/-- Adds the answer of the builder to a construct. -/
def answer (b : Builder α σ) (p : Pass α σ) (c : Construct α) : Pass α σ :=
  let (x, state) := b c p.state
  { p with state }.push x

/-- Adds to the plain text of the heading, if one is open. -/
def note (p : Pass α σ) (s : String) : Pass α σ :=
  { p with heading := p.heading.map (· ++ s) }

def enter (p : Pass α σ) (role : Role α) (closing : EndTag) : Pass α σ :=
  { p with frames := ⟨role, closing, Content.empty⟩ :: p.frames }

def text (b : Builder α σ) (p : Pass α σ) (s : String) : Pass α σ :=
  (p.note s).answer b (.text s)

/-- A line of an html block waits in its frame for the others. -/
def htmlLine (b : Builder α σ) (p : Pass α σ) (s : String) : Pass α σ :=
  match p.frames with
  | ⟨.html, _, _⟩ :: _ => p.push (Content.verbatim s)
  | _ => p.answer b (.html (Content.verbatim s))

def start (p : Pass α σ) (t : Tag) : Pass α σ :=
  match t with
  | .paragraph => p.enter (.wrap .paragraph) t.closing
  | .heading l => { p with heading := some "" }.enter (.heading l) t.closing
  | .quote _ => p.enter (.wrap .quote) t.closing
  | .code info => { p with capture := some (.code (language? info) "") }
  | .html => p.enter .html t.closing
  | .list first => p.enter (.wrap (.list first.isSome first)) t.closing
  | .item => p.enter (.wrap .item) t.closing
  | .table columns =>
    { p with table := .before columns }.enter (.table Content.empty) t.closing
  | .head => { p with table := { p.table with inHead := true, column := 0 } }.enter .head t.closing
  | .row => { p with table := { p.table with column := 0 } }.enter (.wrap .row) t.closing
  | .cell => p.enter (.cell p.table.inHead p.table.align) t.closing
  | .emphasis => p.enter (.wrap .emphasis) t.closing
  | .strong => p.enter (.wrap .strong) t.closing
  | .strikethrough => p.enter (.wrap .strikethrough) t.closing
  | .link href title => p.enter (.wrap (.link href (title? title))) t.closing
  | .image src title => { p with capture := some (.image 0 src (title? title) "") }
  | .footnote | .metadata _ | .definitions | .term | .definition | .superscript | .subscript =>
    p.enter .through t.closing

/-- A row becomes the head of the table around it. -/
def setHeader (p : Pass α σ) (row : α) : Pass α σ :=
  match p.frames with
  | ⟨.table _, closing, content⟩ :: fs => { p with frames := ⟨.table row, closing, content⟩ :: fs }
  | _ => p

/-- Closes a frame that is no longer on the stack. -/
def close (b : Builder α σ) (p : Pass α σ) (f : Frame α) : Pass α σ :=
  match f.role with
  | .wrap w => p.answer b (.wrap w f.content)
  | .heading l =>
    { p with heading := none }.answer b
      (.wrap (.heading l.number (Text.trim (p.heading.getD ""))) f.content)
  | .html => p.answer b (.html f.content)
  | .table header => p.answer b (.table header f.content)
  | .head =>
    let (row, state) := b (.wrap .row f.content) p.state
    { p with state, table := { p.table with inHead := false } }.setHeader row
  | .cell header align =>
    { p with table := { p.table with column := p.table.column + 1 } }.answer b
      (.wrap (.cell header align) f.content)
  | .through => p.push f.content

def stop (b : Builder α σ) (p : Pass α σ) (t : EndTag) : Except CompileError (Pass α σ) :=
  match p.frames with
  | [] => .error (.unbalanced .document t)
  | f :: fs =>
    if f.closing = t then .ok ({ p with frames := fs }.close b f)
    else .error (.unbalanced (.construct f.closing) t)

/-- A line end inside a paragraph is a break where breaks are kept. -/
def softBreak (b : Builder α σ) (breaks : Bool) (p : Pass α σ) : Pass α σ :=
  if breaks then (p.note " ").answer b .lineBreak
  else (p.note " ").push (Content.verbatim "\n")

/-- Outside of code blocks and images. -/
def flow (b : Builder α σ) (breaks : Bool) (p : Pass α σ) :
    Event → Except CompileError (Pass α σ)
  | .start t => .ok (p.start t)
  | .stop t => p.stop b t
  | .text s | .inlineMath s | .displayMath s => .ok (p.text b s)
  | .code s => .ok ((p.note s).answer b (.codeSpan s))
  | .html s => .ok (p.htmlLine b s)
  | .inlineHtml s => .ok (p.answer b (.html (Content.verbatim s)))
  | .softBreak => .ok (p.softBreak b breaks)
  | .hardBreak => .ok (p.answer b .lineBreak)
  | .rule => .ok (p.answer b .rule)
  | .task checked => .ok (p.answer b (.checkbox checked))
  | .footnoteReference _ => .ok p

/-- In a code block only text counts. -/
def codeBlock (b : Builder α σ) (p : Pass α σ) (language : Option String) (body : String) :
    Event → Except CompileError (Pass α σ)
  | .text s => .ok { p with capture := some (.code language (body ++ s)) }
  | .stop .code => .ok ({ p with capture := none }.answer b (.code body language))
  | .stop t => .error (.unbalanced .codeBlock t)
  | _ => .ok p

/-- In an image only text counts, also that of images inside it; a break counts as a blank. -/
def imageAlt (b : Builder α σ) (p : Pass α σ) (inner : Nat) (src : String) (title : Option String)
    (alt : String) : Event → Pass α σ
  | .start (.image ..) => { p with capture := some (.image (inner + 1) src title alt) }
  | .stop .image =>
    match inner with
    | 0 => { p with capture := none }.answer b (.image src title alt)
    | n + 1 => { p with capture := some (.image n src title alt) }
  | .text s | .code s => { p with capture := some (.image inner src title (alt ++ s)) }
  | .softBreak | .hardBreak => { p with capture := some (.image inner src title (alt ++ " ")) }
  | _ => p

def step (b : Builder α σ) (breaks : Bool) (p : Pass α σ) (e : Event) :
    Except CompileError (Pass α σ) :=
  match p.capture with
  | none => p.flow b breaks e
  | some (.code language body) => p.codeBlock b language body e
  | some (.image inner src title alt) => .ok (p.imageAlt b inner src title alt e)

/-- The pass after the events up to the first that fails, with the error of that one. -/
def run (b : Builder α σ) (breaks : Bool) (p : Pass α σ) :
    List Event → Pass α σ × Option CompileError
  | [] => (p, none)
  | e :: es =>
    match p.step b breaks e with
    | .ok q => q.run b breaks es
    | .error err => (p, some err)

/-- The number of open constructs. -/
def depth (p : Pass α σ) : Nat :=
  p.frames.length + if p.capture.isSome then 1 else 0

/-- The content of the document, unless constructs are still open. -/
def finish (p : Pass α σ) : Except CompileError α :=
  if p.depth = 0 then .ok p.document else .error (.unclosed p.depth)

end Pass

end Marktree.Compile

namespace Marktree

/-- Compiles events with a builder that starts in the state `s`; the state that it ends in, also
after an error, comes with the result. -/
def build {α σ : Type} [Content α] (b : Builder α σ) (breaks : Bool) (s : σ) (events : List Event) :
    Except CompileError α × σ :=
  match Compile.Pass.run b breaks (.initial s) events with
  | (p, none) => (p.finish, p.state)
  | (p, some err) => (.error err, p.state)

/-- Compiles events with a markup. -/
def compile {σ : Type} (m : Markup σ) (o : Options) (s : σ) (events : List Event) :
    Except CompileError String × σ :=
  build (m.builder o.sanitize) o.breaks s events

end Marktree
