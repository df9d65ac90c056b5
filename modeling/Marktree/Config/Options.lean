/-!
# Formats and options

A format is how an input text is read. The options are seven switches: the same record holds the effective
options (every switch on or off) and the overrides over them (every switch on, off or unset).
-/
namespace Marktree

inductive Format
  /-- Lines of plain text. -/
  | plain
  | markdown
  deriving Repr, DecidableEq, Inhabited

namespace Format

/-- Only the exact name `plain` means plain text. -/
def named (s : String) : Format :=
  if s = "plain" then plain else markdown

def name : Format → String
  | plain => "plain"
  | markdown => "markdown"

theorem named_name (f : Format) : named f.name = f := by
  cases f <;> decide

end Format

/-! ## Options -/

/-- A value for every switch. -/
structure Switches (α : Type) where
  /-- GitHub flavoured extensions: tables, strikethrough, task lists, quote kinds. -/
  gfm : α
  /-- Line breaks inside a paragraph are kept. -/
  breaks : α
  /-- The rules of the first markdown; no extensions. -/
  pedantic : α
  /-- A new list where the bullet character changes. -/
  smartLists : α
  /-- Restricted destinations, and raw html as text. -/
  sanitize : α
  /-- Typographic quotes, dashes and ellipses. -/
  smartypants : α
  /-- Failures are rendered. -/
  silent : α
  deriving Repr, DecidableEq, Inhabited

/-- The names of the switches. -/
inductive Switch
  | gfm | breaks | pedantic | smartLists | sanitize | smartypants | silent
  deriving Repr, DecidableEq, Inhabited

namespace Switch

def all : List Switch :=
  [gfm, breaks, pedantic, smartLists, sanitize, smartypants, silent]

def name : Switch → String
  | gfm => "gfm"
  | breaks => "breaks"
  | pedantic => "pedantic"
  | smartLists => "smartLists"
  | sanitize => "sanitize"
  | smartypants => "smartypants"
  | silent => "silent"

/-- One switch has a second spelling. -/
def named? (s : String) : Option Switch :=
  if s = "smart_lists" then some smartLists else all.find? (·.name = s)

end Switch

namespace Switches

def get (s : Switches α) : Switch → α
  | .gfm => s.gfm
  | .breaks => s.breaks
  | .pedantic => s.pedantic
  | .smartLists => s.smartLists
  | .sanitize => s.sanitize
  | .smartypants => s.smartypants
  | .silent => s.silent

def ofFn (f : Switch → α) : Switches α where
  gfm := f .gfm
  breaks := f .breaks
  pedantic := f .pedantic
  smartLists := f .smartLists
  sanitize := f .sanitize
  smartypants := f .smartypants
  silent := f .silent

def set (s : Switches α) (k : Switch) (a : α) : Switches α :=
  ofFn fun j => if j = k then a else s.get j

def map (f : α → β) (s : Switches α) : Switches β :=
  ofFn fun k => f (s.get k)

def zipWith (f : α → β → γ) (s : Switches α) (t : Switches β) : Switches γ :=
  ofFn fun k => f (s.get k) (t.get k)

end Switches

abbrev Options := Switches Bool

abbrev Overrides := Switches (Option Bool)

namespace Overrides

/-- Nothing is set. -/
def empty : Overrides :=
  .ofFn fun _ => none

/-- What `top` sets wins over what `base` sets. -/
def extend (base top : Overrides) : Overrides :=
  base.zipWith (fun b t => t <|> b) top

end Overrides

namespace Options

def default : Options where
  gfm := true
  breaks := false
  pedantic := false
  smartLists := true
  sanitize := false
  smartypants := false
  silent := false

/-- What is unset keeps its value. -/
def apply (o : Options) (overrides : Overrides) : Options :=
  o.zipWith (fun b v => v.getD b) overrides

/-- The defaults with overrides. -/
def merged (overrides : Overrides) : Options :=
  default.apply overrides

/-- Pedantic mode wins over the extensions. -/
def extensions (o : Options) : Bool :=
  o.gfm && !o.pedantic

end Options

end Marktree
