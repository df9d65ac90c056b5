import Marktree.Config.Assignment
import Marktree.Toml.Document

/-!
# Configuration files

A configuration names a format and sets options. Keys that it does not know are passed over. What the
command line sets wins over what the file sets, and that wins over the defaults.
-/
namespace Marktree

/-- A format and overrides over the default options. -/
structure Config where
  format : Format := .markdown
  overrides : Overrides := .empty
  /-- The file that was read. -/
  path : Option String := none
  deriving Repr, DecidableEq, Inhabited

namespace Config

/-- The effective options. -/
def options (c : Config) : Options :=
  .merged c.overrides

/-- The format under its key. -/
def formatOf? (es : Toml.Entries) : Option Format :=
  match es.lookup "format" with
  | none => some .markdown
  | some (.string s) => some (.named s)
  | some _ => none

/-- A switch is on or off. -/
def switchOf? : Toml.Value → Option Bool
  | .bool b => some b
  | _ => none

/-- Sets the switches that a table names; one switch is set once, also if it has two names. -/
def overridesOfTable? (es : Toml.Entries) : Option Overrides :=
  es.foldlM
    (fun o (key, v) =>
      match Switch.named? key with
      | none => some o
      | some k => if (o.get k).isSome then none else (switchOf? v).map fun b => o.set k (some b))
    .empty

/-- Sets the switches in their order. -/
def overridesOfArray? (items : List Toml.Value) : Option Overrides :=
  (Switch.all.zip items).foldlM (fun o (k, v) => (switchOf? v).map fun b => o.set k (some b)) .empty

/-- The options under their key. -/
def overridesOf? (es : Toml.Entries) : Option Overrides :=
  match es.lookup "options" with
  | none => some .empty
  | some (.table _ es) => overridesOfTable? es
  | some (.array _ items) => overridesOfArray? items
  | some _ => none

/-- The configuration that a text writes. -/
def parse? (s : String) : Option Config := do
  let es ← Toml.parse? s.toList
  return { format := ← formatOf? es, overrides := ← overridesOf? es }

/-! ## Loading -/

def read (fs : Files) (path : String) : Except ConfigError Config :=
  match fs.text path with
  | .error e => .error (.unreadable e)
  | .ok text =>
    match parse? text with
    | none => .error .malformed
    | some c => .ok { c with path := some path }

/-- The configuration of a file that was asked for, or of the nearest one, if there is any. -/
def base (fs : Files) : Option String → Except ConfigError Config
  | some path => if fs.has path then read fs path else .error (.notFound path)
  | none =>
    match fs.nearestConfig with
    | some path => read fs path
    | none => .ok {}

/-- A format and overrides over those of the configuration. -/
def layer (c : Config) (format : Option Format) (overrides : Overrides) : Config :=
  { c with format := format.getD c.format, overrides := c.overrides.extend overrides }

def load (fs : Files) (path : Option String) (format : Option Format) (overrides : Overrides) :
    Except ConfigError Config := do
  return (← base fs path).layer format overrides

/-- The assignments are read before the file. -/
def configure (fs : Files) (path : Option String) (format : Option Format)
    (assignments : List String) : Except ConfigError Config := do
  load fs path format (← Overrides.empty.assignAll assignments)

end Config

end Marktree
