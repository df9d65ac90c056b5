import Marktree.Config.Options
import Marktree.Files
import Marktree.Text.Basic

/-!
# Assignments

Overrides set from text, a key and a value or `key=value`, and the errors of configurations.
-/
namespace Marktree

inductive ConfigError
  /-- The file that was asked for does not exist. -/
  | notFound (path : String)
  | unreadable (cause : FileError)
  /-- The file is no configuration. -/
  | malformed
  | unknownOption (key : String)
  | invalidValue (key value : String)
  | notAssignment (text : String)
  deriving Repr, DecidableEq, Inhabited

def ConfigError.message : ConfigError → String
  | notFound path => "Configuration file not found: " ++ path
  | unreadable cause => "I/O error: " ++ cause.message
  | malformed => "TOML parse error"
  | unknownOption key => "Unknown option: " ++ key
  | invalidValue key value =>
    "Invalid value for " ++ key ++ ": `" ++ value ++ "` (expected true or false)"
  | notAssignment text => "Configuration error: expected key=value, got `" ++ text ++ "`"

/-! ## Setting switches -/

/-- A change of overrides in place. When it fails, the overrides that it leaves come with the error. -/
abbrev Edit :=
  EStateM ConfigError Overrides Unit

namespace Edit

/-- Exactly `true` and `false` are truth values. -/
def truth? (s : String) : Option Bool :=
  if s = "true" then some true else if s = "false" then some false else none

/-- Sets one switch; blanks around the key and the value do not count. A bad value is found before
a bad key. -/
def set (key value : String) : Edit := do
  match truth? (Text.trim value) with
  | none => throw (.invalidValue key value)
  | some b =>
    match Switch.named? (Text.trim key) with
    | none => throw (.unknownOption (Text.trim key))
    | some k => modify (·.set k (some b))

/-- The key and the value are what stands before and after the first equals sign. -/
def assign (s : String) : Edit :=
  match s.toList.dropWhile (· != '=') with
  | [] => throw (.notAssignment s)
  | _ :: value => set (String.ofList (s.toList.takeWhile (· != '='))) (String.ofList value)

/-- What the overrides become, if the change does not fail. -/
def apply (e : Edit) (o : Overrides) : Except ConfigError Overrides :=
  match e.run o with
  | .ok _ o' => .ok o'
  | .error err _ => .error err

end Edit

namespace Overrides

def assign (o : Overrides) (key value : String) : Except ConfigError Overrides :=
  (Edit.set key value).apply o

def assignText (o : Overrides) (s : String) : Except ConfigError Overrides :=
  (Edit.assign s).apply o

/-- Sets the switches of several assignments in order, up to the first bad one. -/
def assignAll (o : Overrides) (ss : List String) : Except ConfigError Overrides :=
  ss.foldlM assignText o

end Overrides

end Marktree
