import Marktree.Text.Utf8

/-!
# Files

What the program can read from: files by their paths, and the standard input.
-/
namespace Marktree

/-- Why a file could not be read. -/
inductive FileError
  | missing
  | directory
  | notDirectory
  | nameTooLong
  | notText
  /-- Any other cause, in the words of the system. -/
  | other (message : String)
  deriving Repr, DecidableEq, Inhabited

def FileError.message : FileError → String
  | missing => "No such file or directory (os error 2)"
  | directory => "Is a directory (os error 21)"
  | notDirectory => "Not a directory (os error 20)"
  | nameTooLong => "File name too long (os error 36)"
  | notText => "stream did not contain valid UTF-8"
  | other message => message

/-- What a path leads to. -/
inductive Found
  | directory
  | file (bytes : List UInt8)
  deriving Repr, DecidableEq, Inhabited

/-- The surroundings that a program runs in. -/
structure Files where
  find : String → Except FileError Found
  /-- The configuration file in the current directory or the nearest one above it. -/
  nearestConfig : Option String
  input : List UInt8

namespace Files

/-- Bytes as text. -/
def decode (bytes : List UInt8) : Except FileError String :=
  match Text.Utf8.decode? bytes with
  | some cs => .ok (String.ofList cs)
  | none => .error .notText

/-- There is something at a path. -/
def has (fs : Files) (path : String) : Bool :=
  (fs.find path).isOk

/-- The text of a file. -/
def text (fs : Files) (path : String) : Except FileError String := do
  match ← fs.find path with
  | .directory => .error .directory
  | .file bytes => decode bytes

def inputText (fs : Files) : Except FileError String :=
  decode fs.input

end Files

end Marktree
