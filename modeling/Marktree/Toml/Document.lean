import Marktree.Toml.Scalar
import Marktree.Toml.Value

/-!
# TOML documents

A document is a list of lines: keys with their values, and headers of the tables that the keys after
them belong to.
-/
namespace Marktree.Toml

/-- Reads from the start of the characters. -/
abbrev Reader := StateT (List Char) Option

namespace Reader

def next? : Reader (Option Char) := do
  return (← get).head?

/-- Past one character. -/
def char (c : Char) : Reader Unit := do
  match ← get with
  | d :: cs => if d = c then set cs else failure
  | [] => failure

def takeWhile (p : Char → Bool) : Reader (List Char) :=
  modifyGet fun cs => cs.span p

def of (r : List Char → Option (α × List Char)) : Reader α :=
  r

/-- Past blanks on the line. -/
def blanks : Reader Unit := do
  let _ ← takeWhile fun c => c == ' ' || c == '\t'

end Reader

open Reader

/-! ## Between values -/

/-- Past blanks, comments and line ends; a comment holds no control characters. -/
def afterGap? (comment : Bool) : List Char → Option (List Char)
  | [] => some []
  | '\n' :: cs => afterGap? false cs
  | '\r' :: '\n' :: cs => afterGap? false cs
  | c :: cs =>
    if comment then if isPlain c then afterGap? true cs else none
    else if c == ' ' || c == '\t' then afterGap? false cs
    else if c == '#' then afterGap? true cs
    else some (c :: cs)

def gap : Reader Unit := do
  set (← (afterGap? false (← get) : Option (List Char)))

/-- The rest of a line holds nothing but a comment. -/
def lineEnd : Reader Unit := do
  blanks
  match ← next? with
  | none | some '\n' | some '\r' | some '#' => gap
  | _ => failure

/-! ## Keys -/

def isKeyChar (c : Char) : Bool :=
  c.isAlphanum || c == '_' || c == '-'

/-- One part of a key. -/
def part : Reader String := do
  match ← next? with
  | some '"' | some '\'' => return String.ofList (← of lineString?)
  | _ =>
    let cs ← takeWhile isKeyChar
    if cs.isEmpty then failure else return String.ofList cs

/-- The parts of a key after the first, between dots. -/
def moreParts : Nat → Reader (List String)
  | 0 => return []
  | fuel + 1 => do
    blanks
    match ← next? with
    | some '.' => do
      char '.'
      blanks
      let p ← part
      return p :: (← moreParts fuel)
    | _ => return []

/-- A key: the parts before the last one, and the last. -/
def key : Reader (List String × String) := do
  let first ← part
  let ps := first :: (← moreParts (← get).length)
  return (ps.dropLast, ps.getLastD first)

/-! ## Values -/

def isScalarChar (c : Char) : Bool :=
  c.isAlphanum || c == '_' || c == '+' || c == '-' || c == '.' || c == ':'

/-- A truth value, a number, a date or a time. A blank may stand between date and time. -/
def word : Reader Value := do
  let cs ← takeWhile isScalarChar
  if cs = "true".toList then return .bool true
  else if cs = "false".toList then return .bool false
  else if afterDate? cs = some [] then
    match ← get with
    | ' ' :: c :: _ =>
      if c.isDigit then
        char ' '
        let time ← takeWhile isScalarChar
        if isMoment (cs ++ ' ' :: time) then return .other else failure
      else return .other
    | _ => return .other
  else if isInteger cs || isFloat cs || isMoment cs then return .other
  else failure

/-- Items between commas up to the closing bracket; a comma may follow the last one. -/
def items (close : Char) (item : Reader α) : Nat → Reader (List α)
  | 0 => failure
  | fuel + 1 => do
    gap
    if (← next?) = some close then
      char close
      return []
    else
      let x ← item
      gap
      if (← next?) = some ',' then
        char ','
        return x :: (← items close item fuel)
      else
        char close
        return [x]

/-- A key and its value. -/
def pair (value : Reader Value) : Reader (List String × String × Value) := do
  let (path, k) ← key
  blanks
  char '='
  blanks
  return (path, k, ← value)

/-- A string or a word. -/
def scalar : Reader Value := do
  match ← next? with
  | some '"' | some '\'' => return .string (String.ofList (← of string?))
  | _ => word

def array (value : Reader Value) : Reader Value := do
  char '['
  return .array false (← items ']' value ((← get).length + 1))

/-- A table between braces. -/
def table (value : Reader Value) : Reader Value := do
  char '\x7b'
  let pairs ← items '\x7d' (pair value) ((← get).length + 1)
  let add (es : Entries) (p : List String × String × Value) : Option Entries :=
    es.assign p.1 p.2.1 p.2.2 .braces
  return .table .braces (← (pairs.foldlM add [] : Option Entries))

/-- A value in which arrays and tables nest at most so deep. -/
def value : Nat → Reader Value
  | 0 => scalar
  | depth + 1 => do
    match ← next? with
    | some '[' => array (value depth)
    | some '\x7b' => table (value depth)
    | _ => scalar

/-- The deepest nesting of arrays and tables in a value. -/
def maxNesting : Nat := 80

/-! ## Lines -/

/-- A document that is read up to some line. -/
structure Progress where
  entries : Entries := []
  /-- The keys of the last header. -/
  header : List String := []

/-- Reads a header. -/
def header (p : Progress) : Reader Progress := do
  char '['
  let array := (← next?) = some '['
  if array then char '['
  blanks
  let (path, k) ← key
  blanks
  char ']'
  if array then char ']'
  let es ← ((if array then p.entries.openItem path k else p.entries.openTable path k)
    : Option Entries)
  return ⟨es, path ++ [k]⟩

/-- Reads a key and its value. -/
def assignment (p : Progress) : Reader Progress := do
  let (path, k, v) ← pair (value maxNesting)
  return { p with entries := ← (p.entries.assignUnder p.header path k v : Option Entries) }

/-- Reads all lines. -/
def lines (p : Progress) : Nat → Reader Entries
  | 0 => failure
  | fuel + 1 => do
    gap
    match ← next? with
    | none => return p.entries
    | some c =>
      let p ← if c = '[' then header p else assignment p
      lineEnd
      lines p fuel

/-- The table that a document writes; a byte order mark before it does not count. -/
def parse? (s : List Char) : Option Entries :=
  let s := match s with
    | '\ufeff' :: cs => cs
    | cs => cs
  (lines {} (s.length + 1) s).map (·.1)

end Marktree.Toml
