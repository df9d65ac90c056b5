/-!
# JSON

Values and their two written forms: on one line, and indented by two blanks per level.
-/
namespace Marktree

inductive Json
  | null
  | bool (b : Bool)
  | num (n : Nat)
  | str (s : String)
  | arr (items : List Json)
  | obj (fields : List (String × Json))
  deriving Repr, Inhabited

namespace Json

def hex4 (n : Nat) : String :=
  let ds := Nat.toDigits 16 n
  String.ofList (List.replicate (4 - ds.length) '0' ++ ds)

/-- Quotes, backslashes and control characters are escaped, all others stand as they are. -/
def escapeChar : Char → String
  | '"' => "\\\""
  | '\\' => "\\\\"
  | '\x08' => "\\b"
  | '\x0c' => "\\f"
  | '\n' => "\\n"
  | '\r' => "\\r"
  | '\t' => "\\t"
  | c => if c.toNat < 0x20 then "\\u" ++ hex4 c.toNat else String.singleton c

def quote (s : String) : String :=
  "\"" ++ String.join (s.toList.map escapeChar) ++ "\""

def optional (f : α → Json) : Option α → Json
  | none => null
  | some a => f a

mutual

/-- On one line, without blanks. -/
def compact : Json → String
  | null => "null"
  | bool b => if b then "true" else "false"
  | num n => toString n
  | str s => quote s
  | arr items => "[" ++ ",".intercalate (compactAll items) ++ "]"
  | obj fields => "\x7b" ++ ",".intercalate (compactFields fields) ++ "\x7d"

def compactAll : List Json → List String
  | [] => []
  | j :: js => compact j :: compactAll js

def compactFields : List (String × Json) → List String
  | [] => []
  | (k, v) :: fs => (quote k ++ ":" ++ compact v) :: compactFields fs

end

def indent (depth : Nat) : String :=
  "\n" ++ String.ofList (List.replicate (2 * depth) ' ')

/-- Items one per line between brackets; brackets without items stay together. -/
def enclose (left right : String) (depth : Nat) : List String → String
  | [] => left ++ right
  | items =>
    left ++ indent (depth + 1) ++ ("," ++ indent (depth + 1)).intercalate items ++ indent depth ++
      right

mutual

/-- On many lines, the value itself standing at a depth. -/
def prettyAt (depth : Nat) : Json → String
  | null => "null"
  | bool b => if b then "true" else "false"
  | num n => toString n
  | str s => quote s
  | arr items => enclose "[" "]" depth (prettyAll (depth + 1) items)
  | obj fields => enclose "\x7b" "\x7d" depth (prettyFields (depth + 1) fields)

def prettyAll (depth : Nat) : List Json → List String
  | [] => []
  | j :: js => prettyAt depth j :: prettyAll depth js

def prettyFields (depth : Nat) : List (String × Json) → List String
  | [] => []
  | (k, v) :: fs => (quote k ++ ": " ++ prettyAt depth v) :: prettyFields depth fs

end

def pretty (j : Json) : String :=
  prettyAt 0 j

end Json

end Marktree
