import Marktree.Markdown.Source
import Marktree.Text.CaseFold

/-!
# Link labels and definitions

A label stands between brackets. Two labels match if they are equal up to case and blanks.
-/
namespace Marktree.Markdown

/-- What a label refers to. -/
structure Definition where
  target : String
  title : String
  deriving Repr, DecidableEq, Inhabited

/-- The definitions of a document under their folded labels; the first of a label counts. -/
structure Definitions where
  entries : List (List Char × Definition) := []
  deriving Inhabited

namespace Definitions

def find? (d : Definitions) (label : List Char) : Option Definition :=
  d.entries.lookup (Text.foldCase label)

def insert (d : Definitions) (label : List Char) (x : Definition) : Definitions :=
  if (d.find? label).isSome then d else ⟨(Text.foldCase label, x) :: d.entries⟩

end Definitions

namespace Label

/-- The most characters of a label. -/
def limit : Nat := 999

/-- How a label goes on after a line end, if it does. -/
abbrev Continuation := Nat → Option Nat

/-- Past a run of blanks with at most one line end. -/
def skipBlanks? (s : Source) (k : Continuation) (i : Nat) : Option Nat := do
  let j := s.skipSpace i
  match s.at? j, s.eol? j with
  | some _, some e =>
    let j := s.skipSpace (← k e)
    if s.holdsAt j isLineEnd then none else return j
  | _, _ => return j

/-- A label that has begun: its characters so far in reverse, and whether one of them is no
blank. -/
def readFrom (s : Source) (k : Continuation) (inTable : Bool) (i : Nat) (acc : List Char)
    (solid : Bool) (count : Nat) (fuel : Nat) : Option (Nat × List Char) :=
  match fuel with
  | 0 => none
  | fuel + 1 =>
    if limit < count then none
    else
      match s.at? i with
      | none => none
      | some '[' => none
      | some ']' =>
        if solid then
          some (i + 1, (acc.dropWhile (· == ' ')).reverse.dropWhile (· == ' '))
        else none
      | some '\\' =>
        if inTable && s.hasAt (i + 1) '\\' && s.hasAt (i + 2) '|' then
          readFrom s k inTable (i + 2) acc true (count + 2) fuel
        else if inTable && s.hasAt (i + 1) '|' then
          readFrom s k inTable (i + 1) acc true (count + 1) fuel
        else
          match s.at? (i + 1) with
          | none => none
          | some c => readFrom s k inTable (i + 2) (c :: '\\' :: acc) true (count + 2) fuel
      | some c =>
        if isSpaceOrLineEnd c then do
          let j ← skipBlanks? s k i
          readFrom s k inTable j (' ' :: acc) solid (count + (j - i)) fuel
        else readFrom s k inTable (i + 1) (c :: acc) true (count + 1) fuel

/-- The end of the label whose bracket opens before `i`, and the label without its brackets, each
run of blanks in it a single space. -/
def read? (s : Source) (k : Continuation) (inTable : Bool) (i : Nat) : Option (Nat × List Char) :=
  readFrom s k inTable i [] false 0 (s.stop + 1)

end Label

end Marktree.Markdown
