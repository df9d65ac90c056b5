import Marktree.Markdown.Source
import Marktree.Text.Basic
import Marktree.Text.Reference

/-!
# Character references and backslashes

In markdown a reference must be closed by a semicolon, a decimal number has at most seven digits and
a hexadecimal one at most six, and a name may stand for two characters.
-/
namespace Marktree.Markdown

/-- The character with a number; zero stands for the replacement character. -/
def numberedChar? (n : Nat) : Option Char :=
  if n = 0 then some '\ufffd' else Text.scalar? n

/-- A number between `i` and a semicolon. -/
def numericReference? (s : Source) (base limit i : Nat) : Option (Nat × List Char) := do
  let j := min (s.skip (fun c => (Text.digit? base c).isSome) i) (i + limit)
  let n ← Text.number? base (s.slice i j)
  if s.hasAt j ';' then return (j + 1, [← numberedChar? n]) else none

/-- The end of the reference at `i` and what it stands for. -/
def reference? (s : Source) (i : Nat) : Option (Nat × List Char) :=
  if s.hasAt (i + 1) '#' then
    if s.hasAt (i + 2) 'x' || s.hasAt (i + 2) 'X' then numericReference? s 16 6 (i + 3)
    else numericReference? s 10 7 (i + 2)
  else
    let j := s.skip Char.isAlphanum (i + 1)
    if s.hasAt j ';' then (Text.Reference.named? (s.slice (i + 1) j)).map ((j + 1, ·)) else none

/-- A backslash escapes ASCII punctuation. -/
def isEscape (s : Source) (i : Nat) : Bool :=
  s.hasAt i '\\' && s.holdsAt (i + 1) Text.isAsciiPunctuation

/-- Two backslashes before a bar; in a table, the first pair of the three is no escape. -/
def isEscapedBar (s : Source) (i : Nat) : Bool :=
  s.hasAt i '\\' && s.hasAt (i + 1) '\\' && s.hasAt (i + 2) '|'

/-- The characters from `i` on without backslashes that escape, with references replaced and without
carriage returns. -/
def unescapedFrom (s : Source) (inTable : Bool) (i : Nat) (fuel : Nat) : List Char :=
  match fuel, s.at? i with
  | 0, _ => []
  | _, none => []
  | fuel + 1, some c =>
    if inTable && isEscapedBar s i then '|' :: unescapedFrom s inTable (i + 3) fuel
    else if isEscape s i then
      (s.at? (i + 1)).toList ++ unescapedFrom s inTable (i + 2) fuel
    else if c = '&' then
      match reference? s i with
      | some (j, cs) => cs ++ unescapedFrom s inTable j fuel
      | none => c :: unescapedFrom s inTable (i + 1) fuel
    else if c = '\r' then unescapedFrom s inTable (i + 1) fuel
    else c :: unescapedFrom s inTable (i + 1) fuel

/-- A text without its escapes. -/
def unescaped (inTable : Bool) (cs : List Char) : String :=
  String.ofList (unescapedFrom (.ofList cs) inTable 0 cs.length)

end Marktree.Markdown
