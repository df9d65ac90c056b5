import Marktree.Event
import Marktree.Markdown.Html
import Marktree.Markdown.Label
import Marktree.Markdown.Margin
import Marktree.Text.Basic

/-!
# Lines

What a line can begin, read at the place after its margin, and whether it ends the paragraph before
it.
-/
namespace Marktree.Markdown

/-- The extensions of the language that are switched on. -/
structure Extensions where
  tables : Bool
  strikethrough : Bool
  tasks : Bool
  quoteKinds : Bool
  smart : Bool
  deriving Repr, DecidableEq, Inhabited

namespace Line

/-- The end of the line, if it is a thematic break. -/
def rule? (s : Source) (i : Nat) : Option Nat := do
  let c ← s.at? i
  if c == '*' || c == '-' || c == '_' then
    let j := s.skip (fun x => x == c || x == ' ' || x == '\t') i
    if 3 ≤ (s.slice i j).count c then s.eol? j else none
  else none

/-- The number of signs that open a heading. -/
def headingSigns? (s : Source) (i : Nat) : Option Nat :=
  let j := s.skip (· == '#') i
  if 1 ≤ j - i && j - i ≤ 6 && (s.at? j).all isSpaceOrLineEnd then some (j - i) else none

/-- The end of the line, if it underlines a heading, and the level. -/
def underline? (s : Source) (i : Nat) : Option (Nat × Level) := do
  let c ← s.at? i
  let level ← if c == '=' then some 0 else if c == '-' then some 1 else none
  return (← s.blankLine? (s.skip (· == c) i), level)

/-- The end of a code fence and its character. No tick follows a fence of ticks on its line. -/
def fence? (s : Source) (i : Nat) : Option (Nat × Char) := do
  let c ← s.at? i
  if c == '\x60' || c == '~' then
    let j := s.skip (· == c) i
    if j - i < 3 then none
    else if c == '\x60' && (s.slice j (s.nextLine j)).contains c then none
    else return (j, c)
  else none

/-- The end of a fence that closes one of `n` characters; so does the end of the text. -/
def closingFence? (s : Source) (c : Char) (n i : Nat) : Option Nat :=
  if (s.at? i).isNone then some i
  else
    let j := s.skip (· == c) i
    let k := s.skip (· == ' ') j
    if n ≤ j - i && (s.eol? k).isSome then some k else none

def isBullet (c : Char) : Bool :=
  c == '-' || c == '+' || c == '*'

/-- The end of a list marker, its last character and its number; bullets have the number zero. -/
def marker? (s : Source) (i : Nat) : Option (Nat × Char × Nat) := do
  let c ← s.at? i
  if isBullet c then return (i + 1, c, 0)
  else
    let j := s.skip Char.isDigit i
    let n ← Text.number? 10 (s.slice i j)
    let d ← s.at? j
    if j - i ≤ 9 && (d == '.' || d == ')') then return (j + 1, d, n) else none

/-- A marker that blanks or the end of the line follow; whether the item is empty comes with it. -/
def item? (s : Source) (i : Nat) : Option (Char × Nat × Bool) := do
  let (j, c, n) ← marker? s i
  let blank := s.isBlankLine j
  if s.hasAt j ' ' || s.hasAt j '\t' || blank then return (c, n, blank) else none

/-- The alignment that a segment of a delimiter row gives to its column. -/
def alignment (segment : List Char) : Option Align :=
  match segment.filter (· != ' ') with
  | ':' :: cs => some (if cs.contains ':' then .center else .left)
  | cs => if cs.contains ':' then some .right else none

/-- The columns of a delimiter row. Each segment but the last has a dash. -/
def columns? (row : List Char) : Option (List (Option Align)) :=
  let body := match row with
    | '|' :: cs => cs
    | cs => cs
  let segments := Text.pieces (· == '|') body
  let closed := segments.dropLast
  let last := (segments.getLast?.getD []).filter (· != ' ')
  if row.all (fun c => c == ' ' || c == ':' || c == '-' || c == '|') && row.contains '|' &&
      row.contains '-' && closed.all (·.contains '-') then
    some ((closed ++ (if last.isEmpty then [] else [last])).map alignment)
  else none

/-- The end of the delimiter row at `i` and its columns. -/
def delimiterRow? (s : Source) (i : Nat) : Option (Nat × List (Option Align)) := do
  let j := s.skip (· == ' ') i
  let k := s.skip (!isLineEnd ·) j
  if j - i ≤ 3 then return (← s.eol? k, ← columns? (s.slice j k)) else none

/-- The number of cells of the row at `i` with so many bars, the last of them at `last`. -/
def cellCount (s : Source) (bars i last : Nat) : Nat :=
  (if s.hasAt (s.skipSpace i) '|' then bars - 1 else bars) +
    if s.isBlankLine (last + 1) then 0 else 1

end Line

/-- Where lines are read: the text, the extensions and the containers around. -/
structure Place where
  source : Source
  extensions : Extensions
  /-- The open containers from the outermost on. -/
  path : List Container
  inTable : Bool := false
  deriving Inhabited

namespace Place

/-- Past the marks of the containers at the start of the line at `i`; whether all of them go on
comes with the place. -/
def enter (p : Place) (i : Nat) : Bool × Margin :=
  let (n, m) := (Margin.start i).enterAll p.source p.path
  (n == p.path.length, m)

/-- The line ends a paragraph, tables apart; `inside` tells whether all containers go on. Of list
items only those do that begin a list of their own or have content and the number one. -/
def interruptsBar (p : Place) (inside : Bool) (i : Nat) : Bool :=
  let s := p.source
  (s.eol? i).isSome || (Line.rule? s i).isSome || (Line.headingSigns? s i).isSome ||
    (Line.fence? s i).isSome || s.hasAt i '>' ||
    (Line.item? s i).any (fun (c, n, blank) =>
      !inside || p.inTable || ((Line.isBullet c || n == 1) && !blank)) ||
    (s.hasAt i '<' && ((Html.closingWord? s (i + 1)).isSome || Html.isBlockElement s (i + 1)))

/-- The bars of the line at `i` that no backslash escapes: their number, the place of the last, and
the place of the line end. -/
def bars (s : Source) (i : Nat) (escaped : Bool) (count last : Nat) (fuel : Nat) :
    Nat × Nat × Nat :=
  match fuel, s.at? i with
  | 0, _ => (count, last, i)
  | _, none => (count, last, i)
  | fuel + 1, some c =>
    if isLineEnd c then (count, last, i)
    else if c == '\\' then bars s (i + 1) true count last fuel
    else if c == '|' && !escaped then bars s (i + 1) false (count + 1) i fuel
    else bars s (i + 1) false count last fuel

/-- The delimiter row on the line at `next` has as many columns as the row above. -/
def delimiterRow? (p : Place) (next : Nat) (cells : Nat) : Option (Nat × List (Option Align)) :=
  let (inside, m) := p.enter next
  if inside then (Line.delimiterRow? p.source m.pos).filter (·.2.length == cells) else none

/-- A table begins on the line. -/
def beginsTable (p : Place) (i : Nat) : Bool :=
  let s := p.source
  let (count, last, j) := bars s i false 0 i s.stop
  if j < s.stop then
    match s.eol? j with
    | some next => (p.delimiterRow? next (Line.cellCount s count i last)).isSome
    | none => false
  else false

/-- The line ends a paragraph. -/
def interrupts (p : Place) (inside : Bool) (i : Nat) : Bool :=
  p.interruptsBar inside i || (p.extensions.tables && inside && p.beginsTable i)

/-- How a definition goes on after a line end: the next line may not end a paragraph. -/
def resume? (p : Place) (i : Nat) : Option Nat :=
  let (inside, m) := p.enter i
  let (indented, m) := m.takeAll p.source 4
  if indented then some m.pos
  else if p.interrupts inside m.pos || (inside && (Line.underline? p.source m.pos).isSome) then none
  else some m.pos

end Place

end Marktree.Markdown
