import Marktree.Markdown.Source

/-!
# Margins

The start of a line: blanks counted in columns, and the marks of the containers that the line
belongs to. A tab reaches to the next multiple of four columns; columns of a tab that were not
needed stay pending.
-/
namespace Marktree.Markdown

/-- A place in the margin of a line. -/
structure Margin where
  pos : Nat
  /-- Where the columns of the next tab are counted from. -/
  origin : Nat
  /-- Columns of the last tab that are left. -/
  pending : Nat := 0
  deriving Repr, Inhabited

/-- The blocks that put marks into the margins of their lines. -/
inductive Container
  | quote
  | list
  /-- The lines of an item are indented. -/
  | item (indent : Nat)
  deriving Repr, DecidableEq, Inhabited

namespace Margin

/-- The start of the line at `i`. -/
def start (i : Nat) : Margin :=
  ⟨i, i, 0⟩

/-- Takes up to `n` columns of the blanks at the place; the number of missing columns comes with the
place after them. -/
def take (s : Source) (n : Nat) (m : Margin) : Nat × Margin :=
  go s (n - m.pending) { m with pending := m.pending - n }
where
  go (s : Source) (n : Nat) (m : Margin) : Nat × Margin :=
    if n = 0 then (0, m)
    else if m.pos < s.stop then
      match s.at? m.pos with
      | some ' ' => go s (n - 1) { m with pos := m.pos + 1 }
      | some '\t' =>
        let width := 4 - (m.pos - m.origin) % 4
        go s (n - width) ⟨m.pos + 1, m.pos + 1, width - n⟩
      | _ => (n, m)
    else (n, m)
  termination_by s.stop - m.pos

/-- Takes `n` columns; whether there were as many comes with the place. -/
def takeAll (s : Source) (n : Nat) (m : Margin) : Bool × Margin :=
  let (missing, m) := m.take s n
  (missing == 0, m)

/-- Takes up to `n` columns; their number comes with the place. -/
def takeUpTo (s : Source) (n : Nat) (m : Margin) : Nat × Margin :=
  let (missing, m) := m.take s n
  (n - missing, m)

/-- Past all blanks. -/
def skipBlanks (s : Source) (m : Margin) : Margin :=
  { m with pos := s.skip (fun c => c == ' ' || c == '\t') m.pos, pending := 0 }

def atLineEnd (s : Source) (m : Margin) : Bool :=
  match s.at? m.pos with
  | none => true
  | some c => isLineEnd c

/-- Past a character, if it is there. -/
def mark? (s : Source) (c : Char) (m : Margin) : Option Margin :=
  if s.hasAt m.pos c then some { m with pos := m.pos + 1 } else none

/-- Past the mark of a quote and one blank. -/
def quoteMark? (s : Source) (m : Margin) : Option Margin :=
  (m.mark? s '>').map fun m => (m.takeAll s 1).2

/-- Past the part of the margin that belongs to a container. A blank line needs no indentation. -/
def enter? (s : Source) (m : Margin) : Container → Option Margin
  | .quote => (m.takeAll s 3).2.quoteMark? s
  | .list => some m
  | .item indent =>
    let (complete, m') := m.takeAll s indent
    if complete || m'.atLineEnd s then some m' else none

/-- Past the marks of as many containers as the line goes on with, from the outermost on; their
number comes with the place. -/
def enterAll (s : Source) (m : Margin) : List Container → Nat × Margin
  | [] => (0, m)
  | c :: cs =>
    match m.enter? s c with
    | none => (0, m)
    | some m => let (n, m) := enterAll s m cs; (n + 1, m)

end Margin

/-- Past the marks of containers at the start of the line at `i`. -/
def skipMarks (s : Source) (path : List Container) (i : Nat) : Nat :=
  ((Margin.start i).enterAll s path).2.pos

end Marktree.Markdown
