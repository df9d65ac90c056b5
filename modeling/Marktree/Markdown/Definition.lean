import Marktree.Markdown.Line
import Marktree.Markdown.Link

/-!
# Link definitions

A label, a colon, a destination and perhaps a title; line ends may stand between the parts.
-/
namespace Marktree.Markdown.Place

/-- Past blanks with at most one line end; the number of line ends comes with the place. Where the
next line ends a paragraph there is no place. -/
def gap? (p : Place) (i : Nat) : Option (Nat × Nat) := do
  let s := p.source
  let i := s.skipSpace i
  match s.eol? i with
  | none => return (i, 0)
  | some next =>
    let (inside, m) := p.enter next
    let (indented, m) := m.takeAll s 4
    if !indented && (p.interrupts inside m.pos || (Line.underline? s m.pos).isSome) then none
    else
      let j := s.skipSpace m.pos
      if (s.eol? j).isSome then none else return (j, 1)

/-- Reads a title on from `i` to its closing delimiter. -/
def titleFrom (p : Place) (close : Char) (i : Nat) (acc : List Char) (fuel : Nat) :
    Option (Nat × List Char) :=
  let s := p.source
  match fuel, s.at? i with
  | 0, _ => none
  | _, none => none
  | fuel + 1, some c =>
    if close == ')' && c == '(' then none
    else if isLineEnd c then
      let next := (s.eol? i).getD (i + 1)
      let (inside, m) := p.enter next
      let (indented, m) := m.takeAll s 4
      if !indented && (p.interrupts inside m.pos || (Line.underline? s m.pos).isSome) then none
      else
        let j := (m.skipBlanks s).pos
        if s.isBlankLine j then none else titleFrom p close j ('\n' :: acc) fuel
    else if c == '\\' then
      match s.at? (i + 1) with
      | some d =>
        if isLineEnd d then titleFrom p close (i + 1) (c :: acc) fuel
        else titleFrom p close (i + 2) (d :: c :: acc) fuel
      | none => none
    else if c == close then some (i + 1, acc.reverse)
    else titleFrom p close (i + 1) (c :: acc) fuel

/-- The end of the title of a definition and its text as written. -/
def title? (p : Place) (i : Nat) : Option (Nat × List Char) := do
  p.titleFrom (← Link.titleClose? (← p.source.at? i)) (i + 1) [] p.source.stop

/-- The end of the target that follows a label and its colon. A title that does not end its line is
left out, and so is the definition if the title began on the line of the destination. -/
def target? (p : Place) (i : Nat) : Option (Nat × Definition) := do
  let s := p.source
  let (i, _) ← p.gap? i
  let (j, destination) ← Link.destination? s i
  if j = i then none
  else
    let bare : Definition := ⟨unescaped p.inTable destination, ""⟩
    match p.gap? j with
    | none => return (j, bare)
    | some (k, newlines) =>
      if k = j && newlines = 0 then none
      else
        let titled := (p.title? k).filter fun (e, _) => s.isBlankLine e
        match titled with
        | some (e, title) => return (e, { bare with title := unescaped p.inTable title })
        | none => if 0 < newlines then return (j, bare) else none

/-- The end of the definition at `i`, its label and its target. -/
def definition? (p : Place) (i : Nat) : Option (Nat × List Char × Definition) := do
  let s := p.source
  if s.hasAt i '[' then
    let (j, label) ← Label.read? s p.resume? p.inTable (i + 1)
    if s.hasAt j ':' then
      let (k, d) ← p.target? (j + 1)
      return (k, label, d)
    else none
  else none

end Marktree.Markdown.Place
