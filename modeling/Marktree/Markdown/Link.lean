import Marktree.Markdown.Reference

/-!
# Targets of links

Destinations, titles and addresses between angle brackets.
-/
namespace Marktree.Markdown.Link

/-- The most parentheses open at once in a destination. -/
def maxNesting : Nat := 32

/-- The end of a destination in angle brackets whose text starts at `i`. -/
def pointedEnd? (s : Source) (i : Nat) : Option Nat :=
  match _h : s.at? i with
  | none => none
  | some c =>
    if isLineEnd c || c == '<' then none
    else if c == '>' then some i
    else if isEscape s i then pointedEnd? s (i + 2)
    else pointedEnd? s (i + 1)
termination_by s.stop - i
decreasing_by all_goals (have hlt := Source.lt_stop_of_at? _h; omega)

/-- The end of a destination without brackets and the parentheses still open there. -/
def bareEnd? (s : Source) (i nesting : Nat) : Option (Nat × Nat) :=
  match _h : s.at? i with
  | none => some (i, nesting)
  | some c =>
    if c.toNat ≤ 0x20 then some (i, nesting)
    else if c == '(' then
      if maxNesting < nesting then none else bareEnd? s (i + 1) (nesting + 1)
    else if c == ')' then
      if nesting = 0 then some (i, nesting) else bareEnd? s (i + 1) (nesting - 1)
    else if isEscape s i then bareEnd? s (i + 2) nesting
    else bareEnd? s (i + 1) nesting
termination_by s.stop - i
decreasing_by all_goals (have hlt := Source.lt_stop_of_at? _h; omega)

/-- The end of the destination at `i`, and the destination as written. -/
def destination? (s : Source) (i : Nat) : Option (Nat × List Char) :=
  if s.hasAt i '<' then (pointedEnd? s (i + 1)).map fun j => (j + 1, s.slice (i + 1) j)
  else
    match bareEnd? s i 0 with
    | some (j, 0) => some (j, s.slice i j)
    | _ => none

/-- The closing delimiter for the one that opens a title. -/
def titleClose? : Char → Option Char
  | '"' => some '"'
  | '\'' => some '\''
  | '(' => some ')'
  | _ => none

/-! ## Addresses in angle brackets -/

def isSchemeChar (c : Char) : Bool :=
  c.isAlphanum || c == '.' || c == '-' || c == '+'

/-- The end of the address with a scheme of two to thirty-two characters at `i`. -/
def uriEnd? (s : Source) (i : Nat) : Option Nat :=
  let colon := s.skip isSchemeChar i
  if s.holdsAt i Char.isAlpha && s.hasAt colon ':' && 2 ≤ colon - i && colon - i ≤ 32 then
    let j := s.skip (fun c => 0x20 < c.toNat && c != '<' && c != '>') (colon + 1)
    if s.hasAt j '>' then some j else none
  else none

def isMailboxChar (c : Char) : Bool :=
  c.isAlphanum || ".!#$%&'*+/=?^_\x60\x7b|\x7d~-".toList.contains c

/-- The end of the labels of a domain: up to sixty-three letters, digits and inner dashes each. -/
def domainEnd? (s : Source) (i : Nat) (fuel : Nat) : Option Nat :=
  match fuel with
  | 0 => none
  | fuel + 1 =>
    let j := s.skip (fun c => c.isAlphanum || c == '-') i
    if j = i || 63 < j - i || s.hasAt i '-' || s.hasAt (j - 1) '-' then none
    else if s.hasAt j '.' then domainEnd? s (j + 1) fuel
    else some j

/-- The end of the mail address at `i`. -/
def mailEnd? (s : Source) (i : Nat) : Option Nat := do
  let sign := s.skip isMailboxChar i
  if sign = i || !s.hasAt sign '@' then none
  else
    let j ← domainEnd? s (sign + 1) s.stop
    if s.hasAt j '>' then some j else none

/-- The end of the address after the opening bracket before `i`. -/
def addressEnd? (s : Source) (i : Nat) : Option Nat :=
  (uriEnd? s i).or (mailEnd? s i)

end Marktree.Markdown.Link
