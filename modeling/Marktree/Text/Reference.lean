import Marktree.Text.Basic
import Marktree.Text.Reference.Capital
import Marktree.Text.Reference.Small

/-!
# Character references

A reference is an ampersand, a body and a semicolon; the body is one of the HTML5 names or a number.
`escape` writes five characters as references, and `unescape` replaces the references of a text in one
pass from left to right.
-/
namespace Marktree.Text

/-- The written form of one character. -/
def escapeChar : Char → List Char
  | '&' => ['&', 'a', 'm', 'p', ';']
  | '<' => ['&', 'l', 't', ';']
  | '>' => ['&', 'g', 't', ';']
  | '"' => ['&', 'q', 'u', 'o', 't', ';']
  | '\'' => ['&', '#', 'x', '2', '7', ';']
  | c => [c]

def escapeChars (s : List Char) : List Char :=
  s.flatMap escapeChar

/-- A text that stands for `s` between tags and in quoted attribute values. -/
def escape (s : String) : String :=
  String.ofList (escapeChars s.toList)

theorem escapeChars_append (a b : List Char) :
    escapeChars (a ++ b) = escapeChars a ++ escapeChars b := by
  simp [escapeChars]

theorem escape_append (a b : String) : escape (a ++ b) = escape a ++ escape b := by
  simp [escape, escapeChars_append, String.ofList_append]

/-! ## Replacing references -/

namespace Reference

/-- The names that begin with a letter, with their code points. -/
def namesFrom : Char → List (String × List Nat)
  | 'A' => capitalA
  | 'B' => capitalB
  | 'C' => capitalC
  | 'D' => capitalD
  | 'E' => capitalE
  | 'F' => capitalF
  | 'G' => capitalG
  | 'H' => capitalH
  | 'I' => capitalI
  | 'J' => capitalJ
  | 'K' => capitalK
  | 'L' => capitalL
  | 'M' => capitalM
  | 'N' => capitalN
  | 'O' => capitalO
  | 'P' => capitalP
  | 'Q' => capitalQ
  | 'R' => capitalR
  | 'S' => capitalS
  | 'T' => capitalT
  | 'U' => capitalU
  | 'V' => capitalV
  | 'W' => capitalW
  | 'X' => capitalX
  | 'Y' => capitalY
  | 'Z' => capitalZ
  | 'a' => smallA
  | 'b' => smallB
  | 'c' => smallC
  | 'd' => smallD
  | 'e' => smallE
  | 'f' => smallF
  | 'g' => smallG
  | 'h' => smallH
  | 'i' => smallI
  | 'j' => smallJ
  | 'k' => smallK
  | 'l' => smallL
  | 'm' => smallM
  | 'n' => smallN
  | 'o' => smallO
  | 'p' => smallP
  | 'q' => smallQ
  | 'r' => smallR
  | 's' => smallS
  | 't' => smallT
  | 'u' => smallU
  | 'v' => smallV
  | 'w' => smallW
  | 'x' => smallX
  | 'y' => smallY
  | 'z' => smallZ
  | _ => []

/-- The characters that a name stands for; some names stand for two. -/
def named? : List Char → Option (List Char)
  | [] => none
  | c :: cs => ((namesFrom c).lookup (String.ofList (c :: cs))).map (·.map Char.ofNat)

/-- Control characters that a number may not stand for. -/
def isBarred (n : Nat) : Bool :=
  n < 0x20 && !(n == 0x09 || n == 0x0A || n == 0x0C || n == 0x0D)

/-- The character that a decimal or hexadecimal body stands for. -/
def numbered? (base : Nat) (digits : List Char) : Option Char :=
  ((number? base digits).filter (!isBarred ·)).bind scalar?

/-- The character that the body of a reference stands for; of a name with two only the first. -/
def value? : List Char → Option Char
  | '#' :: 'x' :: ds => numbered? 16 ds
  | '#' :: 'X' :: ds => numbered? 16 ds
  | '#' :: ds => numbered? 10 ds
  | name => (named? name).bind List.head?

/-- What a reference with this body is replaced by: itself, if the body stands for nothing. -/
def replace (body : List Char) : List Char :=
  match value? body with
  | some c => [c]
  | none => '&' :: body ++ [';']

/-- The text read so far is `pending`, reversed, if an ampersand stands open before it. A second
ampersand gives up the first, and so does the end of the text. -/
def unescapeFrom : Option (List Char) → List Char → List Char
  | none, [] => []
  | some body, [] => '&' :: body.reverse
  | none, c :: cs => if c = '&' then unescapeFrom (some []) cs else c :: unescapeFrom none cs
  | some body, c :: cs =>
    if c = ';' then replace body.reverse ++ unescapeFrom none cs
    else if c = '&' then '&' :: body.reverse ++ unescapeFrom (some []) cs
    else unescapeFrom (some (c :: body)) cs

end Reference

def unescapeChars (s : List Char) : List Char :=
  Reference.unescapeFrom none s

/-- Every reference replaced by the character that it stands for. -/
def unescape (s : String) : String :=
  String.ofList (unescapeChars s.toList)

end Marktree.Text
