import Marktree.Text.Reference
import Marktree.Text.Utf8

/-!
# Destinations

The target of a link or image. Where schemes are restricted, a destination is accepted only if it
reads as an `http:` or `https:` address once percent signs are decoded and everything but word
characters and colons is left out. A percent sign and two hexadecimal digits stand for one byte, every
other character for its bytes in UTF-8.
-/
namespace Marktree.Text.Percent

/-- The byte that two hexadecimal digits stand for. -/
def byte? (high low : Char) : Option UInt8 := do
  return ((← digit? 16 high) * 16 + (← digit? 16 low)).toUInt8

/-- The bytes that a text stands for. -/
def bytes : List Char → List UInt8
  | [] => []
  | '%' :: a :: b :: cs =>
    match byte? a b with
    | some x => x :: bytes cs
    | none => String.utf8EncodeChar '%' ++ bytes (a :: b :: cs)
  | c :: cs => String.utf8EncodeChar c ++ bytes cs

/-- The text that the bytes make, unless they are no UTF-8. -/
def decode? (s : List Char) : Option (List Char) :=
  Utf8.decode? (bytes s)

end Marktree.Text.Percent

namespace Marktree.Destination

/-- An ASCII letter or digit, an underscore or a colon. -/
def isSchemeChar (c : Char) : Bool :=
  c.isAlphanum || c == '_' || c == ':'

/-- What the scheme of a decoded destination is read from. -/
def skeleton (s : List Char) : List Char :=
  (s.filter isSchemeChar).map Char.toLower

/-- The skeleton begins with one of the schemes of the web. -/
def isWeb (s : List Char) : Bool :=
  "http:".toList.isPrefixOf (skeleton s) || "https:".toList.isPrefixOf (skeleton s)

/-- A destination without character references can be followed under restricted schemes. -/
def isSafe (s : List Char) : Bool :=
  (Text.Percent.decode? s).any isWeb

/-- The destination that an escaped one stands for, unless schemes are restricted and bar it. -/
def resolve? (restrict : Bool) (escaped : String) : Option String :=
  let target := Text.unescape escaped
  if !restrict || isSafe target.toList then some target else none

end Marktree.Destination
