import Marktree.Text.Basic

/-!
# Slugs

The anchor form of a text, and a store that numbers the repeats of a slug.
-/
namespace Marktree.Text

/-- Blanks, dashes and underscores stand between the words of a slug. -/
def isSlugBreak (c : Char) : Bool :=
  isBlank c || c == '-' || c == '_'

/-- The ASCII letters and digits of a word, in lower case. -/
def slugWord (w : List Char) : List Char :=
  (w.filter Char.isAlphanum).map Char.toLower

/-- The words of the slug of a text. -/
def slugWords (s : List Char) : List (List Char) :=
  ((pieces isSlugBreak s).map slugWord).filter (!·.isEmpty)

/-- Lower-case ASCII words joined by dashes; all other characters are dropped. -/
def slugChars (s : List Char) : List Char :=
  ['-'].intercalate (slugWords s)

def slug (s : String) : String :=
  String.ofList (slugChars s.toList)

/-- The slugs given out so far, each with the number of its last repeat. -/
structure Slugs where
  seen : List (String × Nat) := []
  deriving Repr, DecidableEq, Inhabited

namespace Slugs

/-- The number of repeats of `s` so far, if it was given out. -/
def repeats? (t : Slugs) (s : String) : Option Nat :=
  t.seen.lookup s

/-- Note that `s` has been repeated `n` times. -/
def note (t : Slugs) (s : String) (n : Nat) : Slugs :=
  ⟨(s, n) :: t.seen⟩

/-- The anchor of a heading that reads `text`: its slug, and from the second time on the slug
with the number of the repeat. -/
def anchor (t : Slugs) (text : String) : String × Slugs :=
  let s := slug text
  match t.repeats? s with
  | none => (s, t.note s 0)
  | some n => (s ++ "-" ++ toString (n + 1), t.note s (n + 1))

end Slugs

end Marktree.Text
