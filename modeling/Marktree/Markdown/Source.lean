import Marktree.Text.Punctuation

/-!
# Source texts

A text that is read by index, up to a limit. The readers here take an index and give the index where
they stop.
-/
namespace Marktree.Markdown

/-- The characters before `stop` can be read. -/
structure Source where
  chars : Array Char
  stop : Nat
  deriving Inhabited

/-- ASCII white space that does not end a line. -/
def isSpace (c : Char) : Bool :=
  c == ' ' || c == '\t' || c == '\x0b' || c == '\x0c'

def isLineEnd (c : Char) : Bool :=
  c == '\n' || c == '\r'

def isSpaceOrLineEnd (c : Char) : Bool :=
  isSpace c || isLineEnd c

namespace Source

def ofList (cs : List Char) : Source :=
  ⟨cs.toArray, cs.length⟩

/-- The same text, read up to `i` only. -/
def upTo (s : Source) (i : Nat) : Source :=
  { s with stop := min i s.stop }

def at? (s : Source) (i : Nat) : Option Char :=
  if i < s.stop then s.chars[i]? else none

theorem lt_stop_of_at? {s : Source} {i : Nat} {c : Char} (h : s.at? i = some c) : i < s.stop := by
  unfold at? at h
  split at h
  · assumption
  · simp at h

/-- The character before an index. -/
def before? (s : Source) (i : Nat) : Option Char :=
  if i = 0 then none else s.at? (i - 1)

def hasAt (s : Source) (i : Nat) (c : Char) : Bool :=
  s.at? i == some c

def holdsAt (s : Source) (i : Nat) (p : Char → Bool) : Bool :=
  (s.at? i).any p

/-- The end of the run of characters that `p` holds of. -/
def skip (s : Source) (p : Char → Bool) (i : Nat) : Nat :=
  if i < s.stop then
    if s.holdsAt i p then s.skip p (i + 1) else i
  else i
termination_by s.stop - i

/-- Past one character, if it is `c`. -/
def skipOne (s : Source) (c : Char) (i : Nat) : Nat :=
  if s.hasAt i c then i + 1 else i

/-- The start of the run of characters before `i` that `p` holds of. -/
def skipBack (s : Source) (p : Char → Bool) : Nat → Nat
  | 0 => 0
  | i + 1 => if s.holdsAt i p then s.skipBack p i else i + 1

def skipSpace (s : Source) (i : Nat) : Nat :=
  s.skip isSpace i

/-- Past the line end at `i`; the end of the text is a line end, too. -/
def eol? (s : Source) (i : Nat) : Option Nat :=
  match s.at? i with
  | none => some i
  | some '\n' => some (i + 1)
  | some '\r' => some (if s.hasAt (i + 1) '\n' then i + 2 else i + 1)
  | some _ => none

/-- Past the line end, if the rest of the line is blank. -/
def blankLine? (s : Source) (i : Nat) : Option Nat :=
  s.eol? (s.skipSpace i)

def isBlankLine (s : Source) (i : Nat) : Bool :=
  (s.blankLine? i).isSome

/-- The first place from `i` on where `p` holds. -/
def find? (s : Source) (p : Char → Bool) (i : Nat) : Option Nat :=
  let j := s.skip (!p ·) i
  if j < s.stop then some j else none

/-- The start of the next line. -/
def nextLine (s : Source) (i : Nat) : Nat :=
  match s.find? (· == '\n') i with
  | some j => j + 1
  | none => s.stop

def slice (s : Source) (i j : Nat) : List Char :=
  (s.chars.extract i (min j s.stop)).toList

def sliceString (s : Source) (i j : Nat) : String :=
  String.ofList (s.slice i j)

/-- The characters at `i` begin with a word, seen through `f`. -/
def startsWithVia (s : Source) (f : Char → Char) : List Char → Nat → Bool
  | [], _ => true
  | c :: w, i => s.holdsAt i (f · == c) && s.startsWithVia f w (i + 1)

def startsWith (s : Source) (w : List Char) (i : Nat) : Bool :=
  s.startsWithVia id w i

/-- The same regardless of the case of ASCII letters; the word is in lower case. -/
def startsWithCaseless (s : Source) (w : List Char) (i : Nat) : Bool :=
  s.startsWithVia Char.toLower w i

/-- Some place from `i` on, before `j`, begins with a word. -/
def containsBetween (s : Source) (w : List Char) (i j : Nat) : Bool :=
  (List.range' i (j - i)).any fun k => k + w.length ≤ j && s.startsWith w k

end Source

end Marktree.Markdown
