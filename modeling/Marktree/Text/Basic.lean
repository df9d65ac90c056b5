/-!
# Characters and texts

Sets of code points, digits and numbers, and the characters with the Unicode property White_Space, with
trimming at them and cutting a text into the pieces between separators.
-/
namespace Marktree.Text

/-- One of the ranges holds the code point. -/
def covers (ranges : List (Nat × Nat)) (n : Nat) : Bool :=
  ranges.any fun (first, last) => first ≤ n && n ≤ last

/-! ## Numbers -/

/-- The value of a digit in a base up to sixteen. -/
def digit? (base : Nat) (c : Char) : Option Nat :=
  let v? :=
    if c.isDigit then some (c.toNat - '0'.toNat)
    else if 'a' ≤ c && c ≤ 'f' then some (c.toNat - 'a'.toNat + 10)
    else if 'A' ≤ c && c ≤ 'F' then some (c.toNat - 'A'.toNat + 10)
    else none
  v?.filter (· < base)

/-- The number that a run of digits writes; there is none without a digit. -/
def number? (base : Nat) : List Char → Option Nat
  | [] => none
  | cs => cs.foldl (fun acc c => do return (← acc) * base + (← digit? base c)) (some 0)

/-- The Unicode scalar value with a number. -/
def scalar? (n : Nat) : Option Char :=
  if h : n.isValidChar then some (Char.ofNatAux n h) else none

/-! ## Blanks -/

/-- The Unicode property White_Space. -/
def isBlank (c : Char) : Bool :=
  let n := c.toNat
  (9 ≤ n && n ≤ 13) || n == 0x20 || n == 0x85 || n == 0xA0 || n == 0x1680 ||
    (0x2000 ≤ n && n ≤ 0x200A) || n == 0x2028 || n == 0x2029 || n == 0x202F || n == 0x205F ||
    n == 0x3000

/-- Without the blanks it ends in. -/
def trimEndChars (s : List Char) : List Char :=
  (s.reverse.dropWhile isBlank).reverse

/-- Without the blanks at both ends. -/
def trimChars (s : List Char) : List Char :=
  trimEndChars (s.dropWhile isBlank)

def trim (s : String) : String :=
  String.ofList (trimChars s.toList)

def trimEnd (s : String) : String :=
  String.ofList (trimEndChars s.toList)

/-- The pieces between the characters that `p` holds of: one more than there are such characters. -/
def pieces (p : Char → Bool) : List Char → List (List Char)
  | [] => [[]]
  | c :: cs =>
    if p c then [] :: pieces p cs
    else
      match pieces p cs with
      | [] => [[c]]
      | w :: ws => (c :: w) :: ws

theorem pieces_eq_splitOnP (p : Char → Bool) (s : List Char) : pieces p s = s.splitOnP p := by
  induction s with
  | nil => rfl
  | cons c cs ih =>
    rw [pieces, List.splitOnP_cons_eq_if_modifyHead, ih]
    split
    · rfl
    · cases h : cs.splitOnP p with
      | nil => exact absurd h (List.splitOnP_ne_nil p cs)
      | cons w ws => rfl

/-- The maximal runs of non-blank characters. -/
def words (s : List Char) : List (List Char) :=
  (pieces isBlank s).filter (!·.isEmpty)

/-- The lines of a text, cut at each line feed. -/
def lines (s : List Char) : List (List Char) :=
  pieces (· == '\n') s

/-- Every carriage return that a line feed follows is dropped. -/
def normalizeNewlines : List Char → List Char
  | [] => []
  | '\r' :: '\n' :: cs => '\n' :: normalizeNewlines cs
  | c :: cs => c :: normalizeNewlines cs

/-- The same for a string, which is copied only if there is something to drop. -/
def unixNewlines (s : String) : String :=
  if s.contains "\r\n" then String.ofList (normalizeNewlines s.toList) else s

end Marktree.Text
