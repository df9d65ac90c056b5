import Marktree.Text.Basic

/-!
# Scalars

Strings, numbers, dates and times of a TOML document. Of numbers, dates and times only the form is
checked, as no setting is one.
-/
namespace Marktree.Toml

/-- Control characters other than the tab stand nowhere. -/
def isPlain (c : Char) : Bool :=
  c == '\t' || (0x20 ≤ c.toNat && c.toNat != 0x7f)

/-! ## Strings -/

/-- What the next characters of a string are. -/
inductive Reading
  | text
  /-- After a backslash. -/
  | escape
  /-- Digits of a character number: how many come after the next one, and the number so far. -/
  | digits (left value : Nat)
  /-- Blanks after a backslash; whether a line end was among them. -/
  | fold (ended : Bool)
  deriving Repr, DecidableEq

/-- The character after a backslash for another one. -/
def escaped? : Char → Option Char
  | 'b' => some '\x08'
  | 't' => some '\t'
  | 'n' => some '\n'
  | 'f' => some '\x0c'
  | 'r' => some '\r'
  | 'e' => some '\x1b'
  | '"' => some '"'
  | '\\' => some '\\'
  | _ => none

/-- The number of digits of a character number. -/
def numberLength? : Char → Option Nat
  | 'x' => some 2
  | 'u' => some 4
  | 'U' => some 8
  | _ => none

/-- Puts a character before a string. -/
def push (c : Char) : Option (List Char × List Char) → Option (List Char × List Char) :=
  Option.map fun (s, rest) => (c :: s, rest)

/-- A string up to its closing quote, and what follows. Lines end in strings of many lines only. -/
def quoted (multi : Bool) : Reading → List Char → Option (List Char × List Char)
  | _, [] => none
  | .digits left value, c :: cs => do
    let value := value * 16 + (← Text.digit? 16 c)
    if left = 0 then push (← Text.scalar? value) (quoted multi .text cs)
    else quoted multi (.digits (left - 1) value) cs
  | .escape, c :: cs =>
    match escaped? c, numberLength? c with
    | some e, _ => push e (quoted multi .text cs)
    | none, some n => quoted multi (.digits (n - 1) 0) cs
    | none, none =>
      if multi && (c == ' ' || c == '\t') then quoted multi (.fold false) cs
      else if multi && (c == '\n' || (c == '\r' && cs.head? == some '\n')) then
        quoted multi (.fold true) cs
      else none
  | reading, c :: cs =>
    let lineEnd := c == '\n' || (c == '\r' && cs.head? == some '\n')
    if reading != .text && (c == ' ' || c == '\t') then quoted multi reading cs
    else if reading != .text && lineEnd then quoted multi (.fold true) cs
    else if reading == .fold false then none
    else if c == '\\' then quoted multi .escape cs
    else if c == '"' then
      if !multi then some ([], cs)
      else
        match cs with
        | '"' :: '"' :: '"' :: '"' :: rest => some (['"', '"'], rest)
        | '"' :: '"' :: '"' :: rest => some (['"'], rest)
        | '"' :: '"' :: rest => some ([], rest)
        | _ => push c (quoted multi .text cs)
    else if isPlain c || (multi && lineEnd) then push c (quoted multi .text cs)
    else none

/-- A string without escapes up to its closing quote, and what follows. -/
def literal (multi : Bool) : List Char → Option (List Char × List Char)
  | [] => none
  | '\'' :: cs =>
    if !multi then some ([], cs)
    else
      match cs with
      | '\'' :: '\'' :: '\'' :: '\'' :: rest => some (['\'', '\''], rest)
      | '\'' :: '\'' :: '\'' :: rest => some (['\''], rest)
      | '\'' :: '\'' :: rest => some ([], rest)
      | _ => push '\'' (literal multi cs)
  | c :: cs =>
    if isPlain c || (multi && (c == '\n' || (c == '\r' && cs.head? == some '\n'))) then
      push c (literal multi cs)
    else none

/-- A line end right after the opening quotes is left out. -/
def afterOpening : List Char → List Char
  | '\n' :: cs => cs
  | '\r' :: '\n' :: cs => cs
  | cs => cs

/-- The string on one line at the start of the characters. -/
def lineString? : List Char → Option (List Char × List Char)
  | '"' :: cs => quoted false .text cs
  | '\'' :: cs => literal false cs
  | _ => none

/-- The string at the start of the characters, and what follows. -/
def string? : List Char → Option (List Char × List Char)
  | '"' :: '"' :: '"' :: cs => quoted true .text (afterOpening cs)
  | '\'' :: '\'' :: '\'' :: cs => literal true (afterOpening cs)
  | cs => lineString? cs

/-! ## Numbers -/

/-- Digits with single underscores between them. -/
def grouped? (base : Nat) (cs : List Char) : Option Nat :=
  let groups := Text.pieces (· == '_') cs
  if groups.any (·.isEmpty) then none else Text.number? base groups.flatten

/-- Without a sign. -/
def unsigned : List Char → List Char
  | '+' :: cs => cs
  | '-' :: cs => cs
  | cs => cs

/-- A decimal number that does not begin with a spare zero. -/
def decimal? (cs : List Char) : Option Nat :=
  match cs with
  | '0' :: _ :: _ => none
  | _ => grouped? 10 cs

/-- The integers that can be held take 128 bits, with or without a sign. -/
def isInteger : List Char → Bool
  | '0' :: 'x' :: cs => (grouped? 16 cs).any (· < Nat.pow 2 128)
  | '0' :: 'o' :: cs => (grouped? 8 cs).any (· < Nat.pow 2 128)
  | '0' :: 'b' :: cs => (grouped? 2 cs).any (· < Nat.pow 2 128)
  | '-' :: cs => (decimal? cs).any (· ≤ Nat.pow 2 127)
  | cs => (decimal? (unsigned cs)).any (· < Nat.pow 2 128)

/-- The least magnitude that rounds to infinity as a double. -/
def doubleLimit : Nat :=
  Nat.pow 2 1024 - Nat.pow 2 970

/-- The number `m · 10 ^ e`, whose digits number `digits`, is no larger than a double can be. -/
def isFinite (m digits : Nat) (e : Int) : Bool :=
  m = 0 || digits + e ≤ 300 ||
    (digits + e ≤ 400 &&
      (if 0 ≤ e then m * Nat.pow 10 e.toNat < doubleLimit else m < doubleLimit * Nat.pow 10 (-e).toNat))

/-- A number with a fraction or an exponent. -/
def isFloat (cs : List Char) : Bool :=
  let cs := unsigned cs
  if cs = ['i', 'n', 'f'] || cs = ['n', 'a', 'n'] then true
  else
    let (mantissa, exponent) := cs.span fun c => c != 'e' && c != 'E'
    let (whole, fraction) := mantissa.span (· != '.')
    let places := (fraction.filter Char.isDigit).length
    let digits := (mantissa.filter Char.isDigit).dropWhile (· == '0')
    let exponent? : Option Int :=
      match exponent with
      | [] => some 0
      | _ :: '-' :: es => (grouped? 10 es).map fun n => -(n : Int)
      | _ :: es => (grouped? 10 (unsigned es)).map fun n => (n : Int)
    (!exponent.isEmpty || !fraction.isEmpty) && (decimal? whole).isSome &&
      (fraction.isEmpty || (grouped? 10 fraction.tail).isSome) &&
      exponent?.any fun e =>
        isFinite ((Text.number? 10 digits).getD 0) digits.length (e - places)

/-! ## Dates and times -/

/-- A number of two digits within bounds. -/
def pair? (low high : Nat) (a b : Char) : Bool :=
  (Text.number? 10 [a, b]).any fun n => low ≤ n && n ≤ high

/-- The number of days of a month. -/
def daysOf (year month : Nat) : Nat :=
  if month = 2 then if year % 4 = 0 && (year % 100 != 0 || year % 400 = 0) then 29 else 28
  else if month = 4 || month = 6 || month = 9 || month = 11 then 30
  else 31

/-- Past a date. -/
def afterDate? : List Char → Option (List Char)
  | a :: b :: c :: d :: '-' :: e :: f :: '-' :: g :: h :: rest => do
    let year ← Text.number? 10 [a, b, c, d]
    let month ← Text.number? 10 [e, f]
    if pair? 1 12 e f && pair? 1 (daysOf year month) g h then some rest else none
  | _ => none

/-- Past the fraction of a second. -/
def afterFraction? : List Char → Option (List Char)
  | '.' :: cs => if (cs.head?).any Char.isDigit then some (cs.dropWhile Char.isDigit) else none
  | cs => some cs

/-- Past a time; the seconds may be missing. -/
def afterTime? : List Char → Option (List Char)
  | a :: b :: ':' :: c :: d :: rest =>
    if pair? 0 23 a b && pair? 0 59 c d then
      match rest with
      | ':' :: e :: f :: rest => if pair? 0 60 e f then afterFraction? rest else none
      | _ => some rest
    else none
  | _ => none

/-- Nothing, or the distance from universal time. -/
def isOffset : List Char → Bool
  | [] | ['Z'] | ['z'] => true
  | [sign, a, b, ':', c, d] =>
    (sign == '+' || sign == '-') && pair? 0 23 a b && pair? 0 59 c d
  | _ => false

/-- A date, a time, or both. -/
def isMoment (cs : List Char) : Bool :=
  match afterDate? cs with
  | some [] => true
  | some (c :: rest) => (c == 'T' || c == 't' || c == ' ') && (afterTime? rest).any isOffset
  | none => (afterTime? cs).any (·.isEmpty)

end Marktree.Toml
