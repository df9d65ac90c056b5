import Marktree.Markdown.Line
import Marktree.Markdown.Reference

/-!
# Inline tokens

The lines of a paragraph are cut into tokens: text, and characters that may be markup. What a token
comes to is decided when the paragraph is complete.
-/
namespace Marktree.Markdown

inductive Mark
  | text
  /-- Text other than what is written. -/
  | literal (text : List Char)
  /-- A run of one character that may open or close emphasis. -/
  | delimiter (char : Char) (run : Nat) (opens closes : Bool)
  | quote (char : Char) (opens closes : Bool)
  /-- Ticks; if the first is escaped, a span can only begin after it. -/
  | ticks (run : Nat) (escaped : Bool)
  | angle
  | bracket
  | imageBracket
  /-- A closing bracket; it may be known to end no reference. -/
  | closeBracket (viable : Bool)
  | softBreak
  | hardBreak (backslash : Bool)
  deriving Repr, DecidableEq, Inhabited

structure Token where
  start : Nat
  stop : Nat
  mark : Mark
  deriving Repr, DecidableEq, Inhabited

namespace Token

/-- Puts text before the tokens, which are in reverse; text joins the text that it follows. -/
def addText (i j : Nat) (ts : List Token) : List Token :=
  if i < j then
    match ts with
    | ⟨start, stop, .text⟩ :: rest =>
      if stop = i then ⟨start, j, .text⟩ :: rest else ⟨i, j, .text⟩ :: ts
    | _ => ⟨i, j, .text⟩ :: ts
  else ts

end Token

/-- How bars are read: as text, as text that may turn out to head a table, or as ends of cells. -/
inductive BarMode
  | plain | heading | cell
  deriving Repr, DecidableEq

/-! ## Runs that open and close -/

namespace Run

/-- The character before a run is the bar that its cell begins after. -/
def afterBar (s : Source) (i : Nat) : Bool :=
  s.before? i == some '|' && s.before? (i - 1) != some '\\'

/-- The run of `n` characters `c` at `i` can open emphasis or a quotation. -/
def opens (s : Source) (mode : BarMode) (c : Char) (n i : Nat) : Bool :=
  match s.at? (i + n), s.before? i with
  | none, _ => false
  | some next, none => !Text.isBlank next
  | some next, some before =>
    if Text.isBlank next then false
    else if mode = .cell && afterBar s i then true
    else if mode = .cell && next == '|' then false
    else if c == '*' && !Text.isPunctuation next then true
    else if c == '~' && 1 < n then true
    else if c == '~' && before == '~' && !Text.isPunctuation next then true
    else
      Text.isBlank before ||
        (Text.isPunctuation before && (c != '\'' || !(before == ']' || before == ')')))

/-- The run can close emphasis or a quotation. -/
def closes (s : Source) (mode : BarMode) (c : Char) (n i : Nat) : Bool :=
  match s.before? i, s.at? (i + n) with
  | none, _ => false
  | some before, none => !Text.isBlank before
  | some before, some next =>
    if Text.isBlank before then false
    else if mode = .cell && afterBar s i then false
    else if mode = .cell && next == '|' then true
    else if (c == '*' || (c == '~' && 1 < n)) && !Text.isPunctuation before then true
    else if c == '~' && before == '~' then true
    else Text.isBlank next || Text.isPunctuation next

/-- Dashes for a run of `n` hyphens, of which there are at least two. -/
def dashes (n : Nat) : List Char :=
  let (ems, ens) :=
    match n % 6 with
    | 0 | 3 => (n / 3, 0)
    | 2 | 4 => (0, n / 2)
    | 1 => (n / 3 - 1, 2)
    | _ => (n / 3, 1)
  List.replicate ems '\u2014' ++ List.replicate ens '\u2013'

end Run

/-! ## Lines as tokens -/

/-- How a line ends. -/
inductive Ending
  /-- At a bar or line end of a table row, or with the text. -/
  | cut
  /-- With a break, if another line follows. -/
  | break (token : Token)
  /-- It is the head of a table. -/
  | table (columns : List (Option Align))
  deriving Repr, Inhabited

structure LineTokens where
  /-- In reverse. -/
  tokens : List Token
  /-- The start of the text that is in no token yet. -/
  pending : Nat
  bars : Nat := 0
  lastBar : Nat
  deriving Repr, Inhabited

namespace LineTokens

/-- Adds the pending text up to `i` and a token from there to `j`. -/
def add (l : LineTokens) (i j : Nat) (m : Mark) : LineTokens :=
  { l with tokens := ⟨i, j, m⟩ :: Token.addText l.pending i l.tokens, pending := j }

/-- Adds the pending text up to `i` and leaves out what is before `j`. -/
def leaveOut (l : LineTokens) (i j : Nat) : LineTokens :=
  { l with tokens := Token.addText l.pending i l.tokens, pending := j }

end LineTokens

inductive LineStep
  /-- Reading goes on at an index. -/
  | more (next : Nat) (line : LineTokens)
  /-- The line ends, and the next begins at an index. -/
  | done (next : Nat) (ending : Ending) (line : LineTokens)

namespace Place

/-- Reads the line end at `i`. -/
def lineEnd (p : Place) (mode : BarMode) (first i : Nat) (l : LineTokens) : LineStep :=
  let s := p.source
  let next := (s.eol? i).getD i
  let slashes := i - s.skipBack (· == '\\') i
  let blanks := i - s.skipBack isSpace i
  let table? :=
    if mode = .heading && 0 < l.bars then
      p.delimiterRow? next (Line.cellCount s l.bars first l.lastBar)
    else none
  if mode = .cell then .done i .cut l
  else if slashes % 2 = 1 && next < s.stop then
    .done next (.break ⟨i - 1, next, .hardBreak true⟩) (l.leaveOut (i - 1) next)
  else
    match table? with
    | some (j, columns) => .done j (.table columns) l
    | none =>
      .done next
        (.break
          (if 2 ≤ blanks then ⟨i - blanks, next, .hardBreak false⟩ else ⟨i, next, .softBreak⟩))
        (l.leaveOut (i - blanks) next)

/-- Reads a backslash at `i`. -/
def backslash (p : Place) (mode : BarMode) (i : Nat) (l : LineTokens) : LineStep :=
  let s := p.source
  if isEscape s i then
    let l := l.leaveOut i (i + 1)
    if s.hasAt (i + 1) '\x60' then
      let j := s.skip (· == '\x60') (i + 1)
      .more j (l.add (i + 1) j (.ticks (j - (i + 1)) true))
    else if mode = .cell && isEscapedBar s i then .more (i + 3) { l with pending := i + 2 }
    else .more (i + 2) l
  else .more (i + 1) l

/-- The end of the run of characters `c` at `i`. -/
def runEnd (p : Place) (c : Char) (i : Nat) : Nat :=
  p.source.skip (· == c) i

/-- Reads a run of characters `c` that may open or close emphasis. -/
def delimiterRun (p : Place) (mode : BarMode) (i : Nat) (c : Char) (l : LineTokens) : LineStep :=
  let run := p.runEnd c i
  let n := run - i
  let opens := Run.opens p.source mode c n i
  let closes := Run.closes p.source mode c n i
  if (opens || closes) && (c != '~' || n ≤ 2) then
    .more run (l.add i run (.delimiter c n opens closes))
  else .more run l

/-- Reads a run of ticks. -/
def tickRun (p : Place) (i : Nat) (l : LineTokens) : LineStep :=
  let run := p.runEnd '\x60' i
  .more run (l.add i run (.ticks (run - i) false))

/-- Reads a run of hyphens; of two and more, dashes are made. -/
def hyphenRun (p : Place) (i : Nat) (l : LineTokens) : LineStep :=
  let run := p.runEnd '-' i
  if 2 ≤ run - i then .more run (l.add i run (.literal (Run.dashes (run - i)))) else .more run l

/-- Reads the character `c` at `i`; `first` is where the line began. -/
def character (p : Place) (mode : BarMode) (first i : Nat) (c : Char) (l : LineTokens) :
    LineStep :=
  let s := p.source
  let x := p.extensions
  match c with
  | '\n' | '\r' => p.lineEnd mode first i l
  | '\\' => p.backslash mode i l
  | '*' | '_' => p.delimiterRun mode i c l
  | '~' => if x.strikethrough then p.delimiterRun mode i c l else .more (i + 1) l
  | '\x60' => p.tickRun i l
  | '<' => if s.hasAt (i + 1) '\\' then .more (i + 1) l else .more (i + 1) (l.add i (i + 1) .angle)
  | '!' =>
    if s.hasAt (i + 1) '[' then .more (i + 2) (l.add i (i + 2) .imageBracket) else .more (i + 1) l
  | '[' => .more (i + 1) (l.add i (i + 1) .bracket)
  | ']' => .more (i + 1) (l.add i (i + 1) (.closeBracket true))
  | '&' =>
    match reference? s i with
    | some (j, text) => .more j (l.add i j (.literal text))
    | none => .more (i + 1) l
  | '|' =>
    if mode = .cell then .done i .cut l
    else .more (i + 1) { l with bars := l.bars + 1, lastBar := i }
  | '.' =>
    if x.smart && s.startsWith ['.', '.', '.'] i then
      .more (i + 3) (l.add i (i + 3) (.literal ['\u2026']))
    else .more (i + 1) l
  | '-' => if x.smart then p.hyphenRun i l else .more (i + 1) l
  | '\'' | '"' =>
    if x.smart then
      .more (i + 1)
        (l.add i (i + 1) (.quote c (Run.opens s mode c 1 i) (Run.closes s mode c 1 i)))
    else .more (i + 1) l
  | _ => .more (i + 1) l

/-- Reads the line on from `i`; `first` is where it began. -/
def lineFrom (p : Place) (mode : BarMode) (first i : Nat) (l : LineTokens) (fuel : Nat) :
    Nat × Ending × LineTokens :=
  match fuel, p.source.at? i with
  | 0, _ => (i, .cut, l)
  | _, none => (i, .cut, l)
  | fuel + 1, some c =>
    match p.character mode first i c l with
    | .more next l => lineFrom p mode first next l fuel
    | .done next ending l => (next, ending, l)

/-- Reads the line at `i` and adds its tokens, in reverse, to those before. -/
def line (p : Place) (mode : BarMode) (i : Nat) (before : List Token) :
    Nat × Ending × List Token :=
  let s := p.source
  let (next, ending, l) := p.lineFrom mode i i ⟨before, i, 0, i⟩ (s.stop + 1)
  match ending with
  | .cut =>
    let j := max l.pending (s.skipBack isSpace next)
    (next, ending, Token.addText l.pending j l.tokens)
  | _ => (next, ending, l.tokens)

end Place

end Marktree.Markdown
