import Marktree.Markdown.Emphasis
import Marktree.Markdown.Label
import Marktree.Markdown.Link
import Marktree.Markdown.Token

/-!
# Inline markup

The tokens of a block become events. Code spans, raw html and addresses are found from left to
right; a closing bracket makes a link or an image of what follows the last open bracket, if a target
or the label of a definition comes with it.
-/
namespace Marktree.Markdown

namespace Token

/-- What a token may come to is not known before its block is complete. -/
def isOpen (t : Token) : Bool :=
  match t.mark with
  | .text | .literal _ | .softBreak | .hardBreak _ => false
  | _ => true

/-- The tokens that reach past `i`. -/
def past (i : Nat) (ts : List Token) : List Token :=
  ts.dropWhile (·.stop ≤ i)

/-- The tokens past `i`, of which the first starts there at the earliest. -/
def cutAt (i : Nat) (ts : List Token) : List Token :=
  match past i ts with
  | [] => []
  | t :: rest => { t with start := max t.start i } :: rest

/-- The tokens with the bracket that ends at `i` marked: it ends no reference. -/
def spoil (i : Nat) : List Token → List Token
  | [] => []
  | t :: ts => if t.stop < i then t :: spoil i ts else { t with mark := .closeBracket false } :: ts

end Token

/-- Where inline markup is read. -/
structure Scope where
  /-- The text up to the end of the block. -/
  source : Source
  path : List Container
  inTable : Bool
  definitions : Definitions
  deriving Inhabited

/-- An open bracket. -/
structure Bracket where
  image : Bool
  /-- A link inside it is complete; links do not nest. -/
  disabled : Bool := false
  token : Token
  /-- The items before it, in reverse. -/
  before : List Item
  deriving Inhabited

/-- Inline markup that is read up to some token. -/
structure Inline where
  /-- The open brackets from the innermost on. -/
  brackets : List Bracket := []
  /-- The items after the innermost bracket, in reverse. -/
  items : List Item := []
  /-- How many bytes may still come from definitions. -/
  budget : Nat
  deriving Inhabited

namespace Scope

def textOf (sc : Scope) (t : Token) : Item :=
  .events [.text (sc.source.sliceString t.start t.stop)]

/-! ## Code spans -/

/-- The text from `i` to `j` with a space for each line end and without the marks after it. -/
def codeFrom (sc : Scope) (i j : Nat) (fuel : Nat) : List Char :=
  let s := sc.source.upTo j
  match fuel, s.at? i with
  | 0, _ => []
  | _, none => []
  | fuel + 1, some c =>
    if isLineEnd c then ' ' :: sc.codeFrom (skipMarks s sc.path (i + 1)) j fuel
    else if sc.inTable && c == '\\' && s.hasAt (i + 1) '|' then '|' :: sc.codeFrom (i + 2) j fuel
    else c :: sc.codeFrom (i + 1) j fuel

/-- The text of a code span. One space at each end is left out, if something stands between. -/
def code (sc : Scope) (i j : Nat) : String :=
  let cs := sc.codeFrom i j (j - i)
  String.ofList <|
    if cs.head? == some ' ' && cs.getLast? == some ' ' && !cs.all (· == ' ') then cs.tail.dropLast
    else cs

/-! ## Targets -/

/-- Past blanks with at most one line end. -/
def separator (sc : Scope) (i : Nat) : Nat :=
  let s := sc.source
  let i := s.skipSpace i
  match s.eol? i with
  | none => i
  | some j => s.skipSpace (skipMarks s sc.path j)

/-- The title from `i` to its closing delimiter. After a line end it goes on at the next token. -/
def titleFrom (sc : Scope) (opening closing : Char) (rest : List Token) (i : Nat)
    (acc : List Char) (fuel : Nat) : Option (Nat × List Char) :=
  let s := sc.source
  match fuel, s.at? i with
  | 0, _ => none
  | _, none => none
  | fuel + 1, some c =>
    if c = closing then some (i + 1, acc.reverse)
    else if c = opening then none
    else
      let next? := if isLineEnd c then (Token.past (i + 1) rest).head? else none
      match next?.filter (i < ·.start) with
      | some t => sc.titleFrom opening closing rest t.start ('\n' :: acc) fuel
      | none =>
        match if c = '&' then reference? s i else none with
        | some (j, cs) => sc.titleFrom opening closing rest j (cs.reverse ++ acc) fuel
        | none =>
          if sc.inTable && isEscapedBar s i then
            sc.titleFrom opening closing rest (i + 3) ('|' :: acc) fuel
          else if isEscape s i then
            sc.titleFrom opening closing rest (i + 2) ((s.at? (i + 1)).toList ++ acc) fuel
          else sc.titleFrom opening closing rest (i + 1) (c :: acc) fuel

def title? (sc : Scope) (rest : List Token) (i : Nat) : Option (Nat × String) := do
  let opening ← sc.source.at? i
  let closing ← Link.titleClose? opening
  let (j, cs) ← sc.titleFrom opening closing rest (i + 1) [] sc.source.stop
  return (j, String.ofList cs)

/-- The end of the target in parentheses at `i` and what it is. -/
def target? (sc : Scope) (rest : List Token) (i : Nat) : Option (Nat × Definition) := do
  let s := sc.source
  if s.hasAt i '(' then
    let (i, destination) ← Link.destination? s (sc.separator (i + 1))
    let i := sc.separator i
    let (i, title) :=
      match sc.title? rest i with
      | some (j, title) => (sc.separator j, title)
      | none => (i, "")
    if s.hasAt i ')' then return (i + 1, ⟨unescaped sc.inTable destination, title⟩) else none
  else none

/-- The end of the label after the opening bracket before `i`, read up to `stop`. -/
def label? (sc : Scope) (i stop : Nat) : Option (Nat × List Char) :=
  let s := sc.source.upTo stop
  Label.read? s (fun j => some (skipMarks s sc.path j)) sc.inTable i

end Scope

namespace Inline

def add (l : Inline) (x : Item) : Inline :=
  { l with items := x :: l.items }

/-- The last open bracket is text. -/
def giveUp (l : Inline) (sc : Scope) (b : Bracket) (bs : List Bracket) : Inline :=
  { l with brackets := bs, items := l.items ++ sc.textOf b.token :: b.before }

/-- The last open bracket becomes a link or an image around the items after it. -/
def enclose (l : Inline) (b : Bracket) (bs : List Bracket) (d : Definition) : Inline :=
  let tag : Tag := if b.image then .image d.target d.title else .link d.target d.title
  { l with
    brackets := if b.image then bs else bs.map fun c => { c with disabled := !c.image }
    items := .span tag l.items.reverse :: b.before }

/-- The reference after the closing bracket `t`: its label, and the tokens after it. The second list
is what to go on with if there is no definition for the label. A bracket that is known to end no
reference needs a label of its own after it. -/
def reference? (sc : Scope) (b : Bracket) (viable : Bool) (t : Token) (rest : List Token) :
    Option (List Char × List Token × List Token) :=
  let s := sc.source
  let full := if s.hasAt t.stop '[' then sc.label? (t.stop + 1) s.stop else none
  match full with
  | some (j, label) =>
    some (label, (Token.past (j - 1) rest).tail, Token.spoil j rest)
  | none =>
    let after := if s.hasAt t.stop '[' && s.hasAt (t.stop + 1) ']' then rest.drop 2 else rest
    if viable then
      ((sc.label? b.token.stop t.stop).filter (·.1 == t.stop)).map fun (_, label) =>
        (label, after, rest)
    else none

/-- Looks a label up, as long as the budget lasts. -/
def lookUp (l : Inline) (sc : Scope) (label : List Char) : Option (Definition × Inline) :=
  if l.budget = 0 then none
  else
    (sc.definitions.find? label).map fun d =>
      (d, { l with budget := l.budget - (d.target.utf8ByteSize + d.title.utf8ByteSize) })

/-- Reads the closing bracket `t`. -/
def closeBracket (l : Inline) (sc : Scope) (viable : Bool) (t : Token) (rest : List Token) :
    Inline × List Token :=
  match l.brackets with
  | [] => (l.add (sc.textOf t), rest)
  | b :: bs =>
    let plain := (l.giveUp sc b bs).add (sc.textOf t)
    if b.disabled then (plain, rest)
    else
      match sc.target? rest t.stop with
      | some (j, d) => (l.enclose b bs d, Token.cutAt j rest)
      | none =>
        match reference? sc b viable t rest with
        | none => (plain, rest)
        | some (label, after, otherwise) =>
          match l.lookUp sc label with
          | none => (plain, otherwise)
          | some (d, l) => (l.enclose b bs d, after)

/-- Reads the angle bracket `t`. -/
def angle (l : Inline) (sc : Scope) (t : Token) (rest : List Token) : Inline × List Token :=
  let s := sc.source
  match Link.addressEnd? s t.stop with
  | some j =>
    let address := s.sliceString t.stop j
    (l.add (.span (.link address "") [.events [.text address]]), Token.cutAt (j + 1) rest)
  | none =>
    match Html.inline? s (skipMarks s sc.path) t.start with
    | some (j, kept) =>
      let html := if kept.isEmpty then s.sliceString t.start j else String.ofList kept
      (l.add (.events [.inlineHtml html]), Token.cutAt j rest)
    | none => (l.add (sc.textOf t), rest)

/-- Reads a run of ticks. -/
def ticks (l : Inline) (sc : Scope) (run : Nat) (escaped : Bool) (t : Token) (rest : List Token) :
    Inline × List Token :=
  let n := if escaped then run - 1 else run
  let others := rest.dropWhile fun u =>
    match u.mark with
    | .ticks m _ => m != n
    | _ => true
  if n = 0 then (l.add (sc.textOf t), rest)
  else
    match others with
    | [] => (l.add (sc.textOf t), rest)
    | u :: rest =>
      let l := if escaped then l.add (.events [.text "\x60"]) else l
      (l.add (.events [.code (sc.code t.stop u.start)]), rest)

/-- Reads a token. -/
def step (l : Inline) (sc : Scope) (t : Token) (rest : List Token) : Inline × List Token :=
  match t.mark with
  | .text => (l.add (sc.textOf t), rest)
  | .literal cs => (l.add (.events [.text (String.ofList cs)]), rest)
  | .delimiter c n opens closes => (l.add (.delimiter c n opens closes), rest)
  | .quote c opens closes => (l.add (.quote c opens closes), rest)
  | .softBreak => (l.add (.events [.softBreak]), rest)
  | .hardBreak backslash => (l.add (.hardBreak backslash), rest)
  | .ticks run escaped => l.ticks sc run escaped t rest
  | .angle => l.angle sc t rest
  | .bracket => ({ l with brackets := ⟨false, false, t, l.items⟩ :: l.brackets, items := [] }, rest)
  | .imageBracket =>
    ({ l with brackets := ⟨true, false, t, l.items⟩ :: l.brackets, items := [] }, rest)
  | .closeBracket viable => l.closeBracket sc viable t rest

/-- Reads all tokens. -/
def run (l : Inline) (sc : Scope) (ts : List Token) (fuel : Nat) : Inline :=
  match fuel, ts with
  | 0, _ => l
  | _, [] => l
  | fuel + 1, t :: ts =>
    let (l, ts) := l.step sc t ts
    l.run sc ts fuel

/-- The items when all tokens are read; brackets still open are text. -/
def finish (l : Inline) (sc : Scope) : List Item :=
  (l.brackets.foldl (fun items b => items ++ sc.textOf b.token :: b.before) l.items).reverse

/-- The events of tokens, and what is left of the budget. -/
def events (sc : Scope) (ts : List Token) (budget : Nat) : List Event × Nat :=
  let l : Inline := run { budget } sc ts ts.length
  (Emphasis.resolve (!ts.any Token.isOpen) (l.finish sc), l.budget)

end Inline

end Marktree.Markdown
