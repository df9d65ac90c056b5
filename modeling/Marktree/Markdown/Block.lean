import Marktree.Markdown.Definition
import Marktree.Markdown.Token

/-!
# Blocks

A document is cut into blocks line by line. The open containers stand on a stack; a line first goes
on with some of them, then opens new ones, and the rest of it begins a leaf, which reads its further
lines itself.
-/
namespace Marktree.Markdown

/-- What is left to read as inline markup. -/
structure Content where
  /-- The box at the start of a task. -/
  task : Option Bool := none
  tokens : List Token
  /-- The end of the block. -/
  stop : Nat
  deriving Repr, Inhabited

inductive Block
  | paragraph (content : Content)
  | heading (level : Level) (content : Content)
  | rule
  /-- The box of a task without text. -/
  | task (checked : Bool)
  | code (info : Option String) (pieces : List String)
  /-- The lines of raw html as events. -/
  | html (lines : List Event)
  | table (columns : List (Option Align)) (head : List Content) (rows : List (List Content))
  | quote (kind : Option QuoteKind) (blocks : List Block)
  | list (tight : Bool) (first : Option Nat) (items : List Block)
  | item (indent : Nat) (blocks : List Block)
  deriving Inhabited

/-- An open container. -/
inductive Frame
  | quote (kind : Option QuoteKind)
  | list (tight : Bool) (delimiter : Char) (first : Nat)
  | item (indent : Nat)
  deriving Repr, Inhabited

def Frame.container : Frame → Container
  | quote _ => .quote
  | list .. => .list
  | item indent => .item indent

/-- The block that a container becomes. Only lists with numbers have a first one. -/
def Frame.close (f : Frame) (blocks : List Block) : Block :=
  match f with
  | quote kind => .quote kind blocks
  | list tight delimiter first =>
    .list tight (if Line.isBullet delimiter then none else some first) blocks
  | item indent => .item indent blocks

/-- A document that is read up to some line. -/
structure Outline where
  source : Source
  extensions : Extensions
  /-- The open containers from the innermost on, each with its blocks in reverse. -/
  stack : List (Frame × List Block) := []
  /-- The finished blocks in reverse. -/
  blocks : List Block := []
  /-- The innermost item has no content yet. -/
  emptyItem : Bool := false
  /-- The last line was blank. -/
  blank : Bool := false
  /-- The box for the next paragraph. -/
  task : Option Bool := none
  definitions : Definitions := {}
  deriving Inhabited

namespace Outline

/-- Where the next line is read. -/
def place (o : Outline) : Place where
  source := o.source
  extensions := o.extensions
  path := (o.stack.map (·.1.container)).reverse

def append (o : Outline) (b : Block) : Outline :=
  match o.stack with
  | [] => { o with blocks := b :: o.blocks }
  | (f, bs) :: rest => { o with stack := (f, b :: bs) :: rest }

def push (o : Outline) (f : Frame) : Outline :=
  { o with stack := (f, []) :: o.stack }

/-- Closes the innermost container. -/
def pop (o : Outline) : Outline :=
  match o.stack with
  | [] => o
  | (f, bs) :: rest =>
    let o := { o with stack := rest }.append (f.close bs.reverse)
    match f with
    | .list true _ _ => { o with emptyItem := false }
    | _ => o

/-- Closes containers until so many are open. -/
def popTo (n : Nat) (o : Outline) : Outline :=
  (o.stack.length - n).repeat pop o

/-- An item may begin with one blank line, not with two. -/
def closeEmptyItem (o : Outline) : Outline :=
  let o :=
    match o.stack with
    | (.item _, _) :: _ => if o.emptyItem && o.blank then o.pop else o
    | _ => o
  { o with emptyItem := false }

/-- The list around the innermost item is loose. -/
def loosen (o : Outline) : Outline :=
  match o.stack with
  | f :: (.list _ d n, bs) :: rest => { o with stack := f :: (.list false d n, bs) :: rest }
  | _ => o

/-- Closes an open list, as some other block follows. A blank line before that block makes the list
around it loose. -/
def closeList (o : Outline) : Outline :=
  let o := o.closeEmptyItem
  let o :=
    match o.stack with
    | (.list .., _) :: _ => o.pop
    | _ => o
  if o.blank then { o.loosen with blank := false } else o

/-- Goes on with the list that an item with this marker belongs to, or opens one. -/
def continueList (o : Outline) (delimiter : Char) (n : Nat) : Outline :=
  let o := o.closeEmptyItem
  let fresh := { o.closeList.push (.list true delimiter n) with blank := false }
  match o.stack with
  | (.list tight d first, bs) :: rest =>
    if d = delimiter then
      { o with stack := (.list (tight && !o.blank) d first, bs) :: rest, blank := false }
    else fresh
  | _ => fresh

/-! ## Containers -/

/-- Past the marker of an item; its last character, its number and the indentation of the item come
with the place. A thematic break is no item. -/
def marker? (s : Source) (outer : Nat) (m : Margin) : Option (Char × Nat × Nat × Margin) := do
  let (j, c, n) ← Line.marker? s m.pos
  if Line.isBullet c && (Line.rule? s m.pos).isSome then none
  else
    let after : Margin := { m with pos := j }
    let (space, after) := after.takeAll s 1
    if space || after.atLineEnd s then
      let indent := outer + (j - m.pos) + 1
      if s.isBlankLine after.pos then return (c, n, indent, after)
      else
        let (extra, inner) := after.takeUpTo s 4
        if extra < 4 then return (c, n, indent + extra, inner) else return (c, n, indent, after)
    else none

/-- Past the box of a task, which a blank follows. -/
def taskBox? (s : Source) (m : Margin) : Option (Bool × Margin) := do
  let m ← (m.takeUpTo s 3).2.mark? s '['
  let c ← s.at? m.pos
  let checked ← if isSpace c then some false else if c == 'x' || c == 'X' then some true else none
  let m ← ({ m with pos := m.pos + 1 } : Margin).mark? s ']'
  if s.holdsAt m.pos isSpace then return (checked, m) else none

/-- Past the line that gives the kind of a quote. -/
def quoteKind? (s : Source) (m : Margin) : Option (QuoteKind × Nat) := do
  if s.hasAt m.pos '[' && s.hasAt (m.pos + 1) '!' then
    let kinds : List (String × QuoteKind) :=
      [("note", .note), ("tip", .tip), ("important", .important), ("warning", .warning),
        ("caution", .caution)]
    let (word, kind) ← kinds.find? fun (w, _) => s.startsWithCaseless w.toList (m.pos + 2)
    let j := m.pos + 2 + word.length
    if s.hasAt j ']' then return (kind, ← s.blankLine? (j + 1)) else none
  else none

/-- A line under way: it is read to its end, or up to a place in its margin. -/
inductive Progress
  | line (outline : Outline) (next : Nat)
  | margin (outline : Outline) (margin : Margin)

/-- Opens an item. An item without content, also one with nothing but a box, ends the line. -/
def openItem (o : Outline) (c : Char) (n indent : Nat) (m : Margin) : Progress :=
  let s := o.source
  let o := (o.continueList c n).push (.item indent)
  match s.blankLine? m.pos with
  | some next => .line { o with emptyItem := true } next
  | none =>
    match if o.extensions.tasks then taskBox? s m else none with
    | none => .margin o m
    | some (checked, m) =>
      match s.blankLine? m.pos with
      | some next => .line { o.append (.task checked) with emptyItem := true } next
      | none => .margin { o with task := some checked } m

/-- Opens a quote. The line with its kind counts as the first of a paragraph that can go on without
marks. -/
def openQuote (o : Outline) (m : Margin) : Progress ⊕ (Outline × Margin) :=
  let s := o.source
  let o := o.closeList
  match if o.extensions.quoteKinds then quoteKind? s m else none with
  | none => .inr (o.push (.quote none), m)
  | some (kind, next) =>
    let o := o.push (.quote (some kind))
    let (inside, m) := o.place.enter next
    let (indented, m) := m.takeAll s 4
    if !indented && o.place.interrupts inside m.pos then .inl (.line o next)
    else .inl (.margin o (m.skipBlanks s))

/-- Opens the containers that begin at a place in the margin. -/
def openContainers (o : Outline) (m : Margin) (fuel : Nat) : Progress :=
  match fuel with
  | 0 => .margin o m
  | fuel + 1 =>
    let s := o.source
    let (outer, inner) := m.takeUpTo s 4
    if 4 ≤ outer then .margin o m
    else
      match marker? s outer inner with
      | some (c, n, indent, m) =>
        match openItem o c n indent m with
        | .margin o m => openContainers o m fuel
        | p => p
      | none =>
        match inner.quoteMark? s with
        | none => .margin o m
        | some m =>
          match openQuote o m with
          | .inl p => p
          | .inr (o, m) => openContainers o m fuel

/-! ## Leaves -/

/-- The blanks that are left of a tab, and the characters of a line with a plain line feed at its
end. -/
def rawLine (s : Source) (pending i j : Nat) : List String :=
  let blanks := if pending = 0 then [] else [String.ofList (List.replicate pending ' ')]
  let text :=
    if 2 ≤ j && s.hasAt (j - 2) '\r' then [s.sliceString i (j - 2), s.sliceString (j - 1) j]
    else [s.sliceString i j]
  blanks ++ text.filter (!·.isEmpty)

/-- The lines of an indented code block from `i` on, in reverse, and of these those up to the last
that is not blank. -/
def indentedFrom (p : Place) (pending i : Nat) (blank : Bool) (acc solid : List String)
    (fuel : Nat) : Nat × Bool × List String :=
  let s := p.source
  let next := s.nextLine i
  let acc := (rawLine s pending i next).reverse ++ acc
  let solid := if blank then solid else acc
  match fuel with
  | 0 => (next, blank, solid)
  | fuel + 1 =>
    let (inside, m) := p.enter next
    let (indented, m) := m.takeAll s 4
    if !inside || !(indented || m.atLineEnd s) || m.pos = s.stop then (next, blank, solid)
    else indentedFrom p m.pending m.pos (s.isBlankLine m.pos) acc solid fuel

def indentedCode (o : Outline) (m : Margin) : Outline × Nat :=
  let (next, blank, pieces) := indentedFrom o.place m.pending m.pos false [] [] o.source.stop
  ({ o with blank }.append (.code none pieces.reverse), next)

/-- The lines of a fenced code block from the line start `i` on. -/
def fencedFrom (p : Place) (indent : Nat) (c : Char) (n i : Nat) (acc : List String)
    (fuel : Nat) : Nat × List String :=
  let s := p.source
  match fuel with
  | 0 => (i, acc)
  | fuel + 1 =>
    let (inside, m) := p.enter i
    if !inside then (i, acc)
    else
      let m := (m.takeAll s indent).2
      let (deep, closing) := m.takeAll s 4
      match if deep then none else Line.closingFence? s c n closing.pos with
      | some j => ((s.blankLine? j).getD j, acc)
      | none =>
        let next := s.nextLine m.pos
        fencedFrom p indent c n next ((rawLine s m.pending m.pos next).reverse ++ acc) fuel

def fencedCode (o : Outline) (indent i j : Nat) (c : Char) : Outline × Nat :=
  let s := o.source
  let start := s.skipSpace j
  let next := s.nextLine start
  let stop := max start (s.skipBack isSpaceOrLineEnd next)
  let info := unescaped false (s.slice start stop)
  let (k, pieces) := fencedFrom o.place indent c (j - i) next [] (s.stop + 1)
  (o.append (.code (some info) pieces.reverse), k)

/-- A line of raw html: blanks as text, and the line. -/
def htmlLine (s : Source) (blanks i j : Nat) : List Event :=
  let text :=
    if 2 ≤ j && s.hasAt (j - 2) '\r' then
      [.html (s.sliceString i (j - 2)), .html (s.sliceString (j - 1) j)]
    else [.html (s.sliceString i j)]
  if blanks = 0 then text else .text (String.ofList (List.replicate blanks ' ')) :: text

/-- The lines of an html block from `i` on: up to the one with the closing word, or up to a blank
line. -/
def htmlFrom (p : Place) (word : Option (List Char)) (blanks i : Nat) (acc : List Event)
    (fuel : Nat) : Nat × List Event :=
  let s := p.source
  let next := s.nextLine i
  let acc := (htmlLine s blanks i next).reverse ++ acc
  match fuel with
  | 0 => (next, acc)
  | fuel + 1 =>
    let (inside, m) := p.enter next
    let ended :=
      match word with
      | some w => s.containsBetween w i next
      | none => s.isBlankLine m.pos
    if !inside || ended || m.pos = s.stop then (next, acc)
    else htmlFrom p word m.pending m.pos acc fuel

def html (o : Outline) (word : Option (List Char)) (blanks i : Nat) : Outline × Nat :=
  let (next, events) := htmlFrom o.place word blanks i [] o.source.stop
  (o.append (.html events.reverse), next)

/-- The end of the text of a heading that starts at `i`, without a closing run of signs. -/
def headingEnd (s : Source) (i j : Nat) : Nat :=
  let limit := max i (s.skipBack (fun c => c == '\n' || c == '\r' || c == ' ') j)
  let closer := max i (s.skipBack (· == '#') limit)
  if closer = i then i
  else
    let k := s.skipBack (· == ' ') closer
    if k < closer then k else limit

/-- The last token ends where the text of the heading does. -/
def clip (stop : Nat) : List Token → List Token
  | [] => []
  | t :: ts => { t with stop } :: ts

def heading (o : Outline) (i level : Nat) : Outline × Nat :=
  let s := o.source
  let level : Level := ⟨(level - 1) % 6, Nat.mod_lt _ (Nat.succ_pos 5)⟩
  let signs := s.skip (· == '#') i
  match s.eol? signs with
  | some next => (o.append (.heading level ⟨none, [], next⟩), next)
  | none =>
    let start := s.skipSpace signs
    let (next, ending, tokens) := o.place.line .plain start []
    let tokens :=
      match ending with
      | .break ⟨a, b, .hardBreak true⟩ => Token.addText a b tokens
      | _ => tokens
    let tokens := (clip (headingEnd s start next) tokens).reverse
    (o.append (.heading level ⟨none, tokens, next⟩), next)

/-- The cells of a table row from `i` on, in reverse. -/
def cellsFrom (p : Place) (i : Nat) (acc : List Content) (fuel : Nat) : Nat × List Content :=
  let s := p.source
  match fuel with
  | 0 => (i, acc)
  | fuel + 1 =>
    let start := s.skipSpace (s.skipOne '|' i)
    match s.eol? start with
    | some next => (next, acc)
    | none =>
      let (next, _, tokens) := p.line .cell start []
      cellsFrom p next (⟨none, tokens.reverse, next⟩ :: acc) fuel

/-- A row of so many cells; missing cells are empty and further cells are left out. A row has at
least one cell. -/
def row? (p : Place) (columns i : Nat) : Option (Nat × List Content) :=
  let (next, cells) := cellsFrom p i [] (p.source.stop + 1)
  if cells.isEmpty then none
  else
    let cells := cells.reverse.take columns
    some (next, cells ++ List.replicate (columns - cells.length) ⟨none, [], next⟩)

def rowsFrom (p : Place) (columns i : Nat) (acc : List (List Content)) (fuel : Nat) :
    Nat × List (List Content) :=
  match fuel with
  | 0 => (i, acc)
  | fuel + 1 =>
    let (inside, m) := p.enter i
    let m := m.skipBlanks p.source
    if !inside || p.interruptsBar inside m.pos then (i, acc)
    else
      match row? p columns m.pos with
      | none => (i, acc)
      | some (next, cells) => rowsFrom p columns next (cells :: acc) fuel

def table (o : Outline) (columns : List (Option Align)) (head body : Nat) : Outline × Nat :=
  let p := { o.place with inTable := true }
  let cells := ((row? p columns.length head).map (·.2)).getD []
  let (next, rows) := rowsFrom p columns.length body [] (o.source.stop + 1)
  (o.append (.table columns cells rows.reverse), next)

/-- How a paragraph ends. -/
inductive ParagraphEnd
  | plain
  | heading (level : Level)
  | table (columns : List (Option Align)) (body : Nat)

/-- The lines of a paragraph from `i` on, with the tokens in reverse. -/
def paragraphFrom (p : Place) (mode : BarMode) (i : Nat) (acc : List Token) (fuel : Nat) :
    Nat × ParagraphEnd × List Token :=
  let s := p.source
  let (next, ending, acc) := p.line mode i acc
  match fuel, ending with
  | 0, _ => (next, .plain, acc)
  | _, .table columns => (next, .table columns next, acc)
  | fuel + 1, _ =>
    let slash :=
      match ending with
      | .break ⟨a, _, .hardBreak true⟩ => Token.addText a (a + 1) acc
      | _ => acc
    let (inside, m) := p.enter next
    let (indented, m) := m.takeAll s 4
    match if indented || !inside then none else Line.underline? s m.pos with
    | some (stop, level) => (stop, .heading level, slash)
    | none =>
      if !indented && p.interrupts inside m.pos then (next, .plain, slash)
      else
        let m := m.skipBlanks s
        if m.atLineEnd s then (next, .plain, slash)
        else
          let acc :=
            match ending with
            | .break t => t :: acc
            | _ => acc
          paragraphFrom p .plain m.pos acc fuel

def paragraph (o : Outline) (i : Nat) : Outline × Nat :=
  let mode := if o.extensions.tables then .heading else .plain
  let (next, ending, tokens) := paragraphFrom o.place mode i [] (o.source.stop + 1)
  let content : Content := ⟨o.task, tokens.reverse, next⟩
  let o := { o with task := none }
  match ending with
  | .plain => (o.append (.paragraph content), next)
  | .heading level => (o.append (.heading level content), next)
  | .table columns body => o.table columns i body

/-- Reads the block that begins after the containers of a line. -/
def leaf (o : Outline) (m : Margin) : Outline × Nat :=
  let s := o.source
  let (indent, inner) := m.takeUpTo s 4
  if indent = 4 then o.indentedCode inner
  else
    let i := inner.pos
    let word? := if s.hasAt i '<' then Html.closingWord? s (i + 1) else none
    if word?.isSome then o.html word? (max m.pending indent) i
    else if s.hasAt i '<' && (Html.isBlockElement s (i + 1) || Html.isLoneTag s i) then
      o.html none (max m.pending indent) i
    else
      match Line.rule? s i with
      | some next => (o.append .rule, next)
      | none =>
        match Line.headingSigns? s i with
        | some level => o.heading i level
        | none =>
          match o.place.definition? i with
          | some (j, label, d) =>
            ({ o with definitions := o.definitions.insert label d }, (s.blankLine? j).getD j)
          | none =>
            match Line.fence? s i with
            | some (j, c) => o.fencedCode indent i j c
            | none => o.paragraph i

/-- A blank line ends nothing by itself; an empty item can no longer be gone on with. -/
def blankLine (o : Outline) : Outline :=
  match o.stack with
  | [] => o
  | (.quote _, _) :: _ => o
  | (.item _, bs) :: rest =>
    if o.emptyItem then { o with stack := (.item 0, bs) :: rest, blank := true }
    else { o with blank := true }
  | _ => { o with blank := true }

/-- Reads the block that begins on the line at `i`, and gives the start of the line after it. -/
def block (o : Outline) (i : Nat) : Outline × Nat :=
  let s := o.source
  let (n, m) := (Margin.start i).enterAll s o.place.path
  match openContainers (o.popTo n) m (s.stop + 1) with
  | .line o next => (o, next)
  | .margin o m =>
    match s.blankLine? m.pos with
    | some next => (o.blankLine, next)
    | none => o.closeList.leaf m

/-- Reads the blocks from the line at `i` on. -/
def blocksFrom (o : Outline) (i : Nat) (fuel : Nat) : Outline :=
  match fuel with
  | 0 => o.popTo 0
  | fuel + 1 =>
    if i < o.source.stop then
      let (o, next) := o.block i
      o.blocksFrom next fuel
    else o.popTo 0

end Outline

/-- The blocks of a text and its definitions. -/
def blocks (x : Extensions) (s : Source) : List Block × Definitions :=
  let o := Outline.blocksFrom { source := s, extensions := x } 0 s.stop
  (o.blocks.reverse, o.definitions)

end Marktree.Markdown
