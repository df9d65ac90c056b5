import Marktree.Markdown.Source

/-!
# Raw html

Tags, comments, declarations and the like, and the lines that open an html block.
-/
namespace Marktree.Markdown.Html

/-! ## Tags -/

/-- A tag under way: where it stands, and the text before the line marks that were left out. -/
structure Reading where
  pos : Nat
  /-- The finished part of the text, if some marks were left out. -/
  kept : List Char := []
  /-- Where the unfinished part starts. -/
  mark : Nat
  deriving Inhabited

/-- How a tag goes on after a line end; in a block it does not. -/
abbrev Continuation := Option (Nat → Nat)

def Reading.to (r : Reading) (i : Nat) : Reading :=
  { r with pos := i }

/-- Past a line end at `i`, leaving out the marks of the next line. -/
def Reading.nextLine? (s : Source) (k : Continuation) (r : Reading) (i : Nat) : Option Reading :=
  k.map fun f =>
    let j := f i
    if i < j then ⟨j, r.kept ++ s.slice r.mark i, j⟩ else r.to i

/-- Past blanks and line ends. The text may not end here. -/
def Reading.skipBlanks? (s : Source) (k : Continuation) (r : Reading) (fuel : Nat) :
    Option Reading :=
  let i := s.skipSpace r.pos
  match s.eol? i with
  | none => some (r.to i)
  | some j =>
    match fuel with
    | 0 => none
    | fuel + 1 => if j = i then none else (r.nextLine? s k j).bind (·.skipBlanks? s k fuel)

/-- Past blanks and line ends, also to the end of the text. -/
def Reading.skipGap? (s : Source) (k : Continuation) (r : Reading) (fuel : Nat) : Option Reading :=
  let i := s.skipSpace r.pos
  match s.eol? i with
  | none => some (r.to i)
  | some j =>
    match fuel with
    | 0 => none
    | fuel + 1 => if j = i then some (r.to i) else (r.nextLine? s k j).bind (·.skipGap? s k fuel)

def isNameStart (c : Char) : Bool :=
  c.isAlpha || c == '_' || c == ':'

def isNameChar (c : Char) : Bool :=
  c.isAlphanum || c == '_' || c == '.' || c == ':' || c == '-'

def isUnquoted (c : Char) : Bool :=
  !(c == '\'' || c == '"' || c == ' ' || c == '=' || c == '>' || c == '<' || c == '\x60' ||
    isLineEnd c)

/-- Past a quoted value and its closing quote. -/
def Reading.quoted? (s : Source) (k : Continuation) (q : Char) (r : Reading) (fuel : Nat) :
    Option Reading :=
  let i := s.skip (fun c => c != q && !isLineEnd c) r.pos
  match s.at? i, s.eol? i with
  | none, _ => none
  | some _, none => some (r.to (i + 1))
  | some _, some j =>
    match fuel with
    | 0 => none
    | fuel + 1 => (r.nextLine? s k j).bind (·.quoted? s k q fuel)

def Reading.value? (s : Source) (k : Continuation) (r : Reading) : Option Reading :=
  match s.at? r.pos with
  | none => none
  | some c =>
    if c = '"' || c = '\'' then (r.to (r.pos + 1)).quoted? s k c s.stop
    else
      let j := s.skip isUnquoted r.pos
      if j = r.pos then none else some (r.to j)

/-- Past an attribute with its value, if it has one. -/
def Reading.attribute? (s : Source) (k : Continuation) (r : Reading) : Option Reading :=
  if s.holdsAt r.pos isNameStart then do
    let r := r.to (s.skip isNameChar (r.pos + 1))
    let r' ← r.skipGap? s k s.stop
    if s.hasAt r'.pos '=' then
      let r' ← (r'.to (r'.pos + 1)).skipGap? s k s.stop
      r'.value? s k
    else return r
  else none

/-- Past the attributes of a tag; before each stands a blank. -/
def Reading.attributes? (s : Source) (k : Continuation) (r : Reading) (fuel : Nat) :
    Option Reading :=
  match fuel with
  | 0 => none
  | fuel + 1 => do
    let r' ← r.skipBlanks? s k s.stop
    if s.hasAt r'.pos '/' || s.hasAt r'.pos '>' then return r'
    else if r'.pos = r.pos then none
    else (← r'.attribute? s k).attributes? s k fuel

/-- The end of the tag that opens at `i`, and its text if line marks were left out. -/
def tag? (s : Source) (k : Continuation) (i : Nat) : Option (Nat × List Char) := do
  let closing := s.hasAt (i + 1) '/'
  let name := if closing then i + 2 else i + 1
  if s.holdsAt name Char.isAlpha then
    let r : Reading := ⟨s.skip (fun c => c.isAlphanum || c == '-') name, [], i⟩
    let r ← if closing then some r else r.attributes? s k (s.stop + 1)
    let j := s.skipSpace r.pos
    let j := if closing then j else s.skipOne '/' j
    if s.hasAt j '>' then
      return (j + 1, if r.kept.isEmpty then [] else r.kept ++ s.slice r.mark (j + 1))
    else none
  else none

/-! ## Comments, sections, declarations, instructions -/

/-- The first place from `i` on after a word. -/
def after? (s : Source) (w : List Char) (i : Nat) : Option Nat :=
  ((List.range' i (s.stop - i)).find? (s.startsWith w ·)).map (· + w.length)

/-- Past what begins with an exclamation mark at `i`: a comment, a section of characters or a
declaration. -/
def declaration? (s : Source) (i : Nat) : Option Nat :=
  if s.hasAt (i + 1) '-' then
    if s.hasAt (i + 2) '-' then after? s ['-', '-', '>'] (i + 1) else none
  else if s.startsWith "[CDATA[".toList (i + 1) then after? s [']', ']', '>'] (i + 8)
  else if s.holdsAt (i + 1) Char.isAlpha then after? s ['>'] (i + 2)
  else none

/-- The end of the html at the opening bracket at `i`, and its text if line marks were left out. -/
def inline? (s : Source) (k : Nat → Nat) (i : Nat) : Option (Nat × List Char) :=
  if s.hasAt (i + 1) '!' then (declaration? s (i + 1)).map (·, [])
  else if s.hasAt (i + 1) '?' then (after? s ['?', '>'] (i + 2)).map (·, [])
  else tag? s (some k) i

/-! ## Blocks -/

/-- Elements whose block lasts to the end tag. -/
def verbatimElements : List String :=
  ["pre", "style", "script", "textarea"]

/-- Elements whose tags open a block to the next blank line. -/
def blockElements : List String :=
  ["address", "article", "aside", "base", "basefont", "blockquote", "body", "caption", "center",
   "col", "colgroup", "dd", "details", "dialog", "dir", "div", "dl", "dt", "fieldset",
   "figcaption", "figure", "footer", "form", "frame", "frameset", "h1", "h2", "h3", "h4", "h5",
   "h6", "head", "header", "hr", "html", "iframe", "legend", "li", "link", "main", "menu",
   "menuitem", "nav", "noframes", "ol", "optgroup", "option", "p", "param", "search", "section",
   "summary", "table", "tbody", "td", "tfoot", "th", "thead", "title", "tr", "track", "ul"]

/-- The word that ends the block that opens at `i`, after the bracket. -/
def closingWord? (s : Source) (i : Nat) : Option (List Char) :=
  let verbatim := verbatimElements.find? fun e =>
    s.startsWithCaseless e.toList i &&
      (s.at? (i + e.length)).all fun c => isSpaceOrLineEnd c || c == '>'
  match verbatim with
  | some e => some ("</" ++ e ++ ">").toList
  | none =>
    if s.startsWith ['!', '-', '-'] i then some ['-', '-', '>']
    else if s.hasAt i '?' then some ['?', '>']
    else if s.startsWith "![CDATA[".toList i then some [']', ']', '>']
    else if s.hasAt i '!' && s.holdsAt (i + 1) Char.isAlpha then some ['>']
    else none

/-- A tag of a block element begins at `i`, after the bracket. -/
def isBlockElement (s : Source) (i : Nat) : Bool :=
  let i := s.skipOne '/' i
  let j := s.skip Char.isAlphanum i
  blockElements.contains (String.ofList ((s.slice i j).map Char.toLower)) &&
    match s.at? j with
    | none => true
    | some c =>
      c == ' ' || c == '\t' || isLineEnd c || c == '>' || (c == '/' && s.hasAt (j + 1) '>')

/-- A tag stands alone on the line at `i`. -/
def isLoneTag (s : Source) (i : Nat) : Bool :=
  match tag? s none i with
  | some (j, _) => s.isBlankLine j
  | none => false

end Marktree.Markdown.Html
