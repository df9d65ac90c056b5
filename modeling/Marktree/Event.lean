import Marktree.Node.Basic

/-!
# Events

Parsed markdown as a sequence of events: constructs open and close, and between them stand text,
breaks and other leaves.
-/
namespace Marktree

/-- The six levels of headings, counted from zero. -/
abbrev Level := Fin 6

/-- The number of a level, one for the highest. -/
def Level.number (l : Level) : Nat :=
  l.val + 1

inductive QuoteKind
  | note | tip | important | warning | caution
  deriving Repr, DecidableEq, Inhabited

inductive MetadataStyle
  | yaml | plus
  deriving Repr, DecidableEq, Inhabited

/-- The constructs that open and close. -/
inductive Tag
  | paragraph
  | heading (level : Level)
  | quote (kind : Option QuoteKind)
  /-- A fenced block has an info string, an indented one has none. -/
  | code (info : Option String)
  | html
  /-- An ordered list has a first number. -/
  | list (first : Option Nat)
  | item
  /-- The columns with the alignments that the source gives. -/
  | table (columns : List (Option Align))
  | head
  | row
  | cell
  | emphasis
  | strong
  | strikethrough
  | superscript
  | subscript
  | link (href title : String)
  | image (src title : String)
  | footnote
  | metadata (style : MetadataStyle)
  | definitions
  | term
  | definition
  deriving Repr, DecidableEq, Inhabited

/-- What the end of a construct tells of it. -/
inductive EndTag
  | paragraph
  | heading (level : Level)
  | quote (kind : Option QuoteKind)
  | code
  | html
  | list (ordered : Bool)
  | item
  | table
  | head
  | row
  | cell
  | emphasis
  | strong
  | strikethrough
  | superscript
  | subscript
  | link
  | image
  | footnote
  | metadata (style : MetadataStyle)
  | definitions
  | term
  | definition
  deriving Repr, DecidableEq, Inhabited

/-- The end that closes a construct. -/
def Tag.closing : Tag → EndTag
  | paragraph => .paragraph
  | heading l => .heading l
  | quote k => .quote k
  | code _ => .code
  | html => .html
  | list first => .list first.isSome
  | item => .item
  | table _ => .table
  | head => .head
  | row => .row
  | cell => .cell
  | emphasis => .emphasis
  | strong => .strong
  | strikethrough => .strikethrough
  | superscript => .superscript
  | subscript => .subscript
  | link .. => .link
  | image .. => .image
  | footnote => .footnote
  | metadata s => .metadata s
  | definitions => .definitions
  | term => .term
  | definition => .definition

inductive Event
  | start (tag : Tag)
  | stop (tag : EndTag)
  | text (text : String)
  | code (text : String)
  | inlineMath (text : String)
  | displayMath (text : String)
  /-- A line of an html block. -/
  | html (text : String)
  | inlineHtml (text : String)
  | softBreak
  | hardBreak
  | rule
  | task (checked : Bool)
  | footnoteReference (label : String)
  deriving Repr, DecidableEq, Inhabited

namespace Event

/-- Neighbouring texts are joined. -/
def mergeTexts : List Event → List Event
  | [] => []
  | text a :: es =>
    match mergeTexts es with
    | text b :: rest => text (a ++ b) :: rest
    | rest => text a :: rest
  | e :: es => e :: mergeTexts es

end Event

/-! ## Names of ends in messages -/

def QuoteKind.name : QuoteKind → String
  | note => "Note"
  | tip => "Tip"
  | important => "Important"
  | warning => "Warning"
  | caution => "Caution"

def MetadataStyle.name : MetadataStyle → String
  | yaml => "YamlStyle"
  | plus => "PlusesStyle"

def EndTag.name : EndTag → String
  | paragraph => "Paragraph"
  | heading l => "Heading(H" ++ toString l.number ++ ")"
  | quote none => "BlockQuote(None)"
  | quote (some k) => "BlockQuote(Some(" ++ k.name ++ "))"
  | code => "CodeBlock"
  | html => "HtmlBlock"
  | list ordered => if ordered then "List(true)" else "List(false)"
  | item => "Item"
  | table => "Table"
  | head => "TableHead"
  | row => "TableRow"
  | cell => "TableCell"
  | emphasis => "Emphasis"
  | strong => "Strong"
  | strikethrough => "Strikethrough"
  | superscript => "Superscript"
  | subscript => "Subscript"
  | link => "Link"
  | image => "Image"
  | footnote => "FootnoteDefinition"
  | metadata s => "MetadataBlock(" ++ s.name ++ ")"
  | definitions => "DefinitionList"
  | term => "DefinitionListTitle"
  | definition => "DefinitionListDefinition"

end Marktree
