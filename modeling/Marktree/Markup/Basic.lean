import Marktree.Event
import Marktree.Text.Reference

/-!
# Markup

A builder answers every construct of a document; a construct that has content comes with what its
parts were answered with. A builder may keep a state from one answer to the next. A markup is a
builder of strings. What contents are made of is a parameter, so that a document can also be built
without strings.
-/
namespace Marktree

/-- What contents are made of: strings as they stand and answers, one after another. -/
class Content (α : Type) where
  empty : α
  append : α → α → α
  /-- A string as it stands. -/
  verbatim : String → α

instance : Content String where
  empty := ""
  append := (· ++ ·)
  verbatim := id

/-- The constructs around one content. -/
inductive Wrapper
  | quote
  /-- `raw` is the plain text of the heading. -/
  | heading (level : Nat) (raw : String)
  | list (ordered : Bool) (start : Option Nat)
  | item
  | paragraph
  | row
  /-- An alignment is given only where the source gives one. -/
  | cell (header : Bool) (align : Option Align)
  | strong
  | emphasis
  | strikethrough
  | link (href : String) (title : Option String)
  deriving Repr, DecidableEq, Inhabited

/-- The constructs of a document with content of type `α`. -/
inductive Construct (α : Type)
  | code (body : String) (language : Option String)
  /-- Raw html: what stands in a block, or a single tag. -/
  | html (raw : α)
  | rule
  | checkbox (checked : Bool)
  | codeSpan (text : String)
  | lineBreak
  | image (src : String) (title : Option String) (alt : String)
  | text (text : String)
  | wrap (wrapper : Wrapper) (content : α)
  | table (header body : α)
  deriving Repr, DecidableEq, Inhabited

/-- The answers to the constructs, with a state `σ`. -/
abbrev Builder (α σ : Type) := Construct α → σ → α × σ

/-- A builder of strings. Text, code spans, titles, destinations and alternative texts come to it
escaped; code blocks and raw html come as they are. -/
abbrev Markup (σ : Type) := Builder String σ

def Wrapper.escaped : Wrapper → Wrapper
  | .link href title => .link (Text.escape href) (title.map Text.escape)
  | w => w

/-- A construct in the form that a markup gets. Where raw html is not let through, it is text. -/
def Construct.escaped (sanitize : Bool) : Construct String → Construct String
  | .html raw => if sanitize then .text (Text.escape raw) else .html raw
  | .codeSpan s => .codeSpan (Text.escape s)
  | .image src title alt =>
    .image (Text.escape src) (title.map Text.escape) (Text.escape alt)
  | .text s => .text (Text.escape s)
  | .wrap w content => .wrap w.escaped content
  | c => c

/-- The builder that hands constructs to a markup. -/
def Markup.builder {σ : Type} (m : Markup σ) (sanitize : Bool) : Builder String σ :=
  fun c s => m (c.escaped sanitize) s

end Marktree
