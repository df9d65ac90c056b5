/-!
# Nodes

A rendered text is a tree of nodes: leaves, branches of many kinds around children, and tables with
a head and a body. `Node.children` and `Node.walk` are the two ways through a tree. Images come with hooks
that fire once, when the image was loaded. Copies of an image share its hook, and `Node.equal` compares
what nodes show and passes over their hooks.
-/
namespace Marktree

/-! ## Hooks of images -/

/-- What an image notifies: whether a callback is called for it, and the number of its flag. -/
structure LoadHook where
  callback : Bool := false
  flag : Nat := 0
  deriving Repr, DecidableEq, Inhabited

/-- The hooks that were made for images. -/
structure Hooks where
  /-- Whether there is a callback. -/
  callback : Bool := false
  /-- Which of the flags are set. -/
  fired : Array Bool := #[]
  /-- How often the callback was called. -/
  calls : Nat := 0
  deriving Repr, DecidableEq, Inhabited

namespace Hooks

/-- A new hook with a flag of its own. -/
def make (h : Hooks) : LoadHook × Hooks :=
  (⟨h.callback, h.fired.size⟩, { h with fired := h.fired.push false })

def hasFired (h : Hooks) (k : LoadHook) : Bool :=
  h.fired.getD k.flag false

/-- Fires a hook. Whether this was the first time comes with what has become of the hooks. -/
def fire (h : Hooks) (k : LoadHook) : Bool × Hooks :=
  if h.hasFired k then (false, h)
  else (true, { h with
    fired := h.fired.setIfInBounds k.flag true
    calls := if k.callback then h.calls + 1 else h.calls })

/-- A hook in words. -/
def describe (h : Hooks) (k : LoadHook) : String :=
  "LoadHook \x7b callback: " ++ toString k.callback ++ ", fired: " ++ toString (h.hasFired k) ++ " \x7d"

end Hooks

/-! ## Nodes -/

/-- Horizontal alignment; `auto` where the source gives none. -/
inductive Align
  | auto | left | center | right
  deriving Repr, DecidableEq, Inhabited

def Align.name : Align → String
  | .auto => "auto"
  | .left => "left"
  | .center => "center"
  | .right => "right"

structure Image where
  src : String
  title : Option String
  alt : String
  onLoad : LoadHook := {}
  deriving Repr, DecidableEq, Inhabited

/-- Nodes without children. -/
inductive Leaf
  | text (text : String)
  | lineBreak
  | codeBlock (language : Option String) (code : String)
  | inlineCode (code : String)
  | rule
  | checkbox (checked : Bool)
  | image (image : Image)
  deriving Repr, DecidableEq, Inhabited

/-- What stands around the children of a node. -/
inductive Branch
  | document
  | quote
  | heading (level : Nat) (id : String)
  | list (ordered : Bool) (start : Option Nat)
  | item
  | paragraph
  | row
  | headerCell (align : Align)
  | bodyCell (align : Align)
  | strong
  | emphasis
  | strikethrough
  | link (href : String) (title : Option String) (newTab : Bool)
  deriving Repr, DecidableEq, Inhabited

inductive Node
  | leaf (leaf : Leaf)
  | branch (branch : Branch) (children : List Node)
  | table (head body : List Node)
  deriving Repr, Inhabited

def Leaf.kind : Leaf → String
  | .text _ => "text"
  | .lineBreak => "line_break"
  | .codeBlock .. => "code_block"
  | .inlineCode _ => "inline_code"
  | .rule => "rule"
  | .checkbox _ => "checkbox"
  | .image _ => "image"

def Branch.kind : Branch → String
  | .document => "document"
  | .quote => "block_quote"
  | .heading .. => "heading"
  | .list .. => "list"
  | .item => "list_item"
  | .paragraph => "paragraph"
  | .row => "table_row"
  | .headerCell _ => "header_cell"
  | .bodyCell _ => "body_cell"
  | .strong => "strong"
  | .emphasis => "emphasis"
  | .strikethrough => "strikethrough"
  | .link .. => "link"

/-- What a leaf adds to the text of a tree. -/
def Leaf.plainText : Leaf → String
  | .text t => t
  | .lineBreak => "\n"
  | .codeBlock _ code => code
  | .inlineCode code => code
  | .rule => ""
  | .checkbox _ => ""
  | .image i => i.alt

namespace Node

/-- A text node. -/
abbrev text (s : String) : Node := .leaf (.text s)

def kind : Node → String
  | leaf l => l.kind
  | branch b _ => b.kind
  | table .. => "table"

/-- The direct children, of a table those of the head before those of the body. -/
def children : Node → List Node
  | leaf _ => []
  | branch _ cs => cs
  | table head body => head ++ body

mutual

/-- The node and all below it, each before its children. -/
def walk : Node → List Node
  | leaf l => [leaf l]
  | branch b cs => branch b cs :: walkAll cs
  | table head body => table head body :: (walkAll head ++ walkAll body)

def walkAll : List Node → List Node
  | [] => []
  | n :: ns => walk n ++ walkAll ns

end

/-- What a node itself adds to the text of a tree. -/
def ownText : Node → String
  | leaf l => l.plainText
  | branch .. => ""
  | table .. => ""

/-- The text of a tree, in the order of the walk. -/
def plainText (n : Node) : String :=
  String.join (n.walk.map ownText)

def image? : Node → Option Image
  | leaf (.image i) => some i
  | _ => none

/-- The images of a tree in the order of the walk. -/
def images (n : Node) : List Image :=
  n.walk.filterMap image?

end Node

/-! ## Equality -/

/-- Hooks carry behaviour and no content: whatever has become of them, any two are equal. -/
def LoadHook.equal (_ : Hooks) (_ _ : LoadHook) : Bool :=
  true

def Image.equal (h : Hooks) (i j : Image) : Bool :=
  i.src == j.src && i.title == j.title && i.alt == j.alt && i.onLoad.equal h j.onLoad

def Leaf.equal (h : Hooks) : Leaf → Leaf → Bool
  | .image i, .image j => i.equal h j
  | k, l => k == l

namespace Node

mutual

/-- Nodes are equal if all that they hold is. -/
def equal (h : Hooks) : Node → Node → Bool
  | leaf k, leaf l => k.equal h l
  | branch b cs, branch c ds => b == c && equalAll h cs ds
  | table head body, table head' body' => equalAll h head head' && equalAll h body body'
  | _, _ => false

def equalAll (h : Hooks) : List Node → List Node → Bool
  | [], [] => true
  | n :: ns, m :: ms => equal h n m && equalAll h ns ms
  | _, _ => false

end

end Node

end Marktree
