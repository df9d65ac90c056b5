import Marktree.Compile.Pass
import Marktree.Markup.Tree

/-!
# Building without tokens

The builder of trees once more, with lists of parts for contents where the markup of trees has
strings of tokens. No string is written or read back: a construct comes with the parts of its
content and is answered with its node.
-/
namespace Marktree

/-- A part of a content: a node, or text that stands between nodes. -/
inductive Part
  | node (node : Node)
  | leak (text : String)
  deriving Repr, Inhabited

instance : Content (List Part) where
  empty := []
  append := (· ++ ·)
  verbatim s := [.leak s]

namespace Part

/-- Neighbouring leaks become one. -/
def join : List Part → List Part
  | [] => []
  | .node n :: ps => .node n :: join ps
  | .leak s :: ps =>
    match join ps with
    | .leak t :: qs => .leak (s ++ t) :: qs
    | qs => .leak s :: qs

def toNode : Part → Node
  | node n => n
  | leak s => .text s

/-- The nodes of a content; a run of leaks is one text node. -/
def nodes (ps : List Part) : List Node :=
  (join ps).map toNode

def leak? : Part → Option String
  | node _ => none
  | leak s => some s

/-- What the leaks of a content say. -/
def raw (ps : List Part) : String :=
  String.join (ps.filterMap leak?)

end Part

namespace Direct

/-- A destination that links and images may have. -/
def allows (restrict : Bool) (target : String) : Bool :=
  !restrict || Destination.isSafe target.toList

/-- The branch for a wrapper. There is none for a link with a barred destination. -/
def branch? (restrict : Bool) (anchors : Text.Slugs) : Wrapper → Option Branch × Text.Slugs
  | .quote => (some .quote, anchors)
  | .heading level raw => (some (.heading level (anchors.anchor raw).1), (anchors.anchor raw).2)
  | .list ordered start => (some (.list ordered start), anchors)
  | .item => (some .item, anchors)
  | .paragraph => (some .paragraph, anchors)
  | .row => (some .row, anchors)
  | .cell true align => (some (.headerCell (align.getD .auto)), anchors)
  | .cell false align => (some (.bodyCell (align.getD .auto)), anchors)
  | .strong => (some .strong, anchors)
  | .emphasis => (some .emphasis, anchors)
  | .strikethrough => (some .strikethrough, anchors)
  | .link href title =>
    (if allows restrict href then some (.link href title true) else none, anchors)

/-- The leaf for a construct without content. An image comes with a new hook. There is no leaf for an image
with a barred destination. -/
def leaf? (restrict : Bool) (hooks : Hooks) : Construct (List Part) → Option Leaf × Hooks
  | .code body language => (some (.codeBlock language (TreeBuilder.dropFinalNewline body)), hooks)
  | .html raw => (some (.text (Part.raw raw)), hooks)
  | .rule => (some .rule, hooks)
  | .checkbox checked => (some (.checkbox checked), hooks)
  | .codeSpan s => (some (.inlineCode s), hooks)
  | .lineBreak => (some .lineBreak, hooks)
  | .image src title alt =>
    if allows restrict src then (some (.image ⟨src, title, alt, hooks.make.1⟩), hooks.make.2)
    else (none, hooks)
  | .text s => (some (.text s), hooks)
  | .wrap .. => (none, hooks)
  | .table .. => (none, hooks)

/-- Every construct is answered with its node, and what is barred with nothing. -/
def builder (restrict : Bool) : Builder (List Part) Supply
  | .wrap w content, g =>
    match branch? restrict g.anchors w with
    | (some k, anchors) => ([.node (.branch k (Part.nodes content))], { g with anchors })
    | (none, anchors) => ([], { g with anchors })
  | .table header body, g =>
    ([.node (.table (Part.nodes header) (Part.nodes body))], g)
  | c, g =>
    match leaf? restrict g.hooks c with
    | (some l, hooks) => ([.node (.leaf l)], { g with hooks })
    | (none, hooks) => ([], { g with hooks })

/-- The nodes that events build. -/
def nodes (o : Options) (events : List Event) : Except CompileError (List Node) :=
  (build (builder o.sanitize) o.breaks {} events).1.map Part.nodes

end Direct

/-! ## Leaves -/

/-- A construct without content, or raw html. -/
def Construct.isLeaf {α : Type} : Construct α → Bool
  | .wrap .. | .table .. => false
  | _ => true

theorem TreeBuilder.markup_of_isLeaf {restrict : Bool} {c : Construct String} (h : c.isLeaf)
    (b : TreeBuilder) : markup restrict c b =
      match leaf? restrict b.hooks c with
      | (some l, hooks) => { b with hooks }.emit (.leaf l)
      | (none, hooks) => ("", { b with hooks }) := by
  cases c with
  | wrap w x => cases h
  | table x y => cases h
  | _ => rfl

theorem Direct.builder_of_isLeaf {restrict : Bool} {c : Construct (List Part)} (h : c.isLeaf)
    (g : Supply) : builder restrict c g =
      match leaf? restrict g.hooks c with
      | (some l, hooks) => ([.node (.leaf l)], { g with hooks })
      | (none, hooks) => ([], { g with hooks }) := by
  cases c with
  | wrap w x => cases h
  | table x y => cases h
  | _ => rfl

end Marktree
