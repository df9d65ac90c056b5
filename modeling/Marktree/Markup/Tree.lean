import Marktree.Destination
import Marktree.Markup.Basic
import Marktree.Node.Placeholder
import Marktree.Text.Slug

/-!
# Trees through markup

The markup that builds nodes. Its answer to a construct is the token of a node; the content of a
construct is read back into the children of the node. `finish` reads the whole document.
-/
namespace Marktree

/-- What is given out to nodes: anchors to headings and hooks to images. -/
structure Supply where
  anchors : Text.Slugs := {}
  hooks : Hooks := {}
  deriving Inhabited

/-- The nodes registered so far and what was given out to them. -/
structure TreeBuilder extends Supply where
  registry : Node.Registry := {}
  deriving Inhabited

namespace TreeBuilder

/-- Registers a node and answers with its token. -/
def emit (b : TreeBuilder) (n : Node) : String × TreeBuilder :=
  let (i, r) := b.registry.register n
  (Node.Placeholder.encode i, { b with registry := r })

/-- The nodes that a content stands for. -/
def read (b : TreeBuilder) (content : String) : List Node × TreeBuilder :=
  let (ns, r) := Node.Placeholder.decode b.registry content
  (ns, { b with registry := r })

/-- The nodes that the answer to a whole document stands for. -/
def finish (b : TreeBuilder) (stream : String) : List Node × TreeBuilder :=
  b.read stream

/-- Without one line feed at the end. -/
def dropFinalNewline (s : String) : String :=
  match s.toList.reverse with
  | '\n' :: cs => String.ofList cs.reverse
  | _ => s

/-- The branch for a wrapper. There is none for a link with a barred destination. -/
def branch? (restrict : Bool) (anchors : Text.Slugs) (w : Wrapper) :
    Option Branch × Text.Slugs :=
  match w with
  | .quote => (some .quote, anchors)
  | .heading level raw =>
    let (id, anchors) := anchors.anchor raw
    (some (.heading level id), anchors)
  | .list ordered start => (some (.list ordered start), anchors)
  | .item => (some .item, anchors)
  | .paragraph => (some .paragraph, anchors)
  | .row => (some .row, anchors)
  | .cell true align => (some (.headerCell (align.getD .auto)), anchors)
  | .cell false align => (some (.bodyCell (align.getD .auto)), anchors)
  | .strong => (some .strong, anchors)
  | .emphasis => (some .emphasis, anchors)
  | .strikethrough => (some .strikethrough, anchors)
  | .link href title =>
    ((Destination.resolve? restrict href).map fun href =>
      .link href (title.map Text.unescape) true, anchors)

/-- The leaf for a construct without content. An image comes with a new hook. There is no leaf for an image
with a barred destination. -/
def leaf? (restrict : Bool) (hooks : Hooks) : Construct String → Option Leaf × Hooks
  | .code body language => (some (.codeBlock language (dropFinalNewline body)), hooks)
  | .html raw => (some (.text raw), hooks)
  | .rule => (some .rule, hooks)
  | .checkbox checked => (some (.checkbox checked), hooks)
  | .codeSpan text => (some (.inlineCode (Text.unescape text)), hooks)
  | .lineBreak => (some .lineBreak, hooks)
  | .image src title alt =>
    match Destination.resolve? restrict src with
    | some src =>
      let (onLoad, hooks) := hooks.make
      (some (.image ⟨src, title.map Text.unescape, Text.unescape alt, onLoad⟩), hooks)
    | none => (none, hooks)
  | .text text => (some (.text (Text.unescape text)), hooks)
  | .wrap .. => (none, hooks)
  | .table .. => (none, hooks)

/-- The markup that builds nodes. What is barred is answered with nothing, and what stands in it is
left where it is. -/
def markup (restrict : Bool) : Markup TreeBuilder
  | .wrap w content, b =>
    match branch? restrict b.anchors w with
    | (some k, anchors) =>
      let (ns, b) := { b with anchors }.read content
      b.emit (.branch k ns)
    | (none, anchors) => ("", { b with anchors })
  | .table header body, b =>
    let (head, b) := b.read header
    let (body, b) := b.read body
    b.emit (.table head body)
  | c, b =>
    match leaf? restrict b.hooks c with
    | (some l, hooks) => { b with hooks }.emit (.leaf l)
    | (none, hooks) => ("", { b with hooks })

end TreeBuilder

end Marktree
