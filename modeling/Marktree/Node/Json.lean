import Marktree.Json
import Marktree.Node.Basic

/-!
# Nodes as JSON

A node is an object with its kind and, if it has any content, a value.
-/
namespace Marktree

/-- An object of a kind with a value. -/
def Json.tagged (kind : String) (value : Json) : Json :=
  .obj [("kind", .str kind), ("value", value)]

def Image.toJson (i : Image) : Json :=
  .obj [("src", .str i.src), ("title", .optional .str i.title), ("alt", .str i.alt)]

def Leaf.toJson (l : Leaf) : Json :=
  match l with
  | .text t => .tagged l.kind (.str t)
  | .lineBreak => .obj [("kind", .str l.kind)]
  | .codeBlock language code =>
    .tagged l.kind (.obj [("language", .optional .str language), ("code", .str code)])
  | .inlineCode code => .tagged l.kind (.str code)
  | .rule => .obj [("kind", .str l.kind)]
  | .checkbox checked => .tagged l.kind (.obj [("checked", .bool checked)])
  | .image i => .tagged l.kind i.toJson

/-- The value of a branch around the values of its children. -/
def Branch.value (b : Branch) (children : Json) : Json :=
  match b with
  | .heading level id => .obj [("level", .num level), ("id", .str id), ("children", children)]
  | .list ordered start =>
    .obj [("ordered", .bool ordered), ("start", .optional .num start), ("items", children)]
  | .headerCell align | .bodyCell align =>
    .obj [("align", .str align.name), ("children", children)]
  | .link href title newTab =>
    .obj [("href", .str href), ("title", .optional .str title), ("new_tab", .bool newTab),
      ("children", children)]
  | .document | .quote | .item | .paragraph | .row | .strong | .emphasis | .strikethrough =>
    children

namespace Node

mutual

def toJson : Node → Json
  | leaf l => l.toJson
  | branch b cs => .tagged b.kind (b.value (.arr (toJsonAll cs)))
  | table head body =>
    .tagged "table" (.obj [("head", .arr (toJsonAll head)), ("body", .arr (toJsonAll body))])

def toJsonAll : List Node → List Json
  | [] => []
  | n :: ns => toJson n :: toJsonAll ns

end

end Node

end Marktree
