import Marktree.Node.Basic
import Marktree.Text.Quoted

/-!
# Outlines

The written form of a tree for reading: one line per node in the order of the walk, two blanks of
indentation per level, each with the kind of the node and its attributes.
-/
namespace Marktree

/-- An attribute with its name and its quoted value. -/
def quotedAttribute (name value : String) : String :=
  " " ++ name ++ "=" ++ Text.quote value

def titleAttribute : Option String → String
  | none => ""
  | some title => quotedAttribute "title" title

def Leaf.attributes : Leaf → String
  | .text t => " " ++ Text.quote t
  | .lineBreak => ""
  | .codeBlock language code =>
    (match language with
      | none => ""
      | some language => " lang=" ++ language) ++ " " ++ Text.quote code
  | .inlineCode code => " " ++ Text.quote code
  | .rule => ""
  | .checkbox checked => if checked then " checked" else ""
  | .image i => quotedAttribute "src" i.src ++ quotedAttribute "alt" i.alt ++ titleAttribute i.title

def Branch.attributes : Branch → String
  | .heading level id => " level=" ++ toString level ++ quotedAttribute "id" id
  | .list ordered start =>
    (if ordered then " ordered" else "") ++
      (match start with
        | none => ""
        | some n => " start=" ++ toString n)
  | .headerCell align | .bodyCell align => " align=" ++ align.name
  | .link href title newTab =>
    quotedAttribute "href" href ++ titleAttribute title ++ (if newTab then " new_tab" else "")
  | .document | .quote | .item | .paragraph | .row | .strong | .emphasis | .strikethrough => ""

namespace Node

def attributes : Node → String
  | leaf l => l.attributes
  | branch b _ => b.attributes
  | table .. => ""

/-- The line of a node at a depth. -/
def line (depth : Nat) (n : Node) : String :=
  String.ofList (List.replicate (2 * depth) ' ') ++ n.kind ++ n.attributes ++ "\n"

mutual

/-- The lines of a tree whose root stands at a depth. -/
def outlineAt (depth : Nat) : Node → List String
  | leaf l => [line depth (leaf l)]
  | branch b cs => line depth (branch b cs) :: outlineAll (depth + 1) cs
  | table head body =>
    line depth (table head body) :: (outlineAll (depth + 1) head ++ outlineAll (depth + 1) body)

def outlineAll (depth : Nat) : List Node → List String
  | [] => []
  | n :: ns => outlineAt depth n ++ outlineAll depth ns

end

def outline (n : Node) : String :=
  String.join (outlineAt 0 n)

end Node

end Marktree
