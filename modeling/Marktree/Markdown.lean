import Marktree.Config.Options
import Marktree.Markdown.Block
import Marktree.Markdown.Inline

/-!
# Markdown

A text is cut into blocks, and the blocks become events in the order of the text. The definitions of
the whole text are known before the first link is looked up.
-/
namespace Marktree.Markdown

/-- The extensions that rendering options switch on. -/
def Extensions.ofOptions (o : Options) : Extensions where
  tables := o.extensions
  strikethrough := o.extensions
  tasks := o.extensions
  quoteKinds := o.extensions
  smart := o.smartypants

/-- Definitions may add as many bytes as the text has, and at least so many. -/
def leastBudget : Nat := 100000

/-- A document whose blocks are known. -/
structure Document where
  source : Source
  definitions : Definitions
  deriving Inhabited

namespace Document

/-- The events of inline markup. -/
def inline (d : Document) (path : List Container) (inTable : Bool) (c : Content) :
    StateM Nat (List Event) := do
  let scope : Scope := ⟨d.source.upTo c.stop, path, inTable, d.definitions⟩
  let (events, budget) := Inline.events scope c.tokens (← get)
  set budget
  return (c.task.map .task).toList ++ events

/-- Events in a construct. -/
def inside (t : Tag) (es : List Event) : List Event :=
  .start t :: es ++ [.stop t.closing]

def cells (d : Document) (path : List Container) : List Content → StateM Nat (List Event)
  | [] => return []
  | c :: cs => do
    let first ← d.inline path true c
    return inside .cell first ++ (← d.cells path cs)

def rows (d : Document) (path : List Container) : List (List Content) → StateM Nat (List Event)
  | [] => return []
  | r :: rs => do
    let first ← d.cells path r
    return inside .row first ++ (← d.rows path rs)

mutual

/-- The events of a block. Paragraphs in the items of a tight list are only their text. -/
def block (d : Document) (path : List Container) (tight : Bool) : Block → StateM Nat (List Event)
  | .paragraph c => do
    let es ← d.inline path false c
    return if tight then es else inside .paragraph es
  | .heading level c => do
    return inside (.heading level) (← d.inline path false c)
  | .rule => return [.rule]
  | .task checked => return [.task checked]
  | .code info pieces => return inside (.code info) (pieces.map .text)
  | .html lines => return inside .html lines
  | .table columns head rows => do
    let head ← d.cells path head
    return inside (.table columns) (inside .head head ++ (← d.rows path rows))
  | .quote kind bs => do
    return inside (.quote kind) (← d.blocks (path ++ [.quote]) false bs)
  | .list tight first items => do
    return inside (.list first) (← d.blocks (path ++ [.list]) tight items)
  | .item indent bs => do
    return inside .item (← d.blocks (path ++ [.item indent]) tight bs)

def blocks (d : Document) (path : List Container) (tight : Bool) :
    List Block → StateM Nat (List Event)
  | [] => return []
  | b :: bs => do
    let first ← d.block path tight b
    return first ++ (← d.blocks path tight bs)

end

end Document

/-- The events of a text. -/
def events (x : Extensions) (text : String) : List Event :=
  let source := Source.ofList text.toList
  let (blocks, definitions) := Markdown.blocks x source
  let d : Document := ⟨source, definitions⟩
  Event.mergeTexts ((d.blocks [] false blocks).run (max text.utf8ByteSize leastBudget)).1

/-- The events of a text under rendering options. -/
def parse (o : Options) (text : String) : List Event :=
  events (.ofOptions o) text

end Marktree.Markdown
