import Marktree.Render
import Marktree.Proofs.Markup.Nodes
import Marktree.Proofs.Node.Outline

/-!
# Outlines of documents

No document has a code block whose language has blanks in it, so its outline tells its tree
(`outline_tells_tree`), whatever its strings are.
-/
namespace Marktree

namespace Node

theorem allWorded_leaf {l : Leaf} (h : l.Worded) : AllWorded (.leaf l) :=
  forall_mem_walk_iff.2 ⟨h, fun _ hc => absurd hc List.not_mem_nil⟩

theorem allWorded_branch {b : Branch} {cs : List Node} (h : ∀ n ∈ cs, AllWorded n) :
    AllWorded (.branch b cs) :=
  forall_mem_walk_iff.2 ⟨trivial, h⟩

theorem allWorded_table {head body : List Node} (hh : ∀ n ∈ head, AllWorded n)
    (hb : ∀ n ∈ body, AllWorded n) : AllWorded (.table head body) :=
  forall_mem_walk_iff.2 ⟨trivial, fun n hn => (List.mem_append.1 hn).elim (hh n) (hb n)⟩

end Node

namespace TreeBuilder

theorem worded_of_leaf? {restrict : Bool} {hooks : Hooks} {c : Construct String} {l : Leaf} (hc : c.Worded)
    (h : (leaf? restrict hooks c).1 = some l) : l.Worded := by
  cases c with
  | code body language =>
    cases h
    cases language with
    | none => trivial
    | some language => exact hc
  | image src title alt =>
    rw [leaf?] at h
    split at h
    · cases h
      trivial
    · cases h
  | _ => cases h <;> trivial

theorem hereditary_allWorded (restrict : Bool) : Hereditary restrict Node.AllWorded where
  text _ := Node.allWorded_leaf trivial
  leaf hc hl := Node.allWorded_leaf (worded_of_leaf? hc hl)
  branch _ := Node.allWorded_branch
  table := Node.allWorded_table

end TreeBuilder

namespace Render

theorem allWorded_plain (s : String) : (plain s).AllWorded := by
  refine Node.allWorded_branch fun n hn => ?_
  obtain ⟨l, -, hn⟩ := List.mem_flatMap.1 hn
  simp only [List.mem_cons, List.not_mem_nil, or_false] at hn
  rcases hn with rfl | rfl <;> exact Node.allWorded_leaf trivial

theorem allWorded_treeFrom {hooks : Hooks} {o : Options} {events : List Event} {n : Node}
    (h : (treeFrom hooks o events).1 = .ok n) : n.AllWorded := by
  obtain ⟨stream, b, hcompile, rfl⟩ := exists_of_treeFrom h
  exact Node.allWorded_branch ((TreeBuilder.hereditary_allWorded o.sanitize).forall_of_compile hcompile)

theorem allWorded_errorDocument (e : CompileError) : (errorDocument e).AllWorded := by
  refine Node.allWorded_branch fun n hn => ?_
  simp only [List.mem_cons, List.not_mem_nil, or_false] at hn
  rcases hn with rfl | rfl
  · refine Node.allWorded_branch fun n hn => ?_
    rw [List.mem_singleton.1 hn]
    exact Node.allWorded_leaf trivial
  · exact Node.allWorded_leaf trivial

/-- Documents have languages without blanks alone. -/
theorem allWorded_documentFrom {hooks : Hooks} {f : Format} {o : Options} {s : String} {n : Node}
    (h : (documentFrom hooks f o s).1 = .ok (some n)) : n.AllWorded := by
  rcases documentFrom_cases h with rfl | ⟨e, rfl⟩ | htree
  · exact allWorded_plain s
  · exact allWorded_errorDocument e
  · exact allWorded_treeFrom (congrArg Prod.fst htree)

end Render

/-- **An outline tells its tree.** Whatever the events are, the tree made of them has no language with
blanks in it, and no document has. For trees without one the outline is one line per node in the order
of the walk, with two blanks for each level, and what trimming takes away is the line feed at its end.
Trees have the same trimmed outline exactly if they differ only in which rows of a table are its head. -/
theorem outline_tells_tree :
    (∀ o events n, Render.tree o events = .ok n → n.AllWorded) ∧
      (∀ f o s n, Render.document f o s = .ok (some n) → n.AllWorded) ∧
      ∀ m n : Node, m.AllWorded → n.AllWorded →
        (Text.lines (Text.trimEnd m.outline).toList = (m.placed 0).map Node.written ∧
            (m.placed 0).map Prod.snd = m.walk ∧ m.outline = Text.trimEnd m.outline ++ "\n") ∧
          (Text.trimEnd m.outline = Text.trimEnd n.outline ↔ m.undivided = n.undivided) :=
  ⟨fun _ _ _ => Render.allWorded_treeFrom, fun _ _ _ _ => Render.allWorded_documentFrom, fun m _ hm hn =>
    ⟨⟨Node.lines_trimEnd_outline hm, Node.map_snd_placed 0 m, Node.outline_eq_trimEnd hm⟩,
      Node.trimEnd_outline_eq_iff hm hn⟩⟩

/-- A table whose only row is its head or in its body, and strings that look like lines and attributes. -/
theorem outline_tells_tree_divided :
    let row : Node := .branch .row [.branch (.headerCell .left) [.text "a\n  rule \"\\\u0301"]]
    let code : Node := .leaf (.codeBlock (some "c\"lang=") "\t\n")
    let m : Node := .branch .document [.table [row] [], code]
    let n : Node := .branch .document [.table [] [row], code]
    m.AllWorded ∧ n.AllWorded ∧ Text.trimEnd m.outline = Text.trimEnd n.outline ∧
      Text.lines (Text.trimEnd m.outline).toList =
        ["document", "  table", "    table_row", "      header_cell align=left",
          "        text \"a\\n  rule \\\"\\\\\\u\x7b301\x7d\"",
          "  code_block lang=c\"lang= \"\\t\\n\""].map String.toList ∧
      (Render.plain "x").AllWorded := by
  intro row code m n
  have hm : m.AllWorded := by decide
  have hn : n.AllWorded := by decide
  obtain ⟨-, hdocument, htells⟩ := outline_tells_tree
  obtain ⟨⟨hlines, -, -⟩, htrim⟩ := htells m n hm hn
  refine ⟨hm, hn, htrim.2 rfl, hlines.trans ?_, hdocument .plain .default "x" _ rfl⟩
  decide +kernel

end Marktree
