import Marktree.Node.Outline
import Marktree.Proofs.Node.Preorder
import Marktree.Proofs.Text.Letters
import Marktree.Proofs.Text.Lines
import Marktree.Proofs.Text.Quoted

/-!
# Outlines tell the tree

An outline has one line for each node, and the line tells the depth of the node and all that it holds
besides its children and hooks. Strings are quoted, so only the language of a code block could break a
line: where languages are without blanks, two trees have the same outline exactly if they are equal but
for how the rows of tables are divided.
-/
namespace Marktree

/-! ## What stands on a line -/

theorem unbroken_number (n : Nat) : Text.Unbroken (toString n) := fun _ hc =>
  Text.isBlank_of_isAlphanum (Text.isAlphanum_of_mem_repr hc)

/-- What may stand on a line after the kind of a node: nothing, or a text that a blank sets apart. -/
structure LineTail (s : List Char) : Prop where
  start : ∀ c ∈ s.head?, c = ' '
  newline : '\n' ∉ s
  last : ∀ c ∈ s.getLast?, Text.isBlank c = false

namespace LineTail

variable {s t : List Char}

instance : Decidable (LineTail s) :=
  decidable_of_iff
    (s.head?.all (· = ' ') ∧ '\n' ∉ s ∧ s.getLast?.all fun c => !Text.isBlank c)
    ⟨fun ⟨hstart, hnewline, hlast⟩ =>
      ⟨by simpa [Option.all_eq_true] using hstart, hnewline, by simpa [Option.all_eq_true] using hlast⟩,
      fun ⟨hstart, hnewline, hlast⟩ =>
      ⟨by simpa [Option.all_eq_true] using hstart, hnewline, by simpa [Option.all_eq_true] using hlast⟩⟩

theorem nil : LineTail [] :=
  ⟨by simp, by simp, by simp⟩

theorem append (hs : LineTail s) (ht : LineTail t) : LineTail (s ++ t) := by
  refine ⟨fun c hc => ?_, by simp [hs.newline, ht.newline], fun c hc => ?_⟩
  · rw [List.head?_append, Option.mem_def, Option.or_eq_some_iff] at hc
    rcases hc with hc | ⟨-, hc⟩
    · exact hs.start c hc
    · exact ht.start c hc
  · rw [List.getLast?_append, Option.mem_def, Option.or_eq_some_iff] at hc
    rcases hc with hc | ⟨-, hc⟩
    · exact ht.last c hc
    · exact hs.last c hc

theorem append_unbroken (hs : LineTail s) (hne : s ≠ []) (ht : ∀ c ∈ t, Text.isBlank c = false) :
    LineTail (s ++ t) := by
  refine ⟨fun c hc => hs.start c ?_, ?_, fun c hc => ?_⟩
  · rwa [List.head?_append_of_ne_nil s hne] at hc
  · rw [List.mem_append]
    rintro (h | h)
    · exact hs.newline h
    · exact absurd (ht _ h) (by decide)
  · rw [List.getLast?_append, Option.mem_def, Option.or_eq_some_iff] at hc
    rcases hc with hc | ⟨-, hc⟩
    · exact ht c (List.mem_of_getLast? hc)
    · exact hs.last c hc

/-- A quoted text ends in a quote. -/
theorem append_quote {key : List Char} (hstart : key.head? = some ' ') (hnewline : '\n' ∉ key)
    (s : String) : LineTail (key ++ (Text.quote s).toList) := by
  rw [Text.toList_quote]
  refine ⟨fun c hc => ?_, by simp [hnewline, Text.Quoted.newline_notMem_quoteChars], fun c hc => ?_⟩
  · rw [List.head?_append, hstart] at hc
    exact (Option.some.inj hc).symm
  · rw [Text.Quoted.quoteChars, ← List.append_assoc, List.getLast?_append] at hc
    cases hc
    decide

theorem quote (s : String) : LineTail (" " ++ Text.quote s).toList := by
  rw [String.toList_append]
  exact append_quote rfl (by decide) s

theorem quotedAttribute {name : String} (hname : '\n' ∉ name.toList) (value : String) :
    LineTail (Marktree.quotedAttribute name value).toList := by
  rw [Marktree.quotedAttribute, String.toList_append]
  exact append_quote (by simp) (by simpa using hname) value

theorem titleAttribute (title : Option String) : LineTail (Marktree.titleAttribute title).toList := by
  cases title with
  | none => exact nil
  | some title => exact quotedAttribute (by decide) title

theorem number {key : String} (h : LineTail key.toList) (hne : key.toList ≠ []) (n : Nat) :
    LineTail (key ++ toString n).toList := by
  rw [String.toList_append]
  exact h.append_unbroken hne (unbroken_number n)

end LineTail

/-- A code block has no language with blanks. -/
def Leaf.Worded : Leaf → Prop
  | .codeBlock (some language) _ => Text.Unbroken language
  | _ => True

instance : DecidablePred Leaf.Worded
  | .codeBlock (some language) _ => inferInstanceAs (Decidable (Text.Unbroken language))
  | .codeBlock none _ | .text _ | .lineBreak | .inlineCode _ | .rule | .checkbox _ | .image _ =>
    .isTrue trivial

theorem Leaf.lineTail {l : Leaf} (h : l.Worded) : LineTail l.attributes.toList := by
  cases l with
  | text t => exact .quote t
  | lineBreak => exact .nil
  | codeBlock language code =>
    cases language with
    | none =>
      rw [Leaf.attributes, String.empty_append]
      exact .quote code
    | some language =>
      rw [Leaf.attributes, String.append_assoc, String.toList_append, String.toList_append]
      exact .append (.append_unbroken (by decide) (by decide) h) (.quote code)
  | inlineCode code => exact .quote code
  | rule => exact .nil
  | checkbox checked =>
    cases checked with
    | true => decide
    | false => exact .nil
  | image i =>
    rw [Leaf.attributes, String.toList_append, String.toList_append]
    exact .append (.append (.quotedAttribute (by decide) i.src) (.quotedAttribute (by decide) i.alt))
      (.titleAttribute i.title)

theorem Branch.lineTail (b : Branch) : LineTail b.attributes.toList := by
  cases b with
  | heading level id =>
    rw [Branch.attributes, String.toList_append]
    exact .append (.number (by decide) (by decide) level)
      (.quotedAttribute (by decide) id)
  | list ordered start =>
    have hordered : LineTail (if ordered then " ordered" else "").toList := by
      cases ordered with
      | true => decide
      | false => exact .nil
    cases start with
    | none =>
      rw [Branch.attributes, String.append_empty]
      exact hordered
    | some n =>
      rw [Branch.attributes, String.toList_append]
      exact hordered.append (.number (by decide) (by decide) n)
  | headerCell align | bodyCell align => cases align <;> decide
  | link href title newTab =>
    rw [Branch.attributes, String.toList_append, String.toList_append]
    refine .append (.append (.quotedAttribute (by decide) href) (.titleAttribute title)) ?_
    cases newTab with
    | true => decide
    | false => exact .nil
  | _ => exact .nil

/-! ## Attributes tell what a node holds -/

theorem eq_of_quotedAttribute {name s t x y : String}
    (h : quotedAttribute name s ++ x = quotedAttribute name t ++ y) : s = t ∧ x = y := by
  simp only [quotedAttribute, String.append_assoc, String.append_right_inj] at h
  exact Text.eq_of_quote_append h

/-- What follows a title is not another one. -/
theorem eq_of_titleAttribute {t u : Option String} {x y : String} (hx : ¬" title=".toList <+: x.toList)
    (hy : ¬" title=".toList <+: y.toList) (h : titleAttribute t ++ x = titleAttribute u ++ y) :
    t = u ∧ x = y := by
  have title (s z : String) : " title=".toList <+: (titleAttribute (some s) ++ z).toList :=
    ⟨(Text.quote s ++ z).toList, by simp [titleAttribute, quotedAttribute]⟩
  cases t with
  | none =>
    rw [titleAttribute, String.empty_append] at h
    cases u with
    | none =>
      rw [titleAttribute, String.empty_append] at h
      exact ⟨rfl, h⟩
    | some u =>
      rw [h] at hx
      exact absurd (title u y) hx
  | some t =>
    cases u with
    | none =>
      rw [titleAttribute, String.empty_append] at h
      rw [← h] at hy
      exact absurd (title t x) hy
    | some u =>
      obtain ⟨rfl, hend⟩ := eq_of_quotedAttribute h
      exact ⟨rfl, hend⟩

/-- What has no blank ends at the first one. -/
theorem eq_of_unbroken_append {k l x y : String} (hk : Text.Unbroken k) (hl : Text.Unbroken l)
    (h : k ++ (" " ++ x) = l ++ (" " ++ y)) : k = l ∧ x = y := by
  have hlist := congrArg String.toList h
  simp only [String.toList_append] at hlist
  have blank (x : List Char) : ∀ c ∈ (" ".toList ++ x).head?, (!Text.isBlank c) = false := by
    rintro c hc
    cases hc
    decide
  obtain ⟨hrun, hrest⟩ := Text.eq_of_append_run hk.not_isBlank hl.not_isBlank (blank _) (blank _) hlist
  exact ⟨String.toList_injective hrun, String.toList_injective (List.append_cancel_left hrest)⟩

namespace Leaf

theorem attributes_code (code : String) : (codeBlock none code).attributes = " " ++ Text.quote code := by
  rw [attributes, String.empty_append]

theorem attributes_language (language code : String) :
    (codeBlock (some language) code).attributes =
      " lang=" ++ (language ++ (" " ++ Text.quote code)) := by
  rw [attributes, String.append_assoc, String.append_assoc]

/-- A code block with a language does not look like one without. -/
theorem attributes_code_ne (code language code' : String) :
    (codeBlock none code).attributes ≠ (codeBlock (some language) code').attributes := by
  rw [attributes_code, attributes_language]
  intro h
  have hlist := congrArg String.toList h
  simp [Text.Quoted.quoteChars] at hlist

theorem unhooked_eq_of_attributes {l m : Leaf} (hl : l.Worded) (hm : m.Worded) (hkind : l.kind = m.kind)
    (h : l.attributes = m.attributes) : l.unhooked = m.unhooked := by
  cases l <;> cases m <;> try (simp [Leaf.kind] at hkind; done)
  case text.text s t =>
    rw [Text.eq_of_quote ((String.append_right_inj " ").1 h)]
  case lineBreak.lineBreak => rfl
  case codeBlock.codeBlock k c l d =>
    cases k with
    | none =>
      cases l with
      | none =>
        rw [attributes_code, attributes_code, String.append_right_inj] at h
        rw [Text.eq_of_quote h]
      | some l => exact absurd h (attributes_code_ne c l d)
    | some k =>
      cases l with
      | none => exact absurd h.symm (attributes_code_ne d k c)
      | some l =>
        rw [attributes_language, attributes_language, String.append_right_inj] at h
        obtain ⟨rfl, hcode⟩ := eq_of_unbroken_append hl hm h
        rw [Text.eq_of_quote hcode]
  case inlineCode.inlineCode s t =>
    rw [Text.eq_of_quote ((String.append_right_inj " ").1 h)]
  case rule.rule => rfl
  case checkbox.checkbox a b =>
    cases a <;> cases b <;> first | rfl | exact absurd h (by decide)
  case image.image i j =>
    obtain ⟨src, title, alt, onLoad⟩ := i
    obtain ⟨src', title', alt', onLoad'⟩ := j
    simp only [attributes, String.append_assoc] at h
    obtain ⟨rfl, hsrc⟩ := eq_of_quotedAttribute h
    obtain ⟨rfl, halt⟩ := eq_of_quotedAttribute hsrc
    obtain ⟨rfl, -⟩ := eq_of_titleAttribute (t := title) (u := title') (x := "") (y := "")
      (by decide) (by decide) (by rw [halt])
    rfl

end Leaf

namespace Branch

theorem eq_of_heading {level level' : Nat} {id id' : String}
    (h : (heading level id).attributes = (heading level' id').attributes) :
    heading level id = heading level' id' := by
  simp only [attributes, quotedAttribute, String.append_assoc, String.append_right_inj] at h
  obtain ⟨hlevel, hid⟩ := eq_of_unbroken_append (unbroken_number level) (unbroken_number level') h
  rw [Nat.repr_inj.1 hlevel, Text.eq_of_quote ((String.append_right_inj "id=").1 hid)]

theorem eq_of_list {ordered ordered' : Bool} {start start' : Option Nat}
    (h : (list ordered start).attributes = (list ordered' start').attributes) :
    list ordered start = list ordered' start' := by
  have hlist := congrArg String.toList h
  cases ordered <;> cases ordered' <;> cases start <;> cases start' <;> simp [attributes] at hlist ⊢ <;>
    exact Text.toDigits_inj (by decide) (by decide) hlist

theorem eq_of_link {href href' : String} {title title' : Option String} {newTab newTab' : Bool}
    (h : (link href title newTab).attributes = (link href' title' newTab').attributes) :
    link href title newTab = link href' title' newTab' := by
  simp only [attributes, String.append_assoc] at h
  obtain ⟨rfl, hhref⟩ := eq_of_quotedAttribute h
  have hflag (newTab : Bool) : ¬" title=".toList <+: (if newTab then " new_tab" else "").toList := by
    cases newTab <;> decide
  obtain ⟨rfl, htitle⟩ := eq_of_titleAttribute (hflag newTab) (hflag newTab') hhref
  cases newTab <;> cases newTab' <;> first | rfl | exact absurd htitle (by decide)

theorem eq_of_attributes {b c : Branch} (hkind : b.kind = c.kind) (h : b.attributes = c.attributes) :
    b = c := by
  cases b <;> cases c <;> try (simp [Branch.kind] at hkind; done)
  case heading.heading => exact eq_of_heading h
  case list.list => exact eq_of_list h
  case headerCell.headerCell a b => cases a <;> cases b <;> first | rfl | exact absurd h (by decide)
  case bodyCell.bodyCell a b => cases a <;> cases b <;> first | rfl | exact absurd h (by decide)
  case link.link => exact eq_of_link h
  all_goals rfl

end Branch

/-! ## Lines -/

theorem Leaf.kind_spec (l : Leaf) : l.kind ≠ "" ∧ Text.Unbroken l.kind := by
  cases l <;> rw [Leaf.kind] <;> decide

theorem Branch.kind_spec (b : Branch) : b.kind ≠ "" ∧ Text.Unbroken b.kind := by
  cases b <;> rw [Branch.kind] <;> decide

theorem Leaf.kind_ne (l : Leaf) (b : Branch) : l.kind ≠ b.kind := by
  cases l <;> cases b <;> simp [Leaf.kind, Branch.kind]

theorem Leaf.kind_ne_table (l : Leaf) : l.kind ≠ "table" := by
  cases l <;> simp [Leaf.kind]

theorem Branch.kind_ne_table (b : Branch) : b.kind ≠ "table" := by
  cases b <;> simp [Branch.kind]

namespace Node

def Worded : Node → Prop
  | leaf l => l.Worded
  | _ => True

instance : DecidablePred Worded
  | leaf l => inferInstanceAs (Decidable l.Worded)
  | branch .. | table .. => .isTrue trivial

/-- No code block in a tree has a language with blanks. -/
def AllWorded (n : Node) : Prop :=
  ∀ m ∈ n.walk, m.Worded

instance : DecidablePred AllWorded := fun n => inferInstanceAs (Decidable (∀ m ∈ n.walk, m.Worded))

/-- What stands on the line of a node after the indentation. -/
def entry (n : Node) : List Char :=
  n.kind.toList ++ n.attributes.toList

/-- The line of a node at a depth, with two blanks for each level. -/
def written (p : Nat × Node) : List Char :=
  List.replicate (2 * p.1) ' ' ++ p.2.entry

theorem toList_line (depth : Nat) (n : Node) : (line depth n).toList = written (depth, n) ++ ['\n'] := by
  simp [line, written, entry]

mutual

theorem outlineAt_eq (depth : Nat) : ∀ n, outlineAt depth n = (placed depth n).map fun p => line p.1 p.2
  | leaf l => rfl
  | branch b cs => by rw [outlineAt, placed, List.map_cons, outlineAll_eq (depth + 1) cs]
  | table head body => by
    rw [outlineAt, placed, List.map_cons, List.map_append, outlineAll_eq (depth + 1) head,
      outlineAll_eq (depth + 1) body]

theorem outlineAll_eq (depth : Nat) :
    ∀ ns, outlineAll depth ns = (placedAll depth ns).map fun p => line p.1 p.2
  | [] => rfl
  | n :: ns => by
    rw [outlineAll, placedAll, List.map_append, outlineAt_eq depth n, outlineAll_eq depth ns]

end

theorem toList_outline (n : Node) :
    n.outline.toList = ((placed 0 n).map written).flatMap (· ++ ['\n']) := by
  rw [outline, outlineAt_eq, String.toList_join, List.flatMap_map, List.flatMap_map]
  exact List.flatMap_congr fun p _ => toList_line p.1 p.2

variable {m n : Node}

theorem kind_spec (n : Node) : n.kind.toList ≠ [] ∧ Text.Unbroken n.kind := by
  have hspec : n.kind ≠ "" ∧ Text.Unbroken n.kind := by
    cases n with
    | leaf l => exact l.kind_spec
    | branch b cs => exact b.kind_spec
    | table head body => rw [kind]; decide
  exact ⟨fun h => hspec.1 (String.toList_injective h), hspec.2⟩

theorem lineTail (hn : n.Worded) : LineTail n.attributes.toList := by
  cases n with
  | leaf l => exact Leaf.lineTail hn
  | branch b cs => exact b.lineTail
  | table head body => exact .nil

/-- A line has no line feed and does not end in a blank. -/
theorem written_spec (hn : n.Worded) (depth : Nat) :
    '\n' ∉ written (depth, n) ∧ ∃ c, (written (depth, n)).getLast? = some c ∧ Text.isBlank c = false := by
  obtain ⟨hne, hkind⟩ := kind_spec n
  have hattributes := lineTail hn
  refine ⟨?_, ?_⟩
  · have hnewline : '\n' ∉ n.kind.toList := fun h => absurd (hkind _ h) (by decide)
    simp [written, entry, hnewline, hattributes.newline]
  · rw [written, entry, List.getLast?_append, List.getLast?_append]
    cases hlast : n.attributes.toList.getLast? with
    | some c => exact ⟨c, rfl, hattributes.last c hlast⟩
    | none =>
      cases hkindLast : n.kind.toList.getLast? with
      | some c => exact ⟨c, rfl, hkind c (List.mem_of_getLast? hkindLast)⟩
      | none => exact absurd (List.getLast?_eq_none_iff.1 hkindLast) hne

/-- The kind ends where the attributes begin. -/
theorem eq_of_entry (hm : m.Worded) (hn : n.Worded)
    (h : m.entry = n.entry) : m.kind = n.kind ∧ m.attributes = n.attributes := by
  have blank {k : Node} (hk : k.Worded) :
      ∀ c ∈ k.attributes.toList.head?, (!Text.isBlank c) = false := fun c hc => by
    rw [(lineTail hk).start c hc]
    decide
  obtain ⟨hkind, hattributes⟩ :=
    Text.eq_of_append_run (kind_spec m).2.not_isBlank (kind_spec n).2.not_isBlank (blank hm) (blank hn) h
  exact ⟨String.toList_injective hkind, String.toList_injective hattributes⟩

theorem bare_eq_of_attributes (hm : m.Worded) (hn : n.Worded)
    (hkind : m.kind = n.kind) (h : m.attributes = n.attributes) : m.bare = n.bare := by
  cases m with
  | leaf l =>
    cases n with
    | leaf k => exact congrArg leaf (Leaf.unhooked_eq_of_attributes hm hn hkind h)
    | branch b cs => exact absurd hkind (l.kind_ne b)
    | table head body => exact absurd hkind l.kind_ne_table
  | branch b cs =>
    cases n with
    | leaf k => exact absurd hkind.symm (k.kind_ne b)
    | branch c ds => exact congrArg (branch · []) (Branch.eq_of_attributes hkind h)
    | table head body => exact absurd hkind b.kind_ne_table
  | table head body =>
    cases n with
    | leaf k => exact absurd hkind.symm k.kind_ne_table
    | branch c ds => exact absurd hkind.symm c.kind_ne_table
    | table head' body' => rfl

/-- **A line tells the depth of its node and the node without its children.** -/
theorem eq_of_written (hm : m.Worded) (hn : n.Worded)
    {depth depth' : Nat} (h : written (depth, m) = written (depth', n)) :
    depth = depth' ∧ m.bare = n.bare := by
  have indentation (d : Nat) : ∀ c ∈ List.replicate d ' ', c == ' ' := fun c hc => by
    rw [List.eq_of_mem_replicate hc]
    rfl
  have kind (k : Node) : ∀ c ∈ k.entry.head?, (c == ' ') = false := fun c hc => by
    obtain ⟨hne, hkind⟩ := kind_spec k
    rw [entry, List.head?_append_of_ne_nil _ hne] at hc
    have hblank := hkind c (List.mem_of_mem_head? hc)
    rw [beq_eq_false_iff_ne]
    rintro rfl
    exact absurd hblank (by decide)
  obtain ⟨hindentation, hentry⟩ :=
    Text.eq_of_append_run (indentation _) (indentation _) (kind m) (kind n) h
  have hdepth := congrArg List.length hindentation
  rw [List.length_replicate, List.length_replicate] at hdepth
  obtain ⟨hkind, hattributes⟩ := eq_of_entry hm hn hentry
  exact ⟨by omega, bare_eq_of_attributes hm hn hkind hattributes⟩

/-! ## Whole outlines -/

theorem written_bare (depth : Nat) (n : Node) : written (depth, n.bare) = written (depth, n) := by
  cases n with
  | leaf l => cases l <;> rfl
  | branch b cs => rfl
  | table head body => rfl

theorem map_written_placed (n : Node) : (placed 0 n).map written = (trace 0 n).map written := by
  rw [trace, List.map_map]
  exact List.map_congr_left fun p _ => (written_bare p.1 p.2).symm

theorem AllWorded.of_mem_placed (hn : n.AllWorded) {depth : Nat} {p : Nat × Node}
    (h : p ∈ placed depth n) : p.2.Worded := by
  refine hn p.2 ?_
  rw [← map_snd_placed depth n]
  exact List.mem_map_of_mem h

theorem map_written_ne_nil (n : Node) : (placed 0 n).map written ≠ [] := by
  rw [placed_eq_cons]
  exact List.cons_ne_nil _ _

theorem AllWorded.written_spec (hn : n.AllWorded) {l : List Char} (hl : l ∈ (placed 0 n).map written) :
    '\n' ∉ l ∧ ∃ c, l.getLast? = some c ∧ Text.isBlank c = false := by
  obtain ⟨p, hp, rfl⟩ := List.mem_map.1 hl
  exact Node.written_spec (hn.of_mem_placed hp) p.1

theorem toList_trimEnd_outline (hn : n.AllWorded) :
    (Text.trimEnd n.outline).toList = ['\n'].intercalate ((placed 0 n).map written) := by
  rw [Text.trimEnd, String.toList_ofList, toList_outline,
    Text.trimEndChars_flatMap_line (map_written_ne_nil n) fun l hl => (hn.written_spec hl).2]

/-- Trimming an outline takes the last line feed away. -/
theorem outline_eq_trimEnd (hn : n.AllWorded) : n.outline = Text.trimEnd n.outline ++ "\n" := by
  apply String.toList_injective
  rw [String.toList_append, toList_trimEnd_outline hn, toList_outline,
    Text.flatMap_line (map_written_ne_nil n)]
  rfl

/-- **The lines of an outline are those of the nodes**, in the order of the walk. -/
theorem lines_trimEnd_outline (hn : n.AllWorded) :
    Text.lines (Text.trimEnd n.outline).toList = (placed 0 n).map written := by
  rw [toList_trimEnd_outline hn, Text.lines_eq_splitOn,
    List.splitOn_intercalate '\n' (fun l hl => (hn.written_spec hl).1) (map_written_ne_nil n)]

theorem map_eq_map_of_imp {α β γ : Type} {f : α → β} {g : α → γ} {xs ys : List α}
    (himp : ∀ x ∈ xs, ∀ y ∈ ys, f x = f y → g x = g y) (h : xs.map f = ys.map f) : xs.map g = ys.map g := by
  induction xs generalizing ys with
  | nil =>
    cases ys with
    | nil => rfl
    | cons y ys => cases h
  | cons x xs ih =>
    cases ys with
    | nil => cases h
    | cons y ys =>
      obtain ⟨hhead, htail⟩ := List.cons.inj h
      have hrest := ih
        (fun a ha b hb => himp a (List.mem_cons_of_mem _ ha) b (List.mem_cons_of_mem _ hb)) htail
      rw [List.map_cons, List.map_cons, hrest,
        himp x (List.mem_cons_self ..) y (List.mem_cons_self ..) hhead]

/-- **Outlines tell trees apart**, but for how tables are divided. -/
theorem trimEnd_outline_eq_iff (hm : m.AllWorded) (hn : n.AllWorded) :
    Text.trimEnd m.outline = Text.trimEnd n.outline ↔ m.undivided = n.undivided := by
  rw [undivided_eq_iff]
  constructor
  · intro h
    have hlines : (placed 0 m).map written = (placed 0 n).map written := by
      rw [← lines_trimEnd_outline hm, h, lines_trimEnd_outline hn]
    refine map_eq_map_of_imp (fun p hp q hq hpq => ?_) hlines
    obtain ⟨hdepth, hbare⟩ := eq_of_written (hm.of_mem_placed hp) (hn.of_mem_placed hq) hpq
    exact Prod.ext hdepth hbare
  · intro h
    rw [Text.trimEnd, Text.trimEnd, toList_outline, toList_outline, map_written_placed,
      map_written_placed, h]

end Node

end Marktree
