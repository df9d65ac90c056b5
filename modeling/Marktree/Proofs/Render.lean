import Marktree.Render
import Marktree.Proofs.Markup.Agreement
import Marktree.Proofs.Markup.Headings
import Marktree.Proofs.Text.BreakTag
import Marktree.Proofs.Text.Lines

/-!
# Plain text and break tags

The tree and the HTML of a plain text are made by two ways through its lines. The HTML is that of the
tree (`plainHtml_eq_html`), and nothing of the text is lost but the carriage returns before line feeds.

Markdown is prepared before it is parsed: its break tags become empty lines. No break tag is left, unless
it had another one inside of it (`prepare_tags`).
-/
namespace Marktree

def Node.isBreak : Node → Bool
  | leaf .lineBreak => true
  | _ => false

namespace Render

/-- The nodes of a line: its text and a break. -/
def lineNodes (t : String) : List Node :=
  [.text t, .leaf .lineBreak]

/-- The lines of a text as both ways through it cut them. -/
def plainTexts (s : String) : List String :=
  (Text.lines (Text.normalizeNewlines s.toList)).map String.ofList

theorem plainNodes_eq (s : String) : plainNodes s = (plainTexts s).flatMap lineNodes := by
  rw [plainNodes, plainTexts, Text.unixNewlines_eq, String.toList_ofList, List.flatMap_map]
  rfl

theorem plainHtml_eq {s : String} (h : s ≠ "") :
    plainHtml s = String.join ((plainTexts s).map fun t => Text.escape t ++ "<br>") := by
  rw [plainHtml, if_neg (by simpa using h)]
  apply String.toList_injective
  rw [String.toList_ofList, String.toList_join, List.flatMap_map, plainTexts, List.flatMap_map]
  exact List.flatMap_congr fun l _ => by simp [plainLine, Text.escape]

theorem join_lineNodes (f : Node → String) (ts : List String) :
    String.join ((ts.flatMap lineNodes).map f) =
      String.join (ts.map fun t => f (.text t) ++ f (.leaf .lineBreak)) := by
  induction ts with
  | nil => rfl
  | cons t ts ih => simp [lineNodes, ih, String.append_assoc]

theorem countP_lineNodes (ts : List String) : (ts.flatMap lineNodes).countP Node.isBreak = ts.length := by
  induction ts with
  | nil => rfl
  | cons t ts ih =>
    rw [List.flatMap_cons, List.countP_append, ih, List.length_cons, Nat.add_comm]
    rfl

theorem plainText_plain (s : String) :
    (plain s).plainText = String.ofList (Text.normalizeNewlines s.toList) ++ "\n" := by
  have hline (l : List Char) : (String.ofList l ++ "\n").toList = l ++ ['\n'] := by
    rw [String.toList_append, String.toList_ofList]
    rfl
  rw [plain, Node.plainText_branch, Node.plainTextAll, plainNodes_eq, join_lineNodes, plainTexts,
    List.map_map]
  simp only [Function.comp_def, Node.text, Node.plainText_leaf, Leaf.plainText]
  apply String.toList_injective
  rw [String.toList_join, List.flatMap_map, List.flatMap_congr fun l _ => hline l,
    Text.flatMap_line (Text.lines_ne_nil _), Text.intercalate_lines, hline]

/-- **The two ways through a plain text agree and lose nothing.** The HTML is that of the nodes of the
tree, a text without line feeds and a break for each line. There is one line more than the text has line
feeds, and the tree reads as the text does with `"\r\n"` replaced, and a line feed at the end. -/
theorem plainHtml_eq_html {s : String} (h : s ≠ "") :
    plainHtml s = String.join ((plain s).children.map Node.html) ∧
      (∃ ts : List String, (plain s).children = ts.flatMap lineNodes ∧ ∀ t ∈ ts, '\n' ∉ t.toList) ∧
      (plain s).children.countP Node.isBreak = s.toList.count '\n' + 1 ∧
      ∀ t : String, (plain s).plainText = t ++ "\n" ↔
        Text.Replaced ['\r', '\n'] ['\n'] s.toList t.toList := by
  have hchildren : (plain s).children = (plainTexts s).flatMap lineNodes := plainNodes_eq s
  refine ⟨?_, ⟨plainTexts s, hchildren, fun t ht => ?_⟩, ?_, fun t => ?_⟩
  · rw [plainHtml_eq h, hchildren, join_lineNodes]
    rfl
  · obtain ⟨l, hl, rfl⟩ := List.mem_map.1 ht
    rw [String.toList_ofList]
    exact Text.notMem_of_mem_lines hl
  · rw [hchildren, countP_lineNodes, plainTexts, List.length_map, Text.length_lines,
      Text.count_normalizeNewlines]
  · rw [plainText_plain, Text.replaced_iff, String.append_left_inj, ← String.toList_inj,
      String.toList_ofList]

/-- Line ends of all kinds, two of them at the end, and characters to escape. -/
theorem plainHtml_eq_html_mixed :
    let s := "a&\r\r\n<\rb\n\r\n"
    s ≠ "" ∧ plainHtml s = "a&amp;\r<br>&lt;\rb<br><br><br>" ∧
      (plain s).children.countP Node.isBreak = 4 ∧ (plain s).plainText = "a&\r\n<\rb\n\n" ++ "\n" := by
  intro s
  have hne : s ≠ "" := by decide
  obtain ⟨hhtml, -, hcount, htext⟩ := plainHtml_eq_html hne
  have hreplaced : Text.Replaced ['\r', '\n'] ['\n'] s.toList "a&\r\n<\rb\n\n".toList :=
    Text.replaced_iff.2 (by decide)
  refine ⟨hne, ?_, hcount.trans (by decide), (htext _).2 hreplaced⟩
  rw [hhtml, plain, Node.children, plainNodes_eq, join_lineNodes]
  simp only [Node.html, Leaf.html]
  decide

/-! ## Break tags -/

theorem toList_prepare (s : String) : (prepare s).toList = Text.partBreaks s.toList := by
  rw [prepare, String.toList_ofList]

theorem prepare_eq_self_iff (s : String) : prepare s = s ↔ ¬ Text.HasTag s.toList := by
  rw [← Text.partBreaks_eq_self_iff, ← String.toList_inj, toList_prepare]

theorem hasTag_prepare_iff (s : String) : Text.HasTag (prepare s).toList ↔ Text.HasNest s.toList := by
  rw [toList_prepare, Text.hasTag_partBreaks_iff]

/-- **Break tags are gone once a text is prepared**, those apart that had others among their blanks. A
second preparation changes nothing exactly if there are none of these, and the first one exactly if there
is no break tag at all. -/
theorem prepare_tags (s : String) :
    (Text.HasTag (prepare s).toList ↔ Text.HasNest s.toList) ∧
      (prepare (prepare s) = prepare s ↔ ¬ Text.HasNest s.toList) ∧
      (prepare s = s ↔ ¬ Text.HasTag s.toList) := by
  refine ⟨hasTag_prepare_iff s, ?_, prepare_eq_self_iff s⟩
  rw [prepare_eq_self_iff, hasTag_prepare_iff]

/-- The empty line for the inner tag makes a tag of what stands around it. -/
theorem prepare_nested_tag :
    prepare "<br<br>>" = "<br\n\n>" ∧ Text.HasTag (prepare "<br<br>>").toList ∧
      prepare (prepare "<br<br>>") ≠ prepare "<br<br>>" := by
  have hprepare : prepare "<br<br>>" = "<br\n\n>" := by decide +kernel
  have hagain : prepare "<br\n\n>" = "\n\n" := by decide +kernel
  rw [hprepare, hagain]
  refine ⟨rfl, ⟨"<br\n\n>".toList, ?_, List.infix_rfl⟩, by decide⟩
  have hblanks : Text.Blanks ['\n', '\n'] := by simp [Text.Blanks, Text.isBlank]
  exact ⟨'b', 'r', ['\n', '\n'], ['>'], .inl rfl, .inl rfl, hblanks, .inl rfl, rfl⟩

end Render

end Marktree
