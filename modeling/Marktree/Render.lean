import Marktree.Compile.Pass
import Marktree.Config.Options
import Marktree.Markdown
import Marktree.Markup.Html
import Marktree.Markup.Tree
import Marktree.Text.BreakTag

/-!
# Rendering

A text becomes a document tree or HTML. Markdown is parsed and compiled; plain text becomes lines,
each with a line break after it.
-/
namespace Marktree.Render

/-- Break tags part paragraphs. -/
def prepare (s : String) : String :=
  String.ofList (Text.partBreaks s.toList)

def plainNodes (s : String) : List Node :=
  (Text.lines (Text.unixNewlines s).toList).flatMap fun l =>
    [.text (String.ofList l), .leaf .lineBreak]

/-- One text node and one line break per line. -/
def plain (s : String) : Node :=
  .branch .document (plainNodes s)

/-- The HTML of one line of a plain text. -/
def plainLine (l : List Char) : List Char :=
  Text.escapeChars l ++ "<br>".toList

/-- Every line escaped and with a break tag after it. An empty text has no line. -/
def plainHtml (s : String) : String :=
  if s.isEmpty then ""
  else String.ofList ((Text.lines (Text.normalizeNewlines s.toList)).flatMap plainLine)

/-- The document shown for a failure. -/
def errorDocument (e : CompileError) : Node :=
  .branch .document
    [.branch .paragraph [.text "An error occurred:"], .leaf (.codeBlock none e.message)]

/-- The tree of an event sequence. Its images get new hooks. -/
def treeFrom (hooks : Hooks) (o : Options) (events : List Event) : Except CompileError Node × Hooks :=
  match compile (TreeBuilder.markup o.sanitize) o { hooks } events with
  | (.ok stream, b) => (.ok (.branch .document (b.finish stream).1), b.hooks)
  | (.error e, b) => (.error e, b.hooks)

/-- The tree of an event sequence where nothing is notified. -/
def tree (o : Options) (events : List Event) : Except CompileError Node :=
  (treeFrom {} o events).1

/-- A silent rendering shows its failure. -/
def recover (o : Options) : Except CompileError Node → Except CompileError Node
  | .ok n => .ok n
  | .error e => if o.silent then .ok (errorDocument e) else .error e

/-- The tree of a text; an empty text has none. -/
def documentFrom (hooks : Hooks) (f : Format) (o : Options) (s : String) :
    Except CompileError (Option Node) × Hooks :=
  if s.isEmpty then (.ok none, hooks)
  else
    match f with
    | .plain => (.ok (some (plain s)), hooks)
    | .markdown =>
      let (t, hooks) := treeFrom hooks o (Markdown.parse o (prepare s))
      ((recover o t).map some, hooks)

/-- The tree of a text where nothing is notified. -/
def document (f : Format) (o : Options) (s : String) : Except CompileError (Option Node) :=
  (documentFrom {} f o s).1

def html (o : Options) (s : String) : Except CompileError String :=
  (compile (Html.markup o.sanitize) o {} (Markdown.parse o (prepare s))).1

/-! ## What a tree is -/

variable {hooks : Hooks} {f : Format} {o : Options} {s : String} {events : List Event} {n : Node}

theorem exists_of_treeFrom (h : (treeFrom hooks o events).1 = .ok n) :
    ∃ stream b, compile (TreeBuilder.markup o.sanitize) o { hooks } events = (.ok stream, b) ∧
      n = .branch .document (b.finish stream).1 := by
  unfold treeFrom at h
  split at h
  · rename_i stream b hcompile
    cases h
    exact ⟨stream, b, hcompile, rfl⟩
  · cases h

theorem treeFrom_snd (hooks : Hooks) (o : Options) (events : List Event) :
    (treeFrom hooks o events).2 = (compile (TreeBuilder.markup o.sanitize) o { hooks } events).2.hooks := by
  unfold treeFrom
  split <;> simp [*]

/-- A document is that of a plain text, that of a failure, or the tree of the events. -/
theorem documentFrom_cases (h : (documentFrom hooks f o s).1 = .ok (some n)) :
    n = plain s ∨ (∃ e, n = errorDocument e) ∨
      treeFrom hooks o (Markdown.parse o (prepare s)) = (.ok n, (documentFrom hooks f o s).2) := by
  unfold documentFrom at h ⊢
  split at h
  · cases h
  · rename_i hs
    rw [if_neg hs]
    cases f with
    | plain =>
      cases h
      exact .inl rfl
    | markdown =>
      simp only at h ⊢
      generalize treeFrom hooks o (Markdown.parse o (prepare s)) = r at h ⊢
      obtain ⟨t, hooks'⟩ := r
      cases t with
      | ok m =>
        cases h
        exact .inr (.inr rfl)
      | error e =>
        simp only [recover] at h
        split at h
        · cases h
          exact .inr (.inl ⟨e, rfl⟩)
        · cases h

end Marktree.Render
