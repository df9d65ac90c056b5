import Marktree.Proofs.Compile.Fold
import Marktree.Proofs.Node.Stream

/-!
# Html blocks in trees

The lines of an html block wait in its frame and become one text node. A text among them is answered
at once like any other text: a node of its own takes a slot, and the token of the slot stands between
the lines. What stands in an html block is not read, so the token becomes part of the text of the
block and the node stays in its slot (`run_htmlBlock`). A block becomes the text node of what it says
exactly if no text is among its lines (`htmlBlock_verbatim_iff`).
-/
namespace Marktree

/-! ## Lines and texts -/

namespace Event

/-- What may stand in an html block: a line of it or a text. -/
def isLine : Event → Bool
  | .html _ | .text _ => true
  | _ => false

/-- What a line or a text says. -/
def line : Event → String
  | .html s | .text s => s
  | _ => ""

/-- Without texts there is nothing but lines. -/
theorem exists_eq_map_html {es : List Event} (hes : ∀ e ∈ es, e.isLine) (htext : ∀ s, .text s ∉ es) :
    ∃ lines : List String, es = lines.map .html := by
  induction es with
  | nil => exact ⟨[], rfl⟩
  | cons e es ih =>
    obtain ⟨he, hrest⟩ := List.forall_mem_cons.1 hes
    obtain ⟨lines, rfl⟩ := ih hrest fun s hs => htext s (List.mem_cons_of_mem e hs)
    cases e with
    | html s => exact ⟨s :: lines, rfl⟩
    | text s => exact absurd (List.mem_cons_self ..) (htext s)
    | _ => cases he

end Event

namespace TreeBuilder

/-- What the frame of a block collects for an event. -/
def lineAnswer (b : TreeBuilder) : Event → String × TreeBuilder
  | .html s => (s, b)
  | .text s => b.emit (.text s)
  | _ => ("", b)

/-- The same for events one after another. -/
def lineAnswers (b : TreeBuilder) : List Event → String × TreeBuilder
  | [] => ("", b)
  | e :: es =>
    let (x, b) := b.lineAnswer e
    let (y, b) := b.lineAnswers es
    (x ++ y, b)

theorem size_emit (b : TreeBuilder) (n : Node) : (b.emit n).2.registry.size = b.registry.size + 1 := by
  simp [emit, Node.Registry.register, Node.Registry.size]

theorem size_le_lineAnswer (b : TreeBuilder) (e : Event) :
    b.registry.size ≤ (b.lineAnswer e).2.registry.size := by
  cases e with
  | text s =>
    rw [lineAnswer, size_emit]
    exact Nat.le_succ _
  | _ => exact Nat.le_refl _

/-- The slots that were there keep their nodes. -/
theorem get?_lineAnswers {b : TreeBuilder} {i : Nat} (hi : i < b.registry.size) (es : List Event) :
    (b.lineAnswers es).2.registry.get? i = b.registry.get? i := by
  induction es generalizing b with
  | nil => rfl
  | cons e es ih =>
    have hle := b.size_le_lineAnswer e
    have htail := ih (b := (b.lineAnswer e).2) (by omega)
    refine htail.trans ?_
    cases e with
    | text s => exact (Node.Registry.get?_register _ i).trans (if_neg (by omega))
    | _ => rfl

/-- A text among the lines takes a slot, and its token is part of what the frame collects. -/
theorem exists_token_of_mem {es : List Event} {s : String} (h : .text s ∈ es) (b : TreeBuilder) :
    ∃ i x y, b.registry.size ≤ i ∧ (b.lineAnswers es).2.registry.get? i = some (.text s) ∧
      (b.lineAnswers es).1 = x ++ Node.Placeholder.encode i ++ y := by
  induction es generalizing b with
  | nil => cases h
  | cons e es ih =>
    rcases List.mem_cons.1 h with rfl | h
    · have hlt : b.registry.size < (b.emit (.text s)).2.registry.size := by
        rw [size_emit]
        omega
      refine ⟨b.registry.size, "", ((b.emit (.text s)).2.lineAnswers es).1, Nat.le_refl _, ?_, ?_⟩
      · refine (get?_lineAnswers hlt es).trans ?_
        exact (Node.Registry.get?_register _ _).trans (if_pos rfl)
      · rw [String.empty_append]
        rfl
    · obtain ⟨i, x, y, hi, hget, heq⟩ := ih h (b.lineAnswer e).2
      have hle := b.size_le_lineAnswer e
      refine ⟨i, (b.lineAnswer e).1 ++ x, y, by omega, hget, ?_⟩
      change (b.lineAnswer e).1 ++ ((b.lineAnswer e).2.lineAnswers es).1 = _
      rw [heq]
      simp only [String.append_assoc]

theorem builder_text (restrict sanitize : Bool) (s : String) (b : TreeBuilder) :
    (markup restrict).builder sanitize (.text s) b = b.emit (.text s) := by
  simp [Markup.builder, Construct.escaped, markup, leaf?]

theorem builder_html (restrict sanitize : Bool) (s : String) (b : TreeBuilder) :
    (markup restrict).builder sanitize (.html s) b = b.emit (.text s) := by
  cases sanitize with
  | true => simp [Markup.builder, Construct.escaped, markup, leaf?]
  | false => rfl

end TreeBuilder

/-! ## Blocks in a pass -/

namespace Compile.Pass

variable {restrict sanitize breaks : Bool} {p : Pass String TreeBuilder}

/-- An html block is the innermost frame. -/
def InBlock (p : Pass String TreeBuilder) : Prop :=
  p.capture = none ∧ ∃ content fs, p.frames = ⟨.html, .html, content⟩ :: fs

theorem inBlock_absorb (hp : p.InBlock) (x : String × TreeBuilder) (raw : String) :
    (p.absorb x raw).InBlock := by
  obtain ⟨state, document, frames, capture, table, heading⟩ := p
  obtain ⟨hc, content, fs, rfl⟩ := hp
  exact ⟨hc, _, _, rfl⟩

theorem step_line (hp : p.InBlock) {e : Event} (he : e.isLine) :
    p.step ((TreeBuilder.markup restrict).builder sanitize) breaks e =
      .ok (p.absorb (p.state.lineAnswer e) e.raw) := by
  obtain ⟨hc, content, fs, hf⟩ := hp
  rw [step, hc]
  cases e with
  | html s =>
    rw [flow, htmlLine, hf]
    simp only [absorb, Event.raw, note_empty, TreeBuilder.lineAnswer]
    rfl
  | text s =>
    rw [flow, text, answer, TreeBuilder.builder_text]
    rfl
  | _ => cases he

/-- The frame of a block takes what its lines and texts are answered with. -/
theorem run_lines {es : List Event} (hes : ∀ e ∈ es, e.isLine) (hp : p.InBlock) (rest : List Event) :
    p.run ((TreeBuilder.markup restrict).builder sanitize) breaks (es ++ rest) =
      (p.absorb (p.state.lineAnswers es) (String.join (es.map Event.raw))).run
        ((TreeBuilder.markup restrict).builder sanitize) breaks rest := by
  induction es generalizing p with
  | nil => simp [TreeBuilder.lineAnswers, absorb_nothing]
  | cons e es ih =>
    obtain ⟨he, hrest⟩ := List.forall_mem_cons.1 hes
    rw [List.cons_append, run_cons (step_line hp he), ih hrest (inBlock_absorb hp _ _), absorb_absorb,
      state_absorb, List.map_cons, String.join_cons]
    rfl

theorem close_html (x : String × TreeBuilder) (raw : String) (closing : EndTag) :
    ({ p with state := x.2 }.note raw).close ((TreeBuilder.markup restrict).builder sanitize)
      ⟨.html, closing, x.1⟩ = p.absorb (x.2.emit (.text x.1)) raw := by
  simp only [close, answer, TreeBuilder.builder_html]
  rfl

/-- A block is answered with the token of a text node of what its frame has collected. -/
theorem run_htmlBlock {es : List Event} (hes : ∀ e ∈ es, e.isLine) (hc : p.capture = none)
    (rest : List Event) :
    p.run ((TreeBuilder.markup restrict).builder sanitize) breaks
        (.start .html :: es ++ .stop .html :: rest) =
      (p.absorb ((p.state.lineAnswers es).2.emit (.text (p.state.lineAnswers es).1))
        (String.join (es.map Event.raw))).run
        ((TreeBuilder.markup restrict).builder sanitize) breaks rest := by
  have hstart : p.step ((TreeBuilder.markup restrict).builder sanitize) breaks (.start .html) =
      .ok (p.start .html) := by
    rw [step, hc]
    rfl
  have hin : (p.start .html).InBlock := ⟨hc, _, _, rfl⟩
  have hend := inBlock_absorb hin (p.state.lineAnswers es) (String.join (es.map Event.raw))
  have hstop := stop_enter (b := (TreeBuilder.markup restrict).builder sanitize) (p := p) .html .html
    (p.state.lineAnswers es) (String.join (es.map Event.raw))
  rw [close_html] at hstop
  rw [List.cons_append, run_cons hstart, run_lines hes hin, state_start]
  refine run_cons ?_ rest
  rw [step, hend.1]
  exact hstop

/-- **An html block becomes a text node of what it says exactly if no text is among its lines.** With
a text there, the text node of the block has a token in it, and the slot of that token stays full,
since what is answered is the token of the block alone. -/
theorem htmlBlock_verbatim_iff (restrict sanitize breaks : Bool) (p : Pass String TreeBuilder)
    (hc : p.capture = none) {es : List Event} (hes : ∀ e ∈ es, e.isLine) :
    ∃ q, p.run ((TreeBuilder.markup restrict).builder sanitize) breaks
        (.start .html :: es ++ [.stop .html]) = (q, none) ∧
      (q = p.absorb (p.state.emit (.text (String.join (es.map Event.line)))) "" ↔
        ∀ s, .text s ∉ es) ∧
      ∀ s, .text s ∈ es → ∃ i j x y raw, i < j ∧ q.state.registry.get? i = some (.text s) ∧
        q.state.registry.get? j = some (.text (x ++ Node.Placeholder.encode i ++ y)) ∧
        q = p.absorb (Node.Placeholder.encode j, q.state) raw := by
  refine ⟨_, run_htmlBlock hes hc [], ⟨fun h s hs => ?_, fun htext => ?_⟩, fun s hs => ?_⟩
  · obtain ⟨i, x, y, hi, hget, -⟩ := TreeBuilder.exists_token_of_mem hs p.state
    have hlt := Node.Registry.lt_size_of_get? hget
    have hsize := congrArg (fun q : Pass String TreeBuilder => q.state.registry.size) h
    simp only [state_absorb, TreeBuilder.size_emit] at hsize
    omega
  · obtain ⟨lines, rfl⟩ := Event.exists_eq_map_html hes htext
    have hline : (lines.map Event.html).map Event.line = lines := by simp [Function.comp_def, Event.line]
    have hblock : p.run ((TreeBuilder.markup restrict).builder sanitize) breaks
        (.start .html :: lines.map .html ++ [.stop .html]) =
        (p.absorb (p.state.emit (.text (String.join lines))) "", none) := by
      rw [← TreeBuilder.builder_html restrict sanitize, ← List.append_nil (_ ++ _)]
      exact Passage.run_html hc lines []
    rw [hline]
    exact congrArg Prod.fst ((run_htmlBlock hes hc []).symm.trans hblock)
  · obtain ⟨i, x, y, -, hget, heq⟩ := TreeBuilder.exists_token_of_mem hs p.state
    have hlt := Node.Registry.lt_size_of_get? hget
    refine ⟨i, (p.state.lineAnswers es).2.registry.size, x, y, String.join (es.map Event.raw), hlt, ?_, ?_,
      ?_⟩
    · rw [state_absorb]
      exact (Node.Registry.get?_register _ i).trans ((if_neg (Nat.ne_of_lt hlt)).trans hget)
    · rw [state_absorb, heq]
      exact (Node.Registry.get?_register _ _).trans (if_pos rfl)
    · rw [state_absorb]
      rfl

/-- Two lines, one of which looks like a token, where raw html becomes text. -/
theorem htmlBlock_verbatim_lookalike :
    let b := (TreeBuilder.markup true).builder true
    let lines : List Event := [.html "\x7b\x7b0\x7d\x7d", .html "<b>"]
    (Pass.initial {}).run b false (.start .html :: lines ++ [.stop .html]) =
      ((Pass.initial {}).absorb (({} : TreeBuilder).emit (.text "\x7b\x7b0\x7d\x7d<b>")) "", none) := by
  intro b lines
  have hlines : ∀ e ∈ lines, e.isLine := by decide
  have htext : ∀ s, .text s ∉ lines := by simp [lines]
  obtain ⟨q, hrun, hq, -⟩ := htmlBlock_verbatim_iff true true false (.initial {}) rfl hlines
  rw [hrun, hq.2 htext]
  rfl

end Compile.Pass

/-- A blank among the lines: the text node has a token where the blank stood, and the node of the
blank is never read. -/
theorem htmlBlock_token :
    let events : List Event := [.start .html, .html "<b>", .text " ", .html "x", .stop .html]
    ∃ stream b, compile (TreeBuilder.markup false) .default {} events = (.ok stream, b) ∧
      (b.finish stream).1 = [.text "<b>\x7b\x7b0\x7d\x7dx"] ∧
      (b.finish stream).2.registry.unconsumed = 1 := by
  intro events
  let r : Node.Registry := ⟨#[some (.text " "), some (.text "<b>\x7b\x7b0\x7d\x7dx")]⟩
  have h : compile (TreeBuilder.markup false) .default {} events =
    (.ok (Node.Placeholder.encode 1), { registry := r }) := rfl
  have hread : ({ registry := r } : TreeBuilder).finish (Node.Placeholder.encode 1) =
      ([.text "<b>\x7b\x7b0\x7d\x7dx"], { registry := (r.take 1).2 }) := by
    rw [TreeBuilder.finish, TreeBuilder.read, Node.Placeholder.decode_encode rfl]
  refine ⟨_, _, h, ?_, ?_⟩
  · rw [hread]
  · rw [hread]
    rfl

end Marktree
