import Marktree.Proofs.Compile.Fold

/-!
# Contents without tables

What stands between the start and the end of a construct is answered the same wherever the construct
stands, as long as no table and no part of one is in it: nothing else that it changes is seen from the
outside (`exists_answers`). So the answer to such a content is what it compiles to as a document of its
own, from the state in which the builder is when it begins (`build_of_answers`).
-/
namespace Marktree

/-- What an event adds to the body of a code block around it. -/
def Event.body : Event → String
  | .text t => t
  | _ => ""

namespace Grammar

/-- Events of a whole document without tables and their parts. In code blocks and images, where they
are passed over, they may start. -/
inductive Untabled : List Event → Prop
  | nil : Untabled []
  | leaf {e : Event} {es : List Event} (he : e.isLeaf) (hes : Untabled es) : Untabled (e :: es)
  | construct {t : Tag} {inner es : List Event} (ht : t.isPlain ∨ t = .html) (hinner : Untabled inner)
    (hes : Untabled es) : Untabled (.start t :: inner ++ .stop t.closing :: es)
  | code (info : Option String) {inner es : List Event} (hinner : ∀ t, .stop t ∉ inner)
    (hes : Untabled es) : Untabled (.start (.code info) :: inner ++ .stop .code :: es)
  | image (src title : String) {inner es : List Event} (hinner : Images inner) (hes : Untabled es) :
    Untabled (.start (.image src title) :: inner ++ .stop .image :: es)

end Grammar

namespace Compile.Pass

variable {σ : Type} {b : Builder String σ} {breaks : Bool} {s : σ} {block : Bool}
  {x y : String × σ} {f g : Option String → Option String} {es fs : List Event}

/-- The innermost frame is that of an html block. -/
def inHtml (p : Pass String σ) : Bool :=
  p.blocks.headD false

/-- The pass after an answer `x`, with the plain text of the heading around it changed by `f`. -/
def settle (p : Pass String σ) (x : String × σ) (f : Option String → Option String) : Pass String σ :=
  { p with state := x.2, heading := f p.heading }.push x.1

@[simp] theorem capture_settle (p : Pass String σ) : (p.settle x f).capture = p.capture :=
  (refilled_push _ _).capture

@[simp] theorem state_settle (p : Pass String σ) : (p.settle x f).state = x.2 :=
  (refilled_push _ _).state

@[simp] theorem table_settle (p : Pass String σ) : (p.settle x f).table = p.table :=
  (refilled_push _ _).table

theorem settle_settle (p : Pass String σ) :
    (p.settle x f).settle y g = p.settle (x.1 ++ y.1, y.2) (g ∘ f) := by
  obtain ⟨state, document, frames, capture, table, heading⟩ := p
  cases frames <;> simp [settle, push, Content.append, String.append_assoc]

theorem settle_nothing (p : Pass String σ) : p.settle ("", p.state) id = p := by
  rw [settle, push_empty]
  rfl

/-- On top of every pass in the state `s`, events add one answer to the innermost frame and leave all
else but the heading as it was. -/
def Answers (b : Builder String σ) (breaks : Bool) (s : σ) (block : Bool) (es : List Event)
    (x : String × σ) (f : Option String → Option String) : Prop :=
  ∀ p : Pass String σ, p.capture = none → p.state = s → p.inHtml = block →
    ∀ rest, p.run b breaks (es ++ rest) = (p.settle x f).run b breaks rest

theorem Answers.nil : Answers b breaks s block [] ("", s) id := by
  rintro p - rfl - rest
  rw [settle_nothing]
  rfl

theorem Answers.append (hes : Answers b breaks s block es x f) (hfs : Answers b breaks x.2 block fs y g) :
    Answers b breaks s block (es ++ fs) (x.1 ++ y.1, y.2) (g ∘ f) := by
  intro p hc hs hb rest
  have hblock : (p.settle x f).inHtml = p.inHtml :=
    congrArg (·.headD false) (refilled_push { p with state := x.2, heading := f p.heading } x.1).blocks
  have hnext := hfs (p.settle x f) (by simpa using hc) (by simp) (hblock.trans hb) rest
  rw [List.append_assoc, hes p hc hs hb, hnext, settle_settle]

/-- What one step does is answered as a sequence of one event. -/
theorem Answers.of_step {e : Event}
    (h : ∀ p : Pass String σ, p.capture = none → p.state = s → p.inHtml = block →
      p.step b breaks e = .ok (p.settle x f)) : Answers b breaks s block [e] x f :=
  fun p hc hs hb rest => run_cons (h p hc hs hb) rest

/-! ## Events that stand by themselves -/

/-- A line of html waits in the frame of its block, or is answered at once. -/
theorem settle_htmlLine (p : Pass String σ) (t : String) :
    p.htmlLine b t = p.settle (if p.inHtml then (t, p.state) else b (.html t) p.state) id := by
  obtain ⟨state, document, frames, capture, table, heading⟩ := p
  match frames with
  | [] => rfl
  | ⟨role, closing, content⟩ :: fs => cases role <;> rfl

theorem exists_answers_leaf {e : Event} (he : e.isLeaf) (s : σ) (block : Bool) :
    ∃ x f, Answers b breaks s block [e] x f := by
  cases e with
  | start t => cases he
  | stop t => cases he
  | html t =>
    refine ⟨if block then (t, s) else b (.html t) s, id, .of_step ?_⟩
    rintro p hc rfl rfl
    rw [step_of_capture hc, flow, settle_htmlLine]
  | softBreak =>
    refine ⟨if breaks then b .lineBreak s else ("\n", s), (·.map (· ++ " ")), .of_step ?_⟩
    rintro p hc rfl -
    rw [step_of_capture hc]
    cases breaks <;> rfl
  | footnoteReference label =>
    refine ⟨("", s), id, .of_step ?_⟩
    rintro p hc rfl -
    rw [step_of_capture hc, settle_nothing]
    rfl
  | text t | inlineMath t | displayMath t =>
    refine ⟨b (.text t) s, (·.map (· ++ t)), .of_step ?_⟩
    rintro p hc rfl -
    rw [step_of_capture hc]
    rfl
  | code t =>
    refine ⟨b (.codeSpan t) s, (·.map (· ++ t)), .of_step ?_⟩
    rintro p hc rfl -
    rw [step_of_capture hc]
    rfl
  | inlineHtml t =>
    refine ⟨b (.html t) s, id, .of_step ?_⟩
    rintro p hc rfl -
    rw [step_of_capture hc]
    rfl
  | hardBreak =>
    refine ⟨b .lineBreak s, id, .of_step ?_⟩
    rintro p hc rfl -
    rw [step_of_capture hc]
    rfl
  | rule =>
    refine ⟨b .rule s, id, .of_step ?_⟩
    rintro p hc rfl -
    rw [step_of_capture hc]
    rfl
  | task checked =>
    refine ⟨b (.checkbox checked) s, id, .of_step ?_⟩
    rintro p hc rfl -
    rw [step_of_capture hc]
    rfl

/-! ## Constructs -/

/-- The end of a frame whose content was answered. -/
theorem stop_settle (p : Pass String σ) (role : Role String) (closing : EndTag) :
    ((p.enter role closing).settle x f).stop b closing =
      .ok ({ p with state := x.2, heading := f p.heading }.close b ⟨role, closing, x.1⟩) := by
  simp [settle, enter, push, stop, Content.empty, Content.append]

theorem step_start {p : Pass String σ} (hc : p.capture = none) (t : Tag) :
    p.step b breaks (.start t) = .ok (p.start t) := by
  rw [step_of_capture hc]
  rfl

theorem step_stop_settle {p : Pass String σ} (hc : p.capture = none) (role : Role String) (closing : EndTag) :
    ((p.enter role closing).settle x f).step b breaks (.stop closing) =
      .ok ({ p with state := x.2, heading := f p.heading }.close b ⟨role, closing, x.1⟩) :=
  (step_of_capture (by rw [capture_settle]; exact hc) _).trans (stop_settle p role closing)

/-- A construct is answered with what closing its frame adds. -/
theorem Answers.construct {t : Tag} (role : Role String) (heading : Option String → Option String)
    (hin : Answers b breaks s role.isHtml es x f)
    (hstart : ∀ p : Pass String σ, p.start t = { p with heading := heading p.heading }.enter role t.closing)
    (hclose : ∀ p : Pass String σ, { p with state := x.2, heading := f (heading p.heading) }.close b
      ⟨role, t.closing, x.1⟩ = p.settle y g) :
    Answers b breaks s block (.start t :: es ++ [.stop t.closing]) y g := by
  intro p hc hs _ rest
  have hinside := hin (p.start t) (by rw [hstart]; exact hc) (by rw [hstart]; exact hs)
    (by rw [hstart]; rfl) (.stop t.closing :: rest)
  have hend : ((p.start t).settle x f).step b breaks (.stop t.closing) = .ok (p.settle y g) := by
    rw [hstart, step_stop_settle (p := { p with heading := heading p.heading }) hc role t.closing]
    exact congrArg Except.ok (hclose p)
  rw [List.cons_append, List.cons_append, run_cons (step_start hc t), List.append_assoc,
    List.singleton_append, hinside, run_cons hend]

theorem exists_answers_construct {t : Tag} (ht : t.isPlain ∨ t = .html)
    (hin : ∃ x f, Answers b breaks s (t = .html) es x f) :
    ∃ y g, Answers b breaks s block (.start t :: es ++ [.stop t.closing]) y g := by
  obtain ⟨x, f, hin⟩ := hin
  have hwrap (w : Wrapper) (hne : t ≠ .html)
      (hstart : ∀ p : Pass String σ, p.start t = p.enter (.wrap w) t.closing) :
      ∃ y g, Answers b breaks s block (.start t :: es ++ [.stop t.closing]) y g :=
    ⟨b (.wrap w x.1) x.2, f, .construct (.wrap w) id
      (by simpa [hne, Role.isHtml] using hin) hstart fun _ => rfl⟩
  have hthrough (hne : t ≠ .html)
      (hstart : ∀ p : Pass String σ, p.start t = p.enter .through t.closing) :
      ∃ y g, Answers b breaks s block (.start t :: es ++ [.stop t.closing]) y g :=
    ⟨x, f, .construct .through id (by simpa [hne, Role.isHtml] using hin) hstart
      fun _ => rfl⟩
  cases t with
  | heading l =>
    exact ⟨b (.wrap (.heading l.number (Text.trim ((f (some "")).getD ""))) x.1) x.2, fun _ => none,
      .construct (.heading l) (fun _ => some "") (by simpa [Role.isHtml] using hin)
        (fun _ => rfl) fun _ => rfl⟩
  | html =>
    exact ⟨b (.html x.1) x.2, f, .construct .html id
      (by simpa [Role.isHtml] using hin) (fun _ => rfl) fun _ => rfl⟩
  | paragraph => exact hwrap .paragraph (by simp) fun _ => rfl
  | quote kind => exact hwrap .quote (by simp) fun _ => rfl
  | list first => exact hwrap (.list first.isSome first) (by simp) fun _ => rfl
  | item => exact hwrap .item (by simp) fun _ => rfl
  | emphasis => exact hwrap .emphasis (by simp) fun _ => rfl
  | strong => exact hwrap .strong (by simp) fun _ => rfl
  | strikethrough => exact hwrap .strikethrough (by simp) fun _ => rfl
  | link href title => exact hwrap (.link href (title? title)) (by simp) fun _ => rfl
  | superscript | subscript | footnote | metadata style | definitions | term | definition =>
    exact hthrough (by simp) fun _ => rfl
  | code info | image src title | table columns | head | row | cell =>
    rcases ht with ht | ht <;> cases ht

/-! ## Code blocks and images -/

/-- A code block collects its texts and passes over all else up to its end. -/
theorem run_codeBlock {p : Pass String σ} (hes : ∀ t, .stop t ∉ es) (language : Option String)
    (body : String) (hc : p.capture = some (.code language body)) (rest : List Event) :
    p.run b breaks (es ++ rest) =
      { p with capture := some (.code language (body ++ String.join (es.map Event.body))) }.run
        b breaks rest := by
  obtain ⟨state, document, frames, capture, table, heading⟩ := p
  obtain rfl : capture = _ := hc
  induction es generalizing body with
  | nil => simp
  | cons e es ih =>
    have hstep : (⟨state, document, frames, some (.code language body), table, heading⟩ :
          Pass String σ).step b breaks e =
        .ok ⟨state, document, frames, some (.code language (body ++ e.body)), table, heading⟩ := by
      cases e with
      | stop t => exact absurd (List.mem_cons_self ..) (hes t)
      | _ => simp [step, codeBlock, Event.body]
    rw [List.cons_append, run_cons hstep, ih fun t ht => hes t (List.mem_cons_of_mem _ ht)]
    simp [String.append_assoc]

theorem exists_answers_code (info : Option String) (hes : ∀ t, .stop t ∉ es) (s : σ) (block : Bool) :
    ∃ x f, Answers b breaks s block (.start (.code info) :: es ++ [.stop .code]) x f := by
  refine ⟨b (.code ("" ++ String.join (es.map Event.body)) (language? info)) s, id, ?_⟩
  rintro ⟨state, document, frames, capture, table, heading⟩ hc rfl - rest
  obtain rfl : capture = none := hc
  rw [List.cons_append, List.cons_append, run_cons (q := Pass.start _ (.code info)) rfl,
    List.append_assoc, run_codeBlock hes (language? info) "" rfl]
  exact run_cons rfl rest

theorem exists_answers_image (src title : String) (hes : Grammar.Images es) (s : σ) (block : Bool) :
    ∃ x f, Answers b breaks s block (.start (.image src title) :: es ++ [.stop .image]) x f := by
  refine ⟨b (.image src (title? title) ("" ++ String.join (es.map Event.alt))) s, id, ?_⟩
  rintro ⟨state, document, frames, capture, table, heading⟩ hc rfl - rest
  obtain rfl : capture = none := hc
  rw [List.cons_append, List.cons_append, run_cons (q := Pass.start _ (.image src title)) rfl,
    List.append_assoc, run_images hes 0 src (title? title) "" rfl]
  exact run_cons rfl rest

/-! ## Contents -/

/-- **A content without tables is answered alike wherever it stands.** What it is answered with depends
on the state of the builder, and on whether it stands in an html block. -/
theorem exists_answers (h : Grammar.Untabled es) (s : σ) (block : Bool) :
    ∃ x f, Answers b breaks s block es x f := by
  induction h generalizing s block with
  | nil => exact ⟨_, _, .nil⟩
  | leaf he _ ih =>
    obtain ⟨x, f, hx⟩ : ∃ x f, Answers b breaks s block [_] x f := exists_answers_leaf he s block
    obtain ⟨y, g, hy⟩ := ih x.2 block
    exact ⟨_, _, hx.append hy⟩
  | @construct t inner es ht _ _ ihinner ih =>
    obtain ⟨x, f, hx⟩ : ∃ x f, Answers b breaks s block _ x f := exists_answers_construct ht (ihinner s _)
    obtain ⟨y, g, hy⟩ := ih x.2 block
    have hboth := hx.append hy
    rw [List.append_assoc, List.singleton_append] at hboth
    exact ⟨_, _, hboth⟩
  | @code info inner es hinner _ ih =>
    obtain ⟨x, f, hx⟩ : ∃ x f, Answers b breaks s block _ x f := exists_answers_code info hinner s block
    obtain ⟨y, g, hy⟩ := ih x.2 block
    have hboth := hx.append hy
    rw [List.append_assoc, List.singleton_append] at hboth
    exact ⟨_, _, hboth⟩
  | @image src title inner es hinner _ ih =>
    obtain ⟨x, f, hx⟩ : ∃ x f, Answers b breaks s block _ x f :=
      exists_answers_image src title hinner s block
    obtain ⟨y, g, hy⟩ := ih x.2 block
    have hboth := hx.append hy
    rw [List.append_assoc, List.singleton_append] at hboth
    exact ⟨_, _, hboth⟩

/-- The answer to a content is what it compiles to as a document of its own. -/
theorem build_of_answers (h : Answers b breaks s false es x f) : build b breaks s es = (.ok x.1, x.2) := by
  have hrun := h (.initial s) rfl rfl rfl []
  rw [List.append_nil, run] at hrun
  rw [build, hrun]
  simp [finish, depth, settle, initial, push, Content.empty, Content.append]

end Compile.Pass

end Marktree
