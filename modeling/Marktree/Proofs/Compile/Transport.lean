import Marktree.Compile.Pass

/-!
# Translating compilations

A map between contents that goes along with two builders goes along with whole compilations
(`build_map`). The pair of two builders runs both at once, and each of the two compilations is a
projection of the paired one (`build_pair`); so what relates two compilations is a property of the
contents and states of a single one.
-/
namespace Marktree

variable {α β σ τ : Type}

def Construct.map (f : α → β) : Construct α → Construct β
  | .code body language => .code body language
  | .html raw => .html (f raw)
  | .rule => .rule
  | .checkbox checked => .checkbox checked
  | .codeSpan s => .codeSpan s
  | .lineBreak => .lineBreak
  | .image src title alt => .image src title alt
  | .text s => .text s
  | .wrap w x => .wrap w (f x)
  | .table header body => .table (f header) (f body)

namespace Compile

def Role.map (f : α → β) : Role α → Role β
  | .wrap w => .wrap w
  | .heading l => .heading l
  | .html => .html
  | .table header => .table (f header)
  | .head => .head
  | .cell header align => .cell header align
  | .through => .through

def Frame.map (f : α → β) (x : Frame α) : Frame β :=
  ⟨x.role.map f, x.closing, f x.content⟩

def Pass.map (f : α → β) (g : σ → τ) (p : Pass α σ) : Pass β τ :=
  { p with state := g p.state, document := f p.document, frames := p.frames.map (Frame.map f) }

/-- Contents and states are translated together with every answer. -/
structure Translates [Content α] [Content β] (f : α → β) (g : σ → τ) (b : Builder α σ)
    (d : Builder β τ) : Prop where
  empty : f Content.empty = Content.empty
  append : ∀ x y, f (Content.append x y) = Content.append (f x) (f y)
  verbatim : ∀ s, f (Content.verbatim s) = Content.verbatim s
  answer : ∀ c s, d (c.map f) (g s) = (f (b c s).1, g (b c s).2)

namespace Pass

variable {f : α → β} {g : σ → τ} {b : Builder α σ} {d : Builder β τ}

theorem setHeader_map (p : Pass α σ) (row : α) :
    (p.map f g).setHeader (f row) = (p.setHeader row).map f g := by
  obtain ⟨state, document, frames, capture, table, heading⟩ := p
  match frames with
  | [] => rfl
  | ⟨role, closing, content⟩ :: fs => cases role <;> rfl

section
variable [Content α] [Content β] (h : Translates f g b d)
include h

theorem push_map (p : Pass α σ) (x : α) : (p.map f g).push (f x) = (p.push x).map f g := by
  obtain ⟨state, document, frames, capture, table, heading⟩ := p
  cases frames with
  | nil => simp [push, Pass.map, h.append]
  | cons a fs => simp [push, Pass.map, Frame.map, h.append]

theorem answer_map (p : Pass α σ) (c : Construct α) :
    (p.map f g).answer d (c.map f) = (p.answer b c).map f g := by
  have := push_map h { p with state := (b c p.state).2 } (b c p.state).1
  simpa [answer, Pass.map, h.answer] using this

theorem enter_map (p : Pass α σ) (role : Role α) (closing : EndTag) :
    (p.map f g).enter (role.map f) closing = (p.enter role closing).map f g := by
  simp [enter, Pass.map, Frame.map, h.empty]

theorem start_map (p : Pass α σ) (t : Tag) : (p.map f g).start t = (p.start t).map f g := by
  cases t <;>
    first
    | exact enter_map h _ _ _
    | rfl
    | simp [start, enter, Pass.map, Frame.map, Role.map, h.empty]

theorem htmlLine_map (p : Pass α σ) (s : String) :
    (p.map f g).htmlLine d s = (p.htmlLine b s).map f g := by
  have hanswer : (p.map f g).answer d (.html (Content.verbatim s)) =
      (p.answer b (.html (Content.verbatim s))).map f g := by
    simpa [Construct.map, h.verbatim] using answer_map h p (.html (Content.verbatim s))
  have hpush := push_map h p (Content.verbatim s)
  rw [h.verbatim] at hpush
  obtain ⟨state, document, frames, capture, table, heading⟩ := p
  match frames with
  | [] => exact hanswer
  | ⟨role, closing, content⟩ :: fs =>
    cases role with
    | html => exact hpush
    | _ => exact hanswer

theorem close_map (p : Pass α σ) (x : Frame α) :
    (p.map f g).close d (x.map f) = (p.close b x).map f g := by
  obtain ⟨role, closing, content⟩ := x
  cases role with
  | wrap w => exact answer_map h p (.wrap w content)
  | heading l => exact answer_map h { p with heading := none } (.wrap _ content)
  | html => exact answer_map h p (.html content)
  | table header => exact answer_map h p (.table header content)
  | head =>
    have ha := h.answer (.wrap .row content) p.state
    have := setHeader_map (f := f) (g := g)
      { p with
        state := (b (.wrap .row content) p.state).2
        table := { p.table with inHead := false } } (b (.wrap .row content) p.state).1
    simp only [Construct.map] at ha
    simpa [close, Frame.map, Role.map, Pass.map, ha] using this
  | cell header align =>
    exact answer_map h { p with table := { p.table with column := p.table.column + 1 } }
      (.wrap (.cell header align) content)
  | through => exact push_map h p content

theorem stop_map (p : Pass α σ) (t : EndTag) :
    (p.map f g).stop d t = (p.stop b t).map (Pass.map f g) := by
  obtain ⟨state, document, frames, capture, table, heading⟩ := p
  match frames with
  | [] => rfl
  | x :: fs =>
    by_cases hx : x.closing = t
    · have := close_map h ⟨state, document, fs, capture, table, heading⟩ x
      simp only [Pass.map] at this
      simp [stop, Pass.map, hx, Except.map, ← this, Frame.map]
    · simp [stop, Pass.map, hx, Except.map, Frame.map]

theorem softBreak_map (breaks : Bool) (p : Pass α σ) :
    (p.map f g).softBreak d breaks = (p.softBreak b breaks).map f g := by
  cases breaks with
  | true => exact answer_map h (p.note " ") .lineBreak
  | false =>
    have := push_map h (p.note " ") (Content.verbatim "\n")
    rw [h.verbatim] at this
    exact this

theorem flow_map (breaks : Bool) (p : Pass α σ) (e : Event) :
    (p.map f g).flow d breaks e = (p.flow b breaks e).map (Pass.map f g) := by
  cases e with
  | start t => exact congrArg Except.ok (start_map h p t)
  | stop t => exact stop_map h p t
  | text s => exact congrArg Except.ok (answer_map h (p.note s) (.text s))
  | code s => exact congrArg Except.ok (answer_map h (p.note s) (.codeSpan s))
  | inlineMath s => exact congrArg Except.ok (answer_map h (p.note s) (.text s))
  | displayMath s => exact congrArg Except.ok (answer_map h (p.note s) (.text s))
  | html s => exact congrArg Except.ok (htmlLine_map h p s)
  | inlineHtml s =>
    have := answer_map h p (.html (Content.verbatim s))
    rw [Construct.map, h.verbatim] at this
    exact congrArg Except.ok this
  | softBreak => exact congrArg Except.ok (softBreak_map h breaks p)
  | hardBreak => exact congrArg Except.ok (answer_map h p .lineBreak)
  | rule => exact congrArg Except.ok (answer_map h p .rule)
  | task checked => exact congrArg Except.ok (answer_map h p (.checkbox checked))
  | footnoteReference _ => rfl

theorem codeBlock_map (p : Pass α σ) (language : Option String) (body : String) (e : Event) :
    (p.map f g).codeBlock d language body e = (p.codeBlock b language body e).map (Pass.map f g) := by
  cases e with
  | stop t =>
    cases t with
    | code => exact congrArg Except.ok (answer_map h { p with capture := none } (.code body language))
    | _ => rfl
  | _ => rfl

theorem imageAlt_map (p : Pass α σ) (inner : Nat) (src : String) (title : Option String)
    (alt : String) (e : Event) :
    (p.map f g).imageAlt d inner src title alt e = (p.imageAlt b inner src title alt e).map f g := by
  cases e with
  | start t => cases t <;> rfl
  | stop t =>
    cases t with
    | image =>
      cases inner with
      | zero => exact answer_map h { p with capture := none } (.image src title alt)
      | succ n => rfl
    | _ => rfl
  | _ => rfl

theorem step_map (breaks : Bool) (p : Pass α σ) (e : Event) :
    (p.map f g).step d breaks e = (p.step b breaks e).map (Pass.map f g) := by
  unfold step
  have hcapture : (p.map f g).capture = p.capture := rfl
  rw [hcapture]
  split
  · exact flow_map h breaks p e
  · exact codeBlock_map h p _ _ e
  · exact congrArg Except.ok (imageAlt_map h p _ _ _ _ e)

theorem run_map (breaks : Bool) (p : Pass α σ) (es : List Event) :
    (p.map f g).run d breaks es = ((p.run b breaks es).1.map f g, (p.run b breaks es).2) := by
  induction es generalizing p with
  | nil => rfl
  | cons e es ih =>
    have hs := step_map h breaks p e
    unfold run
    rw [hs]
    cases p.step b breaks e with
    | ok q => exact ih q
    | error err => rfl

end

end Pass

end Compile

open Compile

variable [Content α] [Content β]

/-- **A translation of builders translates what they build.** -/
theorem build_map {f : α → β} {g : σ → τ} {b : Builder α σ} {d : Builder β τ}
    (h : Translates f g b d) (breaks : Bool) (s : σ) (es : List Event) :
    build d breaks (g s) es = ((build b breaks s es).1.map f, g (build b breaks s es).2) := by
  have hinit : (Pass.initial (g s) : Pass β τ) = (Pass.initial s : Pass α σ).map f g := by
    simp [Pass.initial, Pass.map, h.empty]
  unfold build
  rw [hinit, Pass.run_map h]
  generalize Pass.run b breaks (.initial s) es = r
  obtain ⟨p, err⟩ := r
  cases err with
  | some err => rfl
  | none =>
    have hd : (p.map f g).depth = p.depth := by
      unfold Pass.depth
      rw [show (p.map f g).frames = p.frames.map (Frame.map f) from rfl, List.length_map]
      rfl
    simp only [Pass.finish, hd]
    split <;> rfl

/-! ## Pairs -/

instance : Content (α × β) where
  empty := (Content.empty, Content.empty)
  append x y := (Content.append x.1 y.1, Content.append x.2 y.2)
  verbatim s := (Content.verbatim s, Content.verbatim s)

/-- Two builders side by side. -/
def Builder.pair (b : Builder α σ) (d : Builder β τ) : Builder (α × β) (σ × τ) := fun c s =>
  let (x, s₁) := b (c.map Prod.fst) s.1
  let (y, s₂) := d (c.map Prod.snd) s.2
  ((x, y), (s₁, s₂))

theorem translates_fst (b : Builder α σ) (d : Builder β τ) :
    Translates Prod.fst Prod.fst (b.pair d) b :=
  ⟨rfl, fun _ _ => rfl, fun _ => rfl, fun _ _ => rfl⟩

theorem translates_snd (b : Builder α σ) (d : Builder β τ) :
    Translates Prod.snd Prod.snd (b.pair d) d :=
  ⟨rfl, fun _ _ => rfl, fun _ => rfl, fun _ _ => rfl⟩

/-- **Whether events are accepted does not depend on the builder**, and what two builders make of
them is what the pair of them makes. -/
theorem build_pair {b : Builder α σ} {breaks : Bool} {s s' : σ} {es : List Event} {x : α}
    (h : build b breaks s es = (.ok x, s')) (d : Builder β τ) (t : τ) :
    ∃ y t', build d breaks t es = (.ok y, t') ∧
      build (b.pair d) breaks (s, t) es = (.ok (x, y), (s', t')) := by
  have h1 := build_map (translates_fst b d) breaks (s, t) es
  have h2 := build_map (translates_snd b d) breaks (s, t) es
  rw [h] at h1
  generalize build (b.pair d) breaks (s, t) es = r at h1 h2
  obtain ⟨r, s'', t''⟩ := r
  cases r with
  | error err => simp [Except.map] at h1
  | ok xy =>
    simp only [Except.map, Prod.mk.injEq, Except.ok.injEq] at h1 h2
    obtain ⟨rfl, rfl⟩ := h1
    exact ⟨xy.2, t'', h2, rfl⟩

/-- What one builder fails on, every builder fails on in the same way. -/
theorem build_error {b : Builder α σ} {breaks : Bool} {s : σ} {es : List Event} {err : CompileError}
    (h : (build b breaks s es).1 = .error err) (d : Builder β τ) (t : τ) :
    (build d breaks t es).1 = .error err := by
  have h1 := build_map (translates_fst b d) breaks (s, t) es
  have h2 := build_map (translates_snd b d) breaks (s, t) es
  rw [h1] at h
  rw [h2]
  generalize build (b.pair d) breaks (s, t) es = r at h
  obtain ⟨r, s'⟩ := r
  cases r with
  | error err' =>
    cases h
    rfl
  | ok xy => cases h

end Marktree
