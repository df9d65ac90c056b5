import Marktree.Proofs.Compile.Run
import Marktree.Proofs.Text.Lines

/-!
# Languages of code blocks

The language of a code block is the first word of its info string. So whatever the events are, a builder
meets no language with blanks in it (`build_state_worded`).
-/
namespace Marktree

/-- A construct whose language, if it is a code block with one, is without blanks. -/
def Construct.Worded {α : Type} : Construct α → Prop
  | .code _ (some language) => Text.Unbroken language
  | _ => True

namespace Compile

theorem unbroken_of_language? {info : Option String} {language : String}
    (h : language? info = some language) : Text.Unbroken language := by
  obtain ⟨s, -, hs⟩ := Option.bind_eq_some_iff.1 h
  obtain ⟨w, hw, rfl⟩ := Option.map_eq_some_iff.1 hs
  exact Text.unbroken_of_mem_words (List.mem_of_mem_head? hw)

namespace Pass

variable {α σ : Type} [Content α] {S : σ → Prop} {b : Builder α σ} {breaks : Bool} {p q : Pass α σ}

/-- The state is in `S`, and the open code block, if there is one, has a language without blanks. -/
structure Keeps (S : σ → Prop) (p : Pass α σ) : Prop where
  state : S p.state
  language : ∀ language body, p.capture = some (.code (some language) body) → Text.Unbroken language

omit [Content α] in
theorem Keeps.refilled (hp : p.Keeps S) (hq : p.Refilled q) : q.Keeps S :=
  ⟨by rw [hq.state]; exact hp.state, by rw [hq.capture]; exact hp.language⟩

theorem keeps_start (hp : p.Keeps S) (t : Tag) : (p.start t).Keeps S := by
  cases t with
  | code info =>
    refine ⟨hp.state, fun language body h => ?_⟩
    have hlanguage : language? info = some language := (Capture.code.inj (Option.some.inj h)).1
    exact unbroken_of_language? hlanguage
  | image src title => exact ⟨hp.state, fun _ _ h => by cases h⟩
  | _ => exact ⟨hp.state, hp.language⟩

section

variable (hanswer : ∀ c s, c.Worded → S s → S (b c s).2)

include hanswer

theorem keeps_answer (hp : p.Keeps S) {c : Construct α} (hc : c.Worded) : (p.answer b c).Keeps S :=
  Keeps.refilled (p := { p with state := (b c p.state).2 }) ⟨hanswer c p.state hc hp.state, hp.language⟩
    (refilled_push _ _)

theorem keeps_close (hp : p.Keeps S) (x : Frame α) : (p.close b x).Keeps S := by
  obtain ⟨role, closing, content⟩ := x
  cases role with
  | heading l => exact keeps_answer (p := { p with heading := none }) hanswer ⟨hp.state, hp.language⟩ trivial
  | head =>
    exact Keeps.refilled (p := { p with
      state := (b (.wrap .row content) p.state).2
      table := { p.table with inHead := false } })
      ⟨hanswer (.wrap .row content) p.state trivial hp.state, hp.language⟩ (refilled_setHeader _ _)
  | cell header align =>
    exact keeps_answer (p := { p with table := { p.table with column := p.table.column + 1 } }) hanswer
      ⟨hp.state, hp.language⟩ trivial
  | through => exact hp.refilled (refilled_push _ _)
  | _ => exact keeps_answer hanswer hp trivial

theorem keeps_flow (hp : p.Keeps S) {e : Event} (h : p.flow b breaks e = .ok q) : q.Keeps S := by
  have hnote (s : String) : (p.note s).Keeps S := ⟨hp.state, hp.language⟩
  cases e with
  | start t => cases h; exact keeps_start hp t
  | stop t =>
    obtain ⟨state, document, frames, capture, table, heading⟩ := p
    match frames with
    | [] => cases h
    | x :: fs =>
      simp only [flow, stop] at h
      split at h
      · cases h
        exact keeps_close (p := ⟨state, document, fs, capture, table, heading⟩) hanswer
          ⟨hp.state, hp.language⟩ x
      · cases h
  | text s | inlineMath s | displayMath s | code s => cases h; exact keeps_answer hanswer (hnote s) trivial
  | html s =>
    cases h
    unfold htmlLine
    split
    · exact hp.refilled (refilled_push _ _)
    · exact keeps_answer hanswer hp trivial
  | softBreak =>
    cases h
    cases breaks with
    | true => exact keeps_answer hanswer (hnote " ") trivial
    | false => exact (hnote " ").refilled (refilled_push _ _)
  | footnoteReference label => cases h; exact hp
  | _ => cases h; exact keeps_answer hanswer hp trivial

theorem keeps_codeBlock (hp : p.Keeps S) {language : Option String} {body : String}
    (hc : p.capture = some (.code language body)) {e : Event} (h : p.codeBlock b language body e = .ok q) :
    q.Keeps S := by
  have hlanguage : ∀ l, language = some l → Text.Unbroken l := by
    rintro l rfl
    exact hp.language l body hc
  cases e with
  | stop t =>
    cases t with
    | code =>
      cases h
      refine keeps_answer (p := { p with capture := none }) hanswer ⟨hp.state, fun _ _ h => by cases h⟩ ?_
      cases language with
      | none => trivial
      | some l => exact hlanguage l rfl
    | _ => cases h
  | text s =>
    cases h
    exact ⟨hp.state, fun l _ h => hlanguage l (Capture.code.inj (Option.some.inj h)).1⟩
  | _ => cases h; exact hp

theorem keeps_imageAlt (hp : p.Keeps S) (inner : Nat) (src : String) (title : Option String) (alt : String)
    (e : Event) : (p.imageAlt b inner src title alt e).Keeps S := by
  have hcollect (n : Nat) (alt : String) :
      ({ p with capture := some (.image n src title alt) } : Pass α σ).Keeps S :=
    ⟨hp.state, fun _ _ h => by cases h⟩
  cases e with
  | start t =>
    cases t with
    | image src' title' => exact hcollect _ _
    | _ => exact hp
  | stop t =>
    cases t with
    | image =>
      cases inner with
      | zero =>
        exact keeps_answer (p := { p with capture := none }) hanswer ⟨hp.state, fun _ _ h => by cases h⟩
          (c := .image src title alt) trivial
      | succ n => exact hcollect _ _
    | _ => exact hp
  | text s | code s => exact hcollect _ _
  | softBreak | hardBreak => exact hcollect _ _
  | _ => exact hp

theorem keeps_step (hp : p.Keeps S) {e : Event} (h : p.step b breaks e = .ok q) : q.Keeps S := by
  unfold step at h
  split at h
  · exact keeps_flow hanswer hp h
  · exact keeps_codeBlock hanswer hp ‹_› h
  · cases h
    exact keeps_imageAlt hanswer hp _ _ _ _ e

end

end Pass

end Compile

open Compile

variable {α σ : Type} [Content α] {b : Builder α σ} {breaks : Bool} {s s' : σ} {es : List Event} {x : α}

/-- **What answers keep of the state is kept to the end**, if they do for languages without blanks. -/
theorem build_state_worded {S : σ → Prop} (hanswer : ∀ c s, c.Worded → S s → S (b c s).2) (hs : S s)
    (h : build b breaks s es = (.ok x, s')) : S s' := by
  obtain ⟨p, hr, -, -, rfl⟩ := build_ok h
  have hstart : (Pass.initial s : Pass α σ).Keeps S := ⟨hs, fun _ _ h => by cases h⟩
  exact (Pass.run_induction (I := fun p _ => p.Keeps S) (fun hp hq => Pass.keeps_step hanswer hp hq)
    hstart hr).state

end Marktree
