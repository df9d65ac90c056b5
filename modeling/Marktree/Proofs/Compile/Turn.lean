import Marktree.Proofs.Compile.Grammar
import Marktree.Proofs.Compile.Run

/-!
# Turns of a pass

What an event that is accepted does to a pass, contents and the state of the builder apart
(`Turn`, `turn_of_step`): it opens a construct or closes the innermost one, it stands by itself, or it
belongs to a code block or an image. What every turn keeps is kept by a run, such as that the plain
text of a heading is collected only while a heading is open (`titled_run`).
-/
namespace Marktree.Compile

namespace Pass

variable {α σ : Type} [Content α] {b : Builder α σ} {breaks : Bool} {p q : Pass α σ}

/-- What an event that is accepted does, contents and the state of the builder apart. -/
inductive Turn (b : Builder α σ) (p : Pass α σ) : Event → Pass α σ → Prop
  | start (t : Tag) (hc : p.capture = none) : Turn b p (.start t) (p.start t)
  | stop {x : Frame α} {fs : List (Frame α)} (hc : p.capture = none) (hf : p.frames = x :: fs) :
    Turn b p (.stop x.closing) ({ p with frames := fs }.close b x)
  /-- An event that stands by itself may add to the plain text of a heading. -/
  | leaf {e : Event} {q : Pass α σ} (s : String) (hc : p.capture = none) (he : e.isLeaf)
    (hq : (p.note s).Alike q) : Turn b p e q
  | collect {e : Event} {c : Capture} (hc : p.capture = some c) (next : Capture) :
    Turn b p e { p with capture := some next }
  | finish {e : Event} {c : Capture} {q : Pass α σ} (hc : p.capture = some c)
    (hq : { p with capture := none }.Alike q) : Turn b p e q

theorem turn_of_flow (hc : p.capture = none) {e : Event} (h : p.flow b breaks e = .ok q) :
    Turn b p e q := by
  have hplain {e : Event} {q : Pass α σ} (he : e.isLeaf) (hq : p.Alike q) : Turn b p e q :=
    .leaf "" hc he ⟨hq.outline, hq.capture, hq.table, by simp [note, hq.heading]⟩
  cases e with
  | start t => cases h; exact .start t hc
  | stop t =>
    obtain ⟨state, document, frames, capture, table, heading⟩ := p
    cases frames with
    | nil => cases h
    | cons x fs =>
      simp only [flow, stop] at h
      split at h
      · rename_i hx
        cases h
        subst hx
        exact .stop hc rfl
      · cases h
  | html s => cases h; exact hplain rfl (alike_htmlLine _ _ _)
  | softBreak =>
    cases h
    cases breaks with
    | true => exact .leaf " " hc rfl (alike_answer _ _ _)
    | false => exact .leaf " " hc rfl (refilled_push _ _).toAlike
  | footnoteReference label => cases h; exact hplain rfl ⟨rfl, rfl, rfl, rfl⟩
  | text s | inlineMath s | displayMath s | code s => cases h; exact .leaf s hc rfl (alike_answer _ _ _)
  | _ => cases h; exact hplain rfl (alike_answer _ _ _)

theorem turn_of_codeBlock {language : Option String} {body : String}
    (hc : p.capture = some (.code language body)) {e : Event}
    (h : p.codeBlock b language body e = .ok q) : Turn b p e q := by
  have hsame : Turn b p e { p with capture := some (.code language body) } := .collect hc _
  rw [← hc] at hsame
  cases e with
  | stop t =>
    cases t with
    | code => cases h; exact .finish hc (alike_answer _ _ _)
    | _ => cases h
  | text s => cases h; exact .collect hc _
  | _ => cases h; exact hsame

theorem turn_imageAlt {inner : Nat} {src : String} {title : Option String} {alt : String}
    (hc : p.capture = some (.image inner src title alt)) (e : Event) :
    Turn b p e (p.imageAlt b inner src title alt e) := by
  have hsame : Turn b p e { p with capture := some (.image inner src title alt) } := .collect hc _
  rw [← hc] at hsame
  cases e with
  | start t =>
    cases t with
    | image src' title' => exact .collect hc _
    | _ => exact hsame
  | stop t =>
    cases t with
    | image =>
      cases inner with
      | zero => exact .finish hc (alike_answer _ _ _)
      | succ n => exact .collect hc _
    | _ => exact hsame
  | text s | code s => exact .collect hc _
  | softBreak | hardBreak => exact .collect hc _
  | _ => exact hsame

theorem turn_of_step {e : Event} (h : p.step b breaks e = .ok q) : Turn b p e q := by
  unfold step at h
  split at h
  · exact turn_of_flow ‹_› h
  · exact turn_of_codeBlock ‹_› h
  · cases h
    exact turn_imageAlt ‹_› e

/-! ## Headings -/

omit [Content α] in
theorem isHeading_map {β : Type} (f : α → β) (x : Frame α) :
    (x.map f).role.isHeading = x.role.isHeading := by
  obtain ⟨role, closing, content⟩ := x
  cases role <;> rfl

/-- The plain text of a heading is collected only while a heading is open. -/
def Titled (p : Pass α σ) : Prop :=
  p.heading.isSome → ∃ x ∈ p.outline, x.role.isHeading

omit [Content α] in
theorem Titled.alike (h : p.Titled) (ha : p.Alike q) : q.Titled := by
  rw [Titled, ha.heading, ha.outline]
  exact h

omit [Content α] in
theorem Titled.note (h : p.Titled) (s : String) : (p.note s).Titled := by
  intro hs
  exact h (by simpa [Pass.note] using hs)

theorem titled_start (h : p.Titled) (t : Tag) : (p.start t).Titled := by
  have hin (role : Role α) (closing : EndTag) (table : TablePlace) :
      ({ p with table }.enter role closing).Titled := fun hs => by
    obtain ⟨x, hx, hheading⟩ := h hs
    exact ⟨x, List.mem_cons_of_mem _ hx, hheading⟩
  cases t with
  | heading l => exact fun _ => ⟨_, List.mem_cons_self .., rfl⟩
  | code info => exact h
  | image src title => exact h
  | _ => exact hin _ _ _

theorem titled_step (h : p.Titled) {e : Event} (hq : p.step b breaks e = .ok q) : q.Titled := by
  cases turn_of_step hq with
  | start t hc => exact titled_start h t
  | @stop x fs hc hf =>
    refine Titled.alike ?_ (alike_close b { p with frames := fs } x)
    cases hx : x.role.isHeading with
    | true => exact fun hs => by cases hs
    | false =>
      intro hs
      obtain ⟨y, hy, hheading⟩ := h hs
      rw [outline, hf] at hy
      rcases List.mem_cons.1 hy with rfl | hy
      · rw [isHeading_map, hx] at hheading
        cases hheading
      · exact ⟨y, hy, hheading⟩
  | leaf s hc he ha => exact (h.note s).alike ha
  | collect hc next => exact h
  | finish hc ha => exact Titled.alike (p := { p with capture := none }) h ha

theorem titled_run {es : List Event} (h : p.Titled) (hq : p.run b breaks es = (q, none)) : q.Titled :=
  run_induction (I := fun p _ => p.Titled) (fun hp hq => titled_step hp hq) h hq

end Pass
end Marktree.Compile
