import Marktree.Proofs.Compile.Content
import Marktree.Proofs.Compile.Turn

/-!
# Outlines of documents

A whole document closes every construct that it opens, so it leaves those open that were open before it
(`outline_document`). What other events leave open is told by the tags of `Grammar.Frames`, in all that
an outline has of them (`outline_frames`).
-/
namespace Marktree.Compile.Pass

variable {σ : Type} {b : Builder String σ} {breaks : Bool} {p q : Pass String σ} {es fs : List Event}

/-! ## Parts of a run -/

/-- A run comes by a pass between any two parts of its events. -/
theorem exists_of_run_append (h : p.run b breaks (es ++ fs) = (q, none)) :
    ∃ r, p.run b breaks es = (r, none) ∧ r.run b breaks fs = (q, none) := by
  induction es generalizing p with
  | nil => exact ⟨p, rfl, h⟩
  | cons e es ih =>
    rw [List.cons_append, run] at h
    cases hstep : p.step b breaks e with
    | error err =>
      rw [hstep] at h
      cases h
    | ok r =>
      rw [hstep] at h
      obtain ⟨r', hr', hrest⟩ := ih h
      exact ⟨r', (run_cons hstep es).trans hr', hrest⟩

theorem exists_of_run_cons {e : Event} (h : p.run b breaks (e :: es) = (q, none)) :
    ∃ r, p.step b breaks e = .ok r ∧ r.run b breaks es = (q, none) := by
  rw [run] at h
  cases hstep : p.step b breaks e with
  | error err =>
    rw [hstep] at h
    cases h
  | ok r =>
    rw [hstep] at h
    exact ⟨r, rfl, h⟩

/-! ## Documents -/

theorem outline_settle (p : Pass String σ) (x : String × σ) (f : Option String → Option String) :
    (p.settle x f).outline = p.outline :=
  (refilled_push _ _).outline

theorem capture_start (hc : p.capture = none) {t : Tag} (ht : t.isFrame) : (p.start t).capture = none := by
  cases t <;> first | exact hc | cases ht

theorem outline_start {t : Tag} (ht : t.isFrame) : ∃ x, (p.start t).outline = x :: p.outline := by
  cases t <;> first | exact ⟨_, rfl⟩ | cases ht

theorem outline_stop {t : EndTag} (hc : p.capture = none) (h : p.step b breaks (.stop t) = .ok q) :
    q.outline = p.outline.tail ∧ q.capture = none := by
  cases turn_of_step h with
  | @stop x fs _ hf =>
    have halike := alike_close b { p with frames := fs } x
    have htail : p.outline.tail = fs.map (Frame.map fun _ => ()) := by
      rw [outline, hf]
      rfl
    exact ⟨halike.outline.trans htail.symm, halike.capture.trans hc⟩
  | leaf s _ he => cases he
  | collect hc' => simp [hc] at hc'
  | finish hc' => simp [hc] at hc'

/-- **A document leaves the constructs open that were open before it.** -/
theorem outline_document (h : Grammar.Document es) (hc : p.capture = none)
    (hq : p.run b breaks es = (q, none)) : q.outline = p.outline ∧ q.capture = none := by
  -- what is answered alike wherever it stands goes by at once
  have pass {es fs : List Event} {p q : Pass String σ} (hc : p.capture = none)
      (hes : ∃ x f, Answers b breaks p.state p.inHtml es x f) (hq : p.run b breaks (es ++ fs) = (q, none)) :
      ∃ r : Pass String σ, r.outline = p.outline ∧ r.capture = none ∧ r.run b breaks fs = (q, none) := by
    obtain ⟨x, f, hx⟩ := hes
    exact ⟨p.settle x f, outline_settle p x f, (capture_settle p).trans hc,
      (hx p hc rfl rfl fs).symm.trans hq⟩
  induction h generalizing p q with
  | nil =>
    cases hq
    exact ⟨rfl, hc⟩
  | leaf he _ ih =>
    obtain ⟨r, hr, hcr, hrest⟩ := pass hc (exists_answers_leaf he _ _) hq
    exact hr ▸ ih hcr hrest
  | @construct t inner es ht _ _ ihinner ih =>
    rw [List.cons_append, run_cons (step_start hc t)] at hq
    obtain ⟨r, hinner, hrest⟩ := exists_of_run_append hq
    obtain ⟨r', hstop, hrest⟩ := exists_of_run_cons hrest
    obtain ⟨x, hstart⟩ := outline_start (p := p) ht
    obtain ⟨hout, hcr⟩ := ihinner (capture_start hc ht) hinner
    obtain ⟨hout', hcr'⟩ := outline_stop hcr hstop
    rw [hout, hstart, List.tail_cons] at hout'
    exact hout' ▸ ih hcr' hrest
  | @code info inner es hinner _ ih =>
    rw [List.append_cons] at hq
    obtain ⟨r, hr, hcr, hrest⟩ := pass hc (exists_answers_code info hinner _ _) hq
    exact hr ▸ ih hcr hrest
  | @image src title inner es hinner _ ih =>
    rw [List.append_cons] at hq
    obtain ⟨r, hr, hcr, hrest⟩ := pass hc (exists_answers_image src title hinner _ _) hq
    exact hr ▸ ih hcr hrest

/-- **The open constructs are those of the tags.** This goes for all that is the same in the frame of a
construct, without its content, and in its tag. -/
theorem outline_frames {β : Type} {ofFrame : Frame Unit → β} {ofTag : Tag → β}
    (hsame : ∀ (p : Pass String σ) (t : Tag), t.isFrame →
      (p.start t).outline.map ofFrame = ofTag t :: p.outline.map ofFrame)
    {s : σ} {ts : List Tag} (h : Grammar.Frames es ts) (hp : run b breaks (.initial s) es = (p, none)) :
    p.outline.map ofFrame = ts.map ofTag ∧ p.capture = none := by
  induction h generalizing p with
  | document hes =>
    obtain ⟨hout, hc⟩ := outline_document hes rfl hp
    rw [hout]
    exact ⟨rfl, hc⟩
  | @construct es inner t ts _ ht hinner ih =>
    obtain ⟨r, hr, hrest⟩ := exists_of_run_append hp
    obtain ⟨hout, hc⟩ := ih hr
    rw [run_cons (step_start hc t)] at hrest
    obtain ⟨hout', hc'⟩ := outline_document hinner (capture_start hc ht) hrest
    rw [hout', hsame r t ht, hout]
    exact ⟨rfl, hc'⟩

end Marktree.Compile.Pass
