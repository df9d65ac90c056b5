import Marktree.Proofs.Compile.Alike
import Marktree.Proofs.Compile.Law

/-!
# Laws along a run

Where the events of a run fall is told by the events alone (`Event.Place`), and a run goes through
the same places (`at_step`). A law that a builder keeps holds at the end of every run whose events
it allows (`build_holds`).
-/
namespace Marktree

namespace Event

/-- Where an event falls: among other constructs, in an html block, in a code block with the text so
far, or in an image with the number of images open inside it. -/
inductive Place
  | flow
  | block
  | code (body : String)
  | image (inner : Nat)
  deriving Repr, DecidableEq

def Place.next : Place → Event → Place
  | .code body, .text s => .code (body ++ s)
  | .code _, .stop .code => .flow
  | .code body, _ => .code body
  | .image n, .start (.image ..) => .image (n + 1)
  | .image 0, .stop .image => .flow
  | .image (n + 1), .stop .image => .image n
  | .image n, _ => .image n
  | _, .start (.code _) => .code ""
  | _, .start (.image ..) => .image 0
  | _, .start .html => .block
  | .block, .stop .html => .flow
  | place, _ => place

/-- Every event is as its place asks for. -/
def Along (A : Place → Event → Prop) : Place → List Event → Prop
  | _, [] => True
  | place, e :: es => A place e ∧ Along A (place.next e) es

theorem Along.imp {A B : Place → Event → Prop} (h : ∀ {place e}, A place e → B place e) :
    ∀ {place : Place} {es : List Event}, Along A place es → Along B place es
  | _, [], _ => trivial
  | _, _ :: _, hA => ⟨h hA.1, hA.2.imp h⟩

/-- In an html block stands raw html alone. -/
def Raw (place : Place) (e : Event) : Prop :=
  place = .block → (∃ s, e = .html s) ∨ e = .stop .html

end Event

open Event (Place Along)

namespace Compile

variable {α σ : Type} [Content α]

namespace Pass

omit [Content α] in
/-- Which of the open constructs are html blocks is told without their contents. -/
theorem Alike.blocks {p q : Pass α σ} (h : p.Alike q) : q.blocks = p.blocks := by
  have hmap (p : Pass α σ) : p.blocks = p.outline.map (·.role.isHtml) := by
    rw [Pass.blocks, Pass.outline, List.map_map]
    refine List.map_congr_left fun x _ => ?_
    obtain ⟨role, closing, content⟩ := x
    cases role <;> rfl
  rw [hmap, h.outline, ← hmap]

/-- An end that closes a frame takes it from the stack and leaves the captures alone. -/
theorem stop_ok {b : Builder α σ} {p q : Pass α σ} {t : EndTag} (h : p.stop b t = .ok q) :
    ∃ x fs, p.frames = x :: fs ∧ x.closing = t ∧ q.blocks = p.blocks.tail ∧ q.capture = p.capture := by
  obtain ⟨state, document, frames, capture, table, heading⟩ := p
  match frames with
  | [] => cases h
  | x :: fs =>
    simp only [stop] at h
    split at h
    · cases h
      have halike := alike_close b ⟨state, document, fs, capture, table, heading⟩ x
      exact ⟨x, fs, rfl, ‹_›, halike.blocks, halike.capture⟩
    · cases h

/-! ## Places -/

/-- A compilation has come to a place. No html block is open around another construct. -/
def At (p : Pass α σ) : Place → Prop
  | .flow => p.capture = none ∧ true ∉ p.blocks
  | .block => p.capture = none ∧ ∃ l, p.blocks = true :: l ∧ true ∉ l
  | .code body => (∃ language, p.capture = some (.code language body)) ∧ true ∉ p.blocks
  | .image inner =>
    (∃ src title alt, p.capture = some (.image inner src title alt)) ∧ true ∉ p.blocks

theorem at_start {p : Pass α σ} (h : p.At .flow) (t : Tag) :
    (p.start t).At (Place.next .flow (.start t)) := by
  obtain ⟨hc, hb⟩ := h
  have hin (role : Role α) (hr : role.isHtml = false) (table : TablePlace) (heading : Option String)
      (closing : EndTag) : ({ p with table, heading }.enter role closing).At .flow :=
    ⟨hc, by simpa [blocks, enter, hr] using hb⟩
  cases t with
  | html => exact ⟨hc, p.blocks, rfl, hb⟩
  | code info => exact ⟨⟨_, rfl⟩, hb⟩
  | image src title => exact ⟨⟨_, _, _, rfl⟩, hb⟩
  | _ => exact hin _ rfl _ _ _

omit [Content α] in
theorem At.alike {p q : Pass α σ} {place : Place} (h : p.At place) (hq : p.Alike q) : q.At place := by
  cases place <;> simpa [At, hq.blocks, hq.capture] using h

theorem at_flow {b : Builder α σ} {breaks : Bool} {p q : Pass α σ} {e : Event} (hp : p.At .flow)
    (h : p.flow b breaks e = .ok q) : q.At (Place.next .flow e) := by
  have hnote (s : String) : (p.note s).At .flow := hp
  have hanswer (c : Construct α) (s : String) : ((p.note s).answer b c).At .flow :=
    (hnote s).alike (alike_answer _ _ _)
  cases e with
  | start t => cases h; exact at_start hp t
  | stop t =>
    obtain ⟨x, fs, -, -, hb, hc⟩ := stop_ok h
    exact ⟨hc.trans hp.1, fun hm => hp.2 (List.mem_of_mem_tail (hb ▸ hm))⟩
  | html s => cases h; exact hp.alike (alike_htmlLine _ _ _)
  | softBreak =>
    cases h
    cases breaks with
    | true => exact hanswer _ _
    | false => exact (hnote " ").alike (refilled_push _ _).toAlike
  | footnoteReference label => cases h; exact hp
  | text s | inlineMath s | displayMath s | code s => cases h; exact hanswer _ _
  | _ => cases h; exact hp.alike (alike_answer _ _ _)

theorem at_codeBlock {b : Builder α σ} {p q : Pass α σ} {language : Option String} {body : String}
    {e : Event} (hc : p.capture = some (.code language body)) (hb : true ∉ p.blocks)
    (h : p.codeBlock b language body e = .ok q) : q.At (Place.next (.code body) e) := by
  have hclose : ({ p with capture := none }.answer b (.code body language)).At .flow :=
    At.alike (p := { p with capture := none }) ⟨rfl, hb⟩ (alike_answer _ _ _)
  cases e with
  | stop t =>
    cases t with
    | code => cases h; exact hclose
    | _ => cases h
  | text s => cases h; exact ⟨⟨_, rfl⟩, hb⟩
  | _ => cases h; exact ⟨⟨_, hc⟩, hb⟩

theorem at_imageAlt {b : Builder α σ} {p : Pass α σ} {inner : Nat} {src : String}
    {title : Option String} {alt : String} (hc : p.capture = some (.image inner src title alt))
    (hb : true ∉ p.blocks) (e : Event) :
    (p.imageAlt b inner src title alt e).At (Place.next (.image inner) e) := by
  have hclose : ({ p with capture := none }.answer b (.image src title alt)).At .flow :=
    At.alike (p := { p with capture := none }) ⟨rfl, hb⟩ (alike_answer _ _ _)
  have hcollect (n : Nat) (alt : String) :
      ({ p with capture := some (.image n src title alt) } : Pass α σ).At (.image n) :=
    ⟨⟨_, _, _, rfl⟩, hb⟩
  have hskip : p.At (.image inner) := ⟨⟨_, _, _, hc⟩, hb⟩
  cases e with
  | start t =>
    cases t with
    | image src' title' => exact hcollect _ _
    | _ => cases inner <;> exact hskip
  | stop t =>
    cases t with
    | image =>
      cases inner with
      | zero => exact hclose
      | succ n => exact hcollect _ _
    | _ => cases inner <;> exact hskip
  | text s | code s => cases inner <;> exact hcollect _ _
  | softBreak | hardBreak => cases inner <;> exact hcollect _ _
  | _ => cases inner <;> exact hskip

/-- **A run goes through the places that its events tell.** -/
theorem at_step {b : Builder α σ} {breaks : Bool} {p q : Pass α σ} {place : Place} {e : Event}
    (hp : p.At place) (he : Event.Raw place e) (h : p.step b breaks e = .ok q) :
    q.At (place.next e) := by
  cases place with
  | flow =>
    rw [step, hp.1] at h
    exact at_flow hp h
  | block =>
    rw [step, hp.1] at h
    rcases he rfl with ⟨s, rfl⟩ | rfl
    · cases h
      exact hp.alike (alike_htmlLine _ _ _)
    · obtain ⟨x, fs, -, -, hb, hc⟩ := stop_ok h
      obtain ⟨hcapture, l, hl, hn⟩ := hp
      exact ⟨hc.trans hcapture, by rw [hb, hl]; exact hn⟩
  | code body =>
    obtain ⟨⟨language, hc⟩, hb⟩ := hp
    rw [step, hc] at h
    exact at_codeBlock hc hb h
  | image inner =>
    obtain ⟨⟨src, title, alt, hc⟩, hb⟩ := hp
    rw [step, hc] at h
    cases h
    exact at_imageAlt hc hb e

omit [Content α] in
theorem quiet_of_at {p : Pass α σ} {place : Place} {e : Event} (hp : p.At place)
    (he : Event.Raw place e) : p.Quiet e := by
  have clear (h : true ∉ p.blocks) : p.Quiet e :=
    ⟨fun hm => h (List.mem_of_mem_tail hm), fun hm => absurd (List.mem_of_mem_head? hm) h⟩
  cases place with
  | flow => exact clear hp.2
  | block =>
    obtain ⟨hc, l, hl, hn⟩ := hp
    exact ⟨by rw [hl]; exact hn, fun _ => ⟨hc, he rfl⟩⟩
  | code body => exact clear hp.2
  | image inner => exact clear hp.2

end Pass

/-! ## Runs -/

/-- A law allows an event at a place. -/
structure Law.Allows (L : Law α σ) (place : Place) (e : Event) : Prop where
  html : ∀ t, e = .html t ∨ e = .inlineHtml t → L.raw
  body : ∀ body, place = .code body → e = .stop .code → L.Body body
  block : Event.Raw place e

namespace Pass

variable {L : Law α σ} {b : Builder α σ} {breaks : Bool}

theorem obeys_initial {s : σ} (h : L.Holds [Content.empty] s) :
    (initial s : Pass α σ).Obeys L :=
  ⟨⟨by simp [initial], by simp [initial]⟩, h⟩

theorem admits_of_at {p : Pass α σ} {place : Place} {e : Event} (hp : p.At place)
    (ha : L.Allows place e) (hd : L.Drops ∨ p.Placed) : p.Admits L e := by
  refine ⟨ha.html, fun language body hc he => ha.body body ?_ he, .inr (quiet_of_at hp ha.block), hd⟩
  cases place with
  | code body' =>
    obtain ⟨⟨language', hc'⟩, -⟩ := hp
    rw [hc] at hc'
    cases hc'
    rfl
  | flow | block => simp [At, hc] at hp
  | image inner => simp [At, hc] at hp

theorem run_append {es fs : List Event} {p q : Pass α σ} (h : p.run b breaks es = (q, none)) :
    p.run b breaks (es ++ fs) = q.run b breaks fs := by
  induction es generalizing p with
  | nil =>
    cases h
    rfl
  | cons e es ih =>
    rw [List.cons_append, run]
    rw [run] at h
    cases hr : p.step b breaks e with
    | ok r =>
      rw [hr] at h
      exact ih h
    | error err =>
      rw [hr] at h
      cases h

/-- Where a run ends, it ends without the events from the first that fails. -/
theorem exists_run_of_run {es : List Event} {p q : Pass α σ} {err : Option CompileError}
    (h : p.run b breaks es = (q, err)) : ∃ pre, p.run b breaks pre = (q, none) := by
  induction es generalizing p with
  | nil =>
    cases h
    exact ⟨[], rfl⟩
  | cons e es ih =>
    rw [run] at h
    cases hr : p.step b breaks e with
    | ok r =>
      rw [hr] at h
      obtain ⟨pre, hpre⟩ := ih h
      exact ⟨e :: pre, by rw [run, hr]; exact hpre⟩
    | error err' =>
      rw [hr] at h
      cases h
      exact ⟨[], rfl⟩

omit [Content α] in
/-- Nothing is open at the end. -/
theorem eq_of_finish {p : Pass α σ} {x : α} (h : p.finish = .ok x) :
    p.frames = [] ∧ p.capture = none ∧ p.document = x := by
  unfold finish at h
  split at h
  · rename_i hdepth
    cases h
    obtain ⟨state, document, frames, capture, table, heading⟩ := p
    cases frames <;> cases capture <;> simp [depth] at hdepth ⊢
  · cases h

/-- What each event keeps, of a compilation and the events to come, holds at the end of a run. -/
theorem run_induction {I : Pass α σ → List Event → Prop}
    (hstep : ∀ {p q e es}, I p (e :: es) → p.step b breaks e = .ok q → I q es) {es : List Event}
    {p q : Pass α σ} (hp : I p es) (h : p.run b breaks es = (q, none)) : I q [] := by
  induction es generalizing p with
  | nil => cases h; exact hp
  | cons e es ih =>
    unfold run at h
    split at h
    · rename_i r hr
      exact ih (hstep hp hr) h
    · cases h

/-- **A run whose events a law allows keeps the law.** -/
theorem obeys_run (hk : L.Kept b) (hd : L.Drops) {es : List Event} {p q : Pass α σ} {place : Place}
    (hp : p.Obeys L) (hat : p.At place) (ha : Along L.Allows place es)
    (h : p.run b breaks es = (q, none)) : q.Obeys L := by
  let I (p : Pass α σ) (es : List Event) : Prop :=
    p.Obeys L ∧ ∃ place, p.At place ∧ Along L.Allows place es
  have hend : I q [] := by
    refine run_induction (fun {p q e es} hI hq => ?_) ⟨hp, place, hat, ha⟩ h
    obtain ⟨hp, place, hat, he, hes⟩ := hI
    exact ⟨obeys_step hk hp (admits_of_at hat he (.inl hd)) hq, _, at_step hat he.block hq, hes⟩
  exact hend.1

/-- The same where html blocks may hold anything, and code blocks any body. -/
theorem obeys_run_mixed (hk : L.Kept b) (hd : L.Drops) (hm : L.mixed) (hb : ∀ body, L.Body body)
    {es : List Event} {p q : Pass α σ} (hp : p.Obeys L)
    (ha : ∀ e ∈ es, ∀ t, e = .html t ∨ e = .inlineHtml t → L.raw)
    (h : p.run b breaks es = (q, none)) : q.Obeys L := by
  let I (p : Pass α σ) (es : List Event) : Prop :=
    p.Obeys L ∧ ∀ e ∈ es, ∀ t, e = .html t ∨ e = .inlineHtml t → L.raw
  have hend : I q [] := by
    refine run_induction (fun {p q e es} hI hq => ?_) ⟨hp, ha⟩ h
    obtain ⟨he, hes⟩ := List.forall_mem_cons.1 hI.2
    exact ⟨obeys_step hk hI.1 ⟨he, fun _ body _ _ => hb body, .inl hm, .inl hd⟩ hq, hes⟩
  exact hend.1

end Pass

end Compile

open Compile

variable {α σ : Type} [Content α] {b : Builder α σ} {breaks : Bool} {s s' : σ} {es : List Event} {x : α}

/-- What compiles is run to its end. -/
theorem run_of_build_ok (h : build b breaks s es = (.ok x, s')) :
    ∃ p : Pass α σ, Pass.run b breaks (.initial s) es = (p, none) ∧ p.finish = .ok x ∧ p.state = s' := by
  unfold build at h
  generalize Pass.run b breaks (.initial s) es = r at h
  obtain ⟨p, err⟩ := r
  cases err with
  | some err => cases h
  | none =>
    simp only [Prod.mk.injEq] at h
    exact ⟨p, rfl, h.1, h.2⟩

/-- What compiles ends with no frame open. -/
theorem build_ok (h : build b breaks s es = (.ok x, s')) :
    ∃ p : Pass α σ, Pass.run b breaks (.initial s) es = (p, none) ∧ p.frames = [] ∧
      p.document = x ∧ p.state = s' := by
  obtain ⟨p, hr, hfinish, hs⟩ := run_of_build_ok h
  obtain ⟨hframes, -, hx⟩ := Pass.eq_of_finish hfinish
  exact ⟨p, hr, hframes, hx, hs⟩

variable {L : Law α σ}

theorem build_holds (hk : L.Kept b) (hd : L.Drops) (h₀ : L.Holds [Content.empty] s)
    (ha : Along L.Allows .flow es) (h : build b breaks s es = (.ok x, s')) : L.Holds [x] s' := by
  obtain ⟨p, hr, hf, rfl, rfl⟩ := build_ok h
  have hat : (Pass.initial s : Pass α σ).At .flow := ⟨rfl, by simp [Pass.blocks, Pass.initial]⟩
  have := (Pass.obeys_run hk hd (Pass.obeys_initial h₀) hat ha hr).holds
  simpa [Pass.contents, hf] using this

theorem build_holds_mixed (hk : L.Kept b) (hd : L.Drops) (h₀ : L.Holds [Content.empty] s)
    (hm : L.mixed) (hb : ∀ body, L.Body body)
    (ha : ∀ e ∈ es, ∀ t, e = .html t ∨ e = .inlineHtml t → L.raw)
    (h : build b breaks s es = (.ok x, s')) : L.Holds [x] s' := by
  obtain ⟨p, hr, hf, rfl, rfl⟩ := build_ok h
  have := (Pass.obeys_run_mixed hk hd hm hb (Pass.obeys_initial h₀) ha hr).holds
  simpa [Pass.contents, hf] using this

variable {R : Rule α σ}

theorem build_each (hk : R.Kept b) (hs : R.State s) (ha : Along R.law.Allows .flow es)
    (h : build b breaks s es = (.ok x, s')) : R.Each x ∧ R.State s' := by
  have h₀ : R.law.Holds [Content.empty] s := ⟨List.forall_mem_singleton.2 hk.empty, hs⟩
  have hend := build_holds hk.law R.drops h₀ ha h
  exact ⟨List.forall_mem_singleton.1 hend.1, hend.2⟩

theorem build_each_mixed (hk : R.Kept b) (hs : R.State s) (hm : R.mixed) (hb : ∀ body, R.Body body)
    (ha : ∀ e ∈ es, ∀ t, e = .html t ∨ e = .inlineHtml t → R.raw)
    (h : build b breaks s es = (.ok x, s')) : R.Each x ∧ R.State s' := by
  have h₀ : R.law.Holds [Content.empty] s := ⟨List.forall_mem_singleton.2 hk.empty, hs⟩
  have hend := build_holds_mixed hk.law R.drops h₀ hm hb ha h
  exact ⟨List.forall_mem_singleton.1 hend.1, hend.2⟩

/-! ## States -/

/-- A rule that speaks of the state alone. -/
def Compile.Rule.ofState (S : σ → Prop) : Rule α σ where
  Each _ := True
  State := S
  Block _ := True
  Body _ := True
  raw := True
  mixed := True

theorem Compile.Rule.ofState_kept {S : σ → Prop} (hanswer : ∀ c s, S s → S (b c s).2) :
    (Rule.ofState S).Kept b where
  empty := trivial
  append _ _ := trivial
  newline := trivial
  answer _ _ hs := ⟨trivial, hanswer _ _ hs⟩
  html _ hs := ⟨trivial, hanswer _ _ hs⟩
  blockEmpty := trivial
  blockRaw _ _ := trivial
  blockLine _ _ _ _ := trivial
  blockMixed _ _ _ _ _ := trivial

/-- What every answer keeps of the state is kept to the end, whatever the events are, and to the first
that fails if one does. -/
theorem state_build {S : σ → Prop} (hanswer : ∀ c s, S s → S (b c s).2) (hs : S s) (es : List Event) :
    S (build b breaks s es).2 := by
  have hend (p : Pass α σ) (err : Option CompileError)
      (hp : Pass.run b breaks (.initial s) es = (p, err)) : S p.state := by
    obtain ⟨pre, hpre⟩ := Pass.exists_run_of_run hp
    have h₀ : (Rule.ofState S).law.Holds [(Content.empty : α)] s := ⟨fun _ _ => trivial, hs⟩
    exact (Pass.obeys_run_mixed (Rule.ofState_kept hanswer).law (Rule.drops _) trivial (fun _ => trivial)
      (Pass.obeys_initial h₀) (fun _ _ _ _ => trivial) hpre).holds.2
  rw [build]
  split <;> exact hend _ _ ‹_›

theorem build_state {S : σ → Prop} (hanswer : ∀ c s, S s → S (b c s).2) (hs : S s)
    (h : build b breaks s es = (.ok x, s')) : S s' := by
  have hend : S (build b breaks s es).2 := state_build hanswer hs es
  rwa [h] at hend

end Marktree
