import Marktree.Markup.Html
import Marktree.Proofs.Compile.Grammar

/-!
# Balance

Starts and ends are balanced if every end closes the innermost construct that is open, and none stays
open (`Event.Balanced`). What compiles is balanced outside of its code blocks and images. In a code
block a start is passed over, and in an image every start and end but those of images; so the events
as a whole are balanced exactly if those in each code block and in each image are so by themselves
(`balanced_iff_of_compile`).
-/
namespace Marktree

open Compile (Mode)

/-- What is collected after an event. -/
def Compile.Mode.next : Mode → Event → Mode
  | .flow, .start (.code _) => .code
  | .flow, .start (.image ..) => .image 0
  | .code, .stop .code => .flow
  | .image n, .start (.image ..) => .image (n + 1)
  | .image 0, .stop .image => .flow
  | .image (n + 1), .stop .image => .image n
  | m, _ => m

namespace Event

/-- The ends that are awaited after events, from the inside out, unless one of the events is an end
that does not close the innermost construct. -/
def awaited : List EndTag → List Event → Option (List EndTag)
  | cs, [] => some cs
  | cs, .start t :: es => awaited (t.closing :: cs) es
  | [], .stop _ :: _ => none
  | c :: cs, .stop t :: es => if c = t then awaited cs es else none
  | cs, _ :: es => awaited cs es

/-- Every end closes the innermost construct that is open, and none stays open. -/
def Balanced (es : List Event) : Prop :=
  awaited [] es = some []

instance (es : List Event) : Decidable (Balanced es) :=
  inferInstanceAs (Decidable (awaited [] es = some []))

/-- The events that stand in no code block and in no image, those that start and end one among them,
and apart from them the events in each. `before` are those that stand so far in the open one. -/
def separate : Mode → List Event → List Event → List Event × List (List Event)
  | _, _, [] => ([], [])
  | .flow, _, e :: es => (separate (Mode.flow.next e) [] es).map (e :: ·) id
  | m, before, e :: es =>
    if m.next e = .flow then (separate .flow [] es).map (e :: ·) (before :: ·)
    else separate (m.next e) (before ++ [e]) es

/-- The events that stand in no code block and in no image. -/
def outside (es : List Event) : List Event :=
  (separate .flow [] es).1

/-- The events in each code block and in each image, by themselves; an image in an image is a part of
the outer one. -/
def interiors (es : List Event) : List (List Event) :=
  (separate .flow [] es).2

/-! ## Awaited ends -/

theorem awaited_leaf {e : Event} (he : e.isLeaf) (cs : List EndTag) (es : List Event) :
    awaited cs (e :: es) = awaited cs es := by
  cases e with
  | start t => cases he
  | stop t => cases he
  | _ => cases cs <;> rfl

theorem awaited_stop (c : EndTag) (cs : List EndTag) (es : List Event) :
    awaited (c :: cs) (.stop c :: es) = awaited cs es := by
  rw [awaited, if_pos rfl]

theorem eq_of_awaited_stop {cs ds : List EndTag} {t : EndTag} {es : List Event}
    (h : awaited cs (.stop t :: es) = some ds) : ∃ cs', cs = t :: cs' ∧ awaited cs' es = some ds := by
  cases cs with
  | nil => cases h
  | cons c cs =>
    rw [awaited] at h
    split at h
    · rename_i hc
      exact ⟨cs, by rw [hc], h⟩
    · cases h

theorem awaited_append (cs : List EndTag) (es fs : List Event) :
    awaited cs (es ++ fs) = (awaited cs es).bind (awaited · fs) := by
  induction es generalizing cs with
  | nil => rfl
  | cons e es ih =>
    rw [List.cons_append]
    cases e with
    | start t => exact ih _
    | stop t =>
      cases cs with
      | nil => rfl
      | cons c cs =>
        simp only [awaited]
        split
        · exact ih _
        · rfl
    | _ => rw [awaited_leaf rfl, awaited_leaf rfl, ih]

/-- The innermost end that events leave awaited is the one that comes next. -/
theorem eq_of_awaited_append_stop {cs ds : List EndTag} {t : EndTag} {es fs : List Event}
    (h : awaited cs (es ++ .stop t :: fs) = some ds) :
    ∃ cs', awaited cs es = some (t :: cs') ∧ awaited cs' fs = some ds := by
  rw [awaited_append] at h
  obtain ⟨mid, hmid, h⟩ := Option.bind_eq_some_iff.1 h
  obtain ⟨cs', rfl, hfs⟩ := eq_of_awaited_stop h
  exact ⟨cs', hmid, hfs⟩

/-- Ends that are awaited further out are still awaited afterwards. -/
theorem awaited_frame {cs ds : List EndTag} {es : List Event} (h : awaited cs es = some ds)
    (outer : List EndTag) : awaited (cs ++ outer) es = some (ds ++ outer) := by
  induction es generalizing cs with
  | nil =>
    cases h
    rfl
  | cons e es ih =>
    cases e with
    | start t => exact ih h
    | stop t =>
      obtain ⟨cs', rfl, h'⟩ := eq_of_awaited_stop h
      rw [List.cons_append, awaited_stop, ih h']
    | _ =>
      rw [awaited_leaf rfl] at h ⊢
      exact ih h

theorem Balanced.awaited {es : List Event} (h : Balanced es) (cs : List EndTag) :
    awaited cs es = some cs :=
  awaited_frame h cs

theorem Balanced.awaited_append {es : List Event} (h : Balanced es) (cs : List EndTag) (fs : List Event) :
    Event.awaited cs (es ++ fs) = Event.awaited cs fs := by
  rw [Event.awaited_append, h.awaited]
  rfl

end Event

namespace Grammar

open Event (awaited awaited_leaf awaited_stop eq_of_awaited_stop eq_of_awaited_append_stop separate outside
  interiors)

/-! ## Code blocks -/

/-- In events without ends nothing is closed; they are balanced if nothing starts in them. -/
theorem awaited_code {es : List Event} (h : ∀ t, .stop t ∉ es) (cs : List EndTag) :
    ∃ ds, awaited cs es = some (ds ++ cs) ∧ (ds = [] → Event.Balanced es) := by
  induction es generalizing cs with
  | nil => exact ⟨[], rfl, fun _ => rfl⟩
  | cons e es ih =>
    have hes : ∀ t, .stop t ∉ es := fun t ht => h t (List.mem_cons_of_mem _ ht)
    cases e with
    | start t =>
      obtain ⟨ds, hds, -⟩ := ih hes (t.closing :: cs)
      exact ⟨ds ++ [t.closing], by simpa [awaited] using hds, by simp⟩
    | stop t => exact absurd (List.mem_cons_self ..) (h t)
    | _ =>
      obtain ⟨ds, hds, hnil⟩ := ih hes cs
      refine ⟨ds, by rw [awaited_leaf rfl, hds], fun hn => ?_⟩
      rw [Event.Balanced, awaited_leaf rfl]
      exact hnil hn

/-! ## Images -/

/-- Balanced images close no image around them, and no construct further out. -/
theorem awaited_images {es : List Event} (h : Images es) {cs ds outer : List EndTag}
    (hcs : .image ∉ cs) (hds : awaited (cs ++ .image :: outer) es = some ds) :
    ∃ ds', .image ∉ ds' ∧ ds = ds' ++ .image :: outer ∧ awaited cs es = some ds' := by
  induction h generalizing cs ds outer with
  | nil =>
    cases hds
    exact ⟨cs, hcs, rfl, rfl⟩
  | @other e es he _ ih =>
    cases e with
    | start t =>
      have ht : t.closing ≠ .image := by cases t <;> simp_all [Event.isImage, Tag.closing]
      have hcs : .image ∉ t.closing :: cs := by simp [hcs, ht.symm]
      exact ih hcs hds
    | stop t =>
      obtain ⟨cs', hcs', hds⟩ := eq_of_awaited_stop hds
      cases cs with
      | nil =>
        -- the image around would end here
        cases hcs'
        cases he
      | cons c cs =>
        cases hcs'
        rw [awaited_stop]
        exact ih (fun hc => hcs (List.mem_cons_of_mem _ hc)) hds
    | _ =>
      rw [awaited_leaf rfl] at hds ⊢
      exact ih hcs hds
  | @image src title inner es _ _ ihinner ih =>
    rw [List.cons_append, awaited] at hds ⊢
    obtain ⟨mid, hmid, hds⟩ := eq_of_awaited_append_stop hds
    have hnil : EndTag.image ∉ [] := List.not_mem_nil
    obtain ⟨ms, hms, hms', hinner⟩ := ihinner hnil hmid
    cases ms with
    | nil =>
      cases hms'
      obtain ⟨ds', hds', rfl, h⟩ := ih hcs hds
      refine ⟨ds', hds', rfl, ?_⟩
      rw [Event.Balanced.awaited_append hinner, ← h]
      exact awaited_stop _ _ _
    | cons m ms =>
      cases hms'
      exact absurd (List.mem_cons_self ..) hms

/-! ## Documents -/

theorem separate_code {es : List Event} (h : ∀ t, .stop t ∉ es) (before rest : List Event) :
    separate .code before (es ++ .stop .code :: rest) =
      (separate .flow [] rest).map (.stop .code :: ·) ((before ++ es) :: ·) := by
  induction es generalizing before with
  | nil => simp [separate, Mode.next]
  | cons e es ih =>
    have hes : ∀ t, .stop t ∉ es := fun t ht => h t (List.mem_cons_of_mem _ ht)
    have hnext : Mode.next .code e = .code := by
      cases e with
      | stop t => exact absurd (List.mem_cons_self ..) (h t)
      | _ => rfl
    simp [separate, hnext, ih hes]

theorem separate_images {es : List Event} (h : Images es) (n : Nat) (before rest : List Event) :
    separate (.image n) before (es ++ rest) = separate (.image n) (before ++ es) rest := by
  induction h generalizing n before rest with
  | nil => simp
  | @other e es he _ ih =>
    have hnext : Mode.next (.image n) e = .image n := by
      cases e with
      | start t => cases t <;> first | rfl | cases he
      | stop t => cases t <;> first | rfl | cases he
      | _ => rfl
    simp [separate, hnext, ih]
  | @image src title inner es _ _ ihinner ih =>
    have hstart : Mode.next (.image n) (.start (.image src title)) = .image (n + 1) := rfl
    have hstop : Mode.next (.image (n + 1)) (.stop .image) = .image n := rfl
    simp [separate, hstart, ihinner, hstop, ih]

theorem separate_leaf {e : Event} (he : e.isLeaf) (es : List Event) :
    separate .flow [] (e :: es) = (e :: outside es, interiors es) := by
  have hnext : Mode.next .flow e = .flow := by
    cases e with
    | start t => cases he
    | stop t => cases he
    | _ => rfl
  rw [separate, hnext]
  rfl

theorem separate_construct {t : Tag} {inner : List Event} (ht : t.isFrame)
    (hinner : ∀ fs, separate .flow [] (inner ++ fs) =
      (outside inner ++ outside fs, interiors inner ++ interiors fs)) (es : List Event) :
    separate .flow [] (.start t :: (inner ++ .stop t.closing :: es)) =
      (.start t :: (outside inner ++ .stop t.closing :: outside es), interiors inner ++ interiors es) := by
  have hstart : Mode.next .flow (.start t) = .flow := by cases t <;> first | rfl | cases ht
  rw [separate, hstart, hinner]
  rfl

theorem separate_codeBlock (info : Option String) {inner : List Event} (hinner : ∀ t, .stop t ∉ inner)
    (es : List Event) :
    separate .flow [] (.start (.code info) :: (inner ++ .stop .code :: es)) =
      (.start (.code info) :: .stop .code :: outside es, inner :: interiors es) := by
  have hstart : Mode.next .flow (.start (.code info)) = .code := rfl
  rw [separate, hstart, separate_code hinner]
  rfl

theorem separate_image (src title : String) {inner : List Event} (hinner : Images inner)
    (es : List Event) :
    separate .flow [] (.start (.image src title) :: (inner ++ .stop .image :: es)) =
      (.start (.image src title) :: .stop .image :: outside es, inner :: interiors es) := by
  have hstart : Mode.next .flow (.start (.image src title)) = .image 0 := rfl
  have hstop : Mode.next (.image 0) (.stop .image) = .flow := rfl
  rw [separate, hstart, separate_images hinner, separate, hstop, if_pos rfl]
  · rfl
  · simp

/-- A document is separated from what follows it. -/
theorem Document.separate_append {es : List Event} (h : Document es) (fs : List Event) :
    separate .flow [] (es ++ fs) = (outside es ++ outside fs, interiors es ++ interiors fs) := by
  induction h generalizing fs with
  | nil => rfl
  | leaf he _ ih => simp [outside, interiors, separate_leaf he, ih]
  | construct ht _ _ ihinner ih => simp [outside, interiors, separate_construct ht ihinner, ih]
  | code info hinner _ ih => simp [outside, interiors, separate_codeBlock info hinner, ih]
  | image src title hinner _ ih => simp [outside, interiors, separate_image src title hinner, ih]

/-- Outside of its code blocks and images a document is balanced. -/
theorem Document.balanced_outside {es : List Event} (h : Document es) : Event.Balanced (outside es) := by
  induction h with
  | nil => rfl
  | leaf he _ ih =>
    rw [outside, separate_leaf he, Event.Balanced, awaited_leaf he]
    exact ih
  | construct ht hinner _ ihinner ih =>
    rw [outside, List.cons_append, separate_construct ht hinner.separate_append, Event.Balanced, awaited,
      ihinner.awaited_append, awaited_stop]
    exact ih
  | code info hinner _ ih =>
    rw [outside, List.cons_append, separate_codeBlock info hinner, Event.Balanced, awaited]
    exact ih
  | image src title hinner _ ih =>
    rw [outside, List.cons_append, separate_image src title hinner, Event.Balanced, awaited]
    exact ih

/-- A document is balanced if its code blocks and images are. -/
theorem Document.balanced {es : List Event} (h : Document es) (hes : ∀ i ∈ interiors es, Event.Balanced i) :
    Event.Balanced es := by
  induction h with
  | nil => rfl
  | leaf he _ ih =>
    rw [interiors, separate_leaf he] at hes
    rw [Event.Balanced, awaited_leaf he]
    exact ih hes
  | construct ht hinner _ ihinner ih =>
    rw [interiors, List.cons_append, separate_construct ht hinner.separate_append] at hes
    obtain ⟨hinside, hrest⟩ := List.forall_mem_append.1 hes
    rw [List.cons_append, Event.Balanced, awaited, (ihinner hinside).awaited_append, awaited_stop]
    exact ih hrest
  | code info hinner _ ih =>
    rw [interiors, List.cons_append, separate_codeBlock info hinner] at hes
    obtain ⟨hinside, hrest⟩ := List.forall_mem_cons.1 hes
    rw [List.cons_append, Event.Balanced, awaited, hinside.awaited_append]
    exact ih hrest
  | image src title hinner _ ih =>
    rw [interiors, List.cons_append, separate_image src title hinner] at hes
    obtain ⟨hinside, hrest⟩ := List.forall_mem_cons.1 hes
    rw [List.cons_append, Event.Balanced, awaited, hinside.awaited_append]
    exact ih hrest

/-- From `cs` awaited before events to `ds` after them: nothing more is awaited and their code blocks and
images are balanced, or the end of a code block is awaited too. -/
def Settles (es : List Event) (cs ds : List EndTag) : Prop :=
  (∀ i ∈ interiors es, Event.Balanced i) ∧ ds = cs ∨ ∃ ms, .code ∈ ms ∧ ds = ms ++ cs

/-- The end of a code block stays awaited. -/
theorem Settles.of_code {es fs : List Event} {ms cs ds : List EndTag} (h : Settles es (ms ++ cs) ds)
    (hms : .code ∈ ms) : Settles fs cs ds := by
  rcases h with ⟨-, rfl⟩ | ⟨ms', -, rfl⟩
  · exact .inr ⟨ms, hms, rfl⟩
  · exact .inr ⟨ms' ++ ms, List.mem_append_right _ hms, by rw [List.append_assoc]⟩

/-- Events with others before them whose code blocks and images are balanced. -/
theorem Settles.of_interiors {es fs : List Event} {cs ds : List EndTag} {before : List (List Event)}
    (h : Settles es cs ds) (hfs : interiors fs = before ++ interiors es)
    (hbefore : ∀ i ∈ before, Event.Balanced i) : Settles fs cs ds := by
  rw [Settles, hfs]
  exact h.imp_left fun ⟨hes, hds⟩ => ⟨List.forall_mem_append.2 ⟨hbefore, hes⟩, hds⟩

/-- A document settles, unless an end in it closes another construct than the innermost. -/
theorem Document.settles {es : List Event} (h : Document es) {cs ds : List EndTag}
    (hds : awaited cs es = some ds) : Settles es cs ds := by
  induction h generalizing cs ds with
  | nil =>
    cases hds
    exact .inl ⟨by simp [interiors, separate], rfl⟩
  | leaf he _ ih =>
    rw [awaited_leaf he] at hds
    rw [Settles, interiors, separate_leaf he]
    exact ih hds
  | @construct t inner es ht hinner _ ihinner ih =>
    rw [List.cons_append, awaited] at hds
    obtain ⟨mid, hmid, hds⟩ := eq_of_awaited_append_stop hds
    have hinteriors := congrArg Prod.snd (separate_construct ht hinner.separate_append es)
    rcases ihinner hmid with ⟨hinside, hmid⟩ | ⟨ms, hms, hmid⟩
    · cases hmid
      exact (ih hds).of_interiors hinteriors hinside
    · -- the end of a code block is awaited inside, and no frame ends so
      have hne : .code ≠ t.closing := by cases t <;> simp_all [Tag.closing, Tag.isFrame]
      cases ms with
      | nil => cases hms
      | cons m ms =>
        cases hmid
        have hcode : .code ∈ ms := (List.mem_cons.1 hms).resolve_left hne
        have hds : awaited ((ms ++ [t.closing]) ++ cs) es = some ds := by simpa using hds
        exact (ih hds).of_code (List.mem_append_left _ hcode)
  | @code info inner es hinner _ ih =>
    obtain ⟨starts, hstarts, hbalanced⟩ := awaited_code hinner (.code :: cs)
    rw [List.cons_append, awaited] at hds
    obtain ⟨mid, hmid, hds⟩ := eq_of_awaited_append_stop hds
    have hinteriors : _ = [inner] ++ interiors es := congrArg Prod.snd (separate_codeBlock info hinner es)
    have hmid := Option.some.inj (hstarts.symm.trans hmid)
    cases starts with
    | nil =>
      cases hmid
      exact (ih hds).of_interiors hinteriors (List.forall_mem_singleton.2 (hbalanced rfl))
    | cons c starts =>
      -- a start in the code block takes its end away
      cases hmid
      have hds : awaited ((starts ++ [.code]) ++ cs) es = some ds := by simpa using hds
      exact (ih hds).of_code (by simp)
  | @image src title inner es hinner _ ih =>
    rw [List.cons_append, awaited] at hds
    obtain ⟨mid, hmid, hds⟩ := eq_of_awaited_append_stop hds
    have hinteriors : _ = [inner] ++ interiors es := congrArg Prod.snd (separate_image src title hinner es)
    have hnil : EndTag.image ∉ [] := List.not_mem_nil
    obtain ⟨ms, hms, hms', hbalanced⟩ := awaited_images hinner hnil hmid
    cases ms with
    | nil =>
      cases hms'
      exact (ih hds).of_interiors hinteriors (List.forall_mem_singleton.2 hbalanced)
    | cons m ms =>
      cases hms'
      exact absurd (List.mem_cons_self ..) hms

theorem Document.balanced_iff {es : List Event} (h : Document es) :
    Event.Balanced es ↔ ∀ i ∈ interiors es, Event.Balanced i := by
  refine ⟨fun hes => ?_, h.balanced⟩
  rcases h.settles hes with ⟨hinside, -⟩ | ⟨ms, hms, hnil⟩
  · exact hinside
  · cases (List.append_eq_nil_iff.1 hnil.symm).1
    cases hms

/-- What compiles is a document. -/
theorem document_of_compile {σ : Type} {m : Markup σ} {o : Options} {s s' : σ} {es : List Event}
    {out : String} (h : compile m o s es = (.ok out, s')) : Document es := by
  have hshape := Compile.build_shape (m.builder o.sanitize) o.breaks s es
  rw [show build (m.builder o.sanitize) o.breaks s es = compile m o s es from rfl, h] at hshape
  exact document_iff_finish.1 hshape.symm

end Grammar

open Event (outside interiors)

/-- **What compiles is balanced outside of its code blocks and images**, with every markup and all
options, and as a whole exactly if each code block and each image is so by itself. -/
theorem balanced_iff_of_compile {σ : Type} {m : Markup σ} {o : Options} {s s' : σ} {es : List Event}
    {out : String} (h : compile m o s es = (.ok out, s')) :
    Event.Balanced (outside es) ∧ (Event.Balanced es ↔ ∀ inner ∈ interiors es, Event.Balanced inner) :=
  have hdocument := Grammar.document_of_compile h
  ⟨hdocument.balanced_outside, hdocument.balanced_iff⟩

/-- A start that is left open in a code block, and an end that closes nothing in an image; the
paragraph around them is balanced. -/
theorem balanced_iff_of_compile_open :
    let es : List Event :=
      [.start .paragraph, .start (.code none), .start .strong, .text "a", .stop .code,
        .start (.image "b" ""), .text "c", .stop .emphasis, .stop .image, .stop .paragraph]
    let out := "<p><pre><code>a</code></pre><img src=\"b\" alt=\"c\"></p>"
    compile (Html.markup false) .default {} es = (.ok out, {}) ∧
      outside es = [.start .paragraph, .start (.code none), .stop .code, .start (.image "b" ""),
        .stop .image, .stop .paragraph] ∧
      interiors es = [[.start .strong, .text "a"], [.text "c", .stop .emphasis]] ∧
      Event.Balanced (outside es) ∧ ¬ Event.Balanced es := by
  intro es out
  have h : compile (Html.markup false) .default {} es = (.ok out, {}) := rfl
  obtain ⟨houtside, hiff⟩ := balanced_iff_of_compile h
  have hinside : ¬ Event.Balanced [.text "c", .stop .emphasis] := by decide
  refine ⟨h, rfl, rfl, houtside, fun hes => hinside (hiff.1 hes _ ?_)⟩
  exact List.mem_cons_of_mem _ (List.mem_singleton_self _)

/-- In an image an end of another construct is passed over. -/
theorem compile_image_unbalanced :
    let es : List Event := [.start (.image "a" ""), .stop .paragraph, .stop .image]
    ¬ Event.Balanced es ∧
      compile (Html.markup false) .default {} es = (.ok "<img src=\"a\" alt=\"\">", {}) := by
  intro es
  exact ⟨by decide, rfl⟩

end Marktree
