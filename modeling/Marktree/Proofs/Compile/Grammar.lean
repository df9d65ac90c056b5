import Marktree.Proofs.Compile.Shape

/-!
# The grammar of event streams

A document is a sequence of leaves and of constructs that end as they began; in a code block no end
stands but its own, and in an image the images are nested and the rest is free (`Document`).
Exactly the documents compile, and what is no document fails with an error that the grammar tells
(`Fails`), whatever the markup and the options are (`compile_accepts_iff`).
-/
namespace Marktree

namespace Event

/-- Neither the start nor the end of a construct. -/
def isLeaf : Event → Bool
  | .start _ | .stop _ => false
  | _ => true

/-- The start or the end of an image. -/
def isImage : Event → Bool
  | .start (.image ..) | .stop .image => true
  | _ => false

end Event

/-- A construct whose parts are events of the document: neither a code block nor an image. -/
def Tag.isFrame : Tag → Bool
  | .code _ | .image .. => false
  | _ => true

namespace Grammar

/-- Events among which every image that starts ends again, and none ends that did not start. -/
inductive Images : List Event → Prop
  | nil : Images []
  | other {e : Event} {es : List Event} (he : e.isImage = false) (hes : Images es) : Images (e :: es)
  | image (src title : String) {inner es : List Event} (hinner : Images inner) (hes : Images es) :
    Images (.start (.image src title) :: inner ++ .stop .image :: es)

/-- Events of a whole document. -/
inductive Document : List Event → Prop
  | nil : Document []
  | leaf {e : Event} {es : List Event} (he : e.isLeaf) (hes : Document es) : Document (e :: es)
  | construct {t : Tag} {inner es : List Event} (ht : t.isFrame) (hinner : Document inner)
    (hes : Document es) : Document (.start t :: inner ++ .stop t.closing :: es)
  | code (info : Option String) {inner es : List Event} (hinner : ∀ t, .stop t ∉ inner)
    (hes : Document es) : Document (.start (.code info) :: inner ++ .stop .code :: es)
  | image (src title : String) {inner es : List Event} (hinner : Images inner) (hes : Document es) :
    Document (.start (.image src title) :: inner ++ .stop .image :: es)

/-- Events that can go on to a document. -/
def Viable (es : List Event) : Prop :=
  ∃ rest, Document (es ++ rest)

/-! ## What events leave open -/

/-- The constructs with frames that events leave open, from the inside out, where no code block and
no image is open. -/
inductive Frames : List Event → List Tag → Prop
  | document {es : List Event} (hes : Document es) : Frames es []
  | construct {es inner : List Event} {t : Tag} {ts : List Tag} (hes : Frames es ts) (ht : t.isFrame)
    (hinner : Document inner) : Frames (es ++ .start t :: inner) (t :: ts)

/-- The number of images that events in an image leave open. -/
inductive Nested : List Event → Nat → Prop
  | balanced {es : List Event} (hes : Images es) : Nested es 0
  | image (src title : String) {es inner : List Event} {n : Nat} (hes : Nested es n)
    (hinner : Images inner) : Nested (es ++ .start (.image src title) :: inner) (n + 1)

/-- The constructs that events leave open: those with frames, from the inside out, and inside of
them a code block or an image. -/
inductive Leaves : List Event → List Tag → Compile.Mode → Prop
  | flow {es : List Event} {ts : List Tag} (hes : Frames es ts) : Leaves es ts .flow
  | code (info : Option String) {es inner : List Event} {ts : List Tag} (hes : Frames es ts)
    (hinner : ∀ t, .stop t ∉ inner) : Leaves (es ++ .start (.code info) :: inner) ts .code
  | image (src title : String) {es inner : List Event} {ts : List Tag} {n : Nat} (hes : Frames es ts)
    (hinner : Nested inner n) : Leaves (es ++ .start (.image src title) :: inner) ts (.image n)

/-- What could be closed: the innermost open construct, or the document where none is open. -/
def innermost : List Tag → Compile.Mode → Pending
  | _, .code => .codeBlock
  | _, .image _ => .construct .image
  | [], .flow => .document
  | t :: _, .flow => .construct t.closing

/-- The open constructs with frames, and one for a code block or an image that is open. -/
def openCount (ts : List Tag) (mode : Compile.Mode) : Nat :=
  ts.length + if mode = .flow then 0 else 1

/-- The error of events that are no document. -/
inductive Fails : List Event → CompileError → Prop
  /-- The first event that no document has after those before it is an end. -/
  | unbalanced {es : List Event} {ts : List Tag} {mode : Compile.Mode} {t : EndTag} (rest : List Event)
    (hes : Viable es) (hopen : Leaves es ts mode) (ht : ¬ Viable (es ++ [.stop t])) :
    Fails (es ++ .stop t :: rest) (.unbalanced (innermost ts mode) t)
  /-- No event is out of place, but not all constructs end. -/
  | unclosed {es : List Event} {ts : List Tag} {mode : Compile.Mode} (hes : Viable es)
    (hnot : ¬ Document es) (hopen : Leaves es ts mode) : Fails es (.unclosed (openCount ts mode))

/-! ## Appending -/

theorem Images.append {es fs : List Event} (hes : Images es) (hfs : Images fs) : Images (es ++ fs) := by
  induction hes with
  | nil => exact hfs
  | other he _ ih => exact .other he ih
  | image src title hinner _ _ ih =>
    simpa only [List.cons_append, List.append_assoc] using Images.image src title hinner ih

theorem Document.append {es fs : List Event} (hes : Document es) (hfs : Document fs) :
    Document (es ++ fs) := by
  induction hes with
  | nil => exact hfs
  | leaf he _ ih => exact .leaf he ih
  | construct ht hinner _ _ ih =>
    simpa only [List.cons_append, List.append_assoc] using Document.construct ht hinner ih
  | code info hinner _ ih =>
    simpa only [List.cons_append, List.append_assoc] using Document.code info hinner ih
  | image src title hinner _ ih =>
    simpa only [List.cons_append, List.append_assoc] using Document.image src title hinner ih

theorem Frames.append {es fs : List Event} {ts : List Tag} (hes : Frames es ts) (hfs : Document fs) :
    Frames (es ++ fs) ts := by
  cases hes with
  | document hes => exact .document (hes.append hfs)
  | construct hes ht hinner =>
    simpa only [List.append_assoc, List.cons_append] using Frames.construct hes ht (hinner.append hfs)

theorem Nested.append {es fs : List Event} {n : Nat} (hes : Nested es n) (hfs : Images fs) :
    Nested (es ++ fs) n := by
  cases hes with
  | balanced hes => exact .balanced (hes.append hfs)
  | image src title hes hinner =>
    simpa only [List.append_assoc, List.cons_append] using Nested.image src title hes (hinner.append hfs)

/-- An end closes the innermost frame. -/
theorem Frames.close {es : List Event} {t : Tag} {ts : List Tag} (hes : Frames es (t :: ts)) :
    Frames (es ++ [.stop t.closing]) ts := by
  cases hes with
  | construct hes ht hinner =>
    simpa only [List.append_assoc, List.cons_append] using hes.append (.construct ht hinner .nil)

/-- An end of an image closes the innermost one. -/
theorem Nested.close {es : List Event} {n : Nat} (hes : Nested es (n + 1)) :
    Nested (es ++ [.stop .image]) n := by
  cases hes with
  | image src title hes hinner =>
    simpa only [List.append_assoc, List.cons_append] using hes.append (.image src title hinner .nil)

/-- What leaves no construct open is a document. -/
theorem Frames.nil_iff {es : List Event} : Frames es [] ↔ Document es := by
  constructor
  · intro h
    cases h with
    | document hes => exact hes
  · exact .document

theorem Nested.zero_iff {es : List Event} : Nested es 0 ↔ Images es := by
  constructor
  · intro h
    cases h with
    | balanced hes => exact hes
  · exact .balanced

theorem Leaves.document {es : List Event} {ts : List Tag} {mode : Compile.Mode} (h : Leaves es ts mode)
    (h₀ : openCount ts mode = 0) : Document es := by
  cases h with
  | flow hes =>
    cases ts with
    | nil => exact Frames.nil_iff.1 hes
    | cons t ts => simp [openCount] at h₀
  | code info hes hinner => simp [openCount] at h₀
  | image src title hes hinner => simp [openCount] at h₀

/-! ## Going on to a document -/

theorem Frames.viable {es : List Event} {ts : List Tag} (h : Frames es ts) : Viable es := by
  induction ts generalizing es with
  | nil => exact ⟨[], by simpa using Frames.nil_iff.1 h⟩
  | cons t ts ih =>
    obtain ⟨rest, hrest⟩ := ih h.close
    exact ⟨.stop t.closing :: rest, by simpa using hrest⟩

theorem Nested.exists_images {es : List Event} {n : Nat} (h : Nested es n) :
    ∃ rest, Images (es ++ rest) := by
  induction n generalizing es with
  | zero => exact ⟨[], by simpa using Nested.zero_iff.1 h⟩
  | succ n ih =>
    obtain ⟨rest, hrest⟩ := ih h.close
    exact ⟨.stop .image :: rest, by simpa using hrest⟩

/-- Whatever is open can be closed. -/
theorem Leaves.viable {es : List Event} {ts : List Tag} {mode : Compile.Mode} (h : Leaves es ts mode) :
    Viable es := by
  cases h with
  | flow hes => exact hes.viable
  | code info hes hinner =>
    obtain ⟨rest, hrest⟩ := (hes.append (.code info hinner .nil)).viable
    exact ⟨.stop .code :: rest, by simpa using hrest⟩
  | image src title hes hinner =>
    obtain ⟨inner, hinner⟩ := hinner.exists_images
    obtain ⟨rest, hrest⟩ := (hes.append (.image src title hinner .nil)).viable
    exact ⟨inner ++ .stop .image :: rest, by simpa using hrest⟩

/-! ## Documents are accepted -/

open Compile (Shape Mode)

theorem Images.run {es : List Event} (h : Images es) (n : Nat) (cs : List EndTag) :
    Shape.run ⟨.image n, cs⟩ es = .ok ⟨.image n, cs⟩ := by
  induction h generalizing n with
  | nil => rfl
  | @other e es he _ ih =>
    have hnext : Shape.next ⟨.image n, cs⟩ e = .ok ⟨.image n, cs⟩ := by
      cases e with
      | start t => cases t <;> first | rfl | cases he
      | stop t => cases t <;> first | rfl | cases he
      | _ => rfl
    rw [Shape.run_cons hnext, ih]
  | @image src title inner es _ _ ihinner ih =>
    have hstart : Shape.next ⟨.image n, cs⟩ (.start (.image src title)) = .ok ⟨.image (n + 1), cs⟩ := rfl
    have hstop : Shape.next ⟨.image (n + 1), cs⟩ (.stop .image) = .ok ⟨.image n, cs⟩ := rfl
    rw [List.cons_append, Shape.run_cons hstart, Shape.run_append (ihinner _), Shape.run_cons hstop, ih]

theorem run_code {es : List Event} (h : ∀ t, .stop t ∉ es) (cs : List EndTag) :
    Shape.run ⟨.code, cs⟩ es = .ok ⟨.code, cs⟩ := by
  induction es with
  | nil => rfl
  | cons e es ih =>
    have hnext : Shape.next ⟨.code, cs⟩ e = .ok ⟨.code, cs⟩ := by
      cases e with
      | stop t => exact absurd (List.mem_cons_self ..) (h t)
      | _ => rfl
    rw [Shape.run_cons hnext, ih fun t ht => h t (List.mem_cons_of_mem _ ht)]

/-- A document runs from any shape back to it, as long as nothing is collected. -/
theorem Document.run {es : List Event} (h : Document es) (cs : List EndTag) :
    Shape.run ⟨.flow, cs⟩ es = .ok ⟨.flow, cs⟩ := by
  induction h generalizing cs with
  | nil => rfl
  | @leaf e es he _ ih =>
    have hnext : Shape.next ⟨.flow, cs⟩ e = .ok ⟨.flow, cs⟩ := by
      cases e with
      | start t => cases he
      | stop t => cases he
      | _ => rfl
    rw [Shape.run_cons hnext, ih]
  | @construct t inner es ht _ _ ihinner ih =>
    have hstart : Shape.next ⟨.flow, cs⟩ (.start t) = .ok ⟨.flow, t.closing :: cs⟩ := by
      cases t <;> first | rfl | cases ht
    have hstop : Shape.next ⟨.flow, t.closing :: cs⟩ (.stop t.closing) = .ok ⟨.flow, cs⟩ := by
      simp [Shape.next, Shape.stop]
    rw [List.cons_append, Shape.run_cons hstart, Shape.run_append (ihinner _), Shape.run_cons hstop, ih]
  | @code info inner es hinner _ ih =>
    have hstart : Shape.next ⟨.flow, cs⟩ (.start (.code info)) = .ok ⟨.code, cs⟩ := rfl
    have hstop : Shape.next ⟨.code, cs⟩ (.stop .code) = .ok ⟨.flow, cs⟩ := rfl
    rw [List.cons_append, Shape.run_cons hstart, Shape.run_append (run_code hinner cs),
      Shape.run_cons hstop, ih]
  | @image src title inner es hinner _ ih =>
    have hstart : Shape.next ⟨.flow, cs⟩ (.start (.image src title)) = .ok ⟨.image 0, cs⟩ := rfl
    have hstop : Shape.next ⟨.image 0, cs⟩ (.stop .image) = .ok ⟨.flow, cs⟩ := rfl
    rw [List.cons_append, Shape.run_cons hstart, Shape.run_append (hinner.run 0 cs),
      Shape.run_cons hstop, ih]

theorem Frames.run {es : List Event} {ts : List Tag} (h : Frames es ts) :
    Shape.run {} es = .ok ⟨.flow, ts.map Tag.closing⟩ := by
  induction h with
  | document hes => exact hes.run []
  | @construct es inner t ts _ ht hinner ih =>
    have hstart : Shape.next ⟨.flow, ts.map Tag.closing⟩ (.start t) =
        .ok ⟨.flow, (t :: ts).map Tag.closing⟩ := by
      cases t <;> first | rfl | cases ht
    rw [Shape.run_append ih, Shape.run_cons hstart, hinner.run]

theorem Nested.run {es : List Event} {n : Nat} (h : Nested es n) (cs : List EndTag) :
    Shape.run ⟨.image 0, cs⟩ es = .ok ⟨.image n, cs⟩ := by
  induction h with
  | balanced hes => exact hes.run 0 cs
  | @image src title es inner n _ hinner ih =>
    have hstart : Shape.next ⟨.image n, cs⟩ (.start (.image src title)) = .ok ⟨.image (n + 1), cs⟩ := rfl
    rw [Shape.run_append ih, Shape.run_cons hstart, hinner.run]

/-- What events leave open is what their shape has open. -/
theorem Leaves.run {es : List Event} {ts : List Tag} {mode : Mode} (h : Leaves es ts mode) :
    Shape.run {} es = .ok ⟨mode, ts.map Tag.closing⟩ := by
  cases h with
  | flow hes => exact hes.run
  | code info hes hinner =>
    have hstart : Shape.next ⟨.flow, ts.map Tag.closing⟩ (.start (.code info)) =
        .ok ⟨.code, ts.map Tag.closing⟩ := rfl
    rw [Shape.run_append hes.run, Shape.run_cons hstart, run_code hinner]
  | image src title hes hinner =>
    have hstart : Shape.next ⟨.flow, ts.map Tag.closing⟩ (.start (.image src title)) =
        .ok ⟨.image 0, ts.map Tag.closing⟩ := rfl
    rw [Shape.run_append hes.run, Shape.run_cons hstart, hinner.run]

/-! ## What is accepted is told by the grammar -/

/-- The grammar accounts for every open construct of a shape after events. -/
def Explains (es : List Event) (x : Shape) : Prop :=
  ∃ ts, Leaves es ts x.mode ∧ x.closings = ts.map Tag.closing

theorem explains_start {es : List Event} {ts : List Tag} (h : Frames es ts) (t : Tag) :
    Explains (es ++ [.start t]) (Shape.start ⟨.flow, ts.map Tag.closing⟩ t) := by
  cases t with
  | code info => exact ⟨ts, .code info h (by simp), rfl⟩
  | image src title => exact ⟨ts, .image src title h (.balanced .nil), rfl⟩
  | _ => exact ⟨_ :: ts, .flow (.construct h rfl .nil), rfl⟩

theorem explains_stop {es : List Event} {ts : List Tag} (h : Frames es ts) {t : EndTag} {x : Shape}
    (hx : Shape.stop ⟨.flow, ts.map Tag.closing⟩ t = .ok x) : Explains (es ++ [.stop t]) x := by
  cases ts with
  | nil => cases hx
  | cons u ts =>
    simp only [Shape.stop, List.map_cons] at hx
    split at hx
    · rename_i hu
      cases hx
      subst hu
      exact ⟨ts, .flow h.close, rfl⟩
    · cases hx

theorem explains_flow {es : List Event} {ts : List Tag} (h : Frames es ts) {e : Event} {x : Shape}
    (hx : Shape.next ⟨.flow, ts.map Tag.closing⟩ e = .ok x) : Explains (es ++ [e]) x := by
  cases e with
  | start t =>
    cases hx
    exact explains_start h t
  | stop t => exact explains_stop h hx
  | _ =>
    cases hx
    exact ⟨ts, .flow (h.append (.leaf rfl .nil)), rfl⟩

theorem explains_code {es inner : List Event} {ts : List Tag} (info : Option String) (h : Frames es ts)
    (hinner : ∀ t, .stop t ∉ inner) {e : Event} {x : Shape}
    (hx : Shape.next ⟨.code, ts.map Tag.closing⟩ e = .ok x) :
    Explains (es ++ .start (.code info) :: (inner ++ [e])) x := by
  have hgrown (he : ∀ t, e ≠ .stop t) :
      Explains (es ++ .start (.code info) :: (inner ++ [e])) ⟨.code, ts.map Tag.closing⟩ := by
    refine ⟨ts, .code info h fun t ht => ?_, rfl⟩
    rcases List.mem_append.1 ht with ht | ht
    · exact hinner t ht
    · exact he t (List.mem_singleton.1 ht).symm
  cases e with
  | stop t =>
    cases t with
    | code =>
      cases hx
      exact ⟨ts, .flow (h.append (.code info hinner .nil)), rfl⟩
    | _ => cases hx
  | _ =>
    cases hx
    exact hgrown (by simp)

theorem explains_image {es inner : List Event} {ts : List Tag} {n : Nat} (src title : String)
    (h : Frames es ts) (hinner : Nested inner n) {e : Event} {x : Shape}
    (hx : Shape.next ⟨.image n, ts.map Tag.closing⟩ e = .ok x) :
    Explains (es ++ .start (.image src title) :: (inner ++ [e])) x := by
  have hgrown (he : e.isImage = false) :
      Explains (es ++ .start (.image src title) :: (inner ++ [e])) ⟨.image n, ts.map Tag.closing⟩ :=
    ⟨ts, .image src title h (hinner.append (.other he .nil)), rfl⟩
  cases e with
  | start t =>
    cases t with
    | image src' title' =>
      cases hx
      exact ⟨ts, .image src title h (.image src' title' hinner .nil), rfl⟩
    | _ => cases n <;> cases hx <;> exact hgrown rfl
  | stop t =>
    cases t with
    | image =>
      cases n with
      | zero =>
        cases hx
        exact ⟨ts, .flow (h.append (.image src title (Nested.zero_iff.1 hinner) .nil)), rfl⟩
      | succ n =>
        cases hx
        exact ⟨ts, .image src title h hinner.close, rfl⟩
    | _ => cases n <;> cases hx <;> exact hgrown rfl
  | _ => cases n <;> cases hx <;> exact hgrown rfl

/-- An event that is accepted keeps the shape explained. -/
theorem explains_next {es : List Event} {x y : Shape} (h : Explains es x) {e : Event}
    (hy : x.next e = .ok y) : Explains (es ++ [e]) y := by
  obtain ⟨mode, cs⟩ := x
  obtain ⟨ts, hes, rfl⟩ := h
  cases hes with
  | flow hes => exact explains_flow hes hy
  | code info hes hinner => simpa using explains_code info hes hinner hy
  | image src title hes hinner => simpa using explains_image src title hes hinner hy

/-- So a whole run does. -/
theorem explains_run {es fs : List Event} {x y : Shape} (h : Explains es x) (hy : x.run fs = .ok y) :
    Explains (es ++ fs) y := by
  induction fs generalizing es x with
  | nil =>
    cases hy
    simpa using h
  | cons e fs ih =>
    rw [Shape.run] at hy
    cases hx : x.next e with
    | error err =>
      rw [hx] at hy
      cases hy
    | ok z =>
      rw [hx] at hy
      simpa using ih (explains_next h hx) hy

theorem explains_of_run {es : List Event} {x : Shape} (h : Shape.run {} es = .ok x) : Explains es x := by
  have hempty : Explains [] {} := ⟨[], .flow (.document .nil), rfl⟩
  simpa using explains_run hempty h

/-! ## Acceptance and errors -/

theorem depth_eq_openCount (ts : List Tag) (mode : Mode) :
    (⟨mode, ts.map Tag.closing⟩ : Shape).depth = openCount ts mode := by
  simp [Shape.depth, openCount]

/-- Only an end is refused, and the error names what it could have closed. -/
theorem next_error {ts : List Tag} {mode : Mode} {e : Event} {err : CompileError}
    (h : Shape.next ⟨mode, ts.map Tag.closing⟩ e = .error err) :
    ∃ t, e = .stop t ∧ err = .unbalanced (innermost ts mode) t := by
  cases mode with
  | flow =>
    cases e with
    | stop t =>
      refine ⟨t, rfl, ?_⟩
      cases ts with
      | nil =>
        cases h
        rfl
      | cons u ts =>
        simp only [Shape.next, Shape.stop, List.map_cons] at h
        split at h
        · cases h
        · cases h
          rfl
    | _ => cases h
  | code =>
    cases e with
    | stop t =>
      refine ⟨t, rfl, ?_⟩
      cases t <;> cases h <;> rfl
    | _ => cases h
  | image n =>
    cases e with
    | start t => cases t <;> cases n <;> cases h
    | stop t => cases t <;> cases n <;> cases h
    | _ => cases n <;> cases h

theorem Document.finish {es : List Event} (h : Document es) :
    (Shape.run {} es).bind Shape.finish = .ok () := by
  rw [h.run []]
  rfl

/-- What runs to the end is a document or leaves something open. -/
theorem Leaves.finish {es : List Event} {ts : List Tag} {mode : Mode} (h : Leaves es ts mode) :
    (Shape.run {} es).bind Shape.finish =
      if openCount ts mode = 0 then .ok () else .error (.unclosed (openCount ts mode)) := by
  rw [h.run]
  simp only [Except.bind, Shape.finish, depth_eq_openCount]

theorem document_iff_finish {es : List Event} :
    (Shape.run {} es).bind Shape.finish = .ok () ↔ Document es := by
  constructor
  · intro h
    cases hrun : Shape.run {} es with
    | error err =>
      rw [hrun] at h
      cases h
    | ok x =>
      obtain ⟨mode, cs⟩ := x
      obtain ⟨ts, hes, rfl⟩ := explains_of_run hrun
      rw [hes.finish] at h
      split at h
      · rename_i hcount
        exact hes.document hcount
      · cases h
  · exact Document.finish

/-- After events from which a document can be reached, what was refused cannot be. -/
theorem not_viable_of_error {es : List Event} {x : Shape} {e : Event} {err : CompileError}
    (hx : Shape.run {} es = .ok x) (he : x.next e = .error err) : ¬ Viable (es ++ [e]) := by
  rintro ⟨rest, hrest⟩
  have herror : Shape.run {} (es ++ [e] ++ rest) = .error err := by
    apply Shape.run_append_error
    rw [Shape.run_append hx, Shape.run_singleton, he]
  have hok := hrest.run []
  rw [show (⟨.flow, []⟩ : Shape) = {} from rfl, herror] at hok
  cases hok

theorem fails_iff_finish {es : List Event} {err : CompileError} :
    (Shape.run {} es).bind Shape.finish = .error err ↔ Fails es err := by
  constructor
  · intro h
    cases hrun : Shape.run {} es with
    | error err' =>
      rw [hrun] at h
      cases h
      obtain ⟨pre, e, post, y, rfl, hpre, he⟩ := Shape.exists_of_run_error hrun
      have hnot := not_viable_of_error hpre he
      obtain ⟨mode, cs⟩ := y
      obtain ⟨ts, hopen, rfl⟩ := explains_of_run hpre
      obtain ⟨t, rfl, rfl⟩ := next_error he
      exact .unbalanced post hopen.viable hopen hnot
    | ok x =>
      obtain ⟨mode, cs⟩ := x
      obtain ⟨ts, hopen, rfl⟩ := explains_of_run hrun
      have hnot : ¬ Document es := by
        intro hes
        rw [hes.finish] at h
        cases h
      rw [hopen.finish] at h
      split at h
      · cases h
      · cases h
        exact .unclosed hopen.viable hnot hopen
  · intro h
    cases h with
    | @unbalanced es ts mode t rest hes hopen ht =>
      cases hnext : Shape.next ⟨mode, ts.map Tag.closing⟩ (.stop t) with
      | ok y =>
        have hrun : Shape.run {} (es ++ [.stop t]) = .ok y := by
          rw [Shape.run_append hopen.run, Shape.run_singleton, hnext]
        obtain ⟨us, hopen', -⟩ := explains_of_run hrun
        exact absurd hopen'.viable ht
      | error err =>
        obtain ⟨u, hu, rfl⟩ := next_error hnext
        cases hu
        rw [Shape.run_append hopen.run, Shape.run, hnext]
        rfl
    | unclosed hes hnot hopen =>
      rw [hopen.finish, if_neg fun hcount => hnot (hopen.document hcount)]

/-- **Exactly the documents compile**, with every markup and all options, and what is no document
fails in the way that the grammar tells. -/
theorem compile_accepts_iff {σ : Type} (m : Markup σ) (o : Options) (s : σ) (es : List Event) :
    ((∃ out, (compile m o s es).1 = .ok out) ↔ Document es) ∧
      ∀ err, (compile m o s es).1 = .error err ↔ Fails es err := by
  have hshape := Compile.build_shape (m.builder o.sanitize) o.breaks s es
  rw [show build (m.builder o.sanitize) o.breaks s es = compile m o s es from rfl] at hshape
  refine ⟨?_, fun err => ?_⟩
  · rw [← document_iff_finish, ← hshape]
    cases (compile m o s es).1 with
    | ok out => simp [Except.map]
    | error err => simp [Except.map]
  · rw [← fails_iff_finish, ← hshape]
    cases (compile m o s es).1 with
    | ok out => simp [Except.map]
    | error err' => simp [Except.map]

end Grammar
end Marktree
