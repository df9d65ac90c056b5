import Marktree.Proofs.Compile.Alike

/-!
# Shapes of compilations

Whether an event is accepted is told by what is open: the ends that the frames wait for, and whether
a code block or an image is collected apart from them (`Pass.shape`). What a builder answers has no
part in it (`shape_step`), so events are accepted or not by running shapes alone (`build_shape`).
-/
namespace Marktree.Compile

/-- What is collected apart from the frames: nothing, a code block, or an image with the number of
images open inside it. -/
inductive Mode
  | flow
  | code
  | image (inner : Nat)
  deriving Repr, DecidableEq

/-- What is open, the frames from the inside out. -/
structure Shape where
  mode : Mode := .flow
  closings : List EndTag := []
  deriving Repr, DecidableEq

namespace Shape

def start (x : Shape) : Tag → Shape
  | .code _ => { x with mode := .code }
  | .image .. => { x with mode := .image 0 }
  | t => { x with closings := t.closing :: x.closings }

def stop (x : Shape) (t : EndTag) : Except CompileError Shape :=
  match x.closings with
  | [] => .error (.unbalanced .document t)
  | c :: cs =>
    if c = t then .ok { x with closings := cs } else .error (.unbalanced (.construct c) t)

def next (x : Shape) (e : Event) : Except CompileError Shape :=
  match x.mode, e with
  | .flow, .start t => .ok (x.start t)
  | .flow, .stop t => x.stop t
  | .code, .stop .code => .ok { x with mode := .flow }
  | .code, .stop t => .error (.unbalanced .codeBlock t)
  | .image n, .start (.image ..) => .ok { x with mode := .image (n + 1) }
  | .image 0, .stop .image => .ok { x with mode := .flow }
  | .image (n + 1), .stop .image => .ok { x with mode := .image n }
  | _, _ => .ok x

/-- The shape after events, or the error of the first that is not accepted. -/
def run (x : Shape) : List Event → Except CompileError Shape
  | [] => .ok x
  | e :: es =>
    match x.next e with
    | .ok y => y.run es
    | .error err => .error err

/-- The number of open constructs. -/
def depth (x : Shape) : Nat :=
  x.closings.length + if x.mode = .flow then 0 else 1

/-- The error of a document that ends in this shape. -/
def finish (x : Shape) : Except CompileError Unit :=
  if x.depth = 0 then .ok () else .error (.unclosed x.depth)

theorem run_append {x y : Shape} {es fs : List Event} (h : x.run es = .ok y) :
    x.run (es ++ fs) = y.run fs := by
  induction es generalizing x with
  | nil =>
    cases h
    rfl
  | cons e es ih =>
    simp only [List.cons_append, run] at h ⊢
    cases hx : x.next e with
    | ok z =>
      rw [hx] at h
      exact ih h
    | error err =>
      rw [hx] at h
      cases h

theorem run_append_error {x : Shape} {es fs : List Event} {err : CompileError}
    (h : x.run es = .error err) : x.run (es ++ fs) = .error err := by
  induction es generalizing x with
  | nil => cases h
  | cons e es ih =>
    simp only [List.cons_append, run] at h ⊢
    cases hx : x.next e with
    | ok z =>
      rw [hx] at h
      exact ih h
    | error err' =>
      rw [hx] at h
      exact h

theorem run_cons {x y : Shape} {e : Event} (h : x.next e = .ok y) (es : List Event) :
    x.run (e :: es) = y.run es := by
  rw [run, h]

theorem run_singleton (x : Shape) (e : Event) : x.run [e] = x.next e := by
  rw [run]
  cases x.next e <;> rfl

/-- A run that fails does so at a first event. -/
theorem exists_of_run_error {x : Shape} {es : List Event} {err : CompileError}
    (h : x.run es = .error err) :
    ∃ pre e post y, es = pre ++ e :: post ∧ x.run pre = .ok y ∧ y.next e = .error err := by
  induction es generalizing x with
  | nil => cases h
  | cons e es ih =>
    rw [run] at h
    cases hx : x.next e with
    | error err' =>
      rw [hx] at h
      cases h
      exact ⟨[], e, es, x, rfl, rfl, hx⟩
    | ok z =>
      rw [hx] at h
      obtain ⟨pre, e', post, y, rfl, hpre, hy⟩ := ih h
      exact ⟨e :: pre, e', post, y, rfl, by rw [run_cons hx, hpre], hy⟩

end Shape

/-! ## The shape of a pass -/

variable {α σ : Type}

def Capture.mode : Capture → Mode
  | .code .. => .code
  | .image inner .. => .image inner

namespace Pass

/-- The mode of what is collected. -/
def mode (p : Pass α σ) : Mode :=
  match p.capture with
  | none => .flow
  | some c => c.mode

/-- What is open, whatever has been built. -/
def shape (p : Pass α σ) : Shape :=
  { mode := p.mode, closings := p.frames.map (·.closing) }

theorem depth_shape (p : Pass α σ) : p.shape.depth = p.depth := by
  obtain ⟨state, document, frames, capture, table, heading⟩ := p
  rcases capture with _ | _ | _ <;> simp [shape, mode, Capture.mode, Shape.depth, depth]

/-- What is open is told without contents. -/
theorem Alike.shape {p q : Pass α σ} (h : p.Alike q) : q.shape = p.shape := by
  have hclosings (p : Pass α σ) : p.frames.map (·.closing) = p.outline.map (·.closing) := by
    rw [Pass.outline, List.map_map]
    rfl
  rw [Pass.shape, Pass.shape, mode, mode, h.capture, hclosings, h.outline, ← hclosings]

variable [Content α]

theorem shape_start (p : Pass α σ) (t : Tag) : (p.start t).shape = p.shape.start t := by
  cases t <;> rfl

theorem shape_stop (b : Builder α σ) (p : Pass α σ) (t : EndTag) :
    (p.stop b t).map shape = p.shape.stop t := by
  obtain ⟨state, document, frames, capture, table, heading⟩ := p
  match frames with
  | [] => rfl
  | f :: fs =>
    by_cases hf : f.closing = t
    · let popped : Pass α σ := ⟨state, document, fs, capture, table, heading⟩
      have hclose : (popped.close b f).shape = popped.shape := (alike_close b popped f).shape
      simp only [popped] at hclose
      simp only [stop, if_pos hf, Except.map, hclose]
      simp [Shape.stop, shape, mode, hf]
    · simp [stop, hf, Except.map, Shape.stop, shape]

theorem shape_flow (b : Builder α σ) (breaks : Bool) {p : Pass α σ} (hp : p.mode = .flow) (e : Event) :
    (p.flow b breaks e).map shape = p.shape.next e := by
  have hmode : p.shape.mode = .flow := hp
  have hanswer (c : Construct α) : (p.answer b c).shape = p.shape := (alike_answer _ _ _).shape
  have hnoted (c : Construct α) (s : String) : ((p.note s).answer b c).shape = p.shape :=
    (alike_answer _ _ _).shape
  cases e with
  | start t => simp [flow, Except.map, Shape.next, hmode, shape_start]
  | stop t => simp [flow, Shape.next, hmode, shape_stop]
  | html s => simp [flow, Except.map, Shape.next, hmode, (alike_htmlLine b p s).shape]
  | softBreak =>
    have hpush : ((p.note " ").push (Content.verbatim "\n")).shape = p.shape := (refilled_push _ _).shape
    cases breaks <;> simp [flow, softBreak, Except.map, Shape.next, hmode, hnoted, hpush]
  | text s | inlineMath s | displayMath s =>
    simp [flow, text, Except.map, Shape.next, hmode, hnoted]
  | code s => simp [flow, Except.map, Shape.next, hmode, hnoted]
  | _ => simp [flow, Except.map, Shape.next, hmode, hanswer]

theorem shape_codeBlock (b : Builder α σ) {p : Pass α σ} {language : Option String} {body : String}
    (hp : p.capture = some (.code language body)) (e : Event) :
    (p.codeBlock b language body e).map shape = p.shape.next e := by
  have hmode : p.mode = .code := by simp [mode, hp, Capture.mode]
  have hshape : p.shape.mode = .code := hmode
  have hclose : ({ p with capture := none }.answer b (.code body language)).shape =
      { p.shape with mode := .flow } := (alike_answer _ _ _).shape
  cases e with
  | stop t => cases t <;> simp [codeBlock, Except.map, Shape.next, hshape, hclose]
  | text s =>
    simp only [codeBlock, Except.map, Shape.next, hshape]
    simp [shape, mode, hp, Capture.mode]
  | _ => simp [codeBlock, Except.map, Shape.next, hshape]

theorem shape_imageAlt (b : Builder α σ) {p : Pass α σ} {inner : Nat} {src : String}
    {title : Option String} {alt : String} (hp : p.capture = some (.image inner src title alt))
    (e : Event) : .ok (p.imageAlt b inner src title alt e).shape = p.shape.next e := by
  have hmode : p.mode = .image inner := by simp [mode, hp, Capture.mode]
  have hshape : p.shape.mode = .image inner := hmode
  have hclose : ({ p with capture := none }.answer b (.image src title alt)).shape =
      { p.shape with mode := .flow } := (alike_answer _ _ _).shape
  have hcollect (n : Nat) (alt : String) :
      ({ p with capture := some (.image n src title alt) } : Pass α σ).shape =
        { p.shape with mode := .image n } := rfl
  have hsame : { p.shape with mode := .image inner } = p.shape := by rw [← hshape]
  cases e with
  | start t => cases t <;> simp [imageAlt, Shape.next, hshape, hcollect]
  | stop t =>
    cases t with
    | image => cases inner <;> simp [imageAlt, Shape.next, hshape, hcollect, hclose]
    | _ => simp [imageAlt, Shape.next, hshape]
  | text s | code s => simp [imageAlt, Shape.next, hshape, hcollect, hsame]
  | softBreak | hardBreak => simp [imageAlt, Shape.next, hshape, hcollect, hsame]
  | _ => simp [imageAlt, Shape.next, hshape]

/-- **What an event does to the shape is told by the shape alone.** -/
theorem shape_step (b : Builder α σ) (breaks : Bool) (p : Pass α σ) (e : Event) :
    (p.step b breaks e).map shape = p.shape.next e := by
  unfold step
  split
  · rename_i hp
    exact shape_flow b breaks (by simp [mode, hp]) e
  · rename_i hp
    exact shape_codeBlock b hp e
  · rename_i hp
    exact shape_imageAlt b hp e

/-- The run of a pass follows the run of its shape. -/
theorem shape_run (b : Builder α σ) (breaks : Bool) (p : Pass α σ) (es : List Event) :
    p.shape.run es =
      match p.run b breaks es with
      | (q, none) => .ok q.shape
      | (_, some err) => .error err := by
  induction es generalizing p with
  | nil => rfl
  | cons e es ih =>
    have hstep := shape_step b breaks p e
    rw [Shape.run, run, ← hstep]
    cases p.step b breaks e with
    | ok q => exact ih q
    | error err => rfl

end Pass

/-- **Whether events are accepted, and the error if they are not, is told by running shapes.** -/
theorem build_shape [Content α] (b : Builder α σ) (breaks : Bool) (s : σ) (es : List Event) :
    (build b breaks s es).1.map (fun _ => ()) = (Shape.run {} es).bind Shape.finish := by
  have hrun := Pass.shape_run b breaks (.initial s) es
  have hinitial : (Pass.initial s : Pass α σ).shape = {} := rfl
  rw [hinitial] at hrun
  rw [hrun, build]
  rcases Pass.run b breaks (.initial s) es with ⟨p, _ | err⟩
  · simp only [Except.bind, Shape.finish, Pass.depth_shape, Pass.finish]
    split <;> rfl
  · rfl

end Marktree.Compile
