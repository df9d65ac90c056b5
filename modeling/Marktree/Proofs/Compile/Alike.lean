import Marktree.Proofs.Compile.Transport

/-!
# What operations leave alone

Content is added, rows are put over tables and constructs are closed without a change to what else is
open, to what is collected apart or to the text of a heading (`Pass.Alike`). That is said here
once; what is read off these alone is then left alone too.
-/
namespace Marktree.Compile

def Role.isHeading {α : Type} : Role α → Bool
  | .heading _ => true
  | _ => false

namespace TablePlace

/-- The place after the start of a construct. -/
def entered (place : TablePlace) : Tag → TablePlace
  | .table columns => .before columns
  | .head => { place with inHead := true, column := 0 }
  | .row => { place with column := 0 }
  | _ => place

/-- The place after the end of a construct. -/
def left {α : Type} (place : TablePlace) : Role α → TablePlace
  | .head => { place with inHead := false }
  | .cell .. => { place with column := place.column + 1 }
  | _ => place

end TablePlace

namespace Pass

variable {α σ : Type}

/-- The open constructs without their contents. -/
def outline (p : Pass α σ) : List (Frame Unit) :=
  p.frames.map (Frame.map fun _ => ())

/-- Two passes differ in contents and in the state of the builder alone. -/
structure Alike (p q : Pass α σ) : Prop where
  outline : q.outline = p.outline
  capture : q.capture = p.capture
  table : q.table = p.table
  heading : q.heading = p.heading

/-- Two passes differ in contents alone. -/
structure Refilled (p q : Pass α σ) : Prop extends p.Alike q where
  state : q.state = p.state

theorem refilled_setHeader (p : Pass α σ) (row : α) : p.Refilled (p.setHeader row) := by
  obtain ⟨state, document, frames, capture, table, heading⟩ := p
  match frames with
  | [] => exact ⟨⟨rfl, rfl, rfl, rfl⟩, rfl⟩
  | ⟨role, closing, content⟩ :: fs => cases role <;> exact ⟨⟨rfl, rfl, rfl, rfl⟩, rfl⟩

variable [Content α]

theorem refilled_push (p : Pass α σ) (x : α) : p.Refilled (p.push x) := by
  obtain ⟨state, document, frames, capture, table, heading⟩ := p
  cases frames <;> exact ⟨⟨rfl, rfl, rfl, rfl⟩, rfl⟩

theorem alike_answer (b : Builder α σ) (p : Pass α σ) (c : Construct α) : p.Alike (p.answer b c) := by
  obtain ⟨houtline, hcapture, htable, hheading⟩ :=
    (refilled_push { p with state := (b c p.state).2 } (b c p.state).1).toAlike
  exact ⟨houtline, hcapture, htable, hheading⟩

theorem alike_htmlLine (b : Builder α σ) (p : Pass α σ) (s : String) : p.Alike (p.htmlLine b s) := by
  unfold htmlLine
  split
  · exact (refilled_push _ _).toAlike
  · exact alike_answer _ _ _

theorem table_start (p : Pass α σ) (t : Tag) : (p.start t).table = p.table.entered t := by
  cases t <;> rfl

/-- A heading that closes takes its plain text along, and a part of a table moves the place in it. -/
theorem alike_close (b : Builder α σ) (p : Pass α σ) (x : Frame α) :
    { p with
      table := p.table.left x.role
      heading := if x.role.isHeading then none else p.heading }.Alike (p.close b x) := by
  obtain ⟨role, closing, content⟩ := x
  cases role with
  | heading l => exact alike_answer b { p with heading := none } _
  | head =>
    obtain ⟨houtline, hcapture, htable, hheading⟩ := (refilled_setHeader { p with
      state := (b (.wrap .row content) p.state).2
      table := { p.table with inHead := false } } (b (.wrap .row content) p.state).1).toAlike
    exact ⟨houtline, hcapture, htable, hheading⟩
  | cell header align =>
    exact alike_answer b { p with table := { p.table with column := p.table.column + 1 } } _
  | through => exact (refilled_push p content).toAlike
  | _ => exact alike_answer b p _

end Pass
end Marktree.Compile
