import Marktree.Proofs.Compile.Run

/-!
# Heads of tables

Where the heads of tables stand is told by the events alone (`Event.HeadsPlaced`). If every head is a
part of a table that has no other one, the open frames are as the events tell (`nested_step`), no
content gets lost, and a law holds at the end of a run also if it does not hold of fewer contents
(`build_holds_placed`).
-/
namespace Marktree

namespace Event

/-- An open construct with a frame. Of a table it is known whether it has a head. -/
inductive Nest
  | table (headed : Bool)
  | head
  | other
  deriving Repr, DecidableEq

namespace Nest

/-- The constructs that are open once another one starts, from the inside out. Code blocks and images
have no frame. -/
def start (ns : List Nest) : Tag → List Nest
  | .code _ | .image .. => ns
  | .table _ => .table false :: ns
  | .head => .head :: ns
  | _ => .other :: ns

/-- The constructs that are open once the innermost one ends. The table around a head has a head from
then on. -/
def stop : List Nest → List Nest
  | .head :: .table _ :: ns => .table true :: ns
  | _ :: ns => ns
  | [] => []

def next (ns : List Nest) : Place → Event → List Nest
  | .flow, .start t => start ns t
  | .flow, .stop _ => stop ns
  | .block, .stop _ => stop ns
  | _, _ => ns

end Nest

/-- A head may start only in a table that has none yet. -/
def HeadPlaced (place : Place) (ns : List Nest) (e : Event) : Prop :=
  place = .flow → e = .start .head → ns.head? = some (.table false)

/-- Every head is a part of a table that has no other one. -/
def HeadsPlaced : Place → List Nest → List Event → Prop
  | _, _, [] => True
  | place, ns, e :: es => HeadPlaced place ns e ∧ HeadsPlaced (place.next e) (Nest.next ns place e) es

end Event

open Event (Place Along Nest HeadPlaced HeadsPlaced)

namespace Compile

variable {α σ : Type} [Content α]

/-- The open frames are as the events tell: a table without a head has an empty one, and a head stands
in such a table. -/
inductive Nested : List Nest → List (Frame α) → Prop
  | document : Nested [] []
  | table {ns : List Nest} {fs : List (Frame α)} {headed : Bool} {header : α} (closing : EndTag)
    (content : α) (hheader : headed = false → header = Content.empty) (hns : Nested ns fs) :
    Nested (.table headed :: ns) (⟨.table header, closing, content⟩ :: fs)
  | head {ns : List Nest} {fs : List (Frame α)} (closing : EndTag) (content : α)
    (hns : Nested (.table false :: ns) fs) :
    Nested (.head :: .table false :: ns) (⟨.head, closing, content⟩ :: fs)
  | other {ns : List Nest} {fs : List (Frame α)} {x : Frame α} (htable : ∀ header, x.role ≠ .table header)
    (hhead : x.role ≠ .head) (hns : Nested ns fs) : Nested (.other :: ns) (x :: fs)

namespace Pass

variable {b : Builder α σ} {p q : Pass α σ} {ns : List Nest}

theorem placed_of_nested (h : Nested ns p.frames) : p.Placed := by
  obtain ⟨state, document, frames, capture, table, heading⟩ := p
  rintro x fs rfl hx
  cases h with
  | table closing content hheader hns => cases hx
  | head closing content hns =>
    cases hns with
    | table closing content hheader hns =>
      obtain rfl := hheader rfl
      exact ⟨_, _, _, rfl⟩
  | other htable hhead hns => exact absurd hx hhead

theorem nested_push (h : Nested ns p.frames) (x : α) : Nested ns (p.push x).frames := by
  obtain ⟨state, document, frames, capture, table, heading⟩ := p
  cases h with
  | document => exact .document
  | table closing content hheader hns => exact .table closing _ hheader hns
  | head closing content hns => exact .head closing _ hns
  | other htable hhead hns => exact .other htable hhead hns

theorem nested_answer (h : Nested ns p.frames) (c : Construct α) : Nested ns (p.answer b c).frames :=
  nested_push (p := { p with state := (b c p.state).2 }) h _

theorem nested_htmlLine (h : Nested ns p.frames) (s : String) : Nested ns (p.htmlLine b s).frames := by
  unfold htmlLine
  split
  · exact nested_push h _
  · exact nested_answer h _

/-- The table around a head that ends has that head. -/
theorem nested_setHeader (h : Nested (.table false :: ns) p.frames) (row : α) :
    Nested (.table true :: ns) (p.setHeader row).frames := by
  obtain ⟨state, document, frames, capture, table, heading⟩ := p
  cases h with
  | table closing content hheader hns => exact .table closing content (by simp) hns

theorem nested_close {x : Frame α} (h : Nested ns (x :: p.frames)) :
    Nested (Nest.stop ns) (p.close b x).frames := by
  cases h with
  | table closing content hheader hns => exact nested_answer hns _
  | head closing content hns =>
    -- the next frame is the table that the head started in
    exact nested_setHeader (p := { p with
      state := (b (.wrap .row content) p.state).2
      table := { p.table with inHead := false } }) hns _
  | other htable hhead hns =>
    obtain ⟨role, closing, content⟩ := x
    cases role with
    | table header => exact absurd rfl (htable header)
    | head => exact absurd rfl hhead
    | heading l => exact nested_answer (p := { p with heading := none }) hns _
    | cell header align =>
      exact nested_answer (p := { p with table := { p.table with column := p.table.column + 1 } }) hns _
    | through => exact nested_push hns _
    | _ => exact nested_answer hns _

theorem nested_stop (h : Nested ns p.frames) {t : EndTag} (hq : p.stop b t = .ok q) :
    Nested (Nest.stop ns) q.frames := by
  obtain ⟨state, document, frames, capture, table, heading⟩ := p
  match frames with
  | [] => cases hq
  | x :: fs =>
    simp only [stop] at hq
    split at hq
    · cases hq
      exact nested_close (p := ⟨state, document, fs, capture, table, heading⟩) h
    · cases hq

theorem nested_start (h : Nested ns p.frames) {t : Tag} (ht : HeadPlaced .flow ns (.start t)) :
    Nested (Nest.start ns t) (p.start t).frames := by
  cases t with
  | code info => exact h
  | image src title => exact h
  | table columns => exact .table _ _ (fun _ => rfl) h
  | head =>
    obtain ⟨outer, rfl⟩ := List.head?_eq_some_iff.1 (ht rfl rfl)
    exact .head _ _ h
  | _ => exact .other (by simp) (by simp) h

theorem nested_flow {breaks : Bool} (h : Nested ns p.frames) {e : Event} (he : HeadPlaced .flow ns e)
    (hq : p.flow b breaks e = .ok q) : Nested (Nest.next ns .flow e) q.frames := by
  cases e with
  | start t => cases hq; exact nested_start h he
  | stop t => exact nested_stop h hq
  | html s => cases hq; exact nested_htmlLine h s
  | softBreak =>
    cases hq
    cases breaks with
    | true => exact nested_answer (p := p.note " ") h _
    | false => exact nested_push (p := p.note " ") h _
  | footnoteReference label => cases hq; exact h
  | text s | inlineMath s | displayMath s | code s => cases hq; exact nested_answer (p := p.note s) h _
  | _ => cases hq; exact nested_answer h _

theorem nested_codeBlock (h : Nested ns p.frames) {language : Option String} {body : String} {e : Event}
    (hq : p.codeBlock b language body e = .ok q) : Nested ns q.frames := by
  cases e with
  | stop t =>
    cases t with
    | code => cases hq; exact nested_answer (p := { p with capture := none }) h _
    | _ => cases hq
  | _ => cases hq; exact h

theorem nested_imageAlt (h : Nested ns p.frames) {inner : Nat} {src : String} {title : Option String}
    {alt : String} (e : Event) : Nested ns (p.imageAlt b inner src title alt e).frames := by
  cases e with
  | start t => cases t <;> exact h
  | stop t =>
    cases t with
    | image =>
      cases inner with
      | zero => exact nested_answer (p := { p with capture := none }) h _
      | succ n => exact h
    | _ => exact h
  | _ => exact h

/-- **The open frames are as the events tell.** -/
theorem nested_step {breaks : Bool} {place : Place} {e : Event} (hp : p.At place)
    (h : Nested ns p.frames) (hraw : Event.Raw place e) (he : HeadPlaced place ns e)
    (hq : p.step b breaks e = .ok q) : Nested (Nest.next ns place e) q.frames := by
  cases place with
  | flow =>
    rw [step, hp.1] at hq
    exact nested_flow h he hq
  | block =>
    rw [step, hp.1] at hq
    rcases hraw rfl with ⟨s, rfl⟩ | rfl
    · cases hq
      exact nested_htmlLine h s
    · exact nested_stop h hq
  | code body =>
    obtain ⟨⟨language, hc⟩, -⟩ := hp
    rw [step, hc] at hq
    exact nested_codeBlock h hq
  | image inner =>
    obtain ⟨⟨src, title, alt, hc⟩, -⟩ := hp
    rw [step, hc] at hq
    cases hq
    exact nested_imageAlt h e

variable {L : Law α σ} {breaks : Bool}

/-- **A run whose heads are placed keeps a law** that it allows. -/
theorem obeys_run_placed (hk : L.Kept b) {es : List Event} {place : Place} (hp : p.Obeys L)
    (hat : p.At place) (hn : Nested ns p.frames) (ha : Along L.Allows place es)
    (hheads : HeadsPlaced place ns es) (h : p.run b breaks es = (q, none)) : q.Obeys L := by
  let I (p : Pass α σ) (es : List Event) : Prop := p.Obeys L ∧ ∃ place ns,
    p.At place ∧ Nested ns p.frames ∧ Along L.Allows place es ∧ HeadsPlaced place ns es
  have hend : I q [] := by
    refine run_induction (fun {p q e es} hI hq => ?_) ⟨hp, place, ns, hat, hn, ha, hheads⟩ h
    obtain ⟨hp, place, ns, hat, hn, ⟨he, hes⟩, hhead, hheads⟩ := hI
    have hplaced := placed_of_nested hn
    exact ⟨obeys_step hk hp (admits_of_at hat he (.inr hplaced)) hq, _, _, at_step hat he.block hq,
      nested_step hat hn he.block hhead hq, hes, hheads⟩
  exact hend.1

end Pass

end Compile

open Compile

variable {α σ : Type} [Content α] {b : Builder α σ} {breaks : Bool} {s s' : σ} {es : List Event} {x : α}
  {L : Law α σ}

theorem build_holds_placed (hk : L.Kept b) (h₀ : L.Holds [Content.empty] s)
    (ha : Along L.Allows .flow es) (hheads : HeadsPlaced .flow [] es)
    (h : build b breaks s es = (.ok x, s')) : L.Holds [x] s' := by
  obtain ⟨p, hr, hf, rfl, rfl⟩ := build_ok h
  have hat : (Pass.initial s : Pass α σ).At .flow := ⟨rfl, by simp [Pass.blocks, Pass.initial]⟩
  have := (Pass.obeys_run_placed hk (Pass.obeys_initial h₀) hat .document ha hheads hr).holds
  simpa [Pass.contents, hf] using this

end Marktree
