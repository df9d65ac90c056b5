import Marktree.Markup.Html
import Marktree.Proofs.Compile.Turn

/-!
# One document after another

What a document leaves behind in a pass is what it built, the state of the markup, and a place in its
last table (`run_of_build`). The place is used by the parts of tables alone, and a table that starts
sets it anew. So events whose heads, rows and cells are inside of tables (`Grammar.InTables`) compile
after a document as they do by themselves, with the markup in the state that the document left it in
(`compile_append`).
-/
namespace Marktree

/-- A head, a row or a cell. -/
def Tag.isTablePart : Tag → Bool
  | .head | .row | .cell => true
  | _ => false

/-- Every head, row and cell that starts after events with frames alone open is inside of a table. What
stands in a code block or in an image starts nothing. -/
def Grammar.InTables (es : List Event) : Prop :=
  ∀ ⦃pre : List Event⦄ ⦃t : Tag⦄ ⦃post : List Event⦄ ⦃ts : List Tag⦄, es = pre ++ .start t :: post →
    t.isTablePart → Frames pre ts → ∃ columns, .table columns ∈ ts

namespace Compile

/-! ## Parts of tables -/

namespace Shape

/-- An event starts no part of a table, or one inside of a table. -/
def tableOpen (x : Shape) : Event → Bool
  | .start t => !t.isTablePart || x.mode != .flow || x.closings.contains .table
  | _ => true

/-- Every event up to the first that is not accepted starts parts of tables inside of tables alone. -/
def tablesOpen (x : Shape) : List Event → Bool
  | [] => true
  | e :: es =>
    x.tableOpen e &&
      match x.next e with
      | .ok y => y.tablesOpen es
      | .error _ => true

theorem tablesOpen_iff {x : Shape} {es : List Event} :
    x.tablesOpen es ↔ ∀ pre t post y, es = pre ++ .start t :: post → t.isTablePart →
      x.run pre = .ok y → y.mode = .flow → .table ∈ y.closings := by
  induction es generalizing x with
  | nil => simp [tablesOpen]
  | cons e es ih =>
    simp only [tablesOpen, Bool.and_eq_true]
    constructor
    · rintro ⟨he, hes⟩ pre t post y hsplit ht hy hm
      cases pre with
      | nil =>
        cases hsplit
        cases hy
        simpa [tableOpen, ht, hm] using he
      | cons e' pre =>
        cases hsplit
        rw [run] at hy
        cases hx : x.next e with
        | error err =>
          rw [hx] at hy
          cases hy
        | ok z =>
          rw [hx] at hes hy
          exact ih.1 hes pre t post y rfl ht hy hm
    · intro h
      refine ⟨?_, ?_⟩
      · cases e with
        | start t =>
          have hopen := h [] t es x rfl
          cases ht : t.isTablePart with
          | false => simp [tableOpen, ht]
          | true =>
            by_cases hm : x.mode = .flow
            · simpa [tableOpen, ht, hm] using hopen ht rfl hm
            · simp [tableOpen, hm]
        | _ => rfl
      · cases hx : x.next e with
        | error err => rfl
        | ok y =>
          refine ih.2 fun pre t post z hsplit ht hz hm => ?_
          exact h (e :: pre) t post z (by rw [hsplit]; rfl) ht (by rw [run_cons hx, hz]) hm

end Shape

/-- Whether parts of tables are inside of tables is told by running shapes. -/
theorem inTables_iff {es : List Event} : Grammar.InTables es ↔ Shape.tablesOpen {} es := by
  rw [Shape.tablesOpen_iff]
  constructor
  · intro h pre t post x hes ht hx hm
    obtain ⟨ts, hts, hclosings⟩ := Grammar.explains_of_run hx
    rw [hm] at hts
    cases hts with
    | flow hframes =>
      obtain ⟨columns, htable⟩ := h hes ht hframes
      rw [hclosings]
      exact List.mem_map_of_mem (f := Tag.closing) htable
  · intro h pre t post ts hes ht hframes
    obtain ⟨u, hu, hclosing⟩ := List.mem_map.1 (h pre t post _ hes ht hframes.run rfl)
    cases u with
    | table columns => exact ⟨columns, hu⟩
    | _ => cases hclosing

instance (es : List Event) : Decidable (Grammar.InTables es) :=
  decidable_of_iff _ inTables_iff.symm

/-- A part of a table that moves the place in it when it closes. -/
def Role.movesPlace {α : Type} : Role α → Bool
  | .head | .cell .. => true
  | _ => false

theorem movesPlace_map {α β : Type} (f : α → β) (role : Role α) :
    (role.map f).movesPlace = role.movesPlace := by
  cases role <;> rfl

namespace Pass

variable {σ : Type} {b : Builder String σ} {breaks : Bool} {p q : Pass String σ} {out : String}
  {place : TablePlace}

/-! ## A pass that follows a document -/

/-- The pass with `out` before all that it builds, and at another place in the table. -/
def onto (p : Pass String σ) (out : String) (place : TablePlace) : Pass String σ :=
  { p with document := out ++ p.document, table := place }

theorem push_onto (p : Pass String σ) (x : String) :
    (p.onto out place).push x = (p.push x).onto out place := by
  obtain ⟨state, document, frames, capture, table, heading⟩ := p
  cases frames with
  | nil => simp [push, onto, Content.append, String.append_assoc]
  | cons f fs => rfl

theorem answer_onto (p : Pass String σ) (c : Construct String) :
    (p.onto out place).answer b c = (p.answer b c).onto out place :=
  push_onto { p with state := (b c p.state).2 } (b c p.state).1

theorem setHeader_onto (p : Pass String σ) (row : String) :
    (p.onto out place).setHeader row = (p.setHeader row).onto out place := by
  obtain ⟨state, document, frames, capture, table, heading⟩ := p
  match frames with
  | [] => rfl
  | ⟨role, closing, content⟩ :: fs => cases role <;> rfl

theorem htmlLine_onto (p : Pass String σ) (s : String) :
    (p.onto out place).htmlLine b s = (p.htmlLine b s).onto out place := by
  have hanswer : (p.onto out place).answer b (.html (Content.verbatim s)) = _ := answer_onto p _
  have hpush : (p.onto out place).push (Content.verbatim s) = _ := push_onto p _
  obtain ⟨state, document, frames, capture, table, heading⟩ := p
  match frames with
  | [] => exact hanswer
  | ⟨role, closing, content⟩ :: fs =>
    cases role with
    | html => exact hpush
    | _ => exact hanswer

/-- The place in the table shows where a cell starts. -/
theorem start_onto {t : Tag} (h : t = .cell → place = p.table) :
    (p.onto out place).start t = (p.start t).onto out (place.entered t) := by
  cases t with
  | cell =>
    obtain rfl := h rfl
    rfl
  | _ => rfl

theorem close_onto (p : Pass String σ) (x : Frame String) :
    (p.onto out place).close b x = (p.close b x).onto out (place.left x.role) := by
  obtain ⟨role, closing, content⟩ := x
  cases role with
  | heading l => exact answer_onto { p with heading := none } _
  | head =>
    exact setHeader_onto { p with
      state := (b (.wrap .row content) p.state).2
      table := { p.table with inHead := false } } _
  | cell header align =>
    exact answer_onto { p with table := { p.table with column := p.table.column + 1 } } _
  | through => exact push_onto p content
  | _ => exact answer_onto p _

/-- Where an event moves a place in the table to. -/
def moved (p : Pass String σ) (place : TablePlace) (e : Event) : TablePlace :=
  match p.capture, e, p.frames with
  | none, .start t, _ => place.entered t
  | none, .stop _, x :: _ => place.left x.role
  | _, _, _ => place

theorem moved_start (hc : p.capture = none) (t : Tag) : p.moved place (.start t) = place.entered t := by
  simp [moved, hc]

theorem moved_leaf {e : Event} (he : e.isLeaf) : p.moved place e = place := by
  cases e with
  | start t => cases he
  | stop t => cases he
  | _ => cases hc : p.capture <;> simp [moved, hc]

theorem moved_capture {c : Capture} (hc : p.capture = some c) (e : Event) : p.moved place e = place := by
  simp [moved, hc]

theorem stop_onto (hc : p.capture = none) (t : EndTag) :
    (p.onto out place).stop b t = (p.stop b t).map (·.onto out (p.moved place (.stop t))) := by
  obtain ⟨state, document, frames, capture, table, heading⟩ := p
  obtain rfl : capture = none := hc
  match frames with
  | [] => rfl
  | x :: fs =>
    have hclose : (onto ⟨state, document, fs, none, table, heading⟩ out place).close b x = _ :=
      close_onto _ x
    by_cases hx : x.closing = t
    · simpa [stop, onto, hx, Except.map, moved] using hclose
    · simp [stop, onto, hx, Except.map]

theorem flow_onto (hc : p.capture = none) {e : Event} (h : e = .start .cell → place = p.table) :
    (p.onto out place).flow b breaks e = (p.flow b breaks e).map (·.onto out (p.moved place e)) := by
  have hanswer (c : Construct String) (s : String) :
      ((p.onto out place).note s).answer b c = ((p.note s).answer b c).onto out place :=
    answer_onto (p.note s) c
  cases e with
  | start t =>
    rw [moved_start hc]
    exact congrArg Except.ok (start_onto fun ht => h (by rw [ht]))
  | stop t => exact stop_onto hc t
  | html s => rw [moved_leaf rfl]; exact congrArg Except.ok (htmlLine_onto p s)
  | softBreak =>
    rw [moved_leaf rfl]
    cases breaks with
    | true => exact congrArg Except.ok (hanswer .lineBreak " ")
    | false => exact congrArg Except.ok (push_onto (p.note " ") (Content.verbatim "\n"))
  | footnoteReference label => rw [moved_leaf rfl]; rfl
  | text s | inlineMath s | displayMath s | code s =>
    rw [moved_leaf rfl]
    exact congrArg Except.ok (hanswer _ s)
  | _ =>
    rw [moved_leaf rfl]
    exact congrArg Except.ok (answer_onto p _)

theorem codeBlock_onto (p : Pass String σ) (language : Option String) (body : String) (e : Event) :
    (p.onto out place).codeBlock b language body e =
      (p.codeBlock b language body e).map (·.onto out place) := by
  cases e with
  | stop t =>
    cases t with
    | code => exact congrArg Except.ok (answer_onto { p with capture := none } _)
    | _ => rfl
  | _ => rfl

theorem imageAlt_onto (p : Pass String σ) (inner : Nat) (src : String) (title : Option String)
    (alt : String) (e : Event) :
    (p.onto out place).imageAlt b inner src title alt e =
      (p.imageAlt b inner src title alt e).onto out place := by
  cases e with
  | start t => cases t <;> rfl
  | stop t =>
    cases t with
    | image =>
      cases inner with
      | zero => exact answer_onto { p with capture := none } _
      | succ n => rfl
    | _ => rfl
  | _ => rfl

/-- An event does the same after a document, unless it starts a cell and the places differ. -/
theorem step_onto {e : Event} (h : p.capture = none → e = .start .cell → place = p.table) :
    (p.onto out place).step b breaks e = (p.step b breaks e).map (·.onto out (p.moved place e)) := by
  have hcapture : (p.onto out place).capture = p.capture := rfl
  unfold step
  rw [hcapture]
  split
  · rename_i hc
    exact flow_onto hc (h hc)
  · rename_i hc
    rw [moved_capture hc]
    exact codeBlock_onto p _ _ e
  · rename_i hc
    rw [moved_capture hc]
    exact congrArg Except.ok (imageAlt_onto p _ _ _ _ e)

/-! ## Tables -/

/-- No table is open, and no construct that moves the place in one when it closes. -/
def Tableless (p : Pass String σ) : Prop :=
  ∀ x ∈ p.outline, x.closing ≠ .table ∧ x.role.movesPlace = false

/-- Another place does as well, as it is the same or no table is open. -/
def Takes (p : Pass String σ) (place : TablePlace) : Prop :=
  place = p.table ∨ p.Tableless

theorem Takes.alike (h : p.Takes place) (ha : p.Alike q) : q.Takes place := by
  rw [Takes, Tableless, ha.table, ha.outline]
  exact h

theorem takes_start (h : p.Takes place) {t : Tag} (ht : t.isTablePart → place = p.table) :
    (p.start t).Takes (place.entered t) := by
  have heq (hp : place = p.table) : (p.start t).Takes (place.entered t) :=
    .inl (by rw [table_start, hp])
  rcases h with hp | htableless
  · exact heq hp
  · have hin (role : Role String) (closing : EndTag) (hc : closing ≠ .table)
        (hr : role.movesPlace = false) (heading : Option String) :
        ({ p with heading }.enter role closing).Takes place :=
      .inr (List.forall_mem_cons.2 ⟨⟨hc, (movesPlace_map _ _).trans hr⟩, htableless⟩)
    cases t with
    | table columns => exact .inl rfl
    | head => exact heq (ht rfl)
    | row => exact heq (ht rfl)
    | cell => exact heq (ht rfl)
    | code info => exact .inr htableless
    | image src title => exact .inr htableless
    | _ => exact hin _ _ (by simp [Tag.closing]) rfl _

theorem takes_step {e : Event} (h : p.Takes place)
    (ht : p.capture = none → ∀ t : Tag, e = .start t → t.isTablePart → place = p.table)
    (hq : p.step b breaks e = .ok q) : q.Takes (p.moved place e) := by
  cases turn_of_step hq with
  | start t hc =>
    rw [moved_start hc]
    exact takes_start h (ht hc t rfl)
  | @stop x fs hc hf =>
    have hmoved : p.moved place (.stop x.closing) = place.left x.role := by simp [moved, hc, hf]
    rw [hmoved]
    refine Takes.alike ?_ (alike_close b { p with frames := fs } x)
    rcases h with rfl | htableless
    · exact .inl rfl
    · rw [Tableless, outline, hf] at htableless
      exact .inr (List.forall_mem_cons.1 htableless).2
  | leaf s hc he ha =>
    rw [moved_leaf he]
    exact Takes.alike (p := p.note s) h ha
  | collect hc next =>
    rw [moved_capture hc]
    exact h
  | finish hc ha =>
    rw [moved_capture hc]
    exact Takes.alike (p := { p with capture := none }) h ha

/-- A table that is open came after the document, and so did the place in it. -/
theorem Takes.of_mem (h : p.Takes place) (hm : .table ∈ p.shape.closings) : place = p.table := by
  rcases h with hp | htableless
  · exact hp
  · obtain ⟨x, hx, hclosing⟩ := List.mem_map.1 hm
    exact absurd hclosing (htableless (x.map fun _ => ()) (List.mem_map_of_mem hx)).1

/-- **Events do the same in a pass that follows a document.** -/
theorem run_onto (b : Builder String σ) (breaks : Bool) (out : String) {es : List Event}
    (h : p.Takes place) (ht : p.shape.tablesOpen es) :
    ∃ place', (p.onto out place).run b breaks es =
      ((p.run b breaks es).1.onto out place', (p.run b breaks es).2) := by
  induction es generalizing p place with
  | nil => exact ⟨place, rfl⟩
  | cons e es ih =>
    obtain ⟨hpart, hrest⟩ := Bool.and_eq_true_iff.1 ht
    have hplace : p.capture = none → ∀ t : Tag, e = .start t → t.isTablePart → place = p.table := by
      rintro hc t rfl htp
      exact h.of_mem (by simpa [Shape.tableOpen, htp, shape, mode, hc] using hpart)
    have hstep : (p.onto out place).step b breaks e = _ := step_onto fun hc he => hplace hc .cell he rfl
    have hshape := shape_step b breaks p e
    rw [run, run, hstep]
    cases hq : p.step b breaks e with
    | error err => exact ⟨place, rfl⟩
    | ok q =>
      rw [hq] at hshape
      rw [← hshape] at hrest
      exact ih (takes_step h hplace hq) hrest

/-! ## The end of a document -/

theorem finish_onto (p : Pass String σ) :
    (p.onto out place).finish = p.finish.map (out ++ ·) := by
  unfold finish
  rw [show (p.onto out place).depth = p.depth from rfl]
  split <;> rfl

/-- **A document leaves its output, the state of the builder, and a place in a table.** -/
theorem run_of_build {s s₁ : σ} {es : List Event} (h : build b breaks s es = (.ok out, s₁)) :
    ∃ place, run b breaks (initial s) es = ((initial s₁).onto out place, none) := by
  obtain ⟨p, hr, hfinish, rfl⟩ := run_of_build_ok h
  have htitled : p.Titled := titled_run (fun hs => by cases hs) hr
  obtain ⟨hframes, hcapture, hout⟩ := eq_of_finish hfinish
  obtain ⟨state, document, frames, capture, table, heading⟩ := p
  subst hframes hcapture hout
  cases heading with
  | none => exact ⟨table, by simpa [initial, onto, Content.empty] using hr⟩
  | some raw =>
    obtain ⟨x, hx, -⟩ := htitled rfl
    cases hx

end Pass
end Compile

open Compile

/-- **Documents compile one after another.** After events that compile, events whose parts of tables
are inside of tables give what they give by themselves, from the state that the first leave. -/
theorem compile_append {σ : Type} {m : Markup σ} {o : Options} {s s₁ : σ} {es₁ es₂ : List Event}
    {out₁ : String} (h : compile m o s es₁ = (.ok out₁, s₁)) (htables : Grammar.InTables es₂) :
    compile m o s (es₁ ++ es₂) =
      ((compile m o s₁ es₂).1.map (out₁ ++ ·), (compile m o s₁ es₂).2) := by
  obtain ⟨place, hfirst⟩ := Pass.run_of_build h
  have htakes : (Pass.initial s₁ : Pass String σ).Takes place := .inr fun x hx => by cases hx
  obtain ⟨place', hsecond⟩ :=
    Pass.run_onto (m.builder o.sanitize) o.breaks out₁ htakes (inTables_iff.1 htables)
  rw [compile, compile, build, build, Pass.run_append hfirst, hsecond]
  rcases Pass.run (m.builder o.sanitize) o.breaks (.initial s₁) es₂ with ⟨q, _ | err⟩
  · exact Prod.ext (Pass.finish_onto q) rfl
  · rfl

/-- The second table has no centred column, and the second heading has another anchor. -/
theorem compile_append_tables :
    let es₁ : List Event :=
      [.start (.heading 0), .text "a", .stop (.heading 0), .start (.table [some .center]), .start .head,
        .start .cell, .text "b", .stop .cell, .stop .head, .stop .table]
    let es₂ : List Event :=
      [.start (.heading 0), .text "a", .stop (.heading 0), .start (.table [none]), .start .row,
        .start .cell, .text "c", .stop .cell, .stop .row, .stop .table]
    let out₁ := "<h1 id=\"a\">a</h1><table><thead><tr><th style=\"text-align:center\">b</th></tr></thead>" ++
      "<tbody></tbody></table>"
    let out₂ := "<h1 id=\"a-1\">a</h1><table><thead></thead><tbody><tr><td>c</td></tr></tbody></table>"
    compile (Html.markup false) .default {} es₁ = (.ok out₁, ⟨[("a", 0)]⟩) ∧ Grammar.InTables es₂ ∧
      compile (Html.markup false) .default {} (es₁ ++ es₂) =
        (.ok (out₁ ++ out₂), ⟨[("a", 1), ("a", 0)]⟩) := by
  intro es₁ es₂ out₁ out₂
  have hfirst : compile (Html.markup false) .default {} es₁ = (.ok out₁, ⟨[("a", 0)]⟩) := rfl
  have hsecond : compile (Html.markup false) .default ⟨[("a", 0)]⟩ es₂ =
      (.ok out₂, ⟨[("a", 1), ("a", 0)]⟩) := rfl
  have htables : Grammar.InTables es₂ := by decide
  refine ⟨hfirst, htables, ?_⟩
  rw [compile_append hfirst htables, hsecond]
  rfl

end Marktree
