import Marktree.Proofs.Compile.Heads
import Marktree.Proofs.Markup.Custody
import Marktree.Proofs.Markup.Tokens

/-!
# Every node is consumed

While a document is compiled, every slot that holds a node is named by a token in one of the open
contents (`naming`), as long as no content gets lost: nothing is barred, and no table has two heads.
At the end the document is the only content, and reading it empties the last slots. The calls of a
compilation are noted in a journal beside it (`Journal.markup`), so that the nodes of the document are
accounted for (`consumed_of_compile`).
-/
namespace Marktree.TreeBuilder

open Node (walkAll)
open Node.Placeholder (Spelled slots)

/-- Every slot that holds a node is named in one of the contents, and these are tokens and newlines. -/
def naming : Compile.Law String TreeBuilder where
  Holds l b := (∀ x ∈ l, Spelled x) ∧
    ∀ i n, b.registry.get? i = some n → ∃ x ∈ l, i ∈ slots x
  Block _ := True
  Body _ := True
  raw := True
  mixed := False

variable {l : List String} {b : TreeBuilder}

theorem naming_cons {x : String} (hx : Spelled x) (h : naming.Holds l b) : naming.Holds (x :: l) b := by
  refine ⟨List.forall_mem_cons.2 ⟨hx, h.1⟩, fun i n hn => ?_⟩
  obtain ⟨y, hy, hi⟩ := h.2 i n hn
  exact ⟨y, List.mem_cons_of_mem x hy, hi⟩

theorem naming_append {x y : String} (h : naming.Holds (x :: y :: l) b) :
    naming.Holds ((x ++ y) :: l) b := by
  obtain ⟨hspelled, hnamed⟩ := h
  obtain ⟨hx, hrest⟩ := List.forall_mem_cons.1 hspelled
  obtain ⟨hy, hrest⟩ := List.forall_mem_cons.1 hrest
  refine ⟨List.forall_mem_cons.2 ⟨Node.Placeholder.spelled_append hx hy, hrest⟩, fun i n hn => ?_⟩
  obtain ⟨z, hz, hi⟩ := hnamed i n hn
  have hboth := Node.Placeholder.slots_append hx hy
  rcases List.mem_cons.1 hz with rfl | hz
  · exact ⟨_, List.mem_cons_self .., by rw [hboth]; exact List.mem_append_left _ hi⟩
  · rcases List.mem_cons.1 hz with rfl | hz
    · exact ⟨_, List.mem_cons_self .., by rw [hboth]; exact List.mem_append_right _ hi⟩
    · exact ⟨z, List.mem_cons_of_mem _ hz, hi⟩

/-- What was read is no longer held, and what is registered is named by the answer. -/
theorem naming_markup {c : Construct String} (h : naming.Holds (c.contents ++ l) b) :
    naming.Holds ((markup false c b).1 :: l) (markup false c b).2 := by
  obtain ⟨hspelled, hnamed⟩ := h
  rcases markup_cases false c b with hrefuses | ⟨n, r, hmakes⟩
  · cases hrefuses.restricted
  · have hanswer : Spelled (markup false c b).1 := by
      rw [hmakes.answer]
      exact ⟨_, Node.Mark.stream_encode _⟩
    refine ⟨List.forall_mem_cons.2 ⟨hanswer, (List.forall_mem_append.1 hspelled).2⟩, fun i m hm => ?_⟩
    rw [hmakes.registry, Node.Registry.get?_register] at hm
    split at hm
    · rename_i hi
      refine ⟨_, List.mem_cons_self .., ?_⟩
      rw [hmakes.answer, Node.Placeholder.slots_encode, hi, hmakes.moves.size]
      exact List.mem_singleton_self _
    · -- a slot that is still full was full before and was not read, so another content names it
      have hread : i ∉ c.contents.flatMap slots := fun hi => by
        rw [hmakes.empty i hi] at hm
        cases hm
      have hbefore : b.registry.get? i = some m := by
        rcases hmakes.moves.get? i with hnone | hsame
        · rw [hnone] at hm
          cases hm
        · rw [← hsame, hm]
      obtain ⟨x, hx, hi⟩ := hnamed i m hbefore
      rcases List.mem_append.1 hx with hx | hx
      · exact absurd (List.mem_flatMap.2 ⟨x, hx, hi⟩) hread
      · exact ⟨x, List.mem_cons_of_mem _ hx, hi⟩

theorem contents_escaped (sanitize : Bool) (c : Construct String) :
    (c.escaped sanitize).contents = c.contents := by
  cases c with
  | html raw => cases sanitize <;> rfl
  | _ => rfl

theorem naming_kept (sanitize : Bool) : naming.Kept ((markup false).builder sanitize) where
  perm hl h := by
    refine ⟨fun x hx => h.1 x (hl.mem_iff.2 hx), fun i n hn => ?_⟩
    obtain ⟨x, hx, hi⟩ := h.2 i n hn
    exact ⟨x, hl.mem_iff.1 hx, hi⟩
  empty h := naming_cons ⟨[], rfl⟩ h
  dropEmpty h := by
    refine ⟨(List.forall_mem_cons.1 h.1).2, fun i n hn => ?_⟩
    obtain ⟨x, hx, hi⟩ := h.2 i n hn
    rcases List.mem_cons.1 hx with rfl | hx
    · have hnil : slots Content.empty = [] := Node.Placeholder.slots_empty
      rw [hnil] at hi
      cases hi
    · exact ⟨x, hx, hi⟩
  append h := naming_append h
  newline h := naming_cons ⟨[.newline], rfl⟩ h
  answer _ h := by
    rw [← contents_escaped sanitize] at h
    exact naming_markup h
  html {x l s} _ h := by
    have hnone : ((Construct.html x).escaped sanitize).contents ++ l = l := by
      rw [contents_escaped]
      rfl
    exact naming_markup (hnone.symm ▸ h)
  blockEmpty := trivial
  blockRaw _ _ := trivial
  blockLine _ _ _ _ := trivial
  blockMixed h := h.elim

/-- Reading the last content empties every slot. -/
theorem unconsumed_finish {stream : String} (h : naming.Holds [stream] b) :
    (b.finish stream).2.registry.nodes = [] := by
  refine Node.Registry.nodes_eq_nil fun i => (get?_read b stream i).trans ?_
  split
  · rfl
  · rename_i hi
    refine Option.eq_none_iff_forall_ne_some.2 fun n hn => ?_
    obtain ⟨x, hx, hix⟩ := h.2 i n hn
    obtain rfl := List.mem_singleton.1 hx
    exact hi hix

/-! ## The journal of a compilation -/

namespace Journal

/-- The markup that builds nodes and notes every call. -/
def markup (restrict : Bool) : Markup Journal := fun c j =>
  ((TreeBuilder.markup restrict c j.builder).1, j.record restrict (.answer c))

theorem translates_builder (restrict sanitize : Bool) :
    Compile.Translates id builder ((markup restrict).builder sanitize)
      ((TreeBuilder.markup restrict).builder sanitize) where
  empty := rfl
  append _ _ := rfl
  verbatim _ := rfl
  answer c j := by cases c <;> rfl

/-- A compilation can be noted, and the journal is in order. -/
theorem compile_journal {restrict : Bool} {o : Options} {events : List Event} {stream : String}
    (h : compile (TreeBuilder.markup restrict) o {} events = (.ok stream, b)) :
    ∃ j, compile (markup restrict) o {} events = (.ok stream, j) ∧ j.builder = b ∧ j.Custody ∧
      j.documents = [] := by
  have hmap : compile (TreeBuilder.markup restrict) o {} events = _ :=
    build_map (translates_builder restrict o.sanitize) o.breaks {} events
  rcases hj : build ((markup restrict).builder o.sanitize) o.breaks {} events with ⟨_ | stream', j⟩
  · rw [h, hj] at hmap
    cases hmap
  · rw [h, hj] at hmap
    cases hmap
    have hanswer : ∀ c (j : Journal), j.Custody ∧ j.documents = [] →
        ((markup restrict).builder o.sanitize c j).2.Custody ∧
          ((markup restrict).builder o.sanitize c j).2.documents = [] := by
      rintro c j ⟨hcustody, hdocuments⟩
      refine ⟨custody_record restrict hcustody _, (documents_append _ _).trans ?_⟩
      rw [hdocuments]
      rfl
    obtain ⟨hcustody, hdocuments⟩ :=
      build_state (S := fun j : Journal => j.Custody ∧ j.documents = []) hanswer ⟨custody_empty, rfl⟩ hj
    exact ⟨j, hj, rfl, hcustody, hdocuments⟩

end Journal

/-- **Every node is consumed.** Where html blocks hold raw html alone, every head of a table is a part of
a table without another one, and nothing is barred, no slot is full once the document is read. The
nodes of the document are all that were registered, each once and as it was registered, and the texts
made of leaks. -/
theorem consumed_of_compile {o : Options} {events : List Event} {stream : String} {b : TreeBuilder}
    (ho : o.sanitize = false) (hraw : Event.Along Event.Raw .flow events)
    (hheads : Event.HeadsPlaced .flow [] events)
    (h : compile (markup o.sanitize) o {} events = (.ok stream, b)) :
    (b.finish stream).2.registry.unconsumed = 0 ∧
      ∃ j, compile (Journal.markup o.sanitize) o {} events = (.ok stream, j) ∧ j.builder = b ∧
        let last := j.record o.sanitize (.finish stream)
        last.Custody ∧ last.documents = (b.finish stream).1 ∧
          (walkAll (b.finish stream).1).Perm (last.made ++ last.leaks) ∧
          (b.finish stream).2.registry.size + last.leaks.length = (walkAll (b.finish stream).1).length := by
  obtain ⟨j, hj, rfl, hcustody, hdocuments⟩ := Journal.compile_journal h
  have hallowed : Event.Along naming.Allows .flow events :=
    hraw.imp fun hr => ⟨fun _ _ => trivial, fun _ _ _ => trivial, hr⟩
  have hstart : naming.Holds [Content.empty] ({} : TreeBuilder) :=
    ⟨List.forall_mem_singleton.2 ⟨[], rfl⟩, fun i n hn => by simp [Node.Registry.get?] at hn⟩
  rw [ho] at h
  have hend : naming.Holds [stream] j.builder :=
    build_holds_placed (naming_kept o.sanitize) hstart hallowed hheads h
  have hnodes := unconsumed_finish hend
  have hlast := Journal.custody_record o.sanitize hcustody (.finish stream)
  have hdocument : (j.record o.sanitize (.finish stream)).documents = (j.builder.finish stream).1 := by
    refine (Journal.documents_append _ _).trans ?_
    rw [hdocuments]
    rfl
  have hbuilder : (j.record o.sanitize (.finish stream)).builder = (j.builder.finish stream).2 := rfl
  have hbalance := hlast.balance
  rw [hbuilder, hnodes, hdocument, walkAll, List.nil_append] at hbalance
  refine ⟨?_, j, hj, rfl, hlast, hdocument, hbalance, ?_⟩
  · rw [Node.Registry.unconsumed_eq_length, hnodes]
    rfl
  · rw [← hbuilder, hlast.size, hbalance.length_eq, List.length_append]

/-- A table with a head, and a run of newlines in a cell. -/
theorem consumed_of_compile_table :
    let events : List Event :=
      [.start (.table [none]), .start .head, .start .cell, .text "a", .stop .cell, .stop .head,
        .start .row, .start .cell, .text "b", .softBreak, .softBreak, .text "c", .stop .cell, .stop .row,
        .stop .table]
    let r := compile (markup false) .default {} events
    let read := r.2.finish (r.1.toOption.getD "")
    Event.Along Event.Raw .flow events ∧ Event.HeadsPlaced .flow [] events ∧
      read.2.registry.unconsumed = 0 ∧ read.2.registry.size = 8 ∧ (walkAll read.1).length = 9 ∧
      ∃ j : Journal, j.documents = read.1 ∧ j.made.length = 8 ∧ j.leaks.length = 1 := by
  intro events r read
  have hraw : Event.Along Event.Raw .flow events := by
    simp [events, Event.Along, Event.Raw, Event.Place.next]
  have hheads : Event.HeadsPlaced .flow [] events := by
    simp [events, Event.HeadsPlaced, Event.HeadPlaced, Event.Place.next, Event.Nest.next, Event.Nest.start,
      Event.Nest.stop]
  have hdirect : build (Direct.builder false) false {} events = (.ok _, _) := rfl
  obtain ⟨stream, b, h, -⟩ := build_pair hdirect ((markup false).builder false) {}
  have h : compile (markup Options.default.sanitize) .default {} events = (.ok stream, b) := h
  obtain ⟨hunconsumed, j, -, rfl, hlast, hdocuments, -, hlength⟩ := consumed_of_compile rfl hraw hheads h
  have hread : read = j.builder.finish stream := by
    have hr : r = (.ok stream, j.builder) := h
    simp only [read, hr]
    rfl
  have hsize : read.2.registry.size = 8 := by
    simp only [read, r, events]
    decide +kernel
  have hwalk : (walkAll read.1).length = 9 := by
    simp only [read, r, events]
    decide +kernel
  have hmade : (j.builder.finish stream).2.registry.size = _ := hlast.size
  rw [← hread] at hunconsumed hdocuments hlength hmade
  refine ⟨hraw, hheads, hunconsumed, hsize, hwalk, _, hdocuments, hmade.symm.trans hsize, ?_⟩
  omega

end Marktree.TreeBuilder
