import Marktree.Proofs.Markup.Carriage

/-!
# Tables in trees

The flags of a cell are told by its place: whether it is in the head, and the alignment of its column,
where columns are counted anew in every row. So a table becomes one node with a head of one row and a
body of one row for each of its rows, cell by cell, whatever stood before it (`table_of_compile`). What
stands in the cells are documents of their own without tables.
-/
namespace Marktree

/-! ## The events of tables -/

namespace Grammar

/-- A table: its columns, the contents of the cells of its head, and those of its rows. -/
structure Table where
  columns : List (Option Align)
  head : List (List Event)
  rows : List (List (List Event))

def cellEvents (content : List Event) : List Event :=
  .start .cell :: content ++ [.stop .cell]

def headEvents (cells : List (List Event)) : List Event :=
  .start .head :: cells.flatMap cellEvents ++ [.stop .head]

def rowEvents (cells : List (List Event)) : List Event :=
  .start .row :: cells.flatMap cellEvents ++ [.stop .row]

namespace Table

def events (t : Table) : List Event :=
  .start (.table t.columns) :: (headEvents t.head ++ t.rows.flatMap rowEvents) ++ [.stop .table]

/-- The cells hold documents without tables. -/
structure Holds (t : Table) : Prop where
  head : ∀ c ∈ t.head, Untabled c
  rows : ∀ cells ∈ t.rows, ∀ c ∈ cells, Untabled c

/-- The alignment of a column; one that is not given, or a column too many, is aligned naturally. -/
def align (t : Table) (k : Nat) : Align :=
  (t.columns[k]?.join).getD .auto

end Table

end Grammar

open Grammar (Table Untabled cellEvents headEvents rowEvents)

/-! ## The nodes of tables -/

def cellBranch (header : Bool) (align : Align) : Branch :=
  if header then .headerCell align else .bodyCell align

namespace TreeBuilder

open Compile (Pass)

/-- What a content gives as a document of its own, from the state that the builder is in after the
events before it. -/
def Gives (o : Options) (before content : List Event) (ns : List Node) : Prop :=
  ∃ p b x, After o before p ∧ compile (markup o.sanitize) o p.state content = (.ok x, b) ∧
    (b.finish x).1 = ns

/-- The nodes of cells, the first of which stands in the column `k`. -/
inductive Cells (o : Options) (header : Bool) (align : Nat → Align) :
    List Event → Nat → List (List Event) → List Node → Prop
  | nil (before : List Event) (k : Nat) : Cells o header align before k [] []
  | cons {before c : List Event} {k : Nat} {cs : List (List Event)} {children ns : List Node}
    (hc : Gives o (before ++ [.start .cell]) c children)
    (hcs : Cells o header align (before ++ cellEvents c) (k + 1) cs ns) :
    Cells o header align before k (c :: cs) (.branch (cellBranch header (align k)) children :: ns)

/-- The nodes of rows, each with the cells of its own from the first column on. -/
inductive Rows (o : Options) (align : Nat → Align) :
    List Event → List (List (List Event)) → List Node → Prop
  | nil (before : List Event) : Rows o align before [] []
  | cons {before : List Event} {cs : List (List Event)} {rows : List (List (List Event))}
    {cells ns : List Node} (hcs : Cells o false align (before ++ [.start .row]) 0 cs cells)
    (hrows : Rows o align (before ++ rowEvents cs) rows ns) :
    Rows o align before (cs :: rows) (.branch .row cells :: ns)

/-- The node of a table: its head is one row of header cells, its body has one row for each row. -/
inductive Tabulates (o : Options) (before : List Event) (t : Table) : Node → Prop
  | table {cells rows : List Node}
    (hhead : Cells o true t.align (before ++ [.start (.table t.columns), .start .head]) 0 t.head cells)
    (hrows : Rows o t.align (before ++ .start (.table t.columns) :: headEvents t.head) t.rows rows) :
    Tabulates o before t (.table [.branch .row cells] rows)

/-! ## Answers -/

theorem builder_cell (o : Options) (header : Bool) (align : Option Align) (x : String) (b : TreeBuilder) :
    builder o (.wrap (.cell header align) x) b =
      (b.read x).2.emit (.branch (cellBranch header (align.getD .auto)) (b.read x).1) := by
  cases header <;> rfl

theorem builder_row (o : Options) (x : String) (b : TreeBuilder) :
    builder o (.wrap .row x) b = (b.read x).2.emit (.branch .row (b.read x).1) :=
  rfl

theorem builder_table (o : Options) (header body : String) (b : TreeBuilder) :
    builder o (.table header body) b =
      ((b.read header).2.read body).2.emit
        (.table (b.read header).1 ((b.read header).2.read body).1) :=
  rfl

end TreeBuilder

theorem Part.nodes_map_node (ns : List Node) : Part.nodes (ns.map .node) = ns := by
  induction ns with
  | nil => rfl
  | cons n ns ih => exact congrArg (n :: ·) ih

/-! ## Cells and rows in a pass -/

namespace Compile.Pass

open TreeBuilder (builder After Gives Cells Rows Tabulates Fresh)

variable {o : Options} {p : Pass String TreeBuilder}

/-- The alignment of a column of the table around. -/
def alignOf (p : Pass String TreeBuilder) (k : Nat) : Align :=
  (p.table.columns[k]?.join).getD .auto

/-- The pass at another place in the table around. -/
def moveTo (p : Pass String TreeBuilder) (place : TablePlace) : Pass String TreeBuilder :=
  { p with table := place }

theorem moveTo_settle (place : TablePlace) (x : String × TreeBuilder) (f : Option String → Option String) :
    (p.settle x f).moveTo place = (p.moveTo place).settle x f := by
  obtain ⟨state, document, frames, capture, table, heading⟩ := p
  cases frames <;> rfl

theorem alignOf_settle (k : Nat) (x : String × TreeBuilder) (f : Option String → Option String) :
    ((p.moveTo { p.table with column := k }).settle x f).alignOf = p.alignOf := by
  funext i
  rw [alignOf, table_settle]
  rfl

/-- A cell is answered with the node of what its content gives. -/
theorem run_cell (hc : p.capture = none) {c : List Event} (h : Untabled c) :
    ∃ x b f, compile (TreeBuilder.markup o.sanitize) o p.state c = (.ok x, b) ∧
      p.run (builder o) o.breaks (cellEvents c) =
        ((p.moveTo { p.table with column := p.table.column + 1 }).settle
          ((b.finish x).2.emit (.branch (cellBranch p.table.inHead (p.alignOf p.table.column)) (b.finish x).1))
          f, none) := by
  obtain ⟨x, f, hx⟩ : ∃ x f, Answers (builder o) o.breaks p.state false c x f :=
    exists_answers h p.state false
  refine ⟨x.1, x.2, f, build_of_answers hx, ?_⟩
  have hin := hx (p.start .cell) hc rfl rfl [.stop .cell]
  have hend : ((p.start .cell).settle x f).step (builder o) o.breaks (.stop .cell) =
      .ok ((p.moveTo { p.table with column := p.table.column + 1 }).settle
        (builder o (.wrap (.cell p.table.inHead p.table.align) x.1) x.2) f) :=
    step_stop_settle hc _ .cell
  rw [cellEvents, List.cons_append, run_cons (step_start hc .cell), hin, run_cons hend,
    TreeBuilder.builder_cell]
  rfl

/-- The cells of a row are answered with their nodes, one column after the other. -/
theorem run_cells {cs : List (List Event)} (hcs : ∀ c ∈ cs, Untabled c) (hc : p.capture = none)
    {before : List Event} (hp : After o before p) :
    ∃ ns x b f, Cells o p.table.inHead p.alignOf before p.table.column cs ns ∧
      p.state.Stands b x (ns.map .node) ∧
      p.run (builder o) o.breaks (cs.flatMap cellEvents) =
        ((p.moveTo { p.table with column := p.table.column + cs.length }).settle (x, b) f, none) := by
  induction cs generalizing p before with
  | nil => exact ⟨[], "", p.state, id, .nil before _, .empty _, congrArg (·, none) (settle_nothing p).symm⟩
  | cons c cs ih =>
    obtain ⟨hcell, hcells⟩ := List.forall_mem_cons.1 hcs
    obtain ⟨x, b, f, hcompile, hrun⟩ := run_cell (o := o) hc hcell
    have hstands := (TreeBuilder.fresh_of_compile hcompile).stands_wrap
      (.branch (cellBranch p.table.inHead (p.alignOf p.table.column)) (b.finish x).1)
    have hgives : Gives o (before ++ [.start .cell]) c (b.finish x).1 :=
      ⟨_, b, x, hp.start hc .cell, hcompile, rfl⟩
    generalize hn : Node.branch (cellBranch p.table.inHead (p.alignOf p.table.column)) (b.finish x).1 = n
      at hstands hrun
    let q := (p.moveTo { p.table with column := p.table.column + 1 }).settle ((b.finish x).2.emit n) f
    have htable : q.table = { p.table with column := p.table.column + 1 } := table_settle _
    have halign : q.alignOf = p.alignOf := alignOf_settle _ _ _
    have hstate : q.state = ((b.finish x).2.emit n).2 := state_settle _
    obtain ⟨ns, y, b', g, hns, hstands', hrun'⟩ :=
      ih hcells (p := q) ((capture_settle _).trans hc) (hp.append hrun)
    rw [halign, htable] at hns
    rw [hstate] at hstands'
    refine ⟨n :: ns, ((b.finish x).2.emit n).1 ++ y, b', g ∘ f, hn ▸ .cons hgives hns,
      hstands.append hstands', ?_⟩
    rw [List.flatMap_cons, run_append hrun, hrun', moveTo_settle, settle_settle, htable, List.length_cons]
    simp only [moveTo, Nat.add_assoc, Nat.add_comm 1]

/-- What stands in a row or head, up to its end. -/
theorem run_line {cs : List (List Event)} (hcs : ∀ c ∈ cs, Untabled c) (hc : p.capture = none)
    {before : List Event} (hp : After o before p) {t : Tag} {role : Role String} {header : Bool}
    (hstart : p.start t =
      (p.moveTo { p.table with inHead := header, column := 0 }).enter role t.closing) :
    ∃ cells x b f, Cells o header p.alignOf (before ++ [.start t]) 0 cs cells ∧
      p.state.Stands b x (cells.map .node) ∧
      p.run (builder o) o.breaks (.start t :: cs.flatMap cellEvents) =
        (((p.moveTo { p.table with inHead := header, column := cs.length }).enter role t.closing).settle
          (x, b) f, none) := by
  have hcapture : (p.start t).capture = none := by
    rw [hstart]
    exact hc
  obtain ⟨cells, x, b, f, hcells, hstands, hrun⟩ := run_cells hcs hcapture (hp.start hc t)
  rw [← run_cons (step_start hc t), hstart] at hrun
  rw [hstart] at hcells hstands
  refine ⟨cells, x, b, f, hcells, hstands, hrun.trans ?_⟩
  simp only [moveTo, enter, Nat.zero_add]

/-- A row is answered with a node of its cells. -/
theorem run_row {cs : List (List Event)} (hcs : ∀ c ∈ cs, Untabled c) (hc : p.capture = none)
    (hbody : p.table.inHead = false) {before : List Event} (hp : After o before p) :
    ∃ cells x b f, Cells o false p.alignOf (before ++ [.start .row]) 0 cs cells ∧
      p.state.Stands b x [.node (.branch .row cells)] ∧
      p.run (builder o) o.breaks (rowEvents cs) =
        ((p.moveTo { p.table with column := cs.length }).settle (x, b) f, none) := by
  have hstart : p.start .row = (p.moveTo { p.table with inHead := false, column := 0 }).enter (.wrap .row)
      (Tag.row).closing := by
    rw [← hbody]
    rfl
  obtain ⟨cells, x, b, f, hcells, hstands, hrun⟩ := run_line hcs hc hp hstart
  have hread : (b.read x).1 = cells := by rw [hstands.read, Part.nodes_map_node]
  let outside := p.moveTo { p.table with column := cs.length }
  have hplace : p.moveTo { p.table with inHead := false, column := cs.length } = outside := by rw [← hbody]
  rw [hplace] at hrun
  have hend : ((outside.enter (.wrap .row) (Tag.row).closing).settle (x, b) f).step (builder o) o.breaks
      (.stop .row) = .ok (outside.settle (builder o (.wrap .row x) b) f) :=
    step_stop_settle (p := outside) hc (.wrap .row) .row
  refine ⟨cells, _, _, f, hcells, hread ▸ hstands.stands_wrap (.branch .row (b.read x).1), ?_⟩
  rw [rowEvents, run_append hrun, run_cons hend, TreeBuilder.builder_row, hread]
  rfl

/-- Rows are answered with a node each. -/
theorem run_rows {rows : List (List (List Event))} (hrows : ∀ cs ∈ rows, ∀ c ∈ cs, Untabled c)
    (hc : p.capture = none) (hbody : p.table.inHead = false) {before : List Event} (hp : After o before p) :
    ∃ ns x b f k, Rows o p.alignOf before rows ns ∧ p.state.Stands b x (ns.map .node) ∧
      p.run (builder o) o.breaks (rows.flatMap rowEvents) =
        ((p.moveTo { p.table with column := k }).settle (x, b) f, none) := by
  induction rows generalizing p before with
  | nil =>
    exact ⟨[], "", p.state, id, p.table.column, .nil before, .empty _,
      congrArg (·, none) (settle_nothing p).symm⟩
  | cons cs rows ih =>
    obtain ⟨hcs, hrest⟩ := List.forall_mem_cons.1 hrows
    obtain ⟨cells, x, b, f, hcells, hstands, hrun⟩ := run_row (o := o) hcs hc hbody hp
    let q := (p.moveTo { p.table with column := cs.length }).settle (x, b) f
    have htable : q.table = { p.table with column := cs.length } := table_settle _
    have halign : q.alignOf = p.alignOf := alignOf_settle _ _ _
    have hstate : q.state = b := state_settle _
    obtain ⟨ns, y, b', g, k, hns, hstands', hrun'⟩ := ih hrest (p := q) ((capture_settle _).trans hc)
      (by rw [htable]; exact hbody) (hp.append hrun)
    rw [halign] at hns
    rw [hstate] at hstands'
    refine ⟨_ :: ns, x ++ y, b', g ∘ f, k, .cons hcells hns, hstands.append hstands', ?_⟩
    rw [List.flatMap_cons, run_append hrun, hrun', moveTo_settle, settle_settle, htable]
    rfl

/-! ## Tables in a pass -/

theorem alignOf_start (p : Pass String TreeBuilder) (t : Table) :
    (p.start (.table t.columns)).alignOf = t.align := by
  funext k
  have hcolumns : (p.start (.table t.columns)).table.columns = t.columns.map (·.filter (· != .auto)) := rfl
  rw [alignOf, Table.align, hcolumns, List.getElem?_map]
  rcases t.columns[k]? with _ | _ | a
  · rfl
  · rfl
  · cases a <;> rfl

/-- The head of a table is answered with its row, which waits in the frame of the table. -/
theorem run_head {t : Table} (ht : t.Holds) (hc : p.capture = none) {before : List Event}
    (hp : After o before p) :
    ∃ (cells : List Node) (x : String) (b : TreeBuilder) (f : Option String → Option String),
      let place : TablePlace := { TablePlace.before t.columns with column := t.head.length }
      Cells o true t.align (before ++ [.start (.table t.columns), .start .head]) 0 t.head cells ∧
      p.state.Stands b x [.node (.branch .row cells)] ∧
      p.run (builder o) o.breaks (.start (.table t.columns) :: headEvents t.head) =
        ({ p with state := b, table := place, heading := f p.heading }.enter (.table x) .table, none) := by
  let q := p.start (.table t.columns)
  have hq : q.start .head =
      (q.moveTo { q.table with inHead := true, column := 0 }).enter .head (Tag.head).closing := rfl
  obtain ⟨cells, x, b, f, hcells, hstands, hrun⟩ := run_line ht.head (p := q) hc (hp.start hc _) hq
  have hread : (b.read x).1 = cells := by rw [hstands.read, Part.nodes_map_node]
  rw [alignOf_start, List.append_assoc] at hcells
  let outside := q.moveTo { q.table with inHead := true, column := t.head.length }
  let place : TablePlace := { TablePlace.before t.columns with column := t.head.length }
  have hend : ((outside.enter .head (Tag.head).closing).settle (x, b) f).step (builder o) o.breaks
      (.stop .head) = .ok ({ p with
        state := (builder o (.wrap .row x) b).2, table := place, heading := f p.heading }.enter
          (.table (builder o (.wrap .row x) b).1) .table) :=
    step_stop_settle (p := outside) hc .head .head
  refine ⟨cells, _, _, f, hcells, hread ▸ hstands.stands_wrap (.branch .row (b.read x).1), ?_⟩
  rw [run_cons (step_start hc _), headEvents, run_append hrun, run_cons hend, TreeBuilder.builder_row, hread]
  rfl

/-- A table is answered with its node, whatever stood before it. -/
theorem run_table {t : Table} (ht : t.Holds) (hc : p.capture = none) {before : List Event}
    (hp : After o before p) :
    ∃ (n : Node) (b : TreeBuilder) (place : TablePlace) (f : Option String → Option String),
      Tabulates o before t n ∧ p.state.Extends b ∧
      p.run (builder o) o.breaks t.events = ((p.moveTo place).settle (b.emit n) f, none) := by
  obtain ⟨cells, header, b, f, hcells, hheader, hhead⟩ := run_head ht hc hp
  let place : TablePlace := { TablePlace.before t.columns with column := t.head.length }
  let q := { p with state := b, table := place, heading := f p.heading }.enter (.table header) .table
  have halign : q.alignOf = t.align := alignOf_start p t
  obtain ⟨rows, x, b', g, k, hrows, hstands, hrun⟩ := run_rows (p := q) ht.rows hc rfl (hp.append hhead)
  rw [halign] at hrows
  have hreadHeader : (b'.read header).1 = [.branch .row cells] := (hheader.extend hstands.toExtends).read
  have hreadBody : ((b'.read header).2.read x).1 = rows := by
    rw [hheader.read_after hstands, Part.nodes_map_node]
  have hextends : p.state.Extends ((b'.read header).2.read x).2 := by
    have hfirst := (hheader.extend hstands.toExtends).extends_read
    exact Fresh.extends_read ⟨hfirst, hstands.spelled, fun i hi => hheader.size.trans (hstands.fresh i hi)⟩
  let outside := { p with state := b, table := { place with column := k }, heading := f p.heading }
  have hend : ((q.moveTo { q.table with column := k }).settle (x, b') g).step (builder o) o.breaks
      (.stop .table) = .ok ((p.moveTo { place with column := k }).settle
        (builder o (.table header x) b') (g ∘ f)) :=
    step_stop_settle (p := outside) hc (.table header) .table
  refine ⟨.table [.branch .row cells] rows, _, { place with column := k }, g ∘ f, .table hcells hrows,
    hextends, ?_⟩
  rw [Table.events, ← List.cons_append, List.append_assoc, run_append hhead, run_append hrun, run_cons hend,
    TreeBuilder.builder_table, hreadHeader, hreadBody]
  rfl

end Compile.Pass

open TreeBuilder (After Held Tabulates)

/-- **A table becomes one node.** Wherever a table stands outside of images and code blocks, it is
answered with the token of a new node: that of its head and rows, whose cells are told by their places in
the table and what stands in them. The node comes to the tree if all that is open around the table hands
its content on; in any case it is in the tree or left in the registry. -/
theorem table_of_compile {o : Options} {pre post : List Event} {ts : List Tag} {t : Table} {stream : String}
    {b : TreeBuilder} (hpre : Grammar.Frames pre ts) (ht : t.Holds)
    (h : compile (TreeBuilder.markup o.sanitize) o {} (pre ++ t.events ++ post) = (.ok stream, b)) :
    ∃ n, Tabulates o pre t n ∧
      (∃ p s place f, After o pre p ∧ p.state.Extends s ∧
        After o (pre ++ t.events) ((p.moveTo place).settle (s.emit n) f)) ∧
      (n ∈ Node.walkAll (b.finish stream).1 ∨ Held n (b.finish stream).2) ∧
      ((∀ u ∈ ts, u.carries o.sanitize) → n ∈ Node.walkAll (b.finish stream).1) := by
  obtain ⟨r, hr, hfinish, rfl⟩ := run_of_build_ok h
  rw [List.append_assoc] at hr
  obtain ⟨p, hp, hrest⟩ := Compile.Pass.exists_of_run_append hr
  have hp : After o pre p := hp
  obtain ⟨n, s, place, f, htable, hextends, hrun⟩ := Compile.Pass.run_table ht (hp.capture hpre) hp
  have hq : After o (pre ++ t.events) ((p.moveTo place).settle (s.emit n) f) := hp.append hrun
  rw [Compile.Pass.run_append hrun] at hrest
  refine ⟨n, htable, ⟨p, s, place, f, hp, hextends, hq⟩, ?_, fun hts => ?_⟩
  · have hheld : Held n ((p.moveTo place).settle (s.emit n) f).state := by
      rw [Compile.Pass.state_settle]
      exact s.held_emit n
    exact TreeBuilder.held_finish stream (hq.state (fun c _ => TreeBuilder.held_markup _) hheld hrest)
  · have hclear := hp.clear hpre hts
    have hcarried := TreeBuilder.Carried.emit (p := { p.moveTo place with heading := f p.heading })
      ⟨hclear.document, hclear.frames⟩ s n
    exact (TreeBuilder.Carried.run hcarried hrest).finish hfinish

/-- After a table with other columns, and in a quote: rows with fewer and with more cells than columns. -/
theorem table_of_compile_ragged :
    let first : Table := ⟨[some .center], [[.text "a"]], []⟩
    let t : Table := ⟨[some .left, none], [[.text "b"], []], [[[.text "c"]], [[], [], [.text "d"]]]⟩
    let pre := first.events ++ [.start (.quote none)]
    let n : Node := .table
      [.branch .row [.branch (.headerCell .left) [.text "b"], .branch (.headerCell .auto) []]]
      [.branch .row [.branch (.bodyCell .left) [.text "c"]],
        .branch .row [.branch (.bodyCell .left) [], .branch (.bodyCell .auto) [],
          .branch (.bodyCell .auto) [.text "d"]]]
    Grammar.Frames pre [.quote none] ∧ t.Holds ∧ Tag.carries false (.quote none) ∧
      ∃ stream b, compile (TreeBuilder.markup false) .default {} (pre ++ t.events ++ [.stop (.quote none)]) =
          (.ok stream, b) ∧
        (b.finish stream).1 = [.table [.branch .row [.branch (.headerCell .center) [.text "a"]]] [],
          .branch .quote [n]] ∧
        ∃ m, Tabulates .default pre t m ∧ m ∈ Node.walkAll (b.finish stream).1 := by
  intro first t pre n
  have htext (s : String) : Untabled [.text s] := .leaf rfl .nil
  have ht : t.Holds := by
    constructor
    · simp only [t, List.forall_mem_cons]
      exact ⟨htext "b", .nil, by simp⟩
    · simp only [t, List.forall_mem_cons]
      exact ⟨⟨htext "c", by simp⟩, ⟨.nil, .nil, htext "d", by simp⟩, by simp⟩
  have hcell : Grammar.Document (cellEvents [.text "a"]) := .construct (t := .cell) rfl (.leaf rfl .nil) .nil
  have hhead : Grammar.Document (headEvents first.head) := .construct (t := .head) rfl hcell .nil
  have hfirst : Grammar.Document first.events := .construct (t := .table [some .center]) rfl hhead .nil
  have hpre : Grammar.Frames pre [.quote none] := .construct (.document hfirst) rfl .nil
  have hraw : Event.Along Event.Raw .flow (pre ++ t.events ++ [.stop (.quote none)]) := by
    simp [pre, first, t, Table.events, headEvents, Grammar.rowEvents, cellEvents, Event.Along, Event.Raw,
      Event.Place.next]
  have hdirect : build (Direct.builder false) false {} (pre ++ t.events ++ [.stop (.quote none)]) =
      (.ok _, _) := rfl
  obtain ⟨stream, b, h, hnodes⟩ := Streams.exists_finish (o := .default) hraw hdirect
  obtain ⟨m, hm, -, -, htree⟩ := table_of_compile (o := .default) hpre ht h
  exact ⟨hpre, ht, rfl, stream, b, h, hnodes, m, hm, htree (by simp [Tag.carries])⟩

/-- A cell by itself inside of a cell moves the cells after it to another column. A table in an image
gives no node, and the node of a table in a barred link does not come to the tree. -/
theorem table_out_of_place :
    let inner : List Event := [.start .cell, .stop .cell]
    let t : Table := ⟨[some .left, some .right], [inner, []], []⟩
    let image := [.start (.image "a" "")] ++ t.events ++ [.stop .image]
    let link := [.start (.link "javascript:a" "")] ++ t.events ++ [.stop .link]
    let answer := compile (TreeBuilder.markup true) { Options.default with sanitize := true } {} link
    (Grammar.Document inner ∧ (∀ columns, .start (.table columns) ∉ inner) ∧
      ∃ stream b, compile (TreeBuilder.markup false) .default {} t.events = (.ok stream, b) ∧
        (b.finish stream).1 = [.table [.branch .row [
          .branch (.headerCell .left) [.branch (.headerCell .left) []], .branch (.headerCell .auto) []]] []]) ∧
    (∃ stream b, compile (TreeBuilder.markup false) .default {} image = (.ok stream, b) ∧
      (b.finish stream).1 = [.leaf (.image ⟨"a", none, "", {}⟩)]) ∧
    answer.1.toOption.map (fun stream => (Node.walkAll (answer.2.finish stream).1).map Node.kind) =
      some [] := by
  intro inner t image link answer
  have hraw {es : List Event} (hes : es = t.events ∨ es = image) : Event.Along Event.Raw .flow es := by
    rcases hes with rfl | rfl <;>
      simp [image, t, inner, Table.events, headEvents, cellEvents, Event.Along, Event.Raw, Event.Place.next]
  have hcell : build (Direct.builder false) false {} t.events = (.ok _, _) := rfl
  have himage : build (Direct.builder false) false {} image = (.ok _, _) := rfl
  refine ⟨⟨.construct (t := .cell) rfl .nil .nil, by simp [inner], ?_⟩, ?_, ?_⟩
  · exact Streams.exists_finish (o := .default) (hraw (.inl rfl)) hcell
  · exact Streams.exists_finish (o := .default) (hraw (.inr rfl)) himage
  · simp only [answer, link, t, inner, Table.events]
    decide +kernel

end Marktree
