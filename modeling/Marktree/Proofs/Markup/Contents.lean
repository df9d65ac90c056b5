import Marktree.Proofs.Markup.Consumption

/-!
# Contents between two states

What is answered while a builder of trees goes from one state to another names only slots that were
registered on the way, and leaves the earlier ones alone (`Fresh`). If every slot that it names holds a
node, the content stands for these nodes (`Stands`), whatever is answered after it.
-/
namespace Marktree

open Node (Mark Registry)
open Node.Placeholder (Spelled slots encode)

namespace TreeBuilder

/-- The markup of trees as a builder, with the options of a document. -/
abbrev builder (o : Options) : Builder String TreeBuilder :=
  (markup o.sanitize).builder o.sanitize

/-- Between two states no slot is lost, and those of the first state keep their nodes. -/
structure Extends (b b' : TreeBuilder) : Prop where
  size : b.registry.size ≤ b'.registry.size
  kept : ∀ i < b.registry.size, b'.registry.get? i = b.registry.get? i

/-- A content of tokens that were made between two states. -/
structure Fresh (b b' : TreeBuilder) (x : String) : Prop extends b.Extends b' where
  spelled : Spelled x
  fresh : ∀ i ∈ slots x, b.registry.size ≤ i

/-- A content that stands for parts, with tokens that were made between two states. -/
structure Stands (b b' : TreeBuilder) (x : String) (ps : List Part) : Prop extends b.Fresh b' x where
  tells : ∃ ms, Mark.Tells b'.registry ms (x, ps)
  nodup : (slots x).Nodup

variable {b b' b'' : TreeBuilder} {x y : String} {ps qs : List Part}

/-! ## One after another -/

theorem Extends.refl (b : TreeBuilder) : b.Extends b :=
  ⟨Nat.le_refl _, fun _ _ => rfl⟩

theorem Extends.trans (h : b.Extends b') (h' : b'.Extends b'') : b.Extends b'' where
  size := Nat.le_trans h.size h'.size
  kept i hi := (h'.kept i (Nat.lt_of_lt_of_le hi h.size)).trans (h.kept i hi)

theorem Fresh.append (hx : b.Fresh b' x) (hy : b'.Fresh b'' y) : b.Fresh b'' (x ++ y) where
  toExtends := hx.toExtends.trans hy.toExtends
  spelled := Node.Placeholder.spelled_append hx.spelled hy.spelled
  fresh i hi := by
    rw [Node.Placeholder.slots_append hx.spelled hy.spelled] at hi
    rcases List.mem_append.1 hi with hi | hi
    · exact hx.fresh i hi
    · exact Nat.le_trans hx.size (hy.fresh i hi)

theorem Stands.lt_size (h : b.Stands b' x ps) {i : Nat} (hi : i ∈ slots x) : i < b'.registry.size := by
  obtain ⟨ms, hx, hreads⟩ := h.tells
  rw [Node.Placeholder.slots_of_stream hx] at hi
  exact Mark.lt_size_of_mem_slots hreads hi

/-- A content stands for the same parts in every later state that keeps its slots. -/
theorem Stands.extend (h : b.Stands b' x ps) (h' : b'.Extends b'') : b.Stands b'' x ps where
  toExtends := h.toExtends.trans h'
  spelled := h.spelled
  fresh := h.fresh
  nodup := h.nodup
  tells := by
    obtain ⟨ms, hx, hreads⟩ := h.tells
    refine ⟨ms, hx, Mark.forall₂_reads_mono hreads fun i hi => ?_⟩
    exact h'.kept i (Mark.lt_size_of_mem_slots hreads hi)

theorem Stands.append (hx : b.Stands b' x ps) (hy : b'.Stands b'' y qs) :
    b.Stands b'' (x ++ y) (ps ++ qs) where
  toFresh := hx.toFresh.append hy.toFresh
  tells := by
    obtain ⟨ms, htext, hreads⟩ := (hx.extend hy.toExtends).tells
    obtain ⟨ms', htext', hreads'⟩ := hy.tells
    refine ⟨ms ++ ms', ?_, List.rel_append hreads hreads'⟩
    simp only at htext htext'
    rw [String.toList_append, htext, htext', Mark.stream, Mark.stream, Mark.stream, List.flatMap_append]
  nodup := by
    rw [Node.Placeholder.slots_append hx.spelled hy.spelled, List.nodup_append]
    refine ⟨hx.nodup, hy.nodup, fun i hi j hj => ?_⟩
    have hlt := hx.lt_size hi
    have hle := hy.fresh j hj
    omega

theorem Stands.empty (b : TreeBuilder) : b.Stands b "" [] where
  toExtends := .refl b
  spelled := ⟨[], rfl⟩
  fresh i hi := by
    rw [Node.Placeholder.slots_empty] at hi
    cases hi
  tells := ⟨[], rfl, .nil⟩
  nodup := by
    rw [Node.Placeholder.slots_empty]
    exact List.nodup_nil

theorem Stands.newline (b : TreeBuilder) : b.Stands b "\n" [.leak "\n"] := by
  have hstream : ("\n" : String).toList = Mark.stream [.newline] := rfl
  have hslots : slots "\n" = [] := Node.Placeholder.slots_of_stream hstream
  refine ⟨⟨.refl b, ⟨_, hstream⟩, fun i hi => ?_⟩, ⟨_, hstream, .cons rfl .nil⟩, ?_⟩
  · rw [hslots] at hi
    cases hi
  · rw [hslots]
    exact List.nodup_nil

/-! ## Nodes -/

theorem extends_emit (b : TreeBuilder) (n : Node) : b.Extends (b.emit n).2 where
  size := by
    simp [emit, Registry.register, Registry.size]
  kept i hi := by
    refine (Registry.get?_register n i).trans (if_neg ?_)
    omega

/-- The token of a new node stands for it. -/
theorem stands_emit (b : TreeBuilder) (n : Node) : b.Stands (b.emit n).2 (b.emit n).1 [.node n] := by
  have hslots : slots (b.emit n).1 = [b.registry.size] := Node.Placeholder.slots_encode _
  have hget : (b.emit n).2.registry.get? b.registry.size = some n :=
    (Registry.get?_register n _).trans (if_pos rfl)
  refine ⟨⟨b.extends_emit n, ⟨_, Mark.stream_encode _⟩, fun i hi => ?_⟩,
    ⟨_, Mark.stream_encode _, .cons hget .nil⟩, ?_⟩
  · rw [hslots, List.mem_singleton] at hi
    omega
  · rw [hslots]
    exact List.nodup_singleton _

theorem Extends.fresh_empty (h : b.Extends b') : b.Fresh b' "" where
  toExtends := h
  spelled := ⟨[], rfl⟩
  fresh i hi := by
    rw [Node.Placeholder.slots_empty] at hi
    cases hi

theorem Extends.stands_emit (h : b.Extends b') (n : Node) :
    b.Stands (b'.emit n).2 (b'.emit n).1 [.node n] := by
  have hnode := b'.stands_emit n
  refine ⟨⟨h.trans hnode.toExtends, hnode.spelled, fun i hi => ?_⟩, hnode.tells, hnode.nodup⟩
  exact Nat.le_trans h.size (hnode.fresh i hi)

/-- Reading a content leaves the slots of the state alone that it was made from. -/
theorem Fresh.extends_read (h : b.Fresh b' x) : b.Extends (b'.read x).2 where
  size := h.size.trans (Node.Placeholder.moves_decode b'.registry x).size.ge
  kept i hi := by
    have hget := Node.Placeholder.get?_decode b'.registry x i
    rw [if_neg fun hm => Nat.not_lt.2 (h.fresh i hm) hi] at hget
    exact hget.trans (h.kept i hi)

/-- A node takes the place of the content that was read for it. -/
theorem Fresh.stands_wrap (h : b.Fresh b' x) (n : Node) :
    b.Stands ((b'.read x).2.emit n).2 ((b'.read x).2.emit n).1 [.node n] :=
  h.extends_read.stands_emit n

/-- A content is read as what it stands for. -/
theorem Stands.read (h : b.Stands b' x ps) : (b'.read x).1 = Part.nodes ps := by
  obtain ⟨ms, hx, hreads⟩ := h.tells
  have hnd := h.nodup
  rw [Node.Placeholder.slots_of_stream hx] at hnd
  obtain ⟨r, hdecode, -⟩ := Mark.decode_stream hreads hnd hx
  rw [TreeBuilder.read, hdecode]

/-- Reading a content leaves those alone that were made after it. -/
theorem Stands.read_after (hx : b.Stands b' x ps) (hy : b'.Stands b'' y qs) :
    ((b''.read x).2.read y).1 = Part.nodes qs := by
  obtain ⟨ms, htext, hreads⟩ := hy.tells
  have hslots : slots y = Mark.slots ms := Node.Placeholder.slots_of_stream htext
  have hnd : (Mark.slots ms).Nodup := hslots ▸ hy.nodup
  have hafter : List.Forall₂ (Mark.Reads (b''.read x).2.registry) ms qs := by
    refine Mark.forall₂_reads_mono hreads fun i hi => ?_
    have hle := hy.fresh i (hslots ▸ hi)
    refine (Node.Placeholder.get?_decode _ x i).trans (if_neg fun hmem => ?_)
    have hlt := hx.lt_size hmem
    omega
  obtain ⟨r, hdecode, -⟩ := Mark.decode_stream hafter hnd htext
  rw [TreeBuilder.read, hdecode]

/-! ## What builds make -/

open Compile (Rule)

/-- Contents that were made since a state of the builder. -/
def since (b₀ : TreeBuilder) : Rule String TreeBuilder where
  Each x := Spelled x ∧ ∀ i ∈ slots x, b₀.registry.size ≤ i
  State b := b₀.Extends b
  Block _ := True
  Body _ := True
  raw := True
  mixed := True

variable {b₀ : TreeBuilder} {restrict sanitize : Bool}

theorem fresh_leaf {c : Construct String} (hc : c.isLeaf) (hb : b₀.Extends b) :
    b₀.Fresh (markup restrict c b).2 (markup restrict c b).1 := by
  have hkept (hooks : Hooks) : b₀.Extends { b with hooks } := ⟨hb.size, hb.kept⟩
  rw [markup_of_isLeaf hc]
  split
  · exact ((hkept _).stands_emit _).toFresh
  · exact (hkept _).fresh_empty

/-- An answer is new if what it is made of is. -/
theorem fresh_markup {c : Construct String} (hx : ∀ x ∈ c.contents, (since b₀).Each x) (hb : b₀.Extends b) :
    b₀.Fresh (markup restrict c b).2 (markup restrict c b).1 := by
  cases c with
  | wrap w x =>
    obtain ⟨hspelled, hfresh⟩ := hx x (List.mem_singleton_self x)
    rw [markup]
    split
    · rename_i k anchors hk
      have hcontent : b₀.Fresh { b with anchors } x := ⟨⟨hb.size, hb.kept⟩, hspelled, hfresh⟩
      exact (hcontent.stands_wrap _).toFresh
    · rename_i anchors hk
      have hkept : b₀.Extends { b with anchors } := ⟨hb.size, hb.kept⟩
      exact hkept.fresh_empty
  | table x y =>
    obtain ⟨hspelled, hfresh⟩ := hx x (by simp [Construct.contents])
    obtain ⟨hspelled', hfresh'⟩ := hx y (by simp [Construct.contents])
    have hheader : b₀.Fresh b x := ⟨hb, hspelled, hfresh⟩
    have hbody : b₀.Fresh (b.read x).2 y := ⟨hheader.extends_read, hspelled', hfresh'⟩
    exact (hbody.stands_wrap _).toFresh
  | _ => exact fresh_leaf rfl hb

theorem since_kept (b₀ : TreeBuilder) (restrict sanitize : Bool) :
    (since b₀).Kept ((markup restrict).builder sanitize) where
  empty := ⟨⟨[], rfl⟩, fun i hi => by
    rw [show Content.empty = ("" : String) from rfl, Node.Placeholder.slots_empty] at hi
    cases hi⟩
  append {x y} hx hy := by
    refine ⟨Node.Placeholder.spelled_append hx.1 hy.1, fun i hi => ?_⟩
    rw [show Content.append x y = x ++ y from rfl, Node.Placeholder.slots_append hx.1 hy.1] at hi
    exact (List.mem_append.1 hi).elim (hx.2 i) (hy.2 i)
  newline := ⟨(Stands.newline b₀).spelled, (Stands.newline b₀).fresh⟩
  answer {c s} _ hx hs := by
    have h : b₀.Fresh (markup restrict (c.escaped sanitize) s).2 (markup restrict (c.escaped sanitize) s).1 :=
      fresh_markup ((contents_escaped sanitize c).symm ▸ hx) hs
    exact ⟨⟨h.spelled, h.fresh⟩, h.toExtends⟩
  html {x s} _ hs := by
    have hnone : ∀ y ∈ ((Construct.html x).escaped sanitize).contents, (since b₀).Each y := by
      intro y hy
      rw [contents_escaped] at hy
      cases hy
    have h : b₀.Fresh (markup restrict _ s).2 (markup restrict _ s).1 := fresh_markup hnone hs
    exact ⟨⟨h.spelled, h.fresh⟩, h.toExtends⟩
  blockEmpty := trivial
  blockRaw _ _ := trivial
  blockLine _ _ _ _ := trivial
  blockMixed _ _ _ _ _ := trivial

/-- What a document compiles to was made since the state it began in. -/
theorem fresh_of_compile {o : Options} {events : List Event} {x : String}
    (h : compile (markup restrict) o b₀ events = (.ok x, b)) : b₀.Fresh b x := by
  have hend := build_each_mixed (since_kept b₀ restrict o.sanitize) (Extends.refl b₀) trivial
    (fun _ => trivial) (fun _ _ _ _ => trivial) h
  exact ⟨hend.2, hend.1.1, hend.1.2⟩

end TreeBuilder

end Marktree
