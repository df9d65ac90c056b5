import Marktree.Proofs.Compile.Run
import Marktree.Proofs.Markup.Contents

/-!
# Readings that meet nothing unexpected

While a document is compiled, its open contents are made of tokens and newlines, and their tokens name
different slots that all hold a node (`Node.Placeholder.Live`). A construct that closes takes its contents
out and puts one new token in; what is dropped on the way, a barred link, an earlier head of a table, or
what an html block swallows, leaves its nodes behind and no token. So every reading finds a node for each
token, and no malformed tail (`Node.Placeholder.Clean`). The readings are told by a builder that notes
them (`TreeBuilder.Reader`) and otherwise is the builder of trees.
-/
namespace Marktree

open Node (Mark Registry)

namespace Node

/-- The leaks of a stream of tokens and newlines are newlines. -/
theorem Mark.newlines_of_leak {ms : List Mark} {t : List Char} (h : .leak t ∈ Mark.pieces ms) :
    ∀ c ∈ t, c = '\n' := by
  induction ms generalizing t with
  | nil => cases h
  | cons m ms ih =>
    cases m with
    | token i =>
      rcases List.mem_cons.1 h with h | h
      · cases h
      · exact ih h
    | newline =>
      rw [Mark.pieces] at h
      split at h
      · rename_i u ps hps
        have hjoined : ∀ c ∈ '\n' :: u, c = '\n' :=
          List.forall_mem_cons.2 ⟨rfl, ih (hps ▸ List.mem_cons_self ..)⟩
        rcases List.mem_cons.1 h with h | h
        · cases h
          exact hjoined
        · exact ih (hps ▸ List.mem_cons_of_mem _ h)
      · rcases List.mem_cons.1 h with h | h
        · cases h
          exact List.forall_mem_singleton.2 rfl
        · exact ih h

namespace Placeholder

variable {r : Registry} {l l' : List String} {x y : String}

/-- Reading a stream comes to no token that stands for nothing by then, and to no malformed tail. -/
structure Clean (r : Registry) (stream : String) : Prop where
  whole : Cut stream.toList (pieces stream.toList) none
  full : ∀ before ds after, pieces stream.toList = before ++ .token ds :: after →
    (resolve (resolveAll r before).2 (.token ds)).1.isSome

/-- Contents of tokens and newlines, whose tokens name different slots that hold a node. -/
structure Live (l : List String) (r : Registry) : Prop where
  spelled : ∀ x ∈ l, Spelled x
  full : ∀ i ∈ l.flatMap slots, (r.get? i).isSome
  once : (l.flatMap slots).Nodup

/-! ## One stream -/

theorem cut_of_spelled (h : Spelled x) : Cut x.toList (pieces x.toList) none := by
  obtain ⟨ms, hx⟩ := h
  obtain ⟨ps, tail, hcut⟩ := exists_cut x.toList
  cases tail with
  | none =>
    have hps : pieces x.toList = ps := by simpa using pieces_of_cut hcut
    exact hps ▸ hcut
  | some t =>
    -- a tail would be a leak that begins with a brace
    have hleak : .leak t ∈ Mark.pieces ms := by
      rw [← Mark.pieces_stream, ← hx, pieces_of_cut hcut]
      simp
    obtain ⟨u, rfl⟩ := (hcut.tail t rfl).1
    have hbrace : ('\x7b' : Char) = '\n' := Mark.newlines_of_leak hleak _ (List.mem_cons_self ..)
    cases hbrace

/-- Where the slots of a stream are different and full, none is empty when its turn comes. -/
theorem clean_of_full (hx : Spelled x) (hfull : ∀ i ∈ slots x, (r.get? i).isSome)
    (honce : (slots x).Nodup) : Clean r x := by
  refine ⟨cut_of_spelled hx, fun before ds after hpieces => ?_⟩
  have hnumber : ∀ ds', .token ds' ∈ before ++ .token ds :: after → IsNumber ds' := by
    rw [← hpieces]
    exact fun _ => isNumber_of_mem_pieces
  have hds : IsNumber ds := hnumber ds (by simp)
  have hslots : slots x = before.filterMap Piece.slot? ++
      Nat.ofDigitChars 10 ds 0 :: after.filterMap Piece.slot? := by
    rw [slots, hpieces, List.filterMap_append]
    rfl
  rw [hslots] at hfull honce
  have hnew : Nat.ofDigitChars 10 ds 0 ∉ before.filterMap Piece.slot? := fun hmem =>
    (List.nodup_append.1 honce).2.2 _ hmem _ (List.mem_cons_self ..) rfl
  have hget := (get?_resolveAll (fun ds' hmem => hnumber ds' (List.mem_append_left _ hmem)) r).2
    (Nat.ofDigitChars 10 ds 0)
  rw [resolve_number _ hds, Registry.take_fst, hget, if_neg hnew]
  exact hfull _ (by simp)

/-! ## Contents together -/

namespace Live

theorem perm (hl : l.Perm l') (h : Live l r) : Live l' r where
  spelled x hx := h.spelled x (hl.mem_iff.2 hx)
  full i hi := h.full i ((hl.flatMap_right slots).mem_iff.2 hi)
  once := (hl.flatMap_right slots).nodup_iff.1 h.once

theorem drop (h : Live (x :: l) r) : Live l r where
  spelled := (List.forall_mem_cons.1 h.spelled).2
  full i hi := h.full i (List.mem_append_right _ hi)
  once := (List.nodup_append.1 h.once).2.1

/-- A content without tokens. -/
theorem cons_plain (hx : Spelled x) (hslots : slots x = []) (h : Live l r) : Live (x :: l) r := by
  have hsame : (x :: l).flatMap slots = l.flatMap slots := by rw [List.flatMap_cons, hslots, List.nil_append]
  exact ⟨List.forall_mem_cons.2 ⟨hx, h.spelled⟩, hsame ▸ h.full, hsame ▸ h.once⟩

theorem empty (h : Live l r) : Live ("" :: l) r :=
  h.cons_plain ⟨[], rfl⟩ slots_empty

theorem newline (h : Live l r) : Live ("\n" :: l) r := by
  have hstream : ("\n" : String).toList = Mark.stream [.newline] := rfl
  exact h.cons_plain ⟨_, hstream⟩ (slots_of_stream hstream)

theorem append (h : Live (x :: y :: l) r) : Live ((x ++ y) :: l) r := by
  obtain ⟨hspelled, hfull, honce⟩ := h
  obtain ⟨hx, hrest⟩ := List.forall_mem_cons.1 hspelled
  obtain ⟨hy, hrest⟩ := List.forall_mem_cons.1 hrest
  have hsame : ((x ++ y) :: l).flatMap slots = (x :: y :: l).flatMap slots := by
    simp only [List.flatMap_cons, slots_append hx hy, List.append_assoc]
  refine ⟨List.forall_mem_cons.2 ⟨spelled_append hx hy, hrest⟩, ?_, ?_⟩
  · rw [hsame]
    exact hfull
  · rw [hsame]
    exact honce

theorem clean (h : Live l r) (hx : x ∈ l) : Clean r x := by
  obtain ⟨before, after, rfl⟩ := List.append_of_mem hx
  have hfirst := h.perm List.perm_middle
  exact clean_of_full (hfirst.spelled x (List.mem_cons_self ..))
    (fun i hi => hfirst.full i (List.mem_append_left _ hi)) (List.nodup_append.1 hfirst.once).1

/-- Reading one content empties no slot of the others. -/
theorem read (h : Live (x :: l) r) : Live l (decode r x).2 where
  spelled := h.drop.spelled
  once := h.drop.once
  full i hi := by
    have hother : i ∉ slots x := fun hmem => (List.nodup_append.1 h.once).2.2 i hmem i hi rfl
    rw [get?_decode, if_neg hother]
    exact h.drop.full i hi

/-- The token of a new node names a slot that no content names yet. -/
theorem register (h : Live l r) (n : Node) : Live (encode r.size :: l) (r.register n).2 := by
  have hlt {i : Nat} (hi : i ∈ l.flatMap slots) : i < r.size := by
    obtain ⟨m, hm⟩ := Option.isSome_iff_exists.1 (h.full i hi)
    exact Registry.lt_size_of_get? hm
  have hslots : (encode r.size :: l).flatMap slots = r.size :: l.flatMap slots := by
    rw [List.flatMap_cons, slots_encode, List.singleton_append]
  refine ⟨List.forall_mem_cons.2 ⟨⟨_, Mark.stream_encode _⟩, h.spelled⟩, ?_, ?_⟩
  · rw [hslots]
    intro i hi
    rw [Registry.get?_register]
    split
    · rfl
    · rename_i hne
      exact h.full i (List.mem_of_ne_of_mem hne hi)
  · rw [hslots]
    exact List.nodup_cons.2 ⟨fun hmem => Nat.lt_irrefl _ (hlt hmem), h.once⟩

end Live

end Placeholder

end Node

/-! ## Noting what is read -/

namespace TreeBuilder

open Node.Placeholder (Spelled Live Clean slots encode)

/-- A builder of trees with its readings: what was read, and the slots as they were then. -/
structure Reader where
  builder : TreeBuilder := {}
  readings : List (Registry × String) := []
  deriving Inhabited

namespace Reader

def read (b : Reader) (content : String) : List Node × Reader :=
  let (ns, builder) := b.builder.read content
  (ns, ⟨builder, b.readings ++ [(b.builder.registry, content)]⟩)

def emit (b : Reader) (n : Node) : String × Reader :=
  let (x, builder) := b.builder.emit n
  (x, { b with builder })

def withAnchors (b : Reader) (anchors : Text.Slugs) : Reader :=
  { b with builder := { b.builder with anchors } }

def withHooks (b : Reader) (hooks : Hooks) : Reader :=
  { b with builder := { b.builder with hooks } }

/-- The markup that builds nodes and notes its readings. -/
def markup (restrict : Bool) : Markup Reader
  | .wrap w content, b =>
    match branch? restrict b.builder.anchors w with
    | (some k, anchors) =>
      let (ns, b) := (b.withAnchors anchors).read content
      b.emit (.branch k ns)
    | (none, anchors) => ("", b.withAnchors anchors)
  | .table header body, b =>
    let (head, b) := b.read header
    let (body, b) := b.read body
    b.emit (.table head body)
  | c, b =>
    match leaf? restrict b.builder.hooks c with
    | (some l, hooks) => (b.withHooks hooks).emit (.leaf l)
    | (none, hooks) => ("", b.withHooks hooks)

variable {restrict sanitize : Bool} {b : Reader} {l : List String} {x : String} {c : Construct String}

theorem markup_leaf (hc : c.isLeaf) :
    markup restrict c b =
      match leaf? restrict b.builder.hooks c with
      | (some l, hooks) => (b.withHooks hooks).emit (.leaf l)
      | (none, hooks) => ("", b.withHooks hooks) := by
  cases c with
  | wrap w content => cases hc
  | table header body => cases hc
  | _ => rfl

/-- But for its notes it is the markup that builds nodes. -/
theorem markup_erase (restrict : Bool) (c : Construct String) (b : Reader) :
    TreeBuilder.markup restrict c b.builder =
      ((markup restrict c b).1, (markup restrict c b).2.builder) := by
  have hleaf (hc : c.isLeaf) : TreeBuilder.markup restrict c b.builder =
      ((markup restrict c b).1, (markup restrict c b).2.builder) := by
    rw [markup_of_isLeaf hc, markup_leaf hc]
    rcases leaf? restrict b.builder.hooks c with ⟨_ | l, hooks⟩ <;> rfl
  cases c with
  | wrap w content =>
    rw [TreeBuilder.markup, markup]
    rcases branch? restrict b.builder.anchors w with ⟨_ | k, anchors⟩ <;> rfl
  | table header body => rfl
  | _ => exact hleaf rfl

theorem translates_erase (restrict sanitize : Bool) :
    Compile.Translates id builder ((markup restrict).builder sanitize)
      ((TreeBuilder.markup restrict).builder sanitize) where
  empty := rfl
  append _ _ := rfl
  verbatim _ := rfl
  answer c b := by
    have hmap : c.map id = c := by cases c <;> rfl
    rw [hmap]
    exact markup_erase restrict (c.escaped sanitize) b

/-! ## What every answer keeps -/

/-- The open contents are live, and all that was read was clean. -/
structure Neat (l : List String) (b : Reader) : Prop where
  live : Live l b.builder.registry
  clean : ∀ d ∈ b.readings, Clean d.1 d.2

theorem Neat.drop (h : Neat (x :: l) b) : Neat l b :=
  ⟨h.live.drop, h.clean⟩

theorem Neat.read (h : Neat (x :: l) b) : Neat l (b.read x).2 where
  live := h.live.read
  clean := List.forall_mem_append.2
    ⟨h.clean, List.forall_mem_singleton.2 (h.live.clean (List.mem_cons_self ..))⟩

theorem Neat.emit (h : Neat l b) (n : Node) : Neat ((b.emit n).1 :: l) (b.emit n).2 :=
  ⟨h.live.register n, h.clean⟩

theorem Neat.barred (h : Neat l b) : Neat ("" :: l) b :=
  ⟨h.live.empty, h.clean⟩

/-- **One answer.** Its contents are read and a new token stands for them, or they are dropped. -/
theorem neat_markup (h : Neat (c.contents ++ l) b) :
    Neat ((markup restrict c b).1 :: l) (markup restrict c b).2 := by
  have hleaf (hc : c.isLeaf) (hb : Neat l b) :
      Neat ((markup restrict c b).1 :: l) (markup restrict c b).2 := by
    have hneat (hooks : Hooks) : Neat l (b.withHooks hooks) := ⟨hb.live, hb.clean⟩
    rw [markup_leaf hc]
    split
    · exact (hneat _).emit _
    · exact (hneat _).barred
  cases c with
  | wrap w x =>
    rw [markup]
    split
    · rename_i k anchors hk
      have hcontent : Neat (x :: l) (b.withAnchors anchors) := ⟨h.live, h.clean⟩
      exact hcontent.read.emit _
    · rename_i anchors hk
      have hcontent : Neat (x :: l) (b.withAnchors anchors) := ⟨h.live, h.clean⟩
      exact hcontent.drop.barred
  | table header body =>
    have hheader : Neat (header :: body :: l) b := h
    exact hheader.read.read.emit _
  | _ => exact hleaf rfl h

/-- The law of live contents. Html blocks may hold anything. -/
def neat : Compile.Law String Reader where
  Holds := Neat
  Block _ := True
  Body _ := True
  raw := True
  mixed := True

theorem neat_drops : neat.Drops := fun h => Neat.drop h

theorem neat_kept (restrict sanitize : Bool) : neat.Kept ((markup restrict).builder sanitize) where
  perm hl h := ⟨h.live.perm hl, h.clean⟩
  empty h := ⟨h.live.empty, h.clean⟩
  dropEmpty h := h.drop
  append h := ⟨h.live.append, h.clean⟩
  newline h := ⟨h.live.newline, h.clean⟩
  answer {c l b} _ h := by
    rw [← contents_escaped sanitize] at h
    exact neat_markup h
  html {x l b} _ h := by
    have hnone : ((Construct.html x).escaped sanitize).contents ++ l = l := by
      rw [contents_escaped]
      rfl
    exact neat_markup (hnone.symm ▸ h)
  blockEmpty := trivial
  blockRaw _ _ := trivial
  blockLine _ _ _ _ := trivial
  blockMixed _ _ _ _ _ _ h := ⟨trivial, Neat.drop h⟩

end Reader

/-! ## Along a run -/

open Compile (Pass Frame)

theorem contents_erase {σ τ : Type} (g : σ → τ) (p : Pass String σ) :
    (p.map id g).contents = p.contents := by
  have hframe (f : Frame String) : f.map id = f := by
    obtain ⟨role, closing, content⟩ := f
    cases role <;> rfl
  have hframes : p.frames.map (Frame.map id) = p.frames := by
    rw [funext hframe, List.map_id']
  simp [Pass.contents, Pass.map, hframes]

/-- Erasing the notes of a run gives the run of the builder of trees. -/
theorem exists_reader {restrict : Bool} {o : Options} {es : List Event} {p : Pass String TreeBuilder}
    (h : Pass.run ((markup restrict).builder o.sanitize) o.breaks (.initial {}) es = (p, none)) :
    ∃ q : Pass String Reader,
      Pass.run ((Reader.markup restrict).builder o.sanitize) o.breaks (.initial {}) es = (q, none) ∧
        q.map id Reader.builder = p := by
  have hmap := Pass.run_map (Reader.translates_erase restrict o.sanitize) o.breaks (.initial {}) es
  have hinitial : (Pass.initial {} : Pass String Reader).map id Reader.builder = .initial {} := rfl
  rw [hinitial, h, Prod.mk.injEq] at hmap
  exact ⟨_, Prod.ext rfl hmap.2.symm, hmap.1.symm⟩

/-- **No reading meets anything unexpected.** After any events, the contents of the open constructs and
of the document, html blocks apart, are made of tokens and newlines, and their tokens name different slots
that all hold a node. All that was read so far had a node for every token and no malformed tail, and so
has the document when it is read at the end. -/
theorem clean_of_run {restrict : Bool} {o : Options} {es : List Event} {p : Pass String TreeBuilder}
    (h : Pass.run ((markup restrict).builder o.sanitize) o.breaks (.initial {}) es = (p, none)) :
    Live p.contents p.state.registry ∧
      (∃ q : Pass String Reader,
        Pass.run ((Reader.markup restrict).builder o.sanitize) o.breaks (.initial {}) es = (q, none) ∧
          q.map id Reader.builder = p ∧ ∀ d ∈ q.state.readings, Clean d.1 d.2) ∧
      ∀ x, p.finish = .ok x → Clean p.state.registry x := by
  obtain ⟨q, hq, rfl⟩ := exists_reader h
  have hstart : Reader.Neat [Content.empty] {} := by
    refine ⟨Live.empty ⟨by simp, by simp, List.nodup_nil⟩, by simp⟩
  have hend : Reader.Neat q.contents q.state :=
    (Pass.obeys_run_mixed (Reader.neat_kept restrict o.sanitize) Reader.neat_drops trivial (fun _ => trivial)
      (Pass.obeys_initial hstart) (fun _ _ _ _ => trivial) hq).holds
  have hlive : Live (q.map id Reader.builder).contents (q.map id Reader.builder).state.registry := by
    rw [contents_erase]
    exact hend.live
  refine ⟨hlive, ⟨q, hq, rfl, hend.clean⟩, fun x hx => ?_⟩
  obtain ⟨-, -, rfl⟩ := Pass.eq_of_finish hx
  exact hlive.clean (List.mem_cons_self ..)

/-- An html block swallows a text, a table has two heads, and a link is barred. -/
theorem clean_of_run_dropped :
    let o : Options := .default
    let es : List Event :=
      [.start .html, .html "<b>", .text "a", .stop .html, .start (.table []), .start .head, .stop .head,
        .start .head, .start .cell, .text "b", .stop .cell, .stop .head, .stop .table, .start .paragraph,
        .start (.link "javascript:c" ""), .text "c", .stop .link, .softBreak, .text "d"]
    let run (es : List Event) : Pass String TreeBuilder × Option CompileError :=
      Pass.run ((markup true).builder o.sanitize) o.breaks (.initial {}) es
    (run es).2 = none ∧
      (run es).1.contents = [encode 1 ++ encode 6, "\n" ++ encode 8] ∧
      Live (run es).1.contents (run es).1.state.registry ∧
      (∃ q : Pass String Reader, q.map id Reader.builder = (run es).1 ∧
        q.state.readings.map Prod.snd = ["", encode 3, encode 4, encode 5, ""] ∧
          ∀ d ∈ q.state.readings, Clean d.1 d.2) ∧
      (run (es ++ [.stop .paragraph])).1.finish = .ok (encode 1 ++ encode 6 ++ encode 9) ∧
      Clean (run (es ++ [.stop .paragraph])).1.state.registry (encode 1 ++ encode 6 ++ encode 9) := by
  intro o es run
  have hnone : (run es).2 = none := by
    simp only [run, es, o]
    decide +kernel
  have hnone' : (run (es ++ [.stop .paragraph])).2 = none := by
    simp only [run, es, o]
    decide +kernel
  have hcontents : (run es).1.contents = [encode 1 ++ encode 6, "\n" ++ encode 8] := by
    simp only [run, es, o]
    decide +kernel
  have hfinish : (run (es ++ [.stop .paragraph])).1.finish = .ok (encode 1 ++ encode 6 ++ encode 9) := by
    simp only [run, es, o]
    decide +kernel
  have hrun (fs : List Event) (h : (run fs).2 = none) :
      Pass.run ((markup true).builder o.sanitize) o.breaks (.initial {}) fs = ((run fs).1, none) :=
    Prod.ext rfl h
  obtain ⟨hlive, ⟨q, hq, herase, hclean⟩, -⟩ := clean_of_run (hrun es hnone)
  obtain ⟨-, -, hlast⟩ := clean_of_run (hrun _ hnone')
  have hreadings : q.state.readings.map Prod.snd = ["", encode 3, encode 4, encode 5, ""] := by
    have hend : (Pass.run ((Reader.markup true).builder o.sanitize) o.breaks (.initial {}) es).1 = q :=
      congrArg Prod.fst hq
    rw [← hend]
    simp only [es, o]
    decide +kernel
  exact ⟨hnone, hcontents, hlive, ⟨q, herase, hreadings, hclean⟩, hfinish, hlast _ hfinish⟩

end TreeBuilder
end Marktree
