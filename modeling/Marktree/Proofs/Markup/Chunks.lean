import Marktree.Markup.Html
import Marktree.Proofs.Markup.Pruning

/-!
# Chunks of text

A text may come in one event or in several. A builder whose answers to two texts are together its
answer to both as one cannot tell (`build_chunked`): in code blocks, in images and in the plain text
of headings the chunks are joined anyway. The markup that writes HTML is such a builder. The one of
trees is not, as every chunk becomes a node of its own; it is one once neighbouring texts are joined and
empty ones left out (`Digest.builder`).
-/
namespace Marktree

namespace Event

/-- The second events are the first with texts in chunks. -/
inductive Chunked : List Event → List Event → Prop
  | nil : Chunked [] []
  | keep (e : Event) {es fs : List Event} (h : Chunked es fs) : Chunked (e :: es) (e :: fs)
  | chunks (s : String) (ts : List String) {es fs : List Event} (h : Chunked es fs) :
    Chunked (.text (String.join (s :: ts)) :: es) ((s :: ts).map .text ++ fs)

theorem Chunked.cons_text {t : String} {es fs : List Event} (h : Chunked (.text t :: es) fs) (s : String) :
    Chunked (.text (s ++ t) :: es) (.text s :: fs) := by
  cases h with
  | keep e h => simpa using Chunked.chunks s [t] h
  | chunks t ts h => simpa using Chunked.chunks s (t :: ts) h

/-- Joining neighbouring texts undoes chunks. -/
theorem chunked_mergeTexts (es : List Event) : Chunked (mergeTexts es) es := by
  fun_induction mergeTexts es with
  | case1 => exact .nil
  | case2 s es t fs hfs ih =>
    rw [hfs] at ih
    exact ih.cons_text s
  | case3 s es _ ih => exact ih.keep _
  | case4 e es _ ih => exact ih.keep _

theorem Place.next_text_text (place : Place) (s t : String) :
    (place.next (.text s)).next (.text t) = place.next (.text (s ++ t)) := by
  cases place with
  | code body => simp [next, String.append_assoc]
  | image inner => cases inner <;> rfl
  | _ => rfl

theorem Place.next_text_ne_block {place : Place} (h : place ≠ .block) (s : String) :
    place.next (.text s) ≠ .block := by
  cases place with
  | block => exact absurd rfl h
  | image inner => cases inner <;> simp [next]
  | _ => simp [next]

theorem along_texts {place : Place} (hp : place ≠ .block) (ts : List String) {es : List Event} :
    Along Raw place (ts.map .text ++ es) ↔ Along Raw (place.next (.text (String.join ts))) es := by
  induction ts generalizing place with
  | nil =>
    cases place with
    | block => exact absurd rfl hp
    | code body => simp [Place.next]
    | image inner => cases inner <;> rfl
    | flow => rfl
  | cons t ts ih =>
    have hraw : Raw place (.text t) := fun hb => absurd hb hp
    rw [List.map_cons, List.cons_append, Along, ih (Place.next_text_ne_block hp t), Place.next_text_text,
      String.join_cons]
    exact and_iff_right hraw

/-- Chunks stand where their text may. -/
theorem Chunked.along_iff {es fs : List Event} (h : Chunked es fs) {place : Place} :
    Along Raw place es ↔ Along Raw place fs := by
  induction h generalizing place with
  | nil => rfl
  | keep e h ih => rw [Along, Along, ih]
  | chunks s ts h ih =>
    by_cases hp : place = .block
    · have hno (t : String) : ¬ Raw place (.text t) := fun hraw => by
        rcases hraw hp with ⟨u, hu⟩ | hu <;> cases hu
      exact ⟨fun hes => absurd hes.1 (hno _), fun hfs => absurd hfs.1 (hno s)⟩
    · have hraw : Raw place (.text (String.join (s :: ts))) := fun hb => absurd hb hp
      rw [along_texts hp, Along, ih]
      exact and_iff_right hraw

end Event

/-! ## Builders that cannot tell -/

variable {α σ : Type} [Content α]

/-- The answers to two texts are together the answer to both as one. -/
structure Builder.JoinsTexts (b : Builder α σ) : Prop where
  assoc : ∀ x y z : α, Content.append (Content.append x y) z = Content.append x (Content.append y z)
  text : ∀ s t st, Content.append (b (.text s) st).1 (b (.text t) st).1 = (b (.text (s ++ t)) st).1
  state : ∀ s st, (b (.text s) st).2 = st

namespace Compile.Pass

variable {b : Builder α σ} {breaks : Bool}

theorem push_push (h : b.JoinsTexts) (p : Pass α σ) (x y : α) :
    (p.push x).push y = p.push (Content.append x y) := by
  obtain ⟨state, document, frames, capture, table, heading⟩ := p
  cases frames <;> simp [push, h.assoc]

theorem text_text (h : b.JoinsTexts) (p : Pass α σ) (s t : String) :
    (p.text b s).text b t = p.text b (s ++ t) := by
  have hpush := push_push h ((p.note s).note t) (b (.text s) p.state).1 (b (.text t) p.state).1
  rw [h.text] at hpush
  obtain ⟨state, document, frames, capture, table, heading⟩ := p
  cases frames <;> cases heading <;>
    simp_all [text, answer, note, push, h.state, String.append_assoc]

/-- A text and one after it are taken in as one. -/
theorem step_text_text (h : b.JoinsTexts) (breaks : Bool) (p : Pass α σ) (s t : String) :
    ∃ q r, p.step b breaks (.text s) = .ok q ∧ q.step b breaks (.text t) = .ok r ∧
      p.step b breaks (.text (s ++ t)) = .ok r := by
  obtain ⟨state, document, frames, capture, table, heading⟩ := p
  match capture with
  | none =>
    have hcapture (p : Pass α σ) : (p.text b s).capture = p.capture := (alike_answer _ _ _).capture
    exact ⟨_, _, rfl, by rw [step, hcapture]; rfl, by simp [step, flow, text_text h]⟩
  | some (.code language body) => exact ⟨_, _, rfl, rfl, by simp [step, codeBlock, String.append_assoc]⟩
  | some (.image inner src title alt) =>
    exact ⟨_, _, rfl, rfl, by simp [step, imageAlt, String.append_assoc]⟩

theorem run_texts (h : b.JoinsTexts) (p : Pass α σ) (s : String) (ts : List String) (es : List Event) :
    p.run b breaks ((s :: ts).map .text ++ es) =
      p.run b breaks (.text (String.join (s :: ts)) :: es) := by
  induction ts generalizing p s with
  | nil => simp
  | cons t ts ih =>
    obtain ⟨q, r, hs, ht, hjoined⟩ := step_text_text h breaks p s (String.join (t :: ts))
    rw [← String.join_cons] at hjoined
    calc p.run b breaks ((s :: t :: ts).map .text ++ es)
      _ = q.run b breaks ((t :: ts).map .text ++ es) := by rw [List.map_cons, List.cons_append, run, hs]
      _ = q.run b breaks (.text (String.join (t :: ts)) :: es) := ih q t
      _ = r.run b breaks es := by rw [run, ht]
      _ = p.run b breaks (.text (String.join (s :: t :: ts)) :: es) := by rw [run, hjoined]

theorem run_chunked (h : b.JoinsTexts) {es fs : List Event} (hchunked : Event.Chunked es fs)
    (p : Pass α σ) : p.run b breaks fs = p.run b breaks es := by
  have hcons (e : Event) {es fs : List Event} (ih : ∀ p : Pass α σ, p.run b breaks fs = p.run b breaks es)
      (p : Pass α σ) : p.run b breaks (e :: fs) = p.run b breaks (e :: es) := by
    rw [run, run]
    cases p.step b breaks e with
    | ok q => exact ih q
    | error err => rfl
  induction hchunked generalizing p with
  | nil => rfl
  | keep e _ ih => exact hcons e ih p
  | chunks s ts _ ih => exact (run_texts h p s ts _).trans (hcons _ ih p)

end Compile.Pass

/-- **A builder that joins texts builds the same whatever the chunks are.** -/
theorem build_chunked {b : Builder α σ} (h : b.JoinsTexts) (breaks : Bool) (s : σ) {es fs : List Event}
    (hchunked : Event.Chunked es fs) : build b breaks s fs = build b breaks s es := by
  rw [build, Compile.Pass.run_chunked h hchunked, build]

theorem Html.joinsTexts (restrict sanitize : Bool) :
    ((markup restrict).builder sanitize).JoinsTexts where
  assoc _ _ _ := String.append_assoc
  text s t _ := (Text.escape_append s t).symm
  state _ _ := rfl

/-- Chunks change no error, whatever the builder is. -/
theorem build_error_chunked {es fs : List Event} (hchunked : Event.Chunked es fs) (b : Builder α σ)
    (breaks : Bool) (s : σ) (err : CompileError) :
    (build b breaks s fs).1 = .error err ↔ (build b breaks s es).1 = .error err := by
  have hhtml := build_chunked (Html.joinsTexts false false) breaks {} hchunked
  constructor
  · intro h
    have hfs := build_error h ((Html.markup false).builder false) {}
    rw [hhtml] at hfs
    exact build_error hfs b s
  · intro h
    have hes := build_error h ((Html.markup false).builder false) {}
    rw [← hhtml] at hes
    exact build_error hes b s

/-! ## Trees without empty texts -/

namespace Node

mutual

/-- The node without the empty texts below it, or nothing if it is one itself. -/
def clear : Node → List Node
  | leaf l => if l = .text "" then [] else [leaf l]
  | branch b cs => [branch b (clearAll cs)]
  | table head body => [table (clearAll head) (clearAll body)]

def clearAll : List Node → List Node
  | [] => []
  | n :: ns => clear n ++ clearAll ns

end

theorem clearAll_eq_flatMap (ns : List Node) : clearAll ns = ns.flatMap clear := by
  induction ns with
  | nil => rfl
  | cons n ns ih => rw [clearAll, ih, List.flatMap_cons]

theorem clearAll_append (ns ms : List Node) : clearAll (ns ++ ms) = clearAll ns ++ clearAll ms := by
  simp [clearAll_eq_flatMap]

theorem clear_text (s : String) : clear (.text s) = if s = "" then [] else [.text s] := by
  simp [clear]

theorem tidyAll_clear_text (s t : String) :
    tidyAll (clear (.text (s ++ t))) = tidyAll (clear (.text s) ++ clear (.text t)) := by
  by_cases hs : s = "" <;> by_cases ht : t = "" <;> simp [clear_text, hs, ht, tidyAll, tidy, joinText]

mutual

theorem ids_clear : ∀ n : Node, ids n.clear = ids [n]
  | leaf l => by
    rw [clear]
    split
    · rename_i hl
      rw [hl]
      rfl
    · rfl
  | branch b cs => by rw [clear, ids_branch, ids_branch, ids_clearAll cs]
  | table head body => by rw [clear, ids_table, ids_table, ids_clearAll head, ids_clearAll body]

/-- Empty texts have no anchors. -/
theorem ids_clearAll : ∀ ns : List Node, ids (clearAll ns) = ids ns
  | [] => rfl
  | n :: ns => by
    rw [clearAll, ids_append, ids_clear n, ids_clearAll ns, ← ids_append, List.singleton_append]

end

end Node

open Node (tidyAll clearAll)

/-! ## Digests -/

/-- A content in which chunks cannot be told: its nodes, tidy and without empty texts, and what its leaks
say. -/
structure Digest where
  nodes : List Node
  raw : String

def Part.digest (ps : List Part) : Digest :=
  ⟨tidyAll (clearAll (ps.map toNode)), raw ps⟩

instance : Content Digest where
  empty := ⟨[], ""⟩
  append x y := ⟨x.nodes.foldr Node.joinText y.nodes, x.raw ++ y.raw⟩
  verbatim s := Part.digest [.leak s]

theorem Part.digest_append (ps qs : List Part) :
    digest (ps ++ qs) = Content.append (digest ps) (digest qs) := by
  simp [digest, Content.append, Node.clearAll_append, Node.tidyAll_append, raw]

theorem Part.raw_node (n : Node) (ps : List Part) : raw (.node n :: ps) = raw ps := rfl

theorem Part.digest_node (n : Node) : digest [.node n] = ⟨tidyAll n.clear, ""⟩ := by
  rw [digest, raw_node]
  simp [toNode, clearAll, raw]

theorem Part.nodes_digest (ps : List Part) : (digest ps).nodes = tidyAll (clearAll (nodes ps)) := by
  rw [digest, Node.clearAll_eq_flatMap, Node.clearAll_eq_flatMap,
    tidyAll_nodes Node.tidyAll_clear_text]

/-- The builder of trees for contents in which chunks cannot be told. -/
def Digest.builder (restrict : Bool) : Builder Digest Supply
  | .wrap w x, g =>
    match Direct.branch? restrict g.anchors w with
    | (some k, anchors) => (⟨[.branch k x.nodes], ""⟩, { g with anchors })
    | (none, anchors) => (Content.empty, { g with anchors })
  | .table header body, g => (⟨[.table header.nodes body.nodes], ""⟩, g)
  | c, g =>
    match Direct.leaf? restrict g.hooks (c.map fun x => [.leak x.raw]) with
    | (some l, hooks) => (Part.digest [.node (.leaf l)], { g with hooks })
    | (none, hooks) => (Content.empty, { g with hooks })

theorem Direct.leaf?_digest (restrict : Bool) (hooks : Hooks) {c : Construct (List Part)} (hc : c.isLeaf) :
    leaf? restrict hooks ((c.map Part.digest).map fun x => [.leak x.raw]) = leaf? restrict hooks c := by
  cases c with
  | wrap w x => cases hc
  | table x y => cases hc
  | html x => simp [Construct.map, leaf?, Part.digest, Part.raw, Part.leak?]
  | _ => rfl

theorem Digest.builder_of_isLeaf {restrict : Bool} {c : Construct Digest} (hc : c.isLeaf)
    (g : Supply) : builder restrict c g =
      match Direct.leaf? restrict g.hooks (c.map fun x => [.leak x.raw]) with
      | (some l, hooks) => (Part.digest [.node (.leaf l)], { g with hooks })
      | (none, hooks) => (Content.empty, { g with hooks }) := by
  cases c with
  | wrap w x => cases hc
  | table x y => cases hc
  | _ => rfl

theorem Digest.translates (restrict : Bool) :
    Compile.Translates Part.digest id (Direct.builder restrict) (builder restrict) where
  empty := rfl
  append := Part.digest_append
  verbatim _ := rfl
  answer c g := by
    have hleaf {c : Construct (List Part)} (hc : c.isLeaf) :
        builder restrict (c.map Part.digest) (id g) =
          (Part.digest (Direct.builder restrict c g).1, id (Direct.builder restrict c g).2) := by
      rw [id_eq, Direct.builder_of_isLeaf hc, builder_of_isLeaf ((Construct.isLeaf_map _ _).trans hc),
        Direct.leaf?_digest restrict _ hc]
      rcases Direct.leaf? restrict g.hooks c with ⟨_ | l, hooks⟩ <;> rfl
    cases c with
    | wrap w ps =>
      simp only [Construct.map, builder, Direct.builder, id_eq]
      rcases Direct.branch? restrict g.anchors w with ⟨_ | k, anchors'⟩
      · rfl
      · simp [Part.digest_node, Part.nodes_digest, Node.clear, tidyAll, Node.tidy, Node.joinText]
    | table header body =>
      simp [Construct.map, builder, Direct.builder, Part.digest_node, Part.nodes_digest, Node.clear,
        tidyAll, Node.tidy, Node.joinText]
    | _ => exact hleaf rfl

theorem Digest.joinsTexts (restrict : Bool) : (builder restrict).JoinsTexts where
  assoc x y z := by simp [Content.append, Node.foldr_joinText_assoc, String.append_assoc]
  text s t g := by
    have htext (s : String) : (builder restrict (.text s) g).1 = Part.digest [.node (.text s)] := rfl
    simp only [htext, Part.digest_node, Node.tidyAll_clear_text, Node.tidyAll_append]
    rfl
  state _ _ := rfl

/-! ## Rendering -/

/-- Two lists of events render alike: to the same HTML or the same error, and where html blocks hold raw
html alone, to trees that are the same once neighbouring texts are joined and empty ones left out,
with the same anchors. -/
structure Event.RenderAlike (es fs : List Event) : Prop where
  html : ∀ restrict o anchors,
    compile (Html.markup restrict) o anchors fs = compile (Html.markup restrict) o anchors es
  error : ∀ restrict o b err, (compile (TreeBuilder.markup restrict) o b fs).1 = .error err ↔
    (compile (TreeBuilder.markup restrict) o b es).1 = .error err
  raw : Along Raw .flow es ↔ Along Raw .flow fs
  tree : ∀ restrict o b₀ b stream, Along Raw .flow es →
    compile (TreeBuilder.markup restrict) o b₀ es = (.ok stream, b) →
      ∃ stream' b', compile (TreeBuilder.markup restrict) o b₀ fs = (.ok stream', b') ∧
        tidyAll (clearAll (b'.finish stream').1) = tidyAll (clearAll (b.finish stream).1) ∧
        Node.ids (b'.finish stream').1 = Node.ids (b.finish stream).1

/-- The nodes of a document, tidy and without empty texts, are what its events build without chunks. -/
theorem Digest.build_nodes {o : Options} {restrict : Bool} {es : List Event} {stream : String}
    {b₀ b : TreeBuilder} (hraw : Event.Along Event.Raw .flow es)
    (h : compile (TreeBuilder.markup restrict) o b₀ es = (.ok stream, b)) :
    ∃ x g, build (builder restrict) o.breaks b₀.toSupply es = (.ok x, g) ∧
      x.nodes = tidyAll (clearAll (b.finish stream).1) := by
  obtain ⟨ps, g, hdirect, -⟩ := build_pair h (Direct.builder restrict) b₀.toSupply
  have hdigest := build_map (translates restrict) o.breaks b₀.toSupply es
  rw [id_eq, hdirect] at hdigest
  exact ⟨Part.digest ps, g, hdigest, by
    rw [Part.nodes_digest, Streams.finish_answer hraw h hdirect]⟩

theorem Node.ids_tidyAll_clearAll (ns : List Node) : ids (tidyAll (clearAll ns)) = ids ns := by
  rw [ids_tidyAll, ids_clearAll]

theorem Event.Chunked.alike {es fs : List Event} (h : Chunked es fs) : RenderAlike es fs where
  html restrict o anchors := build_chunked (Html.joinsTexts restrict o.sanitize) o.breaks anchors h
  error restrict o b err := build_error_chunked h _ o.breaks b err
  raw := h.along_iff
  tree restrict o b₀ b stream hraw hes := by
    obtain ⟨x, g, hx, hnodes⟩ := Digest.build_nodes hraw hes
    rw [← build_chunked (Digest.joinsTexts restrict) o.breaks b₀.toSupply h] at hx
    obtain ⟨stream', b', hfs, -⟩ := build_pair hx ((TreeBuilder.markup restrict).builder o.sanitize) b₀
    obtain ⟨y, g', hy, hnodes'⟩ := Digest.build_nodes (h.along_iff.1 hraw) hfs
    obtain ⟨rfl, -⟩ : x = y ∧ g = g' := by simpa using hx.symm.trans hy
    have htidy : tidyAll (clearAll (b'.finish stream').1) = tidyAll (clearAll (b.finish stream).1) :=
      hnodes'.symm.trans hnodes
    refine ⟨stream', b', hfs, htidy, ?_⟩
    rw [← Node.ids_tidyAll_clearAll, htidy, Node.ids_tidyAll_clearAll]

/-- **Chunks of text do not show.** Events render alike however their texts are cut into chunks, and as
they do with neighbouring texts merged. -/
theorem Event.renderAlike_of_chunked {es fs : List Event} (h : Chunked es fs) :
    RenderAlike es fs ∧ RenderAlike (mergeTexts fs) fs :=
  ⟨h.alike, (chunked_mergeTexts fs).alike⟩

/-- Chunks in a heading, in an image in it, and in a code block; one of them is empty. -/
theorem Event.renderAlike_of_chunked_heading :
    let es : List Event :=
      [.start (.heading 0), .text "a<b", .start (.image "c" ""), .text "de", .stop .image,
        .stop (.heading 0), .start (.code none), .text "f&g", .stop .code]
    let fs : List Event :=
      [.start (.heading 0), .text "a<", .text "", .text "b", .start (.image "c" ""), .text "d", .text "e",
        .stop .image, .stop (.heading 0), .start (.code none), .text "f&", .text "g", .stop .code]
    let tree (events : List Event) :=
      let r := compile (TreeBuilder.markup false) .default {} events
      (r.2.finish (r.1.toOption.getD "")).1
    let html := "<h1 id=\"ab\">a&lt;b<img src=\"c\" alt=\"de\"></h1><pre><code>f&amp;g</code></pre>"
    Chunked es fs ∧ compile (Html.markup false) .default {} fs = (.ok html, ⟨[("ab", 0)]⟩) ∧
      (Node.walkAll (tree es)).length = 4 ∧ (Node.walkAll (tree fs)).length = 6 ∧
      tidyAll (clearAll (tree fs)) = tidyAll (clearAll (tree es)) := by
  intro es fs tree html
  have hchunked : Chunked es fs := (show es = mergeTexts fs from rfl) ▸ chunked_mergeTexts fs
  obtain ⟨halike, -⟩ := renderAlike_of_chunked hchunked
  have hraw : Along Raw .flow es := by simp [es, Along, Raw, Place.next]
  have hhtml : compile (Html.markup false) .default {} es = (.ok html, ⟨[("ab", 0)]⟩) := rfl
  obtain ⟨stream, b, hes, -⟩ := build_pair hhtml ((TreeBuilder.markup false).builder false) {}
  obtain ⟨stream', b', hfs, htidy, -⟩ := halike.tree false .default {} b stream hraw hes
  have hes : compile (TreeBuilder.markup false) .default {} es = (.ok stream, b) := hes
  refine ⟨hchunked, ?_, ?_, ?_, ?_⟩
  · rw [halike.html, hhtml]
  · simp only [tree, es]
    decide +kernel
  · simp only [tree, fs]
    decide +kernel
  · simp only [tree, hes, hfs]
    exact htidy

end Marktree
