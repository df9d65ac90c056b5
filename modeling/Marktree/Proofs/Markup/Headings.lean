import Marktree.Proofs.Compile.Fold
import Marktree.Proofs.Markup.Contents
import Marktree.Proofs.Markup.HtmlBlock
import Marktree.Proofs.Text.Anchors
import Marktree.Proofs.Text.Words

/-!
# Anchors of headings

The plain text of a heading is noted beside its content, event by event, and its anchor is the slug of
that text. Both say the same up to breaks, but for hard breaks, which are line breaks in the content and
are not noted. So the anchor of a heading is the slug of what its children say exactly if no hard break
stands inside a word (`anchor_eq_slug_iff`).
-/
namespace Marktree

open Text (Gapped)

/-! ## Running text -/

namespace Event

/-- An event of running text. -/
def isInline : Event → Bool
  | .text _ | .code _ | .softBreak | .hardBreak => true
  | _ => false

/-- What an event of running text shows, with a gap for a hard break. -/
def glyphs : Event → Gapped
  | .text t | .code t => t.toList.map some
  | .softBreak => [some '\n']
  | .hardBreak => [none]
  | _ => []

end Event

/-- A construct in running text; links are among them where none is barred. -/
def Tag.isSpan (links : Bool) : Tag → Bool
  | .strong | .emphasis | .strikethrough => true
  | .link .. => links
  | _ => false

namespace Passage

mutual

/-- Running text: texts, code spans and breaks in any nesting of spans. -/
def Inline (links : Bool) : Passage → Prop
  | leaf e => e.isInline
  | construct t ps => t.isSpan links ∧ InlineAll links ps
  | _ => False

def InlineAll (links : Bool) : List Passage → Prop
  | [] => True
  | p :: ps => p.Inline links ∧ InlineAll links ps

end

mutual

/-- What running text shows, with a gap for each hard break. -/
def glyphs : Passage → Gapped
  | leaf e => e.glyphs
  | construct _ ps => glyphsAll ps
  | _ => []

def glyphsAll : List Passage → Gapped
  | [] => []
  | p :: ps => p.glyphs ++ glyphsAll ps

end

end Passage

namespace Text.Gapped

theorem closed_append (l m : Gapped) : closed (l ++ m) = closed l ++ closed m :=
  List.filterMap_append

theorem spread_append (l m : Gapped) : spread (l ++ m) = spread l ++ spread m :=
  List.map_append

theorem closed_map_some (s : List Char) : closed (s.map some) = s := by
  simp [closed]

theorem spread_map_some (s : List Char) : spread (s.map some) = s := by
  rw [spread, List.map_map]
  exact List.map_id s

end Text.Gapped

/-! ## What is noted -/

namespace Passage

theorem alike_raw_leaf {e : Event} (he : e.isInline) :
    List.Forall₂ Text.Alike e.raw.toList e.glyphs.closed := by
  cases e with
  | text t | code t =>
    simp only [Event.raw, Event.glyphs, Gapped.closed_map_some]
    exact Text.alike_refl _
  | softBreak => exact .cons (.inr ⟨by decide, by decide⟩) .nil
  | hardBreak => exact .nil
  | _ => cases he

mutual

/-- The text that is noted for running text is what it shows without its gaps, up to breaks. -/
theorem alike_raw (links : Bool) : ∀ x : Passage, x.Inline links →
    List.Forall₂ Text.Alike x.raw.toList x.glyphs.closed
  | leaf _, he => alike_raw_leaf he
  | construct _ ps, hps => alike_rawAll links ps hps.2
  | html _, h => h.elim
  | code .., h => h.elim
  | image .., h => h.elim

theorem alike_rawAll (links : Bool) : ∀ xs : List Passage, InlineAll links xs →
    List.Forall₂ Text.Alike (rawAll xs).toList (glyphsAll xs).closed
  | [], _ => .nil
  | x :: xs, h => by
    rw [rawAll, glyphsAll, String.toList_append, Gapped.closed_append]
    exact List.rel_append (alike_raw links x h.1) (alike_rawAll links xs h.2)

end

/-- The slug of the text that is noted. -/
theorem slug_rawAll {links : Bool} {xs : List Passage} (h : InlineAll links xs) :
    Text.slugChars (rawAll xs).toList = Text.slugChars (glyphsAll xs).closed := by
  rw [Text.slugChars, Text.slugChars, Text.slugWords_congr (alike_rawAll links xs h)]

end Passage

/-! ## What the children say -/

namespace Node

/-- The text of nodes one after another. -/
def plainTextAll (ns : List Node) : String :=
  String.join (ns.map plainText)

theorem join_walkAll (ns : List Node) : String.join ((walkAll ns).map ownText) = plainTextAll ns := by
  induction ns with
  | nil => rfl
  | cons n ns ih =>
    rw [walkAll, List.map_append, String.join_append, ih]
    exact String.join_cons.symm

theorem plainText_branch (b : Branch) (cs : List Node) : (branch b cs).plainText = plainTextAll cs := by
  rw [plainText, walk, List.map_cons, String.join_cons, join_walkAll, ownText, String.empty_append]

theorem plainText_leaf (l : Leaf) : (leaf l).plainText = l.plainText := by
  simp [plainText, walk, ownText]

end Node

namespace Part

/-- The text of parts one after another. -/
def textAll (ps : List Part) : String :=
  Node.plainTextAll (ps.map toNode)

theorem textAll_append (ps qs : List Part) : textAll (ps ++ qs) = textAll ps ++ textAll qs := by
  simp [textAll, Node.plainTextAll, String.join_append]

theorem textAll_cons (p : Part) (ps : List Part) : textAll (p :: ps) = p.toNode.plainText ++ textAll ps := by
  simp [textAll, Node.plainTextAll]

/-- Joining leaks does not change what they say. -/
theorem textAll_join (ps : List Part) : textAll (join ps) = textAll ps := by
  induction ps with
  | nil => rfl
  | cons p ps ih =>
    cases p with
    | node n => rw [join, textAll_cons, textAll_cons, ih]
    | leak s =>
      rw [join, textAll_cons (.leak s) ps, ← ih]
      split
      · rename_i t qs hjoin
        rw [hjoin, textAll_cons, textAll_cons, ← String.append_assoc]
        simp [toNode, Node.plainText_leaf, Leaf.plainText]
      · rw [textAll_cons]

theorem plainTextAll_nodes (ps : List Part) : Node.plainTextAll (nodes ps) = textAll ps :=
  textAll_join ps

end Part

/-! ## What is built -/

namespace TreeBuilder

variable {o : Options} {b : TreeBuilder}

/-- A content says a text, and no heading was answered for it. -/
def Says (b : TreeBuilder) (r : String × TreeBuilder) (text : List Char) : Prop :=
  (∃ ps, b.Stands r.2 r.1 ps ∧ (Part.textAll ps).toList = text) ∧ r.2.anchors = b.anchors

theorem says_emit (b : TreeBuilder) (l : Leaf) : b.Says (b.emit (.leaf l)) l.plainText.toList := by
  refine ⟨⟨_, b.stands_emit _, ?_⟩, rfl⟩
  simp [Part.textAll, Part.toNode, Node.plainTextAll, Node.plainText_leaf]

theorem says_leaf {e : Event} (he : e.isInline) (b : TreeBuilder) :
    b.Says (e.answer (builder o) o.breaks b) e.glyphs.spread := by
  cases e with
  | text t =>
    have htext : builder o (.text t) b = b.emit (.text t) := builder_text _ _ t b
    rw [Event.glyphs, Gapped.spread_map_some, Event.answer, htext]
    exact b.says_emit (.text t)
  | code t =>
    have hcode : builder o (.codeSpan t) b = b.emit (.leaf (.inlineCode t)) := by
      simp [builder, Markup.builder, Construct.escaped, markup, leaf?]
    rw [Event.glyphs, Gapped.spread_map_some, Event.answer, hcode]
    exact b.says_emit (.inlineCode t)
  | softBreak =>
    rw [Event.answer]
    split
    · exact b.says_emit .lineBreak
    · exact ⟨⟨_, .newline b, rfl⟩, rfl⟩
  | hardBreak => exact b.says_emit .lineBreak
  | _ => cases he

/-- A span stands around what its content stands for. -/
theorem says_span {t : Tag} (ht : t.isSpan (!o.sanitize)) (raw : String) {r : String × TreeBuilder}
    {text : List Char} (h : b.Says r text) :
    ∃ w, t.wrapper? raw = some w ∧ b.Says (builder o (.wrap w r.1) r.2) text := by
  obtain ⟨⟨ps, hstands, htext⟩, hanchors⟩ := h
  have hbranch : ∃ w k, t.wrapper? raw = some w ∧
      branch? o.sanitize r.2.anchors w.escaped = (some k, r.2.anchors) := by
    cases t with
    | link href title =>
      have ho : o.sanitize = false := by simpa [Tag.isSpan] using ht
      refine ⟨.link href (Compile.title? title), .link href (Compile.title? title) true, rfl, ?_⟩
      rw [Direct.branch?_escaped]
      simp [Direct.branch?, Direct.allows, ho]
    | strong => exact ⟨_, _, rfl, rfl⟩
    | emphasis => exact ⟨_, _, rfl, rfl⟩
    | strikethrough => exact ⟨_, _, rfl, rfl⟩
    | _ => cases ht
  obtain ⟨w, k, hw, hk⟩ := hbranch
  have hanswer : builder o (.wrap w r.1) r.2 = (r.2.read r.1).2.emit (.branch k (r.2.read r.1).1) := by
    simp only [builder, Markup.builder, Construct.escaped, markup, hk]
  refine ⟨w, hw, ⟨⟨_, hanswer ▸ hstands.stands_wrap _, ?_⟩, by rw [hanswer]; exact hanchors⟩⟩
  rw [hstands.read, Part.textAll_cons, Part.toNode, Node.plainText_branch, Part.plainTextAll_nodes]
  simp [← htext, Part.textAll, Node.plainTextAll]

end TreeBuilder

namespace Passage

open TreeBuilder (builder)

variable {o : Options}

mutual

/-- Running text is answered with a content that says what it shows. -/
theorem says_eval : ∀ (x : Passage) (b : TreeBuilder), x.Inline (!o.sanitize) →
    b.Says (x.eval (builder o) o.breaks b) x.glyphs.spread
  | leaf e, b, he => TreeBuilder.says_leaf he b
  | construct t ps, b, h => by
    have hinside := says_evalAll ps b h.2
    obtain ⟨w, hw, hsays⟩ := TreeBuilder.says_span h.1 (rawAll ps) hinside
    rw [eval, hw, glyphs]
    exact hsays
  | html _, _, h => h.elim
  | code .., _, h => h.elim
  | image .., _, h => h.elim

theorem says_evalAll : ∀ (xs : List Passage) (b : TreeBuilder), InlineAll (!o.sanitize) xs →
    b.Says (evalAll (builder o) o.breaks xs b) (glyphsAll xs).spread
  | [], b, _ => ⟨⟨_, .empty b, rfl⟩, rfl⟩
  | x :: xs, b, h => by
    obtain ⟨⟨ps, hstands, htext⟩, hanchors⟩ := says_eval x b h.1
    obtain ⟨⟨qs, hstands', htext'⟩, hanchors'⟩ :=
      says_evalAll xs (x.eval (builder o) o.breaks b).2 h.2
    refine ⟨⟨ps ++ qs, hstands.append hstands', ?_⟩, hanchors'.trans hanchors⟩
    rw [Part.textAll_append, String.toList_append, htext, htext', glyphsAll, Gapped.spread_append]

end

end Passage

/-! ## The heading -/

/-- An anchor is a noted slug with the number of its repeat. -/
theorem Text.Slugs.exists_noted (t : Slugs) (text : String) :
    ∃ n, t.anchor text = (numbered (slug text, n), t.note (slug text) n) := by
  cases h : t.repeats? (slug text) with
  | none => exact ⟨0, by simp [anchor, h, numbered]⟩
  | some n => exact ⟨n + 1, by simp [anchor, h, numbered]⟩

/-- A heading reads its content after its anchor is noted. -/
theorem TreeBuilder.builder_heading (o : Options) (level : Nat) (text x : String) (b : TreeBuilder) :
    builder o (.wrap (.heading level text) x) b =
      (({ b with anchors := (b.anchors.anchor text).2 } : TreeBuilder).read x).2.emit
        (.branch (.heading level (b.anchors.anchor text).1) (b.read x).1) :=
  rfl

namespace Compile.Pass

open TreeBuilder (builder)
open Node.Placeholder (encode)
open Passage (eval evalAll raw rawAll events eventsAll InlineAll Inline glyphsAll)

variable {o : Options}

section

variable {σ : Type} {b : Builder String σ} {breaks : Bool}

theorem step_inline {p : Pass String σ} (hc : p.capture = none) {e : Event} (he : e.isInline) :
    p.step b breaks e = .ok (p.absorb (e.answer b breaks p.state) e.raw) := by
  rw [step_of_capture hc]
  cases e with
  | softBreak => cases breaks <;> rfl
  | hardBreak =>
    have hraw : Event.raw .hardBreak = "" := rfl
    rw [hraw, absorb, note_empty]
    rfl
  | text t | code t => rfl
  | _ => cases he

theorem capture_absorb (p : Pass String σ) (x : String × σ) (raw : String) :
    (p.absorb x raw).capture = p.capture :=
  (Compile.Pass.refilled_push _ _).capture

theorem start_span {links : Bool} {t : Tag} (ht : t.isSpan links) (p : Pass String σ) :
    t.isPlain ∧ t.isHeading = false ∧ (p.start t).capture = p.capture := by
  cases t <;> first | exact ⟨rfl, rfl, rfl⟩ | cases ht

mutual

/-- Running text compiles to what it is evaluated to wherever it stands, also in an html block. -/
theorem run_inline (links : Bool) : ∀ (x : Passage) (p : Pass String σ) (rest : List Event),
    p.capture = none → x.Inline links →
    p.run b breaks (x.events ++ rest) =
      (p.absorb (x.eval b breaks p.state) x.raw).run b breaks rest
  | .leaf e, p, rest, hc, he => run_cons (step_inline hc he) rest
  | .construct t ps, p, rest, hc, ⟨ht, hps⟩ => by
    obtain ⟨hplain, hheading, hcapture⟩ := start_span ht p
    have hstart : p.step b breaks (.start t) = .ok (p.start t) := by
      rw [step_of_capture hc]
      rfl
    have hinside := run_inlineAll links ps (p.start t) (.stop t.closing :: rest) (hcapture.trans hc) hps
    have hclose := stop_start (b := b) (p := p) hplain (by simp [hheading])
      (evalAll b breaks ps p.state) (rawAll ps)
    have hflow : ((p.start t).absorb (evalAll b breaks ps p.state) (rawAll ps)).step b breaks
        (.stop t.closing) = _ :=
      step_of_capture ((capture_absorb _ _ _).trans (hcapture.trans hc)) _
    rw [events, List.cons_append, List.cons_append, List.append_assoc, run_cons hstart,
      List.singleton_append, hinside, state_start, run_cons (hflow.trans hclose), eval, raw]
  | .html _, _, _, _, h => h.elim
  | .code .., _, _, _, h => h.elim
  | .image .., _, _, _, h => h.elim

theorem run_inlineAll (links : Bool) : ∀ (xs : List Passage) (p : Pass String σ) (rest : List Event),
    p.capture = none → InlineAll links xs →
    p.run b breaks (eventsAll xs ++ rest) =
      (p.absorb (evalAll b breaks xs p.state) (rawAll xs)).run b breaks rest
  | [], p, rest, _, _ => by
    rw [evalAll, rawAll, absorb_nothing, eventsAll, List.nil_append]
  | x :: xs, p, rest, hc, ⟨hx, hxs⟩ => by
    rw [eventsAll, List.append_assoc, run_inline links x p _ hc hx,
      run_inlineAll links xs _ rest ((capture_absorb _ _ _).trans hc) hxs, absorb_absorb, state_absorb,
      evalAll, rawAll]

end

/-- A heading over running text is answered with what its wrapper is answered with. -/
theorem run_heading {links : Bool} {p : Pass String σ} (hc : p.capture = none) (hh : p.heading = none)
    (l : Level) {xs : List Passage} (hxs : InlineAll links xs) :
    p.run b breaks (.start (.heading l) :: eventsAll xs ++ [.stop (.heading l)]) =
      (p.absorb (b (.wrap (.heading l.number (Text.trim (rawAll xs))) (evalAll b breaks xs p.state).1)
        (evalAll b breaks xs p.state).2) "", none) := by
  have hstart : p.step b breaks (.start (.heading l)) = .ok (p.start (.heading l)) := by
    rw [step_of_capture hc]
    rfl
  have hcapture : (p.start (.heading l)).capture = none := hc
  have hclose := stop_start (b := b) (p := p) (t := .heading l) rfl (by simp [hh])
    (evalAll b breaks xs p.state) (rawAll xs)
  have hflow : ((p.start (.heading l)).absorb (evalAll b breaks xs p.state) (rawAll xs)).step b breaks
      (.stop (.heading l)) = _ :=
    step_of_capture ((capture_absorb _ _ _).trans hcapture) _
  rw [List.cons_append, run_cons hstart, run_inlineAll links xs _ _ hcapture hxs, state_start,
    run_cons (hflow.trans hclose), run]
  simp [absorb, note, hh, Tag.wrapper?]

end

open Text (Slugs)

/-- **The anchor of a heading is the slug of what its children say exactly if no hard break stands in a
word.** Wherever a heading stands outside of other headings, it is answered with the token of its node.
The id of the node is a slug with the number of its repeat, as they are noted in the store of anchors.
What the children say has a line feed for each hard break, and nothing is noted for one: so the two
slugs are the same unless a hard break joins two words. -/
theorem anchor_eq_slug_iff (o : Options) (p : Pass String TreeBuilder) (hc : p.capture = none)
    (hh : p.heading = none) (l : Level) {xs : List Passage} (hxs : InlineAll (!o.sanitize) xs) :
    ∃ q i s n children,
      p.run (builder o) o.breaks (.start (.heading l) :: eventsAll xs ++ [.stop (.heading l)]) = (q, none) ∧
      q = p.absorb (encode i, q.state) "" ∧
      q.state.registry.get? i = some (.branch (.heading l.number (Slugs.numbered (s, n))) children) ∧
      q.state.anchors.seen = (s, n) :: p.state.anchors.seen ∧
      (Node.plainTextAll children).toList = (glyphsAll xs).spread ∧
      (s = Text.slug (Node.plainTextAll children) ↔ ¬(glyphsAll xs).Splits) := by
  obtain ⟨⟨ps, hstands, htext⟩, hanchors⟩ := Passage.says_evalAll xs p.state hxs
  have hrun : p.run (builder o) o.breaks _ = _ := run_heading hc hh l hxs
  generalize evalAll (builder o) o.breaks xs p.state = r at hstands hanchors hrun
  obtain ⟨n, hn⟩ := r.2.anchors.exists_noted (Text.trim (rawAll xs))
  rw [TreeBuilder.builder_heading, hn, hstands.read] at hrun
  have hsays : (Node.plainTextAll (Part.nodes ps)).toList = (glyphsAll xs).spread := by
    rw [Part.plainTextAll_nodes, htext]
  refine ⟨_, (r.2.read r.1).2.registry.size, Text.slug (Text.trim (rawAll xs)), n, Part.nodes ps, hrun, ?_,
    ?_, ?_, hsays, ?_⟩
  · rw [state_absorb]
    rfl
  · rw [state_absorb]
    exact (Node.Registry.get?_register _ _).trans (if_pos rfl)
  · rw [state_absorb, ← hanchors]
    rfl
  · rw [Text.slug_trim, Text.slug, Text.slug, String.ofList_inj, Passage.slug_rawAll hxs, hsays,
      Gapped.slugChars_eq_iff]

/-- A hard break beside a dash, a soft break in a span, and a link. -/
theorem anchor_eq_slug_iff_dash :
    let o := Options.default
    let xs : List Passage :=
      [.leaf (.text "A -"), .leaf .hardBreak, .construct .strong [.leaf (.code "b"), .leaf .softBreak],
        .construct (.link "c" "") [.leaf (.text "c&d")]]
    ∃ q i s n children,
      (Pass.initial {}).run (builder o) o.breaks
        (.start (.heading 0) :: eventsAll xs ++ [.stop (.heading 0)]) = (q, none) ∧
      q.state.registry.get? i = some (.branch (.heading 1 (Slugs.numbered (s, n))) children) ∧
      s = Text.slug (Node.plainTextAll children) := by
  intro o xs
  have hxs : InlineAll (!o.sanitize) xs := by
    simp [xs, InlineAll, Inline, Event.isInline, Tag.isSpan, o, Options.default]
  obtain ⟨q, i, s, n, children, hrun, -, hnode, -, -, hslug⟩ :=
    anchor_eq_slug_iff o (.initial {}) rfl rfl 0 hxs
  have hsplits : ¬(glyphsAll xs).Splits := by
    rw [← Gapped.slugChars_eq_iff]
    decide +kernel
  exact ⟨q, i, s, n, children, hrun, hnode, hslug.2 hsplits⟩

end Compile.Pass

/-- A hard break between two words: the heading shows two of them and its anchor has one. -/
theorem anchor_of_hardBreak :
    let events : List Event :=
      [.start (.heading 0), .text "a", .hardBreak, .text "b", .stop (.heading 0)]
    let children : List Node := [.text "a", .leaf .lineBreak, .text "b"]
    (∃ stream b, compile (TreeBuilder.markup false) .default {} events = (.ok stream, b) ∧
      (b.finish stream).1 = [.branch (.heading 1 "ab") children]) ∧
    Text.slug (Node.plainTextAll children) = "a-b" := by
  intro events children
  have hraw : Event.Along Event.Raw .flow events := by
    simp [events, Event.Along, Event.Raw, Event.Place.next]
  have hdirect : build (Direct.builder false) false {} events = (.ok _, _) := rfl
  exact ⟨Streams.exists_finish (o := .default) hraw hdirect, by decide +kernel⟩

end Marktree
