import Marktree.Proofs.Compile.Grammar
import Marktree.Proofs.Compile.Run

/-!
# Compiling is a fold

A document without tables is a forest of passages (`Passage`). Its events compile to what the forest
is evaluated to by recursion, with the same answers of the markup one after another
(`compile_eq_evalAll`): the parts of a construct are answered before it, from left to right. The
plain text of a heading and the alternative text of an image, which a compilation collects beside
the frames, are functions of the passages in them.
-/
namespace Marktree

/-- A part of a document: an event that stands by itself, or a construct with what stands in it. -/
inductive Passage
  | leaf (event : Event)
  | construct (tag : Tag) (children : List Passage)
  | html (lines : List String)
  | code (info : Option String) (texts : List String)
  | image (src title : String) (inner : List Event)

namespace Tag

/-- A construct with a frame that is neither an html block nor part of a table. -/
def isPlain : Tag → Bool
  | .code _ | .image .. | .html | .table _ | .head | .row | .cell => false
  | _ => true

def isHeading : Tag → Bool
  | .heading _ => true
  | _ => false

/-- What is put around the content of a construct; `raw` is the plain text in it. Some constructs
leave their content as it is. -/
def wrapper? (raw : String) : Tag → Option Wrapper
  | .paragraph => some .paragraph
  | .heading l => some (.heading l.number (Text.trim raw))
  | .quote _ => some .quote
  | .list first => some (.list first.isSome first)
  | .item => some .item
  | .emphasis => some .emphasis
  | .strong => some .strong
  | .strikethrough => some .strikethrough
  | .link href title => some (.link href (Compile.title? title))
  | _ => none

end Tag

namespace Event

/-- What an event adds to the plain text of a heading around it. -/
def raw : Event → String
  | .text t | .code t | .inlineMath t | .displayMath t => t
  | .softBreak => " "
  | _ => ""

/-- What an event adds to the alternative text of an image around it. -/
def alt : Event → String
  | .text t | .code t => t
  | .softBreak | .hardBreak => " "
  | _ => ""

/-- What an event that stands by itself is answered with. -/
def answer {σ : Type} (b : Builder String σ) (breaks : Bool) (e : Event) (s : σ) : String × σ :=
  match e with
  | .text t | .inlineMath t | .displayMath t => b (.text t) s
  | .code t => b (.codeSpan t) s
  | .html t | .inlineHtml t => b (.html t) s
  | .softBreak => if breaks then b .lineBreak s else ("\n", s)
  | .hardBreak => b .lineBreak s
  | .rule => b .rule s
  | .task checked => b (.checkbox checked) s
  | _ => ("", s)

end Event

namespace Passage

mutual

/-- The passage as a sequence of events. -/
def events : Passage → List Event
  | leaf e => [e]
  | construct t ps => .start t :: eventsAll ps ++ [.stop t.closing]
  | html lines => .start .html :: lines.map .html ++ [.stop .html]
  | code info texts => .start (.code info) :: texts.map .text ++ [.stop .code]
  | image src title inner => .start (.image src title) :: inner ++ [.stop .image]

def eventsAll : List Passage → List Event
  | [] => []
  | p :: ps => p.events ++ eventsAll ps

end

mutual

/-- What stands by itself is no start and no end, no heading stands in a heading, and the images in
an image are nested. -/
def Proper (inHeading : Bool) : Passage → Prop
  | leaf e => e.isLeaf
  | construct t ps =>
    t.isPlain ∧ (t.isHeading → inHeading = false) ∧ ProperAll (inHeading || t.isHeading) ps
  | html _ => True
  | code .. => True
  | image _ _ inner => Grammar.Images inner

def ProperAll (inHeading : Bool) : List Passage → Prop
  | [] => True
  | p :: ps => p.Proper inHeading ∧ ProperAll inHeading ps

end

mutual

/-- The plain text in a passage, code blocks, html blocks and images apart. -/
def raw : Passage → String
  | leaf e => e.raw
  | construct _ ps => rawAll ps
  | html _ => ""
  | code .. => ""
  | image .. => ""

def rawAll : List Passage → String
  | [] => ""
  | p :: ps => p.raw ++ rawAll ps

end

section

variable {σ : Type} (b : Builder String σ) (breaks : Bool)

mutual

/-- What a passage is answered with: every construct once, with the answers to its parts one after
another. -/
def eval : Passage → σ → String × σ
  | leaf e, s => e.answer b breaks s
  | construct t ps, s =>
    let (content, s) := evalAll ps s
    match t.wrapper? (rawAll ps) with
    | some w => b (.wrap w content) s
    | none => (content, s)
  | html lines, s => b (.html (String.join lines)) s
  | code info texts, s => b (.code (String.join texts) (Compile.language? info)) s
  | image src title inner, s =>
    b (.image src (Compile.title? title) (String.join (inner.map Event.alt))) s

def evalAll : List Passage → σ → String × σ
  | [], s => ("", s)
  | p :: ps, s =>
    let (x, s) := p.eval s
    let (y, s) := evalAll ps s
    (x ++ y, s)

end

end

end Passage

/-! ## Passages in a pass -/

namespace Compile.Pass

variable {σ : Type} {b : Builder String σ} {breaks : Bool} {p : Pass String σ}

/-- The pass after a passage with the answer `x` and the plain text `raw`. -/
def absorb (p : Pass String σ) (x : String × σ) (raw : String) : Pass String σ :=
  ({ p with state := x.2 }.note raw).push x.1

theorem push_empty (p : Pass String σ) : p.push "" = p := by
  obtain ⟨state, document, frames, capture, table, heading⟩ := p
  cases frames <;> simp [push, Content.append]

theorem note_empty (p : Pass String σ) : p.note "" = p := by
  obtain ⟨state, document, frames, capture, table, heading⟩ := p
  cases heading <;> simp [note]

theorem absorb_nothing (p : Pass String σ) : p.absorb ("", p.state) "" = p := by
  rw [absorb, note_empty, push_empty]

@[simp] theorem state_absorb (p : Pass String σ) (x : String × σ) (raw : String) :
    (p.absorb x raw).state = x.2 :=
  (refilled_push _ _).state

theorem absorb_absorb (p : Pass String σ) (x y : String × σ) (raw raw' : String) :
    (p.absorb x raw).absorb y raw' = p.absorb (x.1 ++ y.1, y.2) (raw ++ raw') := by
  obtain ⟨state, document, frames, capture, table, heading⟩ := p
  cases frames <;> cases heading <;>
    simp [absorb, note, push, Content.append, String.append_assoc]

theorem at_absorb {place : Event.Place} (hp : p.At place) (x : String × σ) (raw : String) :
    (p.absorb x raw).At place :=
  At.alike (p := { p with state := x.2 }.note raw) hp (refilled_push _ _).toAlike

theorem run_cons {q : Pass String σ} {e : Event} (h : p.step b breaks e = .ok q) (es : List Event) :
    p.run b breaks (e :: es) = q.run b breaks es := by
  rw [run, h]

theorem step_of_capture (hc : p.capture = none) (e : Event) : p.step b breaks e = p.flow b breaks e := by
  rw [step, hc]

/-- An event that stands by itself. -/
theorem step_leaf (hp : p.At .flow) {e : Event} (he : e.isLeaf) :
    p.step b breaks e = .ok (p.absorb (e.answer b breaks p.state) e.raw) := by
  have hplain (c : Construct String) : p.answer b c = p.absorb (b c p.state) "" := by
    rw [absorb, note_empty]
    rfl
  rw [step_of_capture hp.1]
  cases e with
  | start t => cases he
  | stop t => cases he
  | html t =>
    have hline : p.htmlLine b t = p.answer b (.html (Content.verbatim t)) := by
      unfold htmlLine
      split
      · rename_i hf
        exact absurd (by simp [blocks, hf, Role.isHtml]) hp.2
      · rfl
    rw [flow, hline, hplain]
    rfl
  | softBreak =>
    cases breaks with
    | true => rfl
    | false => rfl
  | footnoteReference label =>
    rw [flow]
    exact congrArg Except.ok (absorb_nothing p).symm
  | inlineHtml t | hardBreak | rule | task checked =>
    rw [flow, hplain]
    rfl
  | _ => rfl

/-! ## Html blocks, code blocks and images -/

theorem run_htmlLines (lines : List String) (content : String) (fs : List (Frame String))
    (hf : p.frames = ⟨.html, .html, content⟩ :: fs) (hc : p.capture = none) (rest : List Event) :
    p.run b breaks (lines.map .html ++ rest) =
      { p with frames := ⟨.html, .html, content ++ String.join lines⟩ :: fs }.run b breaks rest := by
  obtain ⟨state, document, frames, capture, table, heading⟩ := p
  obtain rfl : frames = _ := hf
  obtain rfl : capture = none := hc
  induction lines generalizing content with
  | nil => simp
  | cons line lines ih =>
    rw [List.map_cons, List.cons_append, run_cons (q := ⟨state, document,
      ⟨.html, .html, content ++ line⟩ :: fs, none, table, heading⟩) rfl, ih]
    simp [String.append_assoc]

theorem run_codeTexts (texts : List String) (language : Option String) (body : String)
    (hc : p.capture = some (.code language body)) (rest : List Event) :
    p.run b breaks (texts.map .text ++ rest) =
      { p with capture := some (.code language (body ++ String.join texts)) }.run b breaks rest := by
  obtain ⟨state, document, frames, capture, table, heading⟩ := p
  obtain rfl : capture = _ := hc
  induction texts generalizing body with
  | nil => simp
  | cons t texts ih =>
    rw [List.map_cons, List.cons_append, run_cons (q := ⟨state, document, frames,
      some (.code language (body ++ t)), table, heading⟩) rfl, ih]
    simp [String.append_assoc]

/-- In an image only what counts as alternative text is kept. -/
theorem step_alt {inner : Nat} {src : String} {title : Option String} {alt : String}
    (hc : p.capture = some (.image inner src title alt)) {e : Event} (he : e.isImage = false) :
    p.step b breaks e =
      .ok { p with capture := some (.image inner src title (alt ++ e.alt)) } := by
  obtain ⟨state, document, frames, capture, table, heading⟩ := p
  obtain rfl : capture = _ := hc
  cases e with
  | start t =>
    cases t with
    | image src' title' => cases he
    | _ => simp [step, imageAlt, Event.alt]
  | stop t =>
    cases t with
    | image => cases he
    | _ => simp [step, imageAlt, Event.alt]
  | _ => simp [step, imageAlt, Event.alt]

theorem run_images {es : List Event} (h : Grammar.Images es) (inner : Nat) (src : String)
    (title : Option String) (alt : String) (hc : p.capture = some (.image inner src title alt))
    (rest : List Event) :
    p.run b breaks (es ++ rest) =
      { p with capture := some (.image inner src title (alt ++ String.join (es.map Event.alt))) }.run
        b breaks rest := by
  obtain ⟨state, document, frames, capture, table, heading⟩ := p
  obtain rfl : capture = _ := hc
  induction h generalizing inner alt rest with
  | nil => simp
  | @other e es he _ ih =>
    rw [List.cons_append, run_cons (step_alt rfl he), ih]
    simp [String.append_assoc]
  | @image src' title' inside es _ _ ihinside ih =>
    have hstart : (⟨state, document, frames, some (.image inner src title alt), table, heading⟩ :
          Pass String σ).step b breaks (.start (.image src' title')) =
        .ok ⟨state, document, frames, some (.image (inner + 1) src title alt), table, heading⟩ := rfl
    have hstop (alt : String) :
        (⟨state, document, frames, some (.image (inner + 1) src title alt), table, heading⟩ :
          Pass String σ).step b breaks (.stop .image) =
        .ok ⟨state, document, frames, some (.image inner src title alt), table, heading⟩ := rfl
    rw [List.cons_append, List.cons_append, run_cons hstart, List.append_assoc, ihinside,
      List.cons_append, run_cons (hstop _), ih]
    simp [Event.alt, String.append_assoc]

/-! ## Constructs with a frame -/

/-- The end of a frame whose content was absorbed. -/
theorem stop_enter (role : Role String) (closing : EndTag) (x : String × σ) (raw : String) :
    ((p.enter role closing).absorb x raw).stop b closing =
      .ok (({ p with state := x.2 }.note raw).close b ⟨role, closing, x.1⟩) := by
  simp [absorb, enter, note, push, stop, Content.empty, Content.append]

theorem at_start_plain (hp : p.At .flow) {t : Tag} (ht : t.isPlain) : (p.start t).At .flow := by
  have h := at_start hp t
  cases t <;> first | exact h | cases ht

theorem isSome_heading_start (p : Pass String σ) (t : Tag) :
    (p.start t).heading.isSome = (p.heading.isSome || t.isHeading) := by
  cases t <;> simp [start, enter, Tag.isHeading]

@[simp] theorem state_start (p : Pass String σ) (t : Tag) : (p.start t).state = p.state := by
  cases t <;> rfl

/-- A construct puts its wrapper around what was absorbed in it. -/
theorem stop_start {t : Tag} (ht : t.isPlain) (hh : t.isHeading → p.heading.isSome = false)
    (x : String × σ) (raw : String) :
    ((p.start t).absorb x raw).stop b t.closing =
      .ok (p.absorb (match t.wrapper? raw with
        | some w => b (.wrap w x.1) x.2
        | none => x) raw) := by
  have hframe (role : Role String) (closing : EndTag) :=
    stop_enter (b := b) (p := p) role closing x raw
  cases t with
  | heading l =>
    have hnone : p.heading = none := Option.isNone_iff_eq_none.1 (by simpa using hh rfl)
    have h := stop_enter (b := b) (p := { p with heading := some "" }) (.heading l) (.heading l) x raw
    refine Eq.trans h ?_
    simp [close, answer, absorb, note, hnone, Tag.wrapper?]
  | code info => cases ht
  | image src title => cases ht
  | html => cases ht
  | table columns => cases ht
  | head => cases ht
  | row => cases ht
  | cell => cases ht
  | _ => exact hframe _ _

end Compile.Pass

/-! ## The fold -/

namespace Passage

open Compile (Pass)

variable {σ : Type} {b : Builder String σ} {breaks : Bool}

theorem run_html {p : Pass String σ} (hc : p.capture = none) (lines : List String) (rest : List Event) :
    p.run b breaks ((html lines).events ++ rest) =
      (p.absorb ((html lines).eval b breaks p.state) "").run b breaks rest := by
  have hstart : p.step b breaks (.start .html) = .ok (p.start .html) := by
    rw [Pass.step_of_capture hc]
    rfl
  have hstop : ({ p with frames := ⟨.html, .html, "" ++ String.join lines⟩ :: p.frames } :
        Pass String σ).step b breaks (.stop .html) =
      .ok (p.absorb (b (.html (String.join lines)) p.state) "") := by
    rw [Pass.step, hc, Pass.absorb, Pass.note_empty]
    simp [Pass.flow, Pass.stop, Pass.close, Pass.answer, hc]
  rw [events, List.cons_append, List.cons_append, List.append_assoc, Pass.run_cons hstart,
    Pass.run_htmlLines (p := p.start .html) lines "" p.frames rfl hc, List.singleton_append]
  exact Pass.run_cons hstop rest

theorem run_code {p : Pass String σ} (hp : p.At .flow) (info : Option String) (texts : List String)
    (rest : List Event) :
    p.run b breaks ((code info texts).events ++ rest) =
      (p.absorb ((code info texts).eval b breaks p.state) "").run b breaks rest := by
  have hstart : p.step b breaks (.start (.code info)) = .ok (p.start (.code info)) := by
    rw [Pass.step_of_capture hp.1]
    rfl
  have hstop : ({ p with capture := some (.code (Compile.language? info) ("" ++ String.join texts)) } :
        Pass String σ).step b breaks (.stop .code) =
      .ok (p.absorb (b (.code (String.join texts) (Compile.language? info)) p.state) "") := by
    rw [Pass.absorb, Pass.note_empty]
    simp [Pass.step, Pass.codeBlock, Pass.answer, ← hp.1]
  rw [events, List.cons_append, List.cons_append, List.append_assoc, Pass.run_cons hstart,
    Pass.run_codeTexts (p := p.start (.code info)) texts _ "" rfl, List.singleton_append]
  exact Pass.run_cons hstop rest

theorem run_image {p : Pass String σ} (hp : p.At .flow) (src title : String) {inner : List Event}
    (hinner : Grammar.Images inner) (rest : List Event) :
    p.run b breaks ((image src title inner).events ++ rest) =
      (p.absorb ((image src title inner).eval b breaks p.state) "").run b breaks rest := by
  have hstart : p.step b breaks (.start (.image src title)) = .ok (p.start (.image src title)) := by
    rw [Pass.step_of_capture hp.1]
    rfl
  have hstop : ({ p with capture := some (.image 0 src (Compile.title? title)
        ("" ++ String.join (inner.map Event.alt))) } : Pass String σ).step b breaks (.stop .image) =
      .ok (p.absorb (b (.image src (Compile.title? title) (String.join (inner.map Event.alt))) p.state)
        "") := by
    rw [Pass.absorb, Pass.note_empty]
    simp [Pass.step, Pass.imageAlt, Pass.answer, ← hp.1]
  rw [events, List.cons_append, List.cons_append, List.append_assoc, Pass.run_cons hstart,
    Pass.run_images (p := p.start (.image src title)) hinner 0 src _ "" rfl, List.singleton_append]
  exact Pass.run_cons hstop rest

mutual

/-- On top of whatever frames are open, a passage adds its answer to the innermost one and its plain
text to the open heading, and leaves all else as it was. -/
theorem run_events : ∀ (x : Passage) (p : Pass String σ) (rest : List Event), p.At .flow →
    x.Proper p.heading.isSome →
    p.run b breaks (x.events ++ rest) =
      (p.absorb (x.eval b breaks p.state) x.raw).run b breaks rest
  | leaf e, p, rest, hp, he => Pass.run_cons (Pass.step_leaf hp he) rest
  | html lines, p, rest, hp, _ => run_html hp.1 lines rest
  | code info texts, p, rest, hp, _ => run_code hp info texts rest
  | image src title inner, p, rest, hp, hinner => run_image hp src title hinner rest
  | construct t ps, p, rest, hp, hx => by
    obtain ⟨ht, hh, hps⟩ := hx
    have hstart : p.step b breaks (.start t) = .ok (p.start t) := by
      rw [Pass.step_of_capture hp.1]
      rfl
    have hat : (p.start t).At .flow := Pass.at_start_plain hp ht
    have hinside := run_eventsAll ps (p.start t) (.stop t.closing :: rest) hat
      (by rw [Pass.isSome_heading_start]; exact hps)
    have hclose := Pass.stop_start (b := b) ht hh (evalAll b breaks ps p.state) (rawAll ps)
    have hflow : ((p.start t).absorb (evalAll b breaks ps p.state) (rawAll ps)).step b breaks
        (.stop t.closing) = _ := Pass.step_of_capture (Pass.at_absorb hat _ _).1 _
    rw [events, List.cons_append, List.cons_append, List.append_assoc, Pass.run_cons hstart,
      List.singleton_append, hinside, Pass.state_start, Pass.run_cons (hflow.trans hclose), eval, raw]

theorem run_eventsAll : ∀ (xs : List Passage) (p : Pass String σ) (rest : List Event), p.At .flow →
    ProperAll p.heading.isSome xs →
    p.run b breaks (eventsAll xs ++ rest) =
      (p.absorb (evalAll b breaks xs p.state) (rawAll xs)).run b breaks rest
  | [], p, rest, _, _ => by
    rw [evalAll, rawAll, Pass.absorb_nothing, eventsAll, List.nil_append]
  | x :: xs, p, rest, hp, hxs => by
    obtain ⟨hx, hxs⟩ := hxs
    have hsome : (p.absorb (x.eval b breaks p.state) x.raw).heading.isSome = p.heading.isSome := by
      rw [Pass.absorb, (Pass.refilled_push _ _).heading, Pass.note, Option.isSome_map]
    rw [eventsAll, List.append_assoc, run_events x p _ hp hx,
      run_eventsAll xs _ rest (Pass.at_absorb hp _ _) (by rw [hsome]; exact hxs), Pass.absorb_absorb,
      Pass.state_absorb, evalAll, rawAll]

end

/-- **Compiling is a fold.** With every markup and all options, the events of a forest compile to
what the forest is evaluated to. The state of the markup comes out the same, whatever the markup
keeps of the constructs it has answered. -/
theorem compile_eq_evalAll (m : Markup σ) (o : Options) (s : σ) (xs : List Passage)
    (h : ProperAll false xs) :
    compile m o s (eventsAll xs) =
      (.ok (evalAll (m.builder o.sanitize) o.breaks xs s).1,
        (evalAll (m.builder o.sanitize) o.breaks xs s).2) := by
  have hat : (Pass.initial s : Pass String σ).At .flow := ⟨rfl, by simp [Pass.blocks, Pass.initial]⟩
  have hrun : Pass.run (m.builder o.sanitize) o.breaks (.initial s) (eventsAll xs ++ []) = _ :=
    run_eventsAll xs (.initial s) [] hat h
  rw [List.append_nil, Pass.run] at hrun
  rw [compile, build, hrun]
  simp [Pass.finish, Pass.depth, Pass.absorb, Pass.initial, Pass.note, Pass.push, Content.empty,
    Content.append]

/-- A heading over two lines, an image in an image, an html block and a code block, with a markup that
keeps what it was called with. -/
theorem compile_eq_evalAll_calls :
    let m : Markup (List (Construct String)) := fun c calls => ("x", calls ++ [c])
    let calls : List (Construct String) :=
      [.text "a ", .codeSpan "b&amp;", .wrap .emphasis "x", .wrap (.heading 1 "a  b&") "x\nx",
        .image "s" none "c&lt;d ", .html "<hr>\n", .code "l\n" (some "x")]
    let xs : List Passage :=
      [.construct (.heading 0) [.leaf (.text "a "), .leaf .softBreak, .construct .emphasis
          [.leaf (.code "b&")]],
        .construct .footnote [.image "s" "" [.text "c", .start (.image "t" ""), .code "<d", .stop .image,
          .hardBreak]],
        .html ["<hr>", "\n"], .code (some "x y") ["l", "\n"]]
    ProperAll false xs ∧ compile m .default [] (eventsAll xs) = (.ok "xxxx", calls) := by
  intro m calls xs
  have himages : Grammar.Images [.text "c", .start (.image "t" ""), .code "<d", .stop .image,
      .hardBreak] :=
    .other rfl (.image "t" "" (.other rfl .nil) (.other rfl .nil))
  have hxs : ProperAll false xs := by
    simp [xs, ProperAll, Proper, Event.isLeaf, Tag.isPlain, Tag.isHeading, himages]
  have heval : evalAll (m.builder false) false xs [] = ("xxxx", calls) := by
    simp only [m, xs, calls]
    decide +kernel
  refine ⟨hxs, ?_⟩
  rw [compile_eq_evalAll m .default [] xs hxs]
  exact congrArg (fun r : String × List (Construct String) => (Except.ok r.1, r.2)) heval

end Passage
end Marktree
