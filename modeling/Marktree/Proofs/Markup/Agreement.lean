import Marktree.Markup.Html
import Marktree.Proofs.Markup.Tokens

/-!
# The two markups agree

What HTML a node has is told by the node (`Node.html`). Where no raw html occurs, the HTML that is
written for a document is that of the nodes that are built for it (`html_eq_htmlAll_finish`). The
markup of HTML runs beside the builder without tokens; each text is the HTML of the parts beside it.
-/
namespace Marktree

/-! ## The HTML of nodes -/

/-- An alignment that the source gives. -/
def Align.style : Align → String
  | .auto => ""
  | a => Html.attr "style" ("text-align:" ++ a.name)

/-- The code of a block ends its last line. -/
def Leaf.html : Leaf → String
  | .text t => Text.escape t
  | .lineBreak => "<br>"
  | .codeBlock language code =>
    Html.element "pre" ""
      (Html.element "code" (Html.languageAttribute language) (Text.escape (code ++ "\n")))
  | .inlineCode code => Html.element "code" "" (Text.escape code)
  | .rule => "<hr>"
  | .checkbox true => "<input type=\"checkbox\" checked disabled> "
  | .checkbox false => "<input type=\"checkbox\" disabled> "
  | .image i =>
    "<img" ++ Html.attr "src" (Text.escape i.src) ++ Html.titleAttribute (i.title.map Text.escape)
      ++ Html.attr "alt" (Text.escape i.alt) ++ ">"

/-- The HTML of a branch around that of its children. A document is its children. -/
def Branch.html (content : String) : Branch → String
  | .document => content
  | .quote => Html.element "blockquote" "" content
  | .heading level id => Html.element ("h" ++ toString level) (Html.attr "id" id) (Text.trim content)
  | .list true start => Html.element "ol" (Html.startAttribute start) content
  | .list false _ => Html.element "ul" "" content
  | .item => Html.element "li" "" content
  | .paragraph => Html.element "p" "" content
  | .row => Html.element "tr" "" content
  | .headerCell align => Html.element "th" align.style content
  | .bodyCell align => Html.element "td" align.style content
  | .strong => Html.element "strong" "" content
  | .emphasis => Html.element "em" "" content
  | .strikethrough => Html.element "s" "" content
  | .link href title _ =>
    Html.element "a"
      (Html.attr "href" (Text.escape href) ++ Html.titleAttribute (title.map Text.escape)) content

namespace Node

mutual

def html : Node → String
  | leaf l => l.html
  | branch b cs => b.html (htmlAll cs)
  | table head body =>
    Html.element "table" ""
      (Html.element "thead" "" (htmlAll head) ++ Html.element "tbody" "" (htmlAll body))

/-- The HTML of nodes one after another. -/
def htmlAll : List Node → String
  | [] => ""
  | n :: ns => html n ++ htmlAll ns

end

theorem htmlAll_append (ms ns : List Node) : htmlAll (ms ++ ns) = htmlAll ms ++ htmlAll ns := by
  induction ms with
  | nil => simp [htmlAll]
  | cons m ms ih => simp [htmlAll, ih, String.append_assoc]

theorem htmlAll_singleton (n : Node) : htmlAll [n] = n.html := by
  simp [htmlAll]

end Node

/-- Joining leaks does not change what they say. -/
theorem Part.htmlAll_nodes (ps : List Part) : Node.htmlAll (nodes ps) = Node.htmlAll (ps.map toNode) := by
  induction ps with
  | nil => rfl
  | cons p ps ih =>
    simp only [nodes] at ih
    cases p with
    | node n => simp only [nodes, join, List.map_cons, Node.htmlAll, ih]
    | leak s =>
      simp only [nodes, join, List.map_cons, Node.htmlAll, ← ih]
      split
      · rename_i t qs hj
        simp [hj, toNode, Node.htmlAll, Node.html, Leaf.html, Text.escape_append, String.append_assoc]
      · simp [Node.htmlAll]

/-! ## The two markups side by side -/

namespace Event

/-- No raw html occurs, and a code block has collected whole lines when it ends. -/
@[mk_iff]
structure Bare (place : Place) (e : Event) : Prop where
  start : e ≠ .start .html
  line : ∀ s, e ≠ .html s
  tag : ∀ s, e ≠ .inlineHtml s
  body : ∀ body, place = .code body → e = .stop .code → ∃ lines, body = lines ++ "\n"

theorem Bare.next_ne_block {place : Place} {e : Event} (he : Bare place e) (hp : place ≠ .block) :
    place.next e ≠ .block := by
  have hstart := he.start
  unfold Place.next
  split <;> simp_all

/-- Without html blocks, no event falls into one. -/
theorem Along.not_block : ∀ {place : Place} {es : List Event}, place ≠ .block → Along Bare place es →
    Along (fun place e => place ≠ .block ∧ Bare place e) place es
  | _, [], _, _ => trivial
  | _, _ :: _, hp, h => ⟨⟨hp, h.1⟩, not_block (h.1.next_ne_block hp) h.2⟩

end Event

/-- A text is the HTML of the parts beside it. -/
def Written (x : String × List Part) : Prop :=
  x.1 = Node.htmlAll (x.2.map Part.toNode)

namespace Written

variable {x y : String × List Part}

theorem nodes (h : Written x) : x.1 = Node.htmlAll (Part.nodes x.2) := by
  rw [Part.htmlAll_nodes]
  exact h

theorem of_node {s : String} {n : Node} (h : s = n.html) : Written (s, [.node n]) := by
  simpa [Written, Part.toNode, Node.htmlAll_singleton] using h

theorem append (hx : Written x) (hy : Written y) : Written (x.1 ++ y.1, x.2 ++ y.2) := by
  simp only [Written] at hx hy ⊢
  rw [List.map_append, Node.htmlAll_append, ← hx, ← hy]

theorem newline : Written ("\n", [.leak "\n"]) := by
  have h : Text.escape "\n" = "\n" := rfl
  simp [Written, Part.toNode, Node.htmlAll, Node.html, Leaf.html, h]

end Written

/-- The markup of HTML and the builder without tokens, side by side. -/
def htmlBesideParts : Builder (String × List Part) (Text.Slugs × Supply) :=
  ((Html.markup false).builder false).pair (Direct.builder false)

/-- An answer of both: they know the same anchors, and the one has written the HTML of the other. -/
def Agreed (r : (String × List Part) × (Text.Slugs × Supply)) : Prop :=
  r.2.1 = r.2.2.anchors ∧ Written r.1

namespace Agreed

variable {x y : String × List Part}

theorem resolve?_false (target : String) :
    Destination.resolve? false (Text.escape target) = some target := by
  simp [Destination.resolve?]

theorem dropFinalNewline_line (lines : String) :
    TreeBuilder.dropFinalNewline (lines ++ "\n") = lines := by
  simp [TreeBuilder.dropFinalNewline]

theorem style_getD {align : Option Align} (h : align ≠ some .auto) :
    (align.getD .auto).style = Html.alignAttribute align := by
  cases align with
  | none => rfl
  | some a =>
    cases a with
    | auto => exact absurd rfl h
    | _ => rfl

/-- Both put the same around a content, and give a heading the same anchor. -/
theorem wrap {w : Wrapper} (hw : w.Usual) (hx : Written x) (g : Supply) :
    Agreed (htmlBesideParts (.wrap w x) (g.anchors, g)) := by
  have hx := hx.nodes
  cases w with
  | heading level raw =>
    simp only [htmlBesideParts, Builder.pair, Markup.builder, Construct.map, Construct.escaped,
      Wrapper.escaped, Html.markup, Html.wrap, Direct.builder, Direct.branch?]
    exact ⟨rfl, .of_node (by simp [Node.html, Branch.html, hx])⟩
  | list ordered start =>
    cases ordered <;> exact ⟨rfl, .of_node (by simp [Node.html, Branch.html, hx])⟩
  | cell header align =>
    cases header <;> exact ⟨rfl, .of_node (by simp [Node.html, Branch.html, hx, style_getD hw])⟩
  | link href title =>
    simp only [htmlBesideParts, Builder.pair, Markup.builder, Construct.map, Construct.escaped,
      Wrapper.escaped, Html.markup, Html.wrap, resolve?_false, Direct.builder, Direct.branch?]
    exact ⟨rfl, .of_node (by simp [Node.html, Branch.html, hx])⟩
  | _ => exact ⟨rfl, .of_node (by simp [Node.html, Branch.html, hx])⟩

theorem table (hx : Written x) (hy : Written y) (g : Supply) :
    Agreed (htmlBesideParts (.table x y) (g.anchors, g)) :=
  ⟨rfl, .of_node (by simp [Node.html, hx.nodes, hy.nodes])⟩

/-- The line feed that ends a code block stands in the HTML and not in the node. -/
theorem code (lines : String) (language : Option String) (g : Supply) :
    Agreed (htmlBesideParts (.code (lines ++ "\n") language) (g.anchors, g)) :=
  ⟨rfl, .of_node (by simp [Node.html, Leaf.html, dropFinalNewline_line])⟩

theorem image (src : String) (title : Option String) (alt : String) (g : Supply) :
    Agreed (htmlBesideParts (.image src title alt) (g.anchors, g)) := by
  simp only [htmlBesideParts, Builder.pair, Markup.builder, Construct.map, Construct.escaped,
    Html.markup, resolve?_false, Direct.builder, Direct.leaf?]
  exact ⟨rfl, .of_node (by simp [Node.html, Leaf.html])⟩

/-- An html block without lines. -/
theorem html_empty (g : Supply) :
    Agreed (htmlBesideParts (.html Content.empty) (g.anchors, g)) :=
  ⟨rfl, .of_node rfl⟩

/-- The anchors agree, and each text is the HTML of the parts beside it. -/
def rule : Compile.Rule (String × List Part) (Text.Slugs × Supply) where
  Each := Written
  State s := s.1 = s.2.anchors
  Block x := x = Content.empty
  Body body := ∃ lines, body = lines ++ "\n"
  raw := False
  mixed := False

theorem answer {c : Construct (String × List Part)} (hc : c.Usual rule.Body)
    (hx : ∀ x ∈ c.contents, Written x) (g : Supply) :
    Agreed (htmlBesideParts c (g.anchors, g)) := by
  cases c with
  | wrap w x => exact wrap hc (hx x (by simp [Construct.contents])) g
  | table x y =>
    exact table (hx x (by simp [Construct.contents])) (hx y (by simp [Construct.contents])) g
  | code body language =>
    obtain ⟨lines, rfl⟩ := hc
    exact code lines language g
  | image src title alt => exact image src title alt g
  | html x => exact hc.elim
  | checkbox checked => cases checked <;> exact ⟨rfl, .of_node rfl⟩
  | _ => exact ⟨rfl, .of_node rfl⟩

theorem rule_kept : rule.Kept htmlBesideParts where
  empty := rfl
  append := Written.append
  newline := Written.newline
  answer {c s} hc hx hs := by
    obtain ⟨anchors, g⟩ := s
    obtain rfl : anchors = g.anchors := hs
    exact (answer hc hx g).symm
  html {x s} hx hs := by
    obtain ⟨anchors, g⟩ := s
    obtain rfl : anchors = g.anchors := hs
    obtain rfl : x = Content.empty := hx
    exact (html_empty g).symm
  blockEmpty := rfl
  blockRaw h := h.elim
  blockLine h := h.elim
  blockMixed h := h.elim

/-- What both write of a whole document agrees. -/
theorem of_build {breaks : Bool} {events : List Event} {x : String × List Part}
    {s : Text.Slugs × Supply} (hbare : Event.Along Event.Bare .flow events)
    (h : build htmlBesideParts breaks ({}, {}) events = (.ok x, s)) : Written x := by
  have hallowed : Event.Along rule.law.Allows .flow events := (hbare.not_block (by simp)).imp
    fun ⟨hp, he⟩ => ⟨fun t ht => ht.elim (he.line t) (he.tag t), he.body, fun h => absurd h hp⟩
  have hstart : rule.State (({} : Text.Slugs), ({} : Supply)) := rfl
  exact (build_each rule_kept hstart hallowed h).1

end Agreed

/-- **The two markups agree.** Where schemes are not restricted, no raw html occurs and every code
block has collected whole lines, the HTML of a document is that of the nodes that are built for it;
where one of them fails, so does the other, with the same error. -/
theorem html_eq_htmlAll_finish {o : Options} {events : List Event} (ho : o.sanitize = false)
    (hbare : Event.Along Event.Bare .flow events) :
    (compile (Html.markup o.sanitize) o {} events).1 =
      let (stream, b) := compile (TreeBuilder.markup o.sanitize) o {} events
      stream.map fun stream => Node.htmlAll (b.finish stream).1 := by
  have hraw : Event.Along Event.Raw .flow events :=
    (hbare.not_block (by simp)).imp fun ⟨hp, _⟩ h => absurd h hp
  generalize htree : compile (TreeBuilder.markup o.sanitize) o {} events = r
  obtain ⟨stream, b⟩ := r
  cases stream with
  | error err => exact build_error (congrArg Prod.fst htree) _ _
  | ok stream =>
    obtain ⟨out, anchors, hhtml, -⟩ :=
      build_pair htree ((Html.markup o.sanitize).builder o.sanitize) {}
    obtain ⟨parts, g, hdirect, hpair⟩ := build_pair hhtml (Direct.builder o.sanitize) {}
    have hfinish := Streams.finish_answer hraw htree hdirect
    have hout : out = Node.htmlAll (Part.nodes parts) := by
      rw [ho] at hpair
      exact (Agreed.of_build hbare hpair).nodes
    simp only [compile, hhtml, hfinish, hout, Except.map]

/-- Two headings of one text, a table, a code block, and a link over two lines. -/
theorem html_eq_htmlAll_finish_sample :
    let events : List Event :=
      [.start (.heading 1), .text "a b", .stop (.heading 1), .start (.heading 1), .text "a b",
        .stop (.heading 1), .start (.table [some .left, none]), .start .head, .start .cell, .text "<",
        .stop .cell, .stop .head, .stop .table, .start (.code (some "c&d x")), .text "x\n", .stop .code,
        .start (.link "a&b" "t"), .text "y", .softBreak, .stop .link]
    Event.Along Event.Bare .flow events ∧
      ∃ stream b, compile (TreeBuilder.markup false) .default {} events = (.ok stream, b) ∧
        Node.htmlAll (b.finish stream).1 =
          "<h2 id=\"a-b\">a b</h2><h2 id=\"a-b-1\">a b</h2><table><thead><tr>" ++
          "<th style=\"text-align:left\">&lt;</th></tr></thead><tbody></tbody></table>" ++
          "<pre><code class=\"language-c&amp;d\">x\n</code></pre><a href=\"a&amp;b\" title=\"t\">y\n</a>" := by
  intro events
  have hlines : ∃ lines : String, "x\n" = lines ++ "\n" := ⟨"x", rfl⟩
  have hbare : Event.Along Event.Bare .flow events := by
    simpa [events, Event.Along, Event.bare_iff, Event.Place.next] using hlines
  have hdirect : build (Direct.builder false) false {} events = (.ok _, _) := rfl
  obtain ⟨stream, b, h, -⟩ := build_pair hdirect ((TreeBuilder.markup false).builder false) {}
  have hhtml := html_eq_htmlAll_finish (o := .default) rfl hbare
  refine ⟨hbare, stream, b, h, ?_⟩
  rw [show compile (TreeBuilder.markup Options.default.sanitize) .default {} events = (.ok stream, b) from h]
    at hhtml
  refine Except.ok.inj (hhtml.symm.trans ?_)
  simp only [events]
  decide +kernel

end Marktree
