import Mathlib.Data.List.DropRight
import Mathlib.Tactic.IntervalCases
import Marktree.Markup.Html
import Marktree.Proofs.Compile.Run
import Marktree.Proofs.Text.Slug

/-!
# Well-formed HTML

A grammar of HTML: text in which nothing opens or closes a tag or a quoted value, single tags, and
elements that are properly nested (`Html.Flow`). The markup of HTML stays in it whatever the texts
of a document are (`flow_of_compile`), as long as raw html is not let through.
-/
namespace Marktree.Html

open Text (Plain)

/-- The elements with content. -/
def elements : List String :=
  ["p", "h1", "h2", "h3", "h4", "h5", "h6", "blockquote", "ul", "ol", "li", "table", "thead", "tbody",
    "tr", "th", "td", "strong", "em", "s", "code", "pre", "a"]

/-- The tags that stand alone. -/
def voids : List String :=
  ["hr", "br", "img", "input"]

/-- The attributes with a value. -/
def names : List String :=
  ["id", "start", "style", "class", "href", "src", "title", "alt", "type"]

/-- The attributes without one. -/
def flags : List String :=
  ["checked", "disabled"]

/-- Attributes one after another; `P` holds of every name and the value written for it. -/
inductive Attributes (P : String → String → Prop) : String → Prop
  | none : Attributes P ""
  | value (name : String) {v : String} (hn : name ∈ names) (hv : ∀ c ∈ v.toList, Plain c) (hp : P name v) :
    Attributes P (" " ++ name ++ "=\"" ++ v ++ "\"")
  | flag (name : String) (hn : name ∈ flags) : Attributes P (" " ++ name)
  | append {x y : String} (hx : Attributes P x) (hy : Attributes P y) : Attributes P (x ++ y)

/-- Text, single tags and nested elements one after another; `P` holds of all attributes. -/
inductive Flow (P : String → String → Prop) : String → Prop
  | text {s : String} (hs : ∀ c ∈ s.toList, Plain c) : Flow P s
  | void (name : String) {x : String} (hn : name ∈ voids) (hx : Attributes P x) :
    Flow P ("<" ++ name ++ x ++ ">")
  | element (name : String) {x s : String} (hn : name ∈ elements) (hx : Attributes P x) (hs : Flow P s) :
    Flow P ("<" ++ name ++ x ++ ">" ++ s ++ "</" ++ name ++ ">")
  | append {s t : String} (hs : Flow P s) (ht : Flow P t) : Flow P (s ++ t)

variable {P : String → String → Prop}

/-! ## Trimming -/

namespace Flow

theorem empty : Flow P "" :=
  text (by simp)

/-- What does not drop the opening of a tag drops text alone. -/
theorem dropWhile {p : Char → Bool} (hp : p '<' = false) {s : String} (h : Flow P s) :
    Flow P (String.ofList (s.toList.dropWhile p)) := by
  have kept {s : String} {l : List Char} (hl : s.toList = '<' :: l) (hs : Flow P s) :
      Flow P (String.ofList (s.toList.dropWhile p)) := by
    rwa [hl, List.dropWhile_cons_of_neg (by simp [hp]), ← hl, String.ofList_toList]
  induction h with
  | text hs =>
    refine text fun c hc => hs c ?_
    rw [String.toList_ofList] at hc
    exact (List.dropWhile_sublist p).subset hc
  | void name hn hx => exact kept (by simp; rfl) (void _ hn hx)
  | element name hn hx hs => exact kept (by simp; rfl) (element _ hn hx hs)
  | append hs ht ihs iht =>
    rw [String.toList_append, List.dropWhile_append]
    split
    · exact iht
    · rw [String.ofList_append, String.ofList_toList]
      exact ihs.append ht

/-- The same from the other end. -/
theorem rdropWhile {p : Char → Bool} (hp : p '>' = false) {s : String} (h : Flow P s) :
    Flow P (String.ofList (s.toList.rdropWhile p)) := by
  have kept {s : String} {l : List Char} (hl : s.toList = l ++ ['>']) (hs : Flow P s) :
      Flow P (String.ofList (s.toList.rdropWhile p)) := by
    rwa [hl, List.rdropWhile_concat_neg _ _ _ (by simp [hp]), ← hl, String.ofList_toList]
  induction h with
  | text hs =>
    refine text fun c hc => hs c ?_
    rw [String.toList_ofList] at hc
    exact (List.rdropWhile_prefix p _).subset hc
  | void name hn hx => exact kept (String.toList_append ..) (void _ hn hx)
  | element name hn hx hs => exact kept (String.toList_append ..) (element _ hn hx hs)
  | append hs ht ihs iht =>
    rw [String.toList_append, List.rdropWhile, List.reverse_append, List.dropWhile_append]
    split
    · exact ihs
    · rw [List.reverse_append, List.reverse_reverse, String.ofList_append, String.ofList_toList]
      exact hs.append iht

theorem trim {s : String} (h : Flow P s) : Flow P (Text.trim s) := by
  have hstart := h.dropWhile (p := Text.isBlank) rfl
  have hend := hstart.rdropWhile (p := Text.isBlank) rfl
  rw [String.toList_ofList] at hend
  exact hend

end Flow

/-! ## What the markup writes -/

/-- Nothing more is asked of an attribute that is neither an anchor nor a destination. -/
def Loose (P : String → String → Prop) : Prop :=
  ∀ name v, name ≠ "id" → name ≠ "href" → name ≠ "src" → P name v

/-- Of a destination no more is asked than that links and images may have it. -/
structure Grants (P : String → String → Prop) (restrict : Bool) : Prop where
  loose : Loose P
  target : ∀ {name escaped target}, name = "href" ∨ name = "src" →
    Destination.resolve? restrict escaped = some target → P name (Text.escape target)

section

variable (hP : Loose P)

include hP

theorem Loose.attr (name : String) (hn : name ∈ names ∧ name ≠ "id" ∧ name ≠ "href" ∧ name ≠ "src")
    {v : String} (hv : ∀ c ∈ v.toList, Plain c) : Attributes P (attr name v) :=
  .value name hn.1 hv (hP name v hn.2.1 hn.2.2.1 hn.2.2.2)

theorem Loose.title (title : Option String) :
    Attributes P (titleAttribute (title.map Text.escape)) := by
  cases title with
  | none => exact .none
  | some t =>
    exact hP.attr "title" (by decide) fun _ => Text.plain_escape

theorem Loose.start (first : Option Nat) : Attributes P (startAttribute first) := by
  cases first with
  | none => exact .none
  | some n =>
    rw [startAttribute]
    split
    · exact .none
    · exact hP.attr "start" (by decide) fun c hc =>
        Text.plain_of_isAlphanum (Text.isAlphanum_of_mem_repr hc)

theorem Loose.align (align : Option Align) : Attributes P (alignAttribute align) := by
  cases align with
  | none => exact .none
  | some a =>
    exact hP.attr "style" (by decide)
      (Text.forall_plain (by cases a <;> decide))

theorem Loose.language (language : Option String) : Attributes P (languageAttribute language) := by
  cases language with
  | none => exact .none
  | some l =>
    refine hP.attr "class" (by decide) fun c hc => ?_
    rw [String.toList_append, List.mem_append] at hc
    rcases hc with hc | hc
    · exact Text.forall_plain (by decide) c hc
    · exact Text.plain_escape hc

end

section

variable {restrict : Bool} (hP : Grants P restrict)

include hP

omit hP in
theorem heading_mem_elements {level : Nat} (h : 1 ≤ level ∧ level ≤ 6) :
    "h" ++ toString level ∈ elements := by
  obtain ⟨h₁, h₂⟩ := h
  interval_cases level <;> decide

/-- Around a well-formed content the markup writes well-formed HTML. -/
theorem flow_wrap (hid : ∀ v, P "id" v) {w : Wrapper} (hw : w.Usual) {content : String}
    (h : Flow P content) (anchors : Text.Slugs) : Flow P (wrap restrict w.escaped content anchors).1 := by
  have hplain (name : String) (hn : name ∈ elements) : Flow P (element name "" content) :=
    .element name hn .none h
  cases w with
  | heading level raw =>
    exact .element _ (heading_mem_elements hw)
      (.value "id" (by decide) (fun _ => Text.plain_anchor) (hid _)) h.trim
  | list ordered start =>
    cases ordered with
    | true => exact .element "ol" (by decide) (hP.loose.start start) h
    | false => exact hplain "ul" (by decide)
  | cell header align =>
    cases header with
    | true => exact .element "th" (by decide) (hP.loose.align align) h
    | false => exact .element "td" (by decide) (hP.loose.align align) h
  | link href title =>
    simp only [wrap, Wrapper.escaped]
    split
    · rename_i target htarget
      exact .element "a" (by decide) (.append (.value "href" (by decide)
        (fun _ => Text.plain_escape) (hP.target (.inl rfl) htarget)) (hP.loose.title title)) h
    · exact h
  | _ => exact hplain _ (by decide)

theorem flow_image (src : String) (title : Option String) (alt : String) (anchors : Text.Slugs) :
    Flow P (markup restrict ((Construct.image src title alt).escaped restrict) anchors).1 := by
  simp only [markup, Construct.escaped]
  split
  · rename_i target htarget
    have hsrc := Attributes.value (P := P) "src" (by decide) (fun _ => Text.plain_escape)
      (hP.target (.inr rfl) htarget)
    have halt := hP.loose.attr "alt" (by decide) fun _ => Text.plain_escape (s := alt)
    have h := Flow.void "img" (by decide) (.append (.append hsrc (hP.loose.title title)) halt)
    have hopen : "<img" = "<" ++ "img" := rfl
    rw [hopen]
    simpa only [attr, String.append_assoc] using h
  · exact .text fun _ => Text.plain_escape

theorem flow_checkbox (checked : Bool) (anchors : Text.Slugs) :
    Flow P (markup restrict ((Construct.checkbox checked).escaped restrict) anchors).1 := by
  have htype : Attributes P (attr "type" "checkbox") :=
    hP.loose.attr "type" (by decide) (Text.forall_plain (by decide))
  have hdisabled : Attributes P (" " ++ "disabled") := .flag "disabled" (by decide)
  have hchecked : Attributes P (" " ++ "checked") := .flag "checked" (by decide)
  have hblank : Flow P " " := .text (Text.forall_plain (by decide))
  cases checked with
  | true => exact .append (.void "input" (by decide) (.append (.append htype hchecked) hdisabled)) hblank
  | false => exact .append (.void "input" (by decide) (.append htype hdisabled)) hblank

/-- Every construct without contents but raw html is answered with well-formed HTML. -/
theorem flow_leaf {c : Construct String} (hc : c.Usual fun _ => True) (hcontents : c.contents = [])
    (anchors : Text.Slugs) : Flow P (markup restrict (c.escaped restrict) anchors).1 := by
  cases c with
  | code body language =>
    have hbody : Flow P (Text.escape body) := .text fun _ => Text.plain_escape
    exact .element "pre" (by decide) .none (.element "code" (by decide) (hP.loose.language language) hbody)
  | html raw => exact hc.elim
  | rule => exact .void "hr" (by decide) .none
  | checkbox checked => exact flow_checkbox hP checked anchors
  | codeSpan s => exact .element "code" (by decide) .none (.text fun _ => Text.plain_escape)
  | lineBreak => exact .void "br" (by decide) .none
  | image src title alt => exact flow_image hP src title alt anchors
  | text s => exact .text fun _ => Text.plain_escape
  | wrap w x => cases hcontents
  | table header body => cases hcontents

omit hP in
theorem flow_table {header body : String} (hheader : Flow P header) (hbody : Flow P body) :
    Flow P (element "table" "" (element "thead" "" header ++ element "tbody" "" body)) := by
  have hhead : Flow P (element "thead" "" header) := .element "thead" (by decide) .none hheader
  have hrest : Flow P (element "tbody" "" body) := .element "tbody" (by decide) .none hbody
  exact .element "table" (by decide) .none (hhead.append hrest)

/-- Every construct but raw html is answered with well-formed HTML. -/
theorem flow_answer (hid : ∀ v, P "id" v) {c : Construct String} (hc : c.Usual fun _ => True)
    (hx : ∀ x ∈ c.contents, Flow P x) (anchors : Text.Slugs) :
    Flow P (markup restrict (c.escaped restrict) anchors).1 := by
  cases c with
  | wrap w x => exact flow_wrap hP hid hc (hx x (by simp [Construct.contents])) anchors
  | table header body =>
    exact flow_table (hx header (by simp [Construct.contents])) (hx body (by simp [Construct.contents]))
  | _ => exact flow_leaf hP hc rfl anchors

end

/-! ## Whole documents -/

/-- Contents are well-formed. What stands in an html block need not be where it becomes text. -/
def flowRule (P : String → String → Prop) (sanitize : Bool) : Compile.Rule String Text.Slugs where
  Each := Flow P
  State _ := True
  Block x := sanitize = true ∨ Flow P x
  Body _ := True
  raw := sanitize = true
  mixed := True

theorem flowRule_kept {sanitize : Bool} (hP : Grants P sanitize) (hid : ∀ v, P "id" v) :
    (flowRule P sanitize).Kept ((markup sanitize).builder sanitize) where
  empty := .empty
  append := .append
  newline := .text (Text.forall_plain (by decide))
  answer hc hx _ := ⟨flow_answer hP hid hc hx _, trivial⟩
  html hx _ := by
    refine ⟨?_, trivial⟩
    cases sanitize with
    | true => exact .text fun _ => Text.plain_escape
    | false => exact hx.resolve_left (by simp)
  blockEmpty := Or.inr .empty
  blockRaw h _ := Or.inl h
  blockLine h _ _ _ := Or.inl h
  blockMixed _ _ _ hx hy := hx.imp_right fun hx => hx.append hy

theorem flow_of_compile {o : Options} {events : List Event} (hP : Grants P o.sanitize)
    (hid : ∀ v, P "id" v)
    (hraw : o.sanitize = true ∨ ∀ s, .html s ∉ events ∧ .inlineHtml s ∉ events)
    {out : String} {anchors : Text.Slugs}
    (h : compile (markup o.sanitize) o {} events = (.ok out, anchors)) : Flow P out := by
  have hallowed : ∀ e ∈ events, ∀ t, e = .html t ∨ e = .inlineHtml t → o.sanitize = true := by
    intro e he t ht
    rcases hraw with hraw | hraw
    · exact hraw
    · rcases ht with rfl | rfl
      · exact absurd he (hraw t).1
      · exact absurd he (hraw t).2
  exact (build_each_mixed (flowRule_kept hP hid) trivial trivial (fun _ => trivial) hallowed h).1

/-- HTML in which tags and attributes are those of the markup, properly nested. -/
def WellFormed (out : String) : Prop :=
  Flow (fun _ _ => True) out

/-- **No text of a document opens or closes a tag or an attribute.** Where raw html is not let
through, or does not occur, the HTML of a document is well-formed. -/
theorem wellFormed_of_compile {o : Options} {events : List Event} {out : String} {anchors : Text.Slugs}
    (hraw : o.sanitize = true ∨ ∀ s, .html s ∉ events ∧ .inlineHtml s ∉ events)
    (h : compile (markup o.sanitize) o {} events = (.ok out, anchors)) : WellFormed out :=
  flow_of_compile ⟨fun _ _ _ _ _ => trivial, fun _ _ => trivial⟩ (fun _ => trivial) hraw h

/-- Tags in an html block, in a text, in the language of a code block and in a title. -/
theorem wellFormed_of_compile_tags :
    let o := { Options.default with sanitize := true }
    let events : List Event :=
      [.start .html, .html "<b>", .text "</p>", .stop .html, .start (.code (some "\"><i>")), .text "<",
        .stop .code, .start (.link "http:" "\">"), .inlineHtml "<br>", .stop .link]
    let out := "&lt;b&gt;&amp;lt;/p&amp;gt;" ++
      "<pre><code class=\"language-&quot;&gt;&lt;i&gt;\">&lt;</code></pre>" ++
      "<a href=\"http:\" title=\"&quot;&gt;\">&lt;br&gt;</a>"
    (compile (markup o.sanitize) o {} events).1 = .ok out ∧ WellFormed out := by
  intro o events out
  have h : (compile (markup o.sanitize) o {} events).1 = .ok out := by
    simp only [o, events, out]
    decide +kernel
  exact ⟨h, wellFormed_of_compile (.inl rfl) (Prod.ext h rfl)⟩

end Marktree.Html
