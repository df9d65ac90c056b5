import Marktree.Proofs.Markup.Attributes
import Marktree.Proofs.Markup.Supply
import Marktree.Proofs.Markup.Tokens
import Marktree.Proofs.Text.Anchors

/-!
# Anchors of headings

Every heading is answered with an anchor that was given out for it, and no heading comes twice in the
nodes of a document. So the anchors in a document differ unless those given out do not
(`ids_nodup_of_compile`), and it is known when that is: `Text.Slugs.issued_nodup_iff`. The markup of
HTML gives out the same anchors (`compile_html_anchors`) and writes each at most as often as it was given
out, where no raw html writes others (`Html.subperm_of_compile`).
-/
namespace Marktree

/-! ## Anchors of nodes -/

/-- The anchor of a heading. -/
def Branch.id? : Branch → Option String
  | .heading _ id => some id
  | _ => none

namespace Node

def id? : Node → Option String
  | branch b _ => b.id?
  | _ => none

/-- The anchors of the headings among nodes and all below them. -/
def ids (ns : List Node) : List String :=
  (walkAll ns).filterMap id?

theorem ids_append (ns ms : List Node) : ids (ns ++ ms) = ids ns ++ ids ms :=
  collect_append ns ms

@[simp] theorem ids_branch (b : Branch) (cs : List Node) : ids [.branch b cs] = b.id?.toList ++ ids cs :=
  collect_singleton _

@[simp] theorem ids_table (head body : List Node) : ids [.table head body] = ids head ++ ids body :=
  (collect_singleton _).trans (collect_append head body)

end Node

/-! ## Anchors of a tree -/

namespace TreeBuilder

/-- The branch of a heading takes the next anchor, and no other branch takes one. -/
theorem branch?_anchors (restrict : Bool) {anchors : Text.Slugs} (h : Text.Slugs.Counts anchors.seen)
    (w : Wrapper) :
    Text.Slugs.Counts (branch? restrict anchors w).2.seen ∧
      (branch? restrict anchors w).2.issued =
        ((branch? restrict anchors w).1.bind Branch.id?).toList ++ anchors.issued := by
  cases w with
  | heading level raw => exact ⟨Text.Slugs.counts_anchor h raw, Text.Slugs.issued_anchor h raw⟩
  | cell header align => cases header <;> exact ⟨h, rfl⟩
  | link href title =>
    refine ⟨h, ?_⟩
    rw [branch?]
    cases Destination.resolve? restrict href <;> rfl
  | _ => exact ⟨h, rfl⟩

/-- Anchors are given out to headings. -/
theorem issues_anchors (restrict : Bool) :
    Issues restrict Node.id? (fun s => Text.Slugs.Counts s.anchors.seen) fun s => s.anchors.issued where
  text _ := rfl
  table _ _ := rfl
  branch {s w k? anchors} hs hk := by
    obtain ⟨hcounts, hissued⟩ := branch?_anchors restrict hs w
    rw [hk] at hcounts hissued
    exact ⟨hcounts, fun _ => .of_eq hissued⟩
  leaf {s c l? hooks} hs _ := ⟨hs, by cases l? <;> exact .refl _⟩

end TreeBuilder

/-! ## The same anchors in HTML -/

namespace Construct

/-- The anchors given out once a construct is answered. -/
def anchors {α : Type} (c : Construct α) (t : Text.Slugs) : Text.Slugs :=
  match c with
  | .wrap (.heading _ raw) _ => (t.anchor raw).2
  | _ => t

@[simp] theorem anchors_map {α β : Type} (f : α → β) (c : Construct α) (t : Text.Slugs) :
    (c.map f).anchors t = c.anchors t := by
  cases c with
  | wrap w x => cases w <;> rfl
  | _ => rfl

@[simp] theorem anchors_escaped (sanitize : Bool) (c : Construct String) (t : Text.Slugs) :
    (c.escaped sanitize).anchors t = c.anchors t := by
  cases c with
  | html raw => cases sanitize <;> rfl
  | wrap w x => cases w <;> rfl
  | _ => rfl

end Construct

theorem TreeBuilder.branch?_snd (restrict : Bool) (w : Wrapper) (content : String) (t : Text.Slugs) :
    (branch? restrict t w).2 = (Construct.wrap w content).anchors t := by
  cases w with
  | cell header align => cases header <;> rfl
  | _ => rfl

theorem TreeBuilder.anchors_markup (restrict : Bool) (c : Construct String) (b : TreeBuilder) :
    (markup restrict c b).2.anchors = c.anchors b.anchors := by
  have hleaf (hc : c.isLeaf) (hanchors : c.anchors b.anchors = b.anchors) :
      (markup restrict c b).2.anchors = c.anchors b.anchors := by
    rw [markup_of_isLeaf hc, hanchors]
    split <;> rfl
  cases c with
  | wrap w content =>
    have hsnd := branch?_snd restrict w content b.anchors
    rw [markup]
    split
    · rename_i k anchors hk
      rw [← hsnd, hk]
      rfl
    · rename_i anchors hk
      rw [← hsnd, hk]
  | table header body => rfl
  | _ => exact hleaf rfl rfl

theorem Html.anchors_markup (restrict : Bool) (c : Construct String) (t : Text.Slugs) :
    (markup restrict c t).2 = c.anchors t := by
  cases c with
  | checkbox checked => cases checked <;> rfl
  | image src title alt =>
    rw [markup]
    split <;> rfl
  | wrap w content =>
    cases w with
    | list ordered start => cases ordered <;> rfl
    | cell header align => cases header <;> rfl
    | link href title =>
      rw [markup, wrap]
      split <;> rfl
    | _ => rfl
  | _ => rfl

/-- What the tree and the HTML beside it give out stays the same. -/
theorem same_anchors_answer {restrict sanitize : Bool} {s : TreeBuilder × Text.Slugs}
    (hs : s.1.anchors = s.2) (c : Construct (String × String)) :
    (((TreeBuilder.markup restrict).builder sanitize).pair
        ((Html.markup restrict).builder sanitize) c s).2.1.anchors =
      (((TreeBuilder.markup restrict).builder sanitize).pair
        ((Html.markup restrict).builder sanitize) c s).2.2 := by
  obtain ⟨b, t⟩ := s
  obtain rfl : b.anchors = t := hs
  simp [Builder.pair, Markup.builder, TreeBuilder.anchors_markup, Html.anchors_markup]

theorem compile_html_anchors {restrict : Bool} {o : Options} {events : List Event} {stream : String}
    {b : TreeBuilder} (h : compile (TreeBuilder.markup restrict) o {} events = (.ok stream, b)) :
    ∃ out, compile (Html.markup restrict) o {} events = (.ok out, b.anchors) := by
  obtain ⟨out, anchors, hhtml, hpair⟩ := build_pair h ((Html.markup restrict).builder o.sanitize) {}
  obtain rfl : b.anchors = anchors :=
    build_state (S := fun s => s.1.anchors = s.2) (fun c s hs => same_anchors_answer hs c) rfl hpair
  exact ⟨out, hhtml⟩

/-! ## Anchors in HTML -/

/-- Raw html, or the start of a block of it. -/
def Event.isRaw : Event → Bool
  | .html _ | .inlineHtml _ | .start .html => true
  | _ => false

theorem Event.next_ne_block {place : Event.Place} {e : Event} (h : place ≠ .block) (he : e.isRaw = false) :
    place.next e ≠ .block := by
  unfold Place.next
  split <;> simp_all [isRaw]

namespace Html

theorem grants_notId (restrict : Bool) : Grants (fun name _ => name ≠ "id") restrict where
  loose _ _ hid _ _ := hid
  target := by
    rintro name escaped target (rfl | rfl) - <;> decide

/-- What is no heading adds no anchor to those in its content. -/
theorem ids_wrap (restrict : Bool) {w : Wrapper} (hw : ∀ level raw, w ≠ .heading level raw) {content : String}
    (h : WellFormed content) (t : Text.Slugs) : ids (wrap restrict w.escaped content t).1 = ids content := by
  have hloose := (grants_notId restrict).loose
  have hplain (name : String) (hn : name ∈ elements) : ids (element name "" content) = ids content :=
    ids_element hn .none h
  cases w with
  | heading level raw => exact absurd rfl (hw level raw)
  | list ordered start =>
    cases ordered with
    | true => exact ids_element (by decide) (hloose.start start) h
    | false => exact hplain "ul" (by decide)
  | cell header align =>
    cases header with
    | true => exact ids_element (by decide) (hloose.align align) h
    | false => exact ids_element (by decide) (hloose.align align) h
  | link href title =>
    simp only [wrap, Wrapper.escaped]
    split
    · rename_i target htarget
      have hhref : Attributes (fun name _ => name ≠ "id") (attr "href" (Text.escape target)) :=
        .value "href" (by decide) (fun _ => Text.plain_escape) (by decide)
      exact ids_element (by decide) (hhref.append (hloose.title title)) h
    · rfl
  | _ => exact hplain _ (by decide)

theorem ids_table {header body : String} (hheader : WellFormed header) (hbody : WellFormed body) :
    ids (element "table" "" (element "thead" "" header ++ element "tbody" "" body)) =
      ids header ++ ids body := by
  have hhead : WellFormed (element "thead" "" header) := .element "thead" (by decide) .none hheader
  have hrest : WellFormed (element "tbody" "" body) := .element "tbody" (by decide) .none hbody
  rw [ids_element (by decide) .none (hhead.append hrest), ids_append hhead,
    ids_element (by decide) .none hheader, ids_element (by decide) .none hbody]

/-- An answer has the anchors of its contents, and that of a heading the one that it takes. -/
theorem ids_answer (restrict : Bool) {c : Construct String} (hc : c.Usual fun _ => True)
    (hx : ∀ x ∈ c.contents, WellFormed x) {t : Text.Slugs} (ht : Text.Slugs.Counts t.seen) :
    Text.Slugs.Counts (c.anchors t).seen ∧
      (ids (markup restrict (c.escaped restrict) t).1 ++ t.issued).Perm
        (c.contents.flatMap ids ++ (c.anchors t).issued) := by
  cases c with
  | wrap w content =>
    have hcontent : WellFormed content := hx content (by simp [Construct.contents])
    cases w with
    | heading level raw =>
      have hids : ids (markup restrict (.wrap (.heading level raw) content) t).1 =
          (t.anchor raw).1 :: ids content :=
        (ids_element_id (heading_mem_elements hc) (fun _ => Text.plain_anchor) hcontent.trim).trans
          (congrArg _ (ids_trim hcontent))
      refine ⟨Text.Slugs.counts_anchor ht raw, ?_⟩
      simp only [Construct.escaped, Wrapper.escaped, Construct.anchors, Construct.contents, hids,
        Text.Slugs.issued_anchor ht, List.flatMap_cons, List.flatMap_nil, List.append_nil]
      exact List.perm_middle.symm
    | _ =>
      refine ⟨ht, .of_eq (congrArg (· ++ t.issued) ?_)⟩
      refine (ids_wrap restrict (by simp) hcontent t).trans ?_
      simp [Construct.contents]
  | table header body =>
    refine ⟨ht, .of_eq (congrArg (· ++ t.issued) ?_)⟩
    have hheader : WellFormed header := hx header (by simp [Construct.contents])
    have hbody : WellFormed body := hx body (by simp [Construct.contents])
    refine (ids_table hheader hbody).trans ?_
    simp [Construct.contents]
  | _ =>
    exact ⟨ht, .of_eq (congrArg (· ++ t.issued) (ids_eq_nil (flow_leaf (grants_notId restrict) hc rfl t)))⟩

/-- The anchors in all contents were given out, each for one heading. What stands in an html block need
not be well-formed where it becomes text. -/
def anchorLaw (sanitize : Bool) : Compile.Law String Text.Slugs where
  Holds l t := (∀ x ∈ l, WellFormed x) ∧ Text.Slugs.Counts t.seen ∧ List.Subperm (l.flatMap ids) t.issued
  Block x := sanitize = true ∨ x = ""
  Body _ := True
  raw := sanitize = true
  mixed := sanitize = true

theorem anchorLaw_drops (sanitize : Bool) : (anchorLaw sanitize).Drops := by
  rintro x l t ⟨hflow, hcounts, hsub⟩
  exact ⟨(List.forall_mem_cons.1 hflow).2, hcounts, (List.sublist_append_right _ _).subperm.trans hsub⟩

/-- A text without tags may be added. -/
theorem anchorLaw_cons_text {sanitize : Bool} {x : String} (hx : ∀ c ∈ x.toList, Text.Plain c)
    {l : List String} {t : Text.Slugs} (h : (anchorLaw sanitize).Holds l t) :
    (anchorLaw sanitize).Holds (x :: l) t := by
  obtain ⟨hflow, hcounts, hsub⟩ := h
  refine ⟨List.forall_mem_cons.2 ⟨.text hx, hflow⟩, hcounts, ?_⟩
  rwa [List.flatMap_cons, ids_text hx, List.nil_append]

theorem anchorLaw_kept (sanitize : Bool) :
    (anchorLaw sanitize).Kept ((markup sanitize).builder sanitize) where
  perm hperm := fun ⟨hflow, hcounts, hsub⟩ =>
    ⟨fun x hx => hflow x (hperm.symm.subset hx), hcounts, (hperm.symm.flatMap_right ids).subperm.trans hsub⟩
  empty := anchorLaw_cons_text (by simp [Content.empty])
  dropEmpty := anchorLaw_drops sanitize
  append := by
    rintro x y l t ⟨hflow, hcounts, hsub⟩
    obtain ⟨hx, hflow⟩ := List.forall_mem_cons.1 hflow
    obtain ⟨hy, hl⟩ := List.forall_mem_cons.1 hflow
    refine ⟨List.forall_mem_cons.2 ⟨hx.append hy, hl⟩, hcounts, ?_⟩
    have hids : ids (Content.append x y) = ids x ++ ids y := ids_append hx y
    rwa [List.flatMap_cons, hids, List.append_assoc]
  newline := anchorLaw_cons_text (Text.forall_plain (by decide))
  answer := by
    rintro c l t hc ⟨hflow, hcounts, hsub⟩
    obtain ⟨hcontents, hl⟩ := List.forall_mem_append.1 hflow
    obtain ⟨hcounts', hperm⟩ := ids_answer sanitize hc hcontents hcounts
    have hstate : ((markup sanitize).builder sanitize c t).2 = c.anchors t := by
      rw [Markup.builder, anchors_markup, Construct.anchors_escaped]
    have hanswer : WellFormed ((markup sanitize).builder sanitize c t).1 :=
      flow_answer ⟨fun _ _ _ _ _ => trivial, fun _ _ => trivial⟩ (fun _ => trivial) hc hcontents t
    refine ⟨List.forall_mem_cons.2 ⟨hanswer, hl⟩, hstate ▸ hcounts', ?_⟩
    rw [List.flatMap_append] at hsub
    rw [hstate, List.flatMap_cons]
    -- the anchors of the contents stand on both sides
    refine (List.subperm_append_left (c.contents.flatMap ids)).1 ?_
    have hboth := ((List.subperm_append_left (ids ((markup sanitize).builder sanitize c t).1)).2 hsub).trans
      hperm.subperm
    exact (List.perm_append_comm_assoc ..).subperm.trans hboth
  html := by
    rintro x l t hx h
    cases sanitize with
    | true => exact anchorLaw_cons_text (fun _ => Text.plain_escape) h
    | false =>
      obtain rfl := hx.resolve_left (by simp)
      exact anchorLaw_cons_text (x := "") (by simp) h
  blockEmpty := .inr rfl
  blockRaw h _ := .inl h
  blockLine h _ _ _ := .inl h
  blockMixed h _ _ _ _ _ hy := ⟨.inl h, anchorLaw_drops sanitize hy⟩

end Html

/-! ## Whole documents -/

namespace Html

theorem along_of_notRaw {sanitize : Bool} : ∀ {place : Event.Place} {es : List Event}, place ≠ .block →
    (∀ e ∈ es, e.isRaw = false) → Event.Along (anchorLaw sanitize).Allows place es
  | _, [], _, _ => trivial
  | place, e :: es, hplace, hes => by
    obtain ⟨he, hes⟩ := List.forall_mem_cons.1 hes
    refine ⟨⟨fun t ht => ?_, fun _ _ _ => trivial, fun hblock => absurd hblock hplace⟩,
      along_of_notRaw (Event.next_ne_block hplace he) hes⟩
    rcases ht with rfl | rfl <;> cases he

/-- The anchors in an HTML text are among those given out, each at most as often. -/
theorem subperm_of_compile {o : Options} {events : List Event} {out : String} {anchors : Text.Slugs}
    (hraw : o.sanitize = true ∨ ∀ e ∈ events, e.isRaw = false)
    (h : compile (markup o.sanitize) o {} events = (.ok out, anchors)) :
    List.Subperm (ids out) anchors.issued := by
  have hstart : (anchorLaw o.sanitize).Holds [Content.empty] {} :=
    anchorLaw_cons_text (by simp [Content.empty]) ⟨by simp, trivial, List.nil_subperm⟩
  have hend : (anchorLaw o.sanitize).Holds [out] anchors := by
    rcases hraw with ho | hraw
    · exact build_holds_mixed (anchorLaw_kept _) (anchorLaw_drops _) hstart ho (fun _ => trivial)
        (fun _ _ _ _ => ho) h
    · exact build_holds (anchorLaw_kept _) (anchorLaw_drops _) hstart (along_of_notRaw (by simp) hraw) h
  simpa using hend.2.2

end Html

/-- **The headings of a document have different anchors unless a numbered anchor is the slug of
another heading**, in its nodes and in the attributes of its HTML, which come with the same anchors: in
its HTML where raw html is not let through or does not occur. Where it is, and all headings are still
there, two anchors are the same. -/
theorem ids_nodup_of_compile {o : Options} {events : List Event} {stream : String} {b : TreeBuilder}
    (h : compile (TreeBuilder.markup o.sanitize) o {} events = (.ok stream, b)) :
    (∃ out, compile (Html.markup o.sanitize) o {} events = (.ok out, b.anchors) ∧
        (o.sanitize = true ∨ (∀ e ∈ events, e.isRaw = false) →
          (¬ b.anchors.Clashes → (Html.ids out).Nodup) ∧
            ((Html.ids out).length = b.anchors.issued.length → b.anchors.Clashes →
              ¬ (Html.ids out).Nodup))) ∧
      (b.anchors.issued.Nodup ↔ ¬ b.anchors.Clashes) ∧
      (¬ b.anchors.Clashes → (Node.ids (b.finish stream).1).Nodup) ∧
      ((Node.ids (b.finish stream).1).length = b.anchors.issued.length → b.anchors.Clashes →
        ¬ (Node.ids (b.finish stream).1).Nodup) := by
  have hissues := TreeBuilder.issues_anchors o.sanitize
  have hcounts : Text.Slugs.Counts b.anchors.seen := by
    have haccounts := hissues.accounts_compile (s := {}) (o := o) trivial events
    rw [h] at haccounts
    exact haccounts.good
  have hnodup := Text.Slugs.issued_nodup_iff hcounts
  -- anchors that were given out differ where those given out do, and only there if none is missing
  have htold {ids : List String} (hsub : List.Subperm ids b.anchors.issued) :
      (¬ b.anchors.Clashes → ids.Nodup) ∧
        (ids.length = b.anchors.issued.length → b.anchors.Clashes → ¬ ids.Nodup) := by
    refine ⟨fun hclash => ?_, fun hlength hclash hids => ?_⟩
    · obtain ⟨l, hperm, hsublist⟩ := hsub
      exact hperm.nodup_iff.1 ((hnodup.2 hclash).sublist hsublist)
    · have hperm := hsub.perm_of_length_le (Nat.le_of_eq hlength.symm)
      exact hnodup.1 (hperm.nodup_iff.1 hids) hclash
  obtain ⟨out, hhtml⟩ := compile_html_anchors h
  exact ⟨⟨out, hhtml, fun hraw => htold (Html.subperm_of_compile hraw hhtml)⟩, hnodup,
    htold (hissues.subperm_of_compile (s := {}) trivial h)⟩

/-- A text that comes again, and another one between. -/
theorem ids_nodup_of_compile_repeat :
    let heading (s : String) : List Event := [.start (.heading 0), .text s, .stop (.heading 0)]
    ∃ stream b out, compile (TreeBuilder.markup Options.default.sanitize) .default {}
        (heading "a" ++ heading "b" ++ heading "a") = (.ok stream, b) ∧
      Node.ids (b.finish stream).1 = ["a", "b", "a-1"] ∧ ¬ b.anchors.Clashes ∧
      out = "<h1 id=\"a\">a</h1><h1 id=\"b\">b</h1><h1 id=\"a-1\">a</h1>" ∧
      compile (Html.markup Options.default.sanitize) .default {}
        (heading "a" ++ heading "b" ++ heading "a") = (.ok out, b.anchors) ∧
      (Html.ids out).Nodup := by
  intro heading
  have hdirect : build (Direct.builder false) false {} (heading "a" ++ heading "b" ++ heading "a") =
    (.ok _, _) := rfl
  obtain ⟨stream, b, h, -⟩ := build_pair hdirect ((TreeBuilder.markup false).builder false) {}
  have hraw : Event.Along Event.Raw .flow (heading "a" ++ heading "b" ++ heading "a") := by
    simp [heading, Event.Along, Event.Raw, Event.Place.next]
  have hids : Node.ids (b.finish stream).1 = ["a", "b", "a-1"] := by
    rw [Streams.finish_answer (o := .default) hraw h hdirect]
    rfl
  obtain ⟨⟨out, hhtml, hout⟩, -, -, hsame⟩ := ids_nodup_of_compile (o := .default) h
  have hissued : b.anchors.issued = ["a-1", "b", "a"] := by
    have hanchors := congrArg Prod.snd hhtml
    exact (congrArg Text.Slugs.issued hanchors).symm
  have hclash : ¬ b.anchors.Clashes := fun hclash => hsame (by rw [hids, hissued]; rfl) hclash (by
    rw [hids]
    decide)
  have hnotRaw : ∀ e ∈ heading "a" ++ heading "b" ++ heading "a", e.isRaw = false := by
    simp [heading, Event.isRaw]
  have htext : out = "<h1 id=\"a\">a</h1><h1 id=\"b\">b</h1><h1 id=\"a-1\">a</h1>" := by
    have hrun := congrArg Prod.fst hhtml
    exact (Except.ok.inj hrun).symm
  exact ⟨stream, b, out, h, hids, hclash, htext, hhtml, (hout (.inr hnotRaw)).1 hclash⟩

/-- The number that sets the second heading apart stands in the text of the third. -/
theorem ids_eq_of_numbered_text :
    let heading (s : String) : List Event := [.start (.heading 0), .text s, .stop (.heading 0)]
    let events := heading "a" ++ heading "a" ++ heading "a 1"
    (∃ stream b, compile (TreeBuilder.markup false) .default {} events = (.ok stream, b) ∧
        Node.ids (b.finish stream).1 = ["a", "a-1", "a-1"]) ∧
      ∃ out anchors, compile (Html.markup false) .default {} events = (.ok out, anchors) ∧
        Html.attributes out = [("id", "a"), ("id", "a-1"), ("id", "a-1")] := by
  intro heading events
  have hdirect : build (Direct.builder false) false {} events = (.ok _, _) := rfl
  obtain ⟨stream, b, h, -⟩ := build_pair hdirect ((TreeBuilder.markup false).builder false) {}
  have hraw : Event.Along Event.Raw .flow events := by
    simp [events, heading, Event.Along, Event.Raw, Event.Place.next]
  have hids : Node.ids (b.finish stream).1 = ["a", "a-1", "a-1"] := by
    rw [Streams.finish_answer (o := .default) hraw h hdirect]
    rfl
  refine ⟨⟨stream, b, h, hids⟩, _, _, rfl, ?_⟩
  decide +kernel

end Marktree
