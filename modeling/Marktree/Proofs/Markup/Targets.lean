import Marktree.Proofs.Destination
import Marktree.Proofs.Markup.Attributes
import Marktree.Proofs.Markup.Nodes
import Marktree.Proofs.Node.Conservation

/-!
# Destinations in documents

Where schemes are restricted, no link and no image leads to a scheme that is none of the web
(`web_of_compile`): neither in the nodes of a document nor in the attributes of its HTML. Each
markup answers with a destination only if it was resolved, and what is resolved may be followed.
-/
namespace Marktree

/-! ## Destinations of nodes -/

namespace Node

/-- The destination of a link or the source of an image. -/
def target? : Node → Option String
  | branch (.link href _ _) _ => some href
  | leaf (.image i) => some i.src
  | _ => none

/-- The destinations of nodes and of all below them. -/
def targets (ns : List Node) : List String :=
  (walkAll ns).filterMap target?

/-- All destinations of a tree are in `P`. -/
def Leads (P : String → Prop) (n : Node) : Prop :=
  ∀ m ∈ n.walk, ∀ d, m.target? = some d → P d

variable {P : String → Prop}

theorem forall_targets {ns : List Node} (h : ∀ n ∈ ns, Leads P n) : ∀ d ∈ targets ns, P d := by
  intro d hd
  obtain ⟨m, hm, htarget⟩ := List.mem_filterMap.1 hd
  rw [walkAll_eq_flatMap] at hm
  obtain ⟨n, hn, hm⟩ := List.mem_flatMap.1 hm
  exact h n hn m hm d htarget

theorem leads_leaf {l : Leaf} (hl : ∀ i, l = .image i → P i.src) : Leads P (.leaf l) := by
  refine forall_mem_walk_iff.2 ⟨fun d hd => ?_, fun c hc => absurd hc List.not_mem_nil⟩
  cases l with
  | image i =>
    cases hd
    exact hl i rfl
  | _ => cases hd

theorem leads_branch {b : Branch} {cs : List Node}
    (hb : ∀ href title newTab, b = .link href title newTab → P href) (hcs : ∀ n ∈ cs, Leads P n) :
    Leads P (.branch b cs) := by
  refine forall_mem_walk_iff.2 ⟨fun d hd => ?_, hcs⟩
  cases b with
  | link href title newTab =>
    cases hd
    exact hb d title newTab rfl
  | _ => cases hd

theorem leads_table {head body : List Node} (hh : ∀ n ∈ head, Leads P n) (hb : ∀ n ∈ body, Leads P n) :
    Leads P (.table head body) :=
  forall_mem_walk_iff.2 ⟨fun _ hd => (by cases hd), fun n hn => (List.mem_append.1 hn).elim (hh n) (hb n)⟩

end Node

/-! ## Nodes of a document -/

namespace TreeBuilder

variable {P : String → Prop} {restrict : Bool}

theorem branch?_link {anchors : Text.Slugs} {w : Wrapper} {href : String} {title : Option String}
    {newTab : Bool} (h : (branch? restrict anchors w).1 = some (.link href title newTab)) :
    ∃ escaped, Destination.resolve? restrict escaped = some href := by
  cases w with
  | link escaped title' =>
    obtain ⟨href', hr, he⟩ := Option.map_eq_some_iff.1 h
    cases he
    exact ⟨escaped, hr⟩
  | list ordered start => cases h
  | cell header align => cases header <;> cases h
  | _ => cases h

theorem leaf?_image {hooks : Hooks} {c : Construct String} {i : Image}
    (h : (leaf? restrict hooks c).1 = some (.image i)) :
    ∃ escaped, Destination.resolve? restrict escaped = some i.src := by
  cases c with
  | image escaped title alt =>
    rw [leaf?] at h
    split at h
    · rename_i src hr
      cases h
      exact ⟨escaped, hr⟩
    · cases h
  | _ => cases h

/-- Destinations are in `P`, if all that is resolved is. -/
theorem hereditary_leads
    (hP : ∀ {escaped target}, Destination.resolve? restrict escaped = some target → P target) :
    Hereditary restrict (Node.Leads P) where
  text _ := Node.leads_leaf fun _ hi => (by cases hi)
  leaf _ hl := Node.leads_leaf fun i hi => by
    obtain ⟨escaped, hr⟩ := leaf?_image (hi ▸ hl)
    exact hP hr
  branch hk hns := by
    refine Node.leads_branch ?_ hns
    rintro href title newTab rfl
    obtain ⟨escaped, hr⟩ := branch?_link hk
    exact hP hr
  table := Node.leads_table

/-- All destinations in the nodes of a document are in `P`. -/
theorem forall_targets_of_compile
    (hP : ∀ {escaped target}, Destination.resolve? restrict escaped = some target → P target) {o : Options}
    {events : List Event} {stream : String} {b : TreeBuilder}
    (h : compile (markup restrict) o {} events = (.ok stream, b)) :
    ∀ d ∈ Node.targets (b.finish stream).1, P d :=
  Node.forall_targets ((hereditary_leads hP).forall_of_compile h)

end TreeBuilder

/-- What is resolved where schemes are restricted names no scheme but those of the web. -/
theorem web_of_resolve? {escaped target : String} (h : Destination.resolve? true escaped = some target) :
    Destination.Web target.toList := by
  rw [Destination.resolve?] at h
  split at h
  · rename_i hs
    cases h
    exact Destination.web_of_isSafe (by simpa using hs)
  · cases h

/-- **No other scheme gets through.** Where schemes are restricted, the destinations of a document
name no schemes but those of the web, in its nodes and in its HTML once references are replaced. -/
theorem web_of_compile {o : Options} (ho : o.sanitize = true) (events : List Event) :
    (∀ stream b, compile (TreeBuilder.markup o.sanitize) o {} events = (.ok stream, b) →
      ∀ d ∈ Node.targets (b.finish stream).1, Destination.Web d.toList) ∧
    ∀ out anchors, compile (Html.markup o.sanitize) o {} events = (.ok out, anchors) →
      ∀ name value, (name, value) ∈ Html.attributes out → name = "href" ∨ name = "src" →
        Destination.Web (Text.unescape value).toList := by
  refine ⟨fun stream b h => ?_, fun out anchors h name value hmem hname => ?_⟩
  · rw [ho] at h
    exact TreeBuilder.forall_targets_of_compile web_of_resolve? h
  · have hgrants : Html.Grants (fun name value => name = "href" ∨ name = "src" →
        Destination.Web (Text.unescape value).toList) o.sanitize := by
      constructor
      · intro name v _ hhref hsrc h
        exact absurd h (not_or.2 ⟨hhref, hsrc⟩)
      · intro name escaped target _ hr _
        rw [Text.unescape_escape]
        rw [ho] at hr
        exact web_of_resolve? hr
    have hid (v : String) (hname : "id" = "href" ∨ "id" = "src") : Destination.Web (Text.unescape v).toList :=
      absurd hname (by decide)
    have hflow := Html.flow_of_compile hgrants hid (Or.inl ho) h
    exact hflow.forall_attributes (name, value) hmem hname

/-- A link that is barred in spite of its spelling, one that is read in spite of it, and an image. -/
theorem web_of_compile_spellings :
    let o := { Options.default with sanitize := true }
    let events : List Event :=
      [.start (.link "java%73cript:alert(1)" ""), .text "a", .stop .link,
        .start (.link " HT\tTP://b?c&d" ""), .text "b", .stop .link,
        .start (.image "https://e" ""), .text "f", .stop .image]
    let out := "a<a href=\" HT\tTP://b?c&amp;d\">b</a><img src=\"https://e\" alt=\"f\">"
    (compile (Html.markup o.sanitize) o {} events).1 = .ok out ∧
      Html.attributes out = [("href", " HT\tTP://b?c&amp;d"), ("src", "https://e"), ("alt", "f")] ∧
      Destination.Web (Text.unescape " HT\tTP://b?c&amp;d").toList ∧
      ∃ stream b, compile (TreeBuilder.markup o.sanitize) o {} events = (.ok stream, b) ∧
        ∀ d ∈ Node.targets (b.finish stream).1, Destination.Web d.toList := by
  intro o events out
  have hout : (compile (Html.markup o.sanitize) o {} events).1 = .ok out := by
    simp only [o, events, out]
    decide +kernel
  have hattributes : Html.attributes out =
      [("href", " HT\tTP://b?c&amp;d"), ("src", "https://e"), ("alt", "f")] := by
    simp only [out]
    decide +kernel
  have h := Prod.fst_eq_iff.1 hout
  have hweb := web_of_compile (o := o) rfl events
  have hmem : ("href", " HT\tTP://b?c&amp;d") ∈ Html.attributes out := by
    rw [hattributes]
    simp
  obtain ⟨stream, b, htree, -⟩ := build_pair h ((TreeBuilder.markup o.sanitize).builder o.sanitize) {}
  exact ⟨hout, hattributes, hweb.2 out _ h "href" _ hmem (Or.inl rfl), stream, b, htree,
    hweb.1 stream b htree⟩

end Marktree
