import Marktree.Proofs.Markup.Custody
import Marktree.Proofs.Markup.Targets
import Marktree.Proofs.Text.Utf8

/-!
# Destinations without a scheme

Where schemes are restricted, a destination is barred unless its decoded form spells a scheme of the web
before the first colon once all but word characters are left out (`relative_barred_iff`). A relative
destination can do so as well: a percent sign may stand for its colon, and separators between the
letters are left out like all other characters.
-/
namespace Marktree

namespace Destination

/-- What stands before the first colon, or all if there is none. -/
def beforeColon (s : List Char) : List Char :=
  s.takeWhile (· != ':')

/-- A destination without a scheme: it has no colon, or before the first a separator of paths, queries
or fragments. -/
def Relative (s : List Char) : Prop :=
  ':' ∉ s ∨ '/' ∈ beforeColon s ∨ '?' ∈ beforeColon s ∨ '#' ∈ beforeColon s
  deriving Decidable

/-- What stands before the first colon is a scheme of the web once all but word characters are left
out. -/
def SpellsWeb (s : List Char) : Prop :=
  ':' ∈ s ∧ (skeleton (beforeColon s) = "http".toList ∨ skeleton (beforeColon s) = "https".toList)
  deriving Decidable

/-- The decoded form of a destination spells a scheme of the web. -/
def ReadsAsWeb (s : List Char) : Prop :=
  ∃ t ∈ Text.Percent.decode? s, SpellsWeb t
  deriving Decidable

/-! ## Skeletons and colons -/

theorem beforeColon_append {a : List Char} (ha : ':' ∉ a) (b : List Char) :
    beforeColon (a ++ ':' :: b) = a := by
  rw [beforeColon, List.takeWhile_append_of_pos]
  · simp
  · intro c hc
    rw [bne_iff_ne]
    rintro rfl
    exact ha hc

theorem toLower_ne_colon {c : Char} (hc : isSchemeChar c) (hne : c ≠ ':') : c.toLower ≠ ':' := by
  simp only [isSchemeChar, Bool.or_eq_true, beq_iff_eq] at hc
  rcases hc with (hc | rfl) | rfl
  · intro he
    have halnum := Text.isAlphanum_toLower hc
    rw [he] at halnum
    exact absurd halnum (by decide)
  · decide
  · exact absurd rfl hne

theorem colon_notMem_skeleton {s : List Char} (h : ':' ∉ s) : ':' ∉ skeleton s := by
  intro hm
  obtain ⟨c, hc, he⟩ := List.mem_map.1 hm
  obtain ⟨hc, hscheme⟩ := List.mem_filter.1 hc
  refine toLower_ne_colon hscheme ?_ he
  rintro rfl
  exact h hc

/-- A skeleton begins with a word and a colon exactly if the word is the skeleton of what stands before
the first colon. -/
theorem colon_isPrefix_skeleton_iff {w : List Char} (hw : ':' ∉ w) (s : List Char) :
    w ++ [':'] <+: skeleton s ↔ ':' ∈ s ∧ skeleton (beforeColon s) = w := by
  by_cases hs : ':' ∈ s
  · obtain ⟨a, b, rfl, ha⟩ := List.eq_append_cons_of_mem hs
    have hskeleton : skeleton (a ++ ':' :: b) = skeleton a ++ ':' :: skeleton b := skeleton_append a _
    rw [hskeleton, beforeColon_append ha]
    constructor
    · intro h
      exact ⟨hs, (eq_of_colon hw (colon_notMem_skeleton ha) h).symm⟩
    · rintro ⟨-, rfl⟩
      exact ⟨skeleton b, by rw [List.append_assoc, List.singleton_append]⟩
  · have hnone : ¬w ++ [':'] <+: skeleton s := fun h => colon_notMem_skeleton hs (h.subset (by simp))
    simp only [hnone, hs, false_and]

/-! ## Spelling -/

theorem isWeb_iff {s : List Char} : isWeb s = true ↔ SpellsWeb s := by
  rw [isWeb, Bool.or_eq_true_iff, List.isPrefixOf_iff_prefix, List.isPrefixOf_iff_prefix, SpellsWeb,
    and_or_left]
  exact or_congr (colon_isPrefix_skeleton_iff (w := "http".toList) (by decide) s)
    (colon_isPrefix_skeleton_iff (w := "https".toList) (by decide) s)

theorem isSafe_iff {s : List Char} : isSafe s = true ↔ ReadsAsWeb s := by
  rw [isSafe, Option.any_eq_true]
  exact exists_congr fun t => and_congr_right' isWeb_iff

/-- Under restricted schemes a destination stands for its text without references, or for nothing. -/
theorem resolve?_restricted (escaped : String) :
    Destination.resolve? true escaped =
      if ReadsAsWeb (Text.unescape escaped).toList then some (Text.unescape escaped) else none := by
  simp [resolve?, isSafe_iff]

/-- Without percent signs, a relative destination spells a scheme with a separator between its
letters. -/
theorem readsAsWeb_iff_of_relative {s : List Char} (hs : Relative s) (h : '%' ∉ s) :
    ReadsAsWeb s ↔ SpellsWeb s ∧ ('/' ∈ beforeColon s ∨ '?' ∈ beforeColon s ∨ '#' ∈ beforeColon s) := by
  have hplain : ReadsAsWeb s ↔ SpellsWeb s := by
    rw [ReadsAsWeb, Text.Percent.decode?_of_notMem h]
    simp
  rw [hplain, iff_self_and]
  exact fun hspells => hs.resolve_left (not_not_intro hspells.1)

end Destination

open Destination (Relative ReadsAsWeb SpellsWeb beforeColon)

namespace TreeBuilder

/-- A call with a destination answers with nothing exactly if the destination is barred. -/
theorem answer_eq_empty_iff (escaped : String) (title : Option String) (content alt : String)
    (b : TreeBuilder) :
    ((markup true (.wrap (.link escaped title) content) b).1 = "" ↔
      Destination.resolve? true escaped = none) ∧
    ((markup true (.image escaped title alt) b).1 = "" ↔ Destination.resolve? true escaped = none) := by
  cases h : Destination.resolve? true escaped <;>
    simp [markup, branch?, leaf?, h, emit, encode_ne_empty]

end TreeBuilder

/-- **When a relative destination gets through.** Where schemes are restricted, a destination is barred,
and a link or image with it is answered with nothing, exactly if its decoded form does not spell a
scheme of the web; so no other destination is in the nodes of a document. A relative destination
without percent signs gets through exactly if it spells a scheme with a separator between the letters,
and thus never without a colon. -/
theorem relative_barred_iff {o : Options} (ho : o.sanitize = true) :
    (∀ escaped : String,
      (Destination.resolve? true escaped = none ↔ ¬ReadsAsWeb (Text.unescape escaped).toList) ∧
      ∀ title content alt b,
        ((TreeBuilder.markup o.sanitize (.wrap (.link escaped title) content) b).1 = "" ↔
          ¬ReadsAsWeb (Text.unescape escaped).toList) ∧
        ((TreeBuilder.markup o.sanitize (.image escaped title alt) b).1 = "" ↔
          ¬ReadsAsWeb (Text.unescape escaped).toList)) ∧
    (∀ events stream b, compile (TreeBuilder.markup o.sanitize) o {} events = (.ok stream, b) →
      ∀ d ∈ Node.targets (b.finish stream).1, ReadsAsWeb d.toList) ∧
    ∀ s, Relative s → '%' ∉ s →
      (ReadsAsWeb s ↔
        SpellsWeb s ∧ ('/' ∈ beforeColon s ∨ '?' ∈ beforeColon s ∨ '#' ∈ beforeColon s)) ∧
      (':' ∉ s → ¬ReadsAsWeb s) := by
  have hbarred (escaped : String) : Destination.resolve? true escaped = none ↔
      ¬ReadsAsWeb (Text.unescape escaped).toList := by
    simp [Destination.resolve?_restricted]
  rw [ho]
  refine ⟨fun escaped => ⟨hbarred escaped, fun title content alt b => ?_⟩,
    fun events stream b h => ?_, fun s hs hpercent => ?_⟩
  · obtain ⟨hlink, himage⟩ := TreeBuilder.answer_eq_empty_iff escaped title content alt b
    exact ⟨hlink.trans (hbarred escaped), himage.trans (hbarred escaped)⟩
  · refine TreeBuilder.forall_targets_of_compile (P := fun d => ReadsAsWeb d.toList) ?_ h
    intro escaped target hr
    rw [Destination.resolve?_restricted] at hr
    split at hr
    · cases hr
      assumption
    · cases hr
  · have hspells := Destination.readsAsWeb_iff_of_relative hs hpercent
    exact ⟨hspells, fun hcolon h => hcolon (hspells.1 h).1.1⟩

/-- A path that is barred, one with a scheme inside, and one with an encoded colon. -/
theorem relative_barred_iff_paths :
    let o := { Options.default with sanitize := true }
    let events : List Event :=
      [.start (.link "/abs/path" ""), .text "a", .stop .link, .start (.image "ht/tp://b" ""), .stop .image,
        .start (.link "https%3A//c" ""), .stop .link]
    Destination.resolve? true "/abs/path" = none ∧ Destination.resolve? true "ht/tp://b" ≠ none ∧
      Destination.resolve? true "https%3A//c" ≠ none ∧ SpellsWeb "ht/tp://b".toList ∧
      ∃ stream b, compile (TreeBuilder.markup o.sanitize) o {} events = (.ok stream, b) ∧
        Node.targets (b.finish stream).1 = ["ht/tp://b", "https%3A//c"] ∧
        ∀ d ∈ Node.targets (b.finish stream).1, Relative d.toList ∧ ReadsAsWeb d.toList := by
  intro o events
  obtain ⟨hbarred, htargets, hspells⟩ := relative_barred_iff (o := o) rfl
  have hpath : ¬ReadsAsWeb (Text.unescape "/abs/path").toList := by decide +kernel
  have hsplit : ReadsAsWeb (Text.unescape "ht/tp://b").toList := by decide +kernel
  have hencoded : ReadsAsWeb (Text.unescape "https%3A//c").toList := by decide +kernel
  have hrelative : Relative "ht/tp://b".toList := by decide +kernel
  have hstream : (compile (TreeBuilder.markup o.sanitize) o {} events).1 =
      .ok "\x7b\x7b1\x7d\x7d\x7b\x7b2\x7d\x7d" := by decide +kernel
  have hdocument := Prod.fst_eq_iff.1 hstream
  have hin : Node.targets ((compile (TreeBuilder.markup o.sanitize) o {} events).2.finish
      "\x7b\x7b1\x7d\x7d\x7b\x7b2\x7d\x7d").1 = ["ht/tp://b", "https%3A//c"] := by decide +kernel
  have hweb := htargets events _ _ hdocument
  refine ⟨(hbarred _).1.2 hpath, fun h => (hbarred _).1.1 h hsplit, fun h => (hbarred _).1.1 h hencoded,
    (((hspells _ hrelative (by decide +kernel)).1).1 (by decide +kernel)).1, _, _, hdocument, hin,
    fun d hd => ⟨?_, hweb d hd⟩⟩
  rw [hin] at hd
  revert d
  decide +kernel

/-- A path with a scheme inside is relative, and the link and the image with it are in the document. -/
theorem targets_of_relative_path :
    let o := { Options.default with sanitize := true }
    let events : List Event :=
      [.start (.link "/http://a" ""), .text "b", .stop .link, .start (.image "/http://a" ""), .stop .image]
    let answer := compile (TreeBuilder.markup o.sanitize) o {} events
    Relative (Text.unescape "/http://a").toList ∧
      Destination.resolve? true "/http://a" = some "/http://a" ∧
      answer.1.toOption.map (fun stream => Node.targets (answer.2.finish stream).1) =
        some ["/http://a", "/http://a"] := by
  refine ⟨by decide +kernel, by decide +kernel, by decide +kernel⟩

end Marktree
