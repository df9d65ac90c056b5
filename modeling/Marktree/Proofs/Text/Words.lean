import Mathlib.Data.List.Forall2
import Mathlib.Data.List.Induction
import Marktree.Proofs.Text.Slug

/-!
# The words of a slug

The words of a slug are cut at its breaks, and the letters of each are kept. So breaks may stand for
each other (`slugWords_congr`), and those at the ends do not matter (`slugWords_trimChars`). A break
that is left out joins the words around it: a text with gaps has the same slug whether breaks stand in
its gaps or nothing does exactly if no gap is inside a word (`slugChars_eq_iff`).
-/
namespace Marktree.Text

/-! ## The first word -/

/-- The letters of a text before its first break. -/
def lead (s : List Char) : List Char :=
  slugWord ((pieces isSlugBreak s).headD [])

/-- The words of a text after its first break. -/
def later (s : List Char) : List (List Char) :=
  ((pieces isSlugBreak s).tail.map slugWord).filter (!·.isEmpty)

theorem exists_pieces (p : Char → Bool) (s : List Char) : ∃ w ws, pieces p s = w :: ws := by
  cases s with
  | nil => exact ⟨[], [], rfl⟩
  | cons c s =>
    rw [pieces]
    split
    · exact ⟨_, _, rfl⟩
    · split <;> exact ⟨_, _, rfl⟩

theorem slugWords_of_lead {s : List Char} (h : lead s = []) : slugWords s = later s := by
  obtain ⟨w, ws, hs⟩ := exists_pieces isSlugBreak s
  simp only [lead, later, slugWords, hs, List.headD_cons, List.tail_cons, List.map_cons] at h ⊢
  rw [h, List.filter_cons_of_neg (by simp)]

theorem slugWords_of_lead_ne {s : List Char} (h : lead s ≠ []) : slugWords s = lead s :: later s := by
  obtain ⟨w, ws, hs⟩ := exists_pieces isSlugBreak s
  simp only [lead, later, slugWords, hs, List.headD_cons, List.tail_cons, List.map_cons] at h ⊢
  rw [List.filter_cons_of_pos (by simpa using h)]

/-- The words before and after the first break are all there are. -/
theorem slugWords_eq_of_lead {s t : List Char} (hlead : lead s = lead t) (hlater : later s = later t) :
    slugWords s = slugWords t := by
  by_cases h : lead t = []
  · rw [slugWords_of_lead (hlead.trans h), slugWords_of_lead h, hlater]
  · rw [slugWords_of_lead_ne (hlead ▸ h), slugWords_of_lead_ne h, hlead, hlater]

/-- The number of words, with the first one if there is any before the first break. -/
theorem length_slugWords_eq (s : List Char) :
    (slugWords s).length = (if lead s = [] then 0 else 1) + (later s).length := by
  by_cases h : lead s = []
  · rw [slugWords_of_lead h, if_pos h, Nat.zero_add]
  · rw [slugWords_of_lead_ne h, if_neg h, List.length_cons, Nat.add_comm]

/-! ## One character more -/

variable {c : Char}

/-- A character that stands in no word and between none. -/
def isDropped (c : Char) : Bool :=
  !c.isAlphanum && !isSlugBreak c

theorem pieces_cons_break (h : isSlugBreak c) (s : List Char) :
    pieces isSlugBreak (c :: s) = [] :: pieces isSlugBreak s := by
  rw [pieces, if_pos h]

theorem lead_cons_break (h : isSlugBreak c) (s : List Char) : lead (c :: s) = [] := by
  rw [lead, pieces_cons_break h]
  rfl

theorem later_cons_break (h : isSlugBreak c) (s : List Char) : later (c :: s) = slugWords s := by
  rw [later, pieces_cons_break h]
  rfl

theorem slugWords_cons_break (h : isSlugBreak c) (s : List Char) : slugWords (c :: s) = slugWords s := by
  rw [slugWords_of_lead (lead_cons_break h s), later_cons_break h]

theorem isSlugBreak_of_isAlphanum (h : c.isAlphanum) : isSlugBreak c = false := by
  have hdash : c ≠ '-' := by rintro rfl; exact absurd h (by decide)
  have hunder : c ≠ '_' := by rintro rfl; exact absurd h (by decide)
  simp [isSlugBreak, isBlank_of_isAlphanum h, hdash, hunder]

theorem lead_cons_of_not_break (h : isSlugBreak c = false) (s : List Char) :
    lead (c :: s) = slugWord [c] ++ lead s ∧ later (c :: s) = later s := by
  obtain ⟨w, ws, hs⟩ := exists_pieces isSlugBreak s
  have hcons : pieces isSlugBreak (c :: s) = (c :: w) :: ws := by
    rw [pieces, if_neg (by simp [h]), hs]
  refine ⟨?_, by rw [later, later, hcons, hs]; rfl⟩
  rw [lead, lead, hcons, hs, slugWord, slugWord, slugWord, ← List.map_append, ← List.filter_append]
  rfl

theorem lead_cons_letter (h : c.isAlphanum) (s : List Char) : lead (c :: s) = c.toLower :: lead s := by
  rw [(lead_cons_of_not_break (isSlugBreak_of_isAlphanum h) s).1]
  simp [slugWord, h]

theorem later_cons_letter (h : c.isAlphanum) (s : List Char) : later (c :: s) = later s :=
  (lead_cons_of_not_break (isSlugBreak_of_isAlphanum h) s).2

theorem slugWords_cons_letter (h : c.isAlphanum) (s : List Char) :
    slugWords (c :: s) = (c.toLower :: lead s) :: later s := by
  have hlead := lead_cons_letter h s
  rw [slugWords_of_lead_ne (by simp [hlead]), hlead, later_cons_letter h]

theorem lead_cons_dropped (h : isDropped c) (s : List Char) : lead (c :: s) = lead s := by
  rw [isDropped, Bool.and_eq_true_iff, Bool.not_eq_true', Bool.not_eq_true'] at h
  rw [(lead_cons_of_not_break h.2 s).1]
  simp [slugWord, h.1]

theorem later_cons_dropped (h : isDropped c) (s : List Char) : later (c :: s) = later s := by
  rw [isDropped, Bool.and_eq_true_iff, Bool.not_eq_true', Bool.not_eq_true'] at h
  exact (lead_cons_of_not_break h.2 s).2

theorem slugWords_cons_dropped (h : isDropped c) (s : List Char) : slugWords (c :: s) = slugWords s :=
  slugWords_eq_of_lead (lead_cons_dropped h s) (later_cons_dropped h s)

/-- A character is a letter or digit of a word, a break or dropped. -/
theorem letter_or_break_or_dropped (c : Char) : c.isAlphanum ∨ isSlugBreak c ∨ isDropped c := by
  cases ha : c.isAlphanum <;> cases hb : isSlugBreak c <;> simp [isDropped, ha, hb]

/-! ## Breaks -/

/-- Characters that a slug does not tell apart: any two breaks. -/
def Alike (c d : Char) : Prop :=
  c = d ∨ isSlugBreak c ∧ isSlugBreak d

theorem alike_refl (s : List Char) : List.Forall₂ Alike s s :=
  List.forall₂_same.2 fun _ _ => .inl rfl

theorem pieces_congr {s t : List Char} (h : List.Forall₂ Alike s t) :
    pieces isSlugBreak s = pieces isSlugBreak t := by
  induction h with
  | nil => rfl
  | cons hc _ ih =>
    rcases hc with rfl | ⟨hc, hd⟩
    · rw [pieces, pieces, ih]
    · rw [pieces_cons_break hc, pieces_cons_break hd, ih]

/-- Breaks may stand for each other. -/
theorem slugWords_congr {s t : List Char} (h : List.Forall₂ Alike s t) : slugWords s = slugWords t := by
  rw [slugWords, slugWords, pieces_congr h]

theorem slugWords_dropWhile (s : List Char) : slugWords (s.dropWhile isBlank) = slugWords s := by
  induction s with
  | nil => rfl
  | cons c s ih =>
    by_cases hc : isBlank c
    · rw [List.dropWhile_cons_of_pos hc, ih, slugWords_cons_break (by simp [isSlugBreak, hc])]
    · rw [List.dropWhile_cons_of_neg hc]

/-- A break parts the words before it from those after it. -/
theorem slugWords_append_cons (h : isSlugBreak c) (s t : List Char) :
    slugWords (s ++ c :: t) = slugWords s ++ slugWords t := by
  simp only [slugWords, pieces_eq_splitOnP]
  rw [List.splitOnP_append_cons s t h, List.map_append, List.filter_append]

theorem slugWords_append_break (h : isSlugBreak c) (s : List Char) : slugWords (s ++ [c]) = slugWords s := by
  rw [slugWords_append_cons h]
  exact List.append_nil _

theorem slugWords_trimEndChars (s : List Char) : slugWords (trimEndChars s) = slugWords s := by
  induction s using List.reverseRecOn with
  | nil => rfl
  | append_singleton s c ih =>
    rw [trimEndChars, List.reverse_append, List.reverse_singleton, List.singleton_append]
    by_cases hc : isBlank c
    · rw [List.dropWhile_cons_of_pos hc, slugWords_append_break (by simp [isSlugBreak, hc])]
      exact ih
    · rw [List.dropWhile_cons_of_neg hc, List.reverse_cons, List.reverse_reverse]

theorem slugWords_trimChars (s : List Char) : slugWords (trimChars s) = slugWords s := by
  rw [trimChars, slugWords_trimEndChars, slugWords_dropWhile]

theorem slug_eq_of_slugWords {s t : String} (h : slugWords s.toList = slugWords t.toList) :
    slug s = slug t := by
  rw [slug, slug, slugChars, slugChars, h]

/-- Blanks at the ends of a text do not matter. -/
theorem slug_trim (s : String) : slug (trim s) = slug s :=
  slug_eq_of_slugWords (by rw [trim, String.toList_ofList, slugWords_trimChars])

/-! ## The number of words -/

theorem count_intercalate {ws : List (List Char)} (h : ∀ w ∈ ws, '-' ∉ w) :
    (['-'].intercalate ws).count '-' = ws.length - 1 := by
  induction ws with
  | nil => rfl
  | cons w ws ih =>
    obtain ⟨hw, hws⟩ := List.forall_mem_cons.1 h
    by_cases hne : ws = []
    · subst hne
      simpa [List.count_eq_zero] using hw
    · have hpos := List.length_pos_iff.2 hne
      rw [List.intercalate_cons_of_ne_nil hne, List.count_append, List.count_append, ih hws,
        List.count_eq_zero.2 hw, List.length_cons]
      simp
      omega

/-- The dashes of a slug tell the number of its words. -/
theorem count_slugChars (s : List Char) : (slugChars s).count '-' = (slugWords s).length - 1 := by
  refine count_intercalate fun w hw hdash => ?_
  obtain ⟨v, -, rfl⟩ := List.mem_map.1 (List.mem_filter.1 hw).1
  exact absurd (isAlphanum_of_mem_slugWord hdash) (by decide)

/-! ## Gaps -/

/-- A text with gaps between its characters. -/
abbrev Gapped := List (Option Char)

namespace Gapped

/-- The text without its gaps. -/
def closed (l : Gapped) : List Char :=
  l.filterMap id

/-- The text with a line feed in each gap. -/
def spread (l : Gapped) : List Char :=
  l.map (·.getD '\n')

/-- Nothing but gaps and characters that are dropped. -/
def Void (l : Gapped) : Prop :=
  ∀ c, some c ∈ l → isDropped c

/-- The next thing that counts is a letter. -/
def Starts (l : Gapped) : Prop :=
  ∃ m y b, l = m ++ some y :: b ∧ y.isAlphanum ∧ Void m

/-- The next thing that counts is a letter, and a gap stands before it. -/
def Pending (l : Gapped) : Prop :=
  ∃ m y b, l = m ++ some y :: b ∧ y.isAlphanum ∧ none ∈ m ∧ Void m

/-- A gap stands in a word: between two letters, with nothing else there but dropped characters. -/
def Splits (l : Gapped) : Prop :=
  ∃ a x m y b, l = a ++ some x :: (m ++ some y :: b) ∧ x.isAlphanum ∧ y.isAlphanum ∧ none ∈ m ∧ Void m

variable {l : Gapped} {c : Char}

theorem void_cons (h : isDropped c) : Void (some c :: l) ↔ Void l := by
  constructor
  · intro hl d hd
    exact hl d (List.mem_cons_of_mem _ hd)
  · intro hl d hd
    rcases List.mem_cons.1 hd with hd | hd
    · cases hd
      exact h
    · exact hl d hd

theorem void_gap : Void (none :: l) ↔ Void l := by
  simp [Void]

theorem starts_gap : Starts (none :: l) ↔ Starts l := by
  constructor
  · rintro ⟨m, y, b, h, hy, hm⟩
    cases m with
    | nil => cases h
    | cons o m =>
      obtain ⟨rfl, rfl⟩ := List.cons.inj h
      exact ⟨m, y, b, rfl, hy, void_gap.1 hm⟩
  · rintro ⟨m, y, b, rfl, hy, hm⟩
    exact ⟨none :: m, y, b, rfl, hy, void_gap.2 hm⟩

theorem starts_cons : Starts (some c :: l) ↔ c.isAlphanum ∨ isDropped c ∧ Starts l := by
  constructor
  · rintro ⟨m, y, b, h, hy, hm⟩
    cases m with
    | nil =>
      cases h
      exact .inl hy
    | cons o m =>
      obtain ⟨rfl, rfl⟩ := List.cons.inj h
      have hc : isDropped c := hm c (List.mem_cons_self ..)
      exact .inr ⟨hc, m, y, b, rfl, hy, (void_cons hc).1 hm⟩
  · rintro (hc | ⟨hc, m, y, b, rfl, hy, hm⟩)
    · exact ⟨[], c, l, rfl, hc, by simp [Void]⟩
    · exact ⟨some c :: m, y, b, rfl, hy, (void_cons hc).2 hm⟩

theorem pending_gap : Pending (none :: l) ↔ Starts l := by
  rw [← starts_gap]
  constructor
  · rintro ⟨m, y, b, h, hy, -, hm⟩
    exact ⟨m, y, b, h, hy, hm⟩
  · rintro ⟨m, y, b, h, hy, hm⟩
    cases m with
    | nil => cases h
    | cons o m =>
      obtain ⟨rfl, -⟩ := List.cons.inj h
      exact ⟨none :: m, y, b, h, hy, List.mem_cons_self .., hm⟩

theorem pending_cons : Pending (some c :: l) ↔ isDropped c ∧ Pending l := by
  constructor
  · rintro ⟨m, y, b, h, hy, hgap, hm⟩
    cases m with
    | nil => cases hgap
    | cons o m =>
      obtain ⟨rfl, rfl⟩ := List.cons.inj h
      have hc : isDropped c := hm c (List.mem_cons_self ..)
      exact ⟨hc, m, y, b, rfl, hy, by simpa using hgap, (void_cons hc).1 hm⟩
  · rintro ⟨hc, m, y, b, rfl, hy, hgap, hm⟩
    exact ⟨some c :: m, y, b, rfl, hy, List.mem_cons_of_mem _ hgap, (void_cons hc).2 hm⟩

theorem not_splits_nil : ¬Splits [] := by
  rintro ⟨a, x, m, y, b, h, -⟩
  simp at h

theorem splits_gap : Splits (none :: l) ↔ Splits l := by
  constructor
  · rintro ⟨a, x, m, y, b, h, hsplit⟩
    cases a with
    | nil => cases h
    | cons o a =>
      obtain ⟨-, rfl⟩ := List.cons.inj h
      exact ⟨a, x, m, y, b, rfl, hsplit⟩
  · rintro ⟨a, x, m, y, b, rfl, hsplit⟩
    exact ⟨none :: a, x, m, y, b, rfl, hsplit⟩

theorem splits_cons : Splits (some c :: l) ↔ c.isAlphanum ∧ Pending l ∨ Splits l := by
  constructor
  · rintro ⟨a, x, m, y, b, h, hx, hsplit⟩
    cases a with
    | nil =>
      cases h
      exact .inl ⟨hx, m, y, b, rfl, hsplit⟩
    | cons o a =>
      obtain ⟨-, rfl⟩ := List.cons.inj h
      exact .inr ⟨a, x, m, y, b, rfl, hx, hsplit⟩
  · rintro (⟨hc, m, y, b, rfl, hsplit⟩ | ⟨a, x, m, y, b, rfl, hsplit⟩)
    · exact ⟨[], c, m, y, b, rfl, hc, hsplit⟩
    · exact ⟨some c :: a, x, m, y, b, rfl, hsplit⟩

/-! ## Gaps and words -/

theorem not_isAlphanum_of_isDropped (h : isDropped c) : ¬c.isAlphanum := by
  simp only [isDropped, Bool.and_eq_true, Bool.not_eq_true'] at h
  simp [h.1]

theorem not_isDropped_of_isSlugBreak (h : isSlugBreak c) : ¬isDropped c := by
  simp [isDropped, h]

theorem not_isAlphanum_of_isSlugBreak (h : isSlugBreak c) : ¬c.isAlphanum := by
  intro ha
  rw [isSlugBreak_of_isAlphanum ha] at h
  cases h

theorem starts_iff : Starts l ↔ lead (closed l) ≠ [] := by
  induction l with
  | nil =>
    refine iff_of_false ?_ (by simp [closed, lead, pieces, slugWord])
    rintro ⟨m, y, b, h, -⟩
    simp at h
  | cons o l ih =>
    cases o with
    | none => exact starts_gap.trans ih
    | some c =>
      have hclosed : closed (some c :: l) = c :: closed l := rfl
      rw [starts_cons, ih, hclosed]
      rcases letter_or_break_or_dropped c with hc | hc | hc
      · simp [hc, lead_cons_letter hc]
      · simp [not_isAlphanum_of_isSlugBreak hc, not_isDropped_of_isSlugBreak hc, lead_cons_break hc]
      · simp [not_isAlphanum_of_isDropped hc, hc, lead_cons_dropped hc]

/-- A letter is pending where only the text without gaps begins with one. -/
theorem pending_iff : Pending l ↔ lead (closed l) ≠ [] ∧ lead (spread l) = [] := by
  induction l with
  | nil =>
    refine iff_of_false ?_ (by simp [closed, lead, pieces, slugWord])
    rintro ⟨m, y, b, h, -⟩
    simp at h
  | cons o l ih =>
    cases o with
    | none =>
      have hspread : lead (spread (none :: l)) = [] := lead_cons_break (by decide) _
      simp only [hspread, and_true]
      exact pending_gap.trans starts_iff
    | some c =>
      have hclosed : closed (some c :: l) = c :: closed l := rfl
      have hspread : spread (some c :: l) = c :: spread l := rfl
      rw [pending_cons, ih, hclosed, hspread]
      rcases letter_or_break_or_dropped c with hc | hc | hc
      · simp [lead_cons_letter hc, show isDropped c = false by simp [isDropped, hc]]
      · simp [not_isDropped_of_isSlugBreak hc, lead_cons_break hc]
      · simp [hc, lead_cons_dropped hc]

/-- Where the text with line feeds begins with a letter, so does the one without gaps. -/
theorem lead_closed_ne (h : lead (spread l) ≠ []) : lead (closed l) ≠ [] := by
  induction l with
  | nil => exact h
  | cons o l ih =>
    cases o with
    | none => exact absurd (lead_cons_break (by decide) _) h
    | some c =>
      change lead (c :: closed l) ≠ []
      change lead (c :: spread l) ≠ [] at h
      rcases letter_or_break_or_dropped c with hc | hc | hc
      · simp [lead_cons_letter hc]
      · exact absurd (lead_cons_break hc _) h
      · rw [lead_cons_dropped hc] at h ⊢
        exact ih h

/-- Without a gap in a word the words are the same. -/
theorem slugWords_eq_of_not_splits (h : ¬Splits l) : slugWords (closed l) = slugWords (spread l) := by
  induction l with
  | nil => rfl
  | cons o l ih =>
    cases o with
    | none =>
      have hspread : slugWords (spread (none :: l)) = slugWords (spread l) :=
        slugWords_cons_break (by decide) _
      exact (ih fun hl => h (splits_gap.2 hl)).trans hspread.symm
    | some c =>
      have hwords := ih fun hl => h (splits_cons.2 (.inr hl))
      change slugWords (c :: closed l) = slugWords (c :: spread l)
      rcases letter_or_break_or_dropped c with hc | hc | hc
      · have hpending : ¬Pending l := fun hl => h (splits_cons.2 (.inl ⟨hc, hl⟩))
        rw [pending_iff, not_and] at hpending
        rw [slugWords_cons_letter hc, slugWords_cons_letter hc]
        by_cases hspread : lead (spread l) = []
        · have hclosed : lead (closed l) = [] := by
            by_contra hne
            exact hpending hne hspread
          rw [slugWords_of_lead hclosed, slugWords_of_lead hspread] at hwords
          rw [hclosed, hspread, hwords]
        · rw [slugWords_of_lead_ne (lead_closed_ne hspread), slugWords_of_lead_ne hspread] at hwords
          obtain ⟨hlead, hlater⟩ := List.cons.inj hwords
          rw [hlead, hlater]
      · rw [slugWords_cons_break hc, slugWords_cons_break hc, hwords]
      · rw [slugWords_cons_dropped hc, slugWords_cons_dropped hc, hwords]

/-- A gap never takes a word away, and one in a word makes two of it. -/
theorem length_slugWords (l : Gapped) :
    (slugWords (closed l)).length ≤ (slugWords (spread l)).length ∧
      (Splits l → 0 < (slugWords (closed l)).length ∧
        (slugWords (closed l)).length < (slugWords (spread l)).length) := by
  induction l with
  | nil => exact ⟨Nat.le_refl _, fun h => absurd h not_splits_nil⟩
  | cons o l ih =>
    obtain ⟨hle, hlt⟩ := ih
    cases o with
    | none =>
      have hspread : slugWords (spread (none :: l)) = slugWords (spread l) :=
        slugWords_cons_break (by decide) _
      rw [splits_gap, hspread]
      exact ⟨hle, hlt⟩
    | some c =>
      rw [splits_cons]
      change (slugWords (c :: closed l)).length ≤ (slugWords (c :: spread l)).length ∧
        (_ → 0 < (slugWords (c :: closed l)).length ∧
          (slugWords (c :: closed l)).length < (slugWords (c :: spread l)).length)
      rcases letter_or_break_or_dropped c with hc | hc | hc
      · have hclosed := length_slugWords_eq (closed l)
        have hspread := length_slugWords_eq (spread l)
        rw [slugWords_cons_letter hc, slugWords_cons_letter hc, pending_iff, List.length_cons,
          List.length_cons]
        -- a word that goes on after the letter is one with it, so it counts on neither side
        by_cases h₁ : lead (closed l) = []
        · have h₂ : lead (spread l) = [] := by
            by_contra hne
            exact lead_closed_ne hne h₁
          rw [if_pos h₁] at hclosed
          rw [if_pos h₂] at hspread
          refine ⟨by omega, fun h => ⟨Nat.succ_pos _, ?_⟩⟩
          obtain ⟨-, hrest⟩ := hlt (h.resolve_left fun h => h.2.1 h₁)
          omega
        · rw [if_neg h₁] at hclosed
          by_cases h₂ : lead (spread l) = []
          · rw [if_pos h₂] at hspread
            refine ⟨by omega, fun _ => ⟨Nat.succ_pos _, ?_⟩⟩
            omega
          · rw [if_neg h₂] at hspread
            refine ⟨by omega, fun h => ⟨Nat.succ_pos _, ?_⟩⟩
            obtain ⟨-, hrest⟩ := hlt (h.resolve_left fun h => h₂ h.2.2)
            omega
      · rw [slugWords_cons_break hc, slugWords_cons_break hc]
        exact ⟨hle, fun h => hlt (h.resolve_left fun h => not_isAlphanum_of_isSlugBreak hc h.1)⟩
      · rw [slugWords_cons_dropped hc, slugWords_cons_dropped hc]
        exact ⟨hle, fun h => hlt (h.resolve_left fun h => not_isAlphanum_of_isDropped hc h.1)⟩

/-- **A slug tells whether a gap stands in a word.** -/
theorem slugChars_eq_iff (l : Gapped) : slugChars (closed l) = slugChars (spread l) ↔ ¬Splits l := by
  constructor
  · intro h hl
    obtain ⟨hpos, hlt⟩ := (length_slugWords l).2 hl
    have hcount := congrArg (List.count '-') h
    rw [count_slugChars, count_slugChars] at hcount
    omega
  · intro h
    rw [slugChars, slugChars, slugWords_eq_of_not_splits h]

end Gapped

end Marktree.Text
