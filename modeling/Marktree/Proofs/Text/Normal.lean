import Marktree.Proofs.Text.Words

/-!
# The normal form of slugs

A slug is made of words, non-empty runs of lower-case letters and digits, with single dashes between
them (`Dashed`), and every such text is its own slug. The slug of two texts with a break between them
is made of their slugs (`slug_append_break`), so breaks at the ends of a text and repeated ones do not
count. Nor do the case of letters and the characters that are dropped (`slug_eq_of_essence_eq`).
-/
namespace Marktree.Text

/-! ## Words with dashes between them -/

/-- A run of lower-case letters and digits. -/
structure IsSlugWord (w : List Char) : Prop where
  ne_nil : w ≠ []
  lower : ∀ c ∈ w, c.isLower ∨ c.isDigit

/-- Such words with single dashes between them and none at the ends; there may be no word. -/
def Dashed (t : List Char) : Prop :=
  ∃ ws, (∀ w ∈ ws, IsSlugWord w) ∧ t = ['-'].intercalate ws

namespace IsSlugWord

variable {w : List Char}

theorem of_mem_slugWords {s : List Char} (h : w ∈ slugWords s) : IsSlugWord w := by
  obtain ⟨hmap, hne⟩ := List.mem_filter.1 h
  obtain ⟨v, -, rfl⟩ := List.mem_map.1 hmap
  refine ⟨by simpa using hne, fun c hc => ?_⟩
  obtain ⟨x, hx, rfl⟩ := List.mem_map.1 hc
  exact isLower_or_isDigit_iff.2 ⟨isAlphanum_toLower (List.mem_filter.1 hx).2, by simp⟩

theorem slugWord_eq (h : IsSlugWord w) : slugWord w = w := by
  have hletters : w.filter Char.isAlphanum = w :=
    List.filter_eq_self.2 fun c hc => (isLower_or_isDigit_iff.1 (h.lower c hc)).1
  have hlower : w.map Char.toLower = w.map id :=
    List.map_congr_left fun c hc => Char.toLower_eq_of_not_isUpper (isLower_or_isDigit_iff.1 (h.lower c hc)).2
  rw [slugWord, hletters, hlower, List.map_id]

theorem slugWords_eq (h : IsSlugWord w) : slugWords w = [w] := by
  have hpieces : pieces isSlugBreak w = [w] := by
    rw [pieces_eq_splitOnP]
    exact List.splitOnP_eq_singleton fun c hc =>
      isSlugBreak_of_isAlphanum (isLower_or_isDigit_iff.1 (h.lower c hc)).1
  rw [slugWords, hpieces, List.map_singleton, h.slugWord_eq,
    List.filter_cons_of_pos (by simpa using h.ne_nil), List.filter_nil]

end IsSlugWord

/-- Words joined by dashes are read back as they were. -/
theorem slugWords_intercalate {ws : List (List Char)} (h : ∀ w ∈ ws, IsSlugWord w) :
    slugWords (['-'].intercalate ws) = ws := by
  induction ws with
  | nil => rfl
  | cons w ws ih =>
    obtain ⟨hw, hws⟩ := List.forall_mem_cons.1 h
    by_cases hne : ws = []
    · subst hne
      rw [List.intercalate_singleton, hw.slugWords_eq]
    · rw [List.intercalate_cons_of_ne_nil hne, List.append_assoc, List.singleton_append,
        slugWords_append_cons (by decide), hw.slugWords_eq, ih hws, List.singleton_append]

theorem dashed_slug (s : String) : Dashed (slug s).toList :=
  ⟨slugWords s.toList, fun _ hw => .of_mem_slugWords hw, by rw [slug, String.toList_ofList, slugChars]⟩

theorem slug_of_dashed {t : String} (h : Dashed t.toList) : slug t = t := by
  obtain ⟨ws, hws, ht⟩ := h
  rw [slug, slugChars, ht, slugWords_intercalate hws, ← ht, String.ofList_toList]

/-! ## Breaks between texts -/

theorem slug_eq_intercalate (s : String) :
    slug s = "-".intercalate ((slugWords s.toList).map String.ofList) := by
  apply String.toList_injective
  rw [slug, String.toList_ofList, slugChars, String.toList_intercalate, List.map_map]
  have hsame : String.toList ∘ String.ofList = id := funext fun _ => String.toList_ofList
  rw [hsame, List.map_id]
  rfl

/-- No word is empty, so a slug is empty only if there is no word. -/
theorem slug_eq_empty_iff {s : String} : slug s = "" ↔ slugWords s.toList = [] := by
  constructor
  · intro h
    have hwords := slugWords_intercalate fun _ hw => IsSlugWord.of_mem_slugWords (s := s.toList) hw
    have hempty : slugChars s.toList = [] := by
      rw [← String.toList_ofList (l := slugChars s.toList), ← slug, h]
      rfl
    rw [← hwords, ← slugChars, hempty]
    rfl
  · intro h
    rw [slug_eq_intercalate, h]
    rfl

/-- The slug of the words of two texts: their slugs with a dash between, if both have words. -/
theorem slug_of_slugWords_append {s a b : String}
    (h : slugWords s.toList = slugWords a.toList ++ slugWords b.toList) :
    slug s = "-".intercalate ([slug a, slug b].filter (· ≠ "")) := by
  have hs := slug_eq_intercalate s
  rw [h, List.map_append] at hs
  by_cases ha : slugWords a.toList = [] <;> by_cases hb : slugWords b.toList = []
  · rw [hs, slug_eq_empty_iff.2 ha, slug_eq_empty_iff.2 hb, ha, hb]
    rfl
  · have hne : slug b ≠ "" := mt slug_eq_empty_iff.1 hb
    rw [ha, List.map_nil, List.nil_append, ← slug_eq_intercalate] at hs
    simp [hs, slug_eq_empty_iff.2 ha, hne]
  · have hne : slug a ≠ "" := mt slug_eq_empty_iff.1 ha
    rw [hb, List.map_nil, List.append_nil, ← slug_eq_intercalate] at hs
    simp [hs, slug_eq_empty_iff.2 hb, hne]
  · have hne : slug a ≠ "" ∧ slug b ≠ "" := ⟨mt slug_eq_empty_iff.1 ha, mt slug_eq_empty_iff.1 hb⟩
    rw [String.intercalate_append_of_ne_nil (by simpa using ha) (by simpa using hb),
      ← slug_eq_intercalate, ← slug_eq_intercalate] at hs
    simp [hs, hne.1, hne.2, String.intercalate_cons_of_ne_nil]

theorem slug_append_break {c : Char} (h : isSlugBreak c) (a b : String) :
    slug (a ++ String.singleton c ++ b) = "-".intercalate ([slug a, slug b].filter (· ≠ "")) := by
  refine slug_of_slugWords_append ?_
  rw [String.toList_append, String.toList_append, String.toList_singleton, List.append_assoc,
    List.singleton_append, slugWords_append_cons h]

theorem slugWords_breaks_append {seps : List Char} (h : ∀ c ∈ seps, isSlugBreak c) (s : List Char) :
    slugWords (seps ++ s) = slugWords s := by
  induction seps with
  | nil => rfl
  | cons c seps ih =>
    obtain ⟨hc, hseps⟩ := List.forall_mem_cons.1 h
    rw [List.cons_append, slugWords_cons_break hc, ih hseps]

/-- A run of breaks parts the words around it as one break does. -/
theorem slugWords_append_breaks {seps : List Char} (hne : seps ≠ []) (h : ∀ c ∈ seps, isSlugBreak c)
    (s t : List Char) : slugWords (s ++ (seps ++ t)) = slugWords s ++ slugWords t := by
  obtain ⟨c, seps, rfl⟩ := List.exists_cons_of_ne_nil hne
  obtain ⟨hc, hseps⟩ := List.forall_mem_cons.1 h
  rw [List.cons_append, slugWords_append_cons hc, slugWords_breaks_append hseps]

/-- Breaks before and after a text do not count, and between two texts they count as one dash. -/
theorem slug_breaks {seps : String} (h : ∀ c ∈ seps.toList, isSlugBreak c) (a b : String) :
    slug (seps ++ a) = slug a ∧ slug (a ++ seps) = slug a ∧
      (seps ≠ "" → slug (a ++ seps ++ b) = slug (a ++ "-" ++ b)) := by
  refine ⟨slug_eq_of_slugWords ?_, slug_eq_of_slugWords ?_, fun hne => slug_eq_of_slugWords ?_⟩
  · rw [String.toList_append, slugWords_breaks_append h]
  · by_cases hne : seps.toList = []
    · rw [String.toList_append, hne, List.append_nil]
    · have hrun := slugWords_append_breaks hne h a.toList []
      rwa [List.append_nil, ← String.toList_append, show slugWords [] = [] from rfl,
        List.append_nil] at hrun
  · have hne : seps.toList ≠ [] := fun hnil => hne (String.toList_injective (hnil.trans rfl))
    simp only [String.toList_append, List.append_assoc]
    rw [slugWords_append_breaks hne h, slugWords_append_breaks (by decide) (List.all_eq_true.1 (by decide))]

/-! ## What counts in a text -/

/-- The characters that are not dropped, in lower case. -/
def essence (s : List Char) : List Char :=
  (s.filter (!isDropped ·)).map Char.toLower

theorem toLower_of_isSlugBreak {c : Char} (h : isSlugBreak c) : c.toLower = c := by
  refine Char.toLower_eq_of_not_isUpper fun hu => ?_
  have hletter := isAlphanum_iff.2 (.inl (isUpper_iff.1 hu))
  rw [isSlugBreak_of_isAlphanum hletter] at h
  exact absurd h (by decide)

theorem essence_cons_of_not_dropped {c : Char} (h : isDropped c = false) (s : List Char) :
    essence (c :: s) = c.toLower :: essence s := by
  rw [essence, List.filter_cons_of_pos (by simp [h]), List.map_cons, ← essence]

theorem lead_later_essence (s : List Char) :
    lead (essence s) = lead s ∧ later (essence s) = later s := by
  induction s with
  | nil => exact ⟨rfl, rfl⟩
  | cons c s ih =>
    obtain ⟨hlead, hlater⟩ := ih
    rcases letter_or_break_or_dropped c with hc | hc | hc
    · have hlow := isAlphanum_toLower hc
      have hkept : isDropped c = false := by simp [isDropped, hc]
      rw [essence_cons_of_not_dropped hkept, lead_cons_letter hlow, later_cons_letter hlow,
        lead_cons_letter hc, later_cons_letter hc, hlead, hlater,
        Char.toLower_toLower_eq_toLower]
      exact ⟨rfl, rfl⟩
    · have hkept : isDropped c = false := by simp [isDropped, hc]
      rw [essence_cons_of_not_dropped hkept, toLower_of_isSlugBreak hc, lead_cons_break hc,
        later_cons_break hc, lead_cons_break hc, later_cons_break hc]
      exact ⟨rfl, slugWords_eq_of_lead hlead hlater⟩
    · rw [essence, List.filter_cons_of_neg (by simp [hc]), ← essence, lead_cons_dropped hc,
        later_cons_dropped hc]
      exact ⟨hlead, hlater⟩

theorem slugWords_essence (s : List Char) : slugWords (essence s) = slugWords s :=
  slugWords_eq_of_lead (lead_later_essence s).1 (lead_later_essence s).2

theorem slug_eq_of_essence_eq {s t : String} (h : essence s.toList = essence t.toList) :
    slug s = slug t :=
  slug_eq_of_slugWords (by rw [← slugWords_essence, h, slugWords_essence])

/-- **Slugs are a normal form.** A slug is made of words with single dashes between them, and these
texts are their own slugs. The slug of two texts with a break between is made of theirs: a run of breaks
does not count at the ends of a text, and elsewhere it counts as one dash. What differs only in the case
of letters and in dropped characters has the same slug. -/
theorem slug_normal :
    (∀ s, Dashed (slug s).toList ∧ slug (slug s) = slug s) ∧
      (∀ t, Dashed t.toList → slug t = t) ∧
      (∀ a b c, isSlugBreak c →
        slug (a ++ String.singleton c ++ b) = "-".intercalate ([slug a, slug b].filter (· ≠ ""))) ∧
      (∀ a b seps : String, (∀ c ∈ seps.toList, isSlugBreak c) →
        slug (seps ++ a) = slug a ∧ slug (a ++ seps) = slug a ∧
          (seps ≠ "" → slug (a ++ seps ++ b) = slug (a ++ "-" ++ b))) ∧
      ∀ s t : String, essence s.toList = essence t.toList → slug s = slug t :=
  ⟨fun s => ⟨dashed_slug s, slug_of_dashed (dashed_slug s)⟩, fun _ => slug_of_dashed,
    fun a b _ hc => slug_append_break hc a b, fun a b _ h => slug_breaks h a b,
    fun _ _ => slug_eq_of_essence_eq⟩

/-- Edge and repeated breaks, letters of both cases and dropped characters. -/
theorem slug_normal_breaks :
    slug "_-Qué?\u2003 B_2 " = "qu-b-2" ∧ slug (slug "_-Qué?\u2003 B_2 ") = slug "_-Qué?\u2003 B_2 " ∧
      slug "qu-b-2" = "qu-b-2" ∧ slug ("¿Qué?" ++ String.singleton '_' ++ "!") = "qu" ∧
      slug ("A" ++ " - " ++ "b") = slug ("A" ++ "-" ++ "b") ∧ slug "What's New?" = slug "whats new" := by
  obtain ⟨hslug, hfixed, hbreak, hbreaks, hessence⟩ := slug_normal
  have hwritten : slug "_-Qué?\u2003 B_2 " = "qu-b-2" := by decide
  have hseps : ∀ c ∈ " - ".toList, isSlugBreak c := List.all_eq_true.1 (by decide)
  refine ⟨hwritten, (hslug _).2, hfixed _ ?_, ?_, (hbreaks "A" "b" " - " hseps).2.2 (by decide),
    hessence _ _ (by decide)⟩
  · rw [← hwritten]
    exact (hslug _).1
  · rw [hbreak "¿Qué?" "!" '_' (by decide)]
    decide

end Marktree.Text
