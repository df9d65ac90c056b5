import Mathlib.Data.List.Nodup
import Marktree.Text.Slug

/-!
# Repeated anchors

What a store has given out can be told from its slugs: for each slug the anchors with the numbers
from zero up. So two anchors are the same only where a numbered one is the slug of another heading,
and then they are (`issued_nodup_iff`).
-/
namespace Marktree.Text.Slugs

/-- The anchor for a slug and the number of its repeat. -/
def numbered : String × Nat → String
  | (s, 0) => s
  | (s, n + 1) => s ++ "-" ++ toString (n + 1)

/-- The anchors given out so far, the last one first. -/
def issued (t : Slugs) : List String :=
  t.seen.map numbered

/-- The slugs of the headings so far, the last one first. -/
def slugs (t : Slugs) : List String :=
  t.seen.map Prod.fst

/-- Every slug comes with the number of times it came before. -/
def Counts : List (String × Nat) → Prop
  | [] => True
  | (s, n) :: l => n = (l.map Prod.fst).count s ∧ Counts l

/-- A slug that came again takes a number, and the slug with that number is another heading's. -/
def Clashes (t : Slugs) : Prop :=
  ∃ s n, 0 < n ∧ n < t.slugs.count s ∧ s ++ "-" ++ toString n ∈ t.slugs

/-! ## The history of a store -/

theorem lookup_of_counts {l : List (String × Nat)} (h : Counts l) (s : String) :
    l.lookup s =
      if (l.map Prod.fst).count s = 0 then none else some ((l.map Prod.fst).count s - 1) := by
  induction l with
  | nil => simp
  | cons a l ih =>
    obtain ⟨u, n⟩ := a
    obtain ⟨hn, hl⟩ := h
    by_cases hs : s = u
    · subst hs
      simp [hn]
    · have hne : ¬ u = s := fun e => hs e.symm
      have hbeq : (s == u) = false := by simpa using hs
      simp [List.lookup_cons, hbeq, hne, ih hl]

/-- An anchor is a slug with the number of times it came before. -/
theorem anchor_of_counts {t : Slugs} (h : Counts t.seen) (text : String) :
    t.anchor text =
      (numbered (slug text, t.slugs.count (slug text)),
        t.note (slug text) (t.slugs.count (slug text))) := by
  have hlookup := lookup_of_counts h (slug text)
  simp only [anchor, repeats?, hlookup, slugs]
  split
  · rename_i h₀
    split at h₀
    · rename_i hcount
      simp [hcount, numbered]
    · cases h₀
  · rename_i n hn
    split at hn
    · cases hn
    · rename_i hcount
      cases hn
      obtain ⟨k, hk⟩ := Nat.exists_eq_succ_of_ne_zero hcount
      simp [hk, numbered]

theorem counts_anchor {t : Slugs} (h : Counts t.seen) (text : String) : Counts (t.anchor text).2.seen := by
  rw [anchor_of_counts h]
  exact ⟨rfl, h⟩

theorem issued_anchor {t : Slugs} (h : Counts t.seen) (text : String) :
    (t.anchor text).2.issued = (t.anchor text).1 :: t.issued := by
  rw [anchor_of_counts h]
  rfl

/-- A slug was given out with each number below the times that it came. -/
theorem mem_iff_of_counts {l : List (String × Nat)} (h : Counts l) (s : String) (n : Nat) :
    (s, n) ∈ l ↔ n < (l.map Prod.fst).count s := by
  induction l with
  | nil => simp
  | cons a l ih =>
    obtain ⟨u, k⟩ := a
    obtain ⟨hk, hl⟩ := h
    simp only [List.mem_cons, Prod.mk.injEq, List.map_cons, List.count_cons, ih hl]
    by_cases hs : s = u
    · subst hs
      simp only [true_and, beq_self_eq_true, if_true]
      omega
    · have hne : ¬ u = s := fun e => hs e.symm
      simp [hs, hne]

theorem nodup_of_counts {l : List (String × Nat)} (h : Counts l) : l.Nodup := by
  induction l with
  | nil => exact List.nodup_nil
  | cons a l ih =>
    obtain ⟨s, n⟩ := a
    obtain ⟨hn, hl⟩ := h
    refine List.nodup_cons.2 ⟨fun hmem => ?_, ih hl⟩
    rw [mem_iff_of_counts hl] at hmem
    omega

/-! ## Numbers at the end of an anchor -/

theorem notMem_digits (n : Nat) : '-' ∉ Nat.toDigits 10 n := by
  intro h
  have hd : ('-' : Char).isDigit := Nat.isDigit_of_mem_toDigits (by decide) (by decide) h
  exact absurd hd (by decide)

/-- What follows the last dash tells a text apart from what stands before it. -/
theorem eq_of_append_dash {x y d e : List Char} (hd : '-' ∉ d) (he : '-' ∉ e)
    (h : x ++ '-' :: d = y ++ '-' :: e) : x = y ∧ d = e := by
  rcases List.append_eq_append_iff.1 h with ⟨z, hy, hz⟩ | ⟨z, hx, hz⟩
  · cases z with
    | nil => simp_all
    | cons c z =>
      obtain ⟨-, rfl⟩ := List.cons.inj hz
      exact absurd (by simp) hd
  · cases z with
    | nil => simp_all
    | cons c z =>
      obtain ⟨-, rfl⟩ := List.cons.inj hz
      exact absurd (by simp) he

theorem eq_of_numbered {s u : String} {n k : Nat}
    (h : s ++ "-" ++ toString n = u ++ "-" ++ toString k) : s = u ∧ n = k := by
  have hlist : s.toList ++ '-' :: Nat.toDigits 10 n = u.toList ++ '-' :: Nat.toDigits 10 k := by
    simpa [Nat.toString_eq_repr, Nat.toList_repr] using congrArg String.toList h
  obtain ⟨hs, hn⟩ := eq_of_append_dash (notMem_digits n) (notMem_digits k) hlist
  refine ⟨String.toList_inj.1 hs, ?_⟩
  rw [← Nat.ofDigitChars_ten_toDigits (n := n), hn, Nat.ofDigitChars_ten_toDigits]

/-! ## When anchors differ -/

theorem clashes_of_numbered_eq {t : Slugs} (h : Counts t.seen) {s u : String} {n : Nat}
    (hs : (s, n + 1) ∈ t.seen) (hu : (u, 0) ∈ t.seen) (heq : numbered (s, n + 1) = numbered (u, 0)) :
    t.Clashes := by
  have hcount : n + 1 < t.slugs.count s := (mem_iff_of_counts h s (n + 1)).1 hs
  have hmem : u ∈ t.slugs := List.mem_map_of_mem (f := Prod.fst) hu
  have hu' : s ++ "-" ++ toString (n + 1) = u := heq
  exact ⟨s, n + 1, Nat.succ_pos n, hcount, hu' ▸ hmem⟩

/-- **Anchors are the same exactly where a numbered one is the slug of another heading.** -/
theorem issued_nodup_iff {t : Slugs} (h : Counts t.seen) : t.issued.Nodup ↔ ¬ t.Clashes := by
  rw [issued, List.nodup_map_iff_inj_on (nodup_of_counts h)]
  constructor
  · rintro hinj ⟨s, n, hpos, hn, hmem⟩
    obtain ⟨k, rfl⟩ := Nat.exists_eq_succ_of_ne_zero (Nat.pos_iff_ne_zero.1 hpos)
    have hs : (s, k + 1) ∈ t.seen := (mem_iff_of_counts h s (k + 1)).2 hn
    have hu : (s ++ "-" ++ toString (k + 1), 0) ∈ t.seen :=
      (mem_iff_of_counts h _ 0).2 (List.count_pos_iff.2 hmem)
    have heq := hinj _ hs _ hu rfl
    simp at heq
  · intro hclash x hx y hy heq
    obtain ⟨s, n⟩ := x
    obtain ⟨u, k⟩ := y
    cases n with
    | zero =>
      cases k with
      | zero =>
        have hsu : s = u := heq
        rw [hsu]
      | succ k => exact absurd (clashes_of_numbered_eq h hy hx heq.symm) hclash
    | succ n =>
      cases k with
      | zero => exact absurd (clashes_of_numbered_eq h hx hy heq) hclash
      | succ k =>
        obtain ⟨rfl, hnk⟩ := eq_of_numbered heq
        rw [hnk]

end Marktree.Text.Slugs
