import Marktree.Text.Basic

/-!
# Words and lines

The words of a text are without blanks. Its lines, one more than it has line feeds, are what stands
between these. Dropping the carriage returns before line feeds replaces each `"\r\n"` by a line feed
(`replaced_iff`) and leaves the others alone.
-/
namespace Marktree.Text

theorem forall_pieces (p : Char → Bool) (s : List Char) : ∀ w ∈ pieces p s, ∀ c ∈ w, p c = false := by
  induction s with
  | nil => simp [pieces]
  | cons c s ih =>
    rw [pieces]
    split
    · exact List.forall_mem_cons.2 ⟨by simp, ih⟩
    · rename_i hc
      cases hs : pieces p s with
      | nil => simpa using hc
      | cons w ws =>
        rw [hs] at ih
        obtain ⟨hw, hws⟩ := List.forall_mem_cons.1 ih
        exact List.forall_mem_cons.2 ⟨List.forall_mem_cons.2 ⟨by simpa using hc, hw⟩, hws⟩

theorem length_pieces (p : Char → Bool) (s : List Char) : (pieces p s).length = s.countP p + 1 := by
  induction s with
  | nil => rfl
  | cons c s ih =>
    rw [pieces, List.countP_cons]
    split
    · simp [ih]
    · cases hs : pieces p s with
      | nil => simp [hs] at ih
      | cons w ws => simpa [hs] using ih

/-- Without blanks. -/
def Unbroken (s : String) : Prop :=
  ∀ c ∈ s.toList, isBlank c = false

instance : DecidablePred Unbroken := fun s =>
  List.decidableBAll (fun c => isBlank c = false) s.toList

theorem Unbroken.not_isBlank {s : String} (h : Unbroken s) : ∀ c ∈ s.toList, !isBlank c := by
  simpa [Unbroken] using h

theorem unbroken_of_mem_words {s w : List Char} (h : w ∈ words s) : Unbroken (String.ofList w) := by
  rw [Unbroken, String.toList_ofList]
  exact forall_pieces isBlank s w (List.mem_filter.1 h).1

/-! ## Lines -/

theorem lines_eq_splitOn (s : List Char) : lines s = s.splitOn '\n' := by
  rw [lines, pieces_eq_splitOnP]
  rfl

/-- The lines with line feeds between them are the text. -/
theorem intercalate_lines (s : List Char) : ['\n'].intercalate (lines s) = s := by
  rw [lines_eq_splitOn, List.intercalate_splitOn]

theorem notMem_of_mem_lines {s l : List Char} (h : l ∈ lines s) : '\n' ∉ l := by
  intro hmem
  have hfalse := forall_pieces _ s l h _ hmem
  exact absurd hfalse (by decide)

theorem length_lines (s : List Char) : (lines s).length = s.count '\n' + 1 :=
  length_pieces _ s

theorem lines_ne_nil (s : List Char) : lines s ≠ [] :=
  List.ne_nil_of_length_pos (by rw [length_lines]; exact Nat.succ_pos _)

/-- A line feed after each line is one between each two and one at the end. -/
theorem flatMap_line {ls : List (List Char)} (h : ls ≠ []) :
    ls.flatMap (· ++ ['\n']) = ['\n'].intercalate ls ++ ['\n'] := by
  induction ls with
  | nil => exact absurd rfl h
  | cons l ls ih =>
    by_cases hne : ls = []
    · subst hne
      simp
    · rw [List.flatMap_cons, ih hne, List.intercalate_cons_of_ne_nil hne, List.append_assoc]
      simp

/-- The line feed after the last line is trimmed, and nothing else if no line ends in a blank. -/
theorem trimEndChars_flatMap_line {ls : List (List Char)} (hne : ls ≠ [])
    (h : ∀ l ∈ ls, ∃ c, l.getLast? = some c ∧ isBlank c = false) :
    trimEndChars (ls.flatMap (· ++ ['\n'])) = ['\n'].intercalate ls := by
  have hlast : ∃ c, (['\n'].intercalate ls).getLast? = some c ∧ isBlank c = false := by
    induction ls with
    | nil => exact absurd rfl hne
    | cons l ls ih =>
      obtain ⟨hl, hls⟩ := List.forall_mem_cons.1 h
      by_cases hempty : ls = []
      · subst hempty
        rwa [List.intercalate_singleton]
      · obtain ⟨c, hc, hblank⟩ := ih hempty hls
        rw [List.intercalate_cons_of_ne_nil hempty, List.getLast?_append, hc]
        exact ⟨c, rfl, hblank⟩
  obtain ⟨c, hc, hblank⟩ := hlast
  obtain ⟨t, ht⟩ := List.getLast?_eq_some_iff.1 hc
  rw [flatMap_line hne, ht, trimEndChars]
  simp [show isBlank '\n' = true by decide, hblank]

/-! ## Line ends -/

/-- `t` is `s` with `new` in place of each `old`. -/
def Replaced (old new s t : List Char) : Prop :=
  ∃ ps, ps ≠ [] ∧ (∀ p ∈ ps, ¬old <:+: p) ∧ old.intercalate ps = s ∧ new.intercalate ps = t

theorem normalizeNewlines_cons {c : Char} {s : List Char} (h : ¬['\r', '\n'] <+: c :: s) :
    normalizeNewlines (c :: s) = c :: normalizeNewlines s := by
  rw [normalizeNewlines]
  rintro t rfl rfl
  exact h ⟨t, rfl⟩

/-- What has nothing to drop stays, whatever comes next but a line feed. -/
theorem normalizeNewlines_append {p t : List Char} (hp : ¬['\r', '\n'] <:+: p)
    (ht : t.head? ≠ some '\n') : normalizeNewlines (p ++ t) = p ++ normalizeNewlines t := by
  induction p with
  | nil => rfl
  | cons c p ih =>
    have hcons : ¬['\r', '\n'] <+: c :: (p ++ t) := by
      intro h
      cases p with
      | nil =>
        obtain ⟨rest, hrest⟩ := (List.cons_prefix_cons.1 h).2
        exact ht (by rw [← List.nil_append t, ← hrest]; rfl)
      | cons d p =>
        obtain ⟨rfl, hd⟩ := List.cons_prefix_cons.1 h
        obtain ⟨rfl, -⟩ := List.cons_prefix_cons.1 hd
        exact hp ⟨[], p, rfl⟩
    have hpart : ¬['\r', '\n'] <:+: p := fun h => hp (h.trans (List.suffix_cons c p).isInfix)
    rw [List.cons_append, normalizeNewlines_cons hcons, ih hpart, List.cons_append]

theorem normalizeNewlines_eq_self {s : List Char} (h : ¬['\r', '\n'] <:+: s) :
    normalizeNewlines s = s := by
  have happend := normalizeNewlines_append h (t := []) (by simp)
  rwa [List.append_nil, normalizeNewlines, List.append_nil] at happend

theorem replaced_normalizeNewlines (s : List Char) :
    Replaced ['\r', '\n'] ['\n'] s (normalizeNewlines s) := by
  fun_induction normalizeNewlines s with
  | case1 => exact ⟨[[]], by simp, by simp, rfl, rfl⟩
  | case2 s ih =>
    obtain ⟨ps, hne, hps, hold, hnew⟩ := ih
    refine ⟨[] :: ps, List.cons_ne_nil _ _, List.forall_mem_cons.2 ⟨by simp, hps⟩, ?_, ?_⟩
    · rw [List.intercalate_cons_of_ne_nil hne, hold]
      rfl
    · rw [List.intercalate_cons_of_ne_nil hne, hnew]
      rfl
  | case3 c s hc ih =>
    obtain ⟨ps, hne, hps, hold, hnew⟩ := ih
    obtain ⟨p, ps, rfl⟩ := List.exists_cons_of_ne_nil hne
    obtain ⟨hp, hps⟩ := List.forall_mem_cons.1 hps
    refine ⟨(c :: p) :: ps, List.cons_ne_nil _ _, List.forall_mem_cons.2 ⟨fun hin => ?_, hps⟩, ?_, ?_⟩
    · rcases List.infix_cons_iff.1 hin with hin | hin
      · obtain ⟨rfl, hp⟩ := List.cons_prefix_cons.1 hin
        obtain ⟨q, rfl⟩ := hp
        rw [List.singleton_append, List.intercalate_cons_cons_left] at hold
        exact hc _ rfl hold.symm
      · exact hp hin
    · rw [List.intercalate_cons_cons_left, hold]
    · rw [List.intercalate_cons_cons_left, hnew]

/-- There is one way to replace the line ends of a text. -/
theorem replaced_iff {s t : List Char} :
    Replaced ['\r', '\n'] ['\n'] s t ↔ normalizeNewlines s = t := by
  constructor
  · rintro ⟨ps, -, hps, rfl, rfl⟩
    induction ps with
    | nil => rfl
    | cons p ps ih =>
      obtain ⟨hp, hps⟩ := List.forall_mem_cons.1 hps
      by_cases hne : ps = []
      · subst hne
        rw [List.intercalate_singleton, List.intercalate_singleton, normalizeNewlines_eq_self hp]
      · rw [List.intercalate_cons_of_ne_nil hne, List.intercalate_cons_of_ne_nil hne, List.append_assoc,
          normalizeNewlines_append hp (by simp)]
        simp [normalizeNewlines, ih hps]
  · rintro rfl
    exact replaced_normalizeNewlines s

theorem count_normalizeNewlines (s : List Char) : (normalizeNewlines s).count '\n' = s.count '\n' := by
  fun_induction normalizeNewlines s with
  | case1 => rfl
  | case2 s ih => simp [ih]
  | case3 c s _ ih => rw [List.count_cons, List.count_cons, ih]

/-- A text without `"\r\n"` need not be copied. -/
theorem unixNewlines_eq (s : String) : unixNewlines s = String.ofList (normalizeNewlines s.toList) := by
  unfold unixNewlines
  split
  · rfl
  · rename_i h
    rw [String.contains_string_iff] at h
    rw [normalizeNewlines_eq_self h, String.ofList_toList]

end Marktree.Text
