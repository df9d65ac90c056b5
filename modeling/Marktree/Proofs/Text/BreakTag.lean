import Marktree.Text.BreakTag
import Marktree.Proofs.Text.Letters

/-!
# Break tags and what is left of them

Every break tag of a text becomes an empty line, in whatever surroundings it stands
(`partBreaks_append_tag`). The empty line is made of blanks, and a break tag may hold blanks; so where a
tag stood inside of another one, a new tag is left. These are the only tags that are left
(`hasTag_partBreaks_iff`), and a text is left as it is exactly if there is no tag in it
(`partBreaks_eq_self_iff`).
-/
namespace Marktree.Text

/-! ## What a break tag is -/

/-- A letter in either case is lowered to the same one. -/
theorem toLower_eq_iff {c lower upper : Char} (hu : upper.isUpper) (h : upper.toLower = lower) :
    c.toLower = lower ↔ c = lower ∨ c = upper := by
  have hsum := toNat_toLower_of_isUpper hu
  rw [h] at hsum
  have hrange := isUpper_iff.1 hu
  by_cases hc : c.isUpper
  · have hcsum := toNat_toLower_of_isUpper hc
    have hcrange := isUpper_iff.1 hc
    rw [← Char.toNat_inj, ← Char.toNat_inj, ← Char.toNat_inj, hcsum]
    omega
  · rw [Char.toLower_eq_of_not_isUpper hc]
    constructor
    · exact .inl
    · rintro (rfl | rfl)
      · rfl
      · exact absurd hu hc

/-- Blanks alone. -/
def Blanks (w : List Char) : Prop :=
  ∀ c ∈ w, isBlank c

/-- The bracket that a tag ends in, or a slash before it. -/
def Ending (e : List Char) : Prop :=
  e = ['>'] ∨ e = ['/', '>']

/-- `<br` in any case, something inside, and the end. -/
def Tag (Inside : List Char → Prop) (t : List Char) : Prop :=
  ∃ b r w e, (b = 'b' ∨ b = 'B') ∧ (r = 'r' ∨ r = 'R') ∧ Inside w ∧ Ending e ∧ t = '<' :: b :: r :: (w ++ e)

/-- Blanks and break tags, one after another. -/
inductive Filling : List Char → Prop
  | nil : Filling []
  | blank {c : Char} {w : List Char} (hc : isBlank c) (hw : Filling w) : Filling (c :: w)
  | tag {t w : List Char} (ht : Tag Blanks t) (hw : Filling w) : Filling (t ++ w)

/-- Inside of the tag stands another one, or more of them, beside blanks. -/
def Nests (w : List Char) : Prop :=
  Filling w ∧ ¬ Blanks w

/-- A break tag stands somewhere in a text. -/
def HasTag (s : List Char) : Prop :=
  ∃ t, Tag Blanks t ∧ t <:+: s

/-- A break tag with others inside of it stands somewhere in a text. -/
def HasNest (s : List Char) : Prop :=
  ∃ t, Tag Nests t ∧ t <:+: s

theorem isBlank_lt : isBlank '<' = false := by decide

theorem Ending.cons {e : List Char} (h : Ending e) : ∃ d e', e = d :: e' ∧ isBlank d = false := by
  rcases h with rfl | rfl
  · exact ⟨'>', [], rfl, by decide⟩
  · exact ⟨'/', ['>'], rfl, by decide⟩

theorem Ending.lt_notMem {e : List Char} (h : Ending e) : '<' ∉ e := by
  rcases h with rfl | rfl <;> decide

theorem Blanks.lt_notMem {w : List Char} (h : Blanks w) : '<' ∉ w := by
  intro hmem
  have hblank := h _ hmem
  rw [isBlank_lt] at hblank
  cases hblank

theorem isBlank_of_b {b : Char} (h : b = 'b' ∨ b = 'B') : isBlank b = false := by
  rcases h with rfl | rfl <;> decide

theorem isBlank_of_r {r : Char} (h : r = 'r' ∨ r = 'R') : isBlank r = false := by
  rcases h with rfl | rfl <;> decide

/-- After its first character a break tag has no opening bracket. -/
theorem exists_of_tag {t : List Char} (h : Tag Blanks t) : ∃ u, t = '<' :: u ∧ '<' ∉ u ∧ 3 ≤ u.length := by
  obtain ⟨b, r, w, e, hb, hr, hw, he, rfl⟩ := h
  refine ⟨_, rfl, ?_, ?_⟩
  · have hwlt := hw.lt_notMem
    have helt := he.lt_notMem
    rcases hb with rfl | rfl <;> rcases hr with rfl | rfl <;> simp [hwlt, helt]
  · obtain ⟨d, e', rfl, -⟩ := he.cons
    simp only [List.length_cons, List.length_append]
    omega

/-! ## Reading one tag -/

theorem dropWhile_blanks {w e rest : List Char} (hw : Blanks w) (he : Ending e) :
    (w ++ e ++ rest).dropWhile isBlank = e ++ rest := by
  obtain ⟨d, e', rfl, hd⟩ := he.cons
  rw [List.append_assoc, List.dropWhile_append_of_pos hw]
  simp [hd]

/-- **Break tags are recognised**, whatever follows them. -/
theorem breakTag?_eq_some_iff {s rest : List Char} :
    breakTag? s = some rest ↔ ∃ t, Tag Blanks t ∧ s = t ++ rest := by
  have hb (b : Char) : b.toLower = 'b' ↔ b = 'b' ∨ b = 'B' := toLower_eq_iff (by decide) (by decide)
  have hr (r : Char) : r.toLower = 'r' ↔ r = 'r' ∨ r = 'R' := toLower_eq_iff (by decide) (by decide)
  constructor
  · intro h
    unfold breakTag? at h
    split at h
    · rename_i b r cs
      have hcs := List.takeWhile_append_dropWhile (p := isBlank) (l := cs)
      have hblanks : Blanks (cs.takeWhile isBlank) := List.all_eq_true.1 List.all_takeWhile
      split at h
      · rename_i hletters
        rw [Bool.and_eq_true, decide_eq_true_iff, decide_eq_true_iff, hb, hr] at hletters
        split at h
        · rename_i rest' hdrop
          cases h
          rw [hdrop] at hcs
          refine ⟨_, ⟨b, r, _, ['/', '>'], hletters.1, hletters.2, hblanks, .inr rfl, rfl⟩, ?_⟩
          simpa using hcs.symm
        · rename_i rest' hdrop
          cases h
          rw [hdrop] at hcs
          refine ⟨_, ⟨b, r, _, ['>'], hletters.1, hletters.2, hblanks, .inl rfl, rfl⟩, ?_⟩
          simpa using hcs.symm
        · cases h
      · cases h
    · cases h
  · rintro ⟨t, ⟨b, r, w, e, hb', hr', hw, he, rfl⟩, rfl⟩
    have hletters : (b.toLower = 'b' && r.toLower = 'r') = true := by
      rw [Bool.and_eq_true, decide_eq_true_iff, decide_eq_true_iff, hb, hr]
      exact ⟨hb', hr'⟩
    have hdrop : (w ++ e ++ rest).dropWhile isBlank = e ++ rest := dropWhile_blanks hw he
    simp only [List.cons_append]
    rw [breakTag?, if_pos hletters, hdrop]
    rcases he with rfl | rfl <;> rfl

theorem breakTag?_of_ne {c : Char} (hc : c ≠ '<') (s : List Char) : breakTag? (c :: s) = none := by
  refine Option.eq_none_iff_forall_ne_some.2 fun rest h => ?_
  obtain ⟨t, ht, he⟩ := breakTag?_eq_some_iff.1 h
  obtain ⟨u, rfl, -, -⟩ := exists_of_tag ht
  exact hc (List.cons.inj he).1

/-- What would have to be blank up to the end of the tag is another opening bracket. -/
theorem breakTag?_of_opening {b r : Char} {w s : List Char} (hw : Blanks w) :
    breakTag? ('<' :: b :: r :: (w ++ '<' :: s)) = none := by
  have hdrop : (w ++ '<' :: s).dropWhile isBlank = '<' :: s := by
    rw [List.dropWhile_append_of_pos hw]
    simp [isBlank_lt]
  rw [breakTag?, hdrop]
  split <;> rfl

/-! ## Parting a text -/

@[simp] theorem partBreaks_nil : partBreaks [] = [] := by
  rw [partBreaks]
  rfl

theorem partBreaks_tag {t : List Char} (ht : Tag Blanks t) (rest : List Char) :
    partBreaks (t ++ rest) = '\n' :: '\n' :: partBreaks rest := by
  have hread : breakTag? (t ++ rest) = some rest := breakTag?_eq_some_iff.2 ⟨t, ht, rfl⟩
  rw [partBreaks]
  split
  · rename_i rest' h
    rw [hread] at h
    cases h
    rfl
  · rename_i h
    rw [hread] at h
    cases h

theorem partBreaks_cons {c : Char} {cs : List Char} (h : breakTag? (c :: cs) = none) :
    partBreaks (c :: cs) = c :: partBreaks cs := by
  rw [partBreaks]
  split
  · rename_i rest h'
    rw [h] at h'
    cases h'
  · rfl

theorem partBreaks_append_of_notMem {w : List Char} (hw : '<' ∉ w) (s : List Char) :
    partBreaks (w ++ s) = w ++ partBreaks s := by
  induction w with
  | nil => rfl
  | cons c w ih =>
    obtain ⟨hc, hrest⟩ := not_or.1 (mt List.mem_cons.2 hw)
    rw [List.cons_append, partBreaks_cons (breakTag?_of_ne (Ne.symm hc) _), ih hrest, List.cons_append]

/-- No break tag reaches over an opening bracket. -/
theorem partBreaks_append_lt (x y : List Char) :
    partBreaks (x ++ '<' :: y) = partBreaks x ++ partBreaks ('<' :: y) := by
  fun_induction partBreaks x with
  | case1 s rest h ih =>
    obtain ⟨t, ht, rfl⟩ := breakTag?_eq_some_iff.1 h
    rw [List.append_assoc, partBreaks_tag ht, ih]
    rfl
  | case2 h => rfl
  | case3 c cs h ih =>
    have hnone : breakTag? (c :: (cs ++ '<' :: y)) = none := by
      refine Option.eq_none_iff_forall_ne_some.2 fun rest hsome => ?_
      obtain ⟨t, ht, he⟩ := breakTag?_eq_some_iff.1 hsome
      obtain ⟨u, rfl, hu, -⟩ := exists_of_tag ht
      have he : (c :: cs) ++ '<' :: y = ('<' :: u) ++ rest := he
      rcases List.append_eq_append_iff.1 he with ⟨as, has, hy⟩ | ⟨bs, hbs, -⟩
      · cases as with
        | nil =>
          rw [List.append_nil] at has
          have htag : breakTag? (c :: cs) = some [] :=
            breakTag?_eq_some_iff.2 ⟨_, ht, by rw [has, List.append_nil]⟩
          rw [h] at htag
          cases htag
        | cons a as =>
          obtain ⟨rfl, -⟩ := List.cons.inj hy
          obtain ⟨-, rfl⟩ := List.cons.inj has
          exact hu (by simp)
      · have htag : breakTag? (c :: cs) = some bs := breakTag?_eq_some_iff.2 ⟨_, ht, hbs⟩
        rw [h] at htag
        cases htag
    rw [List.cons_append, partBreaks_cons hnone, ih]
    rfl

/-- **Every break tag becomes an empty line**, wherever it stands. -/
theorem partBreaks_append_tag {t : List Char} (ht : Tag Blanks t) (before after : List Char) :
    partBreaks (before ++ (t ++ after)) = partBreaks before ++ '\n' :: '\n' :: partBreaks after := by
  rw [← partBreaks_tag ht]
  obtain ⟨u, rfl, -, -⟩ := exists_of_tag ht
  exact partBreaks_append_lt before (u ++ after)

/-! ## Nested tags -/

/-- Blanks and tags become blanks. -/
theorem Filling.partBreaks {w : List Char} (h : Filling w) :
    ∃ w', Blanks w' ∧ ∀ s, Text.partBreaks (w ++ s) = w' ++ Text.partBreaks s := by
  induction h with
  | nil => exact ⟨[], by simp [Blanks], fun s => rfl⟩
  | @blank c w hc _ ih =>
    obtain ⟨w', hw', hparts⟩ := ih
    have hne : c ≠ '<' := by
      rintro rfl
      rw [isBlank_lt] at hc
      cases hc
    refine ⟨c :: w', List.forall_mem_cons.2 ⟨hc, hw'⟩, fun s => ?_⟩
    rw [List.cons_append, partBreaks_cons (breakTag?_of_ne hne _), hparts, List.cons_append]
  | @tag t w ht _ ih =>
    obtain ⟨w', hw', hparts⟩ := ih
    have hnewline : isBlank '\n' = true := by decide
    refine ⟨'\n' :: '\n' :: w', List.forall_mem_cons.2 ⟨hnewline, List.forall_mem_cons.2 ⟨hnewline, hw'⟩⟩,
      fun s => ?_⟩
    rw [List.append_assoc, partBreaks_tag ht, hparts]
    rfl

/-- What is not blank in it begins with a tag. -/
theorem Filling.opening {w : List Char} (h : Filling w) (hw : ¬ Blanks w) :
    ∃ w₁ w₂, w = w₁ ++ '<' :: w₂ ∧ Blanks w₁ := by
  induction h with
  | nil => exact absurd (by simp [Blanks]) hw
  | @blank c w hc _ ih =>
    have hrest : ¬ Blanks w := fun hrest => hw (List.forall_mem_cons.2 ⟨hc, hrest⟩)
    obtain ⟨w₁, w₂, rfl, hw₁⟩ := ih hrest
    exact ⟨c :: w₁, w₂, rfl, List.forall_mem_cons.2 ⟨hc, hw₁⟩⟩
  | @tag t w ht _ _ =>
    obtain ⟨u, rfl, -, -⟩ := exists_of_tag ht
    exact ⟨[], u ++ w, rfl, by simp [Blanks]⟩

/-- A nest leaves a tag. -/
theorem hasTag_partBreaks {s : List Char} (h : HasNest s) : HasTag (partBreaks s) := by
  obtain ⟨t, ⟨b, r, w, e, hb, hr, ⟨hfilling, hblanks⟩, he, rfl⟩, before, after, rfl⟩ := h
  obtain ⟨w', hw', hparts⟩ := hfilling.partBreaks
  obtain ⟨w₁, w₂, rfl, hw₁⟩ := hfilling.opening hblanks
  -- the tag around is not read: after its blanks another one opens
  have houter : partBreaks ('<' :: b :: r :: (w₁ ++ '<' :: w₂ ++ e ++ after)) =
      '<' :: b :: r :: (w' ++ e) ++ partBreaks after := by
    have hnone : breakTag? ('<' :: b :: r :: (w₁ ++ '<' :: w₂ ++ e ++ after)) = none := by
      rw [List.append_assoc, List.append_assoc, List.cons_append]
      exact breakTag?_of_opening hw₁
    have hbr : '<' ∉ [b, r] := by
      rcases hb with rfl | rfl <;> rcases hr with rfl | rfl <;> decide
    have hletters := partBreaks_append_of_notMem hbr (w₁ ++ '<' :: w₂ ++ e ++ after)
    rw [partBreaks_cons hnone]
    simp only [List.cons_append, List.nil_append] at hletters
    rw [hletters, List.append_assoc, hparts, partBreaks_append_of_notMem he.lt_notMem]
    simp
  refine ⟨'<' :: b :: r :: (w' ++ e), ⟨b, r, w', e, hb, hr, hw', he, rfl⟩, partBreaks before,
    partBreaks after, ?_⟩
  have hsplit := partBreaks_append_lt before (b :: r :: (w₁ ++ '<' :: w₂ ++ e ++ after))
  rw [houter] at hsplit
  rw [List.append_assoc, ← hsplit]
  simp

/-- What is left in front of a character that is no blank was there before it, with tags as blanks. -/
theorem exists_filling {s w v : List Char} {d : Char} (h : partBreaks s = w ++ d :: v) (hw : Blanks w)
    (hd : isBlank d = false) : ∃ w' s', s = w' ++ d :: s' ∧ Filling w' ∧ partBreaks s' = v := by
  have hnewline : isBlank '\n' = true := by decide
  fun_induction partBreaks s generalizing w with
  | case1 s rest hread ih =>
    obtain ⟨t, ht, rfl⟩ := breakTag?_eq_some_iff.1 hread
    -- the two line feeds are blank, so they are the first of the blanks
    match w with
    | [] =>
      obtain ⟨rfl, -⟩ := List.cons.inj h
      rw [hnewline] at hd
      cases hd
    | [_] =>
      obtain ⟨-, h⟩ := List.cons.inj h
      obtain ⟨rfl, -⟩ := List.cons.inj h
      rw [hnewline] at hd
      cases hd
    | _ :: _ :: w =>
      obtain ⟨-, h⟩ := List.cons.inj h
      obtain ⟨-, h⟩ := List.cons.inj h
      obtain ⟨-, hw⟩ := List.forall_mem_cons.1 hw
      obtain ⟨-, hw⟩ := List.forall_mem_cons.1 hw
      obtain ⟨w', s', rfl, hfilling, hs'⟩ := ih h hw
      exact ⟨t ++ w', s', by rw [List.append_assoc], .tag ht hfilling, hs'⟩
  | case2 hread => simp at h
  | case3 c cs hread ih =>
    cases w with
    | nil =>
      obtain ⟨rfl, hrest⟩ := List.cons.inj h
      exact ⟨[], cs, rfl, .nil, hrest⟩
    | cons a w =>
      obtain ⟨rfl, hrest⟩ := List.cons.inj h
      obtain ⟨hc, hw⟩ := List.forall_mem_cons.1 hw
      obtain ⟨w', s', rfl, hfilling, hs'⟩ := ih hrest hw
      exact ⟨c :: w', s', rfl, .blank hc hfilling, hs'⟩

/-- A character that is no blank and not in front of a tag was there before. -/
theorem exists_of_partBreaks_cons {s v : List Char} {d : Char} (h : partBreaks s = d :: v)
    (hd : isBlank d = false) : ∃ s', s = d :: s' ∧ partBreaks s' = v := by
  have hnewline : isBlank '\n' = true := by decide
  fun_cases partBreaks s with
  | case1 _ rest hread =>
    obtain ⟨t, ht, rfl⟩ := breakTag?_eq_some_iff.1 hread
    rw [partBreaks_tag ht] at h
    obtain ⟨rfl, -⟩ := List.cons.inj h
    rw [hnewline] at hd
    cases hd
  | case2 hread => simp at h
  | case3 c cs hread =>
    rw [partBreaks_cons hread] at h
    obtain ⟨rfl, hrest⟩ := List.cons.inj h
    exact ⟨cs, rfl, hrest⟩

/-- The letters and the end of a tag that is left were there before, with blanks and tags between them. -/
theorem tag_of_partBreaks {s after : List Char} {b r : Char} {w e : List Char} (hb : b = 'b' ∨ b = 'B')
    (hr : r = 'r' ∨ r = 'R') (hw : Blanks w) (he : Ending e)
    (h : partBreaks s = b :: r :: (w ++ e ++ after)) :
    ∃ w' s', s = b :: r :: (w' ++ e ++ s') ∧ Filling w' := by
  obtain ⟨s₁, rfl, h₁⟩ := exists_of_partBreaks_cons h (isBlank_of_b hb)
  obtain ⟨s₂, rfl, h₂⟩ := exists_of_partBreaks_cons h₁ (isBlank_of_r hr)
  rcases he with rfl | rfl
  · obtain ⟨w', s', rfl, hfilling, -⟩ :=
      exists_filling (d := '>') (v := after) (by simpa using h₂) hw (by decide)
    exact ⟨w', s', by simp, hfilling⟩
  · obtain ⟨w', s', rfl, hfilling, hs'⟩ :=
      exists_filling (d := '/') (v := '>' :: after) (by simpa using h₂) hw (by decide)
    obtain ⟨s'', rfl, -⟩ := exists_of_partBreaks_cons hs' (by decide)
    exact ⟨w', s'', by simp, hfilling⟩

/-- Only a nest leaves a tag. -/
theorem hasNest_of_partBreaks {s : List Char} (h : HasTag (partBreaks s)) : HasNest s := by
  obtain ⟨t, ht, hin⟩ := h
  obtain ⟨u, hu, -, -⟩ := exists_of_tag ht
  have hnot (c : Char) (cs : List Char) (hc : c ≠ '<') : ¬ t <+: c :: cs := by
    rintro ⟨rest, he⟩
    rw [hu] at he
    exact hc (List.cons.inj he).1.symm
  fun_induction partBreaks s with
  | case1 s rest hread ih =>
    rcases List.infix_cons_iff.1 hin with hfront | hin
    · exact absurd hfront (hnot _ _ (by decide))
    · rcases List.infix_cons_iff.1 hin with hfront | hin
      · exact absurd hfront (hnot _ _ (by decide))
      · obtain ⟨t', ht', hin'⟩ := ih hin
        obtain ⟨t₀, -, rfl⟩ := breakTag?_eq_some_iff.1 hread
        exact ⟨t', ht', hin'.trans (List.suffix_append t₀ rest).isInfix⟩
  | case2 hread =>
    have hnil := List.eq_nil_of_infix_nil hin
    rw [hu] at hnil
    cases hnil
  | case3 c cs hread ih =>
    rcases List.infix_cons_iff.1 hin with ⟨after, hfront⟩ | hin
    · obtain ⟨b, r, w, e, hb, hr, hw, he, rfl⟩ := ht
      obtain ⟨rfl, hrest⟩ := List.cons.inj hfront
      have hrest : partBreaks cs = b :: r :: (w ++ e ++ after) := by simpa using hrest.symm
      obtain ⟨w', s', rfl, hfilling⟩ := tag_of_partBreaks hb hr hw he hrest
      have hnest : ¬ Blanks w' := by
        intro hblanks
        have hsome : breakTag? ('<' :: b :: r :: (w' ++ e ++ s')) = some s' :=
          breakTag?_eq_some_iff.2 ⟨_, ⟨b, r, w', e, hb, hr, hblanks, he, rfl⟩, by simp⟩
        rw [hread] at hsome
        cases hsome
      refine ⟨'<' :: b :: r :: (w' ++ e), ⟨b, r, w', e, hb, hr, ⟨hfilling, hnest⟩, he, rfl⟩, [], s', ?_⟩
      simp
    · obtain ⟨t', ht', hin'⟩ := ih hin
      exact ⟨t', ht', List.infix_cons hin'⟩

/-- **The tags that are left** are those that had others inside of them. -/
theorem hasTag_partBreaks_iff {s : List Char} : HasTag (partBreaks s) ↔ HasNest s :=
  ⟨hasNest_of_partBreaks, hasTag_partBreaks⟩

/-! ## Texts without tags -/

theorem length_partBreaks_le (s : List Char) : (partBreaks s).length ≤ s.length := by
  fun_induction partBreaks s with
  | case1 s rest hread ih =>
    obtain ⟨t, ht, rfl⟩ := breakTag?_eq_some_iff.1 hread
    obtain ⟨u, rfl, -, hu⟩ := exists_of_tag ht
    simp only [List.length_cons, List.length_append]
    omega
  | case2 hread => exact Nat.le_refl _
  | case3 c cs hread ih =>
    simp only [List.length_cons]
    omega

/-- A tag is longer than an empty line. -/
theorem length_partBreaks_lt {s : List Char} (h : HasTag s) : (partBreaks s).length < s.length := by
  obtain ⟨t, ht, before, after, rfl⟩ := h
  have hbefore := length_partBreaks_le before
  have hafter := length_partBreaks_le after
  rw [List.append_assoc, partBreaks_append_tag ht]
  obtain ⟨u, rfl, -, hu⟩ := exists_of_tag ht
  simp only [List.length_cons, List.length_append]
  omega

/-- **A text is left as it is** exactly if no break tag stands in it. -/
theorem partBreaks_eq_self_iff {s : List Char} : partBreaks s = s ↔ ¬ HasTag s := by
  constructor
  · intro h htag
    have hlt := length_partBreaks_lt htag
    rw [h] at hlt
    exact Nat.lt_irrefl _ hlt
  · intro h
    fun_induction partBreaks s with
    | case1 s rest hread ih =>
      obtain ⟨t, ht, rfl⟩ := breakTag?_eq_some_iff.1 hread
      exact absurd ⟨t, ht, (List.prefix_append t rest).isInfix⟩ h
    | case2 hread => rfl
    | case3 c cs hread ih =>
      rw [ih fun ⟨t, ht, hin⟩ => h ⟨t, ht, List.infix_cons hin⟩]

end Marktree.Text
