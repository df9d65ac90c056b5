import Marktree.Destination
import Marktree.Proofs.Text.Letters

/-!
# Schemes of destinations

A destination is judged by the skeleton of its decoded form and followed as it stands. Up to the
first colon that could end a scheme both read the same characters (`isSafe_web`), since nothing that
is decoded or left out stands there.
-/
namespace Marktree.Destination

/-- A destination as it is followed: controls and blanks at its beginning are skipped, tabs and line
ends everywhere. -/
def followed (s : List Char) : List Char :=
  (s.dropWhile fun c => c.toNat ≤ 0x20).filter fun c => !(c == '\t' || c == '\n' || c == '\r')

/-- If a destination names a scheme made of letters and digits, it is one of the schemes of the web. -/
def Web (s : List Char) : Prop :=
  ∀ scheme rest : List Char, followed s = scheme ++ ':' :: rest → scheme ≠ [] →
    (∀ c ∈ scheme, c.isAlphanum) →
      scheme.map Char.toLower = "http".toList ∨ scheme.map Char.toLower = "https".toList

/-! ## Decoding -/

/-- A character that decoding leaves alone. -/
def Literal (c : Char) : Prop :=
  c.toNat < 128 ∧ c ≠ '%'

theorem utf8EncodeChar_of_lt {c : Char} (h : c.toNat < 128) :
    String.utf8EncodeChar c = [c.toNat.toUInt8] := by
  simp [String.utf8EncodeChar]
  omega

theorem bytes_cons {c : Char} (h : Literal c) (s : List Char) :
    Text.Percent.bytes (c :: s) = c.toNat.toUInt8 :: Text.Percent.bytes s := by
  rw [Text.Percent.bytes, utf8EncodeChar_of_lt h.1]
  · rfl
  · intro a b cs hc
    exact absurd hc h.2

theorem utf8_decode?_cons {b : UInt8} (h : b < 0x80) (bs : List UInt8) :
    Text.Utf8.decode? (b :: bs) = (Text.Utf8.decode? bs).map (Char.ofNat b.toNat :: ·) := by
  rw [Text.Utf8.decode?.eq_def]
  simp only [h, if_true]
  cases Text.Utf8.decode? bs <;> rfl

theorem decode?_cons {c : Char} (h : Literal c) (s : List Char) :
    Text.Percent.decode? (c :: s) = (Text.Percent.decode? s).map (c :: ·) := by
  have hn : c.toNat.toUInt8.toNat = c.toNat := Nat.mod_eq_of_lt (by have := h.1; omega)
  have hlt : c.toNat.toUInt8 < 0x80 := by
    rw [UInt8.lt_iff_toNat_lt, hn]
    exact h.1
  rw [Text.Percent.decode?, bytes_cons h, utf8_decode?_cons hlt, hn, Char.ofNat_toNat]
  rfl

/-- Decoding leaves alone what stands before the first percent sign, if it is ASCII. -/
theorem decode?_append {a : List Char} (h : ∀ c ∈ a, Literal c) (b : List Char) :
    Text.Percent.decode? (a ++ b) = (Text.Percent.decode? b).map (a ++ ·) := by
  induction a with
  | nil => simp
  | cons c a ih =>
    obtain ⟨hc, ha⟩ := List.forall_mem_cons.1 h
    rw [List.cons_append, decode?_cons hc, ih ha, Option.map_map]
    rfl

/-! ## The skeleton -/

theorem skeleton_append (a b : List Char) : skeleton (a ++ b) = skeleton a ++ skeleton b := by
  simp [skeleton]

/-- Words without colons before colons are the same if one begins the other. -/
theorem eq_of_colon {a b u : List Char} (ha : ':' ∉ a) (hb : ':' ∉ b)
    (h : a ++ [':'] <+: b ++ ':' :: u) : a = b := by
  have cut {w : List Char} (hw : ':' ∉ w) (v : List Char) :
      (w ++ ':' :: v).takeWhile (· != ':') = w := by
    rw [List.takeWhile_append_of_pos]
    · simp
    · intro c hc
      rw [bne_iff_ne]
      rintro rfl
      exact hw hc
  obtain ⟨v, hv⟩ := h
  rw [List.append_assoc, List.singleton_append] at hv
  rw [← cut ha v, hv, cut hb]

theorem isWeb_colon {scheme : List Char} (hs : ∀ c ∈ scheme, c.isAlphanum) {u : List Char}
    (h : "http:".toList <+: scheme.map Char.toLower ++ ':' :: u ∨
      "https:".toList <+: scheme.map Char.toLower ++ ':' :: u) :
    scheme.map Char.toLower = "http".toList ∨ scheme.map Char.toLower = "https".toList := by
  have hcolon : ':' ∉ scheme.map Char.toLower := by
    intro hm
    obtain ⟨c, hc, he⟩ := List.mem_map.1 hm
    have := Text.isAlphanum_toLower (hs c hc)
    rw [he] at this
    exact absurd this (by decide)
  rcases h with h | h
  · exact Or.inl (eq_of_colon (a := "http".toList) (by decide) hcolon h).symm
  · exact Or.inr (eq_of_colon (a := "https".toList) (by decide) hcolon h).symm

/-! ## What is followed -/

/-- A character that is skipped nowhere. -/
def visible (c : Char) : Bool :=
  0x20 < c.toNat

theorem visible_of_isAlphanum {c : Char} (h : c.isAlphanum) : visible c := by
  rw [Text.isAlphanum_iff] at h
  rw [visible, decide_eq_true_iff]
  omega

theorem visible_of_isSchemeChar {c : Char} (h : isSchemeChar c) : visible c := by
  simp only [isSchemeChar, Bool.or_eq_true, beq_iff_eq] at h
  rcases h with (h | rfl) | rfl
  · exact visible_of_isAlphanum h
  · decide
  · decide

theorem filter_visible_dropWhile (s : List Char) :
    (s.dropWhile fun c => c.toNat ≤ 0x20).filter visible = s.filter visible := by
  induction s with
  | nil => rfl
  | cons c s ih =>
    by_cases hc : c.toNat ≤ 0x20
    · have hv : ¬visible c := by rw [visible, decide_eq_true_iff]; omega
      rw [List.dropWhile_cons_of_pos (by simpa using hc), ih, List.filter_cons_of_neg hv]
    · rw [List.dropWhile_cons_of_neg (by simpa using hc)]

/-- What is skipped is not visible. -/
theorem filter_visible_followed (s : List Char) : (followed s).filter visible = s.filter visible := by
  rw [followed, List.filter_filter, ← filter_visible_dropWhile]
  refine List.filter_congr fun c _ => ?_
  by_cases hv : visible c
  · have hne : c ≠ '\t' ∧ c ≠ '\n' ∧ c ≠ '\r' := by
      refine ⟨?_, ?_, ?_⟩ <;> rintro rfl <;> revert hv <;> decide
    simp [hv, hne]
  · simp [hv]

theorem skeleton_filter_visible (s : List Char) : skeleton (s.filter visible) = skeleton s := by
  rw [skeleton, skeleton, List.filter_filter]
  congr 1
  refine List.filter_congr fun c _ => ?_
  by_cases hc : isSchemeChar c
  · simp [hc, visible_of_isSchemeChar hc]
  · simp [hc]

/-- A scheme that is followed stands in the destination, with nothing visible in between. -/
theorem exists_of_followed {s scheme rest : List Char} (h : followed s = scheme ++ ':' :: rest)
    (hs : ∀ c ∈ scheme, c.isAlphanum) : ∃ a b, s = a ++ ':' :: b ∧ a.filter visible = scheme := by
  have hv := filter_visible_followed s
  rw [h, List.filter_append, List.filter_cons_of_pos (by decide),
    List.filter_eq_self.2 fun c hc => visible_of_isAlphanum (hs c hc)] at hv
  obtain ⟨a, t, rfl, ha, ht⟩ := List.filter_eq_append_iff.1 hv.symm
  obtain ⟨m, b, rfl, hm, -, -⟩ := List.filter_eq_cons_iff.1 ht
  refine ⟨a ++ m, b, by rw [List.append_assoc], ?_⟩
  rw [List.filter_append, ha, List.filter_eq_nil_iff.2 hm, List.append_nil]

theorem literal_of_followed {scheme a : List Char} (ha : a.filter visible = scheme)
    (hs : ∀ c ∈ scheme, c.isAlphanum) : ∀ c ∈ a, Literal c := by
  intro c hc
  by_cases hv : visible c
  · have hm : c.isAlphanum := hs c (ha ▸ List.mem_filter.2 ⟨hc, hv⟩)
    have hn := Text.isAlphanum_iff.1 hm
    refine ⟨by omega, ?_⟩
    rintro rfl
    exact absurd hm (by decide)
  · rw [visible, decide_eq_true_iff] at hv
    refine ⟨by omega, ?_⟩
    rintro rfl
    exact absurd hv (by decide)

/-- **What may be followed names no scheme but those of the web.** -/
theorem web_of_isSafe {s : List Char} (h : isSafe s) : Web s := by
  intro scheme rest hs _ hscheme
  obtain ⟨a, b, rfl, ha⟩ := exists_of_followed hs hscheme
  have hskeleton : skeleton a = scheme.map Char.toLower := by
    rw [← skeleton_filter_visible, ha, skeleton, List.filter_eq_self.2]
    intro c hc
    simp [isSchemeChar, hscheme c hc]
  have hcolon : Literal ':' := ⟨by decide, by decide⟩
  rw [isSafe, decode?_append (literal_of_followed ha hscheme), decode?_cons hcolon, Option.map_map,
    Option.any_map] at h
  obtain ⟨t, -, ht⟩ := (Option.any_eq_true _ _).1 h
  refine isWeb_colon hscheme (u := skeleton t) ?_
  have ht' : skeleton (a ++ ':' :: t) = scheme.map Char.toLower ++ ':' :: skeleton t := by
    rw [skeleton_append, hskeleton]
    rfl
  rw [← ht', ← List.isPrefixOf_iff_prefix, ← List.isPrefixOf_iff_prefix, ← Bool.or_eq_true_iff]
  exact ht

end Marktree.Destination
