import Marktree.Text.Quoted
import Marktree.Proofs.Text.Digits

/-!
# Quoted text is told apart

A quoted text tells where it ends and which text it quotes, whatever comes after it
(`eq_of_quote_append`), and it has no line feed.
-/
namespace Marktree.Text

/-- What is written tells where it ends and what it stands for, whatever comes after it. -/
def PrefixFree {α : Type} (f : α → List Char) : Prop :=
  ∀ ⦃a b x y⦄, f a ++ x = f b ++ y → a = b ∧ x = y

/-- A run of characters of a class ends where another character follows or nothing. -/
theorem eq_of_append_run {p : Char → Bool} {u v x y : List Char} (hu : ∀ c ∈ u, p c) (hv : ∀ c ∈ v, p c)
    (hx : ∀ c ∈ x.head?, p c = false) (hy : ∀ c ∈ y.head?, p c = false) (h : u ++ x = v ++ y) :
    u = v ∧ x = y := by
  have run {u x : List Char} (hu : ∀ c ∈ u, p c) (hx : ∀ c ∈ x.head?, p c = false) :
      (u ++ x).takeWhile p = u := by
    rw [List.takeWhile_append_of_pos hu]
    cases x with
    | nil => exact List.append_nil u
    | cons c x => rw [List.takeWhile_cons_of_neg (by simp [hx c rfl]), List.append_nil]
  have huv : u = v := by rw [← run hu hx, h, run hv hy]
  subst huv
  exact ⟨rfl, List.append_cancel_left h⟩

namespace Quoted

/-- The characters with an escape of their own, and its letter. -/
def escapes : List (Char × Char) :=
  [('0', '\x00'), ('t', '\t'), ('r', '\r'), ('n', '\n'), ('"', '"'), ('\\', '\\')]

/-- A character has an escape of its own or is written as its code point; all others stand for
themselves. -/
theorem quoteChar_spec (c : Char) :
    (∃ k, quoteChar c = ['\\', k] ∧ (k, c) ∈ escapes) ∨ quoteChar c = codePoint c ∨
      quoteChar c = [c] ∧ c ≠ '\\' ∧ c ≠ '"' ∧ c ≠ '\n' := by
  unfold quoteChar
  split
  · exact .inl ⟨'0', rfl, by decide⟩
  · exact .inl ⟨'t', rfl, by decide⟩
  · exact .inl ⟨'r', rfl, by decide⟩
  · exact .inl ⟨'n', rfl, by decide⟩
  · exact .inl ⟨'"', rfl, by decide⟩
  · exact .inl ⟨'\\', rfl, by decide⟩
  · rename_i hnewline hquote hbackslash
    split
    · exact .inr (.inl rfl)
    · exact .inr (.inr ⟨rfl, hbackslash, hquote, hnewline⟩)

theorem eq_of_mem_escapes {k c d : Char} (hc : (k, c) ∈ escapes) (hd : (k, d) ∈ escapes) : c = d := by
  have hall : ∀ p ∈ escapes, ∀ q ∈ escapes, p.1 = q.1 → p.2 = q.2 := by decide
  exact hall _ hc _ hd rfl

theorem ne_of_mem_escapes {k c : Char} (h : (k, c) ∈ escapes) : k ≠ 'u' ∧ k ≠ '\n' := by
  have hall : ∀ p ∈ escapes, p.1 ≠ 'u' ∧ p.1 ≠ '\n' := by decide
  exact hall _ h

theorem prefixFree_codePoint : PrefixFree codePoint := by
  intro c d x y h
  have isAlphanum {n : Nat} {e : Char} (he : e ∈ Nat.toDigits 16 n) : e.isAlphanum :=
    isAlphanum_of_mem_toDigits (by decide) (by decide) he
  simp only [codePoint, List.append_assoc, List.append_cancel_left_eq] at h
  have hbrace (z : List Char) : ∀ e ∈ (['\x7d'] ++ z).head?, e.isAlphanum = false := by
    rintro e he
    cases he
    decide
  obtain ⟨hdigits, hrest⟩ :=
    eq_of_append_run (fun _ => isAlphanum) (fun _ => isAlphanum) (hbrace x) (hbrace y) h
  exact ⟨Char.toNat_inj.1 (toDigits_inj (by decide) (by decide) hdigits), List.append_cancel_left hrest⟩

theorem prefixFree_quoteChar : PrefixFree quoteChar := by
  intro c d x y h
  rcases quoteChar_spec c with ⟨k, hc, hk⟩ | hc | ⟨hc, hne, -⟩ <;>
    rcases quoteChar_spec d with ⟨l, hd, hl⟩ | hd | ⟨hd, hne', -⟩ <;>
    rw [hc, hd] at h
  · obtain ⟨rfl, rfl⟩ : k = l ∧ x = y := by simpa using h
    exact ⟨eq_of_mem_escapes hk hl, rfl⟩
  · exact absurd (List.cons.inj (List.cons.inj h).2).1 (ne_of_mem_escapes hk).1
  · exact absurd (List.cons.inj h).1.symm hne'
  · exact absurd (List.cons.inj (List.cons.inj h).2).1.symm (ne_of_mem_escapes hl).1
  · exact prefixFree_codePoint h
  · exact absurd (List.cons.inj h).1.symm hne'
  · exact absurd (List.cons.inj h).1 hne
  · exact absurd (List.cons.inj h).1 hne
  · exact List.cons.inj h

/-- The quote at the end is not the start of a character. -/
theorem quoteChar_append_ne (c : Char) (x y : List Char) : quoteChar c ++ x ≠ '"' :: y := by
  intro h
  rcases quoteChar_spec c with ⟨k, hc, -⟩ | hc | ⟨hc, -, hne, -⟩ <;> rw [hc] at h
  · exact absurd (List.cons.inj h).1 (by decide)
  · exact absurd (List.cons.inj h).1 (by decide)
  · exact hne (List.cons.inj h).1

theorem prefixFree_quoteChars : PrefixFree quoteChars := by
  intro s t x y h
  simp only [quoteChars, List.cons_append, List.append_assoc, List.cons.injEq, true_and,
    List.nil_append] at h
  induction s generalizing t with
  | nil =>
    cases t with
    | nil => exact ⟨rfl, (List.cons.inj h).2⟩
    | cons d t =>
      rw [List.flatMap_cons, List.append_assoc] at h
      exact absurd h.symm (quoteChar_append_ne d _ _)
  | cons c s ih =>
    rw [List.flatMap_cons, List.append_assoc] at h
    cases t with
    | nil => exact absurd h (quoteChar_append_ne c _ _)
    | cons d t =>
      rw [List.flatMap_cons, List.append_assoc] at h
      obtain ⟨rfl, hrest⟩ := prefixFree_quoteChar h
      obtain ⟨rfl, hend⟩ := ih hrest
      exact ⟨rfl, hend⟩

theorem newline_notMem_quoteChars (s : List Char) : '\n' ∉ quoteChars s := by
  have hchar (c : Char) : '\n' ∉ quoteChar c := by
    intro h
    rcases quoteChar_spec c with ⟨k, hc, hk⟩ | hc | ⟨hc, -, -, hne⟩ <;> rw [hc] at h
    · have hk := (ne_of_mem_escapes hk).2.symm
      simp [hk] at h
    · have hdigit : '\n' ∈ Nat.toDigits 16 c.toNat := by simpa [codePoint] using h
      exact absurd (isAlphanum_of_mem_toDigits (by decide) (by decide) hdigit) (by decide)
    · exact hne (List.mem_singleton.1 h).symm
  simp [quoteChars, hchar]

end Quoted

@[simp] theorem toList_quote (s : String) : (quote s).toList = Quoted.quoteChars s.toList :=
  String.toList_ofList

/-- **A quoted text tells where it ends.** -/
theorem eq_of_quote_append {s t x y : String} (h : quote s ++ x = quote t ++ y) : s = t ∧ x = y := by
  have hlist := congrArg String.toList h
  rw [String.toList_append, String.toList_append, toList_quote, toList_quote] at hlist
  obtain ⟨hs, hx⟩ := Quoted.prefixFree_quoteChars hlist
  exact ⟨String.toList_injective hs, String.toList_injective hx⟩

theorem eq_of_quote {s t : String} (h : quote s = quote t) : s = t :=
  (eq_of_quote_append (x := "") (y := "") (by rw [h])).1

end Marktree.Text
