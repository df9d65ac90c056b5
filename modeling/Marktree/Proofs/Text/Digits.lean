import Marktree.Text.Basic

/-!
# Digits

The digits that a number is written with are read back as the number, in all bases up to sixteen, so
two numbers are not written alike.
-/
namespace Marktree.Text

/-! ## Decimal digits -/

theorem digit?_ten {c : Char} (h : c.isDigit) : digit? 10 c = some (c.toNat - '0'.toNat) := by
  have hc : c.toNat ≤ 57 := by
    simp only [Char.isDigit, Bool.and_eq_true, decide_eq_true_eq] at h
    exact h.2
  have : c.toNat - 48 < 10 := by omega
  simp [digit?, h, this]

theorem number?_ten {ds : List Char} (hne : ds ≠ []) (h : ∀ c ∈ ds, c.isDigit) :
    number? 10 ds = some (Nat.ofDigitChars 10 ds 0) := by
  have fold : ∀ (ds : List Char) (acc : Nat), (∀ c ∈ ds, c.isDigit) →
      ds.foldl (fun acc c => do return (← acc) * 10 + (← digit? 10 c)) (some acc) =
        some (Nat.ofDigitChars 10 ds acc) := by
    intro ds
    induction ds with
    | nil => intro acc _; simp
    | cons c cs ih =>
      intro acc hd
      obtain ⟨hc, hcs⟩ := List.forall_mem_cons.1 hd
      rw [Nat.ofDigitChars_cons, ← ih _ hcs]
      simp [digit?_ten hc, Nat.mul_comm]
  cases ds with
  | nil => exact absurd rfl hne
  | cons c cs => exact fold (c :: cs) 0 h

/-! ## Written numbers -/

variable {base : Nat}

theorem digit?_digitChar {d : Nat} (hd : d < base) (hb : base ≤ 16) :
    digit? base (Nat.digitChar d) = some d := by
  have hall : ∀ e ∈ List.range 16, digit? 16 (Nat.digitChar e) = some e := by decide
  have hsixteen := hall d (List.mem_range.2 (by omega))
  rw [digit?, Option.filter_eq_some_iff] at hsixteen ⊢
  exact ⟨hsixteen.1, by simpa using hd⟩

theorem number?_append_digit {ds : List Char} {n d : Nat} (h : number? base ds = some n) (hd : d < base)
    (hb : base ≤ 16) : number? base (ds ++ [Nat.digitChar d]) = some (base * n + d) := by
  cases ds with
  | nil => cases h
  | cons c cs =>
    simp only [number?, List.cons_append, List.foldl_cons] at h ⊢
    rw [List.foldl_append, h]
    simp [digit?_digitChar hd hb, Nat.mul_comm]

theorem number?_toDigits (h₁ : 1 < base) (hb : base ≤ 16) (n : Nat) :
    number? base (Nat.toDigits base n) = some n := by
  induction n using Nat.base_induction base h₁ with
  | single d hd =>
    rw [Nat.toDigits_of_lt_base hd]
    simp [number?, digit?_digitChar hd hb]
  | digit n d hd hn ih =>
    rw [← Nat.toDigits_append_toDigits h₁ hn hd, Nat.toDigits_of_lt_base hd,
      number?_append_digit ih hd hb]

theorem toDigits_inj (h₁ : 1 < base) (hb : base ≤ 16) {m n : Nat}
    (h : Nat.toDigits base m = Nat.toDigits base n) : m = n := by
  have hread := congrArg (number? base) h
  rwa [number?_toDigits h₁ hb, number?_toDigits h₁ hb, Option.some.injEq] at hread

theorem exists_of_mem_toDigits (h₁ : 1 < base) {n : Nat} {c : Char} (h : c ∈ Nat.toDigits base n) :
    ∃ d < base, c = Nat.digitChar d := by
  induction n using Nat.base_induction base h₁ with
  | single d hd =>
    rw [Nat.toDigits_of_lt_base hd, List.mem_singleton] at h
    exact ⟨d, hd, h⟩
  | digit n d hd hn ih =>
    rw [← Nat.toDigits_append_toDigits h₁ hn hd, Nat.toDigits_of_lt_base hd, List.mem_append,
      List.mem_singleton] at h
    rcases h with h | h
    · exact ih h
    · exact ⟨d, hd, h⟩

theorem isAlphanum_of_mem_toDigits (h₁ : 1 < base) (hb : base ≤ 16) {n : Nat} {c : Char}
    (h : c ∈ Nat.toDigits base n) : c.isAlphanum := by
  obtain ⟨d, hd, rfl⟩ := exists_of_mem_toDigits h₁ h
  have hall : ∀ e ∈ List.range 16, (Nat.digitChar e).isAlphanum := by decide
  exact hall d (List.mem_range.2 (by omega))

theorem isAlphanum_of_mem_repr {n : Nat} {c : Char} (h : c ∈ (toString n).toList) : c.isAlphanum := by
  rw [Nat.toString_eq_repr, Nat.toList_repr] at h
  exact isAlphanum_of_mem_toDigits (by decide) (by decide) h

end Marktree.Text
