import Mathlib
import Marktree.Text.Basic

/-!
# ASCII letters and digits

The classes of letters and digits by their code points, and what becomes of them in lower case.
-/
namespace Marktree.Text

variable {c : Char}

theorem within_iff (a b : Nat) :
    (decide (a ≤ c.toNat) && decide (c.toNat ≤ b)) = true ↔ a ≤ c.toNat ∧ c.toNat ≤ b := by
  rw [Bool.and_eq_true_iff, decide_eq_true_iff, decide_eq_true_iff]

theorem isUpper_iff : c.isUpper ↔ 65 ≤ c.toNat ∧ c.toNat ≤ 90 :=
  decide_eq_true_iff

theorem isLower_iff : c.isLower ↔ 97 ≤ c.toNat ∧ c.toNat ≤ 122 :=
  within_iff 97 122

theorem isDigit_iff : c.isDigit ↔ 48 ≤ c.toNat ∧ c.toNat ≤ 57 :=
  within_iff 48 57

theorem isAlphanum_iff : c.isAlphanum ↔
    (65 ≤ c.toNat ∧ c.toNat ≤ 90) ∨ (97 ≤ c.toNat ∧ c.toNat ≤ 122) ∨ (48 ≤ c.toNat ∧ c.toNat ≤ 57) := by
  have ha : c.isAlpha = true ↔ c.isUpper = true ∨ c.isLower = true := Bool.or_eq_true_iff
  have h : c.isAlphanum = true ↔ c.isAlpha = true ∨ c.isDigit = true := Bool.or_eq_true_iff
  rw [h, ha, isUpper_iff, isLower_iff, isDigit_iff, or_assoc]

/-- A lower-case letter or a digit. -/
theorem isLower_or_isDigit_iff : c.isLower ∨ c.isDigit ↔ c.isAlphanum ∧ ¬c.isUpper := by
  rw [isLower_iff, isDigit_iff, isAlphanum_iff, isUpper_iff]
  omega

theorem isBlank_of_isAlphanum (h : c.isAlphanum) : isBlank c = false := by
  have hn := isAlphanum_iff.1 h
  simp only [isBlank, Bool.or_eq_false_iff, Bool.and_eq_false_iff, decide_eq_false_iff_not,
    beq_eq_false_iff_ne]
  omega

theorem toNat_toLower_of_isUpper (h : c.isUpper) : c.toLower.toNat = c.toNat + 32 := by
  have hb := isUpper_iff.1 h
  have hvalid : (c.toNat + 32).isValidChar := .inl (by omega)
  rw [Char.toLower_eq_of_isUpper h, Char.toNat_ofNat, if_pos hvalid]

theorem isAlphanum_toLower (h : c.isAlphanum) : c.toLower.isAlphanum := by
  by_cases hu : c.isUpper
  · have hb := isUpper_iff.1 hu
    rw [isAlphanum_iff, toNat_toLower_of_isUpper hu]
    omega
  · rwa [Char.toLower_eq_of_not_isUpper hu]

end Marktree.Text
