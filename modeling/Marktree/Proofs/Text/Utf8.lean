import Marktree.Destination

/-!
# Decoding what was encoded

The bytes of a text are read back as the text (`decode?_encode`). So percent decoding leaves a text
without percent signs as it is (`decode?_of_notMem`).
-/
namespace Marktree.Text

namespace Utf8

/-! ## Bytes by their numbers -/

/-- A byte is below another exactly if its number is. -/
theorem ofNat_lt_iff {n : Nat} (hn : n < 256) (bound : UInt8) : UInt8.ofNat n < bound ↔ n < bound.toNat := by
  rw [UInt8.lt_iff_toNat_lt, UInt8.toNat_ofNat_of_lt' hn]

/-- The test for the bytes of one kind, which are those from one number up to another. -/
theorem between_iff {n : Nat} (hn : n < 256) (low high : UInt8) :
    (low ≤ UInt8.ofNat n && UInt8.ofNat n < high) = true ↔ low.toNat ≤ n ∧ n < high.toNat := by
  rw [Bool.and_eq_true_iff, decide_eq_true_iff, decide_eq_true_iff, UInt8.le_iff_toNat_le,
    UInt8.toNat_ofNat_of_lt' hn, ofNat_lt_iff hn]

/-- The payload of a continuation byte is read from it. -/
theorem tail?_ofNat {n : Nat} (h : n < 64) : tail? (UInt8.ofNat (n + 128)) = some n := by
  have hrange := (between_iff (n := n + 128) (by omega) 0x80 0xC0).2
    ⟨show 0x80 ≤ n + 128 by omega, show n + 128 < 0xC0 by omega⟩
  have hn : n + 128 < 256 := by omega
  rw [tail?, if_pos hrange, UInt8.toNat_ofNat_of_lt' hn, Nat.add_sub_cancel]

/-! ## Sequences of bytes -/

variable (bs : List UInt8)

/-- What is read if the first bytes may make a character and others follow. -/
def readBefore (c? : Option Char) : Option (List Char) :=
  c?.bind fun c => (decode? bs).map (c :: ·)

theorem decode?_one {x : Nat} (hx : x < 128) :
    decode? (UInt8.ofNat x :: bs) = readBefore bs (some (Char.ofNat x)) := by
  have hone : UInt8.ofNat x < 0x80 := (ofNat_lt_iff (by omega) _).2 hx
  rw [decode?.eq_def]
  simp only [hone, if_true, UInt8.toNat_ofNat_of_lt' (show x < 256 by omega)]
  cases h : decode? bs <;> simp [readBefore, h]

/-- A byte that begins a longer sequence is not read by itself. -/
theorem not_lt {n : Nat} (h : n < 64) : ¬UInt8.ofNat (n + 192) < 0x80 := by
  rw [ofNat_lt_iff (by omega)]
  exact Nat.not_lt.2 (show 128 ≤ n + 192 by omega)

theorem decode?_two {x y : Nat} (hx : x < 32) (hy : y < 64) :
    decode? (UInt8.ofNat (x + 192) :: UInt8.ofNat (y + 128) :: bs) =
      readBefore bs (atLeast? 0x80 (x * 64 + y)) := by
  have htwo := (between_iff (n := x + 192) (by omega) 0xC0 0xE0).2
    ⟨show 0xC0 ≤ x + 192 by omega, show x + 192 < 0xE0 by omega⟩
  rw [decode?.eq_def]
  simp only [not_lt (n := x) (by omega), if_false]
  rw [if_pos htwo, tail?_ofNat hy, UInt8.toNat_ofNat_of_lt' (show x + 192 < 256 by omega),
    Nat.add_sub_cancel]
  cases h : atLeast? 0x80 (x * 64 + y) <;> cases h' : decode? bs <;> simp [readBefore, h, h']

theorem decode?_three {x y z : Nat} (hx : x < 16) (hy : y < 64) (hz : z < 64) :
    decode? (UInt8.ofNat (x + 224) :: UInt8.ofNat (y + 128) :: UInt8.ofNat (z + 128) :: bs) =
      readBefore bs (atLeast? 0x800 ((x * 64 + y) * 64 + z)) := by
  have htwo : ¬(0xC0 ≤ UInt8.ofNat (x + 224) && UInt8.ofNat (x + 224) < 0xE0) = true := fun h =>
    absurd ((between_iff (by omega) _ _).1 h).2 (Nat.not_lt.2 (show 0xE0 ≤ x + 224 by omega))
  have hthree := (between_iff (n := x + 224) (by omega) 0xE0 0xF0).2
    ⟨show 0xE0 ≤ x + 224 by omega, show x + 224 < 0xF0 by omega⟩
  rw [decode?.eq_def]
  simp only [not_lt (n := x + 32) (by omega), if_false]
  rw [if_neg htwo, if_pos hthree, tail?_ofNat hy, tail?_ofNat hz,
    UInt8.toNat_ofNat_of_lt' (show x + 224 < 256 by omega), Nat.add_sub_cancel]
  cases h : atLeast? 0x800 ((x * 64 + y) * 64 + z) <;> cases h' : decode? bs <;> simp [readBefore, h, h']

theorem decode?_four {w x y z : Nat} (hw : w < 8) (hx : x < 64) (hy : y < 64) (hz : z < 64) :
    decode? (UInt8.ofNat (w + 240) :: UInt8.ofNat (x + 128) :: UInt8.ofNat (y + 128) ::
      UInt8.ofNat (z + 128) :: bs) =
      readBefore bs (atLeast? 0x10000 (((w * 64 + x) * 64 + y) * 64 + z)) := by
  have htwo : ¬(0xC0 ≤ UInt8.ofNat (w + 240) && UInt8.ofNat (w + 240) < 0xE0) = true := fun h =>
    absurd ((between_iff (by omega) _ _).1 h).2 (Nat.not_lt.2 (show 0xE0 ≤ w + 240 by omega))
  have hthree : ¬(0xE0 ≤ UInt8.ofNat (w + 240) && UInt8.ofNat (w + 240) < 0xF0) = true := fun h =>
    absurd ((between_iff (by omega) _ _).1 h).2 (Nat.not_lt.2 (show 0xF0 ≤ w + 240 by omega))
  have hfour := (between_iff (n := w + 240) (by omega) 0xF0 0xF8).2
    ⟨show 0xF0 ≤ w + 240 by omega, show w + 240 < 0xF8 by omega⟩
  rw [decode?.eq_def]
  simp only [not_lt (n := w + 48) (by omega), if_false]
  rw [if_neg htwo, if_neg hthree, if_pos hfour, tail?_ofNat hx, tail?_ofNat hy, tail?_ofNat hz,
    UInt8.toNat_ofNat_of_lt' (show w + 240 < 256 by omega), Nat.add_sub_cancel]
  cases h : atLeast? 0x10000 (((w * 64 + x) * 64 + y) * 64 + z) <;> cases h' : decode? bs <;>
    simp [readBefore, h, h']

/-! ## Texts -/

theorem toNat_lt (c : Char) : c.toNat < 0x110000 := by
  have h := c.valid
  simp only [UInt32.isValidChar, Nat.isValidChar] at h
  change c.val.toNat < 0x110000
  omega

theorem atLeast?_toNat {least : Nat} {c : Char} (h : least ≤ c.toNat) : atLeast? least c.toNat = some c := by
  have hvalid : c.toNat.isValidChar := c.valid
  rw [atLeast?, if_pos h, scalar?, dif_pos hvalid]
  rfl

/-- The bytes of a character are read as the character: its number is put together again from the
six bits in each of them. -/
theorem decode?_encodeChar (c : Char) :
    decode? (String.utf8EncodeChar c ++ bs) = (decode? bs).map (c :: ·) := by
  have hmax := toNat_lt c
  have hv : c.val.toNat = c.toNat := rfl
  simp only [String.utf8EncodeChar, hv]
  change _ = readBefore bs (some c)
  split
  · rw [List.singleton_append, decode?_one bs (by omega), Char.ofNat_toNat]
  split
  · rw [List.cons_append, List.singleton_append, decode?_two bs (by omega) (by omega),
      show c.toNat / 64 % 32 * 64 + c.toNat % 64 = c.toNat by omega, atLeast?_toNat (by omega)]
  split
  · rw [List.cons_append, List.cons_append, List.singleton_append,
      decode?_three bs (by omega) (by omega) (by omega),
      show (c.toNat / 4096 % 16 * 64 + c.toNat / 64 % 64) * 64 + c.toNat % 64 = c.toNat by omega,
      atLeast?_toNat (by omega)]
  · rw [List.cons_append, List.cons_append, List.cons_append, List.singleton_append,
      decode?_four bs (by omega) (by omega) (by omega) (by omega),
      show ((c.toNat / 262144 % 8 * 64 + c.toNat / 4096 % 64) * 64 + c.toNat / 64 % 64) * 64 +
        c.toNat % 64 = c.toNat by omega,
      atLeast?_toNat (by omega)]

/-- **Decoding undoes encoding.** -/
theorem decode?_encode (s : List Char) : decode? (encode s) = some s := by
  induction s with
  | nil => rw [encode, List.flatMap_nil, decode?]
  | cons c s ih =>
    rw [encode, List.flatMap_cons, decode?_encodeChar, ← encode, ih, Option.map_some]

end Utf8

namespace Percent

theorem bytes_of_notMem {s : List Char} (h : '%' ∉ s) : bytes s = Utf8.encode s := by
  induction s with
  | nil => rfl
  | cons c s ih =>
    obtain ⟨hc, hs⟩ := not_or.1 (mt List.mem_cons.2 h)
    rw [bytes, ih hs, Utf8.encode, Utf8.encode, List.flatMap_cons]
    rintro a b cs rfl
    exact absurd rfl hc

/-- What has no percent sign is not changed by decoding. -/
theorem decode?_of_notMem {s : List Char} (h : '%' ∉ s) : decode? s = some s := by
  rw [decode?, bytes_of_notMem h, Utf8.decode?_encode]

end Percent

end Marktree.Text
