import Marktree.Text.Basic

/-!
# UTF-8

Text as bytes. The reader takes exactly the shortest forms of the Unicode scalar values.
-/
namespace Marktree.Text.Utf8

def encode (s : List Char) : List UInt8 :=
  s.flatMap String.utf8EncodeChar

/-- The payload of a continuation byte. -/
def tail? (b : UInt8) : Option Nat :=
  if 0x80 ≤ b && b < 0xC0 then some (b.toNat - 0x80) else none

/-- A scalar value that needs at least as many bytes as `least` does. -/
def atLeast? (least n : Nat) : Option Char :=
  if least ≤ n then Text.scalar? n else none

/-- Decodes all of the bytes, or nothing if some part of them is no character. -/
def decode? : List UInt8 → Option (List Char)
  | [] => some []
  | a :: rest =>
    if a < 0x80 then do
      return Char.ofNat a.toNat :: (← decode? rest)
    else
      match rest with
      | [] => none
      | b :: rest =>
        if 0xC0 ≤ a && a < 0xE0 then do
          let c ← atLeast? 0x80 ((a.toNat - 0xC0) * 0x40 + (← tail? b))
          return c :: (← decode? rest)
        else
          match rest with
          | [] => none
          | c :: rest =>
            if 0xE0 ≤ a && a < 0xF0 then do
              let ch ← atLeast? 0x800
                (((a.toNat - 0xE0) * 0x40 + (← tail? b)) * 0x40 + (← tail? c))
              return ch :: (← decode? rest)
            else
              match rest with
              | [] => none
              | d :: rest =>
                if 0xF0 ≤ a && a < 0xF8 then do
                  let ch ← atLeast? 0x10000
                    ((((a.toNat - 0xF0) * 0x40 + (← tail? b)) * 0x40 + (← tail? c)) * 0x40
                      + (← tail? d))
                  return ch :: (← decode? rest)
                else none

end Marktree.Text.Utf8
