import Mathlib.Tactic

/-!
# Frames

A frame is a block of bytes after its length, which is written as four bytes, the highest first. A length
that does not fit is cut off. A reader refuses lengths above a limit.
-/

namespace Frame

abbrev Bytes := List UInt8

def lengthBytes (n : ℕ) : Bytes :=
  [UInt8.ofNat (n / 2 ^ 24), UInt8.ofNat (n / 2 ^ 16), UInt8.ofNat (n / 2 ^ 8), UInt8.ofNat n]

def lengthOf (a b c d : UInt8) : ℕ := ((a.toNat * 256 + b.toNat) * 256 + c.toNat) * 256 + d.toNat

def write (data : Bytes) : Bytes := lengthBytes (data.length % 2 ^ 32) ++ data

inductive Error
  | unexpectedEof
  | tooLarge (length : ℕ)
deriving DecidableEq

def read (limit : ℕ) : Bytes → Except Error Bytes
  | a :: b :: c :: d :: rest =>
    if limit < lengthOf a b c d then .error (.tooLarge (lengthOf a b c d))
    else if rest.length < lengthOf a b c d then .error .unexpectedEof
    else .ok (rest.take (lengthOf a b c d))
  | _ => .error .unexpectedEof

theorem lengthOf_lengthBytes {n : ℕ} (h : n < 2 ^ 32) :
    lengthOf (UInt8.ofNat (n / 2 ^ 24)) (UInt8.ofNat (n / 2 ^ 16)) (UInt8.ofNat (n / 2 ^ 8)) (UInt8.ofNat n) = n := by
  simp only [lengthOf, UInt8.toNat_ofNat']
  omega

/-- **Reading what was written.** -/
theorem read_write (limit : ℕ) (data : Bytes) :
    read limit (write data) =
      if limit < data.length % 2 ^ 32 then .error (.tooLarge (data.length % 2 ^ 32))
      else .ok (data.take (data.length % 2 ^ 32)) := by
  have hlength := lengthOf_lengthBytes (Nat.mod_lt data.length (Nat.two_pow_pos 32))
  simp only [write, lengthBytes, List.cons_append, List.nil_append, read, hlength]
  split
  · rfl
  · rw [if_neg (Nat.not_lt.mpr (Nat.mod_le _ _))]

end Frame
