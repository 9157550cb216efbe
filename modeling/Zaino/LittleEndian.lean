/-
This file is the byte codec under every fixed-width field of the block parser. Rust's
`from_le_bytes` and `to_le_bytes` (and byteorder's `LittleEndian` readers and writers) are
read here on natural numbers: `fromLeBytes` gives the number a list of bytes denotes, least
significant byte first, and `toLeBytes width value` gives the `width` bytes of `value`, with
the bits above `8 * width` dropped as a cast to the narrower type drops them. The two are
inverse on each side: the value of an encoding is the value modulo `256 ^ width`, and the
encoding of the value of a list is the list.
-/

import Mathlib.Algebra.Order.Group.Nat

namespace Zaino

/-- The number the bytes denote, least significant byte first. -/
def fromLeBytes : List UInt8 → Nat
  | [] => 0
  | low :: high => low.toNat + 256 * fromLeBytes high

/-- The `width` bytes of `value`, least significant first; higher bits are dropped. -/
def toLeBytes : Nat → Nat → List UInt8
  | 0, _ => []
  | width + 1, value => UInt8.ofNat (value % 256) :: toLeBytes width (value / 256)

theorem byte_ofNat_toNat (byte : UInt8) : UInt8.ofNat byte.toNat = byte :=
  UInt8.toNat.inj (UInt8.toNat_ofNat_of_lt (UInt8.toNat_lt_size byte))

@[simp] theorem fromLeBytes_nil : fromLeBytes [] = 0 := rfl

@[simp] theorem fromLeBytes_cons (low : UInt8) (high : List UInt8) :
    fromLeBytes (low :: high) = low.toNat + 256 * fromLeBytes high := rfl

@[simp] theorem toLeBytes_zero (value : Nat) : toLeBytes 0 value = [] := rfl

@[simp] theorem toLeBytes_succ (width value : Nat) :
    toLeBytes (width + 1) value = UInt8.ofNat (value % 256) :: toLeBytes width (value / 256) :=
  rfl

@[simp] theorem length_toLeBytes (width value : Nat) : (toLeBytes width value).length = width := by
  induction width generalizing value with
  | zero => rfl
  | succ width inductionHypothesis => simp [inductionHypothesis]

theorem fromLeBytes_lt (bytes : List UInt8) : fromLeBytes bytes < 256 ^ bytes.length := by
  induction bytes with
  | nil => decide
  | cons low high inductionHypothesis =>
    have lowLt : low.toNat < 256 := UInt8.toNat_lt_size low
    rw [fromLeBytes_cons, List.length_cons, Nat.pow_succ]
    omega

/-- Decoding an encoding keeps the value modulo `256 ^ width`. -/
theorem fromLeBytes_toLeBytes (width value : Nat) :
    fromLeBytes (toLeBytes width value) = value % 256 ^ width := by
  induction width generalizing value with
  | zero => simp [Nat.mod_one]
  | succ width inductionHypothesis =>
    have low : (UInt8.ofNat (value % 256)).toNat = value % 256 :=
      UInt8.toNat_ofNat_of_lt (Nat.mod_lt _ (by decide))
    rw [toLeBytes_succ, fromLeBytes_cons, inductionHypothesis, low, Nat.pow_succ', Nat.mod_mul]

/-- Encoding the value of a list at the list's own width gives the list back. -/
theorem toLeBytes_fromLeBytes (bytes : List UInt8) :
    toLeBytes bytes.length (fromLeBytes bytes) = bytes := by
  induction bytes with
  | nil => rfl
  | cons low high inductionHypothesis =>
    have lowLt : low.toNat < 256 := UInt8.toNat_lt_size low
    have lowDigit : (low.toNat + 256 * fromLeBytes high) % 256 = low.toNat := by omega
    have highDigits : (low.toNat + 256 * fromLeBytes high) / 256 = fromLeBytes high := by omega
    rw [List.length_cons, fromLeBytes_cons, toLeBytes_succ, lowDigit, highDigits,
      inductionHypothesis, byte_ofNat_toNat]

theorem fromLeBytes_append (low high : List UInt8) :
    fromLeBytes (low ++ high) = fromLeBytes low + 256 ^ low.length * fromLeBytes high := by
  induction low with
  | nil => simp
  | cons byte rest inductionHypothesis =>
    rw [List.cons_append, fromLeBytes_cons, fromLeBytes_cons, inductionHypothesis,
      List.length_cons, Nat.pow_succ', Nat.mul_add, Nat.mul_assoc, Nat.add_assoc]

end Zaino
