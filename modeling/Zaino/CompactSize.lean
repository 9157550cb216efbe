/-
This file models `CompactSize` of the `zcash_encoding` crate, the Bitcoin-style length prefix
that both parsers of `block.rs` read: one byte below `253`, or a flag byte `253`, `254` or
`255` followed by a `u16`, `u32` or `u64`. The crate's reader is strict. It refuses a wide
form whose value fits a narrower one (`non-canonical CompactSize`) and any value above
`MAX_COMPACT_SIZE` (`CompactSize too large`). Its writer always picks the narrowest form.

The two results are the two directions of the codec: reading what was written gives the
size back for every size up to the bound, and whatever the reader accepts is exactly the
writer's encoding of the value read, so the prefix it consumed is determined by that value.
-/

import Zaino.Utils

namespace Zaino

/-- `MAX_COMPACT_SIZE`. -/
def maxCompactSize : Nat := 0x02000000

namespace CompactSize

/-- The error of a wide form holding a value that fits a narrower one. -/
def nonCanonical : IoError := ⟨.invalidInput, "non-canonical CompactSize"⟩

/-- The error of a value above `MAX_COMPACT_SIZE`. -/
def tooLarge : IoError := ⟨.invalidInput, "CompactSize too large"⟩

/-- The three wide branches of `CompactSize::read`: a `width`-byte little-endian number, which
must be at least `lower`, the least value the narrower forms cannot hold. -/
def readWide (width lower : Nat) (cursor : List UInt8) : Except IoError (UInt64 × List UInt8) := do
  let (n, cursor) ← readLe width cursor
  if n < lower then throw nonCanonical else pure (UInt64.ofNat n, cursor)

/-- The value of `CompactSize::read` before its bound check, from the flag byte. -/
def readFlagged (flag : Nat) (cursor : List UInt8) : Except IoError (UInt64 × List UInt8) :=
  if flag < 253 then pure (UInt64.ofNat flag, cursor)
  else if flag = 253 then readWide 2 253 cursor
  else if flag = 254 then readWide 4 0x10000 cursor
  else readWide 8 0x100000000 cursor

/-- The bound check that ends `CompactSize::read`. -/
def checkBound (result : UInt64) (cursor : List UInt8) : Except IoError (UInt64 × List UInt8) :=
  if result.toNat > maxCompactSize then throw tooLarge else pure (result, cursor)

/-- `CompactSize::read`. -/
def read (cursor : List UInt8) : Except IoError (UInt64 × List UInt8) := do
  let (flag, cursor) ← readLe 1 cursor
  let (result, cursor) ← readFlagged flag cursor
  checkBound result cursor

/-- `CompactSize::write` into a `Vec<u8>`, which cannot fail: a `write_u8` of the size or of a
flag, then the size in the flag's width. A `usize` is at most `u64`, so the last branch's
`s as u64` keeps the size. -/
def write (size : Nat) : List UInt8 :=
  if size < 253 then toLeBytes 1 size
  else if size ≤ 0xFFFF then toLeBytes 1 253 ++ toLeBytes 2 size
  else if size ≤ 0xFFFFFFFF then toLeBytes 1 254 ++ toLeBytes 4 size
  else toLeBytes 1 255 ++ toLeBytes 8 size

theorem ofNat_toNat_of_wide {width value : Nat} (wide : width ≤ 8) (small : value < 256 ^ width) :
    (UInt64.ofNat value).toNat = value :=
  UInt64.toNat_ofNat_of_lt (Nat.lt_of_lt_of_le small (Nat.pow_le_pow_right (by decide) wide))

theorem readWide_eq_ok {width lower : Nat} {cursor rest : List UInt8} {value : UInt64}
    (wide : width ≤ 8) (read : readWide width lower cursor = .ok (value, rest)) :
    cursor = toLeBytes width value.toNat ++ rest ∧ lower ≤ value.toNat ∧
      value.toNat < 256 ^ width := by
  unfold readWide at read
  cases numberRead : readLe width cursor with
  | error _ => simp [numberRead] at read
  | ok result =>
    obtain ⟨n, after⟩ := result
    obtain ⟨split, small⟩ := readLe_eq_ok numberRead
    rw [numberRead, ok_bind] at read
    simp only at read
    split at read
    · cases read
    · cases read
      rw [ofNat_toNat_of_wide wide small]
      exact ⟨split, Nat.not_lt.mp ‹_›, small⟩

theorem readWide_toLeBytes (width lower value : Nat) (rest : List UInt8)
    (canonical : lower ≤ value) (small : value < 256 ^ width) :
    readWide width lower (toLeBytes width value ++ rest) = .ok (UInt64.ofNat value, rest) := by
  rw [readWide, readLe_toLeBytes, Nat.mod_eq_of_lt small, ok_bind]
  exact if_neg (Nat.not_lt.mpr canonical)

theorem read_toLeBytes (flag : Nat) (small : flag < 256) (cursor : List UInt8) :
    read (toLeBytes 1 flag ++ cursor) =
      readFlagged flag cursor >>= fun result => checkBound result.1 result.2 := by
  rw [read, readLe_toLeBytes, ok_bind, Nat.pow_one, Nat.mod_eq_of_lt small]

theorem checkBound_ofNat {size : Nat} (bounded : size ≤ maxCompactSize) (rest : List UInt8) :
    checkBound (UInt64.ofNat size) rest = .ok (UInt64.ofNat size, rest) := by
  have fits : size < 2 ^ 64 := by unfold maxCompactSize at bounded; omega
  rw [checkBound, UInt64.toNat_ofNat_of_lt fits, if_neg (Nat.not_lt.mpr bounded)]
  rfl

/-- The writer's encoding is read back as the size, for every size up to the bound. -/
theorem read_write (size : Nat) (bounded : size ≤ maxCompactSize) (rest : List UInt8) :
    read (write size ++ rest) = .ok (UInt64.ofNat size, rest) := by
  have belowMax : size < 0x100000000 := by unfold maxCompactSize at bounded; omega
  unfold write
  by_cases narrow : size < 253
  · rw [if_pos narrow, read_toLeBytes size (by omega), readFlagged, if_pos narrow]
    exact checkBound_ofNat bounded rest
  by_cases short : size ≤ 0xFFFF
  · rw [if_neg narrow, if_pos short, List.append_assoc, read_toLeBytes 253 (by decide),
      readFlagged, if_neg (by decide), if_pos rfl,
      readWide_toLeBytes 2 253 size rest (by omega) (by omega)]
    exact checkBound_ofNat bounded rest
  · rw [if_neg narrow, if_neg short, if_pos (by omega), List.append_assoc,
      read_toLeBytes 254 (by decide), readFlagged, if_neg (by decide), if_neg (by decide),
      if_pos rfl, readWide_toLeBytes 4 0x10000 size rest (by omega) (by omega)]
    exact checkBound_ofNat bounded rest

theorem checkBound_eq_ok {result value : UInt64} {cursor rest : List UInt8}
    (checked : checkBound result cursor = .ok (value, rest)) :
    value = result ∧ rest = cursor ∧ value.toNat ≤ maxCompactSize := by
  unfold checkBound at checked
  split at checked
  · cases checked
  · cases checked
    exact ⟨rfl, rfl, Nat.not_lt.mp ‹_›⟩

theorem readFlagged_eq_ok {flag : Nat} {cursor rest : List UInt8} {value : UInt64}
    (small : flag < 256) (bounded : value.toNat ≤ maxCompactSize)
    (read : readFlagged flag cursor = .ok (value, rest)) :
    toLeBytes 1 flag ++ cursor = write value.toNat ++ rest := by
  unfold maxCompactSize at bounded
  unfold readFlagged at read
  split at read
  · cases read
    rw [ofNat_toNat_of_wide (by decide) (show flag < 256 ^ 1 from small), write, if_pos ‹_›]
  split at read
  · obtain ⟨split, canonical, wide⟩ := readWide_eq_ok (by decide) read
    subst flag
    rw [split, write, if_neg (by omega), if_pos (by omega), List.append_assoc]
  split at read
  · obtain ⟨split, canonical, wide⟩ := readWide_eq_ok (by decide) read
    subst flag
    rw [split, write, if_neg (by omega), if_neg (by omega), if_pos (by omega),
      List.append_assoc]
  · obtain ⟨-, canonical, -⟩ := readWide_eq_ok (by decide) read
    omega

/-- Whatever the reader accepts is the writer's encoding of the value read, and the value is
within the bound: a non-canonical or oversized prefix is never accepted. -/
theorem read_eq_ok {cursor rest : List UInt8} {value : UInt64}
    (read : CompactSize.read cursor = .ok (value, rest)) :
    cursor = write value.toNat ++ rest ∧ value.toNat ≤ maxCompactSize := by
  cases flagRead : readLe 1 cursor with
  | error _ => simp [CompactSize.read, flagRead] at read
  | ok result =>
    obtain ⟨flag, after⟩ := result
    obtain ⟨split, small⟩ := readLe_eq_ok flagRead
    rw [split, read_toLeBytes flag small] at read
    cases flagged : readFlagged flag after with
    | error _ => simp [flagged] at read
    | ok pair =>
      rw [flagged, ok_bind] at read
      obtain ⟨rfl, rfl, bounded⟩ := checkBound_eq_ok read
      exact ⟨by rw [split, readFlagged_eq_ok small bounded flagged], bounded⟩

/-- The reader accepts exactly the writer's encodings of the sizes within the bound, each
followed by anything: every size has one encoding, and it is the one read back. -/
theorem read_eq_ok_iff (cursor rest : List UInt8) (value : UInt64) :
    read cursor = .ok (value, rest) ↔
      value.toNat ≤ maxCompactSize ∧ cursor = write value.toNat ++ rest := by
  constructor
  · intro accepted
    exact (read_eq_ok accepted).symm
  · rintro ⟨bounded, rfl⟩
    have roundTrip : UInt64.ofNat value.toNat = value :=
      UInt64.toNat.inj (UInt64.toNat_ofNat_of_lt value.toNat_lt_size)
    rw [read_write value.toNat bounded rest, roundTrip]

/-- The reader reads nothing past the encoding. -/
theorem read_append {cursor rest : List UInt8} {value : UInt64}
    (read : CompactSize.read cursor = .ok (value, rest)) (more : List UInt8) :
    CompactSize.read (cursor ++ more) = .ok (value, rest ++ more) := by
  obtain ⟨rfl, bounded⟩ := read_eq_ok read
  have roundTrip : UInt64.ofNat value.toNat = value :=
    UInt64.toNat.inj (UInt64.toNat_ofNat_of_lt value.toNat_lt_size)
  rw [List.append_assoc, read_write _ bounded, roundTrip]

end CompactSize

end Zaino
