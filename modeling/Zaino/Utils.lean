/-
This file models `blockcache/utils.rs`: the parse error, the cursor readers every parser of
the block cache is written with, `skip_bytes`, and the script-number reader
`read_zcash_script_i64` that the block height comes from.

A `Cursor<&[u8]>` that only reads is modelled by the bytes it has left: each reader takes
them and returns its value with the bytes after it, and `&data[cursor.position()..]` is that
remainder. Reads never move a cursor past its slice, so the model loses nothing there.
`skip_bytes` is different, since it adds to the `u64` position itself, and it is modelled on
`Cursor`, the slice and a `UInt64` position, so that the addition wraps as it does in a
release build.
-/

import Zaino.LittleEndian

namespace Zaino

/-- The kinds of `std::io::Error` the parsers meet. -/
inductive IoErrorKind where
  | unexpectedEof
  | invalidInput
  deriving DecidableEq, Repr

/-- A `std::io::Error`: its kind and its message. -/
structure IoError where
  kind : IoErrorKind
  message : String
  deriving DecidableEq, Repr

/-- `ParseError`. -/
inductive ParseError where
  | io (error : IoError)
  | invalidData (message : String)
  deriving DecidableEq, Repr

@[simp] theorem ok_bind {ε α β : Type} (value : α) (rest : α → Except ε β) :
    (Except.ok value >>= rest) = rest value := rfl

@[simp] theorem error_bind {ε α β : Type} (error : ε) (rest : α → Except ε β) :
    (Except.error error >>= rest) = Except.error error := rfl

/-! ### Readers -/

/-- The error `read_exact` gives on a cursor with too few bytes left. -/
def unexpectedEof : IoError := ⟨.unexpectedEof, "failed to fill whole buffer"⟩

/-- `Read::read_exact` on a cursor: the next `n` bytes, or `UnexpectedEof` when fewer are
left. -/
def readExact (cursor : List UInt8) (n : Nat) : Except IoError (List UInt8 × List UInt8) :=
  if n ≤ cursor.length then .ok (cursor.take n, cursor.drop n) else .error unexpectedEof

theorem readExact_append (bytes rest : List UInt8) :
    readExact (bytes ++ rest) bytes.length = .ok (bytes, rest) := by
  simp [readExact]

/-- What `read_exact` returns is a prefix of exactly the length asked for. -/
theorem readExact_eq_ok {cursor bytes rest : List UInt8} {n : Nat}
    (read : readExact cursor n = .ok (bytes, rest)) :
    cursor = bytes ++ rest ∧ bytes.length = n := by
  unfold readExact at read
  split at read
  · cases read
    exact ⟨(List.take_append_drop n cursor).symm, List.length_take_of_le ‹_›⟩
  · cases read

/-- byteorder's `read_u8`, `read_u16`, `read_u32` and `read_u64` with `LittleEndian`: the next
`width` bytes as a little-endian number. -/
def readLe (width : Nat) (cursor : List UInt8) : Except IoError (Nat × List UInt8) :=
  (readExact cursor width).map fun (bytes, rest) => (fromLeBytes bytes, rest)

theorem readLe_toLeBytes (width value : Nat) (rest : List UInt8) :
    readLe width (toLeBytes width value ++ rest) = .ok (value % 256 ^ width, rest) := by
  have read := readExact_append (toLeBytes width value) rest
  rw [length_toLeBytes] at read
  rw [readLe, read, ← fromLeBytes_toLeBytes]
  rfl

theorem readLe_eq_ok {width value : Nat} {cursor rest : List UInt8}
    (read : readLe width cursor = .ok (value, rest)) :
    cursor = toLeBytes width value ++ rest ∧ value < 256 ^ width := by
  unfold readLe Except.map at read
  split at read
  · cases read
  · rename_i result bytesRead
    obtain ⟨bytes, after⟩ := result
    cases read
    obtain ⟨split, length⟩ := readExact_eq_ok bytesRead
    subst length
    exact ⟨by rw [toLeBytes_fromLeBytes, split], fromLeBytes_lt bytes⟩

/-- `read_bytes`: `read_exact`, with its failure mapped to `InvalidData(error_msg)`. -/
def readBytes (cursor : List UInt8) (n : Nat) (errorMsg : String) :
    Except ParseError (List UInt8 × List UInt8) :=
  (readExact cursor n).mapError fun _ => .invalidData errorMsg

theorem readBytes_append (bytes rest : List UInt8) (errorMsg : String) :
    readBytes (bytes ++ rest) bytes.length errorMsg = .ok (bytes, rest) := by
  rw [readBytes, readExact_append]
  rfl

theorem readBytes_append_of_length {bytes : List UInt8} {n : Nat} (length : bytes.length = n)
    (rest : List UInt8) (errorMsg : String) :
    readBytes (bytes ++ rest) n errorMsg = .ok (bytes, rest) :=
  length ▸ readBytes_append bytes rest errorMsg

theorem readBytes_eq_ok {cursor bytes rest : List UInt8} {n : Nat} {errorMsg : String}
    (read : readBytes cursor n errorMsg = .ok (bytes, rest)) :
    cursor = bytes ++ rest ∧ bytes.length = n := by
  unfold readBytes Except.mapError at read
  split at read
  · cases read
  · cases read
    exact readExact_eq_ok ‹_›

theorem readBytes_eq_error {cursor : List UInt8} {n : Nat} {errorMsg : String}
    (short : cursor.length < n) :
    readBytes cursor n errorMsg = .error (.invalidData errorMsg) := by
  simp [readBytes, readExact, Nat.not_le.mpr short, Except.mapError]

/-- A read of `n` bytes at offset `skipped` of the input, when the input covers them. -/
theorem readBytes_drop {n skipped : Nat} {data : List UInt8} {errorMsg : String}
    (long : skipped + n ≤ data.length) :
    readBytes (data.drop skipped) n errorMsg =
      .ok ((data.drop skipped).take n, data.drop (skipped + n)) := by
  rw [readBytes, readExact, if_pos (by simp; omega), List.drop_drop]
  rfl

/-- What `read_u64`, `read_u32` and `read_i32` share: a byteorder read of `width` bytes, cast to
the target type, with any failure mapped to `InvalidData(error_msg)`. -/
def readNumber {α : Type} (width : Nat) (cast : Nat → α) (cursor : List UInt8)
    (errorMsg : String) : Except ParseError (α × List UInt8) :=
  ((readLe width cursor).map fun (value, rest) => (cast value, rest)).mapError
    fun _ => .invalidData errorMsg

theorem readNumber_toLeBytes {α : Type} (width : Nat) (cast : Nat → α) (value : Nat)
    (rest : List UInt8) (errorMsg : String) :
    readNumber width cast (toLeBytes width value ++ rest) errorMsg =
      .ok (cast (value % 256 ^ width), rest) := by
  rw [readNumber, readLe_toLeBytes]
  rfl

theorem readNumber_eq_ok {α : Type} {width : Nat} {cast : Nat → α} {cursor rest : List UInt8}
    {errorMsg : String} {result : α}
    (read : readNumber width cast cursor errorMsg = .ok (result, rest)) :
    ∃ value < 256 ^ width, cast value = result ∧ cursor = toLeBytes width value ++ rest := by
  unfold readNumber Except.mapError Except.map at read
  split at read
  · cases read
  · rename_i mapped numberRead
    split at numberRead
    · cases numberRead
    · rename_i pair leRead
      cases numberRead
      cases read
      obtain ⟨split, small⟩ := readLe_eq_ok leRead
      exact ⟨pair.1, small, rfl, split⟩

theorem readNumber_eq_error {α : Type} {width : Nat} {cast : Nat → α} {cursor : List UInt8}
    {errorMsg : String} (short : cursor.length < width) :
    readNumber width cast cursor errorMsg = .error (.invalidData errorMsg) := by
  simp [readNumber, readLe, readExact, Nat.not_le.mpr short, Except.map, Except.mapError]

/-- A number read at offset `skipped` of the input, when the input covers it. -/
theorem readNumber_drop {α : Type} {width skipped : Nat} {cast : Nat → α} {data : List UInt8}
    {errorMsg : String} (long : skipped + width ≤ data.length) :
    readNumber width cast (data.drop skipped) errorMsg =
      .ok (cast (fromLeBytes ((data.drop skipped).take width)), data.drop (skipped + width)) := by
  rw [readNumber, readLe, readExact, if_pos (by simp; omega), List.drop_drop]
  rfl

/-- `read_u64`. -/
def readU64 (cursor : List UInt8) (errorMsg : String) : Except ParseError (UInt64 × List UInt8) :=
  readNumber 8 UInt64.ofNat cursor errorMsg

/-- `read_u32`. -/
def readU32 (cursor : List UInt8) (errorMsg : String) : Except ParseError (UInt32 × List UInt8) :=
  readNumber 4 UInt32.ofNat cursor errorMsg

/-- `read_i32`; an `i32` is modelled by its two's-complement bits. -/
def readI32 (cursor : List UInt8) (errorMsg : String) :
    Except ParseError (BitVec 32 × List UInt8) :=
  readNumber 4 (BitVec.ofNat 32) cursor errorMsg

theorem readU32_toLeBytes (value : UInt32) (rest : List UInt8) (errorMsg : String) :
    readU32 (toLeBytes 4 value.toNat ++ rest) errorMsg = .ok (value, rest) := by
  rw [readU32, readNumber_toLeBytes,
    Nat.mod_eq_of_lt (show value.toNat < 256 ^ 4 from UInt32.toNat_lt_size value)]
  exact congrArg (fun v => Except.ok (v, rest))
    (UInt32.toNat.inj (UInt32.toNat_ofNat_of_lt (UInt32.toNat_lt_size value)))

theorem readI32_toLeBytes (value : BitVec 32) (rest : List UInt8) (errorMsg : String) :
    readI32 (toLeBytes 4 value.toNat ++ rest) errorMsg = .ok (value, rest) := by
  rw [readI32, readNumber_toLeBytes,
    Nat.mod_eq_of_lt (show value.toNat < 256 ^ 4 from value.isLt), BitVec.ofNat_toNat,
    BitVec.setWidth_eq]

/-- `read_bool`: the next byte, `0` for false and `1` for true. -/
def readBool (cursor : List UInt8) (errorMsg : String) : Except ParseError (Bool × List UInt8) := do
  let (byte, rest) ← readNumber 1 id cursor errorMsg
  if byte = 0 then return (false, rest)
  else if byte = 1 then return (true, rest)
  else throw (.invalidData errorMsg)

/-- `read_bool` accepts exactly the bytes `0` and `1`, and consumes one byte. -/
theorem readBool_eq_ok {cursor rest : List UInt8} {errorMsg : String} {value : Bool}
    (read : readBool cursor errorMsg = .ok (value, rest)) :
    cursor = UInt8.ofNat (if value then 1 else 0) :: rest := by
  unfold readBool at read
  cases byteRead : readNumber 1 id cursor errorMsg with
  | error _ => simp [byteRead] at read
  | ok result =>
    obtain ⟨byte, after⟩ := result
    obtain ⟨byte, -, rfl, rfl⟩ := readNumber_eq_ok byteRead
    rw [byteRead, ok_bind] at read
    simp only [id] at read
    split at read
    · cases read
      subst_vars
      rfl
    · split at read
      · cases read
        subst_vars
        rfl
      · cases read

/-! ### Skipping -/

/-- `std::io::Cursor<&[u8]>`: the slice and the `u64` position, which `set_position` may put
anywhere, past the end of the slice included. -/
structure Cursor where
  inner : List UInt8
  position : UInt64
  deriving DecidableEq, Repr

/-- `skip_bytes`, on a 64-bit target, where `usize` and `u64` agree. The bound
`cursor.position() + n as u64` and the new position are the same `u64` sum; it wraps in a
release build. The result comes with the cursor as the call leaves it. -/
def skipBytes (cursor : Cursor) (n : UInt64) (errorMsg : String) :
    Except ParseError Unit × Cursor :=
  if cursor.inner.length < (cursor.position + n).toNat then
    (.error (.invalidData errorMsg), cursor)
  else
    (.ok (), { cursor with position := cursor.position + n })

theorem position_add_toNat (position n : UInt64) :
    (position + n).toNat = (position.toNat + n.toNat) % 2 ^ 64 :=
  BitVec.toNat_add _ _

/-- Away from the wrap, `skip_bytes` is the bounds-checked skip it is meant to be. -/
theorem skipBytes_of_no_wrap (cursor : Cursor) (n : UInt64) (errorMsg : String)
    (noWrap : cursor.position.toNat + n.toNat < 2 ^ 64) :
    skipBytes cursor n errorMsg =
      if cursor.position.toNat + n.toNat ≤ cursor.inner.length then
        (.ok (), { cursor with position := cursor.position + n })
      else (.error (.invalidData errorMsg), cursor) := by
  rw [skipBytes, position_add_toNat, Nat.mod_eq_of_lt noWrap]
  by_cases fits : cursor.position.toNat + n.toNat ≤ cursor.inner.length
  · rw [if_neg (Nat.not_lt.mpr fits), if_pos fits]
  · rw [if_pos (Nat.not_le.mp fits), if_neg fits]

/-- Two bytes skipped from position `1` of a three-byte slice. -/
theorem skipBytes_within_slice :
    (1 : UInt64).toNat + (2 : UInt64).toNat < 2 ^ 64 ∧
      skipBytes ⟨[7, 8, 9], 1⟩ 2 "Error skipping bytes" =
        if (1 : UInt64).toNat + (2 : UInt64).toNat ≤ [7, 8, 9].length then
          (.ok (), ⟨[7, 8, 9], 1 + 2⟩)
        else (.error (.invalidData "Error skipping bytes"), ⟨[7, 8, 9], 1⟩) :=
  ⟨by decide, skipBytes_of_no_wrap ⟨[7, 8, 9], 1⟩ 2 "Error skipping bytes" (by decide)⟩

/-- At position `1` over an empty slice, a skip of `u64::MAX` bytes passes the bound check,
since `1 + u64::MAX` wraps to `0`, and moves the position back to `0`. -/
theorem skipBytes_wrapping_skip :
    skipBytes ⟨[], 1⟩ 0xFFFFFFFFFFFFFFFF "Error skipping bytes" = (.ok (), ⟨[], 0⟩) :=
  rfl

/-! ### Script numbers -/

/-- `OP_0`. -/
def op0 : UInt8 := 0x00

/-- `OP_1_NEGATE`. -/
def op1Negate : UInt8 := 0x4f

/-- `OP_1`. -/
def op1 : UInt8 := 0x51

/-- `OP_16`. -/
def op16 : UInt8 := 0x60

@[simp] theorem op0_toNat : op0.toNat = 0x00 := rfl

@[simp] theorem op1Negate_toNat : op1Negate.toNat = 0x4f := rfl

@[simp] theorem op1_toNat : op1.toNat = 0x51 := rfl

@[simp] theorem op16_toNat : op16.toNat = 0x60 := rfl

/-- The `u64` that `read_zcash_script_i64` folds a pushed number into:
`num_bytes.iter().rev().fold(0, |acc, &byte| (acc << 8) | u64::from(byte))`. -/
def foldScriptNumber (numBytes : List UInt8) : UInt64 :=
  numBytes.reverse.foldl (fun acc byte => (acc <<< 8) ||| byte.toUInt64) 0

/-- `read_zcash_script_i64`; the `i64` it returns is modelled by its two's-complement bits.
`read_bytes(cursor, 1, ..)?[0]` is the one byte read. -/
def readZcashScriptI64 (cursor : List UInt8) : Except ParseError (BitVec 64 × List UInt8) := do
  let (first, cursor) ← readBytes cursor 1 "Error reading first byte in i64 script hash"
  let firstByte := first.headD 0
  if firstByte = op1Negate then return (-1, cursor)
  else if firstByte = op0 then return (0, cursor)
  else if op1 ≤ firstByte ∧ firstByte ≤ op16 then
    return ((firstByte.toUInt64 - (op1 - 1).toUInt64).toBitVec, cursor)
  else
    let (numBytes, cursor) ← readBytes cursor firstByte.toNat "Error reading i64 script hash"
    return ((foldScriptNumber numBytes).toBitVec, cursor)

theorem shiftLeft_eight_toNat (acc : UInt64) : (acc <<< 8).toNat = acc.toNat * 256 % 2 ^ 64 := by
  show (acc.toBitVec <<< (BitVec.ofNat 64 8 % BitVec.ofNat 64 64)).toNat = _
  rw [BitVec.shiftLeft_eq', BitVec.toNat_shiftLeft]
  simp [UInt64.toNat, Nat.shiftLeft_eq]

/-- One step of the fold: the `or` of a shifted accumulator and a byte is their sum. -/
theorem foldStep_toNat (acc : UInt64) (byte : UInt8) :
    ((acc <<< 8) ||| byte.toUInt64).toNat = (byte.toNat + 256 * acc.toNat) % 2 ^ 64 := by
  show (acc <<< 8).toNat ||| byte.toNat = _
  have byteLt : byte.toNat < 2 ^ 8 := UInt8.toNat_lt_size byte
  have shifted : acc.toNat * 256 % 2 ^ 64 = 2 ^ 8 * (acc.toNat % 2 ^ 56) := by omega
  rw [shiftLeft_eight_toNat, shifted, ← Nat.mul_add_lt_is_or byteLt]
  omega

/-- The fold keeps the low eight bytes of the pushed number: the bytes above them are
shifted out of the `u64`. -/
theorem foldScriptNumber_toNat (numBytes : List UInt8) :
    (foldScriptNumber numBytes).toNat = fromLeBytes numBytes % 2 ^ 64 := by
  rw [foldScriptNumber, List.foldl_reverse]
  induction numBytes with
  | nil => rfl
  | cons low high inductionHypothesis =>
    rw [List.foldr_cons, foldStep_toNat, inductionHypothesis, fromLeBytes_cons]
    omega

end Zaino
