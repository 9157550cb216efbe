/-
This file proves what `read_zcash_script_i64` computes. A coinbase script starts with the
block height, pushed the way script encoders push a number: `OP_0`, one of `OP_1` to `OP_16`,
or a length byte followed by the number's minimal little-endian bytes, with a zero byte
added when the top bit of the last byte is set (a script number is signed). The reader
decodes every such push of a number below `2 ^ 63` to that number and stops exactly after the
push.

On an arbitrary script the reader is described by `scriptNumber`: the value a script's
leading number has once the low eight bytes of a long push are read as a signed 64-bit
integer, which is what the `u64` fold and the `as i64` cast compute.
-/

import Zaino.Utils

namespace Zaino

/-! ### The reader, one branch at a time -/

theorem readZcashScriptI64_nil :
    readZcashScriptI64 [] = .error (.invalidData "Error reading first byte in i64 script hash") :=
  rfl

theorem readZcashScriptI64_cons (firstByte : UInt8) (script : List UInt8) :
    readZcashScriptI64 (firstByte :: script) =
      if firstByte = op1Negate then .ok (-1, script)
      else if firstByte = op0 then .ok (0, script)
      else if op1 ≤ firstByte ∧ firstByte ≤ op16 then
        .ok ((firstByte.toUInt64 - (op1 - 1).toUInt64).toBitVec, script)
      else (readBytes script firstByte.toNat "Error reading i64 script hash").map
        fun (numBytes, rest) => ((foldScriptNumber numBytes).toBitVec, rest) := by
  have first : readBytes (firstByte :: script) 1 "Error reading first byte in i64 script hash" =
      .ok ([firstByte], script) := readBytes_append [firstByte] script _
  rw [readZcashScriptI64, first, ok_bind]
  simp only [List.headD_cons]
  split
  · rfl
  split
  · rfl
  split
  · rfl
  cases readBytes script firstByte.toNat "Error reading i64 script hash" <;> rfl

/-- The reader on a first byte that is neither `OP_1NEGATE` nor `OP_0`, seen by its value. -/
theorem readZcashScriptI64_cons_of_toNat {firstByte : UInt8} (script : List UInt8)
    (notZero : firstByte.toNat ≠ 0x00) (notNegate : firstByte.toNat ≠ 0x4f) :
    readZcashScriptI64 (firstByte :: script) =
      if op1 ≤ firstByte ∧ firstByte ≤ op16 then
        .ok ((firstByte.toUInt64 - (op1 - 1).toUInt64).toBitVec, script)
      else (readBytes script firstByte.toNat "Error reading i64 script hash").map
        fun (numBytes, rest) => ((foldScriptNumber numBytes).toBitVec, rest) := by
  rw [readZcashScriptI64_cons, if_neg (fun same => notNegate (by rw [same]; rfl)),
    if_neg (fun same => notZero (by rw [same]; rfl))]

/-- The reader reads nothing past the script's leading number. -/
theorem readZcashScriptI64_append {script rest : List UInt8} {number : BitVec 64}
    (read : readZcashScriptI64 script = .ok (number, rest)) (more : List UInt8) :
    readZcashScriptI64 (script ++ more) = .ok (number, rest ++ more) := by
  cases script with
  | nil => cases read
  | cons firstByte script =>
    rw [readZcashScriptI64_cons] at read
    rw [List.cons_append, readZcashScriptI64_cons]
    by_cases negate : firstByte = op1Negate
    · simp only [if_pos negate] at read ⊢
      cases read
      rfl
    by_cases zero : firstByte = op0
    · simp only [if_neg negate, if_pos zero] at read ⊢
      cases read
      rfl
    by_cases opcode : op1 ≤ firstByte ∧ firstByte ≤ op16
    · simp only [if_neg negate, if_neg zero, if_pos opcode] at read ⊢
      cases read
      rfl
    simp only [if_neg negate, if_neg zero, if_neg opcode] at read ⊢
    cases pushed : readBytes script firstByte.toNat "Error reading i64 script hash" with
    | error _ =>
      rw [pushed] at read
      cases read
    | ok pair =>
      obtain ⟨numBytes, after⟩ := pair
      rw [pushed] at read
      cases read
      obtain ⟨rfl, length⟩ := readBytes_eq_ok pushed
      rw [List.append_assoc, readBytes_append_of_length length]
      rfl

/-- The value of `OP_1` to `OP_16` is the opcode less `0x50`. -/
theorem smallOpcode_toNat {firstByte : UInt8} (opcode : op1 ≤ firstByte ∧ firstByte ≤ op16) :
    (firstByte.toUInt64 - (op1 - 1).toUInt64).toBitVec.toNat = firstByte.toNat - 0x50 := by
  have low : (0x51 : Nat) ≤ firstByte.toNat := opcode.1
  show (firstByte.toUInt64 - (op1 - 1).toUInt64).toNat = _
  rw [UInt64.toNat_sub_of_le _ _ (show (0x50 : Nat) ≤ firstByte.toNat by omega)]
  rfl

/-! ### Script numbers on every script -/

/-- The value of a script's leading number as the reader computes it: `0` for `OP_0`, `-1` for
`OP_1NEGATE`, the opcode less `0x50` for `OP_1` to `OP_16`, and otherwise the first byte
counts the bytes of an unsigned little-endian number, of which the low eight bytes are read
as a signed 64-bit integer. `none` when the script ends too early. -/
def scriptNumber : List UInt8 → Option Int
  | [] => none
  | firstByte :: script =>
    if firstByte = 0x00 then some 0
    else if firstByte = 0x4f then some (-1)
    else if 0x51 ≤ firstByte ∧ firstByte ≤ 0x60 then some (firstByte.toNat - 0x50 : Nat)
    else if script.length < firstByte.toNat then none
    else some (BitVec.ofNat 64 (fromLeBytes (script.take firstByte.toNat))).toInt

/-- The reader fails exactly where `scriptNumber` has no value, and otherwise returns the
`i64` with that value. -/
theorem readZcashScriptI64_scriptNumber (script : List UInt8) :
    match readZcashScriptI64 script with
    | .ok (number, _) => scriptNumber script = some number.toInt
    | .error _ => scriptNumber script = none := by
  cases script with
  | nil => rfl
  | cons firstByte script =>
    rw [readZcashScriptI64_cons]
    by_cases negate : firstByte = op1Negate
    · subst negate
      rfl
    by_cases zero : firstByte = op0
    · subst zero
      rfl
    have notZero : firstByte ≠ 0x00 := zero
    have notNegate : firstByte ≠ 0x4f := negate
    rw [if_neg negate, if_neg zero, scriptNumber, if_neg notZero, if_neg notNegate]
    by_cases opcode : op1 ≤ firstByte ∧ firstByte ≤ op16
    · rw [if_pos opcode, if_pos (show 0x51 ≤ firstByte ∧ firstByte ≤ 0x60 from opcode)]
      dsimp only
      rw [BitVec.toInt_eq_toNat_cond, smallOpcode_toNat opcode,
        if_pos (by have := UInt8.toNat_lt_size firstByte; unfold UInt8.size at this; omega)]
    rw [if_neg opcode, if_neg (show ¬(0x51 ≤ firstByte ∧ firstByte ≤ 0x60) from opcode)]
    by_cases short : script.length < firstByte.toNat
    · rw [readBytes_eq_error short, if_pos short]
      rfl
    · rw [if_neg short]
      have read : readBytes script firstByte.toNat "Error reading i64 script hash" =
          .ok (script.take firstByte.toNat, script.drop firstByte.toNat) := by
        simp [readBytes, readExact, Nat.not_lt.mp short, Except.mapError]
      rw [read]
      show some _ = some _
      congr 2
      apply BitVec.eq_of_toNat_eq
      rw [BitVec.toNat_ofNat]
      exact (foldScriptNumber_toNat _).symm

/-- Read the other way: where `scriptNumber` has a value the reader returns an `i64` of that
value, and elsewhere it fails. -/
theorem readZcashScriptI64_of_scriptNumber (script : List UInt8) :
    match scriptNumber script with
    | none => ∃ error, readZcashScriptI64 script = .error error
    | some number => ∃ heightNum rest,
        readZcashScriptI64 script = .ok (heightNum, rest) ∧ heightNum.toInt = number := by
  have agree := readZcashScriptI64_scriptNumber script
  cases read : readZcashScriptI64 script with
  | error error =>
    rw [read] at agree
    rw [agree]
    exact ⟨error, rfl⟩
  | ok result =>
    obtain ⟨heightNum, rest⟩ := result
    rw [read] at agree
    rw [agree]
    exact ⟨heightNum, rest, rfl, rfl⟩

/-! ### Minimal pushes -/

/-- The minimal little-endian bytes of a number: no trailing zero byte. -/
def minimalLeBytes (value : Nat) : List UInt8 :=
  if value = 0 then [] else UInt8.ofNat (value % 256) :: minimalLeBytes (value / 256)
termination_by value
decreasing_by omega

theorem minimalLeBytes_of_ne_zero {value : Nat} (nonzero : value ≠ 0) :
    minimalLeBytes value = UInt8.ofNat (value % 256) :: minimalLeBytes (value / 256) := by
  rw [minimalLeBytes, if_neg nonzero]

theorem fromLeBytes_minimalLeBytes (value : Nat) : fromLeBytes (minimalLeBytes value) = value := by
  induction value using minimalLeBytes.induct with
  | case1 => rw [minimalLeBytes, if_pos rfl]; rfl
  | case2 value nonzero inductionHypothesis =>
    rw [minimalLeBytes_of_ne_zero nonzero, fromLeBytes_cons, inductionHypothesis,
      UInt8.toNat_ofNat_of_lt (show value % 256 < UInt8.size from Nat.mod_lt _ (by decide))]
    omega

theorem length_minimalLeBytes_le {value width : Nat} (small : value < 256 ^ width) :
    (minimalLeBytes value).length ≤ width := by
  induction width generalizing value with
  | zero =>
    rw [Nat.pow_zero, Nat.lt_one_iff] at small
    rw [small, minimalLeBytes, if_pos rfl]
    rfl
  | succ width inductionHypothesis =>
    by_cases zero : value = 0
    · rw [zero, minimalLeBytes, if_pos rfl]
      exact Nat.zero_le _
    rw [minimalLeBytes_of_ne_zero zero, List.length_cons]
    exact Nat.succ_le_succ (inductionHypothesis (by rw [Nat.pow_succ] at small; omega))

/-- A list whose last byte has its top bit set denotes at least `128 * 256 ^ (length - 1)`. -/
theorem fromLeBytes_ge_of_getLast {bytes : List UInt8} {last : UInt8}
    (lastByte : bytes.getLast? = some last) :
    256 ^ (bytes.length - 1) * last.toNat ≤ fromLeBytes bytes := by
  obtain ⟨init, rfl⟩ := List.getLast?_eq_some_iff.mp lastByte
  rw [fromLeBytes_append, List.length_append, List.length_singleton, Nat.add_sub_cancel,
    fromLeBytes_cons, fromLeBytes_nil, Nat.mul_zero, Nat.add_zero]
  omega

/-- The minimal little-endian bytes of a number, with a zero byte added when the top bit of
the last one is set, so that the bytes do not read as a negative script number. -/
def signPaddedLeBytes (value : Nat) : List UInt8 :=
  let bytes := minimalLeBytes value
  if 0x80 ≤ (bytes.getLast?.getD 0).toNat then bytes ++ [0] else bytes

/-- The minimal script push of a non-negative number: `OP_0`, `OP_1` to `OP_16`, or a length
byte followed by the sign-padded minimal bytes. -/
def scriptPush (value : Nat) : List UInt8 :=
  if value = 0 then [0x00]
  else if value ≤ 16 then [UInt8.ofNat (0x50 + value)]
  else UInt8.ofNat (signPaddedLeBytes value).length :: signPaddedLeBytes value

theorem fromLeBytes_signPaddedLeBytes (value : Nat) :
    fromLeBytes (signPaddedLeBytes value) = value := by
  unfold signPaddedLeBytes
  dsimp only
  split
  · rw [fromLeBytes_append, fromLeBytes_minimalLeBytes]
    rfl
  · exact fromLeBytes_minimalLeBytes value

/-- Below `2 ^ 63` the padded bytes fit the eight bytes of an `i64`. -/
theorem length_signPaddedLeBytes {value : Nat} (nonzero : value ≠ 0) (small : value < 2 ^ 63) :
    1 ≤ (signPaddedLeBytes value).length ∧ (signPaddedLeBytes value).length ≤ 8 := by
  have nonempty : 1 ≤ (minimalLeBytes value).length := by
    rw [minimalLeBytes_of_ne_zero nonzero, List.length_cons]
    exact Nat.succ_le_succ (Nat.zero_le _)
  have fits : (minimalLeBytes value).length ≤ 8 :=
    length_minimalLeBytes_le (Nat.lt_trans small (by decide))
  unfold signPaddedLeBytes
  dsimp only
  split
  · rename_i topBit
    rw [List.length_append, List.length_singleton]
    cases lastByte : (minimalLeBytes value).getLast? with
    | none => rw [lastByte] at topBit; exact absurd topBit (by decide)
    | some last =>
      rw [lastByte, Option.getD_some] at topBit
      have atLeast := fromLeBytes_ge_of_getLast lastByte
      rw [fromLeBytes_minimalLeBytes] at atLeast
      have below : 256 ^ ((minimalLeBytes value).length - 1) * 128 < 256 ^ 7 * 128 :=
        calc 256 ^ ((minimalLeBytes value).length - 1) * 128
            ≤ 256 ^ ((minimalLeBytes value).length - 1) * last.toNat := Nat.mul_le_mul_left _ topBit
          _ ≤ value := atLeast
          _ < 256 ^ 7 * 128 := small
      have short := (Nat.pow_lt_pow_iff_right (by decide)).mp (Nat.lt_of_mul_lt_mul_right below)
      omega
  · exact ⟨nonempty, fits⟩

/-- The reader inverts the minimal push of every number below `2 ^ 63`, and stops right after
the push. -/
theorem readZcashScriptI64_scriptPush (value : Nat) (small : value < 2 ^ 63) (rest : List UInt8) :
    readZcashScriptI64 (scriptPush value ++ rest) = .ok (BitVec.ofNat 64 value, rest) := by
  unfold scriptPush
  by_cases zero : value = 0
  · subst zero
    rw [if_pos rfl, List.singleton_append, readZcashScriptI64_cons]
    rfl
  rw [if_neg zero]
  by_cases opcode : value ≤ 16
  · have byte : (UInt8.ofNat (0x50 + value)).toNat = 0x50 + value :=
      UInt8.toNat_ofNat_of_lt (by unfold UInt8.size; omega)
    have inRange : op1 ≤ UInt8.ofNat (0x50 + value) ∧ UInt8.ofNat (0x50 + value) ≤ op16 :=
      ⟨show (0x51 : Nat) ≤ (UInt8.ofNat (0x50 + value)).toNat by omega,
        show (UInt8.ofNat (0x50 + value)).toNat ≤ 0x60 by omega⟩
    rw [if_pos opcode, List.singleton_append,
      readZcashScriptI64_cons_of_toNat _ (by rw [byte]; omega) (by rw [byte]; omega),
      if_pos inRange]
    congr 2
    apply BitVec.eq_of_toNat_eq
    rw [smallOpcode_toNat inRange, byte, BitVec.toNat_ofNat]
    omega
  · obtain ⟨nonempty, fits⟩ := length_signPaddedLeBytes zero small
    have byte : (UInt8.ofNat (signPaddedLeBytes value).length).toNat =
        (signPaddedLeBytes value).length :=
      UInt8.toNat_ofNat_of_lt (by unfold UInt8.size; omega)
    have notOpcode : ¬(op1 ≤ UInt8.ofNat (signPaddedLeBytes value).length ∧
        UInt8.ofNat (signPaddedLeBytes value).length ≤ op16) := fun inRange => by
      have low : (0x51 : Nat) ≤ (UInt8.ofNat (signPaddedLeBytes value).length).toNat := inRange.1
      omega
    rw [if_neg opcode, List.cons_append,
      readZcashScriptI64_cons_of_toNat _ (by rw [byte]; omega) (by rw [byte]; omega),
      if_neg notOpcode, byte, readBytes_append]
    show Except.ok ((foldScriptNumber _).toBitVec, rest) = _
    congr 2
    apply BitVec.eq_of_toNat_eq
    rw [BitVec.toNat_ofNat]
    show (foldScriptNumber _).toNat = _
    rw [foldScriptNumber_toNat, fromLeBytes_signPaddedLeBytes]

/-- `128` is pushed as `[0x02, 0x80, 0x00]`: its byte has the top bit set, so it is padded. -/
theorem readZcashScriptI64_scriptPush_padded :
    (128 : Nat) < 2 ^ 63 ∧
      readZcashScriptI64 (scriptPush 128 ++ [0x51]) = .ok (BitVec.ofNat 64 128, [0x51]) :=
  ⟨by decide, readZcashScriptI64_scriptPush 128 (by decide) [0x51]⟩

end Zaino
