/-
This file models `FullBlock::parse_from_slice` and `FullBlock::get_block_height` of
`blockcache/block.rs`.

The transaction decoder `FullTransaction::parse_from_slice` lives in `transaction.rs`, which is
not part of this development: it is a parameter, and `FullTransaction` keeps only the fields
`block.rs` reads. SHA-256 is a parameter as in the header file. `get_block_height` indexes
`transactions[0]` and `transparent_inputs[0]`, which panic on an empty vector; a call that
can panic returns an `Outcome`.

Two facts about the source show up here as theorems about every input. The transaction loop
parses every transaction from `&data[cursor.position()..]` and never moves the cursor, so
each pass decodes the first transaction again; and a header followed by a zero transaction
count with an empty txid list reaches `transactions[0]` on an empty vector.
-/

import Zaino.BlockHeader
import Zaino.ScriptNumber
import Mathlib.Data.List.Forall2

namespace Zaino

/-- How a call that can panic ends: it returns, or it panics on an index out of bounds. -/
inductive Outcome (α : Type) where
  | returns (value : α)
  | panics
  deriving DecidableEq, Repr

/-- A transparent input, declared in `transaction.rs`: the one field `block.rs` reads. -/
structure TxIn where
  scriptSig : List UInt8
  deriving DecidableEq, Repr

/-- The transaction data of a `FullTransaction`, declared in `transaction.rs`: the one field
`block.rs` reads. -/
structure TransactionData where
  transparentInputs : List TxIn
  deriving DecidableEq, Repr

/-- `FullTransaction`, declared in `transaction.rs`: the one field `block.rs` reads. -/
structure FullTransaction where
  rawTransaction : TransactionData
  deriving DecidableEq, Repr

/-- `FullBlockHeader`. -/
structure FullBlockHeader where
  rawBlockHeader : BlockHeaderData
  cachedHash : List UInt8
  deriving DecidableEq, Repr

/-- `FullBlock`; the height, an `i32`, is modelled by its two's-complement bits. -/
structure FullBlock where
  hdr : FullBlockHeader
  vtx : List FullTransaction
  height : BitVec 32
  deriving DecidableEq, Repr

/-- The type of `FullTransaction::parse_from_slice`: the bytes and the txid context, to the
remainder and the transaction. -/
def TransactionParser : Type :=
  List UInt8 → Option (List UInt8) → Except ParseError (List UInt8 × FullTransaction)

/-! ### The block height -/

/-- `GENESIS_TARGET_DIFFICULTY`. -/
def genesisTargetDifficulty : UInt32 := 520617983

/-- `get_block_height` once it holds the coinbase script: the script number, clamped. The
`i64` comparisons are signed; `height_num as u32` and `height_num as i32` keep the low 32
bits. -/
def heightOfScript (coinbaseScript : List UInt8) : Except ParseError (BitVec 32) := do
  let (heightNum, _) ← readZcashScriptI64 coinbaseScript
  if heightNum.toInt < 0 then return -1
  if heightNum.toInt > 4294967295 then return -1
  if (heightNum.setWidth 32).toNat = genesisTargetDifficulty.toNat then return 0
  return heightNum.setWidth 32

/-- `FullBlock::get_block_height`: the script of the first input of the first transaction.
Either index panics on an empty vector. -/
def getBlockHeight (transactions : List FullTransaction) :
    Outcome (Except ParseError (BitVec 32)) :=
  match transactions with
  | [] => .panics
  | coinbase :: _ =>
    match coinbase.rawTransaction.transparentInputs with
    | [] => .panics
    | input :: _ => .returns (heightOfScript input.scriptSig)

theorem getBlockHeight_cons (script : List UInt8) (inputs : List TxIn)
    (transactions : List FullTransaction) :
    getBlockHeight (⟨⟨⟨script⟩ :: inputs⟩⟩ :: transactions) = .returns (heightOfScript script) :=
  rfl

theorem toInt_eq_toNat_of_nonneg {width : Nat} {number : BitVec width} (nonneg : 0 ≤ number.toInt) :
    number.toInt = number.toNat := by
  rw [BitVec.toInt_eq_toNat_cond] at nonneg ⊢
  split
  · rfl
  · rename_i high
    rw [if_neg high] at nonneg
    have := number.isLt
    omega

theorem setWidth_toNat_of_nonneg {heightNum : BitVec 64} (nonneg : 0 ≤ heightNum.toInt) :
    (heightNum.setWidth 32).toNat = heightNum.toInt.toNat % 2 ^ 32 := by
  rw [BitVec.toNat_setWidth, toInt_eq_toNat_of_nonneg nonneg, Int.toNat_ofNat]

theorem heightOfScript_of_read {script rest : List UInt8} {heightNum : BitVec 64}
    (read : readZcashScriptI64 script = .ok (heightNum, rest)) :
    heightOfScript script =
      if heightNum.toInt < 0 then .ok (-1)
      else if heightNum.toInt > 4294967295 then .ok (-1)
      else if (heightNum.setWidth 32).toNat = genesisTargetDifficulty.toNat then .ok 0
      else .ok (heightNum.setWidth 32) := by
  rw [heightOfScript, read, ok_bind]
  rfl

/-- Within `[0, u32::MAX]` and away from the genesis quirk, the height is the script number
cut to 32 bits, which keeps its value. -/
theorem heightOfScript_within {script rest : List UInt8} {heightNum : BitVec 64}
    (read : readZcashScriptI64 script = .ok (heightNum, rest)) (nonneg : 0 ≤ heightNum.toInt)
    (withinU32 : heightNum.toInt ≤ 4294967295) (notGenesis : heightNum.toInt ≠ 520617983) :
    heightOfScript script = .ok (heightNum.setWidth 32) ∧
      (heightNum.setWidth 32).toNat = heightNum.toInt.toNat := by
  have fits : (heightNum.setWidth 32).toNat = heightNum.toInt.toNat := by
    rw [setWidth_toNat_of_nonneg nonneg]
    omega
  have notQuirk : (heightNum.setWidth 32).toNat ≠ genesisTargetDifficulty.toNat := by
    rw [fits]
    show _ ≠ 520617983
    omega
  rw [heightOfScript_of_read read, if_neg (by omega), if_neg (by omega), if_neg notQuirk]
  exact ⟨rfl, fits⟩

/-- `get_block_height` clamps the script number: `-1` when it is negative or above `u32::MAX`,
`0` for the genesis quirk, and the number itself up to `i32::MAX`. It fails exactly when the
script ends before its number does: every number it reads gives a height. -/
theorem getBlockHeight_clamp (script : List UInt8) (inputs : List TxIn)
    (transactions : List FullTransaction) :
    match scriptNumber script with
    | none => ∃ error,
        getBlockHeight (⟨⟨⟨script⟩ :: inputs⟩⟩ :: transactions) = .returns (.error error)
    | some number =>
      (∃ height, getBlockHeight (⟨⟨⟨script⟩ :: inputs⟩⟩ :: transactions) = .returns (.ok height)) ∧
      (number < 0 ∨ 4294967295 < number →
        getBlockHeight (⟨⟨⟨script⟩ :: inputs⟩⟩ :: transactions) = .returns (.ok (-1))) ∧
      (number = 520617983 →
        getBlockHeight (⟨⟨⟨script⟩ :: inputs⟩⟩ :: transactions) = .returns (.ok 0)) ∧
      (0 ≤ number → number ≤ 2147483647 → number ≠ 520617983 →
        ∃ height, getBlockHeight (⟨⟨⟨script⟩ :: inputs⟩⟩ :: transactions) = .returns (.ok height) ∧
          height.toInt = number) := by
  have reader := readZcashScriptI64_of_scriptNumber script
  rw [getBlockHeight_cons]
  cases value : scriptNumber script with
  | none =>
    rw [value] at reader
    obtain ⟨error, read⟩ := reader
    exact ⟨error, by rw [heightOfScript, read]; rfl⟩
  | some number =>
    rw [value] at reader
    obtain ⟨heightNum, rest, read, rfl⟩ := reader
    refine ⟨?_, fun outside => ?_, fun genesis => ?_, fun nonneg bounded notGenesis => ?_⟩
    · rw [heightOfScript_of_read read]
      split_ifs <;> exact ⟨_, rfl⟩
    · rw [heightOfScript_of_read read]
      rcases outside with negative | large
      · rw [if_pos negative]
      · rw [if_neg (by omega), if_pos large]
    · rw [heightOfScript_of_read read, if_neg (by omega), if_neg (by omega),
        if_pos (by rw [setWidth_toNat_of_nonneg (by omega), genesis]; rfl)]
    · obtain ⟨kept, fits⟩ := heightOfScript_within read nonneg (by omega) notGenesis
      refine ⟨_, by rw [kept], ?_⟩
      rw [BitVec.toInt_eq_toNat_cond, fits, if_pos (by omega)]
      omega

/-- The spec's clamp reads a long push as an unbounded number; the `u64` fold keeps its low
eight bytes. A nine-byte push of `2 ^ 64 + 5` gives the height `5`, not `-1`. -/
theorem getBlockHeight_nine_byte_push :
    fromLeBytes [5, 0, 0, 0, 0, 0, 0, 0, 1] = 2 ^ 64 + 5 ∧
      getBlockHeight [⟨⟨[⟨[9, 5, 0, 0, 0, 0, 0, 0, 0, 1]⟩]⟩⟩] = .returns (.ok 5) :=
  ⟨rfl, rfl⟩

/-- Above `i32::MAX` and up to `u32::MAX` the clamp lets the script number through, and the
`as i32` cast wraps it: the height is the number less `2 ^ 32`, a negative height. -/
theorem getBlockHeight_wraps_above_i32_max (script : List UInt8) (inputs : List TxIn)
    (transactions : List FullTransaction) {number : Int} (read : scriptNumber script = some number)
    (aboveI32 : 2147483647 < number) (withinU32 : number ≤ 4294967295) :
    ∃ height, getBlockHeight (⟨⟨⟨script⟩ :: inputs⟩⟩ :: transactions) = .returns (.ok height) ∧
      height.toInt = number - 4294967296 := by
  have reader := readZcashScriptI64_of_scriptNumber script
  rw [read] at reader
  obtain ⟨heightNum, rest, readResult, rfl⟩ := reader
  obtain ⟨kept, fits⟩ := heightOfScript_within readResult (by omega) withinU32 (by omega)
  refine ⟨_, by rw [getBlockHeight_cons, kept], ?_⟩
  rw [BitVec.toInt_eq_toNat_cond, fits, if_neg (by omega)]
  omega

/-- A four-byte push of `2 ^ 31` gives the height `-2 ^ 31`. -/
theorem getBlockHeight_push_two_pow_31 :
    scriptNumber [4, 0, 0, 0, 0x80] = some 2147483648 ∧ (2147483647 : Int) < 2147483648 ∧
      (2147483648 : Int) ≤ 4294967295 ∧
      ∃ height, getBlockHeight [⟨⟨[⟨[4, 0, 0, 0, 0x80]⟩]⟩⟩] = .returns (.ok height) ∧
        height.toInt = 2147483648 - 4294967296 :=
  ⟨rfl, by decide, by decide,
    getBlockHeight_wraps_above_i32_max [4, 0, 0, 0, 0x80] [] [] rfl (by decide) (by decide)⟩

/-- The height depends only on the coinbase script's leading number: whatever bytes follow a
number that reads in full, `get_block_height` gives the same result. -/
theorem getBlockHeight_append_after_push {script rest : List UInt8} {heightNum : BitVec 64}
    (read : readZcashScriptI64 script = .ok (heightNum, rest)) (more : List UInt8)
    (inputs : List TxIn) (transactions : List FullTransaction) :
    getBlockHeight (⟨⟨⟨script ++ more⟩ :: inputs⟩⟩ :: transactions) =
      getBlockHeight (⟨⟨⟨script⟩ :: inputs⟩⟩ :: transactions) := by
  rw [getBlockHeight_cons, getBlockHeight_cons, heightOfScript_of_read read,
    heightOfScript_of_read (readZcashScriptI64_append read more)]

/-- A push of one million followed by two bytes of miner data. -/
theorem getBlockHeight_million_with_extra_nonce :
    ∃ heightNum rest, readZcashScriptI64 [0x03, 0x40, 0x42, 0x0f] = .ok (heightNum, rest) ∧
      getBlockHeight (⟨⟨⟨[0x03, 0x40, 0x42, 0x0f] ++ [0xde, 0xad]⟩ :: []⟩⟩ :: []) =
        getBlockHeight (⟨⟨⟨[0x03, 0x40, 0x42, 0x0f]⟩ :: []⟩⟩ :: []) := by
  refine ⟨_, _, rfl, ?_⟩
  exact getBlockHeight_append_after_push (by rfl) [0xde, 0xad] [] []

/-! ### The transaction loop -/

/-- The error of the loop's emptiness test. -/
def notEnoughData : ParseError :=
  .invalidData "parsing block transactions: not enough data for transaction."

section Loop

variable (parseTransaction : TransactionParser)

/-- The transaction loop of `FullBlock::parse_from_slice`, one pass per txid byte. Every pass
decodes `&data[cursor.position()..]`, which is `cursorData` on every pass, since nothing in
the loop moves the cursor; `remainingData` is what the previous pass left, which the loop
only tests for emptiness. -/
def parseTransactions (cursorData : List UInt8) :
    List UInt8 → List UInt8 → List FullTransaction →
      Except ParseError (List UInt8 × List FullTransaction)
  | [], remainingData, transactions => .ok (remainingData, transactions)
  | txidItem :: txid, remainingData, transactions =>
    if remainingData.isEmpty then .error notEnoughData
    else
      match parseTransaction cursorData (some [txidItem]) with
      | .error error => .error error
      | .ok (newRemainingData, tx) =>
        parseTransactions cursorData txid newRemainingData (transactions ++ [tx])

/-- A run of the loop: the loop succeeds exactly when each pass decodes `cursorData` with its
own txid, and it then returns the accumulated transactions followed by one transaction per
txid, with the remainder the last pass left. -/
theorem parseTransactions_eq_ok {cursorData remainingData remaining : List UInt8}
    {txid : List UInt8} {transactions result : List FullTransaction}
    (run : parseTransactions parseTransaction cursorData txid remainingData transactions =
      .ok (remaining, result)) :
    ∃ passes : List (List UInt8 × FullTransaction),
      List.Forall₂ (fun txidItem pass => parseTransaction cursorData (some [txidItem]) = .ok pass)
        txid passes ∧
      result = transactions ++ passes.map Prod.snd ∧
      remaining = (passes.getLast?.map Prod.fst).getD remainingData := by
  induction txid generalizing remainingData transactions with
  | nil =>
    cases run
    exact ⟨[], .nil, by simp, rfl⟩
  | cons txidItem txid inductionHypothesis =>
    unfold parseTransactions at run
    split at run
    · cases run
    · split at run
      · cases run
      · rename_i newRemainingData tx decoded
        obtain ⟨passes, each, rfl, rfl⟩ := inductionHypothesis run
        refine ⟨(newRemainingData, tx) :: passes, .cons decoded each, by simp, ?_⟩
        cases passes with
        | nil => rfl
        | cons pass passes => simp [List.getLast?_cons]

theorem getLast_fst_getD_cons (pass : List UInt8 × FullTransaction)
    (passes : List (List UInt8 × FullTransaction)) (fallback : List UInt8) :
    (((pass :: passes).getLast?).map Prod.fst).getD fallback =
      ((passes.getLast?).map Prod.fst).getD pass.1 := by
  cases passes with
  | nil => rfl
  | cons next passes => simp [List.getLast?_cons]

/-- The loop succeeds exactly when every pass decodes `cursorData` with its own txid and every
pass finds the bytes the previous one left, or the bytes after the count for the first,
non-empty; it then returns one transaction per txid and what the last pass left. -/
theorem parseTransactions_eq_ok_iff {cursorData remainingData remaining : List UInt8}
    {txid : List UInt8} {transactions result : List FullTransaction} :
    parseTransactions parseTransaction cursorData txid remainingData transactions =
        .ok (remaining, result) ↔
      ∃ passes : List (List UInt8 × FullTransaction),
        List.Forall₂ (fun txidItem pass => parseTransaction cursorData (some [txidItem]) = .ok pass)
          txid passes ∧
        (∀ checked ∈ (remainingData :: passes.map Prod.fst).take txid.length, checked ≠ []) ∧
        result = transactions ++ passes.map Prod.snd ∧
        remaining = (passes.getLast?.map Prod.fst).getD remainingData := by
  induction txid generalizing remainingData transactions with
  | nil =>
    constructor
    · intro run
      cases run
      exact ⟨[], .nil, by simp, by simp, rfl⟩
    · rintro ⟨passes, each, -, rfl, rfl⟩
      cases List.forall₂_nil_left_iff.mp each
      simp [parseTransactions]
  | cons txidItem txid inductionHypothesis =>
    constructor
    · intro run
      unfold parseTransactions at run
      split at run
      · cases run
      rename_i nonempty
      split at run
      · cases run
      rename_i newRemainingData tx decoded
      obtain ⟨passes, each, checked, rfl, rfl⟩ := inductionHypothesis.mp run
      refine ⟨(newRemainingData, tx) :: passes, .cons decoded each, ?_, by simp,
        (getLast_fst_getD_cons (newRemainingData, tx) passes remainingData).symm⟩
      simp only [List.map_cons, List.length_cons, List.take_succ_cons, List.forall_mem_cons]
      exact ⟨by simpa using nonempty, checked⟩
    · rintro ⟨_ | ⟨pass, passes⟩, each, checked, rfl, rfl⟩
      · cases each
      obtain ⟨decoded, each⟩ := List.forall₂_cons.mp each
      simp only [List.map_cons, List.length_cons, List.take_succ_cons,
        List.forall_mem_cons] at checked
      unfold parseTransactions
      rw [if_neg (by simpa using checked.1), decoded]
      exact inductionHypothesis.mpr ⟨passes, each, checked.2, by simp,
        getLast_fst_getD_cons _ _ _⟩

end Loop

/-! ### The block parser -/

/-- `FullBlock::parse_from_slice` up to the block height: the txid argument, the header, the
transaction count and the transaction loop. It returns the header, the remainder and the
transactions. `cursor.set_position(data.len() - remaining_data.len())` is modelled by
dropping that many bytes of `data`. -/
def parseBody (parseTransaction : TransactionParser) (data : List UInt8)
    (txid : Option (List UInt8)) :
    Except ParseError (BlockHeaderData × List UInt8 × List FullTransaction) := do
  let txid ← match txid with
    | some txid => pure txid
    | none => throw (.invalidData "txid must be used for FullBlock::parse_from_slice")
  let (remainingData, blockHeaderData) ← BlockHeaderData.parseFromSlice data none
  let cursor := data.drop (data.length - remainingData.length)
  let (txCount, cursor) ← (CompactSize.read cursor).mapError ParseError.io
  if txid.length ≠ txCount.toNat then
    throw (.invalidData ("number of txids (" ++ toString txid.length ++
      ") does not match tx_count (" ++ toString txCount.toNat ++ ")"))
  let (remainingData, transactions) ← parseTransactions parseTransaction cursor txid cursor []
  return (blockHeaderData, remainingData, transactions)

/-- `FullBlock::parse_from_slice`. -/
def FullBlock.parseFromSlice (parseTransaction : TransactionParser)
    (sha256 : List UInt8 → List UInt8) (data : List UInt8) (txid : Option (List UInt8)) :
    Outcome (Except ParseError (List UInt8 × FullBlock)) :=
  match parseBody parseTransaction data txid with
  | .error error => .returns (.error error)
  | .ok (blockHeaderData, remainingData, transactions) =>
    match getBlockHeight transactions with
    | .panics => .panics
    | .returns (.error error) => .returns (.error error)
    | .returns (.ok blockHeight) =>
      .returns (.ok (remainingData,
        { hdr := { rawBlockHeader := blockHeaderData,
                   cachedHash := blockHeaderData.getBlockHash sha256 },
          vtx := transactions, height := blockHeight }))

namespace FullBlock

theorem drop_length_sub {data head rest : List UInt8} (split : head ++ rest = data) :
    data.drop (data.length - rest.length) = rest := by
  subst split
  rw [List.length_append, Nat.add_sub_cancel, List.drop_left]

/-- What a successful `parseBody` did: it parsed a header, read a transaction count equal to
the number of txid bytes, and ran the loop on the bytes after the count. -/
theorem parseBody_eq_ok {parseTransaction : TransactionParser} {data txid remaining : List UInt8}
    {header : BlockHeaderData} {transactions : List FullTransaction}
    (body : parseBody parseTransaction data (some txid) = .ok (header, remaining, transactions)) :
    ∃ rest count cursorData, BlockHeaderData.parseFromSlice data none = .ok (rest, header) ∧
      CompactSize.read rest = .ok (count, cursorData) ∧ txid.length = count.toNat ∧
      parseTransactions parseTransaction cursorData txid cursorData [] =
        .ok (remaining, transactions) := by
  simp only [parseBody, pure_bind] at body
  obtain ⟨⟨rest, parsedHeader⟩, headerRead, body⟩ := BlockHeaderData.bind_eq_ok body
  obtain ⟨-, split⟩ := BlockHeaderData.toBinary_parseFromSlice headerRead
  obtain ⟨⟨count, cursorData⟩, countRead, body⟩ := BlockHeaderData.bind_eq_ok body
  dsimp only at countRead body
  rw [drop_length_sub split] at countRead
  split at body
  · cases body
  · rename_i sameLength
    obtain ⟨⟨loopRemaining, loopTransactions⟩, loop, body⟩ := BlockHeaderData.bind_eq_ok body
    cases body
    exact ⟨rest, count, cursorData, headerRead,
      BlockHeaderData.compactSize_mapError_eq_ok countRead, Decidable.of_not_not sameLength, loop⟩

/-- Every transaction of a parsed block is decoded from the same bytes, those right after the
transaction count, each pass with its own txid byte as context: nothing in the loop moves the
cursor, so the i-th transaction is not read from the bytes the (i-1)-th left. -/
theorem parseFromSlice_vtx_same_offset {parseTransaction : TransactionParser}
    {sha256 : List UInt8 → List UInt8} {data txid remaining : List UInt8} {block : FullBlock}
    (parsed : FullBlock.parseFromSlice parseTransaction sha256 data (some txid) =
      .returns (.ok (remaining, block))) :
    ∃ rest count cursorData,
      BlockHeaderData.parseFromSlice data none = .ok (rest, block.hdr.rawBlockHeader) ∧
      CompactSize.read rest = .ok (count, cursorData) ∧
      List.Forall₂ (fun txidItem tx =>
        ∃ after, parseTransaction cursorData (some [txidItem]) = .ok (after, tx))
        txid block.vtx := by
  unfold FullBlock.parseFromSlice at parsed
  split at parsed
  · cases parsed
  rename_i header bodyRemaining transactions body
  split at parsed
  · cases parsed
  · cases parsed
  cases parsed
  obtain ⟨rest, count, cursorData, headerRead, countRead, -, loop⟩ := parseBody_eq_ok body
  obtain ⟨passes, each, rfl, -⟩ := parseTransactions_eq_ok parseTransaction loop
  refine ⟨rest, count, cursorData, headerRead, countRead, ?_⟩
  rw [List.nil_append, List.forall₂_map_right_iff]
  exact each.imp fun _ pass decoded => ⟨pass.1, decoded⟩

set_option maxRecDepth 8000 in
/-- Two one-byte transactions after a zero header: the decoder reads one byte, the claim's
remainder is empty and its transactions are those of bytes `1` and `2`. The block holds the
first transaction twice and the remainder still holds the second. -/
theorem parseFromSlice_two_transactions :
    let decoder : TransactionParser := fun bytes _ => match bytes with
      | byte :: rest => .ok (rest, ⟨⟨[⟨[0x51, byte]⟩]⟩⟩)
      | [] => .error (.invalidData "")
    ∃ block, FullBlock.parseFromSlice decoder (fun _ => []) (List.replicate 141 0 ++ [2, 1, 2])
        (some [0xAA, 0xBB]) = .returns (.ok ([2], block)) ∧
      block.vtx = [⟨⟨[⟨[0x51, 1]⟩]⟩⟩, ⟨⟨[⟨[0x51, 1]⟩]⟩⟩] ∧
      ∃ rest count cursorData,
        BlockHeaderData.parseFromSlice (List.replicate 141 0 ++ [2, 1, 2]) none =
          .ok (rest, block.hdr.rawBlockHeader) ∧
        CompactSize.read rest = .ok (count, cursorData) ∧
        List.Forall₂ (fun txidItem tx =>
          ∃ after, decoder cursorData (some [txidItem]) = .ok (after, tx)) [0xAA, 0xBB] block.vtx :=
  by
    intro decoder
    exact ⟨_, rfl, rfl, @parseFromSlice_vtx_same_offset decoder (fun _ => [])
      (List.replicate 141 0 ++ [2, 1, 2]) [0xAA, 0xBB] [2] _ rfl⟩

/-- A header followed by a transaction count of zero, with an empty txid list, makes
`get_block_height` index an empty vector, whatever the transaction decoder. -/
theorem parseFromSlice_panics_of_empty_txid {data rest afterCount : List UInt8}
    {header : BlockHeaderData}
    (parsed : BlockHeaderData.parseFromSlice data none = .ok (rest, header))
    (noTransactions : CompactSize.read rest = .ok (0, afterCount))
    (parseTransaction : TransactionParser) (sha256 : List UInt8 → List UInt8) :
    FullBlock.parseFromSlice parseTransaction sha256 data (some []) = .panics := by
  obtain ⟨-, split⟩ := BlockHeaderData.toBinary_parseFromSlice parsed
  have body : parseBody parseTransaction data (some []) = .ok (header, afterCount, []) := by
    simp only [parseBody, pure_bind, parsed, ok_bind, drop_length_sub split, noTransactions]
    rfl
  rw [FullBlock.parseFromSlice, body]
  rfl

set_option maxRecDepth 8000 in
/-- The 142 zero bytes are a header of zeros with an empty solution and a transaction count of
zero; with an empty txid list the parser panics. -/
theorem parseFromSlice_zero_block_panics :
    (∃ rest header,
      BlockHeaderData.parseFromSlice (List.replicate 142 0) none = .ok (rest, header) ∧
      CompactSize.read rest = .ok (0, [])) ∧
    FullBlock.parseFromSlice (fun _ _ => .error (.invalidData "")) (fun _ => [])
      (List.replicate 142 0) (some []) = .panics :=
  ⟨⟨_, _, rfl, rfl⟩, parseFromSlice_panics_of_empty_txid (by rfl) (by rfl) _ _⟩

/-- `parseBody` succeeds exactly when the header parses, the count read after it equals the
number of txids, and the loop succeeds on the bytes after the count. -/
theorem parseBody_eq_ok_iff {parseTransaction : TransactionParser}
    {data txid remaining : List UInt8} {header : BlockHeaderData}
    {transactions : List FullTransaction} :
    parseBody parseTransaction data (some txid) = .ok (header, remaining, transactions) ↔
      ∃ rest count cursorData, BlockHeaderData.parseFromSlice data none = .ok (rest, header) ∧
        CompactSize.read rest = .ok (count, cursorData) ∧ txid.length = count.toNat ∧
        parseTransactions parseTransaction cursorData txid cursorData [] =
          .ok (remaining, transactions) := by
  refine ⟨parseBody_eq_ok, ?_⟩
  rintro ⟨rest, count, cursorData, headerRead, countRead, sameLength, loop⟩
  obtain ⟨-, split⟩ := BlockHeaderData.toBinary_parseFromSlice headerRead
  simp only [parseBody, pure_bind, headerRead, ok_bind, drop_length_sub split, countRead,
    Except.mapError, sameLength, ne_eq, not_true_eq_false, if_false, loop]
  rfl

/-- `FullBlock::parse_from_slice` returns a block exactly when `parseBody` returns its header,
remainder and transactions and the coinbase gives its height; the cached hash is the header's. -/
theorem parseFromSlice_eq_ok_iff_body {parseTransaction : TransactionParser}
    {sha256 : List UInt8 → List UInt8} {data remaining : List UInt8}
    {txid : Option (List UInt8)} {block : FullBlock} :
    FullBlock.parseFromSlice parseTransaction sha256 data txid = .returns (.ok (remaining, block)) ↔
      parseBody parseTransaction data txid =
          .ok (block.hdr.rawBlockHeader, remaining, block.vtx) ∧
        getBlockHeight block.vtx = .returns (.ok block.height) ∧
        block.hdr.cachedHash = block.hdr.rawBlockHeader.getBlockHash sha256 := by
  constructor
  · intro parsed
    unfold FullBlock.parseFromSlice at parsed
    split at parsed
    · cases parsed
    rename_i body
    split at parsed
    · cases parsed
    · cases parsed
    rename_i height
    cases parsed
    exact ⟨body, height, rfl⟩
  · rintro ⟨body, height, hash⟩
    rw [FullBlock.parseFromSlice, body]
    simp only [height, ← hash]

/-- What `FullBlock::parse_from_slice` accepts, exactly: a header, a transaction count equal to
the number of txids, one decoding of the bytes after the count per txid, each pass finding the
bytes the previous one left non-empty, and a coinbase that gives a height. The block holds
those transactions, the header and its hash, and the remainder is what the last pass left. -/
theorem parseFromSlice_returns_block_iff {parseTransaction : TransactionParser}
    {sha256 : List UInt8 → List UInt8} {data txid remaining : List UInt8} {block : FullBlock} :
    FullBlock.parseFromSlice parseTransaction sha256 data (some txid) =
        .returns (.ok (remaining, block)) ↔
      ∃ rest count cursorData, ∃ passes : List (List UInt8 × FullTransaction),
        BlockHeaderData.parseFromSlice data none = .ok (rest, block.hdr.rawBlockHeader) ∧
        CompactSize.read rest = .ok (count, cursorData) ∧ txid.length = count.toNat ∧
        List.Forall₂ (fun txidItem pass => parseTransaction cursorData (some [txidItem]) = .ok pass)
          txid passes ∧
        (∀ checked ∈ (cursorData :: passes.map Prod.fst).take txid.length, checked ≠ []) ∧
        block.vtx = passes.map Prod.snd ∧
        remaining = (passes.getLast?.map Prod.fst).getD cursorData ∧
        getBlockHeight block.vtx = .returns (.ok block.height) ∧
        block.hdr.cachedHash = block.hdr.rawBlockHeader.getBlockHash sha256 := by
  rw [parseFromSlice_eq_ok_iff_body, parseBody_eq_ok_iff]
  constructor
  · rintro ⟨⟨rest, count, cursorData, headerRead, countRead, sameLength, loop⟩, height, hash⟩
    obtain ⟨passes, each, checked, transactions, last⟩ :=
      (parseTransactions_eq_ok_iff parseTransaction).mp loop
    exact ⟨rest, count, cursorData, passes, headerRead, countRead, sameLength, each, checked,
      by simpa using transactions, last, height, hash⟩
  · rintro ⟨rest, count, cursorData, passes, headerRead, countRead, sameLength, each, checked,
      transactions, last, height, hash⟩
    exact ⟨⟨rest, count, cursorData, headerRead, countRead, sameLength,
      (parseTransactions_eq_ok_iff parseTransaction).mpr
        ⟨passes, each, checked, by simpa using transactions, last⟩⟩, height, hash⟩

/-- The hash a parsed block caches is the double SHA-256 of exactly the bytes its header was
read from, the first bytes of the input. -/
theorem parseFromSlice_cachedHash {parseTransaction : TransactionParser}
    {sha256 : List UInt8 → List UInt8} {data remaining : List UInt8} {txid : Option (List UInt8)}
    {block : FullBlock}
    (parsed : FullBlock.parseFromSlice parseTransaction sha256 data txid =
      .returns (.ok (remaining, block))) :
    block.hdr.rawBlockHeader.toBinary <+: data ∧
      block.hdr.cachedHash =
        sha256 (sha256 (data.take block.hdr.rawBlockHeader.toBinary.length)) := by
  obtain ⟨body, -, hash⟩ := parseFromSlice_eq_ok_iff_body.mp parsed
  cases txid with
  | none => cases body
  | some txid =>
    obtain ⟨rest, -, -, headerRead, -⟩ := parseBody_eq_ok body
    obtain ⟨-, split⟩ := BlockHeaderData.toBinary_parseFromSlice headerRead
    refine ⟨⟨rest, split⟩, ?_⟩
    rw [hash, ← split, List.take_left]
    rfl

set_option maxRecDepth 8000 in
/-- A zero header and one one-byte transaction: the cached hash covers the 141 header bytes. -/
theorem parseFromSlice_cachedHash_one_transaction :
    let decoder : TransactionParser := fun bytes _ => match bytes with
      | byte :: rest => .ok (rest, ⟨⟨[⟨[0x51, byte]⟩]⟩⟩)
      | [] => .error (.invalidData "")
    ∃ remaining block, FullBlock.parseFromSlice decoder List.reverse
        (List.replicate 141 0 ++ [1, 7]) (some [0xAA]) = .returns (.ok (remaining, block)) ∧
      block.hdr.rawBlockHeader.toBinary <+: (List.replicate 141 0 ++ [1, 7]) ∧
      block.hdr.cachedHash = List.reverse (List.reverse
        ((List.replicate 141 (0 : UInt8) ++ [1, 7]).take
          block.hdr.rawBlockHeader.toBinary.length)) := by
  intro decoder
  exact ⟨_, _, rfl, @parseFromSlice_cachedHash decoder List.reverse
    (List.replicate 141 0 ++ [1, 7]) _ (some [0xAA]) _ rfl⟩

/-- The block parser reads nothing past the block when the transaction parser reads nothing
past its transaction: whatever bytes follow the input, the same block parses, and the bytes
follow the remainder. -/
theorem parseFromSlice_append_of_stable {parseTransaction : TransactionParser}
    (stable : ∀ bytes rest more txidItem tx,
      parseTransaction bytes (some [txidItem]) = .ok (rest, tx) →
        parseTransaction (bytes ++ more) (some [txidItem]) = .ok (rest ++ more, tx))
    {sha256 : List UInt8 → List UInt8} {data remaining txid : List UInt8} {block : FullBlock}
    (parsed : FullBlock.parseFromSlice parseTransaction sha256 data (some txid) =
      .returns (.ok (remaining, block)))
    (more : List UInt8) :
    FullBlock.parseFromSlice parseTransaction sha256 (data ++ more) (some txid) =
      .returns (.ok (remaining ++ more, block)) := by
  obtain ⟨body, height, hash⟩ := parseFromSlice_eq_ok_iff_body.mp parsed
  obtain ⟨rest, count, cursorData, headerRead, countRead, sameLength, loop⟩ :=
    parseBody_eq_ok_iff.mp body
  obtain ⟨passes, each, checked, transactions, last⟩ :=
    (parseTransactions_eq_ok_iff parseTransaction).mp loop
  obtain ⟨sized, split⟩ := BlockHeaderData.parseFromSlice_eq_ok_iff.mp headerRead
  refine parseFromSlice_eq_ok_iff_body.mpr ⟨parseBody_eq_ok_iff.mpr ⟨rest ++ more, count,
    cursorData ++ more,
    BlockHeaderData.parseFromSlice_eq_ok_iff.mpr ⟨sized, by rw [← List.append_assoc, split]⟩,
    CompactSize.read_append countRead more, sameLength,
    (parseTransactions_eq_ok_iff parseTransaction).mpr
      ⟨passes.map fun pass => (pass.1 ++ more, pass.2), ?_, ?_, ?_, ?_⟩⟩, height, hash⟩
  · rw [List.forall₂_map_right_iff]
    exact each.imp fun _ _ decoded => stable _ _ more _ _ decoded
  · intro extended member
    have shape : ((cursorData ++ more) ::
        (passes.map fun pass => (pass.1 ++ more, pass.2)).map Prod.fst) =
        (cursorData :: passes.map Prod.fst).map (· ++ more) := by
      simp [Function.comp_def]
    rw [shape, ← List.map_take] at member
    obtain ⟨original, kept, rfl⟩ := List.mem_map.mp member
    exact List.append_ne_nil_of_left_ne_nil (checked original kept) more
  · simpa [Function.comp_def] using transactions
  · rw [last, List.getLast?_map, Option.map_map]
    cases passes.getLast? <;> rfl

set_option maxRecDepth 8000 in
/-- With a transaction parser that reads one byte, a zero header and one transaction parse the
same with a byte appended, which ends up in the remainder. -/
theorem parseFromSlice_append_one_byte :
    let decoder : TransactionParser := fun bytes _ => match bytes with
      | byte :: rest => .ok (rest, ⟨⟨[⟨[0x51, byte]⟩]⟩⟩)
      | [] => .error (.invalidData "")
    (∀ bytes rest more txidItem tx, decoder bytes (some [txidItem]) = .ok (rest, tx) →
        decoder (bytes ++ more) (some [txidItem]) = .ok (rest ++ more, tx)) ∧
      ∃ remaining block, FullBlock.parseFromSlice decoder List.reverse
          (List.replicate 141 0 ++ [1, 7]) (some [0xAA]) = .returns (.ok (remaining, block)) ∧
        FullBlock.parseFromSlice decoder List.reverse (List.replicate 141 0 ++ [1, 7] ++ [9])
          (some [0xAA]) = .returns (.ok (remaining ++ [9], block)) := by
  intro decoder
  have stable : ∀ bytes rest more txidItem tx, decoder bytes (some [txidItem]) = .ok (rest, tx) →
      decoder (bytes ++ more) (some [txidItem]) = .ok (rest ++ more, tx) := by
    intro bytes rest more txidItem tx decoded
    cases bytes with
    | nil => cases decoded
    | cons byte bytes => cases decoded; rfl
  refine ⟨stable, _, _, rfl, ?_⟩
  exact @parseFromSlice_append_of_stable decoder stable List.reverse
    (List.replicate 141 0 ++ [1, 7]) _ [0xAA] _ (by rfl) [9]

end FullBlock

end Zaino
