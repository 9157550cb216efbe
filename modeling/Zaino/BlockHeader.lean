/-
This file models `BlockHeaderData` of `blockcache/block.rs`: its parser, its serializer
`to_binary` and `get_block_hash`, and proves that the parser and the serializer are inverse.

In one direction, every header whose fields have the sizes the struct documents is parsed
back from its serialization followed by anything. In the other, whatever the parser accepts
is a header with those sizes whose serialization is exactly the prefix it consumed. The
second direction needs the strictness of `CompactSize::read`: a length prefix in a
non-canonical form would be accepted by a laxer reader and re-serialized differently, and the
block hash, which is computed from the re-serialization, would then not be the hash of the
bytes the node sent. SHA-256 is a parameter: nothing here depends on what it computes.
-/

import Zaino.CompactSize

namespace Zaino

/-- `BlockHeaderData`. The version, an `i32`, is modelled by its two's-complement bits. -/
structure BlockHeaderData where
  version : BitVec 32
  hashPrevBlock : List UInt8
  hashMerkleRoot : List UInt8
  hashFinalSaplingRoot : List UInt8
  time : UInt32
  nBitsBytes : List UInt8
  nonce : List UInt8
  solution : List UInt8
  deriving DecidableEq, Repr

namespace BlockHeaderData

/-- `BlockHeaderData::parse_from_slice`. The remainder comes first, as in the source. -/
def parseFromSlice (data : List UInt8) (txid : Option (List UInt8)) :
    Except ParseError (List UInt8 × BlockHeaderData) := do
  if txid ≠ none then
    throw (.invalidData "txid must be None for BlockHeaderData::parse_from_slice")
  let (version, cursor) ← readI32 data "Error reading BlockHeaderData::version"
  let (hashPrevBlock, cursor) ←
    readBytes cursor 32 "Error reading BlockHeaderData::hash_prev_block"
  let (hashMerkleRoot, cursor) ←
    readBytes cursor 32 "Error reading BlockHeaderData::hash_merkle_root"
  let (hashFinalSaplingRoot, cursor) ←
    readBytes cursor 32 "Error reading BlockHeaderData::hash_final_sapling_root"
  let (time, cursor) ← readU32 cursor "Error reading BlockHeaderData::time"
  let (nBitsBytes, cursor) ← readBytes cursor 4 "Error reading BlockHeaderData::n_bits_bytes"
  let (nonce, cursor) ← readBytes cursor 32 "Error reading BlockHeaderData::nonce"
  let (compactLength, cursor) ← (CompactSize.read cursor).mapError ParseError.io
  let (solution, cursor) ←
    readBytes cursor compactLength.toNat "Error reading BlockHeaderData::solution"
  return (cursor,
    { version := version, hashPrevBlock := hashPrevBlock, hashMerkleRoot := hashMerkleRoot,
      hashFinalSaplingRoot := hashFinalSaplingRoot, time := time, nBitsBytes := nBitsBytes,
      nonce := nonce, solution := solution })

/-- `BlockHeaderData::to_binary`. Its `Result` is never an error: it only writes to a
`Vec<u8>`. -/
def toBinary (header : BlockHeaderData) : List UInt8 :=
  toLeBytes 4 header.version.toNat ++ header.hashPrevBlock ++ header.hashMerkleRoot ++
    header.hashFinalSaplingRoot ++ toLeBytes 4 header.time.toNat ++ header.nBitsBytes ++
    header.nonce ++ CompactSize.write header.solution.length ++ header.solution

/-- `BlockHeaderData::get_block_hash`: SHA-256 of the serialized header, then SHA-256 of that
digest. -/
def getBlockHash (sha256 : List UInt8 → List UInt8) (header : BlockHeaderData) : List UInt8 :=
  sha256 (sha256 header.toBinary)

/-- The sizes the struct documents for its fixed fields, and a solution short enough for
`CompactSize`. These are exactly the headers the parser can return. -/
structure WellSized (header : BlockHeaderData) : Prop where
  hashPrevBlock : header.hashPrevBlock.length = 32
  hashMerkleRoot : header.hashMerkleRoot.length = 32
  hashFinalSaplingRoot : header.hashFinalSaplingRoot.length = 32
  nBitsBytes : header.nBitsBytes.length = 4
  nonce : header.nonce.length = 32
  solution : header.solution.length ≤ maxCompactSize

theorem length_toBinary {header : BlockHeaderData} (sized : header.WellSized) :
    header.toBinary.length =
      140 + (CompactSize.write header.solution.length).length + header.solution.length := by
  simp only [toBinary, List.length_append, length_toLeBytes, sized.hashPrevBlock,
    sized.hashMerkleRoot, sized.hashFinalSaplingRoot, sized.nBitsBytes, sized.nonce]

theorem bind_eq_ok {ε α β : Type} {x : Except ε α} {f : α → Except ε β} {b : β}
    (bound : (x >>= f) = .ok b) : ∃ a, x = .ok a ∧ f a = .ok b := by
  cases x with
  | error _ => cases bound
  | ok a => exact ⟨a, rfl, bound⟩

theorem compactSize_mapError_eq_ok {cursor rest : List UInt8} {value : UInt64}
    (read : (CompactSize.read cursor).mapError ParseError.io = .ok (value, rest)) :
    CompactSize.read cursor = .ok (value, rest) := by
  unfold Except.mapError at read
  split at read <;> cases read
  assumption

/-- Every well-sized header is parsed back from its serialization, whatever follows it. -/
theorem parseFromSlice_toBinary (header : BlockHeaderData) (sized : header.WellSized)
    (rest : List UInt8) : parseFromSlice (header.toBinary ++ rest) none = .ok (rest, header) := by
  have solutionRead := CompactSize.read_write header.solution.length sized.solution
    (header.solution ++ rest)
  simp only [parseFromSlice, toBinary, List.append_assoc, ne_eq, not_true_eq_false, if_false,
    readI32_toLeBytes, readBytes_append_of_length sized.hashPrevBlock,
    readBytes_append_of_length sized.hashMerkleRoot,
    readBytes_append_of_length sized.hashFinalSaplingRoot, readU32_toLeBytes,
    readBytes_append_of_length sized.nBitsBytes, readBytes_append_of_length sized.nonce,
    solutionRead, Except.mapError, ok_bind, UInt64.toNat_ofNat_of_lt
      (Nat.lt_of_le_of_lt sized.solution (by decide)), readBytes_append]
  rfl

/-- A header with the documented sizes and a three-byte solution, followed by two bytes. -/
theorem parseFromSlice_toBinary_sample :
    let header : BlockHeaderData :=
      { version := 4, hashPrevBlock := List.replicate 32 1, hashMerkleRoot := List.replicate 32 2,
        hashFinalSaplingRoot := List.replicate 32 3, time := 1477641360,
        nBitsBytes := [7, 7, 0, 31], nonce := List.replicate 32 5, solution := [9, 9, 9] }
    header.WellSized ∧ parseFromSlice (header.toBinary ++ [1, 2]) none = .ok ([1, 2], header) := by
  intro header
  have sized : header.WellSized := ⟨rfl, rfl, rfl, rfl, rfl, by decide⟩
  exact ⟨sized, parseFromSlice_toBinary header sized [1, 2]⟩

/-- Whatever the parser accepts is a well-sized header whose serialization is exactly the
prefix it consumed. -/
theorem toBinary_parseFromSlice {data rest : List UInt8} {header : BlockHeaderData}
    (parsed : parseFromSlice data none = .ok (rest, header)) :
    header.WellSized ∧ header.toBinary ++ rest = data := by
  simp only [parseFromSlice, ne_eq, not_true_eq_false, if_false, pure_bind] at parsed
  obtain ⟨⟨version, afterVersion⟩, versionRead, parsed⟩ := bind_eq_ok parsed
  obtain ⟨⟨hashPrevBlock, afterPrev⟩, prevRead, parsed⟩ := bind_eq_ok parsed
  obtain ⟨⟨hashMerkleRoot, afterMerkle⟩, merkleRead, parsed⟩ := bind_eq_ok parsed
  obtain ⟨⟨hashFinalSaplingRoot, afterSapling⟩, saplingRead, parsed⟩ := bind_eq_ok parsed
  obtain ⟨⟨time, afterTime⟩, timeRead, parsed⟩ := bind_eq_ok parsed
  obtain ⟨⟨nBitsBytes, afterBits⟩, bitsRead, parsed⟩ := bind_eq_ok parsed
  obtain ⟨⟨nonce, afterNonce⟩, nonceRead, parsed⟩ := bind_eq_ok parsed
  obtain ⟨⟨compactLength, afterLength⟩, lengthRead, parsed⟩ := bind_eq_ok parsed
  obtain ⟨⟨solution, afterSolution⟩, solutionRead, parsed⟩ := bind_eq_ok parsed
  cases parsed
  dsimp only at solutionRead
  obtain ⟨version, versionSmall, rfl, rfl⟩ := readNumber_eq_ok versionRead
  obtain ⟨time, timeSmall, rfl, rfl⟩ := readNumber_eq_ok timeRead
  obtain ⟨rfl, prevLength⟩ := readBytes_eq_ok prevRead
  obtain ⟨rfl, merkleLength⟩ := readBytes_eq_ok merkleRead
  obtain ⟨rfl, saplingLength⟩ := readBytes_eq_ok saplingRead
  obtain ⟨rfl, bitsLength⟩ := readBytes_eq_ok bitsRead
  obtain ⟨rfl, nonceLength⟩ := readBytes_eq_ok nonceRead
  obtain ⟨rfl, solutionLength⟩ := readBytes_eq_ok solutionRead
  obtain ⟨rfl, bounded⟩ := CompactSize.read_eq_ok (compactSize_mapError_eq_ok lengthRead)
  refine ⟨⟨prevLength, merkleLength, saplingLength, bitsLength, nonceLength,
    solutionLength ▸ bounded⟩, ?_⟩
  have versionBits : (BitVec.ofNat 32 version).toNat = version :=
    Nat.mod_eq_of_lt (show version < 2 ^ 32 from versionSmall)
  have timeBits : (UInt32.ofNat time).toNat = time :=
    UInt32.toNat_ofNat_of_lt (show time < UInt32.size from timeSmall)
  simp only [toBinary, versionBits, timeBits, solutionLength, List.append_assoc]

/-- What a successful parse consumed is the header's serialization: the fields have their
documented sizes, the prefix is 140 bytes, the canonical compact size of the solution and the
solution, and the block hash is the double SHA-256 of exactly those bytes of the input. -/
theorem parseFromSlice_consumed_prefix (sha256 : List UInt8 → List UInt8)
    {data rest : List UInt8} {header : BlockHeaderData}
    (parsed : parseFromSlice data none = .ok (rest, header)) :
    header.WellSized ∧ header.toBinary ++ rest = data ∧
      data.length - rest.length =
        140 + (CompactSize.write header.solution.length).length + header.solution.length ∧
      header.getBlockHash sha256 = sha256 (sha256 (data.take (data.length - rest.length))) := by
  obtain ⟨sized, split⟩ := toBinary_parseFromSlice parsed
  have consumed : data.length - rest.length = header.toBinary.length := by
    rw [← split, List.length_append, Nat.add_sub_cancel]
  refine ⟨sized, split, by rw [consumed, length_toBinary sized], ?_⟩
  rw [consumed, ← split, List.take_left]
  rfl

set_option maxRecDepth 8000 in
/-- The 141 zero bytes parse as a header of zeros with an empty solution. -/
theorem parseFromSlice_zero_header :
    ∃ rest header, parseFromSlice (List.replicate 141 0) none = .ok (rest, header) ∧
      header.WellSized ∧ header.toBinary ++ rest = List.replicate 141 0 ∧
      (List.replicate 141 0).length - rest.length =
        140 + (CompactSize.write header.solution.length).length + header.solution.length ∧
      header.getBlockHash List.reverse =
        List.reverse (List.reverse ((List.replicate 141 0).take
          ((List.replicate 141 0).length - rest.length))) :=
  ⟨_, _, rfl, parseFromSlice_consumed_prefix List.reverse (by rfl)⟩

/-! ### The header encoding is a prefix code

The parser accepts exactly the serializations of well-sized headers, each followed by
anything. From that alone, as for any decoder that is complete and sound, the serialization is
a prefix code: the bytes determine the header and where it ends, the parser never looks past
the header, and it rejects every cut of a serialization. When the cut falls in the fixed
140 bytes, the error names the field the input stops in. -/

/-- The parser accepts exactly the well-sized headers' serializations, whatever follows. -/
theorem parseFromSlice_eq_ok_iff {data rest : List UInt8} {header : BlockHeaderData} :
    parseFromSlice data none = .ok (rest, header) ↔
      header.WellSized ∧ header.toBinary ++ rest = data := by
  refine ⟨toBinary_parseFromSlice, ?_⟩
  rintro ⟨sized, rfl⟩
  have solutionRead := CompactSize.read_write header.solution.length sized.solution
    (header.solution ++ rest)
  simp only [parseFromSlice, toBinary, List.append_assoc, ne_eq, not_true_eq_false, if_false,
    readI32_toLeBytes, readBytes_append_of_length sized.hashPrevBlock,
    readBytes_append_of_length sized.hashMerkleRoot,
    readBytes_append_of_length sized.hashFinalSaplingRoot, readU32_toLeBytes,
    readBytes_append_of_length sized.nBitsBytes, readBytes_append_of_length sized.nonce,
    solutionRead, Except.mapError, ok_bind, UInt64.toNat_ofNat_of_lt
      (Nat.lt_of_le_of_lt sized.solution (by decide)), readBytes_append]
  rfl

/-- Two well-sized headers that start one byte stream are the same header, followed by the same
bytes: no serialization is a proper prefix of another, and none has two readings. -/
theorem toBinary_append_inj {first second : BlockHeaderData} (firstSized : first.WellSized)
    (secondSized : second.WellSized) {firstRest secondRest : List UInt8}
    (same : first.toBinary ++ firstRest = second.toBinary ++ secondRest) :
    first = second ∧ firstRest = secondRest := by
  have firstParse := parseFromSlice_eq_ok_iff.mpr ⟨firstSized, same⟩
  have secondParse : parseFromSlice (second.toBinary ++ secondRest) none =
      .ok (secondRest, second) := parseFromSlice_eq_ok_iff.mpr ⟨secondSized, rfl⟩
  rw [firstParse] at secondParse
  obtain ⟨rests, headers⟩ := Prod.mk.inj (Except.ok.inj secondParse)
  exact ⟨headers, rests⟩

/-- The sample header, followed by nothing, against itself followed by nothing. -/
theorem toBinary_append_inj_sample :
    let header : BlockHeaderData :=
      { version := 4, hashPrevBlock := List.replicate 32 1, hashMerkleRoot := List.replicate 32 2,
        hashFinalSaplingRoot := List.replicate 32 3, time := 1477641360,
        nBitsBytes := [7, 7, 0, 31], nonce := List.replicate 32 5, solution := [9, 9, 9] }
    header.WellSized ∧ header.toBinary ++ [] = header.toBinary ++ [] ∧
      header = header ∧ ([] : List UInt8) = [] := by
  intro header
  have sized : header.WellSized := ⟨rfl, rfl, rfl, rfl, rfl, by decide⟩
  exact ⟨sized, rfl, toBinary_append_inj sized sized rfl⟩

/-- The parser reads nothing past the header: what follows the input follows the remainder. -/
theorem parseFromSlice_append {data rest : List UInt8} {header : BlockHeaderData}
    (parsed : parseFromSlice data none = .ok (rest, header)) (more : List UInt8) :
    parseFromSlice (data ++ more) none = .ok (rest ++ more, header) := by
  obtain ⟨sized, rfl⟩ := parseFromSlice_eq_ok_iff.mp parsed
  exact parseFromSlice_eq_ok_iff.mpr ⟨sized, by rw [List.append_assoc]⟩

set_option maxRecDepth 8000 in
/-- The header of 141 zero bytes, with one more byte after it. -/
theorem parseFromSlice_append_zero_header :
    ∃ rest header, parseFromSlice (List.replicate 141 0) none = .ok (rest, header) ∧
      parseFromSlice (List.replicate 141 0 ++ [7]) none = .ok (rest ++ [7], header) :=
  ⟨_, _, rfl, parseFromSlice_append (by rfl) [7]⟩

/-- Every cut of a well-sized header's serialization is rejected, whichever field it falls in. -/
theorem parseFromSlice_take_toBinary {header : BlockHeaderData} (sized : header.WellSized)
    {length : Nat} (cut : length < header.toBinary.length) (rest : List UInt8)
    (parsed : BlockHeaderData) :
    parseFromSlice (header.toBinary.take length) none ≠ .ok (rest, parsed) := by
  intro accepted
  obtain ⟨parsedSized, split⟩ := parseFromSlice_eq_ok_iff.mp accepted
  have whole : parseFromSlice (parsed.toBinary ++ (rest ++ header.toBinary.drop length)) none =
      .ok ([], header) := by
    rw [← List.append_assoc, split, List.take_append_drop]
    exact parseFromSlice_eq_ok_iff.mpr ⟨sized, List.append_nil _⟩
  rw [parseFromSlice_eq_ok_iff.mpr ⟨parsedSized, rfl⟩] at whole
  have nothingLeft := (Prod.mk.inj (Except.ok.inj whole)).1
  have dropped := congrArg List.length (List.append_eq_nil.mp nothingLeft).2
  simp only [List.length_drop, List.length_nil] at dropped
  omega

/-- The sample header cut after its hundredth byte, in its Sapling root. -/
theorem parseFromSlice_take_toBinary_sample :
    let header : BlockHeaderData :=
      { version := 4, hashPrevBlock := List.replicate 32 1, hashMerkleRoot := List.replicate 32 2,
        hashFinalSaplingRoot := List.replicate 32 3, time := 1477641360,
        nBitsBytes := [7, 7, 0, 31], nonce := List.replicate 32 5, solution := [9, 9, 9] }
    header.WellSized ∧ 100 < header.toBinary.length ∧
      parseFromSlice (header.toBinary.take 100) none ≠ .ok ([], header) := by
  intro header
  have sized : header.WellSized := ⟨rfl, rfl, rfl, rfl, rfl, by decide⟩
  have long : 100 < header.toBinary.length := by rw [length_toBinary sized]; decide
  exact ⟨sized, long, parseFromSlice_take_toBinary sized long [] header⟩

/-- The message of the field of the fixed 140 bytes that covers byte `position`. -/
def truncatedField (position : Nat) : String :=
  if position < 4 then "Error reading BlockHeaderData::version"
  else if position < 36 then "Error reading BlockHeaderData::hash_prev_block"
  else if position < 68 then "Error reading BlockHeaderData::hash_merkle_root"
  else if position < 100 then "Error reading BlockHeaderData::hash_final_sapling_root"
  else if position < 104 then "Error reading BlockHeaderData::time"
  else if position < 108 then "Error reading BlockHeaderData::n_bits_bytes"
  else "Error reading BlockHeaderData::nonce"

/-- An input that stops within the fixed 140 bytes is rejected with the message of the field it
stops in. -/
theorem parseFromSlice_truncated {data : List UInt8} (short : data.length < 140) :
    parseFromSlice data none = .error (.invalidData (truncatedField data.length)) := by
  simp only [parseFromSlice, ne_eq, not_true_eq_false, if_false, pure_bind, readI32, readU32,
    truncatedField]
  by_cases version : data.length < 4
  · rw [readNumber_eq_error version, error_bind, if_pos version]
  rw [← List.drop_zero data, readNumber_drop (by simp; omega : 0 + 4 ≤ data.length), ok_bind,
    List.drop_zero, if_neg version]
  by_cases prev : data.length < 36
  · rw [readBytes_eq_error (by simp; omega), error_bind, if_pos prev]
  rw [readBytes_drop (by omega : 0 + 4 + 32 ≤ data.length), ok_bind, if_neg prev]
  by_cases merkle : data.length < 68
  · rw [readBytes_eq_error (by simp; omega), error_bind, if_pos merkle]
  rw [readBytes_drop (by omega : 0 + 4 + 32 + 32 ≤ data.length), ok_bind, if_neg merkle]
  by_cases sapling : data.length < 100
  · rw [readBytes_eq_error (by simp; omega), error_bind, if_pos sapling]
  rw [readBytes_drop (by omega : 0 + 4 + 32 + 32 + 32 ≤ data.length), ok_bind, if_neg sapling]
  by_cases time : data.length < 104
  · rw [readNumber_eq_error (by simp; omega), error_bind, if_pos time]
  rw [readNumber_drop (by omega : 0 + 4 + 32 + 32 + 32 + 4 ≤ data.length), ok_bind, if_neg time]
  by_cases bits : data.length < 108
  · rw [readBytes_eq_error (by simp; omega), error_bind, if_pos bits]
  rw [readBytes_drop (by omega : 0 + 4 + 32 + 32 + 32 + 4 + 4 ≤ data.length), ok_bind,
    if_neg bits, readBytes_eq_error (by simp; omega), error_bind]

/-- Seventy bytes stop in `hash_final_sapling_root`. -/
example : parseFromSlice (List.replicate 70 0) none =
    .error (.invalidData "Error reading BlockHeaderData::hash_final_sapling_root") :=
  parseFromSlice_truncated (by decide)

end BlockHeaderData

end Zaino
