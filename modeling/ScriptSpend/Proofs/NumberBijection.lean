import Mathlib.Order.Basic
import ScriptSpend.Proofs.SignMagnitude

/-!
# Numbers and their operands

Up to eight bytes, operands are the same as numbers. Under the rule of minimality every operand is
the encoding of the number that it is read as, and every number whose magnitude leaves a bit for the
sign has one operand. Without that rule any byte string is read as its sign and its magnitude.

Neither reading nor writing leaves the words of 64 bits. So both are also written on words: reading
shifts byte after byte into an accumulator, and writing counts the zeros at the significant end of
the magnitude. These are the functions on integers of any size.

## Main definitions

* `ScriptNumber.decodeWord`, `ScriptNumber.parseWord`: what words of 64 bits are read
* `ScriptNumber.encodeWord`: the encoding of a word of 64 bits
* `ScriptNumber.ReadsAsWritten`: operands up to a length are in bijection with numbers

## Main results

* `parse_eq_parseWord`, `encode_eq_encodeWord`: reading and writing words
* `parse_bijective`: operands are in bijection with the numbers of their length
-/

namespace ScriptSpend.ScriptNumber

variable {bytes : Bytes} {limit : Nat} {n : Int}

section Words

/-- Shifts bytes into an accumulator, the last byte first. -/
def shiftIn (low : Bytes) (acc : Int64) : Int64 :=
  low.reverse.foldl (fun acc byte => acc <<< 8 ||| byte.toUInt64.toInt64) acc

/-- The word that at most eight bytes denote. -/
def decodeWord (bytes : Bytes) : Int64 :=
  match bytes.getLast? with
  | none => 0
  | some top =>
    let magnitude := shiftIn bytes.dropLast (top &&& 0x7f).toUInt64.toInt64
    if hasSignBit top then -magnitude else magnitude

/-- Reads a word of 64 bits. The length is checked before minimality and once more with it. -/
def parseWord (limit : Nat) (requireMinimal : Bool) (bytes : Bytes) : Except NumberError Int64 :=
  if limit < bytes.length then .error (.tooLong bytes.length limit)
  else if requireMinimal && !isMinimalWithin limit bytes then .error .notMinimal
  else .ok (decodeWord bytes)

/-- The encoding of a word: of its magnitude's eight bytes as many as the bits below the leading
zeros take up, and the sign. -/
def encodeWord (word : Int64) : Bytes :=
  let magnitude := word.abs.toUInt64
  let width := (64 - magnitude.toBitVec.clz.toNat + 7) / 8
  attachSign ((Bytes.ofNatLE 8 magnitude.toNat).take width) (if word < 0 then 0x80 else 0x00)

/-- As long as the highest byte is free, nothing is shifted out of the accumulator. -/
theorem toNat_shiftIn_step (acc : Int64) (byte : UInt8) (room : acc.toBitVec.toNat < 2 ^ 56) :
    (acc <<< 8 ||| byte.toUInt64.toInt64).toBitVec.toNat =
      byte.toNat + 256 * acc.toBitVec.toNat := by
  have shifted : (acc <<< 8).toBitVec.toNat = acc.toBitVec.toNat <<< 8 := by
    have eight : (8 : Int64).toBitVec.smod 64 = 8#64 := by decide
    have small : acc.toBitVec.toNat * 2 ^ 8 < 2 ^ 64 := by omega
    rw [Int64.toBitVec_shiftLeft, eight, BitVec.shiftLeft_eq', BitVec.toNat_shiftLeft,
      Nat.shiftLeft_eq, Nat.shiftLeft_eq]
    exact Nat.mod_eq_of_lt small
  have low : byte.toUInt64.toInt64.toBitVec.toNat = byte.toNat := by simp
  rw [Int64.toBitVec_or, BitVec.toNat_or, shifted, low,
    ← Nat.shiftLeft_add_eq_or_of_lt byte.toNat_lt, Nat.shiftLeft_eq]
  omega

theorem shiftIn_cons (byte : UInt8) (low : Bytes) (acc : Int64) :
    shiftIn (byte :: low) acc = shiftIn low acc <<< 8 ||| byte.toUInt64.toInt64 := by
  simp [shiftIn]

/-- The accumulator stands above the bytes that are shifted into it. -/
theorem toNat_shiftIn (low : Bytes) (acc : Int64)
    (room : 256 ^ low.length * (acc.toBitVec.toNat + 1) ≤ 2 ^ 64) :
    (shiftIn low acc).toBitVec.toNat =
      Bytes.toNatLE low + 256 ^ low.length * acc.toBitVec.toNat := by
  induction low with
  | nil => simp [shiftIn]
  | cons byte low ih =>
    -- The bytes behind this one are in the accumulator already, and leave its highest byte free.
    have lowBound := Bytes.toNatLE_lt low
    have above : 256 ^ (low.length + 1) * (acc.toBitVec.toNat + 1) =
        256 * (256 ^ low.length * acc.toBitVec.toNat + 256 ^ low.length) := by ring
    rw [List.length_cons, above] at room
    have shifted := ih (by rw [Nat.mul_add, Nat.mul_one]; omega)
    rw [shiftIn_cons, toNat_shiftIn_step _ byte (by omega), shifted, Bytes.toNatLE_cons,
      List.length_cons]
    ring

/-- The magnitude of at most eight bytes is a word that is not negative. -/
theorem toInt_shiftIn (low : Bytes) (top : UInt8) (short : low.length < 8) :
    (shiftIn low (top &&& 0x7f).toUInt64.toInt64).toInt =
      Bytes.toNatLE (low ++ [top &&& 0x7f]) := by
  have topBound := toNat_and_magnitudeMask_lt top
  have lowBound := Bytes.toNatLE_lt low
  have start : (top &&& 0x7f).toUInt64.toInt64.toBitVec.toNat = (top &&& 0x7f).toNat := by simp
  -- At most seven bytes stand below seven bits, so the highest bit of the word stays free.
  have weight : 256 ^ low.length ≤ 256 ^ 7 := Nat.pow_le_pow_right (by decide) (by omega)
  have room : 256 ^ low.length * ((top &&& 0x7f).toNat + 1) ≤ 256 ^ 7 * 128 :=
    Nat.mul_le_mul weight topBound
  have shifted := toNat_shiftIn low (top &&& 0x7f).toUInt64.toInt64 (by rw [start]; omega)
  rw [start, ← toNatLE_concat] at shifted
  have below : Bytes.toNatLE (low ++ [top &&& 0x7f]) < 2 ^ 63 := by
    rw [toNatLE_concat]
    rw [Nat.mul_add] at room
    omega
  rw [← Int64.toInt_toBitVec, BitVec.toInt_eq_toNat_of_lt (by omega), shifted]

/-- On words, at most eight bytes are read as they are on integers of any size. -/
theorem toInt_decodeWord (short : bytes.length ≤ 8) : (decodeWord bytes).toInt = decode bytes := by
  rcases List.eq_nil_or_concat bytes with rfl | ⟨low, top, rfl⟩
  · rfl
  · rw [List.concat_eq_append] at short ⊢
    rw [List.length_append, List.length_singleton] at short
    have magnitude := toInt_shiftIn low top (by omega)
    rw [decode_concat, decodeWord, List.getLast?_concat, List.dropLast_concat]
    dsimp only
    split
    · -- The magnitude of a word is less than that of the lowest one, so its negation is a word.
      have below := Int64.toInt_lt (shiftIn low (top &&& 0x7f).toUInt64.toInt64)
      rw [Int64.toInt_neg, magnitude] at *
      exact Int.bmod_eq_of_le (by omega) (by omega)
    · exact magnitude

/-- What is read on words is what is read on integers of any size, if there is room for it. -/
theorem parse_eq_parseWord (within : limit ≤ 8) (minimal : Bool) (bytes : Bytes) :
    parse limit minimal bytes = (parseWord limit minimal bytes).map Int64.toInt := by
  unfold parse parseWord
  split
  · rfl
  · rename_i short
    have fits : isMinimalWithin limit bytes = isMinimal bytes := by
      rw [isMinimalWithin, decide_eq_true (Nat.not_lt.mp short), Bool.true_and]
    rw [fits]
    split
    · rfl
    · rw [Except.map, toInt_decodeWord (by omega)]

/-- The magnitude of a word, which has room also for that of the lowest one. -/
theorem toNat_abs (word : Int64) : word.abs.toUInt64.toNat = word.toInt.natAbs := by
  rw [← UInt64.toNat_toBitVec, Int64.toBitVec_toUInt64, Int64.toBitVec_abs, BitVec.toNat_abs,
    ← Int64.toInt_toBitVec, BitVec.toInt_eq_msb_cond]
  have small := word.toBitVec.isLt
  split <;> omega

/-- The bytes that the bits below the leading zeros take up are those that the number needs. -/
theorem width_of_clz (word : BitVec 64) :
    (64 - word.clz.toNat + 7) / 8 = Bytes.width word.toNat := by
  -- Both numbers of bytes are enough for the same words.
  refine eq_of_forall_ge_iff fun k => ?_
  rw [Bytes.width_le_iff, ← Bytes.two_pow_eight_mul]
  constructor
  · intro enough
    exact BitVec.toNat_lt_two_pow_sub_clz.trans_le (Nat.pow_le_pow_right (by decide) (by omega))
  · intro small
    by_cases zero : word = 0#64
    · have all : (0#64).clz.toNat = 64 := by decide
      rw [zero, all]
      exact Nat.zero_le k
    · -- The highest bit that is set counts for more than all numbers of fewer bits.
      have large := BitVec.two_pow_sub_clz_le_toNat_of_ne_zero (by decide) zero
      have exponents := (Nat.pow_lt_pow_iff_right (by decide)).mp (large.trans_lt small)
      omega

/-- Words are written as integers of any size are. -/
theorem encode_eq_encodeWord (word : Int64) : encode word.toInt = encodeWord word := by
  have negative : word.toInt < 0 ↔ word < 0 := by
    rw [Int64.lt_iff_toInt_lt]
    rfl
  have narrow : Bytes.width word.toInt.natAbs ≤ 8 := by
    rw [← toNat_abs, Bytes.width_le_iff]
    exact word.abs.toUInt64.toNat_lt
  rw [encode, encodeWord, width_of_clz, UInt64.toNat_toBitVec, toNat_abs, Bytes.take_ofNatLE,
    Nat.min_eq_left narrow]
  simp only [negative]
  rfl

end Words

section Bijection

/-- The operands of at most `limit` bytes are in bijection with the numbers that they have room for.
-/
structure ReadsAsWritten (limit : Nat) : Prop where
  /-- Under the rule of minimality an operand is the encoding of what it is read as. -/
  parse_iff : ∀ bytes n, parse limit true bytes = .ok n ↔ bytes = encode n ∧ bytes.length ≤ limit
  length_iff : ∀ n k, (encode n).length ≤ k ↔ n.natAbs < 2 ^ (8 * k - 1)
  injective : ∀ bytes other n, parse limit true bytes = .ok n → parse limit true other = .ok n →
    bytes = other
  /-- The numbers of the range are those that have an operand, and they have one. -/
  existsUnique_iff : ∀ n : Int, n.natAbs < 2 ^ (8 * limit - 1) ↔
    ∃! bytes, parse limit true bytes = .ok n
  /-- Without the rule every byte string of the length is read. -/
  parse_lenient : ∀ bytes, bytes.length ≤ limit →
    parse limit false bytes = .ok (signMagnitude bytes)
  /-- All that is read are words. -/
  parse_word : ∀ minimal bytes,
    parse limit minimal bytes = (parseWord limit minimal bytes).map Int64.toInt
  encode_word : ∀ word : Int64, encode word.toInt = encodeWord word
  parseWord_iff : ∀ bytes word, parseWord limit true bytes = .ok word ↔
    bytes = encodeWord word ∧ bytes.length ≤ limit

/-- Under the rule of minimality, an operand is the encoding of a number that is short enough. -/
theorem parse_minimal_iff :
    parse limit true bytes = .ok n ↔ bytes = encode n ∧ bytes.length ≤ limit := by
  rw [parse_eq_ok_iff]
  constructor
  · rintro ⟨short, minimal, rfl⟩
    exact ⟨(encode_decode_of_isMinimal (minimal rfl)).symm, short⟩
  · rintro ⟨rfl, short⟩
    exact ⟨short, fun _ => isMinimal_encode n, decode_encode n⟩

/-- One bit of so many bytes is the sign. Without any byte there is no such bit, and only zero. -/
theorem two_mul_lt_pow_iff (m k : Nat) : 2 * m < 256 ^ k ↔ m < 2 ^ (8 * k - 1) := by
  cases k with
  | zero =>
    change 2 * m < 1 ↔ m < 1
    omega
  | succ k =>
    have half : 2 ^ (8 * (k + 1)) = 2 * 2 ^ (8 * (k + 1) - 1) :=
      (mul_pow_sub_one (by omega) 2).symm
    rw [← Bytes.two_pow_eight_mul, half]
    omega

theorem length_encode_le_iff_natAbs_lt (n : Int) (k : Nat) :
    (encode n).length ≤ k ↔ n.natAbs < 2 ^ (8 * k - 1) := by
  rw [length_encode_le_iff, two_mul_lt_pow_iff]

/-- A number of the range has its encoding for an operand, and no other. -/
theorem existsUnique_parse_iff :
    n.natAbs < 2 ^ (8 * limit - 1) ↔ ∃! bytes, parse limit true bytes = .ok n := by
  rw [← length_encode_le_iff_natAbs_lt]
  constructor
  · intro short
    exact ⟨encode n, parse_minimal_iff.mpr ⟨rfl, short⟩,
      fun other read => (parse_minimal_iff.mp read).1⟩
  · rintro ⟨bytes, read, -⟩
    obtain ⟨rfl, short⟩ := parse_minimal_iff.mp read
    exact short

/-- On words as well. -/
theorem parseWord_minimal_iff {word : Int64} (within : limit ≤ 8) :
    parseWord limit true bytes = .ok word ↔ bytes = encodeWord word ∧ bytes.length ≤ limit := by
  have same : parse limit true bytes = .ok word.toInt ↔ parseWord limit true bytes = .ok word := by
    rw [parse_eq_parseWord within]
    cases parseWord limit true bytes <;> simp [Except.map, Int64.toInt_inj]
  rw [← same, parse_minimal_iff, encode_eq_encodeWord]

/-- Up to eight bytes, script numbers are a bijection between operands and numbers, and what is read
and written on words of 64 bits is what is read and written on integers. -/
theorem parse_bijective (within : limit ≤ 8) : ReadsAsWritten limit where
  parse_iff _ _ := parse_minimal_iff
  length_iff := length_encode_le_iff_natAbs_lt
  injective bytes other n read readOther := by
    rw [(parse_minimal_iff.mp read).1, (parse_minimal_iff.mp readOther).1]
  existsUnique_iff _ := existsUnique_parse_iff
  parse_lenient bytes short :=
    parse_eq_ok_iff.mpr ⟨short, nofun, decode_eq_signMagnitude bytes⟩
  parse_word := parse_eq_parseWord within
  encode_word := encode_eq_encodeWord
  parseWord_iff _ _ := parseWord_minimal_iff within

/-- The lowest number of eight bytes has all bits set. The lowest word is one less, and takes
nine. -/
theorem parse_bijective_eight :
    8 ≤ 8 ∧ parse 8 true (List.replicate 8 0xff) = .ok (-(2 ^ 63 - 1)) ∧
      ¬ (encode Int64.minValue.toInt).length ≤ 8 := by
  have bijective := parse_bijective (Nat.le_refl 8)
  refine ⟨Nat.le_refl 8, (bijective.parse_iff _ _).mpr ⟨by decide +kernel, by decide⟩, ?_⟩
  rw [bijective.length_iff]
  decide

end Bijection

end ScriptSpend.ScriptNumber
