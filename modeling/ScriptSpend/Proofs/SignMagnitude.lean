import ScriptSpend.Proofs.LeastDigits

/-!
# Signs and magnitudes

Read with its least significant byte first, a byte string of any length is a number whose highest
bit is a sign and whose other bits are a magnitude. Zero has two signs, and every number has many
writings, as padding goes between the magnitude and the sign. One of the writings is shorter than
all others: the one that `encode` makes and that `isMinimal` recognises.

## Main definitions

* `ScriptNumber.signMagnitude`: the integer that a byte string denotes
* `ScriptNumber.IsShortest`: the writing of an integer that is shorter than any other

## Main results

* `decode_eq_signMagnitude`: what `decode` reads
* `minimalForm_eq_encode`: without padding a byte string is the minimal encoding of its value
* `length_encode_le_iff`: how many bytes an integer needs
* `isShortest_iff`, `isMinimal_iff_isShortest`: the minimal encodings are the shortest writings
-/

namespace ScriptSpend.ScriptNumber

variable {bytes low digits : Bytes} {byte top : UInt8} {n : Int} {k : Nat}

/-- The integer that a byte string denotes. Its highest bit counts for half of all the numbers of
its length and is the sign, the rest is the magnitude. -/
def signMagnitude (bytes : Bytes) : Int :=
  let signBit : Nat := 256 ^ bytes.length / 2
  if Bytes.toNatLE bytes < signBit then Bytes.toNatLE bytes
  else signBit - Bytes.toNatLE bytes

/-- Of the byte strings that denote an integer, the shortest one. -/
structure IsShortest (n : Int) (bytes : Bytes) : Prop where
  value : signMagnitude bytes = n
  length_lt : ∀ other, signMagnitude other = n → other ≠ bytes → bytes.length < other.length

section Bits

/-- The byte with no bit but the sign, if that. -/
def signByte (negative : Bool) : UInt8 := if negative then 0x80 else 0x00

theorem and_signMask : ∀ byte : UInt8, byte &&& 0x80 = signByte (hasSignBit byte) :=
  forall_byte (by decide +kernel)

/-- A byte is its sign and its other bits. -/
theorem and_magnitudeMask_or_signByte :
    ∀ byte : UInt8, (byte &&& 0x7f) ||| signByte (hasSignBit byte) = byte :=
  forall_byte (by decide +kernel)

theorem hasSignBit_and_magnitudeMask : ∀ byte : UInt8, hasSignBit (byte &&& 0x7f) = false :=
  forall_byte (by decide +kernel)

/-- Where the highest bit is free, a sign can be put there and taken away. -/
theorem or_signByte_of_free : ∀ byte : UInt8, hasSignBit byte = false → ∀ negative,
    hasSignBit (byte ||| signByte negative) = negative ∧
      (byte ||| signByte negative) &&& 0x7f = byte :=
  forall_byte (by decide +kernel)

theorem eq_signByte_of_hasMagnitudeBits (bare : hasMagnitudeBits byte = false) :
    byte = signByte (hasSignBit byte) := by
  have none : byte &&& 0x7f = 0 := by simpa [hasMagnitudeBits] using bare
  have joined := and_magnitudeMask_or_signByte byte
  rwa [none, UInt8.zero_or, eq_comm] at joined

theorem toNat_and_magnitudeMask (byte : UInt8) : (byte &&& 0x7f).toNat = byte.toNat % 128 := by
  rw [UInt8.toNat_and]
  exact Nat.and_two_pow_sub_one_eq_mod byte.toNat 7

theorem hasSignBit_iff : ∀ byte : UInt8, hasSignBit byte = true ↔ 128 ≤ byte.toNat :=
  forall_byte (by decide +kernel)

end Bits

section Values

/-- The last byte carries the sign, and the magnitude is what remains without it. -/
theorem decode_concat (low : Bytes) (top : UInt8) :
    decode (low ++ [top]) =
      if hasSignBit top then -(Bytes.toNatLE (low ++ [top &&& 0x7f]) : Int)
      else Bytes.toNatLE (low ++ [top &&& 0x7f]) := by
  simp [decode]

theorem toNatLE_concat (low : Bytes) (top : UInt8) :
    Bytes.toNatLE (low ++ [top]) = Bytes.toNatLE low + 256 ^ low.length * top.toNat := by
  simp [Bytes.toNatLE_append]

/-- Reading the sign off the last byte is reading it off the number that all bytes make. -/
theorem decode_eq_signMagnitude (bytes : Bytes) : decode bytes = signMagnitude bytes := by
  rcases List.eq_nil_or_concat bytes with rfl | ⟨low, top, rfl⟩
  · rfl
  · rw [List.concat_eq_append, decode_concat, signMagnitude, toNatLE_concat, toNatLE_concat,
      toNat_and_magnitudeMask, List.length_append, List.length_singleton, Nat.pow_succ]
    have lowBound := Bytes.toNatLE_lt low
    -- What the last byte counts for is a multiple of this weight.
    generalize 256 ^ low.length = weight at lowBound ⊢
    have half : weight * 256 / 2 = weight * 128 := by omega
    rw [half]
    by_cases signed : 128 ≤ top.toNat
    · obtain ⟨magnitude, split⟩ := Nat.exists_eq_add_of_le signed
      have small : (128 + magnitude) % 128 = magnitude := by
        have := top.toNat_lt
        omega
      have above : ¬ Bytes.toNatLE low + (weight * 128 + weight * magnitude) < weight * 128 := by
        omega
      rw [if_pos ((hasSignBit_iff top).mpr signed), split, small, Nat.mul_add, if_neg above]
      omega
    · have small : top.toNat % 128 = top.toNat := Nat.mod_eq_of_lt (Nat.not_le.mp signed)
      have below : weight * (top.toNat + 1) ≤ weight * 128 := Nat.mul_le_mul_left _ (by omega)
      rw [Nat.mul_add, Nat.mul_one] at below
      rw [if_neg (mt (hasSignBit_iff top).mp signed), small, if_pos (by omega)]

/-- A sign in the free bit of the last byte leaves the magnitude as it is. -/
theorem decode_concat_or (low : Bytes) (free : hasSignBit top = false) (negative : Bool) :
    decode (low ++ [top ||| signByte negative]) =
      if negative then -(Bytes.toNatLE (low ++ [top]) : Int) else Bytes.toNatLE (low ++ [top]) := by
  obtain ⟨sign, magnitude⟩ := or_signByte_of_free top free negative
  rw [decode_concat, sign, magnitude]

/-- So does a sign in a byte of its own. -/
theorem decode_concat_signByte (digits : Bytes) (negative : Bool) :
    decode (digits ++ [signByte negative]) =
      if negative then -(Bytes.toNatLE digits : Int) else Bytes.toNatLE digits := by
  have free : hasSignBit 0 = false := rfl
  have joined := decode_concat_or digits free negative
  rwa [UInt8.zero_or, toNatLE_concat, UInt8.toNat_zero, Nat.mul_zero, Nat.add_zero] at joined

/-- A sign joined to the digits of a magnitude makes the number of both. -/
theorem decode_attachSign (digits : Bytes) (negative : Bool) :
    decode (attachSign digits (signByte negative)) =
      if negative then -(Bytes.toNatLE digits : Int) else Bytes.toNatLE digits := by
  rcases List.eq_nil_or_concat digits with rfl | ⟨low, top, rfl⟩
  · cases negative <;> rfl
  · rw [List.concat_eq_append]
    cases signed : hasSignBit top with
    | true => rw [attachSign_concat_of_taken signed, decode_concat_signByte]
    | false => rw [attachSign_concat_of_free signed, decode_concat_or low signed]

theorem encode_eq_attachSign (n : Int) :
    encode n = attachSign (Bytes.digitsLE n.natAbs) (signByte (decide (n < 0))) := by
  simp [encode, signByte]

/-- An encoded integer is read back. -/
theorem decode_encode (n : Int) : decode (encode n) = n := by
  rw [encode_eq_attachSign, decode_attachSign, Bytes.toNatLE_digitsLE]
  by_cases negative : n < 0
  · rw [if_pos (decide_eq_true negative)]
    omega
  · rw [decide_eq_false negative, if_neg Bool.false_ne_true]
    omega

end Values

section Padding

/-- What is stripped from a byte string is zeros at its significant end. -/
theorem exists_eq_stripHighZeros_append (bytes : Bytes) :
    ∃ count, bytes = stripHighZeros bytes ++ List.replicate count 0 := by
  induction bytes using List.reverseRecOn with
  | nil => exact ⟨0, rfl⟩
  | append_singleton low top ih =>
    by_cases zero : top = 0
    · obtain ⟨count, shape⟩ := ih
      refine ⟨count + 1, ?_⟩
      rw [zero, stripHighZeros_concat_zero, List.replicate_succ', ← List.append_assoc, ← shape]
    · refine ⟨0, ?_⟩
      rw [stripHighZeros_concat_of_ne_zero zero, List.replicate_zero, List.append_nil]

theorem toNatLE_stripHighZeros (bytes : Bytes) :
    Bytes.toNatLE (stripHighZeros bytes) = Bytes.toNatLE bytes := by
  obtain ⟨count, shape⟩ := exists_eq_stripHighZeros_append bytes
  conv_rhs => rw [shape]
  rw [Bytes.toNatLE_append_replicate_zero]

/-- What is not minimal ends in a bare sign, above a byte that has room for it or above none. -/
theorem exists_concat_of_not_isMinimal (padded : isMinimal bytes = false) :
    ∃ low negative, bytes = low ++ [signByte negative] ∧ low.getLast?.any hasSignBit = false ∧
      minimalForm bytes = attachSign (stripHighZeros low) (signByte negative) := by
  rcases List.eq_nil_or_concat bytes with rfl | ⟨low, top, rfl⟩
  · cases padded
  · rw [List.concat_eq_append] at padded ⊢
    have parts := padded
    rw [isMinimal_concat, Bool.or_eq_false_iff] at parts
    have sign := eq_signByte_of_hasMagnitudeBits parts.1
    refine ⟨low, hasSignBit top, by rw [← sign], parts.2, ?_⟩
    rw [minimalForm, padded, if_neg Bool.false_ne_true, List.getLast?_concat]
    dsimp only
    rw [List.dropLast_concat, and_signMask]

/-- Taking padding away does not change the number. -/
theorem decode_minimalForm (bytes : Bytes) : decode (minimalForm bytes) = decode bytes := by
  cases minimal : isMinimal bytes with
  | true => rw [minimalForm_of_isMinimal minimal]
  | false =>
    obtain ⟨low, negative, rfl, -, form⟩ := exists_concat_of_not_isMinimal minimal
    rw [form, decode_attachSign, decode_concat_signByte, toNatLE_stripHighZeros]

/-- Digits without a zero at their end are those that the encoding of their number is made of. -/
theorem encode_of_digits (present : digits ≠ []) (significant : digits.getLast? ≠ some 0)
    (negative : Bool) :
    encode (if negative then -(Bytes.toNatLE digits : Int) else Bytes.toNatLE digits) =
      attachSign digits (signByte negative) := by
  have positive : 0 < Bytes.toNatLE digits := by
    refine Nat.pos_of_ne_zero fun zero => present ?_
    rw [← Bytes.digitsLE_toNatLE significant, zero]
    rfl
  rw [encode_eq_attachSign]
  cases negative with
  | true =>
    have below : -(Bytes.toNatLE digits : Int) < 0 := by omega
    rw [if_pos rfl, Int.natAbs_neg, Int.natAbs_natCast, Bytes.digitsLE_toNatLE significant,
      decide_eq_true below]
  | false =>
    have above : ¬ (Bytes.toNatLE digits : Int) < 0 := by omega
    rw [if_neg Bool.false_ne_true, Int.natAbs_natCast, Bytes.digitsLE_toNatLE significant,
      decide_eq_false above]

/-- A minimal byte string is the encoding of its value. -/
theorem encode_decode_of_isMinimal (minimal : isMinimal bytes = true) :
    encode (decode bytes) = bytes := by
  rcases List.eq_nil_or_concat bytes with rfl | ⟨low, top, rfl⟩
  · rfl
  rw [List.concat_eq_append] at minimal ⊢
  rw [isMinimal_concat] at minimal
  cases magnitude : hasMagnitudeBits top with
  | true =>
    -- The last byte without its sign is the last digit.
    have significant : (low ++ [top &&& 0x7f]).getLast? ≠ some 0 := by
      simpa [hasMagnitudeBits] using magnitude
    rw [decode_concat, encode_of_digits (by simp) significant,
      attachSign_concat_of_free (hasSignBit_and_magnitudeMask top), and_magnitudeMask_or_signByte]
  | false =>
    -- The last byte is the sign alone, and the last digit has the highest bit set.
    rw [magnitude, Bool.false_or] at minimal
    rcases List.eq_nil_or_concat low with rfl | ⟨lower, below, rfl⟩
    · cases minimal
    rw [List.concat_eq_append] at minimal ⊢
    have taken : hasSignBit below = true := by simpa using minimal
    have significant : (lower ++ [below]).getLast? ≠ some 0 := by
      rintro zero
      rw [List.getLast?_concat, Option.some.injEq] at zero
      rw [zero] at taken
      cases taken
    rw [eq_signByte_of_hasMagnitudeBits magnitude, decode_concat_signByte,
      encode_of_digits (by simp) significant, attachSign_concat_of_taken taken]

/-- Without padding a byte string is the encoding of its value. -/
theorem minimalForm_eq_encode (bytes : Bytes) : minimalForm bytes = encode (decode bytes) := by
  rw [← decode_minimalForm, encode_decode_of_isMinimal (isMinimal_minimalForm bytes)]

theorem isMinimal_encode (n : Int) : isMinimal (encode n) = true := by
  have minimal := isMinimal_minimalForm (encode n)
  rwa [minimalForm_eq_encode, decode_encode] at minimal

end Padding

section Lengths

theorem length_pos_of_getLast? (found : bytes.getLast? = some top) : 0 < bytes.length := by
  refine List.length_pos_iff.mpr fun absent => ?_
  rw [absent] at found
  cases found

theorem length_attachSign_le (magnitude : Bytes) (sign : UInt8) :
    (attachSign magnitude sign).length ≤ magnitude.length + 1 := by
  unfold attachSign
  split
  · exact Nat.zero_le _
  · rename_i top found
    have positive := length_pos_of_getLast? found
    split
    · simp
    · simp only [List.length_append, List.length_dropLast, List.length_singleton]
      omega

/-- A byte string that has padding becomes shorter without it. -/
theorem length_minimalForm_lt (padded : isMinimal bytes = false) :
    (minimalForm bytes).length < bytes.length := by
  obtain ⟨low, negative, rfl, room, form⟩ := exists_concat_of_not_isMinimal padded
  rw [form, List.length_append, List.length_singleton]
  obtain ⟨count, shape⟩ := exists_eq_stripHighZeros_append low
  rcases Nat.eq_zero_or_pos count with rfl | stripped
  · -- There were no zeros to strip, so the sign finds room in the last byte.
    rw [List.replicate_zero, List.append_nil] at shape
    rw [← shape]
    rcases List.eq_nil_or_concat low with rfl | ⟨lower, last, rfl⟩
    · exact Nat.succ_pos _
    · rw [List.concat_eq_append] at room ⊢
      have free : hasSignBit last = false := by simpa using room
      rw [attachSign_concat_of_free free, List.length_append, List.length_append]
      exact Nat.lt_succ_self _
  · have attached := length_attachSign_le (stripHighZeros low) (signByte negative)
    have lengths := congrArg List.length shape
    rw [List.length_append, List.length_replicate] at lengths
    omega

/-- Without padding an item is no longer than with it. -/
theorem length_minimalForm_le (bytes : Bytes) : (minimalForm bytes).length ≤ bytes.length := by
  cases minimal : isMinimal bytes with
  | true => rw [minimalForm_of_isMinimal minimal]
  | false => exact Nat.le_of_lt (length_minimalForm_lt minimal)

/-- An integer whose magnitude leaves one bit free for the sign can be written in so many bytes. -/
theorem exists_signMagnitude_eq (small : 2 * n.natAbs < 256 ^ k) :
    ∃ bytes : Bytes, bytes.length = k ∧ signMagnitude bytes = n := by
  have even : 256 ^ k = 1 ∨ 256 ^ k % 2 = 0 := by
    cases k with
    | zero => exact .inl rfl
    | succ k =>
      rw [Nat.pow_succ]
      omega
  -- The digits of the magnitude, with the weight of the highest bit added for a negative sign.
  refine ⟨Bytes.ofNatLE k (if n < 0 then 256 ^ k / 2 + n.natAbs else n.natAbs),
    Bytes.length_ofNatLE _ _, ?_⟩
  have fits : (if n < 0 then 256 ^ k / 2 + n.natAbs else n.natAbs) < 256 ^ k := by
    split <;> omega
  rw [signMagnitude, Bytes.length_ofNatLE, Bytes.toNatLE_ofNatLE, Nat.mod_eq_of_lt fits]
  generalize 256 ^ k = range at *
  split <;> split <;> omega

/-- An integer takes so many bytes if and only if they have room for its magnitude and its sign. -/
theorem length_encode_le_iff : (encode n).length ≤ k ↔ 2 * n.natAbs < 256 ^ k := by
  constructor
  · intro short
    have bounded := two_mul_natAbs_decode_lt (encode n)
    rw [decode_encode] at bounded
    exact Nat.lt_of_lt_of_le bounded (Nat.pow_le_pow_right (by decide) short)
  · intro small
    obtain ⟨bytes, length, value⟩ := exists_signMagnitude_eq small
    have shorter := length_minimalForm_le bytes
    rwa [minimalForm_eq_encode, decode_eq_signMagnitude, value, length] at shorter

/-- Only zero is written without any byte. -/
theorem encode_eq_nil_iff : encode n = [] ↔ n = 0 := by
  rw [← List.length_eq_zero_iff, ← Nat.le_zero, length_encode_le_iff]
  omega

end Lengths

section Shortest

/-- Every other writing of an integer has padding, and is longer than the encoding. -/
theorem isShortest_encode (n : Int) : IsShortest n (encode n) := by
  refine ⟨by rw [← decode_eq_signMagnitude, decode_encode], fun other value different => ?_⟩
  rw [← decode_eq_signMagnitude] at value
  cases minimal : isMinimal other with
  | true => exact absurd (by rw [← value, encode_decode_of_isMinimal minimal]) different
  | false =>
    have shorter := length_minimalForm_lt minimal
    rwa [minimalForm_eq_encode, value] at shorter

theorem isShortest_iff : IsShortest n bytes ↔ bytes = encode n := by
  constructor
  · intro shortest
    by_contra different
    have shorter := shortest.length_lt _ (isShortest_encode n).value (Ne.symm different)
    exact Nat.lt_asymm shorter ((isShortest_encode n).length_lt _ shortest.value different)
  · rintro rfl
    exact isShortest_encode n

/-- The minimal byte strings are those that no other writing of their value undercuts. -/
theorem isMinimal_iff_isShortest :
    isMinimal bytes = true ↔ IsShortest (signMagnitude bytes) bytes := by
  rw [isShortest_iff, ← decode_eq_signMagnitude]
  constructor
  · intro minimal
    rw [encode_decode_of_isMinimal minimal]
  · intro encoded
    rw [encoded]
    exact isMinimal_encode _

end Shortest

end ScriptSpend.ScriptNumber
