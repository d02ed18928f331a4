import ScriptSpend.Proofs.NumberBijection

/-!
# Canonical forms of numbers

An integer is denoted by many byte strings: any number of zero bytes goes between its magnitude and
its sign, and zero has two signs. Without that padding all of them become the same byte string, at
every length and so also beyond the eight bytes that a word holds. The truth of a stack item can be
read off there: the form of an item that is false has no bytes left.

## Main definitions

* `ScriptNumber.IsCanonicalForm`: of the byte strings that denote the same integer, the minimal one

## Main results

* `isTrue_iff`: an item is true if its integer is not zero
* `minimalForm_eq_minimalForm_iff`: byte strings have the same form if they denote the same integer
* `minimalForm_exact`: removing padding gives the canonical form
-/

namespace ScriptSpend.ScriptNumber

variable {bytes other low : Bytes} {top : UInt8} {limit : Nat}

section Truth

theorem isTrue_concat (low : Bytes) (top : UInt8) :
    isTrue (low ++ [top]) = (hasMagnitudeBits top || low.any (· != 0)) := by
  simp [isTrue]

/-- Whether a number is zero does not depend on its sign. -/
theorem decode_concat_eq_zero_iff :
    decode (low ++ [top]) = 0 ↔ Bytes.toNatLE (low ++ [top &&& 0x7f]) = 0 := by
  rw [decode_concat]
  split <;> omega

/-- An item is false if and only if it denotes zero, with either sign. -/
theorem isTrue_eq_false_iff : isTrue bytes = false ↔ decode bytes = 0 := by
  rcases List.eq_nil_or_concat bytes with rfl | ⟨low, top, rfl⟩
  · decide
  · -- Both sides say that all bytes are zero, the last one up to its sign.
    have bare : hasMagnitudeBits top = false ↔ top &&& 0x7f = 0 := bne_eq_false_iff_eq
    have zeros : low.any (· != 0) = false ↔ ∀ byte ∈ low, byte = 0 := by simp
    rw [List.concat_eq_append, isTrue_concat, Bool.or_eq_false_iff, bare, zeros,
      decode_concat_eq_zero_iff, Bytes.toNatLE_eq_zero_iff, List.forall_mem_append,
      List.forall_mem_singleton, and_comm]

theorem isTrue_iff : isTrue bytes = true ↔ signMagnitude bytes ≠ 0 := by
  rw [← decode_eq_signMagnitude, Ne, ← isTrue_eq_false_iff, Bool.not_eq_false]

end Truth

section CanonicalForm

/-- A byte string is the canonical form of another one if it is the only minimal byte string that
denotes the same integer, and if it is no longer. -/
structure IsCanonicalForm (bytes form : Bytes) : Prop where
  value : signMagnitude form = signMagnitude bytes
  /-- It is minimal under every limit on the length that it keeps. -/
  minimal_iff : ∀ limit, isMinimalWithin limit form = true ↔ form.length ≤ limit
  length_le : form.length ≤ bytes.length
  unique : ∀ other limit, signMagnitude other = signMagnitude bytes →
    isMinimalWithin limit other = true → other = form

/-- Byte strings have the same form if and only if they denote the same integer. -/
theorem minimalForm_eq_minimalForm_iff :
    minimalForm bytes = minimalForm other ↔ signMagnitude bytes = signMagnitude other := by
  rw [← decode_eq_signMagnitude, ← decode_eq_signMagnitude]
  constructor
  · intro same
    rw [← decode_minimalForm bytes, same, decode_minimalForm]
  · intro same
    rw [minimalForm_eq_encode, same, ← minimalForm_eq_encode]

/-- The form is the only minimal byte string that denotes the integer. -/
theorem eq_minimalForm_of_isMinimalWithin (value : signMagnitude other = signMagnitude bytes)
    (minimal : isMinimalWithin limit other = true) : other = minimalForm bytes := by
  -- A minimal byte string is its own form, and the form depends on the integer alone.
  rw [isMinimalWithin, Bool.and_eq_true] at minimal
  rw [← minimalForm_eq_minimalForm_iff.mpr value, minimalForm_of_isMinimal minimal.2]

theorem isCanonicalForm_minimalForm (bytes : Bytes) :
    IsCanonicalForm bytes (minimalForm bytes) where
  value := minimalForm_eq_minimalForm_iff.mp (minimalForm_minimalForm bytes)
  minimal_iff _ := isMinimalWithin_minimalForm_iff_length_le
  length_le := length_minimalForm_le bytes
  unique _ _ := eq_minimalForm_of_isMinimalWithin

/-- Only the form of zero is empty. -/
theorem minimalForm_eq_nil_iff : minimalForm bytes = [] ↔ signMagnitude bytes = 0 := by
  rw [minimalForm_eq_encode, encode_eq_nil_iff, decode_eq_signMagnitude]

/-- The form of at most eight bytes is that of the word they are read as. -/
theorem minimalForm_eq_encodeWord (short : bytes.length ≤ 8) :
    minimalForm bytes = encodeWord (decodeWord bytes) := by
  rw [minimalForm_eq_encode, ← toInt_decodeWord short, encode_eq_encodeWord]

/-- Without its padding a byte string of any length has become its canonical form, which has no
padding to lose. An item is true if and only if it denotes an integer other than zero, and only then
does the form have any bytes. Up to eight bytes, the form is that of the word they are read as. -/
theorem minimalForm_exact (bytes : Bytes) :
    IsCanonicalForm bytes (minimalForm bytes) ∧
    minimalForm (minimalForm bytes) = minimalForm bytes ∧
    (isTrue bytes = true ↔ signMagnitude bytes ≠ 0) ∧
    (isTrue bytes = true ↔ minimalForm bytes ≠ []) ∧
    (bytes.length ≤ 8 → (decodeWord bytes).toInt = signMagnitude bytes ∧
      minimalForm bytes = encodeWord (decodeWord bytes)) := by
  refine ⟨isCanonicalForm_minimalForm bytes, minimalForm_minimalForm bytes, isTrue_iff, ?_, ?_⟩
  · rw [isTrue_iff, Ne, Ne, minimalForm_eq_nil_iff]
  · intro short
    exact ⟨by rw [toInt_decodeWord short, decode_eq_signMagnitude],
      minimalForm_eq_encodeWord short⟩

/-- Minus 255 has padding above a digit whose highest bit is set. The padding goes, and the sign
keeps a byte of its own. -/
theorem minimalForm_exact_minus255 :
    let padded : Bytes := [0xff, 0x00, 0x00, 0x80]
    padded.length ≤ 8 ∧ signMagnitude padded = -255 ∧ isTrue padded = true ∧
      IsCanonicalForm padded [0xff, 0x80] ∧ encodeWord (decodeWord padded) = [0xff, 0x80] := by
  intro padded
  have short : padded.length ≤ 8 := by decide
  have value : signMagnitude padded = -255 := by decide
  have form : minimalForm padded = [0xff, 0x80] := by decide
  obtain ⟨canonical, -, truth, -, words⟩ := minimalForm_exact padded
  rw [form] at canonical words
  exact ⟨short, value, truth.mpr (by rw [value]; decide), canonical, (words short).2.symm⟩

end CanonicalForm

end ScriptSpend.ScriptNumber
