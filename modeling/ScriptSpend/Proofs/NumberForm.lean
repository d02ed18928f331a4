import Mathlib.Data.List.Induction
import Mathlib.Tactic.Ring
import ScriptSpend.ScriptNumber

/-!
# Magnitudes and minimal forms

The sign takes one bit of a script number, so the magnitude has only the others. Four bytes hold
numbers below `2 ^ 31` in magnitude, and no operation on such numbers leaves the signed words of 64
bits. A byte string without redundant padding is minimal, and taking it again changes nothing.

## Main results

* `two_mul_natAbs_decode_lt`: the magnitude of a byte string is below half of its range
* `isMinimal_minimalForm`: the form without padding is minimal
-/

namespace ScriptSpend

/-- The bytes at the end of a byte string are its higher digits. -/
theorem Bytes.toNatLE_append (low high : Bytes) :
    Bytes.toNatLE (low ++ high) = Bytes.toNatLE low + 256 ^ low.length * Bytes.toNatLE high := by
  induction low with
  | nil => simp
  | cons byte low ih =>
    simp only [List.cons_append, Bytes.toNatLE_cons, ih, List.length_cons, Nat.pow_succ]
    ring

namespace ScriptNumber

section Magnitude

theorem toNat_and_magnitudeMask_lt (byte : UInt8) : (byte &&& 0x7f).toNat < 128 := by
  rw [UInt8.toNat_and]
  exact Nat.lt_of_le_of_lt Nat.and_le_right (by decide)

/-- One bit of the last byte is the sign, so a magnitude is below half of what the bytes could
count. -/
theorem two_mul_natAbs_decode_lt (bytes : Bytes) :
    2 * (decode bytes).natAbs < 256 ^ bytes.length := by
  rcases List.eq_nil_or_concat bytes with rfl | ⟨low, top, rfl⟩
  · decide
  · have lowBound := Bytes.toNatLE_lt low
    have topBound := toNat_and_magnitudeMask_lt top
    -- Of the last byte only the low seven bits count towards the magnitude.
    have magnitude : (decode (low ++ [top])).natAbs =
        Bytes.toNatLE low + 256 ^ low.length * (top &&& 0x7f).toNat := by
      have digits : Bytes.toNatLE (low ++ [top &&& 0x7f]) =
          Bytes.toNatLE low + 256 ^ low.length * (top &&& 0x7f).toNat := by
        simp [Bytes.toNatLE_append]
      rw [← digits]
      by_cases negative : hasSignBit top = true <;> simp [decode, negative]
    have bounded : 256 ^ low.length * ((top &&& 0x7f).toNat + 1) ≤ 256 ^ low.length * 128 :=
      Nat.mul_le_mul_left _ topBound
    rw [Nat.mul_add, Nat.mul_one] at bounded
    rw [List.concat_eq_append, magnitude, List.length_append, List.length_singleton, Nat.pow_succ]
    omega

/-- What is read is short enough, minimal where that is asked for, and the number that it denotes.
-/
theorem parse_eq_ok_iff {limit : Nat} {minimal : Bool} {bytes : Bytes} {n : Int} :
    parse limit minimal bytes = .ok n ↔
      bytes.length ≤ limit ∧ (minimal = true → isMinimal bytes = true) ∧ decode bytes = n := by
  unfold parse
  split
  · rename_i long
    exact iff_of_false nofun fun ⟨short, _⟩ => Nat.not_lt.mpr short long
  · rename_i short
    cases minimal <;> cases isMinimal bytes <;> simp [Nat.not_lt.mp short]

theorem decode_of_parse {limit : Nat} {minimal : Bool} {bytes : Bytes} {n : Int}
    (parsed : parse limit minimal bytes = .ok n) : decode bytes = n :=
  (parse_eq_ok_iff.mp parsed).2.2

/-- An operand that was read has a magnitude below `2 ^ 31`. -/
theorem natAbs_lt_of_parse {minimal : Bool} {bytes : Bytes} {n : Int}
    (parsed : parse operandLimit minimal bytes = .ok n) : n.natAbs < 2 ^ 31 := by
  obtain ⟨short, -, rfl⟩ := parse_eq_ok_iff.mp parsed
  have range : 256 ^ bytes.length ≤ 256 ^ operandLimit := Nat.pow_le_pow_right (by decide) short
  have magnitude := two_mul_natAbs_decode_lt bytes
  have limit : 256 ^ operandLimit = 2 * 2 ^ 31 := by decide
  omega

end Magnitude

section MinimalForm

/-- A property of bytes holds of all of them if it holds of the first 256 numbers. -/
theorem forall_byte {p : UInt8 → Prop} (each : ∀ n < 256, p (UInt8.ofNat n)) (byte : UInt8) :
    p byte := by
  simpa using each byte.toNat byte.toNat_lt

theorem hasMagnitudeBits_of_ne_zero :
    ∀ byte : UInt8, byte ≠ 0 → hasSignBit byte = false → hasMagnitudeBits byte = true :=
  forall_byte (by decide +kernel)

/-- Joining a sign to a byte keeps the bits of its magnitude. -/
theorem hasMagnitudeBits_or {byte : UInt8} (sign : UInt8)
    (magnitude : hasMagnitudeBits byte = true) : hasMagnitudeBits (byte ||| sign) = true := by
  have joined : (byte ||| sign) &&& 0x7f = byte &&& 0x7f ||| sign &&& 0x7f := by
    apply UInt8.toNat.inj
    simp [Nat.and_or_distrib_right]
  simp_all [hasMagnitudeBits]

/-- A byte string is minimal if its last byte carries a bit of the magnitude, or if it is needed for
the sign. -/
theorem isMinimal_concat (low : Bytes) (top : UInt8) :
    isMinimal (low ++ [top]) = (hasMagnitudeBits top || low.getLast?.any hasSignBit) := by
  rw [isMinimal, List.reverse_append, List.reverse_singleton, List.singleton_append,
    ← List.head?_reverse]
  cases low.reverse <;> simp

/-- A sign takes the highest bit of the last digit where that is free. -/
theorem attachSign_concat_of_free {low : Bytes} {top sign : UInt8}
    (free : hasSignBit top = false) : attachSign (low ++ [top]) sign = low ++ [top ||| sign] := by
  simp [attachSign, free]

/-- Otherwise it takes a byte of its own. -/
theorem attachSign_concat_of_taken {low : Bytes} {top sign : UInt8}
    (taken : hasSignBit top = true) : attachSign (low ++ [top]) sign = low ++ [top] ++ [sign] := by
  simp [attachSign, taken]

/-- A zero at the end is one of those that are stripped. -/
theorem stripHighZeros_concat_zero (low : Bytes) :
    stripHighZeros (low ++ [0]) = stripHighZeros low := by
  simp [stripHighZeros]

/-- Nothing is stripped below another byte. -/
theorem stripHighZeros_concat_of_ne_zero {low : Bytes} {top : UInt8} (nonzero : top ≠ 0) :
    stripHighZeros (low ++ [top]) = low ++ [top] := by
  simp [stripHighZeros, nonzero]

/-- Without its zeros at the end, a byte string ends in a byte other than zero, if at all. -/
theorem stripHighZeros_eq_nil_or (bytes : Bytes) :
    stripHighZeros bytes = [] ∨ ∃ low top, top ≠ 0 ∧ stripHighZeros bytes = low ++ [top] := by
  induction bytes using List.reverseRecOn with
  | nil => exact .inl rfl
  | append_singleton low top ih =>
    by_cases zero : top = 0
    · rwa [zero, stripHighZeros_concat_zero]
    · exact .inr ⟨low, top, zero, stripHighZeros_concat_of_ne_zero zero⟩

/-- Digits without zeros at the end make a minimal number with either sign. -/
theorem isMinimal_attachSign_stripHighZeros (bytes : Bytes) (sign : UInt8) :
    isMinimal (attachSign (stripHighZeros bytes) sign) = true := by
  rcases stripHighZeros_eq_nil_or bytes with none | ⟨low, top, nonzero, digits⟩
  · rw [none]
    rfl
  · rw [digits]
    cases signed : hasSignBit top with
    | true =>
      -- The sign takes a byte of its own, which the sign bit below it makes necessary.
      rw [attachSign_concat_of_taken signed, isMinimal_concat, List.getLast?_concat,
        Option.any_some, signed, Bool.or_true]
    | false =>
      have magnitude := hasMagnitudeBits_of_ne_zero top nonzero signed
      rw [attachSign_concat_of_free signed, isMinimal_concat, hasMagnitudeBits_or sign magnitude,
        Bool.true_or]

theorem isMinimal_minimalForm (bytes : Bytes) : isMinimal (minimalForm bytes) = true := by
  unfold minimalForm
  split
  · assumption
  · split
    · rfl
    · exact isMinimal_attachSign_stripHighZeros _ _

theorem minimalForm_of_isMinimal {bytes : Bytes} (minimal : isMinimal bytes = true) :
    minimalForm bytes = bytes := by
  rw [minimalForm, if_pos minimal]

/-- A form without padding has none to lose. -/
@[simp] theorem minimalForm_minimalForm (bytes : Bytes) :
    minimalForm (minimalForm bytes) = minimalForm bytes :=
  minimalForm_of_isMinimal (isMinimal_minimalForm bytes)

/-- Of a form without padding, only the length is left to check. -/
theorem isMinimalWithin_minimalForm_iff_length_le {limit : Nat} {bytes : Bytes} :
    isMinimalWithin limit (minimalForm bytes) = true ↔ (minimalForm bytes).length ≤ limit := by
  rw [isMinimalWithin, isMinimal_minimalForm, Bool.and_true, decide_eq_true_eq]

end MinimalForm

end ScriptNumber

end ScriptSpend
