import ScriptSpend.Proofs.CanonicalSignatures

/-!
# The encoding of a signature

A signature has an encoding if both of its numbers are positive and one byte can hold the length of
the whole. The length is that of the two magnitudes, of a byte for each sign that needs one, and of
the tags and lengths before them, so that it is known before anything is written.

Since its length stands at its start, an encoding is recognised by where it ends. A text that is cut
off before, or goes on behind, is refused.

## Main definitions

* `Der.integerLength`: how many bytes a number takes in an encoding

## Main results

* `Signature.exists_toDer_iff`: which signatures have an encoding
* `Der.components_of_append`, `Der.components_append`: an encoding cut short or continued is refused
* `Signature.toDer_exact`: writing and reading signatures
-/

namespace ScriptSpend

namespace Der

variable {body rest der front tail r s : Bytes} {top : UInt8} {n length : Nat}

section Length

/-- How many bytes a number takes: those of its magnitude, and one more where the highest bit of
these is set. -/
def integerLength (n : Nat) : Nat :=
  Bytes.width n + if 2 ^ (8 * Bytes.width n) ≤ 2 * n then 1 else 0

/-- The highest bit of the first digit is that of the number. -/
theorem signBit_digitsBE_iff (digits : Bytes.digitsBE n = top :: rest) :
    top &&& 0x80 ≠ 0 ↔ 2 ^ (8 * Bytes.width n) ≤ 2 * n := by
  have width : Bytes.width n = rest.length + 1 := by
    rw [← Bytes.length_digitsBE, digits, List.length_cons]
  have value : n = Bytes.toNatLE rest.reverse + 256 ^ rest.length * top.toNat := by
    rw [← Bytes.toNatBE_digitsBE n, digits, Bytes.toNatBE, List.reverse_cons, Bytes.toNatLE_append,
      List.length_reverse, Bytes.toNatLE_cons, Bytes.toNatLE_nil, Nat.mul_zero, Nat.add_zero]
  have below : Bytes.toNatLE rest.reverse < 256 ^ rest.length := by
    simpa using Bytes.toNatLE_lt rest.reverse
  rw [ne_eq, and_signBit_eq_zero_iff, Nat.not_lt, Bytes.two_pow_eight_mul, width, Nat.pow_succ]
  constructor
  · intro signed
    have := Nat.mul_le_mul_left (256 ^ rest.length) signed
    omega
  · -- All digits after the first come to less than one unit of it.
    intro large
    by_contra unsigned
    have := Nat.mul_le_mul_left (256 ^ rest.length) (Nat.le_of_lt_succ (Nat.not_le.mp unsigned))
    omega

@[simp] theorem length_integerBytes (n : Nat) : (integerBytes n).length = integerLength n := by
  have width := Bytes.length_digitsBE n
  unfold integerBytes integerLength
  cases digits : Bytes.digitsBE n with
  | nil =>
    rw [Bytes.digitsBE_eq_nil_iff.mp digits]
    rfl
  | cons top rest =>
    rw [digits] at width
    simp only [signBit_digitsBE_iff digits, ← width]
    split <;> rfl

end Length

section Ends

/-- A sequence whose length is not the one that it states is refused. -/
theorem components_of_length_ne (short : length < 0x80) (different : body.length ≠ length) :
    components (sequenceTag :: UInt8.ofNat length :: body) = .error .lengthMismatch := by
  have stated : readLength .sequence (UInt8.ofNat length :: body) = .ok (length, body) :=
    readLength_eq_ok_iff.mpr ⟨short, rfl⟩
  simp [components, readByte, bind, Except.bind, stated, different]

/-- What is cut off at the end is missed: before the length is read, or once it is. -/
theorem components_of_append (taken : components (front ++ tail) = .ok (r, s))
    (missing : tail ≠ []) :
    components front =
      .error (if front.length < 2 then .truncated .sequence else .lengthMismatch) := by
  obtain ⟨short, whole, -, -⟩ := components_eq_ok_iff.mp taken
  -- Neither the tag nor the length can be read from less than they take.
  match front with
  | [] => rfl
  | [tag] =>
    obtain ⟨rfl, -⟩ := List.cons_eq_cons.mp whole
    rfl
  | tag :: stated :: body =>
    obtain ⟨rfl, behind⟩ := List.cons_eq_cons.mp whole
    obtain ⟨rfl, parts⟩ := List.cons_eq_cons.mp behind
    have total := congrArg List.length parts
    simp only [List.append_eq, List.length_append, length_taggedInteger] at total
    have lost := List.length_pos_iff.mpr missing
    exact components_of_length_ne short (by omega)

/-- What follows an encoding is noticed. -/
theorem components_append (taken : components der = .ok (r, s)) (more : tail ≠ []) :
    components (der ++ tail) = .error .lengthMismatch := by
  obtain ⟨short, rfl, -, -⟩ := components_eq_ok_iff.mp taken
  have added := List.length_pos_iff.mpr more
  refine components_of_length_ne short ?_
  simp only [List.append_eq, List.length_append, length_taggedInteger]
  omega

end Ends

end Der

namespace Signature

open Der

variable {signature : Signature} {der front tail : Bytes} {cause : DerError}

/-- Both numbers must be positive, and everything after the first two bytes must fit in the length
that the second one can state. -/
theorem exists_toDer_iff :
    (∃ der, signature.toDer = .ok der) ↔
      0 < signature.r ∧ 0 < signature.s ∧
        4 + integerLength signature.r + integerLength signature.s ≤ 127 := by
  simp only [toDer, exceptIte_eq_ok_iff, length_integerBytes, exists_and_left, Except.ok.injEq,
    exists_eq', and_true, Nat.pos_iff_ne_zero, ne_eq]
  -- The bound on the whole implies those on its parts.
  refine and_congr_right fun _ => and_congr_right fun _ => ?_
  omega

/-- An encoding is read as what it writes. -/
theorem ofDer_of_toDer (written : signature.toDer = .ok der) : ofDer der = .ok signature := by
  obtain ⟨r, s, taken, ⟨-, first⟩, -, second⟩ := toDer_eq_ok_iff.mp written
  rw [ofDer, taken]
  exact congrArg Except.ok (congrArg₂ Signature.mk first second)

theorem ofDer_of_components (refused : components der = .error cause) :
    ofDer der = .error cause := by
  rw [ofDer, refused]
  rfl

end Signature

open Der ScopedSignature

/-- A signature has an encoding if and only if both numbers are positive and the body has at most
127 bytes. The encoding is read as this signature, while no text that it starts with or that starts
with it is read at all. With a scope behind it, it is read as the signature with the low byte of the
scope. -/
theorem Signature.toDer_exact (r s : Nat) :
    ((∃ der, toDer ⟨r, s⟩ = .ok der) ↔
      0 < r ∧ 0 < s ∧ 4 + integerLength r + integerLength s ≤ 127) ∧
    ∀ der, toDer ⟨r, s⟩ = .ok der →
      ofDer der = .ok ⟨r, s⟩ ∧
      (∀ front tail, front ++ tail = der → tail ≠ [] →
        ofDer front =
          .error (if front.length < 2 then .truncated .sequence else .lengthMismatch)) ∧
      (∀ tail, tail ≠ [] → ofDer (der ++ tail) = .error .lengthMismatch) ∧
      ∀ scope : Scope, ∃ item,
        toItem ⟨⟨r, s⟩, scope⟩ = .ok item ∧ ofItem item = .ok ⟨⟨r, s⟩, scope % 256⟩ := by
  refine ⟨exists_toDer_iff, fun der written => ?_⟩
  obtain ⟨_, _, taken, -⟩ := toDer_eq_ok_iff.mp written
  have read := ofDer_of_toDer written
  refine ⟨read, ?_, ?_, ?_⟩
  · rintro front tail rfl missing
    exact ofDer_of_components (components_of_append taken missing)
  · exact fun tail more => ofDer_of_components (components_append taken more)
  · intro scope
    refine ⟨der ++ [scope.toUInt8], by rw [toItem, written], ?_⟩
    rw [ofItem_of_ofDer read, UInt32.toUInt32_toUInt8]

/-- The longest body there can be. The sign of the first number takes a byte, that of the second
does not; if it did, there would be no encoding. -/
theorem Signature.toDer_exact_longest :
    let der := Der.sequence (0 :: 0x80 :: List.replicate 61 0) (0x40 :: List.replicate 59 0)
    toDer ⟨2 ^ 495, 2 ^ 478⟩ = .ok der ∧
      ofDer der = .ok ⟨2 ^ 495, 2 ^ 478⟩ ∧
      ofDer (der ++ [0]) = .error .lengthMismatch ∧
      ¬ ∃ der, toDer ⟨2 ^ 495, 2 ^ 479⟩ = .ok der := by
  intro der
  have written : toDer ⟨2 ^ 495, 2 ^ 478⟩ = .ok der := by decide +kernel
  obtain ⟨-, exact⟩ := toDer_exact (2 ^ 495) (2 ^ 478)
  obtain ⟨read, -, extended, -⟩ := exact der written
  refine ⟨written, read, extended [0] (by decide), ?_⟩
  rw [(toDer_exact (2 ^ 495) (2 ^ 479)).1]
  decide +kernel

end ScriptSpend
