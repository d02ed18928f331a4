import ScriptSpend.Proofs.CheckSig
import ScriptSpend.Proofs.LeastDigits

/-!
# Canonical signatures

Three separate rules say what a signature on the stack looks like: how one is written, how one is
read, and which items pass as canonical. Reading alone is lenient, as it takes a set sign bit for a
part of the magnitude. Together the rules leave one writing to each signature: the canonical items
are those that writing two positive numbers and a scope comes to, and reading such an item gives
these numbers and this scope back.

## Main definitions

* `Der.IsPositive`: the bytes of a positive integer, written as it must be
* `Der.sequence`: the bytes of two integers, put together
* `ScopedSignature.Writes`: an item of admitted length that writes two numbers and a scope

## Main results

* `Der.isPositive_iff`: the bytes of a positive integer are its writing
* `Der.components_eq_ok_iff`: what an encoding is taken apart into
* `Signature.toDer_eq_ok_iff`: writing a signature and taking it apart agree
* `isSignatureItem_iff_writes`: the canonical items are the written ones
-/

namespace ScriptSpend

namespace Der

variable {part : DerPart} {bytes body rest der r s : Bytes} {n length : Nat} {byte : UInt8}

section Integers

/-- The bytes of a positive integer: there is a first one, it leaves the sign bit clear, and it is
zero only to do so. -/
def IsPositive (body : Bytes) : Prop :=
  (∀ part, checkInteger part body = .ok ()) ∧ startsNonNegative body = true

/-- The check does not depend on the part that it names in refusals. -/
theorem checkInteger_congr (other : DerPart) (checked : checkInteger part body = .ok ()) :
    checkInteger other body = .ok () := by
  match body with
  | [] => cases checked
  | [_] | _ :: _ :: _ =>
    simp only [checkInteger] at checked ⊢
    split at checked
    · cases checked
    · rw [if_neg ‹_›]

theorem IsPositive.of_checkInteger (checked : checkInteger part body = .ok ())
    (nonNegative : startsNonNegative body = true) : IsPositive body :=
  ⟨fun other => checkInteger_congr other checked, nonNegative⟩

theorem and_signBit_of_zero {byte : UInt8} (zero : byte = 0) : byte &&& 0x80 = 0 := by
  rw [zero]
  rfl

/-- A zero at the start is there for the sign bit of the byte behind it. -/
theorem isPositive_cons_iff {top : UInt8} :
    IsPositive (top :: rest) ↔
      top &&& 0x80 = 0 ∧ (top = 0 → ∃ next low, rest = next :: low ∧ next &&& 0x80 ≠ 0) := by
  have sign : startsNonNegative (top :: rest) = true ↔ top &&& 0x80 = 0 := by
    simp [startsNonNegative]
  have named : Nonempty DerPart := ⟨.r⟩
  rw [IsPositive, sign, and_comm]
  refine and_congr_right fun _ => ?_
  cases rest with
  | nil => by_cases zero : top = 0 <;> simp [checkInteger, zero]
  | cons next low =>
    by_cases zero : top = 0 <;> by_cases signed : next &&& 0x80 = 0 <;>
      simp [checkInteger, zero, signed]

theorem not_isPositive_nil : ¬ IsPositive [] := fun positive => by cases positive.1 .r

/-- The integer of these bytes is not zero. -/
theorem toNatBE_ne_zero_of_isPositive (positive : IsPositive body) : Bytes.toNatBE body ≠ 0 := by
  have significant {top : UInt8} (low : Bytes) (nonzero : top ≠ 0) :
      Bytes.toNatBE (top :: low) ≠ 0 := by
    rw [ne_eq, ← Bytes.digitsBE_eq_nil_iff, Bytes.digitsBE_toNatBE (by simpa using nonzero)]
    exact List.cons_ne_nil _ _
  cases body with
  | nil => exact absurd positive not_isPositive_nil
  | cons top rest =>
    obtain ⟨-, padding⟩ := isPositive_cons_iff.mp positive
    by_cases zero : top = 0
    · obtain ⟨next, low, rfl, signed⟩ := padding zero
      have nonzero : next ≠ 0 := mt and_signBit_of_zero signed
      have same : Bytes.toNatBE (top :: next :: low) = Bytes.toNatBE (next :: low) := by
        simp [Bytes.toNatBE, Bytes.toNatLE_append, zero]
      rw [same]
      exact significant low nonzero
    · exact significant rest zero

/-- What writes a positive integer denotes it. -/
theorem toNatBE_integerBytes (n : Nat) : Bytes.toNatBE (integerBytes n) = n := by
  have denoted := Bytes.toNatBE_digitsBE n
  unfold integerBytes
  cases digits : Bytes.digitsBE n with
  | nil => rwa [digits] at denoted
  | cons top low =>
    rw [digits] at denoted
    dsimp only
    split
    · rw [← denoted]
      simp [Bytes.toNatBE, Bytes.toNatLE_append]
    · exact denoted

theorem isPositive_integerBytes (positive : n ≠ 0) : IsPositive (integerBytes n) := by
  have significant := Bytes.head?_digitsBE n
  unfold integerBytes
  cases digits : Bytes.digitsBE n with
  | nil => exact absurd (Bytes.digitsBE_eq_nil_iff.mp digits) positive
  | cons top low =>
    rw [digits, List.head?_cons] at significant
    dsimp only
    split
    · rename_i signed
      exact isPositive_cons_iff.mpr ⟨rfl, fun _ => ⟨top, low, rfl, signed⟩⟩
    · rename_i unsigned
      exact isPositive_cons_iff.mpr
        ⟨Decidable.not_not.mp unsigned, fun zero => absurd (congrArg some zero) significant⟩

/-- The bytes of a positive integer are the ones that write it. -/
theorem integerBytes_toNatBE (positive : IsPositive body) :
    integerBytes (Bytes.toNatBE body) = body := by
  cases body with
  | nil => exact absurd positive not_isPositive_nil
  | cons top rest =>
    obtain ⟨unsigned, padding⟩ := isPositive_cons_iff.mp positive
    by_cases zero : top = 0
    · -- Behind the zero stand the digits, and their sign bit calls for it.
      obtain ⟨next, low, rfl, signed⟩ := padding zero
      have same : Bytes.toNatBE (top :: next :: low) = Bytes.toNatBE (next :: low) := by
        simp [Bytes.toNatBE, Bytes.toNatLE_append, zero]
      have digits : Bytes.digitsBE (Bytes.toNatBE (next :: low)) = next :: low :=
        Bytes.digitsBE_toNatBE (by simpa using mt and_signBit_of_zero signed)
      rw [same, integerBytes, digits, zero]
      exact if_pos signed
    · have digits : Bytes.digitsBE (Bytes.toNatBE (top :: rest)) = top :: rest :=
        Bytes.digitsBE_toNatBE (by simpa using zero)
      rw [integerBytes, digits]
      exact if_neg (not_not_intro unsigned)

/-- Bytes are those of a positive integer if and only if they write one. -/
theorem isPositive_iff :
    IsPositive body ∧ Bytes.toNatBE body = n ↔ n ≠ 0 ∧ integerBytes n = body := by
  constructor
  · rintro ⟨positive, rfl⟩
    exact ⟨toNatBE_ne_zero_of_isPositive positive, integerBytes_toNatBE positive⟩
  · rintro ⟨positive, rfl⟩
    exact ⟨isPositive_integerBytes positive, toNatBE_integerBytes n⟩

end Integers

section Reading

theorem readByte_eq_ok_iff : readByte part bytes = .ok (byte, rest) ↔ bytes = byte :: rest := by
  cases bytes <;> simp [readByte]

/-- A length of the short form leaves the highest bit clear. -/
theorem and_signBit_eq_zero_iff : ∀ byte : UInt8, byte &&& 0x80 = 0 ↔ byte.toNat < 0x80 :=
  ScriptNumber.forall_byte (by decide +kernel)

theorem readLength_eq_ok_iff :
    readLength part bytes = .ok (length, rest) ↔
      length < 0x80 ∧ bytes = UInt8.ofNat length :: rest := by
  simp only [readLength, exceptBind_eq_ok_iff, Prod.exists, readByte_eq_ok_iff,
    exceptIte_eq_ok_iff, Decidable.not_not, and_signBit_eq_zero_iff, Except.ok.injEq, Prod.mk.injEq]
  constructor
  · rintro ⟨byte, tail, rfl, short, rfl, rfl⟩
    exact ⟨short, by simp⟩
  · rintro ⟨short, rfl⟩
    have same : (UInt8.ofNat length).toNat = length := by
      rw [UInt8.toNat_ofNat']
      omega
    exact ⟨_, rest, rfl, by rwa [same], same, rfl⟩

/-- An integer is read where it stands with its tag and its length. -/
theorem readInteger_eq_ok_iff :
    readInteger part bytes = .ok (body, rest) ↔
      body.length < 0x80 ∧ bytes = taggedInteger body ++ rest ∧
        checkInteger part body = .ok () := by
  simp only [readInteger, exceptBind_eq_ok_iff, Prod.exists, readByte_eq_ok_iff,
    exceptIte_eq_ok_iff, Decidable.not_not, readLength_eq_ok_iff, Except.ok.injEq, Prod.mk.injEq]
  constructor
  · rintro ⟨tag, afterTag, rfl, rfl, length, tail, ⟨short, rfl⟩, present, ⟨⟩, checked, rfl, rfl⟩
    have whole : (tail.take length).length = length := by
      rw [List.length_take]
      omega
    refine ⟨by rwa [whole], ?_, checked⟩
    rw [taggedInteger, whole, List.cons_append, List.cons_append, List.take_append_drop]
  · rintro ⟨short, rfl, checked⟩
    refine ⟨_, _, rfl, rfl, body.length, body ++ rest, ⟨short, rfl⟩, ?_, (), ?_, ?_, ?_⟩
    · rw [List.length_append]
      omega
    · rwa [List.take_left]
    · exact List.take_left
    · exact List.drop_left

/-- A sequence of two integers. -/
def sequence (r s : Bytes) : Bytes :=
  sequenceTag :: UInt8.ofNat (2 + r.length + 2 + s.length) :: (taggedInteger r ++ taggedInteger s)

theorem length_taggedInteger (body : Bytes) : (taggedInteger body).length = 2 + body.length := by
  simp only [taggedInteger, List.length_cons]
  omega

/-- An encoding is taken apart into the integers of which it is a sequence. -/
theorem components_eq_ok_iff :
    components der = .ok (r, s) ↔
      2 + r.length + 2 + s.length < 0x80 ∧ der = sequence r s ∧
        checkInteger .r r = .ok () ∧ checkInteger .s s = .ok () := by
  have total : (taggedInteger r ++ taggedInteger s).length = 2 + r.length + 2 + s.length := by
    rw [List.length_append, length_taggedInteger, length_taggedInteger]
    omega
  simp only [components, exceptBind_eq_ok_iff, Prod.exists, readByte_eq_ok_iff,
    exceptIte_eq_ok_iff, Decidable.not_not, readLength_eq_ok_iff, readInteger_eq_ok_iff,
    Except.ok.injEq, Prod.mk.injEq]
  constructor
  · rintro ⟨tag, afterTag, rfl, rfl, length, tail, ⟨short, rfl⟩, whole, first, afterR,
      ⟨-, rfl, checkedR⟩, second, afterS, ⟨-, rfl, checkedS⟩, rfl, rfl, rfl⟩
    rw [List.append_nil, total] at whole
    subst whole
    exact ⟨short, by rw [sequence, List.append_nil], checkedR, checkedS⟩
  · rintro ⟨short, rfl, checkedR, checkedS⟩
    exact ⟨_, _, rfl, rfl, _, _, ⟨short, rfl⟩, total, r, taggedInteger s,
      ⟨by omega, rfl, checkedR⟩, s, [], ⟨by omega, by rw [List.append_nil], checkedS⟩, rfl, rfl,
      rfl⟩

end Reading

end Der

namespace Signature

open Der

variable {signature : Signature} {der : Bytes}

/-- Writing a signature comes to the encoding that is taken apart into the bytes of its numbers, if
both are positive. -/
theorem toDer_eq_ok_iff :
    signature.toDer = .ok der ↔ ∃ r s, components der = .ok (r, s) ∧
      (IsPositive r ∧ Bytes.toNatBE r = signature.r) ∧
        IsPositive s ∧ Bytes.toNatBE s = signature.s := by
  simp only [toDer, exceptIte_eq_ok_iff, Except.ok.injEq, isPositive_iff, components_eq_ok_iff]
  constructor
  · rintro ⟨positiveR, positiveS, -, -, short, rfl⟩
    exact ⟨_, _, ⟨by omega, rfl, (isPositive_integerBytes positiveR).1 _,
      (isPositive_integerBytes positiveS).1 _⟩, ⟨positiveR, rfl⟩, positiveS, rfl⟩
  · rintro ⟨_, _, ⟨short, rfl, -, -⟩, ⟨positiveR, rfl⟩, positiveS, rfl⟩
    exact ⟨positiveR, positiveS, by omega, by omega, by omega, rfl⟩

end Signature

namespace ScopedSignature

open Der

variable {item der : Bytes} {signature : Signature} {r s : Nat} {scope : UInt8}

theorem toItem_eq_ok_iff :
    toItem ⟨signature, scope.toUInt32⟩ = .ok item ↔
      ∃ der, signature.toDer = .ok der ∧ item = der ++ [scope] := by
  unfold toItem
  cases signature.toDer with
  | error cause => simp
  | ok der => simp [eq_comm]

theorem ofItem_of_ofDer (read : Signature.ofDer der = .ok signature) (scope : UInt8) :
    ofItem (der ++ [scope]) = .ok ⟨signature, scope.toUInt32⟩ := by
  simp only [ofItem, List.getLast?_concat, List.dropLast_concat, read]

/-- The item writes two positive numbers and a scope of one byte, and has at most 73 bytes. -/
structure Writes (item : Bytes) (r s : Nat) (scope : UInt8) : Prop where
  positiveR : 1 ≤ r
  positiveS : 1 ≤ s
  written : toItem ⟨⟨r, s⟩, scope.toUInt32⟩ = .ok item
  short : item.length ≤ 73

/-- A written item reads as what it writes. -/
theorem Writes.ofItem_eq (writes : Writes item r s scope) :
    ofItem item = .ok ⟨⟨r, s⟩, scope.toUInt32⟩ := by
  obtain ⟨der, encoded, rfl⟩ := toItem_eq_ok_iff.mp writes.written
  obtain ⟨_, _, taken, ⟨-, rfl⟩, -, rfl⟩ := Signature.toDer_eq_ok_iff.mp encoded
  exact ofItem_of_ofDer (by rw [Signature.ofDer, taken]; rfl) scope

/-- A written item is canonical, and has at least nine bytes for two integers of one byte each. -/
theorem Writes.isSignatureItem (writes : Writes item r s scope) : isSignatureItem item = true := by
  obtain ⟨der, encoded, rfl⟩ := toItem_eq_ok_iff.mp writes.written
  obtain ⟨r, s, taken, ⟨positiveR, -⟩, positiveS, -⟩ := Signature.toDer_eq_ok_iff.mp encoded
  obtain ⟨-, rfl, -, -⟩ := components_eq_ok_iff.mp taken
  have present {body : Bytes} (positive : IsPositive body) : 0 < body.length :=
    List.length_pos_iff.mpr fun absent => not_isPositive_nil (absent ▸ positive)
  have long : 9 ≤ (Der.sequence r s ++ [scope]).length := by
    have := present positiveR
    have := present positiveS
    simp only [Der.sequence, List.length_append, List.length_cons, length_taggedInteger,
      List.length_nil]
    omega
  rw [ScriptSpend.isSignatureItem, if_pos ⟨long, writes.short⟩, List.dropLast_concat, taken]
  simp only [positiveR.2, positiveS.2, Bool.and_self]

/-- A canonical item is written. -/
theorem exists_writes_of_isSignatureItem (canonical : ScriptSpend.isSignatureItem item = true) :
    ∃ r s scope, Writes item r s scope := by
  have length := length_of_isSignatureItem canonical
  rcases List.eq_nil_or_concat item with rfl | ⟨der, scope, rfl⟩
  · simp at length
  · rw [List.concat_eq_append] at canonical length ⊢
    rw [ScriptSpend.isSignatureItem, if_pos length, List.dropLast_concat] at canonical
    cases taken : components der with
    | error cause =>
      rw [taken] at canonical
      cases canonical
    | ok found =>
      obtain ⟨r, s⟩ := found
      rw [taken] at canonical
      obtain ⟨nonNegativeR, nonNegativeS⟩ := Bool.and_eq_true_iff.mp canonical
      obtain ⟨-, -, checkedR, checkedS⟩ := components_eq_ok_iff.mp taken
      have positiveR := IsPositive.of_checkInteger checkedR nonNegativeR
      have positiveS := IsPositive.of_checkInteger checkedS nonNegativeS
      have encoded : Signature.toDer ⟨Bytes.toNatBE r, Bytes.toNatBE s⟩ = .ok der :=
        Signature.toDer_eq_ok_iff.mpr ⟨r, s, taken, ⟨positiveR, rfl⟩, positiveS, rfl⟩
      exact ⟨Bytes.toNatBE r, Bytes.toNatBE s, scope,
        Nat.one_le_iff_ne_zero.mpr (toNatBE_ne_zero_of_isPositive positiveR),
        Nat.one_le_iff_ne_zero.mpr (toNatBE_ne_zero_of_isPositive positiveS),
        toItem_eq_ok_iff.mpr ⟨der, encoded, rfl⟩, length.2⟩

/-- What an item writes is determined by the item. -/
theorem Writes.unique {r' s' : Nat} {scope' : UInt8} (writes : Writes item r s scope)
    (writes' : Writes item r' s' scope') : r' = r ∧ s' = s ∧ scope' = scope := by
  have same := writes'.ofItem_eq.symm.trans writes.ofItem_eq
  simp only [Except.ok.injEq, ScopedSignature.mk.injEq, Signature.mk.injEq] at same
  exact ⟨same.1.1, same.1.2, UInt8.toUInt32_inj.mp same.2⟩

end ScopedSignature

open ScopedSignature

/-- The canonical items are the written ones. What such an item writes is determined by it and is
what it reads as, no other canonical item reads the same, and no check of an encoding finds that a
canonical item cannot be decoded. -/
theorem isSignatureItem_iff_writes (item : Bytes) :
    (isSignatureItem item = true ↔ ∃ r s scope, Writes item r s scope) ∧
      (∀ r s scope, Writes item r s scope →
        ofItem item = .ok ⟨⟨r, s⟩, scope.toUInt32⟩ ∧
          ∀ r' s' scope', Writes item r' s' scope' → r' = r ∧ s' = s ∧ scope' = scope) ∧
      (∀ other, isSignatureItem item = true → isSignatureItem other = true →
        ofItem other = ofItem item → other = item) ∧
      ∀ policy cause,
        checkSignatureEncoding policy item ≠ .error (.undecodableSignature cause) := by
  refine ⟨⟨exists_writes_of_isSignatureItem, ?_⟩, ?_, ?_, ?_⟩
  · rintro ⟨r, s, scope, writes⟩
    exact writes.isSignatureItem
  · exact fun r s scope writes => ⟨writes.ofItem_eq, fun _ _ _ => writes.unique⟩
  · -- Both items write what they read as, and writing it has one result.
    intro other canonical canonicalOther same
    obtain ⟨r, s, scope, writes⟩ := exists_writes_of_isSignatureItem canonical
    obtain ⟨r', s', scope', writesOther⟩ := exists_writes_of_isSignatureItem canonicalOther
    rw [writes.ofItem_eq, writesOther.ofItem_eq, Except.ok.injEq] at same
    have written := writesOther.written
    rw [same, writes.written, Except.ok.injEq] at written
    exact written.symm
  · intro policy cause refused
    unfold checkSignatureEncoding at refused
    split at refused
    · cases refused
    · cases canonical : isSignatureItem item with
      | false => simp [canonical] at refused
      | true =>
        obtain ⟨r, s, scope, writes⟩ := exists_writes_of_isSignatureItem canonical
        rw [canonical, writes.ofItem_eq] at refused
        simp only [Bool.not_true, Bool.false_eq_true, if_false] at refused
        split at refused
        · cases refused
        · split at refused <;> cases refused

/-- A number whose highest bit is set is written with a zero before it, and read without one. -/
theorem writes_paddedNumber :
    let item : Bytes := [0x30, 7, 2, 2, 0, 0x80, 2, 1, 1, 0x41]
    Writes item 128 1 0x41 ∧ isSignatureItem item = true ∧
      ofItem item = .ok ⟨⟨128, 1⟩, 0x41⟩ := by
  intro item
  have writes : Writes item 128 1 0x41 := ⟨by decide, by decide, by decide +kernel, by decide⟩
  obtain ⟨canonical, reads, -, -⟩ := isSignatureItem_iff_writes item
  exact ⟨writes, canonical.mpr ⟨128, 1, 0x41, writes⟩, (reads 128 1 0x41 writes).1⟩

end ScriptSpend
