import ScriptSpend.Ecdsa
import ScriptSpend.Proofs.CheckedOperations

/-!
# Verification by a library

A library of elliptic curves is handed the numbers of a signature in 64 bytes and is asked for the
low one of the two signatures that verify alike before it verifies. Verification here is that of
such a library.

## Main definitions

* `Signature.compact?`: both numbers in 32 bytes each
* `Signature.compactChecked`: the same in a buffer, with checks on its slices
* `Ecdsa.Library`: what a check of a signature makes use of, and `Ecdsa.Library.verify` that check
* `Ecdsa.Library.Lawful`: what is relied on
* `Ecdsa.Library.secp256k1`: the operations on points as a library

## Main results

* `Signature.compact?_eq`: numbers below `2 ^ 256` have a compact form, and no others
* `Ecdsa.Library.verifyChecked_eq`: the checks make no difference
* `Ecdsa.verify_eq_library_verify`: verification is that of a library
-/

namespace ScriptSpend

open Secp256k1

section Compact

/-- Digits in a given width, with zeros before them. -/
def Bytes.padded (width : Nat) (digits : Bytes) : Bytes :=
  List.replicate (width - digits.length) 0 ++ digits

theorem Bytes.length_padded {width : Nat} {digits : Bytes} (fits : digits.length ≤ width) :
    (digits.padded width).length = width := by
  rw [padded, List.length_append, List.length_replicate]
  omega

/-- Digits that are copied into the end of a field of zeros are padded to the width of the field. -/
theorem Bytes.copyBetween_padded (front back : Bytes) {width : Nat} {digits : Bytes}
    (fits : digits.length ≤ width) :
    copyBetween (front.length + (width - digits.length)) (front.length + width) digits
        (front ++ (List.replicate width 0 ++ back)) =
      .ok (front ++ (digits.padded width ++ back)) := by
  have zeros : (front ++ (List.replicate width 0 ++ back)).take
      (front.length + (width - digits.length)) =
        front ++ List.replicate (width - digits.length) 0 := by
    rw [List.take_length_add_append, List.take_append_of_le_length (by simp), List.take_replicate,
      Nat.min_eq_left (Nat.sub_le _ _)]
  have behind : (front ++ (List.replicate width 0 ++ back)).drop (front.length + width) = back := by
    rw [List.drop_length_add_append, List.drop_left' List.length_replicate]
  rw [copyBetween_of_le (by omega) (by simp) (by omega), zeros, behind, padded]
  simp only [List.append_assoc]

/-- How many digits are printed: at least one, and no more than are needed otherwise. -/
theorem length_printedDigits_le_iff {n k : Nat} (positive : 0 < k) :
    (printedDigits n).length ≤ k ↔ n < 256 ^ k := by
  unfold printedDigits
  split
  · rename_i zero
    have room : 0 < 256 ^ k := Nat.pow_pos (by decide)
    rw [zero, List.length_singleton, iff_true_right room]
    exact positive
  · rw [Bytes.length_digitsBE, Bytes.width_le_iff]

/-- Padded to a width, the printed digits are those of that width. -/
theorem padded_printedDigits {n k : Nat} (fits : (printedDigits n).length ≤ k) :
    (printedDigits n).padded k = Bytes.ofNatBE k n := by
  have padded := Bytes.ofNatBE_toNatBE_of_ge fits
  rw [toNatBE_printedDigits] at padded
  exact padded.symm

namespace Signature

/-- The compact form of a signature, both numbers in 32 bytes each, if they fit. -/
def compact? (signature : Signature) : Option Bytes :=
  let r := printedDigits signature.r
  let s := printedDigits signature.s
  if 32 < r.length ∨ 32 < s.length then none else some (r.padded 32 ++ s.padded 32)

/-- Numbers that fit are written in the width of their field. -/
theorem compact?_eq (signature : Signature) :
    signature.compact? = if signature.r < 256 ^ 32 ∧ signature.s < 256 ^ 32 then
      some (Bytes.ofNatBE 32 signature.r ++ Bytes.ofNatBE 32 signature.s) else none := by
  have fits (n : Nat) : (printedDigits n).length ≤ 32 ↔ n < 256 ^ 32 :=
    length_printedDigits_le_iff (by decide)
  unfold compact?
  by_cases room : signature.r < 256 ^ 32 ∧ signature.s < 256 ^ 32
  · obtain ⟨roomR, roomS⟩ := room
    have fitsR := (fits signature.r).mpr roomR
    have fitsS := (fits signature.s).mpr roomS
    dsimp only
    rw [if_neg (by omega), if_pos ⟨roomR, roomS⟩, padded_printedDigits fitsR,
      padded_printedDigits fitsS]
  · rw [if_neg room, if_pos]
    rw [← fits, ← fits] at room
    omega

/-- The compact form laid out in a buffer of 64 bytes, each number in the end of its half. -/
def compactChecked (signature : Signature) : Except Failure (Option Bytes) :=
  let r := printedDigits signature.r
  let s := printedDigits signature.s
  if 32 < r.length ∨ 32 < s.length then .ok none
  else do
    let startR ← difference 32 r.length
    let half ← copyBetween startR 32 r (List.replicate 64 0)
    let startS ← difference 64 s.length
    let whole ← copyBetween startS 64 s half
    .ok (some whole)

/-- The slices of the buffer are as long as the numbers that are copied into them. -/
theorem compactChecked_eq (signature : Signature) :
    signature.compactChecked = .ok signature.compact? := by
  unfold compactChecked compact?
  dsimp only
  split
  · rfl
  · rename_i fits
    generalize printedDigits signature.r = r, printedDigits signature.s = s at fits ⊢
    obtain ⟨fitsR, fitsS⟩ : r.length ≤ 32 ∧ s.length ≤ 32 := by omega
    have startS : 64 - s.length = (r.padded 32).length + (32 - s.length) := by
      rw [Bytes.length_padded fitsR]
      omega
    have half : copyBetween (32 - r.length) 32 r (List.replicate 64 0) =
        .ok (r.padded 32 ++ List.replicate 32 0) := by
      simpa using Bytes.copyBetween_padded [] (List.replicate 32 0) fitsR
    have whole : copyBetween (64 - s.length) 64 s (r.padded 32 ++ List.replicate 32 0) =
        .ok (r.padded 32 ++ s.padded 32) := by
      have copied := Bytes.copyBetween_padded (r.padded 32) [] fitsS
      rwa [← startS, Bytes.length_padded fitsR, List.append_nil, List.append_nil] at copied
    simp only [exceptBind_eq_ok_iff]
    exact ⟨_, difference_of_le fitsR, _, half, _, difference_of_le (by omega), _, whole, rfl⟩

end Signature

end Compact

section LowNumbers

namespace Signature

variable {signature : Signature}

/-- The group order is odd, so that no number is opposite to itself. -/
theorem groupOrder_eq : groupOrder = 2 * halfOrder + 1 := rfl

theorem hasLowS_iff : signature.hasLowS = true ↔ 1 ≤ signature.s ∧ signature.s ≤ halfOrder := by
  simp [hasLowS]

/-- The low signature has the smaller one of the two numbers. -/
theorem normalized_eq (signature : Signature) :
    signature.normalized = ⟨signature.r, min signature.s (groupOrder - signature.s)⟩ := by
  have odd := groupOrder_eq
  unfold normalized
  split
  · rw [Nat.min_eq_right (by omega)]
  · rw [Nat.min_eq_left (by omega)]

end Signature

end LowNumbers

namespace Ecdsa

open Signature

section Libraries

/-- A way to verify signatures that may leave the domain of an operation. -/
abbrev CheckedVerifier := Bytes → Signature → Bytes → Except Failure Bool

/-- A way to verify signatures that never does. -/
def Verifier.total (verify : Verifier) : CheckedVerifier := fun digest signature publicKey =>
  .ok (verify digest signature publicKey)

/-- What a check of a signature makes use of. -/
structure Library where
  /-- The keys that the library has read. -/
  Key : Type
  /-- Reads a signature from its compact form. -/
  readSignature : Bytes → Option Signature
  /-- Makes the number `s` of a signature low. -/
  normalize : Signature → Signature
  readKey : Bytes → Option Key
  /-- Whether a signature of a digest is valid, if it is low. -/
  accepts : Bytes → Signature → Key → Bool

namespace Library

/-- Whether a signature of a digest is valid, which a library is asked about its low counterpart. -/
def verify (library : Library) : Verifier := fun digest signature publicKey =>
  match signature.compact? with
  | none => false
  | some compact =>
    match library.readSignature compact with
    | none => false
    | some read =>
      let low := library.normalize read
      match library.readKey publicKey with
      | none => false
      | some key => library.accepts digest low key

/-- The same check, the compact form laid out with checks. -/
def verifyChecked (library : Library) : CheckedVerifier := fun digest signature publicKey => do
  match ← signature.compactChecked with
  | none => .ok false
  | some compact =>
    match library.readSignature compact with
    | none => .ok false
    | some read =>
      let low := library.normalize read
      match library.readKey publicKey with
      | none => .ok false
      | some key => .ok (library.accepts digest low key)

theorem verifyChecked_eq (library : Library) : library.verifyChecked = library.verify.total := by
  funext digest signature publicKey
  unfold verifyChecked Verifier.total verify
  rw [signature.compactChecked_eq]
  dsimp only [bind, Except.bind]
  cases signature.compact? with
  | none => rfl
  | some compact =>
    dsimp only
    cases library.readSignature compact with
    | none => rfl
    | some read => cases library.readKey publicKey <;> rfl

/-- What is relied on: numbers are read if they lie below the group order, a signature is replaced
by its opposite exactly if `s` is above half of the order, and zero is rejected. -/
structure Lawful (library : Library) : Prop where
  read : ∀ compact : Bytes, compact.length = 64 →
    let r := Bytes.toNatBE (compact.take 32)
    let s := Bytes.toNatBE (compact.drop 32)
    library.readSignature compact = if r < groupOrder ∧ s < groupOrder then some ⟨r, s⟩ else none
  normalize_high : ∀ r s, groupOrder < 2 * s → s < groupOrder →
    library.normalize ⟨r, s⟩ = ⟨r, groupOrder - s⟩
  normalize_low : ∀ r s, 2 * s ≤ groupOrder → library.normalize ⟨r, s⟩ = ⟨r, s⟩
  rejects_zero : ∀ digest r s key, r = 0 ∨ s = 0 → library.accepts digest ⟨r, s⟩ key = false

variable {library : Library} {signature : Signature} {digest key : Bytes}

/-- From its compact form a signature is read if both numbers are below the group order. -/
theorem Lawful.bind_read_compact? (lawful : library.Lawful) (signature : Signature) :
    signature.compact?.bind library.readSignature =
      if signature.r < groupOrder ∧ signature.s < groupOrder then some signature else none := by
  have within : groupOrder < 256 ^ 32 := by decide
  rw [compact?_eq]
  split
  · rename_i room
    rw [Option.bind_some, lawful.read _ (by simp), List.take_left' (by simp),
      List.drop_left' (by simp), Bytes.toNatBE_ofNatBE, Bytes.toNatBE_ofNatBE,
      Nat.mod_eq_of_lt room.1, Nat.mod_eq_of_lt room.2]
  · rw [Option.bind_none, if_neg (by omega)]

theorem Lawful.normalize_eq (lawful : library.Lawful) (below : signature.s < groupOrder) :
    library.normalize signature = signature.normalized := by
  have odd := groupOrder_eq
  unfold normalized
  split
  · exact lawful.normalize_high signature.r signature.s (by omega) below
  · exact lawful.normalize_low signature.r signature.s (by omega)

/-- A library is asked about the low signature, and only if both numbers are below the group order.
-/
theorem Lawful.verify_eq (lawful : library.Lawful) (signature : Signature) :
    library.verify digest signature key =
      if signature.r < groupOrder ∧ signature.s < groupOrder then
        (library.readKey key).any (library.accepts digest signature.normalized)
      else false := by
  -- The two ways for a signature to be lost, having no compact form and being refused, are one.
  have through := lawful.bind_read_compact? signature
  split
  · rename_i below
    rw [if_pos below] at through
    obtain ⟨compact, written, read⟩ := Option.bind_eq_some_iff.mp through
    simp only [verify, written, read, lawful.normalize_eq below.2]
    cases library.readKey key <;> rfl
  · rename_i above
    rw [if_neg above] at through
    cases written : signature.compact? with
    | none => simp only [verify, written]
    | some compact =>
      have unread : library.readSignature compact = none := by
        rwa [written, Option.bind_some] at through
      simp only [verify, written, unread]

/-- A number out of range makes a signature invalid. -/
theorem Lawful.verify_of_not_inRange (lawful : library.Lawful) (outside : ¬ signature.InRange) :
    library.verify digest signature key = false := by
  rw [lawful.verify_eq]
  split
  · rename_i below
    -- What is left is a zero, and the low signature has it too.
    have zero : signature.normalized.r = 0 ∨ signature.normalized.s = 0 := by
      unfold InRange at outside
      rw [normalized_eq]
      dsimp only
      omega
    cases library.readKey key with
    | none => rfl
    | some read => exact lawful.rejects_zero digest _ _ read zero
  · rfl

/-- The operations on points as a library. -/
def secp256k1 : Library where
  Key := Point
  readSignature compact :=
    let r := Bytes.toNatBE (compact.take 32)
    let s := Bytes.toNatBE (compact.drop 32)
    if compact.length = 64 ∧ r < groupOrder ∧ s < groupOrder then some ⟨r, s⟩ else none
  normalize := normalized
  readKey := decodePoint
  accepts digest signature key :=
    decide (0 < signature.r) && signature.hasLowS && verifyPoint digest signature key

theorem lawful_secp256k1 : secp256k1.Lawful where
  read compact length := by simp only [secp256k1, length, true_and]
  normalize_high r s high below := by
    have odd := groupOrder_eq
    exact if_pos (by dsimp only; omega)
  normalize_low r s low := by
    have odd := groupOrder_eq
    exact if_neg (by dsimp only; omega)
  rejects_zero digest r s key zero := by
    rcases zero with rfl | rfl <;> simp [secp256k1, hasLowS]

end Library

/-- Verification by elliptic curves is that of a library. -/
theorem verify_eq_library_verify : verify = Library.secp256k1.verify := by
  funext digest signature key
  unfold verify
  split
  · rename_i inside
    obtain ⟨positiveR, belowR, positiveS, belowS⟩ := inside
    -- What the library is asked about is neither zero nor high, so it is left to the points.
    have low : 0 < signature.normalized.r ∧ signature.normalized.hasLowS = true := by
      have odd := groupOrder_eq
      rw [hasLowS_iff, normalized_eq]
      dsimp only
      omega
    rw [Library.lawful_secp256k1.verify_eq, if_pos ⟨belowR, belowS⟩]
    cases decoded : decodePoint key with
    | none => simp [Library.secp256k1, decoded]
    | some point => simp [Library.secp256k1, decoded, low]
  · rename_i outside
    rw [Library.lawful_secp256k1.verify_of_not_inRange outside]

end Libraries

end Ecdsa

end ScriptSpend
