import ScriptSpend.Proofs.EmptySignature
import ScriptSpend.Proofs.SignatureLibraries

/-!
# Opposite signatures

From a signature `(r, s)` anyone can make `(r, n - s)`, where `n` is the group order. A library of
elliptic curves is asked for the low one of the two before it verifies, so verification does not
tell them apart. The rule on low numbers does, for exactly one of the two is low.

## Main definitions

* `Ecdsa.IgnoresLowS`: verification that does not tell opposite signatures apart
* `Ecdsa.ToldApartByPolicy`: items of which the rule on low numbers refuses one

## Main results

* `Ecdsa.Library.Lawful.verify_opposite`: opposite signatures verify alike
* `Ecdsa.opposite_signatures_exact`: opposite signatures verify alike, one of them is low, and a
  policy that asks for it lets only that one pass
-/

namespace ScriptSpend

open Secp256k1

section Opposites

namespace Signature

/-- The other signature that is valid where this one is. -/
def opposite (signature : Signature) : Signature := ⟨signature.r, groupOrder - signature.s⟩

/-- The bytes of the largest low number. -/
def halfOrderBytes : Bytes :=
  [0x7f, 0xff, 0xff, 0xff, 0xff, 0xff, 0xff, 0xff, 0xff, 0xff, 0xff, 0xff, 0xff, 0xff, 0xff, 0xff,
    0x5d, 0x57, 0x6e, 0x73, 0x57, 0xa4, 0x50, 0x1d, 0xdf, 0xe9, 0x2f, 0x46, 0x68, 0x1b, 0x20, 0xa0]

variable {signature : Signature}

theorem toNatBE_halfOrderBytes : Bytes.toNatBE halfOrderBytes = halfOrder := rfl

/-- Of two opposite signatures one is low. -/
theorem hasLowS_opposite (signature : Signature) (positive : 1 ≤ signature.s)
    (below : signature.s < groupOrder) :
    signature.opposite.hasLowS = !signature.hasLowS := by
  have odd := groupOrder_eq
  rw [Bool.eq_not, ne_eq, Bool.eq_iff_iff, hasLowS_iff, hasLowS_iff, opposite]
  dsimp only
  omega

/-- The low one of two opposite signatures does not depend on which of them it is made from. -/
theorem normalized_opposite (below : signature.s < groupOrder) :
    signature.opposite.normalized = signature.normalized := by
  rw [normalized_eq, normalized_eq, opposite]
  dsimp only
  rw [Nat.sub_sub_self below.le, Nat.min_comm]

end Signature

end Opposites

namespace Ecdsa

open Signature

/-- Opposite signatures verify alike. -/
theorem Library.Lawful.verify_opposite {library : Library} {digest key : Bytes}
    (lawful : library.Lawful) (signature : Signature) (positive : 1 ≤ signature.s)
    (below : signature.s < groupOrder) :
    library.verify digest signature.opposite key = library.verify digest signature key := by
  have belowOpposite : signature.opposite.s < groupOrder := Nat.sub_lt (by decide) positive
  rw [lawful.verify_eq, lawful.verify_eq, normalized_opposite below]
  exact if_congr (and_congr_right fun _ => iff_of_true belowOpposite below) rfl rfl

section Malleability

open ScopedSignature

/-- Opposite signatures verify alike, and numbers out of range verify as false. -/
structure IgnoresLowS (verify : Verifier) : Prop where
  opposites_alike : ∀ digest key r s, 1 ≤ s → s < groupOrder →
    verify digest ⟨r, groupOrder - s⟩ key = verify digest ⟨r, s⟩ key
  out_of_range : ∀ digest key r s, s = 0 ∨ groupOrder ≤ s ∨ r = 0 ∨ groupOrder ≤ r →
    verify digest ⟨r, s⟩ key = false

theorem Library.Lawful.ignoresLowS {library : Library} (lawful : library.Lawful) :
    IgnoresLowS library.verify where
  opposites_alike _ _ r s positive below := lawful.verify_opposite ⟨r, s⟩ positive below
  out_of_range digest key r s outside := lawful.verify_of_not_inRange fun inside => by
    obtain ⟨positiveR, belowR, positiveS, belowS⟩ := inside
    dsimp only at positiveR belowR positiveS belowS
    omega

/-- Two items are checked alike where low numbers are not asked for. Where they are, one of the two
is refused for it, and the other is checked as if they were not. -/
structure ToldApartByPolicy (item other : Bytes) : Prop where
  without_rule : ∀ policy : Policy, policy.requireLowS = false →
    checkSignatureEncoding policy other = checkSignatureEncoding policy item
  with_rule : ∀ policy : Policy, policy.requireLowS = true →
    Xor (checkSignatureEncoding policy item = .error .highS)
      (checkSignatureEncoding policy other = .error .highS)
  otherwise_alike : ∀ policy : Policy, ∀ checked ∈ [item, other],
    checkSignatureEncoding policy checked ≠ .error .highS →
      checkSignatureEncoding policy checked =
        checkSignatureEncoding { policy with requireLowS := false } checked

variable {item other : Bytes} {r s : Nat} {scope : UInt8}

/-- A written item can only break the rules on low numbers and on the mark of its scope. -/
theorem checkSignatureEncoding_of_writes (policy : Policy) (writes : Writes item r s scope) :
    checkSignatureEncoding policy item =
      if policy.requireLowS && !hasLowS ⟨r, s⟩ then .error .highS
      else if !Scope.hasForkId scope.toUInt32 then .error .missingForkId else .ok () := by
  have present : item ≠ [] := by
    rintro rfl
    cases writes.isSignatureItem
  unfold checkSignatureEncoding
  rw [if_neg (by simpa using present), writes.isSignatureItem, writes.ofItem_eq]
  rfl

/-- A written item that is not refused for its number is checked as if low ones were not asked for.
-/
theorem checkSignatureEncoding_of_ne_highS {policy : Policy} (writes : Writes item r s scope)
    (kept : checkSignatureEncoding policy item ≠ .error .highS) :
    checkSignatureEncoding policy item =
      checkSignatureEncoding { policy with requireLowS := false } item := by
  rw [checkSignatureEncoding_of_writes policy writes] at kept ⊢
  rw [checkSignatureEncoding_of_writes _ writes]
  split at kept
  · exact absurd rfl kept
  · rename_i notRefused
    rw [if_neg notRefused]
    rfl

theorem toldApartByPolicy_of_writes (below : s < groupOrder) (writes : Writes item r s scope)
    (writesOther : Writes other r (groupOrder - s) scope) : ToldApartByPolicy item other := by
  have checked (policy : Policy) := checkSignatureEncoding_of_writes policy writes
  have checkedOther (policy : Policy) := checkSignatureEncoding_of_writes policy writesOther
  have one_low : hasLowS ⟨r, groupOrder - s⟩ = !hasLowS ⟨r, s⟩ :=
    hasLowS_opposite ⟨r, s⟩ writes.positiveS below
  refine ⟨fun policy lenient => ?_, fun policy strict => ?_, fun policy found listed => ?_⟩
  · rw [checked, checkedOther, lenient]
    rfl
  · rw [checked, checkedOther, one_low, strict]
    cases hasLowS ⟨r, s⟩ <;> cases Scope.hasForkId scope.toUInt32 <;> simp [Xor]
  · simp only [List.mem_cons, List.not_mem_nil, or_false] at listed
    rcases listed with rfl | rfl
    · exact checkSignatureEncoding_of_ne_highS writes
    · exact checkSignatureEncoding_of_ne_highS writesOther

/-- The rule on low numbers is a matter of policy, and takes away the choice between opposite
signatures. Verification gives the same answer for both of them, with any library that can be relied
on and by the operations on points, and rejects numbers out of range. One of the two is low, and
the rule lets only that one pass. -/
theorem opposite_signatures_exact {library : Library} (lawful : library.Lawful) :
    IgnoresLowS library.verify ∧ IgnoresLowS verify ∧
      (∀ r s, 1 ≤ s → s < groupOrder →
        Xor (hasLowS ⟨r, s⟩ = true) (hasLowS ⟨r, groupOrder - s⟩ = true)) ∧
      (∀ signature : Signature, signature.hasLowS = true ↔
        1 ≤ signature.s ∧ signature.s ≤ Bytes.toNatBE halfOrderBytes) ∧
      ∀ item other r s scope, s < groupOrder → Writes item r s scope →
        Writes other r (groupOrder - s) scope → ToldApartByPolicy item other := by
  refine ⟨lawful.ignoresLowS, ?_, fun r s positive below => ?_, fun signature => ?_,
    fun item other r s scope => toldApartByPolicy_of_writes⟩
  · rw [verify_eq_library_verify]
    exact Library.lawful_secp256k1.ignoresLowS
  · have one_low : hasLowS ⟨r, groupOrder - s⟩ = !hasLowS ⟨r, s⟩ :=
      hasLowS_opposite ⟨r, s⟩ positive below
    rw [one_low]
    cases hasLowS ⟨r, s⟩ <;> simp [Xor]
  · rw [toNatBE_halfOrderBytes]
    exact hasLowS_iff

/-- The opposite of a placeholder that is valid is valid too, and it is not low. Both are written as
items that a policy tells apart. -/
theorem opposite_signatures_exact_placeholder :
    let item : Bytes := [0x30, 6, 2, 1, 1, 2, 1, 1, 0x41]
    let other : Bytes :=
      [0x30, 38, 2, 1, 1, 2, 33, 0] ++ Bytes.ofNatBE 32 (groupOrder - 1) ++ [0x41]
    Library.secp256k1.Lawful ∧
      verify (sighash .bare [.ofOpcode 0xac] Scope.all) ⟨1, groupOrder - 1⟩ recoveredKey = true ∧
      hasLowS ⟨1, groupOrder - 1⟩ = false ∧
      Writes item 1 1 0x41 ∧ Writes other 1 (groupOrder - 1) 0x41 ∧
      ToldApartByPolicy item other := by
  intro item other
  have lawful := Library.lawful_secp256k1
  obtain ⟨-, ignores, one_low, -, told_apart⟩ := opposite_signatures_exact lawful
  have valid := ignores.opposites_alike (sighash .bare [.ofOpcode 0xac] Scope.all) recoveredKey 1 1
    (by decide) (by decide)
  rw [verify_placeholder_recoveredKey] at valid
  have low : hasLowS ⟨1, 1⟩ = true := rfl
  have high : hasLowS ⟨1, groupOrder - 1⟩ = false := by
    simpa [Xor, low] using one_low 1 1 (by decide) (by decide)
  have writes : Writes item 1 1 0x41 := ⟨by decide, by decide, by decide +kernel, by decide⟩
  have writesOther : Writes other 1 (groupOrder - 1) 0x41 :=
    ⟨by decide, by decide, by decide +kernel, by decide⟩
  exact ⟨lawful, valid, high, writes, writesOther,
    told_apart item other 1 1 0x41 (by decide) writes writesOther⟩

end Malleability

end Ecdsa

end ScriptSpend
