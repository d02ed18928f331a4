import ScriptSpend.Proofs.CheckMultiSig
import ScriptSpend.Proofs.CheckSig
import ScriptSpend.Proofs.Pushing

/-!
# Empty signatures

The empty item stands for a signature that nobody made, and is there to fail a check quietly. It is
exempt from the rules on encoding and reads as a placeholder, which the checker is asked about like
any other signature. So empty signatures authorise nothing exactly where the checker rejects the
placeholder under every key, and verification by elliptic curves does not: for every digest there
are keys under which the placeholder is valid.

## Main definitions

* `EmptySignaturesFail`: no check accepts an empty signature

## Main results

* `emptySignaturesFail_iff`: this is so if and only if the checker rejects the placeholder
* `not_emptySignaturesFail_recoveredKey`: an output whose owner never signed is spent with an empty
  signature
-/

namespace ScriptSpend

open StackAction Operation

/-- An empty signature authorises nothing: a check of it alone yields false, and in a check of
several signatures it fits no key, so that the check never yields true. -/
structure EmptySignaturesFail (env : Environment) : Prop where
  yields_false : ∀ op key rest, checkKeyEncoding key = .ok () →
    checkSig op env false (key :: [] :: rest) = .ok () ([] :: rest)
  verification_fails : ∀ op key rest, checkKeyEncoding key = .ok () →
    checkSig op env true (key :: [] :: rest) = .error .noValidSignature ([] :: rest)
  fits_no_key : ∀ signatures key, [] ∈ signatures → checkKeyEncoding key = .ok () →
    tryKey env.policy env.checker (env.subscript.withoutPushes signatures) [] key = .ok false
  never_yields_true : ∀ op operands stack rest,
    multiSigOperands op env.policy stack = .ok operands stack → [] ∈ operands.signatures →
      checkMultiSig op env false stack ≠ .ok () ([1] :: rest)
  never_verifies : ∀ op operands stack rest,
    multiSigOperands op env.policy stack = .ok operands stack → [] ∈ operands.signatures →
      checkMultiSig op env true stack ≠ .ok () rest

section Placeholder

variable {env : Environment} {policy : Policy} {checker : Checker} {key : Bytes}

@[simp] theorem checkSignatureEncoding_nil : checkSignatureEncoding policy [] = .ok () := rfl

/-- The checker is asked about an empty signature as well. -/
@[simp] theorem accepts_nil {subscript : Script} :
    checker.accepts subscript [] key = checker .placeholder key subscript := rfl

theorem checkSig_of_empty (op : Opcode) (verify : Bool) (rest : Stack)
    (keyEncoded : checkKeyEncoding key = .ok ()) :
    checkSig op env verify (key :: [] :: rest) =
      let accepted := env.checker .placeholder key (env.subscript.withoutPushes [[]])
      if verify then verifyTop .noValidSignature (ScriptNumber.ofBool accepted :: rest)
      else .ok () (ScriptNumber.ofBool accepted :: rest) := by
  simp [checkSig_of_encoded op verify checkSignatureEncoding_nil keyEncoded]

/-- In a successful pass some key has accepted the placeholder. -/
theorem exists_key_of_matchOperands {operands : MultiSigOperands}
    (matched : env.matchOperands operands = .ok true) (present : [] ∈ operands.signatures) :
    ∃ key, checkKeyEncoding key = .ok () ∧
      env.checker .placeholder key (env.subscript.withoutPushes operands.signatures) = true := by
  unfold Environment.matchOperands at matched
  split at matched
  · cases matched
  · rename_i subscript stripped
    obtain rfl := eq_withoutPushes_of_stripSignatures stripped
    have found := orderedMatching_iff.mpr ((matchSignatures_eq_true_iff matched).mp rfl)
    obtain ⟨key, -, fit⟩ := found.exists_key present
    refine ⟨key, ?_⟩
    cases keyRead : checkKeyEncoding key with
    | error cause => simp [tryKey, keyRead] at fit
    | ok _ => simpa [tryKey_of_encoded checkSignatureEncoding_nil keyRead] using fit

/-- A check of several signatures that yields true has found a key for each of them. -/
theorem matchOperands_of_checkMultiSig {op : Opcode} {verify : Bool} {operands : MultiSigOperands}
    {stack left : Stack} (read : multiSigOperands op env.policy stack = .ok operands stack)
    (checked : checkMultiSig op env verify stack = .ok () left)
    (accepted : verify = true ∨ ∃ rest, left = [1] :: rest) :
    env.matchOperands operands = .ok true := by
  obtain ⟨-, dummy, rest, layout⟩ := multiSigOperands_eq_ok_iff.mp read
  cases decided : env.matchOperands operands with
  | error cause => simp [checkMultiSig, read, decided] at checked
  | ok success =>
    have settled : settleMultiSig op env.policy verify operands success stack = .ok () left := by
      simpa [checkMultiSig, read, decided] using checked
    obtain ⟨-, -, consumed, rfl⟩ := (settleMultiSig_eq_ok_iff op verify layout).mp settled
    cases verify with
    | true => rw [consumed rfl]
    | false => cases success <;> simp_all [ScriptNumber.ofBool]

/-- Empty signatures authorise nothing if and only if the checker rejects the placeholder under
every key that is encoded as it must, over every script text that they may have to cover. -/
theorem emptySignaturesFail_iff (env : Environment) :
    EmptySignaturesFail env ↔ ∀ signatures key, [] ∈ signatures → checkKeyEncoding key = .ok () →
      env.checker .placeholder key (env.subscript.withoutPushes signatures) = false := by
  constructor
  · intro fails signatures key present keyEncoded
    have unfit := fails.fits_no_key signatures key present keyEncoded
    rwa [tryKey_of_encoded checkSignatureEncoding_nil keyEncoded, Except.ok.injEq] at unfit
  · intro rejected
    -- A pass that succeeds has found a key for the empty signature too.
    have unmatched {operands : MultiSigOperands} (present : [] ∈ operands.signatures) :
        env.matchOperands operands ≠ .ok true := by
      intro matched
      obtain ⟨key, keyEncoded, accepted⟩ := exists_key_of_matchOperands matched present
      simp [rejected _ key present keyEncoded] at accepted
    refine ⟨fun op key rest keyEncoded => ?_, fun op key rest keyEncoded => ?_,
      fun signatures key present keyEncoded => ?_,
      fun op operands stack rest read present checked => ?_,
      fun op operands stack rest read present checked => ?_⟩
    · simp [checkSig_of_empty op false rest keyEncoded, rejected [[]] key (by simp) keyEncoded,
        ScriptNumber.ofBool]
    · simp [checkSig_of_empty op true rest keyEncoded, rejected [[]] key (by simp) keyEncoded]
    · rw [tryKey_of_encoded checkSignatureEncoding_nil keyEncoded, accepts_nil,
        rejected signatures key present keyEncoded]
    · exact unmatched present (matchOperands_of_checkMultiSig read checked (.inr ⟨rest, rfl⟩))
    · exact unmatched present (matchOperands_of_checkMultiSig read checked (.inl rfl))

end Placeholder

section LoneCheck

variable {verify : Ecdsa.Verifier} {context : InputContext} {key : Bytes}

/-- A lone check yields true for an empty signature if the placeholder is valid. -/
theorem checkSig_of_verify_placeholder (keyEncoded : checkKeyEncoding key = .ok ())
    (accepted : verify (sighash context [.ofOpcode 0xac] Scope.all) ⟨1, 1⟩ key = true) :
    checkSig 0xac (.standard verify context [.ofOpcode 0xac]) false [key, []] = .ok () [[1]] := by
  have covered : Script.withoutPushes [.ofOpcode 0xac] [[]] = [.ofOpcode 0xac] := by decide
  rw [checkSig_of_empty 0xac false [] keyEncoded, Environment.standard_subscript, covered,
    Environment.standard_checker, ScopedSignature.placeholder, accepted]
  rfl

/-- An output that a lone check guards is spent with an empty signature and any key under which the
placeholder is valid. -/
theorem exists_validate_of_verify_placeholder (keyEncoded : checkKeyEncoding key = .ok ())
    (accepted : verify (sighash context [.ofOpcode 0xac] Scope.all) ⟨1, 1⟩ key = true) :
    ∃ final, Spend.validate verify
      (.standard context [.ofData [], .ofData key] [.ofOpcode 0xac]) = .ok () final := by
  have checked := checkSig_of_verify_placeholder keyEncoded accepted
  have executed : Script.execute (.standard verify context [.ofOpcode 0xac]) [.ofOpcode 0xac]
      { stack := [key, []] } = .ok () { stack := [[1]] } := by
    have ran : (Chunk.ofOpcode 0xac).execute (.standard verify context [.ofOpcode 0xac])
        { stack := [key, []] } = .ok .next { stack := [[1]] } := by
      rw [Chunk.execute_ofOpcode rfl rfl rfl]
      change onMainThenNext (checkSig 0xac _ false) _ = _
      rw [onMainThenNext_apply, checked]
    simp only [Script.execute, bind_apply, ran, pure_apply]
  have within : ∀ item ∈ [[], key], item.length ≤ ({} : Policy).maxElementSize.toNat := by
    have short : key.length ≤ 65 := by
      rcases checkKeyEncoding_eq_ok_iff.mp keyEncoded with ⟨length, -⟩ | ⟨length, -⟩ <;> omega
    intro item listed
    rw [Policy.maxElementSize_standard]
    simp only [List.mem_cons, List.not_mem_nil, or_false] at listed
    rcases listed with rfl | rfl
    · exact Nat.zero_le _
    · omega
  exact Spend.exists_validate_of_items (by simp; rfl) within executed rfl rfl rfl

/-- A public key recovered from the placeholder, for the digest of an input under a lone check. -/
def recoveredKey : Bytes :=
  Bytes.ofNatBE 33 0x030241184fa5d7588d723b3a945f6e7623dc35a3208774864f221f138c413e3816

theorem verify_placeholder_recoveredKey :
    Ecdsa.verify (sighash .bare [.ofOpcode 0xac] Scope.all) ⟨1, 1⟩ recoveredKey = true := by
  decide +kernel

/-- So verification by elliptic curves lets an empty signature authorise a spend. -/
theorem not_emptySignaturesFail_recoveredKey :
    (∃ final, Spend.validate Ecdsa.verify (.standard .bare
      [.ofData [], .ofData recoveredKey] [.ofOpcode 0xac]) = .ok () final) ∧
        ¬ EmptySignaturesFail (.standard Ecdsa.verify .bare [.ofOpcode 0xac]) := by
  have keyEncoded : checkKeyEncoding recoveredKey = .ok () := by decide
  refine ⟨exists_validate_of_verify_placeholder keyEncoded verify_placeholder_recoveredKey, ?_⟩
  intro fails
  have accepted := checkSig_of_verify_placeholder keyEncoded verify_placeholder_recoveredKey
  rw [fails.yields_false 0xac recoveredKey [] keyEncoded] at accepted
  cases accepted

end LoneCheck

end ScriptSpend
