import ScriptSpend.Proofs.Matching

/-!
# Why checks of signatures refuse operands

Up to its result a check of signatures computes with its operands and leaves the stacks alone. What
it can refuse there is how a signature or a key is written, or a signature that is too long to be
pushed. The pass over several signatures adds nothing of its own, unless it is left with fewer keys
than signatures from the start.

## Main definitions

* `Failure.isOfOperands`: the causes for which operands of a check of signatures are refused

## Main results

* `isOfOperands_of_tryKey`: trying a key fails for these causes only
* `isOfOperands_of_matchOperands`: so does the decision about several signatures
-/

namespace ScriptSpend

/-- The causes for which the operands of a check of signatures are refused. -/
def Failure.isOfOperands : Failure → Bool
  | malformedSignature | undecodableSignature _ | highS | missingForkId | keyTooShort
  | unknownKeyFormat | keyLengthMismatch | pushTooLong _ => true
  | _ => false

section Encodings

variable {policy : Policy} {checker : Checker} {subscript stripped : Script} {item key : Bytes}
  {cause : Failure}

theorem isOfOperands_of_checkSignatureEncoding
    (refused : checkSignatureEncoding policy item = .error cause) : cause.isOfOperands = true := by
  unfold checkSignatureEncoding at refused
  split at refused
  · cases refused
  · split at refused
    · cases refused
      rfl
    · split at refused
      · cases refused
        rfl
      · split at refused
        · cases refused
          rfl
        · split at refused
          · cases refused
            rfl
          · cases refused

theorem isOfOperands_of_checkKeyEncoding (refused : checkKeyEncoding key = .error cause) :
    cause.isOfOperands = true := by
  cases key with
  | nil =>
    cases refused
    rfl
  | cons tag coordinates =>
    simp only [checkKeyEncoding] at refused
    split_ifs at refused <;> cases refused <;> rfl

theorem isOfOperands_of_stripSignature (refused : stripSignature subscript item = .error cause) :
    cause.isOfOperands = true := by
  unfold stripSignature at refused
  split at refused
  · cases refused
    rfl
  · cases refused

theorem isOfOperands_of_stripSignatures {items : List Bytes}
    (refused : stripSignatures subscript items = .error cause) : cause.isOfOperands = true := by
  induction items generalizing subscript with
  | nil => cases refused
  | cons item items ih =>
    unfold stripSignatures at refused
    split at refused
    · rename_i strippedFails
      cases refused
      exact isOfOperands_of_stripSignature strippedFails
    · exact ih refused

theorem isOfOperands_of_tryKey
    (refused : tryKey policy checker subscript item key = .error cause) :
    cause.isOfOperands = true := by
  unfold tryKey at refused
  split at refused
  · rename_i signatureRefused
    cases refused
    exact isOfOperands_of_checkSignatureEncoding signatureRefused
  · split at refused
    · rename_i keyRefused
      cases refused
      exact isOfOperands_of_checkKeyEncoding keyRefused
    · cases refused

end Encodings

section Decision

variable {fits : Bytes → Bytes → Except Failure Bool} {items keys : List Bytes} {cause : Failure}

/-- The pass fails where an attempt fails, or for want of keys, which there are if there are as many
as signatures. -/
theorem isOfOperands_of_matchSignatures
    (attempts : ∀ item key cause, fits item key = .error cause → cause.isOfOperands = true)
    (refused : matchSignatures fits items keys = .error cause) :
    cause.isOfOperands = true ∨ cause = .fault ∧ keys.length < items.length := by
  -- By induction on the keys: each of them is used up by one attempt.
  induction keys generalizing items with
  | nil =>
    cases items with
    | nil => cases refused
    | cons item items =>
      cases refused
      exact .inr ⟨rfl, Nat.zero_lt_succ _⟩
  | cons key keys ih =>
    cases items with
    | nil => cases refused
    | cons item items =>
      cases answer : fits item key with
      | error cause =>
        rw [matchSignatures, answer] at refused
        cases refused
        exact .inl (attempts item key _ answer)
      | ok fit =>
        rw [matchSignatures_cons_cons answer] at refused
        generalize (if fit then items else item :: items) = waiting at refused
        dsimp only at refused
        split at refused
        · cases refused
        · rename_i enough
          exact (ih refused).imp_right fun exhausted => absurd exhausted.2 enough

theorem isOfOperands_of_matchOperands {env : Environment} {operands : MultiSigOperands}
    (refused : env.matchOperands operands = .error cause) :
    cause.isOfOperands = true ∨
      cause = .fault ∧ operands.keys.length < operands.signatures.length := by
  unfold Environment.matchOperands at refused
  split at refused
  · rename_i stripFails
    cases refused
    exact .inl (isOfOperands_of_stripSignatures stripFails)
  · exact isOfOperands_of_matchSignatures (fun _ _ _ => isOfOperands_of_tryKey) refused

end Decision

end ScriptSpend
