import ScriptSpend.Proofs.RunningActions
import ScriptSpend.Proofs.Subscript

/-!
# Checks of one signature

A check of one signature first looks at how the signature and the key are encoded, and then asks the
checker. Up to the answer the stack stays as it is. Only an empty signature may be refused quietly.

## Main results

* `checkSignatureEncoding_eq_ok_iff`, `checkKeyEncoding_eq_ok_iff`: which operands are in order
* `checkSig_of_encoded`: what a check does with operands that are encoded as they must be
* `checkSig_eq_ok_iff`: when a check succeeds, and what it leaves
-/

namespace ScriptSpend

open StackAction Operation

section Encodings

/-- A signature is in order if it is canonical, decodes, and keeps the rules on its parts. -/
theorem checkSignatureEncoding_eq_ok_iff {policy : Policy} {item : Bytes} (present : item ≠ []) :
    checkSignatureEncoding policy item = .ok () ↔
      isSignatureItem item = true ∧ ∃ decoded, ScopedSignature.ofItem item = .ok decoded ∧
        (policy.requireLowS = true → decoded.signature.hasLowS = true) ∧
        decoded.scope.hasForkId = true := by
  unfold checkSignatureEncoding
  rw [if_neg (by simpa using present)]
  cases isSignatureItem item with
  | false => simp
  | true =>
    cases read : ScopedSignature.ofItem item with
    | error cause => simp
    | ok decoded =>
      cases policy.requireLowS <;> cases low : decoded.signature.hasLowS <;>
        cases marked : decoded.scope.hasForkId <;> simp [low, marked]

/-- A key is in order if its first byte announces its length. -/
theorem checkKeyEncoding_eq_ok_iff {key : Bytes} :
    checkKeyEncoding key = .ok () ↔
      (key.length = 33 ∧ (key.head? = some 2 ∨ key.head? = some 3)) ∨
        key.length = 65 ∧ key.head? = some 4 := by
  cases key with
  | nil => simp [checkKeyEncoding]
  | cons tag coordinates =>
    simp only [checkKeyEncoding, List.head?_cons, Option.some.injEq]
    generalize (tag :: coordinates).length = length
    split
    · simp only [reduceCtorEq, false_iff]
      rintro (⟨rfl, -⟩ | ⟨rfl, -⟩) <;> omega
    · split
      · rename_i uncompressed
        subst uncompressed
        split <;> simp_all
      · split
        · split <;> simp_all
        · simp_all

end Encodings

section Checks

variable (op : Opcode) {env : Environment} (verify : Bool) {signature key : Bytes} {rest : Stack}

/-- With both operands in order, the answer of the checker decides. -/
theorem checkSig_of_encoded
    (signatureEncoded : checkSignatureEncoding env.policy signature = .ok ())
    (keyEncoded : checkKeyEncoding key = .ok ()) :
    checkSig op env verify (key :: signature :: rest) =
      let accepted := env.checker.accepts (env.subscript.withoutPushes [signature]) signature key
      if accepted = false ∧ signature ≠ [] then
        .error (.rejectedSignature op) (key :: signature :: rest)
      else if verify then verifyTop .noValidSignature (ScriptNumber.ofBool accepted :: rest)
      else .ok () (ScriptNumber.ofBool accepted :: rest) := by
  have second : item 1 (key :: signature :: rest) = .ok signature (key :: signature :: rest) :=
    item_of_getElem? rfl
  have stripped : stripSignature env.subscript signature =
      .ok (env.subscript.withoutPushes [signature]) :=
    stripSignature_eq_ok (length_le_maxPush_of_checkSignatureEncoding signatureEncoded)
  simp [checkSig, second, signatureEncoded, keyEncoded, stripped]

/-- A check of operands that are not in order fails and leaves the stack as it is. -/
theorem checkSig_of_not_encoded
    (refused :
      checkSignatureEncoding env.policy signature ≠ .ok () ∨ checkKeyEncoding key ≠ .ok ()) :
    ∃ cause, checkSig op env verify (key :: signature :: rest) =
      .error cause (key :: signature :: rest) := by
  have second : item 1 (key :: signature :: rest) = .ok signature (key :: signature :: rest) :=
    item_of_getElem? rfl
  cases signatureRead : checkSignatureEncoding env.policy signature with
  | error cause => exact ⟨cause, by simp [checkSig, second, signatureRead]⟩
  | ok _ =>
    cases keyRead : checkKeyEncoding key with
    | error cause => exact ⟨cause, by simp [checkSig, second, signatureRead, keyRead]⟩
    | ok _ => simp [signatureRead, keyRead] at refused

/-- A check whose result stays on the stack succeeds if and only if both operands are in order and
the signature is valid or empty. -/
theorem checkSig_eq_ok_iff {left : Stack} :
    checkSig op env false (key :: signature :: rest) = .ok () left ↔
      checkSignatureEncoding env.policy signature = .ok () ∧ checkKeyEncoding key = .ok () ∧
        ∃ accepted, env.checker.accepts (env.subscript.withoutPushes [signature]) signature key =
            accepted ∧
          (accepted = true ∨ signature = []) ∧ left = ScriptNumber.ofBool accepted :: rest := by
  by_cases encoded :
      checkSignatureEncoding env.policy signature = .ok () ∧ checkKeyEncoding key = .ok ()
  · obtain ⟨signatureEncoded, keyEncoded⟩ := encoded
    rw [checkSig_of_encoded op false signatureEncoded keyEncoded, and_iff_right signatureEncoded,
      and_iff_right keyEncoded]
    cases env.checker.accepts (env.subscript.withoutPushes [signature]) signature key <;>
      by_cases empty : signature = [] <;> simp [empty, eq_comm (b := left)]
  · obtain ⟨cause, failed⟩ : ∃ cause, checkSig op env false (key :: signature :: rest) =
        .error cause (key :: signature :: rest) :=
      checkSig_of_not_encoded op false (Classical.not_and_iff_not_or_not.mp encoded)
    rw [failed]
    simp only [reduceCtorEq, false_iff]
    exact fun ⟨signatureEncoded, keyEncoded, _⟩ => encoded ⟨signatureEncoded, keyEncoded⟩

end Checks

end ScriptSpend
