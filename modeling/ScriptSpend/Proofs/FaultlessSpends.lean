import ScriptSpend.Proofs.CheckedMessages
import ScriptSpend.Proofs.FaultlessOperations
import ScriptSpend.Proofs.Finality
import ScriptSpend.Proofs.MatchingByDepth
import ScriptSpend.Proofs.SignatureLibraries

/-!
# Spends without faults

Whatever a spend is asked to do, and however often it has failed before, it never leaves the domain
of an operation: no chunk ends in a fault on any stacks, and neither a step nor a run nor the rules
on the final state add one. This also holds of evaluation with a check at every position, slice,
word, index and counter, which is the same evaluation. The checks go on where an instruction asks
whether a signature is valid: in the message that is signed, and in the bytes that are handed to a
library of elliptic curves.

## Main definitions

* `Spend.checkerChecked`: what decides signatures of the input, with explicit checks
* `Instruction.runChecked`: an instruction with explicit checks
* `Spend.StaysInDomain`: no action on a spend ends in a fault, with explicit checks or without

## Main results

* `Instruction.runChecked_eq`: the explicit checks make no difference
* `Spend.staysInDomain`: every spend stays in the domain, under every policy and after every
  sequence of actions
-/

namespace ScriptSpend

open Operation

/-- An instruction's action on the stacks with a check at every position, slice, word, index and
counter. Stacks are accessed with checks in any case, and signatures are shown to a checker that may
fail. -/
def Instruction.runChecked (asks : CheckedChecker) (env : Environment) (op : Opcode)
    (executing : Bool) : Instruction → MachineAction Flow
  | .split => onMainThenNext (splitChecked op env.policy.requireMinimalPush)
  | .shift direction =>
    onMainThenNext (shiftChecked op env.policy.requireMinimalPush direction)
  | .unary which => onMainThenNext (unaryChecked op env.policy.requireMinimalPush which)
  | .binary which verifying =>
    onMainThenNext (binaryChecked op env.policy.requireMinimalPush which verifying)
  | .checkSig verifying => onMainThenNext (checkSigChecked op env asks verifying)
  | .checkMultiSig verifying => onMainThenNext (checkMultiSigChecked op env asks verifying)
  | instruction => instruction.run env op executing

theorem Instruction.runChecked_eq (env : Environment) (op : Opcode) (executing : Bool)
    (instruction : Instruction) :
    instruction.runChecked env.checker.total env op executing =
      instruction.run env op executing := by
  cases instruction with
  | split => exact congrArg onMainThenNext (splitChecked_eq op _)
  | shift direction => exact congrArg onMainThenNext (shiftChecked_eq op _ direction)
  | unary which => exact congrArg onMainThenNext (unaryChecked_eq op _ which)
  | binary which verifying => exact congrArg onMainThenNext (binaryChecked_eq op _ which verifying)
  | checkSig verifying => exact congrArg onMainThenNext (checkSigChecked_eq op env verifying)
  | checkMultiSig verifying =>
    exact congrArg onMainThenNext (checkMultiSigByDepth_eq op env verifying)
  | _ => rfl

namespace Spend

/-- Decides signatures of the input by a rule that may fail, over a digest of the message that is
put together with checks. -/
def checkerChecked (verifies : Ecdsa.CheckedVerifier) (context : InputContext) : CheckedChecker :=
  fun decoded key subscript => do
    let digest ← sighashChecked context subscript decoded.scope
    verifies digest decoded.signature key

/-- The checks on the message make no difference to what decides signatures. -/
theorem checkerChecked_eq (verify : Ecdsa.Verifier) (context : InputContext) :
    checkerChecked verify.total context = (checker verify context).total := by
  funext decoded key subscript
  rw [checkerChecked, sighashChecked_eq]
  rfl

/-- In a spend an instruction with the explicit checks is the same as without. -/
theorem runChecked_eq (verify : Ecdsa.Verifier) (spend : Spend) (op : Opcode) (executing : Bool)
    (instruction : Instruction) :
    instruction.runChecked (checkerChecked verify.total spend.context) (spend.environment verify) op
        executing =
      instruction.run (spend.environment verify) op executing := by
  rw [checkerChecked_eq]
  exact Instruction.runChecked_eq _ op executing instruction

variable {verify : Ecdsa.Verifier} {spend failed : Spend} {e : SpendError}

theorem ne_fault_of_step (stepped : step verify spend = .error e failed) : e.cause ≠ .fault := by
  obtain ⟨chunk, -, ⟨bound, -, -, exhausted⟩ | ⟨machine, executed, -⟩⟩ := step_eq_error stepped
  · rw [exhausted]
    exact Failure.noConfusion
  · exact (chunk.execute_neverFaults _).ne_fault executed

theorem ne_fault_of_runFor {count : Nat} (ran : runFor verify count spend = .error e failed) :
    e.cause ≠ .fault := by
  obtain ⟨before, stepped, -⟩ := exists_failed_step_of_runFor ran
  exact ne_fault_of_step stepped

theorem cause_of_demand {holds : Bool} {cause : Failure}
    (refused : demand holds cause spend = .error e failed) : e.cause = cause := by
  cases holds with
  | false =>
    cases refused
    rfl
  | true => cases refused

/-- The rules on the final state are refused for causes of their own. -/
theorem ne_fault_of_conclude (refused : conclude spend = .error e failed) : e.cause ≠ .fault := by
  have other : e.cause = .openConditional ∨ e.cause = .uncleanStack spend.machine.stack.length ∨
      e.cause = .falseResult := by
    simp only [conclude, bind_apply] at refused
    split at refused
    · split at refused
      · exact .inr (.inr (cause_of_demand refused))
      · rename_i unclean
        cases refused
        exact .inr (.inl (cause_of_demand unclean))
    · rename_i opened
      cases refused
      exact .inl (cause_of_demand opened)
  rcases other with cause | cause | cause <;>
  · rw [cause]
    exact Failure.noConfusion

theorem ne_fault_of_validate (rejected : validate verify spend = .error e failed) :
    e.cause ≠ .fault := by
  rcases validate_eq_error rejected with ⟨-, rfl, -⟩ | ran | ⟨-, -, refused⟩
  · exact Failure.noConfusion
  · exact ne_fault_of_runFor ran
  · exact ne_fault_of_conclude refused

theorem exists_error_of_outcomeOf {action : SpendAction Unit}
    (ended : (outcomeOf action spend).result = .error e) :
    ∃ failed, action spend = .error e failed := by
  cases acted : action spend with
  | ok _ next =>
    rw [outcomeOf_of_ok acted] at ended
    cases ended
  | error cause failed =>
    rw [outcomeOf_of_error acted] at ended
    cases ended
    exact ⟨failed, rfl⟩

/-- No action ends in a fault, from whatever state it is asked for. -/
theorem ne_fault_of_perform {action : Action}
    (ended : (spend.perform verify action).result = .error e) : e.cause ≠ .fault := by
  cases action with
  | step =>
    obtain ⟨failed, stepped⟩ := exists_error_of_outcomeOf ended
    exact ne_fault_of_step stepped
  | validate =>
    obtain ⟨failed, rejected⟩ := exists_error_of_outcomeOf ended
    exact ne_fault_of_validate rejected
  | reset => cases ended
  | trace =>
    have same : (trace verify spend).result = (outcomeOf (run verify) spend).result :=
      congrArg Prod.fst (traceFor_eq_runFor verify spend.remaining spend)
    obtain ⟨failed, ran⟩ := exists_error_of_outcomeOf (same.symm.trans ended)
    exact ne_fault_of_runFor ran

/-- Evaluation of a spend never leaves the domain of an operation, whatever was done before and
whatever came of it. -/
structure StaysInDomain (verify : Ecdsa.Verifier) (spend : Spend) : Prop where
  /-- No action ends in a fault. -/
  no_fault : ∀ actions action e,
    ((spend.after verify actions).perform verify action).result = .error e → e.cause ≠ .fault
  /-- The explicit checks make no difference to an instruction, and neither do those on the message
  whose signatures it checks. -/
  checked : ∀ actions op executing instruction,
    let reached := (spend.after verify actions).entered
    Instruction.runChecked (checkerChecked verify.total reached.context)
        (reached.environment verify) op executing instruction =
      Instruction.run (reached.environment verify) op executing instruction
  /-- With the checks no instruction ends in a fault, whatever is on the stacks. -/
  no_fault_checked : ∀ actions op executing instruction machine cause left,
    let reached := (spend.after verify actions).entered
    Instruction.runChecked (checkerChecked verify.total reached.context)
      (reached.environment verify) op executing instruction machine = .error cause left →
        cause ≠ .fault
  /-- Where signatures are verified by a library, checks on the bytes that it is handed make no
  difference either. -/
  library_checked : ∀ library : Ecdsa.Library, library.verifyChecked = library.verify.total

/-- No spend ever leaves the domain of an operation, whatever its scripts, its policy and what is
asked of it. -/
theorem staysInDomain (verify : Ecdsa.Verifier) (spend : Spend) : spend.StaysInDomain verify where
  no_fault _ _ _ ended := ne_fault_of_perform ended
  checked _ op executing instruction := runChecked_eq verify _ op executing instruction
  no_fault_checked actions op executing instruction machine cause left failed := by
    rw [runChecked_eq] at failed
    exact (Instruction.run_neverFaults _ instruction op executing).ne_fault failed
  library_checked := Ecdsa.Library.verifyChecked_eq

end Spend

end ScriptSpend
