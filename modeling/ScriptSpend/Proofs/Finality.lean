import Mathlib.Logic.Function.Iterate
import ScriptSpend.Proofs.FailingOperations
import ScriptSpend.Proofs.RunningSpends
import ScriptSpend.Spend.Session

/-!
# Whether a rejection is final

A spend that was rejected stays where it failed, and may be stepped and validated again. Each
further attempt executes the failing chunk once more, on what it has left of the stack. If the cause
tells that the chunk failed in place, or fails for good, no attempt ever succeeds. A chunk that used
up items before it failed may succeed on those below them, and then an authorisation that was
refused is granted without a reset.

## Main definitions

* `Spend.after`: the spend after some actions, whatever came of them
* `Spend.IsFinal`: no actions without a reset make the spend valid
* `Spend.IsRejected`: what every further attempt keeps
* `Spend.Declined`: what an attempt that leaves no rejected spend has lost

## Main results

* `exists_validation_or_isRejected`: validating again and again comes to an end
* `isFinal_iff`: a rejection is final unless its cause is one to recover from and validating again,
  some number of times, succeeds
* `not_isFinal_notEqual`: a rejection that is not final
-/

namespace ScriptSpend.Spend

variable {verify : Ecdsa.Verifier} {spend next failed final : Spend} {e : SpendError}

section Actions

/-- The spend after some actions, whatever came of them. -/
def after (verify : Ecdsa.Verifier) (spend : Spend) (actions : List Action) : Spend :=
  actions.foldl (fun reached action => (perform verify reached action).spend) spend

/-- No sequence of actions without a reset makes the spend valid. -/
def IsFinal (verify : Ecdsa.Verifier) (spend : Spend) : Prop :=
  ∀ actions : List Action, Action.reset ∉ actions →
    ∀ final, validate verify (spend.after verify actions) ≠ .ok () final

/-- The spend after a step. -/
def afterStep (verify : Ecdsa.Verifier) (spend : Spend) : Spend :=
  (perform verify spend .step).spend

/-- The spend after a validation. -/
def afterValidation (verify : Ecdsa.Verifier) (spend : Spend) : Spend :=
  (perform verify spend .validate).spend

theorem outcomeOf_of_ok {action : SpendAction Unit} (succeeded : action spend = .ok () next) :
    outcomeOf action spend = ⟨[], .ok (), next⟩ := by
  simp [outcomeOf, succeeded]

theorem outcomeOf_of_error {action : SpendAction Unit} (stopped : action spend = .error e failed) :
    outcomeOf action spend = ⟨[], .error e, failed⟩ := by
  simp [outcomeOf, stopped]

theorem afterStep_of_ok (stepped : step verify spend = .ok () next) :
    spend.afterStep verify = next := by
  rw [afterStep, perform, outcomeOf_of_ok stepped]

theorem afterStep_of_error (stepped : step verify spend = .error e failed) :
    spend.afterStep verify = failed := by
  rw [afterStep, perform, outcomeOf_of_error stepped]

/-- Stepping keeps the transaction, the scripts and the policy. -/
@[simp] theorem reset_afterStep : (spend.afterStep verify).reset = spend.reset := by
  cases stepped : step verify spend with
  | ok _ next => rw [afterStep_of_ok stepped, reset_of_step stepped]
  | error e failed => rw [afterStep_of_error stepped, reset_of_failed_step stepped]

/-- Whether the unlocking script is admitted depends on what a reset keeps. -/
theorem admitsUnlocking_congr (same : next.reset = spend.reset) :
    next.admitsUnlocking = spend.admitsUnlocking :=
  eq_of_reset admitsUnlocking (fun _ => rfl) same

theorem reset_iterate (k : Nat) : ((afterStep verify)^[k] spend).reset = spend.reset := by
  induction k generalizing spend with
  | zero => rfl
  | succ k ih => exact ih.trans reset_afterStep

@[simp] theorem admitsUnlocking_afterStep :
    (spend.afterStep verify).admitsUnlocking = spend.admitsUnlocking :=
  admitsUnlocking_congr reset_afterStep

theorem admitsUnlocking_iterate (k : Nat) :
    ((afterStep verify)^[k] spend).admitsUnlocking = spend.admitsUnlocking :=
  admitsUnlocking_congr (reset_iterate k)

end Actions

section Steps

/-- A run takes steps, whether it fails or not. -/
theorem exists_iterate_of_runFor (verify : Ecdsa.Verifier) (count : Nat) (spend : Spend) :
    ∃ k, (outcomeOf (runFor verify count) spend).spend = (afterStep verify)^[k] spend := by
  induction count generalizing spend with
  | zero => exact ⟨0, rfl⟩
  | succ count ih =>
    cases finished : spend.isFinished with
    | true => exact ⟨0, by rw [outcomeOf_of_ok (runFor_of_isFinished finished _)]; rfl⟩
    | false =>
      rw [outcomeOf, runFor_succ finished, bind_apply]
      cases stepped : step verify spend with
      | ok _ next =>
        obtain ⟨k, reached⟩ := ih next
        exact ⟨k + 1, by rw [Function.iterate_succ_apply, afterStep_of_ok stepped]; exact reached⟩
      | error e failed => exact ⟨1, (afterStep_of_error stepped).symm⟩

/-- A validation of what is admitted leaves the spend where its run did. -/
theorem spend_validate_of_admitsUnlocking (admitted : spend.admitsUnlocking = true) :
    (outcomeOf (validate verify) spend).spend = (outcomeOf (run verify) spend).spend := by
  rw [outcomeOf, outcomeOf, validate_of_admitsUnlocking admitted, bind_apply]
  cases ran : run verify spend with
  | error e failed => rfl
  | ok _ reached =>
    rcases conclude_cases reached with ⟨-, accepted⟩ | ⟨-, e, refused⟩
    · simp only [accepted]
    · simp only [refused]

/-- What is not admitted is left as it is. -/
theorem spend_validate_of_not_admitsUnlocking (barred : spend.admitsUnlocking = false) :
    (outcomeOf (validate verify) spend).spend = spend := by
  rw [outcomeOf_of_error (validate_of_not_admitsUnlocking barred)]

/-- Every action but a reset takes steps and does nothing else to the spend. -/
theorem exists_iterate_of_perform (verify : Ecdsa.Verifier) (spend : Spend) {action : Action}
    (kept : action ≠ .reset) :
    ∃ k, (perform verify spend action).spend = (afterStep verify)^[k] spend := by
  cases action with
  | step => exact ⟨1, rfl⟩
  | reset => exact absurd rfl kept
  | validate =>
    cases admitted : spend.admitsUnlocking with
    | false => exact ⟨0, spend_validate_of_not_admitsUnlocking admitted⟩
    | true =>
      obtain ⟨k, reached⟩ := exists_iterate_of_runFor verify spend.remaining spend
      exact ⟨k, (spend_validate_of_admitsUnlocking admitted).trans reached⟩
  | trace =>
    obtain ⟨k, reached⟩ := exists_iterate_of_runFor verify spend.remaining spend
    refine ⟨k, Eq.trans ?_ reached⟩
    exact congrArg Prod.snd (traceFor_eq_runFor verify spend.remaining spend)

theorem exists_iterate_of_after (verify : Ecdsa.Verifier) (spend : Spend) {actions : List Action}
    (kept : Action.reset ∉ actions) :
    ∃ k, spend.after verify actions = (afterStep verify)^[k] spend := by
  induction actions generalizing spend with
  | nil => exact ⟨0, rfl⟩
  | cons action actions ih =>
    obtain ⟨notReset, keptBelow⟩ : action ≠ .reset ∧ Action.reset ∉ actions := by
      simpa [eq_comm] using kept
    obtain ⟨k, performed⟩ := exists_iterate_of_perform verify spend notReset
    obtain ⟨l, reached⟩ := ih (perform verify spend action).spend keptBelow
    exact ⟨l + k, by rw [Function.iterate_add_apply, ← performed]; exact reached⟩

end Steps

section Retries

theorem afterValidation_of_ok (valid : validate verify spend = .ok () final) :
    spend.afterValidation verify = final := by
  rw [afterValidation, perform, outcomeOf_of_ok valid]

theorem afterValidation_of_error (rejected : validate verify spend = .error e failed) :
    spend.afterValidation verify = failed := by
  rw [afterValidation, perform, outcomeOf_of_error rejected]

/-- Validating again and again is a sequence of actions without a reset. -/
theorem after_replicate_validate (n : Nat) (spend : Spend) :
    spend.after verify (List.replicate n .validate) = (afterValidation verify)^[n] spend := by
  induction n generalizing spend with
  | zero => rfl
  | succ n ih => exact ih (spend.afterValidation verify)

/-- A step that succeeds makes no difference to a validation of what is admitted. -/
theorem validate_of_step (admitted : spend.admitsUnlocking = true)
    (stepped : step verify spend = .ok () next) : validate verify spend = validate verify next := by
  have admittedNext : next.admitsUnlocking = true := by
    rw [admitsUnlocking_congr (reset_of_step stepped), admitted]
  rw [validate_of_admitsUnlocking admitted, validate_of_admitsUnlocking admittedNext, bind_apply,
    bind_apply, run_of_step stepped]

theorem validate_of_failed_step (admitted : spend.admitsUnlocking = true)
    (stepped : step verify spend = .error e failed) :
    validate verify spend = .error e failed := by
  rw [validate_of_admitsUnlocking admitted, bind_apply, run_of_failed_step stepped]

/-- A spend that some steps make valid becomes valid by validating again and again: every failing
step ends one validation, and the next one goes on behind it. -/
theorem exists_validation_of_iterate {k : Nat} (admitted : spend.admitsUnlocking = true)
    (valid : validate verify ((afterStep verify)^[k] spend) = .ok () final) :
    ∃ n, validate verify ((afterValidation verify)^[n] spend) = .ok () final := by
  induction k generalizing spend with
  | zero => exact ⟨0, valid⟩
  | succ k ih =>
    obtain ⟨n, validAfter⟩ := ih (admitsUnlocking_afterStep.trans admitted) valid
    cases stepped : step verify spend with
    | ok _ next =>
      -- A step that succeeded is the beginning of the next validation.
      rw [afterStep_of_ok stepped] at validAfter
      have same := validate_of_step admitted stepped
      cases n with
      | zero => exact ⟨0, same.trans validAfter⟩
      | succ n =>
        have sameSpend : spend.afterValidation verify = next.afterValidation verify := by
          rw [afterValidation, afterValidation, perform, perform, outcomeOf, outcomeOf, same]
        rw [Function.iterate_succ_apply, ← sameSpend] at validAfter
        exact ⟨n + 1, validAfter⟩
    | error e failed =>
      -- A step that failed is a validation by itself.
      rw [afterStep_of_error stepped,
        ← afterValidation_of_error (validate_of_failed_step admitted stepped)] at validAfter
      exact ⟨n + 1, validAfter⟩

/-- Whatever steps and validations are mixed, they achieve no more than validations alone. -/
theorem isFinal_iff_retries :
    IsFinal verify spend ↔
      ∀ n final, validate verify ((afterValidation verify)^[n] spend) ≠ .ok () final := by
  constructor
  · intro isFinal n final
    rw [← after_replicate_validate]
    exact isFinal _ (by simp) final
  · intro retriesFail actions kept final valid
    obtain ⟨k, reached⟩ := exists_iterate_of_after verify spend kept
    rw [reached] at valid
    have admitted : spend.admitsUnlocking = true := by
      rw [← admitsUnlocking_iterate k]
      exact (validate_eq_ok_iff.mp valid).1
    obtain ⟨n, validAgain⟩ := exists_validation_of_iterate admitted valid
    exact retriesFail n final validAgain

end Retries

section Rejection

/-- What every further attempt keeps: the unlocking script is not admitted, or the present chunk
fails in place, or both scripts are at their end and the rules on the final state do not hold. -/
inductive IsRejected (verify : Ecdsa.Verifier) (spend : Spend) : Prop where
  | barred (refused : spend.admitsUnlocking = false)
  | stuck {chunk : Chunk} (found : spend.chunk? = some chunk)
      (fails : (∃ bound, spend.exhausted? = some bound) ∨
        ∃ cause, chunk.execute (spend.environment verify) spend.machine =
          .error cause spend.machine)
  | unconcluded (finished : spend.isFinished = true) (refused : ¬ spend.IsConcluded)

/-- A spend that is stuck at a chunk fails there, and nothing but the number of steps changes. -/
theorem exists_failed_step_of_stuck {chunk : Chunk} (found : spend.chunk? = some chunk)
    (fails : (∃ bound, spend.exhausted? = some bound) ∨
      ∃ cause, chunk.execute (spend.environment verify) spend.machine =
        .error cause spend.machine) :
    ∃ e steps, step verify spend = .error e { spend with steps } ∧
      IsRejected verify { spend with steps } := by
  rw [step, entered_of_chunk? found, stepEntered, found]
  cases exhausted : spend.exhausted? with
  | some bound => exact ⟨_, spend.steps, rfl, .stuck found (.inl ⟨bound, exhausted⟩)⟩
  | none =>
    rcases fails with ⟨bound, used⟩ | ⟨cause, executed⟩
    · rw [exhausted] at used
      cases used
    · simp only [executed]
      exact ⟨_, spend.steps + 1, rfl, .stuck found (.inr ⟨cause, executed⟩)⟩

/-- One more step keeps a spend rejected. -/
theorem IsRejected.afterStep (rejected : IsRejected verify spend) :
    IsRejected verify (spend.afterStep verify) := by
  cases rejected with
  | barred refused => exact .barred (admitsUnlocking_afterStep.trans refused)
  | stuck found fails =>
    obtain ⟨e, steps, stepped, stillRejected⟩ := exists_failed_step_of_stuck found fails
    rwa [afterStep_of_error stepped]
  | unconcluded finished refused =>
    rw [afterStep_of_ok (step_of_isFinished finished)]
    exact .unconcluded finished refused

theorem IsRejected.iterate (rejected : IsRejected verify spend) (k : Nat) :
    IsRejected verify ((Spend.afterStep verify)^[k] spend) := by
  induction k generalizing spend with
  | zero => exact rejected
  | succ k ih => exact ih rejected.afterStep

/-- A rejected spend is not valid. -/
theorem IsRejected.validate_ne_ok (rejected : IsRejected verify spend) :
    validate verify spend ≠ .ok () final := by
  intro valid
  obtain ⟨admitted, ran, concluded⟩ := validate_eq_ok_iff.mp valid
  cases rejected with
  | barred refused =>
    rw [refused] at admitted
    cases admitted
  | stuck found fails =>
    obtain ⟨e, steps, stepped, -⟩ := exists_failed_step_of_stuck found fails
    rw [run_of_failed_step stepped] at ran
    cases ran
  | unconcluded finished refused =>
    rw [run_of_isFinished finished] at ran
    cases ran
    exact refused concluded

theorem IsRejected.isFinal (rejected : IsRejected verify spend) : IsFinal verify spend := by
  intro actions kept final
  obtain ⟨k, reached⟩ := exists_iterate_of_after verify spend kept
  rw [reached]
  exact (rejected.iterate k).validate_ne_ok

end Rejection

section Attempts

/-- What an attempt has before it: the steps that remain, and the items on the main stack. -/
def outlook (spend : Spend) : Nat × Nat := (spend.remaining, spend.machine.height)

/-- After a failed attempt fewer steps remain, or as many and fewer items. -/
def Declined (failed spend : Spend) : Prop :=
  Prod.Lex (· < ·) (· < ·) failed.outlook spend.outlook

theorem declined_iff : Declined failed spend ↔ failed.remaining < spend.remaining ∨
    failed.remaining = spend.remaining ∧ failed.machine.height < spend.machine.height :=
  Prod.lex_iff

theorem remaining_entered_le (spend : Spend) : spend.entered.remaining ≤ spend.remaining := by
  unfold entered
  split
  · rename_i ended
    simp only [remaining, ended.1]
    omega
  · exact Nat.le_refl _

/-- A step that failed leaves a rejected spend, unless the cause is one to recover from, and then
the spend has declined. -/
theorem isRejected_or_declined_of_failed_step (stepped : step verify spend = .error e failed) :
    IsRejected verify failed ∨ e.cause.isRecoverable = true ∧ Declined failed spend := by
  obtain ⟨chunk, found, ⟨bound, exhausted, rfl, -⟩ | ⟨machine, executed, rfl⟩⟩ :=
    step_eq_error stepped
  · exact .inl (.stuck found (.inl ⟨bound, exhausted⟩))
  · rcases Chunk.staysFailed (spend.entered.environment verify) chunk executed with
      ⟨again, executedAgain⟩ | ⟨recoverable, lower⟩
    · exact .inl (.stuck found (.inr ⟨again, executedAgain⟩))
    · refine .inr ⟨recoverable, declined_iff.mpr ?_⟩
      rw [entered_machine] at lower
      rcases Nat.lt_or_eq_of_le (remaining_entered_le spend) with fewer | same
      · exact .inl fewer
      · exact .inr ⟨same, lower⟩

/-- So does a validation. -/
theorem isRejected_or_declined_of_validate (rejected : validate verify spend = .error e failed) :
    IsRejected verify failed ∨ e.cause.isRecoverable = true ∧ Declined failed spend := by
  rcases validate_eq_error rejected with ⟨barred, -, rfl⟩ | ran | ⟨ran, unconcluded, -⟩
  · exact .inl (.barred barred)
  · obtain ⟨before, stepped, start⟩ := exists_failed_step_of_runFor ran
    refine (isRejected_or_declined_of_failed_step stepped).imp_right ?_
    rintro ⟨recoverable, declined⟩
    refine ⟨recoverable, ?_⟩
    rcases start with rfl | fewer
    · exact declined
    · rw [declined_iff] at declined ⊢
      omega
  · exact .inl (.unconcluded (isFinished_of_run ran) unconcluded)

/-- Validating again and again makes a spend valid in the end, or leaves a rejected one: every
attempt that does neither has declined. -/
theorem exists_validation_or_isRejected (verify : Ecdsa.Verifier) (spend : Spend) :
    (∃ n final, validate verify ((afterValidation verify)^[n] spend) = .ok () final) ∨
      ∃ n, IsRejected verify ((afterValidation verify)^[n] spend) := by
  cases validated : validate verify spend with
  | ok _ final => exact .inl ⟨0, final, validated⟩
  | error e failed =>
    have left := afterValidation_of_error validated
    rcases isRejected_or_declined_of_validate validated with rejected | ⟨-, declined⟩
    · refine .inr ⟨1, ?_⟩
      rwa [Function.iterate_one, left]
    · rcases exists_validation_or_isRejected verify failed with ⟨n, final, valid⟩ | ⟨n, rejected⟩
      · refine .inl ⟨n + 1, final, ?_⟩
        rwa [Function.iterate_succ_apply, left]
      · refine .inr ⟨n + 1, ?_⟩
        rwa [Function.iterate_succ_apply, left]
termination_by spend.outlook
decreasing_by exact declined

/-- A valid spend is left at its end, and is valid there. -/
theorem validate_of_valid (valid : validate verify spend = .ok () final) :
    validate verify final = .ok () final := by
  obtain ⟨admitted, ran, concluded⟩ := validate_eq_ok_iff.mp valid
  have finished : final.isFinished = true := isFinished_of_run ran
  have admittedFinal : final.admitsUnlocking = true := by
    obtain ⟨k, taken⟩ := exists_iterate_of_runFor verify spend.remaining spend
    have reached : (outcomeOf (run verify) spend).spend = (afterStep verify)^[k] spend := taken
    rw [outcomeOf_of_ok ran] at reached
    rw [show final = (afterStep verify)^[k] spend from reached, admitsUnlocking_iterate, admitted]
  exact validate_eq_ok_iff.mpr ⟨admittedFinal, run_of_isFinished finished, concluded⟩

/-- A spend is not valid if it is final after a validation. -/
theorem IsFinal.of_afterValidation (isFinal : IsFinal verify (spend.afterValidation verify)) :
    IsFinal verify spend := by
  rw [isFinal_iff_retries] at isFinal ⊢
  intro n final valid
  cases n with
  | zero =>
    have validSpend : validate verify spend = .ok () final := valid
    refine isFinal 0 final ?_
    rw [Function.iterate_zero_apply, afterValidation_of_ok validSpend]
    exact validate_of_valid validSpend
  | succ n => exact isFinal n final valid

theorem IsFinal.of_iterate {n : Nat}
    (isFinal : IsFinal verify ((afterValidation verify)^[n] spend)) : IsFinal verify spend := by
  induction n generalizing spend with
  | zero => exact isFinal
  | succ n ih => exact .of_afterValidation (ih isFinal)

end Attempts

section Finality

/-- The cause of a rejection. -/
def Outcome.cause? (outcome : Outcome) : Option Failure :=
  match outcome.result with
  | .ok _ => none
  | .error e => some e.cause

/-- A rejection is final if and only if its cause is not one to recover from, or validating again,
some number of times, leaves a rejected spend: its unlocking script is not admitted, its present
chunk fails in place or beyond the bound on steps, or it is at its end and breaks a rule on the
final state. -/
theorem isFinal_iff (rejected : validate verify spend = .error e failed) :
    IsFinal verify failed ↔ (e.cause.isRecoverable = true →
      ∃ n, IsRejected verify ((afterValidation verify)^[n] failed)) := by
  constructor
  · intro isFinal _
    rcases exists_validation_or_isRejected verify failed with ⟨n, final, valid⟩ | stuck
    · exact absurd valid (isFinal_iff_retries.mp isFinal n final)
    · exact stuck
  · intro getsStuck
    rcases isRejected_or_declined_of_validate rejected with stuck | ⟨recoverable, -⟩
    · exact stuck.isFinal
    · obtain ⟨n, stuck⟩ := getsStuck recoverable
      exact .of_iterate stuck.isFinal

/-- An item that is false fails to verify, and does so for good. -/
theorem isFinal_notTruthy : ∃ e failed,
    validate Ecdsa.verify (standard .bare [.ofOpcode .zero] [.ofOpcode 0x69]) = .error e failed ∧
      e.cause = .notTruthy ∧ IsFinal Ecdsa.verify failed := by
  have replayed : (perform Ecdsa.verify (standard .bare [.ofOpcode .zero] [.ofOpcode 0x69])
      .validate).cause? = some .notTruthy := by decide +kernel
  cases rejected : validate Ecdsa.verify (standard .bare [.ofOpcode .zero] [.ofOpcode 0x69]) with
  | ok _ final => simp [perform, outcomeOf_of_ok rejected, Outcome.cause?] at replayed
  | error e failed =>
    have cause : e.cause = .notTruthy := by
      simpa [perform, outcomeOf_of_error rejected, Outcome.cause?] using replayed
    refine ⟨e, failed, rfl, cause, (isFinal_iff rejected).mpr fun recoverable => ?_⟩
    rw [cause] at recoverable
    cases recoverable

/-- Two items that differ fail to be equal. The attempt has put a false item in their place, and the
next one finds it equal to the empty item below. -/
theorem not_isFinal_notEqual : ∃ e failed,
    validate Ecdsa.verify (standard .bare [.ofOpcode .zero, .ofOpcode 0x51, .ofOpcode 0x52]
      [.ofOpcode 0x88, .ofOpcode 0x51]) = .error e failed ∧
      e.cause = .notEqual ∧ ¬ IsFinal Ecdsa.verify failed := by
  generalize spends : standard .bare [.ofOpcode .zero, .ofOpcode 0x51, .ofOpcode 0x52]
    [.ofOpcode 0x88, .ofOpcode 0x51] = spend
  have replayed : (perform Ecdsa.verify spend .validate).cause? = some .notEqual ∧
      (perform Ecdsa.verify (afterValidation Ecdsa.verify spend) .validate).cause? = none := by
    rw [← spends]
    decide +kernel
  cases rejected : validate Ecdsa.verify spend with
  | ok _ final => simp [perform, outcomeOf_of_ok rejected, Outcome.cause?] at replayed
  | error e failed =>
    rw [afterValidation_of_error rejected, perform, perform, outcomeOf_of_error rejected]
      at replayed
    cases accepted : validate Ecdsa.verify failed with
    | error e failed => simp [outcomeOf_of_error accepted, Outcome.cause?] at replayed
    | ok _ final =>
      refine ⟨e, failed, rfl, by simpa [Outcome.cause?] using replayed.1, fun isFinal => ?_⟩
      exact isFinal [] (by simp) final accepted

end Finality

end ScriptSpend.Spend
