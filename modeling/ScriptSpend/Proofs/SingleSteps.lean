import ScriptSpend.Proofs.Finality

/-!
# Driving a spend by single steps

A spend may be stepped by hand before it is validated. The steps are those that a validation takes,
and a step at the end of both scripts changes nothing, so the validation that follows ends as one
from the start on would have ended. The one difference is the demand on the unlocking script, which
a validation makes before its first step and a single step never makes: where it is not met, both
validations refuse the spend, each where it finds it.

## Main definitions

* `Spend.fresh`: a spend before its first step
* `Spend.stepTimes`: some steps, one after another
* `Spend.AgreesWithStepping`: validating after some steps comes to the same as validating at once

## Main results

* `stepTimes_eq_runFor`: steps by hand are the steps of a run
* `reset_after`: no action changes what a reset keeps
* `agreesWithStepping_fresh`: a fresh spend agrees with stepping, and a reset makes it fresh again
-/

namespace ScriptSpend.Spend

/-- A spend before its first step. -/
def fresh (context : InputContext) (unlocking locking : Script) (policy : Policy) : Spend where
  context := context
  unlocking := unlocking
  locking := locking
  policy := policy

/-- So many steps, one after another, unless one of them fails. -/
def stepTimes (verify : Ecdsa.Verifier) : Nat → SpendAction Unit
  | 0 => pure ()
  | count + 1 => do
    step verify
    stepTimes verify count

variable {verify : Ecdsa.Verifier} {spend next reached : Spend} {count : Nat}

section Stepping

theorem stepTimes_of_step (stepped : step verify spend = .ok () next) :
    stepTimes verify (count + 1) spend = stepTimes verify count next := by
  rw [stepTimes, bind_apply, stepped]

theorem stepTimes_succ_eq_ok_iff : stepTimes verify (count + 1) spend = .ok () reached ↔
    ∃ next, step verify spend = .ok () next ∧ stepTimes verify count next = .ok () reached := by
  rw [stepTimes, bind_eq_ok_iff]
  exact ⟨fun ⟨_, next, both⟩ => ⟨next, both⟩, fun ⟨next, both⟩ => ⟨(), next, both⟩⟩

/-- Steps by hand are the steps of a run: those at the end of both scripts do nothing. -/
theorem stepTimes_eq_runFor (verify : Ecdsa.Verifier) (count : Nat) (spend : Spend) :
    stepTimes verify count spend = runFor verify count spend := by
  induction count generalizing spend with
  | zero => rfl
  | succ count ih =>
    cases finished : spend.isFinished with
    | true =>
      rw [stepTimes_of_step (step_of_isFinished finished), ih, runFor_of_isFinished finished,
        runFor_of_isFinished finished]
    | false =>
      rw [runFor_succ finished, stepTimes, bind_apply, bind_apply]
      cases stepped : step verify spend with
      | ok _ next => exact ih next
      | error e failed => rfl

/-- After some steps, what is admitted is validated as it would have been before them. -/
theorem validate_of_stepTimes (admitted : spend.admitsUnlocking = true)
    (stepped : stepTimes verify count spend = .ok () reached) :
    validate verify reached = validate verify spend := by
  rw [stepTimes_eq_runFor] at stepped
  obtain ⟨same, goesOn⟩ := run_of_runFor stepped
  have admittedThere : reached.admitsUnlocking = true := (admitsUnlocking_congr same).trans admitted
  rw [validate_of_admitsUnlocking admitted, validate_of_admitsUnlocking admittedThere, bind_apply,
    bind_apply, goesOn]

end Stepping

section Resetting

/-- An action keeps the transaction, the scripts and the policy. -/
theorem reset_perform (action : Action) :
    (perform verify spend action).spend.reset = spend.reset := by
  by_cases resets : action = .reset
  · rw [resets]
    rfl
  · obtain ⟨k, taken⟩ := exists_iterate_of_perform verify spend resets
    rw [taken, reset_iterate]

/-- So do any actions one after another. -/
theorem reset_after (actions : List Action) : (spend.after verify actions).reset = spend.reset := by
  induction actions generalizing spend with
  | nil => rfl
  | cons action actions ih => exact ih.trans (reset_perform action)

end Resetting

/-- Validating after some steps that succeed comes to the same as validating at once. -/
structure AgreesWithStepping (verify : Ecdsa.Verifier) (spend : Spend) : Prop where
  /-- The verdict is the same. -/
  verdict : ∀ count reached, stepTimes verify count spend = .ok () reached →
    ((∃ final, validate verify reached = .ok () final) ↔
      ∃ final, validate verify spend = .ok () final)
  /-- If the unlocking script is admitted, the failure and the final state are the same as well. -/
  outcome : ∀ count reached, stepTimes verify count spend = .ok () reached →
    spend.admitsUnlocking = true → validate verify reached = validate verify spend
  /-- A spend that was found valid is found valid again, and left as it is. -/
  settled : ∀ count reached final, stepTimes verify count spend = .ok () reached →
    validate verify reached = .ok () final → validate verify final = .ok () final

/-- Every spend agrees with stepping, whatever came before. -/
theorem agreesWithStepping (verify : Ecdsa.Verifier) (spend : Spend) :
    AgreesWithStepping verify spend where
  verdict count reached stepped := by
    cases admitted : spend.admitsUnlocking with
    | true => rw [validate_of_stepTimes admitted stepped]
    | false =>
      -- Neither validation takes a step.
      rw [stepTimes_eq_runFor] at stepped
      have barred : reached.admitsUnlocking = false :=
        (admitsUnlocking_congr (reset_of_runFor stepped)).trans admitted
      simp [validate_of_not_admitsUnlocking admitted, validate_of_not_admitsUnlocking barred]
  outcome _ _ stepped admitted := validate_of_stepTimes admitted stepped
  settled _ _ _ _ valid := validate_of_valid valid

/-- A fresh spend agrees with stepping, and whatever was done with it, a reset makes it fresh. -/
theorem agreesWithStepping_fresh (verify : Ecdsa.Verifier) (context : InputContext)
    (unlocking locking : Script) (policy : Policy) :
    AgreesWithStepping verify (fresh context unlocking locking policy) ∧
      ∀ actions : List Action,
        (perform verify ((fresh context unlocking locking policy).after verify actions)
          .reset).spend = fresh context unlocking locking policy :=
  ⟨agreesWithStepping verify _, fun actions => reset_after actions⟩

end ScriptSpend.Spend
