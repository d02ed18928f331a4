import ScriptSpend.Proofs.RunningActions
import ScriptSpend.Spend

/-!
# Running spends

Every step leaves a spend, whether it fails or not, and the scripts, the policy and the transaction
of that spend are those of the one before. A run takes steps as long as they succeed and there is
something left to execute, and a validation asks for the rules on the final state after that.

## Main definitions

* `Spend.standard`: a fresh spend under the standard rules
* `Spend.IsConcluded`: the rules on the final state hold

## Main results

* `step_of_chunk?`: a step executes the next chunk
* `step_eq_ok`, `step_eq_error`: what a step has done that succeeds, and one that fails
* `run_of_step`, `run_of_failed_step`: a run goes on after a step that succeeded, and ends with one
  that failed
* `validate_eq_ok_iff`: what a spend must satisfy to be valid
* `validate_eq_error`: what a spend is rejected for
-/

namespace ScriptSpend

/-- The first input of a transaction without outputs, which spends an output of no value. -/
def InputContext.bare : InputContext := ⟨⟨.zero, 0⟩, 0, 1, [], [], 0, 0xffffffff, 0⟩

namespace Spend

/-- A spend under the standard rules, before its first step. -/
def standard (context : InputContext) (unlocking locking : Script) : Spend where
  context := context
  unlocking := unlocking
  locking := locking
  policy := {}

variable {verify : Ecdsa.Verifier} {spend next final failed : Spend} {e : SpendError}

section Entering

/-- What a reset keeps is the same in spends that are the same after a reset. -/
theorem eq_of_reset {α : Type} (part : Spend → α) (kept : ∀ spend, part spend.reset = part spend)
    (same : next.reset = spend.reset) : part next = part spend := by
  rw [← kept next, same, kept]

theorem policy_of_reset (same : next.reset = spend.reset) : next.policy = spend.policy :=
  eq_of_reset policy (fun _ => rfl) same

theorem unlocking_of_reset (same : next.reset = spend.reset) :
    next.unlocking = spend.unlocking :=
  eq_of_reset unlocking (fun _ => rfl) same

@[simp] theorem entered_reset : spend.entered.reset = spend.reset := by
  unfold entered
  split <;> rfl

@[simp] theorem entered_machine : spend.entered.machine = spend.machine := by
  unfold entered
  split <;> rfl

@[simp] theorem policy_entered : spend.entered.policy = spend.policy :=
  policy_of_reset entered_reset

@[simp] theorem steps_entered : spend.entered.steps = spend.steps := by
  unfold entered
  split <;> rfl

@[simp] theorem advance_reset (flow : Flow) : (spend.advance flow).reset = spend.reset := by
  cases flow <;> rfl

@[simp] theorem steps_advance (flow : Flow) : (spend.advance flow).steps = spend.steps := by
  cases flow <;> rfl

@[simp] theorem segment_advance (flow : Flow) : (spend.advance flow).segment = spend.segment := by
  cases flow <;> rfl

/-- While a chunk is left in the present script, that script is not left. -/
theorem entered_of_chunk? {chunk : Chunk} (found : spend.chunk? = some chunk) :
    spend.entered = spend := by
  refine if_neg ?_
  rintro ⟨segment, ended⟩
  have inside : spend.position < spend.script.length := (List.getElem?_eq_some_iff.mp found).1
  rw [script, segment] at inside
  exact Nat.not_lt.mpr ended inside

/-- In the locking script there is no other script to enter. -/
theorem entered_of_isFinished (finished : spend.isFinished = true) : spend.entered = spend := by
  refine if_neg ?_
  rintro ⟨segment, -⟩
  simp [isFinished, segment] at finished

/-- A spend in its unlocking script has entered no other one. -/
theorem entered_of_segment_entered (segment : spend.entered.segment = .unlocking) :
    spend.entered = spend := by
  unfold entered at segment ⊢
  split at segment
  · cases segment
  · rw [if_neg ‹_›]

theorem chunk?_of_isFinished (finished : spend.isFinished = true) : spend.chunk? = none := by
  simp only [isFinished, Bool.and_eq_true, beq_iff_eq, decide_eq_true_eq] at finished
  simpa [chunk?, script, finished.1] using finished.2

/-- A spend that has a chunk to execute is not at the end of both scripts. -/
theorem isFinished_of_entered_chunk? {chunk : Chunk} (found : spend.entered.chunk? = some chunk) :
    spend.isFinished = false := by
  cases finished : spend.isFinished with
  | false => rfl
  | true =>
    rw [entered_of_isFinished finished, chunk?_of_isFinished finished] at found
    cases found

end Entering

section Steps

/-- At the end of both scripts a step does nothing. -/
theorem step_of_isFinished (finished : spend.isFinished = true) :
    step verify spend = .ok () spend := by
  simp [step, entered_of_isFinished finished, stepEntered, chunk?_of_isFinished finished]

/-- Nor does it if no chunk is left behind the end of the unlocking script, but to enter the other
script. -/
theorem step_of_chunk?_eq_none (absent : spend.entered.chunk? = none) :
    step verify spend = .ok () spend.entered := by
  rw [step, stepEntered, absent]

/-- Where the bound on the number of steps is used up, a step fails in front of the next chunk. -/
theorem step_of_exhausted? {chunk : Chunk} {bound : Nat}
    (found : spend.entered.chunk? = some chunk) (used : spend.entered.exhausted? = some bound) :
    step verify spend =
      .error (spend.entered.failure (.budgetExhausted bound)) spend.entered := by
  simp [step, stepEntered, found, used]

/-- As long as it is not, a step executes the next chunk of the script that it enters. -/
theorem step_of_entered_chunk? {chunk : Chunk} (found : spend.entered.chunk? = some chunk)
    (within : spend.entered.exhausted? = none) :
    step verify spend =
      match chunk.execute (spend.entered.environment verify) spend.entered.machine with
      | .ok flow machine =>
        .ok () ({ spend.entered with machine, steps := spend.entered.steps + 1 }.advance flow)
      | .error cause machine =>
        .error (failure { spend.entered with machine, steps := spend.entered.steps + 1 } cause)
          { spend.entered with machine, steps := spend.entered.steps + 1 } := by
  cases executed : chunk.execute (spend.entered.environment verify) spend.entered.machine <;>
    simp only [step, stepEntered, found, within, executed]

/-- Without a bound on the number of steps, a step executes the next chunk. -/
theorem step_of_chunk? {chunk : Chunk} (found : spend.chunk? = some chunk)
    (unbounded : spend.policy.maxSteps = none) :
    step verify spend =
      match chunk.execute (spend.environment verify) spend.machine with
      | .ok flow machine => .ok () ({ spend with machine, steps := spend.steps + 1 }.advance flow)
      | .error cause machine =>
        .error (failure { spend with machine, steps := spend.steps + 1 } cause)
          { spend with machine, steps := spend.steps + 1 } := by
  have within : spend.exhausted? = none := by simp [exhausted?, unbounded]
  have here := entered_of_chunk? found
  have executes := @step_of_entered_chunk? verify spend chunk (here.symm ▸ found)
    (here.symm ▸ within)
  rwa [here] at executes

/-- A step fails at some chunk of the script it has entered: either the bound on the number of steps
is used up, or executing the chunk fails. -/
theorem step_eq_error (stepped : step verify spend = .error e failed) :
    ∃ chunk, spend.entered.chunk? = some chunk ∧
      ((∃ bound, spend.entered.exhausted? = some bound ∧ failed = spend.entered ∧
          e.cause = .budgetExhausted bound) ∨
        ∃ machine, chunk.execute (spend.entered.environment verify) spend.entered.machine =
            .error e.cause machine ∧
          failed = { spend.entered with machine, steps := spend.entered.steps + 1 }) := by
  unfold step stepEntered at stepped
  split at stepped
  · cases stepped
  · rename_i chunk found
    refine ⟨chunk, found, ?_⟩
    split at stepped
    · rename_i bound exhausted
      cases stepped
      exact .inl ⟨bound, exhausted, rfl, rfl⟩
    · split at stepped
      · cases stepped
      · rename_i cause machine executed
        cases stepped
        exact .inr ⟨machine, executed, rfl⟩

/-- A step that succeeds has executed a chunk of the script that it has entered, or there was none
left. -/
theorem step_eq_ok (stepped : step verify spend = .ok () next) :
    (spend.entered.chunk? = none ∧ next = spend.entered) ∨
      ∃ chunk flow machine, spend.entered.chunk? = some chunk ∧
        spend.entered.exhausted? = none ∧
        chunk.execute (spend.entered.environment verify) spend.entered.machine =
          .ok flow machine ∧
        next = { spend.entered with machine, steps := spend.entered.steps + 1 }.advance flow := by
  unfold step stepEntered at stepped
  split at stepped
  · rename_i absent
    cases stepped
    exact .inl ⟨absent, rfl⟩
  · rename_i chunk found
    split at stepped
    · cases stepped
    · rename_i within
      split at stepped
      · rename_i flow machine executed
        cases stepped
        exact .inr ⟨chunk, flow, machine, found, within, executed, rfl⟩
      · cases stepped

/-- A step that succeeds keeps the transaction, the scripts and the policy. -/
theorem reset_of_step (stepped : step verify spend = .ok () next) : next.reset = spend.reset := by
  rcases step_eq_ok stepped with ⟨-, rfl⟩ | ⟨chunk, flow, machine, -, -, -, rfl⟩
  · exact entered_reset
  · rw [advance_reset]
    exact entered_reset

/-- So does a step that fails. -/
theorem reset_of_failed_step (stepped : step verify spend = .error e failed) :
    failed.reset = spend.reset := by
  obtain ⟨chunk, -, ⟨bound, -, rfl, -⟩ | ⟨machine, -, rfl⟩⟩ := step_eq_error stepped
  · exact entered_reset
  · exact entered_reset

/-- A step that executes a chunk is counted. -/
theorem steps_of_step {chunk : Chunk} (found : spend.entered.chunk? = some chunk)
    (stepped : step verify spend = .ok () next) : next.steps = spend.steps + 1 := by
  rcases step_eq_ok stepped with ⟨absent, -⟩ | ⟨chunk, flow, machine, -, -, -, rfl⟩
  · cases absent.symm.trans found
  · rw [steps_advance]
    exact congrArg (· + 1) steps_entered

/-- A step leaves the script only by entering the other one. -/
theorem segment_of_step (stepped : step verify spend = .ok () next) :
    next.segment = spend.entered.segment := by
  rcases step_eq_ok stepped with ⟨-, rfl⟩ | ⟨chunk, flow, machine, -, -, -, rfl⟩
  · rfl
  · exact segment_advance flow

end Steps

section Runs

theorem runFor_succ (unfinished : spend.isFinished = false) (count : Nat) :
    runFor verify (count + 1) spend = (step verify >>= fun _ => runFor verify count) spend := by
  simp only [runFor, unfinished, Bool.false_eq_true, if_false, bind_apply]
  cases step verify spend <;> rfl

theorem runFor_of_isFinished (finished : spend.isFinished = true) (count : Nat) :
    runFor verify count spend = .ok () spend := by
  cases count with
  | zero => rfl
  | succ count => simp [runFor, finished]

theorem isFinished_of_remaining_eq_zero (none : spend.remaining = 0) : spend.isFinished = true := by
  cases segment : spend.segment <;> simp_all [remaining, isFinished]
  omega

/-- A run that succeeds keeps the transaction, the scripts and the policy. -/
theorem reset_of_runFor {count : Nat} (ran : runFor verify count spend = .ok () final) :
    final.reset = spend.reset := by
  induction count generalizing spend with
  | zero =>
    cases ran
    rfl
  | succ count ih =>
    cases finished : spend.isFinished with
    | true =>
      rw [runFor_of_isFinished finished] at ran
      cases ran
      rfl
    | false =>
      rw [runFor_succ finished, bind_eq_ok_iff] at ran
      obtain ⟨_, next, stepped, ranOn⟩ := ran
      exact (ih ranOn).trans (reset_of_step stepped)

/-- Steps beyond those that remain are not taken. -/
theorem runFor_congr {count other : Nat} (enough : spend.remaining ≤ count)
    (enoughOther : spend.remaining ≤ other) :
    runFor verify count spend = runFor verify other spend := by
  -- Both counts go down with every step, and neither reaches zero before the remaining steps do.
  induction count generalizing spend other with
  | zero =>
    have finished := isFinished_of_remaining_eq_zero (Nat.le_zero.mp enough)
    rw [runFor_of_isFinished finished, runFor_of_isFinished finished]
  | succ count ih =>
    cases finished : spend.isFinished with
    | true => rw [runFor_of_isFinished finished, runFor_of_isFinished finished]
    | false =>
      cases other with
      | zero =>
        have ended := isFinished_of_remaining_eq_zero (Nat.le_zero.mp enoughOther)
        rw [finished] at ended
        cases ended
      | succ other =>
        rw [runFor_succ finished, runFor_succ finished, bind_apply, bind_apply]
        cases stepped : step verify spend with
        | error e failed => rfl
        | ok _ next =>
          have fewer := remaining_lt_of_step finished stepped
          exact ih (by omega) (by omega)

theorem run_of_isFinished (finished : spend.isFinished = true) :
    run verify spend = .ok () spend :=
  runFor_of_isFinished finished _

/-- A run that is not at its end goes on as the run after its first step. -/
theorem run_of_not_isFinished (unfinished : spend.isFinished = false) :
    run verify spend = (step verify >>= fun _ => run verify) spend := by
  have more : spend.remaining ≤ spend.remaining + 1 := Nat.le_succ _
  rw [run, runFor_congr (Nat.le_refl _) more, runFor_succ unfinished, bind_apply, bind_apply]
  cases stepped : step verify spend with
  | error e failed => rfl
  | ok _ next =>
    have fewer := remaining_lt_of_step unfinished stepped
    exact runFor_congr (by omega) (Nat.le_refl _)

/-- After a step that succeeded, a run ends as it would have ended without it. -/
theorem run_of_step (stepped : step verify spend = .ok () next) :
    run verify spend = run verify next := by
  cases finished : spend.isFinished with
  | true =>
    rw [step_of_isFinished finished] at stepped
    cases stepped
    rfl
  | false => rw [run_of_not_isFinished finished, bind_apply, stepped]

/-- A step that fails ends the run. -/
theorem run_of_failed_step (stepped : step verify spend = .error e failed) :
    run verify spend = .error e failed := by
  cases finished : spend.isFinished with
  | true =>
    rw [step_of_isFinished finished] at stepped
    cases stepped
  | false => rw [run_of_not_isFinished finished, bind_apply, stepped]

/-- Some steps of a run lead to a spend with the same scripts, from where the run goes on. -/
theorem run_of_runFor {count : Nat} (reached : runFor verify count spend = .ok () next) :
    next.reset = spend.reset ∧ run verify spend = run verify next := by
  refine ⟨reset_of_runFor reached, ?_⟩
  induction count generalizing spend with
  | zero =>
    cases reached
    rfl
  | succ count ih =>
    cases finished : spend.isFinished with
    | true =>
      rw [runFor_of_isFinished finished] at reached
      cases reached
      rfl
    | false =>
      rw [runFor_succ finished, bind_eq_ok_iff] at reached
      obtain ⟨_, first, stepped, goesOn⟩ := reached
      exact (run_of_step stepped).trans (ih goesOn)

/-- Where a run fails, a step has failed, the first one or one that had fewer steps before it. -/
theorem exists_failed_step_of_runFor {count : Nat}
    (ran : runFor verify count spend = .error e failed) :
    ∃ before, step verify before = .error e failed ∧
      (before = spend ∨ before.remaining < spend.remaining) := by
  induction count generalizing spend with
  | zero => cases ran
  | succ count ih =>
    cases finished : spend.isFinished with
    | true =>
      rw [runFor_of_isFinished finished] at ran
      cases ran
    | false =>
      rw [runFor_succ finished, bind_apply] at ran
      cases stepped : step verify spend with
      | error e failed =>
        rw [stepped] at ran
        cases ran
        exact ⟨spend, stepped, .inl rfl⟩
      | ok _ next =>
        rw [stepped] at ran
        have fewer := remaining_lt_of_step finished stepped
        obtain ⟨before, steppedThere, rfl | fewerThere⟩ := ih ran
        · exact ⟨before, steppedThere, .inr fewer⟩
        · exact ⟨before, steppedThere, .inr (Nat.lt_trans fewerThere fewer)⟩

end Runs

section Validation

/-- The rules on the final state hold. -/
structure IsConcluded (spend : Spend) : Prop where
  closed : spend.machine.branches = []
  clean : spend.policy.requireCleanStack = true → spend.machine.stack.length = 1
  true_on_top : spend.machine.stack.head?.any ScriptNumber.isTrue = true

@[simp] theorem demand_true (cause : Failure) : demand true cause spend = .ok () spend := rfl

@[simp] theorem demand_false (cause : Failure) :
    demand false cause spend = .error (spend.failure cause) spend := rfl

/-- Concluding asks for the rules and changes nothing. -/
theorem conclude_cases (spend : Spend) :
    (spend.IsConcluded ∧ conclude spend = .ok () spend) ∨
      ¬ spend.IsConcluded ∧ ∃ e, conclude spend = .error e spend := by
  cases closed : spend.machine.branches.isEmpty with
  | false =>
    refine .inr ⟨fun concluded => ?_, spend.failure .openConditional, ?_⟩
    · rw [concluded.closed] at closed
      cases closed
    · simp only [conclude, bind_apply, closed, demand_false]
  | true =>
    cases clean : !spend.policy.requireCleanStack || spend.machine.stack.length == 1 with
    | false =>
      refine .inr ⟨fun concluded => ?_,
        spend.failure (.uncleanStack spend.machine.stack.length), ?_⟩
      · simp only [Bool.or_eq_false_iff, Bool.not_eq_false', beq_eq_false_iff_ne] at clean
        exact clean.2 (concluded.clean clean.1)
      · simp only [conclude, bind_apply, closed, clean, demand_true, demand_false]
    | true =>
      cases truth : spend.machine.stack.head?.any ScriptNumber.isTrue with
      | false =>
        refine .inr ⟨fun concluded => ?_, spend.failure .falseResult, ?_⟩
        · rw [concluded.true_on_top] at truth
          cases truth
        · simp only [conclude, bind_apply, closed, clean, truth, demand_true, demand_false]
      | true =>
        refine .inl ⟨⟨by simpa using closed, fun required => ?_, truth⟩, ?_⟩
        · simpa [required] using clean
        · simp only [conclude, bind_apply, closed, clean, truth, demand_true]

/-- The first of the rules on the final state that does not hold. -/
def refusal? (spend : Spend) : Option Failure :=
  if spend.machine.branches.isEmpty then
    if !spend.policy.requireCleanStack || spend.machine.stack.length == 1 then
      if spend.machine.stack.head?.any ScriptNumber.isTrue then none else some .falseResult
    else some (.uncleanStack spend.machine.stack.length)
  else some .openConditional

/-- Concluding fails for that rule. -/
theorem conclude_eq (spend : Spend) :
    conclude spend = match spend.refusal? with
      | none => .ok () spend
      | some cause => .error (spend.failure cause) spend := by
  simp only [conclude, refusal?, bind_apply]
  cases spend.machine.branches.isEmpty with
  | false => rfl
  | true =>
    cases !spend.policy.requireCleanStack || spend.machine.stack.length == 1 with
    | false => rfl
    | true => cases spend.machine.stack.head?.any ScriptNumber.isTrue <;> rfl

theorem validate_of_not_admitsUnlocking (barred : spend.admitsUnlocking = false) :
    validate verify spend = .error (spend.failure .unlockingNotPushOnly) spend := by
  rw [validate, barred]
  rfl

theorem validate_of_admitsUnlocking (admitted : spend.admitsUnlocking = true) :
    validate verify spend = (run verify >>= fun _ => conclude) spend := by
  rw [validate, admitted]
  rfl

/-- A spend is valid if and only if its unlocking script is admitted, the run succeeds and the rules
on the final state hold. -/
theorem validate_eq_ok_iff :
    validate verify spend = .ok () final ↔
      spend.admitsUnlocking = true ∧ run verify spend = .ok () final ∧ final.IsConcluded := by
  cases admitted : spend.admitsUnlocking with
  | false => simp [validate_of_not_admitsUnlocking admitted]
  | true =>
    rw [validate_of_admitsUnlocking admitted, bind_apply]
    cases ran : run verify spend with
    | error e failed => simp
    | ok _ reached =>
      rcases conclude_cases reached with ⟨concluded, accepted⟩ | ⟨unconcluded, e, refused⟩
      · simp only [accepted, EStateM.Result.ok.injEq, true_and]
        exact ⟨fun same => ⟨same, same ▸ concluded⟩, And.left⟩
      · simp only [refused, reduceCtorEq, EStateM.Result.ok.injEq, true_and, false_iff, not_and]
        exact fun same concluded => unconcluded (same ▸ concluded)

/-- A spend is rejected in front of its first step, by its run, or for a rule on the final state. -/
theorem validate_eq_error (rejected : validate verify spend = .error e failed) :
    (spend.admitsUnlocking = false ∧ e = spend.failure .unlockingNotPushOnly ∧ failed = spend) ∨
      run verify spend = .error e failed ∨
      run verify spend = .ok () failed ∧ ¬ failed.IsConcluded ∧
        conclude failed = .error e failed := by
  cases admitted : spend.admitsUnlocking with
  | false =>
    rw [validate_of_not_admitsUnlocking admitted] at rejected
    cases rejected
    exact .inl ⟨rfl, rfl, rfl⟩
  | true =>
    rw [validate_of_admitsUnlocking admitted, bind_apply] at rejected
    cases ran : run verify spend with
    | error e failed =>
      rw [ran] at rejected
      cases rejected
      exact .inr (.inl rfl)
    | ok _ reached =>
      rw [ran] at rejected
      rcases conclude_cases reached with ⟨-, accepted⟩ | ⟨unconcluded, cause, refused⟩
      · simp only [accepted] at rejected
        cases rejected
      · simp only [refused] at rejected
        cases rejected
        exact .inr (.inr ⟨rfl, unconcluded, refused⟩)

end Validation

end Spend

end ScriptSpend
