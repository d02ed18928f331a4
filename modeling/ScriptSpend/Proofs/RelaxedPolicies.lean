import ScriptSpend.Proofs.FailingActions
import ScriptSpend.Proofs.LenientActions
import ScriptSpend.Proofs.RunningSpends

/-!
# Relaxed policies

What is valid under a policy is valid under every laxer one, and leaves the same stacks. Both
evaluations go through the same states, step by step, except for the policy that each of them
carries along: a step that the strict policy lets pass is the same step under the lenient one. The
reverse fails, and so does the statement itself once the limit on the size of elements is `2 ^ 63`
or more, since widening a number reads that limit as a signed word.

## Main definitions

* `Spend.under`: a spend under another policy

## Main results

* `Chunk.execute_permits`: a laxer policy permits what a chunk does under a stricter one
* `step_under`, `runFor_under`: steps and runs go through the same states
* `validate_under_of_relaxesTo`: relaxing the policy rejects nothing
-/

namespace ScriptSpend

theorem Permits.onMainThenNext {strict lenient : StackAction Unit}
    (permits : Permits strict lenient) :
    Permits (onMainThenNext strict) (onMainThenNext lenient) := by
  intro machine flow left ran
  rw [onMainThenNext_apply] at ran ⊢
  cases ranOnMain : strict machine.stack with
  | error cause stack =>
    rw [ranOnMain] at ran
    cases ran
  | ok _ stack =>
    rw [ranOnMain] at ran
    rw [permits ranOnMain]
    exact ran

section Chunks

open Operation

variable {env : Environment} {lenient : Policy} (relaxed : env.policy.RelaxesTo lenient)
include relaxed

theorem Instruction.run_permits (narrow : lenient.maxElementSize.toNat < 2 ^ 63)
    (instruction : Instruction) (op : Opcode) (executing : Bool) :
    Permits (instruction.run env op executing)
      (instruction.run { env with policy := lenient } op executing) := by
  have numbers := relaxed.minimalPush
  have raised : env.policy.maxElementSize.toNat ≤ lenient.maxElementSize.toNat :=
    relaxed.elementSize
  cases instruction with
  | pick => exact (atStackedDepth_permits op numbers _).onMainThenNext
  | roll => exact (atStackedDepth_permits op numbers _).onMainThenNext
  | cat => exact (cat_permits op raised).onMainThenNext
  | split => exact (split_permits op numbers).onMainThenNext
  | numberToBytes => exact (numberToBytes_permits op numbers raised narrow).onMainThenNext
  | shift direction => exact (shift_permits op numbers direction).onMainThenNext
  | unary which => exact (unary_permits op numbers which).onMainThenNext
  | binary which verifying => exact (binary_permits op numbers which verifying).onMainThenNext
  | within => exact (within_permits op numbers).onMainThenNext
  | checkSig verifying => exact (checkSig_permits relaxed verifying).onMainThenNext
  | checkMultiSig verifying => exact (checkMultiSig_permits relaxed verifying).onMainThenNext
  -- The other instructions ask the policy nothing.
  | _ => exact .refl _

theorem Chunk.pushData_permits (chunk : Chunk) :
    Permits (chunk.pushData env.policy) (chunk.pushData lenient) :=
  .guard (and_eq_true_of_imp relaxed.minimalPush) (.refl _)

theorem Chunk.execute_permits (narrow : lenient.maxElementSize.toNat < 2 ^ 63) (chunk : Chunk) :
    Permits (chunk.execute env) (chunk.execute { env with policy := lenient }) := by
  intro machine flow left executed
  unfold Chunk.execute at executed ⊢
  dsimp only at executed ⊢
  have raised : env.policy.maxElementSize.toNat ≤ lenient.maxElementSize.toNat :=
    relaxed.elementSize
  by_cases long : env.policy.maxElementSize.toNat < chunk.data.length
  · rw [if_pos long] at executed
    cases executed
  · rw [if_neg long] at executed
    rw [if_neg (by omega)]
    -- From here on both sides decide the same questions.
    revert executed
    split
    · exact id
    · split
      · split
        · exact fun pushed => Chunk.pushData_permits relaxed chunk pushed
        · exact id
      · split
        · exact id
        · exact fun ran => Instruction.run_permits relaxed narrow _ _ _ ran

end Chunks

namespace Spend

/-- The spend under another policy. -/
def under (spend : Spend) (policy : Policy) : Spend := { spend with policy }

variable {verify : Ecdsa.Verifier} {spend next final : Spend} {lenient : Policy}

theorem entered_under : (spend.under lenient).entered = spend.entered.under lenient := by
  by_cases ended : spend.segment = .unlocking ∧ spend.unlocking.length ≤ spend.position
  · simp [entered, under, ended]
  · simp [entered, under, ended]

theorem advance_under (spend : Spend) (flow : Flow) :
    (spend.under lenient).advance flow = (spend.advance flow).under lenient := by
  cases flow <;> rfl

/-- A bound that is not used up is not used up when it is raised or taken away. -/
theorem exhausted?_under (relaxed : spend.policy.RelaxesTo lenient)
    (within : spend.exhausted? = none) : (spend.under lenient).exhausted? = none := by
  cases bounded : lenient.maxSteps with
  | none => simp [exhausted?, under, bounded]
  | some bound =>
    obtain ⟨tighter, boundedBefore, raised⟩ := relaxed.steps bound bounded
    have raised : tighter.toNat ≤ bound.toNat := raised
    have unused : spend.steps < tighter.toNat := by simpa [exhausted?, boundedBefore] using within
    have unusedToo : ¬ bound.toNat ≤ spend.steps := by omega
    simp [exhausted?, under, bounded, unusedToo]

/-- An unlocking script that one policy admits is admitted by a laxer one. -/
theorem admitsUnlocking_under (relaxed : spend.policy.RelaxesTo lenient)
    (admitted : spend.admitsUnlocking = true) : (spend.under lenient).admitsUnlocking = true := by
  simp only [admitsUnlocking, under, Bool.or_eq_true, Bool.not_eq_true'] at admitted ⊢
  refine admitted.imp_left fun notRequired => ?_
  cases required : lenient.requirePushOnlyUnlocking with
  | false => rfl
  | true =>
    rw [relaxed.pushOnly required] at notRequired
    cases notRequired

section Simulation

variable (relaxed : spend.policy.RelaxesTo lenient)
  (narrow : lenient.maxElementSize.toNat < 2 ^ 63)
include relaxed narrow

/-- A step that a policy lets pass is the same step under a laxer one. -/
theorem step_under (stepped : step verify spend = .ok () next) :
    step verify (spend.under lenient) = .ok () (next.under lenient) := by
  have relaxedThere : spend.entered.policy.RelaxesTo lenient := policy_entered.symm ▸ relaxed
  have same := @entered_under spend lenient
  rcases step_eq_ok stepped with ⟨absent, rfl⟩ | ⟨chunk, flow, machine, found, within, executed,
    rfl⟩
  · have absentToo : (spend.under lenient).entered.chunk? = none := by
      rw [same]
      exact absent
    rw [step_of_chunk?_eq_none absentToo, same]
  · have foundToo : (spend.under lenient).entered.chunk? = some chunk := by
      rw [same]
      exact found
    have withinToo : (spend.under lenient).entered.exhausted? = none := by
      rw [same]
      exact exhausted?_under relaxedThere within
    have permits : Permits (chunk.execute (spend.entered.environment verify))
        (chunk.execute ((spend.entered.under lenient).environment verify)) :=
      Chunk.execute_permits relaxedThere narrow chunk
    have executedToo : chunk.execute ((spend.under lenient).entered.environment verify)
        (spend.under lenient).entered.machine = .ok flow machine := by
      rw [same]
      exact permits executed
    rw [step_of_entered_chunk? foundToo withinToo, executedToo, same]
    exact congrArg (EStateM.Result.ok ())
      (advance_under { spend.entered with machine, steps := spend.entered.steps + 1 } flow)

/-- A run goes through the same states under a laxer policy. -/
theorem runFor_under {count : Nat} (ran : runFor verify count spend = .ok () final) :
    runFor verify count (spend.under lenient) = .ok () (final.under lenient) := by
  induction count generalizing spend with
  | zero =>
    cases ran
    rfl
  | succ count ih =>
    cases finished : spend.isFinished with
    | true =>
      have finishedToo : (spend.under lenient).isFinished = true := finished
      rw [runFor_of_isFinished finished] at ran
      cases ran
      exact runFor_of_isFinished finishedToo _
    | false =>
      have unfinished : (spend.under lenient).isFinished = false := finished
      rw [runFor_succ finished, bind_eq_ok_iff] at ran
      obtain ⟨_, next, stepped, ranOn⟩ := ran
      have kept : next.policy = spend.policy := policy_of_reset (reset_of_step stepped)
      rw [runFor_succ unfinished, bind_apply, step_under relaxed narrow stepped]
      exact ih (kept ▸ relaxed) ranOn

/-- What is valid under a policy is valid under a laxer one, and evaluation ends in the same state.
-/
theorem validate_under_of_relaxesTo (valid : validate verify spend = .ok () final) :
    validate verify (spend.under lenient) = .ok () (final.under lenient) := by
  obtain ⟨admitted, ran, concluded⟩ := validate_eq_ok_iff.mp valid
  have kept : final.policy = spend.policy := policy_of_reset (reset_of_runFor ran)
  refine validate_eq_ok_iff.mpr ⟨admitsUnlocking_under relaxed admitted,
    runFor_under relaxed narrow ran, ?_⟩
  exact
    { closed := concluded.closed
      clean := fun required => concluded.clean (kept ▸ relaxed.cleanStack required)
      true_on_top := concluded.true_on_top }

end Simulation

/-- A number written in as many bytes as its policy admits, in as many steps. -/
def widening : Spend :=
  { standard .bare [.ofOpcode 0x51, .ofOpcode 0x54] [.ofOpcode 0x80] with
    policy := { maxElementSize := 4, maxMultisigKeys := 1, maxSteps := some 3 } }

/-- The end of that spend. -/
def widened : Spend :=
  { widening with
    segment := .locking, position := 1, machine := { stack := [[1, 0, 0, 0]] }, steps := 3 }

/-- The default limits without any requirement. -/
def permissive : Policy where
  requireMinimalPush := false
  requirePushOnlyUnlocking := false
  requireLowS := false
  requireCleanStack := false
  requireNullDummy := false

/-- The spend stays valid with larger elements, more keys, no bound and no requirement. -/
theorem validate_widening_under_permissive :
    widening.policy.RelaxesTo permissive ∧ permissive.maxElementSize.toNat < 2 ^ 63 ∧
      validate Ecdsa.verify widening = .ok () widened ∧
      validate Ecdsa.verify (widening.under permissive) = .ok () (widened.under permissive) := by
  have relaxed : widening.policy.RelaxesTo permissive :=
    { elementSize := by decide
      multisigKeys := by decide
      minimalPush := nofun
      pushOnly := nofun
      lowS := nofun
      cleanStack := nofun
      nullDummy := nofun
      steps := nofun }
  have narrow : permissive.maxElementSize.toNat < 2 ^ 63 := by decide
  have valid : validate Ecdsa.verify widening = .ok () widened := rfl
  exact ⟨relaxed, narrow, valid, validate_under_of_relaxesTo relaxed narrow valid⟩

end Spend

end ScriptSpend
