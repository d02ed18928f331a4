import ScriptSpend.Proofs.FailingActions
import ScriptSpend.Proofs.RunningSpends

/-!
# Runs without jumps

Most chunks go on at the next one. A script made of such chunks is executed from its first chunk to
its last, and under a policy that does not bound the number of steps a spend with two such scripts
executes the one and then the other.

## Main definitions

* `Chunk.isStraight`: the script goes on at the next chunk
* `Script.execute`: executes the chunks of a script one after another

## Main results

* `Chunk.execute_cases`: what a chunk comes to that does not fail
* `validate_iff_of_isStraight`: what it takes for a spend without jumps to be valid
-/

namespace ScriptSpend

/-- The script goes on at the next chunk, and does not move the start of what signatures cover. -/
def Chunk.isStraight (chunk : Chunk) : Bool :=
  Instruction.ofOpcode chunk.opcode != .endSegment &&
    Instruction.ofOpcode chunk.opcode != .codeSeparator

/-- Executes the chunks of a script one after another. -/
def Script.execute (env : Environment) : Script → MachineAction Unit
  | [] => pure ()
  | chunk :: rest => do
    let _ ← chunk.execute env
    Script.execute env rest

/-- A script that is put together from two is executed as the one and then the other. -/
theorem Script.execute_append (env : Environment) (first second : Script) :
    Script.execute env (first ++ second) =
      (Script.execute env first >>= fun _ => Script.execute env second) := by
  funext machine
  induction first generalizing machine with
  | nil => rfl
  | cons chunk rest ih =>
    simp only [List.cons_append, Script.execute, bind_apply, ih]
    cases chunk.execute env machine <;> rfl

section Chunks

variable {env : Environment} {chunk : Chunk} {machine left : Machine} {flow : Flow}

theorem flow_of_thenNext {action : MachineAction Unit}
    (ran : thenNext action machine = .ok flow left) : flow = .next := by
  simp only [thenNext, bind_apply] at ran
  cases acted : action machine with
  | ok _ reached =>
    rw [acted] at ran
    cases ran
    rfl
  | error cause reached =>
    rw [acted] at ran
    cases ran

theorem Instruction.flow_of_run {instruction : Instruction} {op : Opcode} {executing : Bool}
    (goesOn : instruction ≠ .endSegment) (keepsStart : instruction ≠ .codeSeparator)
    (ran : instruction.run env op executing machine = .ok flow left) : flow = .next := by
  cases instruction with
  | endSegment => exact absurd rfl goesOn
  | codeSeparator => exact absurd rfl keepsStart
  | nop =>
    cases ran
    rfl
  | invalid => cases ran
  | _ => exact flow_of_thenNext ran

/-- What a chunk comes to that does not fail: it is skipped, pushes its payload, or runs its
instruction. -/
theorem Chunk.execute_cases (executed : chunk.execute env machine = .ok flow left) :
    (machine.isExecuting = false ∧
        (chunk.opcode.isPush = true ∨ chunk.opcode.isConditional = false) ∧
        flow = .next ∧ left = machine) ∨
      (chunk.opcode.isPush = true ∧
        onMainThenNext (StackAction.push chunk.data) machine = .ok flow left) ∨
      ((machine.isExecuting = true ∨ chunk.opcode.isConditional = true) ∧
        (Instruction.ofOpcode chunk.opcode).run env chunk.opcode machine.isExecuting machine =
          .ok flow left) := by
  unfold Chunk.execute at executed
  dsimp only at executed
  split at executed
  · cases executed
  · split at executed
    · cases executed
    · split at executed
      · rename_i push
        split at executed
        · unfold Chunk.pushData at executed
          split at executed
          · cases executed
          · exact .inr (.inl ⟨push, executed⟩)
        · rename_i waiting
          cases executed
          exact .inl ⟨Bool.eq_false_iff.mpr waiting, .inl push, rfl, rfl⟩
      · split at executed
        · rename_i skipped
          cases executed
          rw [Bool.and_eq_true, Bool.not_eq_true', Bool.not_eq_true'] at skipped
          exact .inl ⟨skipped.1, .inr skipped.2, rfl, rfl⟩
        · rename_i visited
          rw [Bool.and_eq_true, Bool.not_eq_true', Bool.not_eq_true', not_and_or,
            Bool.not_eq_false, Bool.not_eq_false] at visited
          exact .inr (.inr ⟨visited, executed⟩)

theorem Chunk.flow_of_execute (straight : chunk.isStraight = true)
    (executed : chunk.execute env machine = .ok flow left) : flow = .next := by
  simp only [Chunk.isStraight, Bool.and_eq_true, bne_iff_ne] at straight
  rcases Chunk.execute_cases executed with ⟨-, -, goesOn, -⟩ | ⟨-, pushed⟩ | ⟨-, ran⟩
  · exact goesOn
  · exact flow_of_thenNext pushed
  · exact Instruction.flow_of_run straight.1 straight.2 ran

/-- Only an executed instruction that ends the script leads to its end. -/
theorem Chunk.flow_ne_endSegment (executed : chunk.execute env machine = .ok flow left)
    (goesOn : (machine.isExecuting &&
      Instruction.ofOpcode chunk.opcode == .endSegment) = false) : flow ≠ .endSegment := by
  have unconditional : ∀ op : Opcode, op.isConditional = true →
      Instruction.ofOpcode op ≠ .endSegment := ScriptNumber.forall_byte (by decide +kernel)
  rcases Chunk.execute_cases executed with ⟨-, -, rfl, -⟩ | ⟨-, pushed⟩ | ⟨visited, ran⟩
  · exact Flow.noConfusion
  · rw [flow_of_thenNext pushed]
    exact Flow.noConfusion
  · have other : Instruction.ofOpcode chunk.opcode ≠ .endSegment := by
      rcases visited with executing | conditional
      · rw [executing, Bool.true_and, beq_eq_false_iff_ne] at goesOn
        exact goesOn
      · exact unconditional _ conditional
    by_cases separates : Instruction.ofOpcode chunk.opcode = .codeSeparator
    · rw [separates] at ran
      cases ran
      exact Flow.noConfusion
    · rw [Instruction.flow_of_run other separates ran]
      exact Flow.noConfusion

end Chunks

namespace Spend

variable {verify : Ecdsa.Verifier} {spend final : Spend} {chunks : Script}

/-- The script that is executed and the start of what signatures cover make no difference to the
number of steps taken before. -/
theorem step_of_isStraight {chunk : Chunk} {machine : Machine} {flow : Flow}
    (found : spend.chunk? = some chunk) (unbounded : spend.policy.maxSteps = none)
    (straight : chunk.isStraight = true)
    (executed : chunk.execute (spend.environment verify) spend.machine = .ok flow machine) :
    step verify spend =
      .ok () { spend with position := spend.position + 1, machine, steps := spend.steps + 1 } := by
  obtain rfl := Chunk.flow_of_execute straight executed
  rw [step_of_chunk? found unbounded, executed]
  rfl

theorem failed_step_of_execute {chunk : Chunk} {machine : Machine} {cause : Failure}
    (found : spend.chunk? = some chunk) (unbounded : spend.policy.maxSteps = none)
    (executed : chunk.execute (spend.environment verify) spend.machine = .error cause machine) :
    ∃ e failed, step verify spend = .error e failed := by
  rw [step_of_chunk? found unbounded, executed]
  exact ⟨_, _, rfl⟩

/-- A run through chunks that each go on at the next one. -/
theorem run_of_isStraight (unbounded : spend.policy.maxSteps = none)
    (ahead : spend.script.drop spend.position = chunks)
    (straight : ∀ chunk ∈ chunks, chunk.isStraight = true) :
    run verify spend = .ok () final ↔
      ∃ machine, Script.execute (spend.environment verify) chunks spend.machine = .ok () machine ∧
        run verify { spend with position := spend.position + chunks.length, machine,
                                steps := spend.steps + chunks.length } = .ok () final := by
  -- By induction on the chunks from the position on, with the spend after each of them.
  induction chunks generalizing spend with
  | nil => simp [Script.execute]
  | cons chunk rest ih =>
    have found : spend.chunk? = some chunk := by
      rw [chunk?, ← List.head?_drop, ahead]
      rfl
    simp only [Script.execute, bind_apply]
    cases executed : chunk.execute (spend.environment verify) spend.machine with
    | error cause machine =>
      obtain ⟨e, failed, stepped⟩ := failed_step_of_execute found unbounded executed
      simp [run_of_failed_step stepped]
    | ok flow machine =>
      have stepped := step_of_isStraight found unbounded (straight chunk (by simp)) executed
      let next : Spend :=
        { spend with position := spend.position + 1, machine, steps := spend.steps + 1 }
      have aheadNext : next.script.drop next.position = rest := by
        change spend.script.drop (spend.position + 1) = rest
        rw [← List.tail_drop, ahead]
        rfl
      have positions : next.position + rest.length = spend.position + (chunk :: rest).length := by
        simp only [next, List.length_cons]
        omega
      have counts : next.steps + rest.length = spend.steps + (chunk :: rest).length := by
        simp only [next, List.length_cons]
        omega
      have later := @ih next unbounded aheadNext fun c inRest => straight c (by simp [inRest])
      rw [positions, counts] at later
      rw [run_of_step stepped]
      exact later

/-- A script that is at its end makes no difference to what is left to run. -/
theorem run_entered : run verify spend.entered = run verify spend := by
  by_cases ended : spend.segment = .unlocking ∧ spend.unlocking.length ≤ spend.position
  · have unfinished : spend.isFinished = false := by simp [isFinished, ended.1]
    have enteredAgain : spend.entered.entered = spend.entered := by
      simp [entered, ended]
    have stepped : step verify spend = step verify spend.entered := by
      rw [step, step, enteredAgain]
    cases finished : spend.entered.isFinished with
    | true =>
      rw [step_of_isFinished finished] at stepped
      exact (run_of_step stepped).symm
    | false =>
      rw [run_of_not_isFinished unfinished, run_of_not_isFinished finished, bind_apply, bind_apply,
        stepped]
  · rw [entered, if_neg ended]

/-- What chunks are executed against while a script of the spend is run from its start. -/
def environmentOf (spend : Spend) (verify : Ecdsa.Verifier) (script : Script) : Environment where
  policy := spend.policy
  checker := checker verify spend.context
  script := script
  lastSeparator := none

/-- A spend without jumps runs its unlocking script and then its locking script. -/
theorem run_reset_of_isStraight (unbounded : spend.policy.maxSteps = none)
    (straightUnlocking : ∀ chunk ∈ spend.unlocking, chunk.isStraight = true)
    (straightLocking : ∀ chunk ∈ spend.locking, chunk.isStraight = true) :
    run verify spend.reset = .ok () final ↔ ∃ unlocked machine,
      Script.execute (spend.environmentOf verify spend.unlocking) spend.unlocking {} =
          .ok () unlocked ∧
        Script.execute (spend.environmentOf verify spend.locking) spend.locking unlocked =
          .ok () machine ∧
        final = { spend with segment := .locking, position := spend.locking.length,
                             lastSeparator := none, machine,
                             steps := spend.unlocking.length + spend.locking.length } := by
  have first := @run_of_isStraight verify spend.reset final spend.unlocking unbounded rfl
    straightUnlocking
  rw [first]
  refine exists_congr fun unlocked => ?_
  rw [exists_and_left]
  refine and_congr_right fun _ => ?_
  -- The run is at the end of the one script, which is where the run of the other one starts.
  let between : Spend := { spend.reset with
    segment := .locking, machine := unlocked, steps := spend.unlocking.length }
  have switched : ({ spend.reset with
      position := spend.reset.position + spend.unlocking.length, machine := unlocked,
      steps := spend.reset.steps + spend.unlocking.length } : Spend).entered = between := by
    simp [entered, reset, between]
  rw [← run_entered, switched]
  have second := @run_of_isStraight verify between final spend.locking unbounded rfl straightLocking
  rw [second]
  refine exists_congr fun machine => and_congr_right fun _ => ?_
  rw [run_of_isFinished (by simp [isFinished, between, reset])]
  simp [between, reset, eq_comm (b := final)]

/-- A spend without jumps is valid from the start if and only if its unlocking script is admitted,
both scripts can be executed, and the rules on the final state hold of what they leave. -/
theorem validate_iff_of_isStraight (unbounded : spend.policy.maxSteps = none)
    (straightUnlocking : ∀ chunk ∈ spend.unlocking, chunk.isStraight = true)
    (straightLocking : ∀ chunk ∈ spend.locking, chunk.isStraight = true) :
    (∃ final, validate verify spend.reset = .ok () final) ↔
      spend.admitsUnlocking = true ∧ ∃ unlocked machine,
        Script.execute (spend.environmentOf verify spend.unlocking) spend.unlocking {} =
            .ok () unlocked ∧
          Script.execute (spend.environmentOf verify spend.locking) spend.locking unlocked =
            .ok () machine ∧
          IsConcluded { spend with machine } := by
  constructor
  · rintro ⟨final, valid⟩
    obtain ⟨admitted, ran, concluded⟩ := validate_eq_ok_iff.mp valid
    obtain ⟨unlocked, machine, first, second, rfl⟩ :=
      (run_reset_of_isStraight unbounded straightUnlocking straightLocking).mp ran
    exact ⟨admitted, unlocked, machine, first, second, concluded.closed, concluded.clean,
      concluded.true_on_top⟩
  · rintro ⟨admitted, unlocked, machine, first, second, concluded⟩
    refine ⟨_, validate_eq_ok_iff.mpr ⟨admitted, (run_reset_of_isStraight unbounded
      straightUnlocking straightLocking).mpr ⟨unlocked, machine, first, second, rfl⟩, ?_⟩⟩
    exact ⟨concluded.closed, concluded.clean, concluded.true_on_top⟩

end Spend

end ScriptSpend
