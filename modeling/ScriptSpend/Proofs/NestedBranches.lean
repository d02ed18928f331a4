import ScriptSpend.Proofs.FailingActions
import ScriptSpend.Proofs.StraightRuns

/-!
# Branches inside branches

The open conditionals are kept as one list, and an instruction looks at all of it to tell whether it
is executed. It changes only the innermost entries, though. A stretch of script that closes no
conditional but its own can therefore be run with the outer entries set aside: where all of them
take their branch, they make no difference, and where one of them does not, the stretch opens and
closes its own conditionals and does nothing else.

## Main definitions

* `Script.IsNested`: every conditional that is opened is closed, and no other one
* `Chunk.IsVisitable`: the chunk can be passed on a branch that is not taken
* `Machine.within`: the stacks inside further open conditionals

## Main results

* `Chunk.execute_within`: outer branches that are taken make no difference
* `Chunk.execute_skipped`: inside an outer branch that is not taken, only conditionals are tracked
-/

namespace ScriptSpend

section Depth

/-- The number of open conditionals after an instruction, or nothing if it belongs to none of them.
-/
def Instruction.depthAfter? : Instruction → Nat → Option Nat
  | .branch _, depth => some (depth + 1)
  | .otherwise, 0 => none
  | .otherwise, depth + 1 => some (depth + 1)
  | .endBranch, 0 => none
  | .endBranch, depth + 1 => some depth
  | _, depth => some depth

/-- Whether the instruction opens, switches or closes a conditional. -/
def Instruction.isConditional : Instruction → Bool
  | .branch _ | .otherwise | .endBranch => true
  | _ => false

namespace Script

/-- The number of open conditionals after a script, or nothing if it switches or closes one that was
not among them. -/
def depthAfter? : Script → Nat → Option Nat
  | [], depth => some depth
  | chunk :: rest, depth =>
    ((Instruction.ofOpcode chunk.opcode).depthAfter? depth).bind (depthAfter? rest)

/-- Every conditional that the script opens it closes, and it neither switches nor closes any other.
-/
def IsNested (script : Script) : Prop := script.depthAfter? 0 = some 0

instance : DecidablePred IsNested := fun script =>
  inferInstanceAs (Decidable (script.depthAfter? 0 = some 0))

end Script

/-- Neither of the two conditionals that are never valid, and no longer than elements may be. -/
def Chunk.IsVisitable (policy : Policy) (chunk : Chunk) : Prop :=
  chunk.opcode ≠ 0x65 ∧ chunk.opcode ≠ 0x66 ∧ chunk.data.length ≤ policy.maxElementSize.toNat

instance (policy : Policy) : DecidablePred (Chunk.IsVisitable policy) := fun chunk =>
  inferInstanceAs (Decidable (chunk.opcode ≠ 0x65 ∧ chunk.opcode ≠ 0x66 ∧
    chunk.data.length ≤ policy.maxElementSize.toNat))

variable {op : Opcode} {instruction : Instruction} {depth after : Nat}

theorem Instruction.depthAfter?_of_not_isConditional (plain : instruction.isConditional = false) :
    instruction.depthAfter? depth = some depth := by
  cases instruction <;> first | rfl | cases plain

/-- The opcodes of the valid conditionals are the ones whose instructions are conditionals. -/
theorem Opcode.isConditional_eq : ∀ op : Opcode, op ≠ 0x65 ∧ op ≠ 0x66 →
    op.isConditional = (Instruction.ofOpcode op).isConditional :=
  ScriptNumber.forall_byte (by decide +kernel)

theorem Opcode.isConditional_of_instruction : ∀ op : Opcode,
    (Instruction.ofOpcode op).isConditional = true →
      op.isConditional = true ∧ op.isPush = false ∧ op.isDisabled = false :=
  ScriptNumber.forall_byte (by decide +kernel)

end Depth

section Within

variable {ε σ τ α : Type}

/-- The outcome of an action with the state that it leaves put through a function. -/
def mapState (f : σ → τ) : EStateM.Result ε σ α → EStateM.Result ε τ α
  | .ok value state => .ok value (f state)
  | .error cause state => .error cause (f state)

/-- The stacks with further conditionals open around the present ones. -/
def Machine.within (outer : List Bool) (machine : Machine) : Machine :=
  { machine with branches := machine.branches ++ outer }

variable {env : Environment} {op : Opcode} {instruction : Instruction} {chunk : Chunk}
  {machine left : Machine} {outer : List Bool} {executing : Bool} {depth after : Nat} {flow : Flow}

theorem Machine.isExecuting_within :
    (machine.within outer).isExecuting = (machine.isExecuting && outer.all id) :=
  List.all_append

theorem onMainThenNext_within (action : StackAction Unit) :
    onMainThenNext action (machine.within outer) =
      mapState (Machine.within outer) (onMainThenNext action machine) := by
  have same : (machine.within outer).stack = machine.stack := rfl
  rw [onMainThenNext_apply, onMainThenNext_apply, same]
  cases action machine.stack <;> rfl

/-- An instruction that stays inside the present conditionals does not touch the outer ones. -/
theorem Instruction.run_within
    (inside : instruction.depthAfter? machine.branches.length = some after) :
    instruction.run env op executing (machine.within outer) =
      mapState (Machine.within outer) (instruction.run env op executing machine) := by
  obtain ⟨stack, alt, branches⟩ := machine
  cases instruction with
  | branch negated =>
    cases executing with
    | false => rfl
    | true => cases stack <;> rfl
  | otherwise =>
    cases branches with
    | nil => cases inside
    | cons taken branches => rfl
  | endBranch =>
    cases branches with
    | nil => cases inside
    | cons taken branches => rfl
  | toAlt => cases stack <;> rfl
  | fromAlt => cases alt <;> rfl
  | nop => rfl
  | endSegment => rfl
  | codeSeparator => rfl
  | invalid => rfl
  | _ => exact onMainThenNext_within _

/-- Outer branches that are taken make no difference to a chunk that stays inside of them. -/
theorem Chunk.execute_within (taken : outer.all id = true)
    (inside : (Instruction.ofOpcode chunk.opcode).depthAfter? machine.branches.length =
      some after) :
    chunk.execute env (machine.within outer) =
      mapState (Machine.within outer) (chunk.execute env machine) := by
  have same : (machine.within outer).isExecuting = machine.isExecuting := by
    rw [Machine.isExecuting_within, taken, Bool.and_true]
  unfold Chunk.execute
  dsimp only
  rw [same]
  split
  · rfl
  · split
    · rfl
    · split
      · split
        · unfold Chunk.pushData
          split
          · rfl
          · exact onMainThenNext_within _
        · rfl
      · split
        · rfl
        · exact Instruction.run_within inside

end Within

section Tracking

variable {env : Environment} {op : Opcode} {instruction : Instruction} {chunk : Chunk}
  {machine left : Machine} {outer : List Bool} {executing : Bool} {after : Nat} {flow : Flow}

theorem branches_of_onMainThenNext {action : StackAction Unit}
    (ran : onMainThenNext action machine = .ok flow left) : left.branches = machine.branches := by
  rw [onMainThenNext_apply] at ran
  cases acted : action machine.stack <;> rw [acted] at ran <;> cases ran
  rfl

theorem Instruction.length_branches_of_run
    (inside : instruction.depthAfter? machine.branches.length = some after)
    (ran : instruction.run env op executing machine = .ok flow left) :
    left.branches.length = after := by
  obtain ⟨stack, alt, branches⟩ := machine
  cases instruction with
  | branch negated =>
    cases inside
    cases executing with
    | false =>
      cases ran
      rfl
    | true =>
      cases stack <;> cases ran
      rfl
  | otherwise =>
    cases branches with
    | nil => cases inside
    | cons taken branches =>
      cases inside
      cases ran
      rfl
  | endBranch =>
    cases branches with
    | nil => cases inside
    | cons taken branches =>
      cases inside
      cases ran
      rfl
  | toAlt =>
    cases inside
    cases stack <;> cases ran
    rfl
  | fromAlt =>
    cases inside
    cases alt <;> cases ran
    rfl
  | nop | endSegment | codeSeparator =>
    cases inside
    cases ran
    rfl
  | invalid => cases ran
  | _ =>
    cases inside
    exact congrArg List.length (branches_of_onMainThenNext ran)

/-- An opcode that pushes, or that is passed over where it is not executed, tracks no conditional.
-/
theorem Instruction.isConditional_eq_false
    (plain : op.isPush = true ∨ op.isConditional = false) :
    (Instruction.ofOpcode op).isConditional = false := by
  cases conditional : (Instruction.ofOpcode op).isConditional with
  | false => rfl
  | true =>
    obtain ⟨isConditional, notPush, -⟩ := Opcode.isConditional_of_instruction op conditional
    rcases plain with push | passed
    · cases notPush.symm.trans push
    · cases passed.symm.trans isConditional

/-- The conditionals that are open after a chunk was executed. -/
theorem Chunk.length_branches_of_execute
    (inside : (Instruction.ofOpcode chunk.opcode).depthAfter? machine.branches.length =
      some after) (executed : chunk.execute env machine = .ok flow left) :
    left.branches.length = after := by
  have unchanged (plain : chunk.opcode.isPush = true ∨ chunk.opcode.isConditional = false) :
      machine.branches.length = after := by
    rw [Instruction.depthAfter?_of_not_isConditional
      (Instruction.isConditional_eq_false plain)] at inside
    exact Option.some.inj inside
  rcases Chunk.execute_cases executed with ⟨-, plain, -, rfl⟩ | ⟨push, pushed⟩ | ⟨-, ran⟩
  · exact unchanged plain
  · rw [branches_of_onMainThenNext pushed, unchanged (.inl push)]
  · exact Instruction.length_branches_of_run inside ran

/-- Inside an outer branch that is not taken, a chunk opens, switches and closes conditionals of its
own and does nothing else. -/
theorem Chunk.execute_skipped (idle : outer.all id = false)
    (visitable : chunk.IsVisitable env.policy)
    (inside : (Instruction.ofOpcode chunk.opcode).depthAfter? machine.branches.length =
      some after) :
    ∃ branches, branches.length = after ∧
      chunk.execute env (machine.within outer) =
        .ok .next (Machine.within outer { machine with branches }) := by
  obtain ⟨notVerif, notVerNotif, fits⟩ := visitable
  have waiting : (machine.within outer).isExecuting = false := by
    rw [Machine.isExecuting_within, idle, Bool.and_false]
  unfold Chunk.execute
  dsimp only
  rw [if_neg (Nat.not_lt.mpr fits), waiting]
  simp only [Bool.false_and, Bool.false_eq_true, if_false, Bool.not_false, Bool.true_and]
  by_cases plain : chunk.opcode.isPush = true ∨ chunk.opcode.isConditional = false
  · rw [Instruction.depthAfter?_of_not_isConditional
      (Instruction.isConditional_eq_false plain)] at inside
    refine ⟨machine.branches, Option.some.inj inside, ?_⟩
    rcases plain with push | passed
    · rw [if_pos push]
    · rw [passed]
      split <;> rfl
  -- What is left are the conditionals, which are visited on every branch.
  · obtain ⟨notPush, conditional⟩ := not_or.mp plain
    rw [if_neg notPush, Bool.eq_true_of_not_eq_false conditional]
    have tracked := Opcode.isConditional_eq chunk.opcode ⟨notVerif, notVerNotif⟩
    rw [Bool.eq_true_of_not_eq_false conditional] at tracked
    obtain ⟨stack, alt, branches⟩ := machine
    cases instruction : Instruction.ofOpcode chunk.opcode with
    | branch negated =>
      rw [instruction] at inside
      cases inside
      exact ⟨false :: branches, rfl, rfl⟩
    | otherwise =>
      rw [instruction] at inside
      cases branches with
      | nil => cases inside
      | cons taken branches =>
        cases inside
        exact ⟨(!taken) :: branches, rfl, rfl⟩
    | endBranch =>
      rw [instruction] at inside
      cases branches with
      | nil => cases inside
      | cons taken branches =>
        cases inside
        exact ⟨branches, rfl, rfl⟩
    | _ =>
      rw [instruction] at tracked
      cases tracked

end Tracking

end ScriptSpend
