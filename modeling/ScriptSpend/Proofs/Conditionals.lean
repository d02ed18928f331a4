import ScriptSpend.Proofs.NestedBranches

/-!
# Conditionals as blocks

A conditional whose branches are nested properly acts as a block: stepping through all of it takes
its condition from the stack and then does what stepping through the branch that it selects does.
The other branch has no effect. Stepping through chunks ends early if one of them fails or, being
executed, ends the script.

## Main definitions

* `Spend.stepThrough`: passes a number of chunks, and tells whether one of them ended the script
* `Spend.SameEffect`, `Spend.SameOutcome`: what is left is alike but for the open conditionals, the
  position and the number of steps
* `Conditional`: the chunks of a conditional with two branches

## Main results

* `Spend.stepThrough_within`: outer branches that are taken make no difference to nested chunks
* `Spend.stepThrough_skipped`: nested chunks on a branch that is not taken have no effect
* `Spend.stepThrough_conditional`: a conditional does what the selected branch does
-/

namespace ScriptSpend

namespace Spend

/-- The chunks from the next one on. -/
def ahead (spend : Spend) : Script := spend.script.drop spend.position

/-- Whether the next chunk is executed and ends the script. -/
def isReturning (spend : Spend) : Bool :=
  spend.chunk?.any fun chunk =>
    spend.machine.isExecuting && Instruction.ofOpcode chunk.opcode == .endSegment

/-- Passes the given number of chunks, one step each, but stops behind one that ends the script.
Tells whether there was one. -/
def stepThrough (verify : Ecdsa.Verifier) : Nat → SpendAction Bool
  | 0 => pure false
  | count + 1 => fun spend =>
    match step verify spend with
    | .error e failed => .error e failed
    | .ok _ next => if spend.isReturning then .ok true next else stepThrough verify count next

/-- The spend a number of chunks later, with the given stacks and last executed separator. -/
def passing (spend : Spend) (count : Nat) (machine : Machine) (lastSeparator : Option Nat) :
    Spend :=
  { spend with
    position := spend.position + count, lastSeparator, machine, steps := spend.steps + count }

/-- The spend with further conditionals open around the present ones, after some more steps. -/
def within (outer : List Bool) (earlier : Nat) (spend : Spend) : Spend :=
  { spend with machine := spend.machine.within outer, steps := spend.steps + earlier }

/-- Two spends are alike but for the open conditionals, the position and the number of steps. -/
structure SameEffect (spend other : Spend) : Prop where
  reset : spend.reset = other.reset
  segment : spend.segment = other.segment
  lastSeparator : spend.lastSeparator = other.lastSeparator
  stack : spend.machine.stack = other.machine.stack
  alt : spend.machine.alt = other.machine.alt

/-- Two ways through some chunks end with the same failure, or both without one, and have had the
same effect. -/
inductive SameOutcome :
    EStateM.Result SpendError Spend Bool → EStateM.Result SpendError Spend Bool → Prop
  | failed {e : SpendError} {left other : Spend} (alike : left.SameEffect other) :
    SameOutcome (.error e left) (.error e other)
  | passed {returned : Bool} {left other : Spend} (alike : left.SameEffect other) :
    SameOutcome (.ok returned left) (.ok returned other)

variable {verify : Ecdsa.Verifier} {spend next reached : Spend} {chunk : Chunk} {chunks : Script}
  {outer : List Bool} {earlier after : Nat} {e : SpendError}

section Effects

theorem SameEffect.trans {other third : Spend} (first : spend.SameEffect other)
    (second : other.SameEffect third) : spend.SameEffect third where
  reset := first.reset.trans second.reset
  segment := first.segment.trans second.segment
  lastSeparator := first.lastSeparator.trans second.lastSeparator
  stack := first.stack.trans second.stack
  alt := first.alt.trans second.alt

theorem sameEffect_within (other : List Bool) (later : Nat) :
    (spend.within outer earlier).SameEffect (spend.within other later) :=
  ⟨rfl, rfl, rfl, rfl, rfl⟩

theorem sameEffect_passing (count : Nat) (branches : List Bool) :
    (spend.passing count { spend.machine with branches } spend.lastSeparator).SameEffect spend :=
  ⟨rfl, rfl, rfl, rfl, rfl⟩

end Effects

section Positions

theorem chunk?_of_ahead (laid : chunk :: chunks <+: spend.ahead) : spend.chunk? = some chunk := by
  obtain ⟨rest, whole⟩ := laid
  rw [chunk?, ← List.head?_drop, ← ahead, ← whole]
  rfl

theorem prefix_ahead_passing {front : Script} (laid : front ++ chunks <+: spend.ahead)
    (machine : Machine) (separator : Option Nat) :
    chunks <+: (spend.passing front.length machine separator).ahead := by
  obtain ⟨rest, whole⟩ := laid
  refine ⟨rest, ?_⟩
  change chunks ++ rest = spend.script.drop (spend.position + front.length)
  rw [← List.drop_drop, ← ahead, ← whole, List.append_assoc, List.drop_left]

@[simp] theorem passing_passing {count more : Nat} {machine other : Machine}
    {separator later : Option Nat} :
    (spend.passing count machine separator).passing more other later =
      spend.passing (count + more) other later := by
  simp [passing, Nat.add_assoc]

end Positions

section Steps

/-- Outer branches that are taken make no difference to a step inside of them. -/
theorem step_within (taken : outer.all id = true) (unbounded : spend.policy.maxSteps = none)
    (found : spend.chunk? = some chunk)
    (inside : (Instruction.ofOpcode chunk.opcode).depthAfter? spend.machine.branches.length =
      some after) :
    step verify (spend.within outer earlier) =
      mapState (within outer earlier) (step verify spend) := by
  have foundWithin : (spend.within outer earlier).chunk? = some chunk := found
  rw [step_of_chunk? found unbounded, step_of_chunk? foundWithin unbounded]
  have same : (spend.within outer earlier).environment verify = spend.environment verify := rfl
  have alike : chunk.execute (spend.environment verify) (spend.within outer earlier).machine =
      mapState (Machine.within outer) (chunk.execute (spend.environment verify) spend.machine) :=
    Chunk.execute_within taken inside
  rw [same, alike]
  cases chunk.execute (spend.environment verify) spend.machine with
  | error cause machine => simp [mapState, within, failure, Machine.within, Nat.add_right_comm]
  | ok flow machine => cases flow <;> simp [mapState, within, advance, script, Nat.add_right_comm]

/-- What a step that does not end the script leads to. -/
theorem exists_passing_of_step (unbounded : spend.policy.maxSteps = none)
    (found : spend.chunk? = some chunk)
    (inside : (Instruction.ofOpcode chunk.opcode).depthAfter? spend.machine.branches.length =
      some after) (goesOn : spend.isReturning = false)
    (stepped : step verify spend = .ok () next) :
    ∃ machine separator, machine.branches.length = after ∧
      next = spend.passing 1 machine separator := by
  rw [step_of_chunk? found unbounded] at stepped
  cases executed : chunk.execute (spend.environment verify) spend.machine with
  | error cause machine => rw [executed] at stepped; cases stepped
  | ok flow machine =>
    rw [executed] at stepped
    have tracked := Chunk.length_branches_of_execute inside executed
    rw [isReturning, found] at goesOn
    have flows := Chunk.flow_ne_endSegment executed goesOn
    cases flow with
    | next =>
      cases stepped
      exact ⟨machine, spend.lastSeparator, tracked, rfl⟩
    | separator =>
      cases stepped
      exact ⟨machine, some spend.position, tracked, rfl⟩
    | endSegment => exact absurd rfl flows

end Steps

section Runs

theorem stepThrough_of_failed_step {count : Nat} {failed : Spend}
    (stepped : step verify spend = .error e failed) :
    stepThrough verify (count + 1) spend = .error e failed := by
  simp only [stepThrough, stepped]

theorem stepThrough_of_step {count : Nat} (stepped : step verify spend = .ok () next) :
    stepThrough verify (count + 1) spend =
      if spend.isReturning then .ok true next else stepThrough verify count next := by
  simp only [stepThrough, stepped]

/-- Chunks are passed without an end of the script if the first one is and then the others are. -/
theorem exists_step_of_stepThrough {count : Nat}
    (passed : stepThrough verify (count + 1) spend = .ok false reached) :
    ∃ next, step verify spend = .ok () next ∧ spend.isReturning = false ∧
      stepThrough verify count next = .ok false reached := by
  cases stepped : step verify spend with
  | error e failed =>
    rw [stepThrough_of_failed_step stepped] at passed
    cases passed
  | ok _ next =>
    rw [stepThrough_of_step stepped] at passed
    split at passed
    · cases passed
    · rename_i goesOn
      exact ⟨next, rfl, Bool.eq_false_iff.mpr goesOn, passed⟩

/-- Stepping through more chunks goes on where stepping through the first ones ends, unless these
ended the script. -/
theorem stepThrough_add (count more : Nat) :
    stepThrough verify (count + more) spend =
      (stepThrough verify count >>= fun returned =>
        if returned then pure true else stepThrough verify more) spend := by
  induction count generalizing spend with
  | zero =>
    rw [Nat.zero_add]
    rfl
  | succ count ih =>
    rw [Nat.succ_add, bind_apply]
    cases stepped : step verify spend with
    | error e failed => rw [stepThrough_of_failed_step stepped, stepThrough_of_failed_step stepped]
    | ok _ next =>
      rw [stepThrough_of_step stepped, stepThrough_of_step stepped]
      split
      · rfl
      · rw [ih, bind_apply]

theorem isReturning_within (taken : outer.all id = true) :
    (spend.within outer earlier).isReturning = spend.isReturning := by
  have same : (spend.machine.within outer).isExecuting = spend.machine.isExecuting := by
    rw [Machine.isExecuting_within, taken, Bool.and_true]
  exact congrArg (fun executing => spend.chunk?.any fun chunk =>
    executing && Instruction.ofOpcode chunk.opcode == .endSegment) same

/-- Outer branches that are taken make no difference to stepping through chunks inside of them. -/
theorem stepThrough_within (taken : outer.all id = true) (unbounded : spend.policy.maxSteps = none)
    (laid : chunks <+: spend.ahead)
    (inside : chunks.depthAfter? spend.machine.branches.length = some after) :
    stepThrough verify chunks.length (spend.within outer earlier) =
      mapState (within outer earlier) (stepThrough verify chunks.length spend) := by
  -- By induction on the chunks. That they stay inside of the outer conditionals depends only on how
  -- many of their own are open before each of them.
  induction chunks generalizing spend with
  | nil => rfl
  | cons chunk chunks ih =>
    obtain ⟨depth, insideFirst, insideRest⟩ := Option.bind_eq_some_iff.mp inside
    have found := chunk?_of_ahead laid
    have steppedWithin := @step_within verify _ _ _ earlier _ taken unbounded found insideFirst
    rw [List.length_cons]
    cases stepped : step verify spend with
    | error e failed =>
      rw [stepped] at steppedWithin
      rw [stepThrough_of_failed_step stepped, stepThrough_of_failed_step steppedWithin]
      rfl
    | ok _ next =>
      rw [stepped] at steppedWithin
      rw [stepThrough_of_step stepped, stepThrough_of_step steppedWithin, isReturning_within taken]
      cases goesOn : spend.isReturning with
      | true => rfl
      | false =>
        obtain ⟨machine, separator, rfl, rfl⟩ :=
          exists_passing_of_step unbounded found insideFirst goesOn stepped
        exact ih unbounded (@prefix_ahead_passing _ chunks [chunk] laid _ _) insideRest

/-- Stepping through chunks that do not end the script leads behind them. -/
theorem exists_passing_of_stepThrough (unbounded : spend.policy.maxSteps = none)
    (laid : chunks <+: spend.ahead)
    (inside : chunks.depthAfter? spend.machine.branches.length = some after)
    (passed : stepThrough verify chunks.length spend = .ok false reached) :
    ∃ machine separator, machine.branches.length = after ∧
      reached = spend.passing chunks.length machine separator := by
  induction chunks generalizing spend with
  | nil =>
    cases inside
    cases passed
    exact ⟨reached.machine, reached.lastSeparator, rfl, rfl⟩
  | cons chunk chunks ih =>
    obtain ⟨depth, insideFirst, insideRest⟩ := Option.bind_eq_some_iff.mp inside
    have found := chunk?_of_ahead laid
    obtain ⟨next, stepped, goesOn, passed⟩ := exists_step_of_stepThrough passed
    obtain ⟨first, separator, rfl, rfl⟩ :=
      exists_passing_of_step unbounded found insideFirst goesOn stepped
    obtain ⟨machine, lastSeparator, tracked, rfl⟩ :=
      @ih (spend.passing 1 first separator) unbounded
        (@prefix_ahead_passing _ chunks [chunk] laid _ _) insideRest passed
    refine ⟨machine, lastSeparator, tracked, ?_⟩
    rw [passing_passing, List.length_cons, Nat.add_comm]

end Runs

section Skipping

/-- A chunk that is executed as one that goes on at the next one is passed. -/
theorem stepThrough_of_execute {machine : Machine} {count : Nat} (found : spend.chunk? = some chunk)
    (unbounded : spend.policy.maxSteps = none) (goesOn : spend.isReturning = false)
    (executed : chunk.execute (spend.environment verify) spend.machine = .ok .next machine) :
    stepThrough verify (count + 1) spend =
      stepThrough verify count (spend.passing 1 machine spend.lastSeparator) := by
  have stepped : step verify spend = .ok () (spend.passing 1 machine spend.lastSeparator) := by
    rw [step_of_chunk? found unbounded, executed]
    rfl
  rw [stepThrough_of_step stepped, goesOn, if_neg Bool.false_ne_true]

/-- Inside a branch that is not taken, chunks track the conditionals of their own and have no other
effect. -/
theorem stepThrough_of_idle (idle : outer.all id = false) (unbounded : spend.policy.maxSteps = none)
    (laid : chunks <+: spend.ahead)
    (visitable : ∀ chunk ∈ chunks, chunk.IsVisitable spend.policy) {machine : Machine}
    (around : spend.machine = machine.within outer)
    (inside : chunks.depthAfter? machine.branches.length = some after) :
    ∃ branches, branches.length = after ∧
      stepThrough verify chunks.length spend = .ok false (spend.passing chunks.length
        (Machine.within outer { machine with branches }) spend.lastSeparator) := by
  -- By induction on the chunks, with the conditionals open inside of the outer ones.
  induction chunks generalizing spend machine with
  | nil =>
    cases inside
    refine ⟨machine.branches, rfl, ?_⟩
    rw [show Machine.within outer { machine with branches := machine.branches } = spend.machine from
      around.symm]
    rfl
  | cons chunk chunks ih =>
    obtain ⟨depth, insideFirst, insideRest⟩ := Option.bind_eq_some_iff.mp inside
    have found := chunk?_of_ahead laid
    have waiting : spend.machine.isExecuting = false := by
      rw [around, Machine.isExecuting_within, idle, Bool.and_false]
    have goesOn : spend.isReturning = false := by
      rw [isReturning, found, waiting]
      rfl
    obtain ⟨branches, rfl, executed⟩ := @Chunk.execute_skipped (spend.environment verify) _ _ _ _
      idle (visitable chunk (by simp)) insideFirst
    rw [← around] at executed
    obtain ⟨later, tracked, passed⟩ := @ih
      (spend.passing 1 (Machine.within outer { machine with branches }) spend.lastSeparator)
      unbounded (@prefix_ahead_passing _ chunks [chunk] laid _ _)
      (fun c listed => visitable c (by simp [listed])) { machine with branches } rfl insideRest
    refine ⟨later, tracked, ?_⟩
    rw [List.length_cons, stepThrough_of_execute found unbounded goesOn executed, passed,
      passing_passing, Nat.add_comm]
    rfl

/-- Nested chunks on a branch that is not taken have no effect. -/
theorem stepThrough_skipped (waiting : spend.machine.isExecuting = false)
    (unbounded : spend.policy.maxSteps = none) (laid : chunks <+: spend.ahead)
    (visitable : ∀ chunk ∈ chunks, chunk.IsVisitable spend.policy) (nested : chunks.IsNested) :
    stepThrough verify chunks.length spend =
      .ok false (spend.passing chunks.length spend.machine spend.lastSeparator) := by
  obtain ⟨branches, none, passed⟩ := @stepThrough_of_idle verify spend chunks
    spend.machine.branches 0 waiting unbounded laid visitable { spend.machine with branches := [] }
    rfl nested
  obtain rfl := List.length_eq_zero_iff.mp none
  exact passed

end Skipping

end Spend

/-- A conditional with two branches: its chunks in order. -/
structure Conditional where
  opening : Chunk
  first : Script
  middle : Chunk
  second : Script
  closing : Chunk

namespace Conditional

/-- All chunks of a conditional. -/
def chunks (block : Conditional) : Script :=
  block.opening :: (block.first ++ block.middle :: (block.second ++ [block.closing]))

/-- The selected branch, the first one or the second one. -/
def selected (block : Conditional) (first : Bool) : Script :=
  if first then block.first else block.second

/-- The chunks before the selected branch. -/
def front (block : Conditional) (first : Bool) : Script :=
  if first then [block.opening] else block.opening :: (block.first ++ [block.middle])

/-- The chunks behind the selected branch. -/
def rear (block : Conditional) (first : Bool) : Script :=
  if first then block.middle :: (block.second ++ [block.closing]) else [block.closing]

theorem chunks_eq (block : Conditional) (first : Bool) :
    block.chunks = block.front first ++ (block.selected first ++ block.rear first) := by
  cases first <;> simp [chunks, front, selected, rear]

/-- The chunks are those of a conditional, its branches are nested, and nothing in it fails without
being executed. -/
structure IsBlock (policy : Policy) (block : Conditional) (negated : Bool) : Prop where
  opens : Instruction.ofOpcode block.opening.opcode = .branch negated
  switches : Instruction.ofOpcode block.middle.opcode = .otherwise
  closes : Instruction.ofOpcode block.closing.opcode = .endBranch
  nestedFirst : block.first.IsNested
  nestedSecond : block.second.IsNested
  visitable : ∀ chunk ∈ block.chunks, chunk.IsVisitable policy

end Conditional

namespace Spend

/-- The spend at the start of the selected branch, with the condition taken from the stack and no
conditional opened. -/
def atBranch (spend : Spend) (block : Conditional) (first : Bool) (rest : Stack) : Spend :=
  { spend with
    position := spend.position + (block.front first).length
    machine := { spend.machine with stack := rest } }

section Blocks

variable {verify : Ecdsa.Verifier} {spend : Spend} {block : Conditional}
  {negated first taken : Bool} {condition : Bytes} {rest : Stack} {outer : List Bool}
  {chunk : Chunk} {chunks : Script} {count : Nat}

theorem stepThrough_of_conditional {machine : Machine} (laid : chunk :: chunks <+: spend.ahead)
    (unbounded : spend.policy.maxSteps = none) (visitable : chunk.IsVisitable spend.policy)
    (conditional : (Instruction.ofOpcode chunk.opcode).isConditional = true)
    (ran : (Instruction.ofOpcode chunk.opcode).run (spend.environment verify) chunk.opcode
      spend.machine.isExecuting spend.machine = .ok .next machine) :
    stepThrough verify (count + 1) spend =
      stepThrough verify count (spend.passing 1 machine spend.lastSeparator) := by
  have found := chunk?_of_ahead laid
  have goesOn : spend.isReturning = false := by
    rw [isReturning, found]
    cases instruction : Instruction.ofOpcode chunk.opcode <;> simp_all [Instruction.isConditional]
  refine stepThrough_of_execute found unbounded goesOn ?_
  obtain ⟨isConditional, notPush, notDisabled⟩ :=
    Opcode.isConditional_of_instruction chunk.opcode conditional
  have fits : ¬ (spend.environment verify).policy.maxElementSize.toNat < chunk.data.length :=
    Nat.not_lt.mpr visitable.2.2
  rw [← ran]
  simp only [Chunk.execute, fits, if_false, notDisabled, notPush, isConditional, Bool.and_false,
    Bool.not_true, Bool.false_eq_true]

/-- The middle of a conditional goes over to the other branch. -/
theorem stepThrough_switch (laid : chunk :: chunks <+: spend.ahead)
    (unbounded : spend.policy.maxSteps = none) (visitable : chunk.IsVisitable spend.policy)
    (switches : Instruction.ofOpcode chunk.opcode = .otherwise)
    (opened : spend.machine.branches = taken :: outer) :
    stepThrough verify (count + 1) spend =
      stepThrough verify count (spend.passing 1
        { spend.machine with branches := (!taken) :: outer } spend.lastSeparator) := by
  refine stepThrough_of_conditional laid unbounded visitable (by rw [switches]; rfl) ?_
  rw [switches]
  simp [Instruction.run, thenNext, Operation.otherwise, opened]

/-- The end of a conditional closes it. -/
theorem stepThrough_close (laid : chunk :: chunks <+: spend.ahead)
    (unbounded : spend.policy.maxSteps = none) (visitable : chunk.IsVisitable spend.policy)
    (closes : Instruction.ofOpcode chunk.opcode = .endBranch)
    (opened : spend.machine.branches = taken :: outer) :
    stepThrough verify (count + 1) spend = stepThrough verify count
      (spend.passing 1 { spend.machine with branches := outer } spend.lastSeparator) := by
  refine stepThrough_of_conditional laid unbounded visitable (by rw [closes]; rfl) ?_
  rw [closes]
  simp [Instruction.run, thenNext, Operation.endBranch, opened]

/-- Nested chunks on a branch that is not taken are passed. -/
theorem stepThrough_skip (opened : spend.machine.branches = false :: outer)
    (unbounded : spend.policy.maxSteps = none) {front : Script}
    (laid : front ++ chunks <+: spend.ahead)
    (visitable : ∀ chunk ∈ front, chunk.IsVisitable spend.policy) (nested : front.IsNested) :
    stepThrough verify (front.length + count) spend = stepThrough verify count
      (spend.passing front.length spend.machine spend.lastSeparator) := by
  have waiting : spend.machine.isExecuting = false := by
    rw [Machine.isExecuting, opened]
    rfl
  rw [stepThrough_add, bind_apply, stepThrough_skipped waiting unbounded
    ((List.prefix_append front chunks).trans laid) visitable nested]
  rfl

/-- Stepping up to the selected branch takes the condition and opens the conditional. -/
theorem stepThrough_front (isBlock : block.IsBlock spend.policy negated)
    (laid : block.chunks <+: spend.ahead) (executing : spend.machine.isExecuting = true)
    (stacked : spend.machine.stack = condition :: rest) (unbounded : spend.policy.maxSteps = none)
    (selects : (ScriptNumber.isTrue condition != negated) = first) :
    stepThrough verify ((block.front first).length + count) spend = stepThrough verify count
      (spend.passing (block.front first).length
        { spend.machine with stack := rest, branches := true :: spend.machine.branches }
        spend.lastSeparator) := by
  have opens (count : Nat) : stepThrough verify (count + 1) spend = stepThrough verify count
      (spend.passing 1
        { spend.machine with stack := rest, branches := first :: spend.machine.branches }
        spend.lastSeparator) := by
    refine stepThrough_of_conditional laid unbounded
      (isBlock.visitable _ (by simp [Conditional.chunks])) (by rw [isBlock.opens]; rfl) ?_
    rw [isBlock.opens]
    simp [Instruction.run, thenNext, Operation.branch, executing, stacked, selects]
  cases first with
  | true =>
    rw [Conditional.front, if_pos rfl, List.length_singleton, Nat.add_comm, opens]
  | false =>
    -- The first branch is skipped, and the middle goes over to the second one.
    let opened := spend.passing 1
      { spend.machine with stack := rest, branches := false :: spend.machine.branches }
      spend.lastSeparator
    have laidFirst : block.first ++ block.middle :: (block.second ++ [block.closing]) <+:
        opened.ahead := @prefix_ahead_passing spend _ [block.opening] laid _ _
    have skipped : stepThrough verify (block.first.length + (count + 1)) opened =
        stepThrough verify (count + 1)
          (opened.passing block.first.length opened.machine opened.lastSeparator) :=
      @stepThrough_skip verify opened _ _ _ rfl unbounded _ laidFirst
        (fun chunk listed => isBlock.visitable chunk (by simp [Conditional.chunks, listed]))
        isBlock.nestedFirst
    have switched := @stepThrough_switch verify
      (opened.passing block.first.length opened.machine opened.lastSeparator) false _ _ _ count
      (prefix_ahead_passing laidFirst _ _) unbounded
      (isBlock.visitable _ (by simp [Conditional.chunks])) isBlock.switches rfl
    have length : (block.front false).length = 1 + (block.first.length + 1) := by
      simp [Conditional.front, Nat.add_comm]
    have total : (block.front false).length + count = block.first.length + (count + 1) + 1 := by
      omega
    rw [total, opens, skipped, switched, passing_passing, passing_passing, ← length]
    rfl

/-- Stepping on from the end of the selected branch closes the conditional. -/
theorem stepThrough_rear (isBlock : block.IsBlock spend.policy negated)
    (laid : block.rear first <+: spend.ahead) (unbounded : spend.policy.maxSteps = none)
    (opened : spend.machine.branches = true :: outer) :
    stepThrough verify (block.rear first).length spend =
      .ok false (spend.passing (block.rear first).length
        { spend.machine with branches := outer } spend.lastSeparator) := by
  have visitable (chunk : Chunk) (listed : chunk ∈ block.rear first) :
      chunk.IsVisitable spend.policy := by
    refine isBlock.visitable chunk ?_
    rw [block.chunks_eq first]
    exact List.mem_append_right _ (List.mem_append_right _ listed)
  cases first with
  | true =>
    -- The middle goes over to the second branch, which is skipped.
    let switched := spend.passing 1 { spend.machine with branches := false :: outer }
      spend.lastSeparator
    have laidSecond : block.second ++ [block.closing] <+: switched.ahead :=
      @prefix_ahead_passing spend _ [block.middle] laid _ _
    have skipped : stepThrough verify (block.second.length + (0 + 1)) switched =
        stepThrough verify (0 + 1)
          (switched.passing block.second.length switched.machine switched.lastSeparator) :=
      @stepThrough_skip verify switched _ _ _ rfl unbounded _ laidSecond
        (fun chunk listed => visitable chunk (by simp [Conditional.rear, listed]))
        isBlock.nestedSecond
    have closed := @stepThrough_close verify
      (switched.passing block.second.length switched.machine switched.lastSeparator) false _ _ _ 0
      (prefix_ahead_passing laidSecond _ _) unbounded (visitable _ (by simp [Conditional.rear]))
      isBlock.closes rfl
    have total : (block.rear true).length = block.second.length + (0 + 1) + 1 := by
      simp [Conditional.rear]
    have length : (block.rear true).length = 1 + (block.second.length + 1) := by omega
    rw [total, stepThrough_switch laid unbounded (visitable _ (by simp [Conditional.rear]))
      isBlock.switches opened, ← total, length]
    exact skipped.trans (closed.trans (by rw [passing_passing, passing_passing]; rfl))
  | false =>
    rw [show (block.rear false).length = 0 + 1 from rfl,
      stepThrough_close laid unbounded (visitable _ (by simp [Conditional.rear])) isBlock.closes
        opened]
    rfl

/-- Inside the conditional, the selected branch does what it does without it, and what is left to
step through only closes the conditional. -/
theorem stepThrough_selected (isBlock : block.IsBlock spend.policy negated)
    (laid : block.selected first ++ block.rear first <+: spend.ahead)
    (closed : spend.machine.branches = []) (taken : outer.all id = true)
    (unbounded : spend.policy.maxSteps = none) (earlier later : Nat) :
    SameOutcome
        (stepThrough verify ((block.selected first).length + (block.rear first).length)
          (spend.within (true :: outer) earlier))
        (stepThrough verify (block.selected first).length (spend.within outer later)) ∧
      ∀ left, stepThrough verify ((block.selected first).length + (block.rear first).length)
          (spend.within (true :: outer) earlier) = .ok false left →
        left.machine.branches = outer ∧ left.position =
          spend.position + ((block.selected first).length + (block.rear first).length) := by
  have laidSelected := (List.prefix_append (block.selected first) (block.rear first)).trans laid
  have nested : (block.selected first).depthAfter? spend.machine.branches.length = some 0 := by
    rw [closed]
    cases first with
    | true => exact isBlock.nestedFirst
    | false => exact isBlock.nestedSecond
  have takenInside : (true :: outer).all id = true := taken
  rw [stepThrough_add, bind_apply, stepThrough_within takenInside unbounded laidSelected nested,
    stepThrough_within taken unbounded laidSelected nested]
  -- Only if the branch comes to its end is there something left to step through.
  cases ran : stepThrough verify (block.selected first).length spend with
  | error e failed =>
    simp only [mapState]
    refine ⟨.failed (sameEffect_within _ _), ?_⟩
    rintro final ⟨⟩
  | ok returned reached =>
    simp only [mapState]
    cases returned with
    | true =>
      refine ⟨.passed (sameEffect_within _ _), ?_⟩
      rintro final ⟨⟩
    | false =>
      obtain ⟨machine, separator, none, rfl⟩ :=
        exists_passing_of_stepThrough unbounded laidSelected nested ran
      have opened : (machine.within (true :: outer)).branches = true :: outer := by
        rw [Machine.within, List.length_eq_zero_iff.mp none]
        rfl
      have left := @stepThrough_rear verify
        ((spend.passing (block.selected first).length machine separator).within (true :: outer)
          earlier)
        block negated first outer isBlock (prefix_ahead_passing laid machine separator) unbounded
        opened
      simp only [Bool.false_eq_true, if_false, left]
      refine ⟨.passed ((sameEffect_passing _ _).trans (sameEffect_within _ _)), ?_⟩
      rintro final ⟨⟩
      exact ⟨rfl, Nat.add_assoc _ _ _⟩

/-- A conditional takes its condition from the stack and then does what its selected branch does
without it, and unless an executed chunk ends the script, it leaves the open conditionals as they
were and the position behind its end. The other branch has no effect. -/
theorem stepThrough_conditional (isBlock : block.IsBlock spend.policy negated)
    (laid : block.chunks <+: spend.ahead) (executing : spend.machine.isExecuting = true)
    (stacked : spend.machine.stack = condition :: rest) (unbounded : spend.policy.maxSteps = none)
    (selects : (ScriptNumber.isTrue condition != negated) = first) :
    SameOutcome (stepThrough verify block.chunks.length spend)
        (stepThrough verify (block.selected first).length (spend.atBranch block first rest)) ∧
      ∀ left, stepThrough verify block.chunks.length spend = .ok false left →
        left.machine.branches = spend.machine.branches ∧
          left.position = spend.position + block.chunks.length := by
  -- Both ways go through the selected branch with the conditionals around it set aside.
  let alone : Spend := { spend.atBranch block first rest with
    machine := { spend.machine with stack := rest, branches := [] }, steps := 0 }
  have reference : spend.atBranch block first rest =
      alone.within spend.machine.branches spend.steps := by
    simp [alone, within, atBranch, Machine.within]
  have entered : spend.passing (block.front first).length
      { spend.machine with stack := rest, branches := true :: spend.machine.branches }
      spend.lastSeparator = alone.within (true :: spend.machine.branches)
        (spend.steps + (block.front first).length) := by
    simp [alone, within, atBranch, Machine.within, passing]
  have laidBehind : block.selected first ++ block.rear first <+: alone.ahead := by
    rw [block.chunks_eq first] at laid
    exact prefix_ahead_passing laid {} none
  have length : block.chunks.length = (block.front first).length +
      ((block.selected first).length + (block.rear first).length) := by
    rw [block.chunks_eq first, List.length_append, List.length_append]
  have whole := @stepThrough_front verify spend block negated first condition rest
    ((block.selected first).length + (block.rear first).length) isBlock laid executing stacked
    unbounded selects
  rw [length, whole, entered, reference, ← Nat.add_assoc]
  exact @stepThrough_selected verify alone block negated first spend.machine.branches isBlock
    laidBehind rfl executing unbounded _ _

end Blocks

end Spend

/-- A conditional whose first branch holds another one, and whose second branch would fail. -/
def Conditional.nested : Conditional where
  opening := .ofOpcode 0x63
  first := [.ofOpcode 0x00, .ofOpcode 0x64, .ofOpcode 0x52, .ofOpcode 0x67, .ofOpcode 0x8d,
    .ofOpcode 0x68]
  middle := .ofOpcode 0x67
  second := [.ofOpcode 0x8d, .ofOpcode 0x63, .ofOpcode 0x68]
  closing := .ofOpcode 0x68

/-- The start of that conditional, with a true condition. -/
def Spend.atNested : Spend :=
  { standard .bare [] Conditional.nested.chunks with
    segment := .locking, machine := { stack := [[1]] } }

/-- The conditional does what its first branch does, and is closed behind it. -/
theorem Spend.stepThrough_nested :
    SameOutcome (stepThrough (fun _ _ _ => false) Conditional.nested.chunks.length atNested)
        (stepThrough (fun _ _ _ => false) (Conditional.nested.selected true).length
          (atNested.atBranch Conditional.nested true [])) ∧
      ∀ left, stepThrough (fun _ _ _ => false) Conditional.nested.chunks.length atNested =
          .ok false left →
        left.machine.branches = atNested.machine.branches ∧
          left.position = atNested.position + Conditional.nested.chunks.length := by
  have isBlock : Conditional.nested.IsBlock atNested.policy false :=
    ⟨rfl, rfl, rfl, by decide, by decide, by decide⟩
  exact stepThrough_conditional isBlock (List.prefix_refl _) rfl rfl rfl rfl

/-- Nothing is left of it but the number that the inner conditional pushes. -/
example : (match Spend.stepThrough (fun _ _ _ => false) Conditional.nested.chunks.length
    Spend.atNested with
    | .ok returned left => !returned && decide (left.machine = { stack := [[2]] })
    | .error _ _ => false) = true := by
  decide +kernel

end ScriptSpend
