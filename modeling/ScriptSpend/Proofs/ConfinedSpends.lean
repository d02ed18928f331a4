import ScriptSpend.Proofs.ConfinedOperations
import ScriptSpend.Proofs.StepBudget

/-!
# Confined spends

However a spend is driven, no item on its stacks is longer than the limit on elements, or than the
longest digest. Every chunk adds at most three items and a failed one adds none, so there are never
more items than three for each chunk that does not lie ahead, and their number is short as well when
it is written on the stack.

## Main definitions

* `Machine.IsConfined`: both stacks keep the bounds on the size and the number of items
* `Spend.heightBound`: the most items that can stand on the stacks by now

## Main results

* `Chunk.leavesConfined_execute`: a chunk keeps the bounds, whether it fails or not
* `Spend.IsConfined.afterStep`, `Spend.IsConfined.after`: so do a step and all other actions
* `Spend.length_le_of_mem_after`: no action whatever makes an item too long
-/

namespace ScriptSpend

open StackAction Operation

/-- Every item on both stacks has at most so many bytes, and there are at most so many items. -/
structure Machine.IsConfined (size : Nat) (height : Int) (machine : Machine) : Prop where
  stack : ∀ item ∈ machine.stack, item.length ≤ size
  alt : ∀ item ∈ machine.alt, item.length ≤ size
  few : (machine.stack.length + machine.alt.length : Int) ≤ height

/-- What is left keeps the bound on the size of items. There are at most three more items after a
success, and no more after a failure. -/
def LeavesConfined {α : Type} (size : Nat) (height : Int) :
    EStateM.Result Failure Machine α → Prop
  | .ok _ left => left.IsConfined size (height + 3)
  | .error _ left => left.IsConfined size height

section Machines

variable {size : Nat} {height : Int} {machine : Machine}

theorem Machine.IsConfined.mono {lower higher : Int} (confined : machine.IsConfined size lower)
    (less : lower ≤ higher) : machine.IsConfined size higher :=
  ⟨confined.stack, confined.alt, Int.le_trans confined.few less⟩

/-- The open conditionals hold no items. -/
theorem Machine.IsConfined.withBranches (confined : machine.IsConfined size height)
    (branches : List Bool) : Machine.IsConfined size (height + 3) { machine with branches } :=
  ⟨confined.stack, confined.alt, Int.le_trans confined.few (by omega)⟩

theorem LeavesConfined.thenNext {action : MachineAction Unit}
    (leaves : LeavesConfined size height (action machine)) :
    LeavesConfined size height (thenNext action machine) := by
  simp only [ScriptSpend.thenNext, bind_apply]
  cases result : action machine with
  | ok value left =>
    rw [result] at leaves
    exact leaves
  | error cause left =>
    rw [result] at leaves
    exact leaves

/-- The items of the alternative stack stay as they are while the main stack is worked on. -/
theorem Confined.onMainThenNext {action : StackAction Unit}
    (confined : ∀ top ≤ height, Confined size top 0 action (fun _ => True) 3)
    (started : machine.IsConfined size height) :
    LeavesConfined size height (onMainThenNext action machine) := by
  have few := started.few
  have within : Within size (height - machine.alt.length + 0) machine.stack :=
    ⟨started.stack, by omega⟩
  have ran := confined (height - machine.alt.length) (by omega) within
  rw [onMainThenNext_apply]
  cases result : action machine.stack with
  | ok value left =>
    rw [result] at ran
    obtain ⟨-, items, most⟩ := ran
    exact ⟨items, started.alt, by dsimp only; omega⟩
  | error cause left =>
    rw [result] at ran
    obtain ⟨items, most⟩ := ran
    exact ⟨items, started.alt, by dsimp only; omega⟩

theorem leavesConfined_branch (confined : machine.IsConfined size height) (op : Opcode)
    (executing negated : Bool) :
    LeavesConfined size height (branch op executing negated machine) := by
  obtain ⟨stack, alt, branches⟩ := machine
  cases executing with
  | false => exact confined.withBranches _
  | true =>
    cases stack with
    | nil => exact confined
    | cons condition rest =>
      have few : ((rest.length + 1 : Nat) + alt.length : Int) ≤ height := confined.few
      exact ⟨(List.forall_mem_cons.mp confined.stack).2, confined.alt, by dsimp only; omega⟩

theorem leavesConfined_otherwise (confined : machine.IsConfined size height) :
    LeavesConfined size height (otherwise machine) := by
  obtain ⟨stack, alt, branches⟩ := machine
  cases branches with
  | nil => exact confined
  | cons taken outer => exact confined.withBranches _

theorem leavesConfined_endBranch (confined : machine.IsConfined size height) :
    LeavesConfined size height (endBranch machine) := by
  obtain ⟨stack, alt, branches⟩ := machine
  cases branches with
  | nil => exact confined
  | cons taken outer => exact confined.withBranches _

/-- An item that changes over to the other stack is counted there. -/
theorem leavesConfined_toAlt (confined : machine.IsConfined size height) (op : Opcode) :
    LeavesConfined size height (toAlt op machine) := by
  obtain ⟨stack, alt, branches⟩ := machine
  cases stack with
  | nil => exact confined
  | cons item rest =>
    have items := List.forall_mem_cons.mp confined.stack
    have few : ((rest.length + 1 : Nat) + alt.length : Int) ≤ height := confined.few
    refine ⟨items.2, List.forall_mem_cons.mpr ⟨items.1, confined.alt⟩, ?_⟩
    dsimp only
    rw [List.length_cons]
    omega

theorem leavesConfined_fromAlt (confined : machine.IsConfined size height) :
    LeavesConfined size height (fromAlt machine) := by
  obtain ⟨stack, alt, branches⟩ := machine
  cases alt with
  | nil => exact confined
  | cons item rest =>
    have items := List.forall_mem_cons.mp confined.alt
    have few : (stack.length + (rest.length + 1 : Nat) : Int) ≤ height := confined.few
    refine ⟨List.forall_mem_cons.mpr ⟨items.1, confined.stack⟩, items.2, ?_⟩
    dsimp only
    rw [List.length_cons]
    omega

end Machines

section Chunks

variable {size : Nat} {height : Int} {machine : Machine} {env : Environment}

/-- The number that an instruction pushes by itself. -/
def Instruction.constant? : Instruction → Option Int
  | .constant n => some n
  | _ => none

/-- The constants that an opcode can push take one byte, or none. -/
theorem length_encode_constant_le : ∀ op : Opcode, ∀ n ∈ (Instruction.ofOpcode op).constant?,
    (ScriptNumber.encode n).length ≤ 1 :=
  ScriptNumber.forall_byte (by decide +kernel)

variable (roomy : 32 ≤ size) (counted : size < 2 ^ 64) (few : height < 256 ^ 31)
include roomy counted few

/-- An instruction keeps the bounds, if the constants that it may push do. -/
theorem Instruction.leavesConfined_run {instruction : Instruction}
    (limited : env.policy.maxElementSize.toNat ≤ size)
    (short : ∀ n, instruction = .constant n → (ScriptNumber.encode n).length ≤ size)
    (confined : machine.IsConfined size height) (op : Opcode) (executing : Bool) :
    LeavesConfined size height (instruction.run env op executing machine) := by
  cases instruction with
  | constant n =>
    exact Confined.onMainThenNext
      (fun _ _ => (push_confined (short n rfl)).last (by decide)) confined
  | nop | endSegment | codeSeparator => exact confined.mono (by omega)
  | branch negated => exact (leavesConfined_branch confined op executing negated).thenNext
  | otherwise => exact (leavesConfined_otherwise confined).thenNext
  | endBranch => exact (leavesConfined_endBranch confined).thenNext
  | verify => exact Confined.onMainThenNext (fun _ _ => verify_confined op) confined
  | toAlt => exact (leavesConfined_toAlt confined op).thenNext
  | fromAlt => exact (leavesConfined_fromAlt confined).thenNext
  | shuffle which =>
    exact Confined.onMainThenNext (fun top below =>
      which.run_confined roomy counted (Int.lt_of_le_of_lt below few) op) confined
  | pick => exact Confined.onMainThenNext (fun _ _ => pick_confined op _) confined
  | roll => exact Confined.onMainThenNext (fun _ _ => roll_confined op _) confined
  | cat => exact Confined.onMainThenNext (fun _ _ => cat_confined op limited) confined
  | split => exact Confined.onMainThenNext (fun _ _ => split_confined op _) confined
  | numberToBytes =>
    exact Confined.onMainThenNext (fun _ _ => numberToBytes_confined op _ limited) confined
  | bytesToNumber => exact Confined.onMainThenNext (fun _ _ => bytesToNumber_confined op) confined
  | invert => exact Confined.onMainThenNext (fun _ _ => invert_confined op) confined
  | bitwise which => exact Confined.onMainThenNext (fun _ _ => bitwise_confined op which) confined
  | shift direction =>
    exact Confined.onMainThenNext (fun _ _ => shift_confined op _ direction) confined
  | equal verifying =>
    exact Confined.onMainThenNext (fun _ _ => equal_confined op roomy verifying) confined
  | unary which =>
    exact Confined.onMainThenNext (fun _ _ => unary_confined op _ roomy which) confined
  | binary which verifying =>
    exact Confined.onMainThenNext (fun _ _ => binary_confined op _ roomy which verifying) confined
  | within => exact Confined.onMainThenNext (fun _ _ => within_confined op _ roomy) confined
  | digest which =>
    exact Confined.onMainThenNext (fun _ _ => digest_confined op roomy which) confined
  | checkSig verifying =>
    exact Confined.onMainThenNext (fun _ _ => checkSig_confined op roomy env verifying) confined
  | checkMultiSig verifying =>
    exact Confined.onMainThenNext (fun _ _ => checkMultiSig_confined op roomy env verifying)
      confined
  | invalid => exact confined

/-- A chunk keeps the bounds, whether it fails or not. -/
theorem Chunk.leavesConfined_execute (chunk : Chunk)
    (limited : env.policy.maxElementSize.toNat ≤ size) (confined : machine.IsConfined size height) :
    LeavesConfined size height (chunk.execute env machine) := by
  unfold Chunk.execute
  dsimp only
  split
  · exact confined
  · rename_i admitted
    split
    · exact confined
    · split
      · split
        · unfold Chunk.pushData
          split
          · exact confined
          · exact Confined.onMainThenNext
              (fun _ _ => (push_confined (by omega)).last (by decide)) confined
        · exact confined.mono (by omega)
      · split
        · exact confined.mono (by omega)
        · refine Instruction.leavesConfined_run roomy counted few limited (fun n constant => ?_)
            confined chunk.opcode machine.isExecuting
          have pushed : n ∈ (Instruction.ofOpcode chunk.opcode).constant? := by
            rw [constant]
            rfl
          exact Nat.le_trans (length_encode_constant_le _ n pushed)
            (Nat.le_trans (by decide) roomy)

end Chunks

namespace Spend

/-- The number of chunks of both scripts. -/
def chunkCount (spend : Spend) : Nat := spend.unlocking.length + spend.locking.length

/-- The most items that can stand on the stacks by now: three for every chunk that does not lie
ahead. -/
def heightBound (spend : Spend) : Int := 3 * (spend.chunkCount - spend.chunksAhead : Int)

/-- The stacks hold no more items than they can by now, and none that is too long. -/
def IsConfined (size : Nat) (spend : Spend) : Prop :=
  spend.machine.IsConfined size spend.heightBound

variable {verify : Ecdsa.Verifier} {spend next : Spend} {size : Nat}

theorem chunkCount_of_reset (same : next.reset = spend.reset) :
    next.chunkCount = spend.chunkCount :=
  eq_of_reset chunkCount (fun _ => rfl) same

theorem heightBound_entered : spend.entered.heightBound = spend.heightBound := by
  rw [heightBound, heightBound, chunksAhead_entered, chunkCount_of_reset entered_reset]

@[simp] theorem machine_advance (flow : Flow) : (spend.advance flow).machine = spend.machine := by
  cases flow <;> rfl

/-- A chunk that does not lie ahead any more makes room for three items. -/
theorem heightBound_advance {chunk : Chunk} (found : spend.chunk? = some chunk) (flow : Flow)
    (machine : Machine) (steps : Nat) :
    spend.heightBound + 3 ≤ heightBound ({ spend with machine, steps }.advance flow) := by
  have behind := chunksAhead_advance_lt found flow machine steps
  have same : chunkCount ({ spend with machine, steps }.advance flow) = spend.chunkCount :=
    chunkCount_of_reset (advance_reset flow)
  rw [heightBound, heightBound, same]
  omega

/-- The stacks are empty before the first step. -/
theorem isConfined_reset (size : Nat) (spend : Spend) : spend.reset.IsConfined size := by
  refine ⟨nofun, nofun, ?_⟩
  have ahead : spend.reset.chunksAhead = spend.reset.chunkCount := rfl
  rw [heightBound, ahead]
  exact Int.le_of_eq (by simp [reset])

section Steps

variable (roomy : 32 ≤ size) (counted : size < 2 ^ 64)
include roomy counted

/-- A step keeps the bounds, whether it fails or not. -/
theorem IsConfined.afterStep (limited : spend.policy.maxElementSize.toNat ≤ size)
    (addressable : spend.chunkCount < 2 ^ 64) (confined : spend.IsConfined size) :
    (spend.afterStep verify).IsConfined size := by
  have started : spend.entered.machine.IsConfined size spend.entered.heightBound := by
    rw [entered_machine, heightBound_entered]
    exact confined
  have few : spend.entered.heightBound < 256 ^ 31 := by
    rw [heightBound_entered, heightBound]
    omega
  have limitedHere : (spend.entered.environment verify).policy.maxElementSize.toNat ≤ size := by
    rw [show (spend.entered.environment verify).policy = spend.policy from policy_entered]
    exact limited
  cases stepped : step verify spend with
  | error e failed =>
    rw [afterStep_of_error stepped]
    obtain ⟨chunk, -, ⟨bound, -, rfl, -⟩ | ⟨machine, executed, rfl⟩⟩ := step_eq_error stepped
    · exact started
    · have left := chunk.leavesConfined_execute roomy counted few limitedHere started
      rw [executed] at left
      exact left
  | ok _ next =>
    rw [afterStep_of_ok stepped]
    rcases step_eq_ok stepped with
      ⟨-, rfl⟩ | ⟨chunk, flow, machine, found, -, executed, rfl⟩
    · exact started
    · have left := chunk.leavesConfined_execute roomy counted few limitedHere started
      rw [executed] at left
      rw [IsConfined, machine_advance]
      exact left.mono (heightBound_advance found flow machine _)

theorem IsConfined.iterate (limited : spend.policy.maxElementSize.toNat ≤ size)
    (addressable : spend.chunkCount < 2 ^ 64) (confined : spend.IsConfined size) (count : Nat) :
    ((Spend.afterStep verify)^[count] spend).IsConfined size := by
  induction count with
  | zero => exact confined
  | succ count ih =>
    rw [Function.iterate_succ_apply']
    have same := @reset_iterate verify spend count
    exact ih.afterStep roomy counted (policy_of_reset same ▸ limited)
      (chunkCount_of_reset same ▸ addressable)

/-- So does every action: a reset takes all items away, and the others only take steps. -/
theorem IsConfined.perform (limited : spend.policy.maxElementSize.toNat ≤ size)
    (addressable : spend.chunkCount < 2 ^ 64) (confined : spend.IsConfined size)
    (action : Action) : (perform verify spend action).spend.IsConfined size := by
  by_cases resets : action = .reset
  · rw [resets]
    exact isConfined_reset size spend
  · obtain ⟨count, taken⟩ := exists_iterate_of_perform verify spend resets
    rw [taken]
    exact confined.iterate roomy counted limited addressable count

theorem IsConfined.after (limited : spend.policy.maxElementSize.toNat ≤ size)
    (addressable : spend.chunkCount < 2 ^ 64) (confined : spend.IsConfined size)
    (actions : List Action) : (spend.after verify actions).IsConfined size := by
  induction actions generalizing spend with
  | nil => exact confined
  | cons action actions ih =>
    have same := @reset_perform verify spend action
    exact ih (policy_of_reset same ▸ limited) (chunkCount_of_reset same ▸ addressable)
      (confined.perform roomy counted limited addressable action)

end Steps

/-- However a fresh spend is driven, no item on its stacks is longer than the limit on elements and
the longest digest. The scripts must be short enough for their chunks to be counted in a word, as
they are in any memory. -/
theorem length_le_of_mem_after (verify : Ecdsa.Verifier) (context : InputContext)
    (unlocking locking : Script) (policy : Policy)
    (addressable : unlocking.length + locking.length < 2 ^ 64) (actions : List Action) :
    let reached := (fresh context unlocking locking policy).after verify actions
    ∀ item ∈ reached.machine.stack ++ reached.machine.alt,
      item.length ≤ max policy.maxElementSize.toNat 32 := by
  intro reached item present
  have counted : max policy.maxElementSize.toNat 32 < 2 ^ 64 := by
    have word := policy.maxElementSize.toNat_lt
    omega
  have started : (fresh context unlocking locking policy).IsConfined
      (max policy.maxElementSize.toNat 32) :=
    isConfined_reset _ (fresh context unlocking locking policy)
  have few : (fresh context unlocking locking policy).chunkCount < 2 ^ 64 := addressable
  have confined : reached.IsConfined (max policy.maxElementSize.toNat 32) :=
    started.after (Nat.le_max_right _ _) counted (Nat.le_max_left _ _) few actions
  rcases List.mem_append.mp present with onMain | onAlt
  · exact confined.stack item onMain
  · exact confined.alt item onAlt

/-- Under a limit of one byte a digest is made again and again, of an item and of digests. -/
theorem length_le_of_mem_after_hash256 :
    [Chunk.ofOpcode 0x51].length + [Chunk.ofOpcode 0xaa, .ofOpcode 0xaa].length < 2 ^ 64 ∧
      let policy : Policy := { maxElementSize := 1 }
      let reached := (fresh .bare [.ofOpcode 0x51] [.ofOpcode 0xaa, .ofOpcode 0xaa] policy).after
        Ecdsa.verify [.step, .reset, .validate, .step]
      (reached.machine.stack ++ reached.machine.alt).map List.length = [32] ∧
        ∀ item ∈ reached.machine.stack ++ reached.machine.alt,
          item.length ≤ max policy.maxElementSize.toNat 32 :=
  ⟨by decide, by decide +kernel, length_le_of_mem_after Ecdsa.verify .bare [.ofOpcode 0x51]
    [.ofOpcode 0xaa, .ofOpcode 0xaa] { maxElementSize := 1 } (by decide)
    [.step, .reset, .validate, .step]⟩

end Spend

end ScriptSpend
