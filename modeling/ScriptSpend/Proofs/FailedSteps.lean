import ScriptSpend.Proofs.FaultlessOperations
import ScriptSpend.Proofs.RunningSpends

/-!
# What a failed step changes

A step that fails stays at its chunk. Of all that it might have changed before it failed, the
position, the last separator, the alternative stack and the open conditionals are as they were, and
one more step is counted unless there was none left. Only nine opcodes can fail with another main
stack than they found, and they do not touch the items below their own operands.

## Main definitions

* `Opcode.disturbing`: the opcodes that may leave another main stack when they fail
* `Instruction.operandCount`: the number of items that an instruction has as its operands
* `Spend.KeptByFailure`: what a failed step keeps of a spend

## Main results

* `Instruction.disturbed_of_failed`, `Chunk.disturbed_of_failed`: how the machine may differ after a
  failure
* `Opcode.failsInPlace_iff`: the nine opcodes are exactly those that do not always fail in place
* `Spend.keptByFailure_of_step`: what a step that fails leaves of the spend
-/

namespace ScriptSpend

open StackAction Operation

/-- The opcodes that may leave another main stack when they fail: picking and rolling, the two
conversions between items and numbers, the verifying variants of the two comparisons and of the
check of one signature, and both checks of several signatures. -/
def Opcode.disturbing : List Opcode := [0x79, 0x7a, 0x80, 0x81, 0x88, 0x9d, 0xad, 0xae, 0xaf]

/-- Whether an instruction may leave another main stack when it fails. -/
def Instruction.mayDisturb : Instruction → Bool
  | .pick | .roll | .numberToBytes | .bytesToNumber | .equal true | .binary _ true
  | .checkSig true | .checkMultiSig _ => true
  | _ => false

/-- The number of items that an instruction has as its operands on a main stack. A check of several
signatures has the number of keys on top, the keys, the number of signatures, the signatures and one
item that is not used. -/
def Instruction.operandCount (stack : Stack) : Instruction → Nat
  | .constant _ | .nop | .otherwise | .endBranch | .endSegment | .fromAlt | .codeSeparator
  | .invalid => 0
  | .branch _ | .verify | .toAlt | .pick | .roll | .bytesToNumber | .invert | .unary _
  | .digest _ => 1
  | .cat | .split | .numberToBytes | .bitwise _ | .shift _ | .equal _ | .binary _ _
  | .checkSig _ => 2
  | .within => 3
  | .shuffle which => which.needed
  | .checkMultiSig _ =>
    let keyCount := (ScriptNumber.decode (stack.getD 0 [])).toNat
    let signatureCount := (ScriptNumber.decode (stack.getD (keyCount + 1) [])).toNat
    keyCount + signatureCount + 3

theorem Opcode.mem_disturbing_iff : ∀ op : Opcode,
    op ∈ disturbing ↔ (Instruction.ofOpcode op).mayDisturb = true :=
  ScriptNumber.forall_byte (by decide +kernel)

/-- Below the operands of a check of several signatures lies the rest of its layout. -/
theorem MultiSigLayout.drop_operandCount {policy : Policy} {operands : MultiSigOperands}
    {dummy : Bytes} {rest stack : Stack} (layout : MultiSigLayout policy operands dummy rest stack)
    (verify : Bool) :
    stack.drop ((Instruction.checkMultiSig verify).operandCount stack) = rest := by
  obtain ⟨keyCount, signatureCount, keysCounted, signaturesCounted, -, -⟩ := layout
  let front := keyCount :: (operands.keys ++ signatureCount :: (operands.signatures ++ [dummy]))
  have shape : keyCount :: (operands.keys ++ signatureCount ::
      (operands.signatures ++ dummy :: rest)) = front ++ rest := by simp [front]
  have counted :
      (Instruction.checkMultiSig verify).operandCount (front ++ rest) = front.length := by
    simp [front, Instruction.operandCount, ScriptNumber.decode_of_parse keysCounted,
      ScriptNumber.decode_of_parse signaturesCounted]
    omega
  rw [shape, counted, List.drop_left]

section Instructions

variable (env : Environment) {op : Opcode} {executing : Bool} {machine left : Machine}
  {cause : Failure}

/-- An instruction that fails leaves the machine as it is, or is one of those that may disturb the
main stack, and then it has not touched what lies below its operands. -/
theorem Instruction.disturbed_of_failed {instruction : Instruction}
    (failed : instruction.run env op executing machine = .error cause left) :
    left = machine ∨ instruction.mayDisturb = true ∧ ∃ stack, left = { machine with stack } ∧
      machine.stack.drop (instruction.operandCount machine.stack) <:+ stack := by
  have onMain {action : StackAction Unit} {count : Nat} {disturbs : Prop}
      (moved : ∀ {stack}, action machine.stack = .error cause stack →
        stack = machine.stack ∨ disturbs ∧ machine.stack.drop count <:+ stack)
      (failed : onMainThenNext action machine = .error cause left) :
      left = machine ∨ disturbs ∧ ∃ stack, left = { machine with stack } ∧
        machine.stack.drop count <:+ stack := by
    obtain ⟨stack, failedOnMain, rfl⟩ := onMainThenNext_eq_error_iff.mp failed
    rcases moved failedOnMain with same | ⟨may, below⟩
    · exact .inl (by rw [same])
    · exact .inr ⟨may, stack, rfl, below⟩
  have still {action : StackAction Unit} (inPlace : FailsInPlace action)
      (failed : onMainThenNext action machine = .error cause left) : left = machine :=
    inPlace.onMainThenNext failed
  -- What is left of two operands is a single item.
  have pair {a b : Bytes} {rest : Stack} (result : Bytes) :
      (a :: b :: rest).drop 2 <:+ result :: rest := List.suffix_cons result rest
  cases instruction with
  | nop | endSegment | codeSeparator | constant n => cases failed
  | invalid =>
    cases failed
    exact .inl rfl
  | branch negated => exact .inl (branch_eq_error (thenNext_eq_error_iff.mp failed)).1
  | otherwise => exact .inl (otherwise_eq_error (thenNext_eq_error_iff.mp failed)).1
  | endBranch => exact .inl (endBranch_eq_error (thenNext_eq_error_iff.mp failed)).1
  | toAlt => exact .inl (toAlt_eq_error (thenNext_eq_error_iff.mp failed)).1
  | fromAlt => exact .inl (fromAlt_eq_error (thenNext_eq_error_iff.mp failed)).1
  | verify => exact .inl (still (verify_failsInPlace op) failed)
  | shuffle which => exact .inl (still (which.failsInPlace op) failed)
  | cat => exact .inl (still (cat_failsInPlace op _) failed)
  | split => exact .inl (still (split_failsInPlace op _) failed)
  | invert => exact .inl (still (invert_failsInPlace op) failed)
  | bitwise which => exact .inl (still (bitwise_failsInPlace op which) failed)
  | shift direction => exact .inl (still (shift_failsInPlace op _ direction) failed)
  | unary which => exact .inl (still (unary_failsInPlace op _ which) failed)
  | within => exact .inl (still (within_failsInPlace op _) failed)
  | digest which => exact .inl (still (digest_failsInPlace op which) failed)
  | pick =>
    refine onMain (fun failed => (pick_eq_error op _ failed).imp_right ?_) failed
    rintro ⟨-, depth, shape⟩
    exact ⟨rfl, by rw [shape]; exact List.suffix_rfl⟩
  | roll =>
    refine onMain (fun failed => (roll_eq_error op _ failed).imp_right ?_) failed
    rintro ⟨-, depth, shape⟩
    exact ⟨rfl, by rw [shape]; exact List.suffix_rfl⟩
  | numberToBytes =>
    refine onMain (fun failed => (numberToBytes_eq_error op _ failed).imp_right ?_) failed
    rintro ⟨-, width, shape⟩
    exact ⟨rfl, by rw [shape]; exact List.drop_suffix 1 _⟩
  | bytesToNumber =>
    refine onMain (fun failed => (bytesToNumber_eq_error op failed).imp_right ?_) failed
    rintro ⟨bytes, rest, shape, rfl, -⟩
    exact ⟨rfl, by rw [shape]; exact List.suffix_cons _ _⟩
  | equal verify =>
    refine onMain (fun failed => (equal_eq_error op failed).imp_right ?_) failed
    rintro ⟨rfl, -, a, b, rest, result, shape, rfl⟩
    exact ⟨rfl, by rw [shape]; exact pair result⟩
  | binary which verify =>
    refine onMain (fun failed => (binary_eq_error op _ failed).imp_right ?_) failed
    rintro ⟨rfl, -, a, b, rest, result, shape, rfl⟩
    exact ⟨rfl, by rw [shape]; exact pair result⟩
  | checkSig verify =>
    refine onMain (fun failed => (checkSig_eq_error op failed).imp_right ?_) failed
    rintro ⟨rfl, key, signature, rest, shape, rfl⟩
    exact ⟨rfl, by rw [shape]; exact pair _⟩
  | checkMultiSig verify =>
    refine onMain (fun failed => (checkMultiSig_eq_error op failed).imp_right ?_) failed
    rintro ⟨operands, dummy, rest, layout, -, -, below⟩
    exact ⟨rfl, by rw [layout.drop_operandCount verify]; exact below⟩

/-- A chunk that fails leaves the machine as it is, or has one of the nine opcodes, and then it has
not touched what lies below its operands. -/
theorem Chunk.disturbed_of_failed {chunk : Chunk}
    (failed : chunk.execute env machine = .error cause left) :
    left = machine ∨ chunk.opcode ∈ Opcode.disturbing ∧ ∃ stack, left = { machine with stack } ∧
      machine.stack.drop ((Instruction.ofOpcode chunk.opcode).operandCount machine.stack) <:+
        stack := by
  rcases Chunk.run_of_execute_eq_error env failed with still | runs
  · exact .inl still
  · rw [runs machine rfl] at failed
    rw [Opcode.mem_disturbing_iff]
    exact Instruction.disturbed_of_failed env failed

end Instructions

section Exactness

/-- Whether a chunk fails on a main stack and leaves another one. -/
def Chunk.disturbs (env : Environment) (chunk : Chunk) (stack : Stack) : Bool :=
  match chunk.execute env { stack } with
  | .ok _ _ => false
  | .error _ left => left.stack != stack

theorem Chunk.not_failsInPlace_of_disturbs {env : Environment} {chunk : Chunk} {stack : Stack}
    (disturbs : chunk.disturbs env stack = true) : ¬ FailsInPlace (chunk.execute env) := by
  intro inPlace
  unfold Chunk.disturbs at disturbs
  split at disturbs
  · cases disturbs
  · rename_i failed
    rw [inPlace failed] at disturbs
    simp at disturbs

/-- Operands that the nine opcodes refuse only after they have changed the stack: a depth or a width
that does not fit, a number that is too long, an empty signature, and an item to be dropped that is
not empty. -/
def Opcode.disturbedStacks : List Stack :=
  [[[1], [1]], [[], [1]], [[1, 1, 1, 1, 1, 0]], [2 :: List.replicate 32 0, []], [[], [], [1]]]

/-- The chunks of an opcode all fail in place, whatever they carry and are executed against, if and
only if the opcode is not one of the nine. -/
theorem Opcode.failsInPlace_iff (op : Opcode) :
    (∀ (env : Environment) (chunk : Chunk), chunk.opcode = op →
      FailsInPlace (chunk.execute env)) ↔ op ∉ disturbing := by
  constructor
  · intro inPlace listed
    let env : Environment := ⟨{}, fun _ _ _ => false, [], none⟩
    have refuses : ∀ op ∈ disturbing, ∃ stack ∈ disturbedStacks,
        (Chunk.ofOpcode op).disturbs env stack = true := by decide +kernel
    obtain ⟨stack, -, disturbs⟩ := refuses op listed
    exact Chunk.not_failsInPlace_of_disturbs disturbs (inPlace env _ rfl)
  · rintro other env chunk rfl machine cause left failed
    exact (Chunk.disturbed_of_failed env failed).resolve_right fun disturbed => other disturbed.1

end Exactness

namespace Spend

/-- What a failed step at a chunk keeps of the spend that has entered the present script. -/
structure KeptByFailure (chunk : Chunk) (spend failed : Spend) (cause : Failure) : Prop where
  reset : failed.reset = spend.reset
  segment : failed.segment = spend.segment
  position : failed.position = spend.position
  lastSeparator : failed.lastSeparator = spend.lastSeparator
  alt : failed.machine.alt = spend.machine.alt
  branches : failed.machine.branches = spend.machine.branches
  /-- The step is counted, unless it was one too many. -/
  steps : failed.steps =
    if cause.kind = .resourceExhausted then spend.steps else spend.steps + 1
  /-- Only nine opcodes may leave another main stack, -/
  stack : chunk.opcode ∉ Opcode.disturbing → failed.machine.stack = spend.machine.stack
  /-- and they keep all that lies below their operands. -/
  below : spend.machine.stack.drop
    ((Instruction.ofOpcode chunk.opcode).operandCount spend.machine.stack) <:+ failed.machine.stack

variable {verify : Ecdsa.Verifier} {spend failed : Spend} {e : SpendError}

/-- A step that fails does so at a chunk of the script that it has entered, and of the spend that
entered it nothing changes but the number of steps and, for nine opcodes, the operands on the main
stack. -/
theorem keptByFailure_of_step (stepped : step verify spend = .error e failed) :
    ∃ chunk, spend.entered.chunk? = some chunk ∧
      KeptByFailure chunk spend.entered failed e.cause := by
  obtain ⟨chunk, found, outcome⟩ := step_eq_error stepped
  refine ⟨chunk, found, ?_⟩
  rcases outcome with ⟨bound, -, rfl, cause⟩ | ⟨machine, executed, rfl⟩
  · exact
      { reset := rfl
        segment := rfl
        position := rfl
        lastSeparator := rfl
        alt := rfl
        branches := rfl
        steps := by rw [cause]; rfl
        stack := fun _ => rfl
        below := List.drop_suffix _ _ }
  · have ofChunk := Failure.kind_ne_of_isOfChunk ((chunk.execute_neverFaults _).isOfChunk executed)
    have disturbed := Chunk.disturbed_of_failed _ executed
    exact
      { reset := rfl
        segment := rfl
        position := rfl
        lastSeparator := rfl
        alt := by
          rcases disturbed with rfl | ⟨-, stack, rfl, -⟩
          · rfl
          · rfl
        branches := by
          rcases disturbed with rfl | ⟨-, stack, rfl, -⟩
          · rfl
          · rfl
        steps := by rw [if_neg ofChunk]
        stack := fun other => by
          rw [disturbed.resolve_right fun moved => other moved.1]
        below := by
          rcases disturbed with rfl | ⟨-, stack, rfl, below⟩
          · exact List.drop_suffix _ _
          · exact below }

/-- At the end of an unlocking script, in front of a check of one signature under one key that is no
point of the curve. One item lies below the operands. -/
def atRejection : Spend :=
  { standard .bare [] [.ofOpcode 0xae] with
    machine :=
      { stack :=
          [[1], 2 :: List.replicate 32 0xff, [1], [0x30, 6, 2, 1, 1, 2, 1, 1, 0x41], [], [7]] } }

/-- The check has removed the counts and the key before it rejects the signature, and leaves the
item below as it was. -/
theorem keptByFailure_atRejection :
    let failed : Spend :=
      { atRejection with
        segment := .locking, steps := 1,
        machine := { stack := [[0x30, 6, 2, 1, 1, 2, 1, 1, 0x41], [], [7]] } }
    step Ecdsa.verify atRejection = .error (failed.failure (.rejectedSignature 0xae)) failed ∧
      ∃ chunk, atRejection.entered.chunk? = some chunk ∧
        KeptByFailure chunk atRejection.entered failed (.rejectedSignature 0xae) := by
  intro failed
  have stepped : step Ecdsa.verify atRejection =
      .error (failed.failure (.rejectedSignature 0xae)) failed := by rfl
  exact ⟨stepped, keptByFailure_of_step stepped⟩

end Spend

end ScriptSpend
