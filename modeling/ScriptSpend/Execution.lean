import ScriptSpend.Digest
import ScriptSpend.Operation.Arithmetic
import ScriptSpend.Operation.Bitwise
import ScriptSpend.Operation.Shuffle
import ScriptSpend.Operation.SignatureCheck
import ScriptSpend.Operation.Splice

/-!
# Execution of one chunk

A chunk that pushes data does so unless some open conditional is on a branch that is not taken.
Other chunks run their instruction; of them only the conditionals are visited on a branch that is
not taken. The limit on the size of elements holds for every payload, visited or not.

## Main definitions

* `Flow`: how the script goes on after an instruction
* `Instruction.run`: what an instruction does to the stacks
* `Chunk.execute`: what a chunk does to the stacks
-/

namespace ScriptSpend

/-- How the script goes on after an instruction: at the next chunk, at its end, or at the next chunk
with the present one recorded as the start of what signatures cover. -/
inductive Flow where
  | next
  | endSegment
  | separator
  deriving DecidableEq

/-- The digest function of an instruction. -/
def DigestOp.apply : DigestOp → Bytes → Bytes
  | .ripemd160 => Digest.ripemd160
  | .sha1 => Digest.sha1
  | .sha256 => Digest.sha256
  | .hash160 => Digest.hash160
  | .hash256 => Digest.hash256

namespace Operation

open StackAction

/-- Fails unless the top item is true, and takes it. -/
def verify (op : Opcode) : StackAction Unit := do
  require op 1
  verifyTop .notTruthy

/-- Replaces the top item by its digest. -/
def digest (op : Opcode) (which : DigestOp) : StackAction Unit := do
  require op 1
  let bytes ← pop
  push (which.apply bytes)

/-- Opens a conditional. Its first branch is taken if the top item is true, or false for the negated
form; on a branch that is not taken itself, no item is read and neither branch counts as chosen. -/
def branch (op : Opcode) (executing negated : Bool) : MachineAction Unit := fun machine =>
  if executing then
    match machine.stack with
    | [] => .error (.stackUnderflow op 1) machine
    | condition :: rest =>
      .ok () { machine with
        stack := rest, branches := (ScriptNumber.isTrue condition != negated) :: machine.branches }
  else .ok () { machine with branches := false :: machine.branches }

/-- Goes over to the other branch of the innermost conditional. -/
def otherwise : MachineAction Unit := fun machine =>
  match machine.branches with
  | [] => .error .elseWithoutIf machine
  | taken :: outer => .ok () { machine with branches := (!taken) :: outer }

/-- Closes the innermost conditional. -/
def endBranch : MachineAction Unit := fun machine =>
  match machine.branches with
  | [] => .error .endifWithoutIf machine
  | _ :: outer => .ok () { machine with branches := outer }

/-- Moves the top item to the alternative stack. -/
def toAlt (op : Opcode) : MachineAction Unit := fun machine =>
  match machine.stack with
  | [] => .error (.stackUnderflow op 1) machine
  | top :: rest => .ok () { machine with stack := rest, alt := top :: machine.alt }

/-- Moves the top item of the alternative stack back. -/
def fromAlt : MachineAction Unit := fun machine =>
  match machine.alt with
  | [] => .error .altStackUnderflow machine
  | top :: rest => .ok () { machine with stack := top :: machine.stack, alt := rest }

end Operation

/-- An action after which the script goes on at the next chunk. -/
def thenNext (action : MachineAction Unit) : MachineAction Flow := do
  action
  pure .next

/-- An action on the main stack after which the script goes on at the next chunk. -/
def onMainThenNext (action : StackAction Unit) : MachineAction Flow := thenNext action.onMain

/-- An instruction's action on the stacks, for the opcode that names it in failures. -/
def Instruction.run (env : Environment) (op : Opcode) (executing : Bool) :
    Instruction → MachineAction Flow
  | .constant n => onMainThenNext (StackAction.push (ScriptNumber.encode n))
  | .nop => pure .next
  | .branch negated => thenNext (Operation.branch op executing negated)
  | .otherwise => thenNext Operation.otherwise
  | .endBranch => thenNext Operation.endBranch
  | .verify => onMainThenNext (Operation.verify op)
  | .endSegment => pure .endSegment
  | .toAlt => thenNext (Operation.toAlt op)
  | .fromAlt => thenNext Operation.fromAlt
  | .shuffle which => onMainThenNext (which.run op)
  | .pick => onMainThenNext (Operation.pick op env.policy.requireMinimalPush)
  | .roll => onMainThenNext (Operation.roll op env.policy.requireMinimalPush)
  | .cat => onMainThenNext (Operation.cat op env.policy.maxElementSize)
  | .split => onMainThenNext (Operation.split op env.policy.requireMinimalPush)
  | .numberToBytes =>
    onMainThenNext
      (Operation.numberToBytes op env.policy.requireMinimalPush env.policy.maxElementSize)
  | .bytesToNumber => onMainThenNext (Operation.bytesToNumber op)
  | .invert => onMainThenNext (Operation.invert op)
  | .bitwise which => onMainThenNext (Operation.bitwise op which)
  | .shift direction => onMainThenNext (Operation.shift op env.policy.requireMinimalPush direction)
  | .equal verifying => onMainThenNext (Operation.equal op verifying)
  | .unary which => onMainThenNext (Operation.unary op env.policy.requireMinimalPush which)
  | .binary which verifying =>
    onMainThenNext (Operation.binary op env.policy.requireMinimalPush which verifying)
  | .within => onMainThenNext (Operation.within op env.policy.requireMinimalPush)
  | .digest which => onMainThenNext (Operation.digest op which)
  | .codeSeparator => pure .separator
  | .checkSig verifying => onMainThenNext (Operation.checkSig op env verifying)
  | .checkMultiSig verifying => onMainThenNext (Operation.checkMultiSig op env verifying)
  | .invalid => throw (.invalidOpcode op)

/-- Pushes the payload of a chunk, which must be the shortest push where the policy says so. -/
def Chunk.pushData (chunk : Chunk) (policy : Policy) : MachineAction Flow :=
  if policy.requireMinimalPush && !chunk.isMinimalPush then throw .pushNotMinimal
  else onMainThenNext (StackAction.push chunk.data)

/-- A chunk's action on the stacks. -/
def Chunk.execute (env : Environment) (chunk : Chunk) : MachineAction Flow := fun machine =>
  let op := chunk.opcode
  -- The limit holds on every branch, the ban on disabled opcodes only on one that is taken.
  if env.policy.maxElementSize.toNat < chunk.data.length then
    .error (.elementTooLong chunk.data.length env.policy.maxElementSize.toNat) machine
  else if machine.isExecuting && op.isDisabled then .error (.disabled op) machine
  else if op.isPush then
    -- A push on a branch that is not taken is skipped.
    if machine.isExecuting then chunk.pushData env.policy machine else .ok .next machine
  else if !machine.isExecuting && !op.isConditional then .ok .next machine
  else (Instruction.ofOpcode op).run env op machine.isExecuting machine

end ScriptSpend
