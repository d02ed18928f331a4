import ScriptSpend.Instruction
import ScriptSpend.Machine

/-!
# Moving stack items

Most of these operations address items at fixed depths. Picking and rolling take the depth from the
stack: the former copies the item at that depth and the latter moves it to the top.
-/

namespace ScriptSpend

open StackAction

/-- The operation of a fixed arrangement, for an opcode that names it in failures. -/
def Shuffle.run (op : Opcode) : Shuffle → StackAction Unit
  | .depth => do
    let n ← StackAction.size
    push (ScriptNumber.encode n)
  | .drop => do
    require op 1
    StackAction.drop
  | .drop2 => do
    require op 2
    StackAction.drop
    StackAction.drop
  | .dup => do
    require op 1
    let x ← item 0
    push x
  | .dup2 => do
    require op 2
    let x ← item 1
    let y ← item 0
    push x
    push y
  | .dup3 => do
    require op 3
    let x ← item 2
    let y ← item 1
    let z ← item 0
    push x
    push y
    push z
  | .ifDup => do
    require op 1
    let x ← item 0
    if ScriptNumber.isTrue x then push x else pure ()
  | .nip => do
    require op 2
    let _ ← removeAt 1
  | .over => do
    require op 2
    let x ← item 1
    push x
  | .over2 => do
    require op 4
    let x ← item 3
    let y ← item 2
    push x
    push y
  | .rot => do
    require op 3
    swapAt 2 1
    swapAt 1 0
  | .rot2 => do
    require op 6
    let x ← removeAt 5
    let y ← removeAt 4
    push x
    push y
  | .swap => do
    require op 2
    swapAt 1 0
  | .swap2 => do
    require op 4
    swapAt 3 1
    swapAt 2 0
  | .tuck => do
    require op 2
    let x ← item 0
    insertAt 2 x
  | .size => do
    require op 1
    let x ← item 0
    push (ScriptNumber.encode x.length)

namespace Operation

/-- Takes a depth from the stack and applies an action to it, if some item has that depth. -/
def atStackedDepth (op : Opcode) (minimal : Bool) (action : Nat → StackAction Bytes) :
    StackAction Unit := do
  require op 2
  let n ← number minimal 0
  StackAction.drop
  -- Depths are counted without the number itself.
  let count ← StackAction.size
  if n < 0 ∨ count ≤ n.toNat then throw (.depthOutOfRange op)
  else
    let x ← action n.toNat
    push x

/-- Copies the item at a depth that stands on the stack. -/
def pick (op : Opcode) (minimal : Bool) : StackAction Unit := atStackedDepth op minimal item

/-- Moves the item at a depth that stands on the stack to the top. -/
def roll (op : Opcode) (minimal : Bool) : StackAction Unit := atStackedDepth op minimal removeAt

end Operation

end ScriptSpend
