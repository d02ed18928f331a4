import ScriptSpend.Instruction
import ScriptSpend.Machine

/-!
# Items as strings of bits

The bits of items are combined place by place, and shifts take an item as a number of fixed width
whose most significant byte comes first.
-/

namespace ScriptSpend

open StackAction

/-- The combination of two bytes. -/
def BitwiseOp.apply : BitwiseOp → UInt8 → UInt8 → UInt8
  | .and, a, b => a &&& b
  | .or, a, b => a ||| b
  | .xor, a, b => a ^^^ b

/-- An item shifted by a number of bits, its width kept. -/
def ShiftDirection.apply (direction : ShiftDirection) (bits : Nat) (bytes : Bytes) : Bytes :=
  if bytes.length * 8 ≤ bits then List.replicate bytes.length 0
  else
    let n := Bytes.toNatBE bytes
    Bytes.ofNatBE bytes.length (match direction with
      | .left => n <<< bits
      | .right => n >>> bits)

theorem ShiftDirection.length_apply (direction : ShiftDirection) (bits : Nat) (bytes : Bytes) :
    (direction.apply bits bytes).length = bytes.length := by
  unfold ShiftDirection.apply
  split
  · exact List.length_replicate
  · exact Bytes.length_ofNatBE _ _

namespace Operation

/-- Flips every bit of the top item. -/
def invert (op : Opcode) : StackAction Unit := do
  require op 1
  let bytes ← item 0
  replaceTop (bytes.map (~~~ ·))

/-- Combines the two top items, which must have one length. -/
def bitwise (op : Opcode) (which : BitwiseOp) : StackAction Unit := do
  require op 2
  let right ← item 0
  let left ← item 1
  if right.length = left.length then
    StackAction.drop
    replaceTop (List.zipWith which.apply left right)
  else throw (.lengthsDiffer op)

/-- Shifts an item by a number of bits that stands on the stack. For an empty item the number is
dropped unread. -/
def shift (op : Opcode) (minimal : Bool) (direction : ShiftDirection) : StackAction Unit := do
  require op 2
  let bytes ← item 1
  -- The number need not even be well formed here.
  if bytes.isEmpty then StackAction.drop
  else
    let n ← number minimal 0
    if n < 0 then throw (.negativeShift op)
    else
      StackAction.drop
      StackAction.drop
      push (direction.apply n.toNat bytes)

/-- Compares the two top items byte by byte. -/
def equal (op : Opcode) (verify : Bool) : StackAction Unit := do
  require op 2
  let a ← pop
  let b ← pop
  pushBool (a == b)
  if verify then verifyTop .notEqual else pure ()

end Operation

end ScriptSpend
