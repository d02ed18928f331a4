import ScriptSpend.Instruction
import ScriptSpend.Machine

/-!
# Arithmetic

Operands are script numbers of at most four bytes, results are exact. Division cuts off towards
zero, and the remainder has the sign of the dividend.
-/

namespace ScriptSpend

open StackAction

/-- The result for one operand. -/
def UnaryOp.apply : UnaryOp → Int → Int
  | .increment, n => n + 1
  | .decrement, n => n - 1
  | .negate, n => -n
  | .abs, n => n.natAbs
  | .not, n => (n == 0).toInt
  | .nonzero, n => (n != 0).toInt

/-- The result for two operands; a quotient or remainder by zero has none. -/
def BinaryOp.apply? : BinaryOp → Int → Int → Option Int
  | .add, a, b => some (a + b)
  | .sub, a, b => some (a - b)
  | .mul, a, b => some (a * b)
  | .div, a, b => if b = 0 then none else some (a.tdiv b)
  | .mod, a, b => if b = 0 then none else some (a.tmod b)
  | .boolAnd, a, b => some (a != 0 && b != 0).toInt
  | .boolOr, a, b => some (a != 0 || b != 0).toInt
  | .equal, a, b => some (a == b).toInt
  | .notEqual, a, b => some (a != b).toInt
  | .less, a, b => some (decide (a < b)).toInt
  | .greater, a, b => some (decide (a > b)).toInt
  | .lessOrEqual, a, b => some (decide (a ≤ b)).toInt
  | .greaterOrEqual, a, b => some (decide (a ≥ b)).toInt
  | .minimum, a, b => some (min a b)
  | .maximum, a, b => some (max a b)

namespace Operation

/-- Replaces a number by the result of an operation on it. -/
def unary (op : Opcode) (minimal : Bool) (which : UnaryOp) : StackAction Unit := do
  require op 1
  let n ← number minimal 0
  StackAction.drop
  pushNumber (which.apply n)

/-- Replaces two numbers by the result of an operation on them. The deeper one is the first operand.
-/
def binary (op : Opcode) (minimal : Bool) (which : BinaryOp) (verify : Bool) :
    StackAction Unit := do
  require op 2
  let a ← number minimal 1
  let b ← number minimal 0
  match which.apply? a b with
  -- The operands stay where they are.
  | none => throw (.divisionByZero op)
  | some result =>
    StackAction.drop
    StackAction.drop
    pushNumber result
    if verify then verifyTop .notNumericallyEqual else pure ()

/-- Tests whether a number lies between a lower bound and, strictly, an upper one, which stands on
top. -/
def within (op : Opcode) (minimal : Bool) : StackAction Unit := do
  require op 3
  let n ← number minimal 2
  let lower ← number minimal 1
  let upper ← number minimal 0
  StackAction.drop
  StackAction.drop
  StackAction.drop
  pushBool (lower ≤ n && n < upper)

end Operation

end ScriptSpend
