import ScriptSpend.Failure

/-!
# Stacks and the actions on them

A stack is a list of byte strings with its top first, and depths are counted from the top, starting
at zero. An action on a stack ends with a value or with a failure, and in both cases leaves a stack:
what an operation has changed before it fails stays changed. An access below the bottom is a fault.

## Main definitions

* `StackAction`: actions on a stack
* `Machine`: the main stack, the alternative stack and the open conditionals
* `MachineAction`: actions on all three
-/

namespace ScriptSpend

/-- A stack with its top first. -/
abbrev Stack := List Bytes

/-- An action on a stack, which leaves a stack whether it fails or not. -/
abbrev StackAction := EStateM Failure Stack

namespace StackAction

/-- Fails unless the stack holds enough items for an opcode. -/
def require (op : Opcode) (needed : Nat) : StackAction Unit := fun stack =>
  if stack.length < needed then .error (.stackUnderflow op needed) stack else .ok () stack

/-- The number of items. -/
def size : StackAction Nat := fun stack => .ok stack.length stack

/-- The item at a depth. -/
def item (depth : Nat) : StackAction Bytes := fun stack =>
  match stack[depth]? with
  | some bytes => .ok bytes stack
  | none => .error .fault stack

/-- Puts an item on top. -/
def push (bytes : Bytes) : StackAction Unit := fun stack => .ok () (bytes :: stack)

/-- Takes the top item. -/
def pop : StackAction Bytes := fun stack =>
  match stack with
  | [] => .error .fault stack
  | bytes :: rest => .ok bytes rest

/-- Removes the top item. -/
def drop : StackAction Unit := do
  let _ ← pop

/-- Takes the item at a depth. -/
def removeAt (depth : Nat) : StackAction Bytes := fun stack =>
  match stack[depth]? with
  | some bytes => .ok bytes (stack.eraseIdx depth)
  | none => .error .fault stack

/-- Puts an item where it has the given depth. -/
def insertAt (depth : Nat) (bytes : Bytes) : StackAction Unit := fun stack =>
  if depth ≤ stack.length then .ok () (stack.insertIdx depth bytes) else .error .fault stack

/-- Exchanges the items at two depths. -/
def swapAt (i j : Nat) : StackAction Unit := fun stack =>
  match stack[i]?, stack[j]? with
  | some x, some y => .ok () ((stack.set i y).set j x)
  | _, _ => .error .fault stack

/-- Puts an item in the place of the top one. -/
def replaceTop (bytes : Bytes) : StackAction Unit := fun stack =>
  match stack with
  | [] => .error .fault stack
  | _ :: rest => .ok () (bytes :: rest)

/-- The value of a computation that does not touch the stack. -/
def check {α : Type} (result : Except Failure α) : StackAction α := fun stack =>
  match result with
  | .ok value => .ok value stack
  | .error cause => .error cause stack

/-- The number at a depth, in at most four bytes and, if asked, in the fewest. -/
def number (minimal : Bool) (depth : Nat) : StackAction Int := do
  let bytes ← item depth
  match ScriptNumber.parse ScriptNumber.operandLimit minimal bytes with
  | .ok n => pure n
  | .error cause => throw (.badNumber cause)

/-- Puts a truth value on top. -/
def pushBool (b : Bool) : StackAction Unit := push (ScriptNumber.ofBool b)

/-- Puts the minimal encoding of a number on top. A number outside the signed words of 64 bits is a
fault. -/
def pushNumber (n : Int) : StackAction Unit :=
  if Int64.minValue.toInt ≤ n ∧ n ≤ Int64.maxValue.toInt then push (ScriptNumber.encode n)
  else throw .fault

/-- Takes the top item if it is true, and fails for the given cause otherwise. -/
def verifyTop (cause : Failure) : StackAction Unit := fun stack =>
  match stack with
  | [] => .error cause stack
  | top :: rest => if ScriptNumber.isTrue top then .ok () rest else .error cause stack

end StackAction

/-- The stacks that evaluation works on. `branches` tells of each open conditional whether its
current branch is taken, the innermost first. -/
structure Machine where
  stack : Stack := []
  alt : Stack := []
  branches : List Bool := []
  deriving DecidableEq

/-- Whether every open conditional takes its current branch. -/
def Machine.isExecuting (machine : Machine) : Bool := machine.branches.all id

/-- An action on all stacks. -/
abbrev MachineAction := EStateM Failure Machine

/-- An action on the main stack. -/
def StackAction.onMain {α : Type} (action : StackAction α) : MachineAction α := fun machine =>
  match action machine.stack with
  | .ok value stack => .ok value { machine with stack }
  | .error cause stack => .error cause { machine with stack }

end ScriptSpend
