import ScriptSpend.Proofs.CheckedOperations
import ScriptSpend.Sighash

/-!
# Signed messages with explicit checks

To put a signed message together, the authorised input is inserted among the others at its position,
and one of the outputs may be picked at that position. The list may be too short for either. Here
both are written with a check, which never fails: the position is lowered to the end of the other
inputs, and compared with the number of the outputs.

## Main definitions

* `insertInto`, `elementAt`: accesses to a list by position, with their checks
* `Sighash.preimageChecked`, `sighashChecked`: the message and its digest with these checks

## Main results

* `Sighash.preimageChecked_eq`, `sighashChecked_eq`: the checks make no difference
-/

namespace ScriptSpend

section Lists

variable {α : Type} {list : List α} {position : Nat}

/-- A list with a value inserted at a position, which must not lie past its end. -/
def insertInto (position : Nat) (value : α) (list : List α) : Except Failure (List α) :=
  if position ≤ list.length then .ok (list.insertIdx position value) else .error .fault

/-- The value at a position of a list, which must not lie at its end or past it. -/
def elementAt (position : Nat) (list : List α) : Except Failure α :=
  match list[position]? with
  | none => .error .fault
  | some value => .ok value

theorem insertInto_of_le (value : α) (inside : position ≤ list.length) :
    insertInto position value list = .ok (list.insertIdx position value) := if_pos inside

theorem elementAt_of_lt (inside : position < list.length) :
    elementAt position list = .ok list[position] := by
  rw [elementAt, List.getElem?_eq_getElem inside]

end Lists

namespace Sighash

/-- All inputs, the authorised one inserted with a check. -/
def inputsChecked (context : InputContext) : Except Failure (List TxInput) :=
  insertInto (min context.index context.otherInputs.length) ⟨context.source, context.sequence⟩
    context.otherInputs

/-- The outputs that the scope covers, a single one picked with a check. -/
def outputBytesChecked (context : InputContext) (scope : Scope) : Except Failure (Option Bytes) :=
  if !limitsOutputs scope then .ok (some (context.outputs.flatMap TxOutput.toWire))
  else if scope.baseType = Scope.single ∧ context.index < context.outputs.length then do
    let output ← elementAt context.index context.outputs
    .ok (some output.toWire)
  else .ok none

/-- The message that a signature signs, put together with these checks. The inputs are listed under
every scope, also where they are left out. -/
def preimageChecked (hash : Bytes → Bytes) (context : InputContext) (subscript : Script)
    (scope : Scope) : Except Failure Bytes := do
  let inputs ← inputsChecked context
  let prevouts := if scope.anyoneCanPay then blank
    else hash (inputs.flatMap fun input => input.outpoint.toWire)
  let sequences := if scope.anyoneCanPay || limitsOutputs scope then blank
    else hash (inputs.flatMap fun input => Bytes.ofNatLE 4 input.sequence.toNat)
  let covered ← outputBytesChecked context scope
  .ok <| Bytes.ofNatLE 4 context.version.toUInt32.toNat
    ++ prevouts
    ++ sequences
    ++ context.source.toWire
    ++ withLength subscript.toWire
    ++ Bytes.ofNatLE 8 context.satoshis.toNat
    ++ Bytes.ofNatLE 4 context.sequence.toNat
    ++ (covered.map hash).getD blank
    ++ Bytes.ofNatLE 4 context.lockTime.toNat
    ++ Bytes.ofNatLE 4 scope.toNat

variable (context : InputContext) (subscript : Script) (scope : Scope)

theorem inputsChecked_eq : inputsChecked context = .ok context.inputs := by
  rw [inputsChecked, insertInto_of_le _ (Nat.min_le_right _ _), context.inputs_eq_insertIdx]

theorem outputBytesChecked_eq :
    outputBytesChecked context scope = .ok (outputBytes? context scope) := by
  unfold outputBytesChecked outputBytes?
  cases limitsOutputs scope with
  | false => rfl
  | true =>
    by_cases single : scope.baseType = Scope.single
    · -- The output is picked only if the list has one there.
      rcases Nat.lt_or_ge context.index context.outputs.length with inside | outside
      · simp [single, inside, elementAt_of_lt inside, bind, Except.bind]
      · simp [single, Nat.not_lt.mpr outside]
    · simp [single]

theorem preimageChecked_eq (hash : Bytes → Bytes) :
    preimageChecked hash context subscript scope = .ok (preimage hash context subscript scope) := by
  have digest : ((outputBytes? context scope).map hash).getD blank =
      outputDigest hash context scope := by
    unfold outputDigest
    cases outputBytes? context scope <;> rfl
  rw [preimageChecked, inputsChecked_eq, outputBytesChecked_eq, preimage, ← digest]
  rfl

end Sighash

/-- The digest that a signature signs, of the message put together with checks. -/
def sighashChecked (context : InputContext) (subscript : Script) (scope : Scope) :
    Except Failure Bytes := do
  let message ← Sighash.preimageChecked Digest.hash256 context subscript scope
  .ok (Digest.hash256 message)

theorem sighashChecked_eq (context : InputContext) (subscript : Script) (scope : Scope) :
    sighashChecked context subscript scope = .ok (sighash context subscript scope) := by
  rw [sighashChecked, Sighash.preimageChecked_eq]
  rfl

end ScriptSpend
