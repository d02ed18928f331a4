import ScriptSpend.Digest
import ScriptSpend.Scope
import ScriptSpend.Transaction

/-!
# The message that a signature signs

The message names the transaction's version, the input with its script and value, the lock time and
the scope. The outpoints of all inputs, their sequence numbers and the outputs enter through three
digests, each of which is replaced by zeros where the scope leaves its subject out.

## Main definitions

* `Sighash.preimage`: the message, for a digest function that condenses the three parts
* `sighash`: the digest that is signed
-/

namespace ScriptSpend

namespace Sighash

/-- What stands for a part that the scope leaves out. -/
def blank : Bytes := List.replicate 32 0

/-- Whether the scope covers the outputs only in part. -/
def limitsOutputs (scope : Scope) : Bool :=
  scope.baseType == Scope.single || scope.baseType == Scope.none

/-- The outpoints of all inputs. -/
def prevoutBytes (context : InputContext) : Bytes :=
  context.inputs.flatMap fun input => input.outpoint.toWire

/-- The sequence numbers of all inputs. -/
def sequenceBytes (context : InputContext) : Bytes :=
  context.inputs.flatMap fun input => Bytes.ofNatLE 4 input.sequence.toNat

/-- The outputs that the scope covers, or nothing if it covers none. -/
def outputBytes? (context : InputContext) (scope : Scope) : Option Bytes :=
  if limitsOutputs scope then
    -- An input without an output at its position covers none.
    if scope.baseType = Scope.single then (context.outputs[context.index]?).map TxOutput.toWire
    else none
  else some (context.outputs.flatMap TxOutput.toWire)

/-- The digest of all outpoints, unless other inputs may be added. -/
def prevoutDigest (hash : Bytes → Bytes) (context : InputContext) (scope : Scope) : Bytes :=
  if scope.anyoneCanPay then blank else hash (prevoutBytes context)

/-- The digest of all sequence numbers, unless other inputs may be added or outputs are left out. -/
def sequenceDigest (hash : Bytes → Bytes) (context : InputContext) (scope : Scope) : Bytes :=
  if scope.anyoneCanPay || limitsOutputs scope then blank else hash (sequenceBytes context)

/-- The digest of the covered outputs. -/
def outputDigest (hash : Bytes → Bytes) (context : InputContext) (scope : Scope) : Bytes :=
  match outputBytes? context scope with
  | none => blank
  | some bytes => hash bytes

/-- The message that a signature with a scope over a script text signs. -/
def preimage (hash : Bytes → Bytes) (context : InputContext) (subscript : Script) (scope : Scope) :
    Bytes :=
  Bytes.ofNatLE 4 context.version.toUInt32.toNat
    ++ prevoutDigest hash context scope
    ++ sequenceDigest hash context scope
    ++ context.source.toWire
    ++ withLength subscript.toWire
    ++ Bytes.ofNatLE 8 context.satoshis.toNat
    ++ Bytes.ofNatLE 4 context.sequence.toNat
    ++ outputDigest hash context scope
    ++ Bytes.ofNatLE 4 context.lockTime.toNat
    ++ Bytes.ofNatLE 4 scope.toNat

end Sighash

/-- The digest that a signature with a scope over a script text signs. -/
def sighash (context : InputContext) (subscript : Script) (scope : Scope) : Bytes :=
  Digest.hash256 (Sighash.preimage Digest.hash256 context subscript scope)

end ScriptSpend
