import ScriptSpend.Machine
import ScriptSpend.Policy
import ScriptSpend.Script
import ScriptSpend.Signature.Scoped

/-!
# Checking signatures

A signature is checked under a public key over a subscript: the script text from the last executed
code separator on, without the chunks that push one of the signatures being checked. What it takes
for a decoded signature to be valid is left to a checker.

Several signatures are checked against several keys by one pass over both lists from the top of the
stack down: each key is tried on the current signature, and the pass moves on to the next signature
when it fits. The pass stops when all signatures have found a key or fewer keys than signatures are
left.

## Main definitions

* `Checker`: decides whether a decoded signature is valid under a key over a subscript
* `matchSignatures`: the pass over signatures and keys
* `Operation.multiSigOperands`, `Operation.settleMultiSig`: what a check of several signatures reads
  before that pass and does after it
* `checkSig`, `checkMultiSig`: the operations
-/

namespace ScriptSpend

/-- Decides whether a signature is valid under a public key over a subscript. -/
abbrev Checker := ScopedSignature → Bytes → Script → Bool

/-- What a chunk is executed against, apart from the stacks. -/
structure Environment where
  policy : Policy
  checker : Checker
  script : Script
  lastSeparator : Option Nat

namespace Environment

/-- The script text that signatures cover: all of it, or what starts at the last executed separator.
-/
def subscript (env : Environment) : Script := env.script.drop (env.lastSeparator.getD 0)

end Environment

/-- Checks that a signature is empty or well formed and keeps the rules on its parts. -/
def checkSignatureEncoding (policy : Policy) (item : Bytes) : Except Failure Unit :=
  if item.isEmpty then .ok ()
  else if !isSignatureItem item then .error .malformedSignature
  else
    match ScopedSignature.ofItem item with
    | .error cause => .error (.undecodableSignature cause)
    | .ok decoded =>
      if policy.requireLowS && !decoded.signature.hasLowS then .error .highS
      else if !decoded.scope.hasForkId then .error .missingForkId
      else .ok ()

/-- Checks that the length of a public key is the one that its first byte announces. -/
def checkKeyEncoding (key : Bytes) : Except Failure Unit :=
  match key with
  | [] => .error .keyTooShort
  | tag :: _ =>
    if key.length < 33 then .error .keyTooShort
    else if tag = 4 then
      if key.length = 65 then .ok () else .error .keyLengthMismatch
    else if tag = 2 ∨ tag = 3 then
      if key.length = 33 then .ok () else .error .keyLengthMismatch
    else .error .unknownKeyFormat

/-- Removes the chunks that push a signature. -/
def stripSignature (subscript : Script) (item : Bytes) : Except Failure Script :=
  match Chunk.push item with
  | .error cause => .error (.pushTooLong cause)
  | .ok chunk => .ok (subscript.findAndDelete [chunk])

/-- Removes the chunks that push any of several signatures. -/
def stripSignatures (subscript : Script) : List Bytes → Except Failure Script
  | [] => .ok subscript
  | item :: rest =>
    match stripSignature subscript item with
    | .error cause => .error cause
    | .ok stripped => stripSignatures stripped rest

/-- Whether a checker accepts a signature under a key; one that cannot be decoded is rejected. -/
def Checker.accepts (checker : Checker) (subscript : Script) (item key : Bytes) : Bool :=
  match ScopedSignature.ofItem item with
  | .error _ => false
  | .ok decoded => checker decoded key subscript

/-- Whether a signature fits a key, both being encoded as they must. -/
def tryKey (policy : Policy) (checker : Checker) (subscript : Script) (item key : Bytes) :
    Except Failure Bool :=
  match checkSignatureEncoding policy item with
  | .error cause => .error cause
  | .ok () =>
    match checkKeyEncoding key with
    | .error cause => .error cause
    | .ok () => .ok (checker.accepts subscript item key)

/-- Whether the signatures can be assigned to keys in order, each tried as `fits` says. -/
def matchSignatures (fits : Bytes → Bytes → Except Failure Bool) :
    List Bytes → List Bytes → Except Failure Bool
  | [], _ => .ok true
  | _ :: _, [] => .error .fault
  | item :: items, key :: keys =>
    match fits item key with
    | .error cause => .error cause
    | .ok fit =>
      -- A key is used up whether it fits or not.
      let waiting := if fit then items else item :: items
      if keys.length < waiting.length then .ok false else matchSignatures fits waiting keys

/-- What a check of several signatures works on, from the top of the stack down. -/
structure MultiSigOperands where
  signatures : List Bytes
  keys : List Bytes
  deriving DecidableEq

/-- Whether the signatures can be assigned to keys in order, over the script text without them. -/
def Environment.matchOperands (env : Environment) (operands : MultiSigOperands) :
    Except Failure Bool :=
  match stripSignatures env.subscript operands.signatures with
  | .error cause => .error cause
  | .ok subscript =>
    matchSignatures (tryKey env.policy env.checker subscript) operands.signatures operands.keys

open StackAction

namespace Operation

/-- Checks one signature under one key, which stands above it. -/
def checkSig (op : Opcode) (env : Environment) (verify : Bool) : StackAction Unit := do
  require op 2
  let signature ← item 1
  let key ← item 0
  check (checkSignatureEncoding env.policy signature)
  check (checkKeyEncoding key)
  let subscript ← check (stripSignature env.subscript signature)
  let success := env.checker.accepts subscript signature key
  -- Only the empty signature may fail quietly.
  if !success && !signature.isEmpty then throw (.rejectedSignature op)
  else
    StackAction.drop
    StackAction.drop
    pushBool success
    if verify then verifyTop .noValidSignature else pure ()

/-- Removes the given number of items. -/
def dropMany : Nat → StackAction Unit
  | 0 => pure ()
  | count + 1 => do
    StackAction.drop
    dropMany count

/-- Removes the given number of signatures, all of which must be empty unless the check succeeded.
-/
def dropSignatures (op : Opcode) (success : Bool) : Nat → StackAction Unit
  | 0 => pure ()
  | count + 1 => do
    let signature ← item 0
    if !success && !signature.isEmpty then throw (.rejectedSignature op)
    else
      StackAction.drop
      dropSignatures op success count

/-- The items from one depth on, the given number of them. -/
def items (start count : Nat) : StackAction (List Bytes) := fun stack =>
  if start + count ≤ stack.length then .ok ((stack.drop start).take count) stack
  else .error .fault stack

/-- Reads the operands of a check of several signatures and leaves them where they stand: from the
top the number of keys, the keys, the number of signatures, the signatures and one item that is not
used. -/
def multiSigOperands (op : Opcode) (policy : Policy) : StackAction MultiSigOperands := do
  require op 1
  let keyCount ← number policy.requireMinimalPush 0
  if keyCount < 0 ∨ policy.maxMultisigKeys.toNat < keyCount then
    throw (.keyCountOutOfRange op policy.maxMultisigKeys.toNat)
  else
    let n := keyCount.toNat
    -- The keys have depths 1 to `n`, and the number of signatures stands below them.
    require op (n + 2)
    let signatureCount ← number policy.requireMinimalPush (n + 1)
    if signatureCount < 0 ∨ keyCount < signatureCount then throw (.signatureCountOutOfRange op)
    else
      let m := signatureCount.toNat
      -- Only now is it known how many items the check needs.
      require op (n + m + 3)
      let keys ← items 1 n
      let signatures ← items (n + 2) m
      pure ⟨signatures, keys⟩

/-- Removes the operands of a check of several signatures that came to a result, and puts the result
in their place. -/
def settleMultiSig (op : Opcode) (policy : Policy) (verify : Bool) (operands : MultiSigOperands)
    (success : Bool) : StackAction Unit := do
  -- A rejected signature stops the check halfway, with the keys already gone.
  dropMany (operands.keys.length + 2)
  dropSignatures op success operands.signatures.length
  let remaining ← StackAction.size
  if remaining = 0 then throw (.missingDummy op)
  else
    let dummy ← item 0
    if policy.requireNullDummy && !dummy.isEmpty then throw (.dummyNotEmpty op)
    else
      StackAction.drop
      pushBool success
      if verify then verifyTop .noValidSignatures else pure ()

/-- Checks several signatures under several keys. -/
def checkMultiSig (op : Opcode) (env : Environment) (verify : Bool) : StackAction Unit := do
  let operands ← multiSigOperands op env.policy
  let success ← check (env.matchOperands operands)
  settleMultiSig op env.policy verify operands success

end Operation

end ScriptSpend
