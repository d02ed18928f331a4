import ScriptSpend.Proofs.CheckedOperations
import ScriptSpend.Proofs.CheckMultiSig

/-!
# Checking several signatures by depth

The operands of a check of several signatures stay on the stack while they are matched. One can
leave them there and keep two depths, that of the next key and that of the next signature, and two
counters, of the keys and of the signatures left. Here every access by depth must lie among the keys
or among the signatures that were counted, and no counter may go below zero; anything else is a
fault. The check comes to the same as the one that takes the operands as two lists, so neither
depths nor counters ever leave their range.

## Main definitions

* `StandsAt`: some items stand on a stack from a depth on
* `matchByDepth`: the pass over signatures and keys with two depths and two counters
* `Operation.checkMultiSigByDepth`: the check of several signatures with that pass, and
  `Operation.checkMultiSigChecked` the same with a checker that may fail

## Main results

* `matchByDepth_eq`: the pass by depth is the pass over the items that stand there
* `Operation.checkMultiSigByDepth_eq`: both checks are the same
-/

namespace ScriptSpend

open StackAction

section Accesses

/-- The item at a depth, which must be one of `count` depths from `first` on. -/
def itemAmong (first count depth : Nat) : StackAction Bytes :=
  if first ≤ depth ∧ depth < first + count then item depth else throw .fault

/-- The items stand on the stack from a depth on, the first of them on top. -/
def StandsAt (items : List Bytes) (depth : Nat) (stack : Stack) : Prop :=
  items <+: stack.drop depth

variable {first count depth : Nat} {bytes : Bytes} {items : List Bytes} {stack : Stack}

theorem StandsAt.getElem? (stands : StandsAt (bytes :: items) depth stack) :
    stack[depth]? = some bytes := by
  obtain ⟨rest, shape⟩ := stands
  rw [← Nat.add_zero depth, ← List.getElem?_drop, ← shape]
  rfl

theorem StandsAt.tail (stands : StandsAt (bytes :: items) depth stack) :
    StandsAt items (depth + 1) stack := by
  obtain ⟨rest, shape⟩ := stands
  refine ⟨rest, ?_⟩
  rw [← List.drop_drop, ← shape]
  rfl

theorem itemAmong_of_standsAt (stands : StandsAt (bytes :: items) depth stack)
    (from_first : first ≤ depth) (to_last : depth < first + count) :
    itemAmong first count depth stack = .ok bytes stack := by
  rw [itemAmong, if_pos ⟨from_first, to_last⟩]
  exact item_of_getElem? stands.getElem?

end Accesses

section Passes

/-- The pass over `m` signatures and `n` keys. The keys have depths from 1 on and the signatures
from `n + 2` on. -/
def matchByDepth (fits : Bytes → Bytes → Except Failure Bool) (n m : Nat) :
    (keysLeft signaturesLeft keyDepth signatureDepth : Nat) → StackAction Bool
  | _, 0, _, _ => pure true
  | 0, _ + 1, _, _ => throw .fault
  | keysLeft + 1, signaturesLeft + 1, keyDepth, signatureDepth => do
    let signature ← itemAmong (n + 2) m signatureDepth
    let key ← itemAmong 1 n keyDepth
    let fit ← check (fits signature key)
    let waiting := if fit then signaturesLeft else signaturesLeft + 1
    if keysLeft < waiting then pure false
    else
      matchByDepth fits n m keysLeft waiting (keyDepth + 1)
        (if fit then signatureDepth + 1 else signatureDepth)

/-- Removes the chunks that push any of the signatures from a depth on. -/
def stripByDepth (n m : Nat) : (left depth : Nat) → Script → StackAction Script
  | 0, _, subscript => pure subscript
  | left + 1, depth, subscript => do
    let signature ← itemAmong (n + 2) m depth
    let stripped ← check (stripSignature subscript signature)
    stripByDepth n m left (depth + 1) stripped

variable {fits : Bytes → Bytes → Except Failure Bool} {n m keyDepth signatureDepth : Nat}
  {signatures keys : List Bytes} {stack : Stack}

/-- Depths and counters that agree with the items left stay within their ranges, and the pass comes
to the same. -/
theorem matchByDepth_eq (signaturesStand : StandsAt signatures signatureDepth stack)
    (keysStand : StandsAt keys keyDepth stack) (enough : signatures.length ≤ keys.length)
    (behindCount : n + 2 ≤ signatureDepth)
    (toLastSignature : signatureDepth + signatures.length ≤ n + 2 + m)
    (behindTop : 1 ≤ keyDepth) (toLastKey : keyDepth + keys.length ≤ 1 + n) :
    matchByDepth fits n m keys.length signatures.length keyDepth signatureDepth stack =
      check (matchSignatures fits signatures keys) stack := by
  induction keys generalizing signatures keyDepth signatureDepth with
  | nil =>
    obtain rfl : signatures = [] := by simpa using enough
    rfl
  | cons key keys ih =>
    cases signatures with
    | nil => rfl
    | cons signature signatures =>
      rw [List.length_cons] at toLastSignature toLastKey
      have readSignature : itemAmong (n + 2) m signatureDepth stack = .ok signature stack :=
        itemAmong_of_standsAt signaturesStand behindCount (by omega)
      have readKey : itemAmong 1 n keyDepth stack = .ok key stack :=
        itemAmong_of_standsAt keysStand behindTop (by omega)
      cases answer : fits signature key with
      | error cause =>
        simp [matchByDepth, matchSignatures, readSignature, readKey, answer]
      | ok fit =>
        rw [matchSignatures_cons_cons answer]
        cases fit with
        | true =>
          -- The signature has found its key: both depths go on.
          by_cases short : keys.length < signatures.length
          · simp [matchByDepth, readSignature, readKey, answer, short]
          · have onward := ih signaturesStand.tail keysStand.tail (by omega) (by omega) (by omega)
              (by omega) (by omega)
            simpa [matchByDepth, readSignature, readKey, answer, short] using onward
        | false =>
          by_cases short : keys.length < signatures.length + 1
          · simp [matchByDepth, readSignature, readKey, answer, short]
          · have onward := ih signaturesStand keysStand.tail (by simpa using Nat.not_lt.mp short)
              (by omega) (by simpa using toLastSignature) (by omega) (by omega)
            simpa [matchByDepth, readSignature, readKey, answer, short] using onward

theorem stripByDepth_eq (signaturesStand : StandsAt signatures signatureDepth stack)
    (behindCount : n + 2 ≤ signatureDepth)
    (toLastSignature : signatureDepth + signatures.length ≤ n + 2 + m) (subscript : Script) :
    stripByDepth n m signatures.length signatureDepth subscript stack =
      check (stripSignatures subscript signatures) stack := by
  induction signatures generalizing signatureDepth subscript with
  | nil => rfl
  | cons signature signatures ih =>
    rw [List.length_cons] at toLastSignature
    have read : itemAmong (n + 2) m signatureDepth stack = .ok signature stack :=
      itemAmong_of_standsAt signaturesStand behindCount (by omega)
    cases stripped : stripSignature subscript signature with
    | error cause => simp [stripByDepth, stripSignatures, read, stripped]
    | ok rest =>
      have onward := ih signaturesStand.tail (by omega) (by omega) rest
      simpa [stripByDepth, stripSignatures, read, stripped] using onward

end Passes

namespace Operation

section Counts

/-- Reads the number of keys and the number of signatures, each where it stands, and asks for the
items that they count. -/
def multiSigCounts (op : Opcode) (policy : Policy) : StackAction (Nat × Nat) := do
  require op 1
  let keyCount ← number policy.requireMinimalPush 0
  if keyCount < 0 ∨ policy.maxMultisigKeys.toNat < keyCount then
    throw (.keyCountOutOfRange op policy.maxMultisigKeys.toNat)
  else
    let n := keyCount.toNat
    require op (n + 2)
    let signatureCount ← number policy.requireMinimalPush (n + 1)
    if signatureCount < 0 ∨ keyCount < signatureCount then throw (.signatureCountOutOfRange op)
    else
      require op (n + signatureCount.toNat + 3)
      pure (n, signatureCount.toNat)

/-- The items that were counted. -/
def countedItems (n m : Nat) : StackAction MultiSigOperands := do
  let keys ← items 1 n
  let signatures ← items (n + 2) m
  pure ⟨signatures, keys⟩

variable {op : Opcode} {policy : Policy} {n m : Nat} {stack left : Stack}

theorem multiSigOperands_eq (op : Opcode) (policy : Policy) :
    multiSigOperands op policy =
      multiSigCounts op policy >>= fun counts => countedItems counts.1 counts.2 := by
  funext stack
  simp only [multiSigOperands, multiSigCounts, bind_apply]
  cases require op 1 stack with
  | error cause left => rfl
  | ok _ left =>
    dsimp only
    cases number policy.requireMinimalPush 0 left with
    | error cause left => rfl
    | ok keyCount left =>
      dsimp only
      rw [ite_apply_state, ite_apply_state]
      split
      · rfl
      · rw [bind_apply, bind_apply]
        cases require op (keyCount.toNat + 2) left with
        | error cause left => rfl
        | ok _ left =>
          dsimp only
          rw [bind_apply, bind_apply]
          cases number policy.requireMinimalPush (keyCount.toNat + 1) left with
          | error cause left => rfl
          | ok signatureCount left =>
            dsimp only
            rw [ite_apply_state, ite_apply_state]
            split
            · rfl
            · rw [bind_apply, bind_apply]
              cases require op (keyCount.toNat + signatureCount.toNat + 3) left with
              | error cause left => rfl
              | ok _ left => rfl

/-- Counts that were read leave room for one more item below those that they count. -/
theorem multiSigCounts_eq_ok (read : multiSigCounts op policy stack = .ok (n, m) left) :
    left = stack ∧ m ≤ n ∧ n + m + 3 ≤ stack.length := by
  rw [multiSigCounts, bind_eq_ok_iff] at read
  obtain ⟨_, _, required, read⟩ := read
  obtain ⟨rfl, -⟩ := require_eq_ok_iff.mp required
  rw [bind_eq_ok_iff] at read
  obtain ⟨keyCount, _, keysCounted, read⟩ := read
  obtain ⟨rfl, -⟩ := number_eq_ok_iff.mp keysCounted
  rw [ite_apply_state] at read
  split at read
  · cases read
  · rw [bind_eq_ok_iff] at read
    obtain ⟨_, _, required, read⟩ := read
    obtain ⟨rfl, -⟩ := require_eq_ok_iff.mp required
    rw [bind_eq_ok_iff] at read
    obtain ⟨signatureCount, _, signaturesCounted, read⟩ := read
    obtain ⟨rfl, -⟩ := number_eq_ok_iff.mp signaturesCounted
    rw [ite_apply_state] at read
    split at read
    · cases read
    · rw [bind_eq_ok_iff] at read
      obtain ⟨_, _, required, read⟩ := read
      obtain ⟨rfl, deep⟩ := require_eq_ok_iff.mp required
      cases read
      exact ⟨rfl, by omega, deep⟩

/-- Items that were counted can be taken, and stand where they were counted. -/
theorem countedItems_of_le (enough : n + m + 3 ≤ stack.length) :
    countedItems n m stack =
      .ok ⟨(stack.drop (n + 2)).take m, (stack.drop 1).take n⟩ stack := by
  have keysRead : items 1 n stack = .ok ((stack.drop 1).take n) stack := if_pos (by omega)
  have signaturesRead : items (n + 2) m stack = .ok ((stack.drop (n + 2)).take m) stack :=
    if_pos (by omega)
  rw [countedItems, bind_apply, keysRead]
  dsimp only
  rw [bind_apply, signaturesRead]
  rfl

end Counts

/-- Removes a number of items, of which all but the first `before` are signatures. -/
def popOperands (op : Opcode) (success : Bool) : (count before : Nat) → StackAction Unit
  | 0, _ => pure ()
  | count + 1, 0 => do
    let signature ← item 0
    if !success && !signature.isEmpty then throw (.rejectedSignature op)
    else
      StackAction.drop
      popOperands op success count 0
  | count + 1, before + 1 => do
    StackAction.drop
    popOperands op success count before

/-- Removes the operands that were counted and puts the result in their place. -/
def settleByCount (op : Opcode) (policy : Policy) (verify : Bool) (n m : Nat) (success : Bool) :
    StackAction Unit := do
  popOperands op success (m + (n + 2)) (n + 2)
  let remaining ← StackAction.size
  if remaining = 0 then throw (.missingDummy op)
  else
    let dummy ← item 0
    if policy.requireNullDummy && !dummy.isEmpty then throw (.dummyNotEmpty op)
    else
      StackAction.drop
      pushBool success
      if verify then verifyTop .noValidSignatures else pure ()

/-- Checks the operands that were counted. -/
def checkCounted (op : Opcode) (env : Environment) (asks : CheckedChecker) (verify : Bool)
    (n m : Nat) : StackAction Unit := do
  let subscript ← stripByDepth n m m (n + 2) env.subscript
  let success ← matchByDepth (tryKeyChecked env.policy asks subscript) n m n m 1 (n + 2)
  settleByCount op env.policy verify n m success

/-- Checks several signatures under several keys, the operands addressed by depth and the signatures
shown to a checker that may fail. -/
def checkMultiSigChecked (op : Opcode) (env : Environment) (asks : CheckedChecker)
    (verify : Bool) : StackAction Unit := do
  let counts ← multiSigCounts op env.policy
  checkCounted op env asks verify counts.1 counts.2

/-- Checks several signatures under several keys, the operands addressed by depth. -/
def checkMultiSigByDepth (op : Opcode) (env : Environment) (verify : Bool) : StackAction Unit :=
  checkMultiSigChecked op env env.checker.total verify

section Settlement

variable (op : Opcode) (env : Environment) (verify : Bool)

theorem popOperands_zero (success : Bool) (m : Nat) :
    popOperands op success m 0 = dropSignatures op success m := by
  induction m with
  | zero => rfl
  | succ m ih => rw [popOperands, dropSignatures, ih]

/-- The items before the signatures go first. -/
theorem popOperands_eq (success : Bool) (before m : Nat) :
    popOperands op success (m + before) before =
      dropMany before >>= fun _ => dropSignatures op success m := by
  induction before with
  | zero => rw [Nat.add_zero, popOperands_zero, dropMany, pure_bind]
  | succ before ih => rw [← Nat.add_assoc, popOperands, dropMany, bind_assoc, ih]

theorem settleByCount_eq (policy : Policy) (operands : MultiSigOperands) (success : Bool) :
    settleByCount op policy verify operands.keys.length operands.signatures.length success =
      settleMultiSig op policy verify operands success := by
  rw [settleByCount, popOperands_eq, bind_assoc, settleMultiSig]

/-- Operands that lie on the stack as they were counted are checked as lists would be. -/
theorem checkCounted_eq (operands : MultiSigOperands) {stack : Stack}
    (keysStand : StandsAt operands.keys 1 stack)
    (signaturesStand : StandsAt operands.signatures (operands.keys.length + 2) stack)
    (enough : operands.signatures.length ≤ operands.keys.length) :
    checkCounted op env env.checker.total verify operands.keys.length operands.signatures.length
        stack =
      (check (env.matchOperands operands) >>= fun success =>
        settleMultiSig op env.policy verify operands success) stack := by
  rw [checkCounted, tryKeyChecked_eq, bind_apply, bind_apply,
    stripByDepth_eq signaturesStand (Nat.le_refl _) (Nat.le_refl _), Environment.matchOperands]
  cases stripSignatures env.subscript operands.signatures with
  | error cause => rfl
  | ok subscript =>
    dsimp only [check_ok]
    rw [bind_apply, matchByDepth_eq signaturesStand keysStand enough (Nat.le_refl _)
      (Nat.le_refl _) (Nat.le_refl _) (Nat.le_refl _)]
    cases matchSignatures (tryKey env.policy env.checker subscript) operands.signatures
        operands.keys with
    | error cause => rfl
    | ok success =>
      dsimp only [check_ok]
      rw [settleByCount_eq]

/-- The check of several signatures by depth is the check that takes its operands as lists. -/
theorem checkMultiSigByDepth_eq :
    checkMultiSigByDepth op env verify = checkMultiSig op env verify := by
  funext stack
  rw [checkMultiSig, multiSigOperands_eq, bind_assoc, checkMultiSigByDepth, checkMultiSigChecked,
    bind_apply, bind_apply]
  cases read : multiSigCounts op env.policy stack with
  | error cause left => rfl
  | ok counts left =>
    obtain ⟨n, m⟩ := counts
    obtain ⟨rfl, fewer, enough⟩ := multiSigCounts_eq_ok read
    dsimp only
    rw [bind_apply, countedItems_of_le enough]
    have allKeys : ((left.drop 1).take n).length = n := length_take_drop (by omega)
    have allSignatures : ((left.drop (n + 2)).take m).length = m := length_take_drop (by omega)
    have keysStand : StandsAt ((left.drop 1).take n) 1 left := List.take_prefix _ _
    have signaturesStand : StandsAt ((left.drop (n + 2)).take m)
        (((left.drop 1).take n).length + 2) left := by
      rw [allKeys]
      exact List.take_prefix _ _
    have checked := checkCounted_eq op env verify ⟨_, _⟩ keysStand signaturesStand
      (by rw [allKeys, allSignatures]; exact fewer)
    rw [allKeys, allSignatures] at checked
    exact checked

end Settlement

end Operation

end ScriptSpend
