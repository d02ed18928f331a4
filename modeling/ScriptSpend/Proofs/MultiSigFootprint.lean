import ScriptSpend.Proofs.FailingOperations
import ScriptSpend.Proofs.MatchingByDepth
import ScriptSpend.Proofs.RefusedOperands

/-!
# The footprint of a check of several signatures

How many items a check of several signatures uses up stands on the stack: two counts, so many keys
and so many signatures, and one item more. A check that comes to a result takes exactly these and
puts the result in their place, whichever keys it has tried before, and the result is negative only
if it is the answer to empty signatures. The room for the one item more is asked for together with
that for the signatures, so that the item is never found missing afterwards.

## Main definitions

* `MultiSigCounted`: the numbers of keys and signatures that stand on a stack
* `Failure.isOfCounts`: the causes for which the operands cannot be read

## Main results

* `Operation.multiSigOperands_of_counted`: what comes of reading the operands once they are counted
* `Operation.checkMultiSig_eq_ok`: what a check of several signatures leaves
* `Operation.checkMultiSig_ne_missingDummy`: no check fails for want of the item below its operands
* `Instruction.checkMultiSig_footprint`: the footprint of the instruction
-/

namespace ScriptSpend

open StackAction

/-- So many keys and so many signatures stand on the stack, in numbers that the policy admits. -/
structure MultiSigCounted (policy : Policy) (n m : Nat) (stack : Stack) : Prop where
  keys : ∃ item, stack[0]? = some item ∧
    ScriptNumber.parse ScriptNumber.operandLimit policy.requireMinimalPush item = .ok n
  signatures : ∃ item, stack[n + 1]? = some item ∧
    ScriptNumber.parse ScriptNumber.operandLimit policy.requireMinimalPush item = .ok m
  enough : m ≤ n
  admitted : n ≤ policy.maxMultisigKeys.toNat

/-- The causes for which the operands of a check of several signatures cannot be read. -/
def Failure.isOfCounts : Failure → Bool
  | stackUnderflow _ _ | badNumber _ | keyCountOutOfRange _ _ | signatureCountOutOfRange _
  | fault => true
  | _ => false

section Layout

variable {policy : Policy} {operands : MultiSigOperands} {dummy : Bytes} {rest stack : Stack}
  {n m : Nat}

/-- A stack has the numbers of keys and signatures that its layout shows. -/
theorem MultiSigLayout.counted (layout : MultiSigLayout policy operands dummy rest stack) :
    MultiSigCounted policy operands.keys.length operands.signatures.length stack := by
  obtain ⟨keyCount, signatureCount, keysCounted, signaturesCounted, enough, admitted⟩ := layout
  exact ⟨⟨keyCount, rfl, keysCounted⟩, ⟨signatureCount, by simp, signaturesCounted⟩, enough,
    admitted⟩

theorem MultiSigLayout.take_drop (layout : MultiSigLayout policy operands dummy rest stack) :
    (stack.drop (operands.keys.length + 2)).take operands.signatures.length =
      operands.signatures := by
  obtain ⟨keyCount, signatureCount, -, -, -, -⟩ := layout
  have front : keyCount :: (operands.keys ++ signatureCount ::
      (operands.signatures ++ dummy :: rest)) =
      (keyCount :: (operands.keys ++ [signatureCount])) ++
        (operands.signatures ++ dummy :: rest) := by simp
  rw [front, List.drop_left' (by simp), List.take_left]

theorem MultiSigLayout.drop (layout : MultiSigLayout policy operands dummy rest stack) :
    stack.drop (operands.keys.length + operands.signatures.length + 3) = rest := by
  obtain ⟨keyCount, signatureCount, -, -, -, -⟩ := layout
  have front : keyCount :: (operands.keys ++ signatureCount ::
      (operands.signatures ++ dummy :: rest)) =
      (keyCount :: (operands.keys ++ signatureCount :: (operands.signatures ++ [dummy]))) ++
        rest := by simp
  rw [front, List.drop_left']
  simp only [List.length_cons, List.length_append, List.length_nil]
  omega

end Layout

namespace Operation

section Operands

variable {op : Opcode} {policy : Policy} {stack left : Stack} {n m : Nat} {cause : Failure}

/-- Once the operands are counted, all of them are asked for at once, and the item below with them.
-/
theorem multiSigOperands_of_counted (op : Opcode) (counted : MultiSigCounted policy n m stack) :
    multiSigOperands op policy stack =
      if stack.length < n + m + 3 then .error (.stackUnderflow op (n + m + 3)) stack
      else .ok ⟨(stack.drop (n + 2)).take m, (stack.drop 1).take n⟩ stack := by
  obtain ⟨⟨keyItem, keyItemFound, keysCounted⟩, ⟨signatureItem, signatureItemFound,
    signaturesCounted⟩, enough, admitted⟩ := counted
  have keysRead : number policy.requireMinimalPush 0 stack = .ok (n : Int) stack :=
    number_of_getElem? keyItemFound keysCounted
  have signaturesRead : number policy.requireMinimalPush (n + 1) stack = .ok (m : Int) stack :=
    number_of_getElem? signatureItemFound signaturesCounted
  obtain ⟨inside, -⟩ := List.getElem?_eq_some_iff.mp signatureItemFound
  have keysInRange : ¬ ((n : Int) < 0 ∨ (policy.maxMultisigKeys.toNat : Int) < n) := by omega
  have signaturesInRange : ¬ ((m : Int) < 0 ∨ (n : Int) < m) := by omega
  have first : require op 1 stack = .ok () stack := require_of_le (by omega)
  have second : require op (n + 2) stack = .ok () stack := require_of_le (by omega)
  simp only [multiSigOperands, bind_apply, ite_apply_state, first, second, keysRead, signaturesRead,
    if_neg keysInRange, if_neg signaturesInRange, Int.toNat_natCast]
  by_cases short : stack.length < n + m + 3
  · simp [short]
  · -- What was asked for is there, so the two sections of the stack are.
    have keysTaken : items 1 n stack = .ok ((stack.drop 1).take n) stack := if_pos (by omega)
    have signaturesTaken : items (n + 2) m stack = .ok ((stack.drop (n + 2)).take m) stack :=
      if_pos (by omega)
    simp [short, Nat.not_lt.mp short, keysTaken, signaturesTaken]

theorem isOfCounts_of_require {needed : Nat}
    (failed : require op needed stack = .error cause left) : cause.isOfCounts = true := by
  unfold require at failed
  split at failed
  · cases failed
    rfl
  · cases failed

theorem isOfCounts_of_number {minimal : Bool} {depth : Nat}
    (failed : number minimal depth stack = .error cause left) : cause.isOfCounts = true := by
  rcases bind_eq_error_iff.mp failed with missing | ⟨bytes, middle, -, refused⟩
  · unfold item at missing
    split at missing
    · cases missing
    · cases missing
      rfl
  · cases parsed : ScriptNumber.parse ScriptNumber.operandLimit minimal bytes with
    | ok n =>
      rw [parsed] at refused
      cases refused
    | error refusal =>
      rw [parsed] at refused
      cases refused
      rfl

theorem isOfCounts_of_items {start count : Nat}
    (failed : items start count stack = .error cause left) : cause.isOfCounts = true := by
  unfold items at failed
  split at failed
  · cases failed
  · cases failed
    rfl

/-- Operands are read in vain for want of items or for a number that will not do. -/
theorem isOfCounts_of_multiSigOperands
    (failed : multiSigOperands op policy stack = .error cause left) : cause.isOfCounts = true := by
  -- In the order of reading: the number of keys, that of signatures, then the items themselves.
  rcases bind_eq_error_iff.mp failed with short | ⟨_, _, -, failed⟩
  · exact isOfCounts_of_require short
  rcases bind_eq_error_iff.mp failed with unread | ⟨keyCount, _, -, failed⟩
  · exact isOfCounts_of_number unread
  rw [ite_apply_state] at failed
  split at failed
  · cases failed
    rfl
  rcases bind_eq_error_iff.mp failed with short | ⟨_, _, -, failed⟩
  · exact isOfCounts_of_require short
  rcases bind_eq_error_iff.mp failed with unread | ⟨signatureCount, _, -, failed⟩
  · exact isOfCounts_of_number unread
  rw [ite_apply_state] at failed
  split at failed
  · cases failed
    rfl
  rcases bind_eq_error_iff.mp failed with short | ⟨_, _, -, failed⟩
  · exact isOfCounts_of_require short
  rcases bind_eq_error_iff.mp failed with missing | ⟨keys, _, -, failed⟩
  · exact isOfCounts_of_items missing
  rcases bind_eq_error_iff.mp failed with missing | ⟨signatures, _, -, done⟩
  · exact isOfCounts_of_items missing
  · cases done

end Operands

section Checks

variable {op : Opcode} {env : Environment} {verify : Bool} {stack left : Stack} {cause : Failure}

/-- A check that ends well has taken what was counted and the item below it, and left its result
instead unless that was consumed. No result is negative while a signature is not empty. -/
theorem checkMultiSig_eq_ok (checked : checkMultiSig op env verify stack = .ok () left) :
    ∃ n m success, MultiSigCounted env.policy n m stack ∧ n + m + 3 ≤ stack.length ∧
      (left = if verify then stack.drop (n + m + 3)
        else ScriptNumber.ofBool success :: stack.drop (n + m + 3)) ∧
      (verify = true → success = true) ∧
      (success = false → ∀ signature ∈ (stack.drop (n + 2)).take m, signature = []) := by
  obtain ⟨operands, _, read, decision⟩ := bind_eq_ok_iff.mp checked
  obtain ⟨rfl, dummy, rest, layout⟩ := multiSigOperands_eq_ok_iff.mp read
  obtain ⟨success, _, decided, settled⟩ := bind_eq_ok_iff.mp decision
  obtain ⟨rfl, -⟩ := check_eq_ok_iff.mp decided
  obtain ⟨quiet, -, verified, rfl⟩ := (settleMultiSig_eq_ok_iff op verify layout).mp settled
  have length := layout.length_eq
  refine ⟨_, _, success, layout.counted, by omega, by rw [layout.drop], verified, ?_⟩
  rintro rfl
  rw [layout.take_drop]
  exact quiet.resolve_left Bool.false_ne_true

/-- The item below the operands has been asked for with them, so that no check finds it missing. -/
theorem checkMultiSig_ne_missingDummy (other : Opcode) :
    checkMultiSig op env verify stack ≠ .error (.missingDummy other) left := by
  intro failed
  rcases bind_eq_error_iff.mp failed with unread | ⟨operands, _, read, afterReading⟩
  · -- The cause is none of those for which operands cannot be read.
    cases isOfCounts_of_multiSigOperands unread
  obtain ⟨rfl, dummy, rest, layout⟩ := multiSigOperands_eq_ok_iff.mp read
  rcases bind_eq_error_iff.mp afterReading with undecided | ⟨success, _, decided, unsettled⟩
  · obtain ⟨-, refused⟩ := check_eq_error_iff.mp undecided
    rcases isOfOperands_of_matchOperands refused with ofOperands | ⟨fault, -⟩
    · cases ofOperands
    · cases fault
  · obtain ⟨rfl, -⟩ := check_eq_ok_iff.mp decided
    obtain ⟨refused, -, -⟩ := settleMultiSig_eq_error op verify layout unsettled
    rcases refused with refused | refused | refused <;> cases refused

end Checks

end Operation

open Operation

/-- The footprint of a check of several signatures. Where it ends well, the main stack has lost the
two counts, the items that they count and one more, and gained a truth value unless that was
consumed; the other stacks are as they were, and if the value is false, then all signatures are
empty. No check fails for want of the item below the operands, as the stack must be deep enough for
it before anything is decided. The items may as well be taken off one by one by counting down. -/
theorem Instruction.checkMultiSig_footprint (env : Environment) (op : Opcode)
    (executing verify : Bool) (machine : Machine) :
    (∀ flow left,
      (Instruction.checkMultiSig verify).run env op executing machine = .ok flow left →
      flow = .next ∧ ∃ n m success,
        MultiSigCounted env.policy n m machine.stack ∧ n + m + 3 ≤ machine.stack.length ∧
        left = { machine with
          stack := if verify then machine.stack.drop (n + m + 3)
            else ScriptNumber.ofBool success :: machine.stack.drop (n + m + 3) } ∧
        (verify = true → success = true) ∧
        (success = false →
          ∀ signature ∈ (machine.stack.drop (n + 2)).take m, signature = [])) ∧
    (∀ other left, (Instruction.checkMultiSig verify).run env op executing machine ≠
      .error (.missingDummy other) left) ∧
    (∀ n m, MultiSigCounted env.policy n m machine.stack → machine.stack.length < n + m + 3 →
      (Instruction.checkMultiSig verify).run env op executing machine =
        .error (.stackUnderflow op (n + m + 3)) machine) ∧
    (Instruction.checkMultiSig verify).run env op executing machine =
      onMainThenNext (checkMultiSigByDepth op env verify) machine := by
  refine ⟨fun flow left ran => ?_, fun other left failed => ?_, fun n m counted short => ?_, ?_⟩
  · obtain ⟨rfl, stack, checked, rfl⟩ := onMainThenNext_eq_ok_iff.mp ran
    obtain ⟨n, m, success, counted, deep, rfl, verified, quiet⟩ := checkMultiSig_eq_ok checked
    exact ⟨rfl, n, m, success, counted, deep, rfl, verified, quiet⟩
  · obtain ⟨stack, failedOnMain, -⟩ := onMainThenNext_eq_error_iff.mp failed
    exact checkMultiSig_ne_missingDummy other failedOnMain
  · refine onMainThenNext_eq_error_iff.mpr ⟨machine.stack, ?_, rfl⟩
    rw [Operation.checkMultiSig, bind_apply, multiSigOperands_of_counted op counted, if_pos short]
  · rw [Instruction.run, checkMultiSigByDepth_eq]

/-- An empty signature fits no key, and seven, which lies below the five items of the check, stays.
Without keys and signatures a check still needs three items. -/
theorem Instruction.checkMultiSig_footprint_empty :
    let key : Bytes := 2 :: List.replicate 32 1
    let env : Environment := ⟨{}, fun _ _ _ => false, [], none⟩
    let run := (Instruction.checkMultiSig false).run env 0xae true
    let machine : Machine := { stack := [[1], key, [1], [], [], [7]], alt := [[8]] }
    run machine = .ok .next { machine with stack := [[], [7]] } ∧
      (∃ n m success, MultiSigCounted env.policy n m machine.stack ∧
        [[], [7]] = ScriptNumber.ofBool success :: machine.stack.drop (n + m + 3)) ∧
      MultiSigCounted env.policy 0 0 [[], []] ∧
      run { stack := [[], []] } = .error (.stackUnderflow 0xae 3) { stack := [[], []] } := by
  intro key env run machine
  have ran : run machine = .ok .next { machine with stack := [[], [7]] } := rfl
  obtain ⟨-, n, m, success, counted, -, left, -, -⟩ :=
    (checkMultiSig_footprint env 0xae true false machine).1 _ _ ran
  have none : MultiSigCounted env.policy 0 0 [[], []] :=
    ⟨⟨[], rfl, by decide⟩, ⟨[], rfl, by decide⟩, Nat.le_refl 0, Nat.zero_le _⟩
  obtain ⟨-, -, short, -⟩ := checkMultiSig_footprint env 0xae true false { stack := [[], []] }
  exact ⟨ran, ⟨n, m, success, counted, congrArg Machine.stack left⟩, none,
    short 0 0 none (by decide)⟩

end ScriptSpend
