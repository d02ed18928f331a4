import ScriptSpend.Proofs.FailingOperations
import ScriptSpend.Proofs.FaultlessActions

/-!
# Operations without faults

No operation leaves its domain, on whatever stack it is tried. Each asks for as many items as it
goes on to address, and asks again where the number of items depends on what it has read. What it
fails for is a cause of chunks.

## Main results

* `isOfChunk_of_matchOperands`: while no more signatures wait than keys are left, the pass over both
  does not run out of keys
* `Operation.multiSigOperands_faultless`: the operands of a check of several signatures all lie on
  the stack
* `Chunk.execute_neverFaults`: no chunk ends in a fault, and each fails for causes of chunks only,
  on any stacks
-/

namespace ScriptSpend

open StackAction Operation

theorem Shuffle.run_neverFaults (op : Opcode) (which : Shuffle) :
    NeverFaults (which.run op) := by
  refine neverFaults_of_isOfChunk fun stack cause left failed => ?_
  rcases Nat.lt_or_ge stack.length which.needed with short | enough
  · rw [Shuffle.run_of_lt op short] at failed
    cases failed
    rfl
  · obtain ⟨left, succeeded⟩ := Shuffle.exists_run_eq_ok op enough
    rw [succeeded] at failed
    cases failed

namespace Operation

section Items

variable (op : Opcode) (minimal : Bool)

theorem verify_neverFaults : NeverFaults (verify op) :=
  (require_faultless op 1).bind fun _ => verifyTop_faultless rfl

theorem digest_neverFaults (which : DigestOp) :
    NeverFaults (digest op which) :=
  (require_faultless op 1).bind fun _ => pop_faultless.bind fun _ =>
    (push_faultless _).last

theorem invert_neverFaults : NeverFaults (invert op) :=
  (require_faultless op 1).bind fun _ => (item_faultless (by decide)).bind fun _ =>
    (replaceTop_faultless _).last

theorem bitwise_neverFaults (which : BitwiseOp) :
    NeverFaults (bitwise op which) :=
  (require_faultless op 2).bind fun _ => (item_faultless (by decide)).bind fun _ =>
    (item_faultless (by decide)).bind fun _ =>
      .ite
        (fun _ => drop_faultless.bind fun _ =>
          (replaceTop_faultless _).last)
        fun _ => faultless_throw rfl

theorem cat_neverFaults (limit : UInt64) :
    NeverFaults (cat op limit) :=
  (require_faultless op 2).bind fun _ => (item_faultless (by decide)).bind fun _ =>
    (item_faultless (by decide)).bind fun _ =>
      .ite (fun _ => faultless_throw rfl) fun _ =>
        drop_faultless.bind fun _ =>
          (replaceTop_faultless _).last

theorem equal_neverFaults (verifying : Bool) :
    NeverFaults (equal op verifying) :=
  (require_faultless op 2).bind fun _ => pop_faultless.bind fun _ => pop_faultless.bind fun _ =>
    (pushBool_faultless _).bind fun _ => verifying_faultless rfl verifying

theorem bytesToNumber_neverFaults : NeverFaults (bytesToNumber op) :=
  (require_faultless op 1).bind fun _ => (item_faultless (by decide)).bind fun _ =>
    (replaceTop_faultless _).bind fun _ =>
      .ite (fun _ => faultless_pure fun _ _ => trivial)
        fun _ => faultless_throw rfl

end Items

section Numbers

variable (op : Opcode) (minimal : Bool)

theorem split_neverFaults : NeverFaults (split op minimal) :=
  (require_faultless op 2).bind fun _ => (number_faultless minimal (by decide)).bind fun _ =>
    faultless_and fun _ => (item_faultless (by decide)).bind fun _ =>
      .ite (fun _ => faultless_throw rfl) fun _ =>
        drop_faultless.bind fun _ => drop_faultless.bind fun _ =>
          (push_faultless _).bind fun _ => (push_faultless _).last

theorem shift_neverFaults (direction : ShiftDirection) :
    NeverFaults (shift op minimal direction) :=
  (require_faultless op 2).bind fun _ => (item_faultless (by decide)).bind fun _ =>
    .ite (fun _ => drop_faultless.last) fun _ =>
      (number_faultless minimal (by decide)).bind fun _ => faultless_and fun _ =>
        .ite (fun _ => faultless_throw rfl) fun _ =>
          drop_faultless.bind fun _ => drop_faultless.bind fun _ => (push_faultless _).last

theorem numberToBytes_neverFaults (limit : UInt64) :
    NeverFaults (numberToBytes op minimal limit) :=
  (require_faultless op 2).bind fun _ => (number_faultless minimal (by decide)).bind fun _ =>
    faultless_and fun _ => .ite (fun _ => faultless_throw rfl) fun _ =>
      drop_faultless.bind fun _ => (item_faultless (by decide)).bind fun _ =>
        .ite (fun _ => faultless_throw rfl) fun _ => (replaceTop_faultless _).last

theorem within_neverFaults : NeverFaults (within op minimal) :=
  (require_faultless op 3).bind fun _ => (number_faultless minimal (by decide)).bind fun _ =>
    faultless_and fun _ => (number_faultless minimal (by decide)).bind fun _ =>
      faultless_and fun _ => (number_faultless minimal (by decide)).bind fun _ =>
        faultless_and fun _ => drop_faultless.bind fun _ => drop_faultless.bind fun _ =>
          drop_faultless.bind fun _ => (pushBool_faultless _).last

/-- One more or one less than a number operand, and its negative and its magnitude, are signed
words. -/
theorem unary_neverFaults (which : UnaryOp) : NeverFaults (unary op minimal which) :=
  (require_faultless op 1).bind fun _ => (number_faultless minimal (by decide)).bind fun _ =>
    faultless_and fun small => drop_faultless.bind fun _ =>
      (pushNumber_faultless (which.natAbs_apply_lt small)).last

/-- So are sums, differences, products, quotients and remainders of two operands. -/
theorem binary_neverFaults (which : BinaryOp) (verifying : Bool) :
    NeverFaults (binary op minimal which verifying) := by
  refine (require_faultless op 2).bind fun _ => (number_faultless minimal (by decide)).bind fun a =>
    faultless_and fun smallLeft => (number_faultless minimal (by decide)).bind fun b =>
      faultless_and fun smallRight => ?_
  cases applied : which.apply? a b with
  | none => exact faultless_throw rfl
  | some result =>
    have small := BinaryOp.natAbs_apply_lt smallLeft smallRight applied
    exact drop_faultless.bind fun _ => drop_faultless.bind fun _ =>
      (pushNumber_faultless small).bind fun _ =>
        verifying_faultless rfl verifying

/-- A depth that passed the comparison with the size of the stack can be accessed. -/
theorem atStackedDepth_neverFaults {action : Nat → StackAction Bytes}
    (reachable : ∀ depth, Faultless (Holds (depth + 1)) (action depth) fun _ _ => True) :
    NeverFaults (atStackedDepth op minimal action) := by
  refine (require_faultless op 2).bind fun _ => (number_faultless minimal (by decide)).bind fun n =>
    faultless_and fun _ => drop_faultless.bind fun _ => ?_
  refine (size_faultless).bind fun count =>
    .ite (fun _ => faultless_throw rfl) fun inside => ?_
  have deep : n.toNat + 1 ≤ count := by omega
  refine ((reachable n.toNat).weaken ?_ fun _ _ => id).bind fun bytes => ?_
  · rintro stack ⟨rfl, -⟩
    exact deep
  · exact .of_ok fun stack _ => ⟨(), bytes :: stack, rfl, trivial⟩

theorem pick_neverFaults : NeverFaults (pick op minimal) :=
  atStackedDepth_neverFaults op minimal fun depth => (item_faultless (Nat.lt_succ_self depth)).last

theorem roll_neverFaults : NeverFaults (roll op minimal) :=
  atStackedDepth_neverFaults op minimal fun depth =>
    (removeAt_faultless (Nat.lt_succ_self depth)).last

end Numbers

end Operation

section Encodings

variable {env : Environment} {policy : Policy} {subscript : Script} {item key : Bytes}
  {cause : Failure}

theorem isOfChunk_of_checkSignatureEncoding
    (refused : checkSignatureEncoding policy item = .error cause) : cause.isOfChunk = true :=
  Failure.isOfChunk_of_isOfOperands (isOfOperands_of_checkSignatureEncoding refused)

theorem isOfChunk_of_checkKeyEncoding (refused : checkKeyEncoding key = .error cause) :
    cause.isOfChunk = true :=
  Failure.isOfChunk_of_isOfOperands (isOfOperands_of_checkKeyEncoding refused)

theorem isOfChunk_of_stripSignature (refused : stripSignature subscript item = .error cause) :
    cause.isOfChunk = true :=
  Failure.isOfChunk_of_isOfOperands (isOfOperands_of_stripSignature refused)

/-- While no more signatures wait than keys are left, the pass over both does not run out of keys.
-/
theorem isOfChunk_of_matchOperands {operands : MultiSigOperands}
    (enough : operands.signatures.length ≤ operands.keys.length)
    (refused : env.matchOperands operands = .error cause) : cause.isOfChunk = true :=
  Failure.isOfChunk_of_isOfOperands <|
    (isOfOperands_of_matchOperands refused).resolve_right fun ⟨_, short⟩ =>
      absurd enough (Nat.not_le.mpr short)

end Encodings

namespace Operation

section Signatures

variable (op : Opcode) (env : Environment) (verifying : Bool)

theorem checkSig_neverFaults : NeverFaults (checkSig op env verifying) :=
  (require_faultless op 2).bind fun _ => (item_faultless (by decide)).bind fun _ =>
    (item_faultless (by decide)).bind fun _ =>
      (check_faultless fun _ => isOfChunk_of_checkSignatureEncoding).bind fun _ =>
        faultless_and fun _ =>
          (check_faultless fun _ => isOfChunk_of_checkKeyEncoding).bind fun _ =>
            faultless_and fun _ =>
              (check_faultless fun _ => isOfChunk_of_stripSignature).bind fun _ =>
                faultless_and fun _ => .ite (fun _ => faultless_throw rfl) fun _ =>
                  drop_faultless.bind fun _ => drop_faultless.bind fun _ =>
                    (pushBool_faultless _).bind fun _ => verifying_faultless rfl verifying

variable {n : Nat}

theorem items_faultless {start count : Nat} (inside : start + count ≤ n) :
    Faultless (Holds n) (items start count) fun found stack =>
      found.length = count ∧ Holds n stack :=
  .of_ok fun stack holds => by
    have within : start + count ≤ stack.length := Nat.le_trans inside holds
    exact ⟨(stack.drop start).take count, stack, if_pos within, length_take_drop within, holds⟩

/-- The operands that are read lie on the stack, above one more item, and no more signatures than
keys are among them. -/
theorem multiSigOperands_faultless (policy : Policy) :
    Faultless (fun _ => True) (multiSigOperands op policy) fun operands stack =>
      operands.signatures.length ≤ operands.keys.length ∧
        Holds (operands.keys.length + operands.signatures.length + 3) stack := by
  refine (require_faultless op 1).bind fun _ =>
    (number_faultless policy.requireMinimalPush (by decide)).bind fun keyCount =>
      faultless_and fun _ => .ite (fun _ => faultless_throw rfl) fun keysInRange =>
        ?_
  refine ((require_faultless op _).weaken (fun _ _ => trivial) fun _ _ => id).bind fun _ =>
    (number_faultless policy.requireMinimalPush (Nat.lt_succ_self _)).bind fun signatureCount =>
      faultless_and fun _ =>
        .ite (fun _ => faultless_throw rfl) fun signaturesInRange => ?_
  refine ((require_faultless op _).weaken (fun _ _ => trivial) fun _ _ => id).bind fun _ =>
    (items_faultless (by omega)).bind fun keys => faultless_and fun allKeys =>
      (items_faultless (by omega)).bind fun signatures => faultless_and fun allSignatures => ?_
  refine faultless_pure fun stack holds => ?_
  dsimp only
  rw [allKeys, allSignatures]
  exact ⟨by omega, holds⟩

theorem dropMany_faultless (count : Nat) :
    Faultless (Holds (n + count)) (dropMany count) fun _ => Holds n := by
  induction count with
  | zero => exact faultless_pure fun _ => id
  | succ count ih => exact drop_faultless.bind fun _ => ih

theorem dropSignatures_faultless (success : Bool) (count : Nat) :
    Faultless (Holds (n + count)) (dropSignatures op success count) fun _ => Holds n := by
  induction count with
  | zero => exact faultless_pure fun _ => id
  | succ count ih =>
    exact (item_faultless (Nat.zero_lt_succ _)).bind fun _ =>
      .ite (fun _ => faultless_throw rfl) fun _ => drop_faultless.bind fun _ => ih

/-- The operands and one more item are there to be removed. -/
theorem settleMultiSig_faultless (policy : Policy) (operands : MultiSigOperands) (success : Bool) :
    Faultless (Holds (operands.keys.length + operands.signatures.length + 3))
      (settleMultiSig op policy verifying operands success) fun _ _ => True := by
  have shape : operands.keys.length + operands.signatures.length + 3 =
      0 + 1 + operands.signatures.length + (operands.keys.length + 2) := by omega
  rw [shape]
  refine (dropMany_faultless _).bind fun _ => (dropSignatures_faultless op success _).bind fun _ =>
    size_faultless.bind fun _ =>
      .ite (fun _ => faultless_throw rfl) fun _ => ?_
  refine .weaken ?_ (fun _ holds => holds.2) fun _ _ => id
  exact (item_faultless (by decide)).bind fun _ =>
    .ite (fun _ => faultless_throw rfl) fun _ => drop_faultless.bind fun _ =>
      (pushBool_faultless _).bind fun _ => verifying_faultless rfl verifying

theorem checkMultiSig_neverFaults : NeverFaults (checkMultiSig op env verifying) :=
  (multiSigOperands_faultless op env.policy).bind fun operands => faultless_and fun enough =>
    (check_faultless fun _ => isOfChunk_of_matchOperands enough).bind fun success =>
      faultless_and fun _ => settleMultiSig_faultless op verifying env.policy operands success

end Signatures

end Operation

section Chunks

/-- An action on all stacks that fails for one cause only, which is one of chunks. -/
theorem thenNext_neverFaults_of_cause {action : MachineAction Unit} {cause : Failure}
    (ofChunk : cause.isOfChunk = true)
    (single : ∀ machine given left, action machine = .error given left → given = cause) :
    NeverFaults (thenNext action) :=
  neverFaults_of_isOfChunk fun machine given left failed =>
    single machine given left (thenNext_eq_error_iff.mp failed) ▸ ofChunk

variable (env : Environment)

theorem Instruction.run_neverFaults (instruction : Instruction) (op : Opcode) (executing : Bool) :
    NeverFaults (instruction.run env op executing) := by
  cases instruction with
  | constant n =>
    exact NeverFaults.onMainThenNext (.of_ok fun _ _ => ⟨(), _, rfl, trivial⟩)
  | nop | endSegment | codeSeparator => exact faultless_pure fun _ _ => trivial
  | branch negated => exact thenNext_neverFaults_of_cause rfl fun _ _ _ failed =>
      (branch_eq_error failed).2
  | otherwise => exact thenNext_neverFaults_of_cause rfl fun _ _ _ failed =>
      (otherwise_eq_error failed).2
  | endBranch => exact thenNext_neverFaults_of_cause rfl fun _ _ _ failed =>
      (endBranch_eq_error failed).2
  | verify => exact (verify_neverFaults op).onMainThenNext
  | toAlt => exact thenNext_neverFaults_of_cause rfl fun _ _ _ failed =>
      (toAlt_eq_error failed).2
  | fromAlt => exact thenNext_neverFaults_of_cause rfl fun _ _ _ failed =>
      (fromAlt_eq_error failed).2
  | shuffle which => exact (which.run_neverFaults op).onMainThenNext
  | pick => exact (pick_neverFaults op _).onMainThenNext
  | roll => exact (roll_neverFaults op _).onMainThenNext
  | cat => exact (cat_neverFaults op _).onMainThenNext
  | split => exact (split_neverFaults op _).onMainThenNext
  | numberToBytes => exact (numberToBytes_neverFaults op _ _).onMainThenNext
  | bytesToNumber => exact (bytesToNumber_neverFaults op).onMainThenNext
  | invert => exact (invert_neverFaults op).onMainThenNext
  | bitwise which => exact (bitwise_neverFaults op which).onMainThenNext
  | shift direction => exact (shift_neverFaults op _ direction).onMainThenNext
  | equal verifying => exact (equal_neverFaults op verifying).onMainThenNext
  | unary which => exact (unary_neverFaults op _ which).onMainThenNext
  | binary which verifying => exact (binary_neverFaults op _ which verifying).onMainThenNext
  | within => exact (within_neverFaults op _).onMainThenNext
  | digest which => exact (digest_neverFaults op which).onMainThenNext
  | checkSig verifying => exact (checkSig_neverFaults op env verifying).onMainThenNext
  | checkMultiSig verifying => exact (checkMultiSig_neverFaults op env verifying).onMainThenNext
  | invalid => exact faultless_throw rfl

theorem Chunk.pushData_neverFaults (chunk : Chunk) (policy : Policy) :
    NeverFaults (chunk.pushData policy) :=
  .ite (fun _ => faultless_throw rfl) fun _ =>
    NeverFaults.onMainThenNext (.of_ok fun _ _ => ⟨(), _, rfl, trivial⟩)

/-- Executing a chunk fails for causes of chunks only, whatever its opcode and payload and whatever
is on the stacks. -/
theorem Chunk.execute_neverFaults (chunk : Chunk) : NeverFaults (chunk.execute env) := by
  refine neverFaults_of_isOfChunk fun machine cause left failed => ?_
  unfold Chunk.execute at failed
  dsimp only at failed
  split at failed
  · cases failed
    rfl
  · split at failed
    · cases failed
      rfl
    · split at failed
      · split at failed
        · exact (chunk.pushData_neverFaults env.policy).isOfChunk failed
        · cases failed
      · split at failed
        · cases failed
        · exact (Instruction.run_neverFaults env _ _ _).isOfChunk failed

end Chunks

end ScriptSpend
