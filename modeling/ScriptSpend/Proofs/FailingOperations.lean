import ScriptSpend.Proofs.CheckMultiSig
import ScriptSpend.Proofs.CheckSig
import ScriptSpend.Proofs.NumericOperations

/-!
# What failing operations leave

Most operations read all that they need before they change the stack, and fail in place. The others
stay failed, unless the cause tells that items were used up.

## Main results

* `pick_eq_error`, `numberToBytes_eq_error`, `equal_eq_error`, `checkMultiSig_eq_error` and others:
  what an operation that does not fail in place leaves, and for which cause
* `Instruction.staysFailed`, `Chunk.staysFailed`: a chunk that failed fails again in place, unless
  the cause is one that it may recover from
-/

namespace ScriptSpend

open StackAction Operation

section Shuffles

/-- The number of items that a fixed arrangement needs. -/
def Shuffle.needed : Shuffle → Nat
  | .depth => 0
  | .drop | .dup | .ifDup | .size => 1
  | .drop2 | .dup2 | .nip | .over | .swap | .tuck => 2
  | .dup3 | .rot => 3
  | .over2 | .swap2 => 4
  | .rot2 => 6

variable (op : Opcode) {which : Shuffle} {stack : Stack}

theorem Shuffle.run_of_lt (short : stack.length < which.needed) :
    which.run op stack = .error (.stackUnderflow op which.needed) stack := by
  cases which with
  | depth => simp [needed] at short
  | _ => simp_all [Shuffle.run, needed, require_of_lt]

/-- A fixed arrangement of items that are there does not fail. -/
theorem Shuffle.exists_run_eq_ok (enough : which.needed ≤ stack.length) :
    ∃ left, which.run op stack = .ok () left := by
  have required : require op which.needed stack = .ok () stack := require_of_le enough
  -- With the needed items in front, each arrangement can name them.
  obtain ⟨front, rest, rfl, length⟩ :
      ∃ front rest, stack = front ++ rest ∧ front.length = which.needed :=
    ⟨stack.take which.needed, stack.drop which.needed, by simp, by simpa using enough⟩
  cases which with
  | depth => exact ⟨_, rfl⟩
  | drop | dup | size =>
    obtain ⟨_, rfl⟩ := List.length_eq_one_iff.mp length
    simp_all [Shuffle.run, needed, item]
  | ifDup =>
    obtain ⟨top, rfl⟩ := List.length_eq_one_iff.mp length
    cases truth : ScriptNumber.isTrue top <;> simp_all [Shuffle.run, needed, item]
  | drop2 | dup2 | nip | «over» | swap | tuck =>
    obtain ⟨_, _, rfl⟩ := List.length_eq_two.mp length
    simp_all [Shuffle.run, needed, item, removeAt, insertAt, swapAt]
  | dup3 | rot =>
    obtain ⟨_, _, _, rfl⟩ := List.length_eq_three.mp length
    simp_all [Shuffle.run, needed, item, swapAt]
  | over2 | swap2 =>
    obtain ⟨_, _, _, _, rfl⟩ := List.length_eq_four.mp length
    simp_all [Shuffle.run, needed, item, swapAt]
  | rot2 =>
    obtain ⟨_, _, rfl, five⟩ := List.length_eq_succ_iff.mp length
    obtain ⟨_, _, rfl, four⟩ := List.length_eq_succ_iff.mp five
    obtain ⟨_, _, _, _, rfl⟩ := List.length_eq_four.mp four
    simp_all [Shuffle.run, needed, removeAt]

theorem Shuffle.failsInPlace (op : Opcode) (which : Shuffle) : FailsInPlace (which.run op) := by
  intro stack cause left failed
  rcases Nat.lt_or_ge stack.length which.needed with short | enough
  · rw [Shuffle.run_of_lt op short] at failed
    cases failed
    rfl
  · obtain ⟨left, succeeded⟩ := Shuffle.exists_run_eq_ok op enough
    rw [succeeded] at failed
    cases failed

end Shuffles

namespace Operation

section InPlace

variable (op : Opcode) (minimal : Bool)

theorem verify_failsInPlace : FailsInPlace (verify op) := by
  intro stack cause left failed
  match stack with
  | [] => simp_all [verify]
  | top :: rest => cases truth : ScriptNumber.isTrue top <;> simp_all [verify, verifyTop]

theorem digest_failsInPlace (which : DigestOp) : FailsInPlace (digest op which) := by
  intro stack cause left failed
  match stack with
  | [] => simp_all [digest]
  | top :: rest => simp_all [digest]

theorem invert_failsInPlace : FailsInPlace (invert op) := by
  intro stack cause left failed
  match stack with
  | [] => simp_all [invert]
  | top :: rest => simp_all [invert]

theorem cat_failsInPlace (limit : UInt64) : FailsInPlace (cat op limit) := by
  intro stack cause left failed
  match stack with
  | [] | [_] => simp_all [cat]
  | back :: front :: rest =>
    by_cases long : limit.toNat < front.length + back.length <;> simp_all [cat, item]

theorem bitwise_failsInPlace (which : BitwiseOp) : FailsInPlace (bitwise op which) := by
  intro stack cause left failed
  match stack with
  | [] | [_] => simp_all [bitwise]
  | right :: left :: rest =>
    by_cases alike : right.length = left.length <;> simp_all [bitwise, item]

theorem split_failsInPlace : FailsInPlace (split op minimal) := by
  intro stack cause left failed
  match stack with
  | [] | [_] => simp_all [split]
  | top :: bytes :: rest =>
    rcases number_cases minimal 0 (top :: bytes :: rest) with ⟨n, read, -⟩ | ⟨cause, read⟩
    · rw [split_of_number op minimal read] at failed
      split at failed
      · cases failed
        rfl
      · cases failed
    · simp_all [split]

theorem shift_failsInPlace (direction : ShiftDirection) :
    FailsInPlace (shift op minimal direction) := by
  intro stack cause left failed
  match stack with
  | [] | [_] => simp_all [shift]
  | top :: bytes :: rest =>
    by_cases empty : bytes = []
    · rw [empty, shift_of_empty] at failed
      cases failed
    · rcases number_cases minimal 0 (top :: bytes :: rest) with ⟨n, read, -⟩ | ⟨cause, read⟩
      · rw [shift_of_number op minimal empty read] at failed
        split at failed
        · cases failed
          rfl
        · cases failed
      · simp_all [shift, item]

theorem within_failsInPlace : FailsInPlace (within op minimal) := by
  intro stack cause left failed
  match stack with
  | [] | [_] | [_, _] => simp_all [within]
  | upper :: lower :: top :: rest =>
    have reads (depth : Nat) := number_cases minimal depth (upper :: lower :: top :: rest)
    rcases reads 2 with ⟨n, first, -⟩ | ⟨cause, first⟩
    · rcases reads 1 with ⟨n, second, -⟩ | ⟨cause, second⟩
      · rcases reads 0 with ⟨n, third, -⟩ | ⟨cause, third⟩
        · rw [within_of_numbers op minimal rfl first second third] at failed
          cases failed
        · simp_all [within]
      · simp_all [within]
    · simp_all [within]

theorem unary_failsInPlace (which : UnaryOp) : FailsInPlace (unary op minimal which) := by
  intro stack cause left failed
  match stack with
  | [] => simp_all [unary]
  | top :: rest =>
    rcases number_cases minimal 0 (top :: rest) with ⟨n, read, -⟩ | ⟨cause, read⟩
    · rw [unary_of_number op minimal read] at failed
      cases failed
    · simp_all [unary]

end InPlace

section Moving

variable (op : Opcode) (minimal : Bool) {stack left : Stack} {cause : Failure}

/-- A depth is taken off the stack before it is compared with what is left. -/
theorem atStackedDepth_eq_error {action : Nat → StackAction Bytes}
    (found : ∀ depth stack, depth < stack.length →
      ∃ bytes left, action depth stack = .ok bytes left)
    (failed : atStackedDepth op minimal action stack = .error cause left) :
    left = stack ∨ cause = .depthOutOfRange op ∧ ∃ depth, stack = depth :: left := by
  match stack with
  | [] | [_] => simp_all [atStackedDepth]
  | top :: under :: rest =>
    rcases number_cases minimal 0 (top :: under :: rest) with ⟨n, read, -⟩ | ⟨cause, read⟩
    · rw [atStackedDepth_of_number op minimal read] at failed
      split at failed
      · cases failed
        exact .inr ⟨rfl, top, rfl⟩
      · obtain ⟨bytes, below, taken⟩ := found n.toNat (under :: rest) (by omega)
        simp only [bind_apply, taken, push_apply] at failed
        cases failed
    · simp_all [atStackedDepth]

theorem pick_eq_error (failed : pick op minimal stack = .error cause left) :
    left = stack ∨ cause = .depthOutOfRange op ∧ ∃ depth, stack = depth :: left :=
  atStackedDepth_eq_error op minimal
    (fun depth stack inside =>
      ⟨stack[depth], stack, item_of_getElem? (List.getElem?_eq_getElem inside)⟩) failed

theorem roll_eq_error (failed : roll op minimal stack = .error cause left) :
    left = stack ∨ cause = .depthOutOfRange op ∧ ∃ depth, stack = depth :: left :=
  atStackedDepth_eq_error op minimal
    (fun depth stack inside =>
      ⟨stack[depth], stack.eraseIdx depth, by rw [removeAt, List.getElem?_eq_getElem inside]⟩)
    failed

theorem pick_staysFailed : StaysFailed List.length (pick op minimal) :=
  staysFailed_of_forall fun _ _ _ failed => (pick_eq_error op minimal failed).imp_right
    fun ⟨same, _, shape⟩ => .inr ⟨same ▸ rfl, shape ▸ Nat.lt_succ_self _⟩

theorem roll_staysFailed : StaysFailed List.length (roll op minimal) :=
  staysFailed_of_forall fun _ _ _ failed => (roll_eq_error op minimal failed).imp_right
    fun ⟨same, _, shape⟩ => .inr ⟨same ▸ rfl, shape ▸ Nat.lt_succ_self _⟩

/-- A width beyond the limit is refused in place, one that is too small only without the width. -/
theorem numberToBytes_eq_error {limit : UInt64}
    (failed : numberToBytes op minimal limit stack = .error cause left) :
    left = stack ∨ cause = .sizeTooSmall ∧ ∃ width, stack = width :: left := by
  match stack with
  | [] | [_] => simp_all [numberToBytes]
  | top :: bytes :: rest =>
    rcases number_cases minimal 0 (top :: bytes :: rest) with ⟨width, read, -⟩ | ⟨cause, read⟩
    · rw [numberToBytes_of_number op minimal read] at failed
      split at failed
      · cases failed
        exact .inl rfl
      · split at failed
        · cases failed
          exact .inr ⟨rfl, top, rfl⟩
        · cases failed
    · simp_all [numberToBytes]

theorem numberToBytes_staysFailed (limit : UInt64) :
    StaysFailed List.length (numberToBytes op minimal limit) :=
  staysFailed_of_forall fun _ _ _ failed => (numberToBytes_eq_error op minimal failed).imp_right
    fun ⟨same, _, shape⟩ => .inr ⟨same ▸ rfl, shape ▸ Nat.lt_succ_self _⟩

/-- An item that is too long as a number is left in its shortest form. -/
theorem bytesToNumber_eq_error (failed : bytesToNumber op stack = .error cause left) :
    left = stack ∨ ∃ bytes rest, stack = bytes :: rest ∧
      left = ScriptNumber.minimalForm bytes :: rest ∧
      ScriptNumber.isMinimalWithin ScriptNumber.operandLimit
        (ScriptNumber.minimalForm bytes) = false := by
  match stack with
  | [] => simp_all [bytesToNumber]
  | top :: rest =>
    rw [bytesToNumber_cons] at failed
    split at failed
    · cases failed
    · rename_i long
      cases failed
      exact .inr ⟨top, rest, rfl, rfl, Bool.eq_false_of_not_eq_true long⟩

/-- A number that is too long in its shortest form is so in that form already. -/
theorem bytesToNumber_staysFailed : StaysFailed List.length (bytesToNumber op) := by
  refine staysFailed_of_forall fun stack cause left failed => ?_
  rcases bytesToNumber_eq_error op failed with still | ⟨bytes, rest, -, rfl, long⟩
  · exact .inl still
  · exact .inr (.inl ⟨.notANumber, by simp [bytesToNumber, long]⟩)

/-- Two items that differ are replaced by their truth value before it is verified. -/
theorem equal_eq_error {verify : Bool} (failed : equal op verify stack = .error cause left) :
    left = stack ∨ verify = true ∧ cause = .notEqual ∧
      ∃ a b rest result, stack = a :: b :: rest ∧ left = result :: rest := by
  match stack with
  | [] | [_] => simp_all [equal]
  | a :: b :: rest =>
    have ran : equal op verify (a :: b :: rest) =
        if verify then verifyTop .notEqual (ScriptNumber.ofBool (a == b) :: rest)
        else .ok () (ScriptNumber.ofBool (a == b) :: rest) := by
      cases verify <;> simp [equal]
    rw [ran] at failed
    split at failed
    · rename_i verifying
      obtain ⟨rfl, rfl⟩ := verifyTop_eq_error failed
      exact .inr ⟨verifying, rfl, a, b, rest, _, rfl, rfl⟩
    · cases failed

theorem equal_staysFailed (verify : Bool) : StaysFailed List.length (equal op verify) := by
  refine staysFailed_of_forall fun stack cause left failed => ?_
  rcases equal_eq_error op failed with still | ⟨-, rfl, a, b, rest, result, rfl, rfl⟩
  · exact .inl still
  · exact .inr (.inr ⟨rfl, Nat.lt_succ_self _⟩)

/-- So are two numbers; a division by zero is refused in place. -/
theorem binary_eq_error {which : BinaryOp} {verify : Bool}
    (failed : binary op minimal which verify stack = .error cause left) :
    left = stack ∨ verify = true ∧ cause = .notNumericallyEqual ∧
      ∃ a b rest result, stack = a :: b :: rest ∧ left = result :: rest := by
  match stack with
  | [] | [_] => simp_all [binary]
  | right :: deeper :: rest =>
    have reads (depth : Nat) := number_cases minimal depth (right :: deeper :: rest)
    rcases reads 1 with ⟨a, first, -⟩ | ⟨cause, first⟩
    · rcases reads 0 with ⟨b, second, -⟩ | ⟨cause, second⟩
      · rw [binary_of_numbers op minimal first second] at failed
        split at failed
        · cases failed
          exact .inl rfl
        · split at failed
          · rename_i verifying
            obtain ⟨rfl, rfl⟩ := verifyTop_eq_error failed
            exact .inr ⟨verifying, rfl, right, deeper, rest, _, rfl, rfl⟩
          · cases failed
      · simp_all [binary]
    · simp_all [binary]

theorem binary_staysFailed (which : BinaryOp) (verify : Bool) :
    StaysFailed List.length (binary op minimal which verify) := by
  refine staysFailed_of_forall fun stack cause left failed => ?_
  rcases binary_eq_error op minimal failed with still | ⟨-, rfl, a, b, rest, result, rfl, rfl⟩
  · exact .inl still
  · exact .inr (.inr ⟨rfl, Nat.lt_succ_self _⟩)

end Moving

section Signatures

variable (op : Opcode) (env : Environment) (verify : Bool)

/-- A rejected signature leaves the empty item where the next attempt looks for a key. -/
theorem exists_checkSig_of_false (rest : Stack) : ∃ refusal,
    checkSig op env verify (ScriptNumber.ofBool false :: rest) =
      .error refusal (ScriptNumber.ofBool false :: rest) := by
  cases rest with
  | nil => exact ⟨.stackUnderflow op 2, by simp [checkSig, ScriptNumber.ofBool]⟩
  | cons other rest => exact checkSig_of_not_encoded op verify (.inr (by decide))

/-- A check of one signature fails in place, or leaves the empty item for both operands. -/
theorem checkSig_eq_error {env : Environment} {verify : Bool} {stack left : Stack} {cause : Failure}
    (failed : checkSig op env verify stack = .error cause left) :
    left = stack ∨ verify = true ∧ ∃ key signature rest,
      stack = key :: signature :: rest ∧ left = ScriptNumber.ofBool false :: rest := by
  match stack with
  | [] | [_] => simp_all [checkSig]
  | key :: signature :: rest =>
    by_cases encoded :
        checkSignatureEncoding env.policy signature = .ok () ∧ checkKeyEncoding key = .ok ()
    · rw [checkSig_of_encoded op verify encoded.1 encoded.2] at failed
      dsimp only at failed
      split at failed
      · cases failed
        exact .inl rfl
      · split at failed
        · rename_i verifying
          rw [verifyTop_ofBool] at failed
          split at failed
          · cases failed
          · cases failed
            exact .inr ⟨verifying, key, signature, rest, rfl, rfl⟩
        · cases failed
    · obtain ⟨refusal, refused⟩ : ∃ refusal, checkSig op env verify (key :: signature :: rest) =
          .error refusal (key :: signature :: rest) :=
        checkSig_of_not_encoded op verify (Classical.not_and_iff_not_or_not.mp encoded)
      rw [refused] at failed
      cases failed
      exact .inl rfl

/-- The next attempt finds the empty item where a key is expected. -/
theorem checkSig_staysFailed : StaysFailed List.length (checkSig op env verify) := by
  refine staysFailed_of_forall fun stack cause left failed => ?_
  rcases checkSig_eq_error op failed with still | ⟨-, key, signature, rest, rfl, rfl⟩
  · exact .inl still
  · exact .inr (.inl (exists_checkSig_of_false op env verify rest))

theorem multiSigOperands_readsOnly (policy : Policy) : ReadsOnly (multiSigOperands op policy) := by
  refine (require_readsOnly op 1).bind fun _ => (number_readsOnly _ _).bind fun keyCount =>
    (readsOnly_throw _).ite ?_
  refine (require_readsOnly op _).bind fun _ => (number_readsOnly _ _).bind fun signatureCount =>
    (readsOnly_throw _).ite ?_
  exact (require_readsOnly op _).bind fun _ => (items_readsOnly _ _).bind fun _ =>
    (items_readsOnly _ _).bind fun _ => readsOnly_pure _

/-- A check of several signatures that fails after it came to a result has used up items, but none
of those below its operands. -/
theorem settleMultiSig_eq_error {policy : Policy} {success : Bool}
    {operands : MultiSigOperands} {dummy : Bytes} {rest stack left : Stack} {cause : Failure}
    (layout : MultiSigLayout policy operands dummy rest stack)
    (failed : settleMultiSig op policy verify operands success stack = .error cause left) :
    (cause = .noValidSignatures ∨ cause = .dummyNotEmpty op ∨ cause = .rejectedSignature op) ∧
      left.length < stack.length ∧ rest <:+ left := by
  have length := layout.length_eq
  by_cases quiet : success = true ∨ ∀ s ∈ operands.signatures, s = []
  · by_cases admitted : policy.requireNullDummy = true → dummy = []
    · rw [settleMultiSig_of_admitted op verify layout quiet admitted] at failed
      split at failed
      · obtain ⟨rfl, rfl⟩ := verifyTop_eq_error failed
        refine ⟨.inl rfl, ?_, List.suffix_cons _ _⟩
        rw [length, List.length_cons]
        omega
      · cases failed
    · obtain ⟨required, present⟩ := Classical.not_imp.mp admitted
      rw [settleMultiSig_of_dummy op verify layout quiet required present] at failed
      cases failed
      refine ⟨.inr (.inl rfl), ?_, List.suffix_cons _ _⟩
      rw [length, List.length_cons]
      omega
  · simp only [not_or, Bool.not_eq_true, not_forall] at quiet
    obtain ⟨rfl, s, present, nonempty⟩ := quiet
    obtain ⟨_, ⟨waiting, below, rfl⟩, rejected⟩ :=
      settleMultiSig_of_rejected op verify layout ⟨s, present, nonempty⟩
    rw [rejected] at failed
    cases failed
    refine ⟨.inr (.inr rfl), ?_, ⟨waiting ++ [dummy], by simp⟩⟩
    have fewer := below.length_le
    rw [length, List.length_append, List.length_cons]
    omega

/-- A check of several signatures fails in place while it reads its operands and decides. -/
theorem checkMultiSig_eq_error {env : Environment} {verify : Bool} {stack left : Stack}
    {cause : Failure} (failed : checkMultiSig op env verify stack = .error cause left) :
    left = stack ∨ ∃ operands dummy rest, MultiSigLayout env.policy operands dummy rest stack ∧
      (cause = .noValidSignatures ∨ cause = .dummyNotEmpty op ∨ cause = .rejectedSignature op) ∧
      left.length < stack.length ∧ rest <:+ left := by
  rcases multiSigOperands_readsOnly op env.policy stack with ⟨operands, read⟩ | ⟨refusal, read⟩
  · cases decided : env.matchOperands operands with
    | error refusal => simp_all [checkMultiSig]
    | ok success =>
      have settled : settleMultiSig op env.policy verify operands success stack =
          .error cause left := by
        simpa [checkMultiSig, read, decided] using failed
      obtain ⟨-, dummy, rest, layout⟩ := multiSigOperands_eq_ok_iff.mp read
      exact .inr ⟨operands, dummy, rest, layout, settleMultiSig_eq_error op verify layout settled⟩
  · simp_all [checkMultiSig]

theorem checkMultiSig_staysFailed (named : op = 0xae ∨ op = 0xaf) :
    StaysFailed List.length (checkMultiSig op env verify) := by
  refine staysFailed_of_forall fun stack cause left failed => ?_
  rcases checkMultiSig_eq_error op failed with still | ⟨-, -, -, -, refused, shorter, -⟩
  · exact .inl still
  · refine .inr (.inr ⟨?_, shorter⟩)
    rcases refused with rfl | rfl | rfl
    · rfl
    · rfl
    · rcases named with rfl | rfl <;> rfl

end Signatures

end Operation

section Chunks

variable (env : Environment) (op : Opcode) (executing : Bool)

section Machines

variable {op executing} {machine left : Machine} {cause : Failure}

theorem branch_eq_error {negated : Bool}
    (failed : branch op executing negated machine = .error cause left) :
    left = machine ∧ cause = .stackUnderflow op 1 := by
  unfold branch at failed
  split at failed
  · split at failed
    · cases failed
      exact ⟨rfl, rfl⟩
    · cases failed
  · cases failed

theorem otherwise_eq_error (failed : otherwise machine = .error cause left) :
    left = machine ∧ cause = .elseWithoutIf := by
  unfold otherwise at failed
  split at failed
  · cases failed
    exact ⟨rfl, rfl⟩
  · cases failed

theorem endBranch_eq_error (failed : endBranch machine = .error cause left) :
    left = machine ∧ cause = .endifWithoutIf := by
  unfold endBranch at failed
  split at failed
  · cases failed
    exact ⟨rfl, rfl⟩
  · cases failed

theorem toAlt_eq_error (failed : toAlt op machine = .error cause left) :
    left = machine ∧ cause = .stackUnderflow op 1 := by
  unfold toAlt at failed
  split at failed
  · cases failed
    exact ⟨rfl, rfl⟩
  · cases failed

theorem fromAlt_eq_error (failed : fromAlt machine = .error cause left) :
    left = machine ∧ cause = .altStackUnderflow := by
  unfold fromAlt at failed
  split at failed
  · cases failed
    exact ⟨rfl, rfl⟩
  · cases failed

end Machines

/-- Only two opcodes check several signatures. -/
theorem eq_of_ofOpcode_eq_checkMultiSig :
    ∀ op : Opcode, ∀ verify, Instruction.ofOpcode op = .checkMultiSig verify →
      op = 0xae ∨ op = 0xaf :=
  ScriptNumber.forall_byte (by decide +kernel)

/-- An instruction that fails may have changed the main stack, but nothing else. -/
theorem Instruction.exists_stack_of_failed {instruction : Instruction} {machine left : Machine}
    {cause : Failure} (failed : instruction.run env op executing machine = .error cause left) :
    ∃ stack, left = { machine with stack } := by
  have inPlace {action : MachineAction Unit} (still : FailsInPlace action)
      (failed : thenNext action machine = .error cause left) :
      ∃ stack, left = { machine with stack } :=
    ⟨machine.stack, still (thenNext_eq_error_iff.mp failed)⟩
  cases instruction with
  | nop | endSegment | codeSeparator => cases failed
  | invalid =>
    cases failed
    exact ⟨_, rfl⟩
  | branch negated => exact inPlace (fun _ _ _ failed => (branch_eq_error failed).1) failed
  | otherwise => exact inPlace (fun _ _ _ failed => (otherwise_eq_error failed).1) failed
  | endBranch => exact inPlace (fun _ _ _ failed => (endBranch_eq_error failed).1) failed
  | toAlt => exact inPlace (fun _ _ _ failed => (toAlt_eq_error failed).1) failed
  | fromAlt => exact inPlace (fun _ _ _ failed => (fromAlt_eq_error failed).1) failed
  | _ =>
    obtain ⟨stack, -, rfl⟩ := onMainThenNext_eq_error_iff.mp failed
    exact ⟨stack, rfl⟩

/-- An instruction that failed fails again in place, unless it may recover. -/
theorem Instruction.staysFailed :
    StaysFailed Machine.height ((Instruction.ofOpcode op).run env op executing) := by
  have inPlace {action : MachineAction Unit} (still : FailsInPlace action) :
      StaysFailed Machine.height (thenNext action) :=
    FailsInPlace.staysFailed fun _ _ _ failed => still (thenNext_eq_error_iff.mp failed)
  have onMain {action : StackAction Unit} (still : FailsInPlace action) :
      StaysFailed Machine.height (onMainThenNext action) := still.staysFailed.onMainThenNext
  have named := eq_of_ofOpcode_eq_checkMultiSig op
  cases instruction : Instruction.ofOpcode op with
  | nop | endSegment | codeSeparator => exact fun _ _ _ failed => nomatch failed
  | constant n => exact onMain fun _ _ _ failed => nomatch failed
  | invalid => exact FailsInPlace.staysFailed fun _ _ _ failed => by cases failed; rfl
  | branch negated => exact inPlace fun _ _ _ failed => (branch_eq_error failed).1
  | otherwise => exact inPlace fun _ _ _ failed => (otherwise_eq_error failed).1
  | endBranch => exact inPlace fun _ _ _ failed => (endBranch_eq_error failed).1
  | toAlt => exact inPlace fun _ _ _ failed => (toAlt_eq_error failed).1
  | fromAlt => exact inPlace fun _ _ _ failed => (fromAlt_eq_error failed).1
  | verify => exact onMain (verify_failsInPlace op)
  | shuffle which => exact onMain (which.failsInPlace op)
  | pick => exact (pick_staysFailed op _).onMainThenNext
  | roll => exact (roll_staysFailed op _).onMainThenNext
  | cat => exact onMain (cat_failsInPlace op _)
  | split => exact onMain (split_failsInPlace op _)
  | numberToBytes => exact (numberToBytes_staysFailed op _ _).onMainThenNext
  | bytesToNumber => exact (bytesToNumber_staysFailed op).onMainThenNext
  | invert => exact onMain (invert_failsInPlace op)
  | bitwise which => exact onMain (bitwise_failsInPlace op which)
  | shift direction => exact onMain (shift_failsInPlace op _ direction)
  | equal verifying => exact (equal_staysFailed op verifying).onMainThenNext
  | unary which => exact onMain (unary_failsInPlace op _ which)
  | binary which verifying => exact (binary_staysFailed op _ which verifying).onMainThenNext
  | within => exact onMain (within_failsInPlace op _)
  | digest which => exact onMain (digest_failsInPlace op which)
  | checkSig verifying => exact (checkSig_staysFailed op env verifying).onMainThenNext
  | checkMultiSig verifying =>
    exact (checkMultiSig_staysFailed op env verifying (named verifying instruction)).onMainThenNext

/-- A chunk that fails has failed in place, or its instruction has. -/
theorem Chunk.run_of_execute_eq_error {chunk : Chunk} {machine left : Machine} {cause : Failure}
    (failed : chunk.execute env machine = .error cause left) :
    left = machine ∨ ∀ other : Machine, other.isExecuting = machine.isExecuting →
      chunk.execute env other =
        (Instruction.ofOpcode chunk.opcode).run env chunk.opcode other.isExecuting other := by
  by_cases long : env.policy.maxElementSize.toNat < chunk.data.length
  · simp_all [Chunk.execute]
  by_cases disabled : (machine.isExecuting && chunk.opcode.isDisabled) = true
  · simp_all [Chunk.execute]
  by_cases push : chunk.opcode.isPush = true
  · left
    simp only [Chunk.execute, if_neg long, if_neg disabled, if_pos push] at failed
    split at failed
    · unfold Chunk.pushData at failed
      split at failed
      · cases failed
        rfl
      · cases failed
    · cases failed
  by_cases skipped : (!machine.isExecuting && !chunk.opcode.isConditional) = true
  · simp_all [Chunk.execute]
  · right
    intro other same
    rw [← same] at disabled skipped
    simp only [Chunk.execute, if_neg long, if_neg disabled, if_neg push, if_neg skipped]

/-- A chunk that failed fails again in place, unless it may recover. -/
theorem Chunk.staysFailed (chunk : Chunk) : StaysFailed Machine.height (chunk.execute env) := by
  refine staysFailed_of_forall fun machine cause left failed => ?_
  rcases Chunk.run_of_execute_eq_error env failed with still | runs
  · exact .inl still
  · right
    -- How a chunk is executed depends on the branches, and an instruction that fails keeps these.
    rw [runs machine rfl] at failed
    obtain ⟨stack, rfl⟩ := Instruction.exists_stack_of_failed env _ _ failed
    refine (Instruction.staysFailed env chunk.opcode machine.isExecuting failed).imp_left ?_
    rintro ⟨again, failedAgain⟩
    exact ⟨again, (runs { machine with stack } rfl).trans failedAgain⟩

end Chunks

end ScriptSpend
