import ScriptSpend.Proofs.ConfinedActions
import ScriptSpend.Proofs.LenientActions

/-!
# Confined operations

No operation leaves an item that is longer than the limit on elements, if that limit admits the
digests, which have at most 32 bytes. Two operations ask for the limit themselves, since they make
items longer. All others only copy, cut or rewrite items in their own width, write numbers, which
are short, or write digests.

## Main results

* `Shuffle.run_confined`: no arrangement adds more than three items
* `Operation.numberToBytes_confined`: a limit that is negative as a signed word admits no widening
* `Operation.checkMultiSig_confined`: a check of several signatures, with its loops
-/

namespace ScriptSpend

open StackAction

variable {size : Nat} {top rise : Int}

section Lengths

theorem DigestOp.length_apply_le (which : DigestOp) (bytes : Bytes) :
    (which.apply bytes).length ≤ 32 := by
  cases which <;> simp [DigestOp.apply]

/-- A count that is not astronomical takes no more bytes than a digest. -/
theorem length_encode_count_le (roomy : 32 ≤ size) {count : Nat} (few : count < 256 ^ 31) :
    (ScriptNumber.encode count).length ≤ size := by
  have small : (count : Int).natAbs < 256 ^ 31 := by omega
  have length := ScriptNumber.length_encode_le small
  omega

/-- A width that a limit admits as a signed word is admitted by the limit itself. -/
theorem toNat_le_of_le_toInt64 {limit : UInt64} {width : Int} (positive : 0 ≤ width)
    (within : width ≤ limit.toInt64.toInt) : width.toNat ≤ limit.toNat := by
  rcases Nat.lt_or_ge limit.toNat (2 ^ 63) with narrow | wide
  · rw [toInt_toInt64_of_lt narrow] at within
    omega
  · have negative := toInt_toInt64_of_ge wide
    omega

end Lengths

/-- No arrangement makes an item, but for two that write a count, and none adds more than three. -/
theorem Shuffle.run_confined (roomy : 32 ≤ size) (counted : size < 2 ^ 64) (few : top < 256 ^ 31)
    (op : Opcode) (which : Shuffle) :
    Confined size top 0 (which.run op) (fun _ => True) 3 := by
  cases which with
  | depth =>
    refine Confined.last (size_confined.bind fun count most => push_confined ?_) (by decide)
    exact length_encode_count_le roomy (by omega)
  | drop =>
    exact ((require_confined op 1 (by decide)).bind fun _ _ => drop_confined (by decide)).last
      (by decide)
  | drop2 =>
    exact ((require_confined op 2 (by decide)).bind fun _ _ =>
      (drop_confined (by decide)).bind fun _ _ => drop_confined (by decide)).last (by decide)
  | dup =>
    exact ((require_confined op 1 (by decide)).bind fun _ _ =>
      (item_confined 0 (by decide)).bind fun _ short => push_confined short).last (by decide)
  | dup2 =>
    exact ((require_confined op 2 (by decide)).bind fun _ _ =>
      (item_confined 1 (by decide)).bind fun _ shortX =>
        (item_confined 0 (by decide)).bind fun _ shortY =>
          (push_confined shortX).bind fun _ _ => push_confined shortY).last (by decide)
  | dup3 =>
    exact ((require_confined op 3 (by decide)).bind fun _ _ =>
      (item_confined 2 (by decide)).bind fun _ shortX =>
        (item_confined 1 (by decide)).bind fun _ shortY =>
          (item_confined 0 (by decide)).bind fun _ shortZ =>
            (push_confined shortX).bind fun _ _ =>
              (push_confined shortY).bind fun _ _ => push_confined shortZ).last (by decide)
  | ifDup =>
    exact (require_confined op 1 (by decide)).bind fun _ _ =>
      (item_confined 0 (by decide)).bind fun _ short =>
        .ite (fun _ => (push_confined short).last (by decide)) fun _ =>
          confined_done (by decide)
  | nip =>
    exact ((require_confined op 2 (by decide)).bind fun _ _ =>
      (removeAt_confined 1 (by decide)).bind fun _ _ =>
        confined_done (Int.le_refl _)).last (by decide)
  | «over» =>
    exact ((require_confined op 2 (by decide)).bind fun _ _ =>
      (item_confined 1 (by decide)).bind fun _ short => push_confined short).last (by decide)
  | over2 =>
    exact ((require_confined op 4 (by decide)).bind fun _ _ =>
      (item_confined 3 (by decide)).bind fun _ shortX =>
        (item_confined 2 (by decide)).bind fun _ shortY =>
          (push_confined shortX).bind fun _ _ => push_confined shortY).last (by decide)
  | rot =>
    exact ((require_confined op 3 (by decide)).bind fun _ _ =>
      (swapAt_confined 2 1 (by decide)).bind fun _ _ => swapAt_confined 1 0 (by decide)).last
      (by decide)
  | rot2 =>
    exact ((require_confined op 6 (by decide)).bind fun _ _ =>
      (removeAt_confined 5 (by decide)).bind fun _ shortX =>
        (removeAt_confined 4 (by decide)).bind fun _ shortY =>
          (push_confined shortX).bind fun _ _ => push_confined shortY).last (by decide)
  | swap =>
    exact ((require_confined op 2 (by decide)).bind fun _ _ =>
      swapAt_confined 1 0 (by decide)).last (by decide)
  | swap2 =>
    exact ((require_confined op 4 (by decide)).bind fun _ _ =>
      (swapAt_confined 3 1 (by decide)).bind fun _ _ => swapAt_confined 2 0 (by decide)).last
      (by decide)
  | tuck =>
    exact ((require_confined op 2 (by decide)).bind fun _ _ =>
      (item_confined 0 (by decide)).bind fun _ short =>
        insertAt_confined 2 short (by decide)).last (by decide)
  | size =>
    refine Confined.last ((require_confined op 1 (by decide)).bind fun _ _ =>
      (item_confined 0 (by decide)).bind fun x short => push_confined ?_) (by decide)
    exact length_encode_count_le roomy (by omega)

namespace Operation

section Items

variable (op : Opcode) (minimal : Bool)

theorem verify_confined : Confined size top 0 (verify op) (fun _ => True) 3 :=
  ((require_confined op 1 (by decide)).bind fun _ _ => verifyTop_confined _ (by decide)).last
    (by decide)

theorem digest_confined (roomy : 32 ≤ size) (which : DigestOp) :
    Confined size top 0 (digest op which) (fun _ => True) 3 :=
  ((require_confined op 1 (by decide)).bind fun _ _ =>
    (pop_confined (by decide)).bind fun bytes _ =>
      push_confined (Nat.le_trans (which.length_apply_le bytes) roomy)).last (by decide)

theorem invert_confined : Confined size top 0 (invert op) (fun _ => True) 3 :=
  ((require_confined op 1 (by decide)).bind fun _ _ =>
    (item_confined 0 (by decide)).bind fun bytes short =>
      replaceTop_confined (by simpa using short) (by decide)).last (by decide)

theorem bitwise_confined (which : BitwiseOp) :
    Confined size top 0 (bitwise op which) (fun _ => True) 3 :=
  (require_confined op 2 (by decide)).bind fun _ _ =>
    (item_confined 0 (by decide)).bind fun right _ =>
      (item_confined 1 (by decide)).bind fun left short =>
        .ite (fun _ => ((drop_confined (by decide)).bind fun _ _ =>
            replaceTop_confined (by rw [List.length_zipWith]; omega) (by decide)).last (by decide))
          fun _ => confined_throw (by decide)

/-- Joining asks for the limit itself. -/
theorem cat_confined {limit : UInt64} (limited : limit.toNat ≤ size) :
    Confined size top 0 (cat op limit) (fun _ => True) 3 :=
  (require_confined op 2 (by decide)).bind fun _ _ =>
    (item_confined 1 (by decide)).bind fun front _ =>
      (item_confined 0 (by decide)).bind fun back _ =>
        .ite (fun _ => confined_throw (by decide)) fun _ =>
          ((drop_confined (by decide)).bind fun _ _ =>
            replaceTop_confined (by rw [List.length_append]; omega) (by decide)).last (by decide)

theorem split_confined : Confined size top 0 (split op minimal) (fun _ => True) 3 :=
  (require_confined op 2 (by decide)).bind fun _ _ =>
    (number_confined minimal 0 (by decide)).bind fun position _ =>
      (item_confined 1 (by decide)).bind fun bytes short =>
        .ite (fun _ => confined_throw (by decide)) fun _ =>
          ((drop_confined (by decide)).bind fun _ _ => (drop_confined (by decide)).bind fun _ _ =>
            (push_confined (by rw [List.length_take]; omega)).bind fun _ _ =>
              push_confined (by rw [List.length_drop]; omega)).last (by decide)

/-- So does widening, which reads the limit as a signed word: if it is negative, so is every width
that passes, and is refused for that. -/
theorem numberToBytes_confined {limit : UInt64} (limited : limit.toNat ≤ size) :
    Confined size top 0 (numberToBytes op minimal limit) (fun _ => True) 3 := by
  refine (require_confined op 2 (by decide)).bind fun _ _ =>
    (number_confined minimal 0 (by decide)).bind fun width _ =>
      .ite (fun _ => confined_throw (by decide)) fun within => ?_
  refine (drop_confined (by decide)).bind fun _ _ =>
    (item_confined 0 (by decide)).bind fun bytes _ =>
      .ite (fun _ => confined_throw (by decide)) fun fits => ?_
  rw [not_or, Int.not_lt, Nat.not_lt] at fits
  have wide := toNat_le_of_le_toInt64 fits.1 (Int.not_lt.mp within)
  have length := ScriptNumber.length_widen fits.2
  exact (replaceTop_confined (by omega) (by decide)).last (by decide)

/-- The new form of the item stays even if it is refused, and is no longer than the old one. -/
theorem bytesToNumber_confined : Confined size top 0 (bytesToNumber op) (fun _ => True) 3 :=
  (require_confined op 1 (by decide)).bind fun _ _ =>
    (item_confined 0 (by decide)).bind fun bytes short =>
      (replaceTop_confined (Nat.le_trans (ScriptNumber.length_minimalForm_le bytes) short)
        (by decide)).bind fun _ _ =>
          .ite (fun _ => confined_done (by decide)) fun _ =>
            confined_throw (by decide)

theorem shift_confined (direction : ShiftDirection) :
    Confined size top 0 (shift op minimal direction) (fun _ => True) 3 :=
  (require_confined op 2 (by decide)).bind fun _ _ =>
    (item_confined 1 (by decide)).bind fun bytes short =>
      .ite (fun _ => (drop_confined (by decide)).last (by decide)) fun _ =>
        (number_confined minimal 0 (by decide)).bind fun n _ =>
          .ite (fun _ => confined_throw (by decide)) fun _ =>
            ((drop_confined (by decide)).bind fun _ _ => (drop_confined (by decide)).bind fun _ _ =>
              push_confined (by rwa [ShiftDirection.length_apply])).last (by decide)

theorem equal_confined (roomy : 32 ≤ size) (verifying : Bool) :
    Confined size top 0 (equal op verifying) (fun _ => True) 3 :=
  ((require_confined op 2 (by decide)).bind fun _ _ => (pop_confined (by decide)).bind fun _ _ =>
    (pop_confined (by decide)).bind fun _ _ => (pushBool_confined roomy _).bind fun _ _ =>
      verifying_confined _ verifying (by decide)).last (by decide)

/-- An item that is picked is copied, and one that is rolled is moved. -/
theorem atStackedDepth_confined {action : Nat → StackAction Bytes} {after : Int} (low : after ≤ -1)
    (takes : ∀ depth, Confined size top (-1) (action depth) (fun bytes => bytes.length ≤ size)
      after) :
    Confined size top 0 (atStackedDepth op minimal action) (fun _ => True) 3 :=
  (require_confined op 2 (by decide)).bind fun _ _ =>
    (number_confined minimal 0 (by decide)).bind fun _ _ =>
      (drop_confined (by decide)).bind fun _ _ => size_confined.bind fun _ _ =>
        .ite (fun _ => confined_throw (by decide)) fun _ =>
          ((takes _).bind fun _ short => push_confined short).last (by omega)

theorem pick_confined : Confined size top 0 (pick op minimal) (fun _ => True) 3 :=
  atStackedDepth_confined op minimal (Int.le_refl _) fun depth => item_confined depth (by decide)

theorem roll_confined : Confined size top 0 (roll op minimal) (fun _ => True) 3 :=
  atStackedDepth_confined op minimal (by decide) fun depth => removeAt_confined depth (by decide)

end Items

section Numbers

variable (op : Opcode) (minimal : Bool) (roomy : 32 ≤ size)
include roomy

theorem unary_confined (which : UnaryOp) :
    Confined size top 0 (unary op minimal which) (fun _ => True) 3 :=
  ((require_confined op 1 (by decide)).bind fun _ _ =>
    (number_confined minimal 0 (by decide)).bind fun _ _ =>
      (drop_confined (by decide)).bind fun _ _ => pushNumber_confined roomy _ (by decide)).last
    (by decide)

theorem binary_confined (which : BinaryOp) (verifying : Bool) :
    Confined size top 0 (binary op minimal which verifying) (fun _ => True) 3 := by
  refine (require_confined op 2 (by decide)).bind fun _ _ =>
    (number_confined minimal 1 (by decide)).bind fun a _ =>
      (number_confined minimal 0 (by decide)).bind fun b _ => ?_
  cases which.apply? a b with
  | none => exact confined_throw (by decide)
  | some result =>
    exact ((drop_confined (by decide)).bind fun _ _ => (drop_confined (by decide)).bind fun _ _ =>
      (pushNumber_confined roomy result (by decide)).bind fun _ _ =>
        verifying_confined _ verifying (by decide)).last (by decide)

theorem within_confined : Confined size top 0 (within op minimal) (fun _ => True) 3 :=
  ((require_confined op 3 (by decide)).bind fun _ _ =>
    (number_confined minimal 2 (by decide)).bind fun _ _ =>
      (number_confined minimal 1 (by decide)).bind fun _ _ =>
        (number_confined minimal 0 (by decide)).bind fun _ _ =>
          (drop_confined (by decide)).bind fun _ _ => (drop_confined (by decide)).bind fun _ _ =>
            (drop_confined (by decide)).bind fun _ _ => pushBool_confined roomy _).last (by decide)

end Numbers

section Signatures

variable (op : Opcode)

theorem checkSig_confined (roomy : 32 ≤ size) (env : Environment) (verifying : Bool) :
    Confined size top 0 (checkSig op env verifying) (fun _ => True) 3 :=
  (require_confined op 2 (by decide)).bind fun _ _ =>
    (item_confined 1 (by decide)).bind fun _ _ => (item_confined 0 (by decide)).bind fun _ _ =>
      (check_confined _ (by decide)).bind fun _ _ => (check_confined _ (by decide)).bind fun _ _ =>
        (check_confined _ (by decide)).bind fun _ _ =>
          .ite (fun _ => confined_throw (by decide)) fun _ =>
            ((drop_confined (by decide)).bind fun _ _ => (drop_confined (by decide)).bind fun _ _ =>
              (pushBool_confined roomy _).bind fun _ _ =>
                verifying_confined _ verifying (by decide)).last (by decide)

theorem dropMany_confined (count : Nat) (low : rise ≤ 0) :
    Confined size top rise (dropMany count) (fun _ => True) (rise - count) := by
  induction count generalizing rise with
  | zero => exact confined_done (by omega)
  | succ count ih =>
    exact (drop_confined low).bind fun _ _ => (ih (by omega)).last (by omega)

theorem dropSignatures_confined (success : Bool) (count : Nat) (low : rise ≤ 0) :
    Confined size top rise (dropSignatures op success count) (fun _ => True) (rise - count) := by
  induction count generalizing rise with
  | zero => exact confined_done (by omega)
  | succ count ih =>
    exact (item_confined 0 low).bind fun _ _ => .ite (fun _ => confined_throw low) fun _ =>
      (drop_confined low).bind fun _ _ => (ih (by omega)).last (by omega)

theorem items_confined (start count : Nat) (low : rise ≤ 0) :
    Confined size top rise (items start count) (fun _ => True) rise := by
  intro stack within
  by_cases inside : start + count ≤ stack.length
  · rw [items, if_pos inside]
    exact ⟨trivial, within⟩
  · rw [items, if_neg inside]
    exact within.still low

theorem multiSigOperands_confined (policy : Policy) :
    Confined size top 0 (multiSigOperands op policy) (fun _ => True) 0 :=
  (require_confined op 1 (by decide)).bind fun _ _ =>
    (number_confined _ 0 (by decide)).bind fun _ _ =>
      .ite (fun _ => confined_throw (by decide)) fun _ =>
        (require_confined op _ (by decide)).bind fun _ _ =>
          (number_confined _ _ (by decide)).bind fun _ _ =>
            .ite (fun _ => confined_throw (by decide)) fun _ =>
              (require_confined op _ (by decide)).bind fun _ _ =>
                (items_confined _ _ (by decide)).bind fun _ _ =>
                  (items_confined _ _ (by decide)).bind fun _ _ => confined_pure trivial

theorem settleMultiSig_confined (roomy : 32 ≤ size) (policy : Policy) (verifying : Bool)
    (operands : MultiSigOperands) (success : Bool) :
    Confined size top 0 (settleMultiSig op policy verifying operands success) (fun _ => True) 3 :=
  (dropMany_confined _ (by decide)).bind fun _ _ =>
    (dropSignatures_confined op success _ (by omega)).bind fun _ _ =>
      size_confined.bind fun _ _ => .ite (fun _ => confined_throw (by omega)) fun _ =>
        (item_confined 0 (by omega)).bind fun _ _ =>
          .ite (fun _ => confined_throw (by omega)) fun _ =>
            ((drop_confined (by omega)).bind fun _ _ =>
              (pushBool_confined roomy success).bind fun _ _ =>
                verifying_confined _ verifying (by omega)).last (by omega)

theorem checkMultiSig_confined (roomy : 32 ≤ size) (env : Environment) (verifying : Bool) :
    Confined size top 0 (checkMultiSig op env verifying) (fun _ => True) 3 :=
  (multiSigOperands_confined op env.policy).bind fun operands _ =>
    (check_confined _ (by decide)).bind fun success _ =>
      settleMultiSig_confined op roomy env.policy verifying operands success

end Signatures

end Operation

end ScriptSpend
