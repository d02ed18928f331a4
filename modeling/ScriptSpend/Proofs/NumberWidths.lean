import ScriptSpend.Proofs.ConfinedActions
import ScriptSpend.Proofs.LenientActions
import ScriptSpend.Proofs.NumericOperations
import ScriptSpend.Proofs.OperandEffects

/-!
# Numbers in other widths

A number can be written in any width that has room for it, and brought back into the fewest bytes.
Both conversions work on items of any length, and the sign moves over the padding between the
magnitude and itself. Neither changes the number.

## Main results

* `ScriptNumber.decode_widen`: padding below the sign keeps the number
* `Chunk.numberWidths_exact`: when the two conversions succeed, and what they leave
-/

namespace ScriptSpend

open StackAction ScriptNumber

namespace ScriptNumber

variable {bytes low init : Bytes} {top last : UInt8} {width : Nat}

/-- The sign comes back in the last byte of the padded magnitude. -/
theorem widen_of_padded
    (padded : low ++ (top &&& 0x7f) :: List.replicate (width - (low.length + 1)) 0 =
      init ++ [last]) :
    widen width (low ++ [top]) = init ++ [last ||| signByte (hasSignBit top)] := by
  simp [widen, padded, and_signMask]

/-- The last byte of a padded magnitude has room for a sign. -/
theorem exists_padded_eq_concat (low : Bytes) (top : UInt8) (count : Nat) :
    ∃ init last, low ++ (top &&& 0x7f) :: List.replicate count 0 = init ++ [last] ∧
      hasSignBit last = false := by
  cases count with
  | zero => exact ⟨low, top &&& 0x7f, rfl, hasSignBit_and_magnitudeMask top⟩
  | succ count =>
    refine ⟨low ++ (top &&& 0x7f) :: List.replicate count 0, 0, ?_, rfl⟩
    rw [List.replicate_succ', List.append_assoc, List.cons_append]

theorem decode_replicate_zero (width : Nat) : decode (List.replicate width 0) = 0 := by
  have zero := Bytes.toNatLE_append_replicate_zero [] width
  rw [List.nil_append, Bytes.toNatLE_nil] at zero
  rw [decode_eq_signMagnitude, signMagnitude, zero]
  generalize 256 ^ (List.replicate width (0 : UInt8)).length = range
  split <;> omega

/-- Padding between the magnitude and the sign does not change the number. -/
theorem decode_widen (width : Nat) (bytes : Bytes) : decode (widen width bytes) = decode bytes := by
  rcases List.eq_nil_or_concat bytes with rfl | ⟨low, top, rfl⟩
  · exact decode_replicate_zero width
  · rw [List.concat_eq_append]
    obtain ⟨init, last, padded, free⟩ :=
      exists_padded_eq_concat low top (width - (low.length + 1))
    have magnitude := Bytes.toNatLE_append_replicate_zero (low ++ [top &&& 0x7f])
      (width - (low.length + 1))
    rw [List.append_assoc, List.singleton_append, padded] at magnitude
    rw [widen_of_padded padded, decode_concat_or init free, magnitude, decode_concat]

/-- The shortest form of a number is a numeric operand if its magnitude is below `2 ^ 31`. -/
theorem isMinimalWithin_minimalForm_iff :
    isMinimalWithin operandLimit (minimalForm bytes) = true ↔
      (signMagnitude bytes).natAbs < 2 ^ 31 := by
  have range : 256 ^ operandLimit = 2 * 2 ^ 31 := by decide
  rw [isMinimalWithin_minimalForm_iff_length_le, minimalForm_eq_encode, length_encode_le_iff,
    decode_eq_signMagnitude, range]
  omega

end ScriptNumber

namespace Operation

variable {op : Opcode} {minimal : Bool} {limit : UInt64} {count bytes : Bytes} {rest left : Stack}

/-- A conversion to a width that succeeds leaves the number in that width. -/
theorem numberToBytes_eq_ok
    (widened : numberToBytes op minimal limit (count :: bytes :: rest) = .ok () left) :
    ∃ width, left = widen width (minimalForm bytes) :: rest := by
  rcases number_cases minimal 0 (count :: bytes :: rest) with ⟨n, read, -⟩ | ⟨cause, read⟩
  · rw [numberToBytes_of_number op minimal read] at widened
    split at widened
    · cases widened
    · split at widened
      · cases widened
      · cases widened
        exact ⟨_, rfl⟩
  · simp [numberToBytes, read] at widened

end Operation

namespace Chunk

variable {env : Environment} {machine : Machine} {widening shortening : Opcode}
  {count bytes : Bytes} {rest : Stack}

theorem execute_numberToBytes (named : Opcode.ofMnemonic? "OP_NUM2BIN" = some widening)
    (executing : machine.isExecuting = true) :
    (ofOpcode widening).execute env machine =
      onMainThenNext (Operation.numberToBytes widening env.policy.requireMinimalPush
        env.policy.maxElementSize) machine := by
  have runs : Opcode.nameRuns "OP_NUM2BIN" .numberToBytes = true := by decide +kernel
  exact execute_of_nameRuns runs named executing

theorem execute_bytesToNumber (named : Opcode.ofMnemonic? "OP_BIN2NUM" = some shortening)
    (executing : machine.isExecuting = true) :
    (ofOpcode shortening).execute env machine =
      onMainThenNext (Operation.bytesToNumber shortening) machine := by
  have runs : Opcode.nameRuns "OP_BIN2NUM" .bytesToNumber = true := by decide +kernel
  exact execute_of_nameRuns runs named executing

/-- Under a limit below `2 ^ 63`, an item can be written in exactly the widths that hold its number
and keep the limit. -/
theorem replaces_numberToBytes (named : Opcode.ofMnemonic? "OP_NUM2BIN" = some widening)
    (executing : machine.isExecuting = true) (stack : machine.stack = count :: bytes :: rest)
    (narrow : env.policy.maxElementSize.toNat < 2 ^ 63)
    (operand : IsOperand env.policy.requireMinimalPush count) :
    (ofOpcode widening).Replaces env machine rest
      ((minimalForm bytes).length ≤ signMagnitude count ∧
        signMagnitude count ≤ env.policy.maxElementSize.toNat)
      fun items => ∃ widened, items = [widened] ∧ widened.length = signMagnitude count ∧
        signMagnitude widened = signMagnitude bytes := by
  have read : number env.policy.requireMinimalPush 0 (count :: bytes :: rest) =
      .ok (signMagnitude count) (count :: bytes :: rest) := number_of_isOperand rfl operand
  refine .of_action (execute_numberToBytes named executing) (fun ⟨fits, within⟩ => ?_)
    fun refused => ?_
  · -- A width that holds the number is not negative, so it is the one that is asked for.
    have enough : (minimalForm bytes).length ≤ (signMagnitude count).toNat := by omega
    rw [stack, Operation.numberToBytes_of_number _ _ read, toInt_toInt64_of_lt narrow,
      if_neg (by omega), if_neg (by omega)]
    refine ⟨_, ⟨_, rfl, ?_, ?_⟩, rfl⟩
    · rw [length_widen enough]
      omega
    · rw [← decode_eq_signMagnitude, decode_widen, decode_minimalForm, decode_eq_signMagnitude]
  · rw [stack, Operation.numberToBytes_of_number _ _ read, toInt_toInt64_of_lt narrow]
    split
    · exact ⟨_, _, rfl⟩
    · rw [if_pos (by omega)]
      exact ⟨_, _, rfl⟩

/-- An item can be written as a number if and only if four bytes hold it. -/
theorem replaces_bytesToNumber (named : Opcode.ofMnemonic? "OP_BIN2NUM" = some shortening)
    (executing : machine.isExecuting = true) (stack : machine.stack = bytes :: rest) :
    (ofOpcode shortening).Replaces env machine rest ((signMagnitude bytes).natAbs < 2 ^ 31)
      (· = [encode (signMagnitude bytes)]) := by
  refine .of_action (execute_bytesToNumber named executing) (fun small => ?_) fun large => ?_
  · rw [stack, Operation.bytesToNumber_cons, if_pos (isMinimalWithin_minimalForm_iff.mpr small),
      minimalForm_eq_encode, decode_eq_signMagnitude]
    exact ⟨_, rfl, rfl⟩
  · rw [stack, Operation.bytesToNumber_cons, if_neg (mt isMinimalWithin_minimalForm_iff.mp large)]
    exact ⟨_, _, rfl⟩

/-- What has been widened is brought back to its shortest form. -/
theorem execute_bytesToNumber_of_widened {left : Machine} {flow : Flow}
    (widens : Opcode.ofMnemonic? "OP_NUM2BIN" = some widening)
    (shortens : Opcode.ofMnemonic? "OP_BIN2NUM" = some shortening)
    (executing : machine.isExecuting = true) (stack : machine.stack = count :: bytes :: rest)
    (widened : (ofOpcode widening).execute env machine = .ok flow left)
    (short : (minimalForm bytes).length ≤ 4) :
    (ofOpcode shortening).execute env left =
      .ok .next { machine with stack := minimalForm bytes :: rest } := by
  rw [execute_numberToBytes widens executing] at widened
  obtain ⟨rfl, items, reached, rfl⟩ := onMainThenNext_eq_ok_iff.mp widened
  rw [stack] at reached
  obtain ⟨width, rfl⟩ := Operation.numberToBytes_eq_ok reached
  have same : minimalForm (widen width (minimalForm bytes)) = minimalForm bytes := by
    rw [minimalForm_eq_encode, decode_widen, decode_minimalForm, ← minimalForm_eq_encode]
  have fits : isMinimalWithin operandLimit (minimalForm bytes) = true :=
    isMinimalWithin_minimalForm_iff_length_le.mpr short
  have still : ({ machine with stack := widen width (minimalForm bytes) :: rest } :
      Machine).isExecuting = true := executing
  rw [execute_bytesToNumber shortens still, onMainThenNext_apply, Operation.bytesToNumber_cons,
    same, if_pos fits]

/-- Both conversions keep the number. Under a limit below `2 ^ 63` an item can be written in exactly
the widths that hold its number and keep the limit, and whatever the limit, it can be brought into
the fewest bytes if and only if its magnitude is below `2 ^ 31`. What has been widened is brought
back to the shortest form of the item, if that takes four bytes at most. -/
theorem numberWidths_exact (env : Environment)
    (widens : Opcode.ofMnemonic? "OP_NUM2BIN" = some widening)
    (shortens : Opcode.ofMnemonic? "OP_BIN2NUM" = some shortening)
    (executing : machine.isExecuting = true) (count bytes : Bytes) (rest : Stack) :
    (machine.stack = count :: bytes :: rest → env.policy.maxElementSize.toNat < 2 ^ 63 →
      IsOperand env.policy.requireMinimalPush count →
      (ofOpcode widening).Replaces env machine rest
        ((minimalForm bytes).length ≤ signMagnitude count ∧
          signMagnitude count ≤ env.policy.maxElementSize.toNat)
        fun items => ∃ widened, items = [widened] ∧ widened.length = signMagnitude count ∧
          signMagnitude widened = signMagnitude bytes) ∧
    (machine.stack = bytes :: rest →
      (ofOpcode shortening).Replaces env machine rest ((signMagnitude bytes).natAbs < 2 ^ 31)
        (· = [encode (signMagnitude bytes)])) ∧
    (machine.stack = count :: bytes :: rest → (minimalForm bytes).length ≤ 4 → ∀ flow left,
      (ofOpcode widening).execute env machine = .ok flow left →
      (ofOpcode shortening).execute env left =
        .ok .next { machine with stack := minimalForm bytes :: rest }) :=
  ⟨replaces_numberToBytes widens executing, replaces_bytesToNumber shortens executing,
    fun stack short _ _ widened =>
      execute_bytesToNumber_of_widened widens shortens executing stack widened short⟩

/-- Minus five is written in three bytes and brought back into one, with seven below it and eight on
the other stack. Two to the power of 31 cannot be brought into four bytes. -/
theorem numberWidths_exact_minusFive :
    let env : Environment := ⟨{}, fun _ _ _ => false, [], none⟩
    let machine : Machine := { stack := [[3], [0x85], [7]], alt := [[8]] }
    let wide : Machine := { stack := [[0x05, 0x00, 0x80], [7]], alt := [[8]] }
    let large : Machine := { stack := [[0x00, 0x00, 0x00, 0x80, 0x00]] }
    Opcode.ofMnemonic? "OP_NUM2BIN" = some 0x80 ∧ Opcode.ofMnemonic? "OP_BIN2NUM" = some 0x81 ∧
      (ofOpcode 0x80).execute env machine = .ok .next wide ∧
      signMagnitude [0x05, 0x00, 0x80] = signMagnitude [0x85] ∧
      (ofOpcode 0x81).execute env wide = .ok .next { machine with stack := [[0x85], [7]] } ∧
      ¬ ∃ flow left, (ofOpcode 0x81).execute env large = .ok flow left := by
  intro env machine wide large
  have widens : Opcode.ofMnemonic? "OP_NUM2BIN" = some 0x80 := by decide +kernel
  have shortens : Opcode.ofMnemonic? "OP_BIN2NUM" = some 0x81 := by decide +kernel
  have widened : (ofOpcode 0x80).execute env machine = .ok .next wide := by rfl
  have operand : IsOperand env.policy.requireMinimalPush [3] :=
    (parse_eq_ok_iff_isOperand.mp (show parse operandLimit _ [3] = .ok 3 from rfl)).1
  obtain ⟨widening, -, returning⟩ :=
    numberWidths_exact env widens shortens (rfl : machine.isExecuting = true) [3] [0x85] [[7]]
  obtain ⟨-, items, ⟨item, rfl, -, kept⟩, reached⟩ :=
    (widening rfl (by decide) operand).outcome _ _ widened
  obtain rfl : [0x05, 0x00, 0x80] = item := by
    simpa [wide] using congrArg Machine.stack reached
  obtain ⟨-, shortening, -⟩ := numberWidths_exact env widens shortens
    (rfl : large.isExecuting = true) [] [0x00, 0x00, 0x00, 0x80, 0x00] []
  refine ⟨widens, shortens, widened, kept, returning rfl (by decide) _ _ widened, ?_⟩
  rw [(shortening rfl).succeeds_iff]
  decide

end Chunk

end ScriptSpend
