import ScriptSpend.Proofs.FailingActions
import ScriptSpend.Proofs.SignMagnitude

/-!
# Operations on numbers

An operand is a number if it has at most four bytes and, where the policy asks for it, no padding.
What comes of an operation follows from the numbers that its operands denote, and an operation fails
where one of its operands is not a number.

## Main definitions

* `ScriptNumber.IsOperand`: a byte string that is read as a number

## Main results

* `number_of_isOperand`, `exists_number_eq_error`: what reading an item as a number yields
* `unary_of_number`, `binary_of_numbers`, `shift_of_number` and others: what comes of an operation
  whose operands could be read
-/

namespace ScriptSpend

open StackAction

namespace ScriptNumber

variable {minimal : Bool} {bytes : Bytes} {n : Int}

/-- A byte string that is read as a number. It has at most four bytes, and if `minimal` is set, then
no other writing of its value is as short. -/
structure IsOperand (minimal : Bool) (bytes : Bytes) : Prop where
  short : bytes.length ≤ 4
  shortest : minimal = true → IsShortest (signMagnitude bytes) bytes

theorem parse_eq_ok_iff_isOperand :
    parse operandLimit minimal bytes = .ok n ↔
      IsOperand minimal bytes ∧ signMagnitude bytes = n := by
  rw [parse_eq_ok_iff, decode_eq_signMagnitude, ← and_assoc]
  refine and_congr_left' ⟨fun ⟨short, shortest⟩ => ⟨short, ?_⟩, fun operand => ⟨operand.short, ?_⟩⟩
  · rwa [← isMinimal_iff_isShortest]
  · rw [isMinimal_iff_isShortest]
    exact operand.shortest

theorem IsOperand.natAbs_lt (operand : IsOperand minimal bytes) :
    (signMagnitude bytes).natAbs < 2 ^ 31 :=
  natAbs_lt_of_parse (parse_eq_ok_iff_isOperand.mpr ⟨operand, rfl⟩)

end ScriptNumber

open ScriptNumber

section Reading

variable {minimal : Bool} {depth : Nat} {bytes : Bytes} {stack left : Stack} {n : Int}

theorem number_of_isOperand (found : stack[depth]? = some bytes)
    (operand : IsOperand minimal bytes) :
    number minimal depth stack = .ok (signMagnitude bytes) stack :=
  number_of_getElem? found (parse_eq_ok_iff_isOperand.mpr ⟨operand, rfl⟩)

/-- What is not a number is refused where it is read. -/
theorem exists_number_eq_error (found : stack[depth]? = some bytes)
    (refused : ¬ IsOperand minimal bytes) :
    ∃ cause, number minimal depth stack = .error cause stack := by
  rcases number_cases minimal depth stack with ⟨n, read, -⟩ | failed
  · obtain ⟨-, other, there, parsed⟩ := number_eq_ok_iff.mp read
    obtain rfl : bytes = other := Option.some.inj (found.symm.trans there)
    exact absurd (parse_eq_ok_iff_isOperand.mp parsed).1 refused
  · exact failed

theorem natAbs_lt_of_number (read : number minimal depth stack = .ok n left) :
    n.natAbs < 2 ^ 31 := by
  obtain ⟨-, bytes, -, parsed⟩ := number_eq_ok_iff.mp read
  exact natAbs_lt_of_parse parsed

end Reading

namespace Operation

variable (op : Opcode) (minimal : Bool) {top bytes : Bytes} {rest : Stack} {n : Int}

/-- What comes of a depth that could be read: it is compared with the number of items below it. -/
theorem atStackedDepth_of_number {action : Nat → StackAction Bytes}
    (read : number minimal 0 (top :: bytes :: rest) = .ok n (top :: bytes :: rest)) :
    atStackedDepth op minimal action (top :: bytes :: rest) =
      if n < 0 ∨ (bytes :: rest).length ≤ n.toNat then
        .error (.depthOutOfRange op) (bytes :: rest)
      else (action n.toNat >>= push) (bytes :: rest) := by
  simp [atStackedDepth, read]

/-- What comes of a position that could be read. -/
theorem split_of_number
    (read : number minimal 0 (top :: bytes :: rest) = .ok n (top :: bytes :: rest)) :
    split op minimal (top :: bytes :: rest) =
      if n < 0 ∨ bytes.length < n.toNat then .error .splitOutOfRange (top :: bytes :: rest)
      else .ok () (bytes.drop n.toNat :: bytes.take n.toNat :: rest) := by
  simp [split, read, item]

/-- What comes of a width that could be read. -/
theorem numberToBytes_of_number {limit : UInt64}
    (read : number minimal 0 (top :: bytes :: rest) = .ok n (top :: bytes :: rest)) :
    numberToBytes op minimal limit (top :: bytes :: rest) =
      if limit.toInt64.toInt < n then
        .error (.wideningTooLong n limit.toNat) (top :: bytes :: rest)
      else if n < 0 ∨ n.toNat < (minimalForm bytes).length then .error .sizeTooSmall (bytes :: rest)
      else .ok () (widen n.toNat (minimalForm bytes) :: rest) := by
  simp [numberToBytes, read]

/-- An item is left in its shortest form, whether that is a number or too long for one. -/
theorem bytesToNumber_cons (bytes : Bytes) (rest : Stack) :
    bytesToNumber op (bytes :: rest) =
      if isMinimalWithin operandLimit (minimalForm bytes) then .ok () (minimalForm bytes :: rest)
      else .error .notANumber (minimalForm bytes :: rest) := by
  simp [bytesToNumber]

/-- For an empty item the number is dropped unread. -/
theorem shift_of_empty (direction : ShiftDirection) (top : Bytes) (rest : Stack) :
    shift op minimal direction (top :: [] :: rest) = .ok () ([] :: rest) := rfl

/-- What comes of a number of bits that could be read. -/
theorem shift_of_number {direction : ShiftDirection} (present : bytes ≠ [])
    (read : number minimal 0 (top :: bytes :: rest) = .ok n (top :: bytes :: rest)) :
    shift op minimal direction (top :: bytes :: rest) =
      if n < 0 then .error (.negativeShift op) (top :: bytes :: rest)
      else .ok () (direction.apply n.toNat bytes :: rest) := by
  simp [shift, read, item, present]

/-- What comes of three numbers that could be read, the upper bound on top. -/
theorem within_of_numbers {upper lower : Int} {other : Bytes} {stack : Stack}
    (shape : stack = top :: bytes :: other :: rest)
    (first : number minimal 2 stack = .ok n stack)
    (second : number minimal 1 stack = .ok lower stack)
    (third : number minimal 0 stack = .ok upper stack) :
    within op minimal stack = .ok () (ofBool (lower ≤ n && n < upper) :: rest) := by
  subst shape
  simp [within, first, second, third]

/-- What comes of a number that could be read. -/
theorem unary_of_number {which : UnaryOp}
    (read : number minimal 0 (top :: rest) = .ok n (top :: rest)) :
    unary op minimal which (top :: rest) = .ok () (encode (which.apply n) :: rest) := by
  have small := which.natAbs_apply_lt (natAbs_lt_of_number read)
  simp [unary, read, pushNumber_of_natAbs_lt small]

/-- What comes of two numbers that could be read, the second one on top. -/
theorem binary_of_numbers {which : BinaryOp} {verify : Bool} {a b : Int}
    (first : number minimal 1 (top :: bytes :: rest) = .ok a (top :: bytes :: rest))
    (second : number minimal 0 (top :: bytes :: rest) = .ok b (top :: bytes :: rest)) :
    binary op minimal which verify (top :: bytes :: rest) =
      match which.apply? a b with
      | none => .error (.divisionByZero op) (top :: bytes :: rest)
      | some result =>
        if verify then verifyTop .notNumericallyEqual (encode result :: rest)
        else .ok () (encode result :: rest) := by
  cases applied : which.apply? a b with
  | none => simp [binary, first, second, applied]
  | some result =>
    have small := BinaryOp.natAbs_apply_lt (natAbs_lt_of_number first) (natAbs_lt_of_number second)
      applied
    cases verify <;> simp [binary, first, second, applied, pushNumber_of_natAbs_lt small]

end Operation

end ScriptSpend
