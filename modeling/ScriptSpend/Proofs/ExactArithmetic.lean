import Mathlib.Order.Bounds.Basic
import ScriptSpend.Proofs.NumericOperations
import ScriptSpend.Proofs.OperandEffects

/-!
# Exact arithmetic

The numeric opcodes compute with integers of any size. What they leave is the result in its shortest
form, and nothing that four bytes can hold on the way in comes out of a signed word of 64 bits.

The results are specified by what holds of them, independently of how they are computed. A quotient
is given together with its remainder.

## Main definitions

* `IsTruncatedDivision`: a quotient cut off towards zero, and its remainder
* `Instruction.Computes`: the numbers that come of the operands of a numeric instruction
* `Instruction.Accepts`: what such an instruction asks of its operands
* `arithmeticOpcodes`: the numeric opcodes and their instructions

## Main results

* `isTruncatedDivision_iff`: quotient and remainder are unique, for a divisor other than zero
* `Chunk.arithmetic_exact`: when a numeric opcode succeeds, and what it leaves
-/

namespace ScriptSpend

open StackAction ScriptNumber

/-- A quotient that is cut off towards zero, and its remainder, which has the sign of the dividend.
-/
structure IsTruncatedDivision (a b q r : Int) : Prop where
  eq : a = q * b + r
  natAbs_lt : r.natAbs < b.natAbs
  sign : r = 0 ∨ r.sign = a.sign

/-- The number `c` comes of `n`. -/
def UnaryOp.IsResult (which : UnaryOp) (n c : Int) : Prop :=
  match which with
  | .increment => c = n + 1
  | .decrement => c = n - 1
  | .negate => c = -n
  | .abs => 0 ≤ c ∧ (c = n ∨ c = -n)
  | .not => c = if n = 0 then 1 else 0
  | .nonzero => c = if n ≠ 0 then 1 else 0

/-- The number `c` comes of `a` and `b`. -/
def BinaryOp.IsResult (which : BinaryOp) (a b c : Int) : Prop :=
  match which with
  | .add => c = a + b
  | .sub => c = a - b
  | .mul => c = a * b
  -- By zero there is neither a quotient nor a remainder.
  | .div => ∃ r, IsTruncatedDivision a b c r
  | .mod => ∃ q, IsTruncatedDivision a b q c
  | .boolAnd => c = if a ≠ 0 ∧ b ≠ 0 then 1 else 0
  | .boolOr => c = if a ≠ 0 ∨ b ≠ 0 then 1 else 0
  | .equal => c = if a = b then 1 else 0
  | .notEqual => c = if a ≠ b then 1 else 0
  | .less => c = if a < b then 1 else 0
  | .greater => c = if a > b then 1 else 0
  | .lessOrEqual => c = if a ≤ b then 1 else 0
  | .greaterOrEqual => c = if a ≥ b then 1 else 0
  | .minimum => IsLeast {a, b} c
  | .maximum => IsGreatest {a, b} c

namespace Instruction

/-- The numbers that stand in the place of the operands of a numeric instruction, the operands from
the bottom up. A verification that succeeds leaves none. -/
inductive Computes : Instruction → List Int → List Int → Prop where
  | unary {which : UnaryOp} {n c : Int} (result : which.IsResult n c) :
    Computes (.unary which) [n] [c]
  | binary {which : BinaryOp} {a b c : Int} (result : which.IsResult a b c) :
    Computes (.binary which false) [a, b] [c]
  | equalVerify (a : Int) : Computes (.binary .equal true) [a, a] []
  | within (n lower upper : Int) :
    Computes .within [n, lower, upper] [if lower ≤ n ∧ n < upper then 1 else 0]

/-- What a numeric instruction asks of its operands. -/
def Accepts : Instruction → List Int → Prop
  | .binary .div false, [_, b] => b ≠ 0
  | .binary .mod false, [_, b] => b ≠ 0
  | .binary .equal true, [a, b] => a = b
  -- All else is defined for all numbers.
  | _, _ => True

/-- The number of operands of a numeric instruction. -/
def arity : Instruction → Nat
  | .unary _ => 1
  | .binary _ _ => 2
  | .within => 3
  | _ => 0

/-- The items are the shortest writings of the numbers that come of the operands and of no others,
each of which is well within 64 bits. -/
def LeavesExactly (instruction : Instruction) (numbers : List Int) (items : List Bytes) : Prop :=
  ∃ results, (∀ others, instruction.Computes numbers others ↔ others = results) ∧
    List.Forall₂ IsShortest results items ∧ ∀ n ∈ results, n.natAbs < 2 ^ 63

/-- Whether an instruction computes with numbers. Of the operations on two numbers only equality has
a variant that verifies. -/
def isArithmetic : Instruction → Bool
  | .unary _ | .binary _ false | .binary .equal true | .within => true
  | _ => false

end Instruction

/-- The numeric opcodes, by name. -/
def arithmeticOpcodes : List (String × Instruction) :=
  [("OP_1ADD", .unary .increment), ("OP_1SUB", .unary .decrement), ("OP_NEGATE", .unary .negate),
    ("OP_ABS", .unary .abs), ("OP_NOT", .unary .not), ("OP_0NOTEQUAL", .unary .nonzero),
    ("OP_ADD", .binary .add false), ("OP_SUB", .binary .sub false),
    ("OP_MUL", .binary .mul false), ("OP_DIV", .binary .div false), ("OP_MOD", .binary .mod false),
    ("OP_BOOLAND", .binary .boolAnd false), ("OP_BOOLOR", .binary .boolOr false),
    ("OP_NUMEQUAL", .binary .equal false), ("OP_NUMEQUALVERIFY", .binary .equal true),
    ("OP_NUMNOTEQUAL", .binary .notEqual false), ("OP_LESSTHAN", .binary .less false),
    ("OP_GREATERTHAN", .binary .greater false), ("OP_LESSTHANOREQUAL", .binary .lessOrEqual false),
    ("OP_GREATERTHANOREQUAL", .binary .greaterOrEqual false), ("OP_MIN", .binary .minimum false),
    ("OP_MAX", .binary .maximum false), ("OP_WITHIN", .within)]

theorem nameRuns_of_mem_arithmeticOpcodes :
    ∀ entry ∈ arithmeticOpcodes, Opcode.nameRuns entry.1 entry.2 = true ∧
      entry.2.isArithmetic = true := by
  decide +kernel

section Results

variable {a b c n q r : Int}

/-- Quotient and remainder are determined by the dividend and a divisor other than zero. -/
theorem isTruncatedDivision_iff :
    IsTruncatedDivision a b q r ↔ b ≠ 0 ∧ a.tdiv b = q ∧ a.tmod b = r := by
  constructor
  · rintro ⟨eq, small, sign⟩
    have divisor : b ≠ 0 := by omega
    have sum : r + b * q = a := by rw [eq, Int.mul_comm, Int.add_comm]
    refine ⟨divisor, ?_⟩
    -- The two uniqueness lemmas are for dividends of either sign.
    rcases Int.le_total 0 a with positive | negative
    · refine (Int.tdiv_tmod_unique positive divisor).mpr ⟨sum, ?_, by omega⟩
      rcases sign with rfl | same
      · exact Int.le_refl 0
      · exact Int.sign_nonneg_iff.mp (same ▸ Int.sign_nonneg_iff.mpr positive)
    · refine (Int.tdiv_tmod_unique' negative divisor).mpr ⟨sum, by omega, ?_⟩
      rcases sign with rfl | same
      · exact Int.le_refl 0
      · exact Int.sign_nonpos_iff.mp (same ▸ Int.sign_nonpos_iff.mpr negative)
  · rintro ⟨divisor, rfl, rfl⟩
    refine ⟨(Int.tdiv_mul_add_tmod a b).symm, ?_, ?_⟩
    · rw [Int.natAbs_tmod]
      exact Nat.mod_lt _ (by omega)
    · by_cases divides : b ∣ a
      · exact .inl (Int.tmod_eq_zero_of_dvd divides)
      · exact .inr (by rw [Int.sign_tmod, if_neg divides])

/-- The number of a truth value, by the condition that it stands for. -/
theorem toInt_eq_ite (b : Bool) : b.toInt = if b = true then 1 else 0 := by cases b <;> rfl

theorem UnaryOp.isResult_iff {which : UnaryOp} : which.IsResult n c ↔ c = which.apply n := by
  cases which with
  | abs =>
    simp only [IsResult, UnaryOp.apply]
    omega
  | _ => simp [IsResult, UnaryOp.apply, toInt_eq_ite]

/-- An operation on two numbers computes the only result that there is, if there is one. -/
theorem BinaryOp.isResult_iff {which : BinaryOp} :
    which.IsResult a b c ↔ which.apply? a b = some c := by
  cases which with
  | div | mod => simp [IsResult, BinaryOp.apply?, isTruncatedDivision_iff]
  | minimum =>
    rw [IsResult, BinaryOp.apply?, Option.some.injEq]
    exact ⟨isLeast_pair.unique, fun eq => eq ▸ isLeast_pair⟩
  | maximum =>
    rw [IsResult, BinaryOp.apply?, Option.some.injEq]
    exact ⟨isGreatest_pair.unique, fun eq => eq ▸ isGreatest_pair⟩
  | _ =>
    simp only [IsResult, BinaryOp.apply?, Option.some.injEq, toInt_eq_ite, Bool.and_eq_true,
      Bool.or_eq_true, bne_iff_ne, beq_iff_eq, decide_eq_true_eq]
    exact eq_comm

/-- Only divisions by zero have no result. -/
theorem BinaryOp.exists_apply_iff {which : BinaryOp} :
    (∃ c, which.apply? a b = some c) ↔ Instruction.Accepts (.binary which false) [a, b] := by
  cases which <;> simp [Instruction.Accepts, BinaryOp.apply?]

end Results

section Items

variable {which : UnaryOp} {op : BinaryOp} {a b c n : Int}

/-- A truth value is written as the number that stands for it. -/
theorem ScriptNumber.encode_toInt (b : Bool) : encode b.toInt = ofBool b := by
  cases b <;> decide +kernel

/-- A single result is left in its shortest form. -/
theorem leavesExactly_single {instruction : Instruction} {numbers : List Int}
    (computes : ∀ others, instruction.Computes numbers others ↔ others = [c])
    (small : c.natAbs < 2 ^ 63) : instruction.LeavesExactly numbers [encode c] :=
  ⟨[c], computes, .cons (isShortest_encode c) .nil, by simpa using small⟩

theorem leavesExactly_unary (small : n.natAbs < 2 ^ 31) :
    Instruction.LeavesExactly (.unary which) [n] [encode (which.apply n)] := by
  -- Operands of four bytes leave room for one more bit, and for the product of two of them.
  refine leavesExactly_single (fun others => ⟨?_, ?_⟩) (which.natAbs_apply_lt small)
  · intro computed
    cases computed with
    | unary result => rw [UnaryOp.isResult_iff.mp result]
  · rintro rfl
    exact .unary (UnaryOp.isResult_iff.mpr rfl)

theorem leavesExactly_binary (smallLeft : a.natAbs < 2 ^ 31) (smallRight : b.natAbs < 2 ^ 31)
    (applied : op.apply? a b = some c) :
    Instruction.LeavesExactly (.binary op false) [a, b] [encode c] := by
  refine leavesExactly_single (fun others => ⟨?_, ?_⟩)
    (BinaryOp.natAbs_apply_lt smallLeft smallRight applied)
  · intro computed
    cases computed with
    | binary result =>
      rw [Option.some.inj ((BinaryOp.isResult_iff.mp result).symm.trans applied)]
  · rintro rfl
    exact .binary (BinaryOp.isResult_iff.mpr applied)

theorem leavesExactly_equalVerify (a : Int) :
    Instruction.LeavesExactly (.binary .equal true) [a, a] [] := by
  refine ⟨[], fun others => ⟨?_, ?_⟩, .nil, nofun⟩
  · rintro ⟨⟩
    rfl
  · rintro rfl
    exact .equalVerify a

theorem leavesExactly_within (n lower upper : Int) :
    Instruction.LeavesExactly .within [n, lower, upper]
      [ofBool (lower ≤ n && n < upper)] := by
  have outcome : (decide (lower ≤ n) && decide (n < upper)).toInt =
      if lower ≤ n ∧ n < upper then 1 else 0 := by
    simp only [toInt_eq_ite, Bool.and_eq_true, decide_eq_true_eq]
  rw [← encode_toInt, outcome]
  refine leavesExactly_single (fun others => ⟨?_, ?_⟩) (by split <;> decide)
  · rintro ⟨⟩
    rfl
  · rintro rfl
    exact .within n lower upper

end Items

namespace Operation

variable {code : Opcode} {minimal : Bool} {top middle bottom : Bytes} {rest : Stack}

/-- An operation on one number writes what comes of it. -/
theorem unary_of_operand (which : UnaryOp) (operand : IsOperand minimal top) :
    unary code minimal which (top :: rest) =
      .ok () (encode (which.apply (signMagnitude top)) :: rest) :=
  unary_of_number code minimal (number_of_isOperand rfl operand)

/-- An operation on one operand fails if that is not a number. -/
theorem exists_unary_eq_error {which : UnaryOp} (refused : ¬ IsOperand minimal top) :
    ∃ cause, unary code minimal which (top :: rest) = .error cause (top :: rest) := by
  have found : (top :: rest)[0]? = some top := rfl
  obtain ⟨cause, failed⟩ := exists_number_eq_error found refused
  exact ⟨cause, by simp [unary, failed]⟩

/-- An operation on two numbers writes what comes of them. -/
theorem binary_of_operands {which : BinaryOp} {c : Int} (left : IsOperand minimal middle)
    (right : IsOperand minimal top)
    (applied : which.apply? (signMagnitude middle) (signMagnitude top) = some c) :
    binary code minimal which false (top :: middle :: rest) = .ok () (encode c :: rest) := by
  have first := @number_of_isOperand minimal 1 middle (top :: middle :: rest) rfl left
  have second := @number_of_isOperand minimal 0 top (top :: middle :: rest) rfl right
  rw [binary_of_numbers code minimal first second, applied]
  rfl

/-- A verification takes two equal numbers and fails on different ones. -/
theorem equalVerify_of_operands (left : IsOperand minimal middle) (right : IsOperand minimal top) :
    binary code minimal .equal true (top :: middle :: rest) =
      if signMagnitude middle = signMagnitude top then .ok () rest
      else .error .notNumericallyEqual ([] :: rest) := by
  have first := @number_of_isOperand minimal 1 middle (top :: middle :: rest) rfl left
  have second := @number_of_isOperand minimal 0 top (top :: middle :: rest) rfl right
  rw [binary_of_numbers code minimal first second]
  simp only [encode_toInt, BinaryOp.apply?, if_true, verifyTop_ofBool, beq_iff_eq]

/-- An operation on two operands fails if one of them is not a number, or nothing comes of them. -/
theorem exists_binary_eq_error {which : BinaryOp} {verify : Bool}
    (refused : ¬ (IsOperand minimal middle ∧ IsOperand minimal top ∧
      ∃ c, which.apply? (signMagnitude middle) (signMagnitude top) = some c)) :
    ∃ cause, binary code minimal which verify (top :: middle :: rest) =
      .error cause (top :: middle :: rest) := by
  have second : (top :: middle :: rest)[0]? = some top := rfl
  have first : (top :: middle :: rest)[1]? = some middle := rfl
  by_cases left : IsOperand minimal middle
  · have readLeft := number_of_isOperand first left
    by_cases right : IsOperand minimal top
    · have readRight := number_of_isOperand second right
      have undefined : which.apply? (signMagnitude middle) (signMagnitude top) = none :=
        Option.eq_none_iff_forall_ne_some.mpr fun c applied => refused ⟨left, right, c, applied⟩
      exact ⟨_, by rw [binary_of_numbers code minimal readLeft readRight, undefined]⟩
    · obtain ⟨cause, failed⟩ := exists_number_eq_error second right
      exact ⟨cause, by simp [binary, readLeft, failed]⟩
  · obtain ⟨cause, failed⟩ := exists_number_eq_error first left
    exact ⟨cause, by simp [binary, failed]⟩

/-- A test of bounds writes whether the number lies within them. -/
theorem within_of_operands (number : IsOperand minimal bottom) (lower : IsOperand minimal middle)
    (upper : IsOperand minimal top) :
    within code minimal (top :: middle :: bottom :: rest) =
      .ok () (ofBool (signMagnitude middle ≤ signMagnitude bottom &&
        signMagnitude bottom < signMagnitude top) :: rest) :=
  within_of_numbers code minimal rfl (number_of_isOperand rfl number)
    (number_of_isOperand rfl lower) (number_of_isOperand rfl upper)

/-- A test of bounds fails if the number or one of the bounds is not a number. -/
theorem exists_within_eq_error
    (refused : ¬ (IsOperand minimal bottom ∧ IsOperand minimal middle ∧ IsOperand minimal top)) :
    ∃ cause, within code minimal (top :: middle :: bottom :: rest) =
      .error cause (top :: middle :: bottom :: rest) := by
  have third : (top :: middle :: bottom :: rest)[0]? = some top := rfl
  have second : (top :: middle :: bottom :: rest)[1]? = some middle := rfl
  have first : (top :: middle :: bottom :: rest)[2]? = some bottom := rfl
  by_cases readable : IsOperand minimal bottom
  · by_cases bounded : IsOperand minimal middle
    · obtain ⟨cause, failed⟩ :=
        exists_number_eq_error third fun other => refused ⟨readable, bounded, other⟩
      exact ⟨cause, by simp [within, number_of_isOperand first readable,
        number_of_isOperand second bounded, failed]⟩
    · obtain ⟨cause, failed⟩ := exists_number_eq_error second bounded
      exact ⟨cause, by simp [within, number_of_isOperand first readable, failed]⟩
  · obtain ⟨cause, failed⟩ := exists_number_eq_error first readable
    exact ⟨cause, by simp [within, failed]⟩

end Operation

namespace Chunk

variable {env : Environment} {machine : Machine} {chunk : Chunk} {code : Opcode}
  {minimal : Bool} {top middle bottom : Bytes} {rest : Stack}

/-- An operation on one number succeeds on every number. -/
theorem replaces_unary {which : UnaryOp}
    (runs : chunk.execute env machine =
      onMainThenNext (Operation.unary code minimal which) machine)
    (stack : machine.stack = top :: rest) :
    chunk.Replaces env machine rest (IsOperand minimal top)
      (Instruction.LeavesExactly (.unary which) [signMagnitude top]) := by
  refine .of_action runs (fun operand => ?_) fun refused => ?_
  · refine ⟨_, leavesExactly_unary operand.natAbs_lt, ?_⟩
    rw [stack, Operation.unary_of_operand which operand, List.singleton_append]
  · obtain ⟨cause, failed⟩ := Operation.exists_unary_eq_error refused
    exact ⟨cause, _, by rw [stack, failed]⟩

/-- An operation on two numbers succeeds where it is defined. -/
theorem replaces_binary {which : BinaryOp}
    (runs : chunk.execute env machine =
      onMainThenNext (Operation.binary code minimal which false) machine)
    (stack : machine.stack = top :: middle :: rest) :
    chunk.Replaces env machine rest
      ((IsOperand minimal middle ∧ IsOperand minimal top) ∧
        Instruction.Accepts (.binary which false) [signMagnitude middle, signMagnitude top])
      (Instruction.LeavesExactly (.binary which false)
        [signMagnitude middle, signMagnitude top]) := by
  refine .of_action runs (fun ⟨⟨left, right⟩, accepts⟩ => ?_) fun refused => ?_
  · obtain ⟨c, applied⟩ := BinaryOp.exists_apply_iff.mpr accepts
    refine ⟨_, leavesExactly_binary left.natAbs_lt right.natAbs_lt applied, ?_⟩
    rw [stack, Operation.binary_of_operands left right applied, List.singleton_append]
  · obtain ⟨cause, failed⟩ := Operation.exists_binary_eq_error fun ⟨left, right, accepts⟩ =>
      refused ⟨⟨left, right⟩, BinaryOp.exists_apply_iff.mp accepts⟩
    exact ⟨cause, _, by rw [stack, failed]⟩

/-- A verification succeeds on equal numbers, which it takes. -/
theorem replaces_equalVerify
    (runs : chunk.execute env machine =
      onMainThenNext (Operation.binary code minimal .equal true) machine)
    (stack : machine.stack = top :: middle :: rest) :
    chunk.Replaces env machine rest
      ((IsOperand minimal middle ∧ IsOperand minimal top) ∧
        signMagnitude middle = signMagnitude top)
      (Instruction.LeavesExactly (.binary .equal true)
        [signMagnitude middle, signMagnitude top]) := by
  refine .of_action runs (fun ⟨⟨left, right⟩, same⟩ => ?_) fun refused => ?_
  · rw [stack, Operation.equalVerify_of_operands left right, if_pos same, same]
    exact ⟨[], leavesExactly_equalVerify _, rfl⟩
  · -- Different numbers are compared before they are refused, other items are refused unread.
    by_cases operands : IsOperand minimal middle ∧ IsOperand minimal top
    · have different := fun same => refused ⟨operands, same⟩
      rw [stack, Operation.equalVerify_of_operands operands.1 operands.2, if_neg different]
      exact ⟨_, _, rfl⟩
    · have unread : ¬ (IsOperand minimal middle ∧ IsOperand minimal top ∧
          ∃ c, BinaryOp.apply? .equal (signMagnitude middle) (signMagnitude top) = some c) :=
        fun ⟨left, right, _⟩ => operands ⟨left, right⟩
      obtain ⟨cause, failed⟩ := Operation.exists_binary_eq_error unread
      exact ⟨cause, _, by rw [stack, failed]⟩

/-- A test of bounds succeeds on all numbers, even if the bounds are the wrong way round. -/
theorem replaces_within
    (runs : chunk.execute env machine =
      onMainThenNext (Operation.within code minimal) machine)
    (stack : machine.stack = top :: middle :: bottom :: rest) :
    chunk.Replaces env machine rest
      (IsOperand minimal bottom ∧ IsOperand minimal middle ∧ IsOperand minimal top)
      (Instruction.LeavesExactly .within
        [signMagnitude bottom, signMagnitude middle, signMagnitude top]) := by
  refine .of_action runs (fun ⟨number, lower, upper⟩ => ?_) fun refused => ?_
  · refine ⟨_, leavesExactly_within _ _ _, ?_⟩
    rw [stack, Operation.within_of_operands number lower upper, List.singleton_append]
  · obtain ⟨cause, failed⟩ := Operation.exists_within_eq_error refused
    exact ⟨cause, _, by rw [stack, failed]⟩

/-- The numeric opcodes compute exactly. An opcode succeeds if and only if each of its operands,
here listed from the bottom up, is a number, and it neither divides by zero nor verifies that
different numbers are equal. It then leaves the shortest writings of the exact results in their
place. -/
theorem arithmetic_exact (env : Environment) {name : String} {instruction : Instruction}
    (listed : (name, instruction) ∈ arithmeticOpcodes)
    (named : Opcode.ofMnemonic? name = some code) (executing : machine.isExecuting = true)
    {operands : List Bytes} (arity : operands.length = instruction.arity)
    (stack : machine.stack = operands.reverse ++ rest) :
    (ofOpcode code).Replaces env machine rest
      ((∀ operand ∈ operands, IsOperand env.policy.requireMinimalPush operand) ∧
        instruction.Accepts (operands.map signMagnitude))
      (instruction.LeavesExactly (operands.map signMagnitude)) := by
  obtain ⟨runs, arithmetic⟩ := nameRuns_of_mem_arithmeticOpcodes _ listed
  -- Only the shape of the instruction matters from here on, no longer which opcode it came from.
  have executed : (ofOpcode code).execute env machine = instruction.run env code true machine :=
    execute_of_nameRuns runs named executing
  match instruction, arithmetic, operands, arity with
  | .unary which, _, [operand], _ =>
    exact (replaces_unary executed stack).congr (by simp [Instruction.Accepts])
  | .binary which false, _, [left, right], _ =>
    exact (replaces_binary executed stack).congr (by simp)
  | .binary .equal true, _, [left, right], _ =>
    exact (replaces_equalVerify executed stack).congr (by simp [Instruction.Accepts])
  | .within, _, [number, lower, upper], _ =>
    exact (replaces_within executed stack).congr (by simp [Instruction.Accepts])

/-- Minus seven leaves the remainder minus one on division by two, with nine below it and eight on
the other stack. On division by zero it leaves none. -/
theorem arithmetic_exact_minusSeven :
    let env : Environment := ⟨{}, fun _ _ _ => false, [], none⟩
    let machine : Machine := { stack := [[2], [0x87], [9]], alt := [[8]] }
    let undefined : Machine := { stack := [[], [0x87], [9]], alt := [[8]] }
    ("OP_MOD", .binary .mod false) ∈ arithmeticOpcodes ∧ Opcode.ofMnemonic? "OP_MOD" = some 0x97 ∧
      (ofOpcode 0x97).execute env machine = .ok .next { machine with stack := [[0x81], [9]] } ∧
      Instruction.LeavesExactly (.binary .mod false) [-7, 2] [[0x81]] ∧
      ¬ ∃ flow left, (ofOpcode 0x97).execute env undefined = .ok flow left := by
  intro env machine undefined
  have listed : ("OP_MOD", Instruction.binary .mod false) ∈ arithmeticOpcodes := by decide +kernel
  have named : Opcode.ofMnemonic? "OP_MOD" = some 0x97 := by decide +kernel
  have executed : (ofOpcode 0x97).execute env machine =
      .ok .next { machine with stack := [[0x81], [9]] } := by rfl
  have stack : machine.stack = [[0x87], [2]].reverse ++ [[9]] := rfl
  have byZero : undefined.stack = [[0x87], []].reverse ++ [[9]] := rfl
  -- The lower operand is the first one, so the lists read against the stack.
  have computes := arithmetic_exact env listed named (rfl : machine.isExecuting = true) rfl stack
  have refuses := arithmetic_exact env listed named (rfl : undefined.isExecuting = true) rfl byZero
  obtain ⟨-, items, leaves, reached⟩ := computes.outcome _ _ executed
  have left : [[0x81]] ++ [[9]] = items ++ [[9]] := congrArg Machine.stack reached
  have single : [[0x81]] = items := List.append_cancel_right left
  refine ⟨listed, named, executed, single ▸ leaves, ?_⟩
  rw [refuses.succeeds_iff]
  exact fun ⟨_, divisor⟩ => divisor rfl

end Chunk

end ScriptSpend
