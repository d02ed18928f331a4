import ScriptSpend.Proofs.NumericOperations
import ScriptSpend.Proofs.OperandEffects

/-!
# Shifts of fixed width

A shift takes an item as a number whose most significant byte comes first, and leaves a number of
the same width. Bits that leave the item are lost, whether it is shifted by fewer bits than it has
or by more.

## Main definitions

* `ShiftDirection.shifted`: a number of a given width, multiplied or divided by a power of two

## Main results

* `ShiftDirection.toNatBE_apply`: the shifts of an item are those of its number
* `Chunk.shift_exact`: when a shift succeeds, what it leaves, and what becomes of an empty item
-/

namespace ScriptSpend

open StackAction ScriptNumber

namespace Bytes

theorem toNatBE_lt (bytes : Bytes) : toNatBE bytes < 256 ^ bytes.length := by
  rw [← List.length_reverse]
  exact toNatLE_lt bytes.reverse

theorem toNatBE_replicate_zero (width : Nat) : toNatBE (List.replicate width 0) = 0 := by
  rw [toNatBE, List.reverse_replicate]
  exact toNatLE_append_replicate_zero [] width

end Bytes

namespace ShiftDirection

/-- A number in a given number of bytes, shifted by some bits. -/
def shifted (direction : ShiftDirection) (width bits n : Nat) : Nat :=
  match direction with
  | .left => n * 2 ^ bits % 2 ^ (8 * width)
  | .right => n / 2 ^ bits

variable {direction : ShiftDirection} {bytes : Bytes} {width bits n : Nat}

/-- As many bits as a number has leave nothing of it. -/
theorem shifted_eq_zero (small : n < 256 ^ width) (all : width * 8 ≤ bits) :
    direction.shifted width bits n = 0 := by
  have divides : 2 ^ (8 * width) ∣ 2 ^ bits := Nat.pow_dvd_pow 2 (by omega)
  cases direction with
  | left => exact Nat.mod_eq_zero_of_dvd (Nat.dvd_mul_left_of_dvd divides n)
  | right =>
    rw [← Bytes.two_pow_eight_mul] at small
    exact Nat.div_eq_of_lt (small.trans_le (Nat.le_of_dvd (Nat.two_pow_pos bits) divides))

/-- The shifts of an item are those of the number that it denotes. -/
theorem toNatBE_apply (direction : ShiftDirection) (bits : Nat) (bytes : Bytes) :
    Bytes.toNatBE (direction.apply bits bytes) =
      direction.shifted bytes.length bits (Bytes.toNatBE bytes) := by
  have small := Bytes.toNatBE_lt bytes
  unfold ShiftDirection.apply
  split
  · rename_i all
    rw [Bytes.toNatBE_replicate_zero, shifted_eq_zero small all]
  · rw [Bytes.toNatBE_ofNatBE]
    cases direction with
    | left => rw [shifted, Nat.shiftLeft_eq, Bytes.two_pow_eight_mul]
    | right =>
      -- A quotient needs no more bytes than the number.
      rw [shifted, Nat.shiftRight_eq_div_pow]
      exact Nat.mod_eq_of_lt ((Nat.div_le_self _ _).trans_lt small)

end ShiftDirection

/-- The opcodes that shift, by name. -/
def shiftOpcodes : List (String × ShiftDirection) := [("OP_LSHIFT", .left), ("OP_RSHIFT", .right)]

theorem nameRuns_of_mem_shiftOpcodes :
    ∀ entry ∈ shiftOpcodes, Opcode.nameRuns entry.1 (.shift entry.2) = true := by
  decide +kernel

namespace Operation

variable {code : Opcode} {minimal : Bool} {direction : ShiftDirection} {count bytes : Bytes}
  {rest : Stack}

/-- By a number of bits that is not negative, an item is shifted. -/
theorem shift_of_operand (present : bytes ≠ []) (operand : IsOperand minimal count)
    (forward : 0 ≤ signMagnitude count) :
    shift code minimal direction (count :: bytes :: rest) =
      .ok () (direction.apply (signMagnitude count).toNat bytes :: rest) := by
  rw [shift_of_number code minimal present (number_of_isOperand rfl operand),
    if_neg (Int.not_lt.mpr forward)]

/-- By anything else, an item that is not empty is not shifted. -/
theorem exists_shift_eq_error (present : bytes ≠ [])
    (refused : ¬ (IsOperand minimal count ∧ 0 ≤ signMagnitude count)) :
    ∃ cause, shift code minimal direction (count :: bytes :: rest) =
      .error cause (count :: bytes :: rest) := by
  have found : (count :: bytes :: rest)[0]? = some count := rfl
  by_cases operand : IsOperand minimal count
  · have backward : signMagnitude count < 0 := Int.not_le.mp fun forward =>
      refused ⟨operand, forward⟩
    exact ⟨_, by rw [shift_of_number code minimal present (number_of_isOperand found operand),
      if_pos backward]⟩
  · obtain ⟨cause, failed⟩ := exists_number_eq_error found operand
    exact ⟨cause, by simp [shift, item, present, failed]⟩

end Operation

namespace Chunk

variable {env : Environment} {machine : Machine} {code : Opcode} {direction : ShiftDirection}
  {name : String}

/-- The shifts are those of numbers of fixed width. They succeed by any number of bits that is not
negative, and fail by anything else with the stack as it was. An empty item has no bits, and of its
shifts only the number of bits is taken, be it a number or not. -/
theorem shift_exact (env : Environment) (listed : (name, direction) ∈ shiftOpcodes)
    (named : Opcode.ofMnemonic? name = some code) (executing : machine.isExecuting = true)
    (count bytes : Bytes) (rest : Stack) (stack : machine.stack = count :: bytes :: rest) :
    (bytes ≠ [] →
      (ofOpcode code).Replaces env machine rest
        (IsOperand env.policy.requireMinimalPush count ∧ 0 ≤ signMagnitude count)
        fun items => ∃ item, items = [item] ∧ item.length = bytes.length ∧
          Bytes.toNatBE item = direction.shifted bytes.length (signMagnitude count).toNat
            (Bytes.toNatBE bytes)) ∧
    (bytes ≠ [] → ¬ (IsOperand env.policy.requireMinimalPush count ∧ 0 ≤ signMagnitude count) →
      ∃ cause, (ofOpcode code).execute env machine = .error cause machine) ∧
    (bytes = [] →
      (ofOpcode code).execute env machine = .ok .next { machine with stack := [] :: rest }) := by
  have runs : (ofOpcode code).execute env machine = onMainThenNext
      (Operation.shift code env.policy.requireMinimalPush direction) machine :=
    execute_of_nameRuns (nameRuns_of_mem_shiftOpcodes _ listed) named executing
  -- Whether there is anything to shift is decided before the number of bits is read.
  refine ⟨fun present => ?_, fun present refused => ?_, fun empty => ?_⟩
  · refine .of_action runs (fun ⟨operand, forward⟩ => ?_) fun refused => ?_
    · exact ⟨_, ⟨_, rfl, direction.length_apply _ _, direction.toNatBE_apply _ _⟩,
        by rw [stack, Operation.shift_of_operand present operand forward]; rfl⟩
    · obtain ⟨cause, failed⟩ := Operation.exists_shift_eq_error present refused
      exact ⟨cause, _, by rw [stack, failed]⟩
  · obtain ⟨cause, failed⟩ := Operation.exists_shift_eq_error present refused
    exact ⟨cause, by rw [runs, onMainThenNext_apply, stack, failed, ← stack]⟩
  · rw [runs, onMainThenNext_apply, stack, empty, Operation.shift_of_empty]

/-- Of two bytes, a shift by nine bits to the left keeps seven bits. A negative number of bits is
refused, unless there is nothing to shift. -/
theorem shift_exact_nine :
    let env : Environment := ⟨{}, fun _ _ _ => false, [], none⟩
    let machine : Machine := { stack := [[9], [0x81, 0x01], [7]], alt := [[8]] }
    let backward : Machine := { machine with stack := [[0x89], [0x81, 0x01], [7]] }
    let empty : Machine := { machine with stack := [[0x89], [], [7]] }
    ("OP_LSHIFT", .left) ∈ shiftOpcodes ∧ Opcode.ofMnemonic? "OP_LSHIFT" = some 0x98 ∧
      (ofOpcode 0x98).execute env machine =
        .ok .next { machine with stack := [[0x02, 0x00], [7]] } ∧
      Bytes.toNatBE [0x02, 0x00] = Bytes.toNatBE [0x81, 0x01] * 2 ^ 9 % 2 ^ 16 ∧
      (∃ cause, (ofOpcode 0x98).execute env backward = .error cause backward) ∧
      (ofOpcode 0x98).execute env empty = .ok .next { machine with stack := [[], [7]] } := by
  intro env machine backward empty
  have listed : ("OP_LSHIFT", ShiftDirection.left) ∈ shiftOpcodes := by decide +kernel
  have named : Opcode.ofMnemonic? "OP_LSHIFT" = some 0x98 := by decide +kernel
  -- Of the seven bits that remain only the last one is set.
  have executed : (ofOpcode 0x98).execute env machine =
      .ok .next { machine with stack := [[0x02, 0x00], [7]] } := by rfl
  have shifts (shifting : Machine) (executing : shifting.isExecuting = true) (count bytes : Bytes)
      (stack : shifting.stack = count :: bytes :: [[7]]) :=
    shift_exact env listed named executing count bytes [[7]] stack
  obtain ⟨forward, -, -⟩ := shifts machine rfl [9] [0x81, 0x01] rfl
  obtain ⟨-, refuses, -⟩ := shifts backward rfl [0x89] [0x81, 0x01] rfl
  obtain ⟨-, -, drops⟩ := shifts empty rfl [0x89] [] rfl
  obtain ⟨-, items, ⟨item, rfl, -, value⟩, reached⟩ :=
    (forward (by decide)).outcome _ _ executed
  obtain rfl : [0x02, 0x00] = item := by
    simpa [machine] using congrArg Machine.stack reached
  have negative : ¬ 0 ≤ signMagnitude [0x89] := by decide
  exact ⟨listed, named, executed, value, refuses (by decide) fun ⟨_, valid⟩ => negative valid,
    drops rfl⟩

end Chunk

end ScriptSpend
