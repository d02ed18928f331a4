import ScriptSpend.Proofs.NumberForm
import ScriptSpend.Proofs.RunningActions

/-!
# What failing actions leave

An action may change its state before it fails. Most do not, and trying them again fails in the same
way. Of the others, some leave a state in which they fail again without changing it once more, and
the remaining ones leave fewer items, and may even succeed on these. Which of these it is can be
told from the cause.

## Main definitions

* `ReadsOnly`: whether it fails or not, an action leaves the state as it was
* `FailsInPlace`: whatever the cause, a failure leaves the state as it was
* `Failure.isRecoverable`: the causes for which operations fail after they have used up items
* `StaysFailed`: after a failure for any other cause, trying again fails in place
* `Machine.height`: the number of items on the main stack

## Main results

* `FailsInPlace.staysFailed`: an action that fails in place stays failed
* `StaysFailed.onMainThenNext`: so does an action on all stacks that works on the main one
-/

namespace ScriptSpend

open StackAction

/-- Whether operations that fail for the cause have used up items before, so that they find others
when they are tried again. Of the checks that reject a signature, only those of several signatures
do so. -/
def Failure.isRecoverable : Failure → Bool
  | notEqual | notNumericallyEqual | noValidSignatures | depthOutOfRange _ | sizeTooSmall
  | dummyNotEmpty _ => true
  | rejectedSignature op => op == 0xae || op == 0xaf
  | _ => false

section Properties

variable {σ α β : Type}

/-- An action that leaves the state as it is, whether it fails or not. -/
def ReadsOnly (action : EStateM Failure σ α) : Prop :=
  ∀ state, (∃ value, action state = .ok value state) ∨ ∃ cause, action state = .error cause state

/-- An action that leaves the state as it is if it fails. -/
def FailsInPlace (action : EStateM Failure σ α) : Prop :=
  ∀ ⦃state cause left⦄, action state = .error cause left → left = state

/-- An action that fails in place when it is tried again after a failure, unless the cause is one
that it may recover from, and then it has made the state smaller. -/
def StaysFailed (size : σ → Nat) (action : EStateM Failure σ α) : Prop :=
  ∀ ⦃state cause left⦄, action state = .error cause left →
    (∃ again, action left = .error again left) ∨
      cause.isRecoverable = true ∧ size left < size state

variable {action : EStateM Failure σ α}

theorem readsOnly_pure (value : α) : ReadsOnly (pure value : EStateM Failure σ α) :=
  fun _ => .inl ⟨value, rfl⟩

theorem readsOnly_throw (cause : Failure) : ReadsOnly (throw cause : EStateM Failure σ α) :=
  fun _ => .inr ⟨cause, rfl⟩

theorem ReadsOnly.bind {next : α → EStateM Failure σ β} (first : ReadsOnly action)
    (rest : ∀ value, ReadsOnly (next value)) : ReadsOnly (action >>= next) := by
  intro state
  rw [bind_apply]
  rcases first state with ⟨value, read⟩ | ⟨cause, read⟩
  · rw [read]
    exact rest value state
  · exact .inr ⟨cause, by rw [read]⟩

theorem ReadsOnly.ite {condition : Prop} [Decidable condition] {other : EStateM Failure σ α}
    (first : ReadsOnly action) (second : ReadsOnly other) :
    ReadsOnly (if condition then action else other) := by
  split
  · exact first
  · exact second

theorem FailsInPlace.staysFailed {size : σ → Nat} (inPlace : FailsInPlace action) :
    StaysFailed size action := by
  intro state cause left failed
  obtain rfl := inPlace failed
  exact .inl ⟨cause, failed⟩

/-- An action that has not moved fails again for the same cause. -/
theorem staysFailed_of_forall {size : σ → Nat}
    (moved : ∀ ⦃state cause left⦄, action state = .error cause left →
      left = state ∨ (∃ again, action left = .error again left) ∨
        cause.isRecoverable = true ∧ size left < size state) :
    StaysFailed size action := by
  intro state cause left failed
  rcases moved failed with rfl | outcome
  · exact .inl ⟨cause, failed⟩
  · exact outcome

end Properties

section Reads

theorem require_readsOnly (op : Opcode) (needed : Nat) : ReadsOnly (require op needed) := by
  intro stack
  rcases Nat.lt_or_ge stack.length needed with short | enough
  · exact .inr ⟨_, require_of_lt short⟩
  · exact .inl ⟨_, require_of_le enough⟩

theorem number_readsOnly (minimal : Bool) (depth : Nat) : ReadsOnly (number minimal depth) := by
  intro stack
  cases found : stack[depth]? with
  | none => exact .inr ⟨.fault, by simp [number, item, found]⟩
  | some bytes =>
    cases parsed : ScriptNumber.parse ScriptNumber.operandLimit minimal bytes with
    | error cause =>
      exact .inr ⟨.badNumber cause, by simp [number, item_of_getElem? found, parsed]⟩
    | ok n => exact .inl ⟨n, number_of_getElem? found parsed⟩

theorem items_readsOnly (start count : Nat) : ReadsOnly (Operation.items start count) := by
  intro stack
  by_cases enough : start + count ≤ stack.length
  · exact .inl ⟨_, by rw [Operation.items, if_pos enough]⟩
  · exact .inr ⟨_, by rw [Operation.items, if_neg enough]⟩

end Reads

section Machines

/-- The number of items on the main stack. -/
def Machine.height (machine : Machine) : Nat := machine.stack.length

variable {action : StackAction Unit}

theorem thenNext_eq_error_iff {action : MachineAction Unit} {machine left : Machine}
    {cause : Failure} :
    thenNext action machine = .error cause left ↔ action machine = .error cause left := by
  simp only [thenNext, bind_apply]
  cases action machine <;> simp

theorem onMainThenNext_apply (machine : Machine) :
    onMainThenNext action machine = match action machine.stack with
      | .ok _ stack => .ok .next { machine with stack }
      | .error cause stack => .error cause { machine with stack } := by
  simp only [onMainThenNext, thenNext, bind_apply, StackAction.onMain]
  cases action machine.stack <;> rfl

/-- An action on all stacks that works on the main one leaves the others as they are. -/
theorem onMainThenNext_eq_ok_iff {machine left : Machine} {flow : Flow} :
    onMainThenNext action machine = .ok flow left ↔
      flow = .next ∧ ∃ stack, action machine.stack = .ok () stack ∧
        left = { machine with stack } := by
  rw [onMainThenNext_apply]
  cases action machine.stack <;> simp [eq_comm (b := left), eq_comm (b := flow)]

/-- So it does if it fails. -/
theorem onMainThenNext_eq_error_iff {machine left : Machine} {cause : Failure} :
    onMainThenNext action machine = .error cause left ↔
      ∃ stack, action machine.stack = .error cause stack ∧ left = { machine with stack } := by
  rw [onMainThenNext_apply]
  cases action machine.stack <;> simp [eq_comm (b := left)]

theorem FailsInPlace.onMainThenNext (inPlace : FailsInPlace action) :
    FailsInPlace (onMainThenNext action) := by
  intro machine cause left failed
  obtain ⟨stack, failedOnMain, rfl⟩ := onMainThenNext_eq_error_iff.mp failed
  rw [inPlace failedOnMain]

theorem StaysFailed.onMainThenNext (stays : StaysFailed List.length action) :
    StaysFailed Machine.height (onMainThenNext action) := by
  intro machine cause left failed
  obtain ⟨stack, failedOnMain, rfl⟩ := onMainThenNext_eq_error_iff.mp failed
  refine (stays failedOnMain).imp_left fun ⟨again, failedAgain⟩ => ?_
  exact ⟨again, onMainThenNext_eq_error_iff.mpr ⟨stack, failedAgain, rfl⟩⟩

end Machines

section Numbers

variable {stack : Stack} {n : Int}

/-- Reading a number changes nothing, and what is read has a magnitude below `2 ^ 31`. -/
theorem number_cases (minimal : Bool) (depth : Nat) (stack : Stack) :
    (∃ n, number minimal depth stack = .ok n stack ∧ n.natAbs < 2 ^ 31) ∨
      ∃ cause, number minimal depth stack = .error cause stack := by
  rcases number_readsOnly minimal depth stack with ⟨n, read⟩ | failed
  · obtain ⟨-, bytes, -, parsed⟩ := number_eq_ok_iff.mp read
    exact .inl ⟨n, read, ScriptNumber.natAbs_lt_of_parse parsed⟩
  · exact .inr failed

theorem pushNumber_of_natAbs_lt (small : n.natAbs < 2 ^ 63) :
    pushNumber n stack = .ok () (ScriptNumber.encode n :: stack) := by
  have range : Int64.minValue.toInt ≤ n ∧ n ≤ Int64.maxValue.toInt := by
    rw [Int64.toInt_minValue, Int64.toInt_maxValue]
    omega
  rw [pushNumber, if_pos range, push_apply]

theorem UnaryOp.natAbs_apply_lt (which : UnaryOp) (small : n.natAbs < 2 ^ 31) :
    (which.apply n).natAbs < 2 ^ 63 := by
  cases which with
  | not => cases eq : n == 0 <;> simp [UnaryOp.apply, eq]
  | nonzero => cases eq : n != 0 <;> simp [UnaryOp.apply, eq]
  | _ =>
    simp only [UnaryOp.apply]
    omega

theorem natAbs_toInt_lt (b : Bool) : b.toInt.natAbs < 2 ^ 63 := by cases b <;> decide

theorem BinaryOp.natAbs_apply_lt {which : BinaryOp} {a b result : Int}
    (smallLeft : a.natAbs < 2 ^ 31) (smallRight : b.natAbs < 2 ^ 31)
    (applied : which.apply? a b = some result) : result.natAbs < 2 ^ 63 := by
  have product : a.natAbs * b.natAbs ≤ 2 ^ 31 * 2 ^ 31 :=
    Nat.mul_le_mul (Nat.le_of_lt smallLeft) (Nat.le_of_lt smallRight)
  have quotient : (a.tdiv b).natAbs ≤ a.natAbs := Int.natAbs_tdiv_le_natAbs a b
  have remainder : (a.tmod b).natAbs ≤ a.natAbs := by
    rw [Int.natAbs_tmod]
    exact Nat.mod_le _ _
  cases which with
  | add | sub | minimum | maximum =>
    simp only [Option.some.injEq, BinaryOp.apply?] at applied
    omega
  | mul =>
    simp only [Option.some.injEq, BinaryOp.apply?] at applied
    rw [← applied, Int.natAbs_mul]
    omega
  | div | mod =>
    simp only [Option.ite_none_left_eq_some, Option.some.injEq, BinaryOp.apply?] at applied
    obtain ⟨-, rfl⟩ := applied
    omega
  | _ =>
    simp only [Option.some.injEq, BinaryOp.apply?] at applied
    rw [← applied]
    exact natAbs_toInt_lt _

end Numbers

end ScriptSpend
