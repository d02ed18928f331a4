import ScriptSpend.Execution

/-!
# Running actions

An action on a stack or a machine is a function of the state. The lemmas here compute what a
composed action does from what its parts do, so that later proofs open no sequencing by hand.

## Main results

* `bind_apply`, `throw_apply`, `ite_apply_state`: what composed actions do on a state
* `StackAction.require_of_le`, `StackAction.number_of_getElem?`: the reads that succeed
-/

namespace ScriptSpend

section Sequencing

variable {ε σ α β : Type}

@[simp] theorem bind_apply (action : EStateM ε σ α) (next : α → EStateM ε σ β) (state : σ) :
    (action >>= next) state = match action state with
      | .ok value left => next value left
      | .error cause left => .error cause left := rfl

@[simp] theorem pure_apply (value : α) (state : σ) :
    (pure value : EStateM ε σ α) state = .ok value state := rfl

@[simp] theorem map_apply (f : α → β) (action : EStateM ε σ α) (state : σ) :
    (f <$> action) state = match action state with
      | .ok value left => .ok (f value) left
      | .error cause left => .error cause left := rfl

@[simp] theorem throw_apply (cause : ε) (state : σ) :
    (throw cause : EStateM ε σ α) state = .error cause state := rfl

@[simp] theorem ite_apply_state (condition : Prop) [Decidable condition]
    (first second : EStateM ε σ α) (state : σ) :
    (if condition then first else second) state =
      if condition then first state else second state := by
  split <;> rfl

/-- A sequence succeeds if and only if its first part does and then the rest does. -/
theorem bind_eq_ok_iff {action : EStateM ε σ α} {next : α → EStateM ε σ β} {state left : σ}
    {value : β} :
    (action >>= next) state = .ok value left ↔
      ∃ first middle, action state = .ok first middle ∧ next first middle = .ok value left := by
  rw [bind_apply]
  cases action state <;> simp [and_assoc]

/-- It fails if and only if its first part does, or the rest does after that. -/
theorem bind_eq_error_iff {action : EStateM ε σ α} {next : α → EStateM ε σ β} {state left : σ}
    {cause : ε} :
    (action >>= next) state = .error cause left ↔
      action state = .error cause left ∨ ∃ first middle,
        action state = .ok first middle ∧ next first middle = .error cause left := by
  rw [bind_apply]
  cases action state <;> simp [and_assoc]

/-- Succeeding is the same for computations without a state. -/
theorem exceptBind_eq_ok_iff {first : Except ε α} {next : α → Except ε β} {value : β} :
    (first >>= next) = .ok value ↔ ∃ a, first = .ok a ∧ next a = .ok value := by
  cases first <;> simp [bind, Except.bind]

/-- What stands behind a guard succeeds if and only if the guard lets it pass. -/
theorem exceptIte_eq_ok_iff {condition : Prop} [Decidable condition] {cause : ε}
    {guarded : Except ε α} {value : α} :
    (if condition then .error cause else guarded) = .ok value ↔
      ¬ condition ∧ guarded = .ok value := by
  split <;> simp_all

end Sequencing

namespace StackAction

variable {op : Opcode} {stack rest : Stack}

@[simp] theorem require_of_le {needed : Nat} (enough : needed ≤ stack.length) :
    require op needed stack = .ok () stack := by
  rw [require, if_neg (Nat.not_lt.mpr enough)]

@[simp] theorem require_of_lt {needed : Nat} (short : stack.length < needed) :
    require op needed stack = .error (.stackUnderflow op needed) stack := by
  rw [require, if_pos short]

theorem require_eq_ok_iff {needed : Nat} {value : Unit} {left : Stack} :
    require op needed stack = .ok value left ↔ left = stack ∧ needed ≤ stack.length := by
  rcases Nat.lt_or_ge stack.length needed with short | enough
  · simp [short]
  · simp [enough, eq_comm]

@[simp] theorem size_apply : size stack = .ok stack.length stack := rfl

theorem item_of_getElem? {depth : Nat} {bytes : Bytes} (found : stack[depth]? = some bytes) :
    item depth stack = .ok bytes stack := by
  rw [item, found]

@[simp] theorem item_zero_cons (top : Bytes) : item 0 (top :: rest) = .ok top (top :: rest) := rfl

@[simp] theorem push_apply (bytes : Bytes) : push bytes stack = .ok () (bytes :: stack) := rfl

@[simp] theorem pop_cons (top : Bytes) : pop (top :: rest) = .ok top rest := rfl

@[simp] theorem drop_cons (top : Bytes) : StackAction.drop (top :: rest) = .ok () rest := rfl

@[simp] theorem replaceTop_cons (bytes top : Bytes) :
    replaceTop bytes (top :: rest) = .ok () (bytes :: rest) := rfl

@[simp] theorem check_ok {α : Type} (value : α) : check (.ok value) stack = .ok value stack := rfl

@[simp] theorem check_error {α : Type} (cause : Failure) :
    (check (.error cause) : StackAction α) stack = .error cause stack := rfl

theorem check_eq_ok_iff {α : Type} {result : Except Failure α} {value : α} {left : Stack} :
    check result stack = .ok value left ↔ left = stack ∧ result = .ok value := by
  cases result <;> simp [and_comm, eq_comm (b := left)]

theorem check_eq_error_iff {α : Type} {result : Except Failure α} {cause : Failure} {left : Stack} :
    check result stack = .error cause left ↔ left = stack ∧ result = .error cause := by
  cases result <;> simp [and_comm, eq_comm (b := left)]

@[simp] theorem pushBool_apply (b : Bool) :
    pushBool b stack = .ok () (ScriptNumber.ofBool b :: stack) := rfl

/-- A truth value on top is taken if it is true and stays if it is false. -/
@[simp] theorem verifyTop_ofBool (cause : Failure) (b : Bool) :
    verifyTop cause (ScriptNumber.ofBool b :: rest) =
      if b then .ok () rest else .error cause ([] :: rest) := by
  cases b <;> rfl

/-- A verification fails for the cause it was given, and changes nothing. -/
theorem verifyTop_eq_error {cause given : Failure} {left : Stack}
    (failed : verifyTop given stack = .error cause left) : cause = given ∧ left = stack := by
  cases stack with
  | nil => simpa [verifyTop, eq_comm] using failed
  | cons top rest => cases truth : ScriptNumber.isTrue top <;> simp_all [verifyTop]

theorem number_of_getElem? {minimal : Bool} {depth : Nat} {bytes : Bytes} {n : Int}
    (found : stack[depth]? = some bytes)
    (parsed : ScriptNumber.parse ScriptNumber.operandLimit minimal bytes = .ok n) :
    number minimal depth stack = .ok n stack := by
  simp [number, item_of_getElem? found, parsed]

/-- A number at some depth is read without touching the stack. -/
theorem number_eq_ok_iff {minimal : Bool} {depth : Nat} {n : Int} {left : Stack} :
    number minimal depth stack = .ok n left ↔
      left = stack ∧ ∃ bytes, stack[depth]? = some bytes ∧
        ScriptNumber.parse ScriptNumber.operandLimit minimal bytes = .ok n := by
  constructor
  · intro read
    cases found : stack[depth]? with
    | none => simp [number, item, found] at read
    | some bytes =>
      cases parsed : ScriptNumber.parse ScriptNumber.operandLimit minimal bytes with
      | error cause => simp [number, item_of_getElem? found, parsed] at read
      | ok value =>
        rw [number_of_getElem? found parsed] at read
        cases read
        exact ⟨rfl, bytes, rfl, parsed⟩
  · rintro ⟨rfl, bytes, found, parsed⟩
    exact number_of_getElem? found parsed

end StackAction

end ScriptSpend
