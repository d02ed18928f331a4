import ScriptSpend.Proofs.FailingActions
import ScriptSpend.Proofs.RefusedOperands

/-!
# Actions without faults

The cause of a failure tells who raised it. A chunk fails for causes of its own, and none of these
is a fault or belongs to the rules around a run.

A stack is addressed by depth, and an access below its bottom is a fault. Operations avoid it by
asking for enough items first, so what they rely on is a number of items, which every primitive
lowers or raises by a fixed amount. Number operands add a bound on their magnitude, from which the
results stay within signed words. Both travel through a sequence of actions as pre- and
postconditions.

## Main definitions

* `Failure.isOfChunk`: the causes for which chunks fail
* `Faultless`: from states with a precondition, an action fails for these causes only and ensures a
  postcondition
* `NeverFaults`: the same from all states, without a postcondition
* `Holds`: a stack holds a number of items

## Main results

* `Failure.ne_fault_of_isOfChunk`, `Failure.kind_ne_of_isOfChunk`: none of these causes is a fault
  or a want of resources
* `Faultless.bind`: a sequence of actions is without faults if its parts fit together
* `number_faultless`, `pushNumber_faultless`: a number that is read is small, and the result of a
  small number can be written
-/

namespace ScriptSpend

open StackAction

namespace Failure

/-- The causes for which chunks fail. The others come from the bound on the number of steps, from
the rules around a run and from operations that left their domain. -/
def isOfChunk : Failure → Bool
  | budgetExhausted _ | unlockingNotPushOnly | openConditional | uncleanStack _ | falseResult
  | fault => false
  | _ => true

variable {cause : Failure}

theorem isOfChunk_of_isOfOperands (operands : cause.isOfOperands = true) :
    cause.isOfChunk = true := by
  cases cause <;> first | rfl | cases operands

theorem ne_fault_of_isOfChunk (ofChunk : cause.isOfChunk = true) : cause ≠ fault := by
  rintro rfl
  cases ofChunk

theorem kind_ne_of_isOfChunk (ofChunk : cause.isOfChunk = true) :
    cause.kind ≠ .resourceExhausted := by
  cases cause <;> first | exact FailureKind.noConfusion | cases ofChunk

end Failure

section Conditions

variable {σ α β : Type}

/-- From every state with the precondition the action fails for causes of chunks only, and where it
succeeds its value and the state that it leaves have the postcondition. -/
def Faultless (before : σ → Prop) (action : EStateM Failure σ α) (after : α → σ → Prop) : Prop :=
  ∀ ⦃state⦄, before state →
    (∀ cause left, action state = .error cause left → cause.isOfChunk = true) ∧
      ∀ value left, action state = .ok value left → after value left

/-- An action that fails for causes of chunks only, whatever state it starts from. -/
abbrev NeverFaults (action : EStateM Failure σ α) : Prop :=
  Faultless (fun _ => True) action fun _ _ => True

variable {before : σ → Prop} {action : EStateM Failure σ α} {after : α → σ → Prop}

theorem Faultless.of_ok (result : ∀ state, before state →
      ∃ value left, action state = .ok value left ∧ after value left) :
    Faultless before action after := by
  intro state holds
  obtain ⟨value, left, ran, ensured⟩ := result state holds
  rw [ran]
  refine ⟨nofun, fun _ _ same => ?_⟩
  cases same
  exact ensured

theorem faultless_pure {value : α} (ensured : ∀ state, before state → after value state) :
    Faultless before (pure value) after :=
  .of_ok fun state holds => ⟨value, state, rfl, ensured state holds⟩

theorem faultless_throw {cause : Failure} (ofChunk : cause.isOfChunk = true) :
    Faultless before (throw cause) after := by
  intro state _
  refine ⟨fun _ _ same => ?_, nofun⟩
  cases same
  exact ofChunk

theorem Faultless.weaken {stronger : σ → Prop} {weaker : α → σ → Prop}
    (faultless : Faultless before action after) (assumed : ∀ state, stronger state → before state)
    (ensures : ∀ value state, after value state → weaker value state) :
    Faultless stronger action weaker := fun state holds =>
  ⟨(faultless (assumed state holds)).1, fun value left ran =>
    ensures value left ((faultless (assumed state holds)).2 value left ran)⟩

/-- What the last action of a sequence ensures need not be kept. -/
theorem Faultless.last (faultless : Faultless before action after) :
    Faultless before action fun _ _ => True :=
  faultless.weaken (fun _ => id) fun _ _ _ => trivial

/-- A sequence of actions is without faults if each part ensures what the next one needs. -/
theorem Faultless.bind {next : α → EStateM Failure σ β} {middle : α → σ → Prop}
    {after : β → σ → Prop} (first : Faultless before action middle)
    (rest : ∀ value, Faultless (middle value) (next value) after) :
    Faultless before (action >>= next) after := by
  intro state holds
  rw [bind_apply]
  cases ran : action state with
  | error cause left =>
    refine ⟨fun _ _ same => ?_, nofun⟩
    cases same
    exact (first holds).1 cause left ran
  | ok value left => exact rest value ((first holds).2 value left ran)

theorem Faultless.ite {condition : Prop} [Decidable condition] {other : EStateM Failure σ α}
    (first : condition → Faultless before action after)
    (second : ¬ condition → Faultless before other after) :
    Faultless before (if condition then action else other) after := by
  split
  · rename_i holds
    exact first holds
  · rename_i fails
    exact second fails

/-- What a precondition says apart from the state can be assumed. -/
theorem faultless_and {fact : Prop} (given : fact → Faultless before action after) :
    Faultless (fun state => fact ∧ before state) action after :=
  fun _ holds => given holds.1 holds.2

theorem NeverFaults.isOfChunk {state left : σ} {cause : Failure} (never : NeverFaults action)
    (failed : action state = .error cause left) : cause.isOfChunk = true :=
  (never trivial).1 cause left failed

theorem NeverFaults.ne_fault {state left : σ} {cause : Failure} (never : NeverFaults action)
    (failed : action state = .error cause left) : cause ≠ .fault :=
  Failure.ne_fault_of_isOfChunk (never.isOfChunk failed)

theorem neverFaults_of_isOfChunk
    (ofChunk : ∀ state cause left, action state = .error cause left → cause.isOfChunk = true) :
    NeverFaults action :=
  fun state _ => ⟨ofChunk state, fun _ _ _ => trivial⟩

end Conditions

section Primitives

variable {n depth : Nat}

/-- The stack holds a number of items, or more. -/
def Holds (n : Nat) (stack : Stack) : Prop := n ≤ stack.length

theorem require_faultless (op : Opcode) (n : Nat) :
    Faultless (fun _ => True) (require op n) fun _ => Holds n := by
  intro stack _
  rcases Nat.lt_or_ge stack.length n with short | enough
  · rw [require_of_lt short]
    refine ⟨fun _ _ same => ?_, nofun⟩
    cases same
    rfl
  · rw [require_of_le enough]
    refine ⟨nofun, fun _ _ same => ?_⟩
    cases same
    exact enough

theorem size_faultless {before : Stack → Prop} :
    Faultless before StackAction.size fun count stack => count = stack.length ∧ before stack :=
  .of_ok fun stack holds => ⟨stack.length, stack, rfl, rfl, holds⟩

theorem item_faultless (inside : depth < n) :
    Faultless (Holds n) (item depth) fun _ => Holds n :=
  .of_ok fun stack holds =>
    ⟨_, stack, item_of_getElem? (List.getElem?_eq_getElem (Nat.lt_of_lt_of_le inside holds)), holds⟩

theorem push_faultless (bytes : Bytes) : Faultless (Holds n) (push bytes) fun _ => Holds (n + 1) :=
  .of_ok fun stack holds => ⟨(), bytes :: stack, rfl, Nat.succ_le_succ holds⟩

theorem pushBool_faultless (b : Bool) :
    Faultless (Holds n) (pushBool b) fun _ => Holds (n + 1) :=
  push_faultless _

theorem pop_faultless : Faultless (Holds (n + 1)) pop fun _ => Holds n :=
  .of_ok fun
    | [], holds => absurd holds (Nat.not_succ_le_zero n)
    | top :: rest, holds => ⟨top, rest, rfl, Nat.le_of_succ_le_succ holds⟩

theorem drop_faultless : Faultless (Holds (n + 1)) StackAction.drop fun _ => Holds n :=
  pop_faultless.bind fun _ => faultless_pure fun _ => id

theorem replaceTop_faultless (bytes : Bytes) :
    Faultless (Holds (n + 1)) (replaceTop bytes) fun _ => Holds (n + 1) :=
  .of_ok fun
    | [], holds => absurd holds (Nat.not_succ_le_zero n)
    | _ :: rest, holds => ⟨(), bytes :: rest, rfl, holds⟩

theorem removeAt_faultless (inside : depth < n + 1) :
    Faultless (Holds (n + 1)) (removeAt depth) fun _ => Holds n :=
  .of_ok fun stack holds => by
    have within : depth < stack.length := Nat.lt_of_lt_of_le inside holds
    refine ⟨stack[depth], stack.eraseIdx depth, ?_, ?_⟩
    · rw [removeAt, List.getElem?_eq_getElem within]
    · rw [Holds, List.length_eraseIdx_of_lt within]
      exact Nat.le_sub_of_add_le holds

theorem check_faultless {α : Type} {result : Except Failure α} {before : Stack → Prop}
    (refusals : ∀ cause, result = .error cause → cause.isOfChunk = true) :
    Faultless before (check result) fun value stack => result = .ok value ∧ before stack := by
  intro stack holds
  cases result with
  | error cause =>
    refine ⟨fun _ _ same => ?_, nofun⟩
    cases same
    exact refusals cause rfl
  | ok value =>
    refine ⟨nofun, fun _ _ same => ?_⟩
    cases same
    exact ⟨rfl, holds⟩

theorem verifyTop_faultless {cause : Failure} (ofChunk : cause.isOfChunk = true)
    {before : Stack → Prop} : Faultless before (verifyTop cause) fun _ _ => True := by
  intro stack _
  refine ⟨fun _ _ failed => ?_, fun _ _ _ => trivial⟩
  rwa [(verifyTop_eq_error failed).1]

/-- What an operation does last if it consumes its truth value. -/
theorem verifying_faultless {cause : Failure} (ofChunk : cause.isOfChunk = true) (verifying : Bool)
    {before : Stack → Prop} :
    Faultless before (if verifying then verifyTop cause else pure ()) fun _ _ => True :=
  .ite (fun _ => verifyTop_faultless ofChunk) fun _ => faultless_pure fun _ _ => trivial

/-- A number that is read has a magnitude below `2 ^ 31`. -/
theorem number_faultless (minimal : Bool) (inside : depth < n) :
    Faultless (Holds n) (number minimal depth) fun value stack =>
      value.natAbs < 2 ^ 31 ∧ Holds n stack := by
  refine (item_faultless inside).bind fun bytes => ?_
  cases parsed : ScriptNumber.parse ScriptNumber.operandLimit minimal bytes with
  | error cause => exact faultless_throw rfl
  | ok value => exact faultless_pure fun _ holds => ⟨ScriptNumber.natAbs_lt_of_parse parsed, holds⟩

/-- A number of smaller magnitude than `2 ^ 63` is a signed word. -/
theorem pushNumber_faultless {value : Int} (small : value.natAbs < 2 ^ 63) :
    Faultless (Holds n) (pushNumber value) fun _ => Holds (n + 1) :=
  .of_ok fun _ holds =>
    ⟨(), _, pushNumber_of_natAbs_lt small, Nat.succ_le_succ holds⟩

end Primitives

section Machines

theorem NeverFaults.onMainThenNext {action : StackAction Unit} (never : NeverFaults action) :
    NeverFaults (onMainThenNext action) := by
  refine neverFaults_of_isOfChunk fun machine cause left failed => ?_
  obtain ⟨stack, failedOnMain, -⟩ := onMainThenNext_eq_error_iff.mp failed
  exact never.isOfChunk failedOnMain

end Machines

end ScriptSpend
