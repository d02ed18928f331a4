import ScriptSpend.Proofs.ConfinedActions
import ScriptSpend.Proofs.FailingOperations
import ScriptSpend.Proofs.LenientActions
import ScriptSpend.Proofs.Pushing

/-!
# The limit on the size of elements

An element is made by pushing a payload, by joining two items or by writing a number in another
width. Each of the three compares the size of what it is about to make with the limit of the policy,
and names both where it refuses. The sizes of payloads and of joined items are compared as natural
numbers. A width is compared as a signed word, so that a limit of `2 ^ 63` or more, which is
negative as such, refuses every width, also that of an empty element.

## Main definitions

* `ElementMaker`: the three ways to make an element
* `Chunk.Makes`: the element that a chunk makes of the items on top of a stack
* `Policy.EnforcesElementLimit`: elements are refused if and only if they exceed the limit

## Main results

* `Chunk.execute_of_makes`: what comes of making an element, under any limit
* `Policy.enforcesElementLimit_iff`: the limit is kept exactly if and only if it is below `2 ^ 63`
* `Policy.not_enforcesElementLimit_signBit`: a spend in which two bytes exceed a limit of `2 ^ 63`
-/

namespace ScriptSpend

/-- The ways to make an element: to push it, to join two items, and to widen a number. -/
inductive ElementMaker where
  | push
  | join
  | widen
  deriving DecidableEq

namespace ElementMaker

/-- Whether an element of some size is refused under a limit. -/
def refuses (limit : UInt64) (size : Nat) : ElementMaker → Bool
  | push | join => limit.toNat < size
  -- As a signed word a limit from here on is negative.
  | widen => limit.toNat < size || 2 ^ 63 ≤ limit.toNat

/-- The failure that names the size of an element and the limit. -/
def refusal (size limit : Nat) : ElementMaker → Failure
  | push => .elementTooLong size limit
  | join => .concatenationTooLong size limit
  | widen => .wideningTooLong size limit

end ElementMaker

/-- Whether a failure is that an element is too large. -/
def Failure.isElementLimit : Failure → Bool
  | elementTooLong _ _ | concatenationTooLong _ _ | wideningTooLong _ _ => true
  | _ => false

/-- On a stack a chunk makes an element, which replaces what it was made of: a push makes it of its
payload, which must be minimal where the policy asks for it, and a widening of a number that fits in
the width. -/
inductive Chunk.Makes (policy : Policy) : ElementMaker → Chunk → Stack → Bytes → Stack → Prop
  | push {chunk : Chunk} {stack : Stack} (push : chunk.opcode.isPush = true)
      (minimal : policy.requireMinimalPush = true → chunk.isMinimalPush = true) :
      Makes policy .push chunk stack chunk.data stack
  | join {op : Opcode} {front back : Bytes} {rest : Stack}
      (joins : Instruction.ofOpcode op = .cat) :
      Makes policy .join (.ofOpcode op) (back :: front :: rest) (front ++ back) rest
  | widen {op : Opcode} {count bytes : Bytes} {rest : Stack} {width : Nat}
      (widens : Instruction.ofOpcode op = .numberToBytes)
      (counted : ScriptNumber.parse ScriptNumber.operandLimit policy.requireMinimalPush count =
        .ok width)
      (fits : (ScriptNumber.minimalForm bytes).length ≤ width) :
      Makes policy .widen (.ofOpcode op) (count :: bytes :: rest)
        (ScriptNumber.widen width (ScriptNumber.minimalForm bytes)) rest

/-- On a branch that is taken, a chunk that makes an element fails for the size of the element if
and only if that exceeds the limit. -/
def Policy.EnforcesElementLimit (policy : Policy) : Prop :=
  ∀ (env : Environment) (machine : Machine) (maker : ElementMaker) (chunk : Chunk)
    (element : Bytes) (rest : Stack), env.policy = policy → machine.isExecuting = true →
    chunk.Makes policy maker machine.stack element rest →
    ((∃ cause left, chunk.execute env machine = .error cause left ∧
      cause.isElementLimit = true ∧ cause.kind = .encoding) ↔
      policy.maxElementSize.toNat < element.length)

section Outcome

variable {env : Environment} {machine : Machine} {maker : ElementMaker} {chunk : Chunk}
  {element : Bytes} {rest : Stack} {limit : UInt64} {size : Nat} {cause : Failure}

/-- What concerns the size of an element concerns an encoding. -/
theorem Failure.kind_of_isElementLimit (limited : cause.isElementLimit = true) :
    cause.kind = .encoding := by
  unfold isElementLimit at limited
  split at limited
  · rfl
  · rfl
  · rfl
  · cases limited

theorem ElementMaker.isElementLimit_refusal (maker : ElementMaker) (size limit : Nat) :
    (maker.refusal size limit).isElementLimit = true := by
  cases maker <;> rfl

/-- A width is compared with the limit as a signed word. -/
theorem ElementMaker.refuses_widen_iff :
    refuses limit size .widen = true ↔ limit.toInt64.toInt < size := by
  simp only [refuses, Bool.or_eq_true, decide_eq_true_eq]
  rcases Nat.lt_or_ge limit.toNat (2 ^ 63) with narrow | wide
  · rw [toInt_toInt64_of_lt narrow]
    omega
  · have negative := toInt_toInt64_of_ge wide
    omega

/-- Below `2 ^ 63` an element is refused for its size alone. -/
theorem ElementMaker.refuses_iff_of_lt (narrow : limit.toNat < 2 ^ 63) :
    maker.refuses limit size = true ↔ limit.toNat < size := by
  cases maker with
  | push | join => exact decide_eq_true_iff
  | widen =>
    simp only [refuses, Bool.or_eq_true, decide_eq_true_eq]
    omega

section Operations

variable {op : Opcode} {minimal : Bool} {front back count bytes : Bytes} {width : Nat}

/-- What comes of joining two items. -/
theorem Operation.cat_cons_cons :
    Operation.cat op limit (back :: front :: rest) =
      if ElementMaker.join.refuses limit (front ++ back).length then
        .error (.concatenationTooLong (front ++ back).length limit.toNat) (back :: front :: rest)
      else .ok () ((front ++ back) :: rest) := by
  have enough : StackAction.require op 2 (back :: front :: rest) = .ok () (back :: front :: rest) :=
    StackAction.require_of_le (Nat.le_add_left 2 rest.length)
  have under : StackAction.item 1 (back :: front :: rest) = .ok front (back :: front :: rest) := rfl
  simp only [Operation.cat, bind_apply, enough, under, StackAction.item_zero_cons, ite_apply_state,
    StackAction.drop_cons, StackAction.replaceTop_cons, throw_apply, List.length_append,
    ElementMaker.refuses, decide_eq_true_eq]

/-- What comes of widening a number that fits. -/
theorem Operation.numberToBytes_of_fits
    (counted : ScriptNumber.parse ScriptNumber.operandLimit minimal count = .ok width)
    (fits : (ScriptNumber.minimalForm bytes).length ≤ width) :
    Operation.numberToBytes op minimal limit (count :: bytes :: rest) =
      if ElementMaker.widen.refuses limit width then
        .error (.wideningTooLong width limit.toNat) (count :: bytes :: rest)
      else .ok () (ScriptNumber.widen width (ScriptNumber.minimalForm bytes) :: rest) := by
  have read : StackAction.number minimal 0 (count :: bytes :: rest) =
      .ok (width : Int) (count :: bytes :: rest) := StackAction.number_of_getElem? rfl counted
  have wide : ¬ ((width : Int) < 0 ∨
      (width : Int).toNat < (ScriptNumber.minimalForm bytes).length) := by omega
  rw [Operation.numberToBytes_of_number op minimal read, if_neg wide, Int.toNat_natCast]
  simp only [ElementMaker.refuses_widen_iff]

end Operations

theorem Opcode.bare_of_makes : ∀ op : Opcode,
    Instruction.ofOpcode op = .cat ∨ Instruction.ofOpcode op = .numberToBytes →
      op.isDisabled = false ∧ op.isPush = false :=
  ScriptNumber.forall_byte (by decide +kernel)

/-- What comes of making an element. Either the machine is left as it was, and the failure names the
size that the element would have, or the element stands in the place of what it was made of. -/
theorem Chunk.execute_of_makes (executing : machine.isExecuting = true)
    (makes : chunk.Makes env.policy maker machine.stack element rest) :
    chunk.execute env machine =
      if maker.refuses env.policy.maxElementSize element.length then
        .error (maker.refusal element.length env.policy.maxElementSize.toNat) machine
      else .ok .next { machine with stack := element :: rest } := by
  obtain ⟨stack, alt, branches⟩ := machine
  cases makes with
  | push push minimal =>
    by_cases long : env.policy.maxElementSize.toNat < chunk.data.length
    · simp [Chunk.execute, ElementMaker.refuses, ElementMaker.refusal, long]
    · have accepted : (env.policy.requireMinimalPush && !chunk.isMinimalPush) = false := by
        cases required : env.policy.requireMinimalPush with
        | false => rfl
        | true => rw [minimal required, Bool.not_true, Bool.and_false]
      rw [execute_of_isPush (Nat.not_lt.mp long) executing push, accepted]
      simp [ElementMaker.refuses, long]
  | @join op front back rest joins =>
    obtain ⟨enabled, bare⟩ := Opcode.bare_of_makes op (.inl joins)
    rw [execute_ofOpcode executing enabled bare, joins, Instruction.run, onMainThenNext_apply,
      Operation.cat_cons_cons]
    cases ElementMaker.join.refuses env.policy.maxElementSize (front ++ back).length <;> rfl
  | @widen op count bytes rest width widens counted fits =>
    obtain ⟨enabled, bare⟩ := Opcode.bare_of_makes op (.inr widens)
    rw [execute_ofOpcode executing enabled bare, widens, Instruction.run, onMainThenNext_apply,
      Operation.numberToBytes_of_fits counted fits, ScriptNumber.length_widen fits]
    cases ElementMaker.widen.refuses env.policy.maxElementSize width <;> rfl

/-- Making an element fails for its size where the maker refuses it, and fails for nothing else. -/
theorem Chunk.exists_elementLimit_iff (executing : machine.isExecuting = true)
    (makes : chunk.Makes env.policy maker machine.stack element rest) :
    (∃ cause left, chunk.execute env machine = .error cause left ∧
      cause.isElementLimit = true ∧ cause.kind = .encoding) ↔
      maker.refuses env.policy.maxElementSize element.length = true := by
  rw [execute_of_makes executing makes]
  split
  · rename_i refused
    have limited := maker.isElementLimit_refusal element.length env.policy.maxElementSize.toNat
    exact iff_of_true ⟨_, _, rfl, limited, Failure.kind_of_isElementLimit limited⟩ refused
  · rename_i admitted
    exact iff_of_false (fun ⟨_, _, failed, _⟩ => nomatch failed) admitted

end Outcome

section Exactness

variable {policy : Policy}

/-- Under a limit of `2 ^ 63` or more, not even zero can be written in no bytes. -/
theorem Policy.not_enforcesElementLimit_of_ge (wide : 2 ^ 63 ≤ policy.maxElementSize.toNat) :
    ¬ policy.EnforcesElementLimit := by
  intro enforces
  let env : Environment := ⟨policy, fun _ _ _ => false, [], none⟩
  let machine : Machine := { stack := [[], []] }
  have counted : ScriptNumber.parse ScriptNumber.operandLimit env.policy.requireMinimalPush [] =
      .ok (0 : Nat) := by
    cases env.policy.requireMinimalPush <;> rfl
  have makes : (Chunk.ofOpcode 0x80).Makes env.policy .widen machine.stack [] [] :=
    .widen (by decide) counted (Nat.le_refl 0)
  have refuses : ElementMaker.widen.refuses policy.maxElementSize 0 = true := by
    rw [ElementMaker.refuses, decide_eq_true wide, Bool.or_true]
  have refused := (Chunk.exists_elementLimit_iff rfl makes).mpr refuses
  exact absurd ((enforces env machine .widen _ [] [] rfl rfl makes).mp refused) (Nat.not_lt_zero _)

/-- The limit is kept exactly if and only if it is below `2 ^ 63`. -/
theorem Policy.enforcesElementLimit_iff (policy : Policy) :
    policy.EnforcesElementLimit ↔ policy.maxElementSize.toNat < 2 ^ 63 := by
  constructor
  · intro enforces
    exact Nat.not_le.mp fun wide => not_enforcesElementLimit_of_ge wide enforces
  · rintro narrow env machine maker chunk element rest rfl executing makes
    rw [Chunk.exists_elementLimit_iff executing makes, ElementMaker.refuses_iff_of_lt narrow]

/-- Writes five in two bytes and compares it with `0500`, under some limit. -/
def Spend.fiveInTwoBytes (limit : UInt64) : Spend :=
  { standard .bare [.ofOpcode 0x55, .ofOpcode 0x52]
      [.ofOpcode 0x80, .ofData [5, 0], .ofOpcode 0x87] with
    policy := { maxElementSize := limit } }

/-- A limit of `2 ^ 63 - 1` admits these two bytes. They are said to exceed one of `2 ^ 63`. -/
theorem Policy.not_enforcesElementLimit_signBit :
    (∃ final, Spend.validate Ecdsa.verify (.fiveInTwoBytes 0x7fffffffffffffff) = .ok () final) ∧
      (∃ e failed,
        Spend.validate Ecdsa.verify (.fiveInTwoBytes 0x8000000000000000) = .error e failed ∧
          e.cause = .wideningTooLong 2 0x8000000000000000) ∧
      ¬ Policy.EnforcesElementLimit { maxElementSize := 0x8000000000000000 } := by
  refine ⟨⟨_, rfl⟩, ⟨_, _, rfl, rfl⟩, ?_⟩
  exact not_enforcesElementLimit_of_ge (by decide)

end Exactness

end ScriptSpend
