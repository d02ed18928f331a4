import Mathlib.Algebra.Group.Nat.Defs
import ScriptSpend.Execution
import ScriptSpend.Proofs.Matching
import ScriptSpend.Proofs.RunningActions

/-!
# Lenient actions

A policy is consulted in the middle of operations: for the form of numbers, for the size of items,
for the parts of signatures and for the number of keys. A laxer policy permits whatever a stricter
one does if none of these answers ever decides about a value, only about whether there is one. This
is a relation between two actions that goes through sequencing and guards, so that it holds of an
operation once it holds of what the operation reads.

## Main definitions

* `Admits`, `Permits`: one computation has every value that another has
* `Policy.RelaxesTo`: one policy asks for no more than another does

## Main results

* `numberToBytes_permits`: the one limit that is read as a signed word, as long as it is a positive
  one
* `checkSig_permits`, `checkMultiSig_permits`: the checks of signatures under a laxer policy
-/

namespace ScriptSpend

section Permission

variable {ε σ α β : Type}

/-- Where the strict computation has a value, the lenient one has the same value. -/
def Admits (strict lenient : Except ε α) : Prop :=
  ∀ ⦃value⦄, strict = .ok value → lenient = .ok value

/-- Where the strict action succeeds, the lenient one succeeds with the same value and leaves the
same state. -/
def Permits (strict lenient : EStateM ε σ α) : Prop :=
  ∀ ⦃state value left⦄, strict state = .ok value left → lenient state = .ok value left

theorem Admits.refl (result : Except ε α) : Admits result result := fun _ ok => ok

/-- Of two guards in the same place, the lenient one holds back less. -/
theorem Admits.guard {barred barredToo : Prop} [Decidable barred] [Decidable barredToo]
    {cause other : ε} {strict lenient : Except ε α} (fewer : barredToo → barred)
    (behind : Admits strict lenient) :
    Admits (if barred then .error cause else strict)
      (if barredToo then .error other else lenient) := by
  intro value ok
  rw [exceptIte_eq_ok_iff] at ok ⊢
  exact ⟨fun barred => ok.1 (fewer barred), behind ok.2⟩

theorem Admits.ite {condition : Prop} [Decidable condition]
    {strict lenient other otherToo : Except ε α} (first : Admits strict lenient)
    (second : Admits other otherToo) :
    Admits (if condition then strict else other) (if condition then lenient else otherToo) := by
  split
  · exact first
  · exact second

variable {strict lenient : EStateM ε σ α}

theorem Permits.refl (action : EStateM ε σ α) : Permits action action := fun _ _ _ ok => ok

theorem Permits.bind {next nextToo : α → EStateM ε σ β} (first : Permits strict lenient)
    (rest : ∀ value, Permits (next value) (nextToo value)) :
    Permits (strict >>= next) (lenient >>= nextToo) := by
  intro state value left ok
  rw [bind_eq_ok_iff] at ok ⊢
  obtain ⟨read, middle, ran, ranOn⟩ := ok
  exact ⟨read, middle, first ran, rest read ranOn⟩

/-- Two actions that differ in their first part only. -/
theorem Permits.bind_left (first : Permits strict lenient) (next : α → EStateM ε σ β) :
    Permits (strict >>= next) (lenient >>= next) :=
  first.bind fun value => .refl (next value)

/-- Two actions that differ behind their first part only. -/
theorem Permits.bind_right (first : EStateM ε σ α) {next nextToo : α → EStateM ε σ β}
    (rest : ∀ value, Permits (next value) (nextToo value)) :
    Permits (first >>= next) (first >>= nextToo) :=
  (Permits.refl first).bind rest

theorem Permits.ite {condition : Prop} [Decidable condition] {other otherToo : EStateM ε σ α}
    (first : Permits strict lenient) (second : Permits other otherToo) :
    Permits (if condition then strict else other) (if condition then lenient else otherToo) := by
  split
  · exact first
  · exact second

/-- Of two guards in the same place, the lenient one holds back less. -/
theorem Permits.guard {barred barredToo : Prop} [Decidable barred] [Decidable barredToo]
    {cause other : ε} (fewer : barredToo → barred) (behind : Permits strict lenient) :
    Permits (if barred then throw cause else strict)
      (if barredToo then throw other else lenient) := by
  intro state value left ok
  have passed : ¬ barred := by
    intro barred
    simp [barred] at ok
  rw [if_neg passed] at ok
  rw [if_neg fun barred => passed (fewer barred)]
  exact behind ok

end Permission

/-- Of two policies, the laxer one has no requirement that the other has not, and no tighter limit.
-/
structure Policy.RelaxesTo (strict lenient : Policy) : Prop where
  elementSize : strict.maxElementSize ≤ lenient.maxElementSize
  multisigKeys : strict.maxMultisigKeys ≤ lenient.maxMultisigKeys
  minimalPush : lenient.requireMinimalPush = true → strict.requireMinimalPush = true
  pushOnly : lenient.requirePushOnlyUnlocking = true → strict.requirePushOnlyUnlocking = true
  lowS : lenient.requireLowS = true → strict.requireLowS = true
  cleanStack : lenient.requireCleanStack = true → strict.requireCleanStack = true
  nullDummy : lenient.requireNullDummy = true → strict.requireNullDummy = true
  steps : ∀ bound, lenient.maxSteps = some bound →
    ∃ tighter, strict.maxSteps = some tighter ∧ tighter ≤ bound

/-- Guards that a requirement strengthens hold back less without it. -/
theorem and_eq_true_of_imp {required requiredToo broken : Bool}
    (laxer : requiredToo = true → required = true) (barred : (requiredToo && broken) = true) :
    (required && broken) = true := by
  rw [Bool.and_eq_true] at barred ⊢
  exact ⟨laxer barred.1, barred.2⟩

open StackAction

theorem check_permits {α : Type} {strict lenient : Except Failure α}
    (admits : Admits strict lenient) : Permits (check strict) (check lenient) := by
  intro stack value left ok
  cases strictly : strict with
  | error cause =>
    rw [strictly] at ok
    cases ok
  | ok result =>
    rw [strictly] at ok
    rw [admits strictly]
    exact ok

section Numbers

variable {minimal minimalToo : Bool} (op : Opcode) (laxer : minimalToo = true → minimal = true)
include laxer

theorem parse_admits (limit : Nat) (bytes : Bytes) :
    Admits (ScriptNumber.parse limit minimal bytes)
      (ScriptNumber.parse limit minimalToo bytes) :=
  .guard id (.guard (and_eq_true_of_imp laxer) (.refl _))

theorem number_permits (depth : Nat) :
    Permits (number minimal depth) (number minimalToo depth) := by
  intro stack n left read
  rw [number_eq_ok_iff] at read ⊢
  obtain ⟨rfl, bytes, found, parsed⟩ := read
  exact ⟨rfl, bytes, found, parse_admits laxer _ _ parsed⟩

namespace Operation

theorem atStackedDepth_permits (action : Nat → StackAction Bytes) :
    Permits (atStackedDepth op minimal action) (atStackedDepth op minimalToo action) :=
  .bind_right _ fun _ => (number_permits laxer 0).bind_left _

theorem split_permits : Permits (split op minimal) (split op minimalToo) :=
  .bind_right _ fun _ => (number_permits laxer 0).bind_left _

theorem shift_permits (direction : ShiftDirection) :
    Permits (shift op minimal direction) (shift op minimalToo direction) :=
  .bind_right _ fun _ => .bind_right _ fun _ =>
    .ite (.refl _) ((number_permits laxer 0).bind_left _)

theorem unary_permits (which : UnaryOp) :
    Permits (unary op minimal which) (unary op minimalToo which) :=
  .bind_right _ fun _ => (number_permits laxer 0).bind_left _

theorem binary_permits (which : BinaryOp) (verify : Bool) :
    Permits (binary op minimal which verify) (binary op minimalToo which verify) :=
  .bind_right _ fun _ => (number_permits laxer 1).bind fun _ =>
    (number_permits laxer 0).bind_left _

theorem within_permits : Permits (within op minimal) (within op minimalToo) :=
  .bind_right _ fun _ => (number_permits laxer 2).bind fun _ =>
    (number_permits laxer 1).bind fun _ => (number_permits laxer 0).bind_left _

end Operation

end Numbers

section Sizes

variable {minimal minimalToo : Bool} {limit larger : UInt64} (op : Opcode)

/-- Below `2 ^ 63` a limit is the same number when it is read as a signed word. -/
theorem toInt_toInt64_of_lt (narrow : limit.toNat < 2 ^ 63) :
    limit.toInt64.toInt = limit.toNat := by
  have signed : limit.toInt64.toInt = limit.toBitVec.toInt := rfl
  have same : limit.toBitVec.toNat = limit.toNat := rfl
  rw [signed, BitVec.toInt_eq_toNat_of_lt (by omega), same]

/-- From `2 ^ 63` on it is a negative number. -/
theorem toInt_toInt64_of_ge (wide : 2 ^ 63 ≤ limit.toNat) : limit.toInt64.toInt < 0 := by
  have signed : limit.toInt64.toInt = limit.toBitVec.toInt := rfl
  have same : limit.toBitVec.toNat = limit.toNat := rfl
  have bound := limit.toNat_lt
  rw [signed, BitVec.toInt_eq_toNat_cond, if_neg (by omega)]
  omega

namespace Operation

theorem cat_permits (raised : limit.toNat ≤ larger.toNat) :
    Permits (cat op limit) (cat op larger) :=
  .bind_right _ fun _ => .bind_right _ fun _ => .bind_right _ fun _ =>
    .guard (Nat.lt_of_le_of_lt raised) (.refl _)

/-- Raising the limit permits as much as before only while the limit is a positive signed word. -/
theorem numberToBytes_permits (laxer : minimalToo = true → minimal = true)
    (raised : limit.toNat ≤ larger.toNat) (narrow : larger.toNat < 2 ^ 63) :
    Permits (numberToBytes op minimal limit) (numberToBytes op minimalToo larger) := by
  have below : limit.toInt64.toInt ≤ larger.toInt64.toInt := by
    rw [toInt_toInt64_of_lt narrow, toInt_toInt64_of_lt (Nat.lt_of_le_of_lt raised narrow)]
    exact Int.ofNat_le.mpr raised
  exact .bind_right _ fun _ => (number_permits laxer 0).bind fun _ =>
    .guard (Int.lt_of_le_of_lt below) (.refl _)

end Operation

end Sizes

/-- Where every attempt has the same answer, so does the pass over signatures and keys. -/
theorem matchSignatures_admits {fits fitsToo : Bytes → Bytes → Except Failure Bool}
    (answers : ∀ item key, Admits (fits item key) (fitsToo item key)) (items keys : List Bytes) :
    Admits (matchSignatures fits items keys) (matchSignatures fitsToo items keys) := by
  induction keys generalizing items with
  | nil => cases items <;> exact .refl _
  | cons key keys ih =>
    cases items with
    | nil => exact .refl _
    | cons item items =>
      intro success matched
      cases answer : fits item key with
      | error cause => simp only [matchSignatures, answer, reduceCtorEq] at matched
      | ok fit =>
        rw [matchSignatures_cons_cons answer] at matched
        rw [matchSignatures_cons_cons (answers item key answer)]
        exact Admits.ite (.refl _) (ih _) matched

section Policies

variable {strict lenient : Policy} {checker : Checker} {op : Opcode}
  (relaxed : strict.RelaxesTo lenient)
include relaxed

theorem checkSignatureEncoding_admits (item : Bytes) :
    Admits (checkSignatureEncoding strict item) (checkSignatureEncoding lenient item) := by
  unfold checkSignatureEncoding
  split
  · exact .refl _
  · split
    · exact .refl _
    · cases ScopedSignature.ofItem item with
      | error cause => exact .refl _
      | ok decoded => exact .guard (and_eq_true_of_imp relaxed.lowS) (.refl _)

theorem tryKey_admits (subscript : Script) (item key : Bytes) :
    Admits (tryKey strict checker subscript item key)
      (tryKey lenient checker subscript item key) := by
  intro fit tried
  unfold tryKey at tried ⊢
  cases checked : checkSignatureEncoding strict item with
  | error cause =>
    rw [checked] at tried
    cases tried
  | ok _ =>
    rw [checked] at tried
    rw [checkSignatureEncoding_admits relaxed item checked]
    exact tried

theorem Operation.multiSigOperands_permits :
    Permits (multiSigOperands op strict) (multiSigOperands op lenient) := by
  have raised : (strict.maxMultisigKeys.toNat : Int) ≤ lenient.maxMultisigKeys.toNat :=
    Int.ofNat_le.mpr relaxed.multisigKeys
  exact .bind_right _ fun _ => (number_permits relaxed.minimalPush 0).bind fun _ =>
    .guard (Or.imp_right (Int.lt_of_le_of_lt raised)) <| .bind_right _ fun _ =>
      (number_permits relaxed.minimalPush _).bind_left _

theorem Operation.settleMultiSig_permits (verify : Bool) (operands : MultiSigOperands)
    (success : Bool) :
    Permits (settleMultiSig op strict verify operands success)
      (settleMultiSig op lenient verify operands success) :=
  .bind_right _ fun _ => .bind_right _ fun _ => .bind_right _ fun _ =>
    .ite (.refl _) <| .bind_right _ fun _ =>
      .guard (and_eq_true_of_imp relaxed.nullDummy) (.refl _)

end Policies

section Environments

variable {env : Environment} {lenient : Policy} {op : Opcode}
  (relaxed : env.policy.RelaxesTo lenient)
include relaxed

theorem matchOperands_admits (operands : MultiSigOperands) :
    Admits (env.matchOperands operands)
      ({ env with policy := lenient }.matchOperands operands) := by
  intro success matched
  unfold Environment.matchOperands at matched ⊢
  cases stripped : stripSignatures env.subscript operands.signatures with
  | error cause =>
    rw [stripped] at matched
    cases matched
  | ok subscript =>
    -- The subscript is the same under both policies.
    have same : stripSignatures { env with policy := lenient }.subscript operands.signatures =
        .ok subscript := stripped
    rw [stripped] at matched
    rw [same]
    exact matchSignatures_admits (tryKey_admits relaxed subscript) _ _ matched

namespace Operation

theorem checkSig_permits (verify : Bool) :
    Permits (checkSig op env verify) (checkSig op { env with policy := lenient } verify) :=
  .bind_right _ fun _ => .bind_right _ fun _ => .bind_right _ fun _ =>
    (check_permits (checkSignatureEncoding_admits relaxed _)).bind_left _

theorem checkMultiSig_permits (verify : Bool) :
    Permits (checkMultiSig op env verify)
      (checkMultiSig op { env with policy := lenient } verify) :=
  (multiSigOperands_permits relaxed).bind fun operands =>
    (check_permits (matchOperands_admits relaxed operands)).bind fun success =>
      settleMultiSig_permits relaxed verify operands success

end Operation

end Environments

end ScriptSpend
