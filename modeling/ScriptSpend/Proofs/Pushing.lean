import ScriptSpend.Proofs.StraightRuns
import ScriptSpend.Proofs.WellFormedChunks

/-!
# Executing pushes

On a branch that is taken, the shortest push of some data puts exactly that data on the main stack,
whether it carries the data or stands for a small number. Where the policy asks for minimal pushes,
nothing else in a script that only pushes can be executed.

## Main definitions

* `Environment.standard`: what a script is executed against under the standard rules

## Main results

* `Chunk.execute_ofData`: the shortest push of some data pushes it
* `Chunk.exists_data_of_execute`: what only pushes and was executed is a shortest push
* `Script.execute_map_ofData`, `Script.exists_items_of_execute`: the same for scripts that only push
* `Spend.exists_items_of_validate`, `Spend.exists_validate_of_items`: what it takes for a locking
  script without jumps to be satisfied
-/

namespace ScriptSpend

open StackAction

namespace Chunk

variable {env : Environment} {chunk : Chunk} {data : Bytes} {machine left : Machine} {flow : Flow}

theorem isPushOnly_of_isPush (op : Opcode) (push : op.isPush = true) : op.isPushOnly = true := by
  simp only [Opcode.isPush, Opcode.isPushOnly, Opcode.pushData4, Opcode.sixteen] at push ⊢
  grind

theorem isDisabled_of_isPushOnly (op : Opcode) (pushOnly : op.isPushOnly = true) :
    op.isDisabled = false := by
  simp only [Opcode.isPushOnly, Opcode.isDisabled, Opcode.sixteen] at pushOnly ⊢
  grind

/-- A push that carries its payload pushes it, if it is minimal or need not be. -/
theorem execute_of_isPush (within : chunk.data.length ≤ env.policy.maxElementSize.toNat)
    (executing : machine.isExecuting = true) (push : chunk.opcode.isPush = true) :
    chunk.execute env machine =
      if env.policy.requireMinimalPush && !chunk.isMinimalPush then .error .pushNotMinimal machine
      else .ok .next { machine with stack := chunk.data :: machine.stack } := by
  have enabled := isDisabled_of_isPushOnly _ (isPushOnly_of_isPush _ push)
  simp only [Chunk.execute, if_neg (Nat.not_lt.mpr within), executing, enabled, push,
    Bool.and_false, Bool.false_eq_true, if_false, if_true, pushData]
  split
  · rfl
  · rw [onMainThenNext_apply, push_apply]

/-- A chunk that carries no payload runs its instruction. -/
theorem execute_of_not_isPush (within : chunk.data.length ≤ env.policy.maxElementSize.toNat)
    (executing : machine.isExecuting = true) (enabled : chunk.opcode.isDisabled = false)
    (bare : chunk.opcode.isPush = false) :
    chunk.execute env machine =
      (Instruction.ofOpcode chunk.opcode).run env chunk.opcode true machine := by
  simp [Chunk.execute, Nat.not_lt.mpr within, executing, enabled, bare]

theorem execute_ofOpcode {op : Opcode} (executing : machine.isExecuting = true)
    (enabled : op.isDisabled = false) (bare : op.isPush = false) :
    (ofOpcode op).execute env machine = (Instruction.ofOpcode op).run env op true machine :=
  execute_of_not_isPush (Nat.zero_le _) executing enabled bare

/-- The opcodes that only push and carry no payload stand for numbers, with one exception. -/
theorem constant_of_isPushOnly : ∀ op : Opcode, op.isPush = false → op.isPushOnly = true →
    op ≠ 0x50 → Instruction.ofOpcode op = .constant ((op.toNat : Int) - 0x50) ∧
      ofData (ScriptNumber.encode ((op.toNat : Int) - 0x50)) = .ofOpcode op :=
  ScriptNumber.forall_byte (by decide +kernel)

/-- What only pushes and was executed is the shortest push of the item that it has pushed. -/
theorem exists_data_of_execute (wellFormed : chunk.WellFormed)
    (pushOnly : chunk.opcode.isPushOnly = true) (minimal : env.policy.requireMinimalPush = true)
    (executing : machine.isExecuting = true)
    (executed : chunk.execute env machine = .ok flow left) :
    ∃ data, chunk = ofData data ∧ left = { machine with stack := data :: machine.stack } := by
  have within : chunk.data.length ≤ env.policy.maxElementSize.toNat := by
    refine Nat.not_lt.mp fun long => ?_
    simp [Chunk.execute, long] at executed
  cases push : chunk.opcode.isPush with
  | true =>
    rw [execute_of_isPush within executing push] at executed
    split at executed
    · cases executed
    · rename_i accepted
      cases executed
      refine ⟨chunk.data, eq_ofData_of_isMinimalPush wellFormed push ?_, rfl⟩
      simpa [minimal] using accepted
  | false =>
    rw [execute_of_not_isPush within executing (isDisabled_of_isPushOnly _ pushOnly) push]
      at executed
    by_cases reserved : chunk.opcode = 0x50
    · rw [reserved] at executed
      cases executed
    · obtain ⟨constant, shortest⟩ := constant_of_isPushOnly _ push pushOnly reserved
      rw [constant] at executed
      cases executed
      refine ⟨_, ?_, rfl⟩
      rw [shortest]
      exact eq_ofOpcode_of_not_isPush wellFormed push

/-- The opcodes of the small numbers push them. -/
theorem constant_ofSmall : ∀ byte : UInt8, 1 ≤ byte ∧ byte ≤ 16 →
    Instruction.ofOpcode (.ofSmall byte) = .constant byte.toNat ∧
      ScriptNumber.encode byte.toNat = [byte] ∧ Opcode.isDisabled (.ofSmall byte) = false :=
  ScriptNumber.forall_byte (by decide +kernel)

theorem execute_direct (within : data.length ≤ env.policy.maxElementSize.toNat)
    (executing : machine.isExecuting = true) (minimal : (direct data).isMinimalPush = true) :
    (direct data).execute env machine =
      .ok .next { machine with stack := data :: machine.stack } := by
  have carried : (direct data).data.length ≤ env.policy.maxElementSize.toNat := within
  rw [execute_of_isPush carried executing (isPush_pushing _), minimal, Bool.not_true,
    Bool.and_false]
  rfl

/-- The shortest push of some data is minimal. -/
theorem isMinimalPush_ofData (data : Bytes) : (ofData data).isMinimalPush = true := by
  match data with
  | [] => rfl
  | [byte] =>
    by_cases small : 1 ≤ byte ∧ byte ≤ 16
    · rw [ofData, if_pos small]
      exact isMinimalPush_of_not_isPush (isPush_ofSmall byte small)
    · by_cases negative : byte = 0x81
      · rw [ofData, if_neg small, if_pos negative]
        rfl
      · rw [ofData, if_neg small, if_neg negative, isMinimalPush_of_isPush (isPush_pushing _)]
        simp [direct, Chunk.data, small, negative]
  | first :: second :: rest =>
    have long : 2 ≤ (first :: second :: rest).length := Nat.le_add_left 2 rest.length
    rw [ofData_of_two_le long, direct, isMinimalPush_of_two_le (isPush_pushing _) long,
      beq_self_eq_true]

/-- The shortest push of some data pushes it. Only a payload counts against the limit, and the small
constants carry none. -/
theorem execute_ofData_of_carried
    (within : (ofData data).data.length ≤ env.policy.maxElementSize.toNat)
    (executing : machine.isExecuting = true) :
    (ofData data).execute env machine =
      .ok .next { machine with stack := data :: machine.stack } := by
  match data with
  | [] =>
    rw [ofData, execute_of_isPush (Nat.zero_le _) executing rfl,
      show isMinimalPush (ofOpcode .zero) = true from rfl, Bool.not_true, Bool.and_false]
    rfl
  | [byte] =>
    by_cases small : 1 ≤ byte ∧ byte ≤ 16
    · obtain ⟨constant, encoded, enabled⟩ := constant_ofSmall byte small
      have shape : ofData [byte] = ofOpcode (.ofSmall byte) := by rw [ofData, if_pos small]
      rw [shape, execute_ofOpcode executing enabled (isPush_ofSmall byte small), constant]
      simp only [Instruction.run, onMainThenNext_apply, push_apply, encoded]
    · by_cases negative : byte = 0x81
      · have shape : ofData [byte] = ofOpcode .minusOne := by
          rw [ofData, if_neg small, if_pos negative]
        have constant : Instruction.ofOpcode .minusOne = .constant (-1) := by decide
        have encoded : ScriptNumber.encode (-1) = [byte] := by
          rw [negative]
          decide +kernel
        rw [shape, execute_ofOpcode executing (by decide) (by decide), constant]
        simp only [Instruction.run, onMainThenNext_apply, push_apply, encoded]
      · have shape : ofData [byte] = direct [byte] := by rw [ofData, if_neg small, if_neg negative]
        rw [shape] at within ⊢
        exact execute_direct within executing (shape ▸ isMinimalPush_ofData [byte])
  | first :: second :: rest =>
    exact execute_direct within executing (isMinimalPush_ofData (first :: second :: rest))

theorem length_data_ofData_le (data : Bytes) : (ofData data).data.length ≤ data.length := by
  unfold ofData
  split
  · exact Nat.le_refl _
  · split
    · exact Nat.zero_le _
    · split
      · exact Nat.zero_le _
      · exact Nat.le_refl _
  · exact Nat.le_refl _

theorem execute_ofData (within : data.length ≤ env.policy.maxElementSize.toNat)
    (executing : machine.isExecuting = true) :
    (ofData data).execute env machine =
      .ok .next { machine with stack := data :: machine.stack } :=
  execute_ofData_of_carried ((length_data_ofData_le data).trans within) executing

/-- A shortest push may occur in a script that only pushes. -/
theorem isPushOnly_ofData (data : Bytes) : (ofData data).opcode.isPushOnly = true := by
  have ofSmall (byte : UInt8) (small : 1 ≤ byte ∧ byte ≤ 16) :
      Opcode.isPushOnly (.ofSmall byte) = true := by
    simp only [Opcode.isPushOnly, Opcode.ofSmall, Opcode.one, Opcode.sixteen]
    grind
  unfold ofData
  split
  · rfl
  · rename_i byte
    split
    · exact ofSmall byte ‹_›
    · split
      · rfl
      · exact isPushOnly_of_isPush _ (isPush_pushing _)
  · exact isPushOnly_of_isPush _ (isPush_pushing _)

end Chunk

namespace Script

variable {env : Environment} {script : Script} {machine left : Machine}

/-- The shortest pushes of some items leave these items, the last one on top. -/
theorem execute_map_ofData {items : List Bytes}
    (within : ∀ item ∈ items, item.length ≤ env.policy.maxElementSize.toNat)
    (executing : machine.isExecuting = true) :
    execute env (items.map Chunk.ofData) machine =
      .ok () { machine with stack := items.reverse ++ machine.stack } := by
  induction items generalizing machine with
  | nil => rfl
  | cons item items ih =>
    have pushed := Chunk.execute_ofData (within item (by simp)) executing
    have later := @ih { machine with stack := item :: machine.stack }
      (fun other listed => within other (by simp [listed])) executing
    simp only [List.map_cons, execute, bind_apply, pushed, later]
    simp

/-- A script that only pushes and was executed consists of the shortest pushes of some items. -/
theorem exists_items_of_execute (wellFormed : script.WellFormed)
    (pushOnly : script.isPushOnly = true) (minimal : env.policy.requireMinimalPush = true)
    (executing : machine.isExecuting = true)
    (executed : execute env script machine = .ok () left) :
    ∃ items : List Bytes, script = items.map Chunk.ofData ∧
      left = { machine with stack := items.reverse ++ machine.stack } := by
  induction script generalizing machine with
  | nil =>
    cases executed
    exact ⟨[], rfl, rfl⟩
  | cons chunk script ih =>
    simp only [isPushOnly, List.all_cons, Bool.and_eq_true] at pushOnly
    simp only [execute, bind_apply] at executed
    split at executed
    · rename_i flow reached pushed
      obtain ⟨data, rfl, rfl⟩ := Chunk.exists_data_of_execute (wellFormed _ (by simp)) pushOnly.1
        minimal executing pushed
      obtain ⟨items, rfl, rfl⟩ := @ih { machine with stack := data :: machine.stack }
        (fun c listed => wellFormed c (by simp [listed])) pushOnly.2 executing executed
      exact ⟨data :: items, rfl, by simp⟩
    · cases executed

/-- The shortest pushes of some items only push. -/
theorem isPushOnly_map_ofData (items : List Bytes) :
    isPushOnly (items.map Chunk.ofData) = true := by
  simp [isPushOnly, Chunk.isPushOnly_ofData]

theorem isStraight_of_isPushOnly (pushOnly : script.isPushOnly = true) :
    ∀ chunk ∈ script, chunk.isStraight = true := by
  have ordinary : ∀ op : Opcode, op.isPushOnly = true →
      (Chunk.ofOpcode op).isStraight = true := ScriptNumber.forall_byte (by decide +kernel)
  intro chunk listed
  exact ordinary chunk.opcode (List.all_eq_true.mp pushOnly chunk listed)

end Script

theorem Policy.maxElementSize_standard : ({} : Policy).maxElementSize.toNat = 2 ^ 30 := by decide

/-- What the chunks of a script are executed against under the standard rules, when the script is
run from its start. -/
def Environment.standard (verify : Ecdsa.Verifier) (context : InputContext) (script : Script) :
    Environment where
  policy := {}
  checker := Spend.checker verify context
  script := script
  lastSeparator := none

namespace Environment

variable {verify : Ecdsa.Verifier} {context : InputContext} {script : Script}

@[simp] theorem standard_subscript : (standard verify context script).subscript = script := rfl

@[simp] theorem standard_checker (decoded : ScopedSignature) (key : Bytes) (subscript : Script) :
    (standard verify context script).checker decoded key subscript =
      verify (sighash context subscript decoded.scope) decoded.signature key := rfl

end Environment

namespace Spend

variable {verify : Ecdsa.Verifier} {context : InputContext} {unlocking locking : Script}
  {items : List Bytes} {machine : Machine} {final : Spend} {top : Bytes}

/-- What is valid under the standard rules has pushed some items by their shortest pushes, on which
the locking script leaves a single true item. -/
theorem exists_items_of_validate (wellFormed : unlocking.WellFormed)
    (straight : ∀ chunk ∈ locking, chunk.isStraight = true)
    (valid : validate verify (standard context unlocking locking) = .ok () final) :
    ∃ (items : List Bytes) (machine : Machine) (top : Bytes), unlocking = items.map .ofData ∧
      Script.execute (.standard verify context locking) locking { stack := items.reverse } =
        .ok () machine ∧
      machine.stack = [top] ∧ ScriptNumber.isTrue top = true := by
  have pushOnly : unlocking.isPushOnly = true := (validate_eq_ok_iff.mp valid).1
  have accepted : ∃ final, validate verify (standard context unlocking locking).reset =
      .ok () final := ⟨final, valid⟩
  rw [validate_iff_of_isStraight rfl (Script.isStraight_of_isPushOnly pushOnly) straight]
    at accepted
  obtain ⟨-, unlocked, machine, unlocks, locks, concluded⟩ := accepted
  obtain ⟨items, pushed, rfl⟩ :=
    Script.exists_items_of_execute wellFormed pushOnly rfl rfl unlocks
  have started : ({ stack := items.reverse ++ [] } : Machine) = { stack := items.reverse } := by
    rw [List.append_nil]
  obtain ⟨top, single⟩ := List.length_eq_one_iff.mp (concluded.clean rfl)
  have truth := concluded.true_on_top
  rw [single] at truth
  exact ⟨items, machine, top, pushed, started ▸ locks, single, truth⟩

/-- Shortest pushes are valid if the locking script leaves a single true item on what they push. -/
theorem exists_validate_of_items (straight : ∀ chunk ∈ locking, chunk.isStraight = true)
    (within : ∀ item ∈ items, item.length ≤ ({} : Policy).maxElementSize.toNat)
    (executed : Script.execute (.standard verify context locking) locking
      { stack := items.reverse } = .ok () machine)
    (closed : machine.branches = []) (single : machine.stack = [top])
    (truth : ScriptNumber.isTrue top = true) :
    ∃ final, validate verify (standard context (items.map .ofData) locking) = .ok () final := by
  have pushOnly := Script.isPushOnly_map_ofData items
  have unlocks : Script.execute (.standard verify context (items.map .ofData))
      (items.map .ofData) {} = .ok () { stack := items.reverse ++ [] } :=
    Script.execute_map_ofData within rfl
  rw [List.append_nil] at unlocks
  change ∃ final, validate verify (standard context (items.map .ofData) locking).reset =
    .ok () final
  rw [validate_iff_of_isStraight rfl (Script.isStraight_of_isPushOnly pushOnly) straight]
  exact ⟨pushOnly, _, machine, unlocks, executed, closed, fun _ => by simp [single],
    by simpa [single] using truth⟩

end Spend

end ScriptSpend
