import ScriptSpend.Proofs.Conditionals
import ScriptSpend.Proofs.Finality

/-!
# Conditionals left open by the unlocking script

Both scripts work on one list of open conditionals, and nothing looks at it when the locking script
is entered. A conditional that the unlocking script leaves open on a branch that is not taken does
skip the locking script. It does not help to spend the output, though: a locking script that only
switches and closes conditionals of its own never reaches the inherited ones, so these are still
open at the end, whether the end is reached chunk by chunk or by an executed chunk that ends the
script.

## Main definitions

* `Script.IsEnclosed`: the script switches and closes no conditional but its own
* `Spend.IsSwitching`: the next step enters the locking script
* `Spend.HoldsOpen`: what every step keeps after conditionals were left open

## Main results

* `Script.isEnclosed_iff`: whether a script is enclosed can be told from the depth of its chunks
* `Spend.HoldsOpen.afterStep`: a step keeps the inherited conditionals, whether it fails or not
* `Spend.isFinal_of_openAtSwitch`: a spend that enters the locking script with open conditionals is
  never valid
-/

namespace ScriptSpend

section Enclosure

/-- Whether the instruction opens a conditional. -/
def Instruction.opens : Instruction → Bool
  | .branch _ => true
  | _ => false

namespace Script

/-- The number of chunks that open a conditional. -/
def openings (script : Script) : Nat :=
  script.countP fun chunk => (Instruction.ofOpcode chunk.opcode).opens

/-- The number of chunks that close one. -/
def closings (script : Script) : Nat :=
  script.countP fun chunk => Instruction.ofOpcode chunk.opcode == .endBranch

/-- Every chunk that switches or closes a conditional stands inside one: of those opened before it
in the script, not all are closed before it. -/
def IsEnclosed (script : Script) : Prop :=
  ∀ (front : Script) (chunk : Chunk) (back : Script), script = front ++ chunk :: back →
    Instruction.ofOpcode chunk.opcode = .otherwise ∨
      Instruction.ofOpcode chunk.opcode = .endBranch →
    closings front < openings front

variable {script front back : Script} {chunk : Chunk} {depth after : Nat}

/-- What a chunk does to the depth is to count an opening or a closing. -/
theorem add_closings_cons (inside : (Instruction.ofOpcode chunk.opcode).depthAfter? depth =
    some after) :
    after + closings (chunk :: script) + openings script =
      depth + openings (chunk :: script) + closings script := by
  simp only [closings, openings, List.countP_cons]
  cases instruction : Instruction.ofOpcode chunk.opcode with
  | branch negated =>
    rw [instruction] at inside
    cases inside
    simp [Instruction.opens]
    omega
  | otherwise =>
    rw [instruction] at inside
    cases depth <;> cases inside
    simp [Instruction.opens]
    omega
  | endBranch =>
    rw [instruction] at inside
    cases depth <;> cases inside
    simp [Instruction.opens]
    omega
  | _ =>
    rw [instruction] at inside
    cases inside
    simp [Instruction.opens]
    omega

theorem depthAfter?_of_closings
    (enclosed : ∀ (front : Script) (chunk : Chunk) (back : Script),
      script = front ++ chunk :: back →
      Instruction.ofOpcode chunk.opcode = .otherwise ∨
        Instruction.ofOpcode chunk.opcode = .endBranch →
      closings front < depth + openings front) :
    (script.depthAfter? depth).isSome = true := by
  -- By induction on the script, with the conditionals open before it.
  induction script generalizing depth with
  | nil => rfl
  | cons chunk script ih =>
    have entered : ∃ after, (Instruction.ofOpcode chunk.opcode).depthAfter? depth = some after := by
      have first := enclosed [] chunk script rfl
      cases instruction : Instruction.ofOpcode chunk.opcode with
      | otherwise | endBranch =>
        cases depth with
        | zero => exact absurd (first (by simp [instruction])) (Nat.lt_irrefl 0)
        | succ depth => exact ⟨_, rfl⟩
      | _ => exact ⟨_, rfl⟩
    obtain ⟨after, inside⟩ := entered
    rw [depthAfter?, inside, Option.bind_some]
    refine ih fun front other back whole conditional => ?_
    have below := enclosed (chunk :: front) other back (by rw [whole]; rfl) conditional
    have counted := @add_closings_cons front chunk depth after inside
    omega

theorem closings_lt_of_depthAfter? (inside : (script.depthAfter? depth).isSome = true)
    (whole : script = front ++ chunk :: back)
    (conditional : Instruction.ofOpcode chunk.opcode = .otherwise ∨
      Instruction.ofOpcode chunk.opcode = .endBranch) :
    closings front < depth + openings front := by
  induction front generalizing script depth with
  | nil =>
    rw [whole, List.nil_append, depthAfter?] at inside
    rcases conditional with instruction | instruction <;> rw [instruction] at inside <;>
      cases depth <;> simp [Instruction.depthAfter?, closings, openings] at inside ⊢
  | cons first front ih =>
    rw [whole, List.cons_append, depthAfter?] at inside
    cases entered : (Instruction.ofOpcode first.opcode).depthAfter? depth with
    | none => simp [entered] at inside
    | some after =>
      rw [entered, Option.bind_some] at inside
      have below := ih inside rfl
      have counted := @add_closings_cons front first depth after entered
      omega

/-- A script is enclosed if and only if its depth is counted to its end. -/
theorem isEnclosed_iff : script.IsEnclosed ↔ (script.depthAfter? 0).isSome = true := by
  constructor
  · intro enclosed
    refine depthAfter?_of_closings fun front chunk back whole conditional => ?_
    rw [Nat.zero_add]
    exact enclosed front chunk back whole conditional
  · intro inside front chunk back whole conditional
    have below := closings_lt_of_depthAfter? inside whole conditional
    rwa [Nat.zero_add] at below

end Script

end Enclosure

section Chunks

variable {env : Environment} {chunk : Chunk} {machine left : Machine} {outer : List Bool}
  {after : Nat} {flow : Flow} {cause : Failure}

/-- A chunk that stays inside the present conditionals leaves the outer ones as they are, taken or
not. -/
theorem Chunk.exists_within_of_execute
    (inside : (Instruction.ofOpcode chunk.opcode).depthAfter? machine.branches.length = some after)
    (executed : chunk.execute env (machine.within outer) = .ok flow left) :
    ∃ later : Machine, later.branches.length = after ∧ left = later.within outer := by
  have unchanged (plain : chunk.opcode.isPush = true ∨ chunk.opcode.isConditional = false) :
      machine.branches.length = after := by
    rw [Instruction.depthAfter?_of_not_isConditional
      (Instruction.isConditional_eq_false plain)] at inside
    exact Option.some.inj inside
  rcases Chunk.execute_cases executed with ⟨-, plain, -, rfl⟩ | ⟨push, pushed⟩ | ⟨-, ran⟩
  · exact ⟨machine, unchanged plain, rfl⟩
  · rw [onMainThenNext_within, onMainThenNext_apply] at pushed
    cases pushed
    exact ⟨{ machine with stack := chunk.data :: machine.stack }, unchanged (.inl push), rfl⟩
  · rw [Instruction.run_within inside] at ran
    cases alone : (Instruction.ofOpcode chunk.opcode).run env chunk.opcode
        (machine.within outer).isExecuting machine with
    | error cause failed =>
      rw [alone] at ran
      cases ran
    | ok reached later =>
      rw [alone] at ran
      cases ran
      exact ⟨later, Instruction.length_branches_of_run inside alone, rfl⟩

/-- A chunk that fails leaves all conditionals as they are. -/
theorem Chunk.branches_of_failed (failed : chunk.execute env machine = .error cause left) :
    left.branches = machine.branches := by
  rcases Chunk.run_of_execute_eq_error env failed with rfl | runs
  · rfl
  · rw [runs machine rfl] at failed
    obtain ⟨stack, rfl⟩ := Instruction.exists_stack_of_failed env _ _ failed
    rfl

end Chunks

namespace Spend

variable {verify : Ecdsa.Verifier} {spend next failed switching final : Spend} {e : SpendError}
  {outer : List Bool} {count : Nat}

/-- The unlocking script is at its end, and the next step enters the locking script. -/
def IsSwitching (spend : Spend) : Prop :=
  spend.segment = .unlocking ∧ spend.unlocking.length ≤ spend.position

/-- The locking script is executed inside of conditionals that were open before it, and the chunks
ahead stay inside of them. -/
structure HoldsOpen (outer : List Bool) (spend : Spend) : Prop where
  segment : spend.entered.segment = .locking
  inside : ∃ own : List Bool, spend.machine.branches = own ++ outer ∧
    (spend.entered.ahead.depthAfter? own.length).isSome = true

theorem entered_of_locking (segment : spend.segment = .locking) : spend.entered = spend := by
  refine if_neg ?_
  rintro ⟨other, -⟩
  cases segment.symm.trans other

/-- Inside the locking script there is no entering to think of. -/
theorem holdsOpen_of_locking (segment : spend.segment = .locking)
    (inside : ∃ own : List Bool, spend.machine.branches = own ++ outer ∧
      (spend.ahead.depthAfter? own.length).isSome = true) : spend.HoldsOpen outer := by
  rw [← entered_of_locking segment] at inside segment
  exact ⟨segment, by simpa using inside⟩

/-- A locking script that is enclosed holds the conditionals open that it inherits. -/
theorem HoldsOpen.of_isSwitching (switches : spend.IsSwitching)
    (enclosed : spend.locking.IsEnclosed) : spend.HoldsOpen spend.machine.branches := by
  have shape : spend.entered =
      { spend with segment := .locking, position := 0, lastSeparator := none } := if_pos switches
  exact ⟨by rw [shape], [], rfl, by rw [shape]; exact Script.isEnclosed_iff.mp enclosed⟩

/-- A step that succeeds keeps the inherited conditionals open. -/
theorem HoldsOpen.of_step (holds : spend.HoldsOpen outer)
    (stepped : step verify spend = .ok () next) :
    next.HoldsOpen outer := by
  obtain ⟨segment, own, opened, inside⟩ := holds
  rcases step_eq_ok stepped with ⟨-, rfl⟩ | ⟨chunk, flow, machine, found, -, executed, rfl⟩
  · exact holdsOpen_of_locking segment ⟨own, by simpa using opened, inside⟩
  · -- The chunks ahead are this one and those behind it.
    have ahead : spend.entered.ahead = chunk :: spend.entered.script.drop
        (spend.entered.position + 1) := by
      obtain ⟨within, rfl⟩ := List.getElem?_eq_some_iff.mp found
      exact List.drop_eq_getElem_cons within
    rw [ahead, Script.depthAfter?] at inside
    cases entered : (Instruction.ofOpcode chunk.opcode).depthAfter? own.length with
    | none => simp [entered] at inside
    | some after =>
      rw [entered, Option.bind_some] at inside
      have around : spend.entered.machine =
          Machine.within outer { spend.machine with branches := own } := by
        rw [entered_machine, Machine.within, ← opened]
      rw [around] at executed
      obtain ⟨later, tracked, rfl⟩ := Chunk.exists_within_of_execute entered executed
      rw [← tracked] at inside
      cases flow with
      | next => exact holdsOpen_of_locking segment ⟨later.branches, rfl, inside⟩
      | separator => exact holdsOpen_of_locking segment ⟨later.branches, rfl, inside⟩
      | endSegment =>
        -- Nothing is ahead at the end of the script.
        refine holdsOpen_of_locking segment ⟨later.branches, rfl, ?_⟩
        exact congrArg (fun chunks => (Script.depthAfter? chunks _).isSome) List.drop_length

/-- So does a step that fails. -/
theorem HoldsOpen.of_failed_step (holds : spend.HoldsOpen outer)
    (stepped : step verify spend = .error e failed) : failed.HoldsOpen outer := by
  obtain ⟨segment, own, opened, inside⟩ := holds
  obtain ⟨chunk, -, ⟨bound, -, rfl, -⟩ | ⟨machine, executed, rfl⟩⟩ := step_eq_error stepped
  · exact holdsOpen_of_locking segment ⟨own, by simpa using opened, inside⟩
  · refine holdsOpen_of_locking segment ⟨own, ?_, inside⟩
    rw [Chunk.branches_of_failed executed, entered_machine, opened]

theorem HoldsOpen.afterStep (holds : spend.HoldsOpen outer) :
    (spend.afterStep verify).HoldsOpen outer := by
  cases stepped : step verify spend with
  | ok _ next =>
    rw [afterStep_of_ok stepped]
    exact holds.of_step stepped
  | error e failed =>
    rw [afterStep_of_error stepped]
    exact holds.of_failed_step stepped

theorem HoldsOpen.iterate (holds : spend.HoldsOpen outer) (k : Nat) :
    ((Spend.afterStep verify)^[k] spend).HoldsOpen outer := by
  induction k generalizing spend with
  | zero => exact holds
  | succ k ih => exact ih holds.afterStep

/-- As long as inherited conditionals are held open, the spend is not valid. -/
theorem HoldsOpen.validate_ne_ok (holds : spend.HoldsOpen outer) (some : outer ≠ []) :
    validate verify spend ≠ .ok () final := by
  intro valid
  obtain ⟨-, ran, concluded⟩ := validate_eq_ok_iff.mp valid
  obtain ⟨k, reached⟩ := exists_iterate_of_runFor verify spend.remaining spend
  have taken : final = (Spend.afterStep verify)^[k] spend := by
    rw [← reached]
    exact (congrArg Outcome.spend (outcomeOf_of_ok ran)).symm
  have held : ((Spend.afterStep verify)^[k] spend).HoldsOpen outer := holds.iterate k
  obtain ⟨own, opened, -⟩ := held.inside
  rw [← taken, concluded.closed] at opened
  exact some (List.append_eq_nil_iff.mp opened.symm).2

theorem HoldsOpen.isFinal (holds : spend.HoldsOpen outer) (some : outer ≠ []) :
    IsFinal verify spend := by
  intro actions kept final
  obtain ⟨k, reached⟩ := exists_iterate_of_after verify spend kept
  rw [reached]
  exact (holds.iterate k).validate_ne_ok some

/-- If some conditional is open when the locking script is entered, and that script switches and
closes no conditional but its own, then the spend is not valid, and no further steps and validations
make it so. -/
theorem isFinal_of_openAtSwitch (enclosed : spend.locking.IsEnclosed)
    (reached : runFor verify count spend = .ok () switching) (switches : switching.IsSwitching)
    (opened : switching.machine.branches ≠ []) :
    (∃ e failed, validate verify spend = .error e failed) ∧ IsFinal verify switching := by
  obtain ⟨same, goesOn⟩ := run_of_runFor reached
  have sameLocking : switching.reset.locking = spend.reset.locking := by rw [same]
  have enclosedThere : switching.locking.IsEnclosed := by
    rwa [show switching.locking = spend.locking from sameLocking]
  have holds := HoldsOpen.of_isSwitching switches enclosedThere
  refine ⟨?_, holds.isFinal opened⟩
  cases validated : validate verify spend with
  | error e failed => exact ⟨e, failed, rfl⟩
  | ok _ final =>
    -- What is valid from the start on is valid from the switch on.
    obtain ⟨admitted, ran, concluded⟩ := validate_eq_ok_iff.mp validated
    have admittedThere : switching.admitsUnlocking = true := by
      rw [admitsUnlocking_congr same, admitted]
    exact absurd (validate_eq_ok_iff.mpr ⟨admittedThere, goesOn ▸ ran, concluded⟩)
      (holds.validate_ne_ok opened)

/-- A conditional opened by the unlocking script, on a branch that is not taken, around a locking
script with a conditional of its own and a chunk that would end the script. -/
def heldOpen : Spend :=
  { standard .bare [.ofOpcode 0x00, .ofOpcode 0x63]
      [.ofOpcode 0x51, .ofOpcode 0x63, .ofOpcode 0x67, .ofOpcode 0x6a, .ofOpcode 0x68] with
    policy := { requirePushOnlyUnlocking := false } }

/-- The locking script is skipped, and the conditional around it is open at the end. -/
theorem isFinal_heldOpen :
    heldOpen.locking.IsEnclosed ∧
      runFor Ecdsa.verify 2 heldOpen =
        .ok () { heldOpen with position := 2, machine := { branches := [false] }, steps := 2 } ∧
      (∃ e failed, validate Ecdsa.verify heldOpen = .error e failed) ∧
      IsFinal Ecdsa.verify
        { heldOpen with position := 2, machine := { branches := [false] }, steps := 2 } := by
  have enclosed : heldOpen.locking.IsEnclosed := Script.isEnclosed_iff.mpr (by decide)
  have reached : runFor Ecdsa.verify 2 heldOpen =
      .ok () { heldOpen with position := 2, machine := { branches := [false] }, steps := 2 } := rfl
  exact ⟨enclosed, reached, isFinal_of_openAtSwitch enclosed reached
    ⟨rfl, Nat.le_refl 2⟩ (List.cons_ne_nil _ _)⟩

end Spend

end ScriptSpend
