import ScriptSpend.Proofs.OpenConditionals
import ScriptSpend.Proofs.Pushing
import ScriptSpend.Proofs.SingleSteps
import ScriptSpend.Proofs.WireRoundTrip

/-!
# Unlocking scripts that only push

Where the policy asks for minimal pushes, a script that only pushes leaves one item a chunk and
nothing else, and the items tell the script: every chunk is the shortest push of its item. No third
party can therefore rewrite such an unlocking script, not even in the bytes that carry it, without
handing the locking script another stack. This holds whether or not the policy also demands that
unlocking scripts only push, as stepping does not ask for it.

## Main definitions

* `Spend.OnlyPushes`: what every step through such an unlocking script keeps
* `Spend.SteppedThrough`: stepping reached the end of an unlocking script
* `Spend.LeavesItems`: one item a chunk is left, and nothing else

## Main results

* `OnlyPushes.of_step`, `OnlyPushes.of_stepTimes`: every chunk has pushed its item
* `SteppedThrough.exists_items`: what the end of the unlocking script is reached with
* `unlocking_eq_of_stack_eq`: different unlocking scripts leave different stacks
-/

namespace ScriptSpend.Spend

variable {verify : Ecdsa.Verifier} {spend next reached otherReached : Spend} {policy : Policy}
  {unlocking other : Script} {wire otherWire : Bytes} {count : Nat}

section Invariant

/-- The unlocking script only pushes, and the chunks of it that were executed are the shortest
pushes of the items on the main stack. -/
structure OnlyPushes (spend : Spend) : Prop where
  minimal : spend.policy.requireMinimalPush = true
  wellFormed : spend.unlocking.WellFormed
  pushOnly : spend.unlocking.isPushOnly = true
  /-- Until the locking script is entered nothing else has happened. -/
  pushed : spend.segment = .unlocking → ∃ items : List Bytes,
    spend.unlocking.take spend.position = items.map .ofData ∧
      spend.machine = { stack := items.reverse }

theorem onlyPushes_fresh {context : InputContext} {locking : Script}
    (minimal : policy.requireMinimalPush = true) (wellFormed : unlocking.WellFormed)
    (pushOnly : unlocking.isPushOnly = true) :
    OnlyPushes (fresh context unlocking locking policy) where
  minimal := minimal
  wellFormed := wellFormed
  pushOnly := pushOnly
  pushed _ := ⟨[], rfl, rfl⟩

/-- A step that succeeds pushes the item of its chunk. -/
theorem OnlyPushes.of_step (pushes : spend.OnlyPushes)
    (stepped : step verify spend = .ok () next) : next.OnlyPushes := by
  have same := reset_of_step stepped
  have sameScript := unlocking_of_reset same
  refine
    { minimal := policy_of_reset same ▸ pushes.minimal
      wellFormed := sameScript ▸ pushes.wellFormed
      pushOnly := sameScript ▸ pushes.pushOnly
      pushed := fun segment => ?_ }
  have segmentThere := (segment_of_step stepped).symm.trans segment
  have here := entered_of_segment_entered segmentThere
  rw [here] at segmentThere
  obtain ⟨items, done, machine⟩ := pushes.pushed segmentThere
  rcases step_eq_ok stepped with ⟨-, rfl⟩ | ⟨chunk, flow, left, found, -, executed, rfl⟩
  · rw [here]
    exact ⟨items, done, machine⟩
  · rw [here] at found executed ⊢
    have listed : spend.unlocking[spend.position]? = some chunk := by
      rwa [chunk?, script, segmentThere] at found
    have member := List.mem_of_getElem? listed
    have straight := Script.isStraight_of_isPushOnly pushes.pushOnly chunk member
    have pushOnly : chunk.opcode.isPushOnly = true := List.all_eq_true.mp pushes.pushOnly _ member
    have executing : spend.machine.isExecuting = true := by
      rw [machine]
      rfl
    obtain rfl := Chunk.flow_of_execute straight executed
    obtain ⟨data, shortest, rfl⟩ := Chunk.exists_data_of_execute
      (pushes.wellFormed chunk member) pushOnly pushes.minimal executing executed
    refine ⟨items ++ [data], ?_, ?_⟩
    · -- One more chunk is done, and it is the shortest push of one more item.
      have longer : spend.unlocking.take (spend.position + 1) =
          spend.unlocking.take spend.position ++ [chunk] := by
        rw [List.take_add_one, listed, Option.toList_some]
      rw [List.map_append, ← done, List.map_singleton, ← shortest]
      exact longer
    · simp [advance, machine]

theorem OnlyPushes.of_stepTimes (pushes : spend.OnlyPushes)
    (stepped : stepTimes verify count spend = .ok () reached) : reached.OnlyPushes := by
  induction count generalizing spend with
  | zero =>
    cases stepped
    exact pushes
  | succ count ih =>
    obtain ⟨next, first, later⟩ := stepTimes_succ_eq_ok_iff.mp stepped
    exact ih (pushes.of_step first) later

end Invariant

section Uniqueness

/-- A script that was read from some bytes and only pushes has been stepped through to its end, as
the unlocking script of some spend under the policy. -/
structure SteppedThrough (verify : Ecdsa.Verifier) (policy : Policy) (wire : Bytes)
    (unlocking : Script) (reached : Spend) : Prop where
  read : Script.ofWire wire = .ok unlocking
  pushOnly : unlocking.isPushOnly = true
  stepped : ∃ context locking count,
    stepTimes verify count (fresh context unlocking locking policy) = .ok () reached
  ended : reached.IsSwitching

/-- At the end of the unlocking script its items are on the main stack, and nothing else is left of
it. -/
theorem SteppedThrough.exists_items (minimal : policy.requireMinimalPush = true)
    (through : SteppedThrough verify policy wire unlocking reached) :
    ∃ items : List Bytes, unlocking = items.map .ofData ∧
      reached.machine = { stack := items.reverse } := by
  obtain ⟨context, locking, count, stepped⟩ := through.stepped
  have started := @onlyPushes_fresh policy unlocking context locking minimal
    (Script.wellFormed_of_ofWire through.read) through.pushOnly
  have same : reached.unlocking = unlocking := by
    rw [stepTimes_eq_runFor] at stepped
    exact unlocking_of_reset (reset_of_runFor stepped)
  obtain ⟨items, done, machine⟩ := (started.of_stepTimes stepped).pushed through.ended.1
  rw [List.take_of_length_le through.ended.2, same] at done
  exact ⟨items, done, machine⟩

/-- What the end of an unlocking script that only pushes is reached with: one item a chunk on the
main stack, and nothing on the alternative stack and among the open conditionals. -/
structure LeavesItems (unlocking : Script) (machine : Machine) : Prop where
  height : machine.stack.length = unlocking.length
  alt : machine.alt = []
  branches : machine.branches = []

theorem SteppedThrough.leavesItems (minimal : policy.requireMinimalPush = true)
    (through : SteppedThrough verify policy wire unlocking reached) :
    LeavesItems unlocking reached.machine := by
  obtain ⟨items, rfl, machine⟩ := through.exists_items minimal
  rw [machine]
  exact ⟨by simp, rfl, rfl⟩

/-- Under a policy that asks for minimal pushes, two unlocking scripts that only push and leave the
same main stack at their ends are the same, to the byte. -/
theorem unlocking_eq_of_stack_eq (minimal : policy.requireMinimalPush = true)
    (first : SteppedThrough verify policy wire unlocking reached)
    (second : SteppedThrough verify policy otherWire other otherReached) :
    (LeavesItems unlocking reached.machine ∧ LeavesItems other otherReached.machine) ∧
      (reached.machine.stack = otherReached.machine.stack →
        unlocking = other ∧ unlocking.toWire = other.toWire ∧ wire = otherWire) := by
  refine ⟨⟨first.leavesItems minimal, second.leavesItems minimal⟩, fun sameStack => ?_⟩
  obtain ⟨items, shape, machine⟩ := first.exists_items minimal
  obtain ⟨otherItems, otherShape, otherMachine⟩ := second.exists_items minimal
  rw [machine, otherMachine] at sameStack
  obtain rfl : items = otherItems := List.reverse_injective sameStack
  obtain rfl : unlocking = other := shape.trans otherShape.symm
  have written := (Script.ofWire_eq_ok_iff.mp first.read).2
  exact ⟨rfl, rfl, written.symm.trans (Script.ofWire_eq_ok_iff.mp second.read).2⟩

/-- A script read from bytes in front of one locking script, and the shortest pushes of the items
that it leaves in front of another. -/
theorem unlocking_eq_of_two_pushes :
    let unlocking : Script := [.ofOpcode 0x51, ⟨0x02, some [0xab, 0xcd]⟩]
    let wire : Bytes := [0x51, 0x02, 0xab, 0xcd]
    let other : Script := [.ofData [1], .ofData [0xab, 0xcd]]
    let atEnd (script locking : Script) : Spend :=
      { fresh .bare script locking {} with
        position := 2, machine := { stack := [[0xab, 0xcd], [1]] }, steps := 2 }
    ({} : Policy).requireMinimalPush = true ∧
      SteppedThrough Ecdsa.verify {} wire unlocking (atEnd unlocking []) ∧
      SteppedThrough Ecdsa.verify {} other.toWire other (atEnd other [.ofOpcode 0x75]) ∧
      unlocking = other ∧ unlocking.toWire = other.toWire ∧ wire = other.toWire := by
  intro unlocking wire other atEnd
  have wellFormed : unlocking.WellFormed :=
    Script.wellFormed_cons (Chunk.wellFormed_ofOpcode rfl)
      (Script.wellFormed_cons (Chunk.wellFormed_of_length_eq rfl rfl) nofun)
  have wellFormedToo : other.WellFormed :=
    Script.wellFormed_cons (Chunk.wellFormed_ofData (by decide))
      (Script.wellFormed_cons (Chunk.wellFormed_ofData (by decide)) nofun)
  have first : SteppedThrough Ecdsa.verify {} wire unlocking (atEnd unlocking []) :=
    { read := Script.ofWire_eq_ok_iff.mpr ⟨wellFormed, rfl⟩
      pushOnly := rfl
      stepped := ⟨.bare, [], 2, rfl⟩
      ended := ⟨rfl, Nat.le_refl 2⟩ }
  have second : SteppedThrough Ecdsa.verify {} other.toWire other (atEnd other [.ofOpcode 0x75]) :=
    { read := Script.ofWire_eq_ok_iff.mpr ⟨wellFormedToo, rfl⟩
      pushOnly := rfl
      stepped := ⟨.bare, [.ofOpcode 0x75], 2, rfl⟩
      ended := ⟨rfl, Nat.le_refl 2⟩ }
  exact ⟨rfl, first, second, (unlocking_eq_of_stack_eq rfl first second).2 rfl⟩

end Uniqueness

end ScriptSpend.Spend
