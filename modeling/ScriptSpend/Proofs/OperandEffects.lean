import ScriptSpend.Opcode.Mnemonic
import ScriptSpend.Proofs.Pushing

/-!
# What stands in the place of operands

An operation takes its operands off the main stack and leaves what it makes of them. It is known
from the outside when it is known under which condition it succeeds, and what then stands above the
items that it does not look at.

## Main definitions

* `Opcode.nameRuns`: the instruction that an opcode runs, by its name
* `Chunk.Replaces`: a condition for success, and what success puts in the place of the operands

## Main results

* `Chunk.Replaces.of_action`: an action that succeeds under the condition and fails otherwise
-/

namespace ScriptSpend

/-- Whether a name is that of an opcode that carries no payload, is not disabled and runs an
instruction. -/
def Opcode.nameRuns (name : String) (instruction : Instruction) : Bool :=
  (ofMnemonic? name).any fun op =>
    Instruction.ofOpcode op = instruction && !op.isDisabled && !op.isPush

/-- A chunk succeeds on a machine if and only if the condition holds. Then good items stand on top
of `rest`, the other stacks are as they were, and the script goes on at the next chunk. -/
structure Chunk.Replaces (env : Environment) (chunk : Chunk) (machine : Machine) (rest : Stack)
    (condition : Prop) (good : List Bytes → Prop) : Prop where
  succeeds_iff : (∃ flow left, chunk.execute env machine = .ok flow left) ↔ condition
  outcome : ∀ flow left, chunk.execute env machine = .ok flow left →
    flow = .next ∧ ∃ items, good items ∧ left = { machine with stack := items ++ rest }

namespace Chunk

variable {env : Environment} {machine : Machine} {chunk : Chunk} {rest : Stack} {name : String}
  {op : Opcode} {instruction : Instruction} {condition : Prop} {good : List Bytes → Prop}

/-- On a branch that is taken, an opcode runs the instruction that its name stands for. -/
theorem execute_of_nameRuns (runs : Opcode.nameRuns name instruction = true)
    (named : Opcode.ofMnemonic? name = some op) (executing : machine.isExecuting = true) :
    (ofOpcode op).execute env machine = instruction.run env op true machine := by
  rw [Opcode.nameRuns, named, Option.any_some] at runs
  simp only [Bool.and_eq_true, decide_eq_true_eq, Bool.not_eq_true'] at runs
  obtain ⟨⟨rfl, enabled⟩, bare⟩ := runs
  exact execute_ofOpcode executing enabled bare

theorem Replaces.congr {other : Prop} (replaces : chunk.Replaces env machine rest condition good)
    (same : condition ↔ other) : chunk.Replaces env machine rest other good :=
  ⟨replaces.succeeds_iff.trans same, replaces.outcome⟩

/-- What succeeds on the main stack under the condition, and fails there without it, replaces its
operands. -/
theorem Replaces.of_action {action : StackAction Unit}
    (runs : chunk.execute env machine = onMainThenNext action machine)
    (succeeds : condition →
      ∃ items, good items ∧ action machine.stack = .ok () (items ++ rest))
    (fails : ¬ condition → ∃ cause left, action machine.stack = .error cause left) :
    chunk.Replaces env machine rest condition good := by
  -- Either way it is known what executing the chunk comes to, and all else follows from that.
  by_cases holds : condition
  · obtain ⟨items, made, ran⟩ := succeeds holds
    have executed : chunk.execute env machine =
        .ok .next { machine with stack := items ++ rest } := by
      rw [runs, onMainThenNext_apply, ran]
    refine ⟨iff_of_true ⟨_, _, executed⟩ holds, fun flow left reached => ?_⟩
    rw [executed] at reached
    cases reached
    exact ⟨rfl, items, made, rfl⟩
  · obtain ⟨cause, left, ran⟩ := fails holds
    have failed : chunk.execute env machine = .error cause { machine with stack := left } := by
      rw [runs, onMainThenNext_apply, ran]
    refine ⟨iff_of_false (fun ⟨_, _, reached⟩ => ?_) holds, fun flow left reached => ?_⟩
    · cases failed.symm.trans reached
    · cases failed.symm.trans reached

end Chunk

end ScriptSpend
