import ScriptSpend.Proofs.ComposedScripts
import ScriptSpend.Proofs.Subscript

/-!
# Deleting chunks

Chunks are deleted by their bytes: those go whose bytes are all the bytes of a pattern. Since bytes
write at most one script, a pattern with the bytes of a chunk is that chunk alone. So deletion
compares chunks, and no payload or border between chunks is ever mistaken for a pattern.

## Main definitions

* `Script.IsRead`: a script that was read, from bytes or from text

## Main results

* `Script.toWire_eq_iff_eq_singleton`: the bytes of a chunk are those of no other script
* `Script.findAndDelete_eq_filter`: deletion removes the chunks that the pattern consists of
* `Script.findAndDelete_exact`: what is deleted, and that the order of several deletions makes no
  difference to what signatures cover
-/

namespace ScriptSpend.Script

variable {script pattern : Script} {chunk : Chunk}

/-- A script that was read, from bytes or from text. -/
def IsRead (script : Script) : Prop :=
  (∃ bytes, ofWire bytes = .ok script) ∨ ∃ text, ofAssembly text = .ok script

theorem isRead_iff_wellFormed : script.IsRead ↔ script.WellFormed := by
  rw [IsRead, exists_ofWire_iff, exists_ofAssembly_iff, or_self]

theorem WellFormed.drop (wellFormed : script.WellFormed) (count : Nat) :
    WellFormed (script.drop count) :=
  fun chunk listed => wellFormed chunk (List.mem_of_mem_drop listed)

/-- The bytes of a chunk are those of a script if and only if the script is that chunk alone. -/
theorem toWire_eq_iff_eq_singleton (wellFormed : pattern.WellFormed)
    (chunkWellFormed : chunk.WellFormed) :
    chunk.toWire = pattern.toWire ↔ pattern = [chunk] := by
  have alone : WellFormed [chunk] :=
    wellFormed_cons chunkWellFormed fun _ listed => absurd listed List.not_mem_nil
  have written : toWire [chunk] = chunk.toWire := by simp [toWire]
  rw [← written, write_eq_iff (ofWire_toWire alone) (ofWire_toWire wellFormed), eq_comm]

/-- Deletion removes the chunks that are the pattern. -/
theorem findAndDelete_eq_filter (wellFormed : script.WellFormed)
    (patternWellFormed : pattern.WellFormed) :
    script.findAndDelete pattern = script.filter fun chunk => pattern ≠ [chunk] := by
  refine List.filter_congr fun chunk listed => ?_
  rw [Bool.eq_iff_iff, bne_iff_ne, decide_eq_true_iff, ne_eq,
    toWire_eq_iff_eq_singleton patternWellFormed (wellFormed chunk listed)]

/-- What is deleted twice is deleted. -/
theorem findAndDelete_findAndDelete (script pattern : Script) :
    (script.findAndDelete pattern).findAndDelete pattern = script.findAndDelete pattern := by
  simp [findAndDelete, List.filter_filter]

/-- Two deletions can be made in either order. -/
theorem findAndDelete_comm (script pattern other : Script) :
    (script.findAndDelete pattern).findAndDelete other =
      (script.findAndDelete other).findAndDelete pattern := by
  simp only [findAndDelete, List.filter_filter]
  exact List.filter_congr fun chunk _ => Bool.and_comm _ _

/-- The order in which signatures are removed makes no difference, also to whether they can be. -/
theorem stripSignatures_perm {signatures order : List Bytes} (same : order.Perm signatures)
    (stripped : Script) :
    stripSignatures script order = .ok stripped ↔
      stripSignatures script signatures = .ok stripped := by
  rw [stripSignatures_eq_ok_iff, stripSignatures_eq_ok_iff, withoutPushes_perm same]
  exact and_congr_left' (forall_congr' fun item => by rw [same.mem_iff])

/-- Deleting a chunk removes the chunks that are equal to it from a script, and no others. A pattern
that is not a single chunk removes none. Deletions can be repeated and exchanged without a
difference, and leave a script that could have been read. Hence what several signatures cover is the
script text without the chunks equal to one of their pushes, in whatever order these are deleted. -/
theorem findAndDelete_exact (read : script.IsRead) (patternRead : pattern.IsRead) :
    (∀ chunk, pattern = [chunk] →
      script.findAndDelete pattern = script.filter fun other => other ≠ chunk) ∧
    (pattern.length ≠ 1 → script.findAndDelete pattern = script) ∧
    (script.findAndDelete pattern).findAndDelete pattern = script.findAndDelete pattern ∧
    (∀ other, (script.findAndDelete pattern).findAndDelete other =
      (script.findAndDelete other).findAndDelete pattern) ∧
    (script.findAndDelete pattern).IsRead ∧
    ∀ (env : Environment) (signatures order : List Bytes) (stripped : Script),
      env.script = script → order.Perm signatures →
      (stripSignatures env.subscript order = .ok stripped ↔
        stripSignatures env.subscript signatures = .ok stripped) ∧
      (stripSignatures env.subscript order = .ok stripped →
        (stripped = env.subscript.filter fun chunk =>
          ∀ signature ∈ signatures, chunk ≠ .ofData signature) ∧
        ∀ keys, env.matchOperands ⟨signatures, keys⟩ =
          matchSignatures (tryKey env.policy env.checker stripped) signatures keys) := by
  have wellFormed := isRead_iff_wellFormed.mp read
  have filtered := findAndDelete_eq_filter wellFormed (isRead_iff_wellFormed.mp patternRead)
  refine ⟨?_, ?_, findAndDelete_findAndDelete _ _, findAndDelete_comm _ _, ?_, ?_⟩
  · rintro chunk rfl
    rw [filtered]
    exact List.filter_congr fun other _ => by simp [eq_comm]
  · intro several
    rw [filtered, List.filter_eq_self]
    intro chunk _
    have different : pattern ≠ [chunk] := fun single => several (by rw [single]; rfl)
    exact decide_eq_true different
  · exact isRead_iff_wellFormed.mpr (wellFormed.filter _)
  · rintro env signatures order stripped rfl same
    have anyOrder := @stripSignatures_perm env.subscript _ _ same stripped
    refine ⟨anyOrder, fun removed => ?_⟩
    obtain ⟨short, rfl⟩ := stripSignatures_eq_ok_iff.mp (anyOrder.mp removed)
    refine ⟨withoutPushes_eq_filter (wellFormed.drop _) short, fun keys => ?_⟩
    rw [Environment.matchOperands, stripSignatures_eq_ok short]

/-- The bytes `51 52` stand in a payload and across two chunks, and are found in neither place. Two
signatures are deleted in the order in which they do not stand. -/
theorem findAndDelete_exact_hidden :
    let script : Script :=
      [⟨0x02, some [0x51, 0x52]⟩, .ofOpcode 0x51, .ofOpcode 0x52, ⟨0x01, some [0x51]⟩]
    script.toWire = [0x02, 0x51, 0x52, 0x51, 0x52, 0x01, 0x51] ∧
      script.findAndDelete [.ofOpcode 0x51, .ofOpcode 0x52] = script ∧
      script.findAndDelete [.ofOpcode 0x51] =
        [⟨0x02, some [0x51, 0x52]⟩, .ofOpcode 0x52, ⟨0x01, some [0x51]⟩] ∧
      stripSignatures script [[0x51], [0x51, 0x52]] = .ok [.ofOpcode 0x51, .ofOpcode 0x52] ∧
      stripSignatures script [[0x51, 0x52], [0x51]] = .ok [.ofOpcode 0x51, .ofOpcode 0x52] := by
  intro script
  have empty : WellFormed [] := fun _ listed => absurd listed List.not_mem_nil
  have one : (Chunk.ofOpcode 0x51).WellFormed := Chunk.wellFormed_ofOpcode (by decide)
  have two : (Chunk.ofOpcode 0x52).WellFormed := Chunk.wellFormed_ofOpcode (by decide)
  have read : script.IsRead := isRead_iff_wellFormed.mpr <|
    wellFormed_cons (Chunk.wellFormed_of_length_eq (by decide) rfl) <|
    wellFormed_cons one <| wellFormed_cons two <|
    wellFormed_cons (Chunk.wellFormed_of_length_eq (by decide) rfl) empty
  have oneRead : IsRead [.ofOpcode 0x51] := isRead_iff_wellFormed.mpr (wellFormed_cons one empty)
  have bothRead : IsRead [.ofOpcode 0x51, .ofOpcode 0x52] :=
    isRead_iff_wellFormed.mpr (wellFormed_cons one (wellFormed_cons two empty))
  obtain ⟨-, several, -⟩ := findAndDelete_exact read bothRead
  obtain ⟨single, -, -, -, -, signatures⟩ := findAndDelete_exact read oneRead
  have removed : stripSignatures script [[0x51], [0x51, 0x52]] =
      .ok [.ofOpcode 0x51, .ofOpcode 0x52] := by rfl
  obtain ⟨anyOrder, -⟩ := signatures ⟨{}, fun _ _ _ => false, script, none⟩
    [[0x51, 0x52], [0x51]] [[0x51], [0x51, 0x52]] [.ofOpcode 0x51, .ofOpcode 0x52] rfl
    (List.Perm.swap _ _ _)
  exact ⟨by decide, several (by decide), single _ rfl, removed, anyOrder.mp removed⟩

end ScriptSpend.Script
