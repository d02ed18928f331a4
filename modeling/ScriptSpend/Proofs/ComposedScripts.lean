import ScriptSpend.Proofs.AssemblyRoundTrip
import ScriptSpend.Proofs.ConfinedActions

/-!
# Composed scripts

A script is read from bytes or from text, or starts out empty, and is then edited. Nothing checks on
the way that a chunk carries what its opcode takes. It is so nevertheless: each editor chooses the
opcode of what it appends by the length of the payload, and what removes chunks removes whole ones.
Hence no edits, in whatever order, lead to a script that its bytes or its text would not give back.

## Main definitions

* `Script.Composed`: a script that reading and editing lead to

## Main results

* `Script.composed_iff_wellFormed`: the composed scripts are the well-formed ones
* `Script.Composed.read_back`: a composed script is what its bytes, their digits and its text are
  read as
-/

namespace ScriptSpend

namespace Chunk

/-- An opcode that takes no payload is well formed without one. -/
theorem wellFormed_ofOpcode_of_bare {op : Opcode} (bare : op = .zero ∨ .pushData4 < op) :
    (ofOpcode op).WellFormed := by
  rcases bare with rfl | above
  · exact wellFormed_ofOpcode rfl
  · have noPush : op.isPush = false := decide_eq_false (UInt8.not_le.mpr above)
    exact wellFormed_ofOpcode (lengthWidth?_of_not_isPush op noPush)

/-- A number of 64 bits takes nine bytes at most, as the magnitude of the lowest one fills eight. -/
theorem wellFormed_ofNumber (n : Int64) : (ofNumber n.toInt).WellFormed := by
  have low := n.le_toInt
  have high := n.toInt_lt
  unfold ofNumber
  split
  · exact wellFormed_ofOpcode rfl
  · rename_i nonzero
    split
    · exact wellFormed_ofOpcode rfl
    · split
      · rename_i small
        -- The small numbers have opcodes of their own, above those that take a payload.
        have byte : ∀ k < 17, 1 ≤ k → Opcode.lengthWidth? (.ofSmall (UInt8.ofNat k)) = none := by
          decide
        exact wellFormed_ofOpcode (byte n.toInt.toNat (by omega) (by omega))
      · have short : (ScriptNumber.encode n.toInt).length ≤ 9 :=
          ScriptNumber.length_encode_le (show n.toInt.natAbs < 256 ^ 8 by omega)
        exact wellFormed_direct (mt ScriptNumber.encode_eq_nil_iff.mp nonzero) (by omega)

end Chunk

namespace Script

variable {script other longer : Script} {data : Bytes}

/-- A script that reading and editing lead to. An opcode that takes a payload is not appended
without one. -/
inductive Composed : Script → Prop
  | empty : Composed []
  | ofBytes {bytes : Bytes} {script : Script} (read : ofWire bytes = .ok script) : Composed script
  | ofText {text : String} {script : Script} (read : ofAssembly text = .ok script) :
      Composed script
  | withData {script longer : Script} {data : Bytes} (composed : Composed script)
      (appended : script.appendData data = .ok longer) : Composed longer
  | withNumber {script : Script} (composed : Composed script) (n : Int64) :
      Composed (script.appendNumber n.toInt)
  | withScript {script other : Script} (composed : Composed script) (next : Composed other) :
      Composed (script ++ other)
  | withOpcode {script : Script} {op : Opcode} (composed : Composed script)
      (bare : op = .zero ∨ .pushData4 < op) : Composed (script.appendOpcode op)
  | withoutSeparators {script : Script} (composed : Composed script) :
      Composed script.removeCodeSeparators
  | withoutPattern {script : Script} (composed : Composed script) (pattern : Script) :
      Composed (script.findAndDelete pattern)

section Editing

theorem WellFormed.append (first : script.WellFormed) (second : other.WellFormed) :
    WellFormed (script ++ other) := by
  intro chunk listed
  rcases List.mem_append.mp listed with listed | listed
  · exact first chunk listed
  · exact second chunk listed

theorem WellFormed.concat {chunk : Chunk} (wellFormed : script.WellFormed)
    (last : chunk.WellFormed) : WellFormed (script ++ [chunk]) :=
  wellFormed.append (wellFormed_cons last fun _ listed => absurd listed List.not_mem_nil)

/-- What removes chunks does not change those that stay. -/
theorem WellFormed.filter (wellFormed : script.WellFormed) (keep : Chunk → Bool) :
    WellFormed (script.filter keep) :=
  fun chunk listed => wellFormed chunk (List.mem_filter.mp listed).1

/-- Data can be appended if and only if there is not too much of it, and is then its shortest push.
-/
theorem appendData_eq_ok_iff :
    script.appendData data = .ok longer ↔
      data.length ≤ Chunk.maxPush ∧ script ++ [Chunk.ofData data] = longer := by
  unfold appendData Chunk.push
  by_cases oversized : Chunk.maxPush < data.length
  · simp [oversized]
  · simp [oversized, Nat.le_of_not_lt oversized]

end Editing

/-- However a script is put together, all of its chunks are well formed. -/
theorem Composed.wellFormed (composed : script.Composed) : script.WellFormed := by
  -- Reading yields well-formed chunks; editing adds such chunks or drops some of those there.
  induction composed with
  | empty => exact fun _ listed => absurd listed List.not_mem_nil
  | ofBytes read => exact wellFormed_of_ofWire read
  | ofText read => exact wellFormed_of_ofAssembly read
  | withData _ appended wellFormed =>
    obtain ⟨short, rfl⟩ := appendData_eq_ok_iff.mp appended
    exact wellFormed.concat (Chunk.wellFormed_ofData short)
  | withNumber _ n wellFormed => exact wellFormed.concat (Chunk.wellFormed_ofNumber n)
  | withScript _ _ first second => exact first.append second
  | withOpcode _ bare wellFormed => exact wellFormed.concat (Chunk.wellFormed_ofOpcode_of_bare bare)
  | withoutSeparators _ wellFormed => exact wellFormed.filter _
  | withoutPattern _ pattern wellFormed => exact wellFormed.filter _

/-- Reading alone leads to every well-formed script, and editing to no other. -/
theorem composed_iff_wellFormed : script.Composed ↔ script.WellFormed :=
  ⟨Composed.wellFormed, fun wellFormed => .ofBytes (ofWire_eq_ok_iff.mpr ⟨wellFormed, rfl⟩)⟩

section ReadingBack

/-- What is written alike and read back is the same. -/
theorem write_eq_iff {α : Type} {write : Script → α} {read : α → Except ParseError Script}
    (readScript : read (write script) = .ok script) (readOther : read (write other) = .ok other) :
    write script = write other ↔ script = other := by
  refine ⟨fun same => ?_, congrArg write⟩
  rw [same, readOther, Except.ok.injEq] at readScript
  exact readScript.symm

theorem ofWire_toWire (wellFormed : script.WellFormed) : ofWire script.toWire = .ok script :=
  ofWire_eq_ok_iff.mpr ⟨wellFormed, rfl⟩

theorem ofHex_toHex (wellFormed : script.WellFormed) : ofHex script.toHex = .ok script := by
  rw [ofHex, toHex, Hex.encode, String.toList_ofList, Hex.decode_encode]
  exact ofWire_toWire wellFormed

/-- A script that reading and editing lead to is well formed. It is what its bytes are read as, and
their digits, and its text, and no other such script shares any of these with it. Data of up to the
largest length can be appended to it, and only such. -/
theorem Composed.read_back (composed : script.Composed) :
    script.WellFormed ∧
      ofWire script.toWire = .ok script ∧
      ofHex script.toHex = .ok script ∧
      ofAssembly script.toAssembly = .ok script ∧
      (∀ other : Script, other.Composed →
        (script.toWire = other.toWire ↔ script = other) ∧
          (script.toHex = other.toHex ↔ script = other) ∧
          (script.toAssembly = other.toAssembly ↔ script = other)) ∧
      ∀ data, (∃ longer, script.appendData data = .ok longer ∧ longer.Composed) ↔
        data.length ≤ Chunk.maxPush := by
  have wellFormed := composed.wellFormed
  have text {script : Script} (wellFormed : script.WellFormed) :
      ofAssembly script.toAssembly = .ok script := ofAssembly_toAssembly_iff.mpr wellFormed
  refine ⟨wellFormed, ofWire_toWire wellFormed, ofHex_toHex wellFormed, text wellFormed, ?_, ?_⟩
  · intro other otherComposed
    have otherWellFormed := otherComposed.wellFormed
    exact ⟨write_eq_iff (ofWire_toWire wellFormed) (ofWire_toWire otherWellFormed),
      write_eq_iff (ofHex_toHex wellFormed) (ofHex_toHex otherWellFormed),
      write_eq_iff (text wellFormed) (text otherWellFormed)⟩
  · intro data
    constructor
    · rintro ⟨longer, appended, -⟩
      exact (appendData_eq_ok_iff.mp appended).1
    · intro short
      have appended : script.appendData data = .ok (script ++ [Chunk.ofData data]) :=
        appendData_eq_ok_iff.mpr ⟨short, rfl⟩
      exact ⟨_, appended, composed.withData appended⟩

/-- A number and a separator, put down twice and then rid of the separators. -/
theorem Composed.read_back_twice :
    let once := (appendNumber [] 300).appendOpcode .codeSeparator
    let script := removeCodeSeparators (once ++ once)
    script.Composed ∧ script.toWire = [2, 0x2c, 1, 2, 0x2c, 1] ∧
      ofWire [2, 0x2c, 1, 2, 0x2c, 1] = .ok script ∧
      ofAssembly script.toAssembly = .ok script := by
  intro once script
  have onceComposed : once.Composed := (Composed.empty.withNumber 300).withOpcode (by decide)
  have composed : script.Composed := (onceComposed.withScript onceComposed).withoutSeparators
  have written : script.toWire = [2, 0x2c, 1, 2, 0x2c, 1] := by decide +kernel
  obtain ⟨-, fromBytes, -, fromText, -, -⟩ := composed.read_back
  exact ⟨composed, written, written ▸ fromBytes, fromText⟩

end ReadingBack

end Script

end ScriptSpend
