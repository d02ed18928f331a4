import ScriptSpend.Chunk

/-!
# Scripts

A script is a list of chunks. Editing appends chunks or removes whole chunks, so bytes are never
matched inside a payload or across the border of two chunks.
-/

namespace ScriptSpend

/-- A script: its chunks in order. -/
abbrev Script := List Chunk

namespace Script

/-- Every chunk is well formed. -/
def WellFormed (script : Script) : Prop := ∀ chunk ∈ script, chunk.WellFormed

/-- The bytes of a script, chunk by chunk. -/
def toWire (script : Script) : Bytes := script.flatMap Chunk.toWire

/-- Whether every chunk only pushes. -/
def isPushOnly (script : Script) : Bool := script.all fun chunk => chunk.opcode.isPushOnly

/-- Appends an opcode without payload. -/
def appendOpcode (script : Script) (op : Opcode) : Script := script ++ [.ofOpcode op]

/-- Appends the shortest push of some bytes. -/
def appendData (script : Script) (data : Bytes) : Except PushError Script :=
  match Chunk.push data with
  | .error e => .error e
  | .ok chunk => .ok (script ++ [chunk])

/-- Appends the push of a script number. -/
def appendNumber (script : Script) (n : Int) : Script := script ++ [.ofNumber n]

/-- Removes every code separator. -/
def removeCodeSeparators (script : Script) : Script :=
  script.filter fun chunk => chunk.opcode != .codeSeparator

/-- Removes every chunk whose bytes are all the bytes of a pattern. -/
def findAndDelete (script pattern : Script) : Script :=
  script.filter fun chunk => chunk.toWire != pattern.toWire

end Script

end ScriptSpend
