import ScriptSpend.Script
import ScriptSpend.Script.ParseError

/-!
# Reading a script from its bytes

Chunks are read one after another. The only way to fail is a push whose length field or payload runs
past the end of the bytes; the failure names where the push starts.

## Main definitions

* `Script.ofWire`: the script that a byte string writes
* `Script.ofHex`, `Script.toHex`: the same as hexadecimal text
-/

namespace ScriptSpend

namespace Chunk

/-- The length of the payload after an opcode with a given length field. -/
def payloadLength (op : Opcode) (field : Bytes) : Nat :=
  if field.isEmpty then op.toNat else Bytes.toNatLE field

/-- What follows an opcode: its payload, if it takes one, and the bytes after the chunk. Nothing if
the bytes end inside the length field or the payload. -/
def readPayload? (op : Opcode) (bytes : Bytes) : Option (Option Bytes × Bytes) :=
  match Opcode.lengthWidth? op with
  | none => some (none, bytes)
  | some width =>
    let field := bytes.take width
    let body := bytes.drop width
    let data := body.take (payloadLength op field)
    if field.length < width ∨ data.length < payloadLength op field then none
    else some (some data, body.drop (payloadLength op field))

/-- Reading a payload leaves no more than was there. -/
theorem length_of_readPayload? {op : Opcode} {bytes rest : Bytes} {payload : Option Bytes}
    (read : readPayload? op bytes = some (payload, rest)) : rest.length ≤ bytes.length := by
  unfold readPayload? at read
  split at read
  · simp_all
  · dsimp only at read
    split at read
    · simp at read
    · simp only [Option.some.injEq, Prod.mk.injEq] at read
      rw [← read.2, List.length_drop, List.length_drop]
      omega

end Chunk

namespace Script

/-- Reads the chunks of `bytes`, which are the end of a script of `total` bytes. -/
def ofWireEnd (total : Nat) (bytes : Bytes) : Except ParseError Script :=
  match bytes with
  | [] => .ok []
  | op :: rest =>
    match read : Chunk.readPayload? op rest with
    -- What is left, the opcode included, tells where the push starts.
    | none => .error (.truncatedPush (total - (rest.length + 1)))
    | some (payload, remaining) =>
      have := Chunk.length_of_readPayload? read
      match ofWireEnd total remaining with
      | .error e => .error e
      | .ok chunks => .ok (⟨op, payload⟩ :: chunks)
  termination_by bytes.length
  decreasing_by simp; omega

/-- The script that a byte string writes. -/
def ofWire (bytes : Bytes) : Except ParseError Script := ofWireEnd bytes.length bytes

/-- The script that hexadecimal text writes. -/
def ofHex (text : String) : Except ParseError Script :=
  match Hex.decode text.toList with
  | none => .error (.invalidHex text)
  | some bytes => ofWire bytes

/-- The bytes of a script as hexadecimal text. -/
def toHex (script : Script) : String := Hex.encode script.toWire

end Script

end ScriptSpend
