import ScriptSpend.Bytes
import ScriptSpend.Opcode
import ScriptSpend.ScriptNumber

/-!
# Chunks

A chunk is one instruction of a script: an opcode and, for a push, the payload that follows it. On
the wire the payload comes after its length, which is written in as many bytes as the opcode says. A
chunk that agrees with its opcode in this way is well formed; nothing forces a chunk built by hand
to be so.

## Main definitions

* `Chunk`: an opcode with an optional payload
* `Chunk.WellFormed`: the payload is one that the opcode can carry
* `Chunk.toWire`: the bytes of a chunk
* `Chunk.ofData`: the shortest chunk that pushes given bytes
* `Chunk.isMinimalPush`: whether a push is that shortest one
-/

namespace ScriptSpend

/-- An instruction: an opcode and the payload of a push. -/
structure Chunk where
  opcode : Opcode
  payload : Option Bytes
  deriving DecidableEq

/-- Why data cannot be pushed. -/
inductive PushError where
  | oversized (length limit : Nat)
  deriving DecidableEq

/-- The text of a refusal to push. -/
def PushError.message : PushError → String
  | .oversized length limit => s!"push of {length} bytes exceeds the {limit}-byte limit"

namespace Chunk

/-- The largest payload that may be pushed, one gibibyte. -/
def maxPush : Nat := 1024 * 1024 * 1024

/-- A chunk without payload. -/
def ofOpcode (op : Opcode) : Chunk := ⟨op, none⟩

/-- The payload, empty where there is none. -/
def data (chunk : Chunk) : Bytes := chunk.payload.getD []

/-- The payload of each chunk is one that its opcode can carry: as long as a direct push says, no
longer than the length field of the other pushes can count, and absent elsewhere. -/
def WellFormed (chunk : Chunk) : Prop :=
  match Opcode.lengthWidth? chunk.opcode, chunk.payload with
  | none, none => True
  | some 0, some data => data.length = chunk.opcode.toNat
  | some width, some data => data.length < 256 ^ width
  | _, _ => False

/-- A push by length alone, without the one-byte constants. -/
def direct (data : Bytes) : Chunk := ⟨Opcode.pushing data.length, some data⟩

/-- The shortest chunk that pushes the given bytes. -/
def ofData (data : Bytes) : Chunk :=
  match data with
  | [] => ofOpcode .zero
  | [byte] =>
    if 1 ≤ byte ∧ byte ≤ 16 then ofOpcode (.ofSmall byte)
    else if byte = 0x81 then ofOpcode .minusOne
    else direct data
  | _ => direct data

/-- The shortest chunk that pushes the given bytes, if they are not too many. -/
def push (data : Bytes) : Except PushError Chunk :=
  if maxPush < data.length then .error (.oversized data.length maxPush) else .ok (ofData data)

/-- The chunk that pushes a script number. -/
def ofNumber (n : Int) : Chunk :=
  -- Zero would encode as the empty string, which has an opcode of its own.
  if n = 0 then ofOpcode .zero
  else if n = -1 then ofOpcode .minusOne
  else if 1 ≤ n ∧ n ≤ 16 then ofOpcode (.ofSmall (UInt8.ofNat n.toNat))
  else direct (ScriptNumber.encode n)

/-- Whether a push is the shortest one for its payload. Chunks that push no payload of their own
pass. -/
def isMinimalPush (chunk : Chunk) : Bool :=
  if .pushData4 < chunk.opcode then true
  else
    match chunk.data with
    | [] => chunk.opcode == .zero
    | [byte] =>
      if byte = 0x81 then chunk.opcode == .minusOne
      else if 1 ≤ byte ∧ byte ≤ 16 then chunk.opcode == .one + byte - 1
      else chunk.opcode.isShortestFor 1
    | data => chunk.opcode.isShortestFor data.length

/-- The bytes of a chunk. A length that its field cannot hold loses its high digits, and a payload
that the opcode does not take is left out. -/
def toWire (chunk : Chunk) : Bytes :=
  match Opcode.lengthWidth? chunk.opcode, chunk.payload with
  | some width, some data => chunk.opcode :: (Bytes.ofNatLE width data.length ++ data)
  | _, _ => [chunk.opcode]

end Chunk

end ScriptSpend
