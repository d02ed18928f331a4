import ScriptSpend.Opcode.Mnemonic
import ScriptSpend.Script
import ScriptSpend.Script.ParseError
import ScriptSpend.Text.Words

/-!
# Assembly text

A script is written as words with one space between them. A push whose opcode follows from the
length of its payload is the payload in hexadecimal. Any other push is its mnemonic, the length of
the payload and, unless that is zero, the payload. Empty string and minus one are `0` and `-1`, and
all else is a mnemonic.

## Main definitions

* `Script.toAssembly`: the text of a script
* `Script.ofAssembly`: the script that a text writes
-/

namespace ScriptSpend

/-- The text of a chunk. -/
def Chunk.toAssembly (chunk : Chunk) : String :=
  match chunk.payload with
  | some data =>
    if chunk.opcode = .pushing data.length then Hex.encode data
    else if data.isEmpty then chunk.opcode.displayName ++ " 0"
    else chunk.opcode.displayName ++ " " ++ toString data.length ++ " " ++ Hex.encode data
  | none =>
    if chunk.opcode = .zero then "0"
    else if chunk.opcode = .minusOne then "-1"
    else chunk.opcode.displayName

namespace Script

/-- The text of a script. -/
def toAssembly (script : Script) : String := " ".intercalate (script.map Chunk.toAssembly)

/-- The bytes of a hexadecimal word, to which a leading zero is added if its digits are odd in
number. -/
def payloadOfWord (word : String) : Except ParseError Bytes :=
  let digits := word.toList
  let padded := if digits.length % 2 = 0 then digits else '0' :: digits
  match Hex.decode padded with
  | none => .error (.invalidHex word)
  | some data => .ok data

/-- The number that a decimal word writes, a plus sign before it allowed. -/
def declaredLength? (word : String) : Option Nat :=
  let digits := match word.toList with
    | '+' :: rest => rest
    | digits => digits
  if digits.isEmpty || !digits.all Char.isDigit then none
  else some (digits.foldl (fun n digit => 10 * n + (digit.toNat - 48)) 0)

/-- The largest payload that the length field of a push can count. -/
def capacity (op : Opcode) : Nat := 256 ^ ((Opcode.lengthWidth? op).getD 0) - 1

/-- The chunk of a push written as mnemonic, length and payload. -/
def declaredPush (op : Opcode) (name : String) (index : Nat) (declared : String) (data : Bytes) :
    Except ParseError Chunk :=
  -- The declared length is compared first, and only then what the opcode can carry.
  if declaredLength? declared ≠ some data.length then
    .error (.lengthMismatch name index declared data.length)
  else if capacity op < data.length then .error (.pushTooLong name data.length)
  else .ok ⟨op, some data⟩

/-- The chunk that a word writes which is no mnemonic. -/
def chunkOfWord (word : String) : Except ParseError Chunk :=
  if word = "0" then .ok (.ofOpcode .zero)
  else if word = "-1" then .ok (.ofOpcode .minusOne)
  else
    match payloadOfWord word with
    | .error e => .error e
    | .ok data =>
      if capacity .pushData4 < data.length then .error (.invalidHex word) else .ok (.direct data)

/-- Puts a chunk before the rest of a script, the first refusal winning. -/
def consChunk (chunk : Except ParseError Chunk) (rest : Unit → Except ParseError Script) :
    Except ParseError Script :=
  match chunk with
  | .error e => .error e
  | .ok chunk =>
    match rest () with
    | .error e => .error e
    | .ok chunks => .ok (chunk :: chunks)

/-- The script that words write, the first of which is number `index` of the whole text. -/
def ofWords (index : Nat) : List String → Except ParseError Script
  | [] => .ok []
  | word :: rest =>
    match Opcode.ofMnemonic? word with
    | none => consChunk (chunkOfWord word) fun _ => ofWords (index + 1) rest
    | some op =>
      if op.isPush && op != .zero then
        match rest with
        | [] => .error (.missingPushData word index)
        | declared :: rest =>
          -- No payload follows the length zero.
          if declared = "0" then
            consChunk (declaredPush op word index declared []) fun _ => ofWords (index + 2) rest
          else
            match rest with
            | [] => .error (.missingPushData word index)
            | payload :: rest =>
              match payloadOfWord payload with
              | .error e => .error e
              | .ok data =>
                consChunk (declaredPush op word index declared data) fun _ =>
                  ofWords (index + 3) rest
      else consChunk (.ok (.ofOpcode op)) fun _ => ofWords (index + 1) rest

/-- The script that a text writes. -/
def ofAssembly (text : String) : Except ParseError Script :=
  ofWords 0 ((words text.toList).map String.ofList)

end Script

end ScriptSpend
