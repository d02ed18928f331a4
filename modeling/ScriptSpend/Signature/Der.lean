import ScriptSpend.Signature

/-!
# Strict DER

A signature is written as a sequence of two integers. Every length takes one byte, the integers are
written most significant byte first in the fewest bytes, with a zero byte before them where the
highest bit is set, and nothing follows.

## Main definitions

* `Signature.toDer`: the encoding of a signature, which exists if both numbers are positive and not
  too long
* `Signature.ofDer`: the signature that a byte string encodes
-/

namespace ScriptSpend

/-- The parts of an encoded signature. -/
inductive DerPart where
  | sequence
  | r
  | s
  deriving DecidableEq

/-- The name of a part in diagnostics. -/
def DerPart.name : DerPart → String
  | sequence => "sequence"
  | r => "R"
  | s => "S"

/-- Why a byte string is no encoded signature, or a signature has no encoding. -/
inductive DerError where
  | missingSequenceTag
  | longFormLength
  | lengthMismatch
  | missingIntegerTag (part : DerPart)
  | truncated (part : DerPart)
  | emptyInteger (part : DerPart)
  | superfluousZero (part : DerPart)
  | tooLong (length : Nat)
  | zero (part : DerPart)
  deriving DecidableEq

/-- The text of a refusal. -/
def DerError.message : DerError → String
  | missingSequenceTag => "signature DER must start with 0x30"
  | longFormLength => "DER entity length must fit in a single byte"
  | lengthMismatch => "DER sequence length does not match the buffer"
  | missingIntegerTag part => "expected an INTEGER tag for " ++ part.name
  | truncated part => "DER buffer ends inside the " ++ part.name ++ " component"
  | emptyInteger part => part.name ++ " component is empty"
  | superfluousZero part => part.name ++ " component has a superfluous leading zero"
  | tooLong length => s!"signature component of {length} bytes is too long to encode"
  | zero part => part.name ++ " component is zero"

namespace Der

/-- The tag of a sequence. -/
def sequenceTag : UInt8 := 0x30

/-- The tag of an integer. -/
def integerTag : UInt8 := 0x02

/-- Takes one byte. -/
def readByte (part : DerPart) : Bytes → Except DerError (UInt8 × Bytes)
  | [] => .error (.truncated part)
  | byte :: rest => .ok (byte, rest)

/-- Takes a length of one byte. -/
def readLength (part : DerPart) (bytes : Bytes) : Except DerError (Nat × Bytes) := do
  let (byte, rest) ← readByte part bytes
  if byte &&& 0x80 ≠ 0 then .error .longFormLength else .ok (byte.toNat, rest)

/-- Checks that the bytes of an integer are there and carry no zero that the sign does not need. -/
def checkInteger (part : DerPart) : Bytes → Except DerError Unit
  | [] => .error (.emptyInteger part)
  | [byte] => if byte = 0 then .error (.superfluousZero part) else .ok ()
  | byte :: next :: _ =>
    if byte = 0 ∧ next &&& 0x80 = 0 then .error (.superfluousZero part) else .ok ()

/-- Takes the bytes of an integer, with its tag and length before them. -/
def readInteger (part : DerPart) (bytes : Bytes) : Except DerError (Bytes × Bytes) := do
  let (tag, afterTag) ← readByte part bytes
  if tag ≠ integerTag then .error (.missingIntegerTag part)
  else
    let (length, body) ← readLength part afterTag
    if body.length < length then .error (.truncated part)
    else
      checkInteger part (body.take length)
      .ok (body.take length, body.drop length)

/-- The bytes of the two integers of an encoded signature. -/
def components (der : Bytes) : Except DerError (Bytes × Bytes) := do
  let (tag, afterTag) ← readByte .sequence der
  if tag ≠ sequenceTag then .error .missingSequenceTag
  else
    let (length, body) ← readLength .sequence afterTag
    -- The sequence must end where the bytes do.
    if body.length ≠ length then .error .lengthMismatch
    else
      let (r, afterR) ← readInteger .r body
      let (s, afterS) ← readInteger .s afterR
      if afterS ≠ [] then .error .lengthMismatch else .ok (r, s)

/-- The bytes of a positive integer, with a zero before them where the highest bit is set. -/
def integerBytes (n : Nat) : Bytes :=
  match Bytes.digitsBE n with
  | [] => []
  | top :: rest => if top &&& 0x80 ≠ 0 then 0 :: top :: rest else top :: rest

/-- An integer with its tag and its length. -/
def taggedInteger (body : Bytes) : Bytes := integerTag :: UInt8.ofNat body.length :: body

end Der

namespace Signature

/-- The encoding of a signature. -/
def toDer (signature : Signature) : Except DerError Bytes :=
  if signature.r = 0 then .error (.zero .r)
  else if signature.s = 0 then .error (.zero .s)
  else
    let r := Der.integerBytes signature.r
    let s := Der.integerBytes signature.s
    let length := 2 + r.length + 2 + s.length
    -- Every length must fit in one byte of the short form.
    if 0x80 ≤ r.length then .error (.tooLong r.length)
    else if 0x80 ≤ s.length then .error (.tooLong s.length)
    else if 0x80 ≤ length then .error (.tooLong length)
    else .ok (Der.sequenceTag :: UInt8.ofNat length :: (Der.taggedInteger r ++ Der.taggedInteger s))

/-- The signature that a byte string encodes. The integers are read without a sign. -/
def ofDer (der : Bytes) : Except DerError Signature := do
  let (r, s) ← Der.components der
  .ok ⟨Bytes.toNatBE r, Bytes.toNatBE s⟩

end Signature

end ScriptSpend
