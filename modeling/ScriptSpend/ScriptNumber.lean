import ScriptSpend.Bytes

/-!
# Script numbers

A script number is a byte string read as a sign and a magnitude: the bytes are the magnitude's
base-256 digits, least significant first, and the highest bit of the last byte is the sign. An
encoding is minimal if no shorter one has the same value; the empty string is zero.

## Main definitions

* `ScriptNumber.encode`: the minimal encoding of an integer
* `ScriptNumber.decode`: the integer that a byte string denotes
* `ScriptNumber.parse`: an operand under a limit on its length and, if asked, the rule of minimality
* `ScriptNumber.minimalForm`: a byte string without redundant padding
* `ScriptNumber.isTrue`: the truth of a stack item
-/

namespace ScriptSpend

/-- Why a byte string is refused as a numeric operand. -/
inductive NumberError where
  | tooLong (length limit : Nat)
  | notMinimal
  deriving DecidableEq

namespace NumberError

/-- The text of a refusal. -/
def message : NumberError → String
  | tooLong length limit => s!"script number of {length} bytes exceeds the {limit}-byte limit"
  | notMinimal => "script number is not minimally encoded"

end NumberError

namespace ScriptNumber

/-- The limit on the length of a numeric operand. -/
def operandLimit : Nat := 4

/-- Whether the highest bit of a byte is set. -/
def hasSignBit (byte : UInt8) : Bool := byte &&& 0x80 != 0

/-- Whether any bit but the highest is set. -/
def hasMagnitudeBits (byte : UInt8) : Bool := byte &&& 0x7f != 0

/-- The truth of a stack item: some bit other than the sign is set. -/
def isTrue (bytes : Bytes) : Bool :=
  match bytes.getLast? with
  | none => false
  | some top => hasMagnitudeBits top || bytes.dropLast.any (· != 0)

/-- The canonical item for a truth value. -/
def ofBool (b : Bool) : Bytes := if b then [1] else []

/-- Joins a sign, `0x80` or `0x00`, to the digits of a magnitude: into the last byte where its
highest bit is free, in a byte of its own otherwise. -/
def attachSign (magnitude : Bytes) (sign : UInt8) : Bytes :=
  match magnitude.getLast? with
  | none => []
  | some top =>
    -- The highest bit must be free for the sign.
    if hasSignBit top then magnitude ++ [sign] else magnitude.dropLast ++ [top ||| sign]

/-- The minimal encoding of an integer. -/
def encode (n : Int) : Bytes :=
  attachSign (Bytes.digitsLE n.natAbs) (if n < 0 then 0x80 else 0x00)

/-- The integer that a byte string denotes. -/
def decode (bytes : Bytes) : Int :=
  match bytes.getLast? with
  | none => 0
  | some top =>
    let magnitude : Int := Bytes.toNatLE (bytes.dropLast ++ [top &&& 0x7f])
    if hasSignBit top then -magnitude else magnitude

/-- Whether no shorter byte string has the same value: the last byte carries a bit of the magnitude,
or it stands alone for the sign because the byte below has its highest bit set. -/
def isMinimal (bytes : Bytes) : Bool :=
  match bytes.reverse with
  | [] => true
  | [top] => hasMagnitudeBits top
  | top :: below :: _ => hasMagnitudeBits top || hasSignBit below

/-- Whether a byte string is minimal and has at most `limit` bytes. -/
def isMinimalWithin (limit : Nat) (bytes : Bytes) : Bool :=
  bytes.length ≤ limit && isMinimal bytes

/-- Reads a numeric operand of at most `limit` bytes. The limit is checked before minimality. -/
def parse (limit : Nat) (requireMinimal : Bool) (bytes : Bytes) : Except NumberError Int :=
  if limit < bytes.length then .error (.tooLong bytes.length limit)
  else if requireMinimal && !isMinimal bytes then .error .notMinimal
  else .ok (decode bytes)

/-- A byte string without its zero bytes at the significant end. -/
def stripHighZeros (bytes : Bytes) : Bytes := (bytes.reverse.dropWhile (· == 0)).reverse

/-- The byte string without redundant padding, its sign kept. -/
def minimalForm (bytes : Bytes) : Bytes :=
  if isMinimal bytes then bytes
  else
    match bytes.getLast? with
    | none => []
    -- The last byte holds at most the sign here: the digits are those before it.
    | some top => attachSign (stripHighZeros bytes.dropLast) (top &&& 0x80)

end ScriptNumber

end ScriptSpend
