import ScriptSpend.Bytes

/-!
# Hexadecimal text

A byte is written as two lower-case digits, the high half first. Reading takes digits of either case
and refuses an odd number of them.

## Main results

* `decode_encode`: reading what was written gives the bytes back
-/

namespace ScriptSpend.Hex

/-- The lower-case digit of a number below sixteen. -/
def digit (n : Nat) : Char := if n < 10 then Char.ofNat (48 + n) else Char.ofNat (87 + n)

/-- The value of a digit of either case. -/
def value? (c : Char) : Option Nat :=
  let code := c.toNat
  if 48 ≤ code ∧ code ≤ 57 then some (code - 48)
  else if 97 ≤ code ∧ code ≤ 102 then some (code - 87)
  else if 65 ≤ code ∧ code ≤ 70 then some (code - 55)
  else none

/-- The two digits of a byte. -/
def byteDigits (byte : UInt8) : List Char := [digit (byte.toNat / 16), digit (byte.toNat % 16)]

/-- The digits of a byte string. -/
def digits (bytes : Bytes) : List Char := bytes.flatMap byteDigits

/-- A byte string as text. -/
def encode (bytes : Bytes) : String := String.ofList (digits bytes)

/-- The byte string that a sequence of digits writes, or nothing if a character is no digit or a
digit is left over. -/
def decode : List Char → Option Bytes
  | [] => some []
  | [_] => none
  | high :: low :: rest =>
    match value? high, value? low, decode rest with
    | some h, some l, some bytes => some (UInt8.ofNat (16 * h + l) :: bytes)
    | _, _, _ => none

/-- A natural number in base sixteen without leading zeros. -/
def ofNat (n : Nat) : String := String.ofList (Nat.toDigits 16 n)

theorem value?_digit : ∀ n < 16, value? (digit n) = some n := by decide

/-- Reading what was written gives the bytes back. -/
theorem decode_encode (bytes : Bytes) : decode (digits bytes) = some bytes := by
  induction bytes with
  | nil => rfl
  | cons byte rest ih =>
    have small := byte.toNat_lt
    have high := value?_digit (byte.toNat / 16) (by omega)
    have low := value?_digit (byte.toNat % 16) (by omega)
    have whole : 16 * (byte.toNat / 16) + byte.toNat % 16 = byte.toNat := by omega
    have unfolded : digits (byte :: rest)
        = digit (byte.toNat / 16) :: digit (byte.toNat % 16) :: digits rest := rfl
    rw [unfolded, decode, high, low, ih]
    simp [whole]

end ScriptSpend.Hex
