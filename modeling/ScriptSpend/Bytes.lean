/-!
# Byte strings and their numerals

Everything that a script, a signature or a transaction puts on the wire is a list of bytes. A
natural number is written in base 256, either in a given number of bytes, where high digits are cut
off, or in the fewest bytes that hold it.

## Main definitions

* `Bytes`: a list of bytes
* `Bytes.toNatLE`, `Bytes.toNatBE`: the number that a byte string denotes
* `Bytes.ofNatLE`, `Bytes.ofNatBE`: the digits of a number in a given width
* `Bytes.digitsLE`, `Bytes.digitsBE`: the digits of a number in the least width

## Main results

* `toNatLE_ofNatLE`: writing in `width` bytes keeps the number modulo `256 ^ width`
* `ofNatLE_toNatLE`: a byte string is the writing of its own number in its own width
-/

namespace ScriptSpend

-- Powers are those of the base library, also where a richer algebraic structure is in scope.
attribute [scoped instance (high)] instPowNat

/-- A byte string. -/
abbrev Bytes := List UInt8

namespace Bytes

/-- The number whose base-256 digits are the bytes, least significant first. -/
def toNatLE (bytes : Bytes) : Nat :=
  bytes.foldr (fun byte higher => byte.toNat + 256 * higher) 0

/-- The number whose base-256 digits are the bytes, most significant first. -/
def toNatBE (bytes : Bytes) : Nat := toNatLE bytes.reverse

/-- The lowest `width` base-256 digits of a number, least significant first. -/
def ofNatLE (width n : Nat) : Bytes :=
  (List.range width).map fun i => UInt8.ofNat (n >>> (8 * i))

/-- The lowest `width` base-256 digits of a number, most significant first. -/
def ofNatBE (width n : Nat) : Bytes := (ofNatLE width n).reverse

/-- The least number of bytes that hold a number; zero needs none. -/
def width (n : Nat) : Nat := if n = 0 then 0 else n.log2 / 8 + 1

/-- The digits of a number in the fewest bytes, least significant first. -/
def digitsLE (n : Nat) : Bytes := ofNatLE (width n) n

/-- The digits of a number in the fewest bytes, most significant first. -/
def digitsBE (n : Nat) : Bytes := (digitsLE n).reverse

@[simp] theorem toNatLE_nil : toNatLE [] = 0 := rfl

@[simp] theorem toNatLE_cons (byte : UInt8) (rest : Bytes) :
    toNatLE (byte :: rest) = byte.toNat + 256 * toNatLE rest := rfl

@[simp] theorem ofNatLE_zero (n : Nat) : ofNatLE 0 n = [] := rfl

/-- The first byte is the last digit and the others write the quotient. -/
theorem ofNatLE_succ (width n : Nat) :
    ofNatLE (width + 1) n = UInt8.ofNat n :: ofNatLE width (n / 256) := by
  have shift (i : Nat) : n >>> (8 * (i + 1)) = (n / 256) >>> (8 * i) := by
    rw [show 8 * (i + 1) = 8 + 8 * i by omega, Nat.shiftRight_add,
      Nat.shiftRight_eq_div_pow n 8]
  simp [ofNatLE, List.range_succ_eq_map, shift]

@[simp] theorem length_ofNatLE (width n : Nat) : (ofNatLE width n).length = width := by
  simp [ofNatLE]

@[simp] theorem length_ofNatBE (width n : Nat) : (ofNatBE width n).length = width := by
  simp [ofNatBE]

/-- A byte string of `k` bytes denotes a number below `256 ^ k`. -/
theorem toNatLE_lt (bytes : Bytes) : toNatLE bytes < 256 ^ bytes.length := by
  induction bytes with
  | nil => simp
  | cons byte rest ih =>
    have := byte.toNat_lt
    simp only [toNatLE_cons, List.length_cons, Nat.pow_succ]
    omega

/-- Writing a number in a given width keeps it modulo the numbers of that width. -/
theorem toNatLE_ofNatLE (width n : Nat) : toNatLE (ofNatLE width n) = n % 256 ^ width := by
  induction width generalizing n with
  | zero => simp [Nat.mod_one]
  | succ width ih =>
    rw [ofNatLE_succ, toNatLE_cons, ih, Nat.pow_succ, Nat.mul_comm (256 ^ width) 256,
      Nat.mod_mul]
    simp

/-- A byte string is the writing of the number it denotes in its own width. -/
theorem ofNatLE_toNatLE (bytes : Bytes) : ofNatLE bytes.length (toNatLE bytes) = bytes := by
  induction bytes with
  | nil => rfl
  | cons byte rest ih =>
    have small := byte.toNat_lt
    have quotient : (byte.toNat + 256 * toNatLE rest) / 256 = toNatLE rest := by omega
    rw [List.length_cons, ofNatLE_succ, toNatLE_cons, quotient, ih]
    simp

end Bytes

end ScriptSpend
