import ScriptSpend.Opcode

/-!
# Instructions

The opcodes that do not push a payload stand for instructions. Opcodes with a common behaviour share
one constructor, and bytes without meaning stand for the invalid instruction.
-/

namespace ScriptSpend

/-- The instructions that copy, move, drop or measure items by their position alone. -/
inductive Shuffle where
  | depth
  | drop
  | drop2
  | dup
  | dup2
  | dup3
  | ifDup
  | nip
  | over
  | over2
  | rot
  | rot2
  | swap
  | swap2
  | tuck
  | size
  deriving DecidableEq

/-- Operations on the bits of two items of one length. -/
inductive BitwiseOp where
  | and
  | or
  | xor
  deriving DecidableEq

/-- The directions of a shift. -/
inductive ShiftDirection where
  | left
  | right
  deriving DecidableEq

/-- Operations on one number. -/
inductive UnaryOp where
  | increment
  | decrement
  | negate
  | abs
  | not
  | nonzero
  deriving DecidableEq

/-- Operations on two numbers. -/
inductive BinaryOp where
  | add
  | sub
  | mul
  | div
  | mod
  | boolAnd
  | boolOr
  | equal
  | notEqual
  | less
  | greater
  | lessOrEqual
  | greaterOrEqual
  | minimum
  | maximum
  deriving DecidableEq

/-- The digests that an instruction can take. -/
inductive DigestOp where
  | ripemd160
  | sha1
  | sha256
  | hash160
  | hash256
  deriving DecidableEq

/-- What an opcode does. The flag `verify` marks the variants that consume their truth value and
fail if it is false. -/
inductive Instruction where
  | constant (n : Int)
  | nop
  | branch (negated : Bool)
  | otherwise
  | endBranch
  | verify
  | endSegment
  | toAlt
  | fromAlt
  | shuffle (op : Shuffle)
  | pick
  | roll
  | cat
  | split
  | numberToBytes
  | bytesToNumber
  | invert
  | bitwise (op : BitwiseOp)
  | shift (direction : ShiftDirection)
  | equal (verify : Bool)
  | unary (op : UnaryOp)
  | binary (op : BinaryOp) (verify : Bool)
  | within
  | digest (op : DigestOp)
  | codeSeparator
  | checkSig (verify : Bool)
  | checkMultiSig (verify : Bool)
  | invalid
  deriving DecidableEq

namespace Instruction

/-- The instructions of the opcodes from `0x61` to `0xaf`, in order. -/
def standard : List Instruction :=
  [.nop, .invalid, .branch false, .branch true, .invalid, .invalid, .otherwise, .endBranch,
    .verify, .endSegment, .toAlt, .fromAlt,
    .shuffle .drop2, .shuffle .dup2, .shuffle .dup3, .shuffle .over2, .shuffle .rot2,
    .shuffle .swap2, .shuffle .ifDup, .shuffle .depth, .shuffle .drop, .shuffle .dup,
    .shuffle .nip, .shuffle .over,
    .pick, .roll, .shuffle .rot, .shuffle .swap, .shuffle .tuck,
    .cat, .split, .numberToBytes, .bytesToNumber, .shuffle .size,
    .invert, .bitwise .and, .bitwise .or, .bitwise .xor, .equal false, .equal true,
    .invalid, .invalid,
    .unary .increment, .unary .decrement, .invalid, .invalid,
    .unary .negate, .unary .abs, .unary .not, .unary .nonzero,
    .binary .add false, .binary .sub false, .binary .mul false, .binary .div false,
    .binary .mod false, .shift .left, .shift .right, .binary .boolAnd false, .binary .boolOr false,
    .binary .equal false, .binary .equal true, .binary .notEqual false,
    .binary .less false, .binary .greater false, .binary .lessOrEqual false,
    .binary .greaterOrEqual false, .binary .minimum false, .binary .maximum false, .within,
    .digest .ripemd160, .digest .sha1, .digest .sha256, .digest .hash160, .digest .hash256,
    .codeSeparator, .checkSig false, .checkSig true, .checkMultiSig false, .checkMultiSig true]

/-- The instruction of an opcode that pushes no payload. -/
def ofOpcode (op : Opcode) : Instruction :=
  match op.small? with
  | some n => .constant n
  | none =>
    if 0x61 ≤ op ∧ op ≤ 0xaf then standard.getD (op.toNat - 0x61) .invalid
    -- Names are reserved for these bytes, but they do nothing.
    else if 0xb0 ≤ op ∧ op ≤ 0xf8 ∨ op = 0xfc then .nop
    else .invalid

end Instruction

end ScriptSpend
