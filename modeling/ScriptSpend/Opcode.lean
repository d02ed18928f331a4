/-!
# Opcodes

An opcode is one byte. The bytes up to `0x4e` push a payload that follows them, `0x4f` and `0x51` to
`0x60` push a small number, and the rest are operations.
-/

namespace ScriptSpend

/-- The byte that an instruction starts with. -/
abbrev Opcode := UInt8

namespace Opcode

/-- Pushes the empty string. -/
def zero : Opcode := 0x00

/-- Pushes a payload whose length stands in one byte. -/
def pushData1 : Opcode := 0x4c

/-- Pushes a payload whose length stands in two bytes. -/
def pushData2 : Opcode := 0x4d

/-- Pushes a payload whose length stands in four bytes. -/
def pushData4 : Opcode := 0x4e

/-- Pushes minus one. -/
def minusOne : Opcode := 0x4f

/-- Pushes one; the opcodes after it push two, three and so on. -/
def one : Opcode := 0x51

/-- Pushes sixteen, the last of the small numbers. -/
def sixteen : Opcode := 0x60

/-- Marks the start of the script text that later signatures cover. -/
def codeSeparator : Opcode := 0xab

/-- The opcode that pushes a number from one to sixteen. -/
def ofSmall (n : UInt8) : Opcode := one + n - 1

/-- Whether executing the opcode is an error whatever the stacks hold. -/
def isDisabled (op : Opcode) : Bool :=
  op == 0x62 || op == 0x65 || op == 0x66 || op == 0x8d || op == 0x8e

/-- Whether the opcode belongs to the conditionals, which are visited on branches that do not
execute. -/
def isConditional (op : Opcode) : Bool := 0x63 ≤ op && op ≤ 0x68

/-- Whether the opcode pushes a payload of its own. -/
def isPush (op : Opcode) : Bool := op ≤ pushData4

/-- Whether the opcode may occur in a script that only pushes. -/
def isPushOnly (op : Opcode) : Bool := op ≤ sixteen

/-- The number that a one-byte constant stands for. -/
def small? (op : Opcode) : Option Int :=
  if op = minusOne then some (-1)
  else if one ≤ op ∧ op ≤ sixteen then some ((op.toNat : Int) - 0x50)
  else none

/-- The number of bytes that write a payload's length after the opcode; nothing if it takes no
payload. The opcodes from `0x01` to `0x4b` are their own length. -/
def lengthWidth? (op : Opcode) : Option Nat :=
  -- The empty string is pushed by its opcode alone.
  if op = 0 then none
  -- The opcode itself is the length.
  else if op < pushData1 then some 0
  else if op = pushData1 then some 1
  else if op = pushData2 then some 2
  else if op = pushData4 then some 4
  else none

/-- The opcode that pushes a payload of the given length, small constants set aside. -/
def pushing (length : Nat) : Opcode :=
  if length < 0x4c then UInt8.ofNat length
  else if length ≤ 0xff then pushData1
  else if length ≤ 0xffff then pushData2
  else pushData4

/-- Whether no opcode takes fewer bytes to write the given length of a payload: up to `0x4b` the
opcode is the length itself, and beyond it says whether one, two or four bytes follow. -/
def isShortestFor (op : Opcode) (length : Nat) : Bool :=
  if length < 0x4c then op.toNat == length
  else if length ≤ 0xff then op == pushData1
  else if length ≤ 0xffff then op == pushData2
  else op == pushData4

end Opcode

end ScriptSpend
