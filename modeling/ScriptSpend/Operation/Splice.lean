import ScriptSpend.Machine

/-!
# Joining, cutting and resizing items

Joining two items and widening a number are bounded by the limit on the size of elements. The size
of a widened number is compared with that limit read as a signed word, so a limit of `2 ^ 63` or
more counts as negative there.
-/

namespace ScriptSpend

open StackAction

/-- A minimal script number in a given width, its sign kept in the last byte. -/
def ScriptNumber.widen (width : Nat) (number : Bytes) : Bytes :=
  match number.getLast? with
  | none => List.replicate width 0
  | some top =>
    -- The sign leaves the last digit and comes back at the end of the padding.
    let unsigned := number.dropLast ++ (top &&& 0x7f) :: List.replicate (width - number.length) 0
    unsigned.dropLast ++ (unsigned.getLast?.map (· ||| (top &&& 0x80))).toList

namespace Operation

/-- Joins the two top items. -/
def cat (op : Opcode) (limit : UInt64) : StackAction Unit := do
  require op 2
  let front ← item 1
  let back ← item 0
  if limit.toNat < front.length + back.length then
    throw (.concatenationTooLong (front.length + back.length) limit.toNat)
  else
    StackAction.drop
    replaceTop (front ++ back)

/-- Cuts an item in two at a position that stands on the stack. -/
def split (op : Opcode) (minimal : Bool) : StackAction Unit := do
  require op 2
  let position ← number minimal 0
  let bytes ← item 1
  if position < 0 ∨ bytes.length < position.toNat then throw .splitOutOfRange
  else
    StackAction.drop
    StackAction.drop
    push (bytes.take position.toNat)
    push (bytes.drop position.toNat)

/-- Writes a number in a width that stands on the stack. -/
def numberToBytes (op : Opcode) (minimal : Bool) (limit : UInt64) : StackAction Unit := do
  require op 2
  let width ← number minimal 0
  if limit.toInt64.toInt < width then throw (.wideningTooLong width limit.toNat)
  else
    StackAction.drop
    let bytes ← item 0
    let shortest := ScriptNumber.minimalForm bytes
    if width < 0 ∨ width.toNat < shortest.length then throw .sizeTooSmall
    else replaceTop (ScriptNumber.widen width.toNat shortest)

/-- Writes an item as a minimal number, which must fit in four bytes. -/
def bytesToNumber (op : Opcode) : StackAction Unit := do
  require op 1
  let bytes ← item 0
  let shortest := ScriptNumber.minimalForm bytes
  -- The item has its new form even if it turns out too long.
  replaceTop shortest
  if ScriptNumber.isMinimalWithin ScriptNumber.operandLimit shortest then pure ()
  else throw .notANumber

end Operation

end ScriptSpend
