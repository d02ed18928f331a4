import ScriptSpend.Script
import ScriptSpend.Text.Hex

/-!
# Parts of a transaction

A spend commits to parts of its transaction: the outputs that the inputs take up, the outputs it
creates, and some numbers. Numbers have a fixed width, except lengths, which are written in the
shortest of four forms.

## Main definitions

* `Txid`, `Outpoint`, `TxInput`, `TxOutput`: what a transaction refers to and creates
* `InputContext`: one input together with the rest of its transaction
* `compactSize`: a length before variable data

## Main results

* `InputContext.inputs_eq_insertIdx`: all inputs are the other ones with the authorised one inserted
  at its position
-/

namespace ScriptSpend

/-- The identity of a transaction, thirty-two bytes in the order of the wire. Text shows them
reversed. -/
structure Txid where
  wire : Vector UInt8 32
  deriving DecidableEq

namespace Txid

/-- The identity as text, last byte first. -/
def toHex (txid : Txid) : String := Hex.encode txid.wire.toList.reverse

/-- The identity that sixty-four digits show. -/
def ofHex? (text : String) : Option Txid :=
  match Hex.decode text.toList with
  | none => none
  | some bytes =>
    if h : bytes.length = 32 then some ⟨⟨bytes.reverse.toArray, by simp [h]⟩⟩ else none

/-- The identity of zeros. -/
def zero : Txid := ⟨Vector.replicate 32 0⟩

end Txid

/-- An output of an earlier transaction. -/
structure Outpoint where
  txid : Txid
  index : UInt32
  deriving DecidableEq

/-- The bytes of an outpoint. -/
def Outpoint.toWire (outpoint : Outpoint) : Bytes :=
  outpoint.txid.wire.toList ++ Bytes.ofNatLE 4 outpoint.index.toNat

/-- An input: the output it takes up and its sequence number. -/
structure TxInput where
  outpoint : Outpoint
  sequence : UInt32
  deriving DecidableEq

/-- The length of variable data in the shortest of the forms with one, three, five and nine bytes.
-/
def compactSize (n : Nat) : Bytes :=
  if n < 0xfd then Bytes.ofNatLE 1 n
  else if n ≤ 0xffff then 0xfd :: Bytes.ofNatLE 2 n
  else if n ≤ 0xffffffff then 0xfe :: Bytes.ofNatLE 4 n
  else 0xff :: Bytes.ofNatLE 8 n

/-- Bytes with their length before them. -/
def withLength (bytes : Bytes) : Bytes := compactSize bytes.length ++ bytes

/-- An output: a value and the script that guards it. -/
structure TxOutput where
  satoshis : UInt64
  lockingScript : Script
  deriving DecidableEq

/-- The bytes of an output. -/
def TxOutput.toWire (output : TxOutput) : Bytes :=
  Bytes.ofNatLE 8 output.satoshis.toNat ++ withLength output.lockingScript.toWire

/-- The input that is authorised, with what surrounds it. `otherInputs` holds all inputs but this
one, in the order of the transaction, and `index` is the position of this one, counted from zero. -/
structure InputContext where
  source : Outpoint
  satoshis : UInt64
  version : Int32
  otherInputs : List TxInput
  outputs : List TxOutput
  index : Nat
  sequence : UInt32
  lockTime : UInt32
  deriving DecidableEq

/-- All inputs of the transaction. A position past the end puts the authorised one last. -/
def InputContext.inputs (context : InputContext) : List TxInput :=
  context.otherInputs.take context.index
    ++ ⟨context.source, context.sequence⟩ :: context.otherInputs.drop context.index

/-- A value is inserted by cutting the list at its position, which must not lie past the end. -/
theorem insertIdx_of_le_length {α : Type} {list : List α} {position : Nat} (value : α)
    (inside : position ≤ list.length) :
    list.insertIdx position value = list.take position ++ value :: list.drop position := by
  induction list generalizing position with
  | nil =>
    obtain rfl := Nat.le_zero.mp inside
    rfl
  | cons first list ih =>
    cases position with
    | zero => rfl
    | succ position =>
      rw [List.insertIdx_succ_cons, ih (Nat.le_of_succ_le_succ inside)]
      rfl

/-- The authorised input stands among the others at its position, or behind them if that is past
their end. -/
theorem InputContext.inputs_eq_insertIdx (context : InputContext) :
    context.inputs =
      context.otherInputs.insertIdx (min context.index context.otherInputs.length)
        ⟨context.source, context.sequence⟩ := by
  rw [insertIdx_of_le_length _ (Nat.min_le_right _ _), inputs]
  rcases Nat.le_total context.index context.otherInputs.length with inside | past
  · rw [Nat.min_eq_left inside]
  · rw [Nat.min_eq_right past, List.take_of_length_le past, List.drop_of_length_le past,
      List.take_length, List.drop_length]

end ScriptSpend
