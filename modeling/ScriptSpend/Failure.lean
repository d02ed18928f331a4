import ScriptSpend.Chunk
import ScriptSpend.Opcode.Mnemonic
import ScriptSpend.Signature.Der
import ScriptSpend.Text.Hex

/-!
# Failures of evaluation

A failure is the rule that a script broke, with the numbers that a diagnostic needs. Its kind and
its text follow from it.

## Main definitions

* `Failure`: the causes for which evaluation stops
* `Failure.kind`, `Failure.message`: the class of a cause and its text
-/

namespace ScriptSpend

/-- The classes of failures. A fault is an operation outside its domain, such as an access below the
bottom of a stack. -/
inductive FailureKind where
  | stackUnderflow
  | encoding
  | evaluation
  | resourceExhausted
  | fault
  deriving DecidableEq

/-- The name of a class in diagnostics. -/
def FailureKind.name : FailureKind → String
  | stackUnderflow => "stack underflow"
  | encoding => "encoding"
  | evaluation => "evaluation"
  | resourceExhausted => "resource exhausted"
  | fault => "fault"

/-- Why evaluation stops. -/
inductive Failure where
  | stackUnderflow (op : Opcode) (needed : Nat)
  | altStackUnderflow
  | missingDummy (op : Opcode)
  | elementTooLong (length limit : Nat)
  | concatenationTooLong (length limit : Nat)
  | wideningTooLong (size : Int) (limit : Nat)
  | pushTooLong (cause : PushError)
  | malformedSignature
  | undecodableSignature (cause : DerError)
  | keyTooShort
  | unknownKeyFormat
  | keyLengthMismatch
  | disabled (op : Opcode)
  | invalidOpcode (op : Opcode)
  | pushNotMinimal
  | badNumber (cause : NumberError)
  | elseWithoutIf
  | endifWithoutIf
  | notTruthy
  | notEqual
  | notNumericallyEqual
  | noValidSignature
  | noValidSignatures
  | depthOutOfRange (op : Opcode)
  | splitOutOfRange
  | sizeTooSmall
  | notANumber
  | lengthsDiffer (op : Opcode)
  | negativeShift (op : Opcode)
  | divisionByZero (op : Opcode)
  | highS
  | missingForkId
  | rejectedSignature (op : Opcode)
  | keyCountOutOfRange (op : Opcode) (limit : Nat)
  | signatureCountOutOfRange (op : Opcode)
  | dummyNotEmpty (op : Opcode)
  | budgetExhausted (limit : Nat)
  | unlockingNotPushOnly
  | openConditional
  | uncleanStack (size : Nat)
  | falseResult
  | fault
  deriving DecidableEq

namespace Failure

/-- The class of a cause. -/
def kind : Failure → FailureKind
  | stackUnderflow _ _ | altStackUnderflow | missingDummy _ => .stackUnderflow
  | elementTooLong _ _ | concatenationTooLong _ _ | wideningTooLong _ _ | pushTooLong _
  | malformedSignature | undecodableSignature _
  | keyTooShort | unknownKeyFormat | keyLengthMismatch => .encoding
  | budgetExhausted _ => .resourceExhausted
  | fault => .fault
  | _ => .evaluation

/-- The text of a cause. -/
def message : Failure → String
  | stackUnderflow op needed =>
    let noun := if needed = 1 then "item" else "items"
    s!"{op.displayName} requires at least {needed} {noun} on the stack"
  | altStackUnderflow => "OP_FROMALTSTACK requires at least 1 item on the alt stack"
  | missingDummy op => s!"{op.displayName} requires an extra dummy item"
  | elementTooLong length limit => s!"data of {length} bytes exceeds the {limit}-byte element limit"
  | concatenationTooLong length limit =>
    s!"OP_CAT result of {length} bytes exceeds the {limit}-byte element limit"
  | wideningTooLong size limit => s!"OP_NUM2BIN size {size} exceeds the {limit}-byte element limit"
  | pushTooLong cause => cause.message
  | malformedSignature => "the signature format is invalid"
  | undecodableSignature cause => "the signature format is invalid: " ++ cause.message
  | keyTooShort => "the public key is too short, it must be at least 33 bytes"
  | unknownKeyFormat => "the public key is in an unknown format"
  | keyLengthMismatch => "the public key length does not match its prefix"
  | disabled op => s!"{op.displayName} is disabled"
  | invalidOpcode op =>
    "invalid opcode " ++ op.displayName ++ " (0x" ++ Hex.encode [op] ++ ")"
  | pushNotMinimal => "this data is not minimally encoded"
  | badNumber cause => cause.message
  | elseWithoutIf => "OP_ELSE requires a preceding OP_IF"
  | endifWithoutIf => "OP_ENDIF requires a preceding OP_IF"
  | notTruthy => "OP_VERIFY requires the top stack value to be truthy"
  | notEqual => "OP_EQUALVERIFY requires the top two stack items to be equal"
  | notNumericallyEqual =>
    "OP_NUMEQUALVERIFY requires the top two stack items to be numerically equal"
  | noValidSignature => "OP_CHECKSIGVERIFY requires that a valid signature is provided"
  | noValidSignatures => "OP_CHECKMULTISIGVERIFY requires that valid signatures are provided"
  | depthOutOfRange op =>
    s!"{op.displayName} requires the top stack item to be 0 or more and less than the stack size"
  | splitOutOfRange => "OP_SPLIT requires a position between 0 and the size of the item being split"
  | sizeTooSmall => "OP_NUM2BIN size is too small to hold the value"
  | notANumber => "OP_BIN2NUM result is not a valid script number"
  | lengthsDiffer op => s!"{op.displayName} requires the top two stack items to be the same size"
  | negativeShift op => s!"{op.displayName} requires the shift count to be 0 or more"
  | divisionByZero op => s!"{op.displayName} cannot divide by zero"
  | highS => "the signature must have a low S value"
  | missingForkId => "the signature must use SIGHASH_FORKID"
  | rejectedSignature op => s!"{op.displayName} failed with a non-empty signature"
  | keyCountOutOfRange op limit => s!"{op.displayName} key count must be between 0 and {limit}"
  | signatureCountOutOfRange op =>
    s!"{op.displayName} signature count must be between 0 and the key count"
  | dummyNotEmpty op => s!"{op.displayName} requires the extra dummy item to be empty"
  | budgetExhausted limit => s!"the step budget of {limit} operations is exhausted"
  | unlockingNotPushOnly => "unlocking scripts can only contain push operations"
  | openConditional => "every OP_IF must be terminated by OP_ENDIF prior to the end of the script"
  | uncleanStack size =>
    s!"the clean stack rule requires exactly one item after evaluation, found {size}"
  | falseResult => "the top stack element must be truthy after script evaluation"
  | fault => "an operation left its domain"

end Failure

end ScriptSpend
