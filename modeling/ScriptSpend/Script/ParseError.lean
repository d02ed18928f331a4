import ScriptSpend.Text.Quoted

/-!
# Refusals of script text and bytes
-/

namespace ScriptSpend

/-- Why text or bytes are no script. Words of an assembly text are counted from zero. -/
inductive ParseError where
  | invalidHex (text : String)
  | missingPushData (opcode : String) (index : Nat)
  | truncatedPush (offset : Nat)
  | lengthMismatch (opcode : String) (index : Nat) (declared : String) (actual : Nat)
  | pushTooLong (opcode : String) (length : Nat)
  deriving DecidableEq

namespace ParseError

/-- The text of a refusal. -/
def message : ParseError → String
  | invalidHex text => "invalid hex: " ++ Quoted.quote text
  | missingPushData opcode index => s!"{opcode} at token {index} is missing its length or payload"
  | truncatedPush offset => s!"push at offset {offset} runs past the end of the script"
  | lengthMismatch opcode index declared actual =>
    s!"{opcode} at token {index} declares length " ++ Quoted.quote declared
      ++ s!" but carries {actual} byte(s)"
  | pushTooLong opcode length => s!"{opcode} cannot carry a {length}-byte payload"

end ParseError

end ScriptSpend
