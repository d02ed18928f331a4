/-!
# Scopes

The scope of a signature says which parts of a transaction it covers. The low five bits choose the
outputs, and two higher bits mark the layout of the signed message and the independence from other
inputs.
-/

namespace ScriptSpend

/-- The scope of a signature as its bits. -/
abbrev Scope := UInt32

namespace Scope

/-- Every output is covered. -/
def all : Scope := 0x01

/-- No output is covered. -/
def none : Scope := 0x02

/-- The output at the position of the input is covered. -/
def single : Scope := 0x03

/-- The layout of the signed message is the one that commits to the value spent. -/
def forkId : Scope := 0x40

/-- The other inputs are not covered. -/
def anyone : Scope := 0x80

/-- The bits that choose the outputs. -/
def baseType (scope : Scope) : UInt32 := scope &&& 0x1f

/-- Whether the mark of the layout is set. -/
def hasForkId (scope : Scope) : Bool := scope &&& forkId != 0

/-- Whether the other inputs are left out. -/
def anyoneCanPay (scope : Scope) : Bool := scope &&& anyone != 0

end Scope

end ScriptSpend
