import ScriptSpend.Scope
import ScriptSpend.Signature.Der

/-!
# Signatures with a scope

On the stack a signature is its DER encoding followed by one byte of scope. The empty item stands
for a signature that nobody made: it reads as a placeholder.

## Main definitions

* `ScopedSignature`: a signature with its scope
* `ScopedSignature.ofItem`, `ScopedSignature.toItem`: reading and writing stack items
* `isSignatureItem`: whether a stack item is a signature in canonical form
-/

namespace ScriptSpend

/-- A signature together with the scope it commits to. -/
structure ScopedSignature where
  signature : Signature
  scope : Scope
  deriving DecidableEq

namespace ScopedSignature

/-- What the empty item reads as. -/
def placeholder : ScopedSignature := ⟨⟨1, 1⟩, Scope.all⟩

/-- The signature that a stack item writes. -/
def ofItem (item : Bytes) : Except DerError ScopedSignature :=
  match item.getLast? with
  | none => .ok placeholder
  | some scope =>
    match Signature.ofDer item.dropLast with
    | .error e => .error e
    | .ok signature => .ok ⟨signature, scope.toUInt32⟩

/-- The stack item of a signature, with the low byte of its scope. -/
def toItem (t : ScopedSignature) : Except DerError Bytes :=
  match t.signature.toDer with
  | .error e => .error e
  | .ok der => .ok (der ++ [t.scope.toUInt8])

end ScopedSignature

/-- Whether the first byte of an integer leaves the sign bit clear. -/
def startsNonNegative (bytes : Bytes) : Bool :=
  match bytes.head? with
  | none => false
  | some top => top &&& 0x80 == 0

/-- Whether a stack item is a canonical encoding of two positive integers and a scope, between nine
and seventy-three bytes long. -/
def isSignatureItem (item : Bytes) : Bool :=
  if 9 ≤ item.length ∧ item.length ≤ 73 then
    -- The scope is the last byte.
    match Der.components item.dropLast with
    | .error _ => false
    | .ok (r, s) => startsNonNegative r && startsNonNegative s
  else false

end ScriptSpend
