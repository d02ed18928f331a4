import ScriptSpend.Secp256k1

/-!
# Signatures

A signature is a pair of numbers. Of the two signatures `(r, s)` and `(r, n - s)`, which verify
alike, the one with the smaller `s` is called low.
-/

namespace ScriptSpend

/-- A pair of numbers, of any size. -/
structure Signature where
  r : Nat
  s : Nat
  deriving DecidableEq

namespace Signature

/-- Whether `s` lies between one and half the group order. -/
def hasLowS (signature : Signature) : Bool :=
  1 ≤ signature.s && signature.s ≤ Secp256k1.halfOrder

/-- The low one of the two signatures that verify alike. -/
def normalized (signature : Signature) : Signature :=
  if Secp256k1.halfOrder < signature.s then ⟨signature.r, Secp256k1.groupOrder - signature.s⟩
  else signature

/-- Both numbers lie between one and the group order. -/
def InRange (signature : Signature) : Prop :=
  0 < signature.r ∧ signature.r < Secp256k1.groupOrder
    ∧ 0 < signature.s ∧ signature.s < Secp256k1.groupOrder

instance (signature : Signature) : Decidable signature.InRange :=
  inferInstanceAs (Decidable (_ ∧ _ ∧ _ ∧ _))

end Signature

end ScriptSpend
