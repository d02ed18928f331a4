import ScriptSpend.Signature

/-!
# Verification of signatures

A signature `(r, s)` of a digest `e` under a public key `Q` is valid if the point
`(e / s) G + (r / s) Q` is finite and its first coordinate is `r` modulo the group order. Numbers
out of range and keys that are no points verify as false.
-/

namespace ScriptSpend.Ecdsa

/-- A way to decide whether a signature of a digest is valid under a public key. -/
abbrev Verifier := Bytes → Signature → Bytes → Bool

/-- Whether a signature with numbers in range and a low `s` is valid for a digest and a point. -/
def verifyPoint (digest : Bytes) (signature : Signature) (key : Secp256k1.Point) : Bool :=
  let e : Secp256k1.Scalar := Fin.ofNat _ (Bytes.toNatBE digest)
  let r : Secp256k1.Scalar := Fin.ofNat _ signature.r
  let w := Secp256k1.inverse (Fin.ofNat Secp256k1.groupOrder signature.s)
  match (Secp256k1.combination (e * w) .generator (r * w) key).abscissa? with
  | none => false
  | some x => x.val % Secp256k1.groupOrder == signature.r

/-- Whether a signature of a digest is valid under a public key given by its bytes. -/
def verify : Verifier := fun digest signature publicKey =>
  if signature.InRange then
    match Secp256k1.decodePoint publicKey with
    | none => false
    -- Both signatures with one `r` verify alike, so the low one is tried.
    | some key => verifyPoint digest signature.normalized key
  else false

end ScriptSpend.Ecdsa
