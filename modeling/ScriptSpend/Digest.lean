import ScriptSpend.Digest.Ripemd160
import ScriptSpend.Digest.Sha1
import ScriptSpend.Digest.Sha256

/-!
# Digests composed of two

A public key is identified by RIPEMD-160 of its SHA-256 digest, and whatever is signed by SHA-256
taken twice.
-/

namespace ScriptSpend.Digest

/-- RIPEMD-160 of the SHA-256 digest. -/
def hash160 (message : Bytes) : Bytes := ripemd160 (sha256 message)

/-- SHA-256 taken twice. -/
def hash256 (message : Bytes) : Bytes := sha256 (sha256 message)

@[simp] theorem length_hash160 (message : Bytes) : (hash160 message).length = 20 :=
  length_ripemd160 _

@[simp] theorem length_hash256 (message : Bytes) : (hash256 message).length = 32 :=
  length_sha256 _

end ScriptSpend.Digest
