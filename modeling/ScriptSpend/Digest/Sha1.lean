import ScriptSpend.Digest.Blocks

/-!
# SHA-1

Five words of state pass through eighty rounds for each block of the message, in four groups of
twenty.

## Main results

* `length_sha1`: a digest has twenty bytes
-/

namespace ScriptSpend.Digest

/-- The words that a digest is made of. -/
structure Sha1State where
  a : UInt32
  b : UInt32
  c : UInt32
  d : UInt32
  e : UInt32

namespace Sha1State

/-- The state before the first block. -/
def start : Sha1State := ⟨0x67452301, 0xefcdab89, 0x98badcfe, 0x10325476, 0xc3d2e1f0⟩

/-- The next word of the schedule after the given ones, the newest of which stands first. -/
def nextWord (newest : List UInt32) : UInt32 :=
  rotateLeft (newest.getD 2 0 ^^^ newest.getD 7 0 ^^^ newest.getD 13 0 ^^^ newest.getD 15 0) 1

/-- The constant of a group of rounds. -/
def constant : Nat → UInt32
  | 0 => 0x5a827999
  | 1 => 0x6ed9eba1
  | 2 => 0x8f1bbcdc
  | _ => 0xca62c1d6

/-- How a group of rounds mixes three words. -/
def mix (group : Nat) (b c d : UInt32) : UInt32 :=
  match group with
  | 0 => (b &&& c) ||| (~~~b &&& d)
  | 2 => (b &&& c) ||| (b &&& d) ||| (c &&& d)
  | _ => b ^^^ c ^^^ d

/-- Round number `i` with its word of the schedule. -/
def round (s : Sha1State) (word : UInt32) (i : Nat) : Sha1State :=
  let first := rotateLeft s.a 5 + mix (i / 20) s.b s.c s.d + s.e + constant (i / 20) + word
  ⟨first, s.a, rotateLeft s.b 30, s.c, s.d⟩

/-- The sum of two states, word by word. -/
def add (s t : Sha1State) : Sha1State := ⟨s.a + t.a, s.b + t.b, s.c + t.c, s.d + t.d, s.e + t.e⟩

/-- The state after one more block. -/
def absorb (s : Sha1State) (block : List UInt32) : Sha1State :=
  s.add ((schedule nextWord 64 block).zipIdx.foldl (fun t input => t.round input.1 input.2) s)

/-- The words of a state in order. -/
def words (s : Sha1State) : List UInt32 := [s.a, s.b, s.c, s.d, s.e]

end Sha1State

/-- The SHA-1 digest of a message. -/
def sha1 (message : Bytes) : Bytes :=
  bytesBE ((blocksBE message).foldl Sha1State.absorb Sha1State.start).words

/-- A digest has twenty bytes. -/
@[simp] theorem length_sha1 (message : Bytes) : (sha1 message).length = 20 := by
  simp [sha1, Sha1State.words]

end ScriptSpend.Digest
