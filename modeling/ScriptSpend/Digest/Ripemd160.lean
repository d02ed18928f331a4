import ScriptSpend.Digest.Blocks

/-!
# RIPEMD-160

Five words of state pass through two lines of eighty rounds for each block of the message. The lines
read the block in different orders and with different rotations, and their results are added
crosswise.

## Main results

* `length_ripemd160`: a digest has twenty bytes
-/

namespace ScriptSpend.Digest

/-- The words that a digest is made of. -/
structure RipemdState where
  a : UInt32
  b : UInt32
  c : UInt32
  d : UInt32
  e : UInt32

/-- One of the two lines: in which order it reads the words of a block, how far each round rotates,
the constant of each group of sixteen rounds and the mixing function of each group. -/
structure RipemdLine where
  order : List Nat
  rotations : List UInt32
  constant : Nat → UInt32
  mixing : Nat → Nat

namespace RipemdLine

/-- The left line. -/
def left : RipemdLine where
  order :=
    [0, 1, 2, 3, 4, 5, 6, 7, 8, 9, 10, 11, 12, 13, 14, 15,
      7, 4, 13, 1, 10, 6, 15, 3, 12, 0, 9, 5, 2, 14, 11, 8,
      3, 10, 14, 4, 9, 15, 8, 1, 2, 7, 0, 6, 13, 11, 5, 12,
      1, 9, 11, 10, 0, 8, 12, 4, 13, 3, 7, 15, 14, 5, 6, 2,
      4, 0, 5, 9, 7, 12, 2, 10, 14, 1, 3, 8, 11, 6, 15, 13]
  rotations :=
    [11, 14, 15, 12, 5, 8, 7, 9, 11, 13, 14, 15, 6, 7, 9, 8,
      7, 6, 8, 13, 11, 9, 7, 15, 7, 12, 15, 9, 11, 7, 13, 12,
      11, 13, 6, 7, 14, 9, 13, 15, 14, 8, 13, 6, 5, 12, 7, 5,
      11, 12, 14, 15, 14, 15, 9, 8, 9, 14, 5, 6, 8, 6, 5, 12,
      9, 15, 5, 11, 6, 8, 13, 12, 5, 12, 13, 14, 11, 8, 5, 6]
  constant
    | 0 => 0
    | 1 => 0x5a827999
    | 2 => 0x6ed9eba1
    | 3 => 0x8f1bbcdc
    | _ => 0xa953fd4e
  mixing group := group

/-- The right line. -/
def right : RipemdLine where
  order :=
    [5, 14, 7, 0, 9, 2, 11, 4, 13, 6, 15, 8, 1, 10, 3, 12,
      6, 11, 3, 7, 0, 13, 5, 10, 14, 15, 8, 12, 4, 9, 1, 2,
      15, 5, 1, 3, 7, 14, 6, 9, 11, 8, 12, 2, 10, 0, 4, 13,
      8, 6, 4, 1, 3, 11, 15, 0, 5, 12, 2, 13, 9, 7, 10, 14,
      12, 15, 10, 4, 1, 5, 8, 7, 6, 2, 13, 14, 0, 3, 9, 11]
  rotations :=
    [8, 9, 9, 11, 13, 15, 15, 5, 7, 7, 8, 11, 14, 14, 12, 6,
      9, 13, 15, 7, 12, 8, 9, 11, 7, 7, 12, 7, 6, 15, 13, 11,
      9, 7, 15, 11, 8, 6, 6, 14, 12, 13, 5, 14, 13, 13, 7, 5,
      15, 5, 8, 11, 14, 14, 6, 14, 6, 9, 12, 9, 12, 5, 15, 8,
      8, 5, 12, 9, 12, 5, 14, 6, 8, 13, 6, 5, 15, 13, 11, 11]
  constant
    | 0 => 0x50a28be6
    | 1 => 0x5c4dd124
    | 2 => 0x6d703ef3
    | 3 => 0x7a6d76e9
    | _ => 0
  -- The right line takes the mixing functions in the opposite order.
  mixing group := 4 - group

end RipemdLine

namespace RipemdState

/-- The state before the first block. -/
def start : RipemdState := ⟨0x67452301, 0xefcdab89, 0x98badcfe, 0x10325476, 0xc3d2e1f0⟩

/-- The five functions that mix three words. -/
def mix (which : Nat) (x y z : UInt32) : UInt32 :=
  match which with
  | 0 => x ^^^ y ^^^ z
  | 1 => (x &&& y) ||| (~~~x &&& z)
  | 2 => (x ||| ~~~y) ^^^ z
  | 3 => (x &&& z) ||| (y &&& ~~~z)
  | _ => x ^^^ (y ||| ~~~z)

/-- Round number `i` of a line, with its word of the block and its rotation. -/
def round (line : RipemdLine) (s : RipemdState) (word rotation : UInt32) (i : Nat) : RipemdState :=
  let mixed := s.a + mix (line.mixing (i / 16)) s.b s.c s.d + word + line.constant (i / 16)
  ⟨s.e, rotateLeft mixed rotation + s.e, s.b, rotateLeft s.c 10, s.d⟩

/-- The state at the end of a line. -/
def run (line : RipemdLine) (block : List UInt32) (s : RipemdState) : RipemdState :=
  ((line.order.zip line.rotations).zipIdx).foldl
    (fun t step => round line t (block.getD step.1.1 0) step.1.2 step.2) s

/-- The state after one more block. -/
def absorb (s : RipemdState) (block : List UInt32) : RipemdState :=
  let l := run .left block s
  let r := run .right block s
  ⟨s.b + l.c + r.d, s.c + l.d + r.e, s.d + l.e + r.a, s.e + l.a + r.b, s.a + l.b + r.c⟩

/-- The words of a state in order. -/
def words (s : RipemdState) : List UInt32 := [s.a, s.b, s.c, s.d, s.e]

end RipemdState

/-- The RIPEMD-160 digest of a message. -/
def ripemd160 (message : Bytes) : Bytes :=
  bytesLE ((blocksLE message).foldl RipemdState.absorb RipemdState.start).words

/-- A digest has twenty bytes. -/
@[simp] theorem length_ripemd160 (message : Bytes) : (ripemd160 message).length = 20 := by
  simp [ripemd160, RipemdState.words]

end ScriptSpend.Digest
