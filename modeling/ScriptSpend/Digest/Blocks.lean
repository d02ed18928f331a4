import ScriptSpend.Bytes

/-!
# Messages as blocks of words

SHA-1, SHA-256 and RIPEMD-160 read a message in blocks of sixteen 32-bit words. The message is first
brought to a multiple of sixty-four bytes: a byte `0x80`, zeros, and the length of the message in
bits as eight bytes. The three differ in the order of bytes within a word and within that length.
-/

namespace ScriptSpend.Digest

/-- Rotates a word to the left. -/
def rotateLeft (word amount : UInt32) : UInt32 := (word <<< amount) ||| (word >>> (32 - amount))

/-- Rotates a word to the right. -/
def rotateRight (word amount : UInt32) : UInt32 := rotateLeft word (32 - amount)

/-- A message with its padding, where `lengthField` writes the length in bits. -/
def padded (lengthField : Nat → Bytes) (message : Bytes) : Bytes :=
  -- Modulo 64, the message and its mark are brought to 56, which leaves room for the length.
  message ++ 0x80 :: List.replicate ((119 - message.length % 64) % 64) 0
    ++ lengthField (8 * message.length)

/-- Every four bytes as a word, where `number` says in which order. -/
def wordsOf (number : Bytes → Nat) : Bytes → List UInt32
  | a :: b :: c :: d :: rest => UInt32.ofNat (number [a, b, c, d]) :: wordsOf number rest
  | _ => []

/-- Every sixteen words as a block. -/
def blocksOf (words : List UInt32) : List (List UInt32) :=
  if words.isEmpty then [] else words.take 16 :: blocksOf (words.drop 16)
  termination_by words.length
  decreasing_by
    cases words with
    | nil => simp_all
    | cons word rest => simp only [List.length_drop, List.length_cons]; omega

/-- The blocks of a message whose words and length are written with the most significant byte first.
-/
def blocksBE (message : Bytes) : List (List UInt32) :=
  blocksOf (wordsOf Bytes.toNatBE (padded (Bytes.ofNatBE 8) message))

/-- The blocks of a message whose words and length are written with the least significant byte
first. -/
def blocksLE (message : Bytes) : List (List UInt32) :=
  blocksOf (wordsOf Bytes.toNatLE (padded (Bytes.ofNatLE 8) message))

/-- Four bytes of each word, the most significant first. -/
def bytesBE (words : List UInt32) : Bytes := words.flatMap fun word => Bytes.ofNatBE 4 word.toNat

/-- Four bytes of each word, the least significant first. -/
def bytesLE (words : List UInt32) : Bytes := words.flatMap fun word => Bytes.ofNatLE 4 word.toNat

/-- The last words of a schedule, the newest first, extended `count` times by a rule on them. -/
def extend (rule : List UInt32 → UInt32) : Nat → List UInt32 → List UInt32
  | 0, newest => newest
  | count + 1, newest => extend rule count (rule newest :: newest)

/-- The schedule that starts with the words of a block and goes on by a rule on the words before. -/
def schedule (rule : List UInt32 → UInt32) (count : Nat) (block : List UInt32) : List UInt32 :=
  (extend rule count block.reverse).reverse

@[simp] theorem length_bytesBE (words : List UInt32) :
    (bytesBE words).length = 4 * words.length := by
  induction words with
  | nil => rfl
  | cons word rest ih => simp_all [bytesBE]; omega

@[simp] theorem length_bytesLE (words : List UInt32) :
    (bytesLE words).length = 4 * words.length := by
  induction words with
  | nil => rfl
  | cons word rest ih => simp_all [bytesLE]; omega

end ScriptSpend.Digest
