import ScriptSpend.Opcode

/-!
# Mnemonics

Every opcode has a name except the pushes `0x01` to `0x4b`, whose payload stands for them in
assembly text. Four opcodes have a second name, which is read but never written.
-/

namespace ScriptSpend.Opcode

/-- The opcode of the first name in `mnemonics`. -/
def firstNamed : Nat := 0x4c

/-- The names of the opcodes from `0x4c` to `0xff`, in order. -/
def mnemonics : List String :=
  ["OP_PUSHDATA1", "OP_PUSHDATA2", "OP_PUSHDATA4", "OP_1NEGATE", "OP_RESERVED"]
  ++ (List.range 16).map (fun i => "OP_" ++ toString (i + 1))
  ++ ["OP_NOP", "OP_VER", "OP_IF", "OP_NOTIF", "OP_VERIF", "OP_VERNOTIF", "OP_ELSE", "OP_ENDIF",
    "OP_VERIFY", "OP_RETURN", "OP_TOALTSTACK", "OP_FROMALTSTACK", "OP_2DROP", "OP_2DUP", "OP_3DUP",
    "OP_2OVER", "OP_2ROT", "OP_2SWAP", "OP_IFDUP", "OP_DEPTH", "OP_DROP", "OP_DUP", "OP_NIP",
    "OP_OVER", "OP_PICK", "OP_ROLL", "OP_ROT", "OP_SWAP", "OP_TUCK", "OP_CAT", "OP_SPLIT",
    "OP_NUM2BIN", "OP_BIN2NUM", "OP_SIZE", "OP_INVERT", "OP_AND", "OP_OR", "OP_XOR", "OP_EQUAL",
    "OP_EQUALVERIFY", "OP_RESERVED1", "OP_RESERVED2", "OP_1ADD", "OP_1SUB", "OP_2MUL", "OP_2DIV",
    "OP_NEGATE", "OP_ABS", "OP_NOT", "OP_0NOTEQUAL", "OP_ADD", "OP_SUB", "OP_MUL", "OP_DIV",
    "OP_MOD", "OP_LSHIFT", "OP_RSHIFT", "OP_BOOLAND", "OP_BOOLOR", "OP_NUMEQUAL",
    "OP_NUMEQUALVERIFY", "OP_NUMNOTEQUAL", "OP_LESSTHAN", "OP_GREATERTHAN", "OP_LESSTHANOREQUAL",
    "OP_GREATERTHANOREQUAL", "OP_MIN", "OP_MAX", "OP_WITHIN", "OP_RIPEMD160", "OP_SHA1",
    "OP_SHA256", "OP_HASH160", "OP_HASH256", "OP_CODESEPARATOR", "OP_CHECKSIG", "OP_CHECKSIGVERIFY",
    "OP_CHECKMULTISIG", "OP_CHECKMULTISIGVERIFY"]
  ++ (List.range 73).map (fun i => "OP_NOP" ++ toString (i + 1))
  ++ ["OP_SMALLDATA", "OP_SMALLINTEGER", "OP_PUBKEYS", "OP_NOP77", "OP_PUBKEYHASH", "OP_PUBKEY",
    "OP_INVALIDOPCODE"]

/-- Second names, read but never written. -/
def aliases : List (String × Opcode) :=
  [("OP_FALSE", zero), ("OP_TRUE", one), ("OP_CHECKLOCKTIMEVERIFY", 0xb1),
    ("OP_CHECKSEQUENCEVERIFY", 0xb2)]

/-- The name of an opcode; the pushes `0x01` to `0x4b` have none. -/
def mnemonic? (op : Opcode) : Option String :=
  if op = zero then some "OP_0"
  else if op.toNat < firstNamed then none
  else mnemonics[op.toNat - firstNamed]?

/-- The opcode with a given first or second name. -/
def ofMnemonic? (name : String) : Option Opcode :=
  if name = "OP_0" then some zero
  else
    match mnemonics.idxOf? name with
    | some i => some (UInt8.ofNat (firstNamed + i))
    | none => aliases.lookup name

/-- The name of an opcode in diagnostics, where a push is named after its length. -/
def displayName (op : Opcode) : String :=
  match mnemonic? op with
  | some name => name
  | none => "OP_PUSHBYTES_" ++ toString op.toNat

/-- Every opcode from `0x4c` on is named. -/
theorem length_mnemonics : mnemonics.length = 180 := by decide +kernel

end ScriptSpend.Opcode
