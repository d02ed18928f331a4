import Mathlib.Data.List.Nodup
import ScriptSpend.Proofs.NumberForm
import ScriptSpend.Script.Assembly

/-!
# Names of opcodes

No opcode shares its name with another, so a name that is written is read as the opcode it was
written for. Every name starts with the letter O, which is no hexadecimal digit, and holds no blank,
so a name is one word and cannot be taken for a payload or a number. The table of names is long; it
is evaluated on the UTF-8 bytes of the names, which are cheap to compare.

## Main results

* `Opcode.ofMnemonic?_displayName`: the name of a named opcode is read as that opcode
* `Opcode.ofMnemonic?_cases`: only the opcodes from `0x4c` on and the empty push have names
* `Opcode.spelling_of_mem_names`: a name starts with the letter O and holds no blank
* `Opcode.ofMnemonic?_eq_none`: a text that starts otherwise is no name
-/

namespace ScriptSpend

section Utf8

/-- The bytes that encode a text. -/
def utf8 (text : String) : Bytes := text.toByteArray.data.toList

theorem utf8_eq (text : String) : utf8 text = text.toList.flatMap String.utf8EncodeChar := by
  rw [utf8, ← String.utf8Encode_toList, List.utf8Encode, List.data_toByteArray]

/-- A character whose bytes are all below `0x80` is its own only byte. -/
theorem utf8EncodeChar_of_ascii {c : Char} (ascii : ∀ byte ∈ String.utf8EncodeChar c, byte < 0x80) :
    String.utf8EncodeChar c = [UInt8.ofNat c.toNat] ∧ c.toNat < 0x80 := by
  have leading {n : Nat} (high : 0x80 ≤ n % 256) : ¬ UInt8.ofNat n < 0x80 := by
    rw [UInt8.lt_iff_toNat_lt, UInt8.toNat_ofNat']
    exact Nat.not_lt.mpr high
  have code : c.val.toNat = c.toNat := rfl
  unfold String.utf8EncodeChar at ascii ⊢
  dsimp only at ascii ⊢
  split at ascii
  · rename_i small
    rw [if_pos small]
    exact ⟨rfl, by omega⟩
  -- Each longer form starts with a byte that marks it.
  · split at ascii
    · exact absurd (ascii _ List.mem_cons_self) (leading (by omega))
    · split at ascii
      · exact absurd (ascii _ List.mem_cons_self) (leading (by omega))
      · exact absurd (ascii _ List.mem_cons_self) (leading (by omega))

end Utf8

namespace Opcode

variable {name : String} {op : Opcode}

section Tables

/-- Every text that is read as an opcode. -/
def names : List String := "OP_0" :: mnemonics ++ aliases.map Prod.fst

/-- The bytes of a name: visible ASCII characters, the first of them the letter O. -/
def isNameText (bytes : Bytes) : Bool :=
  bytes.head? == some 79 && bytes.all fun byte => 0x20 < byte && byte < 0x7f

theorem isNameText_names : (names.all fun name => isNameText (utf8 name)) = true := by
  decide +kernel

/-- Whether some numbers leave different remainders, none of which is marked yet. -/
def remaindersDiffer (modulus : Nat) : (marked : Nat) → List Nat → Bool
  | _, [] => true
  | marked, n :: rest =>
    !marked.testBit (n % modulus) &&
      remaindersDiffer modulus (marked ||| 1 <<< (n % modulus)) rest

/-- Numbers that leave different remainders are different. -/
theorem nodup_of_remaindersDiffer {modulus marked : Nat} {numbers : List Nat}
    (differ : remaindersDiffer modulus marked numbers = true) :
    numbers.Nodup ∧ ∀ n ∈ numbers, marked.testBit (n % modulus) = false := by
  induction numbers generalizing marked with
  | nil => exact ⟨List.nodup_nil, fun _ listed => absurd listed List.not_mem_nil⟩
  | cons n rest ih =>
    simp only [remaindersDiffer, Bool.and_eq_true, Bool.not_eq_true'] at differ
    obtain ⟨unmarked, differ⟩ := differ
    obtain ⟨distinct, others⟩ := ih differ
    -- The remainder of `n` is marked when the others are tested, so none of them leaves it.
    have apart : ∀ m ∈ rest, marked.testBit (m % modulus) = false ∧ n % modulus ≠ m % modulus := by
      intro m listed
      have other := others m listed
      rw [Nat.testBit_or, Bool.or_eq_false_iff, Nat.testBit_shiftLeft] at other
      refine ⟨other.1, fun same => ?_⟩
      simp [same] at other
    refine ⟨List.nodup_cons.mpr ⟨fun listed => (apart n listed).2 rfl, distinct⟩, ?_⟩
    intro m listed
    rcases List.mem_cons.mp listed with rfl | listed
    · exact unmarked
    · exact (apart m listed).1

/-- The names that are written, each as one number. -/
theorem nodup_numerals :
    (("OP_0" :: mnemonics).map fun name => Bytes.toNatLE (utf8 name)).Nodup := by
  -- Two numbers are compared in one step, two texts in many. This modulus, the smallest that tells
  -- all of them apart, spares comparing each pair.
  have differ : remaindersDiffer 3157 0
      (("OP_0" :: mnemonics).map fun name => Bytes.toNatLE (utf8 name)) = true := by decide +kernel
  exact (nodup_of_remaindersDiffer differ).1

theorem nodup_mnemonics : ("OP_0" :: mnemonics).Nodup := nodup_numerals.of_map _

/-- A text that is read as an opcode is one of the names. -/
theorem mem_names_of_ofMnemonic? (named : ofMnemonic? name = some op) : name ∈ names := by
  rw [names, List.cons_append, List.mem_cons, List.mem_append, List.mem_map]
  unfold ofMnemonic? at named
  split at named
  · exact .inl ‹_›
  · split at named
    · rename_i found
      obtain ⟨bound, here, -⟩ := List.idxOf?_eq_some_iff.mp found
      exact .inr (.inl (here ▸ List.getElem_mem bound))
    · obtain ⟨before, after, listed, -⟩ := List.lookup_eq_some_iff.mp named
      exact .inr (.inr ⟨(name, op), by rw [listed]; simp, rfl⟩)

end Tables

section Reading

/-- An opcode has a name if it is at least `0x4c`. -/
theorem exists_mnemonic (large : firstNamed ≤ op.toNat) :
    ∃ bound : op.toNat - firstNamed < mnemonics.length,
      op.displayName = mnemonics[op.toNat - firstNamed] := by
  have below := op.toNat_lt
  have bound : op.toNat - firstNamed < mnemonics.length := by
    rw [length_mnemonics]
    rw [firstNamed] at large ⊢
    omega
  have positive : op ≠ zero := by
    rintro rfl
    exact absurd large (by decide)
  refine ⟨bound, ?_⟩
  rw [displayName, mnemonic?, if_neg positive, if_neg (Nat.not_lt.mpr large),
    List.getElem?_eq_getElem bound]

/-- The name of a named opcode is read as that opcode. -/
theorem ofMnemonic?_displayName (named : op = zero ∨ firstNamed ≤ op.toNat) :
    ofMnemonic? op.displayName = some op := by
  rcases named with rfl | large
  · rfl
  · obtain ⟨bound, name⟩ := exists_mnemonic large
    have distinct := List.nodup_cons.mp nodup_mnemonics
    have index : mnemonics.idxOf? op.displayName = some (op.toNat - firstNamed) := by
      rw [name, List.idxOf?_eq_some_iff]
      refine ⟨bound, rfl, fun j before same => ?_⟩
      exact absurd (distinct.2.getElem_inj_iff.mp same) (by omega)
    have notZero : op.displayName ≠ "OP_0" := by
      intro same
      exact distinct.1 (same ▸ name ▸ List.getElem_mem bound)
    rw [ofMnemonic?, if_neg notZero, index]
    dsimp only
    rw [Nat.add_sub_cancel' large, UInt8.ofNat_toNat]

/-- Only the empty push and the opcodes from `0x4c` on have names. -/
theorem ofMnemonic?_cases (named : ofMnemonic? name = some op) :
    op = zero ∨ firstNamed ≤ op.toNat := by
  unfold ofMnemonic? at named
  split at named
  · exact .inl (Option.some.inj named).symm
  · split at named
    · rename_i i found
      obtain ⟨bound, -⟩ := List.idxOf?_eq_some_iff.mp found
      rw [length_mnemonics] at bound
      cases named
      right
      rw [UInt8.toNat_ofNat_of_lt' (by rw [UInt8.size, firstNamed]; omega)]
      exact Nat.le_add_right _ _
    · obtain ⟨before, after, listed, -⟩ := List.lookup_eq_some_iff.mp named
      have known : ∀ entry ∈ aliases, entry.2 = zero ∨ firstNamed ≤ entry.2.toNat := by decide
      exact known (name, op) (by rw [listed]; simp)

end Reading

section Spelling

/-- A name starts with the letter O and holds no blank. -/
theorem spelling_of_mem_names (known : name ∈ names) :
    (∃ rest, name.toList = 'O' :: rest) ∧ ∀ c ∈ name.toList, isBlank c = false := by
  have encoded := List.all_eq_true.mp isNameText_names name known
  rw [isNameText, Bool.and_eq_true, beq_iff_eq, List.all_eq_true, utf8_eq] at encoded
  obtain ⟨first, shown⟩ := encoded
  -- What is known of the bytes carries over to the characters, which are one byte each.
  have visible : ∀ c ∈ name.toList,
      String.utf8EncodeChar c = [UInt8.ofNat c.toNat] ∧ 0x20 < c.toNat ∧ c.toNat < 0x7f := by
    intro c occurs
    have bytes : ∀ byte ∈ String.utf8EncodeChar c, 0x20 < byte.toNat ∧ byte.toNat < 0x7f := by
      intro byte encodes
      have := shown byte (List.mem_flatMap.mpr ⟨c, occurs, encodes⟩)
      simpa [UInt8.lt_iff_toNat_lt] using this
    obtain ⟨single, ascii⟩ := utf8EncodeChar_of_ascii fun byte encodes => by
      rw [UInt8.lt_iff_toNat_lt]
      exact Nat.lt_trans (bytes byte encodes).2 (by decide)
    refine ⟨single, ?_⟩
    have own := bytes (UInt8.ofNat c.toNat) (by rw [single]; exact List.mem_singleton_self _)
    rwa [UInt8.toNat_ofNat_of_lt' (Nat.lt_trans ascii (by decide))] at own
  constructor
  · cases spelled : name.toList with
    | nil => rw [spelled] at first; cases first
    | cons c rest =>
      obtain ⟨single, -, small⟩ := visible c (by rw [spelled]; exact List.mem_cons_self)
      rw [spelled, List.flatMap_cons, single] at first
      have code : c.toNat = 79 := by
        have := congrArg (Option.map UInt8.toNat) first
        simpa [Nat.mod_eq_of_lt (Nat.lt_trans small (by decide) : c.toNat < 256)] using this
      exact ⟨rest, by rw [show c = 'O' from Char.toNat_inj.mp code]⟩
  · intro c occurs
    obtain ⟨-, low, high⟩ := visible c occurs
    simp only [isBlank, Bool.or_eq_false_iff, Bool.and_eq_false_iff, decide_eq_false_iff_not,
      beq_eq_false_iff_ne]
    omega

/-- A text that does not start with the letter O is no name. -/
theorem ofMnemonic?_eq_none (other : name.toList.head? ≠ some 'O') : ofMnemonic? name = none := by
  cases named : ofMnemonic? name with
  | none => rfl
  | some op =>
    obtain ⟨⟨rest, spelled⟩, -⟩ := spelling_of_mem_names (mem_names_of_ofMnemonic? named)
    exact absurd (by rw [spelled]; rfl) other

/-- A text of hexadecimal digits is no name. -/
theorem ofMnemonic?_eq_none_of_decode {data : Bytes}
    (decoded : Hex.decode name.toList = some data) : ofMnemonic? name = none := by
  apply ofMnemonic?_eq_none
  intro first
  obtain ⟨rest, spelled⟩ := List.head?_eq_some_iff.mp first
  rw [spelled] at decoded
  cases rest <;> simp [Hex.decode, Hex.value?] at decoded

end Spelling

end Opcode

end ScriptSpend
