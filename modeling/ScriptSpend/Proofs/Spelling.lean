import ScriptSpend.Proofs.Mnemonics
import ScriptSpend.Proofs.WellFormedChunks

/-!
# How chunks are spelled

A chunk is written as one, two or three words. The reader tells the forms apart: a name starts with
a letter that is no hexadecimal digit, a payload has an even number of digits, and `0` and `-1` are
neither. So a well-formed chunk is read from the words of its text, whatever words follow.

## Main definitions

* `Chunk.Spelling`: the ways to write a chunk as words

## Main results

* `words_intercalate`: joining with spaces and cutting into words are inverse
* `Chunk.exists_spelling`: the text of a well-formed chunk spells it
* `Chunk.Spelling.ofWords_append`: a chunk is read from its spelling
-/

namespace ScriptSpend

section Words

variable {c : Char} {part text rest : List Char}

theorem wordsFrom_append_blank (blank : isBlank c = true) :
    wordsFrom part (text ++ c :: rest) = wordsFrom part text ++ words rest := by
  induction text generalizing part with
  | nil =>
    rw [List.nil_append]
    simp only [wordsFrom, blank, if_true, words]
    split <;> rfl
  | cons d text ih =>
    simp only [List.cons_append, wordsFrom, ih]
    split
    · split <;> simp
    · rfl

/-- The words of parts that are joined with spaces are the words of the parts. -/
theorem words_intercalate (parts : List (List Char)) :
    words ([' '].intercalate parts) = parts.flatMap words := by
  -- The last part has no space behind it, so the induction looks one part ahead.
  induction parts with
  | nil => rfl
  | cons part parts ih =>
    cases parts with
    | nil => simp [List.intercalate]
    | cons next parts =>
      rw [List.intercalate_cons_cons, List.append_assoc, List.singleton_append, words,
        wordsFrom_append_blank rfl, ih]
      rfl

/-- Parts that are words themselves are found again after they were joined with spaces. -/
theorem words_intercalate_of_visible {parts : List (List Char)}
    (visible : ∀ part ∈ parts, part ≠ [] ∧ ∀ c ∈ part, isBlank c = false) :
    words ([' '].intercalate parts) = parts := by
  rw [words_intercalate]
  induction parts with
  | nil => rfl
  | cons part parts ih =>
    obtain ⟨nonempty, plain⟩ := visible part List.mem_cons_self
    rw [List.flatMap_cons, words_of_no_blank part plain nonempty,
      ih fun later listed => visible later (List.mem_cons_of_mem _ listed)]
    rfl

end Words

section Numerals

theorem Hex.length_digits (data : Bytes) : (Hex.digits data).length = 2 * data.length := by
  induction data with
  | nil => rfl
  | cons byte data ih =>
    rw [Hex.digits, List.flatMap_cons, List.length_append, ← Hex.digits, ih, List.length_cons,
      Nat.mul_succ, Nat.add_comm]
    rfl

theorem Hex.isBlank_of_mem_digits {data : Bytes} {c : Char} (occurs : c ∈ Hex.digits data) :
    isBlank c = false := by
  have visible : ∀ n < 16, isBlank (Hex.digit n) = false := by decide
  obtain ⟨byte, -, digit⟩ := List.mem_flatMap.mp occurs
  have small := byte.toNat_lt
  rcases List.mem_cons.mp digit with rfl | digit
  · exact visible _ (by omega)
  · rw [List.mem_singleton.mp digit]
    exact visible _ (by omega)

theorem isBlank_of_isDigit {c : Char} (digit : c.isDigit = true) : isBlank c = false := by
  obtain ⟨low, high⟩ : 48 ≤ c.toNat ∧ c.toNat ≤ 57 := Char.isDigit_iff_toNat.mp digit
  simp only [isBlank, Bool.or_eq_false_iff, Bool.and_eq_false_iff, decide_eq_false_iff_not,
    beq_eq_false_iff_ne]
  omega

theorem toList_toString (n : Nat) : (toString n).toList = Nat.toDigits 10 n := by
  rw [Nat.toString_eq_ofList_toDigits, String.toList_ofList]

theorem isDigit_of_mem_toString {n : Nat} {c : Char} (occurs : c ∈ (toString n).toList) :
    c.isDigit = true :=
  Nat.isDigit_of_mem_toDigits (by decide) (by decide) (toList_toString n ▸ occurs)

end Numerals

namespace Script

/-- A number in decimal is read as that number. -/
theorem declaredLength?_toString (n : Nat) : declaredLength? (toString n) = some n := by
  have value : (Nat.toDigits 10 n).foldl (fun m digit => 10 * m + (digit.toNat - 48)) 0 = n := by
    have read := @Nat.ofDigitChars_ten_toDigits n
    rwa [Nat.ofDigitChars_eq_foldl] at read
  have digits : ∀ c ∈ Nat.toDigits 10 n, c.isDigit = true := fun c occurs =>
    isDigit_of_mem_toString (toList_toString n ▸ occurs)
  unfold declaredLength?
  rw [toList_toString]
  cases written : Nat.toDigits 10 n with
  | nil => exact absurd written Nat.toDigits_ne_nil
  | cons c rest =>
    rw [written] at value digits
    -- A sign would be skipped, but a digit is none.
    have unsigned : c ≠ '+' := by
      rintro rfl
      exact absurd (digits '+' List.mem_cons_self) (by decide)
    split
    · rename_i signed
      exact absurd (List.cons.inj signed).1 unsigned
    · simp only [List.isEmpty_cons, List.all_eq_true.mpr digits, value]
      rfl

/-- A payload in hexadecimal is read as that payload. -/
theorem payloadOfWord_encode (data : Bytes) : payloadOfWord (Hex.encode data) = .ok data := by
  have even : (Hex.digits data).length % 2 = 0 := by
    rw [Hex.length_digits]
    omega
  simp [payloadOfWord, Hex.encode, even, Hex.decode_encode]

@[simp] theorem consChunk_ok (chunk : Chunk) (rest : Unit → Except ParseError Script) :
    consChunk (.ok chunk) rest = (rest ()).map (chunk :: ·) := by
  rw [consChunk]
  cases rest () <;> rfl

theorem consChunk_eq_ok {chunk : Except ParseError Chunk} {rest : Unit → Except ParseError Script}
    {script : Script} (read : consChunk chunk rest = .ok script) :
    ∃ first later, chunk = .ok first ∧ rest () = .ok later ∧ script = first :: later := by
  unfold consChunk at read
  split at read
  · cases read
  · split at read
    · cases read
    · rename_i first _ later found
      cases read
      exact ⟨first, later, rfl, found, rfl⟩

section Forms

variable {op : Opcode} {word declared payload name : String} {index : Nat} {rest : List String}
  {data : Bytes} {chunk : Chunk}

theorem declaredPush_eq_ok_iff :
    declaredPush op name index declared data = .ok chunk ↔
      declaredLength? declared = some data.length ∧ data.length ≤ capacity op ∧
        chunk = ⟨op, some data⟩ := by
  unfold declaredPush
  split
  · simp_all
  · split
    · simp_all
    · simp_all [eq_comm]

theorem ofWords_of_unnamed (unnamed : Opcode.ofMnemonic? word = none) :
    ofWords index (word :: rest) =
      consChunk (chunkOfWord word) fun _ => ofWords (index + 1) rest := by
  rw [ofWords, unnamed]

theorem ofWords_of_bare (named : Opcode.ofMnemonic? word = some op)
    (bare : (op.isPush && op != .zero) = false) :
    ofWords index (word :: rest) =
      consChunk (.ok (.ofOpcode op)) fun _ => ofWords (index + 1) rest := by
  rw [ofWords, named]
  simp only [bare, Bool.false_eq_true, if_false]

theorem ofWords_of_zero (named : Opcode.ofMnemonic? word = some op)
    (push : (op.isPush && op != .zero) = true) :
    ofWords index (word :: "0" :: rest) =
      consChunk (declaredPush op word index "0" []) fun _ => ofWords (index + 2) rest := by
  rw [ofWords, named]
  simp only [push, if_true]

theorem ofWords_of_payload (named : Opcode.ofMnemonic? word = some op)
    (push : (op.isPush && op != .zero) = true) (positive : declared ≠ "0")
    (read : payloadOfWord payload = .ok data) :
    ofWords index (word :: declared :: payload :: rest) =
      consChunk (declaredPush op word index declared data) fun _ => ofWords (index + 3) rest := by
  rw [ofWords, named]
  simp only [push, if_true, positive, if_false, read]

end Forms

end Script

namespace Opcode

variable {op : Opcode}

/-- The opcodes with a length field of their own. -/
theorem lengthWidth?_eq_some_succ {below : Nat} (field : lengthWidth? op = some (below + 1)) :
    op = pushData1 ∧ below = 0 ∨ op = pushData2 ∧ below = 1 ∨ op = pushData4 ∧ below = 3 := by
  unfold lengthWidth? at field
  grind

/-- The opcodes that are their own length field. -/
theorem toNat_of_lengthWidth?_eq_zero (op : Opcode) (field : lengthWidth? op = some 0) :
    0 < op.toNat ∧ op.toNat < 0x4c := by
  have between : op ≠ 0 ∧ op < 0x4c := by
    unfold lengthWidth? pushData1 at field
    grind
  have positive : 0 < op := UInt8.pos_iff_ne_zero.mpr between.1
  exact ⟨UInt8.lt_iff_toNat_lt.mp positive, UInt8.lt_iff_toNat_lt.mp between.2⟩

theorem isPush_of_succ {below : Nat} (field : lengthWidth? op = some (below + 1)) :
    (op.isPush && op != zero) = true ∧ firstNamed ≤ op.toNat := by
  rcases lengthWidth?_eq_some_succ field with ⟨rfl, -⟩ | ⟨rfl, -⟩ | ⟨rfl, -⟩ <;> decide

theorem pow_lengthWidth_le {below : Nat} (field : lengthWidth? op = some (below + 1)) :
    256 ^ (below + 1) ≤ 256 ^ 4 := by
  rcases lengthWidth?_eq_some_succ field with ⟨-, rfl⟩ | ⟨-, rfl⟩ | ⟨-, rfl⟩ <;> decide

/-- A named push other than the empty one has a length field of its own. -/
theorem exists_lengthWidth?_succ (op : Opcode) (push : (op.isPush && op != zero) = true)
    (large : firstNamed ≤ op.toNat) :
    lengthWidth? op = some 1 ∨ lengthWidth? op = some 2 ∨ lengthWidth? op = some 4 := by
  have large : 0x4c ≤ op := UInt8.le_iff_toNat_le.mpr large
  simp only [isPush, pushData4, zero, lengthWidth?, pushData1, pushData2] at push ⊢
  grind

theorem lengthWidth?_of_bare (op : Opcode) (bare : (op.isPush && op != zero) = false) :
    lengthWidth? op = none := by
  simp only [isPush, pushData4, zero, lengthWidth?, pushData1, pushData2] at bare ⊢
  grind

/-- An opcode that carries no payload has a name. -/
theorem named_of_not_isPush (op : Opcode) (bare : op.isPush = false) :
    firstNamed ≤ op.toNat := by
  have above : ¬op.toNat ≤ 0x4e := fun low =>
    decide_eq_false_iff_not.mp bare (UInt8.le_iff_toNat_le.mpr low)
  unfold firstNamed
  omega

end Opcode

namespace Chunk

variable {chunk : Chunk} {spelling : List String}

/-- The ways to write a chunk as words. -/
inductive Spelling : Chunk → List String → Prop
  | empty : Spelling (.ofOpcode .zero) ["0"]
  | minusOne : Spelling (.ofOpcode .minusOne) ["-1"]
  | named {op : Opcode} (bare : op.isPush = false) : Spelling (.ofOpcode op) [op.displayName]
  | data {data : Bytes} (present : data ≠ []) (counted : data.length < 256 ^ 4) :
    Spelling (.direct data) [Hex.encode data]
  | declaredEmpty {op : Opcode} {below : Nat} (field : Opcode.lengthWidth? op = some (below + 1)) :
    Spelling ⟨op, some []⟩ [op.displayName, "0"]
  | declared {op : Opcode} {below : Nat} {data : Bytes} (present : data ≠ [])
    (field : Opcode.lengthWidth? op = some (below + 1)) (short : data.length < 256 ^ (below + 1)) :
    Spelling ⟨op, some data⟩ [op.displayName, toString data.length, Hex.encode data]

section Writing

/-- The text of a well-formed chunk spells it, with a space between the words. -/
theorem exists_spelling (wellFormed : chunk.WellFormed) :
    ∃ spelling, Spelling chunk spelling ∧
      chunk.toAssembly.toList = [' '].intercalate (spelling.map String.toList) := by
  obtain ⟨op, payload⟩ := chunk
  cases payload with
  | none =>
    rcases wellFormed_cases wellFormed with ⟨bare, -⟩ | ⟨width, data, -, present⟩
    · by_cases zero : op = .zero
      · subst zero
        exact ⟨_, .empty, rfl⟩
      · by_cases minusOne : op = .minusOne
        · subst minusOne
          exact ⟨_, .minusOne, rfl⟩
        · have notPush : op.isPush = false :=
            Bool.eq_false_iff.mpr fun push => zero (eq_zero_of_isPush op push bare)
          exact ⟨_, .named notPush, by simp [toAssembly, zero, minusOne, List.intercalate]⟩
    · cases present
  | some data =>
    have cases := wellFormed_payload wellFormed
    by_cases typical : op = .pushing data.length
    · subst typical
      have present : data ≠ [] := by
        rintro rfl
        rcases cases with ⟨field, -⟩ | ⟨below, field, -⟩ <;> cases field
      have counted : data.length < 256 ^ 4 := by
        rcases cases with ⟨field, length⟩ | ⟨below, field, short⟩
        · have := (Opcode.toNat_of_lengthWidth?_eq_zero _ field).2
          omega
        · exact Nat.lt_of_lt_of_le short (Opcode.pow_lengthWidth_le field)
      exact ⟨_, .data present counted, by simp [toAssembly, List.intercalate]⟩
    · rcases cases with ⟨field, length⟩ | ⟨below, field, short⟩
      · -- An opcode that is its own length is the one that the length asks for.
        have small := (Opcode.toNat_of_lengthWidth?_eq_zero _ field).2
        exact absurd (by rw [Opcode.pushing, length, if_pos small, UInt8.ofNat_toNat]) typical
      · by_cases present : data = []
        · subst present
          rw [List.length_nil] at typical
          exact ⟨_, .declaredEmpty field, by simp [toAssembly, typical, List.intercalate]⟩
        · exact ⟨_, .declared present field short, by
            simp [toAssembly, typical, present, List.intercalate]⟩

theorem encode_visible {data : Bytes} (present : data ≠ []) :
    (Hex.encode data).toList ≠ [] ∧ ∀ c ∈ (Hex.encode data).toList, isBlank c = false := by
  rw [Hex.encode, String.toList_ofList]
  refine ⟨fun empty => present ?_, fun c => Hex.isBlank_of_mem_digits⟩
  have length := Hex.length_digits data
  rw [empty] at length
  exact List.length_eq_zero_iff.mp (by simpa using length.symm)

theorem displayName_visible {op : Opcode} (named : Opcode.firstNamed ≤ op.toNat) :
    op.displayName.toList ≠ [] ∧ ∀ c ∈ op.displayName.toList, isBlank c = false := by
  have read := Opcode.ofMnemonic?_displayName (.inr named)
  obtain ⟨⟨rest, spelled⟩, plain⟩ :=
    Opcode.spelling_of_mem_names (Opcode.mem_names_of_ofMnemonic? read)
  exact ⟨by simp [spelled], plain⟩

theorem toString_visible (n : Nat) :
    (toString n).toList ≠ [] ∧ ∀ c ∈ (toString n).toList, isBlank c = false :=
  ⟨by simp, fun _ occurs => isBlank_of_isDigit (isDigit_of_mem_toString occurs)⟩

/-- The words of a spelling are not empty and hold no blank. -/
theorem Spelling.visible (spelled : Spelling chunk spelling) :
    ∀ word ∈ spelling.map String.toList, word ≠ [] ∧ ∀ c ∈ word, isBlank c = false := by
  cases spelled with
  | empty => simp [isBlank]
  | minusOne => simp [isBlank]
  | named bare => simpa using displayName_visible (Opcode.named_of_not_isPush _ bare)
  | data present => simpa using encode_visible present
  | declaredEmpty field =>
    have name := displayName_visible (Opcode.isPush_of_succ field).2
    simpa using And.intro name (by decide)
  | @declared op below data present field short =>
    have name := displayName_visible (Opcode.isPush_of_succ field).2
    have length := toString_visible data.length
    have payload := encode_visible present
    simp only [List.map_cons, List.map_nil, List.forall_mem_cons]
    exact ⟨name, length, payload, by simp⟩

end Writing

section Reading

/-- A chunk is read from its spelling, whatever follows. -/
theorem Spelling.ofWords_append (spelled : Spelling chunk spelling) (index : Nat)
    (rest : List String) :
    Script.ofWords index (spelling ++ rest) =
      (Script.ofWords (index + spelling.length) rest).map (chunk :: ·) := by
  have zero : Script.declaredLength? "0" = some 0 := Script.declaredLength?_toString 0
  cases spelled with
  | empty =>
    have unnamed : Opcode.ofMnemonic? "0" = none := Opcode.ofMnemonic?_eq_none (by decide)
    exact (Script.ofWords_of_unnamed unnamed).trans (Script.consChunk_ok _ _)
  | minusOne =>
    have unnamed : Opcode.ofMnemonic? "-1" = none := Opcode.ofMnemonic?_eq_none (by decide)
    exact (Script.ofWords_of_unnamed unnamed).trans (Script.consChunk_ok _ _)
  | named bare =>
    have read := Opcode.ofMnemonic?_displayName (.inr (Opcode.named_of_not_isPush _ bare))
    exact (Script.ofWords_of_bare read (by rw [bare]; rfl)).trans (Script.consChunk_ok _ _)
  | @data data present counted =>
    have decoded : Hex.decode (Hex.encode data).toList = some data := by
      rw [Hex.encode, String.toList_ofList, Hex.decode_encode]
    -- Neither of the two literals can be decoded.
    have notZero : Hex.encode data ≠ "0" := by
      intro same
      exact absurd (same ▸ decoded) nofun
    have notMinusOne : Hex.encode data ≠ "-1" := by
      intro same
      exact absurd (same ▸ decoded) nofun
    have counts : ¬ Script.capacity .pushData4 < data.length :=
      Nat.not_lt.mpr (Nat.le_pred_of_lt counted)
    have read : Script.chunkOfWord (Hex.encode data) = .ok (direct data) := by
      simp only [Script.chunkOfWord, notZero, notMinusOne, Script.payloadOfWord_encode, counts,
        if_false]
    rw [List.singleton_append,
      Script.ofWords_of_unnamed (Opcode.ofMnemonic?_eq_none_of_decode decoded), read,
      Script.consChunk_ok]
    rfl
  | @declaredEmpty op below field =>
    obtain ⟨push, named⟩ := Opcode.isPush_of_succ field
    have read : Script.declaredPush op op.displayName index "0" [] = .ok ⟨op, some []⟩ :=
      Script.declaredPush_eq_ok_iff.mpr ⟨zero, Nat.zero_le _, rfl⟩
    rw [List.cons_append, List.singleton_append,
      Script.ofWords_of_zero (Opcode.ofMnemonic?_displayName (.inr named)) push, read,
      Script.consChunk_ok]
    rfl
  | @declared op below data present field short =>
    obtain ⟨push, named⟩ := Opcode.isPush_of_succ field
    have length := Script.declaredLength?_toString data.length
    have positive : toString data.length ≠ "0" := by
      intro same
      rw [same, zero] at length
      exact present (List.length_eq_zero_iff.mp (Option.some.inj length).symm)
    have counts : data.length ≤ Script.capacity op := by
      rw [Script.capacity, field]
      exact Nat.le_pred_of_lt short
    have read : Script.declaredPush op op.displayName index (toString data.length) data =
        .ok ⟨op, some data⟩ := Script.declaredPush_eq_ok_iff.mpr ⟨length, counts, rfl⟩
    rw [List.cons_append, List.cons_append, List.singleton_append,
      Script.ofWords_of_payload (Opcode.ofMnemonic?_displayName (.inr named)) push positive
        (Script.payloadOfWord_encode data), read, Script.consChunk_ok]
    rfl

end Reading

end Chunk

end ScriptSpend
