import ScriptSpend.Proofs.Spelling
import ScriptSpend.Proofs.WireRoundTrip

/-!
# Reading back assembly text

Every script that some text or some bytes write is read back from its own text, chunk by chunk, so
the written text is a canonical form of all texts that are read alike.

## Main results

* `Script.wellFormed_of_ofAssembly`: a script that a text writes is well formed
* `Script.ofAssembly_toAssembly_iff`: a script is read back from its text if it is well formed
* `Script.assembly_lossless`: which scripts their text and their bytes give back
-/

namespace ScriptSpend

namespace Script

variable {script : Script} {words : List String} {index : Nat}

section WellFormed

theorem payload_ne_nil {digits : List Char} {data : Bytes} (present : digits ≠ [])
    (decoded : Hex.decode digits = some data) : data ≠ [] := by
  rintro rfl
  match digits with
  | [] => exact present rfl
  | [_] => cases decoded
  | high :: low :: rest =>
    rw [Hex.decode] at decoded
    split at decoded <;> cases decoded

/-- A chunk that a word writes is well formed unless the word is empty. -/
theorem wellFormed_of_chunkOfWord {word : String} {chunk : Chunk} (nonempty : word ≠ "")
    (read : chunkOfWord word = .ok chunk) : chunk.WellFormed := by
  unfold chunkOfWord at read
  split at read
  · cases read
    exact Chunk.wellFormed_ofOpcode rfl
  · split at read
    · cases read
      exact Chunk.wellFormed_ofOpcode rfl
    · split at read
      · cases read
      · rename_i data found
        split at read
        · cases read
        · rename_i counts
          cases read
          have counted : data.length < 256 ^ 4 := by
            rw [show capacity .pushData4 = 256 ^ 4 - 1 from rfl] at counts
            omega
          refine Chunk.wellFormed_direct ?_ counted
          unfold payloadOfWord at found
          dsimp only at found
          split at found
          · cases found
          · rename_i decoded
            cases found
            refine payload_ne_nil ?_ decoded
            split
            · exact fun empty => nonempty (String.toList_eq_nil_iff.mp empty)
            · exact List.cons_ne_nil _ _

/-- A push that its mnemonic, length and payload write is well formed. -/
theorem wellFormed_of_declaredPush {op : Opcode} {name declared : String} {data : Bytes}
    {chunk : Chunk} (named : Opcode.ofMnemonic? name = some op)
    (push : (op.isPush && op != .zero) = true)
    (read : declaredPush op name index declared data = .ok chunk) : chunk.WellFormed := by
  obtain ⟨-, short, rfl⟩ := declaredPush_eq_ok_iff.mp read
  have large : Opcode.firstNamed ≤ op.toNat := by
    rcases Opcode.ofMnemonic?_cases named with rfl | large
    · cases push
    · exact large
  rcases Opcode.exists_lengthWidth?_succ op push large with field | field | field <;>
  · rw [capacity, field] at short
    exact Chunk.wellFormed_of_length_lt field (Nat.lt_of_le_of_lt short (by decide))

/-- A script that words write is well formed if no word is empty. -/
theorem wellFormed_of_ofWords (nonempty : ∀ word ∈ words, word ≠ "")
    (read : ofWords index words = .ok script) : script.WellFormed := by
  -- The cases are those of the reader: the end, another word, a push without words behind it, one
  -- of length zero, one that misses or garbles its payload, a whole push, and a bare name.
  fun_induction ofWords index words generalizing script with
  | case1 =>
    cases read
    simp [WellFormed]
  | case2 index word rest unnamed ih =>
    obtain ⟨first, later, ofWord, ofRest, rfl⟩ := consChunk_eq_ok read
    exact wellFormed_cons (wellFormed_of_chunkOfWord (nonempty word (by simp)) ofWord)
      (ih (fun w listed => nonempty w (by simp [listed])) ofRest)
  | case3 => cases read
  | case4 index word op named push rest ih =>
    obtain ⟨first, later, ofPush, ofRest, rfl⟩ := consChunk_eq_ok read
    exact wellFormed_cons (wellFormed_of_declaredPush named push ofPush)
      (ih (fun w listed => nonempty w (by simp [listed])) ofRest)
  | case5 => cases read
  | case6 => cases read
  | case7 index word op named push declared positive payload rest data ofPayload ih =>
    obtain ⟨first, later, ofPush, ofRest, rfl⟩ := consChunk_eq_ok read
    exact wellFormed_cons (wellFormed_of_declaredPush named push ofPush)
      (ih (fun w listed => nonempty w (by simp [listed])) ofRest)
  | case8 index word rest op named bare ih =>
    obtain ⟨first, later, ofOpcode, ofRest, rfl⟩ := consChunk_eq_ok read
    cases ofOpcode
    exact wellFormed_cons
      (Chunk.wellFormed_ofOpcode (Opcode.lengthWidth?_of_bare op (Bool.eq_false_iff.mpr bare)))
      (ih (fun w listed => nonempty w (by simp [listed])) ofRest)

/-- A script that a text writes is well formed. -/
theorem wellFormed_of_ofAssembly {text : String} (read : ofAssembly text = .ok script) :
    script.WellFormed := by
  refine wellFormed_of_ofWords (fun word listed => ?_) read
  obtain ⟨part, found, rfl⟩ := List.mem_map.mp listed
  intro empty
  exact (mem_words found).1 (by simpa using congrArg String.toList empty)

end WellFormed

section RoundTrip

/-- The words of a script's text are those of its chunks. -/
theorem words_toAssembly (script : Script) :
    ScriptSpend.words script.toAssembly.toList =
      script.flatMap fun chunk => ScriptSpend.words chunk.toAssembly.toList := by
  rw [toAssembly, String.toList_intercalate, show " ".toList = [' '] from rfl, words_intercalate,
    List.map_map, List.flatMap_map]
  rfl

theorem ofWords_toAssembly (wellFormed : script.WellFormed) :
    ofWords index ((script.flatMap fun chunk =>
      ScriptSpend.words chunk.toAssembly.toList).map String.ofList) = .ok script := by
  induction script generalizing index with
  | nil => rfl
  | cons chunk script ih =>
    obtain ⟨spelling, spelled, text⟩ := Chunk.exists_spelling (wellFormed chunk (by simp))
    have parts : (ScriptSpend.words chunk.toAssembly.toList).map String.ofList = spelling := by
      rw [text, words_intercalate_of_visible spelled.visible, List.map_map]
      simp [Function.comp_def]
    rw [List.flatMap_cons, List.map_append, parts, spelled.ofWords_append,
      ih fun later listed => wellFormed later (by simp [listed])]
    rfl

/-- A script is read back from its own text if and only if it is well formed. -/
theorem ofAssembly_toAssembly_iff :
    ofAssembly script.toAssembly = .ok script ↔ script.WellFormed := by
  constructor
  · exact wellFormed_of_ofAssembly
  · intro wellFormed
    rw [ofAssembly, words_toAssembly, ofWords_toAssembly wellFormed]

/-- A script is read from some text if and only if it is well formed. -/
theorem exists_ofAssembly_iff : (∃ text, ofAssembly text = .ok script) ↔ script.WellFormed := by
  constructor
  · rintro ⟨text, read⟩
    exact wellFormed_of_ofAssembly read
  · intro wellFormed
    exact ⟨_, ofAssembly_toAssembly_iff.mpr wellFormed⟩

/-- What was read is read again from the text that it is written as. -/
theorem ofAssembly_toAssembly_of_ofAssembly (text : String) :
    ((ofAssembly text).bind fun read => ofAssembly read.toAssembly) = ofAssembly text := by
  cases read : ofAssembly text with
  | error e => rfl
  | ok script => exact ofAssembly_toAssembly_iff.mpr (wellFormed_of_ofAssembly read)

/-- Assembly text loses nothing. The well-formed scripts are those that some bytes write, those that
some text writes, those read back from their own text and those read back from their own bytes.
Writing what was read is a canonical form: it is read as the same script, and texts have the same
one if and only if they are read alike. -/
theorem assembly_lossless (script : Script) (text other : String) :
    ((∃ bytes, ofWire bytes = .ok script) ↔ script.WellFormed) ∧
    ((∃ text, ofAssembly text = .ok script) ↔ script.WellFormed) ∧
    (ofAssembly script.toAssembly = .ok script ↔ script.WellFormed) ∧
    (ofWire script.toWire = .ok script ↔ script.WellFormed) ∧
    ((ofAssembly text).bind fun read => ofAssembly read.toAssembly) = ofAssembly text ∧
    ((ofAssembly text).map toAssembly = (ofAssembly other).map toAssembly ↔
      ofAssembly text = ofAssembly other) := by
  refine ⟨exists_ofWire_iff, exists_ofAssembly_iff, ofAssembly_toAssembly_iff, ?_, ?_, ?_⟩
  · rw [ofWire_eq_ok_iff, and_iff_left rfl]
  · exact ofAssembly_toAssembly_of_ofAssembly text
  · constructor
    · intro alike
      -- Reading the canonical form again gives back what was read first.
      have again (text : String) : ((ofAssembly text).map toAssembly).bind ofAssembly =
          ofAssembly text := by
        refine Eq.trans ?_ (ofAssembly_toAssembly_of_ofAssembly text)
        cases ofAssembly text <;> rfl
      rw [← again text, alike, again other]
    · exact congrArg (Except.map toAssembly)

end RoundTrip

end Script

end ScriptSpend
