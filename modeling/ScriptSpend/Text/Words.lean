/-!
# Words

A text is cut into words at runs of blanks, which are the characters with the Unicode property
White_Space.

## Main results

* `words_of_no_blank`: a text without blanks is one word
* `mem_words`: words are not empty and hold no blank
-/

namespace ScriptSpend

/-- The characters with the Unicode property White_Space. -/
def isBlank (c : Char) : Bool :=
  let code := c.toNat
  (0x09 ≤ code && code ≤ 0x0d) || code == 0x20 || code == 0x85 || code == 0xa0 || code == 0x1680
    || (0x2000 ≤ code && code ≤ 0x200a) || code == 0x2028 || code == 0x2029 || code == 0x202f
    || code == 0x205f || code == 0x3000

/-- Cuts a text at its blanks, where `word` is the part of the current word that was read, in
reverse. -/
def wordsFrom (word : List Char) : List Char → List (List Char)
  | [] => if word.isEmpty then [] else [word.reverse]
  | c :: rest =>
    if isBlank c then
      if word.isEmpty then wordsFrom [] rest else word.reverse :: wordsFrom [] rest
    else wordsFrom (c :: word) rest

/-- The words of a text: its longest parts without blanks. -/
def words (text : List Char) : List (List Char) := wordsFrom [] text

theorem wordsFrom_of_no_blank (word text : List Char) (visible : ∀ c ∈ text, isBlank c = false)
    (nonempty : word ++ text ≠ []) : wordsFrom word text = [word.reverse ++ text] := by
  induction text generalizing word with
  | nil => simp_all [wordsFrom]
  | cons c rest ih =>
    have step := ih (c :: word) (fun d hd => visible d (List.mem_cons_of_mem _ hd)) (by simp)
    simp [wordsFrom, visible c List.mem_cons_self, step]

/-- A text without blanks is one word. -/
theorem words_of_no_blank (text : List Char) (visible : ∀ c ∈ text, isBlank c = false)
    (nonempty : text ≠ []) : words text = [text] := by
  simpa [words] using wordsFrom_of_no_blank [] text visible (by simpa using nonempty)

theorem mem_wordsFrom {part word text : List Char} (visible : ∀ c ∈ part, isBlank c = false)
    (found : word ∈ wordsFrom part text) : word ≠ [] ∧ ∀ c ∈ word, isBlank c = false := by
  induction text generalizing part with
  | nil =>
    cases part with
    | nil => simp [wordsFrom] at found
    | cons c part =>
      simp [wordsFrom] at found
      subst found
      exact ⟨by simp, fun d hd => visible d (by simpa [or_comm] using hd)⟩
  | cons c rest ih =>
    by_cases blank : isBlank c = true
    · cases part with
      | nil => exact @ih [] (by simp) (by simpa [wordsFrom, blank] using found)
      | cons d part =>
        have found : word = (d :: part).reverse ∨ word ∈ wordsFrom [] rest := by
          simpa [wordsFrom, blank] using found
        rcases found with rfl | found
        · exact ⟨by simp, fun e he => visible e (by simpa [or_comm] using he)⟩
        · exact @ih [] (by simp) found
    · refine @ih (c :: part) ?_ (by simpa [wordsFrom, blank] using found)
      intro d hd
      rcases List.mem_cons.mp hd with rfl | hd
      · simpa using blank
      · exact visible d hd

/-- Words are not empty and hold no blank. -/
theorem mem_words {word text : List Char} (found : word ∈ words text) :
    word ≠ [] ∧ ∀ c ∈ word, isBlank c = false :=
  mem_wordsFrom (by simp) found

end ScriptSpend
