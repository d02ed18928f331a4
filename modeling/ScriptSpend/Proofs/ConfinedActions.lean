import Mathlib.Algebra.Group.Nat.Defs
import ScriptSpend.Proofs.RunningActions
import ScriptSpend.Proofs.SignMagnitude

/-!
# Confined actions

Two bounds travel through a sequence of actions on a stack: one on the size of its items, which no
action may exceed, and one on their number, which every action raises or lowers by a fixed amount.
The second is needed for the first, since the number of items can itself be written on the stack. An
action that fails leaves no more items than there were, so that trying it again makes no difference.

## Main definitions

* `Within`: a stack keeps both bounds
* `Confined`: an action keeps the bound on the size of items, and changes their number by so much

## Main results

* `ScriptNumber.length_encode_le`: how many bytes a number takes
* `Confined.bind`: a sequence of actions is confined if its parts are
-/

namespace ScriptSpend

namespace ScriptNumber

variable {bytes : Bytes}

/-- A number takes no more bytes than its magnitude does, and one for the sign. -/
theorem length_encode_le {n : Int} {width : Nat} (small : n.natAbs < 256 ^ width) :
    (encode n).length ≤ width + 1 := by
  rw [length_encode_le_iff, Nat.pow_succ]
  omega

theorem length_ofBool_le (b : Bool) : (ofBool b).length ≤ 1 := by
  cases b <;> decide

/-- A widened number takes as many bytes as were asked for. -/
theorem length_widen {width : Nat} (fits : bytes.length ≤ width) :
    (widen width bytes).length = width := by
  unfold widen
  split
  · simp
  · rename_i top found
    have positive := length_pos_of_getLast? found
    simp only [List.length_append, List.length_dropLast, List.length_cons, List.length_replicate,
      Option.length_toList]
    split
    · omega
    · simp_all

end ScriptNumber

open StackAction

/-- Every item has at most so many bytes, and there are at most so many items. -/
structure Within (size : Nat) (height : Int) (stack : Stack) : Prop where
  items : ∀ item ∈ stack, item.length ≤ size
  height : (stack.length : Int) ≤ height

/-- An action that starts with items of at most `size` bytes, at most `top + rise` of them, leaves
items of at most `size` bytes. Where it fails there are at most `top` of them, and where it succeeds
at most `top + after`, and its value is as it should. In an operation `top` counts the items that it
finds, and `rise` and `after` tell how many more there are by then, or fewer if they are negative.
-/
def Confined {α : Type} (size : Nat) (top rise : Int) (action : StackAction α) (good : α → Prop)
    (after : Int) : Prop :=
  ∀ ⦃stack⦄, Within size (top + rise) stack →
    match action stack with
    | .ok value left => good value ∧ Within size (top + after) left
    | .error _ left => Within size top left

variable {α β : Type} {size : Nat} {top rise middle after : Int} {action : StackAction α}
  {good : α → Prop} {stack : Stack}

section Conditions

theorem Within.mono {lower higher : Int} (within : Within size lower stack)
    (less : lower ≤ higher) : Within size higher stack :=
  ⟨within.items, Int.le_trans within.height less⟩

/-- What an action leaves as it is when it fails was low enough. -/
theorem Within.still (within : Within size (top + rise) stack) (low : rise ≤ 0) :
    Within size top stack :=
  within.mono (by omega)

theorem confined_pure {value : α} (holds : good value) :
    Confined size top rise (pure value) good rise :=
  fun _ within => ⟨holds, within⟩

theorem confined_throw {cause : Failure} (low : rise ≤ 0) :
    Confined size top rise (throw cause) good after :=
  fun _ within => within.still low

/-- The value of the last action of a sequence does not matter, and neither does it if fewer items
are left than might be. -/
theorem Confined.last (confined : Confined size top rise action good middle)
    (less : middle ≤ after) : Confined size top rise action (fun _ => True) after := by
  intro stack within
  have ran := confined within
  cases result : action stack with
  | ok value left =>
    rw [result] at ran
    exact ⟨trivial, ran.2.mono (by omega)⟩
  | error cause left =>
    rw [result] at ran
    exact ran

theorem confined_done {value : α} (less : rise ≤ after) :
    Confined size top rise (pure value) (fun _ => True) after :=
  fun _ within => ⟨trivial, within.mono (by omega)⟩

theorem Confined.bind {next : α → StackAction β} {goodNext : β → Prop}
    (first : Confined size top rise action good middle)
    (rest : ∀ value, good value → Confined size top middle (next value) goodNext after) :
    Confined size top rise (action >>= next) goodNext after := by
  intro stack within
  have ran := first within
  rw [bind_apply]
  cases result : action stack with
  | ok value left =>
    rw [result] at ran
    exact rest value ran.1 ran.2
  | error cause left =>
    rw [result] at ran
    exact ran

theorem Confined.ite {condition : Prop} [Decidable condition] {other : StackAction α}
    (first : condition → Confined size top rise action good after)
    (second : ¬ condition → Confined size top rise other good after) :
    Confined size top rise (if condition then action else other) good after := by
  split
  · rename_i holds
    exact first holds
  · rename_i fails
    exact second fails

end Conditions

section Primitives

theorem require_confined (op : Opcode) (needed : Nat) (low : rise ≤ 0) :
    Confined size top rise (require op needed) (fun _ => True) rise := by
  intro stack within
  rcases Nat.lt_or_ge stack.length needed with short | enough
  · rw [require_of_lt short]
    exact within.still low
  · rw [require_of_le enough]
    exact ⟨trivial, within⟩

theorem size_confined :
    Confined size top rise StackAction.size (fun count => (count : Int) ≤ top + rise) rise :=
  fun _ within => ⟨within.height, within⟩

theorem item_confined (depth : Nat) (low : rise ≤ 0) :
    Confined size top rise (item depth) (fun bytes => bytes.length ≤ size) rise := by
  intro stack within
  cases found : stack[depth]? with
  | some bytes =>
    rw [item, found]
    exact ⟨within.items bytes (List.mem_of_getElem? found), within⟩
  | none =>
    rw [item, found]
    exact within.still low

theorem push_confined {bytes : Bytes} (short : bytes.length ≤ size) :
    Confined size top rise (push bytes) (fun _ => True) (rise + 1) := by
  refine fun stack within => ⟨trivial, ?_, ?_⟩
  · simpa [short] using within.items
  · have height := within.height
    simp only [List.length_cons, Int.natCast_add, Int.cast_ofNat_Int]
    omega

theorem pop_confined (low : rise ≤ 0) :
    Confined size top rise pop (fun bytes => bytes.length ≤ size) (rise - 1) := by
  intro stack within
  cases stack with
  | nil => exact within.still low
  | cons bytes rest =>
    have items := within.items
    have height := within.height
    rw [List.forall_mem_cons] at items
    rw [List.length_cons, Int.natCast_add, Int.cast_ofNat_Int] at height
    exact ⟨items.1, items.2, by omega⟩

theorem drop_confined (low : rise ≤ 0) :
    Confined size top rise StackAction.drop (fun _ => True) (rise - 1) :=
  (pop_confined low).bind fun _ _ => confined_pure trivial

theorem removeAt_confined (depth : Nat) (low : rise ≤ 0) :
    Confined size top rise (removeAt depth) (fun bytes => bytes.length ≤ size) (rise - 1) := by
  intro stack within
  cases found : stack[depth]? with
  | some bytes =>
    have inside : depth < stack.length := (List.getElem?_eq_some_iff.mp found).1
    have height := within.height
    rw [removeAt, found]
    refine ⟨within.items bytes (List.mem_of_getElem? found),
      fun other present => within.items other (List.mem_of_mem_eraseIdx present), ?_⟩
    rw [List.length_eraseIdx_of_lt inside]
    omega
  | none =>
    rw [removeAt, found]
    exact within.still low

theorem insertAt_confined (depth : Nat) {bytes : Bytes} (short : bytes.length ≤ size)
    (low : rise ≤ 0) :
    Confined size top rise (insertAt depth bytes) (fun _ => True) (rise + 1) := by
  intro stack within
  by_cases inside : depth ≤ stack.length
  · have height := within.height
    rw [insertAt, if_pos inside]
    refine ⟨trivial, fun other present => ?_, ?_⟩
    · rcases (List.mem_insertIdx inside).mp present with rfl | earlier
      · exact short
      · exact within.items other earlier
    · rw [List.length_insertIdx_of_le_length inside]
      omega
  · rw [insertAt, if_neg inside]
    exact within.still low

theorem swapAt_confined (i j : Nat) (low : rise ≤ 0) :
    Confined size top rise (swapAt i j) (fun _ => True) rise := by
  intro stack within
  cases first : stack[i]? with
  | none =>
    simp only [swapAt, first]
    exact within.still low
  | some x =>
    cases second : stack[j]? with
    | none =>
      simp only [swapAt, first, second]
      exact within.still low
    | some y =>
      simp only [swapAt, first, second]
      refine ⟨trivial, fun other present => ?_, ?_⟩
      · rcases List.mem_or_eq_of_mem_set present with earlier | rfl
        · rcases List.mem_or_eq_of_mem_set earlier with earlier | rfl
          · exact within.items other earlier
          · exact within.items _ (List.mem_of_getElem? second)
        · exact within.items _ (List.mem_of_getElem? first)
      · rw [List.length_set, List.length_set]
        exact within.height

theorem replaceTop_confined {bytes : Bytes} (short : bytes.length ≤ size) (low : rise ≤ 0) :
    Confined size top rise (replaceTop bytes) (fun _ => True) rise := by
  intro stack within
  cases stack with
  | nil => exact within.still low
  | cons other rest =>
    have items := within.items
    rw [List.forall_mem_cons] at items
    exact ⟨trivial, List.forall_mem_cons.mpr ⟨short, items.2⟩, within.height⟩

theorem check_confined (result : Except Failure α) (low : rise ≤ 0) :
    Confined size top rise (check result) (fun _ => True) rise := by
  intro stack within
  cases result with
  | ok value => exact ⟨trivial, within⟩
  | error cause => exact within.still low

theorem verifyTop_confined (cause : Failure) (low : rise ≤ 0) :
    Confined size top rise (verifyTop cause) (fun _ => True) rise := by
  intro stack within
  cases stack with
  | nil => exact within.still low
  | cons bytes rest =>
    have items := within.items
    have height := within.height
    rw [List.forall_mem_cons] at items
    rw [List.length_cons, Int.natCast_add, Int.cast_ofNat_Int] at height
    cases truth : ScriptNumber.isTrue bytes with
    | true =>
      simp only [verifyTop, truth, if_true]
      exact ⟨trivial, items.2, by omega⟩
    | false =>
      simp only [verifyTop, truth, Bool.false_eq_true, if_false]
      exact within.still low

/-- What an operation does last if it consumes its truth value. -/
theorem verifying_confined (cause : Failure) (verifying : Bool) (low : rise ≤ 0) :
    Confined size top rise (if verifying then verifyTop cause else pure ()) (fun _ => True) rise :=
  .ite (fun _ => verifyTop_confined cause low) fun _ => confined_pure trivial

/-- Reading a number leaves the stack as it is, whether it is one or not. -/
theorem number_confined (minimal : Bool) (depth : Nat) (low : rise ≤ 0) :
    Confined size top rise (number minimal depth) (fun _ => True) rise := by
  refine (item_confined depth low).bind fun bytes _ => ?_
  cases ScriptNumber.parse ScriptNumber.operandLimit minimal bytes with
  | error cause => exact confined_throw low
  | ok n => exact confined_pure trivial

theorem pushBool_confined (roomy : 32 ≤ size) (b : Bool) :
    Confined size top rise (pushBool b) (fun _ => True) (rise + 1) :=
  push_confined (Nat.le_trans (ScriptNumber.length_ofBool_le b) (Nat.le_trans (by decide) roomy))

/-- A signed word takes nine bytes. -/
theorem pushNumber_confined (roomy : 32 ≤ size) (n : Int) (low : rise ≤ 0) :
    Confined size top rise (pushNumber n) (fun _ => True) (rise + 1) := by
  refine .ite (fun word => push_confined ?_) fun _ => confined_throw low
  have least : Int64.minValue.toInt = -2 ^ 63 := rfl
  have greatest : Int64.maxValue.toInt = 2 ^ 63 - 1 := rfl
  have small : n.natAbs < 256 ^ 8 := by omega
  exact Nat.le_trans (ScriptNumber.length_encode_le small) (Nat.le_trans (by decide) roomy)

end Primitives

end ScriptSpend
