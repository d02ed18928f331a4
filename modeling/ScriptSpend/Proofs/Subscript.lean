import Mathlib.Tactic.ByContra
import ScriptSpend.Operation.SignatureCheck
import ScriptSpend.Proofs.WellFormedChunks

/-!
# The script text that signatures cover

Before signatures are checked, the chunks that push one of them are removed from the script text.
Signatures are far shorter than the longest push, so this never fails for a signature that is
encoded as it must, and the order in which several of them are removed does not matter.

## Main definitions

* `Script.withoutPushes`: a script text without the chunks that push one of some items

## Main results

* `Script.withoutPushes_eq_filter`: in a well-formed script these are the chunks equal to the pushes
* `stripSignatures_eq_ok_iff`: removing signatures one after another removes all their pushes
-/

namespace ScriptSpend

/-- The script text without the chunks that read as the shortest push of one of the items. -/
def Script.withoutPushes (script : Script) (items : List Bytes) : Script :=
  script.filter fun chunk => items.all fun item => chunk.toWire != (Chunk.ofData item).toWire

namespace Script

variable {script : Script}

@[simp] theorem withoutPushes_nil : script.withoutPushes [] = script := by simp [withoutPushes]

/-- Removing the pushes of some items after those of one removes the pushes of all. -/
theorem withoutPushes_cons (item : Bytes) (items : List Bytes) :
    script.withoutPushes (item :: items) = (script.withoutPushes [item]).withoutPushes items := by
  simp [withoutPushes, List.filter_filter, Bool.and_comm]

/-- The order of the items makes no difference. -/
theorem withoutPushes_perm {items other : List Bytes} (same : items.Perm other) :
    script.withoutPushes items = script.withoutPushes other := by
  refine List.filter_congr fun chunk _ => ?_
  rw [Bool.eq_iff_iff, List.all_eq_true, List.all_eq_true]
  exact forall_congr' fun item => by rw [same.mem_iff]

theorem withoutPushes_reverse (items : List Bytes) :
    script.withoutPushes items.reverse = script.withoutPushes items :=
  withoutPushes_perm (List.reverse_perm items)

/-- Of well-formed chunks, only the shortest pushes of the items have their bytes. -/
theorem withoutPushes_eq_filter {items : List Bytes} (wellFormed : script.WellFormed)
    (short : ∀ item ∈ items, item.length ≤ Chunk.maxPush) :
    script.withoutPushes items =
      script.filter fun chunk => ∀ item ∈ items, chunk ≠ Chunk.ofData item := by
  refine List.filter_congr fun chunk present => ?_
  rw [Bool.eq_iff_iff, List.all_eq_true, decide_eq_true_iff]
  refine forall₂_congr fun item listed => ?_
  have same : chunk.toWire = (Chunk.ofData item).toWire ↔ chunk = Chunk.ofData item :=
    ⟨Chunk.eq_of_toWire_eq (wellFormed chunk present)
      (Chunk.wellFormed_ofData (short item listed)), congrArg Chunk.toWire⟩
  rw [bne_iff_ne, ne_eq, ne_eq, same]

theorem withoutPushes_singleton {item : Bytes} (wellFormed : script.WellFormed)
    (short : item.length ≤ Chunk.maxPush) :
    script.withoutPushes [item] = script.filter fun chunk => chunk ≠ Chunk.ofData item := by
  rw [withoutPushes_eq_filter wellFormed (by simpa using short)]
  simp

end Script

theorem stripSignature_eq_ok {subscript : Script} {item : Bytes}
    (short : item.length ≤ Chunk.maxPush) :
    stripSignature subscript item = .ok (subscript.withoutPushes [item]) := by
  rw [stripSignature, Chunk.push, if_neg (Nat.not_lt.mpr short)]
  simp [Script.findAndDelete, Script.withoutPushes, Script.toWire]

/-- Signatures can be removed if and only if each can be pushed, and then all their pushes are. -/
theorem stripSignatures_eq_ok_iff {subscript stripped : Script} {items : List Bytes} :
    stripSignatures subscript items = .ok stripped ↔
      (∀ item ∈ items, item.length ≤ Chunk.maxPush) ∧
        subscript.withoutPushes items = stripped := by
  induction items generalizing subscript with
  | nil => simp [stripSignatures]
  | cons item items ih =>
    by_cases short : item.length ≤ Chunk.maxPush
    · rw [Script.withoutPushes_cons, stripSignatures, stripSignature_eq_ok short]
      simp [ih, short]
    · have refused : stripSignature subscript item =
          .error (.pushTooLong (.oversized item.length Chunk.maxPush)) := by
        rw [stripSignature, Chunk.push, if_pos (Nat.lt_of_not_le short)]
      simp [stripSignatures, refused, short]

theorem stripSignatures_eq_ok {subscript : Script} {items : List Bytes}
    (short : ∀ item ∈ items, item.length ≤ Chunk.maxPush) :
    stripSignatures subscript items = .ok (subscript.withoutPushes items) :=
  stripSignatures_eq_ok_iff.mpr ⟨short, rfl⟩

theorem eq_withoutPushes_of_stripSignatures {subscript stripped : Script} {items : List Bytes}
    (removed : stripSignatures subscript items = .ok stripped) :
    stripped = subscript.withoutPushes items :=
  (stripSignatures_eq_ok_iff.mp removed).2.symm

theorem length_of_isSignatureItem {item : Bytes} (canonical : isSignatureItem item = true) :
    9 ≤ item.length ∧ item.length ≤ 73 := by
  by_contra outside
  rw [isSignatureItem, if_neg outside] at canonical
  cases canonical

theorem length_le_maxPush_of_isSignatureItem {item : Bytes}
    (canonical : isSignatureItem item = true) : item.length ≤ Chunk.maxPush :=
  Nat.le_trans (length_of_isSignatureItem canonical).2 (by decide)

/-- A signature that is empty or well formed is short enough to be pushed. -/
theorem length_le_maxPush_of_checkSignatureEncoding {policy : Policy} {item : Bytes}
    (encoded : checkSignatureEncoding policy item = .ok ()) : item.length ≤ Chunk.maxPush := by
  by_cases absent : item = []
  · simp [absent]
  · cases canonical : isSignatureItem item with
    | true => exact length_le_maxPush_of_isSignatureItem canonical
    | false => simp [checkSignatureEncoding, absent, canonical] at encoded

end ScriptSpend
