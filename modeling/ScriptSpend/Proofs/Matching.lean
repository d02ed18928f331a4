import Mathlib.Data.List.Forall2
import Mathlib.Data.List.NodupEquivFin
import ScriptSpend.Operation.SignatureCheck

/-!
# Order-preserving matchings

Several signatures are valid under several keys if each signature can be given a key of its own
that accepts it, such that later signatures are given later keys. The pass over both lists is
greedy: it gives each signature the first key that accepts it and never goes back. An exchange
argument shows that this loses nothing. If a signature is accepted by the key at hand, then any
matching that gives it a later key, or none of the keys at hand, leaves a matching of the other
signatures with the later keys.

## Main definitions

* `OrderedMatching`: an increasing choice of keys that accept the signatures

## Main results

* `orderedMatching_iff`: such a choice is a sublist of the keys that fits the signatures pointwise
* `matchSignatures_eq_true_iff`: a pass that comes to a result finds a matching if there is one
* `exists_matchSignatures_eq_ok`: the pass comes to a result if every attempt does
-/

namespace ScriptSpend

section Choice

open List

variable {α β : Type} {fits : α → β → Prop} {signatures : List α} {keys : List β}

/-- Each signature can be given a key that fits it, later signatures later keys. -/
def OrderedMatching (fits : α → β → Prop) (signatures : List α) (keys : List β) : Prop :=
  ∃ choice : Fin signatures.length → Fin keys.length,
    StrictMono choice ∧ ∀ i, fits signatures[i] keys[choice i]

/-- An increasing choice picks out a sublist of the keys. -/
theorem orderedMatching_iff :
    OrderedMatching fits signatures keys ↔ SublistForall₂ fits signatures keys := by
  rw [sublistForall₂_iff]
  constructor
  · -- The chosen keys in the order of the signatures are the sublist.
    rintro ⟨choice, increasing, fitting⟩
    refine ⟨ofFn fun i => keys[choice i], ?_, ?_⟩
    · refine forall₂_iff_get.mpr ⟨by simp, fun i inside _ => ?_⟩
      simpa using fitting ⟨i, inside⟩
    · rw [sublist_iff_exists_fin_orderEmbedding_get_eq]
      refine ⟨OrderEmbedding.ofStrictMono (fun i => choice (i.cast (by simp))) fun i j below =>
        increasing (by simpa using below), fun i => ?_⟩
      rw [get_ofFn]
      rfl
  · -- The places of the sublist among the keys are the choice.
    rintro ⟨chosen, fitting, inside⟩
    obtain ⟨embed, same⟩ := sublist_iff_exists_fin_orderEmbedding_get_eq.mp inside
    have lengths := fitting.length_eq
    refine ⟨fun i => embed (i.cast lengths), fun i j below => ?_, fun i => ?_⟩
    · exact embed.strictMono (by simpa using below)
    · have pointwise := (forall₂_iff_get.mp fitting).2 i i.2 (lengths ▸ i.2)
      have found := same (i.cast lengths)
      simp only [get_eq_getElem, Fin.val_cast] at pointwise found
      simpa [found] using pointwise

/-- Two signatures have no matching if no key that fits the latter comes after one that fits the
former. -/
theorem not_orderedMatching_pair {first second : α}
    (apart : ∀ i j : Fin keys.length, i < j → ¬ (fits first keys[i] ∧ fits second keys[j])) :
    ¬ OrderedMatching fits [first, second] keys := by
  rintro ⟨choice, increasing, fitting⟩
  have ordered : choice ⟨0, by simp⟩ < choice ⟨1, by simp⟩ :=
    increasing (Fin.mk_lt_mk.mpr Nat.zero_lt_one)
  exact apart _ _ ordered ⟨fitting ⟨0, by simp⟩, fitting ⟨1, by simp⟩⟩

/-- In a matching every signature has a key that fits it. -/
theorem OrderedMatching.exists_key (matched : OrderedMatching fits signatures keys) {signature : α}
    (present : signature ∈ signatures) : ∃ key ∈ keys, fits signature key := by
  obtain ⟨choice, -, fitting⟩ := matched
  obtain ⟨i, inside, rfl⟩ := mem_iff_getElem.mp present
  exact ⟨keys[choice ⟨i, inside⟩], getElem_mem _, fitting ⟨i, inside⟩⟩

/-- What fits matters only between the signatures and the keys at hand. -/
theorem orderedMatching_congr {fits' : α → β → Prop}
    (same : ∀ s ∈ signatures, ∀ k ∈ keys, (fits s k ↔ fits' s k)) :
    OrderedMatching fits signatures keys ↔ OrderedMatching fits' signatures keys := by
  refine exists_congr fun choice => and_congr_right fun _ => forall_congr' fun i => ?_
  exact same _ (getElem_mem _) _ (getElem_mem _)

/-- A stack lists signatures and keys from the top, which turns both orders around. -/
theorem sublistForall₂_reverse_iff :
    SublistForall₂ fits signatures.reverse keys.reverse ↔ SublistForall₂ fits signatures keys := by
  have turned {xs : List α} {ys : List β} (matched : SublistForall₂ fits xs ys) :
      SublistForall₂ fits xs.reverse ys.reverse := by
    obtain ⟨chosen, fitting, inside⟩ := sublistForall₂_iff.mp matched
    exact sublistForall₂_iff.mpr ⟨chosen.reverse, forall₂_reverse_iff.mpr fitting, inside.reverse⟩
  exact ⟨fun matched => by simpa using turned matched, turned⟩

theorem length_le_of_sublistForall₂ (matched : SublistForall₂ fits signatures keys) :
    signatures.length ≤ keys.length := by
  obtain ⟨chosen, fitting, inside⟩ := sublistForall₂_iff.mp matched
  exact fitting.length_eq.trans_le inside.length_le

theorem sublistForall₂_of_cons {signature : α}
    (matched : SublistForall₂ fits (signature :: signatures) keys) :
    SublistForall₂ fits signatures keys := by
  obtain ⟨chosen, fitting, inside⟩ := sublistForall₂_iff.mp matched
  cases fitting with
  | cons _ rest =>
    exact sublistForall₂_iff.mpr ⟨_, rest, (sublist_cons_self _ _).trans inside⟩

/-- The exchange: a signature that fits the first key may as well be given it. -/
theorem sublistForall₂_cons_cons_iff {signature : α} {key : β} (fit : fits signature key) :
    SublistForall₂ fits (signature :: signatures) (key :: keys) ↔
      SublistForall₂ fits signatures keys := by
  constructor
  · intro matched
    cases matched with
    | cons _ rest => exact rest
    | cons_right rest => exact sublistForall₂_of_cons rest
  · exact .cons fit

/-- A key that does not fit the first signature is of no use to the later ones either. -/
theorem sublistForall₂_cons_cons_iff_of_not {signature : α} {key : β}
    (unfit : ¬ fits signature key) :
    SublistForall₂ fits (signature :: signatures) (key :: keys) ↔
      SublistForall₂ fits (signature :: signatures) keys := by
  constructor
  · intro matched
    cases matched with
    | cons fit _ => exact absurd fit unfit
    | cons_right rest => exact rest
  · exact .cons_right

end Choice

section Pass

variable {attempt : Bytes → Bytes → Except Failure Bool} {signatures keys : List Bytes}

/-- One step of the pass uses up a key, and the signature as well if the key fits. -/
theorem matchSignatures_cons_cons {signature key : Bytes} {fit : Bool}
    (answer : attempt signature key = .ok fit) :
    matchSignatures attempt (signature :: signatures) (key :: keys) =
      let waiting := if fit then signatures else signature :: signatures
      if keys.length < waiting.length then .ok false else matchSignatures attempt waiting keys := by
  simp only [matchSignatures, answer]

/-- A pass that comes to a result succeeds if and only if there is a matching. The result may rest
on some attempts only; those not made do not matter. -/
theorem matchSignatures_eq_true_iff {success : Bool}
    (decided : matchSignatures attempt signatures keys = .ok success) :
    success = true ↔ List.SublistForall₂ (fun s k => attempt s k = .ok true) signatures keys := by
  induction keys generalizing signatures with
  | nil =>
    cases signatures with
    | nil =>
      obtain rfl : true = success := by simpa [matchSignatures] using decided
      simpa using List.SublistForall₂.nil
    | cons signature signatures => simp [matchSignatures] at decided
  | cons key keys ih =>
    cases signatures with
    | nil =>
      obtain rfl : true = success := by simpa [matchSignatures] using decided
      simpa using List.SublistForall₂.nil
    | cons signature signatures =>
      cases answer : attempt signature key with
      | error cause => simp [matchSignatures, answer] at decided
      | ok fit =>
        -- All signatures have a matching with all keys if and only if those that wait have one with
        -- the other keys.
        have exchange : List.SublistForall₂ (fun s k => attempt s k = .ok true)
              (signature :: signatures) (key :: keys) ↔
            List.SublistForall₂ (fun s k => attempt s k = .ok true)
              (if fit then signatures else signature :: signatures) keys := by
          cases fit with
          | true => exact sublistForall₂_cons_cons_iff answer
          | false => exact sublistForall₂_cons_cons_iff_of_not (by simp [answer])
        rw [matchSignatures_cons_cons answer] at decided
        rw [exchange]
        generalize (if fit then signatures else signature :: signatures) = waiting at decided ⊢
        by_cases short : keys.length < waiting.length
        · -- Giving up early is right: more signatures wait than keys are left.
          obtain rfl : false = success := by simpa [short] using decided
          simpa using fun matched => absurd (length_le_of_sublistForall₂ matched) (by omega)
        · exact ih (by simpa [short] using decided)

/-- With an answer to every attempt and no more signatures than keys, the pass comes to a result. -/
theorem exists_matchSignatures_eq_ok
    (answers : ∀ s ∈ signatures, ∀ k ∈ keys, ∃ fit, attempt s k = .ok fit)
    (enough : signatures.length ≤ keys.length) :
    ∃ success, matchSignatures attempt signatures keys = .ok success := by
  induction keys generalizing signatures with
  | nil =>
    obtain rfl : signatures = [] := by simpa using enough
    exact ⟨true, rfl⟩
  | cons key keys ih =>
    cases signatures with
    | nil => exact ⟨true, rfl⟩
    | cons signature signatures =>
      obtain ⟨fit, answer⟩ := answers signature (by simp) key (by simp)
      -- The signatures that wait are among those at hand, so the answers to them are known as well.
      have answersLeft : ∀ s ∈ if fit then signatures else signature :: signatures, ∀ k ∈ keys,
          ∃ fit, attempt s k = .ok fit := by
        intro s present k listed
        refine answers s ?_ k (by simp [listed])
        cases fit <;> simp_all
      rw [matchSignatures_cons_cons answer]
      generalize (if fit then signatures else signature :: signatures) = waiting at answersLeft ⊢
      by_cases short : keys.length < waiting.length
      · exact ⟨false, by simp [short]⟩
      · simpa [short] using ih answersLeft (by omega)

end Pass

end ScriptSpend
