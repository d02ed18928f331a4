import ScriptSpend.Proofs.Matching
import ScriptSpend.Proofs.RunningActions
import ScriptSpend.Proofs.Subscript

/-!
# Checks of several signatures

A check of several signatures reads its operands, lets the pass over signatures and keys decide, and
removes what it has read. Reading succeeds exactly on stacks of one layout. On such a stack the
check ends in one of four ways, which the decision, the signatures and the item below them select.

## Main definitions

* `MultiSigLayout`: the stacks on which a check of several signatures finds its operands

## Main results

* `multiSigOperands_eq_ok_iff`: reading the operands succeeds on these stacks and no others
* `settleMultiSig_of_admitted`, `settleMultiSig_of_rejected`, `settleMultiSig_of_dummy`: how a check
  ends
* `checkMultiSig_decides_matching`: with all operands in order, the check decides if there is an
  order-preserving matching
-/

namespace ScriptSpend

open StackAction Operation

/-- The stacks on which a check of several signatures finds its operands: below them lie the item
that it uses up and the rest of the stack. -/
inductive MultiSigLayout (policy : Policy) (operands : MultiSigOperands) (dummy : Bytes)
    (rest : Stack) : Stack → Prop where
  | intro (keyCount signatureCount : Bytes)
      (keysCounted : ScriptNumber.parse ScriptNumber.operandLimit policy.requireMinimalPush
        keyCount = .ok operands.keys.length)
      (signaturesCounted : ScriptNumber.parse ScriptNumber.operandLimit policy.requireMinimalPush
        signatureCount = .ok operands.signatures.length)
      (enough : operands.signatures.length ≤ operands.keys.length)
      (admitted : operands.keys.length ≤ policy.maxMultisigKeys.toNat) :
      MultiSigLayout policy operands dummy rest
        (keyCount :: (operands.keys ++ signatureCount :: (operands.signatures ++ dummy :: rest)))

section Operands

variable {op : Opcode} {policy : Policy} {operands : MultiSigOperands} {dummy : Bytes}
  {rest stack left : Stack}

/-- Items that stand one after another below some others are read as they stand. -/
theorem items_append (front middle deeper : Stack) :
    items front.length middle.length (front ++ (middle ++ deeper)) =
      .ok middle (front ++ (middle ++ deeper)) := by
  simp [items]

theorem multiSigOperands_of_layout (layout : MultiSigLayout policy operands dummy rest stack) :
    multiSigOperands op policy stack = .ok operands stack := by
  obtain ⟨keyCount, signatureCount, keysCounted, signaturesCounted, enough, admitted⟩ := layout
  obtain ⟨signatures, keys⟩ := operands
  dsimp only at *
  generalize layout : keyCount :: (keys ++ signatureCount :: (signatures ++ dummy :: rest)) = stack
  have keysRead : number policy.requireMinimalPush 0 stack = .ok (keys.length : Int) stack :=
    number_of_getElem? (by simp [← layout]) keysCounted
  have signaturesRead : number policy.requireMinimalPush (keys.length + 1) stack =
      .ok (signatures.length : Int) stack :=
    number_of_getElem? (by simp [← layout]) signaturesCounted
  have keysTaken : items 1 keys.length stack = .ok keys stack := by
    simpa [layout] using
      items_append [keyCount] keys (signatureCount :: (signatures ++ dummy :: rest))
  have signaturesTaken : items (keys.length + 2) signatures.length stack =
      .ok signatures stack := by
    simpa [layout] using
      items_append (keyCount :: (keys ++ [signatureCount])) signatures (dummy :: rest)
  have depth : stack.length = keys.length + signatures.length + 3 + rest.length := by
    simp only [← layout, List.length_cons, List.length_append]
    omega
  have deep (needed : Nat) (within : needed ≤ keys.length + signatures.length + 3) :
      require op needed stack = .ok () stack := require_of_le (by omega)
  have keysInRange : ¬ ((keys.length : Int) < 0 ∨
      (policy.maxMultisigKeys.toNat : Int) < keys.length) := by omega
  have signaturesInRange : ¬ ((signatures.length : Int) < 0 ∨
      (keys.length : Int) < signatures.length) := by omega
  simp only [multiSigOperands, bind_apply, ite_apply_state, pure_apply, deep 1 (by omega), keysRead,
    if_neg keysInRange, Int.toNat_natCast, deep (keys.length + 2) (by omega), signaturesRead,
    if_neg signaturesInRange, deep _ (Nat.le_refl _), keysTaken, signaturesTaken]

theorem items_eq_ok_iff {start count : Nat} {taken : List Bytes} :
    items start count stack = .ok taken left ↔
      left = stack ∧ start + count ≤ stack.length ∧ taken = (stack.drop start).take count := by
  by_cases enough : start + count ≤ stack.length
  · simp [items, enough, and_comm, eq_comm]
  · simp [items, enough]

/-- As many items are taken as were asked for. -/
theorem length_take_drop {start count : Nat} (inside : start + count ≤ stack.length) :
    ((stack.drop start).take count).length = count := by
  rw [List.length_take, List.length_drop]
  omega

/-- A stack with a number on top, some items, another number, other items and one item more. -/
private theorem eq_layout_of_getElem? {keyCount signatureCount : Bytes} {n m : Nat}
    (keyCountFound : stack[0]? = some keyCount)
    (signatureCountFound : stack[n + 1]? = some signatureCount)
    (deep : n + m + 3 ≤ stack.length) :
    ∃ dummy rest, stack = keyCount :: ((stack.drop 1).take n ++
      signatureCount :: ((stack.drop (n + 2)).take m ++ dummy :: rest)) := by
  have split (start : Nat) {bytes : Bytes} (found : stack[start]? = some bytes) :
      stack.drop start = bytes :: stack.drop (start + 1) := by
    obtain ⟨inside, rfl⟩ := List.getElem?_eq_some_iff.mp found
    exact List.drop_eq_getElem_cons inside
  have dummyFound : stack[n + m + 2]? = some stack[n + m + 2] := List.getElem?_eq_getElem (by omega)
  refine ⟨stack[n + m + 2], stack.drop (n + m + 3), ?_⟩
  have join (start count : Nat) :
      (stack.drop start).take count ++ stack.drop (start + count) = stack.drop start := by
    rw [← List.drop_drop, List.take_append_drop]
  calc stack = stack.drop 0 := by simp
    _ = keyCount :: ((stack.drop 1).take n ++ stack.drop (1 + n)) := by
      rw [split 0 keyCountFound, join]
    _ = keyCount :: ((stack.drop 1).take n ++ signatureCount ::
          ((stack.drop (n + 2)).take m ++ stack.drop (n + 2 + m))) := by
      rw [Nat.add_comm 1 n, split (n + 1) signatureCountFound, join]
    _ = _ := by rw [Nat.add_right_comm, split (n + m + 2) dummyFound]

theorem layout_of_multiSigOperands (read : multiSigOperands op policy stack = .ok operands left) :
    left = stack ∧ ∃ dummy rest, MultiSigLayout policy operands dummy rest stack := by
  simp only [multiSigOperands, bind_eq_ok_iff, require_eq_ok_iff, number_eq_ok_iff] at read
  obtain ⟨-, _, ⟨rfl, -⟩, keyCount, _, ⟨rfl, keyItem, keyItemFound, keysCounted⟩, read⟩ := read
  rw [ite_apply_state] at read
  split at read
  · simp at read
  · rename_i keysInRange
    simp only [bind_eq_ok_iff, require_eq_ok_iff, number_eq_ok_iff] at read
    obtain ⟨-, _, ⟨rfl, -⟩, signatureCount, _,
      ⟨rfl, signatureItem, signatureItemFound, signaturesCounted⟩, read⟩ := read
    rw [ite_apply_state] at read
    split at read
    · simp at read
    · rename_i signaturesInRange
      simp only [bind_eq_ok_iff, require_eq_ok_iff, items_eq_ok_iff, pure_apply,
        EStateM.Result.ok.injEq] at read
      obtain ⟨-, _, ⟨rfl, deep⟩, keys, _, ⟨rfl, -, keysTaken⟩, signatures, stack,
        ⟨rfl, -, signaturesTaken⟩, rfl, rfl⟩ := read
      obtain ⟨dummy, rest, shape⟩ := eq_layout_of_getElem? keyItemFound signatureItemFound deep
      rw [← keysTaken, ← signaturesTaken] at shape
      refine ⟨rfl, dummy, rest, ?_⟩
      have keysLength : keys.length = keyCount.toNat := by
        simp only [keysTaken, List.length_take, List.length_drop]
        omega
      have signaturesLength : signatures.length = signatureCount.toNat := by
        simp only [signaturesTaken, List.length_take, List.length_drop]
        omega
      rw [shape]
      apply MultiSigLayout.intro keyItem signatureItem
      · rw [keysLength, keysCounted]
        congr 1
        omega
      · rw [signaturesLength, signaturesCounted]
        congr 1
        omega
      · rw [keysLength, signaturesLength]
        omega
      · rw [keysLength]
        omega

/-- The operands can be read on stacks of the layout and on no others, and reading them changes
nothing. -/
theorem multiSigOperands_eq_ok_iff :
    multiSigOperands op policy stack = .ok operands left ↔
      left = stack ∧ ∃ dummy rest, MultiSigLayout policy operands dummy rest stack := by
  constructor
  · exact layout_of_multiSigOperands
  · rintro ⟨rfl, dummy, rest, layout⟩
    exact multiSigOperands_of_layout layout

end Operands

section Settlement

variable (op : Opcode) {policy : Policy} (verify : Bool) {success : Bool}
  {operands : MultiSigOperands} {dummy : Bytes} {rest stack : Stack}

theorem dropMany_append (front deeper : Stack) :
    dropMany front.length (front ++ deeper) = .ok () deeper := by
  induction front with
  | nil => rfl
  | cons top front ih => simpa [dropMany] using ih

/-- Signatures may go quietly if the check succeeded or all of them are empty. -/
theorem dropSignatures_append {signatures : Stack} (deeper : Stack)
    (quiet : success = true ∨ ∀ s ∈ signatures, s = []) :
    dropSignatures op success signatures.length (signatures ++ deeper) = .ok () deeper := by
  induction signatures with
  | nil => rfl
  | cons signature signatures ih =>
    have accepted : ¬ (success = false ∧ ¬ signature = []) := by
      rcases quiet with succeeded | empty
      · simp [succeeded]
      · simp [empty signature]
    have quietBelow : success = true ∨ ∀ s ∈ signatures, s = [] :=
      quiet.imp_right fun empty s present => empty s (by simp [present])
    simpa [dropSignatures, accepted] using ih quietBelow

/-- A signature that is not empty makes itself heard if the check did not succeed, and then stands
on top of those not yet removed. -/
theorem dropSignatures_append_of_rejected {signatures : Stack} (deeper : Stack)
    (present : ∃ s ∈ signatures, s ≠ []) :
    ∃ waiting, waiting <:+ signatures ∧
      dropSignatures op false signatures.length (signatures ++ deeper) =
        .error (.rejectedSignature op) (waiting ++ deeper) := by
  induction signatures with
  | nil => simp at present
  | cons signature signatures ih =>
    by_cases empty : signature = []
    · have presentBelow : ∃ s ∈ signatures, s ≠ [] := by simpa [empty] using present
      obtain ⟨waiting, below, rejected⟩ := ih presentBelow
      exact ⟨waiting, below.trans (List.suffix_cons _ _),
        by simpa [dropSignatures, empty] using rejected⟩
    · exact ⟨signature :: signatures, List.suffix_rfl, by simp [dropSignatures, empty]⟩

theorem MultiSigLayout.length_eq (layout : MultiSigLayout policy operands dummy rest stack) :
    stack.length = operands.keys.length + operands.signatures.length + rest.length + 3 := by
  obtain ⟨keyCount, signatureCount, -, -, -, -⟩ := layout
  simp only [List.length_cons, List.length_append]
  omega

/-- The counts and the keys go before the signatures. -/
private theorem dropMany_layout (layout : MultiSigLayout policy operands dummy rest stack) :
    dropMany (operands.keys.length + 2) stack =
      .ok () (operands.signatures ++ dummy :: rest) := by
  obtain ⟨keyCount, signatureCount, -, -, -, -⟩ := layout
  simpa using dropMany_append (keyCount :: (operands.keys ++ [signatureCount]))
    (operands.signatures ++ dummy :: rest)

theorem settleMultiSig_of_rejected (layout : MultiSigLayout policy operands dummy rest stack)
    (present : ∃ s ∈ operands.signatures, s ≠ []) :
    ∃ left, (∃ waiting, waiting <:+ operands.signatures ∧ left = waiting ++ dummy :: rest) ∧
      settleMultiSig op policy verify operands false stack =
        .error (.rejectedSignature op) left := by
  obtain ⟨waiting, below, rejected⟩ :=
    dropSignatures_append_of_rejected op (dummy :: rest) present
  exact ⟨_, ⟨waiting, below, rfl⟩, by simp [settleMultiSig, dropMany_layout layout, rejected]⟩

theorem settleMultiSig_of_dummy (layout : MultiSigLayout policy operands dummy rest stack)
    (quiet : success = true ∨ ∀ s ∈ operands.signatures, s = [])
    (required : policy.requireNullDummy = true) (present : dummy ≠ []) :
    settleMultiSig op policy verify operands success stack =
      .error (.dummyNotEmpty op) (dummy :: rest) := by
  have dropped := dropSignatures_append op (dummy :: rest) quiet
  simp [settleMultiSig, dropMany_layout layout, dropped, required, present]

theorem settleMultiSig_of_admitted (layout : MultiSigLayout policy operands dummy rest stack)
    (quiet : success = true ∨ ∀ s ∈ operands.signatures, s = [])
    (dummyAdmitted : policy.requireNullDummy = true → dummy = []) :
    settleMultiSig op policy verify operands success stack =
      if verify then verifyTop .noValidSignatures (ScriptNumber.ofBool success :: rest)
      else .ok () (ScriptNumber.ofBool success :: rest) := by
  have dropped := dropSignatures_append op (dummy :: rest) quiet
  have admitted : ¬ (policy.requireNullDummy = true ∧ ¬ dummy = []) :=
    fun refused => refused.2 (dummyAdmitted refused.1)
  simp [settleMultiSig, dropMany_layout layout, dropped, admitted]

/-- A check succeeds if and only if nothing speaks against it, and leaves its result on the stack
unless that result is consumed. -/
theorem settleMultiSig_eq_ok_iff (layout : MultiSigLayout policy operands dummy rest stack)
    {left : Stack} :
    settleMultiSig op policy verify operands success stack = .ok () left ↔
      (success = true ∨ ∀ s ∈ operands.signatures, s = []) ∧
        (policy.requireNullDummy = true → dummy = []) ∧ (verify = true → success = true) ∧
        left = if verify then rest else ScriptNumber.ofBool success :: rest := by
  by_cases quiet : success = true ∨ ∀ s ∈ operands.signatures, s = []
  · by_cases admitted : policy.requireNullDummy = true → dummy = []
    · rw [settleMultiSig_of_admitted op verify layout quiet admitted, and_iff_right quiet,
        and_iff_right admitted]
      cases verify <;> cases success <;> simp [eq_comm (b := left)]
    · obtain ⟨required, present⟩ := Classical.not_imp.mp admitted
      simp [settleMultiSig_of_dummy op verify layout quiet required present, required, present]
  · simp only [not_or, Bool.not_eq_true, not_forall] at quiet
    obtain ⟨rfl, s, present, nonempty⟩ := quiet
    obtain ⟨left, -, rejected⟩ :=
      settleMultiSig_of_rejected op verify layout ⟨s, present, nonempty⟩
    simp only [rejected, reduceCtorEq, false_iff]
    simpa using fun empty => absurd (empty s present) nonempty

end Settlement

section Decision

variable {env : Environment} {operands : MultiSigOperands}

theorem tryKey_of_encoded {policy : Policy} {checker : Checker} {subscript : Script}
    {signature key : Bytes} (signatureEncoded : checkSignatureEncoding policy signature = .ok ())
    (keyEncoded : checkKeyEncoding key = .ok ()) :
    tryKey policy checker subscript signature key =
      .ok (checker.accepts subscript signature key) := by
  rw [tryKey, signatureEncoded, keyEncoded]

/-- With all operands encoded as they must, the pass comes to a result, and the result says whether
there is an order-preserving matching over the script text without the signatures. -/
theorem exists_matchOperands_eq_ok
    (enough : operands.signatures.length ≤ operands.keys.length)
    (signaturesEncoded : ∀ s ∈ operands.signatures, checkSignatureEncoding env.policy s = .ok ())
    (keysEncoded : ∀ k ∈ operands.keys, checkKeyEncoding k = .ok ()) :
    ∃ success, env.matchOperands operands = .ok success ∧
      (success = true ↔ OrderedMatching
        (fun s k =>
          env.checker.accepts (env.subscript.withoutPushes operands.signatures) s k = true)
        operands.signatures operands.keys) := by
  have stripped : stripSignatures env.subscript operands.signatures =
      .ok (env.subscript.withoutPushes operands.signatures) :=
    stripSignatures_eq_ok fun s present =>
      length_le_maxPush_of_checkSignatureEncoding (signaturesEncoded s present)
  let attempt := tryKey env.policy env.checker (env.subscript.withoutPushes operands.signatures)
  have answers : ∀ s ∈ operands.signatures, ∀ k ∈ operands.keys, attempt s k =
      .ok (env.checker.accepts (env.subscript.withoutPushes operands.signatures) s k) :=
    fun s present k listed => tryKey_of_encoded (signaturesEncoded s present) (keysEncoded k listed)
  obtain ⟨success, decided⟩ :
      ∃ success, matchSignatures attempt operands.signatures operands.keys = .ok success :=
    exists_matchSignatures_eq_ok (fun s present k listed => ⟨_, answers s present k listed⟩) enough
  refine ⟨success, by simpa [Environment.matchOperands, stripped] using decided, ?_⟩
  rw [matchSignatures_eq_true_iff decided, ← orderedMatching_iff]
  refine orderedMatching_congr fun s present k listed => ?_
  rw [answers s present k listed, Except.ok.injEq]

/-- A check of several signatures decides whether there is an order-preserving matching. Here
`signatures` and `keys` are listed from the bottom of the stack up. The pass succeeds if and only if
increasing keys can be chosen that accept the signatures over the script text without any of them,
and the check then ends with the result that the pass came to. -/
theorem checkMultiSig_decides_matching (op : Opcode) (env : Environment) (verify : Bool)
    (signatures keys : List Bytes) (keyCount signatureCount dummy : Bytes) (rest : Stack)
    (keysCounted : ScriptNumber.parse ScriptNumber.operandLimit env.policy.requireMinimalPush
      keyCount = .ok keys.length)
    (signaturesCounted : ScriptNumber.parse ScriptNumber.operandLimit env.policy.requireMinimalPush
      signatureCount = .ok signatures.length)
    (enough : signatures.length ≤ keys.length)
    (admitted : keys.length ≤ env.policy.maxMultisigKeys.toNat)
    (dummyAdmitted : env.policy.requireNullDummy = true → dummy = [])
    (signaturesEncoded : ∀ s ∈ signatures, checkSignatureEncoding env.policy s = .ok ())
    (keysEncoded : ∀ k ∈ keys, checkKeyEncoding k = .ok ()) :
    let stack :=
      keyCount :: (keys.reverse ++ signatureCount :: (signatures.reverse ++ dummy :: rest))
    let operands : MultiSigOperands := ⟨signatures.reverse, keys.reverse⟩
    let matched := OrderedMatching
      (fun s k => env.checker.accepts (env.subscript.withoutPushes signatures) s k = true)
      signatures keys
    ∃ success,
      multiSigOperands op env.policy stack = .ok operands stack ∧
      env.matchOperands operands = .ok success ∧
      (success = true ↔ matched) ∧
      checkMultiSig op env verify stack =
        settleMultiSig op env.policy verify operands success stack ∧
      (matched →
        checkMultiSig op env verify stack = .ok () (if verify then rest else [1] :: rest)) ∧
      (¬ matched → (∀ s ∈ signatures, s = []) → checkMultiSig op env verify stack =
        if verify then .error .noValidSignatures ([] :: rest) else .ok () ([] :: rest)) ∧
      (¬ matched → (∃ s ∈ signatures, s ≠ []) →
        ∃ left, checkMultiSig op env verify stack = .error (.rejectedSignature op) left) := by
  intro stack operands matched
  have enoughOperands : operands.signatures.length ≤ operands.keys.length := by
    simpa [operands] using enough
  have layout : MultiSigLayout env.policy operands dummy rest stack :=
    .intro keyCount signatureCount (by simpa [operands] using keysCounted)
      (by simpa [operands] using signaturesCounted) enoughOperands
      (by simpa [operands] using admitted)
  have read : multiSigOperands op env.policy stack = .ok operands stack :=
    multiSigOperands_of_layout layout
  obtain ⟨success, decided, succeeds⟩ := exists_matchOperands_eq_ok enoughOperands
    (fun s present => signaturesEncoded s (by simpa [operands] using present))
    (fun k listed => keysEncoded k (by simpa [operands] using listed))
  rw [orderedMatching_iff, sublistForall₂_reverse_iff, ← orderedMatching_iff,
    Script.withoutPushes_reverse] at succeeds
  have settled : checkMultiSig op env verify stack =
      settleMultiSig op env.policy verify operands success stack := by
    simp [checkMultiSig, read, decided]
  refine ⟨success, read, decided, succeeds, settled, fun found => ?_, fun missing empty => ?_,
    fun missing present => ?_⟩
  · obtain rfl : success = true := succeeds.mpr found
    rw [settled, settleMultiSig_of_admitted op verify layout (.inl rfl) dummyAdmitted]
    cases verify <;> rfl
  · obtain rfl : success = false := by simpa using mt succeeds.mp missing
    rw [settled, settleMultiSig_of_admitted op verify layout
      (.inr (by simpa [operands] using empty)) dummyAdmitted]
    cases verify <;> rfl
  · obtain rfl : success = false := by simpa using mt succeeds.mp missing
    obtain ⟨left, -, rejected⟩ :=
      settleMultiSig_of_rejected op verify layout (by simpa [operands] using present)
    exact ⟨left, settled.trans rejected⟩

/-- Two signatures with scopes `0x41` and `0x42` under three keys: both are valid under the second
key, and the former also under the first one. In the other order they are refused, as no key behind
the second one is left for the latter. Two empty signatures, of which the second key accepts each,
leave false. -/
theorem checkMultiSig_two_of_three :
    let signature (scope : UInt8) : Bytes := [0x30, 6, 2, 1, 1, 2, 1, 1, scope]
    let key (x : UInt8) : Bytes := 2 :: List.replicate 32 x
    let checker : Checker := fun decoded k _ =>
      k == key 2 || (k == key 1 && decoded.scope == 0x41)
    let env : Environment := ⟨{}, checker, [.ofOpcode 0xae], none⟩
    let run (first second : Bytes) :=
      checkMultiSig 0xae env false [[3], key 3, key 2, key 1, [2], second, first, []]
    (∀ s ∈ [signature 0x41, signature 0x42], checkSignatureEncoding env.policy s = .ok ()) ∧
      (∀ k ∈ [key 1, key 2, key 3], checkKeyEncoding k = .ok ()) ∧
      run (signature 0x41) (signature 0x42) = .ok () [[1]] ∧
      (∃ left, run (signature 0x42) (signature 0x41) = .error (.rejectedSignature 0xae) left) ∧
      run [] [] = .ok () [[]] := by
  intro signature key checker env run
  have signaturesEncoded : ∀ s ∈ [signature 0x41, signature 0x42],
      checkSignatureEncoding env.policy s = .ok () := by decide
  have keysEncoded : ∀ k ∈ [key 1, key 2, key 3], checkKeyEncoding k = .ok () := by decide
  have counted : ScriptNumber.parse ScriptNumber.operandLimit true [2] = .ok 2 := by decide
  have decides (first second : Bytes)
      (encoded : ∀ s ∈ [first, second], checkSignatureEncoding env.policy s = .ok ()) :=
    checkMultiSig_decides_matching 0xae env false [first, second] [key 1, key 2, key 3] [3] [2] []
      [] (by decide) counted (Nat.le_succ 2) (by decide) (by decide) encoded keysEncoded
  refine ⟨signaturesEncoded, keysEncoded, ?_, ?_, ?_⟩
  · obtain ⟨-, -, -, -, -, accepted, -⟩ := decides _ _ signaturesEncoded
    exact accepted ⟨Fin.castLE (by decide), Fin.strictMono_castLE (by decide), by decide⟩
  · obtain ⟨-, -, -, -, -, -, -, rejected⟩ := decides (signature 0x42) (signature 0x41) (by decide)
    -- The former signature needs the second key, and the third key accepts none.
    exact rejected (not_orderedMatching_pair (by decide)) ⟨signature 0x42, by decide, by decide⟩
  · obtain ⟨-, -, -, -, -, -, quiet, -⟩ := decides [] [] (by decide)
    exact quiet (not_orderedMatching_pair (by decide)) (by decide)

end Decision

end ScriptSpend
