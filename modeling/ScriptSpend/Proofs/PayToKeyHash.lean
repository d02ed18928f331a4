import ScriptSpend.Proofs.CheckSig
import ScriptSpend.Proofs.Pushing

/-!
# Paying to the hash of a key

The locking script that asks for a key with a given hash and for a signature under that key is
satisfied by the shortest pushes of the two and by nothing else: the unlocking script can only push,
every push leaves one item, and one item must be left in the end.

## Main definitions

* `Script.payToKeyHash`: the locking script
* `RedeemsKeyHash`: a key and a signature that the locking script asks for

## Main results

* `execute_payToKeyHash`: what the locking script accepts
* `validate_payToKeyHash_iff`: what spends an output with that locking script
-/

namespace ScriptSpend

open StackAction Operation

/-- Asks for a key with the given hash and a signature under that key. -/
def Script.payToKeyHash (hash : Bytes) : Script :=
  [.ofOpcode 0x76, .ofOpcode 0xa9, .direct hash, .ofOpcode 0x88, .ofOpcode 0xac]

section Locking

variable {env : Environment} {machine left : Machine} {hash key : Bytes} {below : Stack}

/-- The hash is pushed as it is. -/
theorem direct_eq_ofData (length : hash.length = 20) : Chunk.direct hash = Chunk.ofData hash := by
  match hash with
  | [] => cases length
  | [_] => cases length
  | _ :: _ :: _ => rfl

/-- The locking script hashes the item on top, and checks the one below it as a signature. -/
theorem execute_payToKeyHash (length : hash.length = 20)
    (within : hash.length ≤ env.policy.maxElementSize.toNat) (outside : machine.branches = [])
    (stack : machine.stack = key :: below) :
    Script.execute env (Script.payToKeyHash hash) machine = .ok () left ↔
      Digest.hash160 key = hash ∧ ∃ checked,
        checkSig 0xac env false (key :: below) = .ok () checked ∧
          left = { machine with stack := checked } := by
  have executing (items : Stack) :
      ({ machine with stack := items } : Machine).isExecuting = true := by
    simp [Machine.isExecuting, outside]
  have onMain (op : Opcode) (action : StackAction Unit) (items : Stack)
      (meaning : (Instruction.ofOpcode op).run env op true = onMainThenNext action)
      (enabled : op.isDisabled = false) (bare : op.isPush = false) :
      (Chunk.ofOpcode op).execute env { machine with stack := items } =
        onMainThenNext action { machine with stack := items } := by
    rw [Chunk.execute_ofOpcode (executing items) enabled bare, meaning]
  have duplicated : (Chunk.ofOpcode 0x76).execute env { machine with stack := key :: below } =
      .ok .next { machine with stack := key :: key :: below } := by
    rw [onMain 0x76 (Shuffle.run 0x76 .dup) _ rfl (by decide) (by decide), onMainThenNext_apply]
    simp [Shuffle.run]
  have hashed : (Chunk.ofOpcode 0xa9).execute env { machine with stack := key :: key :: below } =
      .ok .next { machine with stack := Digest.hash160 key :: key :: below } := by
    rw [onMain 0xa9 (digest 0xa9 .hash160) _ rfl (by decide) (by decide), onMainThenNext_apply]
    simp [digest, DigestOp.apply]
  have pushed := Chunk.execute_ofData within (executing (Digest.hash160 key :: key :: below))
  have start : machine = { machine with stack := key :: below } := by rw [← stack]
  rw [start, Script.payToKeyHash, direct_eq_ofData length]
  simp only [Script.execute, bind_apply, duplicated, hashed, pushed]
  by_cases same : Digest.hash160 key = hash
  · have verified : (Chunk.ofOpcode 0x88).execute env
        { machine with stack := hash :: Digest.hash160 key :: key :: below } =
        .ok .next { machine with stack := key :: below } := by
      rw [onMain 0x88 (equal 0x88 true) _ rfl (by decide) (by decide), onMainThenNext_apply]
      simp [equal, same]
    have checked := onMain 0xac (checkSig 0xac env false) (key :: below) rfl (by decide) (by decide)
    simp only [verified, checked, onMainThenNext_apply]
    cases ran : checkSig 0xac env false (key :: below) <;> simp [same, eq_comm (b := left)]
  · have refused : (Chunk.ofOpcode 0x88).execute env
        { machine with stack := hash :: Digest.hash160 key :: key :: below } =
        .error .notEqual { machine with stack := [] :: key :: below } := by
      rw [onMain 0x88 (equal 0x88 true) _ rfl (by decide) (by decide), onMainThenNext_apply]
      simp [equal, Ne.symm same]
    simp [refused, same]

theorem isStraight_of_mem_payToKeyHash (length : hash.length = 20) :
    ∀ chunk ∈ Script.payToKeyHash hash, chunk.isStraight = true := by
  simp only [Script.payToKeyHash, Chunk.direct, length, List.mem_cons, List.not_mem_nil, or_false]
  rintro chunk (rfl | rfl | rfl | rfl | rfl) <;> rfl

theorem wellFormed_payToKeyHash (length : hash.length = 20) :
    (Script.payToKeyHash hash).WellFormed := by
  have pushed : (Chunk.direct hash).WellFormed := by
    rw [direct_eq_ofData length]
    exact Chunk.wellFormed_ofData (by rw [length]; decide)
  simp only [Script.payToKeyHash, Script.WellFormed, List.mem_cons, List.not_mem_nil, or_false]
  rintro chunk (rfl | rfl | rfl | rfl | rfl)
  · exact Chunk.wellFormed_ofOpcode rfl
  · exact Chunk.wellFormed_ofOpcode rfl
  · exact pushed
  · exact Chunk.wellFormed_ofOpcode rfl
  · exact Chunk.wellFormed_ofOpcode rfl

end Locking

section Spending

variable {verify : Ecdsa.Verifier} {context : InputContext} {hash signature key : Bytes}
  {unlocking : Script} {rest : Stack}

/-- A key with the given hash, and a signature under it that covers the input. -/
structure RedeemsKeyHash (verify : Ecdsa.Verifier) (context : InputContext)
    (hash signature key : Bytes) : Prop where
  hashed : Digest.hash160 key = hash
  key_encoded : (key.length = 33 ∧ (key.head? = some 2 ∨ key.head? = some 3)) ∨
    key.length = 65 ∧ key.head? = some 4
  canonical : isSignatureItem signature = true
  verified : ∃ decoded, ScopedSignature.ofItem signature = .ok decoded ∧
    decoded.signature.hasLowS = true ∧ decoded.scope.hasForkId = true ∧
    verify (sighash context
      ((Script.payToKeyHash hash).filter fun chunk => chunk ≠ .ofData signature) decoded.scope)
      decoded.signature key = true

theorem RedeemsKeyHash.signature_ne_nil
    (redeems : RedeemsKeyHash verify context hash signature key) : signature ≠ [] := by
  rintro rfl
  exact absurd redeems.canonical (by decide)

/-- The signature and the key are short enough to be pushed. -/
theorem RedeemsKeyHash.length_le (redeems : RedeemsKeyHash verify context hash signature key) :
    signature.length ≤ 73 ∧ key.length ≤ 65 := by
  refine ⟨(length_of_isSignatureItem redeems.canonical).2, ?_⟩
  rcases redeems.key_encoded with ⟨length, -⟩ | ⟨length, -⟩ <;> omega

/-- The locking script does not push the empty item. -/
theorem withoutPushes_payToKeyHash_nil (length : hash.length = 20) :
    (Script.payToKeyHash hash).withoutPushes [[]] = Script.payToKeyHash hash := by
  rw [Script.withoutPushes_singleton (wellFormed_payToKeyHash length) (Nat.zero_le _),
    List.filter_eq_self]
  have pushed : Chunk.direct hash ≠ Chunk.ofData [] := by
    intro same
    cases congrArg Chunk.payload same
  intro chunk listed
  simp only [Script.payToKeyHash, List.mem_cons, List.not_mem_nil, or_false] at listed
  rcases listed with rfl | rfl | rfl | rfl | rfl
  · rfl
  · rfl
  · exact decide_eq_true pushed
  · rfl
  · rfl

/-- A key with the asked hash and a signature redeem the output if and only if the last check of the
locking script accepts them. -/
theorem redeemsKeyHash_iff_checkSig (rest : Stack) (length : hash.length = 20)
    (placeholderRejected : signature = [] →
      verify (sighash context (Script.payToKeyHash hash) Scope.all) ⟨1, 1⟩ key = false) :
    RedeemsKeyHash verify context hash signature key ↔ Digest.hash160 key = hash ∧
      checkSig 0xac (Environment.standard verify context (.payToKeyHash hash)) false
        (key :: signature :: rest) = .ok () ([1] :: rest) := by
  have covered : (Environment.standard verify context (.payToKeyHash hash)).subscript =
      Script.payToKeyHash hash := rfl
  have lowS :
      (Environment.standard verify context (.payToKeyHash hash)).policy.requireLowS = true := rfl
  rw [checkSig_eq_ok_iff, covered]
  by_cases absent : signature = []
  · -- The empty item is not canonical, and what it stands for is rejected.
    subst absent
    have rejected : (Environment.standard verify context (.payToKeyHash hash)).checker.accepts
        ((Script.payToKeyHash hash).withoutPushes [[]]) [] key = false := by
      rw [withoutPushes_payToKeyHash_nil length]
      exact placeholderRejected rfl
    constructor
    · exact fun redeems => absurd rfl redeems.signature_ne_nil
    · rintro ⟨-, -, -, accepted, asked, -, left⟩
      rw [rejected] at asked
      subst asked
      simp [ScriptNumber.ofBool] at left
  · rw [checkSignatureEncoding_eq_ok_iff absent, checkKeyEncoding_eq_ok_iff]
    constructor
    · rintro ⟨hashed, keyEncoded, canonical, decoded, read, low, marked, verified⟩
      have short := length_le_maxPush_of_isSignatureItem canonical
      refine ⟨hashed, ⟨canonical, decoded, read, fun _ => low, marked⟩, keyEncoded, true, ?_,
        .inl rfl, rfl⟩
      rw [Script.withoutPushes_singleton (wellFormed_payToKeyHash length) short]
      simp only [Checker.accepts, read]
      exact verified
    · rintro ⟨hashed, ⟨canonical, decoded, read, low, marked⟩, keyEncoded, accepted, asked, valid,
        -⟩
      have short := length_le_maxPush_of_isSignatureItem canonical
      refine ⟨hashed, keyEncoded, canonical, decoded, read, low lowS, marked, ?_⟩
      obtain rfl : accepted = true := valid.resolve_right absent
      rw [Script.withoutPushes_singleton (wellFormed_payToKeyHash length) short] at asked
      simp only [Checker.accepts, read] at asked
      exact asked

/-- The locking script can be executed only on a key and a signature. -/
theorem exists_stack_of_execute_payToKeyHash {env : Environment} {machine left : Machine}
    (length : hash.length = 20) (within : hash.length ≤ env.policy.maxElementSize.toNat)
    (outside : machine.branches = [])
    (executed : Script.execute env (Script.payToKeyHash hash) machine = .ok () left) :
    ∃ key signature rest, machine.stack = key :: signature :: rest := by
  obtain ⟨stack, altStack, branches⟩ := machine
  subst outside
  match stack with
  | key :: signature :: rest => exact ⟨key, signature, rest, rfl⟩
  | [key] =>
    obtain ⟨-, checked, ran, -⟩ := (execute_payToKeyHash length within rfl rfl).mp executed
    simp [checkSig] at ran
  | [] => cases executed

/-- What is valid pushes a signature and a key that redeem the output, and nothing else. -/
theorem exists_redeemsKeyHash_of_validate {final : Spend} (length : hash.length = 20)
    (wellFormed : unlocking.WellFormed)
    (placeholderRejected : ∀ key, unlocking = [.ofData [], .ofData key] →
      verify (sighash context (Script.payToKeyHash hash) Scope.all) ⟨1, 1⟩ key = false)
    (valid : Spend.validate verify (.standard context unlocking (.payToKeyHash hash)) =
      .ok () final) :
    ∃ signature key, unlocking = [.ofData signature, .ofData key] ∧
      RedeemsKeyHash verify context hash signature key := by
  have fits : hash.length ≤ ({} : Policy).maxElementSize.toNat := by
    rw [length, Policy.maxElementSize_standard]
    decide
  obtain ⟨items, left, top, rfl, executed, single, truth⟩ :=
    Spend.exists_items_of_validate wellFormed (isStraight_of_mem_payToKeyHash length) valid
  obtain ⟨key, signature, rest, stack⟩ :=
    exists_stack_of_execute_payToKeyHash length fits rfl executed
  obtain ⟨hashed, checked, ran, rfl⟩ := (execute_payToKeyHash length fits rfl stack).mp executed
  obtain ⟨-, -, accepted, -, -, rfl⟩ := (checkSig_eq_ok_iff 0xac).mp ran
  -- One item is left, so there was nothing below the signature, and the answer is what is left.
  obtain ⟨rfl, rfl⟩ : ScriptNumber.ofBool accepted = top ∧ rest = [] := by simpa using single
  have answered : accepted = true := by
    cases accepted with
    | true => rfl
    | false => cases truth
  subst answered
  obtain rfl : items = [signature, key] := by simpa using congrArg List.reverse stack
  refine ⟨signature, key, rfl, (redeemsKeyHash_iff_checkSig [] length ?_).mpr ⟨hashed, ran⟩⟩
  rintro rfl
  exact placeholderRejected key rfl

/-- The shortest pushes of a signature and of a key that redeem the output are valid. -/
theorem exists_validate_of_redeemsKeyHash (length : hash.length = 20)
    (redeems : RedeemsKeyHash verify context hash signature key) :
    ∃ final, Spend.validate verify
      (.standard context [.ofData signature, .ofData key] (.payToKeyHash hash)) = .ok () final := by
  have fits : hash.length ≤ ({} : Policy).maxElementSize.toNat := by
    rw [length, Policy.maxElementSize_standard]
    decide
  have within : ∀ item ∈ [signature, key], item.length ≤ ({} : Policy).maxElementSize.toNat := by
    have short := redeems.length_le
    intro item listed
    rw [Policy.maxElementSize_standard]
    simp only [List.mem_cons, List.not_mem_nil, or_false] at listed
    rcases listed with rfl | rfl <;> omega
  have present : signature = [] →
      verify (sighash context (Script.payToKeyHash hash) Scope.all) ⟨1, 1⟩ key = false :=
    fun absent => absurd absent redeems.signature_ne_nil
  have ran := ((redeemsKeyHash_iff_checkSig [] length present).mp redeems).2
  have executed : Script.execute (.standard verify context (.payToKeyHash hash))
      (.payToKeyHash hash) { stack := [key, signature] } = .ok () { stack := [[1]] } :=
    (execute_payToKeyHash length fits rfl rfl).mpr ⟨redeems.hashed, _, ran, rfl⟩
  have straight := isStraight_of_mem_payToKeyHash length
  exact Spend.exists_validate_of_items straight within executed rfl rfl rfl

/-- A spend from a script read from bytes of an output that asks for a key with a given hash is
valid if and only if the script is the shortest pushes of a signature and of a key that redeem the
output. Where it pushes the empty item for a signature, the checker must reject the placeholder. -/
theorem validate_payToKeyHash_iff {bytes : Bytes} (length : hash.length = 20)
    (parsed : Script.ofWire bytes = .ok unlocking)
    (placeholderRejected : ∀ key, unlocking = [.ofData [], .ofData key] →
      verify (sighash context (Script.payToKeyHash hash) Scope.all) ⟨1, 1⟩ key = false) :
    (∃ final, Spend.validate verify (.standard context unlocking (.payToKeyHash hash)) =
        .ok () final) ↔
      ∃ signature key, unlocking = [.ofData signature, .ofData key] ∧
        RedeemsKeyHash verify context hash signature key := by
  constructor
  · rintro ⟨final, valid⟩
    exact exists_redeemsKeyHash_of_validate length (Script.wellFormed_of_ofWire parsed)
      placeholderRejected valid
  · rintro ⟨signature, key, rfl, redeems⟩
    exact exists_validate_of_redeemsKeyHash length redeems

/-- The base point as a compressed public key, which belongs to the private key one. -/
def basePointKey : Bytes :=
  Bytes.ofNatBE 33 0x0279be667ef9dcbbac55a06295ce870b07029bfcdb2dce28d959f2815b16f81798

/-- A signature by the private key one, with the half of one as its nonce. -/
def basePointSignature : Bytes :=
  Bytes.ofNatBE 25 0x303902153b78ce563f89a0ed9414f5aa28ad0d96d6795f9c63 ++
    Bytes.ofNatBE 35 0x022004b7966bf2634b5292bf667064118a529b68dd507166d07b6703c020cc78fd0041

theorem redeemsKeyHash_basePointKey :
    RedeemsKeyHash Ecdsa.verify .bare (Digest.hash160 basePointKey) basePointSignature
      basePointKey := by
  have read : ScopedSignature.ofItem basePointSignature =
      .ok ⟨⟨0x3b78ce563f89a0ed9414f5aa28ad0d96d6795f9c63,
        0x04b7966bf2634b5292bf667064118a529b68dd507166d07b6703c020cc78fd00⟩, 0x41⟩ := by
    decide +kernel
  exact ⟨rfl, .inl (by decide), by decide +kernel, _, read, by decide +kernel, by decide +kernel,
    by decide +kernel⟩

/-- The owner of the private key one spends an output that asks for its key. -/
theorem validate_basePointKey : ∃ final, Spend.validate Ecdsa.verify (.standard .bare
    [.ofData basePointSignature, .ofData basePointKey]
      (.payToKeyHash (Digest.hash160 basePointKey))) = .ok () final := by
  have parsed : Script.ofWire (Script.toWire [.ofData basePointSignature, .ofData basePointKey]) =
      .ok [.ofData basePointSignature, .ofData basePointKey] := by
    decide +kernel
  have present : Chunk.ofData basePointSignature ≠ Chunk.ofData [] := by decide +kernel
  refine (validate_payToKeyHash_iff (Digest.length_hash160 _) parsed ?_).mpr
    ⟨basePointSignature, basePointKey, rfl, redeemsKeyHash_basePointKey⟩
  intro key same
  exact absurd (List.cons.inj same).1 present

end Spending

end ScriptSpend
