import Mathlib.Data.List.Nodup
import ScriptSpend.Proofs.PrefixFree
import ScriptSpend.Proofs.RunningSpends
import ScriptSpend.Sighash

/-!
# What a signed message commits to

The message that a signature signs has parts of fixed width around one part of variable length, so
equal messages have equal parts. Three of the parts are digests of longer messages. If no two of
these that differ have the same digest, and none has the digest of zeros that stands for a part left
out, then equal messages belong to transactions that agree in everything the scope covers, and in
nothing else.

## Main definitions

* `Sighash.condensed`: the longer messages that enter through their digests
* `Sighash.CoveredAlike`: two transactions agree in what a scope covers

## Main results

* `Sighash.preimage_eq_iff_parts`: equal messages have equal parts
* `Sighash.preimage_eq_iff_coveredAlike`: equal messages belong to transactions that agree in what
  the scope covers
-/

namespace ScriptSpend.Sighash

/-- The messages that enter the signed message through their digests. -/
def condensed (context : InputContext) (scope : Scope) : List Bytes :=
  (if scope.anyoneCanPay then [] else [prevoutBytes context])
    ++ (if scope.anyoneCanPay || limitsOutputs scope then [] else [sequenceBytes context])
    ++ (outputBytes? context scope).toList

/-- Two inputs and their transactions agree in everything that a scope covers. Inputs are compared
in the order of the transaction, which is that of `InputContext.inputs_eq_insertIdx`. Outputs are
compared by their values and the bytes of their scripts, and an input without an output at its
position is like any other such input. -/
@[mk_iff]
structure CoveredAlike (scope : Scope) (context other : InputContext) : Prop where
  version : context.version = other.version
  source : context.source = other.source
  satoshis : context.satoshis = other.satoshis
  sequence : context.sequence = other.sequence
  lockTime : context.lockTime = other.lockTime
  outpoints : scope.anyoneCanPay = false →
    context.inputs.map TxInput.outpoint = other.inputs.map TxInput.outpoint
  sequences : scope.anyoneCanPay = false → scope.baseType ≠ Scope.none →
    scope.baseType ≠ Scope.single →
      context.inputs.map TxInput.sequence = other.inputs.map TxInput.sequence
  outputs : scope.baseType ≠ Scope.none → scope.baseType ≠ Scope.single →
    context.outputs.map TxOutput.content = other.outputs.map TxOutput.content
  output : scope.baseType = Scope.single →
    (context.outputs[context.index]?).map TxOutput.content =
      (other.outputs[other.index]?).map TxOutput.content

variable {context other : InputContext} {scope otherScope : Scope}

instance : Decidable (CoveredAlike scope context other) :=
  decidable_of_iff' _ (coveredAlike_iff scope context other)

section Layout

variable {hash : Bytes → Bytes} {subscript otherSubscript : Script}

theorem length_prevoutDigest (wide : ∀ message, (hash message).length = 32) :
    (prevoutDigest hash context scope).length = 32 := by
  unfold prevoutDigest
  split
  · rfl
  · exact wide _

theorem length_sequenceDigest (wide : ∀ message, (hash message).length = 32) :
    (sequenceDigest hash context scope).length = 32 := by
  unfold sequenceDigest
  split
  · rfl
  · exact wide _

theorem length_outputDigest (wide : ∀ message, (hash message).length = 32) :
    (outputDigest hash context scope).length = 32 := by
  unfold outputDigest
  split
  · rfl
  · exact wide _

/-- Messages are equal if and only if all of their parts are. -/
theorem preimage_eq_iff_parts (wide : ∀ message, (hash message).length = 32) :
    preimage hash context subscript scope = preimage hash other otherSubscript otherScope ↔
      (context.version = other.version ∧
        prevoutDigest hash context scope = prevoutDigest hash other otherScope ∧
        sequenceDigest hash context scope = sequenceDigest hash other otherScope ∧
        context.source = other.source) ∧
      subscript.toWire = otherSubscript.toWire ∧ context.satoshis = other.satoshis ∧
      context.sequence = other.sequence ∧
      outputDigest hash context scope = outputDigest hash other otherScope ∧
      context.lockTime = other.lockTime ∧ scope = otherScope := by
  constructor
  · intro same
    -- The parts after the script text are cut off from the end, those before it from the front.
    obtain ⟨same, sameScope⟩ := List.append_inj' same (by simp)
    obtain ⟨same, sameLockTime⟩ := List.append_inj' same (by simp)
    obtain ⟨same, sameOutputs⟩ := List.append_inj' same
      (by rw [length_outputDigest wide, length_outputDigest wide])
    obtain ⟨same, sameSequence⟩ := List.append_inj' same (by simp)
    obtain ⟨same, sameSatoshis⟩ := List.append_inj' same (by simp)
    obtain ⟨same, sameText⟩ := List.append_inj same
      (by simp [length_prevoutDigest wide, length_sequenceDigest wide])
    obtain ⟨same, sameSource⟩ := List.append_inj' same (by simp)
    obtain ⟨same, sameSequences⟩ := List.append_inj' same
      (by rw [length_sequenceDigest wide, length_sequenceDigest wide])
    obtain ⟨sameVersion, samePrevouts⟩ := List.append_inj' same
      (by rw [length_prevoutDigest wide, length_prevoutDigest wide])
    have sameWord : context.version.toUInt32 = other.version.toUInt32 :=
      eq_of_ofNatLE_four_eq sameVersion
    exact ⟨⟨congrArg Int32.ofUInt32 sameWord, samePrevouts, sameSequences,
        Outpoint.toWire_injective sameSource⟩,
      withLength_injective sameText, eq_of_ofNatLE_eight_eq sameSatoshis,
      eq_of_ofNatLE_four_eq sameSequence, sameOutputs, eq_of_ofNatLE_four_eq sameLockTime,
      eq_of_ofNatLE_four_eq sameScope⟩
  · rintro ⟨⟨version, prevouts, sequences, source⟩, text, satoshis, sequence, outputs, lockTime,
      rfl⟩
    simp only [preimage, version, prevouts, sequences, source, text, satoshis, sequence, outputs,
      lockTime]

end Layout

section Parts

variable {hash : Bytes → Bytes}

theorem prevoutBytes_eq_iff :
    prevoutBytes context = prevoutBytes other ↔
      context.inputs.map TxInput.outpoint = other.inputs.map TxInput.outpoint := by
  have written (c : InputContext) :
      prevoutBytes c = (c.inputs.map TxInput.outpoint).flatMap Outpoint.toWire := by
    rw [List.flatMap_map]
    rfl
  rw [written, written]
  constructor
  · intro same
    have present : ∀ outpoint ∈ Set.univ, Outpoint.toWire outpoint ≠ [] :=
      fun outpoint _ absent => by simpa using congrArg List.length absent
    exact Outpoint.toWire_prefixFreeOn.flatMap_injOn present (by simp) (by simp) same
  · exact congrArg _

theorem sequenceBytes_eq_iff :
    sequenceBytes context = sequenceBytes other ↔
      context.inputs.map TxInput.sequence = other.inputs.map TxInput.sequence := by
  have written (c : InputContext) : sequenceBytes c =
      (c.inputs.map TxInput.sequence).flatMap fun n => Bytes.ofNatLE 4 n.toNat := by
    rw [List.flatMap_map]
    rfl
  rw [written, written]
  constructor
  · intro same
    have present : ∀ n ∈ Set.univ, Bytes.ofNatLE 4 (UInt32.toNat n) ≠ [] :=
      fun n _ absent => by simpa using congrArg List.length absent
    exact sequence_prefixFreeOn.flatMap_injOn present (by simp) (by simp) same
  · exact congrArg _

/-- A list of outputs is determined by its bytes if the lengths of the scripts can be counted. -/
theorem flatMap_toWire_eq_iff {outputs others : List TxOutput}
    (countable : ∀ output ∈ outputs ++ others, output.lockingScript.toWire.length < 2 ^ 64) :
    outputs.flatMap TxOutput.toWire = others.flatMap TxOutput.toWire ↔
      outputs.map TxOutput.content = others.map TxOutput.content := by
  have written (list : List TxOutput) :
      list.flatMap TxOutput.toWire = (list.map TxOutput.content).flatMap writeContent := by
    rw [List.flatMap_map]
    rfl
  have small {list : List TxOutput} (inside : list ⊆ outputs ++ others) :
      ∀ content ∈ list.map TxOutput.content, content.2.length < 2 ^ 64 := by
    intro content listed
    obtain ⟨output, present, rfl⟩ := List.mem_map.mp listed
    exact countable output (inside present)
  rw [written, written]
  constructor
  · exact writeContent_prefixFreeOn.flatMap_injOn (fun content _ => writeContent_ne_nil content)
      (small (List.subset_append_left _ _)) (small (List.subset_append_right _ _))
  · exact congrArg _

theorem limitsOutputs_eq_false_iff :
    limitsOutputs scope = false ↔ scope.baseType ≠ Scope.none ∧ scope.baseType ≠ Scope.single := by
  simp [limitsOutputs, and_comm]

/-- The covered outputs are determined by their bytes. -/
theorem outputBytes?_eq_iff (countable : ∀ output ∈ context.outputs ++ other.outputs,
    output.lockingScript.toWire.length < 2 ^ 64) :
    outputBytes? context scope = outputBytes? other scope ↔
      (scope.baseType ≠ Scope.none → scope.baseType ≠ Scope.single →
        context.outputs.map TxOutput.content = other.outputs.map TxOutput.content) ∧
      (scope.baseType = Scope.single →
        (context.outputs[context.index]?).map TxOutput.content =
          (other.outputs[other.index]?).map TxOutput.content) := by
  by_cases single : scope.baseType = Scope.single
  · have written (c : InputContext) : outputBytes? c scope =
        ((c.outputs[c.index]?).map TxOutput.content).map writeContent := by
      rw [outputBytes?, if_pos (by simp [limitsOutputs, single]), if_pos single, Option.map_map]
      rfl
    rw [written, written, Option.map_inj_right fun _ _ same => writeContent_injective same]
    simp [single]
  · by_cases nothing : scope.baseType = Scope.none
    · have written (c : InputContext) : outputBytes? c scope = none := by
        rw [outputBytes?, if_pos (by simp [limitsOutputs, nothing]), if_neg single]
      have apart : Scope.none ≠ Scope.single := by decide
      rw [written, written]
      simp [nothing, apart]
    · have whole : limitsOutputs scope = false := limitsOutputs_eq_false_iff.mpr ⟨nothing, single⟩
      simp [outputBytes?, whole, single, nothing, flatMap_toWire_eq_iff countable]

end Parts

section Digests

variable {hash : Bytes → Bytes}

theorem prevoutDigest_eq_iff
    (injective : Set.InjOn hash
      {message | message ∈ condensed context scope ∨ message ∈ condensed other scope}) :
    prevoutDigest hash context scope = prevoutDigest hash other scope ↔
      (scope.anyoneCanPay = false →
        context.inputs.map TxInput.outpoint = other.inputs.map TxInput.outpoint) := by
  cases anyone : scope.anyoneCanPay with
  | true => simp [prevoutDigest, anyone]
  | false =>
    have digested (c : InputContext) : prevoutDigest hash c scope = hash (prevoutBytes c) := by
      simp [prevoutDigest, anyone]
    have listed (c : InputContext) : prevoutBytes c ∈ condensed c scope := by
      simp [condensed, anyone]
    rw [digested, digested, injective.eq_iff (.inl (listed context)) (.inr (listed other)),
      prevoutBytes_eq_iff]
    simp

theorem sequenceDigest_eq_iff
    (injective : Set.InjOn hash
      {message | message ∈ condensed context scope ∨ message ∈ condensed other scope}) :
    sequenceDigest hash context scope = sequenceDigest hash other scope ↔
      (scope.anyoneCanPay = false → scope.baseType ≠ Scope.none →
        scope.baseType ≠ Scope.single →
          context.inputs.map TxInput.sequence = other.inputs.map TxInput.sequence) := by
  cases left : scope.anyoneCanPay || limitsOutputs scope with
  | true =>
    simp only [sequenceDigest, left, if_true, true_iff]
    intro alone nothing single
    rw [alone, limitsOutputs_eq_false_iff.mpr ⟨nothing, single⟩] at left
    cases left
  | false =>
    have digested (c : InputContext) : sequenceDigest hash c scope = hash (sequenceBytes c) := by
      simp [sequenceDigest, left]
    have listed (c : InputContext) : sequenceBytes c ∈ condensed c scope := by
      simp [condensed, left]
    obtain ⟨alone, whole⟩ := Bool.or_eq_false_iff.mp left
    obtain ⟨nothing, single⟩ := limitsOutputs_eq_false_iff.mp whole
    rw [digested, digested, injective.eq_iff (.inl (listed context)) (.inr (listed other)),
      sequenceBytes_eq_iff]
    simp [alone, nothing, single]

theorem outputDigest_eq_iff
    (injective : Set.InjOn hash
      {message | message ∈ condensed context scope ∨ message ∈ condensed other scope})
    (nonzero : ∀ message, message ∈ condensed context scope ∨ message ∈ condensed other scope →
      hash message ≠ blank) :
    outputDigest hash context scope = outputDigest hash other scope ↔
      outputBytes? context scope = outputBytes? other scope := by
  have listed {c : InputContext} {bytes : Bytes} (covered : outputBytes? c scope = some bytes) :
      bytes ∈ condensed c scope := by
    simp [condensed, covered]
  unfold outputDigest
  cases covered : outputBytes? context scope with
  | none =>
    cases coveredOther : outputBytes? other scope with
    | none => simp
    | some bytes => simpa using (nonzero bytes (.inr (listed coveredOther))).symm
  | some bytes =>
    cases coveredOther : outputBytes? other scope with
    | none => simpa using nonzero bytes (.inl (listed covered))
    | some otherBytes =>
      rw [injective.eq_iff (.inl (listed covered)) (.inr (listed coveredOther)),
        Option.some.injEq]

end Digests

/-- The condensed messages are told apart if they are in a list of messages whose digests differ
from each other and from the zeros. -/
theorem told_apart_of_nodup {hash : Bytes → Bytes} {messages : List Bytes}
    (apart : (blank :: messages.map hash).Nodup)
    (listed : condensed context scope ++ condensed other scope ⊆ messages) :
    Set.InjOn hash
        {message | message ∈ condensed context scope ∨ message ∈ condensed other scope} ∧
      ∀ message, message ∈ condensed context scope ∨ message ∈ condensed other scope →
        hash message ≠ blank := by
  rw [List.nodup_cons, List.mem_map] at apart
  have inside {message : Bytes}
      (found : message ∈ condensed context scope ∨ message ∈ condensed other scope) :
      message ∈ messages := listed (List.mem_append.mpr found)
  refine ⟨fun first found second foundToo same => ?_, fun message found digest => ?_⟩
  · exact List.inj_on_of_nodup_map apart.2 (inside found) (inside foundToo) same
  · exact apart.1 ⟨message, inside found, digest⟩

/-- The first of two inputs, whose transaction has one output at its position and another one. -/
def pairedContext (otherSequence : UInt32) (otherValue : UInt64) : InputContext :=
  { InputContext.bare with
    otherInputs := [⟨⟨.zero, 1⟩, otherSequence⟩]
    outputs := [⟨1, [.ofOpcode .one]⟩, ⟨otherValue, []⟩] }

end ScriptSpend.Sighash
