import ScriptSpend.Proofs.Pushing
import ScriptSpend.Proofs.SignMagnitude

/-!
# Pushes of data and of numbers

Which opcode pushes some data is decided in several places: where a push is built, where it is
judged to be minimal, where a number is pushed, and where the opcode of a small number is executed.
They agree on all data and on all numbers.

## Main results

* `Chunk.ofNumber_eq_ofData`: the push of a number is the shortest push of its encoding
* `Chunk.push_exact`: the push that is built for some data is minimal and pushes that data, and so
  it is with the encodings of numbers of 64 bits
-/

namespace ScriptSpend

open ScriptNumber

namespace Chunk

/-- The numbers that the small constants stand for. -/
theorem decode_small : ∀ byte : UInt8, 1 ≤ byte ∧ byte ≤ 16 →
    1 ≤ ScriptNumber.decode [byte] ∧ ScriptNumber.decode [byte] ≤ 16 :=
  forall_byte (by decide +kernel)

theorem ofNumber_eq_ofData_of_small {n : Int} (small : 1 ≤ n ∧ n ≤ 16) :
    ofNumber n = ofData (encode n) := by
  have value : ((UInt8.ofNat n.toNat).toNat : Int) = n := by
    rw [UInt8.toNat_ofNat_of_lt' (show n.toNat < 2 ^ 8 by omega)]
    omega
  have least : 1 ≤ (UInt8.ofNat n.toNat).toNat := by omega
  have greatest : (UInt8.ofNat n.toNat).toNat ≤ 16 := by omega
  have bounds : 1 ≤ UInt8.ofNat n.toNat ∧ UInt8.ofNat n.toNat ≤ 16 :=
    ⟨UInt8.le_iff_toNat_le.mpr least, UInt8.le_iff_toNat_le.mpr greatest⟩
  obtain ⟨-, encoded, -⟩ := constant_ofSmall _ bounds
  rw [value] at encoded
  rw [encoded, ofData, if_pos bounds, ofNumber, if_neg (by omega), if_neg (by omega), if_pos small]

/-- The push of a number is the shortest push of its encoding. -/
theorem ofNumber_eq_ofData (n : Int) : ofNumber n = ofData (encode n) := by
  by_cases zero : n = 0
  · rw [zero]
    rfl
  by_cases minusOne : n = -1
  · rw [minusOne]
    decide +kernel
  by_cases small : 1 ≤ n ∧ n ≤ 16
  · exact ofNumber_eq_ofData_of_small small
  -- No other number has an encoding that a constant pushes.
  have value := decode_encode n
  rw [ofNumber, if_neg zero, if_neg minusOne, if_neg small]
  match encoded : encode n with
  | [] => exact absurd (encode_eq_nil_iff.mp encoded) zero
  | [byte] =>
    rw [encoded] at value
    have large : ¬ (1 ≤ byte ∧ byte ≤ 16) := fun bounds => small (value ▸ decode_small byte bounds)
    have other : byte ≠ 0x81 := by
      rintro rfl
      exact minusOne value.symm
    rw [ofData, if_neg large, if_neg other]
  | first :: second :: rest => rfl

/-- Nine bytes hold every number of 64 bits. -/
theorem length_encode_toInt_le (n : Int64) : (encode n.toInt).length ≤ 9 := by
  have low := n.le_toInt
  have high := n.toInt_lt
  rw [length_encode_le_iff]
  omega

/-- Data of at most one gibibyte has a push. It is minimal, and on a branch that is taken it pushes
just that data, wherever an element may be as long. The push of a number of 64 bits is that of its
encoding. -/
theorem push_exact :
    (∀ data : Bytes, data.length ≤ maxPush →
      ∃ chunk, push data = .ok chunk ∧ chunk.isMinimalPush = true ∧
        ∀ (env : Environment) (machine : Machine),
          data.length ≤ env.policy.maxElementSize.toNat → machine.isExecuting = true →
          chunk.execute env machine = .ok .next { machine with stack := data :: machine.stack }) ∧
    ∀ (script : Script) (n : Int64),
      ∃ chunk, script.appendNumber n.toInt = script ++ [chunk] ∧
        script.appendData (encode n.toInt) = .ok (script ++ [chunk]) ∧
        ∀ (env : Environment) (machine : Machine),
          (encode n.toInt).length ≤ env.policy.maxElementSize.toNat → machine.isExecuting = true →
          chunk.execute env machine =
            .ok .next { machine with stack := encode n.toInt :: machine.stack } := by
  refine ⟨fun data short => ?_, fun script n => ?_⟩
  · refine ⟨ofData data, if_neg (Nat.not_lt.mpr short), isMinimalPush_ofData data, ?_⟩
    exact fun env machine => execute_ofData
  · have short : (encode n.toInt).length ≤ maxPush :=
      (length_encode_toInt_le n).trans (by decide)
    refine ⟨ofData (encode n.toInt), ?_, ?_, fun env machine => execute_ofData⟩
    · rw [Script.appendNumber, ofNumber_eq_ofData]
    · rw [Script.appendData, push, if_neg (Nat.not_lt.mpr short)]

/-- The lengths on both sides of each boundary between two opcodes, the next opcode below its
boundary, and the one number whose encoding takes nine bytes. -/
theorem push_exact_boundaries :
    let env : Environment := ⟨{}, fun _ _ _ => false, [], none⟩
    let machine : Machine := { stack := [[7]], alt := [[8]] }
    let data (length : Nat) : Bytes := List.replicate length 0xff
    let least : Bytes := [0x00, 0x00, 0x00, 0x00, 0x00, 0x00, 0x00, 0x80, 0x80]
    (∀ entry ∈ [(75, (75 : Opcode)), (76, .pushData1), (255, .pushData1), (256, .pushData2),
        (65535, .pushData2), (65536, .pushData4)],
      let chunk : Chunk := ⟨entry.2, some (data entry.1)⟩
      push (data entry.1) = .ok chunk ∧ chunk.isMinimalPush = true ∧
        chunk.execute env machine = .ok .next { machine with stack := [data entry.1, [7]] }) ∧
      (∀ entry ∈ [(75, Opcode.pushData1), (255, .pushData2), (65535, .pushData4)],
        (⟨entry.2, some (data entry.1)⟩ : Chunk).isMinimalPush = false) ∧
      encode Int64.minValue.toInt = least ∧
      (ofNumber Int64.minValue.toInt).execute env machine =
        .ok .next { machine with stack := [least, [7]] } := by
  intro env machine data least
  obtain ⟨pushes, numbers⟩ := push_exact
  have length (count : Nat) : (data count).length = count := List.length_replicate
  refine ⟨fun entry listed => ?_, fun entry listed => ?_, ?_⟩
  · -- The data itself is never evaluated: its length alone chooses the opcode.
    have shape : 2 ≤ entry.1 ∧ entry.1 ≤ 65536 ∧ Opcode.pushing entry.1 = entry.2 := by
      revert entry
      decide
    obtain ⟨long, short, opcode⟩ := shape
    have limit : env.policy.maxElementSize.toNat = maxPush := by decide
    have pushable : (data entry.1).length ≤ maxPush := by
      rw [length]
      exact short.trans (by decide)
    have built : ofData (data entry.1) = ⟨entry.2, some (data entry.1)⟩ := by
      rw [ofData_of_two_le (by rwa [length]), direct, length, opcode]
    obtain ⟨chunk, pushed, minimal, executed⟩ := pushes (data entry.1) pushable
    obtain rfl : (⟨entry.2, some (data entry.1)⟩ : Chunk) = chunk := by
      rw [push, if_neg (Nat.not_lt.mpr pushable), built] at pushed
      exact Except.ok.inj pushed
    exact ⟨pushed, minimal, executed env machine (limit ▸ pushable) rfl⟩
  · have shape : 2 ≤ entry.1 ∧ entry.2.isPush = true ∧
        (entry.2 == Opcode.pushing entry.1) = false := by
      revert entry
      decide
    obtain ⟨long, carries, other⟩ := shape
    rw [isMinimalPush_of_two_le carries (by rwa [length]), length, other]
  · have encoded : encode Int64.minValue.toInt = least := by decide +kernel
    obtain ⟨number, appended, -, runs⟩ := numbers [] Int64.minValue
    obtain rfl : ofNumber Int64.minValue.toInt = number := by
      simpa [Script.appendNumber] using appended
    rw [encoded] at runs
    exact ⟨encoded, runs env machine (by decide) rfl⟩

end Chunk

end ScriptSpend
