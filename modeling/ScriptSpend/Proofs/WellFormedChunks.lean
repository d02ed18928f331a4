import ScriptSpend.Proofs.NumberForm
import ScriptSpend.Script.Wire

/-!
# Well-formed chunks

A chunk read from bytes is well formed, and so is the shortest push of some data. The bytes of a
well-formed chunk determine it. A push that is minimal and well formed is the shortest push of its
own payload.

## Main definitions

* `Opcode.Carries`: the payloads that an opcode can carry, class by class

## Main results

* `Opcode.isShortestFor_eq`: one opcode has the shortest length field, and pushes are built with it
* `Chunk.wellFormed_iff_carries`: the well-formed chunks are those whose opcode can carry their
  payload
* `Script.wellFormed_of_ofWire`: what is read from bytes is well formed
* `Chunk.eq_of_toWire_eq`: well-formed chunks with the same bytes are the same
* `Chunk.eq_ofData_of_isMinimalPush`: a minimal push is the shortest one
-/

namespace ScriptSpend

/-- The payloads that an opcode can carry, class by class: a direct push one of its own length, the
pushes with a length field one that fits into one, two or four bytes, and any other opcode none. -/
def Opcode.Carries (op : Opcode) (payload : Option Bytes) : Prop :=
  if 0x01 ≤ op ∧ op ≤ 0x4b then ∃ data, payload = some data ∧ data.length = op.toNat
  else if op = 0x4c then ∃ data, payload = some data ∧ data.length ≤ 255
  else if op = 0x4d then ∃ data, payload = some data ∧ data.length ≤ 65535
  else if op = 0x4e then ∃ data, payload = some data ∧ data.length ≤ 2 ^ 32 - 1
  else payload = none

/-- The width of the length field, class by class. -/
theorem Opcode.lengthWidth?_eq (op : Opcode) :
    op.lengthWidth? =
      if 0x01 ≤ op ∧ op ≤ 0x4b then some 0
      else if op = 0x4c then some 1
      else if op = 0x4d then some 2
      else if op = 0x4e then some 4
      else none := by
  unfold lengthWidth? pushData1 pushData2 pushData4
  grind

/-- One opcode takes the fewest bytes, and it is the one that pushes are built with. -/
theorem Opcode.isShortestFor_eq (op : Opcode) (length : Nat) :
    op.isShortestFor length = (op == .pushing length) := by
  unfold isShortestFor pushing
  split
  · rename_i short
    have value : (UInt8.ofNat length).toNat = length :=
      UInt8.toNat_ofNat_of_lt' (short.trans (by decide))
    rw [Bool.eq_iff_iff, beq_iff_eq, beq_iff_eq, ← UInt8.toNat_inj, value]
  · split
    · rfl
    · split <;> rfl

namespace Chunk

variable {chunk other : Chunk} {op : Opcode} {data : Bytes}

section Shapes

/-- The chunks that are well formed, class by class. -/
theorem wellFormed_iff_carries : chunk.WellFormed ↔ chunk.opcode.Carries chunk.payload := by
  obtain ⟨op, payload⟩ := chunk
  simp only [WellFormed, Opcode.Carries, Opcode.lengthWidth?_eq]
  -- The largest length that a field can hold is one below the power of its width.
  split_ifs <;> cases payload <;> simp <;> omega

/-- The ways in which a chunk can be well formed. -/
theorem wellFormed_cases (wellFormed : chunk.WellFormed) :
    (Opcode.lengthWidth? chunk.opcode = none ∧ chunk.payload = none) ∨
      ∃ width data, Opcode.lengthWidth? chunk.opcode = some width ∧ chunk.payload = some data := by
  unfold WellFormed at wellFormed
  split at wellFormed
  · rename_i noWidth noPayload
    exact .inl ⟨noWidth, noPayload⟩
  · rename_i data direct payload
    exact .inr ⟨0, data, direct, payload⟩
  · rename_i width data _ found payload
    exact .inr ⟨width, data, found, payload⟩
  · exact wellFormed.elim

/-- The payloads that an opcode can carry. -/
theorem wellFormed_payload (wellFormed : WellFormed ⟨op, some data⟩) :
    (Opcode.lengthWidth? op = some 0 ∧ data.length = op.toNat) ∨
      ∃ below, Opcode.lengthWidth? op = some (below + 1) ∧ data.length < 256 ^ (below + 1) := by
  rcases wellFormed_cases wellFormed with ⟨-, absent⟩ | ⟨width, -, found, -⟩
  · cases absent
  · dsimp only at found
    cases width with
    | zero =>
      simp only [WellFormed, found] at wellFormed
      exact .inl ⟨found, wellFormed⟩
    | succ below =>
      simp only [WellFormed, found] at wellFormed
      exact .inr ⟨below, found, wellFormed⟩

theorem wellFormed_ofOpcode (bare : Opcode.lengthWidth? op = none) : (ofOpcode op).WellFormed := by
  simp [WellFormed, ofOpcode, bare]

theorem wellFormed_of_length_eq (width : Opcode.lengthWidth? op = some 0)
    (length : data.length = op.toNat) : WellFormed ⟨op, some data⟩ := by
  simp [WellFormed, width, length]

theorem wellFormed_of_length_lt {below : Nat} (width : Opcode.lengthWidth? op = some (below + 1))
    (short : data.length < 256 ^ (below + 1)) : WellFormed ⟨op, some data⟩ := by
  simp [WellFormed, width, short]

end Shapes

section Reading

theorem wellFormed_of_readPayload? {bytes rest : Bytes} {payload : Option Bytes}
    (read : readPayload? op bytes = some (payload, rest)) : WellFormed ⟨op, payload⟩ := by
  unfold readPayload? at read
  split at read
  · rename_i bare
    simp only [Option.some.injEq, Prod.mk.injEq] at read
    obtain ⟨rfl, rfl⟩ := read
    exact wellFormed_ofOpcode bare
  · rename_i width found
    dsimp only at read
    split at read
    · cases read
    · rename_i complete
      simp only [Option.some.injEq, Prod.mk.injEq] at read
      obtain ⟨rfl, -⟩ := read
      have fieldShort : (bytes.take width).length ≤ width := List.length_take_le _ _
      generalize bytes.take width = field at complete fieldShort
      have dataShort : ((bytes.drop width).take (payloadLength op field)).length ≤
          payloadLength op field := List.length_take_le _ _
      generalize (bytes.drop width).take (payloadLength op field) = data at complete dataShort
      -- Neither can be longer than what was asked for, and together they are not shorter.
      have fieldWhole : field.length = width := by omega
      have dataWhole : data.length = payloadLength op field := by omega
      cases width with
      | zero =>
        obtain rfl : field = [] := List.length_eq_zero_iff.mp fieldWhole
        exact wellFormed_of_length_eq found dataWhole
      | succ below =>
        have counted : payloadLength op field = Bytes.toNatLE field := by
          cases field with
          | nil => cases fieldWhole
          | cons byte field => rfl
        refine wellFormed_of_length_lt found ?_
        rw [dataWhole, counted, ← fieldWhole]
        exact Bytes.toNatLE_lt field

end Reading

section Wire

theorem head?_toWire : chunk.toWire.head? = some chunk.opcode := by
  unfold toWire
  split <;> rfl

/-- The opcode tells whether there is a payload and how its length is written, so the bytes of a
well-formed chunk determine it. -/
theorem eq_of_toWire_eq (wellFormed : chunk.WellFormed) (otherWellFormed : other.WellFormed)
    (same : chunk.toWire = other.toWire) : chunk = other := by
  obtain ⟨op, payload⟩ := chunk
  obtain ⟨otherOp, otherPayload⟩ := other
  obtain rfl : op = otherOp := by
    have first := congrArg List.head? same
    rwa [head?_toWire, head?_toWire, Option.some.injEq] at first
  rcases wellFormed_cases wellFormed with ⟨bare, none⟩ | ⟨width, data, found, some⟩
  · rcases wellFormed_cases otherWellFormed with ⟨-, otherNone⟩ | ⟨width, data, otherFound, -⟩
    · rw [show payload = otherPayload from none.trans otherNone.symm]
    · cases bare.symm.trans otherFound
  · rcases wellFormed_cases otherWellFormed with ⟨bare, -⟩ | ⟨-, otherData, -, otherSome⟩
    · cases found.symm.trans bare
    · dsimp only at found some otherSome
      subst some otherSome
      simp only [toWire, found, List.cons.injEq, true_and] at same
      -- The length fields are as wide as each other, so what follows them is the same as well.
      have split := List.append_inj same (by simp)
      rw [split.2]

end Wire

section Shortest

theorem eq_zero_of_isPush (op : Opcode) (push : op.isPush = true)
    (bare : Opcode.lengthWidth? op = none) : op = .zero := by
  simp only [Opcode.isPush, Opcode.pushData4, Opcode.zero, Opcode.lengthWidth?, Opcode.pushData1,
    Opcode.pushData2] at push bare ⊢
  grind

theorem lengthWidth?_of_not_isPush (op : Opcode) (bare : op.isPush = false) :
    Opcode.lengthWidth? op = none := by
  simp only [Opcode.isPush, Opcode.pushData4, Opcode.lengthWidth?, Opcode.pushData1,
    Opcode.pushData2] at bare ⊢
  grind

theorem isPush_ofSmall (byte : UInt8) (small : 1 ≤ byte ∧ byte ≤ 16) :
    Opcode.isPush (.ofSmall byte) = false := by
  simp only [Opcode.isPush, Opcode.ofSmall, Opcode.one, Opcode.pushData4]
  grind

theorem lengthWidth?_ofSmall (byte : UInt8) (small : 1 ≤ byte ∧ byte ≤ 16) :
    Opcode.lengthWidth? (.ofSmall byte) = none :=
  lengthWidth?_of_not_isPush _ (isPush_ofSmall byte small)

/-- A well-formed chunk that carries no payload is its opcode alone. -/
theorem eq_ofOpcode_of_not_isPush (wellFormed : chunk.WellFormed)
    (bare : chunk.opcode.isPush = false) : chunk = ofOpcode chunk.opcode := by
  have noWidth := lengthWidth?_of_not_isPush _ bare
  rcases wellFormed_cases wellFormed with ⟨-, absent⟩ | ⟨width, data, found, -⟩
  · obtain ⟨op, payload⟩ := chunk
    rw [show payload = none from absent]
    rfl
  · cases noWidth.symm.trans found

theorem isPush_pushing (length : Nat) : (Opcode.pushing length).isPush = true := by
  have direct : ∀ n < 0x4c, Opcode.isPush (UInt8.ofNat n) = true := by decide
  unfold Opcode.pushing
  split
  · exact direct length ‹_›
  · split
    · rfl
    · split <;> rfl

theorem wellFormed_direct (present : data ≠ []) (counted : data.length < 256 ^ 4) :
    (direct data).WellFormed := by
  have positive : 0 < data.length := List.length_pos_iff.mpr present
  unfold direct Opcode.pushing
  by_cases one : data.length < 0x4c
  · rw [if_pos one]
    have width : ∀ n < 0x4c, 0 < n → Opcode.lengthWidth? (UInt8.ofNat n) = some 0 := by decide
    have byte : (UInt8.ofNat data.length).toNat = data.length :=
      UInt8.toNat_ofNat_of_lt' (by rw [UInt8.size]; omega)
    exact wellFormed_of_length_eq (width _ one positive) byte.symm
  · rw [if_neg one]
    by_cases two : data.length ≤ 0xff
    · rw [if_pos two]
      exact wellFormed_of_length_lt rfl (by omega)
    · rw [if_neg two]
      by_cases three : data.length ≤ 0xffff
      · rw [if_pos three]
        exact wellFormed_of_length_lt rfl (by omega)
      · rw [if_neg three]
        exact wellFormed_of_length_lt rfl (by omega)

/-- The shortest push of data that may be pushed is well formed. -/
theorem wellFormed_ofData (short : data.length ≤ maxPush) : (ofData data).WellFormed := by
  have counted : data.length < 256 ^ 4 := Nat.lt_of_le_of_lt short (by decide)
  unfold ofData
  split
  · exact wellFormed_ofOpcode rfl
  · rename_i byte
    split
    · rename_i small
      exact wellFormed_ofOpcode (lengthWidth?_ofSmall byte small)
    · split
      · exact wellFormed_ofOpcode rfl
      · exact wellFormed_direct (List.cons_ne_nil _ _) counted
  · rename_i absent _
    exact wellFormed_direct (fun none => absent none) counted

theorem isMinimalPush_of_not_isPush (bare : chunk.opcode.isPush = false) :
    chunk.isMinimalPush = true := by
  have beyond : Opcode.pushData4 < chunk.opcode := by
    simpa [Opcode.isPush] using bare
  rw [isMinimalPush, if_pos beyond]

/-- The rule for a push, with the opcodes that pushes are built with. -/
theorem isMinimalPush_of_isPush (push : chunk.opcode.isPush = true) :
    chunk.isMinimalPush =
      match chunk.data with
      | [] => chunk.opcode == .zero
      | [byte] =>
        if byte = 0x81 then chunk.opcode == .minusOne
        else if 1 ≤ byte ∧ byte ≤ 16 then chunk.opcode == .ofSmall byte
        else chunk.opcode == .pushing 1
      | data => chunk.opcode == .pushing data.length := by
  have within : ¬ Opcode.pushData4 < chunk.opcode := by
    simpa [Opcode.isPush] using push
  rw [isMinimalPush, if_neg within]
  simp only [Opcode.isShortestFor_eq]
  rfl

/-- No constant stands for more than one byte. -/
theorem ofData_of_two_le (long : 2 ≤ data.length) : ofData data = direct data := by
  match data with
  | first :: second :: rest => rfl

theorem isMinimalPush_of_two_le (push : op.isPush = true)
    (long : 2 ≤ data.length) :
    (⟨op, some data⟩ : Chunk).isMinimalPush = (op == .pushing data.length) := by
  rw [isMinimalPush_of_isPush push]
  match data with
  | first :: second :: rest => rfl

/-- A minimal push is the shortest one of its payload. -/
theorem eq_ofData_of_isMinimalPush (wellFormed : chunk.WellFormed)
    (push : chunk.opcode.isPush = true) (minimal : chunk.isMinimalPush = true) :
    chunk = ofData chunk.data := by
  obtain ⟨op, payload⟩ := chunk
  rcases wellFormed_cases wellFormed with ⟨bare, none⟩ | ⟨width, data, found, some⟩
  · dsimp only at push bare none
    obtain rfl := eq_zero_of_isPush op push bare
    rw [none]
    rfl
  · dsimp only at push found some
    subst some
    rw [isMinimalPush_of_isPush push] at minimal
    simp only [Chunk.data, Option.getD_some] at minimal
    match data with
    | [] =>
      rw [beq_iff_eq] at minimal
      rw [minimal] at found
      cases found
    | [byte] =>
      dsimp only at minimal
      by_cases negative : byte = 0x81
      · rw [if_pos negative, beq_iff_eq] at minimal
        rw [minimal] at push
        cases push
      · rw [if_neg negative] at minimal
        by_cases small : 1 ≤ byte ∧ byte ≤ 16
        · rw [if_pos small, beq_iff_eq] at minimal
          rw [minimal, isPush_ofSmall byte small] at push
          cases push
        · rw [if_neg small, beq_iff_eq] at minimal
          simp [ofData, Chunk.data, direct, small, negative, minimal]
    | first :: second :: rest =>
      simp only [beq_iff_eq] at minimal
      simp [ofData, Chunk.data, direct, minimal]

end Shortest

end Chunk

namespace Script

theorem wellFormed_cons {chunk : Chunk} {script : Script} (first : chunk.WellFormed)
    (later : script.WellFormed) :
    WellFormed (chunk :: script) := by
  intro other listed
  rcases List.mem_cons.mp listed with rfl | listed
  · exact first
  · exact later other listed

theorem wellFormed_of_ofWireEnd {total : Nat} {bytes : Bytes} {script : Script}
    (read : ofWireEnd total bytes = .ok script) : script.WellFormed := by
  fun_induction ofWireEnd total bytes generalizing script with
  | case1 =>
    cases read
    simp [WellFormed]
  | case2 => cases read
  | case3 => cases read
  | case4 op rest payload remaining found _ chunks readChunks ih =>
    cases read
    exact wellFormed_cons (Chunk.wellFormed_of_readPayload? found) (ih readChunks)

/-- What is read from bytes is well formed. -/
theorem wellFormed_of_ofWire {bytes : Bytes} {script : Script} (read : ofWire bytes = .ok script) :
    script.WellFormed := wellFormed_of_ofWireEnd read

end Script

end ScriptSpend
