import ScriptSpend.Proofs.WellFormedChunks

/-!
# Reading back the bytes of scripts

The well-formed scripts and the byte strings that write them correspond to each other exactly. A
byte string that writes no script consists of whole chunks and, after them, a push whose length
field or payload runs past the end. The refusal names where that push starts.

## Main definitions

* `Chunk.IsCut`: the bytes after an opcode end inside its length field or its payload
* `Script.IsCutAt`: whole chunks are followed by a push that runs past the end

## Main results

* `Chunk.readPayload?_eq_some_iff`: one chunk is read exactly from its own bytes
* `Script.ofWireEnd_append`: reading goes on behind whole chunks
* `Script.ofWire_eq_ok_iff`, `Script.ofWire_eq_error_iff`: when reading succeeds, and why it fails
* `Script.ofWire_correspondence`: reading is the exact inverse of writing well-formed scripts
-/

namespace ScriptSpend

namespace Chunk

variable {op : Opcode} {bytes rest data : Bytes} {payload : Option Bytes} {width : Nat}

/-- The bytes after an opcode end inside its length field or inside its payload. -/
def IsCut (op : Opcode) (bytes : Bytes) : Prop :=
  ∃ width, Opcode.lengthWidth? op = some width ∧
    (bytes.length < width ∨ bytes.length < width + payloadLength op (bytes.take width))

/-- A payload cannot be read if and only if it or its length is cut off. -/
theorem readPayload?_eq_none_iff : readPayload? op bytes = none ↔ IsCut op bytes := by
  unfold readPayload? IsCut
  cases Opcode.lengthWidth? op with
  | none => simp
  | some width =>
    simp only [ite_eq_left_iff, reduceCtorEq, imp_false, not_not, Option.some.injEq,
      exists_eq_left', List.length_take, List.length_drop]
    omega

theorem toWire_of_lengthWidth? (found : Opcode.lengthWidth? op = some width) :
    toWire ⟨op, some data⟩ = op :: (Bytes.ofNatLE width data.length ++ data) := by
  simp [toWire, found]

/-- The length field of a well-formed chunk tells the length of its payload. -/
theorem payloadLength_of_wellFormed (wellFormed : WellFormed ⟨op, some data⟩)
    (found : Opcode.lengthWidth? op = some width) :
    payloadLength op (Bytes.ofNatLE width data.length) = data.length := by
  cases width with
  | zero =>
    simp only [WellFormed, found] at wellFormed
    exact wellFormed.symm
  | succ below =>
    simp only [WellFormed, found] at wellFormed
    have value : Bytes.toNatLE (Bytes.ofNatLE (below + 1) data.length) = data.length := by
      rw [Bytes.toNatLE_ofNatLE, Nat.mod_eq_of_lt wellFormed]
    rw [payloadLength, if_neg (by simp [Bytes.ofNatLE_succ]), value]

/-- The length field that was read is the one that would be written. -/
theorem ofNatLE_payloadLength {field : Bytes} (found : Opcode.lengthWidth? op = some width)
    (whole : field.length = width) : Bytes.ofNatLE width (payloadLength op field) = field := by
  subst whole
  cases field with
  | nil => rfl
  | cons byte field => exact Bytes.ofNatLE_toNatLE (byte :: field)

/-- A chunk is read exactly from its own bytes, whatever follows them. -/
theorem readPayload?_eq_some_iff :
    readPayload? op bytes = some (payload, rest) ↔
      WellFormed ⟨op, payload⟩ ∧ op :: bytes = toWire ⟨op, payload⟩ ++ rest := by
  constructor
  · intro read
    refine ⟨wellFormed_of_readPayload? read, ?_⟩
    unfold readPayload? at read
    split at read
    · rename_i bare
      cases read
      simp [toWire, bare]
    · rename_i width found
      dsimp only at read
      split at read
      · cases read
      · rename_i complete
        cases read
        -- Nothing was cut off, so the field and the payload are as long as asked for.
        have whole : (bytes.take width).length = width := by
          simp only [List.length_take] at complete ⊢
          omega
        have full : ((bytes.drop width).take (payloadLength op (bytes.take width))).length =
            payloadLength op (bytes.take width) := by
          have short := List.length_take_le (payloadLength op (bytes.take width))
            (bytes.drop width)
          omega
        rw [toWire_of_lengthWidth? found, full, ofNatLE_payloadLength found whole,
          List.cons_append, List.append_assoc, List.take_append_drop, List.take_append_drop]
  · rintro ⟨wellFormed, written⟩
    rcases wellFormed_cases wellFormed with ⟨bare, absent⟩ | ⟨width, data, found, present⟩
    · dsimp only at bare absent
      subst absent
      simp only [toWire, bare, List.cons_append, List.nil_append, List.cons.injEq,
        true_and] at written
      simp [readPayload?, bare, written]
    · dsimp only at found present
      subst present
      rw [toWire_of_lengthWidth? found, List.cons_append, List.append_assoc] at written
      obtain rfl := (List.cons.inj written).2
      have field : (Bytes.ofNatLE width data.length ++ (data ++ rest)).take width =
          Bytes.ofNatLE width data.length := List.take_left' (by simp)
      have body : (Bytes.ofNatLE width data.length ++ (data ++ rest)).drop width = data ++ rest :=
        List.drop_left' (by simp)
      simp [readPayload?, found, field, body, payloadLength_of_wellFormed wellFormed found]

end Chunk

namespace Script

variable {script : Script} {bytes tail : Bytes} {total : Nat} {e : ParseError}

@[simp] theorem toWire_nil : toWire [] = [] := rfl

@[simp] theorem toWire_cons (chunk : Chunk) (script : Script) :
    toWire (chunk :: script) = chunk.toWire ++ toWire script := rfl

section Ends

theorem ofWireEnd_cons_of_none {op : Opcode} (cut : Chunk.readPayload? op bytes = none) :
    ofWireEnd total (op :: bytes) = .error (.truncatedPush (total - (bytes.length + 1))) := by
  rw [ofWireEnd]
  split
  · rfl
  · rename_i read
    cases cut.symm.trans read

theorem ofWireEnd_cons_of_some {op : Opcode} {payload : Option Bytes}
    (read : Chunk.readPayload? op bytes = some (payload, tail)) :
    ofWireEnd total (op :: bytes) = (ofWireEnd total tail).map (⟨op, payload⟩ :: ·) := by
  rw [ofWireEnd]
  split
  · rename_i cut
    cases cut.symm.trans read
  · rename_i readAgain
    cases read.symm.trans readAgain
    dsimp only
    cases ofWireEnd total tail <;> rfl

/-- Reading goes on behind the bytes of whole chunks. -/
theorem ofWireEnd_append (wellFormed : script.WellFormed) :
    ofWireEnd total (script.toWire ++ tail) = (ofWireEnd total tail).map (script ++ ·) := by
  -- By induction on the whole chunks, each of which is read from its own bytes.
  induction script with
  | nil =>
    cases read : ofWireEnd total tail <;> simp [read, Except.map]
  | cons chunk script ih =>
    have later := ih fun c listed => wellFormed c (by simp [listed])
    obtain ⟨body, written⟩ : ∃ body, chunk.toWire = chunk.opcode :: body :=
      List.head?_eq_some_iff.mp Chunk.head?_toWire
    have read : Chunk.readPayload? chunk.opcode (body ++ (toWire script ++ tail)) =
        some (chunk.payload, toWire script ++ tail) :=
      Chunk.readPayload?_eq_some_iff.mpr ⟨wellFormed chunk (by simp), by
        rw [← List.cons_append, ← written]⟩
    rw [toWire_cons, List.append_assoc, written, List.cons_append, ofWireEnd_cons_of_some read,
      later]
    cases ofWireEnd total tail <;> rfl

/-- What was read is written as it stood. -/
theorem toWire_of_ofWireEnd (read : ofWireEnd total bytes = .ok script) :
    script.toWire = bytes := by
  fun_induction ofWireEnd total bytes generalizing script with
  | case1 =>
    cases read
    rfl
  | case2 => cases read
  | case3 => cases read
  | case4 op rest payload remaining found _ chunks readChunks ih =>
    cases read
    rw [(Chunk.readPayload?_eq_some_iff.mp found).2, toWire_cons, ih readChunks]

/-- Reading fails at the first push that runs past the end. -/
theorem exists_isCut_of_ofWireEnd (refused : ofWireEnd total bytes = .error e) :
    ∃ (script : Script) (op : Opcode) (rest : Bytes), script.WellFormed ∧
      bytes = script.toWire ++ op :: rest ∧ Chunk.IsCut op rest ∧
        e = .truncatedPush (total - (rest.length + 1)) := by
  fun_induction ofWireEnd total bytes with
  | case1 => cases refused
  | case2 op rest cut =>
    cases refused
    exact ⟨[], op, rest, by simp [WellFormed], rfl, Chunk.readPayload?_eq_none_iff.mp cut, rfl⟩
  | case3 op rest payload remaining found _ cause failed ih =>
    cases refused
    obtain ⟨wellFormed, written⟩ := Chunk.readPayload?_eq_some_iff.mp found
    obtain ⟨script, cutOp, cutRest, scriptWellFormed, rfl, cut, named⟩ := ih failed
    refine ⟨⟨op, payload⟩ :: script, cutOp, cutRest, wellFormed_cons wellFormed scriptWellFormed,
      ?_, cut, named⟩
    rw [written, toWire_cons, List.append_assoc]
  | case4 => cases refused

end Ends

/-- The bytes before an offset write whole chunks, and those from it on a push that runs past the
end. -/
def IsCutAt (bytes : Bytes) (offset : Nat) : Prop :=
  (∃ script, ofWire (bytes.take offset) = .ok script) ∧
    ∃ op rest, bytes.drop offset = op :: rest ∧ Chunk.IsCut op rest

/-- A script is read from its own bytes and from no others. -/
theorem ofWire_eq_ok_iff :
    ofWire bytes = .ok script ↔ script.WellFormed ∧ script.toWire = bytes := by
  constructor
  · exact fun read => ⟨wellFormed_of_ofWire read, toWire_of_ofWireEnd read⟩
  · rintro ⟨wellFormed, rfl⟩
    have whole := @ofWireEnd_append script [] script.toWire.length wellFormed
    rw [List.append_nil] at whole
    rw [ofWire, whole, ofWireEnd, Except.map, List.append_nil]

/-- Reading fails if and only if a push runs past the end, and tells where it starts. -/
theorem ofWire_eq_error_iff :
    ofWire bytes = .error e ↔ ∃ offset, e = .truncatedPush offset ∧ IsCutAt bytes offset := by
  constructor
  · intro refused
    obtain ⟨script, op, rest, wellFormed, rfl, cut, rfl⟩ := exists_isCut_of_ofWireEnd refused
    refine ⟨script.toWire.length, ?_, ⟨script, ?_⟩, op, rest, ?_, cut⟩
    · rw [List.length_append, List.length_cons, Nat.add_sub_cancel]
    · rw [List.take_left]
      exact ofWire_eq_ok_iff.mpr ⟨wellFormed, rfl⟩
    · rw [List.drop_left]
  · rintro ⟨offset, rfl, ⟨script, read⟩, op, rest, left, cut⟩
    obtain ⟨wellFormed, written⟩ := ofWire_eq_ok_iff.mp read
    have whole : bytes = script.toWire ++ op :: rest := by
      rw [written, ← left, List.take_append_drop]
    have start : offset = script.toWire.length := by
      have short := congrArg List.length left
      rw [written, List.length_take]
      rw [List.length_drop, List.length_cons] at short
      omega
    rw [ofWire, whole, ofWireEnd_append wellFormed,
      ofWireEnd_cons_of_none (Chunk.readPayload?_eq_none_iff.mpr cut), List.length_append,
      List.length_cons, Nat.add_sub_cancel, start]
    rfl

/-- A script is read from some bytes if and only if it is well formed. -/
theorem exists_ofWire_iff : (∃ bytes, ofWire bytes = .ok script) ↔ script.WellFormed := by
  constructor
  · rintro ⟨bytes, read⟩
    exact wellFormed_of_ofWire read
  · intro wellFormed
    exact ⟨_, ofWire_eq_ok_iff.mpr ⟨wellFormed, rfl⟩⟩

/-- Reading is the exact inverse of writing: it accepts the bytes of the well-formed scripts and no
others, gives back the script that they write, and otherwise names a push that runs past the end
behind whole chunks. A script is well formed if each opcode can carry the payload that it has. -/
theorem ofWire_correspondence (bytes : Bytes) :
    (∀ script : Script, script.WellFormed ↔
      ∀ chunk ∈ script, chunk.opcode.Carries chunk.payload) ∧
    (∀ script, ofWire (toWire script) = .ok script ↔ script.WellFormed) ∧
    (∀ script, ofWire bytes = .ok script ↔ script.WellFormed ∧ script.toWire = bytes) ∧
    ((∃ e, ofWire bytes = .error e) ↔
      ¬ ∃ script : Script, script.WellFormed ∧ script.toWire = bytes) ∧
    ∀ e, ofWire bytes = .error e ↔ ∃ offset, e = .truncatedPush offset ∧ IsCutAt bytes offset := by
  refine ⟨?_, ?_, ?_, ?_, ?_⟩
  · intro script
    exact forall₂_congr fun chunk _ => chunk.wellFormed_iff_carries
  · intro script
    rw [ofWire_eq_ok_iff, and_iff_left rfl]
  · intro script
    exact ofWire_eq_ok_iff
  · constructor
    · rintro ⟨e, refused⟩ ⟨script, written⟩
      cases refused.symm.trans (ofWire_eq_ok_iff.mpr written)
    · intro unwritten
      cases read : ofWire bytes with
      | ok script => exact absurd ⟨script, ofWire_eq_ok_iff.mp read⟩ unwritten
      | error e => exact ⟨e, rfl⟩
  · intro e
    exact ofWire_eq_error_iff

end Script

end ScriptSpend
