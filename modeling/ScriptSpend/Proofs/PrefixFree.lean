import Mathlib.Algebra.Group.Nat.Defs
import Mathlib.Data.Set.Function
import ScriptSpend.Transaction

/-!
# Writings that can be told apart

A way to write values as bytes is prefix free if the bytes of a value can be told apart from
whatever follows them. Values of a fixed width are written so, and so is variable data after its
length. Prefix-free writings can be put one after another, and a list of values written in this way
can be read back in one way only, though neither their number nor their borders are marked.

## Main definitions

* `PrefixFreeOn`: the writing of values from a set is prefix free
* `TxOutput.content`: what the bytes of an output say of it

## Main results

* `PrefixFreeOn.append`: two fields, one after the other
* `PrefixFreeOn.flatMap_injOn`: lists of values written one after another
* `compactSize_prefixFreeOn`: lengths that fit into eight bytes
-/

namespace ScriptSpend

/-- The bytes of a value from the set can be told apart from whatever follows them. -/
def PrefixFreeOn {α : Type} (write : α → Bytes) (values : Set α) : Prop :=
  ∀ ⦃a⦄, a ∈ values → ∀ ⦃b⦄, b ∈ values → ∀ ⦃x y : Bytes⦄,
    write a ++ x = write b ++ y → a = b ∧ x = y

namespace PrefixFreeOn

variable {α β : Type} {write : α → Bytes} {writeOther : β → Bytes} {values : Set α}
  {others : Set β}

/-- Values of a fixed width are prefix free if they are written differently. -/
theorem of_length_eq {width : Nat} (fixed : ∀ a ∈ values, (write a).length = width)
    (injective : Set.InjOn write values) : PrefixFreeOn write values := by
  intro a inside b insideOther x y same
  have lengths : (write a).length = (write b).length := by rw [fixed a inside, fixed b insideOther]
  obtain ⟨sameValue, sameRest⟩ := List.append_inj same lengths
  exact ⟨injective inside insideOther sameValue, sameRest⟩

/-- Two fields, one after the other. -/
theorem append (first : PrefixFreeOn write values) (second : PrefixFreeOn writeOther others) :
    PrefixFreeOn (fun pair : α × β => write pair.1 ++ writeOther pair.2) (values ×ˢ others) := by
  intro a inside b insideOther x y same
  rw [List.append_assoc, List.append_assoc] at same
  obtain ⟨sameFirst, same⟩ := first inside.1 insideOther.1 same
  obtain ⟨sameSecond, sameRest⟩ := second inside.2 insideOther.2 same
  exact ⟨Prod.ext sameFirst sameSecond, sameRest⟩

/-- A list of values written one after another has no other reading. -/
theorem flatMap_injOn (prefixFree : PrefixFreeOn write values)
    (nonempty : ∀ a ∈ values, write a ≠ []) :
    Set.InjOn (List.flatMap write) {as | ∀ a ∈ as, a ∈ values} := by
  -- By induction on the one list; the other cannot be at its end alone, as no value is written as
  -- nothing.
  intro as
  induction as with
  | nil =>
    intro _ bs inside same
    cases bs with
    | nil => rfl
    | cons b bs =>
      have written : write b ++ bs.flatMap write = [] := same.symm
      exact absurd (List.append_eq_nil_iff.mp written).1 (nonempty b (inside b (by simp)))
  | cons a as ih =>
    intro inside bs insideOther same
    cases bs with
    | nil =>
      have written : write a ++ as.flatMap write = [] := same
      exact absurd (List.append_eq_nil_iff.mp written).1 (nonempty a (inside a (by simp)))
    | cons b bs =>
      obtain ⟨rfl, sameRest⟩ := prefixFree (inside a (by simp)) (insideOther b (by simp)) same
      rw [ih (fun c listed => inside c (by simp [listed]))
        (fun c listed => insideOther c (by simp [listed])) sameRest]

end PrefixFreeOn

section Words

/-- A number that fits is determined by its digits. -/
theorem Bytes.eq_of_ofNatLE_eq {width m n : Nat} (small : m < 256 ^ width)
    (smallOther : n < 256 ^ width) (same : Bytes.ofNatLE width m = Bytes.ofNatLE width n) :
    m = n := by
  have values := congrArg Bytes.toNatLE same
  rwa [Bytes.toNatLE_ofNatLE, Bytes.toNatLE_ofNatLE, Nat.mod_eq_of_lt small,
    Nat.mod_eq_of_lt smallOther] at values

theorem eq_of_ofNatLE_four_eq {m n : UInt32}
    (same : Bytes.ofNatLE 4 m.toNat = Bytes.ofNatLE 4 n.toNat) : m = n :=
  UInt32.toNat.inj (Bytes.eq_of_ofNatLE_eq m.toNat_lt n.toNat_lt same)

theorem eq_of_ofNatLE_eight_eq {m n : UInt64}
    (same : Bytes.ofNatLE 8 m.toNat = Bytes.ofNatLE 8 n.toNat) : m = n :=
  UInt64.toNat.inj (Bytes.eq_of_ofNatLE_eq m.toNat_lt n.toNat_lt same)

/-- Sequence numbers are written in four bytes. -/
theorem sequence_prefixFreeOn :
    PrefixFreeOn (fun n : UInt32 => Bytes.ofNatLE 4 n.toNat) Set.univ :=
  .of_length_eq (fun _ _ => Bytes.length_ofNatLE _ _) fun _ _ _ _ => eq_of_ofNatLE_four_eq

@[simp] theorem Outpoint.length_toWire (outpoint : Outpoint) : outpoint.toWire.length = 36 := by
  simp [Outpoint.toWire]

theorem Outpoint.toWire_injective : Function.Injective Outpoint.toWire := by
  intro outpoint other same
  obtain ⟨sameTxid, sameIndex⟩ := List.append_inj same (by simp)
  obtain ⟨⟨wire⟩, index⟩ := outpoint
  obtain ⟨⟨otherWire⟩, otherIndex⟩ := other
  obtain rfl : wire = otherWire := Vector.toList_inj.mp sameTxid
  obtain rfl : index = otherIndex := eq_of_ofNatLE_four_eq sameIndex
  rfl

theorem Outpoint.toWire_prefixFreeOn : PrefixFreeOn Outpoint.toWire Set.univ :=
  .of_length_eq (fun outpoint _ => outpoint.length_toWire) Outpoint.toWire_injective.injOn

end Words

section Lengths

/-- The first byte of a length, which is the length itself or marks one of the longer forms. -/
def lengthMarker (n : Nat) : UInt8 :=
  if n < 0xfd then UInt8.ofNat n else if n ≤ 0xffff then 0xfd else if n ≤ 0xffffffff then 0xfe
  else 0xff

/-- The number of bytes that follow the first byte of a length. -/
def markedWidth (marker : UInt8) : Nat :=
  if marker < 0xfd then 0 else if marker = 0xfd then 2 else if marker = 0xfe then 4 else 8

/-- The length that a first byte and the bytes after it denote. -/
def markedLength (marker : UInt8) (field : Bytes) : Nat :=
  if marker < 0xfd then marker.toNat else Bytes.toNatLE field

theorem ofNat_lt_of_short {n : Nat} (short : n < 0xfd) : UInt8.ofNat n < 0xfd := by
  rw [UInt8.lt_iff_toNat_lt, UInt8.toNat_ofNat_of_lt' (Nat.lt_trans short (by decide))]
  exact short

/-- The first byte of a length tells how many follow. -/
theorem compactSize_eq_cons (n : Nat) :
    compactSize n = lengthMarker n :: Bytes.ofNatLE (markedWidth (lengthMarker n)) n := by
  unfold compactSize lengthMarker
  split
  · rename_i short
    rw [markedWidth, if_pos (ofNat_lt_of_short short), Bytes.ofNatLE_succ]
    rfl
  · split
    · rfl
    · split <;> rfl

/-- The bytes of a length denote it. -/
theorem markedLength_lengthMarker {n : Nat} (small : n < 2 ^ 64) :
    markedLength (lengthMarker n) (Bytes.ofNatLE (markedWidth (lengthMarker n)) n) = n := by
  unfold lengthMarker
  split
  · rename_i short
    rw [markedLength, if_pos (ofNat_lt_of_short short)]
    exact UInt8.toNat_ofNat_of_lt' (Nat.lt_trans short (by decide))
  · split
    · change Bytes.toNatLE (Bytes.ofNatLE 2 n) = n
      rw [Bytes.toNatLE_ofNatLE, Nat.mod_eq_of_lt (by omega)]
    · split
      · change Bytes.toNatLE (Bytes.ofNatLE 4 n) = n
        rw [Bytes.toNatLE_ofNatLE, Nat.mod_eq_of_lt (by omega)]
      · change Bytes.toNatLE (Bytes.ofNatLE 8 n) = n
        rw [Bytes.toNatLE_ofNatLE, Nat.mod_eq_of_lt (by omega)]

/-- Lengths are prefix free as long as eight bytes can count them. -/
theorem compactSize_prefixFreeOn : PrefixFreeOn compactSize {n | n < 2 ^ 64} := by
  intro m small n smallOther x y same
  rw [compactSize_eq_cons, compactSize_eq_cons, List.cons_append, List.cons_append] at same
  obtain ⟨sameMarker, same⟩ := List.cons.inj same
  rw [← sameMarker] at same
  obtain ⟨sameField, sameRest⟩ := List.append_inj same (by simp)
  refine ⟨?_, sameRest⟩
  rw [← markedLength_lengthMarker small, ← markedLength_lengthMarker smallOther, ← sameMarker,
    sameField]

/-- So is variable data after its length. -/
theorem withLength_prefixFreeOn : PrefixFreeOn withLength {bytes | bytes.length < 2 ^ 64} := by
  intro bytes small other smallOther x y same
  rw [withLength, withLength, List.append_assoc, List.append_assoc] at same
  obtain ⟨sameLength, same⟩ := compactSize_prefixFreeOn small smallOther same
  exact List.append_inj same sameLength

/-- More data has a length that is written in as many bytes or in more. -/
theorem length_compactSize_le {m n : Nat} (less : m ≤ n) :
    (compactSize m).length ≤ (compactSize n).length := by
  unfold compactSize
  split_ifs <;> simp <;> omega

/-- With nothing after it, variable data can be told apart whatever its length. -/
theorem withLength_injective : Function.Injective withLength := by
  intro bytes other same
  have total := congrArg List.length same
  simp only [withLength, List.length_append] at total
  have lengths : bytes.length = other.length := by
    rcases Nat.le_total bytes.length other.length with less | more
    · have := length_compactSize_le less
      omega
    · have := length_compactSize_le more
      omega
  exact (List.append_inj' same lengths).2

end Lengths

section Outputs

/-- What the bytes of an output say of it: its value and the bytes of its script. -/
def TxOutput.content (output : TxOutput) : UInt64 × Bytes :=
  (output.satoshis, output.lockingScript.toWire)

/-- The bytes of an output with a given value and given script bytes. -/
def writeContent (content : UInt64 × Bytes) : Bytes :=
  Bytes.ofNatLE 8 content.1.toNat ++ withLength content.2

theorem writeContent_prefixFreeOn :
    PrefixFreeOn writeContent {content | content.2.length < 2 ^ 64} := by
  have values : PrefixFreeOn (fun n : UInt64 => Bytes.ofNatLE 8 n.toNat) Set.univ :=
    .of_length_eq (fun _ _ => Bytes.length_ofNatLE _ _) fun _ _ _ _ => eq_of_ofNatLE_eight_eq
  intro content small other smallOther x y same
  exact values.append withLength_prefixFreeOn ⟨trivial, small⟩ ⟨trivial, smallOther⟩ same

theorem writeContent_injective : Function.Injective writeContent := by
  intro content other same
  obtain ⟨sameValue, sameScript⟩ := List.append_inj same (by simp)
  exact Prod.ext (eq_of_ofNatLE_eight_eq sameValue) (withLength_injective sameScript)

theorem writeContent_ne_nil (content : UInt64 × Bytes) : writeContent content ≠ [] := by
  intro absent
  have length := congrArg List.length absent
  simp only [writeContent, List.length_append, Bytes.length_ofNatLE, List.length_nil] at length
  omega

end Outputs

end ScriptSpend
