import ScriptSpend.Proofs.NumberForm

/-!
# Digits in the least width

A number has one writing in the fewest bytes, and that writing is the only one without a zero at its
significant end. A writing in more bytes adds zeros there, and one in fewer bytes cuts digits off.

## Main results

* `Bytes.width_le_iff`: how many bytes a number needs
* `Bytes.digitsBE_toNatBE`: bytes that do not start with a zero are the digits of their number
* `Bytes.ofNatBE_toNatBE_of_le`, `Bytes.ofNatBE_toNatBE_of_ge`: the number of some bytes, written
  in a smaller and in a larger width
-/

namespace ScriptSpend.Bytes

variable {bytes : Bytes} {n k : Nat}

theorem two_pow_eight_mul (k : Nat) : 2 ^ (8 * k) = 256 ^ k := Nat.pow_mul 2 8 k

/-- A number needs at most `k` bytes if and only if it is below `256 ^ k`. -/
theorem width_le_iff : width n ≤ k ↔ n < 256 ^ k := by
  unfold width
  split
  · rename_i zero
    simp [zero]
  · rename_i nonzero
    rw [← two_pow_eight_mul, ← Nat.log2_lt nonzero]
    omega

theorem lt_pow_width (n : Nat) : n < 256 ^ width n := width_le_iff.mp (Nat.le_refl _)

@[simp] theorem length_digitsLE (n : Nat) : (digitsLE n).length = width n := length_ofNatLE _ _

@[simp] theorem length_digitsBE (n : Nat) : (digitsBE n).length = width n := by
  rw [digitsBE, List.length_reverse, length_digitsLE]

/-- The digits denote the number they write. -/
theorem toNatLE_digitsLE (n : Nat) : toNatLE (digitsLE n) = n := by
  rw [digitsLE, toNatLE_ofNatLE, Nat.mod_eq_of_lt (lt_pow_width n)]

theorem toNatBE_digitsBE (n : Nat) : toNatBE (digitsBE n) = n := by
  rw [toNatBE, digitsBE, List.reverse_reverse, toNatLE_digitsLE]

/-- Bytes that do not end in a zero need all of their width. -/
theorem width_toNatLE (significant : bytes.getLast? ≠ some 0) :
    width (toNatLE bytes) = bytes.length := by
  refine Nat.le_antisymm (width_le_iff.mpr (toNatLE_lt bytes)) ?_
  rcases List.eq_nil_or_concat bytes with rfl | ⟨low, top, rfl⟩
  · exact Nat.zero_le _
  · -- The last byte counts for more than all numbers of the other bytes.
    rw [List.concat_eq_append] at significant ⊢
    have nonzero : top.toNat ≠ 0 := by
      intro zero
      refine significant ?_
      rw [List.getLast?_concat, UInt8.toNat.inj (b := 0) zero]
    have counts : 256 ^ low.length ≤ toNatLE (low ++ [top]) := by
      rw [toNatLE_append, toNatLE_cons, toNatLE_nil, Nat.mul_zero, Nat.add_zero]
      exact Nat.le_add_left_of_le
        (Nat.le_mul_of_pos_right (256 ^ low.length) (Nat.pos_of_ne_zero nonzero))
    have needed := mt width_le_iff.mp (Nat.not_lt.mpr counts)
    rw [List.length_append, List.length_singleton]
    omega

theorem digitsLE_toNatLE (significant : bytes.getLast? ≠ some 0) :
    digitsLE (toNatLE bytes) = bytes := by
  rw [digitsLE, width_toNatLE significant, ofNatLE_toNatLE]

/-- Bytes that do not start with a zero are the digits of the number they denote. -/
theorem digitsBE_toNatBE (significant : bytes.head? ≠ some 0) :
    digitsBE (toNatBE bytes) = bytes := by
  rw [digitsBE, toNatBE, digitsLE_toNatLE, List.reverse_reverse]
  rwa [List.getLast?_reverse]

/-- The digits do not start with a zero. -/
theorem head?_digitsBE (n : Nat) : (digitsBE n).head? ≠ some 0 := by
  intro zero
  -- Without that zero, fewer bytes would do.
  obtain ⟨rest, shape⟩ : ∃ rest, digitsBE n = 0 :: rest := by
    cases digits : digitsBE n with
    | nil => simp [digits] at zero
    | cons top rest => exact ⟨rest, by simp_all⟩
  have value : n = toNatLE (rest.reverse ++ [0]) := by
    rw [← toNatBE_digitsBE n, shape, toNatBE, List.reverse_cons]
  have fewer : width n ≤ rest.length := by
    rw [width_le_iff, value, toNatLE_append, ← List.length_reverse]
    simpa using toNatLE_lt rest.reverse
  have all : width n = rest.length + 1 := by rw [← length_digitsBE, shape, List.length_cons]
  omega

theorem digitsBE_eq_nil_iff : digitsBE n = [] ↔ n = 0 := by
  rw [← List.length_eq_zero_iff, length_digitsBE, ← Nat.le_zero, width_le_iff, Nat.pow_zero]
  omega

/-- Cutting a writing short cuts off its high digits. -/
theorem take_ofNatLE (k m n : Nat) : (ofNatLE m n).take k = ofNatLE (min k m) n := by
  rw [ofNatLE, ← List.map_take, List.take_range, ofNatLE]

/-- Only zeros denote zero. -/
theorem toNatLE_eq_zero_iff : toNatLE bytes = 0 ↔ ∀ byte ∈ bytes, byte = 0 := by
  induction bytes with
  | nil => simp
  | cons byte rest ih =>
    rw [toNatLE_cons, List.forall_mem_cons, ← ih, ← UInt8.toNat_inj, UInt8.toNat_zero]
    omega

theorem toNatLE_append_replicate_zero (bytes : Bytes) (count : Nat) :
    toNatLE (bytes ++ List.replicate count 0) = toNatLE bytes := by
  have zeros : toNatLE (List.replicate count 0) = 0 :=
    toNatLE_eq_zero_iff.mpr fun _ => List.eq_of_mem_replicate
  rw [toNatLE_append, zeros, Nat.mul_zero, Nat.add_zero]

theorem toNatBE_ofNatBE (k n : Nat) : toNatBE (ofNatBE k n) = n % 256 ^ k := by
  rw [toNatBE, ofNatBE, List.reverse_reverse, toNatLE_ofNatLE]

/-- In a width above their own, the number of some bytes is written with zeros before these. -/
theorem ofNatBE_toNatBE_of_ge (wide : bytes.length ≤ k) :
    ofNatBE k (toNatBE bytes) = List.replicate (k - bytes.length) 0 ++ bytes := by
  have padded := ofNatLE_toNatLE (bytes.reverse ++ List.replicate (k - bytes.length) 0)
  have length : (bytes.reverse ++ List.replicate (k - bytes.length) 0).length = k := by
    rw [List.length_append, List.length_reverse, List.length_replicate]
    omega
  rw [length, toNatLE_append_replicate_zero] at padded
  rw [ofNatBE, toNatBE, padded, List.reverse_append, List.reverse_replicate, List.reverse_reverse]

/-- In a width below their own, it is written with the last of them. -/
theorem ofNatBE_toNatBE_of_le (narrow : k ≤ bytes.length) :
    ofNatBE k (toNatBE bytes) = bytes.drop (bytes.length - k) := by
  have kept := take_ofNatLE k bytes.reverse.length (toNatLE bytes.reverse)
  rw [ofNatLE_toNatLE, List.length_reverse, Nat.min_eq_left narrow] at kept
  rw [ofNatBE, toNatBE, ← kept, List.reverse_take, List.reverse_reverse, List.length_reverse]

end ScriptSpend.Bytes
