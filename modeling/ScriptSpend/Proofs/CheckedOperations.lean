import ScriptSpend.Proofs.CanonicalSignatures
import ScriptSpend.Proofs.FailingActions

/-!
# Operations with explicit checks

Cutting an item, laying out the digits of a shifted one, computing with signed words and looking at
the first byte of a key or an integer are partial: a position may lie beyond the end, a slice may
have the wrong length, a divisor may be zero and a result too large, and bytes may be empty. Here
these operations are written with a check at each such place, and what fails a check is a fault. The
operations are the same as without the checks, so that none of them ever fails.

## Main definitions

* `sliceFrom`, `sliceTo`, `difference`, `copyInto`, `copyBetween`: slices, sizes and copies with
  their checks
* `IsWord`: signed words of 64 bits
* `CheckedChecker`: checkers of signatures that may fail
* `splitChecked`, `shiftChecked`, `unaryChecked`, `binaryChecked`, `checkSigChecked`: operations
  with explicit checks

## Main results

* `splitChecked_eq`, `shiftChecked_eq`, `unaryChecked_eq`, `binaryChecked_eq`, `checkSigChecked_eq`:
  the checks make no difference
-/

namespace ScriptSpend

open StackAction

section Slices

/-- The bytes from a position on, which must not lie beyond the end. -/
def sliceFrom (start : Nat) (bytes : Bytes) : Except Failure Bytes :=
  if start ≤ bytes.length then .ok (bytes.drop start) else .error .fault

/-- The bytes before a position, which must not lie beyond the end. -/
def sliceTo (stop : Nat) (bytes : Bytes) : Except Failure Bytes :=
  if stop ≤ bytes.length then .ok (bytes.take stop) else .error .fault

/-- The difference of two sizes, which must not be negative. -/
def difference (size other : Nat) : Except Failure Nat :=
  if other ≤ size then .ok (size - other) else .error .fault

/-- What a slice holds after bytes were copied into it, which must be as many as it has. -/
def copyInto (slice source : Bytes) : Except Failure Bytes :=
  if slice.length = source.length then .ok source else .error .fault

/-- A buffer with bytes copied into its slice from one position to another. -/
def copyBetween (start stop : Nat) (source buffer : Bytes) : Except Failure Bytes := do
  let inside ← sliceTo stop buffer
  let front ← sliceTo start inside
  let slot ← sliceFrom start inside
  let filled ← copyInto slot source
  let back ← sliceFrom stop buffer
  .ok (front ++ filled ++ back)

/-- Digits laid out in a width: the last of them if they are too many, and with zeros before them if
they are too few. -/
def layOut (width : Nat) (digits : Bytes) : Except Failure Bytes := do
  let blank := List.replicate width 0
  if width ≤ digits.length then
    let start ← difference digits.length width
    let last ← sliceFrom start digits
    copyInto blank last
  else
    let start ← difference width digits.length
    let zeros ← sliceTo start blank
    let slot ← sliceFrom start blank
    let filled ← copyInto slot digits
    .ok (zeros ++ filled)

variable {start stop size other width : Nat} {bytes source : Bytes}

theorem sliceFrom_of_le (inside : start ≤ bytes.length) :
    sliceFrom start bytes = .ok (bytes.drop start) := if_pos inside

theorem sliceTo_of_le (inside : stop ≤ bytes.length) :
    sliceTo stop bytes = .ok (bytes.take stop) := if_pos inside

theorem difference_of_le (fewer : other ≤ size) : difference size other = .ok (size - other) :=
  if_pos fewer

theorem copyInto_of_length_eq (alike : bytes.length = source.length) :
    copyInto bytes source = .ok source := if_pos alike

theorem copyBetween_of_le {buffer : Bytes} (ordered : start ≤ stop) (inside : stop ≤ buffer.length)
    (alike : source.length = stop - start) :
    copyBetween start stop source buffer =
      .ok (buffer.take start ++ source ++ buffer.drop stop) := by
  have length : (buffer.take stop).length = stop := by
    rw [List.length_take, Nat.min_eq_left inside]
  have front : (buffer.take stop).take start = buffer.take start := by
    rw [List.take_take, Nat.min_eq_left ordered]
  have slot : ((buffer.take stop).drop start).length = source.length := by
    rw [List.length_drop, length, alike]
  simp only [copyBetween, exceptBind_eq_ok_iff]
  exact ⟨_, sliceTo_of_le inside, _, sliceTo_of_le (by rwa [length]), _,
    sliceFrom_of_le (by rwa [length]), _, copyInto_of_length_eq slot, _, sliceFrom_of_le inside,
    by rw [front]⟩

/-- Digits laid out in a width are the writing of their number in that width. -/
theorem layOut_eq (width : Nat) (digits : Bytes) :
    layOut width digits = .ok (Bytes.ofNatBE width (Bytes.toNatBE digits)) := by
  rcases Nat.lt_or_ge digits.length width with wide | narrow
  · have alike : ((List.replicate width (0 : UInt8)).drop (width - digits.length)).length =
        digits.length := by
      rw [List.length_drop, List.length_replicate]
      omega
    have inside : width - digits.length ≤ (List.replicate width (0 : UInt8)).length := by
      rw [List.length_replicate]
      exact Nat.sub_le _ _
    have zeros : (List.replicate width (0 : UInt8)).take (width - digits.length) =
        List.replicate (width - digits.length) 0 := by
      rw [List.take_replicate, Nat.min_eq_left (Nat.sub_le _ _)]
    rw [Bytes.ofNatBE_toNatBE_of_ge (Nat.le_of_lt wide), ← zeros]
    simp only [layOut, if_neg (Nat.not_le.mpr wide), exceptBind_eq_ok_iff]
    exact ⟨_, difference_of_le (Nat.le_of_lt wide), _, sliceTo_of_le inside, _,
      sliceFrom_of_le inside, _, copyInto_of_length_eq alike, rfl⟩
  · have alike : (List.replicate width (0 : UInt8)).length =
        (digits.drop (digits.length - width)).length := by
      rw [List.length_replicate, List.length_drop]
      omega
    rw [Bytes.ofNatBE_toNatBE_of_le narrow]
    simp only [layOut, if_pos narrow, exceptBind_eq_ok_iff]
    exact ⟨_, difference_of_le narrow, _, sliceFrom_of_le (Nat.sub_le _ _),
      copyInto_of_length_eq alike⟩

end Slices

section Words

/-- The signed words of 64 bits. -/
def IsWord (n : Int) : Prop := Int64.minValue.toInt ≤ n ∧ n ≤ Int64.maxValue.toInt

instance (n : Int) : Decidable (IsWord n) := inferInstanceAs (Decidable (_ ∧ _))

theorem isWord_iff {n : Int} : IsWord n ↔ -2 ^ 63 ≤ n ∧ n < 2 ^ 63 := by
  rw [IsWord, Int64.toInt_minValue, Int64.toInt_maxValue]
  omega

theorem isWord_of_natAbs_lt {n : Int} (small : n.natAbs < 2 ^ 63) : IsWord n :=
  isWord_iff.mpr (by omega)

/-- The result of an operation on one word, which must be a word. -/
def UnaryOp.applyWord (which : UnaryOp) (n : Int) : Except Failure Int :=
  if IsWord (which.apply n) then .ok (which.apply n) else .error .fault

/-- Whether an operation divides by its second operand. -/
def BinaryOp.divides : BinaryOp → Bool
  | .div | .mod => true
  | _ => false

/-- The result of an operation on two words, which must be a word. The divisor must not be zero, and
the quotient must be a word even if only the remainder is asked for. -/
def BinaryOp.applyWord (which : BinaryOp) (a b : Int) : Except Failure Int :=
  if which.divides ∧ (b = 0 ∨ ¬ IsWord (a.tdiv b)) then .error .fault
  else
    match which.apply? a b with
    | none => .error .fault
    | some result => if IsWord result then .ok result else .error .fault

/-- Puts the minimal encoding of a word on top, cut out of its eight bytes. -/
def StackAction.pushWord (n : Int) : StackAction Unit :=
  if IsWord n then do
    let magnitude ← check (sliceTo (Bytes.width n.natAbs) (Bytes.ofNatLE 8 n.natAbs))
    push (ScriptNumber.attachSign magnitude (if n < 0 then 0x80 else 0x00))
  else throw .fault

variable {a b n : Int}

theorem UnaryOp.applyWord_eq (which : UnaryOp) (small : n.natAbs < 2 ^ 31) :
    which.applyWord n = .ok (which.apply n) :=
  if_pos (isWord_of_natAbs_lt (which.natAbs_apply_lt small))

/-- An operation that does not divide by zero has a result. -/
theorem BinaryOp.apply_eq_none_iff (which : BinaryOp) :
    which.apply? a b = none ↔ which.divides ∧ b = 0 := by
  cases which <;> simp [BinaryOp.divides, BinaryOp.apply?]

theorem BinaryOp.applyWord_eq {which : BinaryOp} {result : Int} (smallLeft : a.natAbs < 2 ^ 31)
    (smallRight : b.natAbs < 2 ^ 31) (applied : which.apply? a b = some result) :
    which.applyWord a b = .ok result := by
  have quotient : (a.tdiv b).natAbs ≤ a.natAbs := Int.natAbs_tdiv_le_natAbs a b
  have quotientFits : IsWord (a.tdiv b) := isWord_of_natAbs_lt (by omega)
  have fits : IsWord result := isWord_of_natAbs_lt (natAbs_apply_lt smallLeft smallRight applied)
  have divisor : ¬ (which.divides = true ∧ b = 0) := by
    rw [← which.apply_eq_none_iff (a := a), applied]
    exact nofun
  have passes : ¬ (which.divides = true ∧ (b = 0 ∨ ¬ IsWord (a.tdiv b))) := by
    rintro ⟨divides, zero | large⟩
    · exact divisor ⟨divides, zero⟩
    · exact large quotientFits
  rw [applyWord, if_neg passes, applied]
  exact if_pos fits

/-- Eight bytes have room for the digits of every word. -/
theorem StackAction.pushWord_eq (n : Int) : pushWord n = pushNumber n := by
  have plain : pushNumber n = if IsWord n then push (ScriptNumber.encode n) else throw .fault := rfl
  rw [pushWord, plain]
  by_cases word : IsWord n
  · have magnitude : n.natAbs < 256 ^ 8 := by
      have range := isWord_iff.mp word
      omega
    have fits : Bytes.width n.natAbs ≤ 8 := Bytes.width_le_iff.mpr magnitude
    have digits : sliceTo (Bytes.width n.natAbs) (Bytes.ofNatLE 8 n.natAbs) =
        .ok (Bytes.digitsLE n.natAbs) := by
      rw [sliceTo_of_le (by rw [Bytes.length_ofNatLE]; exact fits), Bytes.take_ofNatLE,
        Nat.min_eq_left fits, Bytes.digitsLE]
    rw [if_pos word, if_pos word, digits]
    rfl
  · rw [if_neg word, if_neg word]

end Words

namespace Operation

/-- Cuts an item in two at a position that stands on the stack and must lie within the item. -/
def splitChecked (op : Opcode) (minimal : Bool) : StackAction Unit := do
  require op 2
  let position ← number minimal 0
  let bytes ← item 1
  if position < 0 ∨ bytes.length < position.toNat then throw .splitOutOfRange
  else
    StackAction.drop
    -- The item that is cut is read anew.
    let cut ← removeAt 0
    let front ← check (sliceTo position.toNat cut)
    let back ← check (sliceFrom position.toNat cut)
    push front
    push back

theorem splitChecked_eq (op : Opcode) (minimal : Bool) :
    splitChecked op minimal = split op minimal := by
  funext stack
  match stack with
  | [] | [_] => simp [splitChecked, split]
  | top :: bytes :: rest =>
    rcases number_cases minimal 0 (top :: bytes :: rest) with ⟨n, read, -⟩ | ⟨cause, read⟩
    · have found : item 1 (top :: bytes :: rest) = .ok bytes (top :: bytes :: rest) := rfl
      have cut : removeAt 0 (bytes :: rest) = .ok bytes rest := rfl
      by_cases outside : n < 0 ∨ (bytes.length : Int) < n
      · simp [splitChecked, split, read, found, outside]
      · have inside : n.toNat ≤ bytes.length := by omega
        simp [splitChecked, split, read, found, outside, cut, sliceTo_of_le inside,
          sliceFrom_of_le inside]
    · simp [splitChecked, split, read]

end Operation

/-- The digits of a number as they are printed: at least one. -/
def printedDigits (n : Nat) : Bytes := if n = 0 then [0] else Bytes.digitsBE n

theorem toNatBE_printedDigits (n : Nat) : Bytes.toNatBE (printedDigits n) = n := by
  unfold printedDigits
  split
  · rename_i zero
    rw [zero]
    rfl
  · exact Bytes.toNatBE_digitsBE n

/-- An item shifted by a number of bits, the digits of the result laid out in its width. -/
def ShiftDirection.applyChecked (direction : ShiftDirection) (bits : Nat) (bytes : Bytes) :
    Except Failure Bytes :=
  if bytes.length * 8 ≤ bits then .ok (List.replicate bytes.length 0)
  else
    let n := Bytes.toNatBE bytes
    layOut bytes.length (printedDigits (if direction = .left then n <<< bits else n >>> bits))

theorem ShiftDirection.applyChecked_eq (direction : ShiftDirection) (bits : Nat) (bytes : Bytes) :
    direction.applyChecked bits bytes = .ok (direction.apply bits bytes) := by
  unfold applyChecked ShiftDirection.apply
  split
  · rfl
  · dsimp only
    rw [layOut_eq, toNatBE_printedDigits]
    cases direction <;> rfl

namespace Operation

/-- Shifts an item by a number of bits that stands on the stack, the slices checked. -/
def shiftChecked (op : Opcode) (minimal : Bool) (direction : ShiftDirection) :
    StackAction Unit := do
  require op 2
  let bytes ← item 1
  if bytes.isEmpty then StackAction.drop
  else
    let n ← number minimal 0
    if n < 0 then throw (.negativeShift op)
    else
      StackAction.drop
      let shifted ← pop
      let result ← check (direction.applyChecked n.toNat shifted)
      push result

theorem shiftChecked_eq (op : Opcode) (minimal : Bool) (direction : ShiftDirection) :
    shiftChecked op minimal direction = shift op minimal direction := by
  funext stack
  match stack with
  | [] | [_] => simp [shiftChecked, shift]
  | top :: [] :: rest => rfl
  | top :: (byte :: low) :: rest =>
    let bytes := byte :: low
    have found : item 1 (top :: bytes :: rest) = .ok bytes (top :: bytes :: rest) := rfl
    rcases number_cases minimal 0 (top :: bytes :: rest) with ⟨n, read, -⟩ | ⟨cause, read⟩
    · by_cases negative : n < 0 <;>
        simp [shiftChecked, shift, found, bytes, read, negative, direction.applyChecked_eq]
    · simp [shiftChecked, shift, found, bytes, read]

/-- Replaces a number by the result of an operation on it, in words. -/
def unaryChecked (op : Opcode) (minimal : Bool) (which : UnaryOp) : StackAction Unit := do
  require op 1
  let n ← number minimal 0
  let result ← check (which.applyWord n)
  StackAction.drop
  pushWord result

theorem unaryChecked_eq (op : Opcode) (minimal : Bool) (which : UnaryOp) :
    unaryChecked op minimal which = unary op minimal which := by
  funext stack
  match stack with
  | [] => simp [unaryChecked, unary]
  | top :: rest =>
    rcases number_cases minimal 0 (top :: rest) with ⟨n, read, small⟩ | ⟨cause, read⟩
    · simp [unaryChecked, unary, read, which.applyWord_eq small, pushWord_eq]
    · simp [unaryChecked, unary, read]

/-- Replaces two numbers by the result of an operation on them, in words. A divisor of zero is
refused before the operation. -/
def binaryChecked (op : Opcode) (minimal : Bool) (which : BinaryOp) (verify : Bool) :
    StackAction Unit := do
  require op 2
  let a ← number minimal 1
  let b ← number minimal 0
  if which.divides ∧ b = 0 then throw (.divisionByZero op)
  else
    let result ← check (which.applyWord a b)
    StackAction.drop
    StackAction.drop
    pushWord result
    if verify then verifyTop .notNumericallyEqual else pure ()

theorem binaryChecked_eq (op : Opcode) (minimal : Bool) (which : BinaryOp) (verify : Bool) :
    binaryChecked op minimal which verify = binary op minimal which verify := by
  funext stack
  match stack with
  | [] | [_] => simp [binaryChecked, binary]
  | right :: left :: rest =>
    have reads (depth : Nat) := number_cases minimal depth (right :: left :: rest)
    rcases reads 1 with ⟨a, first, smallLeft⟩ | ⟨cause, first⟩
    · rcases reads 0 with ⟨b, second, smallRight⟩ | ⟨cause, second⟩
      · cases applied : which.apply? a b with
        | none =>
          obtain ⟨divides, rfl⟩ := which.apply_eq_none_iff.mp applied
          simp [binaryChecked, binary, first, second, applied, divides]
        | some result =>
          have divisor : ¬ (which.divides = true ∧ b = 0) := by
            rw [← which.apply_eq_none_iff (a := a), applied]
            exact nofun
          simp [binaryChecked, binary, first, second, applied, divisor,
            BinaryOp.applyWord_eq smallLeft smallRight applied, pushWord_eq]
      · simp [binaryChecked, binary, first, second]
    · simp [binaryChecked, binary, first]

end Operation

section Encodings

/-- The first byte, which must be there. -/
def firstByte : Bytes → Except Failure UInt8
  | [] => .error .fault
  | byte :: _ => .ok byte

/-- Whether a stack item is a signature in canonical form, the first bytes of its integers read by
their index. -/
def isSignatureItemChecked (item : Bytes) : Except Failure Bool :=
  if 9 ≤ item.length ∧ item.length ≤ 73 then
    match Der.components item.dropLast with
    | .error _ => .ok false
    | .ok (r, s) => do
      let topR ← firstByte r
      let topS ← firstByte s
      .ok (topR &&& 0x80 == 0 && topS &&& 0x80 == 0)
  else .ok false

/-- The same check of a signature's encoding, with indices. -/
def checkSignatureEncodingChecked (policy : Policy) (item : Bytes) : Except Failure Unit :=
  if item.isEmpty then .ok ()
  else do
    let canonical ← isSignatureItemChecked item
    if !canonical then .error .malformedSignature
    else
      match ScopedSignature.ofItem item with
      | .error cause => .error (.undecodableSignature cause)
      | .ok decoded =>
        if policy.requireLowS && !decoded.signature.hasLowS then .error .highS
        else if !decoded.scope.hasForkId then .error .missingForkId
        else .ok ()

/-- The same check of a key's encoding, with an index. -/
def checkKeyEncodingChecked (key : Bytes) : Except Failure Unit :=
  if key.length < 33 then .error .keyTooShort
  else do
    let tag ← firstByte key
    if tag = 4 then if key.length = 65 then .ok () else .error .keyLengthMismatch
    else if tag = 2 ∨ tag = 3 then
      if key.length = 33 then .ok () else .error .keyLengthMismatch
    else .error .unknownKeyFormat

/-- A checker that may leave the domain of an operation on the way to its answer. -/
abbrev CheckedChecker := ScopedSignature → Bytes → Script → Except Failure Bool

/-- A checker that never does. -/
def Checker.total (checker : Checker) : CheckedChecker := fun decoded key subscript =>
  .ok (checker decoded key subscript)

/-- Whether such a checker accepts a signature under a key. -/
def CheckedChecker.accepts (asks : CheckedChecker) (subscript : Script) (item key : Bytes) :
    Except Failure Bool :=
  match ScopedSignature.ofItem item with
  | .error _ => .ok false
  | .ok decoded => asks decoded key subscript

/-- The same attempt of a key, with indices and such a checker. -/
def tryKeyChecked (policy : Policy) (asks : CheckedChecker) (subscript : Script)
    (item key : Bytes) : Except Failure Bool := do
  checkSignatureEncodingChecked policy item
  checkKeyEncodingChecked key
  asks.accepts subscript item key

/-- The integers of an encoded signature are not empty. -/
theorem exists_cons_of_components {der r s : Bytes} (read : Der.components der = .ok (r, s)) :
    (∃ top rest, r = top :: rest) ∧ ∃ top rest, s = top :: rest := by
  obtain ⟨-, -, checkedR, checkedS⟩ := Der.components_eq_ok_iff.mp read
  constructor
  · cases r with
    | nil => cases checkedR
    | cons top rest => exact ⟨top, rest, rfl⟩
  · cases s with
    | nil => cases checkedS
    | cons top rest => exact ⟨top, rest, rfl⟩

theorem isSignatureItemChecked_eq (item : Bytes) :
    isSignatureItemChecked item = .ok (isSignatureItem item) := by
  unfold isSignatureItemChecked isSignatureItem
  split
  · cases read : Der.components item.dropLast with
    | error cause => rfl
    | ok parts =>
      obtain ⟨r, s⟩ := parts
      obtain ⟨⟨topR, restR, rfl⟩, topS, restS, rfl⟩ := exists_cons_of_components read
      rfl
  · rfl

theorem checkSignatureEncodingChecked_eq (policy : Policy) (item : Bytes) :
    checkSignatureEncodingChecked policy item = checkSignatureEncoding policy item := by
  unfold checkSignatureEncodingChecked checkSignatureEncoding
  rw [isSignatureItemChecked_eq]
  rfl

theorem checkKeyEncodingChecked_eq (key : Bytes) :
    checkKeyEncodingChecked key = checkKeyEncoding key := by
  cases key <;> rfl

theorem Checker.total_accepts (checker : Checker) (subscript : Script) (item key : Bytes) :
    checker.total.accepts subscript item key = .ok (checker.accepts subscript item key) := by
  unfold CheckedChecker.accepts Checker.accepts
  cases ScopedSignature.ofItem item <;> rfl

theorem tryKeyChecked_eq (policy : Policy) (checker : Checker) :
    tryKeyChecked policy checker.total = tryKey policy checker := by
  funext subscript item key
  rw [tryKeyChecked, checkSignatureEncodingChecked_eq, checkKeyEncodingChecked_eq,
    checker.total_accepts, tryKey]
  cases checkSignatureEncoding policy item with
  | error cause => rfl
  | ok _ => cases checkKeyEncoding key <;> rfl

end Encodings

namespace Operation

/-- Checks one signature under one key, both encodings read with indices and the signature shown to
a checker that may fail. -/
def checkSigChecked (op : Opcode) (env : Environment) (asks : CheckedChecker) (verify : Bool) :
    StackAction Unit := do
  require op 2
  let signature ← item 1
  let key ← item 0
  check (checkSignatureEncodingChecked env.policy signature)
  check (checkKeyEncodingChecked key)
  let subscript ← check (stripSignature env.subscript signature)
  let success ← check (asks.accepts subscript signature key)
  if !success && !signature.isEmpty then throw (.rejectedSignature op)
  else
    StackAction.drop
    StackAction.drop
    pushBool success
    if verify then verifyTop .noValidSignature else pure ()

theorem checkSigChecked_eq (op : Opcode) (env : Environment) (verify : Bool) :
    checkSigChecked op env env.checker.total verify = checkSig op env verify := by
  have answered {α : Type} (value : α) : check (.ok value) = pure value := rfl
  simp only [checkSigChecked, checkSignatureEncodingChecked_eq, checkKeyEncodingChecked_eq,
    Checker.total_accepts, answered, pure_bind, checkSig]

end Operation

end ScriptSpend
