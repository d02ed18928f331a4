import ScriptSpend.Proofs.FailingOperations
import ScriptSpend.Proofs.OperandEffects
import ScriptSpend.Proofs.ShortestPushes

/-!
# Moves by depth

Picking copies the item at some depth to the top of the stack, rolling moves it there, and both take
the depth from the stack. The opcodes that arrange items at fixed depths do nothing that could not
be done by pushing depths, picking, rolling and dropping, and they need the same number of items.

## Main definitions

* `DepthMove`: picking or rolling at a depth, or dropping the top item
* `DepthMove.chunks`, `DepthMove.after?`: the chunks of a move, and the stack after it
* `DepthMove.touched`: how many items several moves touch
* `arrangements`: the opcodes of fixed arrangements, and the moves that do the same
* `Chunk.Arranges`: a chunk does the same as some moves, or fails in place for want of items

## Main results

* `DepthMove.exists_afterAll?_iff`: moves can be made on a stack with the items that they touch
* `DepthMove.execute_of_afterAll?`: the chunks of moves make them
* `arranges_by_depth`: the arrangements, and what picking and rolling do at every depth
-/

namespace ScriptSpend

open StackAction ScriptNumber

/-- The opcode of a name. -/
def Opcode.named (name : String) : Opcode := (ofMnemonic? name).getD 0xff

/-- A depth that a script can name: it fits an operand, and the limit on elements lets its push
pass. The small constants have no payload, so that every limit does. -/
def Environment.CanName (env : Environment) (depth : Nat) : Prop :=
  depth < 2 ^ 31 ∧ (Chunk.ofNumber depth).data.length ≤ env.policy.maxElementSize.toNat

/-- A copy or a move of the item at a depth to the top, or the removal of the top item. -/
inductive DepthMove where
  | pick (depth : Nat)
  | roll (depth : Nat)
  | drop
  deriving DecidableEq

namespace DepthMove

/-- The chunks of a move. Where it has a depth, this is pushed first. -/
def chunks : DepthMove → Script
  | pick depth => [.ofNumber depth, .ofOpcode (.named "OP_PICK")]
  | roll depth => [.ofNumber depth, .ofOpcode (.named "OP_ROLL")]
  | drop => [.ofOpcode (.named "OP_DROP")]

/-- The stack after a move, if there is an item to move. -/
def after? : DepthMove → Stack → Option Stack
  | pick depth, stack => stack[depth]?.map (· :: stack)
  | roll depth, stack => stack[depth]?.map (· :: stack.eraseIdx depth)
  | drop, stack => stack.tail?

/-- The stack after several moves, one after another. -/
def afterAll? : List DepthMove → Stack → Option Stack
  | [], stack => some stack
  | move :: moves, stack => (move.after? stack).bind (afterAll? moves)

/-- The number of items that several moves touch, those of them left out that an earlier move has
put on the stack. -/
def touched : List DepthMove → Nat
  | [] => 0
  | pick depth :: moves => max (depth + 1) (touched moves - 1)
  | roll depth :: moves => max (depth + 1) (touched moves)
  | drop :: moves => touched moves + 1

/-- The depth that a move works at. -/
def depth : DepthMove → Nat
  | pick depth | roll depth => depth
  | drop => 0

variable {move : DepthMove} {moves : List DepthMove} {stack left : Stack} {depth : Nat}

section Stacks

/-- What a move does to the number of items. -/
theorem length_of_after? (applied : move.after? stack = some left) :
    match move with
    | pick _ => left.length = stack.length + 1
    | roll _ => left.length = stack.length
    | drop => left.length + 1 = stack.length := by
  cases move with
  | pick depth =>
    obtain ⟨item, -, rfl⟩ := Option.map_eq_some_iff.mp applied
    rfl
  | roll depth =>
    obtain ⟨item, found, rfl⟩ := Option.map_eq_some_iff.mp applied
    obtain ⟨inside, -⟩ := List.getElem?_eq_some_iff.mp found
    simp only [List.length_cons, List.length_eraseIdx_of_lt inside]
    omega
  | drop =>
    cases stack with
    | nil => cases applied
    | cons top rest =>
      cases applied
      rfl

theorem exists_after?_iff :
    (∃ left, move.after? stack = some left) ↔ touched [move] ≤ stack.length := by
  cases move with
  | pick depth | roll depth =>
    change _ ↔ max (depth + 1) 0 ≤ stack.length
    rw [Nat.max_zero, Nat.succ_le_iff]
    constructor
    · rintro ⟨left, applied⟩
      obtain ⟨item, found, -⟩ := Option.map_eq_some_iff.mp applied
      exact (List.getElem?_eq_some_iff.mp found).1
    · intro inside
      exact ⟨_, by rw [after?, List.getElem?_eq_getElem inside]; rfl⟩
  | drop => cases stack <;> simp [after?, touched]

/-- Moves can be made if and only if all items that they touch are there. -/
theorem exists_afterAll?_iff :
    (∃ left, afterAll? moves stack = some left) ↔ touched moves ≤ stack.length := by
  -- Each move changes the number of items, and what the later ones touch is counted from there.
  induction moves generalizing stack with
  | nil => simp [afterAll?, touched]
  | cons move moves ih =>
    have first := @exists_after?_iff move stack
    cases applied : move.after? stack with
    | none =>
      have short : ¬ touched [move] ≤ stack.length := by
        rw [← first, applied]
        exact nofun
      simp only [afterAll?, applied, Option.bind_none, reduceCtorEq, exists_false, false_iff]
      cases move <;> simp only [touched] at short ⊢ <;> omega
    | some reached =>
      have enough := first.mp ⟨reached, applied⟩
      have length := length_of_after? applied
      simp only [afterAll?, applied, Option.bind_some, ih]
      cases move <;> simp only [touched] at enough length ⊢ <;> omega

end Stacks

end DepthMove

section Depths

variable {minimal : Bool} {op : Opcode} {action : Nat → StackAction Bytes} {stack : Stack}
  {depth : Nat} {n : Int}

/-- Of the encodings of numbers, those of numbers below `2 ^ 31` are operands. -/
theorem ScriptNumber.isOperand_encode_iff : IsOperand minimal (encode n) ↔ n.natAbs < 2 ^ 31 := by
  have value : signMagnitude (encode n) = n := (isShortest_encode n).value
  constructor
  · intro operand
    have small := operand.natAbs_lt
    rwa [value] at small
  · intro small
    refine ⟨length_encode_le_iff.mpr (by omega), fun _ => ?_⟩
    rw [value]
    exact isShortest_encode n

/-- A small number on top is read as itself. -/
theorem number_encode (small : n.natAbs < 2 ^ 31) (stack : Stack) :
    number minimal 0 (encode n :: stack) = .ok n (encode n :: stack) := by
  have operand : IsOperand minimal (encode n) := isOperand_encode_iff.mpr small
  have read : number minimal 0 (encode n :: stack) =
      .ok (signMagnitude (encode n)) (encode n :: stack) := number_of_isOperand rfl operand
  rwa [(isShortest_encode n).value] at read

/-- A depth that some item has is taken off the stack, and the item goes on top. -/
theorem Operation.atStackedDepth_encode (small : depth < 2 ^ 31) (inside : depth < stack.length) :
    atStackedDepth op minimal action (encode depth :: stack) = (action depth >>= push) stack := by
  cases stack with
  | nil => exact absurd inside (Nat.not_lt_zero depth)
  | cons under rest =>
    have found : ¬ ((depth : Int) < 0 ∨ (under :: rest).length ≤ (depth : Int).toNat) := by omega
    rw [atStackedDepth_of_number op minimal (number_encode (n := depth) small _), if_neg found,
      Int.toNat_natCast]

/-- Any other depth is refused. -/
theorem Operation.exists_atStackedDepth_eq_error
    (refused : ¬ (depth < 2 ^ 31 ∧ depth < stack.length)) :
    ∃ cause left, atStackedDepth op minimal action (encode depth :: stack) = .error cause left := by
  cases stack with
  | nil => exact ⟨.stackUnderflow op 2, [encode depth], by simp [atStackedDepth]⟩
  | cons under rest =>
    by_cases small : depth < 2 ^ 31
    · have beyond : (under :: rest).length ≤ (depth : Int).toNat := by omega
      refine ⟨.depthOutOfRange op, under :: rest, ?_⟩
      rw [atStackedDepth_of_number op minimal (number_encode (n := depth) small _),
        if_pos (.inr beyond)]
    · -- Such a number takes five bytes.
      have long : ¬ IsOperand minimal (encode depth) := mt isOperand_encode_iff.mp small
      have found : (encode depth :: under :: rest)[0]? = some (encode depth) := rfl
      obtain ⟨cause, failed⟩ := exists_number_eq_error found long
      exact ⟨cause, encode depth :: under :: rest, by simp [atStackedDepth, failed]⟩

end Depths

section Chunks

variable {env : Environment} {machine : Machine} {name : String} {instruction : Instruction}
  {minimal : Bool} {action : Nat → StackAction Bytes} {stack : Stack} {depth : Nat} {n : Int}

/-- On a branch that is taken, a name that stands for an instruction runs it. -/
theorem Chunk.execute_named (runs : Opcode.nameRuns name instruction = true)
    (executing : machine.isExecuting = true) :
    (Chunk.ofOpcode (.named name)).execute env machine =
      instruction.run env (.named name) true machine := by
  refine execute_of_nameRuns runs ?_ executing
  cases found : Opcode.ofMnemonic? name with
  | none => simp [Opcode.nameRuns, found] at runs
  | some op => rw [Opcode.named, found, Option.getD_some]

/-- The push of a number pushes its encoding. -/
theorem Chunk.execute_ofNumber
    (within : (ofNumber n).data.length ≤ env.policy.maxElementSize.toNat)
    (executing : machine.isExecuting = true) :
    (ofNumber n).execute env machine =
      .ok .next { machine with stack := encode n :: machine.stack } := by
  rw [ofNumber_eq_ofData] at within ⊢
  exact execute_ofData_of_carried within executing

/-- A depth and the opcode that takes it do what the opcode does at that depth. -/
theorem Script.execute_atDepth (runs : Opcode.nameRuns name instruction = true)
    (acts : instruction.run env (.named name) true =
      onMainThenNext (Operation.atStackedDepth (.named name) minimal action))
    (within : (Chunk.ofNumber depth).data.length ≤ env.policy.maxElementSize.toNat)
    (executing : machine.isExecuting = true) :
    Script.execute env [.ofNumber depth, .ofOpcode (.named name)] machine =
      (Operation.atStackedDepth (.named name) minimal action).onMain
        { machine with stack := encode depth :: machine.stack } := by
  have pushed := Chunk.execute_ofNumber within executing
  have ran : (Chunk.ofOpcode (.named name)).execute env
      { machine with stack := encode depth :: machine.stack } = _ :=
    Chunk.execute_named runs executing
  simp only [Script.execute, bind_apply, pushed, ran, acts, onMainThenNext_apply, onMain]
  cases Operation.atStackedDepth (.named name) minimal action (encode depth :: machine.stack) <;>
    rfl

/-- At a depth that can be named and that some item has, that is the action itself. -/
theorem Script.execute_atDepth_of_lt (runs : Opcode.nameRuns name instruction = true)
    (acts : instruction.run env (.named name) true =
      onMainThenNext (Operation.atStackedDepth (.named name) minimal action))
    (canName : env.CanName depth) (executing : machine.isExecuting = true)
    (inside : depth < machine.stack.length) :
    Script.execute env [.ofNumber depth, .ofOpcode (.named name)] machine =
      (action depth >>= push).onMain machine := by
  obtain ⟨small, within⟩ := canName
  rw [Script.execute_atDepth runs acts within executing, onMain,
    Operation.atStackedDepth_encode small inside]
  rfl

/-- They fail if the depth cannot be pushed or read, or no item has it. -/
theorem Script.exists_execute_atDepth_eq_error (runs : Opcode.nameRuns name instruction = true)
    (acts : instruction.run env (.named name) true =
      onMainThenNext (Operation.atStackedDepth (.named name) minimal action))
    (executing : machine.isExecuting = true)
    (refused : ¬ (env.CanName depth ∧ depth < machine.stack.length)) :
    ∃ cause left, Script.execute env [.ofNumber depth, .ofOpcode (.named name)] machine =
      .error cause left := by
  by_cases within : (Chunk.ofNumber depth).data.length ≤ env.policy.maxElementSize.toNat
  · have beyond : ¬ (depth < 2 ^ 31 ∧ depth < machine.stack.length) := fun ⟨small, inside⟩ =>
      refused ⟨⟨small, within⟩, inside⟩
    obtain ⟨cause, left, failed⟩ : ∃ cause left, Operation.atStackedDepth (.named name) minimal
        action (encode depth :: machine.stack) = .error cause left :=
      Operation.exists_atStackedDepth_eq_error beyond
    refine ⟨cause, { machine with stack := left }, ?_⟩
    rw [Script.execute_atDepth runs acts within executing, onMain, failed]
  · have long := Nat.lt_of_not_le within
    exact ⟨_, _, by simp [Script.execute, Chunk.execute, long]; exact ⟨rfl, rfl⟩⟩

namespace DepthMove

variable {move : DepthMove} {moves : List DepthMove} {left : Stack}

theorem nameRuns_pick : Opcode.nameRuns "OP_PICK" .pick = true := by decide +kernel

theorem nameRuns_roll : Opcode.nameRuns "OP_ROLL" .roll = true := by decide +kernel

theorem nameRuns_drop : Opcode.nameRuns "OP_DROP" (.shuffle .drop) = true := by decide +kernel

/-- Dropping is the one move without a depth. -/
theorem execute_drop (executing : machine.isExecuting = true) :
    Script.execute env drop.chunks machine =
      (Shuffle.drop.run (.named "OP_DROP")).onMain machine := by
  have ran : (Chunk.ofOpcode (.named "OP_DROP")).execute env machine = _ :=
    Chunk.execute_named nameRuns_drop executing
  simp only [chunks, Script.execute, bind_apply, ran, Instruction.run, onMainThenNext_apply, onMain]
  cases Shuffle.drop.run (.named "OP_DROP") machine.stack <;> rfl

/-- The chunks of a move make it, where there is an item to move. -/
theorem execute_of_after? (named : env.CanName move.depth) (executing : machine.isExecuting = true)
    (applied : move.after? machine.stack = some stack) :
    Script.execute env move.chunks machine = .ok () { machine with stack } := by
  cases move with
  | pick depth =>
    dsimp only [DepthMove.depth] at named
    obtain ⟨item, found, rfl⟩ := Option.map_eq_some_iff.mp applied
    obtain ⟨inside, -⟩ := List.getElem?_eq_some_iff.mp found
    rw [chunks, Script.execute_atDepth_of_lt nameRuns_pick rfl named executing inside, onMain,
      bind_apply, item_of_getElem? found]
    rfl
  | roll depth =>
    dsimp only [DepthMove.depth] at named
    obtain ⟨item, found, rfl⟩ := Option.map_eq_some_iff.mp applied
    obtain ⟨inside, -⟩ := List.getElem?_eq_some_iff.mp found
    have taken : removeAt depth machine.stack = .ok item (machine.stack.eraseIdx depth) := by
      rw [removeAt, found]
    rw [chunks, Script.execute_atDepth_of_lt nameRuns_roll rfl named executing inside, onMain,
      bind_apply, taken]
    rfl
  | drop =>
    rw [execute_drop executing, onMain]
    cases shape : machine.stack with
    | nil =>
      rw [shape] at applied
      cases applied
    | cons top rest =>
      rw [shape] at applied
      cases applied
      simp [Shuffle.run]

/-- They fail where there is none, or its depth cannot be named. -/
theorem exists_execute_eq_error (executing : machine.isExecuting = true)
    (refused : ¬ (env.CanName move.depth ∧ touched [move] ≤ machine.stack.length)) :
    ∃ cause left, Script.execute env move.chunks machine = .error cause left := by
  cases move with
  | pick depth =>
    exact Script.exists_execute_atDepth_eq_error nameRuns_pick rfl executing
      fun ⟨named, inside⟩ => refused ⟨named, by simp only [touched]; omega⟩
  | roll depth =>
    exact Script.exists_execute_atDepth_eq_error nameRuns_roll rfl executing
      fun ⟨named, inside⟩ => refused ⟨named, by simp only [touched]; omega⟩
  | drop =>
    rw [execute_drop executing, onMain]
    cases shape : machine.stack with
    | nil => exact ⟨.stackUnderflow (.named "OP_DROP") 1, _, rfl⟩
    | cons top rest =>
      have named : env.CanName drop.depth := ⟨by decide, Nat.zero_le _⟩
      exact absurd ⟨named, by simp [touched, shape]⟩ refused

/-- A move can be made if and only if its depth can be named and an item has it. -/
theorem exists_execute_eq_ok_iff (executing : machine.isExecuting = true) :
    (∃ left, Script.execute env move.chunks machine = .ok () left) ↔
      env.CanName move.depth ∧ touched [move] ≤ machine.stack.length := by
  by_cases possible : env.CanName move.depth ∧ touched [move] ≤ machine.stack.length
  · obtain ⟨stack, applied⟩ := exists_after?_iff.mpr possible.2
    exact iff_of_true ⟨_, execute_of_after? possible.1 executing applied⟩ possible
  · obtain ⟨cause, left, failed⟩ := exists_execute_eq_error executing possible
    refine iff_of_false ?_ possible
    rintro ⟨reached, succeeded⟩
    cases failed.symm.trans succeeded

/-- The chunks of several moves make them one after another. -/
theorem execute_of_afterAll? (named : ∀ move ∈ moves, env.CanName move.depth)
    (executing : machine.isExecuting = true)
    (applied : afterAll? moves machine.stack = some stack) :
    Script.execute env (moves.flatMap chunks) machine = .ok () { machine with stack } := by
  induction moves generalizing machine with
  | nil =>
    cases applied
    rfl
  | cons move moves ih =>
    obtain ⟨reached, first, later⟩ := Option.bind_eq_some_iff.mp applied
    have moved := execute_of_after? (named move (by simp)) executing first
    have rest := @ih { machine with stack := reached }
      (fun other listed => named other (by simp [listed])) executing later
    rw [List.flatMap_cons, Script.execute_append, bind_apply, moved]
    exact rest

/-- They fail at the first move that cannot be made. -/
theorem exists_execute_eq_error_of_afterAll? (named : ∀ move ∈ moves, env.CanName move.depth)
    (executing : machine.isExecuting = true) (blocked : afterAll? moves machine.stack = none) :
    ∃ cause left, Script.execute env (moves.flatMap chunks) machine = .error cause left := by
  induction moves generalizing machine with
  | nil => cases blocked
  | cons move moves ih =>
    rw [List.flatMap_cons, Script.execute_append]
    cases applied : move.after? machine.stack with
    | none =>
      have absent : ¬ touched [move] ≤ machine.stack.length := by
        rw [← exists_after?_iff, applied]
        exact nofun
      obtain ⟨cause, left, failed⟩ := exists_execute_eq_error executing
        (mt And.right absent : ¬ (env.CanName move.depth ∧ touched [move] ≤ machine.stack.length))
      exact ⟨cause, left, by rw [bind_apply, failed]⟩
    | some reached =>
      have moved := execute_of_after? (named move (by simp)) executing applied
      rw [afterAll?, applied, Option.bind_some] at blocked
      obtain ⟨cause, left, failed⟩ := @ih { machine with stack := reached }
        (fun other listed => named other (by simp [listed])) executing blocked
      exact ⟨cause, left, by rw [bind_apply, moved]; exact failed⟩

end DepthMove

end Chunks

/-- The opcodes that arrange items at fixed depths, and the moves that do the same. -/
def arrangements : List (String × Shuffle × List DepthMove) :=
  [("OP_DUP", .dup, [.pick 0]),
    ("OP_OVER", .over, [.pick 1]),
    ("OP_2DUP", .dup2, [.pick 1, .pick 1]),
    ("OP_3DUP", .dup3, [.pick 2, .pick 2, .pick 2]),
    ("OP_2OVER", .over2, [.pick 3, .pick 3]),
    ("OP_SWAP", .swap, [.roll 1]),
    ("OP_ROT", .rot, [.roll 2]),
    ("OP_2SWAP", .swap2, [.roll 3, .roll 3]),
    ("OP_2ROT", .rot2, [.roll 5, .roll 5]),
    ("OP_NIP", .nip, [.roll 1, .drop]),
    ("OP_TUCK", .tuck, [.roll 1, .pick 1])]

/-- A chunk does the same as some moves where there are as many items as these touch. Where there
are fewer, it fails for want of items and changes nothing, and the moves cannot be made. -/
structure Chunk.Arranges (env : Environment) (chunk : Chunk) (moves : List DepthMove)
    (machine : Machine) : Prop where
  enough : DepthMove.touched moves ≤ machine.stack.length →
    ∃ stack, chunk.execute env machine = .ok .next { machine with stack } ∧
      Script.execute env (moves.flatMap DepthMove.chunks) machine = .ok () { machine with stack }
  short : machine.stack.length < DepthMove.touched moves →
    chunk.execute env machine =
        .error (.stackUnderflow chunk.opcode (DepthMove.touched moves)) machine ∧
      ∃ cause left,
        Script.execute env (moves.flatMap DepthMove.chunks) machine = .error cause left

section Arrangements

variable {env : Environment} {machine : Machine} {name : String} {which : Shuffle}
  {moves : List DepthMove} {stack : Stack}

theorem nameRuns_of_mem_arrangements :
    ∀ entry ∈ arrangements, Opcode.nameRuns entry.1 (.shuffle entry.2.1) = true := by
  decide +kernel

theorem touched_of_mem_arrangements :
    ∀ entry ∈ arrangements, DepthMove.touched entry.2.2 = entry.2.1.needed := by
  decide

/-- The depths of all arrangements are small constants, which no limit keeps from being pushed. -/
theorem canName_of_mem_arrangements (listed : (name, which, moves) ∈ arrangements) :
    ∀ move ∈ moves, env.CanName move.depth := by
  have small : ∀ entry ∈ arrangements, ∀ move ∈ entry.2.2, move.depth < 17 := by decide
  have bare : ∀ depth < 17, (Chunk.ofNumber (depth : Nat)).data = [] := by decide +kernel
  intro move present
  have constant := small _ listed move present
  refine ⟨constant.trans (by decide), ?_⟩
  rw [bare _ constant]
  exact Nat.zero_le _

/-- With the items that the moves touch in front, an arrangement and its moves lead to the same
stack. -/
theorem exists_afterAll?_of_mem_arrangements (op : Opcode)
    (listed : (name, which, moves) ∈ arrangements)
    (enough : DepthMove.touched moves ≤ stack.length) :
    ∃ left, DepthMove.afterAll? moves stack = some left ∧ which.run op stack = .ok () left := by
  obtain ⟨front, rest, rfl, length⟩ :
      ∃ front rest, stack = front ++ rest ∧ front.length = DepthMove.touched moves :=
    ⟨stack.take (DepthMove.touched moves), stack.drop (DepthMove.touched moves), by simp,
      by simpa using enough⟩
  simp only [arrangements, List.mem_cons, List.not_mem_nil, or_false, Prod.mk.injEq] at listed
  obtain ⟨-, rfl, rfl⟩ | ⟨-, rfl, rfl⟩ | ⟨-, rfl, rfl⟩ | ⟨-, rfl, rfl⟩ | ⟨-, rfl, rfl⟩ |
    ⟨-, rfl, rfl⟩ | ⟨-, rfl, rfl⟩ | ⟨-, rfl, rfl⟩ | ⟨-, rfl, rfl⟩ | ⟨-, rfl, rfl⟩ |
    ⟨-, rfl, rfl⟩ := listed
  · -- One item is copied.
    obtain ⟨_, rfl⟩ := List.length_eq_one_iff.mp length
    exact ⟨_, rfl, by simp [Shuffle.run]⟩
  · obtain ⟨_, _, rfl⟩ := List.length_eq_two.mp length
    exact ⟨_, rfl, by simp [Shuffle.run, item]⟩
  · obtain ⟨_, _, rfl⟩ := List.length_eq_two.mp length
    exact ⟨_, rfl, by simp [Shuffle.run, item]⟩
  · obtain ⟨_, _, _, rfl⟩ := List.length_eq_three.mp length
    exact ⟨_, rfl, by simp [Shuffle.run, item]⟩
  · obtain ⟨_, _, _, _, rfl⟩ := List.length_eq_four.mp length
    exact ⟨_, rfl, by simp [Shuffle.run, item]⟩
  · obtain ⟨_, _, rfl⟩ := List.length_eq_two.mp length
    exact ⟨_, rfl, by simp [Shuffle.run, swapAt]⟩
  · obtain ⟨_, _, _, rfl⟩ := List.length_eq_three.mp length
    exact ⟨_, rfl, by simp [Shuffle.run, swapAt]⟩
  · obtain ⟨_, _, _, _, rfl⟩ := List.length_eq_four.mp length
    exact ⟨_, rfl, by simp [Shuffle.run, swapAt]⟩
  · obtain ⟨_, _, rfl, five⟩ := List.length_eq_succ_iff.mp length
    obtain ⟨_, _, rfl, four⟩ := List.length_eq_succ_iff.mp five
    obtain ⟨_, _, _, _, rfl⟩ := List.length_eq_four.mp four
    exact ⟨_, rfl, by simp [Shuffle.run, removeAt]⟩
  · obtain ⟨_, _, rfl⟩ := List.length_eq_two.mp length
    exact ⟨_, rfl, by simp [Shuffle.run, removeAt]⟩
  · obtain ⟨_, _, rfl⟩ := List.length_eq_two.mp length
    exact ⟨_, rfl, by simp [Shuffle.run, insertAt]⟩

theorem arranges_of_mem_arrangements (listed : (name, which, moves) ∈ arrangements)
    (executing : machine.isExecuting = true) :
    (Chunk.ofOpcode (.named name)).Arranges env moves machine := by
  have runs : (Chunk.ofOpcode (.named name)).execute env machine =
      onMainThenNext (which.run (.named name)) machine :=
    Chunk.execute_named (nameRuns_of_mem_arrangements _ listed) executing
  have canName := @canName_of_mem_arrangements env name which moves listed
  constructor
  · intro enough
    obtain ⟨stack, applied, ran⟩ := exists_afterAll?_of_mem_arrangements (.named name) listed enough
    refine ⟨stack, ?_, DepthMove.execute_of_afterAll? canName executing applied⟩
    rw [runs, onMainThenNext_apply, ran]
  · intro short
    have needed : DepthMove.touched moves = which.needed := touched_of_mem_arrangements _ listed
    have blocked : DepthMove.afterAll? moves machine.stack = none := by
      rw [Option.eq_none_iff_forall_ne_some]
      intro stack applied
      exact Nat.not_le.mpr short (DepthMove.exists_afterAll?_iff.mp ⟨stack, applied⟩)
    refine ⟨?_, DepthMove.exists_execute_eq_error_of_afterAll? canName executing blocked⟩
    rw [needed] at short ⊢
    rw [runs, onMainThenNext_apply, which.run_of_lt (.named name) short]
    rfl

/-- Whoever can pick and roll can do without the fixed arrangements. Each of them succeeds on a
stack that holds the items that its moves touch, and then leaves what these leave; on any other
stack it fails for want of items and changes nothing. Picking or rolling succeeds at the depths that
an operand can name and some item has, whatever the depth. Picking copies the item at that depth to
the top, and rolling permutes the stack, as it moves the item there and keeps the order of all
others. -/
theorem arranges_by_depth (env : Environment) (machine : Machine)
    (executing : machine.isExecuting = true) :
    (∀ name which moves, (name, which, moves) ∈ arrangements →
      (Chunk.ofOpcode (.named name)).Arranges env moves machine) ∧
    ∀ depth : Nat,
      ((∃ left, Script.execute env (DepthMove.pick depth).chunks machine = .ok () left) ↔
        env.CanName depth ∧ depth < machine.stack.length) ∧
      ((∃ left, Script.execute env (DepthMove.roll depth).chunks machine = .ok () left) ↔
        env.CanName depth ∧ depth < machine.stack.length) ∧
      ∀ (above : Stack) (item : Bytes) (below : Stack),
        machine.stack = above ++ item :: below → above.length = depth →
        env.CanName depth →
        Script.execute env (DepthMove.pick depth).chunks machine =
            .ok () { machine with stack := item :: machine.stack } ∧
          Script.execute env (DepthMove.roll depth).chunks machine =
            .ok () { machine with stack := item :: (above ++ below) } ∧
          (item :: (above ++ below)).Perm machine.stack := by
  refine ⟨fun name which moves listed => arranges_of_mem_arrangements listed executing,
    fun depth => ⟨?_, ?_, fun above item below shape length canName => ?_⟩⟩
  · have touched : DepthMove.touched [.pick depth] = depth + 1 := Nat.max_zero _
    rw [DepthMove.exists_execute_eq_ok_iff executing, touched, Nat.succ_le_iff]
    rfl
  · have touched : DepthMove.touched [.roll depth] = depth + 1 := Nat.max_zero _
    rw [DepthMove.exists_execute_eq_ok_iff executing, touched, Nat.succ_le_iff]
    rfl
  · have found : machine.stack[depth]? = some item := by simp [shape, ← length]
    have others : machine.stack.eraseIdx depth = above ++ below := by
      rw [shape, ← length, List.eraseIdx_append_of_length_le (Nat.le_refl _), Nat.sub_self]
      rfl
    have picked : (DepthMove.pick depth).after? machine.stack = some (item :: machine.stack) := by
      rw [DepthMove.after?, found]
      rfl
    have rolled :
        (DepthMove.roll depth).after? machine.stack = some (item :: (above ++ below)) := by
      rw [DepthMove.after?, found, others]
      rfl
    refine ⟨DepthMove.execute_of_after? canName executing picked,
      DepthMove.execute_of_after? canName executing rolled, ?_⟩
    rw [shape]
    exact List.perm_middle.symm

/-- Two rolls of the sixth item do the same as the opcode that brings two items up from below four
others. With five items it fails, and so do the rolls. With seven, the last one can be rolled. -/
theorem arranges_by_depth_rot2 :
    let env : Environment := ⟨{}, fun _ _ _ => false, [], none⟩
    let machine : Machine := { stack := [[1], [2], [3], [4], [5], [6], [7]], alt := [[8]] }
    let short : Machine := { machine with stack := [[1], [2], [3], [4], [5]] }
    ("OP_2ROT", Shuffle.rot2, [DepthMove.roll 5, .roll 5]) ∈ arrangements ∧
      Opcode.named "OP_2ROT" = 0x71 ∧
      Script.execute env ([DepthMove.roll 5, .roll 5].flatMap DepthMove.chunks) machine =
        .ok () { machine with stack := [[5], [6], [1], [2], [3], [4], [7]] } ∧
      (Chunk.ofOpcode 0x71).execute env short = .error (.stackUnderflow 0x71 6) short ∧
      (∃ cause left, Script.execute env ([DepthMove.roll 5, .roll 5].flatMap DepthMove.chunks)
        short = .error cause left) ∧
      Script.execute env (DepthMove.roll 6).chunks machine =
        .ok () { machine with stack := [[7], [1], [2], [3], [4], [5], [6]] } := by
  intro env machine short
  have listed : ("OP_2ROT", Shuffle.rot2, [DepthMove.roll 5, .roll 5]) ∈ arrangements := by decide
  have named : Opcode.named "OP_2ROT" = 0x71 := by decide +kernel
  have executed : (Chunk.ofOpcode 0x71).execute env machine =
      .ok .next { machine with stack := [[5], [6], [1], [2], [3], [4], [7]] } := by rfl
  obtain ⟨arranges, byDepth⟩ := arranges_by_depth env machine rfl
  obtain ⟨arrangesShort, -⟩ := arranges_by_depth env short rfl
  have whole := arranges _ _ _ listed
  have lacking := arrangesShort _ _ _ listed
  rw [named] at whole lacking
  obtain ⟨stack, arranged, moved⟩ := whole.enough (by decide)
  obtain rfl : stack = [[5], [6], [1], [2], [3], [4], [7]] := by
    rw [executed] at arranged
    cases arranged
    rfl
  obtain ⟨refused, blocked⟩ := lacking.short (by decide)
  obtain ⟨-, -, moves⟩ := byDepth 6
  obtain ⟨-, rolled, -⟩ := moves [[1], [2], [3], [4], [5], [6]] [7] [] rfl rfl
    ⟨by decide, by decide⟩
  exact ⟨listed, named, moved, refused, blocked, rolled⟩

end Arrangements

end ScriptSpend
