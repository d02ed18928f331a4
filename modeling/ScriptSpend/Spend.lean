import ScriptSpend.Ecdsa
import ScriptSpend.Execution
import ScriptSpend.Sighash

/-!
# Spends

A spend runs the unlocking script of an input and then the locking script of the output that it
takes up, over the same stacks, and decides whether the input is authorised. It can be driven one
chunk at a time or run to its end. A failure reports where the spend stood, and leaves the spend
where it failed.

## Main definitions

* `Spend`: the state of a spend
* `Spend.step`: executes one chunk
* `Spend.run`: steps until both scripts are at their end
* `Spend.validate`: runs both scripts and applies the rules on the final state

## Main results

* `Spend.isFinished_of_run`: a run without failure ends with both scripts at their end
-/

namespace ScriptSpend

/-- Which of the two scripts is executed. -/
inductive Segment where
  | unlocking
  | locking
  deriving DecidableEq

/-- The name of a script in diagnostics. -/
def Segment.name : Segment → String
  | unlocking => "UnlockingScript"
  | locking => "LockingScript"

/-- A failure with the place and the size of the stacks at which it arose. -/
structure SpendError where
  cause : Failure
  source : Outpoint
  segment : Segment
  position : Nat
  stackSize : Nat
  altStackSize : Nat
  deriving DecidableEq

/-- The full text of a failure. -/
def SpendError.report (e : SpendError) : String :=
  e.cause.message ++ "\n\nsource TXID: " ++ e.source.txid.toHex
    ++ "\nsource output index: " ++ toString e.source.index.toNat
    ++ "\ncontext: " ++ e.segment.name
    ++ "\nprogram counter: " ++ toString e.position
    ++ "\nstack size: " ++ toString e.stackSize
    ++ "\nalt stack size: " ++ toString e.altStackSize

/-- A spend: what is to be authorised, under which policy, and how far evaluation has come.
`position` counts the chunks of the present script before the next one, and `steps` the chunks
executed so far. -/
structure Spend where
  context : InputContext
  unlocking : Script
  locking : Script
  policy : Policy
  segment : Segment := .unlocking
  position : Nat := 0
  lastSeparator : Option Nat := none
  machine : Machine := {}
  steps : Nat := 0
  deriving DecidableEq

/-- A computation that advances a spend, and leaves it where a failure arose. -/
abbrev SpendAction := EStateM SpendError Spend

namespace Spend

/-- The spend before its first step. -/
def reset (spend : Spend) : Spend :=
  { context := spend.context, unlocking := spend.unlocking, locking := spend.locking,
    policy := spend.policy }

/-- The script that is executed. -/
def script (spend : Spend) : Script :=
  match spend.segment with
  | .unlocking => spend.unlocking
  | .locking => spend.locking

/-- Whether both scripts are at their end. -/
def isFinished (spend : Spend) : Bool :=
  spend.segment == .locking && spend.locking.length ≤ spend.position

/-- The spend with the locking script entered, if the unlocking script is at its end. -/
def entered (spend : Spend) : Spend :=
  if spend.segment = .unlocking ∧ spend.unlocking.length ≤ spend.position then
    { spend with segment := .locking, position := 0, lastSeparator := none }
  else spend

/-- The next chunk of the present script. -/
def chunk? (spend : Spend) : Option Chunk := spend.script[spend.position]?

/-- The bound on the number of steps, if it is used up. -/
def exhausted? (spend : Spend) : Option Nat :=
  match spend.policy.maxSteps with
  | none => none
  | some bound => if bound.toNat ≤ spend.steps then some bound.toNat else none

/-- A failure at the present place. -/
def failure (spend : Spend) (cause : Failure) : SpendError where
  cause := cause
  source := spend.context.source
  segment := spend.segment
  position := spend.position
  stackSize := spend.machine.stack.length
  altStackSize := spend.machine.alt.length

/-- Decides signatures of the input by a rule for signatures of digests. -/
def checker (verify : Ecdsa.Verifier) (context : InputContext) : Checker :=
  fun decoded key subscript =>
    verify (sighash context subscript decoded.scope) decoded.signature key

/-- What the next chunk is executed against. -/
def environment (spend : Spend) (verify : Ecdsa.Verifier) : Environment where
  policy := spend.policy
  checker := checker verify spend.context
  script := spend.script
  lastSeparator := spend.lastSeparator

/-- The spend at the chunk where the present script goes on. -/
def advance (spend : Spend) : Flow → Spend
  | .next => { spend with position := spend.position + 1 }
  | .separator =>
    { spend with lastSeparator := some spend.position, position := spend.position + 1 }
  | .endSegment => { spend with position := spend.script.length }

/-- Executes the next chunk of the script entered, if there is one. The bound on the number of steps
is checked before the step is counted. -/
def stepEntered (verify : Ecdsa.Verifier) : SpendAction Unit := fun spend =>
  match spend.chunk? with
  | none => .ok () spend
  | some chunk =>
    match spend.exhausted? with
    | some bound => .error (spend.failure (.budgetExhausted bound)) spend
    | none =>
      match chunk.execute (spend.environment verify) spend.machine with
      | .ok flow machine => .ok () ({ spend with machine, steps := spend.steps + 1 }.advance flow)
      | .error cause machine =>
        -- A chunk that fails counts as executed, but the place stays.
        let failed := { spend with machine, steps := spend.steps + 1 }
        .error (failed.failure cause) failed

/-- Executes one chunk, entering the locking script first if the unlocking script is at its end.
Does nothing at the end of both. -/
def step (verify : Ecdsa.Verifier) : SpendAction Unit := fun spend =>
  stepEntered verify spend.entered

/-- The most steps that the spend can still take. -/
def remaining (spend : Spend) : Nat :=
  match spend.segment with
  | .unlocking => spend.unlocking.length - spend.position + spend.locking.length + 1
  | .locking => spend.locking.length - spend.position

/-- At most the given number of steps, none once both scripts are at their end. -/
def runFor (verify : Ecdsa.Verifier) : Nat → SpendAction Unit
  | 0 => fun spend => .ok () spend
  | count + 1 => fun spend =>
    if spend.isFinished then .ok () spend
    else
      match step verify spend with
      | .ok _ next => runFor verify count next
      | .error e failed => .error e failed

/-- Steps until both scripts are at their end. -/
def run (verify : Ecdsa.Verifier) : SpendAction Unit := fun spend =>
  runFor verify spend.remaining spend

/-- Fails at the present place unless a condition holds. -/
def demand (holds : Bool) (cause : Failure) : SpendAction Unit := fun spend =>
  if holds then .ok () spend else .error (spend.failure cause) spend

/-- Whether the unlocking script is one that the policy admits. -/
def admitsUnlocking (spend : Spend) : Bool :=
  !spend.policy.requirePushOnlyUnlocking || spend.unlocking.isPushOnly

/-- The rules on the final state: no conditional is open, the policy's rule of the clean stack
holds, and the top item is true. -/
def conclude : SpendAction Unit := fun spend =>
  let machine := spend.machine
  (do
    demand machine.branches.isEmpty .openConditional
    demand (!spend.policy.requireCleanStack || machine.stack.length == 1)
      (.uncleanStack machine.stack.length)
    demand (machine.stack.head?.any ScriptNumber.isTrue) .falseResult : SpendAction Unit) spend

/-- Runs both scripts and applies the rules on the final state. -/
def validate (verify : Ecdsa.Verifier) : SpendAction Unit := fun spend =>
  (do
    demand spend.admitsUnlocking .unlockingNotPushOnly
    run verify
    conclude : SpendAction Unit) spend

/-- A step without failure uses up at least one of the remaining steps. -/
theorem remaining_lt_of_step {verify : Ecdsa.Verifier} {spend next : Spend}
    (unfinished : spend.isFinished = false) (stepped : step verify spend = .ok () next) :
    next.remaining < spend.remaining := by
  have shrinks : ∀ {s t : Spend}, s.chunk?.isSome → stepEntered verify s = .ok () t →
      t.remaining < s.remaining := by
    intro s t present ok
    obtain ⟨chunk, found⟩ := Option.isSome_iff_exists.mp present
    have inside : s.position < s.script.length := by
      unfold chunk? at found
      exact (List.getElem?_eq_some_iff.mp found).1
    unfold stepEntered at ok
    rw [found] at ok
    dsimp only at ok
    split at ok
    · simp at ok
    · split at ok
      · rename_i flow machine _
        simp only [EStateM.Result.ok.injEq, true_and] at ok
        subst ok
        cases segment : s.segment <;> cases flow <;>
          simp_all [advance, remaining, script] <;> omega
      · simp at ok
  unfold step at stepped
  by_cases ended : spend.segment = .unlocking ∧ spend.unlocking.length ≤ spend.position
  · -- Entering the locking script uses up one by itself.
    have shape : spend.entered =
        { spend with segment := .locking, position := 0, lastSeparator := none } := by
      simp [entered, ended]
    have total : spend.entered.remaining < spend.remaining := by
      simp [shape, remaining, ended]
    by_cases present : spend.entered.chunk?.isSome
    · exact Nat.lt_trans (shrinks present stepped) total
    · have absent : spend.entered.chunk? = none := by simpa using present
      simp only [stepEntered, absent, EStateM.Result.ok.injEq, true_and] at stepped
      exact stepped ▸ total
  · -- The step is taken in the present script.
    have shape : spend.entered = spend := by simp [entered, ended]
    rw [shape] at stepped
    refine shrinks ?_ stepped
    cases segment : spend.segment <;> simp_all [chunk?, script, isFinished]

/-- As many steps as may remain bring both scripts to their end. -/
theorem isFinished_of_runFor {verify : Ecdsa.Verifier} {count : Nat} {spend final : Spend}
    (enough : spend.remaining ≤ count) (ran : runFor verify count spend = .ok () final) :
    final.isFinished = true := by
  induction count generalizing spend with
  | zero =>
    simp only [runFor, EStateM.Result.ok.injEq, true_and] at ran
    subst ran
    cases segment : spend.segment <;> simp_all [remaining, isFinished]
    omega
  | succ count ih =>
    unfold runFor at ran
    split at ran
    · simp_all
    · rename_i unfinished
      split at ran
      · rename_i next stepped
        have := remaining_lt_of_step (by simpa using unfinished) stepped
        exact ih (by omega) ran
      · simp at ran

/-- A run without failure ends with both scripts at their end. -/
theorem isFinished_of_run {verify : Ecdsa.Verifier} {spend final : Spend}
    (ran : run verify spend = .ok () final) : final.isFinished = true :=
  isFinished_of_runFor (Nat.le_refl _) ran

end Spend

end ScriptSpend
