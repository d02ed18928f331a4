import ScriptSpend.Spend

/-!
# Sessions

A session carries out actions on one spend, one after another, also after a failure. Each action
yields a result and leaves the spend somewhere, and each announces what it does in log records:
every chunk before it is executed, every failure, and every spend that was found valid.

## Main definitions

* `Spend.Action`: what can be asked of a spend
* `Spend.perform`: the outcome of an action
* `Spend.records`: the log records of an action
-/

namespace ScriptSpend

/-- The importance of a log record. -/
inductive LogLevel where
  | trace
  | debug
  deriving DecidableEq

/-- The name of a level in the log. -/
def LogLevel.name : LogLevel → String
  | trace => "TRACE"
  | debug => "DEBUG"

/-- What is announced. -/
inductive LogRecord where
  | executing (segment : Segment) (position : Nat) (op : Opcode) (stackSize : Nat)
  | failed (e : SpendError)
  | validated (source : Outpoint) (steps : Nat)
  deriving DecidableEq

namespace LogRecord

/-- The importance of a record. -/
def level : LogRecord → LogLevel
  | executing _ _ _ _ => .trace
  | _ => .debug

/-- An outpoint as the log names it. -/
def place (source : Outpoint) : String := source.txid.toHex ++ ":" ++ toString source.index.toNat

/-- The text of a record. -/
def message : LogRecord → String
  | executing segment position op stackSize =>
    s!"{segment.name} pc={position} {op.displayName} stack={stackSize}"
  | failed e =>
    s!"spend of {place e.source} failed ({e.cause.kind.name}) in {e.segment.name} "
      ++ s!"at pc {e.position}: " ++ e.cause.message
  | validated source steps => s!"spend of {place source} validated in {steps} steps"

/-- The line of a record in the log. -/
def line (entry : LogRecord) : String := entry.level.name ++ " " ++ entry.message

end LogRecord

namespace Spend

/-- What can be asked of a spend. -/
inductive Action where
  | step
  | validate
  | reset
  | trace
  deriving DecidableEq

/-- What came of an action: the states after each successful step of a trace, the result, and the
spend as it was left. -/
structure Outcome where
  passed : List Spend
  result : Except SpendError Unit
  spend : Spend

/-- The outcome of a computation that shows no intermediate states. -/
def outcomeOf (action : SpendAction Unit) (spend : Spend) : Outcome :=
  match action spend with
  | .ok _ next => ⟨[], .ok (), next⟩
  | .error e failed => ⟨[], .error e, failed⟩

/-- At most the given number of steps, with the state after each. -/
def traceFor (verify : Ecdsa.Verifier) : Nat → Spend → Outcome
  | 0, spend => ⟨[], .ok (), spend⟩
  | count + 1, spend =>
    if spend.isFinished then ⟨[], .ok (), spend⟩
    else
      match step verify spend with
      | .error e failed => ⟨[], .error e, failed⟩
      | .ok _ next =>
        let later := traceFor verify count next
        { later with passed := next :: later.passed }

/-- Steps until both scripts are at their end, with the state after each step. -/
def trace (verify : Ecdsa.Verifier) (spend : Spend) : Outcome :=
  traceFor verify spend.remaining spend

/-- Carries out an action. -/
def perform (verify : Ecdsa.Verifier) (spend : Spend) : Action → Outcome
  | .step => outcomeOf (step verify) spend
  | .validate => outcomeOf (validate verify) spend
  | .reset => ⟨[], .ok (), spend.reset⟩
  | .trace => trace verify spend

/-- What is announced before a step, if it executes a chunk. -/
def announcement? (spend : Spend) : Option LogRecord :=
  match spend.entered.chunk?, spend.exhausted? with
  | some chunk, none =>
    some (.executing spend.entered.segment spend.entered.position chunk.opcode
      spend.machine.stack.length)
  | _, _ => none

/-- What is announced of a failure. -/
def failureRecords : Except SpendError Unit → List LogRecord
  | .ok () => []
  | .error e => [.failed e]

/-- What is announced before the steps of a run with a given trace. -/
def announcements (spend : Spend) (trace : Outcome) : List LogRecord :=
  -- After a success the last state is final, and no step was taken from it.
  let visited := spend :: trace.passed
  (match trace.result with
    | .ok () => visited.dropLast
    | .error _ => visited).filterMap announcement?

/-- Everything that is announced during an action. -/
def records (verify : Ecdsa.Verifier) (spend : Spend) (action : Action) : List LogRecord :=
  let outcome := perform verify spend action
  match action with
  | .reset => []
  | .step => spend.announcement?.toList ++ failureRecords outcome.result
  | .trace => spend.announcements outcome ++ failureRecords outcome.result
  | .validate =>
    (if spend.admitsUnlocking then spend.announcements (trace verify spend) else [])
      ++ match outcome.result with
        | .ok () => [.validated outcome.spend.context.source outcome.spend.steps]
        | .error e => [.failed e]

/-- A trace ends as a run does. -/
theorem traceFor_eq_runFor (verify : Ecdsa.Verifier) (count : Nat) (spend : Spend) :
    ((traceFor verify count spend).result, (traceFor verify count spend).spend)
      = ((outcomeOf (runFor verify count) spend).result,
        (outcomeOf (runFor verify count) spend).spend) := by
  induction count generalizing spend with
  | zero => rfl
  | succ count ih =>
    by_cases finished : spend.isFinished
    · simp [traceFor, outcomeOf, runFor, finished]
    · cases stepped : step verify spend with
      | error e failed => simp [traceFor, outcomeOf, runFor, finished, stepped]
      | ok _ next => simpa [traceFor, outcomeOf, runFor, finished, stepped] using ih next

end Spend

end ScriptSpend
