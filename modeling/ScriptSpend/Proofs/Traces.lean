import ScriptSpend.Proofs.RunningSpends
import ScriptSpend.Spend.Session

/-!
# The states of a run

A trace shows the state after every step that succeeds. Together with the state that it starts from
these are the states in which a run takes a step, and the last one is where a step fails or nothing
is left to execute.

## Main definitions

* `Spend.visited`: the states of a run

## Main results

* `visited_of_step`: the states of a run go on after a step with those of the run from there
-/

namespace ScriptSpend.Spend

variable {verify : Ecdsa.Verifier} {spend next failed reached : Spend} {e : SpendError}

theorem traceFor_of_isFinished (finished : spend.isFinished = true) (count : Nat) :
    traceFor verify count spend = ⟨[], .ok (), spend⟩ := by
  cases count with
  | zero => rfl
  | succ count => rw [traceFor, if_pos finished]

theorem traceFor_of_failed_step (unfinished : spend.isFinished = false)
    (stepped : step verify spend = .error e failed) (count : Nat) :
    traceFor verify (count + 1) spend = ⟨[], .error e, failed⟩ := by
  simp only [traceFor, unfinished, Bool.false_eq_true, if_false, stepped]

theorem traceFor_of_step (unfinished : spend.isFinished = false)
    (stepped : step verify spend = .ok () next) (count : Nat) :
    traceFor verify (count + 1) spend =
      { traceFor verify count next with
        passed := next :: (traceFor verify count next).passed } := by
  simp only [traceFor, unfinished, Bool.false_eq_true, if_false, stepped]

/-- Steps beyond those that remain do not occur in a trace. -/
theorem traceFor_congr {count other : Nat} (enough : spend.remaining ≤ count)
    (enoughOther : spend.remaining ≤ other) :
    traceFor verify count spend = traceFor verify other spend := by
  -- Both counts go down with every step, and neither reaches zero before the remaining steps do.
  induction count generalizing spend other with
  | zero =>
    have finished := isFinished_of_remaining_eq_zero (Nat.le_zero.mp enough)
    rw [traceFor_of_isFinished finished, traceFor_of_isFinished finished]
  | succ count ih =>
    cases finished : spend.isFinished with
    | true => rw [traceFor_of_isFinished finished, traceFor_of_isFinished finished]
    | false =>
      cases other with
      | zero =>
        have ended := isFinished_of_remaining_eq_zero (Nat.le_zero.mp enoughOther)
        cases finished.symm.trans ended
      | succ other =>
        cases stepped : step verify spend with
        | error e failed =>
          rw [traceFor_of_failed_step finished stepped, traceFor_of_failed_step finished stepped]
        | ok _ next =>
          have fewer := remaining_lt_of_step finished stepped
          rw [traceFor_of_step finished stepped, traceFor_of_step finished stepped,
            @ih next other (by omega) (by omega)]

/-- The states of a run: the one that it starts from, and the one after every step that succeeds. -/
def visited (verify : Ecdsa.Verifier) (spend : Spend) : List Spend :=
  spend :: (trace verify spend).passed

theorem visited_of_isFinished (finished : spend.isFinished = true) :
    spend.visited verify = [spend] := by
  rw [visited, trace, traceFor_of_isFinished finished]

theorem visited_of_failed_step (stepped : step verify spend = .error e failed) :
    spend.visited verify = [spend] := by
  cases finished : spend.isFinished with
  | true => exact visited_of_isFinished finished
  | false =>
    have more : spend.remaining ≤ spend.remaining + 1 := Nat.le_succ _
    rw [visited, trace, traceFor_congr (Nat.le_refl _) more,
      traceFor_of_failed_step finished stepped]

/-- After a step the states of a run are those of the run from there. -/
theorem visited_of_step (unfinished : spend.isFinished = false)
    (stepped : step verify spend = .ok () next) :
    spend.visited verify = spend :: next.visited verify := by
  have more : spend.remaining ≤ spend.remaining + 1 := Nat.le_succ _
  have fewer := remaining_lt_of_step unfinished stepped
  rw [visited, visited, trace, trace, traceFor_congr (Nat.le_refl _) more,
    traceFor_of_step unfinished stepped, @traceFor_congr _ next spend.remaining next.remaining
      (by omega) (Nat.le_refl _)]

theorem self_mem_visited : spend ∈ spend.visited verify := List.mem_cons_self

theorem mem_visited_of_step (stepped : step verify spend = .ok () next)
    (later : reached ∈ next.visited verify) : reached ∈ spend.visited verify := by
  cases finished : spend.isFinished with
  | true =>
    rw [step_of_isFinished finished] at stepped
    cases stepped
    exact later
  | false =>
    rw [visited_of_step finished stepped]
    exact List.mem_cons_of_mem spend later

end ScriptSpend.Spend
