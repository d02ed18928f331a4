import ScriptSpend.Proofs.NestedBranches
import ScriptSpend.Proofs.RelaxedPolicies
import ScriptSpend.Proofs.SingleSteps

/-!
# The bound on the number of steps

A validation takes at most as many steps as there are chunks, whatever the scripts do: a chunk that
ends its script skips others, and none leads backwards. A bound on the number of steps does not
change what is executed. If it admits all the chunks that a validation executes without a bound, the
validation ends in the same way, and otherwise it stops in front of the chunk that is one too many,
on the stacks that the chunks before have left.

## Main definitions

* `Spend.bounded`: a spend under its own policy with a bound on the number of steps
* `Spend.ExecutesTo`: a run that executes so many chunks
* `Spend.ValidatesIn`: a validation that executes so many chunks
* `Spend.BoundIsTransparent`: what a bound does to a validation

## Main results

* `step_bounded`, `step_bounded_of_le`: a step under a bound that is not used up, and one that is
* `exists_executesTo`: a run comes to its end, and executes no more chunks than there are ahead
* `ExecutesTo.run_bounded`, `ExecutesTo.run_bounded_of_lt`: the same run under a bound
* `boundIsTransparent_fresh`: the bound makes no difference to a validation but to cut it short
-/

namespace ScriptSpend

/-- No chunk looks at the bound on the number of steps. -/
theorem Chunk.execute_withMaxSteps (env : Environment) (bound : UInt64) (chunk : Chunk) :
    chunk.execute { env with policy := env.policy.withMaxSteps bound } = chunk.execute env := rfl

section Lifting

variable {ε σ τ α β : Type} {f : σ → τ} {state : σ}

/-- If two actions do the same on states that correspond, so does the one after the other. -/
theorem bind_apply_mapState {first : EStateM ε σ α} {firstThere : EStateM ε τ α}
    {next : α → EStateM ε σ β} {nextThere : α → EStateM ε τ β}
    (same : firstThere (f state) = mapState f (first state))
    (goesOn : ∀ value left, nextThere value (f left) = mapState f (next value left)) :
    (firstThere >>= nextThere) (f state) = mapState f ((first >>= next) state) := by
  rw [bind_apply, bind_apply, same]
  cases first state with
  | ok value left => exact goesOn value left
  | error cause left => rfl

end Lifting

namespace Spend

/-- The spend under its own policy with a bound on the number of steps. -/
def bounded (bound : UInt64) (spend : Spend) : Spend :=
  spend.under (spend.policy.withMaxSteps bound)

variable {verify : Ecdsa.Verifier} {spend next final : Spend} {bound : UInt64} {count : Nat}

section Ahead

/-- The number of chunks that lie ahead of the spend in both scripts. -/
def chunksAhead (spend : Spend) : Nat :=
  match spend.segment with
  | .unlocking => spend.unlocking.length - spend.position + spend.locking.length
  | .locking => spend.locking.length - spend.position

@[simp] theorem chunksAhead_entered : spend.entered.chunksAhead = spend.chunksAhead := by
  unfold entered
  split
  · rename_i ended
    simp only [chunksAhead, ended.1]
    omega
  · rfl

/-- Wherever a script goes on behind a chunk, fewer chunks are ahead there. -/
theorem chunksAhead_advance_lt {chunk : Chunk} (found : spend.chunk? = some chunk) (flow : Flow)
    (machine : Machine) (steps : Nat) :
    Spend.chunksAhead ({ spend with machine, steps }.advance flow) < spend.chunksAhead := by
  have inside : spend.position < spend.script.length := (List.getElem?_eq_some_iff.mp found).1
  cases segment : spend.segment <;> cases flow <;>
    simp_all [chunksAhead, advance, script] <;> omega

theorem chunksAhead_pos {chunk : Chunk} (found : spend.chunk? = some chunk) :
    0 < spend.chunksAhead :=
  Nat.zero_lt_of_lt (chunksAhead_advance_lt found .next spend.machine spend.steps)

/-- A spend that has entered a script without a chunk is at the end of both. -/
theorem isFinished_entered (absent : spend.entered.chunk? = none) :
    spend.entered.isFinished = true := by
  have ended : spend.entered.script.length ≤ spend.entered.position :=
    List.getElem?_eq_none_iff.mp absent
  have segment : spend.entered.segment = .locking := by
    by_cases switches : spend.segment = .unlocking ∧ spend.unlocking.length ≤ spend.position
    · rw [entered, if_pos switches]
    · rw [entered, if_neg switches] at ended ⊢
      cases segment : spend.segment with
      | locking => rfl
      | unlocking =>
        rw [script, segment] at ended
        exact absurd ⟨segment, ended⟩ switches
  rw [script, segment] at ended
  simp [isFinished, segment, ended]

end Ahead

section Runs

/-- From one spend on so many chunks are executed, each by one step, until no chunk is left or a
step has failed at the last of them. -/
inductive ExecutesTo (verify : Ecdsa.Verifier) : Nat → Spend → Spend → Prop where
  | finished {spend : Spend} (absent : spend.entered.chunk? = none) :
    ExecutesTo verify 0 spend spend.entered
  | failed {spend failed : Spend} {e : SpendError} (within : spend.entered.exhausted? = none)
    (stepped : step verify spend = .error e failed) : ExecutesTo verify 1 spend failed
  | stepped {count : Nat} {spend next final : Spend} {chunk : Chunk}
    (found : spend.entered.chunk? = some chunk) (stepped : step verify spend = .ok () next)
    (later : ExecutesTo verify count next final) : ExecutesTo verify (count + 1) spend final

theorem exhausted?_entered (unbounded : spend.policy.maxSteps = none) :
    spend.entered.exhausted? = none := by
  simp [exhausted?, unbounded]

/-- The spend has counted the chunks that were executed. -/
theorem ExecutesTo.steps_eq (executes : ExecutesTo verify count spend final) :
    final.steps = spend.steps + count := by
  induction executes with
  | finished absent => exact steps_entered
  | failed within stepped =>
    obtain ⟨chunk, -, ⟨bound, exhausted, -⟩ | ⟨machine, -, rfl⟩⟩ := step_eq_error stepped
    · cases within.symm.trans exhausted
    · exact congrArg (· + 1) steps_entered
  | stepped found stepped later ih =>
    rw [ih, steps_of_step found stepped]
    omega

/-- Without a bound a run comes to its end, and executes no more chunks than there are ahead. -/
theorem exists_executesTo (verify : Ecdsa.Verifier) (spend : Spend)
    (unbounded : spend.policy.maxSteps = none) :
    ∃ count ≤ spend.chunksAhead,
      ExecutesTo verify count spend (outcomeOf (run verify) spend).spend := by
  cases finished : spend.isFinished with
  | true =>
    have absent : spend.entered.chunk? = none := by
      rw [entered_of_isFinished finished, chunk?_of_isFinished finished]
    refine ⟨0, Nat.zero_le _, ?_⟩
    rw [outcomeOf_of_ok (run_of_isFinished finished)]
    have atEnd : ExecutesTo verify 0 spend spend.entered := .finished absent
    rwa [entered_of_isFinished finished] at atEnd
  | false =>
    cases stepped : step verify spend with
    | error e failed =>
      obtain ⟨chunk, found, -⟩ := step_eq_error stepped
      refine ⟨1, chunksAhead_entered ▸ chunksAhead_pos found, ?_⟩
      rw [outcomeOf_of_error (run_of_failed_step stepped)]
      exact .failed (exhausted?_entered unbounded) stepped
    | ok _ next =>
      have same : outcomeOf (run verify) spend = outcomeOf (run verify) next := by
        rw [outcomeOf, outcomeOf, run_of_step stepped]
      rw [same]
      rcases step_eq_ok stepped with ⟨absent, rfl⟩ | ⟨chunk, flow, machine, found, -, -, shape⟩
      · refine ⟨0, Nat.zero_le _, ?_⟩
        rw [outcomeOf_of_ok (run_of_isFinished (isFinished_entered absent))]
        exact ExecutesTo.finished absent
      · have kept : next.policy = spend.policy := policy_of_reset (reset_of_step stepped)
        obtain ⟨count, fewer, later⟩ := exists_executesTo verify next (kept ▸ unbounded)
        have behind : next.chunksAhead < spend.chunksAhead := by
          rw [shape, ← @chunksAhead_entered spend]
          exact chunksAhead_advance_lt found flow machine _
        exact ⟨count + 1, by omega, .stepped found stepped later⟩
termination_by spend.remaining
decreasing_by exact remaining_lt_of_step finished stepped

end Runs

section Bounded

theorem entered_bounded : (spend.bounded bound).entered = spend.entered.bounded bound := by
  rw [bounded, bounded, entered_under, policy_entered]

theorem advance_bounded (flow : Flow) :
    (spend.bounded bound).advance flow = (spend.advance flow).bounded bound := by
  cases flow <;> rfl

theorem exhausted?_bounded : (spend.bounded bound).exhausted? =
    if bound.toNat ≤ spend.steps then some bound.toNat else none := rfl

/-- A step under a bound is the step without it, unless it finds a chunk and the bound is used up.
-/
theorem step_bounded (unbounded : spend.policy.maxSteps = none)
    (within : spend.steps < bound.toNat ∨ spend.entered.chunk? = none) :
    step verify (spend.bounded bound) = mapState (bounded bound) (step verify spend) := by
  cases found : spend.entered.chunk? with
  | none =>
    have absent : (spend.bounded bound).entered.chunk? = none := entered_bounded ▸ found
    rw [step_of_chunk?_eq_none found, step_of_chunk?_eq_none absent, entered_bounded]
    rfl
  | some chunk =>
    have fewer : spend.entered.steps < bound.toNat := by
      rw [steps_entered]
      exact within.resolve_right (by simp [found])
    have foundThere : (spend.bounded bound).entered.chunk? = some chunk := entered_bounded ▸ found
    have withinThere : (spend.bounded bound).entered.exhausted? = none := by
      rw [entered_bounded, exhausted?_bounded, if_neg (Nat.not_le.mpr fewer)]
    have unused := exhausted?_entered unbounded
    have same : chunk.execute ((spend.entered.bounded bound).environment verify) =
        chunk.execute (spend.entered.environment verify) :=
      Chunk.execute_withMaxSteps (spend.entered.environment verify) bound chunk
    have machine : (spend.entered.bounded bound).machine = spend.entered.machine := rfl
    rw [step_of_entered_chunk? found unused, step_of_entered_chunk? foundThere withinThere,
      entered_bounded, same, machine]
    cases chunk.execute (spend.entered.environment verify) spend.entered.machine with
    | ok flow machine =>
      let left : Spend := { spend.entered with machine, steps := spend.entered.steps + 1 }
      exact congrArg (EStateM.Result.ok ()) (@advance_bounded left bound flow)
    | error cause machine => rfl

/-- Where the bound is used up, a step stops in front of the next chunk. -/
theorem step_bounded_of_le {chunk : Chunk} (found : spend.entered.chunk? = some chunk)
    (used : bound.toNat ≤ spend.steps) :
    step verify (spend.bounded bound) =
      .error (spend.entered.failure (.budgetExhausted bound.toNat))
        (spend.entered.bounded bound) := by
  have foundThere : (spend.bounded bound).entered.chunk? = some chunk := entered_bounded ▸ found
  have usedThere : (spend.bounded bound).entered.exhausted? = some bound.toNat := by
    rw [entered_bounded, exhausted?_bounded, steps_entered, if_pos used]
  rw [step_of_exhausted? foundThere usedThere, entered_bounded]
  rfl

/-- If the bound admits all the chunks that a run executes, the run ends in the same way. -/
theorem ExecutesTo.run_bounded (executes : ExecutesTo verify count spend final)
    (unbounded : spend.policy.maxSteps = none) (enough : spend.steps + count ≤ bound.toNat) :
    run verify (spend.bounded bound) = mapState (bounded bound) (run verify spend) := by
  -- Every chunk that is executed takes one step off those that the bound still admits.
  induction executes with
  | @finished spend absent =>
    have finished := isFinished_entered absent
    have finishedThere : (spend.entered.bounded bound).isFinished = true := finished
    rw [← run_entered, entered_bounded, run_of_isFinished finishedThere, ← @run_entered _ spend,
      run_of_isFinished finished]
    rfl
  | failed within stepped =>
    have same := @step_bounded verify _ bound unbounded (.inl (by omega))
    rw [stepped] at same
    rw [run_of_failed_step stepped, run_of_failed_step same]
    rfl
  | stepped found stepped later ih =>
    have same := @step_bounded verify _ bound unbounded (.inl (by omega))
    rw [stepped] at same
    have kept := policy_of_reset (reset_of_step stepped)
    have counted := steps_of_step found stepped
    rw [run_of_step stepped, run_of_step same]
    exact ih (kept ▸ unbounded) (by omega)

/-- If it does not, the run stops in front of the first chunk that is too many. -/
theorem ExecutesTo.run_bounded_of_lt (executes : ExecutesTo verify count spend final)
    (unbounded : spend.policy.maxSteps = none) (left : Nat)
    (started : spend.steps + left = bound.toNat) (short : left < count) :
    ∃ reached, stepTimes verify left spend = .ok () reached ∧ reached.steps = bound.toNat ∧
      run verify (spend.bounded bound) =
        .error (reached.entered.failure (.budgetExhausted bound.toNat))
          (reached.entered.bounded bound) := by
  -- The steps that are left run out before the chunks do.
  induction executes generalizing left with
  | finished absent => exact absurd short (Nat.not_lt_zero left)
  | @failed spend failed e within stepped =>
    obtain ⟨chunk, found, -⟩ := step_eq_error stepped
    obtain rfl : left = 0 := Nat.lt_one_iff.mp short
    exact ⟨spend, rfl, started, run_of_failed_step (step_bounded_of_le found (by omega))⟩
  | @stepped count spend next final chunk found stepped later ih =>
    cases left with
    | zero => exact ⟨spend, rfl, started, run_of_failed_step (step_bounded_of_le found (by omega))⟩
    | succ left =>
      have same := @step_bounded verify _ bound unbounded (.inl (by omega))
      rw [stepped] at same
      have kept := policy_of_reset (reset_of_step stepped)
      have counted := steps_of_step found stepped
      obtain ⟨reached, leads, taken, stops⟩ := ih (kept ▸ unbounded) left (by omega) (by omega)
      exact ⟨reached, (stepTimes_of_step stepped).trans leads, taken,
        (run_of_step same).trans stops⟩

end Bounded

section Validation

theorem demand_bounded (holds : Bool) (cause : Failure) (spend : Spend) :
    demand holds cause (spend.bounded bound) =
      mapState (bounded bound) (demand holds cause spend) := by
  cases holds <;> rfl

/-- The rules on the final state do not look at the bound. -/
theorem conclude_bounded (spend : Spend) :
    conclude (spend.bounded bound) = mapState (bounded bound) (conclude spend) :=
  bind_apply_mapState (demand_bounded _ _ spend) fun _ left =>
    bind_apply_mapState (demand_bounded _ _ left) fun _ left => demand_bounded _ _ left

/-- A validation ends under a bound as it does without, if its run does. -/
theorem validate_bounded
    (ran : spend.admitsUnlocking = true →
      run verify (spend.bounded bound) = mapState (bounded bound) (run verify spend)) :
    validate verify (spend.bounded bound) = mapState (bounded bound) (validate verify spend) := by
  cases admitted : spend.admitsUnlocking with
  | true =>
    have admittedThere : (spend.bounded bound).admitsUnlocking = true := admitted
    rw [validate_of_admitsUnlocking admitted, validate_of_admitsUnlocking admittedThere]
    exact bind_apply_mapState (ran admitted) fun _ left => conclude_bounded left
  | false =>
    have barred : (spend.bounded bound).admitsUnlocking = false := admitted
    rw [validate_of_not_admitsUnlocking admitted, validate_of_not_admitsUnlocking barred]
    rfl

/-- A validation executes so many chunks: all those of a run, or none if the unlocking script is not
admitted. -/
structure ValidatesIn (verify : Ecdsa.Verifier) (count : Nat) (spend : Spend) : Prop where
  admitted : spend.admitsUnlocking = true →
    ExecutesTo verify count spend (spend.afterValidation verify)
  refused : spend.admitsUnlocking = false → count = 0
  /-- The spend has counted them. -/
  counted : (spend.afterValidation verify).steps = spend.steps + count

/-- What a bound does to the validation of a fresh spend that executes so many chunks without. -/
structure BoundIsTransparent (verify : Ecdsa.Verifier) (count : Nat) (spend : Spend) : Prop where
  /-- A bound that admits them all changes neither the result nor the state that is left. -/
  enough : ∀ bound : UInt64, count ≤ bound.toNat →
    validate verify (spend.bounded bound) = mapState (bounded bound) (validate verify spend)
  /-- Any other one stops the validation in front of the first chunk that it does not admit, after
  as many steps as it admits. -/
  short : ∀ bound : UInt64, bound.toNat < count →
    ∃ reached, stepTimes verify bound.toNat spend = .ok () reached ∧
      reached.steps = bound.toNat ∧
      ∃ e, e = reached.entered.failure (.budgetExhausted bound.toNat) ∧
        e.cause.kind = .resourceExhausted ∧
        validate verify (spend.bounded bound) = .error e (reached.entered.bounded bound)

/-- Without a bound the validation of a fresh spend executes at most as many chunks as both scripts
have, and a bound makes no difference to it but to cut it short. -/
theorem boundIsTransparent_fresh (verify : Ecdsa.Verifier) (context : InputContext)
    (unlocking locking : Script) {policy : Policy} (unbounded : policy.maxSteps = none) :
    ∃ count ≤ unlocking.length + locking.length,
      ValidatesIn verify count (fresh context unlocking locking policy) ∧
        BoundIsTransparent verify count (fresh context unlocking locking policy) := by
  let spend := fresh context unlocking locking policy
  cases admitted : spend.admitsUnlocking with
  | true =>
    obtain ⟨count, fewer, executes⟩ := exists_executesTo verify spend unbounded
    rw [← spend_validate_of_admitsUnlocking admitted] at executes
    refine ⟨count, fewer, ⟨fun _ => executes, fun barred => ?_, executes.steps_eq⟩, ?_, ?_⟩
    · cases admitted.symm.trans barred
    · intro bound enough
      have enoughFromStart : spend.steps + count ≤ bound.toNat := (Nat.zero_add count).symm ▸ enough
      exact validate_bounded fun _ => executes.run_bounded unbounded enoughFromStart
    · intro bound short
      obtain ⟨reached, leads, taken, stops⟩ :=
        executes.run_bounded_of_lt unbounded bound.toNat (Nat.zero_add _) short
      have admittedThere : (spend.bounded bound).admitsUnlocking = true := admitted
      refine ⟨reached, leads, taken, _, rfl, rfl, ?_⟩
      rw [validate_of_admitsUnlocking admittedThere, bind_apply, stops]
  | false =>
    have still : spend.afterValidation verify = spend :=
      spend_validate_of_not_admitsUnlocking admitted
    refine ⟨0, Nat.zero_le _, ⟨fun other => ?_, fun _ => rfl, congrArg steps still⟩, ?_, ?_⟩
    · cases admitted.symm.trans other
    · exact fun bound _ => validate_bounded fun other => nomatch admitted.symm.trans other
    · exact fun bound short => absurd short (Nat.not_lt_zero _)

/-- Two numbers are pushed and the one is written in as many bytes as the other says: three chunks
are executed, and any smaller bound stops the validation. -/
theorem boundIsTransparent_widening :
    let spend := fresh .bare [.ofOpcode 0x51, .ofOpcode 0x54] [.ofOpcode 0x80] {}
    ({} : Policy).maxSteps = none ∧ ValidatesIn Ecdsa.verify 3 spend ∧
      BoundIsTransparent Ecdsa.verify 3 spend := by
  intro spend
  have unbounded : ({} : Policy).maxSteps = none := rfl
  obtain ⟨count, -, validates, transparent⟩ := boundIsTransparent_fresh Ecdsa.verify .bare
    [.ofOpcode 0x51, .ofOpcode 0x54] [.ofOpcode 0x80] unbounded
  have three : (spend.afterValidation Ecdsa.verify).steps = 0 + 3 := rfl
  obtain rfl : count = 3 := Nat.add_left_cancel (validates.counted.symm.trans three)
  exact ⟨unbounded, validates, transparent⟩

end Validation

end Spend

end ScriptSpend
