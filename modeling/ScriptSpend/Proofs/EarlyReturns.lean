import ScriptSpend.Proofs.Consultations
import ScriptSpend.Proofs.Pushing
import ScriptSpend.Proofs.StepBudget
import ScriptSpend.Proofs.Traces

/-!
# Returns in the middle of a script

A return that is executed ends the script that it stands in, and nothing else. What stands behind it
is not even looked at, and the other script is executed as ever. The only chunks to which it makes a
difference are those that check signatures, since what they check covers the script to its end.

## Main definitions

* `Spend.cut`: a spend with one of its scripts cut off
* `Spend.verdict`: the cause of a failure, if there is one, and the stacks that are left
* `Spend.ApproachesReturn`: the return is the first chunk that would not be there after the cut

## Main results

* `Chunk.execute_endSegment`: a return does nothing but end its script
* `step_cut`: any other chunk is executed after the cut as well
* `verdict_validate_cut`: cutting the script off in front of the return keeps the verdict
* `verdict_validate_return`: the same for a fresh spend
-/

namespace ScriptSpend

/-- Ends the script that it stands in. -/
def Chunk.endSegment : Chunk := .ofOpcode 0x6a

/-- On a branch that is taken, a return does nothing but end its script. -/
theorem Chunk.execute_endSegment {env : Environment} {machine : Machine}
    (executing : machine.isExecuting = true) :
    Chunk.endSegment.execute env machine = .ok .endSegment machine := by
  have instruction : Instruction.ofOpcode 0x6a = .endSegment := by decide
  rw [Chunk.endSegment, Chunk.execute_ofOpcode executing (by decide) (by decide), instruction]
  rfl

namespace Spend

/-- A fresh spend, given one of its scripts and the other one. -/
def freshWith (context : InputContext) (policy : Policy) (other : Script) (segment : Segment)
    (script : Script) : Spend :=
  match segment with
  | .unlocking => fresh context script other policy
  | .locking => fresh context other script policy

/-- One of the two scripts. -/
def scriptOf (spend : Spend) : Segment → Script
  | .unlocking => spend.unlocking
  | .locking => spend.locking

/-- The cause of a failure, if there is one, and the stacks that are left. -/
def verdict : EStateM.Result SpendError Spend Unit → Option Failure × Machine
  | .ok _ final => (none, final.machine)
  | .error e failed => (some e.cause, failed.machine)

/-- The spend with only the given chunks in one of its scripts, after so many steps. A place behind
them becomes the end. -/
def cut (segment : Segment) (chunks : Script) (steps : Nat) (spend : Spend) : Spend :=
  { spend with
    unlocking := if segment = .unlocking then chunks else spend.unlocking
    locking := if segment = .locking then chunks else spend.locking
    position := if spend.segment = segment then min spend.position chunks.length else spend.position
    steps }

/-- One script returns behind some chunks, and if the spend stands in that script, it stands before
the return, at it, or at the end. The policy neither restricts the unlocking script nor bounds the
number of steps. -/
structure ApproachesReturn (segment : Segment) (chunks junk : Script) (spend : Spend) : Prop where
  script : spend.scriptOf segment = chunks ++ Chunk.endSegment :: junk
  place : spend.segment = segment →
    spend.position ≤ chunks.length ∨ spend.script.length ≤ spend.position
  admitted : spend.policy.requirePushOnlyUnlocking = false
  unbounded : spend.policy.maxSteps = none

variable {verify : Ecdsa.Verifier} {spend next : Spend} {segment : Segment}
  {chunks junk : Script} {steps : Nat}

section Cutting

theorem validate_entered (admitted : spend.admitsUnlocking = true) :
    validate verify spend.entered = validate verify spend := by
  have admittedThere : spend.entered.admitsUnlocking = true :=
    (admitsUnlocking_congr entered_reset).trans admitted
  rw [validate_of_admitsUnlocking admitted, validate_of_admitsUnlocking admittedThere, bind_apply,
    bind_apply, run_entered]

theorem script_eq_scriptOf : spend.script = spend.scriptOf spend.segment := rfl

theorem scriptOf_of_reset (same : next.reset = spend.reset) (segment : Segment) :
    next.scriptOf segment = spend.scriptOf segment :=
  eq_of_reset (scriptOf · segment) (fun _ => by cases segment <;> rfl) same

@[simp] theorem script_withMachine (machine : Machine) (steps : Nat) :
    Spend.script { spend with machine, steps } = spend.script := rfl

theorem script_cut (segment : Segment) (chunks : Script) (steps : Nat) :
    (spend.cut segment chunks steps).script =
      if spend.segment = segment then chunks else spend.script := by
  cases here : spend.segment <;> cases segment <;> simp [script, cut, here]

namespace ApproachesReturn

variable (approaches : ApproachesReturn segment chunks junk spend)
include approaches

theorem length_lt : chunks.length < (spend.scriptOf segment).length := by
  rw [approaches.script, List.length_append, List.length_cons]
  omega

theorem admitsUnlocking : spend.admitsUnlocking = true := by
  rw [Spend.admitsUnlocking, approaches.admitted]
  rfl

theorem admitsUnlocking_cut : (spend.cut segment chunks steps).admitsUnlocking = true := by
  have same : (spend.cut segment chunks steps).policy.requirePushOnlyUnlocking = false :=
    approaches.admitted
  rw [Spend.admitsUnlocking, same]
  rfl

/-- What is at the end of both scripts is there after the cut. -/
theorem isFinished_cut (finished : spend.isFinished = true) :
    (spend.cut segment chunks steps).isFinished = true := by
  have longer := approaches.length_lt
  simp only [isFinished, Bool.and_eq_true, beq_iff_eq, decide_eq_true_eq] at finished ⊢
  cases segment <;> simp_all [cut, scriptOf]
  omega

/-- Where the other script is entered, it is entered after the cut as well. -/
theorem entered_cut
    (switches : spend.segment = .unlocking ∧ spend.unlocking.length ≤ spend.position) :
    (spend.cut segment chunks steps).entered = spend.entered.cut segment chunks steps := by
  have longer := approaches.length_lt
  obtain ⟨here, ended⟩ := switches
  have endedThere : (spend.cut segment chunks steps).unlocking.length ≤
      (spend.cut segment chunks steps).position := by
    cases segment <;> simp_all [cut, scriptOf]
    omega
  rw [entered, if_pos ⟨here, endedThere⟩, entered, if_pos ⟨here, ended⟩]
  cases segment <;> simp [cut]

theorem validate_cut_entered :
    validate verify (spend.cut segment chunks steps) =
      validate verify (spend.entered.cut segment chunks steps) := by
  by_cases switches : spend.segment = .unlocking ∧ spend.unlocking.length ≤ spend.position
  · rw [← approaches.entered_cut switches, validate_entered approaches.admitsUnlocking_cut]
  · rw [entered, if_neg switches]

theorem entered : ApproachesReturn segment chunks junk spend.entered where
  script := (scriptOf_of_reset entered_reset segment).trans approaches.script
  place := by
    by_cases switches : spend.segment = .unlocking ∧ spend.unlocking.length ≤ spend.position
    · rw [Spend.entered, if_pos switches]
      exact fun _ => .inl (Nat.zero_le _)
    · rw [Spend.entered, if_neg switches]
      exact approaches.place
  admitted := by
    rw [policy_entered]
    exact approaches.admitted
  unbounded := by
    rw [policy_entered]
    exact approaches.unbounded

/-- A chunk that is executed is the return, or one that is there after the cut. -/
theorem chunk?_cases {chunk : Chunk} (found : spend.chunk? = some chunk) :
    (spend.segment = segment ∧ spend.position = chunks.length ∧ chunk = .endSegment) ∨
      ((spend.segment = segment → spend.position < chunks.length ∧ chunk ∈ chunks) ∧
        (spend.cut segment chunks steps).chunk? = some chunk) := by
  have within : spend.position < spend.script.length := (List.getElem?_eq_some_iff.mp found).1
  by_cases here : spend.segment = segment
  · have text : spend.script = chunks ++ Chunk.endSegment :: junk := by
      rw [script_eq_scriptOf, here, approaches.script]
    rw [chunk?, text] at found
    rcases Nat.lt_or_ge spend.position chunks.length with before | behind
    · rw [List.getElem?_append_left before] at found
      refine .inr ⟨fun _ => ⟨before, List.mem_of_getElem? found⟩, ?_⟩
      rw [chunk?, script_cut, if_pos here]
      simp only [cut, here, if_true, Nat.min_eq_left (Nat.le_of_lt before)]
      exact found
    · have there : spend.position = chunks.length := by
        have place := approaches.place here
        omega
      rw [there, List.getElem?_append_right (Nat.le_refl _), Nat.sub_self] at found
      exact .inl ⟨here, there, (Option.some.inj found).symm⟩
  · refine .inr ⟨fun same => absurd same here, ?_⟩
    rw [chunk?, script_cut, if_neg here]
    simp only [cut, here, if_false]
    exact found

/-- Behind a chunk that is there after the cut, and behind the return, the spend still approaches
the return or has come to the end. -/
theorem advance {flow : Flow} {machine : Machine} {counted : Nat}
    (inside : spend.segment = segment → spend.position < chunks.length ∨ flow = .endSegment) :
    ApproachesReturn segment chunks junk
      ({ spend with machine, steps := counted }.advance flow) where
  script := by
    refine Eq.trans ?_ approaches.script
    exact scriptOf_of_reset (advance_reset flow) segment
  place here := by
    rw [segment_advance] at here
    cases flow with
    | endSegment => exact .inr (Nat.le_refl _)
    | next | separator => exact .inl ((inside here).resolve_right Flow.noConfusion)
  admitted := by
    rw [policy_of_reset (advance_reset flow)]
    exact approaches.admitted
  unbounded := by
    rw [policy_of_reset (advance_reset flow)]
    exact approaches.unbounded

/-- A chunk that is there after the cut leads to the same place. -/
theorem cut_advance (inside : spend.segment = segment → spend.position < chunks.length)
    (flow : Flow) (machine : Machine) (steps counted : Nat) :
    { spend.cut segment chunks steps with machine, steps := steps + 1 }.advance flow =
      Spend.cut segment chunks (steps + 1)
        ({ spend with machine, steps := counted }.advance flow) := by
  have longer := approaches.length_lt
  by_cases here : spend.segment = segment
  · have before : min spend.position chunks.length = spend.position :=
      Nat.min_eq_left (Nat.le_of_lt (inside here))
    have behind : min (spend.position + 1) chunks.length = spend.position + 1 :=
      Nat.min_eq_left (inside here)
    have ended : min spend.script.length chunks.length = chunks.length := by
      rw [script_eq_scriptOf, here]
      omega
    cases flow with
    | next => simp only [cut, Spend.advance, here, if_true, before, behind]
    | separator => simp only [cut, Spend.advance, here, if_true, before, behind]
    | endSegment =>
      have text := @script_cut spend segment chunks steps
      rw [if_pos here] at text
      simp only [Spend.advance, script_withMachine, text]
      simp only [cut, here, if_true, ended]
  · cases flow with
    | next => simp only [cut, Spend.advance, here, if_false]
    | separator => simp only [cut, Spend.advance, here, if_false]
    | endSegment =>
      have text := @script_cut spend segment chunks steps
      rw [if_neg here] at text
      simp only [Spend.advance, script_withMachine, text]
      simp only [cut, here, if_false]

/-- At the return nothing happens but that the script is at its end, as it is after the cut. -/
theorem cut_return (here : spend.segment = segment) (there : spend.position = chunks.length)
    (steps counted : Nat) :
    Spend.cut segment chunks steps ({ spend with steps := counted }.advance .endSegment) =
      spend.cut segment chunks steps := by
  have ended : min spend.script.length chunks.length = chunks.length := by
    have longer := approaches.length_lt
    rw [script_eq_scriptOf, here]
    omega
  have text : Spend.script { spend with steps := counted } = spend.script := rfl
  simp only [Spend.advance, text]
  simp only [cut, here, if_true, ended, there, Nat.min_self]

end ApproachesReturn

end Cutting

section Verdicts

/-- The rules on the final state are about the stacks and the policy. -/
theorem verdict_conclude_congr (machine : next.machine = spend.machine)
    (policy : next.policy = spend.policy) : verdict (conclude next) = verdict (conclude spend) := by
  have same : next.refusal? = spend.refusal? := by rw [refusal?, refusal?, machine, policy]
  rw [conclude_eq, conclude_eq, same]
  cases spend.refusal? with
  | none => rw [verdict, verdict, machine]
  | some cause => exact congrArg (Prod.mk (some cause)) machine

/-- A chunk that is there after the cut comes to what it came to before: it sees as much of the
script as ever in the other script, and nothing of it in this one. -/
theorem execute_cut {chunk : Chunk}
    (inside : spend.segment = segment → spend.position < chunks.length ∧ chunk ∈ chunks)
    (plain : ∀ chunk ∈ chunks, chunk.opcode ∉ Opcode.signatureChecks) :
    chunk.execute ((spend.cut segment chunks steps).environment verify) =
      chunk.execute (spend.environment verify) := by
  by_cases here : spend.segment = segment
  · exact Chunk.execute_congr (plain chunk (inside here).2) rfl
  · have text : (spend.cut segment chunks steps).script = spend.script := by
      rw [script_cut, if_neg here]
    refine congrArg chunk.execute ?_
    rw [environment, environment, text]
    rfl

/-- Such a chunk is a step after the cut as well, and leads to the same place. -/
theorem step_cut (approaches : ApproachesReturn segment chunks junk spend) {chunk : Chunk}
    (inside : spend.segment = segment → spend.position < chunks.length ∧ chunk ∈ chunks)
    (plain : ∀ chunk ∈ chunks, chunk.opcode ∉ Opcode.signatureChecks)
    (found : (spend.cut segment chunks steps).chunk? = some chunk) :
    step verify (spend.cut segment chunks steps) =
      match chunk.execute (spend.environment verify) spend.machine with
      | .ok flow machine => .ok () (Spend.cut segment chunks (steps + 1)
          ({ spend with machine, steps := spend.steps + 1 }.advance flow))
      | .error cause machine =>
        let failed := { spend.cut segment chunks steps with machine, steps := steps + 1 }
        .error (failed.failure cause) failed := by
  have same : (spend.cut segment chunks steps).machine = spend.machine := rfl
  rw [step_of_chunk? found approaches.unbounded, execute_cut inside plain, same]
  cases chunk.execute (spend.environment verify) spend.machine with
  | error cause machine => rfl
  | ok flow machine =>
    exact congrArg (EStateM.Result.ok ()) (approaches.cut_advance
      (fun here => (inside here).1) flow machine steps (spend.steps + 1))

/-- Cutting a script off in front of a return keeps the verdict, if the return is only reached on
branches that are taken, and no chunk in front of it checks signatures. -/
theorem verdict_validate_cut (verify : Ecdsa.Verifier) (spend : Spend) (steps : Nat)
    (approaches : ApproachesReturn segment chunks junk spend)
    (plain : ∀ chunk ∈ chunks, chunk.opcode ∉ Opcode.signatureChecks)
    (executing : ∀ reached ∈ spend.visited verify, reached.entered.segment = segment →
      reached.entered.position = chunks.length → reached.machine.isExecuting = true) :
    verdict (validate verify (spend.cut segment chunks steps)) =
      verdict (validate verify spend) := by
  have admitted := approaches.admitsUnlocking
  have here := approaches.entered
  have within := exhausted?_entered approaches.unbounded
  rw [approaches.validate_cut_entered]
  cases found : spend.entered.chunk? with
  | none =>
    -- Nothing is left to execute, with the cut or without.
    have finished := isFinished_entered found
    rw [← validate_entered admitted, validate_of_admitsUnlocking here.admitsUnlocking,
      validate_of_admitsUnlocking here.admitsUnlocking_cut, bind_apply, bind_apply,
      run_of_isFinished finished, run_of_isFinished (here.isFinished_cut finished)]
    exact verdict_conclude_congr rfl rfl
  | some chunk =>
    have unfinished := isFinished_of_entered_chunk? found
    have taken := @step_of_entered_chunk? verify spend chunk found within
    rcases @ApproachesReturn.chunk?_cases _ _ _ _ steps here chunk found with
      ⟨inSegment, there, rfl⟩ | ⟨inside, foundThere⟩
    · -- The return takes a step, after which the cut spend is where it was.
      have executes : spend.entered.machine.isExecuting = true := by
        rw [entered_machine]
        exact executing spend self_mem_visited inSegment there
      rw [Chunk.execute_endSegment executes] at taken
      have stays := here.cut_return inSegment there steps (spend.entered.steps + 1)
      have fewer := remaining_lt_of_step unfinished taken
      rw [validate_of_step admitted taken, ← stays]
      exact verdict_validate_cut verify _ steps (here.advance fun _ => .inr rfl) plain
        fun reached later => executing reached (mem_visited_of_step taken later)
    · -- Any other chunk is executed after the cut as well, on the same stacks.
      have takenThere := @step_cut verify _ _ _ _ steps here chunk inside plain foundThere
      cases executed : chunk.execute (spend.entered.environment verify) spend.entered.machine with
      | error cause left =>
        rw [executed] at taken takenThere
        rw [validate_of_failed_step admitted taken,
          validate_of_failed_step here.admitsUnlocking_cut takenThere]
        rfl
      | ok flow left =>
        rw [executed] at taken takenThere
        have fewer := remaining_lt_of_step unfinished taken
        rw [validate_of_step admitted taken, validate_of_step here.admitsUnlocking_cut takenThere]
        exact verdict_validate_cut verify _ (steps + 1)
          (here.advance fun inSegment => .inl (inside inSegment).1) plain
          fun reached later => executing reached (mem_visited_of_step taken later)
termination_by spend.remaining
decreasing_by all_goals exact fewer

theorem approachesReturn_freshWith {policy : Policy}
    (admitted : policy.requirePushOnlyUnlocking = false) (unbounded : policy.maxSteps = none)
    (context : InputContext) (other : Script) (segment : Segment) (chunks junk : Script) :
    ApproachesReturn segment chunks junk
      (freshWith context policy other segment (chunks ++ .endSegment :: junk)) := by
  cases segment with
  | unlocking => exact ⟨rfl, fun _ => .inl (Nat.zero_le _), admitted, unbounded⟩
  | locking => exact ⟨rfl, fun _ => .inl (Nat.zero_le _), admitted, unbounded⟩

/-- A fresh spend that is cut is the fresh spend of what is left. -/
theorem cut_freshWith (context : InputContext) (policy : Policy) (other : Script)
    (segment : Segment) (script chunks : Script) :
    (freshWith context policy other segment script).cut segment chunks 0 =
      freshWith context policy other segment chunks := by
  cases segment <;> simp [freshWith, fresh, cut]

/-- A return ends its own segment and nothing else: the verdict is that of the segment without the
return and all that stands behind it, unless the return is reached on a branch that is not taken.
The segment may be left or the validation may stop before that, and no chunk in front of the return
may check signatures. -/
theorem verdict_validate_return (verify : Ecdsa.Verifier) (context : InputContext)
    {policy : Policy} (admitted : policy.requirePushOnlyUnlocking = false)
    (unbounded : policy.maxSteps = none) (segment : Segment) (chunks junk other : Script)
    (plain : ∀ chunk ∈ chunks, chunk.opcode ∉ Opcode.signatureChecks)
    (executing : ∀ reached ∈ visited verify
        (freshWith context policy other segment (chunks ++ .endSegment :: junk)),
      reached.entered.segment = segment → reached.entered.position = chunks.length →
        reached.machine.isExecuting = true) :
    verdict (validate verify
        (freshWith context policy other segment (chunks ++ .endSegment :: junk))) =
      verdict (validate verify (freshWith context policy other segment chunks)) := by
  have approaches :=
    approachesReturn_freshWith admitted unbounded context other segment chunks junk
  rw [← cut_freshWith context policy other segment (chunks ++ .endSegment :: junk) chunks]
  exact (verdict_validate_cut verify _ 0 approaches plain executing).symm

/-- An unlocking script returns in front of a disabled opcode and an item that is too long. The
locking script is executed, and leaves a false item. -/
theorem verdict_validate_return_unlocking :
    let policy : Policy :=
      { maxElementSize := 1, requirePushOnlyUnlocking := false, maxSteps := none }
    let junk : Script := [.ofOpcode 0x8d, .ofData [1, 2, 3]]
    let other : Script := [.ofOpcode 0x75, .ofOpcode .zero]
    let spend := freshWith .bare policy other .unlocking ([.ofOpcode .one] ++ .endSegment :: junk)
    (∀ reached ∈ visited Ecdsa.verify spend, reached.entered.segment = .unlocking →
        reached.entered.position = 1 → reached.machine.isExecuting = true) ∧
      verdict (validate Ecdsa.verify spend) = (some .falseResult, { stack := [[]] }) ∧
      verdict (validate Ecdsa.verify spend) =
        verdict (validate Ecdsa.verify
          (freshWith .bare policy other .unlocking [.ofOpcode .one])) := by
  intro policy junk other spend
  have executing : ∀ reached ∈ visited Ecdsa.verify spend, reached.entered.segment = .unlocking →
      reached.entered.position = 1 → reached.machine.isExecuting = true := by
    decide +kernel
  refine ⟨executing, by decide +kernel, ?_⟩
  exact verdict_validate_return Ecdsa.verify .bare rfl rfl .unlocking [.ofOpcode .one] junk other
    (by decide) executing

end Verdicts

end Spend

end ScriptSpend
