import ScriptSpend.Proofs.Consultations
import ScriptSpend.Proofs.PayToKeyHash
import ScriptSpend.Proofs.StepBudget
import ScriptSpend.Proofs.Traces

/-!
# Parts of a transaction that no signature commits to

The scope of a signature may leave out the other inputs of its transaction, or outputs. Which
signatures a validation checks depends on the scripts, on the policy and on how earlier checks came
out. If none of them commits to a part of the transaction, all checks come out as they would with
another such part, and so the same signatures are checked, the same states are passed, and the
validation ends in the same way.

## Main definitions

* `Spend.questions`: everything that the checker is asked in a validation
* `DifferUncommitted`: two inputs differ in a part that no signature asked about commits to
* `Spend.inContext`: the spend of another input

## Main results

* `sighash_withOtherInputs`, `sighash_withOutputs`: a signed digest without the parts left out
* `step_inContext`: a step is the same if the checker gives the same answers
* `validate_of_differUncommitted`: so are the states of a validation and its result
-/

namespace ScriptSpend

section Digests

variable {context : InputContext} {subscript : Script} {scope : Scope}

/-- A signature that anyone may add inputs to does not commit to the other inputs. -/
theorem sighash_withOtherInputs (anyone : scope.anyoneCanPay = true) (others : List TxInput) :
    sighash { context with otherInputs := others } subscript scope =
      sighash context subscript scope := by
  have prevouts (c : InputContext) :
      Sighash.prevoutDigest Digest.hash256 c scope = Sighash.blank := by
    rw [Sighash.prevoutDigest, if_pos anyone]
  have sequences (c : InputContext) :
      Sighash.sequenceDigest Digest.hash256 c scope = Sighash.blank := by
    rw [Sighash.sequenceDigest, anyone, Bool.true_or, if_pos rfl]
  rw [sighash, sighash, Sighash.preimage, Sighash.preimage, prevouts, prevouts, sequences,
    sequences]
  rfl

/-- A scope leaves out the outputs in which two transactions differ: all of them, or all but the one
at the position of the input, which is the same in both or missing from both. -/
def Scope.LeavesOutOutputs (scope : Scope) (context : InputContext) (outputs : List TxOutput) :
    Prop :=
  scope.baseType = Scope.none ∨
    scope.baseType = Scope.single ∧ outputs[context.index]? = context.outputs[context.index]?

instance (outputs : List TxOutput) : Decidable (scope.LeavesOutOutputs context outputs) :=
  inferInstanceAs (Decidable (_ ∨ _ ∧ _))

/-- A signature does not commit to the outputs that its scope leaves out. -/
theorem sighash_withOutputs {outputs : List TxOutput}
    (leavesOut : scope.LeavesOutOutputs context outputs) :
    sighash { context with outputs } subscript scope = sighash context subscript scope := by
  have covered : Sighash.outputBytes? { context with outputs } scope =
      Sighash.outputBytes? context scope := by
    rcases leavesOut with none | ⟨single, same⟩
    · simp [Sighash.outputBytes?, Sighash.limitsOutputs, none, Scope.none, Scope.single]
    · simp [Sighash.outputBytes?, Sighash.limitsOutputs, single, same]
  have digest : Sighash.outputDigest Digest.hash256 { context with outputs } scope =
      Sighash.outputDigest Digest.hash256 context scope := by
    rw [Sighash.outputDigest, Sighash.outputDigest, covered]
  rw [sighash, sighash, Sighash.preimage, Sighash.preimage, digest]
  rfl

end Digests

/-- Two inputs differ in nothing but a part of their transactions that no signature asked about
commits to: in the other inputs, or in the outputs. -/
inductive DifferUncommitted (context other : InputContext) (questions : List Query) : Prop where
  | otherInputs (same : other = { context with otherInputs := other.otherInputs })
    (anyone : ∀ query ∈ questions, query.signature.scope.anyoneCanPay = true)
  | outputs (same : other = { context with outputs := other.outputs })
    (limited : ∀ query ∈ questions,
      query.signature.scope.LeavesOutOutputs context other.outputs)

namespace Spend

/-- Everything that the checker is asked in a validation. -/
def questions (verify : Ecdsa.Verifier) (spend : Spend) : List Query :=
  if spend.admitsUnlocking then (spend.visited verify).flatMap (queries verify) else []

/-- The states of a validation: those of the run, if the unlocking script is admitted. -/
def validationStates (verify : Ecdsa.Verifier) (spend : Spend) : List Spend :=
  if spend.admitsUnlocking then spend.visited verify else [spend]

/-- The spend of another input, by the same scripts under the same policy and as far as it has come.
-/
def inContext (other : InputContext) (spend : Spend) : Spend := { spend with context := other }

variable {verify : Ecdsa.Verifier} {spend next : Spend} {other context : InputContext}

/-- The checker gives the same answers to some questions for both inputs. -/
def AnswersAlike (verify : Ecdsa.Verifier) (context other : InputContext)
    (questions : List Query) : Prop :=
  ∀ query ∈ questions,
    query.answer (checker verify other) = query.answer (checker verify context)

/-- No answer depends on a part of the transaction that no signature asked about commits to. -/
theorem answersAlike_of_differUncommitted {questions : List Query}
    (differ : DifferUncommitted context other questions) :
    AnswersAlike verify context other questions := by
  intro query asked
  rw [Query.answer, Query.answer, checker, checker]
  cases differ with
  | otherInputs same anyone => rw [same, sighash_withOtherInputs (anyone query asked)]
  | outputs same limited => rw [same, sighash_withOutputs (limited query asked)]

section Steps

theorem context_of_reset (same : next.reset = spend.reset) : next.context = spend.context :=
  eq_of_reset Spend.context (fun _ => rfl) same

@[simp] theorem context_entered : spend.entered.context = spend.context :=
  context_of_reset entered_reset

@[simp] theorem entered_inContext :
    (spend.inContext other).entered = spend.entered.inContext other := by
  unfold entered inContext
  dsimp only
  split <;> rfl

theorem failure_inContext (source : other.source = spend.context.source) (cause : Failure) :
    (spend.inContext other).failure cause = spend.failure cause := by
  simp only [failure, inContext, source]

/-- A chunk comes to the same for both inputs if the checker gives the same answers. -/
theorem execute_inContext {chunk : Chunk} (found : spend.entered.chunk? = some chunk)
    (within : spend.entered.exhausted? = none)
    (alike : AnswersAlike verify spend.context other (spend.queries verify)) :
    chunk.execute ((spend.entered.inContext other).environment verify) spend.entered.machine =
      chunk.execute (spend.entered.environment verify) spend.entered.machine := by
  have here := Chunk.run_consult (spend.entered.environment verify)
    (checker verify spend.context) chunk spend.entered.machine
  have there := Chunk.run_consult (spend.entered.environment verify) (checker verify other) chunk
    spend.entered.machine
  rw [AnswersAlike, queries_of_chunk? found within] at alike
  rw [Consultation.run_congr alike, here] at there
  have ownChecker : { spend.entered.environment verify with
      checker := checker verify spend.context } = spend.entered.environment verify := by
    rw [← @context_entered spend]
    rfl
  rw [ownChecker] at there
  exact there.symm

/-- A step is the same for both inputs if the checker gives the same answers. -/
theorem step_inContext (source : other.source = spend.context.source)
    (alike : AnswersAlike verify spend.context other (spend.queries verify)) :
    step verify (spend.inContext other) = mapState (inContext other) (step verify spend) := by
  have sourceHere : other.source = spend.entered.context.source := by rw [context_entered, source]
  cases found : spend.entered.chunk? with
  | none =>
    have absent : (spend.inContext other).entered.chunk? = none := entered_inContext ▸ found
    rw [step_of_chunk?_eq_none found, step_of_chunk?_eq_none absent, entered_inContext]
    rfl
  | some chunk =>
    have foundThere : (spend.inContext other).entered.chunk? = some chunk :=
      entered_inContext ▸ found
    cases exhausted : spend.entered.exhausted? with
    | some bound =>
      have usedThere : (spend.inContext other).entered.exhausted? = some bound :=
        entered_inContext ▸ exhausted
      rw [step_of_exhausted? found exhausted, step_of_exhausted? foundThere usedThere,
        entered_inContext, failure_inContext sourceHere]
      rfl
    | none =>
      have withinThere : (spend.inContext other).entered.exhausted? = none :=
        entered_inContext ▸ exhausted
      have machine : (spend.entered.inContext other).machine = spend.entered.machine := rfl
      rw [step_of_entered_chunk? found exhausted, step_of_entered_chunk? foundThere withinThere,
        entered_inContext, machine, execute_inContext found exhausted alike]
      cases chunk.execute (spend.entered.environment verify) spend.entered.machine with
      | ok flow machine => cases flow <;> rfl
      | error cause machine =>
        let failed : Spend := { spend.entered with machine, steps := spend.entered.steps + 1 }
        have sourceLeft : other.source = failed.context.source := sourceHere
        have same : (failed.inContext other).failure cause = failed.failure cause :=
          failure_inContext sourceLeft cause
        exact congrArg (EStateM.Result.error · (failed.inContext other)) same

end Steps

section Runs

/-- A run passes the same states for both inputs and ends in the same way, if the checker gives the
same answers all along. -/
theorem run_inContext (verify : Ecdsa.Verifier) (spend : Spend)
    (source : other.source = spend.context.source)
    (alike : AnswersAlike verify spend.context other
      ((spend.visited verify).flatMap (queries verify))) :
    (spend.inContext other).visited verify = (spend.visited verify).map (inContext other) ∧
      run verify (spend.inContext other) = mapState (inContext other) (run verify spend) := by
  have alikeHere : AnswersAlike verify spend.context other (spend.queries verify) :=
    fun query asked => alike query (List.mem_flatMap.mpr ⟨spend, self_mem_visited, asked⟩)
  have same := step_inContext source alikeHere
  cases finished : spend.isFinished with
  | true =>
    have finishedThere : (spend.inContext other).isFinished = true := finished
    rw [visited_of_isFinished finished, visited_of_isFinished finishedThere,
      run_of_isFinished finished, run_of_isFinished finishedThere]
    exact ⟨rfl, rfl⟩
  | false =>
    have unfinishedThere : (spend.inContext other).isFinished = false := finished
    cases stepped : step verify spend with
    | error e failed =>
      rw [stepped] at same
      rw [visited_of_failed_step stepped, visited_of_failed_step same,
        run_of_failed_step stepped, run_of_failed_step same]
      exact ⟨rfl, rfl⟩
    | ok _ next =>
      rw [stepped] at same
      have kept : next.context = spend.context := context_of_reset (reset_of_step stepped)
      -- What is asked later is asked after this step.
      have alikeLater : AnswersAlike verify next.context other
          ((next.visited verify).flatMap (queries verify)) := by
        intro query asked
        obtain ⟨reached, later, asks⟩ := List.mem_flatMap.mp asked
        rw [kept]
        exact alike query (List.mem_flatMap.mpr
          ⟨reached, mem_visited_of_step stepped later, asks⟩)
      obtain ⟨visits, ends⟩ := run_inContext verify next (kept ▸ source) alikeLater
      rw [visited_of_step finished stepped, visited_of_step unfinishedThere same,
        run_of_step stepped, run_of_step same]
      exact ⟨congrArg _ visits, ends⟩
termination_by spend.remaining
decreasing_by exact remaining_lt_of_step finished stepped

end Runs

section Validation

/-- The rules on the final state do not look at the transaction. -/
theorem conclude_inContext (source : other.source = spend.context.source) :
    conclude (spend.inContext other) = mapState (inContext other) (conclude spend) := by
  have same : (spend.inContext other).refusal? = spend.refusal? := rfl
  rw [conclude_eq, conclude_eq, same]
  cases spend.refusal? with
  | none => rfl
  | some cause => exact congrArg (EStateM.Result.error · _) (failure_inContext source cause)

/-- A validation is the same for both inputs if the checker gives the same answers. -/
theorem validate_inContext (source : other.source = spend.context.source)
    (alike : AnswersAlike verify spend.context other (spend.questions verify)) :
    (spend.inContext other).validationStates verify =
        (spend.validationStates verify).map (inContext other) ∧
      validate verify (spend.inContext other) =
        mapState (inContext other) (validate verify spend) := by
  cases admitted : spend.admitsUnlocking with
  | false =>
    have barred : (spend.inContext other).admitsUnlocking = false := admitted
    rw [validationStates, validationStates, admitted, barred,
      validate_of_not_admitsUnlocking admitted, validate_of_not_admitsUnlocking barred,
      failure_inContext source]
    exact ⟨rfl, rfl⟩
  | true =>
    have admittedThere : (spend.inContext other).admitsUnlocking = true := admitted
    rw [questions, if_pos admitted] at alike
    obtain ⟨visits, ends⟩ := run_inContext verify spend source alike
    rw [validationStates, validationStates, if_pos admitted, if_pos admittedThere,
      validate_of_admitsUnlocking admitted, validate_of_admitsUnlocking admittedThere, bind_apply,
      bind_apply, ends]
    refine ⟨visits, ?_⟩
    cases ran : run verify spend with
    | error e failed => rfl
    | ok _ final =>
      have kept : final.context = spend.context := context_of_reset (reset_of_runFor ran)
      exact conclude_inContext (kept ▸ source)

end Validation

/-- Two fresh spends of inputs that differ in nothing but a part of their transactions that no
signature asked about commits to pass the same states in a validation, which has the same result. -/
theorem validate_of_differUncommitted (verify : Ecdsa.Verifier) {context other : InputContext}
    (unlocking locking : Script) (policy : Policy)
    (differ : DifferUncommitted context other
      ((fresh context unlocking locking policy).questions verify)) :
    let spend := fresh context unlocking locking policy
    let spendThere := fresh other unlocking locking policy
    spendThere.validationStates verify = (spend.validationStates verify).map (inContext other) ∧
      validate verify spendThere = mapState (inContext other) (validate verify spend) := by
  have source : other.source = context.source := by
    cases differ with
    | otherInputs same _ => rw [same]
    | outputs same _ => rw [same]
  exact @validate_inContext verify (fresh context unlocking locking policy) other source
    (answersAlike_of_differUncommitted differ)

theorem exists_validate_of_cause? (accepted : (perform verify spend .validate).cause? = none) :
    ∃ final, validate verify spend = .ok () final := by
  cases validated : validate verify spend with
  | ok _ final => exact ⟨final, rfl⟩
  | error e failed => simp [perform, outcomeOf_of_error validated, Outcome.cause?] at accepted

/-- A signature by the private key one that leaves out the other inputs, with the half of one as its
nonce. -/
def openSignature : Bytes :=
  Bytes.ofNatBE 25 0x303902153b78ce563f89a0ed9414f5aa28ad0d96d6795f9c63 ++
    Bytes.ofNatBE 35 0x022067d564450afcb46b59bcbe2505073fb57759864d6b56fd0e575ce20687753176c1

/-- That signature is valid for the only input of a transaction, and stays valid when another input
is added. -/
theorem validate_openSignature :
    let spend := fresh .bare [.ofData openSignature] [.ofData basePointKey, .ofOpcode 0xac] {}
    let other : InputContext := { InputContext.bare with otherInputs := [⟨⟨.zero, 1⟩, 0⟩] }
    DifferUncommitted .bare other (spend.questions Ecdsa.verify) ∧
      (spend.questions Ecdsa.verify).map (·.signature.scope) = [0xc1] ∧
      ∃ final, validate Ecdsa.verify spend = .ok () final ∧
        validate Ecdsa.verify (fresh other spend.unlocking spend.locking spend.policy) =
          .ok () (final.inContext other) := by
  intro spend other
  have asked : (spend.questions Ecdsa.verify).map (·.signature.scope) = [0xc1] := by
    decide +kernel
  have accepted : (perform Ecdsa.verify spend .validate).cause? = none := by decide +kernel
  have anyone : ((spend.questions Ecdsa.verify).map (·.signature.scope)).all
      Scope.anyoneCanPay = true := by
    rw [asked]
    rfl
  have differ : DifferUncommitted .bare other (spend.questions Ecdsa.verify) :=
    .otherInputs rfl fun query listed =>
      List.all_eq_true.mp anyone _ (List.mem_map_of_mem listed)
  have same := (validate_of_differUncommitted Ecdsa.verify _ _ _ differ).2
  obtain ⟨final, valid⟩ := exists_validate_of_cause? accepted
  exact ⟨differ, asked, final, valid, same.trans (congrArg (mapState (inContext other)) valid)⟩

end Spend

end ScriptSpend
