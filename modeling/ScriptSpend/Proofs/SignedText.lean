import ScriptSpend.Proofs.Consultations
import ScriptSpend.Proofs.Pushing
import ScriptSpend.Proofs.SingleSteps

/-!
# The script text in a run

A spend records where signatures start to cover the script: at the last separator that was executed
since the present script was entered. The history of a run tells which separators were executed, and
the record is that of the last one in the present script, whatever steps have failed, whatever was
skipped and whatever the other script has done. So is the text that the checker is given.

## Main definitions

* `Place.lastIn`: the last place of a history that lies in a script
* `Spend.separated?`, `Spend.separators`: the separator that a step executes, and those of a run
* `Spend.Records`: the record of a spend agrees with a history
* `Spend.AsksAbout`: the questions of a step are those of its execution, and they are about the
  text from the last separator on

## Main results

* `Chunk.flow_eq_separator_iff`: only a separator on a branch that is taken starts a new text
* `Records.afterStep`: a step, failed or not, keeps the record right
* `Records.asksAbout`: the text that is asked about starts at the recorded place and is not empty
* `signedText_fresh`: so it is in every state of a run
-/

namespace ScriptSpend

/-- Where a chunk stands: in which script, and behind how many chunks. -/
structure Place where
  segment : Segment
  position : Nat
  deriving DecidableEq

namespace Place

variable {segment : Segment} {places : List Place}

/-- The position of the last place in a script. The places are listed with the last one first. -/
def lastIn (segment : Segment) (places : List Place) : Option Nat :=
  (places.find? fun place => place.segment == segment).map Place.position

@[simp] theorem lastIn_cons_self (position : Nat) :
    lastIn segment (⟨segment, position⟩ :: places) = some position := by
  simp [lastIn]

/-- A script that no place lies in has no last place. -/
theorem lastIn_eq_none (outside : ∀ place ∈ places, place.segment ≠ segment) :
    lastIn segment places = none := by
  simpa [lastIn] using outside

end Place

namespace Chunk

variable {env : Environment} {chunk : Chunk} {machine left : Machine} {flow : Flow}

theorem codeSeparator_iff : ∀ op : Opcode,
    Instruction.ofOpcode op = .codeSeparator ↔ op = .codeSeparator :=
  ScriptNumber.forall_byte (by decide +kernel)

/-- Only a separator on a branch that is taken starts a new text. -/
theorem flow_eq_separator_iff (executed : chunk.execute env machine = .ok flow left) :
    flow = .separator ↔ machine.isExecuting = true ∧ chunk.opcode = .codeSeparator := by
  rcases Chunk.execute_cases executed with ⟨skipped, -, rfl, -⟩ | ⟨push, pushed⟩ | ⟨visited, ran⟩
  · simp [skipped]
  · have other : chunk.opcode ≠ .codeSeparator := by
      intro same
      rw [same] at push
      cases push
    rw [flow_of_thenNext pushed]
    simp [other]
  · rw [← codeSeparator_iff]
    by_cases separates : Instruction.ofOpcode chunk.opcode = .codeSeparator
    · -- No separator is one of the conditionals, so that this one was not skipped.
      have executing : machine.isExecuting = true := by
        refine visited.resolve_right ?_
        rw [(codeSeparator_iff _).mp separates]
        decide
      rw [separates] at ran
      cases ran
      simp [executing, separates]
    · refine iff_of_false (fun same => ?_) fun both => separates both.2
      by_cases ends : Instruction.ofOpcode chunk.opcode = .endSegment
      · rw [ends] at ran
        cases ran
        cases same
      · cases (Instruction.flow_of_run ends separates ran).symm.trans same

/-- A chunk that checks signatures is no push of a signature, whatever payload it carries. -/
theorem mem_withoutPushes (checks : chunk.opcode ∈ Opcode.signatureChecks) {script : Script}
    (present : chunk ∈ script) (items : List Bytes) : chunk ∈ script.withoutPushes items := by
  have apart : (Opcode.signatureChecks.all fun op => !Opcode.isPushOnly op) = true := rfl
  refine List.mem_filter.mpr ⟨present, List.all_eq_true.mpr fun item _ => bne_iff_ne.mpr ?_⟩
  intro same
  -- Both would start with the same opcode.
  have first : chunk.opcode = (ofData item).opcode := by
    have heads := congrArg List.head? same
    rwa [head?_toWire, head?_toWire, Option.some.injEq] at heads
  have pushOnly := isPushOnly_ofData item
  have checking := List.all_eq_true.mp apart _ checks
  rw [first, pushOnly] at checking
  cases checking

end Chunk

namespace Spend

variable {verify : Ecdsa.Verifier} {spend next failed : Spend} {places : List Place}

/-- The separator that the next step executes: one on a branch that is taken, if the step succeeds.
-/
def separated? (verify : Ecdsa.Verifier) (spend : Spend) : Option Place :=
  match spend.entered.chunk?, step verify spend with
  | some chunk, .ok _ _ =>
    if spend.entered.machine.isExecuting = true ∧ chunk.opcode = .codeSeparator then
      some ⟨spend.entered.segment, spend.entered.position⟩
    else none
  | _, _ => none

/-- The separators that so many steps execute, whether steps fail or not, the last one first. -/
def separators (verify : Ecdsa.Verifier) (start : Spend) : Nat → List Place
  | 0 => []
  | count + 1 =>
    (separated? verify ((afterStep verify)^[count] start)).toList ++ separators verify start count

/-- What the spend has recorded agrees with the separators executed so far. -/
structure Records (places : List Place) (spend : Spend) : Prop where
  inside : spend.position ≤ spend.script.length
  /-- The record is of the last separator that was executed in the present script. -/
  recorded : spend.lastSeparator = Place.lastIn spend.segment places
  behind : ∀ i, spend.lastSeparator = some i → i < spend.position
  separates : ∀ i, spend.lastSeparator = some i →
    ∃ chunk, spend.script[i]? = some chunk ∧ chunk.opcode = .codeSeparator
  /-- Before the locking script is entered, no separator of it was executed. -/
  unlockingOnly : spend.segment = .unlocking → ∀ place ∈ places, place.segment = .unlocking

/-- The questions of the next step are those that its chunk asks while it is executed, and they are
about the right text. -/
structure AsksAbout (verify : Ecdsa.Verifier) (places : List Place) (spend : Spend) : Prop where
  /-- They are asked by a consultation that comes to what the execution of the chunk comes to,
  whatever checker it is executed with and gives the answers. -/
  executed : ∀ chunk, spend.entered.chunk? = some chunk → spend.entered.exhausted? = none →
    let consultation := chunk.consult (spend.entered.environment verify) spend.entered.machine
    spend.queries verify = consultation.queries (checker verify spend.context) ∧
      ∀ checker : Checker, consultation.run checker =
        chunk.execute { spend.entered.environment verify with checker } spend.entered.machine
  /-- Each is about some signatures and keys that the chunk finds, over the present script from the
  last separator on that was executed in it, or from its start, without the pushes of these
  signatures. That text is not empty. -/
  about : ∀ query ∈ spend.queries verify, ∃ chunk signatures keys,
    spend.entered.chunk? = some chunk ∧
      query.IsAbout (spend.entered.environment verify) (.ofOpcode chunk.opcode)
        spend.machine.stack signatures keys ∧
      query.subscript =
        Script.withoutPushes
          (spend.entered.script.drop ((Place.lastIn spend.entered.segment places).getD 0))
          signatures ∧
      query.subscript ≠ []

section History

theorem separated?_of_chunk?_eq_none (absent : spend.entered.chunk? = none) :
    separated? verify spend = none := by
  simp [separated?, absent]

theorem separated?_of_error {e : SpendError} (stepped : step verify spend = .error e failed) :
    separated? verify spend = none := by
  simp [separated?, stepped]

theorem separated?_of_ok {chunk : Chunk} (found : spend.entered.chunk? = some chunk)
    (stepped : step verify spend = .ok () next) :
    separated? verify spend =
      if spend.entered.machine.isExecuting = true ∧ chunk.opcode = .codeSeparator then
        some ⟨spend.entered.segment, spend.entered.position⟩
      else none := by
  simp only [separated?, found, stepped]

/-- Nothing is recorded before the first step. -/
theorem records_fresh (context : InputContext) (unlocking locking : Script) (policy : Policy) :
    Records [] (fresh context unlocking locking policy) where
  inside := Nat.zero_le _
  recorded := rfl
  behind := nofun
  separates := nofun
  unlockingOnly _ := nofun

/-- Entering the locking script forgets the separators of the other one. -/
theorem Records.entered (records : Records places spend) : Records places spend.entered := by
  by_cases switches : spend.segment = .unlocking ∧ spend.unlocking.length ≤ spend.position
  · rw [Spend.entered, if_pos switches]
    refine ⟨Nat.zero_le _, ?_, fun _ last => ?_, fun _ last => ?_, fun segment => ?_⟩
    · refine (Place.lastIn_eq_none fun place listed => ?_).symm
      rw [records.unlockingOnly switches.1 place listed]
      exact Segment.noConfusion
    · cases last
    · cases last
    · cases segment
  · rwa [Spend.entered, if_neg switches]

/-- What happens on the stacks makes no difference to the record. -/
theorem Records.withMachine (records : Records places spend) (machine : Machine) (steps : Nat) :
    Records places { spend with machine, steps } :=
  ⟨records.inside, records.recorded, records.behind, records.separates, records.unlockingOnly⟩

/-- Behind a chunk that is no separator, or that was skipped, the record is what it was. -/
theorem Records.advance (records : Records places spend) {chunk : Chunk}
    (found : spend.chunk? = some chunk) {flow : Flow} (goesOn : flow ≠ .separator) :
    Records places (spend.advance flow) := by
  have within : spend.position < spend.script.length := (List.getElem?_eq_some_iff.mp found).1
  cases flow with
  | separator => exact absurd rfl goesOn
  | next =>
    exact ⟨within, records.recorded, fun i last => Nat.lt_succ_of_lt (records.behind i last),
      records.separates, records.unlockingOnly⟩
  | endSegment =>
    exact ⟨Nat.le_refl _, records.recorded,
      fun i last => Nat.lt_trans (records.behind i last) within, records.separates,
      records.unlockingOnly⟩

/-- Behind a separator, the record is of that separator. -/
theorem Records.advance_separator (records : Records places spend) {chunk : Chunk}
    (found : spend.chunk? = some chunk) (separator : chunk.opcode = .codeSeparator) :
    Records (⟨spend.segment, spend.position⟩ :: places) (spend.advance .separator) where
  inside := (List.getElem?_eq_some_iff.mp found).1
  recorded := (Place.lastIn_cons_self _).symm
  behind i last := by
    cases last
    exact Nat.lt_succ_self _
  separates i last := by
    cases last
    exact ⟨chunk, found, separator⟩
  unlockingOnly segment place listed := by
    rcases List.mem_cons.mp listed with rfl | earlier
    · exact segment
    · exact records.unlockingOnly segment place earlier

/-- A step, failed or not, keeps the record right. -/
theorem Records.afterStep (records : Records places spend) :
    Records ((separated? verify spend).toList ++ places) (spend.afterStep verify) := by
  cases stepped : step verify spend with
  | error e failed =>
    rw [afterStep_of_error stepped, separated?_of_error stepped]
    obtain ⟨chunk, -, ⟨bound, -, rfl, -⟩ | ⟨machine, -, rfl⟩⟩ := step_eq_error stepped
    · exact records.entered
    · exact records.entered.withMachine _ _
  | ok _ next =>
    rw [afterStep_of_ok stepped]
    rcases step_eq_ok stepped with
      ⟨absent, rfl⟩ | ⟨chunk, flow, machine, found, -, executed, rfl⟩
    · rw [separated?_of_chunk?_eq_none absent]
      exact records.entered
    · have before := records.entered.withMachine machine (spend.entered.steps + 1)
      rw [separated?_of_ok found stepped]
      have starts := Chunk.flow_eq_separator_iff executed
      split
      · rename_i separator
        obtain rfl := starts.mpr separator
        exact before.advance_separator found separator.2
      · rename_i other
        exact before.advance found fun same => other (starts.mp same)

/-- So do any number of steps. -/
theorem records_iterate_fresh (verify : Ecdsa.Verifier) (context : InputContext)
    (unlocking locking : Script) (policy : Policy) (count : Nat) :
    Records (separators verify (fresh context unlocking locking policy) count)
      ((afterStep verify)^[count] (fresh context unlocking locking policy)) := by
  induction count with
  | zero => exact records_fresh context unlocking locking policy
  | succ count ih =>
    rw [Function.iterate_succ_apply']
    exact ih.afterStep

end History

section Questions

/-- A chunk that asks a question checks signatures. -/
theorem mem_signatureChecks_of_examines {policy : Policy} {chunk : Chunk} {stack : Stack}
    {signatures keys : List Bytes}
    (examines : Examines policy (.ofOpcode chunk.opcode) stack signatures keys) :
    chunk.opcode ∈ Opcode.signatureChecks := by
  rw [Opcode.mem_signatureChecks_iff]
  generalize Instruction.ofOpcode chunk.opcode = instruction at examines
  cases examines <;> rfl

/-- The text that is asked about starts at the recorded place, and holds the chunk that asks. -/
theorem Records.asksAbout (records : Records places spend) : AsksAbout verify places spend := by
  refine ⟨fun chunk found within => ?_, fun query asked => ?_⟩
  · exact ⟨queries_of_chunk? found within, fun checker => Chunk.run_consult _ checker chunk _⟩
  obtain ⟨chunk, found, asks⟩ := exists_chunk_of_mem_queries asked
  obtain ⟨signatures, keys, about⟩ := Chunk.isAbout_of_mem_queries asks
  have start : (spend.entered.environment verify).subscript =
      spend.entered.script.drop ((Place.lastIn spend.entered.segment places).getD 0) := by
    rw [← records.entered.recorded]
    rfl
  have text := about.subscript
  rw [start] at text
  refine ⟨chunk, signatures, keys, found, entered_machine ▸ about, text, ?_⟩
  -- The text starts no later than at the chunk itself.
  have notBehind : (Place.lastIn spend.entered.segment places).getD 0 ≤ spend.entered.position := by
    rw [← records.entered.recorded]
    cases last : spend.entered.lastSeparator with
    | none => exact Nat.zero_le _
    | some i => exact Nat.le_of_lt (records.entered.behind i last)
  have present : chunk ∈ spend.entered.script.drop
      ((Place.lastIn spend.entered.segment places).getD 0) := by
    refine List.mem_of_getElem? (i := spend.entered.position -
      (Place.lastIn spend.entered.segment places).getD 0) ?_
    rw [List.getElem?_drop, Nat.add_sub_cancel' notBehind]
    exact found
  rw [text]
  exact List.ne_nil_of_mem
    (Chunk.mem_withoutPushes (mem_signatureChecks_of_examines about.examines) present signatures)

end Questions

/-- After any number of steps from a fresh spend, failed ones among them, the record is right, and
the checker is asked about the text from the recorded place on. -/
theorem signedText_fresh (verify : Ecdsa.Verifier) (context : InputContext)
    (unlocking locking : Script) (policy : Policy) (count : Nat) :
    let start := fresh context unlocking locking policy
    let reached := (afterStep verify)^[count] start
    Records (separators verify start count) reached ∧
      AsksAbout verify (separators verify start count) reached :=
  have records := records_iterate_fresh verify context unlocking locking policy count
  ⟨records, records.asksAbout⟩

-- The separator in the branch that is not taken leaves no trace, and the one in the unlocking
-- script none in the record.
example :
    let start := fresh .bare [.ofOpcode .codeSeparator, .ofOpcode .zero]
      [.ofOpcode 0x63, .ofOpcode .codeSeparator, .ofOpcode 0x68, .ofOpcode .codeSeparator] {}
    separators Ecdsa.verify start 6 = [⟨.locking, 3⟩, ⟨.unlocking, 0⟩] ∧
      ((afterStep Ecdsa.verify)^[5] start).lastSeparator = none ∧
      ((afterStep Ecdsa.verify)^[6] start).lastSeparator = some 3 := by
  decide +kernel

end Spend

end ScriptSpend
