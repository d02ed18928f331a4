import ScriptSpend.Proofs.CheckMultiSig
import ScriptSpend.Proofs.RunningSpends
import ScriptSpend.Proofs.StraightRuns

/-!
# What the checker is asked

A check of signatures is a function of the checker, so its result alone does not tell which
signatures the checker was asked about. Here the checks are written as computations that ask one
question after another and go on by the answers. Answered by any checker, such a computation comes
to what the check comes to with that checker, and its questions along the way are those that the
checker is handed.

## Main definitions

* `Query`: a question to a checker
* `Consultation`: a computation that asks questions
* `Instruction.consult`, `Chunk.consult`: the action of an instruction and of a chunk, with the
  questions that it asks
* `Examines`: the stacks on which an instruction finds signatures and keys to check
* `Spend.queries`: the questions of the next step

## Main results

* `Consultation.run_congr`: checkers that answer the questions alike lead to the same result
* `Chunk.run_consult`: asked by whatever checker, a chunk comes to what it comes to with it
* `Chunk.isAbout_of_mem_queries`: what a question is about
-/

namespace ScriptSpend

/-- A question to a checker: whether a decoded signature is valid under a key over a subscript. -/
structure Query where
  signature : ScopedSignature
  key : Bytes
  subscript : Script
  deriving DecidableEq

/-- The answer of a checker. -/
def Query.answer (query : Query) (checker : Checker) : Bool :=
  checker query.signature query.key query.subscript

/-- A computation that comes to a result, or asks a question and goes on by the answer. -/
inductive Consultation (α : Type) where
  | done (result : α)
  | ask (query : Query) (next : Bool → Consultation α)

namespace Consultation

variable {α β : Type}

/-- The result, with the answers of a checker. -/
def run (checker : Checker) : Consultation α → α
  | done result => result
  | ask query next => (next (query.answer checker)).run checker

/-- The questions that are asked, where a checker answers them. -/
def queries (checker : Checker) : Consultation α → List Query
  | done _ => []
  | ask query next => query :: (next (query.answer checker)).queries checker

/-- Goes on with the result of a consultation. -/
def bind : Consultation α → (α → Consultation β) → Consultation β
  | done result, next => next result
  | ask query goOn, next => ask query fun answer => (goOn answer).bind next

/-- A function of the result of a consultation. -/
def map (f : α → β) (consultation : Consultation α) : Consultation β :=
  consultation.bind fun result => done (f result)

variable {checker other : Checker} {consultation : Consultation α}

@[simp] theorem run_done (result : α) : (done result).run checker = result := rfl

@[simp] theorem queries_done (result : α) : (done result).queries checker = [] := rfl

@[simp] theorem run_bind (next : α → Consultation β) :
    (consultation.bind next).run checker = (next (consultation.run checker)).run checker := by
  induction consultation with
  | done result => rfl
  | ask query goOn ih => exact ih (query.answer checker)

@[simp] theorem queries_bind (next : α → Consultation β) :
    (consultation.bind next).queries checker =
      consultation.queries checker ++ (next (consultation.run checker)).queries checker := by
  induction consultation with
  | done result => rfl
  | ask query goOn ih => exact congrArg (query :: ·) (ih (query.answer checker))

@[simp] theorem run_map (f : α → β) :
    (consultation.map f).run checker = f (consultation.run checker) :=
  run_bind _

@[simp] theorem queries_map (f : α → β) :
    (consultation.map f).queries checker = consultation.queries checker := by
  rw [map, queries_bind, queries_done, List.append_nil]

/-- A checker that gives the same answers to the questions asked leads to the same result. -/
theorem run_congr (agree : ∀ query ∈ consultation.queries checker,
      query.answer other = query.answer checker) :
    consultation.run other = consultation.run checker := by
  induction consultation with
  | done result => rfl
  | ask query goOn ih =>
    have first : query.answer other = query.answer checker := agree query (by simp [queries])
    rw [run, run, first]
    exact ih _ fun later asked => agree later (by simp [queries, asked])

end Consultation

section Questions

variable {checker : Checker} {policy : Policy} {subscript : Script} {query : Query}

/-- Asks whether a signature is valid under a key; one that cannot be decoded is rejected without a
question. -/
def askAccepts (subscript : Script) (item key : Bytes) : Consultation Bool :=
  match ScopedSignature.ofItem item with
  | .error _ => .done false
  | .ok decoded => .ask ⟨decoded, key, subscript⟩ .done

/-- Asks whether a signature fits a key, if both are encoded as they must. -/
def askFits (policy : Policy) (subscript : Script) (item key : Bytes) :
    Consultation (Except Failure Bool) :=
  match checkSignatureEncoding policy item with
  | .error cause => .done (.error cause)
  | .ok () =>
    match checkKeyEncoding key with
    | .error cause => .done (.error cause)
    | .ok () => (askAccepts subscript item key).map .ok

/-- Asks, key by key, whether the signatures can be assigned to keys in order. -/
def askMatch (policy : Policy) (subscript : Script) :
    List Bytes → List Bytes → Consultation (Except Failure Bool)
  | [], _ => .done (.ok true)
  | _ :: _, [] => .done (.error .fault)
  | item :: items, key :: keys =>
    (askFits policy subscript item key).bind fun
      | .error cause => .done (.error cause)
      | .ok fit =>
        let waiting := if fit then items else item :: items
        if keys.length < waiting.length then .done (.ok false)
        else askMatch policy subscript waiting keys

theorem run_askAccepts (item key : Bytes) :
    (askAccepts subscript item key).run checker = checker.accepts subscript item key := by
  unfold askAccepts Checker.accepts
  cases ScopedSignature.ofItem item <;> rfl

theorem run_askFits (item key : Bytes) :
    (askFits policy subscript item key).run checker = tryKey policy checker subscript item key := by
  unfold askFits tryKey
  cases checkSignatureEncoding policy item with
  | error cause => rfl
  | ok _ =>
    cases checkKeyEncoding key with
    | error cause => rfl
    | ok _ => rw [Consultation.run_map, run_askAccepts]

theorem run_askMatch (items keys : List Bytes) :
    (askMatch policy subscript items keys).run checker =
      matchSignatures (tryKey policy checker subscript) items keys := by
  -- Each key is tried once, whatever the answer.
  induction keys generalizing items with
  | nil => cases items <;> rfl
  | cons key keys ih =>
    cases items with
    | nil => rfl
    | cons item items =>
      rw [askMatch, matchSignatures, Consultation.run_bind, run_askFits]
      cases tryKey policy checker subscript item key with
      | error cause => rfl
      | ok fit =>
        dsimp only
        generalize (if fit then items else item :: items) = waiting
        split
        · rfl
        · exact ih waiting

theorem of_mem_queries_askAccepts {item key : Bytes}
    (asked : query ∈ (askAccepts subscript item key).queries checker) :
    ScopedSignature.ofItem item = .ok query.signature ∧ query.key = key ∧
      query.subscript = subscript := by
  unfold askAccepts at asked
  cases read : ScopedSignature.ofItem item with
  | error cause => simp [read] at asked
  | ok decoded =>
    simp only [read, Consultation.queries, List.mem_singleton] at asked
    subst asked
    exact ⟨rfl, rfl, rfl⟩

/-- Only signatures and keys that are encoded as they must be give rise to a question. -/
theorem of_mem_queries_askFits {item key : Bytes}
    (asked : query ∈ (askFits policy subscript item key).queries checker) :
    ScopedSignature.ofItem item = .ok query.signature ∧ query.key = key ∧
      query.subscript = subscript := by
  unfold askFits at asked
  split at asked
  · simp at asked
  · split at asked
    · simp at asked
    · rw [Consultation.queries_map] at asked
      exact of_mem_queries_askAccepts asked

/-- The pass over signatures and keys asks about pairs of them, all over one subscript. -/
theorem of_mem_queries_askMatch {items keys : List Bytes}
    (asked : query ∈ (askMatch policy subscript items keys).queries checker) :
    (∃ item ∈ items, ScopedSignature.ofItem item = .ok query.signature) ∧ query.key ∈ keys ∧
      query.subscript = subscript := by
  induction keys generalizing items with
  | nil => cases items <;> simp [askMatch] at asked
  | cons key keys ih =>
    cases items with
    | nil => simp [askMatch] at asked
    | cons item items =>
      rw [askMatch, Consultation.queries_bind, List.mem_append] at asked
      rcases asked with first | later
      · obtain ⟨decoded, ofKey, text⟩ := of_mem_queries_askFits first
        exact ⟨⟨item, by simp, decoded⟩, by simp [ofKey], text⟩
      · rw [run_askFits] at later
        cases tried : tryKey policy checker subscript item key with
        | error cause => simp [tried] at later
        | ok fit =>
          -- What is still waiting was among the signatures from the start.
          have among : ∀ other ∈ (if fit then items else item :: items), other ∈ item :: items := by
            cases fit with
            | true => exact fun other => List.mem_cons_of_mem item
            | false => exact fun other => id
          simp only [tried] at later
          generalize (if fit then items else item :: items) = waiting at among later
          split at later
          · simp at later
          · obtain ⟨⟨other, left, decoded⟩, ofKey, text⟩ := ih later
            exact ⟨⟨other, among other left, decoded⟩, by simp [ofKey], text⟩

end Questions

section Operations

open StackAction

variable {checker : Checker} {env : Environment} {op : Opcode} {verify : Bool} {stack : Stack}
  {query : Query}

/-- Reads some operands, asks about them, and settles the stack by the answer. -/
def consulting {β γ : Type} (read : StackAction β) (question : β → Consultation γ)
    (settle : β → γ → StackAction Unit) (stack : Stack) :
    Consultation (EStateM.Result Failure Stack Unit) :=
  match read stack with
  | .error cause left => .done (.error cause left)
  | .ok operands left => (question operands).map fun answer => settle operands answer left

theorem run_consulting {β γ : Type} (read : StackAction β) (question : β → Consultation γ)
    (settle : β → γ → StackAction Unit) (stack : Stack) :
    (consulting read question settle stack).run checker =
      (read >>= fun operands => settle operands ((question operands).run checker)) stack := by
  unfold consulting
  rw [bind_apply]
  cases read stack with
  | error cause left => rfl
  | ok operands left => exact Consultation.run_map _

theorem mem_queries_consulting {β γ : Type} {read : StackAction β}
    {question : β → Consultation γ} {settle : β → γ → StackAction Unit}
    (asked : query ∈ (consulting read question settle stack).queries checker) :
    ∃ operands left, read stack = .ok operands left ∧
      query ∈ (question operands).queries checker := by
  unfold consulting at asked
  split at asked
  · simp at asked
  · rename_i operands left found
    rw [Consultation.queries_map] at asked
    exact ⟨operands, left, found, asked⟩

namespace Operation

/-- What a check of one signature works on: the signature, the key and the script text. -/
structure SigOperands where
  signature : Bytes
  key : Bytes
  subscript : Script

/-- Reads the operands of a check of one signature and leaves them where they stand. -/
def sigOperands (op : Opcode) (env : Environment) : StackAction SigOperands := do
  require op 2
  let signature ← item 1
  let key ← item 0
  check (checkSignatureEncoding env.policy signature)
  check (checkKeyEncoding key)
  let subscript ← check (stripSignature env.subscript signature)
  pure ⟨signature, key, subscript⟩

/-- Puts the result of a check of one signature in the place of its operands. -/
def settleSig (op : Opcode) (verify : Bool) (operands : SigOperands) (success : Bool) :
    StackAction Unit :=
  if !success && !operands.signature.isEmpty then throw (.rejectedSignature op)
  else do
    StackAction.drop
    StackAction.drop
    pushBool success
    if verify then verifyTop .noValidSignature else pure ()

/-- Reads the operands of a check of several signatures, and the script text without them. -/
def strippedOperands (op : Opcode) (env : Environment) :
    StackAction (MultiSigOperands × Script) := do
  let operands ← multiSigOperands op env.policy
  let subscript ← check (stripSignatures env.subscript operands.signatures)
  pure (operands, subscript)

/-- A check of one signature, with its question. -/
def consultSig (op : Opcode) (env : Environment) (verify : Bool) :
    Stack → Consultation (EStateM.Result Failure Stack Unit) :=
  consulting (sigOperands op env)
    (fun operands => askAccepts operands.subscript operands.signature operands.key)
    (settleSig op verify)

/-- A check of several signatures, with its questions. -/
def consultMultiSig (op : Opcode) (env : Environment) (verify : Bool) :
    Stack → Consultation (EStateM.Result Failure Stack Unit) :=
  consulting (strippedOperands op env)
    (fun operands => askMatch env.policy operands.2 operands.1.signatures operands.1.keys)
    (fun operands decision => do
      let success ← check decision
      settleMultiSig op env.policy verify operands.1 success)

theorem run_consultSig : (consultSig op env verify stack).run checker =
    checkSig op { env with checker } verify stack := by
  have parts : checkSig op { env with checker } verify = sigOperands op env >>= fun operands =>
      settleSig op verify operands
        (checker.accepts operands.subscript operands.signature operands.key) := by
    simp only [checkSig, sigOperands, settleSig, bind_assoc, pure_bind]
    rfl
  rw [consultSig, run_consulting, parts]
  simp only [run_askAccepts]

theorem run_consultMultiSig : (consultMultiSig op env verify stack).run checker =
    checkMultiSig op { env with checker } verify stack := by
  rw [consultMultiSig, run_consulting]
  simp only [run_askMatch, strippedOperands, checkMultiSig, bind_apply]
  cases multiSigOperands op env.policy stack with
  | error cause left => rfl
  | ok operands left =>
    simp only [Environment.matchOperands, Environment.subscript]
    cases stripSignatures (env.script.drop (env.lastSeparator.getD 0)) operands.signatures <;> rfl

end Operation

end Operations

section Instructions

open StackAction Operation

variable {checker : Checker} {env other : Environment} {op : Opcode} {executing : Bool}
  {machine : Machine} {instruction : Instruction} {chunk : Chunk} {query : Query}

/-- What an action on the main stack comes to for all stacks, if the script goes on behind it. -/
def Machine.afterMain (machine : Machine) :
    EStateM.Result Failure Stack Unit → EStateM.Result Failure Machine Flow
  | .ok _ stack => .ok .next { machine with stack }
  | .error cause stack => .error cause { machine with stack }

/-- An instruction's action on the stacks, with the questions that it asks. -/
def Instruction.consult (env : Environment) (op : Opcode) (executing : Bool) (machine : Machine) :
    Instruction → Consultation (EStateM.Result Failure Machine Flow)
  | .checkSig verifying => (consultSig op env verifying machine.stack).map machine.afterMain
  | .checkMultiSig verifying =>
    (consultMultiSig op env verifying machine.stack).map machine.afterMain
  | instruction => .done (instruction.run env op executing machine)

/-- A chunk's action on the stacks, with the questions that it asks. -/
def Chunk.consult (env : Environment) (chunk : Chunk) (machine : Machine) :
    Consultation (EStateM.Result Failure Machine Flow) :=
  let op := chunk.opcode
  if env.policy.maxElementSize.toNat < chunk.data.length then
    .done (.error (.elementTooLong chunk.data.length env.policy.maxElementSize.toNat) machine)
  else if machine.isExecuting && op.isDisabled then .done (.error (.disabled op) machine)
  else if op.isPush then
    .done (if machine.isExecuting then chunk.pushData env.policy machine else .ok .next machine)
  else if !machine.isExecuting && !op.isConditional then .done (.ok .next machine)
  else (Instruction.ofOpcode op).consult env op machine.isExecuting machine

/-- Whether an instruction checks signatures. -/
def Instruction.checksSignatures : Instruction → Bool
  | .checkSig _ | .checkMultiSig _ => true
  | _ => false

/-- The opcodes that check signatures. -/
def Opcode.signatureChecks : List Opcode := [0xac, 0xad, 0xae, 0xaf]

theorem Opcode.mem_signatureChecks_iff : ∀ op : Opcode,
    op ∈ signatureChecks ↔ (Instruction.ofOpcode op).checksSignatures = true :=
  ScriptNumber.forall_byte (by decide +kernel)

/-- Of what is around the stacks, an instruction that checks no signatures sees only the policy. -/
theorem Instruction.run_congr (plain : instruction.checksSignatures = false)
    (policy : other.policy = env.policy) :
    instruction.run other op executing = instruction.run env op executing := by
  cases instruction with
  | checkSig verifying => cases plain
  | checkMultiSig verifying => cases plain
  | _ => simp only [Instruction.run, policy]

theorem Chunk.execute_congr (plain : chunk.opcode ∉ Opcode.signatureChecks)
    (policy : other.policy = env.policy) : chunk.execute other = chunk.execute env := by
  rw [Opcode.mem_signatureChecks_iff, Bool.not_eq_true] at plain
  funext machine
  simp only [Chunk.execute, policy, Instruction.run_congr plain policy]

theorem Instruction.run_consult (instruction : Instruction) :
    (instruction.consult env op executing machine).run checker =
      instruction.run { env with checker } op executing machine := by
  cases instruction with
  | checkSig verifying =>
    rw [consult, Consultation.run_map, run_consultSig]
    exact (onMainThenNext_apply machine).symm
  | checkMultiSig verifying =>
    rw [consult, Consultation.run_map, run_consultMultiSig]
    exact (onMainThenNext_apply machine).symm
  | _ => rfl

/-- Asked by whatever checker, a chunk comes to what it comes to with that checker. -/
theorem Chunk.run_consult (env : Environment) (checker : Checker) (chunk : Chunk)
    (machine : Machine) :
    (chunk.consult env machine).run checker = chunk.execute { env with checker } machine := by
  simp only [Chunk.consult, Chunk.execute]
  split
  · rfl
  · split
    · rfl
    · split
      · rfl
      · split
        · rfl
        · exact Instruction.run_consult _

/-- The stacks on which an instruction finds signatures to check, and keys to check them under. -/
inductive Examines (policy : Policy) :
    Instruction → Stack → List Bytes → List Bytes → Prop where
  | single {verify : Bool} (key signature : Bytes) (rest : Stack) :
    Examines policy (.checkSig verify) (key :: signature :: rest) [signature] [key]
  | several {verify : Bool} {operands : MultiSigOperands} {dummy : Bytes} {rest stack : Stack}
      (layout : MultiSigLayout policy operands dummy rest stack) :
    Examines policy (.checkMultiSig verify) stack operands.signatures operands.keys

/-- A question is about one of the signatures and one of the keys that an instruction finds, over
the script text without the pushes of any of these signatures. -/
structure Query.IsAbout (env : Environment) (instruction : Instruction) (stack : Stack)
    (signatures keys : List Bytes) (query : Query) : Prop where
  examines : Examines env.policy instruction stack signatures keys
  signature : ∃ item ∈ signatures, ScopedSignature.ofItem item = .ok query.signature
  key : query.key ∈ keys
  subscript : query.subscript = env.subscript.withoutPushes signatures

/-- The operands of a check of one signature are the two top items. -/
theorem Operation.exists_of_sigOperands {operands : SigOperands} {stack left : Stack}
    (read : sigOperands op env stack = .ok operands left) :
    ∃ rest, stack = operands.key :: operands.signature :: rest ∧
      operands.subscript = env.subscript.withoutPushes [operands.signature] := by
  match stack with
  | [] => cases read
  | [_] => cases read
  | key :: signature :: rest =>
    have second : item 1 (key :: signature :: rest) = .ok signature (key :: signature :: rest) :=
      item_of_getElem? rfl
    cases encoded : checkSignatureEncoding env.policy signature with
    | error cause => simp [sigOperands, second, encoded] at read
    | ok _ =>
      have stripped : stripSignature env.subscript signature =
          .ok (env.subscript.withoutPushes [signature]) :=
        stripSignature_eq_ok (length_le_maxPush_of_checkSignatureEncoding encoded)
      cases keyEncoded : checkKeyEncoding key with
      | error cause => simp [sigOperands, second, encoded, keyEncoded] at read
      | ok _ =>
        have found : sigOperands op env (key :: signature :: rest) =
            .ok ⟨signature, key, env.subscript.withoutPushes [signature]⟩
              (key :: signature :: rest) := by
          simp [sigOperands, second, encoded, keyEncoded, stripped]
        cases found.symm.trans read
        exact ⟨rest, rfl, rfl⟩

theorem Operation.exists_of_strippedOperands {operands : MultiSigOperands × Script}
    {stack left : Stack} (read : strippedOperands op env stack = .ok operands left) :
    (∃ dummy rest, MultiSigLayout env.policy operands.1 dummy rest stack) ∧
      operands.2 = env.subscript.withoutPushes operands.1.signatures := by
  rw [strippedOperands, bind_eq_ok_iff] at read
  obtain ⟨found, between, first, later⟩ := read
  obtain ⟨rfl, layout⟩ := multiSigOperands_eq_ok_iff.mp first
  rw [bind_eq_ok_iff] at later
  obtain ⟨subscript, _, stripped, last⟩ := later
  cases last
  cases removed : stripSignatures env.subscript found.signatures with
  | error cause =>
    rw [removed] at stripped
    cases stripped
  | ok text =>
    rw [removed] at stripped
    cases stripped
    exact ⟨layout, eq_withoutPushes_of_stripSignatures removed⟩

/-- Every question that an instruction asks is about signatures that it finds on the stack. -/
theorem Instruction.isAbout_of_mem_queries
    (asked : query ∈ (instruction.consult env op executing machine).queries checker) :
    ∃ signatures keys, query.IsAbout env instruction machine.stack signatures keys := by
  cases instruction with
  | checkSig verifying =>
    rw [consult, Consultation.queries_map] at asked
    obtain ⟨operands, left, read, about⟩ := mem_queries_consulting asked
    obtain ⟨rest, shape, text⟩ := exists_of_sigOperands read
    obtain ⟨decoded, ofKey, sameText⟩ := of_mem_queries_askAccepts about
    refine ⟨[operands.signature], [operands.key], ?_, ⟨_, by simp, decoded⟩, by simp [ofKey],
      sameText.trans text⟩
    rw [shape]
    exact .single _ _ _
  | checkMultiSig verifying =>
    rw [consult, Consultation.queries_map] at asked
    obtain ⟨operands, left, read, about⟩ := mem_queries_consulting asked
    obtain ⟨⟨dummy, rest, layout⟩, text⟩ := exists_of_strippedOperands read
    obtain ⟨decoded, ofKey, sameText⟩ := of_mem_queries_askMatch about
    exact ⟨_, _, .several layout, decoded, ofKey, sameText.trans text⟩
  | _ => simp [consult] at asked

/-- So is every question of a chunk. -/
theorem Chunk.isAbout_of_mem_queries
    (asked : query ∈ (chunk.consult env machine).queries checker) :
    ∃ signatures keys,
      query.IsAbout env (Instruction.ofOpcode chunk.opcode) machine.stack signatures keys := by
  simp only [Chunk.consult] at asked
  split at asked
  · cases asked
  · split at asked
    · cases asked
    · split at asked
      · cases asked
      · split at asked
        · cases asked
        · exact Instruction.isAbout_of_mem_queries asked

end Instructions

namespace Spend

variable {verify : Ecdsa.Verifier} {spend : Spend} {query : Query}

/-- The questions that the checker is asked in the next step. -/
def queries (verify : Ecdsa.Verifier) (spend : Spend) : List Query :=
  match spend.entered.chunk?, spend.entered.exhausted? with
  | some chunk, none =>
    (chunk.consult (spend.entered.environment verify) spend.entered.machine).queries
      (checker verify spend.context)
  | _, _ => []

theorem queries_of_chunk? {chunk : Chunk} (found : spend.entered.chunk? = some chunk)
    (within : spend.entered.exhausted? = none) :
    spend.queries verify =
      (chunk.consult (spend.entered.environment verify) spend.entered.machine).queries
        (checker verify spend.context) := by
  simp only [queries, found, within]

/-- A step that asks a question executes a chunk. -/
theorem exists_chunk_of_mem_queries (asked : query ∈ spend.queries verify) :
    ∃ chunk, spend.entered.chunk? = some chunk ∧
      query ∈ (chunk.consult (spend.entered.environment verify) spend.entered.machine).queries
        (checker verify spend.context) := by
  unfold queries at asked
  split at asked
  · rename_i chunk found within
    exact ⟨chunk, found, asked⟩
  · cases asked

end Spend

end ScriptSpend
