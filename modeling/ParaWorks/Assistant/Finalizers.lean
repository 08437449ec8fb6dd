import ParaWorks.Assistant.Delivery
import ParaWorks.Ledger.Contracts

/-!
# Finalizers of an assistant invocation

Each works in a session of its own, which may fail before its commit, at it or after it.
-/

namespace ParaWorks.Assistant

open Lib

/-- An `AgentRun` of a RAG answer with its cost components. -/
structure AgentRun where
  id : Int
  status : Ledger.RunStatus
  runRecordPhase : Ledger.RunRecordPhase
  /-- The contract is `rag-run:v2`. -/
  contractV2 : Bool
  /-- `completed_at` is set. -/
  completed : Bool
  outcome : Option ApplicationOutcome
  /-- The HMACs of the rendered input, the answer configuration and the prepared influence. -/
  preparation : List (Option String)
  securityScope : Option String
  configuredBackend : Option String
  effectiveBackend : Option String
  /-- The cost components by their ordinals. -/
  components : List (Ledger.RagPaidComponent × Ledger.DispatchState)
  deriving DecidableEq

inductive MessageRole
  | user
  | assistant
  deriving DecidableEq

structure AssistantMessage where
  id : Int
  role : MessageRole
  conversationId : Int
  linkedAgentRunId : Option Int
  deriving DecidableEq

/-- The committed rows. -/
structure Database where
  runs : List AgentRun
  messages : List AssistantMessage
  /-- The conversations with their owners. -/
  conversations : List (Int × String)
  deriving DecidableEq

/-- `AssistantProjectionTarget`. -/
structure AssistantProjectionTarget where
  conversationId : Int
  userMessageId : Int
  ownerUserId : String

namespace Database

variable (db : Database)

def run (id : Int) : Option AgentRun := db.runs.find? (·.id = id)

def message (id : Int) : Option AssistantMessage := db.messages.find? (·.id = id)

/-- Some message is linked to the run. -/
def linked (runId : Int) : Bool := db.messages.any (·.linkedAgentRunId = some runId)

/-- The next id that the database allocates. -/
def nextId (ids : List Int) : Int := ids.foldr max 0+1

def nextRunId : Int := nextId (db.runs.map (·.id))

def nextMessageId : Int := nextId (db.messages.map (·.id))

/-- The conversation is the owner's, and the user's message is in it. -/
def targetAvailable (target : AssistantProjectionTarget) : Bool :=
  (target.conversationId,target.ownerUserId) ∈ db.conversations ∧
  (db.message target.userMessageId).any fun m => m.role = .user ∧ m.conversationId = target.conversationId

end Database

/-- What raises in a session, if anything does. -/
inductive SessionFault
  | beforeCommit
  /-- The commit raises and is rolled back. -/
  | commitLost
  /-- The commit raises after it became durable. -/
  | commitDurable
  | close
  deriving DecidableEq

/-- The request-independent settings and the behaviour of the finalizers' sessions. -/
structure FinalizerEnvironment where
  fault : Option SessionFault
  /-- The session that reads the parent again answers. -/
  readable : Bool
  backend : String
  /-- The fingerprint of the resolved security scope. -/
  securityScope : String

/-- `a or b` of two optional texts. -/
def orElseText (a b : Option String) : Option String := if a.any (· ≠ "") then a else b

/-- The checks of `append_assistant_terminal_failure`. -/
def terminalFailureAllowed (db : Database) (parent : AgentRun) (target : AssistantProjectionTarget)
    (outcome : ApplicationOutcome) (securityScope : String) (effectiveBackend : Option String) : Bool :=
  let configured := parent.configuredBackend.getD "keyword"
  let backend := orElseText (orElseText effectiveBackend parent.effectiveBackend)
    (some (if configured = "pgvector" then "pgvector" else "deterministic_lexical"))
  outcome ∈ ApplicationOutcome.terminalFailure ∧ db.targetAvailable target ∧ parent.status = .failed ∧
  parent.runRecordPhase = .final ∧ db.linked parent.id = false ∧
  (parent.preparation.any (fun value => value.any (· ≠ "")) = true →
    parent.preparation.all (fun value => value.any Ledger.isLowerHmac) = true) ∧
  parent.securityScope.getD securityScope = securityScope ∧
  backend ∈ [some "pgvector",some "deterministic_lexical",some "neo4j"]

/-- `append_assistant_terminal_failure`: the flushed rows and their record; none where it raises. -/
def appendAssistantTerminalFailure (db : Database) (parent : AgentRun) (target : AssistantProjectionTarget)
    (outcome : ApplicationOutcome) (securityScope : String) (effectiveBackend : Option String) :
    Option (Database × AssistantFinalizationRecord) :=
  if terminalFailureAllowed db parent target outcome securityScope effectiveBackend then
    let message : AssistantMessage := ⟨db.nextMessageId,.assistant,target.conversationId,some parent.id⟩
    some ({ db with messages := db.messages++[message] },⟨message.id,parent.id,outcome⟩)
  else none

/-- The commit of flushed rows, and what the caller returns where it is acknowledged. -/
def commit (fault : Option SessionFault) (db flushed : Database) (record : AssistantFinalizationRecord) :
    Database × Option AssistantDeliveryResult :=
  match fault with
  | some .commitLost => (db,assistantUnknown)
  | none => (flushed,(assistantCommitted record).or assistantUnknown)
  | some _ => (flushed,assistantUnknown)

/-- The run of `AssistantPreDispatchFailureFinalizer`. -/
def preDispatchParent (env : FinalizerEnvironment) (db : Database) (outcome : ApplicationOutcome) : AgentRun :=
  ⟨db.nextRunId,.failed,.final,true,true,some outcome,[none,none,none],some env.securityScope,some env.backend,none,
    [(.queryEmbedding,.terminal),(.answerGeneration,.terminal)]⟩

/-- `AssistantPreDispatchFailureFinalizer.finalize`; no result where it raises. -/
def preDispatchFinalize (env : FinalizerEnvironment) (db : Database) (target : AssistantProjectionTarget)
    (outcome : ApplicationOutcome) : Database × Option AssistantDeliveryResult :=
  let parent := preDispatchParent env db outcome
  if env.fault = some .beforeCommit then (db,notPersisted)
  else match appendAssistantTerminalFailure { db with runs := db.runs++[parent] } parent target outcome
      env.securityScope none with
    | none => (db,notPersisted)
    | some (flushed,record) => commit env.fault db flushed record

/-- The checks of `finalize_assistant_failed_parent`. -/
def failedParent (parent : AgentRun) (outcome : ApplicationOutcome) : Bool :=
  parent.status = .failed ∧ parent.runRecordPhase = .final ∧ parent.contractV2 ∧ parent.completed ∧
  parent.outcome = some outcome ∧ parent.components.map (·.1) = [.queryEmbedding,.answerGeneration] ∧
  parent.components.all (·.2 = .terminal)

/-- What `finalize_assistant_failed_parent` reads again after an exception before its commit. -/
def recoverFailedParent (env : FinalizerEnvironment) (db : Database) (parentId : Int) :
    Option AssistantDeliveryResult :=
  match db.run parentId with
  | none => assistantUnknown
  | some parent =>
    if env.readable = true ∧ parent.status = .failed ∧ parent.runRecordPhase = .final ∧
        db.linked parentId = false then (committedRunFailure parentId).or assistantUnknown
    else assistantUnknown

/-- `finalize_assistant_failed_parent`; no result where it raises. -/
def finalizeAssistantFailedParent (env : FinalizerEnvironment) (db : Database) (target : AssistantProjectionTarget)
    (parentId : Int) (outcome : ApplicationOutcome) (effectiveBackend : Option String) :
    Database × Option AssistantDeliveryResult :=
  if env.fault = some .beforeCommit then (db,recoverFailedParent env db parentId)
  else match (db.run parentId).filter (failedParent · outcome) with
    | none => (db,if env.fault = some .close then recoverFailedParent env db parentId else assistantUnknown)
    | some parent =>
      match appendAssistantTerminalFailure db parent target outcome env.securityScope effectiveBackend with
      | none => (db,recoverFailedParent env db parentId)
      | some (flushed,record) => commit env.fault db flushed record

/-- A Python value that may be a run id. -/
inductive RunIdValue
  | missing
  | int (id : Int)
  | other (truthy : Bool)
  deriving DecidableEq

/-- `not value`. -/
def RunIdValue.falsy : RunIdValue → Bool
  | .missing => true
  | .int id => id = 0
  | .other truthy => !truthy

/-- `assistant_failed_parent_delivery`; none where it raises. -/
def assistantFailedParentDelivery (env : FinalizerEnvironment) (db : Database) (parentId : RunIdValue)
    (target : AssistantProjectionTarget) : Option AssistantDeliveryResult :=
  match parentId with
  | .int id =>
    match db.run id with
    | none => assistantUnknown
    | some parent =>
      if 0 < id ∧ env.readable = true ∧ parent.status = .failed ∧ parent.contractV2 ∧
          parent.runRecordPhase = .final ∧ parent.completed ∧ db.linked id = false ∧ db.targetAvailable target then
        (committedRunFailure id).or assistantUnknown
      else assistantUnknown
  | _ => assistantUnknown

end ParaWorks.Assistant
