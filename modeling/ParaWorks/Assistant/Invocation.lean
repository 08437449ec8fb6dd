import ParaWorks.Assistant.Finalizers
import ParaWorks.Lib.Paging

/-!
# Assistant invocations

`RagApplicationFacade.invoke_assistant` around a request factory and a graph that behave in any way.
-/

namespace ParaWorks.Assistant

open Lib

/-! ## The environment -/

inductive ExceptionKind
  /-- `RagApplicationError`; its code, where it is an outcome. -/
  | application (code : Option ApplicationOutcome)
  /-- `RagFinalizationError` with its `run_id`. -/
  | finalization (runId : RunIdValue)
  | runtimeVersionUnavailable
  | budgetExceeded
  | embeddingReadiness
  | other
  deriving DecidableEq

/-- An exception object. -/
structure PyException where
  identity : Nat
  kind : ExceptionKind
  deriving DecidableEq

/-- What a commit of the request adds. -/
inductive DbEffect
  /-- The run is inserted, or its row updated. -/
  | run (run : AgentRun)
  | message (message : AssistantMessage)

inductive GraphEffect
  | db (effect : DbEffect)
  | beginAdmission

structure GraphOutput where
  assistantFinalization : Option AssistantFinalizationRecord
  outcome : Option ApplicationOutcome
  runId : RunIdValue
  effectiveBackend : Option String

inductive GraphReturn
  | mapping (output : GraphOutput)
  /-- Not a mapping: its use raises. -/
  | other (failure : PyException)

/-- How the request services leave. -/
inductive ServicesExit
  /-- A pending exception goes on. -/
  | pass
  | raise (failure : PyException)
  /-- A pending exception is swallowed. -/
  | suppress

/-- The request factory's services, as a context manager. -/
structure Services where
  entry : List DbEffect
  /-- Entering raises, or gives services that are `RagRequestServices` or not. -/
  entered : Except PyException Bool
  exit : Option PyException → List DbEffect × ServicesExit

structure Graph where
  effects : List GraphEffect
  finish : Except PyException GraphReturn

structure Request where
  /-- `execution_owner` is `v2`. -/
  owner : Except PyException Bool
  /-- `validate_prepared_ingress`. -/
  ingress : Except PyException Bool
  /-- `resolve` of the graph registry raises. -/
  unresolved : Option PyException
  services : Services
  graph : Graph

/-! ## The request -/

inductive Phase
  | unproven
  | preflight
  | factoryEntry
  | factoryPreclaim
  | graphPreclaim
  | admissionStarted
  | graphFailed
  | graphReturned
  | requestExited
  deriving DecidableEq

/-- `AssistantExecutionDisposition`. -/
structure AssistantExecutionDisposition where
  phase : Phase
  preclaimFailure : Option PyException
  deriving DecidableEq

namespace AssistantExecutionDisposition

def beginAdmission (_ : AssistantExecutionDisposition) : AssistantExecutionDisposition := ⟨.admissionStarted,none⟩

def recordPreclaimFailure (execution : AssistantExecutionDisposition) (failure : PyException) :
    AssistantExecutionDisposition :=
  if execution.phase ∈ [.preflight,.factoryPreclaim,.graphPreclaim] then
    { execution with preclaimFailure := some failure }
  else execution

/-- `preclaim_failure is exc`. -/
def recorded (execution : AssistantExecutionDisposition) (failure : PyException) : Bool :=
  execution.preclaimFailure.any (·.identity = failure.identity)

end AssistantExecutionDisposition

/-- The state of an invocation. -/
structure Invocation where
  db : Database
  execution : AssistantExecutionDisposition
  /-- `begin_admission` was called. -/
  admitted : Bool

def DbEffect.apply (db : Database) : DbEffect → Database
  | .run row => { db with runs := mergeRow AgentRun.id db.runs row }
  | .message row => { db with messages := db.messages++[row] }

namespace Invocation

variable (s : Invocation)

def setPhase (phase : Phase) : Invocation := { s with execution := { s.execution with phase := phase } }

def record (failure : PyException) : Invocation :=
  { s with execution := s.execution.recordPreclaimFailure failure }

def commit (effects : List DbEffect) : Invocation := { s with db := effects.foldl DbEffect.apply s.db }

def graphEffect (s : Invocation) : GraphEffect → Invocation
  | .db effect => { s with db := effect.apply s.db }
  | .beginAdmission => ⟨s.db,s.execution.beginAdmission,true⟩

end Invocation

/-- `RagApplicationError('runtime_version_unavailable')`, as a new object. -/
def runtimeVersionError : PyException := ⟨0,.application (some .runtimeVersionUnavailable)⟩

/-- `ingress_budget_refusal`. -/
def ingressBudgetRefusal : GraphReturn := .mapping ⟨none,some .budgetExceeded,.missing,some "deterministic_lexical"⟩

/-- The body of the `with` statement: the pending exception and the result. -/
def graphBody (request : Request) (typed : Bool) (s : Invocation) :
    Invocation × Option PyException × Option GraphReturn :=
  if typed = false then (s,some runtimeVersionError,none)
  else
    let s := request.graph.effects.foldl Invocation.graphEffect (s.setPhase .graphPreclaim)
    match request.graph.finish with
    | .error failure => ((s.record failure).setPhase .graphFailed,some failure,none)
    | .ok result => (s.setPhase .graphReturned,none,some result)

/-- The end of the `with` statement and of the factory. -/
def leaveRequest (request : Request) (body : Invocation × Option PyException × Option GraphReturn) :
    Invocation × Except PyException GraphReturn :=
  let (s,pending,result) := body
  let (effects,exit) := request.services.exit pending
  let s := s.commit effects
  let failure := match exit with
    | .pass => pending
    | .raise failure => some failure
    | .suppress => none
  match failure,result with
  | some failure,_ => (s.record failure,.error failure)
  | none,some result => (s.setPhase .requestExited,.ok result)
  -- the swallowed exception leaves no result to return
  | none,none => (s.setPhase .requestExited,.error ⟨0,.other⟩)

/-- `invoke_graph`. -/
def invokeGraph (request : Request) (s : Invocation) : Invocation × Except PyException GraphReturn :=
  let s := s.setPhase .preflight
  match request.owner with
  | .error failure => (s,.error failure)
  | .ok false => (s,.error runtimeVersionError)
  | .ok true =>
    match request.ingress with
    | .error failure => (s,.error failure)
    | .ok false => (s,.ok ingressBudgetRefusal)
    | .ok true =>
      match request.unresolved with
      | some failure => (s.record failure,.error failure)
      | none =>
        let s := ((s.setPhase .factoryEntry).setPhase .factoryPreclaim).commit request.services.entry
        match request.services.entered with
        | .error failure => (s.record failure,.error failure)
        | .ok typed => leaveRequest request (graphBody request typed s)

/-! ## The invocation -/

/-- What an invocation leaves: the state behind the request, the committed rows and the result, if it returns. -/
structure Delivery where
  request : Invocation
  db : Database
  result : Option AssistantDeliveryResult

variable (env : FinalizerEnvironment) (target : AssistantProjectionTarget)

/-- The outcome of a recorded exception that allows a failure parent. -/
def preclaimOutcome : ExceptionKind → Option ApplicationOutcome
  | .application code => code.filter
      (· ∈ [.runtimeVersionUnavailable,.retrieverNotConfigured,.retrieverUnavailable,.modelUnavailable,
        .providerSafetyUnavailable,.budgetExceeded])
  | .runtimeVersionUnavailable => some .runtimeVersionUnavailable
  | .budgetExceeded => some .budgetExceeded
  | .embeddingReadiness => some .retrieverUnavailable
  | .finalization _ => none
  | .other => none

/-- The `except` clauses of `invoke_assistant`. -/
def handleFailure (s : Invocation) (failure : PyException) : Delivery :=
  match failure.kind with
  | .finalization runId => ⟨s,s.db,assistantFailedParentDelivery env s.db runId target⟩
  | kind =>
    match preclaimOutcome kind with
    | none => ⟨s,s.db,assistantUnknown⟩
    | some outcome =>
      if s.execution.recorded failure then
        let delivered := preDispatchFinalize env s.db target outcome
        ⟨s,delivered.1,delivered.2⟩
      else ⟨s,s.db,assistantUnknown⟩

/-- What `invoke_assistant` makes of a graph output. -/
def handleOutput (s : Invocation) (output : GraphOutput) : Delivery :=
  match output.assistantFinalization with
  | some record =>
    match assistantCommitted record with
    | some result => ⟨s,s.db,some result⟩
    | none => handleFailure env target s ⟨0,.other⟩
  | none =>
    match output.runId,output.outcome.filter (· ∈ ApplicationOutcome.terminalFailure) with
    | .int parentId,some outcome =>
      let delivered := finalizeAssistantFailedParent env s.db target parentId outcome output.effectiveBackend
      ⟨s,delivered.1,delivered.2⟩
    | _,_ =>
      -- a preflight budget refusal opens neither request services nor a claim
      if output.outcome = some .budgetExceeded ∧ s.execution.phase = .preflight ∧ output.runId.falsy then
        let delivered := preDispatchFinalize env s.db target .budgetExceeded
        ⟨s,delivered.1,delivered.2⟩
      else ⟨s,s.db,assistantUnknown⟩

/-- `invoke_assistant`; `ingress` says that the ingress prepared again is the caller's. -/
def invokeAssistant (request : Request) (ingress : Bool) (db : Database) : Delivery :=
  let s : Invocation := ⟨db,⟨.unproven,none⟩,false⟩
  if ingress = false then ⟨s,db,assistantUnknown⟩
  else match invokeGraph request s with
    | (s,.ok (.mapping output)) => handleOutput env target s output
    | (s,.ok (.other failure)) => handleFailure env target s failure
    | (s,.error failure) => handleFailure env target s failure

end ParaWorks.Assistant
