import ParaWorks.Ledger.Session

/-!
# The operations of the cost ledger

Each operation takes the index `i` of the ledger instance it runs on. Statements are in the order of
the source, because an operation that raises keeps what it has assigned so far.
-/

namespace ParaWorks.Ledger

open Lib

/-- What the assembly gives every ledger. -/
structure LedgerAuthority where
  sign : Signers
  costPolicy : RagCostPolicy

variable (authority : LedgerAuthority)

/-! ## Admission -/

structure AdmissionRequest where
  surface : RagSurface
  mode : RagMode
  cutoverStage : RagCutoverStage
  configuredBackend : RagRetrievalBackend
  queryContextVersion : QueryContextVersion
  currentTextHmac : String
  retrievalQueryHmac : String
  securityScopeFingerprint : String
  admissionCacheIdentityHmac : Option Hmac
  sourceWindow : SourceWindow
  query : AuthorizedProviderPolicySnapshot × RagAdmissionBudget
  answer : AuthorizedProviderPolicySnapshot × RagAdmissionBudget

def stageRank : RagCutoverStage → Nat
  | .none => 0
  | .ask => 1
  | .search => 2
  | .assistant => 3

def surfaceRank : RagSurface → Nat
  | .ask => 1
  | .search => 2
  | .assistant => 3

def AdmissionRequest.routeIsActive (r : AdmissionRequest) : Bool :=
  surfaceRank r.surface ≤ stageRank r.cutoverStage && (r.mode ≠ .shadow || r.configuredBackend = .pgvector)

def AdmissionRequest.contextMatchesSurface (r : AdmissionRequest) : Bool :=
  r.queryContextVersion = if r.surface = .assistant then .assistantContextV1 else .directQueryV1

/-- The route has no use for the component. -/
def AdmissionRequest.unused (r : AdmissionRequest) : RagPaidComponent → Bool
  | .queryEmbedding => r.configuredBackend = .keyword
  | .answerGeneration => r.mode ≠ .enforce || r.surface = .search

/-- One round of the loop over `_COMPONENT_ORDER`. -/
def admitComponent (request : AdmissionRequest) (expected : RagPaidComponent)
    (pair : AuthorizedProviderPolicySnapshot × RagAdmissionBudget) : LedgerM Unit := do
  require (pair.1.component = expected && pair.2.component = expected &&
    pair.1.authorizedPolicySnapshotHmac = pair.2.costPolicySnapshotHmac)
    (.value "RAG admission components are misaligned")
  match pair.2 with
  | .prepared _ => pure ()
  | .ceiling reservation => do
    require (expected = .answerGeneration && request.mode = .enforce && request.surface ≠ .search)
      (.value "answer ceiling is unused by this route")
    require (reservation = authority.costPolicy.reserveAnswerGeneration)
      (.value "answer ceiling authority is invalid")
  | .unused reservation =>
    require (request.unused expected && reservation = authority.costPolicy.reserveUnusedComponent expected)
      (.value "unused component reservation is invalid")

def admissionRow (component : RagPaidComponent)
    (pair : AuthorizedProviderPolicySnapshot × RagAdmissionBudget) : AgentRunCostComponent where
  component := component
  dispatchState := .notAttempted
  dispatchFenceHmac := none
  processInstanceHmac := none
  attempted := false
  dispatchCount := 0
  reservedInputTokens := pair.2.estimatedInputTokens
  reservedOutputTokens := pair.2.maximumOutputTokens
  actualInputTokens := none
  actualOutputTokens := none
  reservedCostUsd := pair.2.reservedCostUsd
  chargedCostUsd := 0
  chargeBasis := .zero
  overrun := false
  authorized := pair.1
  terminalOutcome := none

def AdmissionRequest.rows (r : AdmissionRequest) : List AgentRunCostComponent :=
  [admissionRow .queryEmbedding r.query,admissionRow .answerGeneration r.answer]

/-- A total is checked only when a ceiling is reserved. -/
def AdmissionRequest.hasCeiling (r : AdmissionRequest) : Bool :=
  r.query.2.ceiling?.isSome || r.answer.2.ceiling?.isSome

def AdmissionRequest.identity (r : AdmissionRequest) (current query scope : Hmac) : Hmac :=
  authority.sign.admission {
    answerProviderPolicySnapshotHmac :=
      if r.mode = .enforce ∧ r.surface ≠ .search then some r.answer.1.authorizedPolicySnapshotHmac else none
    configuredBackend := r.configuredBackend
    currentTextHmac := current
    cutoverStage := r.cutoverStage
    mode := r.mode
    queryContextVersion := r.queryContextVersion
    queryEmbeddingProviderPolicySnapshotHmac :=
      if r.configuredBackend = .pgvector then some r.query.1.authorizedPolicySnapshotHmac else none
    retrievalQueryHmac := query
    securityScopeFingerprint := scope
    surface := r.surface }

def AdmissionRequest.parent (r : AdmissionRequest) (current query scope identity : Hmac) : AgentRun where
  runContractVersion := "rag-run:v2"
  status := .running
  runRecordPhase := .admission
  sourceWindow := r.sourceWindow
  cacheKey := .admission identity
  estimatedCostUsd := totalReserved r.rows
  totalChargedCostUsd := 0
  projectionOwnerFenceHmac := none
  completedAt := none
  metadata := {
    configuredBackend := r.configuredBackend
    currentTextHmac := current
    cutoverStage := r.cutoverStage
    mode := r.mode
    queryContextVersion := r.queryContextVersion
    retrievalQueryHmac := query
    runtimeCostSnapshotHmac :=
      runtimeCostIdentity authority.sign r.rows none .admission .running .preProjection
    securityScopeFingerprint := scope
    surface := r.surface
    renderedInputHmac := none
    answerModelConfigSnapshotHmac := none
    preparedModelInfluenceObservationHmac := none
    answerFinalization := none
    outcome := none
    terminalIdentityHmac := none
    shadowComparisonHmac := none
    ragResultHmac := none }

def admitted (request : AdmissionRequest) (m : Memory) : Memory :=
  { m with
    admissionSnapshots := put (put m.admissionSnapshots .queryEmbedding (some request.query.1))
      .answerGeneration (some request.answer.1)
    answerReservation := (request.answer.2.ceiling?.or request.query.2.ceiling?).or m.answerReservation
    admissionBudgets := put (put m.admissionBudgets .queryEmbedding
      (request.query.2.prepared?.or (m.admissionBudgets .queryEmbedding)))
      .answerGeneration (request.answer.2.prepared?.or (m.admissionBudgets .answerGeneration)) }

/-- `session.add` of the parent and both rows, then `_commit`. A second run of this id violates the
primary key. -/
def insertRun (i : Nat) (env : Environment) (run : Run) : LedgerM Unit := do
  let w ← get
  match w.db, env.commit with
  | none, .acknowledged => set ({ w with db := some run }.record (.committed run))
  | none, .unacknowledged => do
    set ({ w with db := some run }.record (.committed run))
    throw commitUnacknowledged
  | _, _ => do
    rollback i
    throw commitUnacknowledged

def createAdmission (i : Nat) (env : Environment) (request : AdmissionRequest) : LedgerM Unit := do
  runtimeHealthEffect env
  let window ← present (admissionSourceWindow request.mode request.surface request.configuredBackend)
    (.value "RAG admission source window is invalid")
  require (request.sourceWindow = window && request.routeIsActive && request.contextMatchesSurface)
    (.value "RAG admission is invalid")
  let current ← present (requireLowerHmac request.currentTextHmac)
    (.value "identity must be a lowercase SHA-256 HMAC")
  let query ← present (requireLowerHmac request.retrievalQueryHmac)
    (.value "identity must be a lowercase SHA-256 HMAC")
  let scope ← present (requireLowerHmac request.securityScopeFingerprint)
    (.value "identity must be a lowercase SHA-256 HMAC")
  admitComponent authority request .queryEmbedding request.query
  admitComponent authority request .answerGeneration request.answer
  require (!(request.hasCeiling && (request.query.2.prepared?.any fun b =>
    !authority.costPolicy.validPreparedBudget b))) (.value "RAG prepared budget is invalid")
  require (!(request.hasCeiling && totalReserved request.rows > 12000)) .budgetExceeded
  let identity := request.identity authority current query scope
  require (request.admissionCacheIdentityHmac.all fun h => h = identity)
    (.value "caller admission identity does not match server authority")
  insertRun i env ⟨request.parent authority current query scope identity,request.rows⟩
  modifyMemory i (admitted request)

/-! ## Binding and claiming -/

/-- A rendered answer invocation with its model influence set, as `bind_answer_budget` reads them. -/
structure AnswerProjection where
  /-- types, digests and signature of the invocation and its influence set agree -/
  authentic : Bool
  budget : PreparedPaidCallBudget
  retrievalQueryHmac : Hmac
  renderedInputHmac : Hmac
  modelConfigSnapshotHmac : Hmac
  aggregateObservationHmac : Hmac
  graphScopes : List Hmac

def validatePreparedBudget (prepared : PreparedPaidCallBudget) : LedgerM Unit :=
  require (authority.costPolicy.validPreparedBudget prepared) (.value "RAG prepared budget is invalid")

/-- The prepared budget narrows the ceiling that was reserved. -/
def narrows (prepared : PreparedPaidCallBudget) (reservation : RagAnswerCeilingReservation) : Bool :=
  prepared.component = .answerGeneration &&
  prepared.estimatedInputTokens ≤ reservation.estimatedInputTokens &&
  prepared.maximumOutputTokens ≤ reservation.maximumOutputTokens &&
  prepared.reservedCostUsd ≤ reservation.reservedCostUsd &&
  prepared.costPolicySnapshotHmac = reservation.costPolicySnapshotHmac

/-- The projection identity may be written once, for the request's own query. -/
def projectionBindable (metadata : RunMetadata) (projection : AnswerProjection) : Bool :=
  projection.retrievalQueryHmac = metadata.retrievalQueryHmac &&
  metadata.renderedInputHmac = none && metadata.answerModelConfigSnapshotHmac = none &&
  metadata.preparedModelInfluenceObservationHmac = none

/-- The embedding a claim or binding over pgvector depends on. -/
def querySucceeded (parent : AgentRun) (rows : List AgentRunCostComponent) : Bool :=
  parent.metadata.configuredBackend ≠ .pgvector || rows.any fun row =>
    row.component = .queryEmbedding && row.dispatchState = .terminal &&
    row.terminalOutcome = some .componentSucceeded

/-- The durable ceiling row is still the one that was reserved. -/
def reservationUnchanged (parent : AgentRun) (rows : List AgentRunCostComponent)
    (answer : AgentRunCostComponent) (reservation : RagAnswerCeilingReservation) : Bool :=
  parent.status = .running && parent.runRecordPhase = .admission &&
  !componentIsUnused parent .answerGeneration &&
  answer.dispatchState = .notAttempted && !answer.attempted && answer.dispatchCount = 0 &&
  answer.chargedCostUsd = 0 && answer.reservedInputTokens = reservation.estimatedInputTokens &&
  answer.reservedOutputTokens = reservation.maximumOutputTokens &&
  answer.reservedCostUsd = reservation.reservedCostUsd &&
  answer.authorized.authorizedPolicySnapshotHmac = reservation.costPolicySnapshotHmac &&
  querySucceeded parent rows

def isComponent (component : RagPaidComponent) (row : AgentRunCostComponent) : Bool :=
  row.component = component

/-- `_require_terminal_cost_row`. -/
def terminalCostRowUnchanged (m : Memory) (row : AgentRunCostComponent) : Bool :=
  m.terminalCostRows row.component = some (rowRuntimeComponent row)

/-- `f` applied to the row of one component. -/
def onComponent (component : RagPaidComponent) (f : AgentRunCostComponent → AgentRunCostComponent)
    (rows : List AgentRunCostComponent) : List AgentRunCostComponent :=
  rows.map fun row => if row.component = component then f row else row

def narrowRow (prepared : PreparedPaidCallBudget) (row : AgentRunCostComponent) : AgentRunCostComponent :=
  { row with
    reservedInputTokens := prepared.estimatedInputTokens
    reservedOutputTokens := prepared.maximumOutputTokens
    reservedCostUsd := prepared.reservedCostUsd }

def boundMetadata (metadata : RunMetadata) (projection : Option AnswerProjection) (runtime : Hmac) :
    RunMetadata :=
  { metadata with
    renderedInputHmac := (projection.map (·.renderedInputHmac)).or metadata.renderedInputHmac
    answerModelConfigSnapshotHmac :=
      (projection.map (·.modelConfigSnapshotHmac)).or metadata.answerModelConfigSnapshotHmac
    preparedModelInfluenceObservationHmac :=
      (projection.map (·.aggregateObservationHmac)).or metadata.preparedModelInfluenceObservationHmac
    runtimeCostSnapshotHmac := runtime }

def bindAnswerBudget (i : Nat) (env : Environment) (prepared : PreparedPaidCallBudget)
    (projection : Option AnswerProjection) : LedgerM Unit := do
  runtimeHealthEffect env
  validatePreparedBudget authority prepared
  require (projection.all fun p => p.authentic && p.budget = prepared)
    (.ledger "answer projection identity is invalid")
  let m ← getMemory i
  let reservation ← present m.answerReservation (.ledger "answer ceiling binding is unavailable")
  require (narrows prepared reservation) (.ledger "answer ceiling binding is unavailable")
  let (parent,rows) ← lockedRun i
  require (projection.all fun p => p.graphScopes.all fun s => s = parent.metadata.securityScopeFingerprint)
    (.ledger "graph influence scope changed")
  require (projection.all (projectionBindable parent.metadata))
    (.ledger "answer projection identity changed")
  let query ← present (rows.find? (isComponent .queryEmbedding)) (.ledger "exact-two RAG run is unavailable")
  let answer ← present (rows.find? (isComponent .answerGeneration)) (.ledger "exact-two RAG run is unavailable")
  require (reservationUnchanged parent rows answer reservation) (.ledger "durable answer reservation changed")
  require (parent.metadata.configuredBackend ≠ .pgvector || terminalCostRowUnchanged m query)
    (.ledger "terminal component cost changed")
  -- Retired before the fallible commit: an uncertain commit may not be bound again.
  modifyMemory i fun m => { m with answerReservation := none }
  let narrowed := onComponent .answerGeneration (narrowRow prepared) rows
  assignRows narrowed
  assignParent { parent with
    estimatedCostUsd := totalReserved narrowed
    metadata := boundMetadata parent.metadata projection
      (runtimeCostIdentity authority.sign narrowed none .admission .running .preProjection) }
  modify fun w => w.record (.budgetBound prepared)
  commit env
  modifyMemory i fun m => { m with
    admissionBudgets := put m.admissionBudgets .answerGeneration (some prepared) }

/-- The row a prepared budget may still claim. -/
def claimable (row : AgentRunCostComponent) (component : RagPaidComponent)
    (prepared : PreparedPaidCallBudget) : Bool :=
  row.dispatchState = .notAttempted && prepared.component = component &&
  row.reservedInputTokens = prepared.estimatedInputTokens &&
  row.reservedOutputTokens = prepared.maximumOutputTokens &&
  row.reservedCostUsd = prepared.reservedCostUsd &&
  row.authorized.authorizedPolicySnapshotHmac = prepared.costPolicySnapshotHmac

def claimRow (fence process : Hmac) (row : AgentRunCostComponent) : AgentRunCostComponent :=
  { row with
    dispatchState := .dispatching
    dispatchFenceHmac := some fence
    processInstanceHmac := some process
    attempted := true
    dispatchCount := 1
    chargedCostUsd := row.reservedCostUsd
    chargeBasis := .reserved }

/-- The refusal branch of a claim releases its row locks, unless the session has pending writes. -/
def releasePreclaim (i : Nat) : LedgerM RagProviderSafetyBinding := do
  let w ← get
  require (!(w.db.any fun run => w.unit.any fun u => u.session = i && u.dirty run))
    (.persistence "preclaim transaction has pending writes")
  rollback i
  throw (.preclaimSafetyRefusal "provider safety refused claim")

def requireReady (i : Nat) (env : Environment) : LedgerM RagProviderSafetyBinding :=
  match env.readiness with
  | .ready binding => pure binding
  | .inspectionFailed => throw (.ledger "provider safety inspection failed")
  | .refused => releasePreclaim i
  | .unavailable => throw (.ledger "provider safety authority is unavailable")

def claimFence (m : Memory) (parent : AgentRun) (component : RagPaidComponent)
    (prepared : PreparedPaidCallBudget) (binding : RagProviderSafetyBinding) (nonce : Nat) : Hmac :=
  authority.sign.dispatchFence {
    component := component
    dispatchCount := 1
    dispatchNonce := nonce
    preparedInputHmac :=
      if component = .queryEmbedding then parent.metadata.retrievalQueryHmac else prepared.estimatorInputHmac
    processInstanceHmac := m.processHmac
    providerSafetySnapshotHmac := binding.providerSafetySnapshotHmac
    retrievalQueryHmac := parent.metadata.retrievalQueryHmac }

/-- `_make_grant` and its registration in the issuing ledger. -/
def issueGrant (i : Nat) (component : RagPaidComponent) (reservedCostUsd : Usd) (fence : Hmac)
    (binding : RagProviderSafetyBinding) : LedgerM CommittedRagDispatchGrant := do
  let w ← get
  let grant : CommittedRagDispatchGrant := {
    serial := w.issued.length
    ledger := i
    component := component
    reservedCostUsd := reservedCostUsd
    dispatchFenceHmac := fence
    providerSafetySnapshotHmac := binding.providerSafetySnapshotHmac }
  set { w with issued := grant :: w.issued }
  modifyMemory i fun m => { m with
    activeGrants := put m.activeGrants component (some grant)
    grantBindings := put m.grantBindings component (some binding) }
  pure grant

def claimComponent (i : Nat) (env : Environment) (component : RagPaidComponent)
    (prepared : PreparedPaidCallBudget) : LedgerM CommittedRagDispatchGrant := do
  runtimeHealthEffect env
  validatePreparedBudget authority prepared
  let m ← getMemory i
  require (m.admissionBudgets component).isSome (.ledger "concrete component budget is unavailable")
  let selected ← selectForUpdate i
  let (parent,rows) ← present selected (.ledger "committed exact-two admission is unavailable")
  require (parent.status = .running && parent.runRecordPhase = .admission &&
    rows.map AgentRunCostComponent.component = componentOrder)
    (.ledger "committed exact-two admission is unavailable")
  require (!componentIsUnused parent component) (.ledger "component is unused by the admitted route")
  require (component ≠ .answerGeneration || querySucceeded parent rows)
    (.ledger "component claim order is invalid")
  let row ← present (rows.find? (isComponent component)) (.ledger "component claim authority is stale")
  require (claimable row component prepared && (m.admissionSnapshots component).isSome)
    (.ledger "component claim authority is stale")
  require (row.authorized.authorizedPolicySnapshotHmac = authority.costPolicy.policyHmac component)
    (.policyUnavailable (unavailableCode component))
  let binding ← requireReady i env
  let fence := claimFence authority m parent component prepared binding env.nonce
  let claimed := onComponent component (claimRow fence m.processHmac) rows
  assignRows claimed
  assignParent { parent with totalChargedCostUsd := totalCharged claimed }
  commit env
  issueGrant i component row.reservedCostUsd fence binding

/-! ## Consuming a grant -/

/-- The `consume_at_dispatch` of the grant, under the closure of the ledger that issued it. -/
def consumeAtDispatch (grant : CommittedRagDispatchGrant) : LedgerM Unit := do
  let w ← get
  require (grant ∉ w.consumed) (.ledger "dispatch grant is already consumed")
  require ((w.memory grant.ledger).activeGrants grant.component = some grant)
    (.ledger "dispatch grant authority is unavailable")
  set { w with consumed := grant :: w.consumed }

def consumeCommittedGrant (i : Nat) (env : Environment) (grant : CommittedRagDispatchGrant) :
    LedgerM Unit := do
  runtimeHealthEffect env
  let m ← getMemory i
  require (m.activeGrants grant.component = some grant) (.ledger "dispatch grant is not store-owned")
  consumeAtDispatch grant

/-- The durable row still carries the claim of the grant. -/
def carriesClaim (row : AgentRunCostComponent) (grant : CommittedRagDispatchGrant) : Bool :=
  row.dispatchState = .dispatching && row.dispatchFenceHmac = some grant.dispatchFenceHmac

def durableDispatch (parent : AgentRun) (rows : List AgentRunCostComponent)
    (grant : CommittedRagDispatchGrant) : Bool :=
  parent.runContractVersion = "rag-run:v2" && parent.status = .running &&
  parent.runRecordPhase = .admission && parent.projectionOwnerFenceHmac = none &&
  rows.map AgentRunCostComponent.component = componentOrder &&
  rows.any fun row => isComponent grant.component row && carriesClaim row grant &&
    row.dispatchCount = 1 && row.attempted

def consumeTransportGrant (i : Nat) (env : Environment) (grant : CommittedRagDispatchGrant) :
    LedgerM Unit := do
  runtimeHealthEffect env
  require env.orderCapability (.value "RAG lock order capability is invalid")
  expireAll i
  let selected ← selectForUpdate i
  let (parent,rows) ← present selected (.ledger "durable dispatch row changed before send")
  require (durableDispatch parent rows grant) (.ledger "durable dispatch row changed before send")
  consumeCommittedGrant i env grant

end ParaWorks.Ledger
