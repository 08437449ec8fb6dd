import ParaWorks.Ledger.Operations

/-!
# Finalizing components and closing runs

The operations that end a component or a run, and the two owners that surround the closing ones.
-/

namespace ParaWorks.Ledger

open Lib

variable (authority : LedgerAuthority)

/-- `_projection_owner_fence`. -/
def projectionOwnerFence (env : Environment) (process : Hmac) : LedgerM Hmac := do
  let digest ← present env.ownerCapability
    (.ledger "PostgreSQL projection owner capability is unavailable")
  pure (authority.sign.projectionOwner {
    advisoryLockIdentityDigest := digest
    ownerNonce := env.nonce
    processInstanceHmac := process })

/-- An assistant failure message joined to the terminal transaction: its result digest, or the
refusal of its writer. -/
abbrev AssistantFinalizer := Option Hmac

def finalErrorIdentity (parent : AgentRun) (outcome : Outcome) (runtime : Hmac) : Hmac :=
  authority.sign.finalError {
    admissionCacheIdentity := parent.cacheKey
    configuredBackend := parent.metadata.configuredBackend
    currentTextHmac := parent.metadata.currentTextHmac
    outcome := outcome
    retrievalQueryHmac := parent.metadata.retrievalQueryHmac
    runtimeCostSnapshotHmac := runtime
    securityScopeFingerprint := parent.metadata.securityScopeFingerprint
    surface := parent.metadata.surface }

/-- The parent `_finalize_failed_run` assigns, once its source window has been read. -/
def failedParent (parent : AgentRun) (rows : List AgentRunCostComponent) (outcome : Outcome)
    (completedAt : Timestamp) (admissionOnly : Bool) (window : SourceWindow) : AgentRun :=
  let phase : RunRecordPhase := if admissionOnly then .admissionOnly else .final
  let runtime := runtimeCostIdentity authority.sign rows (some outcome) phase .failed .terminal
  let terminal := finalErrorIdentity authority parent outcome runtime
  { parent with
    status := .failed
    runRecordPhase := phase
    sourceWindow := window
    cacheKey := if admissionOnly then parent.cacheKey else .finalError terminal
    projectionOwnerFenceHmac := if admissionOnly then none else parent.projectionOwnerFenceHmac
    totalChargedCostUsd := totalCharged rows
    completedAt := some completedAt
    metadata := { parent.metadata with
      outcome := some outcome
      runtimeCostSnapshotHmac := runtime
      terminalIdentityHmac := if admissionOnly then none else some terminal } }

/-- The final-error window of an admitted route; only admission windows have its parts. -/
def finalErrorWindow : SourceWindow → Option SourceWindow
  | .admission _ surface backend => some (.finalError surface backend)
  | _ => none

def completion (env : Environment) (completedAt : Option Timestamp) : Timestamp :=
  completedAt.getD ⟨env.now,true⟩

def appendAssistant (parent : AgentRun) (finalizer : Option AssistantFinalizer) : LedgerM Unit :=
  match finalizer with
  | none => pure ()
  | some result => do
    let hmac ← present result (.ledger "assistant terminal product is unavailable")
    assignParent { parent with metadata := { parent.metadata with ragResultHmac := some hmac } }

/-- `_finalize_failed_run`. The rows have been assigned by the caller. -/
def finalizeFailedRun (env : Environment) (parent : AgentRun) (rows : List AgentRunCostComponent)
    (outcome : Outcome) (completedAt : Option Timestamp) (admissionOnly : Bool)
    (finalizer : Option AssistantFinalizer) : LedgerM Unit := do
  let timestamp := completion env completedAt
  require timestamp.aware (.value "completion timestamp must be timezone-aware")
  let window ← present (if admissionOnly then some parent.sourceWindow else finalErrorWindow parent.sourceWindow)
    (.ledger "admission source window is invalid")
  let failed := failedParent authority parent rows outcome timestamp admissionOnly window
  assignParent failed
  appendAssistant failed finalizer
  commit env

/-! ## Finalizing a dispatched component -/

structure ClassifiedProviderObservation where
  serial : Nat
  component : RagPaidComponent
  classification : RagComponentClassification
  terminalOutcome : Outcome
  providerDispatchStarted : Bool
  providerResponseReceived : Bool
  strictUsage : Option StrictProviderUsage
  actualCostUsd : Option Usd
  safetyAction : RagProviderSafetyAction

inductive OutcomeBasis where
  | actual
  | reserved
  | actualOrReserved
deriving DecidableEq

structure OutcomeRule where
  terminal : Outcome
  started : Bool
  received : Bool
  basis : OutcomeBasis
  action : RagProviderSafetyAction

/-- The matrix of `_validate_outcome`. -/
def outcomeRule (component : RagPaidComponent) : RagComponentClassification → Option OutcomeRule
  | .validatedSuccess => some ⟨.componentSucceeded,true,true,.actual,.unchanged⟩
  | .preSendRefusal => none
  | .responseLessFailure => some
    ⟨if component = .queryEmbedding then .retrieverUnavailable else .modelProviderFailed,
      true,false,.reserved,.unchanged⟩
  | .responseIdentityInvalid => some
    ⟨.providerResponseIdentityInvalid,true,true,.actualOrReserved,.blockRemediation⟩
  | .embeddingPayloadInvalid => some
    ⟨.providerEmbeddingPayloadInvalid,true,true,.actualOrReserved,.blockRemediation⟩
  | .usageContractInvalid => some ⟨.providerSafetyUnavailable,true,true,.reserved,.blockRemediation⟩
  | .usageStorageInvalid => some ⟨.providerSafetyUnavailable,true,true,.reserved,.blockRemediation⟩
  | .knownOverrun => some ⟨.providerUsageOverrun,true,true,.actual,.blockOverrun⟩
  | .structuredOutputInvalid => some ⟨.structuredOutputInvalid,true,true,.actual,.unchanged⟩
  | .citationValidationFailed => some ⟨.citationValidationFailed,true,true,.actual,.unchanged⟩
  | .evidenceValidationFailed => some ⟨.evidenceUnavailable,true,true,.actual,.unchanged⟩

def ClassifiedProviderObservation.follows (o : ClassifiedProviderObservation) (rule : OutcomeRule) : Bool :=
  o.terminalOutcome = rule.terminal && o.providerDispatchStarted = rule.started &&
  o.providerResponseReceived = rule.received && o.safetyAction = rule.action &&
  (rule.basis ≠ .actual || (o.strictUsage.isSome && o.actualCostUsd.isSome)) &&
  (rule.basis ≠ .reserved || !(o.strictUsage.isSome && o.actualCostUsd.isSome)) &&
  o.strictUsage.isSome = o.actualCostUsd.isSome

def validateOutcome (o : ClassifiedProviderObservation) : LedgerM Unit := do
  let rule ← present (outcomeRule o.component o.classification)
    (.value "provider outcome classification is not finalizable")
  require (o.follows rule) (.value "provider outcome classification is inconsistent")

/-- The policy's own charge for the reported usage, which the observation has to state. -/
def expectedActual (o : ClassifiedProviderObservation) : LedgerM (Option Usd) :=
  match o.strictUsage with
  | none => pure none
  | some usage =>
    match RagCostPolicy.chargeActual o.component usage with
    | .error e => throw e
    | .ok expected => do
      require (o.actualCostUsd = some expected) (.value "actual provider cost does not match authority")
      pure (some expected)

/-- Reported usage went past the prepared budget or the authorized cap. -/
def usageOverran (o : ClassifiedProviderObservation) (budget : PreparedPaidCallBudget)
    (expected : Option Usd) : Bool :=
  match o.strictUsage, expected with
  | some usage, some cost =>
    usage.inputTokens > budget.estimatedInputTokens || usage.outputTokens > budget.maximumOutputTokens ||
    cost > budget.reservedCostUsd || RagCostPolicy.usageExceedsAuthorizedCap o.component usage
  | _, _ => false

def settleRow (o : ClassifiedProviderObservation) (overrun : Bool) (row : AgentRunCostComponent) :
    AgentRunCostComponent :=
  { row with
    dispatchState := if o.terminalOutcome = .abandonedUnknown then .abandonedUnknown else .terminal
    terminalOutcome := some o.terminalOutcome
    actualInputTokens := if o.actualCostUsd.isSome then o.strictUsage.map (·.inputTokens) else none
    actualOutputTokens := if o.actualCostUsd.isSome then o.strictUsage.map (·.outputTokens) else none
    chargedCostUsd := o.actualCostUsd.getD row.reservedCostUsd
    chargeBasis := if o.actualCostUsd.isSome then .actual else .reserved
    overrun := o.actualCostUsd.isSome && overrun }

/-- A failed component zeroes every sibling that was not attempted; a success only the unused ones. -/
def zeroSibling (parent : AgentRun) (success : Bool) (row : AgentRunCostComponent) : AgentRunCostComponent :=
  if row.dispatchState = .notAttempted ∧ (success = false ∨ componentIsUnused parent row.component = true)
  then makeTerminalZero row else row

def isClosed (row : AgentRunCostComponent) : Bool :=
  row.dispatchState = .terminal || row.dispatchState = .abandonedUnknown

def pendingParent (parent : AgentRun) (rows : List AgentRunCostComponent) (fence : Hmac) : AgentRun :=
  { parent with
    runRecordPhase := .costFinalizedPendingProjection
    projectionOwnerFenceHmac := some fence
    metadata := { parent.metadata with
      runtimeCostSnapshotHmac := pendingRuntimeCostIdentity authority.sign rows } }

def pendingIdentity (parent : AgentRun) : PendingProjectionIdentity where
  projectionOwnerFenceHmac := parent.projectionOwnerFenceHmac
  securityScopeFingerprint := parent.metadata.securityScopeFingerprint
  runtimeCostSnapshotHmac := parent.metadata.runtimeCostSnapshotHmac

def retireGrant (component : RagPaidComponent) (m : Memory) : Memory :=
  { m with
    activeGrants := put m.activeGrants component none
    grantBindings := put m.grantBindings component none }

/-- The receipts a finalized success leaves in the ledger. -/
def keepReceipt (component : RagPaidComponent) (binding : RagProviderSafetyBinding) (parent : AgentRun)
    (row : AgentRunCostComponent) (m : Memory) : Memory :=
  { m with
    terminalBindings := put m.terminalBindings component (some binding)
    terminalCostRows := put m.terminalCostRows component (some (rowRuntimeComponent row))
    pendingProjectionIdentity :=
      if parent.runRecordPhase = .costFinalizedPendingProjection then some (pendingIdentity parent)
      else m.pendingProjectionIdentity }

/-- The part of `finalize_component` after the durable row has been locked again. -/
def settleComponent (i : Nat) (env : Environment) (grant : CommittedRagDispatchGrant)
    (o : ClassifiedProviderObservation) (binding : RagProviderSafetyBinding) (overrun : Bool)
    (parent : AgentRun) (rows : List AgentRunCostComponent) (row : AgentRunCostComponent) :
    LedgerM Unit := do
  let success : Bool := o.classification = .validatedSuccess
  let settled := onComponent grant.component (settleRow o overrun) rows
  assignRows settled
  flush
  let totalled := { parent with totalChargedCostUsd := totalCharged settled }
  assignParent totalled
  let siblings := settled.map (zeroSibling parent success)
  assignRows siblings
  if siblings.all isClosed then
    if success then do
      let owner ← present (siblings.findSome? (·.processInstanceHmac))
        (.ledger "projection owner process is unavailable")
      assignParent { totalled with runRecordPhase := .costFinalizedPendingProjection }
      let fence ← projectionOwnerFence authority env owner
      let pending := pendingParent authority totalled siblings fence
      assignParent pending
      commit env
      modifyMemory i fun m => retireGrant grant.component
        (keepReceipt grant.component binding pending (settleRow o overrun row) m)
    else do
      modifyMemory i (retireGrant grant.component)
      finalizeFailedRun authority env totalled siblings o.terminalOutcome none false none
  else do
    commit env
    modifyMemory i fun m => retireGrant grant.component
      (if success then keepReceipt grant.component binding totalled (settleRow o overrun row) m else m)

/-- The provider-safety effect of an observation; only an overrun block is recorded. -/
def safetyEffect (env : Environment) (o : ClassifiedProviderObservation) : LedgerM Unit := do
  require env.safetyCompletes (.ledger "provider safety finalization did not complete")
  if o.safetyAction = .blockOverrun then
    modify fun w => w.record (.overrunBlocked o.component)
  else pure ()

def finalizeComponent (i : Nat) (env : Environment) (grant : CommittedRagDispatchGrant)
    (o : ClassifiedProviderObservation) : LedgerM Unit := do
  runtimeHealthEffect env
  require (o.component = grant.component) (.value "provider outcome is invalid")
  let w ← get
  require (o.serial ∉ w.consumedObservations) (.value "classified provider observation is unavailable")
  set { w with consumedObservations := o.serial :: w.consumedObservations }
  let m ← getMemory i
  require (m.activeGrants grant.component = some grant) (.ledger "dispatch grant is not active")
  require (grant ∈ w.consumed) (.ledger "dispatch grant was not consumed by transport")
  validateOutcome o
  let previewed ← peekRun i
  let preview ← present (previewed.bind fun run => run.rows.find? (isComponent grant.component))
    (.ledger "dispatch row is not finalizable")
  require (carriesClaim preview grant) (.ledger "dispatch row is not finalizable")
  require o.providerDispatchStarted (.value "claimed provider component must be attempted")
  require (o.actualCostUsd.isSome = o.strictUsage.isSome)
    (.value "actual cost and strict usage must appear together")
  let expected ← expectedActual o
  let budget ← present (m.admissionBudgets grant.component) (.ledger "prepared provider budget is unavailable")
  let overrun := usageOverran o budget expected
  require (overrun = decide (o.classification = .knownOverrun))
    (.value "provider overrun classification is inconsistent")
  let binding ← present (m.grantBindings grant.component) (.ledger "provider safety binding is unavailable")
  require (m.admissionSnapshots grant.component).isSome (.ledger "provider safety binding is unavailable")
  safetyEffect env o
  modify fun w => w.record (.observed grant o.strictUsage)
  expireAll i
  let selected ← selectForUpdate i
  let (parent,rows) ← present selected (.ledger "dispatch row changed before finalization")
  let row ← present (rows.find? (isComponent grant.component)) (.ledger "dispatch row changed before finalization")
  require (carriesClaim row grant && row.reservedCostUsd = preview.reservedCostUsd)
    (.ledger "dispatch row changed before finalization")
  settleComponent authority i env grant o binding overrun parent rows row

/-- `load_pending_projection`: the request reads its own committed phase-1 receipt. -/
def loadPendingProjection (i : Nat) (env : Environment) : LedgerM PendingProjectionIdentity := do
  runtimeHealthEffect env
  let m ← getMemory i
  let expected ← present m.pendingProjectionIdentity
    (.ledger "request-owned pending projection is unavailable")
  let (parent,rows) ← lockedRun i
  require (pendingIdentity parent = expected &&
    pendingRuntimeCostIdentity authority.sign rows = expected.runtimeCostSnapshotHmac &&
    parent.status = .running && parent.runRecordPhase = .costFinalizedPendingProjection &&
    parent.completedAt = none && rows.all (fun row => row.dispatchState = .terminal) &&
    parent.totalChargedCostUsd = totalCharged rows) (.ledger "committed pending projection changed")
  pure expected

/-! ## The owners of closing operations -/

/-- `_safe_pending_owner`: a body after a paid component runs inside the finalization barrier. -/
def safePendingOwner (i : Nat) (env : Environment) (embeddingOnly : Bool) (body : LedgerM Unit) :
    LedgerM Unit := do
  let m ← getMemory i
  require (!embeddingOnly || (m.terminalBindings .queryEmbedding).isSome)
    (.ledger "terminal paid authority is unavailable")
  require (!embeddingOnly || env.safetyBarrier) (.ledger "provider safety binding changed")
  require env.projectionLock (.ledger "projection owner authority is unavailable")
  body
  require env.ownerExit (.ledger "provider safety binding changed")

/-- `_terminal_failure_owner` reports every failure of its body as a persistence failure. -/
def terminalFailureOwner (env : Environment) (requireSafetyAuthority : Bool) (body : LedgerM Unit) :
    LedgerM Unit :=
  tryCatch (do
    require (!requireSafetyAuthority || env.safetyBarrier) (.ledger "failure accounting authority changed")
    require env.projectionLock (.ledger "projection owner authority is unavailable")
    body
    require env.ownerExit (.ledger "failure accounting authority changed"))
  fun e => match e with
    | .persistence message => throw (.persistence message)
    | _ => throw (.persistence "terminal failure persistence unavailable")

/-! ## Pending projections -/

def isUndispatched (row : AgentRunCostComponent) : Bool :=
  row.dispatchState = .notAttempted && !row.attempted && row.dispatchCount = 0 &&
  row.chargedCostUsd = 0 && row.dispatchFenceHmac = none

/-- The metadata a cache hit has to agree with before it is merged. -/
structure CacheHit where
  identity : AnswerCacheIdentity
  renderedInputHmac : Hmac
  answerModelConfigSnapshotHmac : Hmac
  preparedModelInfluenceObservationHmac : Hmac
  securityScopeFingerprint : Hmac

def cacheBindingMatches (metadata : RunMetadata) (hit : CacheHit) : Bool :=
  metadata.answerFinalization = none && metadata.renderedInputHmac = some hit.renderedInputHmac &&
  metadata.answerModelConfigSnapshotHmac = some hit.answerModelConfigSnapshotHmac &&
  metadata.preparedModelInfluenceObservationHmac = some hit.preparedModelInfluenceObservationHmac &&
  metadata.securityScopeFingerprint = hit.securityScopeFingerprint

def mergeCacheIdentity (parent : AgentRun) (hit : CacheHit) : AgentRun :=
  { parent with metadata := { parent.metadata with answerFinalization := some hit.identity } }

/-- The durable answer row is the refused grant's own claim, never consumed. -/
def evidenceRefusalProved (m : Memory) (consumed : List CommittedRagDispatchGrant)
    (answer : AgentRunCostComponent) (grant : CommittedRagDispatchGrant) : Bool :=
  m.evidenceRefusedGrant = some grant && grant ∉ consumed && carriesClaim answer grant &&
  answer.attempted && answer.dispatchCount = 1 && answer.chargedCostUsd = grant.reservedCostUsd &&
  answer.reservedCostUsd = grant.reservedCostUsd && answer.chargeBasis = .reserved &&
  answer.processInstanceHmac = some m.processHmac && m.activeGrants .answerGeneration = none

/-- The rows a pending transition zeroes. -/
def pendingZeroes (embeddingOnly : Bool) (row : AgentRunCostComponent) : Bool :=
  !embeddingOnly || row.component = .answerGeneration

def safePendingAvailable (parent : AgentRun) (rows : List AgentRunCostComponent)
    (embeddingOnly refused : Bool) : Bool :=
  parent.status = .running && parent.runRecordPhase = .admission &&
  parent.projectionOwnerFenceHmac = none && parent.completedAt = none &&
  rows.all fun row => !pendingZeroes embeddingOnly row ||
    (refused && row.component = .answerGeneration) || isUndispatched row

def terminalEmbeddingAvailable (m : Memory) (parent : AgentRun) (query : AgentRunCostComponent) : Bool :=
  parent.metadata.configuredBackend = .pgvector && query.dispatchState = .terminal &&
  query.terminalOutcome = some .componentSucceeded && query.attempted && query.dispatchCount = 1 &&
  query.chargeBasis = .actual && !query.overrun && query.processInstanceHmac = some m.processHmac

def applyCacheHit (parent : AgentRun) (cache : Option CacheHit) : LedgerM AgentRun :=
  match cache with
  | none => pure parent
  | some hit => do
    require (cacheBindingMatches parent.metadata hit) (.ledger "cache preparation binding changed")
    assignParent (mergeCacheIdentity parent hit)
    pure (mergeCacheIdentity parent hit)

structure PendingGenerations where
  corpusGeneration : Nat
  vectorIndexGeneration : Option Nat

/-- The retired budgets of a run that will dispatch no answer. -/
def retireAnswer (m : Memory) : Memory :=
  { m with
    answerReservation := none
    admissionBudgets := put m.admissionBudgets .answerGeneration none }

def pendingTotals (parent : AgentRun) (rows : List AgentRunCostComponent) : AgentRun :=
  { parent with
    runRecordPhase := .costFinalizedPendingProjection
    totalChargedCostUsd := totalCharged rows
    estimatedCostUsd := totalReserved rows }

/-- The body of `_commit_safe_pending` under its owner. -/
def safePendingBody (i : Nat) (env : Environment) (embeddingOnly : Bool)
    (refusedGrant : Option CommittedRagDispatchGrant) (cache : Option CacheHit) : LedgerM Unit := do
  let (locked,rows) ← lockedRun i
  let query ← present (rows.find? (isComponent .queryEmbedding)) (.ledger "exact-two RAG run is unavailable")
  let answer ← present (rows.find? (isComponent .answerGeneration)) (.ledger "exact-two RAG run is unavailable")
  let parent ← applyCacheHit locked cache
  let w ← get
  let m ← getMemory i
  require (refusedGrant.all (evidenceRefusalProved m w.consumed answer))
    (.ledger "evidence refusal proof is unavailable")
  require (safePendingAvailable parent rows embeddingOnly refusedGrant.isSome)
    (.ledger "safe pending transition is unavailable")
  require (!embeddingOnly || terminalEmbeddingAvailable m parent query)
    (.ledger "terminal embedding cost is unavailable")
  require (!embeddingOnly || terminalCostRowUnchanged m query) (.ledger "terminal component cost changed")
  let zeroed := rows.map fun row => if pendingZeroes embeddingOnly row then makeTerminalZero row else row
  assignRows zeroed
  let totalled := pendingTotals parent zeroed
  assignParent totalled
  let fence ← projectionOwnerFence authority env m.processHmac
  let pending := pendingParent authority totalled zeroed fence
  assignParent pending
  modifyMemory i retireAnswer
  commit env
  modifyMemory i fun m => { m with
    evidenceRefusedGrant := if refusedGrant.isSome then none else m.evidenceRefusedGrant
    grantBindings := if refusedGrant.isSome then put m.grantBindings .answerGeneration none else m.grantBindings
    pendingProjectionIdentity := some (pendingIdentity pending) }

def commitSafePending (i : Nat) (env : Environment) (generations : PendingGenerations)
    (embeddingOnly : Bool) (refusedGrant : Option CommittedRagDispatchGrant) (cache : Option CacheHit) :
    LedgerM Unit := do
  require (!embeddingOnly || generations.vectorIndexGeneration.isSome)
    (.value "pending projection generation is invalid")
  let m ← getMemory i
  require ((m.admissionSnapshots .queryEmbedding).isSome && (m.admissionSnapshots .answerGeneration).isSome)
    (.ledger "request-owned admission is unavailable")
  safePendingOwner i env embeddingOnly (safePendingBody authority i env embeddingOnly refusedGrant cache)

def commitProviderFreePending (i : Nat) (env : Environment) (generations : PendingGenerations) :
    LedgerM Unit := do
  runtimeHealthEffect env
  commitSafePending authority i env generations false none none

def commitEmbeddingOnlyPending (i : Nat) (env : Environment) (generations : PendingGenerations) :
    LedgerM Unit := do
  runtimeHealthEffect env
  commitSafePending authority i env generations true none none

/-- `valid` is the verdict of `validate_answer_cache_hit` and the model check on the hit. -/
def commitAnswerCachePending (i : Nat) (env : Environment) (generations : PendingGenerations)
    (valid : Bool) (hit : CacheHit) (embeddingOnly : Bool) : LedgerM Unit := do
  runtimeHealthEffect env
  require valid (.value "cache hit identity or expiry changed")
  commitSafePending authority i env generations embeddingOnly none (some hit)

/-- `_defer_answer_evidence_refusal`. -/
def deferAnswerEvidenceRefusal (i : Nat) (grant : CommittedRagDispatchGrant) : LedgerM Unit := do
  let w ← get
  let m ← getMemory i
  require (grant.component = .answerGeneration && grant ∉ w.consumed &&
    m.activeGrants grant.component = some grant) (.ledger "evidence refusal grant is unavailable")
  modifyMemory i fun m => { m with
    evidenceRefusedGrant := some grant
    activeGrants := put m.activeGrants grant.component none }

def commitAnswerEvidenceChangedPending (i : Nat) (env : Environment)
    (grant : CommittedRagDispatchGrant) (generations : PendingGenerations) : LedgerM Unit := do
  runtimeHealthEffect env
  let m ← getMemory i
  require (m.evidenceRefusedGrant = some grant) (.ledger "evidence refusal proof is unavailable")
  let w ← get
  require (!(w.db.any fun run => w.unit.any fun u => u.session = i && u.dirty run))
    (.ledger "evidence refusal has uncommitted writes")
  rollback i
  commitSafePending authority i env generations (m.terminalBindings .queryEmbedding).isSome (some grant) none

/-! ## Shadow runs -/

structure ShadowComparison where
  outcome : Outcome
  configuredBackend : RagRetrievalBackend
  securityScopeFingerprint : Hmac
  comparisonHmac : Hmac

/-- The comparison is passed in, or built by a factory under the owner's locks from a snapshot that
is checked before and after they are taken. -/
inductive ShadowRequest where
  | immediate (outcome : Outcome) (comparison : Option ShadowComparison)
  | deferred (comparison : Option ShadowComparison) (snapshotCurrent : Bool)

def ShadowRequest.valid : ShadowRequest → Bool
  | immediate outcome comparison =>
    match outcome with
    | .shadowMatch | .shadowMismatch =>
      comparison.any fun c => c.outcome = outcome && c.configuredBackend = .pgvector
    | .servingIndexNotReady => comparison.isNone
    | _ => false
  | deferred _ _ => true

/-- The outcome and comparison under the owner. -/
def ShadowRequest.resolve : ShadowRequest → LedgerM (Outcome × Option ShadowComparison)
  | immediate outcome comparison => pure (outcome,comparison)
  | deferred factory snapshotCurrent => do
    let comparison ← present factory (.ledger "shadow comparison factory returned invalid data")
    require (comparison.configuredBackend = .pgvector)
      (.ledger "shadow comparison factory returned invalid data")
    require snapshotCurrent (.ledger "shadow comparison generation snapshot changed")
    pure (comparison.outcome,some comparison)

def shadowPendingUnchanged (m : Memory) (parent : AgentRun) (query answer : AgentRunCostComponent)
    (comparison : Option ShadowComparison) : Bool :=
  m.pendingProjectionIdentity = some (pendingIdentity parent) && parent.status = .running &&
  parent.runRecordPhase = .costFinalizedPendingProjection && parent.completedAt = none &&
  parent.metadata.mode = .shadow && parent.metadata.configuredBackend = .pgvector &&
  query.dispatchState = .terminal && query.terminalOutcome = some .componentSucceeded &&
  query.attempted && query.dispatchCount = 1 && answer.dispatchState = .terminal &&
  !answer.attempted && answer.dispatchCount = 0 && answer.chargedCostUsd = 0 &&
  comparison.all fun c => c.securityScopeFingerprint = parent.metadata.securityScopeFingerprint

def shadowRoute : SourceWindow → Option (RagSurface × RagRetrievalBackend)
  | .admission .shadow surface backend => some (surface,backend)
  | _ => none

def admissionIdentity? : CacheKey → Option Hmac
  | .admission identity => some identity
  | _ => none

def completedParent (parent : AgentRun) (rows : List AgentRunCostComponent) (outcome : Outcome)
    (comparison : Option ShadowComparison) (surface : RagSurface) (backend : RagRetrievalBackend)
    (admissionHmac : Hmac) (now : Int) : AgentRun :=
  let runtime := runtimeCostIdentity authority.sign rows (some outcome) .final .complete .terminal
  let terminal := authority.sign.finalShadow {
    admissionCacheIdentityHmac := admissionHmac
    outcome := outcome
    runtimeCostSnapshotHmac := runtime
    surface := surface }
  { parent with
    status := .complete
    runRecordPhase := .final
    sourceWindow := .shadow surface backend
    cacheKey := .finalShadow terminal
    projectionOwnerFenceHmac := none
    completedAt := some ⟨now,true⟩
    metadata := { parent.metadata with
      outcome := some outcome
      runtimeCostSnapshotHmac := runtime
      shadowComparisonHmac := comparison.map (·.comparisonHmac)
      terminalIdentityHmac := some terminal } }

def forgetPending (m : Memory) : Memory :=
  { retireAnswer m with pendingProjectionIdentity := none }

/-- `_finalize_shadow_run_locked`. -/
def finalizeShadowRunLocked (i : Nat) (env : Environment) (outcome : Outcome)
    (comparison : Option ShadowComparison) : LedgerM Unit := do
  let (parent,rows) ← lockedRun i
  let query ← present (rows.find? (isComponent .queryEmbedding)) (.ledger "exact-two RAG run is unavailable")
  let answer ← present (rows.find? (isComponent .answerGeneration)) (.ledger "exact-two RAG run is unavailable")
  let m ← getMemory i
  require (shadowPendingUnchanged m parent query answer comparison) (.ledger "shadow pending projection changed")
  require (terminalCostRowUnchanged m query) (.ledger "terminal component cost changed")
  let (surface,backend) ← present (shadowRoute parent.sourceWindow)
    (.ledger "shadow admission source window is invalid")
  let admissionHmac ← present (admissionIdentity? parent.cacheKey)
    (.value "identity must be a lowercase SHA-256 HMAC")
  require (comparison.isNone || env.auditAppends) (.ledger "shadow audit is unavailable")
  assignParent (completedParent authority parent rows outcome comparison surface backend admissionHmac env.now)
  commit env
  modifyMemory i forgetPending

/-- The one operation that rolls its session back whenever it raises. -/
def finalizeShadowRun (i : Nat) (env : Environment) (request : ShadowRequest) : LedgerM Unit := do
  runtimeHealthEffect env
  require request.valid (.value "shadow finalization is invalid")
  tryCatch
    (safePendingOwner i env true (do
      let (outcome,comparison) ← request.resolve
      finalizeShadowRunLocked authority i env outcome comparison))
    fun e => do
      rollback i
      throw e

/-! ## Failure closures -/

def interComponentOutcome : Outcome → Bool
  | .budgetExceeded | .retrieverNotConfigured | .retrieverUnavailable | .runtimeVersionUnavailable
  | .modelUnavailable | .modelProviderFailed | .providerSafetyUnavailable | .structuredOutputInvalid
  | .citationValidationFailed | .persistenceFailed | .unexpectedInternalError => true
  | _ => false

/-- Components this ledger holds a paid receipt for. -/
def isPaid (m : Memory) (component : RagPaidComponent) : Bool :=
  (m.terminalBindings component).isSome

def interComponentAvailable (m : Memory) (parent : AgentRun) : Bool :=
  parent.status = .running && parent.completedAt = none &&
  (parent.runRecordPhase = .admission || parent.runRecordPhase = .costFinalizedPendingProjection) &&
  componentOrder.all fun c => (m.activeGrants c).isNone

/-- A pending projection is closed only by its owner, unchanged. -/
def pendingUnchanged (m : Memory) (parent : AgentRun) (rows : List AgentRunCostComponent) : Bool :=
  parent.runRecordPhase ≠ .costFinalizedPendingProjection ||
  m.pendingProjectionIdentity = some (pendingIdentity parent) &&
  m.pendingProjectionIdentity.any fun p =>
    pendingRuntimeCostIdentity authority.sign rows = p.runtimeCostSnapshotHmac

def paidReceiptAvailable (m : Memory) (component : RagPaidComponent) : Bool :=
  (m.terminalBindings component).any fun b => m.admissionSnapshots component = some b.policySnapshot

def isUnpaid (row : AgentRunCostComponent) : Bool :=
  !row.attempted && row.dispatchCount = 0 &&
  (row.dispatchState = .notAttempted || row.dispatchState = .terminal) &&
  row.chargedCostUsd = 0 && row.dispatchFenceHmac = none

/-- One round of the checking loop over the rows. -/
def checkInterComponentRow (m : Memory) (row : AgentRunCostComponent) : LedgerM Unit :=
  if isPaid m row.component then do
    require (paidReceiptAvailable m row.component) (.ledger "terminal paid receipt is unavailable")
    require (terminalCostRowUnchanged m row) (.ledger "terminal component cost changed")
  else require (isUnpaid row) (.ledger "undispatched component changed")

def finalizeInterComponentFailure (i : Nat) (env : Environment) (outcome : Outcome)
    (finalizer : Option AssistantFinalizer) : LedgerM Unit := do
  runtimeHealthEffect env
  require (interComponentOutcome outcome) (.value "inter-component failure outcome is invalid")
  let m ← getMemory i
  require ((m.admissionSnapshots .queryEmbedding).isSome && (m.admissionSnapshots .answerGeneration).isSome)
    (.ledger "request-owned admission is unavailable")
  terminalFailureOwner env (componentOrder.any (isPaid m) || outcome = .providerSafetyUnavailable) (do
    let (parent,rows) ← lockedRun i
    require (interComponentAvailable m parent) (.ledger "inter-component terminalization is unavailable")
    require (pendingUnchanged authority m parent rows) (.ledger "committed pending projection changed")
    rows.forM (checkInterComponentRow m)
    let zeroed := rows.map fun row => if isPaid m row.component then row else makeTerminalZero row
    assignRows zeroed
    let released := { parent with projectionOwnerFenceHmac := none }
    assignParent released
    modifyMemory i forgetPending
    finalizeFailedRun authority env released zeroed outcome none false finalizer)

/-- `finalize_projectionless_failure`: an admission is closed before any paid dispatch. -/
def finalizeProjectionlessFailure (i : Nat) (env : Environment) (outcome : Outcome)
    (completedAt : Option Timestamp) : LedgerM Unit := do
  runtimeHealthEffect env
  require (outcome = .abandonedUnknown) (.value "admission-only outcome must be abandoned_unknown")
  let selected ← selectForUpdate i
  let (parent,rows) ← present selected (.ledger "projectionless terminal-zero closure is unavailable")
  require (parent.status = .running && parent.runRecordPhase = .admission &&
    rows.map AgentRunCostComponent.component = componentOrder &&
    rows.all fun row => row.dispatchState = .notAttempted)
    (.ledger "projectionless terminal-zero closure is unavailable")
  let timestamp := completion env completedAt
  require timestamp.aware (.value "completion timestamp must be timezone-aware")
  let zeroed := rows.map makeTerminalZero
  assignRows zeroed
  assignParent { parent with
    status := .failed
    runRecordPhase := .admissionOnly
    totalChargedCostUsd := 0
    completedAt := some timestamp
    metadata := { parent.metadata with
      runtimeCostSnapshotHmac :=
        runtimeCostIdentity authority.sign zeroed (some outcome) .admissionOnly .failed .terminal
      outcome := some outcome } }
  commit env

def preSendOutcome : Outcome → Bool
  | .providerSafetyUnavailable | .retrieverUnavailable | .modelProviderFailed | .servingIndexNotReady => true
  | _ => false

def preSendAvailable (parent : AgentRun) (rows : List AgentRunCostComponent) : Bool :=
  parent.status = .running && parent.runRecordPhase = .admission &&
  rows.all fun row => row.dispatchState = .notAttempted

/-- The rows are zeroed before the timestamp is looked at. -/
def finalizePreSendRefusal (i : Nat) (env : Environment) (outcome : Outcome)
    (completedAt : Option Timestamp) : LedgerM Unit := do
  runtimeHealthEffect env
  require (preSendOutcome outcome) (.value "pre-send refusal is invalid")
  let (parent,rows) ← lockedRun i
  require (preSendAvailable parent rows) (.ledger "pre-send terminal-zero closure is unavailable")
  let zeroed := rows.map makeTerminalZero
  assignRows zeroed
  finalizeFailedRun authority env parent zeroed outcome completedAt false none

/-- An open row, dispatching or not, is zeroed by a cancellation. -/
def cancelRow (row : AgentRunCostComponent) : AgentRunCostComponent :=
  if row.dispatchState = .dispatching ∨ row.dispatchState = .notAttempted then makeTerminalZero row else row

def cancelOutcome : Outcome → Bool
  | .providerSafetyUnavailable | .evidenceUnavailable => true
  | _ => false

def cancelClaimBeforeDispatch (i : Nat) (env : Environment) (grant : CommittedRagDispatchGrant)
    (outcome : Outcome) : LedgerM Unit := do
  let w ← get
  let m ← getMemory i
  require (m.activeGrants grant.component = some grant && grant ∉ w.consumed && cancelOutcome outcome)
    (.ledger "pre-send claimed refusal is unavailable")
  let (parent,rows) ← lockedRun i
  require (parent.status = .running && parent.runRecordPhase = .admission)
    (.ledger "pre-send claimed refusal parent is unavailable")
  let selected ← present (rows.find? (isComponent grant.component))
    (.ledger "pre-send claimed refusal row is unavailable")
  require (carriesClaim selected grant) (.ledger "pre-send claimed refusal row is unavailable")
  let cancelled := rows.map cancelRow
  assignRows cancelled
  modifyMemory i (retireGrant grant.component)
  finalizeFailedRun authority env parent cancelled outcome none false none

/-! ## Recovery -/

/-- The process of a row whose call may still be under way, or whose run never went on. -/
def attemptingProcess (row : AgentRunCostComponent) : Option Hmac :=
  if row.dispatchState = .dispatching ∨
    (row.dispatchState = .terminal ∧ row.attempted = true ∧ row.dispatchCount = 1)
  then row.processInstanceHmac else none

/-- The attestation is expected of the one process in `dead_processes`. -/
def expectedAttestation (rows : List AgentRunCostComponent) : Option Hmac :=
  match rows.filterMap attemptingProcess with
  | [] => none
  | process :: others =>
    if others.all fun other => other = process then some (authority.sign.deadProcessAttestation process)
    else none

/-- Some call was left under way, or the run stopped between its two calls. -/
def isIncomplete (rows : List AgentRunCostComponent) : Bool :=
  rows.any (fun row => row.dispatchState = .dispatching) ||
  (rows.any (fun row => row.dispatchState = .terminal && row.attempted) &&
    rows.any (fun row => row.dispatchState = .notAttempted))

def abandonRow (row : AgentRunCostComponent) : AgentRunCostComponent :=
  match row.dispatchState with
  | .dispatching =>
    { row with dispatchState := .abandonedUnknown, terminalOutcome := some .abandonedUnknown }
  | .notAttempted => makeTerminalZero row
  | _ => row

structure RecoveryAuthority where
  projectionOwnerFenceHmac : Option String
  expectedRuntimeCostSnapshotHmac : Option String
  deadProcessAttestationHmac : Option String
  completedAt : Option Timestamp

/-- `stored or ''` against a supplied string. -/
def digestMatches (stored : Option Hmac) (supplied : Option String) : Bool :=
  supplied.any fun s => (stored.map Hmac.text).getD "" = s

def deadProcessRecovery (parent : AgentRun) (rows : List AgentRunCostComponent)
    (request : RecoveryAuthority) : Bool :=
  parent.runRecordPhase = .admission && isIncomplete rows && request.projectionOwnerFenceHmac = none &&
  (expectedAttestation authority rows).any fun a => request.deadProcessAttestationHmac = some a.text

def retireAllGrants (m : Memory) : Memory :=
  { m with activeGrants := fun _ => none, grantBindings := fun _ => none }

/-- `recover_incomplete_run`: a dead dispatch or projection owner is never dispatched again. -/
def recoverIncompleteRun (i : Nat) (env : Environment) (request : RecoveryAuthority) : LedgerM Unit := do
  let (parent,rows) ← lockedRun i
  require (parent.status = .running) (.ledger "incomplete RAG run is unavailable")
  if parent.runRecordPhase = .costFinalizedPendingProjection then do
    require (digestMatches parent.projectionOwnerFenceHmac request.projectionOwnerFenceHmac)
      (.ledger "projection owner fence is stale")
    require (digestMatches (some parent.metadata.runtimeCostSnapshotHmac) request.expectedRuntimeCostSnapshotHmac &&
      digestMatches (some (pendingRuntimeCostIdentity authority.sign rows)) request.expectedRuntimeCostSnapshotHmac)
      (.ledger "pending projection cost snapshot changed")
    require (rows.all fun row => row.dispatchState = .terminal)
      (.ledger "pending projection children are incomplete")
    modifyMemory i retireAllGrants
    finalizeFailedRun authority env parent rows .persistenceFailed request.completedAt false none
  else do
    require (deadProcessRecovery authority parent rows request)
      (.ledger "reviewed dead-process recovery authority is unavailable")
    let abandoned := rows.map abandonRow
    assignRows abandoned
    modifyMemory i retireAllGrants
    finalizeFailedRun authority env parent abandoned .abandonedUnknown request.completedAt true none

/-- `pending_projection_recovery_snapshot`: fresh phase-1 identities, read without a lock. -/
def pendingProjectionRecoverySnapshot (i : Nat) : LedgerM (Hmac × Hmac) := do
  expireAll i
  let seen ← peekRun i
  let run ← present seen (.ledger "pending projection recovery is unavailable")
  require (run.parent.status = .running &&
    run.parent.runRecordPhase = .costFinalizedPendingProjection &&
    run.rows.map AgentRunCostComponent.component = componentOrder &&
    run.rows.all fun row => row.dispatchState = .terminal)
    (.ledger "pending projection recovery is unavailable")
  let fence ← present run.parent.projectionOwnerFenceHmac (.ledger "pending projection recovery is unavailable")
  require (pendingRuntimeCostIdentity authority.sign run.rows = run.parent.metadata.runtimeCostSnapshotHmac)
    (.ledger "pending projection cost snapshot changed")
  pure (fence,run.parent.metadata.runtimeCostSnapshotHmac)

/-- The candidates `recover_incomplete_shadow_runs` selects. -/
def isShadowCandidate (run : Run) : Bool :=
  run.parent.status = .running && run.parent.runRecordPhase = .costFinalizedPendingProjection &&
  match run.parent.sourceWindow with
  | .admission .shadow _ .pgvector => true
  | _ => false

/-- `recover_incomplete_shadow_runs`, for this run as a candidate. -/
def recoverIncompleteShadowRuns (i : Nat) (env : Environment) : LedgerM Unit := do
  runtimeHealthEffect env
  expireAll i
  let seen ← peekRun i
  if seen.any isShadowCandidate then
    terminalFailureOwner env true (do
      let (fence,runtime) ← pendingProjectionRecoverySnapshot authority i
      recoverIncompleteRun authority i env {
        projectionOwnerFenceHmac := some fence.text
        expectedRuntimeCostSnapshotHmac := some runtime.text
        deadProcessAttestationHmac := none
        completedAt := none })
  else pure ()

end ParaWorks.Ledger
