import Mathlib

/-!
# The durable records of one RAG run

A run is one `AgentRun` row and its cost component rows. Amounts are micro-dollars: every
`Decimal` the ledger stores is quantised to six places.
-/

namespace ParaWorks.Ledger

/-- Micro-dollars. -/
abbrev Usd := Nat

def isLowerHmac (value : String) : Bool :=
  value.length = 64 && value.toList.all fun char => "0123456789abcdef".toList.contains char

/-- A lowercase SHA-256 HMAC, as `require_lower_hmac` accepts it. -/
structure Hmac where
  text : String
  lower : isLowerHmac text = true
deriving DecidableEq

def requireLowerHmac (value : String) : Option Hmac :=
  if h : isLowerHmac value = true then some ⟨value,h⟩ else none

inductive RagPaidComponent where
  | queryEmbedding
  | answerGeneration
deriving DecidableEq, Repr

def componentOrder : List RagPaidComponent := [.queryEmbedding,.answerGeneration]

inductive DispatchState where
  | notAttempted
  | dispatching
  | terminal
  | abandonedUnknown
deriving DecidableEq, Repr

inductive ChargeBasis where
  | zero
  | actual
  | reserved
deriving DecidableEq, Repr

inductive RagSurface where
  | ask
  | search
  | assistant
deriving DecidableEq, Repr

inductive RagMode where
  | shadow
  | enforce
deriving DecidableEq, Repr

inductive RagCutoverStage where
  | none
  | ask
  | search
  | assistant
deriving DecidableEq, Repr

inductive RagRetrievalBackend where
  | keyword
  | pgvector
deriving DecidableEq, Repr

inductive QueryContextVersion where
  | directQueryV1
  | assistantContextV1
deriving DecidableEq, Repr

inductive RunStatus where
  | running
  | complete
  | failed
deriving DecidableEq, Repr

inductive RunRecordPhase where
  | admission
  | costFinalizedPendingProjection
  | final
  | admissionOnly
deriving DecidableEq, Repr

inductive RagComponentClassification where
  | validatedSuccess
  | preSendRefusal
  | responseLessFailure
  | responseIdentityInvalid
  | embeddingPayloadInvalid
  | usageContractInvalid
  | usageStorageInvalid
  | knownOverrun
  | structuredOutputInvalid
  | citationValidationFailed
  | evidenceValidationFailed
deriving DecidableEq, Repr

inductive RagProviderSafetyAction where
  | unchanged
  | blockOverrun
  | blockRemediation
deriving DecidableEq, Repr

/-- Terminal outcomes of a component and of a run. -/
inductive Outcome where
  | componentSucceeded
  | retrieverUnavailable
  | modelProviderFailed
  | providerResponseIdentityInvalid
  | providerEmbeddingPayloadInvalid
  | providerUsageOverrun
  | providerSafetyUnavailable
  | structuredOutputInvalid
  | citationValidationFailed
  | evidenceUnavailable
  | abandonedUnknown
  | budgetExceeded
  | retrieverNotConfigured
  | runtimeVersionUnavailable
  | modelUnavailable
  | persistenceFailed
  | unexpectedInternalError
  | servingIndexNotReady
  | shadowMatch
  | shadowMismatch
deriving DecidableEq, Repr

/-- `source_window`: `rag-v2:admission:{mode}:{surface}:{backend}` before the run ends, and the
two terminal windows the ledger writes. -/
inductive SourceWindow where
  | admission (mode : RagMode) (surface : RagSurface) (backend : RagRetrievalBackend)
  | shadow (surface : RagSurface) (backend : RagRetrievalBackend)
  | finalError (surface : RagSurface) (backend : RagRetrievalBackend)
deriving DecidableEq, Repr

/-- Only shadow over keyword retrieval is missing from `ADMISSION_SOURCE_WINDOWS`. -/
def admissionSourceWindow (mode : RagMode) (surface : RagSurface) (backend : RagRetrievalBackend) :
    Option SourceWindow :=
  if mode = .shadow ∧ backend = .keyword then none else some (.admission mode surface backend)

inductive CacheKey where
  | admission (identity : Hmac)
  | finalShadow (identity : Hmac)
  | finalError (identity : Hmac)
deriving DecidableEq

structure Timestamp where
  micros : Int
  aware : Bool
deriving DecidableEq, Repr

structure AuthorizedProviderPolicySnapshot where
  component : RagPaidComponent
  provider : String
  model : String
  authorizedModelConfigVersion : String
  authorizedModelConfigSnapshotHmac : Hmac
  authorizedCostPolicyVersion : String
  authorizedTokenEstimatorVersion : String
  authorizedPolicySnapshotHmac : Hmac
deriving DecidableEq

structure RagProviderSafetyBinding where
  policySnapshot : AuthorizedProviderPolicySnapshot
  globalSafetyGeneration : Nat
  providerSafetySnapshotHmac : Hmac
deriving DecidableEq

structure AgentRunCostComponent where
  component : RagPaidComponent
  dispatchState : DispatchState
  dispatchFenceHmac : Option Hmac
  processInstanceHmac : Option Hmac
  attempted : Bool
  dispatchCount : Nat
  reservedInputTokens : Nat
  reservedOutputTokens : Nat
  actualInputTokens : Option Nat
  actualOutputTokens : Option Nat
  reservedCostUsd : Usd
  chargedCostUsd : Usd
  chargeBasis : ChargeBasis
  overrun : Bool
  /-- provider, model and the four authorized versions and digests of the row -/
  authorized : AuthorizedProviderPolicySnapshot
  terminalOutcome : Option Outcome
deriving DecidableEq

/-- What `validate_answer_cache_hit` returns. -/
structure AnswerCacheIdentity where
  answerCacheKeyHmac : Hmac
  answerCacheValueHmac : Hmac
  answerCacheExpiresAt : Int
deriving DecidableEq

structure RunMetadata where
  configuredBackend : RagRetrievalBackend
  currentTextHmac : Hmac
  cutoverStage : RagCutoverStage
  mode : RagMode
  queryContextVersion : QueryContextVersion
  retrievalQueryHmac : Hmac
  runtimeCostSnapshotHmac : Hmac
  securityScopeFingerprint : Hmac
  surface : RagSurface
  renderedInputHmac : Option Hmac
  answerModelConfigSnapshotHmac : Option Hmac
  preparedModelInfluenceObservationHmac : Option Hmac
  /-- present exactly when `answer_finalization_mode` is -/
  answerFinalization : Option AnswerCacheIdentity
  outcome : Option Outcome
  terminalIdentityHmac : Option Hmac
  shadowComparisonHmac : Option Hmac
  ragResultHmac : Option Hmac
deriving DecidableEq

structure AgentRun where
  runContractVersion : String
  status : RunStatus
  runRecordPhase : RunRecordPhase
  sourceWindow : SourceWindow
  cacheKey : CacheKey
  estimatedCostUsd : Usd
  totalChargedCostUsd : Usd
  projectionOwnerFenceHmac : Option Hmac
  completedAt : Option Timestamp
  metadata : RunMetadata
deriving DecidableEq

structure Run where
  parent : AgentRun
  rows : List AgentRunCostComponent
deriving DecidableEq

/-- `_component_is_unused`. -/
def componentIsUnused (parent : AgentRun) : RagPaidComponent → Bool
  | .queryEmbedding => parent.metadata.configuredBackend = .keyword
  | .answerGeneration =>
    !(parent.metadata.mode = .enforce && (parent.metadata.surface = .ask || parent.metadata.surface = .assistant))

/-- `_row_runtime_component`: the signed view of a row has every field but the terminal outcome. -/
def rowRuntimeComponent (row : AgentRunCostComponent) : AgentRunCostComponent :=
  { row with terminalOutcome := none }

def totalReserved (rows : List AgentRunCostComponent) : Usd :=
  (rows.map AgentRunCostComponent.reservedCostUsd).sum

/-- `total_charged_cost`. -/
def totalCharged (rows : List AgentRunCostComponent) : Usd :=
  (rows.map AgentRunCostComponent.chargedCostUsd).sum

def makeTerminalZero (row : AgentRunCostComponent) : AgentRunCostComponent :=
  { row with
    dispatchState := .terminal
    attempted := false
    dispatchCount := 0
    reservedInputTokens := 0
    reservedOutputTokens := 0
    actualInputTokens := none
    actualOutputTokens := none
    reservedCostUsd := 0
    chargedCostUsd := 0
    chargeBasis := .zero
    overrun := false
    dispatchFenceHmac := none
    processInstanceHmac := none
    terminalOutcome := none }

inductive SnapshotStage where
  | preProjection
  | terminal
deriving DecidableEq, Repr

structure RuntimeCostPayload where
  components : List AgentRunCostComponent
  parentOutcome : Option Outcome
  parentRunRecordPhase : RunRecordPhase
  parentStatus : RunStatus
  snapshotStage : SnapshotStage
  totalChargedCostUsd : Usd
  totalReservedCostUsd : Usd
deriving DecidableEq

structure AdmissionPayload where
  answerProviderPolicySnapshotHmac : Option Hmac
  configuredBackend : RagRetrievalBackend
  currentTextHmac : Hmac
  cutoverStage : RagCutoverStage
  mode : RagMode
  queryContextVersion : QueryContextVersion
  queryEmbeddingProviderPolicySnapshotHmac : Option Hmac
  retrievalQueryHmac : Hmac
  securityScopeFingerprint : Hmac
  surface : RagSurface

structure DispatchFencePayload where
  component : RagPaidComponent
  dispatchCount : Nat
  dispatchNonce : Nat
  preparedInputHmac : Hmac
  processInstanceHmac : Hmac
  providerSafetySnapshotHmac : Hmac
  retrievalQueryHmac : Hmac

structure ProjectionOwnerPayload where
  advisoryLockIdentityDigest : Option Hmac
  ownerNonce : Nat
  processInstanceHmac : Hmac

structure FinalShadowPayload where
  admissionCacheIdentityHmac : Hmac
  outcome : Outcome
  runtimeCostSnapshotHmac : Hmac
  surface : RagSurface

structure FinalErrorPayload where
  admissionCacheIdentity : CacheKey
  configuredBackend : RagRetrievalBackend
  currentTextHmac : Hmac
  outcome : Outcome
  retrievalQueryHmac : Hmac
  runtimeCostSnapshotHmac : Hmac
  securityScopeFingerprint : Hmac
  surface : RagSurface

/-- The exceptions of the ledger and its policy, with their messages. `lockTimeout` is the database
refusing a row lock that another session's open transaction holds. -/
inductive LedgerError where
  | value (message : String)
  | ledger (message : String)
  | persistence (message : String)
  | preclaimSafetyRefusal (message : String)
  | budgetExceeded
  | policyUnavailable (code : String)
  | runtimeHealth
  | lockTimeout
deriving DecidableEq, Repr

/-- The identity functions of `rag_safety_identity` under the ledger's secret, for one run. They
are keyed digests; nothing below assumes more of them than that they are functions. -/
structure Signers where
  admission : AdmissionPayload → Hmac
  runtimeCost : RuntimeCostPayload → Hmac
  dispatchFence : DispatchFencePayload → Hmac
  processInstance : Nat → Hmac
  deadProcessAttestation : Hmac → Hmac
  projectionOwner : ProjectionOwnerPayload → Hmac
  finalShadow : FinalShadowPayload → Hmac
  finalError : FinalErrorPayload → Hmac

/-- `_runtime_cost_identity`. -/
def runtimeCostIdentity (sign : Signers) (rows : List AgentRunCostComponent)
    (parentOutcome : Option Outcome) (parentRunRecordPhase : RunRecordPhase)
    (parentStatus : RunStatus) (snapshotStage : SnapshotStage) : Hmac :=
  sign.runtimeCost {
    components := rows.map rowRuntimeComponent
    parentOutcome
    parentRunRecordPhase
    parentStatus
    snapshotStage
    totalChargedCostUsd := totalCharged rows
    totalReservedCostUsd := totalReserved rows }

/-- The phase-1 identity that `load_pending_projection`, finalization and recovery recompute. -/
def pendingRuntimeCostIdentity (sign : Signers) (rows : List AgentRunCostComponent) : Hmac :=
  runtimeCostIdentity sign rows none .costFinalizedPendingProjection .running .preProjection

@[simp] theorem makeTerminalZero_component (row : AgentRunCostComponent) :
    (makeTerminalZero row).component = row.component := rfl

@[simp] theorem totalCharged_pair (q a : AgentRunCostComponent) :
    totalCharged [q,a] = q.chargedCostUsd+a.chargedCostUsd := by
  simp [totalCharged]

@[simp] theorem totalReserved_pair (q a : AgentRunCostComponent) :
    totalReserved [q,a] = q.reservedCostUsd+a.reservedCostUsd := by
  simp [totalReserved]

end ParaWorks.Ledger
