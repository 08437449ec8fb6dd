import ParaWorks.Ledger.Recovery
import ParaWorks.Lib.Partial

/-!
# Case claims of the live gate

The frozen manifest of a live gate, and the rows that the claim of one of its cases writes, beside those that an
admission of the cost ledger commits.
-/

namespace ParaWorks.LiveGate

open Lib Ledger

/-! ## The frozen manifest -/

inductive Decimal where
  | finite (coefficient exponent : Int)
  | special
deriving DecidableEq

/-- The amount in micro-dollars, when it has no finer digits and lies between zero and the cap of a case. -/
def Decimal.reservedMicros : Decimal → Option Usd
  | .finite coefficient exponent =>
    let micros := coefficient*10^(exponent+6).toNat
    if -6 ≤ exponent ∧ 0 ≤ micros ∧ micros ≤ 12000 then some micros.toNat else none
  | .special => none

/-- An `AuthorizedProviderPolicySnapshot` of a manifest, its texts not yet checked. -/
structure FrozenPolicySnapshot where
  component : RagPaidComponent
  provider : String
  model : String
  reasoningOrConfigIdentity : String
  authorizedModelConfigVersion : String
  authorizedModelConfigSnapshotHmac : String
  authorizedCostPolicyVersion : String
  authorizedTokenEstimatorVersion : String
  fingerprintKeyVersion : String
  fingerprintKeyMaterialVerifier : String
  authorizedPolicySnapshotHmac : String
deriving DecidableEq

structure FrozenCaseClaimComponent where
  policy : FrozenPolicySnapshot
  reservedInputTokens : Int
  reservedOutputTokens : Int
  reservedCostUsd : Decimal
deriving DecidableEq

structure FrozenCaseClaimCase where
  ordinal : Int
  caseIdHmac : String
  surface : RagSurface
  configuredBackend : RagRetrievalBackend
  currentTextHmac : String
  retrievalQueryHmac : String
  securityScopeFingerprint : String
  components : List FrozenCaseClaimComponent
deriving DecidableEq

structure FrozenCaseClaimManifest where
  cases : List FrozenCaseClaimCase
  contractVersion : String
  fixtureManifestVersion : String
  runtimeContractVersion : String
  assemblyVersion : String
  sourceManifestHmac : Option String
deriving DecidableEq

/-! ## What an accepted case holds -/

structure ComponentClaim where
  policy : AuthorizedProviderPolicySnapshot
  reservedInputTokens : Nat
  reservedOutputTokens : Nat
  reservedCostUsd : Usd

structure CaseClaim where
  caseIdHmac : Hmac
  surface : RagSurface
  configuredBackend : RagRetrievalBackend
  currentTextHmac : Hmac
  retrievalQueryHmac : Hmac
  securityScopeFingerprint : Hmac
  query : ComponentClaim
  answer : ComponentClaim
  answered : surface ≠ .search
  order : query.policy.component = .queryEmbedding ∧ answer.policy.component = .answerGeneration
  capped : query.reservedCostUsd+answer.reservedCostUsd ≤ 12000
  embeddingOutput : query.reservedOutputTokens = 0
  unusedEmbedding : configuredBackend = .keyword → query.reservedInputTokens = 0 ∧ query.reservedCostUsd = 0

/-- The checks on a policy snapshot: every text is there, every digest is one. -/
def FrozenPolicySnapshot.read (p : FrozenPolicySnapshot) : Option AuthorizedProviderPolicySnapshot :=
  if [p.provider,p.model,p.reasoningOrConfigIdentity,p.authorizedModelConfigVersion,p.authorizedCostPolicyVersion,
      p.authorizedTokenEstimatorVersion,p.fingerprintKeyVersion].any (· = "") ∨
      isLowerHmac p.fingerprintKeyMaterialVerifier = false then none
  else
    (requireLowerHmac p.authorizedModelConfigSnapshotHmac).bind fun config =>
    (requireLowerHmac p.authorizedPolicySnapshotHmac).map fun policy =>
      ⟨p.component,p.provider,p.model,p.authorizedModelConfigVersion,config,p.authorizedCostPolicyVersion,
        p.authorizedTokenEstimatorVersion,policy⟩

def FrozenCaseClaimComponent.read (c : FrozenCaseClaimComponent) : Option ComponentClaim :=
  if c.reservedInputTokens < 0 ∨ c.reservedOutputTokens < 0 then none
  else
    c.reservedCostUsd.reservedMicros.bind fun cost =>
    c.policy.read.map fun policy => ⟨policy,c.reservedInputTokens.toNat,c.reservedOutputTokens.toNat,cost⟩

/-- The checks on one case, its place in the manifest apart. -/
def FrozenCaseClaimCase.read (c : FrozenCaseClaimCase) : Option CaseClaim :=
  (requireLowerHmac c.caseIdHmac).bind fun caseId =>
  (requireLowerHmac c.currentTextHmac).bind fun current =>
  (requireLowerHmac c.retrievalQueryHmac).bind fun retrieval =>
  (requireLowerHmac c.securityScopeFingerprint).bind fun scope =>
  (c.components.mapM FrozenCaseClaimComponent.read).bind fun components =>
  match components with
  | [query,answer] =>
    if h : c.surface ≠ .search ∧
        (query.policy.component = .queryEmbedding ∧ answer.policy.component = .answerGeneration) ∧
        query.reservedCostUsd+answer.reservedCostUsd ≤ 12000 ∧ query.reservedOutputTokens = 0 ∧
        (c.configuredBackend = .keyword → query.reservedInputTokens = 0 ∧ query.reservedCostUsd = 0) then
      some ⟨caseId,c.surface,c.configuredBackend,current,retrieval,scope,query,answer,h.1,h.2.1,h.2.2.1,h.2.2.2.1,
        h.2.2.2.2⟩
    else none
  | _ => none

def FrozenCaseClaimManifest.headerValid (m : FrozenCaseClaimManifest) : Bool :=
  m.contractVersion = "rag-live-case-claim-manifest:v1" && m.fixtureManifestVersion = "rag-live-quality-30:v1" &&
  m.runtimeContractVersion = "rag-run:v2" && m.assemblyVersion = "rag-live-case-claim-assembly:v1" &&
  1 ≤ m.cases.length && m.cases.length ≤ 30 && m.sourceManifestHmac.all isLowerHmac

/-- `_manifest_payload`: the cases, none where it refuses. -/
def manifestPayload (m : FrozenCaseClaimManifest) : Option (List CaseClaim) :=
  if m.headerValid = false ∨ m.cases.map (·.ordinal) ≠ (List.range m.cases.length).map Int.ofNat ∨
      ¬(m.cases.map (·.caseIdHmac)).Nodup then none
  else m.cases.mapM FrozenCaseClaimCase.read

/-! ## The rows of a claim -/

/-- The parent row with the columns that no ledger operation reads. -/
structure AgentRunImage where
  run : AgentRun
  agentName : String
  promptVersion : String
  modelName : String
  generationProvider : Option String
  generationReasoningEffort : Option String
  generationRouteVersion : Option String
  generationOutputContractVersion : Option String
  inputTokens : Nat
  outputTokens : Nat
  totalTokens : Nat
  permissionLevel : String
  workflowThreadId : Option String
  effectKey : Option String
deriving DecidableEq

/-- The parent and the component rows, ids and timestamps aside. -/
structure RunImages where
  parent : AgentRunImage
  children : List AgentRunCostComponent
deriving DecidableEq

/-- What a ledger finds of the rows. -/
def RunImages.run (images : RunImages) : Run := ⟨images.parent.run,images.children⟩

def ComponentClaim.image (value : ComponentClaim) (component : RagPaidComponent) (state : DispatchState) :
    AgentRunCostComponent where
  component := component
  dispatchState := state
  dispatchFenceHmac := none
  processInstanceHmac := none
  attempted := false
  dispatchCount := 0
  reservedInputTokens := value.reservedInputTokens
  reservedOutputTokens := value.reservedOutputTokens
  actualInputTokens := none
  actualOutputTokens := none
  reservedCostUsd := value.reservedCostUsd
  chargedCostUsd := 0
  chargeBasis := .zero
  overrun := false
  authorized := value.policy
  terminalOutcome := none

def CaseClaim.children (c : CaseClaim) : List AgentRunCostComponent :=
  [c.query.image .queryEmbedding (if c.configuredBackend = .keyword then .terminal else .notAttempted),
    c.answer.image .answerGeneration .notAttempted]

/-- The stage of the same name. -/
def stageOf : RagSurface → RagCutoverStage
  | .ask => .ask
  | .search => .search
  | .assistant => .assistant

def contextOf (surface : RagSurface) : QueryContextVersion :=
  if surface = .assistant then .assistantContextV1 else .directQueryV1

variable (sign : Signers)

def CaseClaim.admissionIdentity (c : CaseClaim) : Hmac :=
  sign.admission {
    answerProviderPolicySnapshotHmac := some c.answer.policy.authorizedPolicySnapshotHmac
    configuredBackend := c.configuredBackend
    currentTextHmac := c.currentTextHmac
    cutoverStage := stageOf c.surface
    mode := .enforce
    queryContextVersion := contextOf c.surface
    queryEmbeddingProviderPolicySnapshotHmac :=
      if c.configuredBackend = .pgvector then some c.query.policy.authorizedPolicySnapshotHmac else none
    retrievalQueryHmac := c.retrievalQueryHmac
    securityScopeFingerprint := c.securityScopeFingerprint
    surface := c.surface }

def CaseClaim.runtimeIdentity (c : CaseClaim) : Hmac :=
  sign.runtimeCost {
    components := c.children.map rowRuntimeComponent
    parentOutcome := none
    parentRunRecordPhase := .admission
    parentStatus := .running
    snapshotStage := .preProjection
    totalChargedCostUsd := 0
    totalReservedCostUsd := totalReserved c.children }

/-- `_runtime_images`. -/
def runtimeImages (c : CaseClaim) : RunImages where
  parent := {
    run := {
      runContractVersion := "rag-run:v2"
      status := .running
      runRecordPhase := .admission
      sourceWindow := .admission .enforce c.surface c.configuredBackend
      cacheKey := .admission (c.admissionIdentity sign)
      estimatedCostUsd := totalReserved c.children
      totalChargedCostUsd := 0
      projectionOwnerFenceHmac := none
      completedAt := none
      metadata := {
        configuredBackend := c.configuredBackend
        currentTextHmac := c.currentTextHmac
        cutoverStage := stageOf c.surface
        mode := .enforce
        queryContextVersion := contextOf c.surface
        retrievalQueryHmac := c.retrievalQueryHmac
        runtimeCostSnapshotHmac := c.runtimeIdentity sign
        securityScopeFingerprint := c.securityScopeFingerprint
        surface := c.surface
        renderedInputHmac := none
        answerModelConfigSnapshotHmac := none
        preparedModelInfluenceObservationHmac := none
        answerFinalization := none
        outcome := none
        terminalIdentityHmac := none
        shadowComparisonHmac := none
        ragResultHmac := none } }
    agentName := "rag_orchestrator_agent"
    promptVersion := "rag-answer:v2"
    modelName := "rag-v2-admission"
    generationProvider := none
    generationReasoningEffort := none
    generationRouteVersion := none
    generationOutputContractVersion := none
    inputTokens := 0
    outputTokens := 0
    totalTokens := 0
    permissionLevel := "restricted"
    workflowThreadId := none
    effectKey := none }
  children := c.children

end ParaWorks.LiveGate
