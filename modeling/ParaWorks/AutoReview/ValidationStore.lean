import ParaWorks.AutoReview.ValidationRows

/-!
# The validation store

`AutoReviewValidationStore` over its tables. An operation is one transaction: when it raises, the tables are as before,
and only what it did to the memory of the process stays.
-/

namespace ParaWorks.AutoReview

open Lib

inductive StoreError where
  | candidateCountInvalid
  | keyIdentityChanged
  | batchIdentityChanged
  | registryIdentityChanged
  | reservationInvalid
  | runtimeKeyIdentityChanged
  | safetyUnavailable
  | safetyIdentityChanged
  | workflowUnavailable
  | workflowRequestUnavailable
  | workflowIdentityChanged
  | claimIdentityChanged
  | childIdentityChanged
  | childSetCorrupt
  | projectionUnavailable
  | failedReasonUnavailable
  | batchCapExceeded
  | workflowBudgetExceeded
  | contextRequired
  | notClaimable
  | admissionIdentityChanged
  | rolloutAuthorityChanged
  | executionGuardChanged
  | permissionGuardUnavailable
  | ownerPermissionChanged
  | grantRequired
  | dispatchChanged
  | permitConsumed
  | permitExpired
  | completionContextChanged
  | notDispatched
  | notCompletable
  | completionIdentityChanged
  | failureContextChanged
  | notFailable
  | usageAmbiguous
  | allocationInvalid
  | leaseTokenUnavailable
  | notRecoverable
  deriving DecidableEq

/-- The keyed fingerprints. -/
structure Keys where
  validationKey : AutoReviewValidationIdentity → Text
  batchFingerprint : ValidationBatchClaimRequest → Text
  ownerPermissionHmac : Text → List Text → Text
  sourceStateHmac : Text → List ValidationSourceState → Text
  attemptId : Text → Text

structure StoreConfig where
  keys : Keys
  agentRuntimeFingerprintKeyVersion : Text
  currentPermissionResolver : Option (Text → List Text)

/-- The clocks and the lease token of one operation. -/
structure Moment where
  now : Nat
  monotonic : Nat
  leaseToken : Text

section store

variable (config : StoreConfig) (m : Moment)

/-! ## Claim requests -/

def registryOf (identity : AutoReviewValidationIdentity) : List Text × List Nat :=
  ([identity.validatorProvider,identity.validatorModel,identity.reasoningEffort,identity.validatorPromptVersion,
      identity.validatorOutputContractVersion,identity.tokenEstimatorVersion,identity.tokenizerEncoding,
      identity.costPolicyVersion,identity.fingerprintKeyVersion],
    [identity.maxInputTokens,identity.maxOutputTokens,identity.maxCandidatesPerBatch,identity.maxProviderAttempts,
      identity.inputCostPer1MTokens,identity.outputCostPer1MTokens])

def expectedRegistry : List Text × List Nat :=
  ([autoReviewValidatorProvider,autoReviewValidatorModel,autoReviewReasoningEffort,autoReviewValidatorPromptVersion,
      autoReviewValidatorOutputContractVersion,autoReviewTokenEstimatorVersion,autoReviewTokenizerEncoding,
      autoReviewCostPolicyVersion,config.agentRuntimeFingerprintKeyVersion],
    [autoReviewMaxInputTokens,autoReviewMaxOutputTokens,autoReviewMaxCandidatesPerBatch,autoReviewMaxProviderAttempts,
      autoReviewValidatorInputUsdPer1M,autoReviewValidatorOutputUsdPer1M])

def reservationValid (request : ValidationBatchClaimRequest) (first : AutoReviewValidationIdentity) : Bool :=
  request.maxProviderAttempts = 1 && request.preparedContentHmac.length = 64 &&
  0 < request.serializedCharacterCount && request.serializedCharacterCount ≤ autoReviewMaxInputChars &&
  0 < request.framedInputTokens && request.framedInputTokens ≤ first.maxInputTokens &&
  request.reservedInputTokens = request.framedInputTokens && request.reservedOutputTokens = first.maxOutputTokens &&
  request.reservedCostUsd = tokenCost request.reservedInputTokens request.reservedOutputTokens
    first.inputCostPer1MTokens first.outputCostPer1MTokens &&
  request.reservedCostUsd ≤ autoReviewMaxBatchCostUsd &&
  request.reservedCostUsd ≤ first.confirmedValidationCostCeilingUsd &&
  first.confirmedExtractionCostCeilingUsd+request.reservedCostUsd ≤ first.confirmedTotalCostCeilingUsd

/-- `_validate_request`: the identity of the first candidate. -/
def validateRequest (request : ValidationBatchClaimRequest) : Except StoreError AutoReviewValidationIdentity :=
  match request.candidates with
  | [] => .error .candidateCountInvalid
  | candidate::rest =>
    let first := candidate.identity
    if 4 < request.candidates.length then .error .candidateCountInvalid
    else if ¬(request.candidates.map (·.validationKey)).Nodup ∨
        ∃ c ∈ request.candidates, config.keys.validationKey c.identity ≠ c.validationKey then
      .error .keyIdentityChanged
    else if ∃ c ∈ rest, c.identity.shared ≠ first.shared then .error .batchIdentityChanged
    else if registryOf first ≠ expectedRegistry config then .error .registryIdentityChanged
    else if reservationValid request first = false then .error .reservationInvalid
    else if config.keys.batchFingerprint request ≠ request.batchFingerprint then .error .batchIdentityChanged
    else .ok first

/-! ## Locks -/

def runtimeMatches (runtime : Option AutoReviewRuntimeKeyState) (keyVersion materialVerifier : Text) : Bool :=
  runtime.any fun r => r.ready && r.fingerprintKeyVersion = keyVersion &&
    r.fingerprintKeyMaterialVerifier = materialVerifier

def registryMatches (state : AutoReviewProviderSafetyState) : Bool :=
  state.authorizedCostPolicyVersion = autoReviewCostPolicyVersion &&
  state.tokenEstimatorVersion = autoReviewTokenEstimatorVersion &&
  state.tokenizerEncoding = autoReviewTokenizerEncoding &&
  state.replyPrimingTokens = autoReviewReplyPrimingTokens &&
  state.framingSafetyTokens = autoReviewFramingSafetyTokens &&
  state.inputUsdPer1M = autoReviewValidatorInputUsdPer1M &&
  state.outputUsdPer1M = autoReviewValidatorOutputUsdPer1M

def providerSafetyMatches (state : AutoReviewProviderSafetyState) (allowOpen requireCurrentRegistry : Bool) : Bool :=
  (allowOpen || !state.breakerOpen) && (!requireCurrentRegistry || registryMatches state)

/-- `_lock_validation_safety` with an open breaker allowed. -/
def lockValidationSafety (t : Tables) (requireCurrentRegistry : Bool) : Except StoreError AutoReviewProviderSafetyState :=
  match t.safety with
  | none => .error .safetyUnavailable
  | some state =>
    if providerSafetyMatches state true requireCurrentRegistry = false then .error .safetyUnavailable else .ok state

/-- `_lock_rollout_authority`: `none` is a refusal, and the row is there when one is. -/
def lockRolloutAuthority (t : Tables) (workflowThreadId : Text) (expectedMode : Option Text) :
    Option (Option AutoReviewRolloutState) :=
  match t.thread workflowThreadId,t.request workflowThreadId with
  | some thread,some request =>
    match t.rollouts.find? fun r => r.securityScopeId = thread.securityScopeId ∧
        r.policyVersion = request.profile.policyVersion with
    | none => if expectedMode.getD request.autoReviewMode = text "enforce" then none else some none
    | some rollout =>
      if rollout.breakerOpen = false ∧ rollout.controlEpoch = request.profile.rolloutControlEpoch ∧
          rollout.authorizationGeneration = request.profile.rolloutAuthorizationGeneration ∧
          request.profile.authorizedPercentageAtLaunch ≤ rollout.maxAuthorizedPercentage then
        some (some rollout)
      else none
  | _,_ => none

def sourceMatches (t : Tables) (ref : AgentWorkflowEvidenceRef) : Bool :=
  (t.sources.find? (·.id = ref.canonicalRowId)).any fun source =>
    source.sourceType = ref.canonicalSourceType && source.permissionLevel = ref.permissionLevelSnapshot &&
    source.serverContentSignatureSchema = some (text "server-source-content:v1") &&
    source.serverContentSignature = some ref.contentSignature

/-- `_lock_source_states` with drift allowed: no states when one source has changed. -/
def lockSourceStates (t : Tables) (workflowThreadId : Text) : List ValidationSourceState :=
  let refs := (t.evidenceRefs.filter (·.workflowThreadId = workflowThreadId)).insertionSort
    fun a b => a.canonicalRowId ≤ b.canonicalRowId
  if refs.all (sourceMatches t) then
    refs.map fun ref =>
      ⟨ref.canonicalRowId,ref.canonicalSourceType,ref.contentSignature,ref.contentFingerprint,ref.permissionLevelSnapshot⟩
  else []

/-- `_locked_workflow_request_for_context`. -/
def lockedWorkflowRequest (t : Tables) (workflowThreadId : Text) (allowCancelled : Bool) :
    Except StoreError (AgentWorkflowThread × AgentWorkflowRequest) :=
  match t.thread workflowThreadId with
  | none => .error .workflowUnavailable
  | some thread =>
    if allowCancelled = false ∧ thread.cancelledAt.isSome then .error .workflowUnavailable
    else match t.request workflowThreadId with
      | none => .error .workflowRequestUnavailable
      | some request => .ok (thread,request)

/-- `_current_guard_hmacs`. -/
def currentGuardHmacs (t : Tables) (workflowThreadId : Text) (states : List ValidationSourceState) :
    Except StoreError (Text × Text) :=
  match t.thread workflowThreadId,config.currentPermissionResolver with
  | some thread,some resolver =>
    if states = [] then .error .permissionGuardUnavailable
    else
      let levels := (resolver thread.ownerSubjectId).dedup.insertionSort keyLe
      if levels = [] ∨ ∃ s ∈ states, s.permissionLevel ∉ levels then .error .ownerPermissionChanged
      else .ok (config.keys.ownerPermissionHmac thread.ownerSubjectId levels,
        config.keys.sourceStateHmac workflowThreadId states)
  | _,_ => .error .permissionGuardUnavailable

/-- `_locked_children`. -/
def lockedChildren (t : Tables) (call : AutoReviewValidationCall) : Except StoreError (List AutoReviewValidation) :=
  if (t.children call.id).length ≠ call.candidateCount then .error .childSetCorrupt else .ok (t.children call.id)

def lockedCallOf (t : Tables) (context : ValidationLockedContext) : Except StoreError AutoReviewValidationCall :=
  match t.lockedCall context with
  | none => .error .contextRequired
  | some call => .ok call

/-! ## Closing a call -/

def extractionObligation (t : Tables) (workflowThreadId : Text) : Usd :=
  ((t.extractionCalls.filter (·.workflowThreadId = workflowThreadId)).map
    fun c => obligation c.status c.reservedCostUsd c.chargedCostUsd).sum

/-- What the validation calls of the workflow oblige it to, one of them apart. -/
def validationObligation (t : Tables) (workflowThreadId : Text) (without : Option Nat) : Usd :=
  ((t.calls.filter fun c => c.workflowThreadId = workflowThreadId ∧ some c.id ≠ without).map
    fun c => obligation c.status c.reservedCostUsd c.chargedCostUsd).sum

/-- The candidates with their shares of the charge. -/
def shareCharge (children : List AutoReviewValidation) (inputs outputs : List Nat) (costs : List Usd)
    (close : AutoReviewValidation → AutoReviewValidation) : List AutoReviewValidation :=
  children.mapIdx fun index row =>
    { close row with
      inputTokens := inputs.getD index 0
      outputTokens := outputs.getD index 0
      estimatedCostUsd := costs.getD index 0
      completedAt := some m.now }

def chargeCall (call : AutoReviewValidationCall) (status : CallStatus) (inputTokens outputTokens : Nat)
    (chargedCost : Usd) : AutoReviewValidationCall :=
  { call with
    status := status
    chargedInputTokens := some inputTokens
    chargedOutputTokens := some outputTokens
    chargedCostUsd := chargedCost
    terminalAt := some m.now }

/-- `_terminal_failure`. -/
def terminalFailure (call : AutoReviewValidationCall) (children : List AutoReviewValidation)
    (reason : AutoReviewPolicyReasonCode) (inputTokens outputTokens : Nat) (chargedCost : Usd) :
    Except StoreError (AutoReviewValidationCall × List AutoReviewValidation) :=
  let inputs := allocateIntegerTokens inputTokens children.length
  let outputs := allocateIntegerTokens outputTokens children.length
  match allocateMicroUsd inputs outputs call.inputUsdPer1M call.outputUsdPer1M chargedCost
      (children.map (·.validationKey)) with
  | none => .error .allocationInvalid
  | some costs =>
    .ok (chargeCall m call .failed inputTokens outputTokens chargedCost,
      shareCharge m children inputs outputs costs fun row =>
        { row with status := .failed, policyReasonCodes := [reason] })

def markOverrun (call : AutoReviewValidationCall) (chargedCost : Usd) : AutoReviewValidationCall :=
  { call with budgetOverrun := true, budgetOverrunCostUsd := chargedCost-call.reservedCostUsd }

/-- `_open_budget_breaker`. -/
def openBudgetBreaker (t : Tables) (safety : AutoReviewProviderSafetyState) (callId : Nat) (chargedCost : Usd) :
    Tables :=
  if safety.breakerOpen then t
  else
    { t with
      safetyEvents := ⟨safety.lastEventSequence+1,safety.stateVersion,safety.stateVersion+1,false,true,
        text "budget_exceeded",callId,m.now⟩::t.safetyEvents
      safety := some { safety with
        stateVersion := safety.stateVersion+1
        breakerOpen := true
        breakerReasonCode := some (text "budget_exceeded")
        overrunCount := safety.overrunCount+1
        lastOverrunCostUsd := some chargedCost
        lastOverrunAt := some m.now
        lastEventSequence := safety.lastEventSequence+1
        updatedAt := m.now } }

end store

end ParaWorks.AutoReview
