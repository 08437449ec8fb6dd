import ParaWorks.AutoReview.ValidationStore

/-!
# The operations of the validation store

Claim, start, dispatch and the ways a call is closed. Tables change only when the transaction commits.
-/

namespace ParaWorks.AutoReview

open Lib

inductive ClaimDisposition where
  | claimed
  | replayed
  | busy
  deriving DecidableEq

structure ValidationClaimResult where
  disposition : ClaimDisposition
  validationCallId : Nat
  leaseToken : Option Text
  leaseExpiresAt : Option Nat
  terminalStatus : Option CallStatus
  failureReasonCode : Option AutoReviewPolicyReasonCode
  completed : List CompletedValidationProjection
  deriving DecidableEq

def claimedResult (call : AutoReviewValidationCall) : ValidationClaimResult :=
  ⟨.claimed,call.id,some call.leaseToken,call.leaseExpiresAt,none,none,[]⟩

section operations

variable (config : StoreConfig) (m : Moment)

/-! ## Claiming -/

/-- The row of a call against the request that claims it. -/
def callMatches (call : AutoReviewValidationCall) (request : ValidationBatchClaimRequest)
    (first : AutoReviewValidationIdentity) : Bool :=
  call.candidateCount = request.candidates.length && call.maxProviderAttempts = request.maxProviderAttempts &&
  call.preparedContentHmac = request.preparedContentHmac &&
  call.serializedCharacterCount = request.serializedCharacterCount &&
  call.framedInputTokenCount = request.framedInputTokens &&
  call.reservedInputTokens = request.reservedInputTokens &&
  call.reservedOutputTokens = request.reservedOutputTokens && call.reservedCostUsd = request.reservedCostUsd &&
  call.maxOutputTokens = first.maxOutputTokens && call.tokenEstimatorVersion = first.tokenEstimatorVersion &&
  call.tokenizerEncoding = first.tokenizerEncoding && call.inputUsdPer1M = first.inputCostPer1MTokens &&
  call.outputUsdPer1M = first.outputCostPer1MTokens && call.costPolicyVersion = first.costPolicyVersion &&
  call.providerSafetyStateVersion = first.providerSafetyStateVersion &&
  call.fingerprintKeyVersion = first.fingerprintKeyVersion &&
  call.fingerprintKeyMaterialVerifier = first.fingerprintKeyMaterialVerifier &&
  call.workflowExtractionCostCeilingUsd = first.confirmedExtractionCostCeilingUsd &&
  call.workflowValidationCostCeilingUsd = first.confirmedValidationCostCeilingUsd &&
  call.workflowTotalCostCeilingUsd = first.confirmedTotalCostCeilingUsd &&
  call.providerTimeoutSeconds = first.providerTimeoutSeconds &&
  call.providerSendStartWindowSeconds = first.providerSendStartWindowSeconds &&
  call.providerAttemptLeaseSeconds = first.providerAttemptLeaseSeconds &&
  call.providerCommitGraceSeconds = first.providerCommitGraceSeconds

def childMatches (row : AutoReviewValidation) (candidate : ValidationCandidateClaim) : Bool :=
  row.reviewItemId = candidate.reviewItemId && row.validationKey = candidate.validationKey &&
  row.evidenceVersionHash = candidate.identity.evidenceVersionHash &&
  row.candidateGenerationFingerprint = candidate.identity.candidateGenerationFingerprint &&
  row.validatorProvider = candidate.identity.validatorProvider &&
  row.validatorModel = candidate.identity.validatorModel &&
  row.reasoningEffort = candidate.identity.reasoningEffort &&
  row.validatorPromptVersion = candidate.identity.validatorPromptVersion &&
  row.validatorOutputContractVersion = candidate.identity.validatorOutputContractVersion &&
  row.policyVersion = candidate.identity.policyVersion &&
  row.fingerprintKeyVersion = candidate.identity.fingerprintKeyVersion &&
  row.fingerprintKeyMaterialVerifier = candidate.identity.fingerprintKeyMaterialVerifier &&
  row.costPolicyVersion = candidate.identity.costPolicyVersion &&
  row.confirmedValidationCostCeilingUsd = candidate.identity.confirmedValidationCostCeilingUsd

/-- `_verify_call_request`. -/
def verifyCallRequest (t : Tables) (call : AutoReviewValidationCall) (request : ValidationBatchClaimRequest)
    (first : AutoReviewValidationIdentity) : Except StoreError (List AutoReviewValidation) :=
  if callMatches call request first = false then .error .claimIdentityChanged
  else (lockedChildren t call).bind fun children =>
    if children.length = request.ordered.length ∧ (children.zip request.ordered).all (fun p => childMatches p.1 p.2) then
      .ok children
    else .error .childIdentityChanged

/-- `_projection`. -/
def projectionOf (slotIndex : Nat) (cacheHit : Bool) (row : AutoReviewValidation) :
    Except StoreError CompletedValidationProjection :=
  match row.policyDecision with
  | none => .error .projectionUnavailable
  | some decision =>
    if row.policyReasonCodes = [] then .error .projectionUnavailable
    else .ok ⟨row.validationCallId,row.id,row.reviewItemId,
      ⟨text "C0"++text (toString (slotIndex+1)),row.claimResults,row.uncertaintyCodes,row.conflictCodes⟩,
      decision,row.policyReasonCodes,row.inputTokens,row.outputTokens,row.estimatedCostUsd,cacheHit⟩

/-- `_completed_projections`. -/
def completedProjections (children : List AutoReviewValidation) :
    Except StoreError (List CompletedValidationProjection) :=
  if ∃ row ∈ children, row.status ≠ .completed then .error .childSetCorrupt
  else (children.zipIdx).mapM fun p => projectionOf p.2 true p.1

/-- `_failed_reason`. -/
def failedReason (children : List AutoReviewValidation) : Except StoreError AutoReviewPolicyReasonCode :=
  match ((children.filter (·.status = .failed)).map (·.policyReasonCodes)).dedup with
  | [[reason]] => .ok reason
  | _ => .error .failedReasonUnavailable

/-- `_require_workflow_budget`. -/
def workflowBudgetRefusal (t : Tables) (workflowRequest : AgentWorkflowRequest) (request : ValidationBatchClaimRequest)
    (first : AutoReviewValidationIdentity) : Option StoreError :=
  let calls := t.calls.filter (·.workflowThreadId = request.workflowThreadId)
  let validation := request.reservedCostUsd+validationObligation t request.workflowThreadId none
  if first.maxBatchesPerWorkflow ≤ calls.length ∨
      first.maxCandidatesPerWorkflow < (calls.map (·.candidateCount)).sum+request.candidates.length then
    some .batchCapExceeded
  else if min autoReviewMaxValidationCostUsd workflowRequest.profile.confirmedValidationCostCeilingUsd < validation ∨
      min workflowRequest.profile.confirmedTotalCostCeilingUsd workflowRequest.autoReviewBudgetLimitUsd <
        extractionObligation t request.workflowThreadId+validation then
    some .workflowBudgetExceeded
  else none

/-- The row of a new claim. -/
def newCall (t : Tables) (request : ValidationBatchClaimRequest) (first : AutoReviewValidationIdentity)
    (h : 0 < request.candidates.length) : AutoReviewValidationCall where
  id := t.nextId
  workflowThreadId := request.workflowThreadId
  batchFingerprint := request.batchFingerprint
  status := .claimed
  candidateCount := request.candidates.length
  candidates := h
  maxProviderAttempts := 1
  providerAttemptCount := 0
  attemptStartedAt := none
  reservedInputTokens := request.reservedInputTokens
  reservedOutputTokens := request.reservedOutputTokens
  reservedCostUsd := request.reservedCostUsd
  chargedInputTokens := none
  chargedOutputTokens := none
  chargedCostUsd := 0
  preparedContentHmac := request.preparedContentHmac
  serializedCharacterCount := request.serializedCharacterCount
  framedInputTokenCount := request.framedInputTokens
  maxOutputTokens := first.maxOutputTokens
  tokenEstimatorVersion := first.tokenEstimatorVersion
  tokenizerEncoding := first.tokenizerEncoding
  inputUsdPer1M := first.inputCostPer1MTokens
  outputUsdPer1M := first.outputCostPer1MTokens
  costPolicyVersion := first.costPolicyVersion
  providerSafetyStateVersion := first.providerSafetyStateVersion
  fingerprintKeyVersion := first.fingerprintKeyVersion
  fingerprintKeyMaterialVerifier := first.fingerprintKeyMaterialVerifier
  workflowExtractionCostCeilingUsd := first.confirmedExtractionCostCeilingUsd
  workflowValidationCostCeilingUsd := first.confirmedValidationCostCeilingUsd
  workflowTotalCostCeilingUsd := first.confirmedTotalCostCeilingUsd
  providerTimeoutSeconds := first.providerTimeoutSeconds
  providerSendStartWindowSeconds := first.providerSendStartWindowSeconds
  providerAttemptLeaseSeconds := first.providerAttemptLeaseSeconds
  providerCommitGraceSeconds := first.providerCommitGraceSeconds
  leaseToken := m.leaseToken
  leaseExpiresAt := some (m.now+first.providerAttemptLeaseSeconds)
  budgetOverrun := false
  budgetOverrunCostUsd := 0
  claimedAt := m.now
  terminalAt := none

def newValidation (call : AutoReviewValidationCall) (id : Nat) (candidate : ValidationCandidateClaim) :
    AutoReviewValidation where
  id := id
  reviewItemId := candidate.reviewItemId
  validationCallId := call.id
  workflowThreadId := call.workflowThreadId
  validationKey := candidate.validationKey
  evidenceVersionHash := candidate.identity.evidenceVersionHash
  candidateGenerationFingerprint := candidate.identity.candidateGenerationFingerprint
  status := .claimed
  validatorProvider := candidate.identity.validatorProvider
  validatorModel := candidate.identity.validatorModel
  reasoningEffort := candidate.identity.reasoningEffort
  validatorPromptVersion := candidate.identity.validatorPromptVersion
  validatorOutputContractVersion := candidate.identity.validatorOutputContractVersion
  policyVersion := candidate.identity.policyVersion
  fingerprintKeyVersion := candidate.identity.fingerprintKeyVersion
  fingerprintKeyMaterialVerifier := candidate.identity.fingerprintKeyMaterialVerifier
  costPolicyVersion := candidate.identity.costPolicyVersion
  confirmedValidationCostCeilingUsd := candidate.identity.confirmedValidationCostCeilingUsd
  claimResults := []
  minimumEntailmentScore := none
  uncertaintyCodes := []
  conflictCodes := []
  policyDecision := none
  policyReasonCodes := []
  inputTokens := 0
  outputTokens := 0
  estimatedCostUsd := 0
  cacheHit := false
  shadowComparisonStatus := none
  createdAt := m.now
  completedAt := none

/-- The safety, the rollout and the sources allow a claim. -/
def claimAuthority (t : Tables) (safety : AutoReviewProviderSafetyState) (workflowThreadId : Text) (version : Nat) : Bool :=
  lockSourceStates t workflowThreadId ≠ [] && (lockRolloutAuthority t workflowThreadId none).isSome &&
    !safety.breakerOpen && safety.stateVersion = version

def claimExisting (t : Tables) (safety : AutoReviewProviderSafetyState) (request : ValidationBatchClaimRequest)
    (first : AutoReviewValidationIdentity) (call : AutoReviewValidationCall) :
    Except StoreError (ValidationClaimResult × Tables) :=
  (verifyCallRequest t call request first).bind fun children =>
    match call.status with
    | .completed => (completedProjections children).bind fun completed =>
      if completed = [] then .error .projectionUnavailable
      else .ok (⟨.replayed,call.id,none,none,some .completed,none,completed⟩,t)
    | .failed => (failedReason children).map fun reason =>
      (⟨.replayed,call.id,none,none,some .failed,some reason,[]⟩,t)
    | .claimed =>
      if claimAuthority t safety request.workflowThreadId call.providerSafetyStateVersion = false then
        .error .safetyIdentityChanged
      else if call.leaseExpiresAt.all (m.now < ·) ∨ call.providerAttemptCount ≠ 0 then
        .ok (⟨.busy,call.id,none,call.leaseExpiresAt,none,none,[]⟩,t)
      else if m.leaseToken.length ≠ 64 then .error .leaseTokenUnavailable
      else
        let claimed := { call with
          leaseToken := m.leaseToken
          leaseExpiresAt := some (m.now+first.providerAttemptLeaseSeconds) }
        .ok (claimedResult claimed,t.putCall claimed [])

def claimNew (t : Tables) (safety : AutoReviewProviderSafetyState) (workflowRequest : AgentWorkflowRequest)
    (request : ValidationBatchClaimRequest) (first : AutoReviewValidationIdentity) :
    Except StoreError (ValidationClaimResult × Tables) :=
  if claimAuthority t safety request.workflowThreadId first.providerSafetyStateVersion = false then
    .error .safetyIdentityChanged
  else match workflowBudgetRefusal t workflowRequest request first with
    | some e => .error e
    | none =>
      if m.leaseToken.length ≠ 64 then .error .leaseTokenUnavailable
      else if h : 0 < request.candidates.length then
        let call := newCall m t request first h
        .ok (claimedResult call,{ t with
          calls := call::t.calls
          validations := (request.ordered.mapIdx fun i c => newValidation m call (t.nextId+1+i) c)++t.validations
          nextId := t.nextId+1+request.candidates.length })
      else .error .candidateCountInvalid

/-- `claim_or_replay`. -/
def claimOrReplay (request : ValidationBatchClaimRequest) (t : Tables) :
    Except StoreError (ValidationClaimResult × Tables) :=
  (validateRequest config request).bind fun first =>
    if runtimeMatches t.runtime first.fingerprintKeyVersion first.fingerprintKeyMaterialVerifier = false then
      .error .runtimeKeyIdentityChanged
    else (lockValidationSafety t true).bind fun safety =>
      (lockedWorkflowRequest t request.workflowThreadId false).bind fun workflow =>
        if first.profile ≠ workflow.2.profile then .error .workflowIdentityChanged
        else match t.calls.find? fun c => c.workflowThreadId = request.workflowThreadId ∧
            c.batchFingerprint = request.batchFingerprint with
          | some call => claimExisting m t safety request first call
          | none => claimNew m t safety workflow.2 request first

/-! ## Starting and dispatching -/

def ValidationAttemptAdmission.context (admission : ValidationAttemptAdmission) : ValidationLockedContext :=
  ⟨admission.validationCallId,admission.workflowThreadId,admission.batchFingerprint,admission.leaseToken⟩

/-- `_validate_sql_admission`. -/
def admissionMatches (call : AutoReviewValidationCall) (admission : ValidationAttemptAdmission) : Bool :=
  call.preparedContentHmac = admission.preparedContentHmac &&
  call.serializedCharacterCount = admission.serializedCharacterCount &&
  call.framedInputTokenCount = admission.framedInputTokens && call.maxOutputTokens = admission.maxOutputTokens &&
  call.reservedCostUsd = admission.recomputedReservedCostUsd &&
  call.fingerprintKeyVersion = admission.fingerprintKeyVersion &&
  call.fingerprintKeyMaterialVerifier = admission.fingerprintKeyMaterialVerifier &&
  call.tokenEstimatorVersion = admission.tokenEstimatorVersion && call.costPolicyVersion = admission.costPolicyVersion &&
  call.providerTimeoutSeconds = admission.providerTimeoutSeconds &&
  call.providerSendStartWindowSeconds = admission.providerSendStartWindowSeconds &&
  call.providerAttemptLeaseSeconds = admission.providerAttemptLeaseSeconds &&
  call.providerCommitGraceSeconds = admission.providerCommitGraceSeconds

/-- What a start that is refused for good leaves: the call failed without a charge, and the refusal. -/
def refuseStart (t : Tables) (call : AutoReviewValidationCall) (e : StoreError) : Except StoreError (StoreError × Tables) :=
  (lockedChildren t call).bind fun children =>
    (terminalFailure m call children .postValidationDrift 0 0 0).map fun p => (e,t.putCall p.1 p.2)

/-- The transaction of `mark_attempt_started`: a refusal that is committed, or the started call and its guards. -/
def startAttempt (admission : ValidationAttemptAdmission) (t : Tables) :
    Except StoreError ((StoreError ⊕ (AutoReviewValidationCall × Text × Text)) × Tables) :=
  (lockValidationSafety t false).bind fun safety =>
    let runtimeOk := runtimeMatches t.runtime admission.fingerprintKeyVersion admission.fingerprintKeyMaterialVerifier
    let safetyOk := providerSafetyMatches safety false true
    let rolloutOk := (lockRolloutAuthority t admission.workflowThreadId (some admission.expectedEffectiveMode)).isSome
    (lockedWorkflowRequest t admission.workflowThreadId false).bind fun _ =>
      (lockedCallOf t admission.context).bind fun call =>
        if call.status ≠ .claimed ∨ call.providerAttemptCount ≠ 0 ∨ call.leaseExpiresAt.all (· ≤ m.now) then
          .error .notClaimable
        else if admissionMatches call admission = false then .error .admissionIdentityChanged
        else
          let guards := (currentGuardHmacs config t admission.workflowThreadId
            (lockSourceStates t admission.workflowThreadId)).toOption.getD ([],[])
          let guardsOk := guards = (admission.expectedOwnerPermissionHmac,admission.expectedSourceStateHmac)
          let versionOk := safety.stateVersion = call.providerSafetyStateVersion
          if runtimeOk ∧ safetyOk ∧ rolloutOk ∧ versionOk ∧ guardsOk then
            let started := { call with
              providerAttemptCount := 1
              attemptStartedAt := some m.now
              leaseExpiresAt := some (m.now+call.providerAttemptLeaseSeconds) }
            .ok (.inr (started,guards),t.putCall started [])
          else
            let refusal :=
              if runtimeOk = false then .runtimeKeyIdentityChanged
              else if safetyOk = false ∨ ¬versionOk then .safetyIdentityChanged
              else if rolloutOk = false then .rolloutAuthorityChanged
              else .executionGuardChanged
            (refuseStart m t call refusal).map fun p => (.inl p.1,p.2)

/-- `mark_attempt_started`. -/
def markAttemptStarted (admission : ValidationAttemptAdmission) (w : World) : Except StoreError CommittedGrant × World :=
  match startAttempt config m admission w.tables with
  | .error e => (.error e,w)
  | .ok (.inl e,t) => (.error e,{ w with tables := t })
  | .ok (.inr (call,guards),t) =>
    let grant : CommittedGrant :=
      { attemptId := config.keys.attemptId call.leaseToken
        object := w.memory.nextObject
        deadline := m.monotonic+call.providerSendStartWindowSeconds
        providerTimeoutSeconds := call.providerTimeoutSeconds
        authoritativeLeaseExpiresAt := call.leaseExpiresAt.getD 0 }
    let memory := w.memory.popGrant grant.attemptId
    (.ok grant,
      { tables := t
        memory := { memory with
          activeGrants := (grant,admission.context)::memory.activeGrants
          permits := (grant.object,⟨false,false⟩)::memory.permits
          attemptGuards := (call.id,guards)::memory.attemptGuards.filter (·.1 ≠ call.id)
          nextObject := memory.nextObject+1 } })

structure PreparedValidationInvocation where
  preparedContentHmac : Text
  characterCount : Nat
  framedInputTokens : Nat
  maxOutputTokens : Nat
  candidateSlotIds : List Text
  expectedClaimFields : List (List Text)
  candidateEvidenceSlotIds : List (List Text)
  deriving DecidableEq

/-- The checks that `dispatch_prepared_validation` makes in its transaction. -/
def dispatchValid (t : Tables) (memory : Memory) (invocation : PreparedValidationInvocation)
    (context : ValidationLockedContext) : Except StoreError Bool :=
  (lockValidationSafety t false).bind fun safety =>
    (lockedWorkflowRequest t context.workflowThreadId false).bind fun _ =>
      (lockedCallOf t context).bind fun call =>
        (currentGuardHmacs config t context.workflowThreadId (lockSourceStates t context.workflowThreadId)).map
          fun guards =>
            call.status = .claimed && call.providerAttemptCount = 1 && call.leaseExpiresAt.any (m.now < ·) &&
            invocation.preparedContentHmac = call.preparedContentHmac &&
            invocation.characterCount = call.serializedCharacterCount &&
            invocation.framedInputTokens = call.framedInputTokenCount &&
            invocation.maxOutputTokens = call.maxOutputTokens &&
            memory.guards? context.validationCallId = some guards &&
            runtimeMatches t.runtime call.fingerprintKeyVersion call.fingerprintKeyMaterialVerifier &&
            providerSafetyMatches safety false true &&
            (lockRolloutAuthority t context.workflowThreadId none).isSome &&
            safety.stateVersion = call.providerSafetyStateVersion

/-- `consume_at_dispatch`. -/
def consumePermit (grant : CommittedGrant) (memory : Memory) : Except StoreError Unit × Memory :=
  match memory.permit? grant.object with
  | none => (.error .permitExpired,memory)
  | some permit =>
    if permit.consumed then (.error .permitConsumed,memory)
    else if permit.invalidated ∨ grant.deadline ≤ m.monotonic then (.error .permitExpired,memory)
    else (.ok (),memory.setPermit grant.object { permit with consumed := true })

/-- `dispatch_prepared_validation` up to the call of the provider. -/
def dispatchPreparedValidation (invocation : PreparedValidationInvocation) (grant : CommittedGrant) (w : World) :
    Except StoreError Unit × World :=
  match w.memory.grant? grant.attemptId with
  | none => (.error .grantRequired,w)
  | some (active,context) =>
    if active ≠ grant then (.error .grantRequired,w)
    else match dispatchValid config m w.tables w.memory invocation context with
      | .error e => (.error e,w)
      | .ok false =>
        (.error .dispatchChanged,
          { w with memory := (w.memory.popGrant grant.attemptId).invalidate grant.object })
      | .ok true =>
        match consumePermit m grant w.memory with
        | (.error e,memory) => (.error e,{ w with memory := memory.popGrant grant.attemptId })
        | (.ok (),memory) =>
          let popped := memory.popGrant grant.attemptId
          (.ok (),
            { w with memory := { popped with dispatchedCalls := context.validationCallId::popped.dispatchedCalls } })

end operations

end ParaWorks.AutoReview
