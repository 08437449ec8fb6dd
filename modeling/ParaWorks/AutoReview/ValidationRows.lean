import ParaWorks.AutoReview.Contracts

/-!
# The rows of the validation store

The tables that a validation call is claimed, started and closed over, and what one process keeps of its grants.
-/

namespace ParaWorks.AutoReview

open Lib

/-! ## Authority -/

structure AutoReviewRuntimeKeyState where
  ready : Bool
  fingerprintKeyVersion : Text
  fingerprintKeyMaterialVerifier : Text
  deriving DecidableEq

/-- The safety row of the validation route. -/
structure AutoReviewProviderSafetyState where
  stateVersion : Nat
  breakerOpen : Bool
  breakerReasonCode : Option Text
  authorizedCostPolicyVersion : Text
  tokenEstimatorVersion : Text
  tokenizerEncoding : Text
  replyPrimingTokens : Nat
  framingSafetyTokens : Nat
  inputUsdPer1M : Nat
  outputUsdPer1M : Nat
  overrunCount : Nat
  lastOverrunCostUsd : Option Usd
  lastOverrunAt : Option Nat
  lastEventSequence : Nat
  updatedAt : Nat
  deriving DecidableEq

structure AutoReviewProviderSafetyEvent where
  eventSequence : Nat
  priorStateVersion : Nat
  newStateVersion : Nat
  priorBreakerOpen : Bool
  newBreakerOpen : Bool
  reasonCode : Text
  validationCallId : Nat
  createdAt : Nat
  deriving DecidableEq

structure AutoReviewRolloutState where
  securityScopeId : Text
  policyVersion : Text
  breakerOpen : Bool
  controlEpoch : Nat
  authorizationGeneration : Nat
  maxAuthorizedPercentage : Nat
  shadowPredictedCount : Nat
  stateVersion : Nat
  updatedAt : Nat
  deriving DecidableEq

/-! ## The workflow -/

structure AgentWorkflowThread where
  threadId : Text
  securityScopeId : Text
  ownerSubjectId : Text
  cancelledAt : Option Nat
  deriving DecidableEq

/-- The columns of a V2.1 request that `_verify_workflow_request` compares. -/
structure ValidationProfile where
  validatorProvider : Text
  validatorModel : Text
  reasoningEffort : Text
  validatorPromptVersion : Text
  validatorOutputContractVersion : Text
  policyVersion : Text
  costPolicyVersion : Text
  tokenEstimatorVersion : Text
  tokenizerEncoding : Text
  replyPrimingTokens : Nat
  framingSafetyTokens : Nat
  maxInputTokens : Nat
  maxOutputTokens : Nat
  maxCandidatesPerBatch : Nat
  maxBatchesPerWorkflow : Nat
  maxCandidatesPerWorkflow : Nat
  maxProviderAttempts : Nat
  providerTimeoutSeconds : Nat
  providerSendStartWindowSeconds : Nat
  providerAttemptLeaseSeconds : Nat
  providerCommitGraceSeconds : Nat
  validatorInputUsdPer1M : Nat
  validatorOutputUsdPer1M : Nat
  authorizedPercentageAtLaunch : Nat
  rolloutAuthorizationGeneration : Nat
  providerSafetyStateVersion : Nat
  rolloutControlEpoch : Nat
  confirmedExtractionCostCeilingUsd : Usd
  confirmedValidationCostCeilingUsd : Usd
  confirmedTotalCostCeilingUsd : Usd
  fingerprintKeyVersion : Text
  fingerprintKeyMaterialVerifier : Text
  deriving DecidableEq

def AutoReviewValidationIdentity.profile (identity : AutoReviewValidationIdentity) : ValidationProfile where
  validatorProvider := identity.validatorProvider
  validatorModel := identity.validatorModel
  reasoningEffort := identity.reasoningEffort
  validatorPromptVersion := identity.validatorPromptVersion
  validatorOutputContractVersion := identity.validatorOutputContractVersion
  policyVersion := identity.policyVersion
  costPolicyVersion := identity.costPolicyVersion
  tokenEstimatorVersion := identity.tokenEstimatorVersion
  tokenizerEncoding := identity.tokenizerEncoding
  replyPrimingTokens := autoReviewReplyPrimingTokens
  framingSafetyTokens := autoReviewFramingSafetyTokens
  maxInputTokens := identity.maxInputTokens
  maxOutputTokens := identity.maxOutputTokens
  maxCandidatesPerBatch := identity.maxCandidatesPerBatch
  maxBatchesPerWorkflow := identity.maxBatchesPerWorkflow
  maxCandidatesPerWorkflow := identity.maxCandidatesPerWorkflow
  maxProviderAttempts := identity.maxProviderAttempts
  providerTimeoutSeconds := identity.providerTimeoutSeconds
  providerSendStartWindowSeconds := identity.providerSendStartWindowSeconds
  providerAttemptLeaseSeconds := identity.providerAttemptLeaseSeconds
  providerCommitGraceSeconds := identity.providerCommitGraceSeconds
  validatorInputUsdPer1M := identity.inputCostPer1MTokens
  validatorOutputUsdPer1M := identity.outputCostPer1MTokens
  authorizedPercentageAtLaunch := identity.authorizedPercentageAtLaunch
  rolloutAuthorizationGeneration := identity.rolloutAuthorizationGeneration
  providerSafetyStateVersion := identity.providerSafetyStateVersion
  rolloutControlEpoch := identity.rolloutControlEpoch
  confirmedExtractionCostCeilingUsd := identity.confirmedExtractionCostCeilingUsd
  confirmedValidationCostCeilingUsd := identity.confirmedValidationCostCeilingUsd
  confirmedTotalCostCeilingUsd := identity.confirmedTotalCostCeilingUsd
  fingerprintKeyVersion := identity.fingerprintKeyVersion
  fingerprintKeyMaterialVerifier := identity.fingerprintKeyMaterialVerifier

structure AgentWorkflowRequest where
  workflowThreadId : Text
  profile : ValidationProfile
  autoReviewMode : Text
  autoReviewBudgetLimitUsd : Usd
  deriving DecidableEq

structure AgentWorkflowEvidenceRef where
  workflowThreadId : Text
  canonicalRowId : Nat
  canonicalSourceType : Text
  permissionLevelSnapshot : Text
  contentSignature : Text
  contentFingerprint : Text
  deriving DecidableEq

structure Source where
  id : Nat
  sourceType : Text
  permissionLevel : Text
  serverContentSignatureSchema : Option Text
  serverContentSignature : Option Text
  deriving DecidableEq

structure ValidationSourceState where
  canonicalRowId : Nat
  canonicalSourceType : Text
  contentSignature : Text
  contentFingerprint : Text
  permissionLevel : Text
  deriving DecidableEq

/-! ## Calls -/

inductive CallStatus where
  | claimed
  | completed
  | failed
  deriving DecidableEq

/-- What an extraction call of the workflow obliges. -/
structure AutoReviewExtractionObligation where
  workflowThreadId : Text
  status : CallStatus
  reservedCostUsd : Usd
  chargedCostUsd : Usd
  deriving DecidableEq

structure AutoReviewValidationCall where
  id : Nat
  workflowThreadId : Text
  batchFingerprint : Text
  status : CallStatus
  candidateCount : Nat
  /-- a check of the table -/
  candidates : 0 < candidateCount
  maxProviderAttempts : Nat
  providerAttemptCount : Nat
  attemptStartedAt : Option Nat
  reservedInputTokens : Nat
  reservedOutputTokens : Nat
  reservedCostUsd : Usd
  chargedInputTokens : Option Nat
  chargedOutputTokens : Option Nat
  chargedCostUsd : Usd
  preparedContentHmac : Text
  serializedCharacterCount : Nat
  framedInputTokenCount : Nat
  maxOutputTokens : Nat
  tokenEstimatorVersion : Text
  tokenizerEncoding : Text
  inputUsdPer1M : Nat
  outputUsdPer1M : Nat
  costPolicyVersion : Text
  providerSafetyStateVersion : Nat
  fingerprintKeyVersion : Text
  fingerprintKeyMaterialVerifier : Text
  workflowExtractionCostCeilingUsd : Usd
  workflowValidationCostCeilingUsd : Usd
  workflowTotalCostCeilingUsd : Usd
  providerTimeoutSeconds : Nat
  providerSendStartWindowSeconds : Nat
  providerAttemptLeaseSeconds : Nat
  providerCommitGraceSeconds : Nat
  leaseToken : Text
  leaseExpiresAt : Option Nat
  budgetOverrun : Bool
  budgetOverrunCostUsd : Usd
  claimedAt : Nat
  terminalAt : Option Nat
  deriving DecidableEq

/-- One candidate of a call. -/
structure AutoReviewValidation where
  id : Nat
  reviewItemId : Nat
  validationCallId : Nat
  workflowThreadId : Text
  validationKey : Text
  evidenceVersionHash : Text
  candidateGenerationFingerprint : Text
  status : CallStatus
  validatorProvider : Text
  validatorModel : Text
  reasoningEffort : Text
  validatorPromptVersion : Text
  validatorOutputContractVersion : Text
  policyVersion : Text
  fingerprintKeyVersion : Text
  fingerprintKeyMaterialVerifier : Text
  costPolicyVersion : Text
  confirmedValidationCostCeilingUsd : Usd
  claimResults : List FieldValidationResult
  minimumEntailmentScore : Option Nat
  uncertaintyCodes : List Text
  conflictCodes : List Text
  policyDecision : Option AutoReviewPolicyDecision
  policyReasonCodes : List AutoReviewPolicyReasonCode
  inputTokens : Nat
  outputTokens : Nat
  estimatedCostUsd : Usd
  cacheHit : Bool
  shadowComparisonStatus : Option Text
  createdAt : Nat
  completedAt : Option Nat
  deriving DecidableEq

structure Tables where
  runtime : Option AutoReviewRuntimeKeyState
  safety : Option AutoReviewProviderSafetyState
  safetyEvents : List AutoReviewProviderSafetyEvent
  rollouts : List AutoReviewRolloutState
  threads : List AgentWorkflowThread
  requests : List AgentWorkflowRequest
  evidenceRefs : List AgentWorkflowEvidenceRef
  sources : List Source
  extractionCalls : List AutoReviewExtractionObligation
  calls : List AutoReviewValidationCall
  validations : List AutoReviewValidation
  nextId : Nat
  deriving DecidableEq

/-- The call that the context names. -/
def ValidationLockedContext.names (context : ValidationLockedContext) (call : AutoReviewValidationCall) : Bool :=
  call.id = context.validationCallId && call.workflowThreadId = context.workflowThreadId &&
  call.batchFingerprint = context.batchFingerprint && call.leaseToken = context.leaseToken

namespace Tables

def thread (t : Tables) (id : Text) : Option AgentWorkflowThread := t.threads.find? (·.threadId = id)

def request (t : Tables) (id : Text) : Option AgentWorkflowRequest := t.requests.find? (·.workflowThreadId = id)

/-- `_locked_call`. -/
def lockedCall (t : Tables) (context : ValidationLockedContext) : Option AutoReviewValidationCall :=
  t.calls.find? context.names

/-- The candidates of a call by their keys. -/
def children (t : Tables) (callId : Nat) : List AutoReviewValidation :=
  (t.validations.filter (·.validationCallId = callId)).insertionSort fun a b => keyLe a.validationKey b.validationKey

/-- The rows of one call are replaced. -/
def putCall (t : Tables) (call : AutoReviewValidationCall) (children : List AutoReviewValidation) : Tables :=
  { t with
    calls := t.calls.map fun c => if c.id = call.id then call else c
    validations := t.validations.map fun v => (children.find? (·.id = v.id)).getD v }

end Tables

/-- What a call obliges the workflow to. -/
def obligation (status : CallStatus) (reserved charged : Usd) : Usd :=
  if status = .completed ∨ status = .failed then charged else reserved

/-! ## The memory of one process -/

structure CommittedGrant where
  attemptId : Text
  /-- which of the objects with this attempt id -/
  object : Nat
  deadline : Nat
  providerTimeoutSeconds : Nat
  authoritativeLeaseExpiresAt : Nat
  deriving DecidableEq

structure Permit where
  consumed : Bool
  invalidated : Bool
  deriving DecidableEq

structure Memory where
  activeGrants : List (CommittedGrant × ValidationLockedContext)
  permits : List (Nat × Permit)
  dispatchedCalls : List Nat
  attemptGuards : List (Nat × Text × Text)
  nextObject : Nat
  deriving DecidableEq

namespace Memory

def grant? (memory : Memory) (attemptId : Text) : Option (CommittedGrant × ValidationLockedContext) :=
  memory.activeGrants.find? (·.1.attemptId = attemptId)

def popGrant (memory : Memory) (attemptId : Text) : Memory :=
  { memory with activeGrants := memory.activeGrants.filter (·.1.attemptId ≠ attemptId) }

def guards? (memory : Memory) (callId : Nat) : Option (Text × Text) :=
  (memory.attemptGuards.find? (·.1 = callId)).map (·.2)

def permit? (memory : Memory) (object : Nat) : Option Permit := (memory.permits.find? (·.1 = object)).map (·.2)

def setPermit (memory : Memory) (object : Nat) (permit : Permit) : Memory :=
  { memory with permits := (object,permit)::memory.permits.filter (·.1 ≠ object) }

/-- `invalidate_from_store`. -/
def invalidate (memory : Memory) (object : Nat) : Memory :=
  match memory.permit? object with
  | none => memory
  | some permit => memory.setPermit object { permit with invalidated := true }

/-- The call has been closed. -/
def forget (memory : Memory) (callId : Nat) : Memory :=
  { memory with
    dispatchedCalls := memory.dispatchedCalls.filter (· ≠ callId)
    attemptGuards := memory.attemptGuards.filter (·.1 ≠ callId) }

end Memory

structure World where
  tables : Tables
  memory : Memory
  deriving DecidableEq

end ParaWorks.AutoReview
