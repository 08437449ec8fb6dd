import ParaWorks.Lib.Text

/-!
# The contract of a paid validation batch

Prices are micro-dollars per million tokens and amounts micro-dollars, as the `NUMERIC(12,6)` columns hold them. The
keyed fingerprints are parameters.
-/

namespace ParaWorks.AutoReview

open Lib

/-- Micro-dollars. -/
abbrev Usd := Nat

/-! ## The registry -/

def autoReviewCostPolicyVersion : Text := text "auto-review-cost:v1"
def autoReviewTokenEstimatorVersion : Text := text "openai-o200k-chat:v1"
def autoReviewTokenizerEncoding : Text := text "o200k_base"
def autoReviewValidatorProvider : Text := text "openai"
def autoReviewValidatorModel : Text := text "gpt-5.6-terra"
def autoReviewReasoningEffort : Text := text "medium"
def autoReviewValidatorPromptVersion : Text := text "auto-review-validation:v2"
def autoReviewValidatorOutputContractVersion : Text := text "candidate-validation-batch:v1"
def autoReviewReplyPrimingTokens : Nat := 16
def autoReviewFramingSafetyTokens : Nat := 512
def autoReviewMaxInputChars : Nat := 12000
def autoReviewMaxInputTokens : Nat := 6000
def autoReviewMaxOutputTokens : Nat := 3072
def autoReviewMaxCandidatesPerBatch : Nat := 4
def autoReviewMaxProviderAttempts : Nat := 1
def autoReviewValidatorInputUsdPer1M : Nat := 2000000
def autoReviewValidatorOutputUsdPer1M : Nat := 12000000
def autoReviewMaxBatchCostUsd : Usd := 48864
def autoReviewMaxValidationCostUsd : Usd := 97728

/-- `_token_cost`: the exact cost, rounded up to a micro-dollar. -/
def tokenCost (inputTokens outputTokens inputPrice outputPrice : Nat) : Usd :=
  (inputTokens*inputPrice+outputTokens*outputPrice+999999)/1000000

/-! ## Identities -/

structure AutoReviewValidationIdentity where
  workflowExecutionIdentityHmac : Text
  securityScopeHmac : Text
  candidateKey : Text
  evidenceVersionHash : Text
  normalizedClaimFingerprint : Text
  candidateGenerationFingerprint : Text
  validatorProvider : Text
  validatorModel : Text
  reasoningEffort : Text
  validatorPromptVersion : Text
  validatorOutputContractVersion : Text
  policyVersion : Text
  fingerprintKeyVersion : Text
  fingerprintKeyMaterialVerifier : Text
  tokenEstimatorVersion : Text
  tokenizerEncoding : Text
  maxInputTokens : Nat
  maxOutputTokens : Nat
  maxCandidatesPerBatch : Nat
  maxBatchesPerWorkflow : Nat
  maxCandidatesPerWorkflow : Nat
  maxProviderAttempts : Nat
  providerTimeoutSeconds : Nat
  providerSendStartWindowSeconds : Nat
  providerAttemptLeaseSeconds : Nat
  providerCommitGraceSeconds : Nat
  inputCostPer1MTokens : Nat
  outputCostPer1MTokens : Nat
  costPolicyVersion : Text
  providerSafetyStateVersion : Nat
  rolloutControlEpoch : Nat
  authorizedPercentageAtLaunch : Nat
  rolloutAuthorizationGeneration : Nat
  confirmedExtractionCostCeilingUsd : Usd
  confirmedValidationCostCeilingUsd : Usd
  confirmedTotalCostCeilingUsd : Usd
  deriving DecidableEq

/-- The fields that the candidates of one batch share: the variable ones are cleared. -/
def AutoReviewValidationIdentity.shared (identity : AutoReviewValidationIdentity) : AutoReviewValidationIdentity :=
  { identity with
    candidateKey := []
    evidenceVersionHash := []
    normalizedClaimFingerprint := []
    candidateGenerationFingerprint := [] }

structure ValidationCandidateClaim where
  reviewItemId : Nat
  validationKey : Text
  identity : AutoReviewValidationIdentity
  deriving DecidableEq

/-- The order of validation keys, by code point. -/
def keyLe (a b : Text) : Prop := a ≤ b

instance (a b : Text) : Decidable (keyLe a b) := inferInstanceAs (Decidable (a ≤ b))

structure ValidationBatchClaimRequest where
  workflowThreadId : Text
  batchFingerprint : Text
  candidates : List ValidationCandidateClaim
  maxProviderAttempts : Nat
  preparedContentHmac : Text
  serializedCharacterCount : Nat
  framedInputTokens : Nat
  reservedInputTokens : Nat
  reservedOutputTokens : Nat
  reservedCostUsd : Usd
  deriving DecidableEq

/-- The candidates in the order of their keys. -/
def ValidationBatchClaimRequest.ordered (request : ValidationBatchClaimRequest) : List ValidationCandidateClaim :=
  request.candidates.insertionSort fun a b => keyLe a.validationKey b.validationKey

structure ValidationAttemptAdmission where
  validationCallId : Nat
  workflowThreadId : Text
  batchFingerprint : Text
  leaseToken : Text
  preparedContentHmac : Text
  serializedCharacterCount : Nat
  framedInputTokens : Nat
  maxOutputTokens : Nat
  recomputedReservedCostUsd : Usd
  expectedOwnerPermissionHmac : Text
  expectedSourceStateHmac : Text
  fingerprintKeyVersion : Text
  fingerprintKeyMaterialVerifier : Text
  tokenEstimatorVersion : Text
  costPolicyVersion : Text
  expectedEffectiveMode : Text
  providerTimeoutSeconds : Nat
  providerSendStartWindowSeconds : Nat
  providerAttemptLeaseSeconds : Nat
  providerCommitGraceSeconds : Nat
  deriving DecidableEq

structure ValidationLockedContext where
  validationCallId : Nat
  workflowThreadId : Text
  batchFingerprint : Text
  leaseToken : Text
  deriving DecidableEq

/-! ## Results -/

inductive Verdict where
  | supported
  | partiallySupported
  | unsupported
  | contradicted
  deriving DecidableEq

inductive ClaimScope where
  | directFact
  | inference
  | decision
  | todo
  | unknown
  deriving DecidableEq

/-- The score is in ten-thousandths. -/
structure FieldValidationResult where
  fieldKey : Text
  verdict : Verdict
  claimScope : ClaimScope
  entailmentScore : Nat
  evidenceSlotIds : List Text
  deriving DecidableEq

structure CandidateValidationResult where
  candidateSlotId : Text
  claimResults : List FieldValidationResult
  uncertaintyCodes : List Text
  conflictCodes : List Text
  deriving DecidableEq

structure CandidateValidationBatchResult where
  results : List CandidateValidationResult
  deriving DecidableEq

inductive AutoReviewPolicyDecision where
  | autoApprove
  | humanReview
  | needsMoreEvidence
  | reuseTrusted
  deriving DecidableEq

/-- The reason codes that validation writes. -/
inductive AutoReviewPolicyReasonCode where
  | eligible
  | budgetExceeded
  | trustedExactMatch
  | validatorUnavailable
  | validatorMalformed
  | validatorNotSupported
  | validatorNotDirectFact
  | validatorScoreBelowThreshold
  | validatorUncertain
  | validatorConflict
  | postValidationDrift
  | ineligible (code : Text)
  deriving DecidableEq

structure ValidationCandidateCompletion where
  reviewItemId : Nat
  validationKey : Text
  result : CandidateValidationResult
  policyDecision : AutoReviewPolicyDecision
  policyReasonCodes : List AutoReviewPolicyReasonCode
  deriving DecidableEq

structure ValidationBatchCompletion where
  validationCallId : Nat
  workflowThreadId : Text
  batchFingerprint : Text
  leaseToken : Text
  candidates : List ValidationCandidateCompletion
  inputTokens : Nat
  outputTokens : Nat
  deriving DecidableEq

structure ValidationBatchFailure where
  validationCallId : Nat
  workflowThreadId : Text
  batchFingerprint : Text
  leaseToken : Text
  reasonCode : AutoReviewPolicyReasonCode
  usageKnown : Bool
  inputTokens : Option Nat
  outputTokens : Option Nat
  deriving DecidableEq

structure CompletedValidationProjection where
  validationCallId : Nat
  validationId : Nat
  reviewItemId : Nat
  result : CandidateValidationResult
  policyDecision : AutoReviewPolicyDecision
  policyReasonCodes : List AutoReviewPolicyReasonCode
  inputTokens : Nat
  outputTokens : Nat
  estimatedCostUsd : Usd
  cacheHit : Bool
  deriving DecidableEq

/-! ## Allocation to the candidates -/

/-- `_allocate_integer_tokens` among at least one candidate: equal shares, the remainder to the first. -/
def allocateIntegerTokens (total count : Nat) : List Nat :=
  (List.range count).map fun index => total/count+if index < total%count then 1 else 0

/-- The cost of a share in millionths of a micro-dollar. -/
def rawCosts (inputPrice outputPrice : Nat) (inputs outputs : List Nat) : List Nat :=
  List.zipWith (fun i o => i*inputPrice+o*outputPrice) inputs outputs

/-- The places of the shares that are rounded up, in order: the largest remainders first, then by key. -/
def allocationOrder (raw : List Nat) (tieBreakers : List Text) : List Nat :=
  (List.range raw.length).insertionSort fun i j =>
    raw.getD j 0%1000000 < raw.getD i 0%1000000 ∨
    raw.getD j 0%1000000 = raw.getD i 0%1000000 ∧ keyLe (tieBreakers.getD i []) (tieBreakers.getD j [])

/-- `_allocate_micro_usd`; `none` is a total below the sum of the rounded down shares. -/
def allocateMicroUsd (inputs outputs : List Nat) (inputPrice outputPrice : Nat) (totalCost : Usd)
    (tieBreakers : List Text) : Option (List Usd) :=
  let raw := rawCosts inputPrice outputPrice inputs outputs
  let floors := raw.map (·/1000000)
  if totalCost < floors.sum then none
  else
    let raised := (allocationOrder raw tieBreakers).take (totalCost-floors.sum)
    some ((List.range floors.length).map fun index => floors.getD index 0+if index ∈ raised then 1 else 0)

theorem sum_shares (quotient remainder count : Nat) :
    ((List.range count).map fun index => quotient+if index < remainder then 1 else 0).sum =
      count*quotient+min count remainder := by
  induction count with
  | zero => simp
  | succ count ih =>
    rw [List.range_succ,List.map_append,List.sum_append,ih]
    simp only [List.map_cons,List.map_nil,List.sum_cons,List.sum_nil,Nat.succ_mul]
    split <;> omega

/-- Nothing is lost or added by the allocation. -/
theorem allocateIntegerTokens_sum (total : Nat) {count : Nat} (h : 0 < count) :
    (allocateIntegerTokens total count).sum = total := by
  have hlt := Nat.mod_lt total h
  have hdiv := Nat.div_add_mod total count
  unfold allocateIntegerTokens
  rw [sum_shares]
  omega

theorem allocateIntegerTokens_length (total count : Nat) : (allocateIntegerTokens total count).length = count := by
  simp [allocateIntegerTokens]

inductive AutoReviewEligibilityDecision where
  | eligible
  | humanReview
  | needsMoreEvidence
  | reuseTrusted
  deriving DecidableEq

structure EligibilityPolicyResult where
  decision : AutoReviewEligibilityDecision
  reasonCodes : List AutoReviewPolicyReasonCode
  reasoned : reasonCodes ≠ []
  deriving DecidableEq

structure PolicyValidationIdentity where
  provider : Text
  model : Text
  reasoningEffort : Text
  promptVersion : Text
  outputContractVersion : Text
  policyVersion : Text
  deriving DecidableEq

def supportedValidationIdentity : PolicyValidationIdentity where
  provider := autoReviewValidatorProvider
  model := autoReviewValidatorModel
  reasoningEffort := autoReviewReasoningEffort
  promptVersion := autoReviewValidatorPromptVersion
  outputContractVersion := autoReviewValidatorOutputContractVersion
  policyVersion := text "auto-review-policy:v1"

structure ValidationPolicyInput where
  eligibility : EligibilityPolicyResult
  expectedCandidateSlotId : Text
  expectedClaimFields : List Text
  expectedEvidenceSlotIds : List Text
  validatorAvailable : Bool
  validatorMalformed : Bool
  result : Option CandidateValidationResult
  validationIdentity : PolicyValidationIdentity
  postValidationStateMatches : Bool
  deriving DecidableEq

structure AutoReviewPolicyResult where
  decision : AutoReviewPolicyDecision
  reasonCodes : List AutoReviewPolicyReasonCode
  reasoned : reasonCodes ≠ []
  deriving DecidableEq

/-- `_policy`. -/
def policy (decision : AutoReviewPolicyDecision) (reason : AutoReviewPolicyReasonCode) : AutoReviewPolicyResult :=
  ⟨decision,[reason],by simp⟩

/-- `AUTO_REVIEW_MIN_ENTAILMENT`, in ten-thousandths. -/
def autoReviewMinEntailment : Nat := 9800

/-- The slots of a claim are a non-empty set of the allowed ones. -/
def slotsAllowed (claim : FieldValidationResult) (allowed : List Text) : Bool :=
  claim.evidenceSlotIds ≠ [] && claim.evidenceSlotIds.Nodup && claim.evidenceSlotIds.all (· ∈ allowed)

def evaluateResult (value : ValidationPolicyInput) (result : CandidateValidationResult) : AutoReviewPolicyResult :=
  if result.candidateSlotId ≠ value.expectedCandidateSlotId ∨ result.claimResults.length ≠ 2 ∨
      result.claimResults.map (·.fieldKey) ≠ value.expectedClaimFields then
    policy .humanReview .validatorMalformed
  else if ∃ claim ∈ result.claimResults, slotsAllowed claim value.expectedEvidenceSlotIds = false then
    policy .humanReview .validatorMalformed
  else if result.uncertaintyCodes ≠ [] then policy .humanReview .validatorUncertain
  else if result.conflictCodes ≠ [] then policy .humanReview .validatorConflict
  else if ∃ claim ∈ result.claimResults, claim.verdict ≠ .supported then policy .humanReview .validatorNotSupported
  else if ∃ claim ∈ result.claimResults, claim.claimScope ≠ .directFact then
    policy .humanReview .validatorNotDirectFact
  else if ∃ claim ∈ result.claimResults, claim.entailmentScore < autoReviewMinEntailment then
    policy .humanReview .validatorScoreBelowThreshold
  else if value.eligibility.decision = .reuseTrusted then policy .reuseTrusted .trustedExactMatch
  else policy .autoApprove .eligible

/-- `evaluate_validation`. -/
def evaluateValidation (value : ValidationPolicyInput) : AutoReviewPolicyResult :=
  match value.eligibility.decision with
  | .humanReview => ⟨.humanReview,value.eligibility.reasonCodes,value.eligibility.reasoned⟩
  | .needsMoreEvidence => ⟨.needsMoreEvidence,value.eligibility.reasonCodes,value.eligibility.reasoned⟩
  | _ =>
    if value.validationIdentity ≠ supportedValidationIdentity then policy .humanReview .validatorUnavailable
    else if value.postValidationStateMatches = false then policy .needsMoreEvidence .postValidationDrift
    else if value.validatorAvailable = false then policy .humanReview .validatorUnavailable
    else if value.validatorMalformed then policy .humanReview .validatorMalformed
    else match value.result with
      | none => policy .humanReview .validatorMalformed
      | some result => evaluateResult value result

/-- `evaluate_batch`. -/
def evaluateBatch (values : List ValidationPolicyInput) : List AutoReviewPolicyResult :=
  let expectedSlots := (List.range values.length).map fun i => text "C0"++text (toString (i+1))
  let results := values.map evaluateValidation
  if 4 < values.length ∨ values.map (·.expectedCandidateSlotId) ≠ expectedSlots ∨
      ∃ r ∈ results, r.reasonCodes = [.validatorMalformed] then
    values.map fun _ => policy .humanReview .validatorMalformed
  else results

end ParaWorks.AutoReview
