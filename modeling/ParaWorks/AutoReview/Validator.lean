import ParaWorks.AutoReview.Usage
import ParaWorks.AutoReview.Contracts
import ParaWorks.AutoReview.ValidationClosing

/-!
# The validator and its orchestrator

`AutoReviewValidator.invoke_prepared` and `AutoReviewValidationOrchestrator.execute`. Between two transactions of one
execution the world is what other processes have made of it.
-/

namespace ParaWorks.AutoReview

open Lib

/-! ## The provider's answer -/

/-- What `structured.invoke` returns: a mapping with the three entries, or something else. `parsed` is `none` when it is
no `CandidateValidationBatchResult`, and `raw` when it is no `AIMessage`. -/
inductive ProviderResponse where
  | mapping (parsingError : Bool) (parsed : Option CandidateValidationBatchResult) (raw : Option AIMessage)
  | other

/-- The raw message of a response. -/
def ProviderResponse.raw : ProviderResponse → Option AIMessage
  | .mapping _ _ raw => raw
  | .other => none

structure ValidationUsage where
  inputTokens : Nat
  outputTokens : Nat
  estimatedCostUsd : Usd
  deriving DecidableEq

/-- The checks of `_validate_result_integrity` on the result at one place. -/
def resultFits (invocation : PreparedValidationInvocation) (index : Nat) (result : CandidateValidationResult) : Bool :=
  invocation.expectedClaimFields[index]? = some (result.claimResults.map (·.fieldKey)) &&
  (invocation.candidateEvidenceSlotIds[index]?).any fun allowed => result.claimResults.all (slotsAllowed · allowed)

/-- `_validate_result_integrity`. -/
def validateResultIntegrity (parsed : CandidateValidationBatchResult) (invocation : PreparedValidationInvocation) : Bool :=
  parsed.results.map (·.candidateSlotId) = invocation.candidateSlotIds &&
  parsed.results.zipIdx.all fun p => resultFits invocation p.2 p.1

/-- `_parse_provider_result`; `none` is its `AutoReviewValidationError`. -/
def parseProviderResult (response : ProviderResponse) (invocation : PreparedValidationInvocation) :
    Option (CandidateValidationBatchResult × ValidationUsage) :=
  match response with
  | .mapping false (some parsed) (some raw) =>
    if validateResultIntegrity parsed invocation = false then none
    else (parseMessage raw).bind fun usage =>
      if autoReviewMaxInputTokens < usage.inputTokens ∨ autoReviewMaxOutputTokens < usage.outputTokens then none
      else some (parsed,⟨usage.inputTokens,usage.outputTokens,
        tokenCost usage.inputTokens usage.outputTokens autoReviewValidatorInputUsdPer1M autoReviewValidatorOutputUsdPer1M⟩)
  | _ => none

/-! ## One execution -/

structure PreparedValidationBatch where
  claim : ValidationBatchClaimRequest
  admission : ValidationAttemptAdmission
  invocation : PreparedValidationInvocation
  policyInputs : List ValidationPolicyInput

inductive Disposition where
  | completed
  | replayed
  | busy
  | failed
  deriving DecidableEq

structure ValidationOrchestrationResult where
  disposition : Disposition
  validationCallId : Nat
  completed : List CompletedValidationProjection
  failureReasonCode : Option AutoReviewPolicyReasonCode
  deriving DecidableEq

/-- What leaves `execute` by an exception. -/
inductive ExecutionError where
  | store (e : StoreError)
  | admissionMismatch
  /-- `zip(.., strict=True)` over lists of different lengths -/
  | strictZip
  deriving DecidableEq

/-- What surrounds an execution: the clocks of its transactions, what other processes do before each of them, the
logging controls, and the provider's answer (`none` when the provider raises). -/
structure Surroundings where
  claimAt : Moment
  attemptAt : Moment
  dispatchAt : Moment
  closeAt : Moment
  beforeAttempt : World → World
  beforeDispatch : World → World
  beforeClose : World → World
  loggingSafe : Bool
  loggingSafeAtSend : Bool
  response : Option ProviderResponse

section execute

variable (config : StoreConfig) (env : Surroundings) (batch : PreparedValidationBatch)

/-- `invoke_prepared`: the results with the usage the sink got, or `none` for its `AutoReviewValidationError`. -/
def invokePrepared (grant : CommittedGrant) (w : World) :
    Option (List CandidateValidationResult × ValidationUsage) × World :=
  if env.loggingSafe = false then (none,w)
  else match dispatchPreparedValidation config env.dispatchAt batch.invocation grant w with
    | (.error _,w) => (none,w)
    | (.ok (),w) =>
      if env.loggingSafeAtSend = false then (none,w)
      else ((env.response.bind (parseProviderResult · batch.invocation)).map fun p => (p.1.results,p.2),w)

def failureOf (context : ValidationLockedContext) (reason : AutoReviewPolicyReasonCode) (usage : Option ValidationUsage) :
    ValidationBatchFailure :=
  ⟨context.validationCallId,context.workflowThreadId,context.batchFingerprint,context.leaseToken,reason,usage.isSome,
    usage.map (·.inputTokens),usage.map (·.outputTokens)⟩

/-- The call is failed, and the failure reported. -/
def closeFailed (context : ValidationLockedContext) (reason : AutoReviewPolicyReasonCode) (usage : Option ValidationUsage)
    (w : World) : Except ExecutionError ValidationOrchestrationResult × World :=
  match fail env.closeAt context (failureOf context reason usage) w with
  | (.error e,w) => (.error (.store e),w)
  | (.ok (),w) => (.ok ⟨.failed,context.validationCallId,[],some reason⟩,w)

def completionOf (context : ValidationLockedContext) (claims : List ValidationCandidateClaim)
    (results : List CandidateValidationResult) (decisions : List AutoReviewPolicyResult) (usage : ValidationUsage) :
    ValidationBatchCompletion :=
  { validationCallId := context.validationCallId
    workflowThreadId := context.workflowThreadId
    batchFingerprint := context.batchFingerprint
    leaseToken := context.leaseToken
    candidates := List.zipWith (fun c (p : CandidateValidationResult × AutoReviewPolicyResult) =>
      ⟨c.reviewItemId,c.validationKey,p.1,p.2.decision,p.2.reasonCodes⟩) claims (results.zip decisions)
    inputTokens := usage.inputTokens
    outputTokens := usage.outputTokens }

/-- The decisions on the results. -/
def decisionsOf (results : List CandidateValidationResult) : List AutoReviewPolicyResult :=
  evaluateBatch (List.zipWith (fun input r => { input with result := some r }) batch.policyInputs results)

def closeCompleted (context : ValidationLockedContext) (results : List CandidateValidationResult) (usage : ValidationUsage)
    (w : World) : Except ExecutionError ValidationOrchestrationResult × World :=
  if results.length ≠ batch.policyInputs.length then closeFailed env context .validatorMalformed (some usage) w
  else if batch.claim.ordered.length ≠ results.length then (.error .strictZip,w)
  else
    match complete config env.closeAt context
        (completionOf context batch.claim.ordered results (decisionsOf batch results) usage) w with
    | (.error e,w) => (.error (.store e),w)
    | (.ok completed,w) => (.ok ⟨.completed,context.validationCallId,completed,none⟩,w)

/-- What follows the invocation of the validator. -/
def close (context : ValidationLockedContext) (answer : Option (List CandidateValidationResult × ValidationUsage))
    (w : World) : Except ExecutionError ValidationOrchestrationResult × World :=
  match answer with
  | none => closeFailed env context .validatorUnavailable none w
  | some (results,usage) => closeCompleted config env batch context results usage w

def contextOf (claim : ValidationClaimResult) (leaseToken : Text) : ValidationLockedContext :=
  ⟨claim.validationCallId,batch.claim.workflowThreadId,batch.claim.batchFingerprint,leaseToken⟩

/-- `execute` from a claim on. -/
def attempt (claim : ValidationClaimResult) (leaseToken : Text) (w : World) :
    Except ExecutionError ValidationOrchestrationResult × World :=
  let context := contextOf batch claim leaseToken
  match markAttemptStarted config env.attemptAt
      { batch.admission with validationCallId := claim.validationCallId, leaseToken := leaseToken } (env.beforeAttempt w) with
  | (.error e,w) => (.error (.store e),w)
  | (.ok grant,w) =>
    let (answer,w) := invokePrepared config env batch grant (env.beforeDispatch w)
    close config env batch context answer (env.beforeClose w)

/-- `execute`. -/
def execute (w : World) : Except ExecutionError ValidationOrchestrationResult × World :=
  match claimOrReplay config env.claimAt batch.claim w.tables with
  | .error e => (.error (.store e),w)
  | .ok (claim,t) =>
    let w : World := { w with tables := t }
    match claim.disposition with
    | .busy => (.ok ⟨.busy,claim.validationCallId,[],none⟩,w)
    | .replayed =>
      (.ok ⟨if claim.terminalStatus = some .completed then .replayed else .failed,claim.validationCallId,claim.completed,
        claim.failureReasonCode⟩,w)
    | .claimed =>
      match claim.leaseToken with
      | none => (.error .admissionMismatch,w)
      | some leaseToken =>
        if batch.admission.workflowThreadId ≠ batch.claim.workflowThreadId ∨
            batch.admission.batchFingerprint ≠ batch.claim.batchFingerprint then
          (.error .admissionMismatch,w)
        else attempt config env batch claim leaseToken w

end execute

end ParaWorks.AutoReview
