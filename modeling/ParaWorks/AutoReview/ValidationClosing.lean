import ParaWorks.AutoReview.ValidationOperations

/-!
# Closing a validation call

`complete`, `fail`, `cancel` and `recover_expired`. The first two charge a call that has been sent.
-/

namespace ParaWorks.AutoReview

open Lib

section closing

variable (config : StoreConfig) (m : Moment)

/-! ## Completion -/

def ValidationBatchCompletion.ordered (completion : ValidationBatchCompletion) : List ValidationCandidateCompletion :=
  completion.candidates.insertionSort fun a b => keyLe a.validationKey b.validationKey

def ValidationBatchCompletion.context (completion : ValidationBatchCompletion) : ValidationLockedContext :=
  ⟨completion.validationCallId,completion.workflowThreadId,completion.batchFingerprint,completion.leaseToken⟩

def ValidationBatchFailure.context (failure : ValidationBatchFailure) : ValidationLockedContext :=
  ⟨failure.validationCallId,failure.workflowThreadId,failure.batchFingerprint,failure.leaseToken⟩

/-- The authority that the attempt was started under still holds. -/
def guardMatches (t : Tables) (memory : Memory) (context : ValidationLockedContext)
    (safety : AutoReviewProviderSafetyState) (call : AutoReviewValidationCall) : Bool :=
  let guards := (currentGuardHmacs config t context.workflowThreadId
    (lockSourceStates t context.workflowThreadId)).toOption.getD ([],[])
  memory.guards? context.validationCallId = some guards &&
  runtimeMatches t.runtime call.fingerprintKeyVersion call.fingerprintKeyMaterialVerifier &&
  providerSafetyMatches safety false true && (lockRolloutAuthority t context.workflowThreadId none).isSome &&
  safety.stateVersion = call.providerSafetyStateVersion

/-- The usage passes what the batch was framed for, or the charge what was reserved. -/
def exceedsReserve (call : AutoReviewValidationCall) (inputTokens outputTokens : Nat) (charge : Usd) : Bool :=
  call.framedInputTokenCount < inputTokens || call.maxOutputTokens < outputTokens || call.reservedCostUsd < charge

/-- The charge passes a ceiling of the workflow. -/
def exceedsCeilings (t : Tables) (workflowRequest : AgentWorkflowRequest) (context : ValidationLockedContext)
    (charge : Usd) : Bool :=
  let extraction := extractionObligation t context.workflowThreadId
  let validation := charge+validationObligation t context.workflowThreadId (some context.validationCallId)
  min autoReviewMaxValidationCostUsd workflowRequest.profile.confirmedValidationCostCeilingUsd < validation ||
  min workflowRequest.profile.confirmedTotalCostCeilingUsd workflowRequest.autoReviewBudgetLimitUsd <
    extraction+validation

def promising (decision : AutoReviewPolicyDecision) : Bool := decision = .autoApprove || decision = .reuseTrusted

def completeRow (shadow : Bool) (item : ValidationCandidateCompletion) (row : AutoReviewValidation) :
    AutoReviewValidation :=
  { row with
    status := .completed
    claimResults := item.result.claimResults
    minimumEntailmentScore := (item.result.claimResults.map (·.entailmentScore)).min?
    uncertaintyCodes := item.result.uncertaintyCodes
    conflictCodes := item.result.conflictCodes
    policyDecision := some item.policyDecision
    policyReasonCodes := item.policyReasonCodes
    cacheHit := false
    shadowComparisonStatus :=
      if shadow && promising item.policyDecision then some (text "pending") else row.shadowComparisonStatus }

/-- The rows of a completed call, each with its item and its share. -/
def completeRows (shadow : Bool) (children : List AutoReviewValidation) (items : List ValidationCandidateCompletion)
    (inputs outputs : List Nat) (costs : List Usd) : List AutoReviewValidation :=
  shareCharge m (List.zipWith (completeRow shadow) items children) inputs outputs costs id

/-- The predictions of a shadow batch are counted on the rollout row. -/
def countPredictions (t : Tables) (rollout : Option AutoReviewRolloutState) (predicted : Nat) : Tables :=
  match rollout with
  | none => t
  | some row =>
    { t with rollouts := t.rollouts.map fun r => if r = row then
        { r with
          shadowPredictedCount := r.shadowPredictedCount+predicted
          stateVersion := r.stateVersion+predicted
          updatedAt := if predicted = 0 then r.updatedAt else m.now } else r }

/-- A completion that is closed as a failure at its exact charge. -/
def completeAsFailure (t : Tables) (call : AutoReviewValidationCall) (children : List AutoReviewValidation)
    (completion : ValidationBatchCompletion) (reason : AutoReviewPolicyReasonCode) (charge : Usd) (overrun : Bool) :
    Except StoreError Tables :=
  (terminalFailure m call children reason completion.inputTokens completion.outputTokens charge).map fun p =>
    t.putCall (if overrun then markOverrun p.1 charge else p.1) p.2

def completeSuccess (t : Tables) (call : AutoReviewValidationCall) (children : List AutoReviewValidation)
    (completion : ValidationBatchCompletion) (workflowRequest : AgentWorkflowRequest) (charge : Usd) :
    Except StoreError (List CompletedValidationProjection × Tables) :=
  let inputs := allocateIntegerTokens completion.inputTokens children.length
  let outputs := allocateIntegerTokens completion.outputTokens children.length
  match allocateMicroUsd inputs outputs call.inputUsdPer1M call.outputUsdPer1M charge
      (children.map (·.validationKey)) with
  | none => .error .allocationInvalid
  | some costs =>
    let shadow := workflowRequest.autoReviewMode = text "shadow"
    let rows := completeRows m shadow children completion.ordered inputs outputs costs
    let predicted := if shadow then completion.candidates.countP (promising ·.policyDecision) else 0
    let counted := countPredictions m t (((lockRolloutAuthority t call.workflowThreadId none).getD none)) predicted
    ((rows.zipIdx).mapM fun p => projectionOf p.2 false p.1).map fun projections =>
      (projections,counted.putCall (chargeCall m call .completed completion.inputTokens completion.outputTokens charge) rows)

/-- The transaction of `complete`. -/
def completeAttempt (context : ValidationLockedContext) (completion : ValidationBatchCompletion) (w : World) :
    Except StoreError (List CompletedValidationProjection × Tables) :=
  let t := w.tables
  (lockValidationSafety t false).bind fun safety =>
    (lockedWorkflowRequest t context.workflowThreadId true).bind fun workflow =>
      (lockedCallOf t context).bind fun call =>
        (lockedChildren t call).bind fun children =>
          if call.status ≠ .claimed ∨ call.providerAttemptCount ≠ 1 ∨ call.leaseExpiresAt.all (· ≤ m.now) then
            .error .notCompletable
          else if children.map (fun row => (row.reviewItemId,row.validationKey)) ≠
              completion.ordered.map (fun item => (item.reviewItemId,item.validationKey)) then
            .error .completionIdentityChanged
          else
            let charge := tokenCost completion.inputTokens completion.outputTokens call.inputUsdPer1M call.outputUsdPer1M
            if exceedsReserve call completion.inputTokens completion.outputTokens charge ||
                exceedsCeilings t workflow.2 context charge then
              (completeAsFailure m t call children completion .budgetExceeded charge true).map fun closed =>
                ([],openBudgetBreaker m closed safety call.id charge)
            else if workflow.1.cancelledAt.isSome || !guardMatches config t w.memory context safety call then
              (completeAsFailure m t call children completion .postValidationDrift charge false).map fun closed =>
                ([],closed)
            else completeSuccess m t call children completion workflow.2 charge

/-- `complete`. -/
def complete (context : ValidationLockedContext) (completion : ValidationBatchCompletion) (w : World) :
    Except StoreError (List CompletedValidationProjection) × World :=
  if completion.context ≠ context then (.error .completionContextChanged,w)
  else if context.validationCallId ∉ w.memory.dispatchedCalls then (.error .notDispatched,w)
  else match completeAttempt config m context completion w with
    | .error e => (.error e,w)
    | .ok (projections,t) => (.ok projections,⟨t,w.memory.forget context.validationCallId⟩)

/-! ## Failure -/

/-- What a failure charges. -/
def failureCharge (call : AutoReviewValidationCall) (failure : ValidationBatchFailure) :
    Except StoreError (Nat × Nat × Usd) :=
  if failure.usageKnown then
    match failure.inputTokens,failure.outputTokens with
    | some input,some output =>
      .ok (input,output,tokenCost input output call.inputUsdPer1M call.outputUsdPer1M)
    | _,_ => .error .usageAmbiguous
  else .ok (call.reservedInputTokens,call.reservedOutputTokens,call.reservedCostUsd)

/-- The transaction of `fail`. -/
def failAttempt (context : ValidationLockedContext) (failure : ValidationBatchFailure) (t : Tables) :
    Except StoreError Tables :=
  (lockValidationSafety t true).bind fun safety =>
    (lockedWorkflowRequest t context.workflowThreadId true).bind fun _ =>
      (lockedCallOf t context).bind fun call =>
        (lockedChildren t call).bind fun children =>
          if call.status ≠ .claimed ∨ call.providerAttemptCount ≠ 1 then .error .notFailable
          else (failureCharge call failure).bind fun charge =>
            (terminalFailure m call children failure.reasonCode charge.1 charge.2.1 charge.2.2).map fun p =>
              if exceedsReserve call charge.1 charge.2.1 charge.2.2 then
                openBudgetBreaker m (t.putCall (markOverrun p.1 charge.2.2) p.2) safety call.id charge.2.2
              else t.putCall p.1 p.2

/-- `fail`. -/
def fail (context : ValidationLockedContext) (failure : ValidationBatchFailure) (w : World) :
    Except StoreError Unit × World :=
  if failure.context ≠ context then (.error .failureContextChanged,w)
  else match failAttempt m context failure w.tables with
    | .error e => (.error e,w)
    | .ok t => (.ok (),⟨t,w.memory.forget context.validationCallId⟩)

/-! ## Cancelling and recovering -/

/-- `cancel`. -/
def cancel (context : ValidationLockedContext) (w : World) : Except StoreError Unit × World :=
  let closed : Except StoreError Tables :=
    (lockValidationSafety w.tables true).bind fun _ =>
      (lockedWorkflowRequest w.tables context.workflowThreadId true).bind fun _ =>
        (lockedCallOf w.tables context).bind fun call =>
          (lockedChildren w.tables call).bind fun children =>
            if call.status ≠ .claimed ∨ call.providerAttemptCount ≠ 0 then .ok w.tables
            else (terminalFailure m call children .postValidationDrift 0 0 0).map fun p => w.tables.putCall p.1 p.2
  match closed with
  | .error e => (.error e,w)
  | .ok t => (.ok (),{ w with tables := t })

/-- The grants of the context are withdrawn. -/
def Memory.withdraw (memory : Memory) (context : ValidationLockedContext) : Memory :=
  (memory.activeGrants.filter (·.2 = context)).foldl
    (fun left active => (left.invalidate active.1.object).popGrant active.1.attemptId) memory

/-- `recover_expired`. -/
def recoverExpired (context : ValidationLockedContext) (w : World) : Except StoreError Unit × World :=
  let closed : Except StoreError Tables :=
    (lockValidationSafety w.tables true).bind fun _ =>
      (lockedWorkflowRequest w.tables context.workflowThreadId true).bind fun _ =>
        (lockedCallOf w.tables context).bind fun call =>
          (lockedChildren w.tables call).bind fun children =>
            if call.status ≠ .claimed ∨ call.providerAttemptCount ≠ 1 ∨ call.leaseExpiresAt.all (m.now < ·) then
              .error .notRecoverable
            else (terminalFailure m call children .validatorUnavailable call.reservedInputTokens call.reservedOutputTokens
                call.reservedCostUsd).map fun p => w.tables.putCall p.1 p.2
  match closed with
  | .error e => (.error e,w)
  | .ok t => (.ok (),⟨t,(w.memory.withdraw context).forget context.validationCallId⟩)

end closing

end ParaWorks.AutoReview
