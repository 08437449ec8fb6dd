import ParaWorks.Rollout.Control

/-!
# Quality revocation and runs

The coordinator that commits a quality verdict on an approved item, and the runs of all writers.
-/

namespace ParaWorks.Rollout

open Lib

/-! ## Quality revocation -/

inductive QualityReason where
  | incorrectContent
  | permissionViolation
  | wrongSourceVersion
  | policyViolation
  deriving DecidableEq

def QualityReason.code : QualityReason → String
  | .incorrectContent => "incorrect_content"
  | .permissionViolation => "permission_violation"
  | .wrongSourceVersion => "wrong_source_version"
  | .policyViolation => "policy_violation"

/-- `_OUTCOME_BY_REASON`. -/
def QualityReason.outcome : QualityReason → AuditOutcome
  | .incorrectContent => .incorrect
  | .permissionViolation => .permissionViolation
  | .wrongSourceVersion => .sourceVersionViolation
  | .policyViolation => .policyViolation

section quality

variable (settings : Settings) (now : Timestamp)

def recordAssessment (itemId : Nat) (hmac : Digest) (reasonCode : QualityReason) : RolloutM RevocationAssessment := do
  let db ← get
  match db.assessmentOfItem itemId with
  | some assessment =>
    require (assessment.reasonCode = reasonCode.code && assessment.actorSubjectHmac = hmac)
      (.quality "revoke_reason_conflict")
    return assessment
  | none =>
    let assessment : RevocationAssessment := {
      id := db.assessments.length+1
      reviewItemId := itemId
      reasonCode := reasonCode.code
      actorSubjectHmac := hmac
      actorFingerprintKeyVersion := settings.fingerprintKeyVersion
      actorFingerprintKeyMaterialVerifier := settings.fingerprintKeyMaterialVerifier
    }
    set { db with assessments := assessment::db.assessments }
    return assessment

/-- The audit of the item, a manual one when there is none. -/
def ensureQualityAudit (itemId : Nat) (decision : PromotionDecision) : RolloutM PostAudit := do
  let db ← get
  match db.auditOfItem itemId with
  | some audit => return audit
  | none =>
    let audit : PostAudit := {
      id := db.audits.length+1
      reviewItemId := itemId
      promotionDecisionId := decision.id
      sampleCohort := .manual
    }
    set { db with audits := audit::db.audits }
    return audit

/-- The correction of a confirmed audit; a new one is counted and opens the breaker. -/
def ensureCorrection (key : RolloutKey) (audit : PostAudit) (assessment : RevocationAssessment) (hmac : Digest)
    (reasonCode : QualityReason) : RolloutM AuditCorrection := do
  let db ← get
  match db.correctionOfItem audit.reviewItemId with
  | some correction => return correction
  | none =>
    let row ← present (db.rollouts key) (.quality "rollout_state_required")
    let correction : AuditCorrection := {
      id := db.corrections.length+1
      postAuditId := audit.id
      reviewItemId := audit.reviewItemId
      assessmentId := assessment.id
      effectiveOutcome := reasonCode.outcome
      status := .remediationRequired
      systemResolutionCode := .revokePending
      actorSubjectHmac := hmac
      actorFingerprintKeyVersion := settings.fingerprintKeyVersion
      actorFingerprintKeyMaterialVerifier := settings.fingerprintKeyMaterialVerifier
      completedAt := none
    }
    set { db with corrections := correction::db.corrections }
    modify (openBreaker settings now key { row with correctedCriticalCount := row.correctedCriticalCount+1 } hmac
      reasonCode.outcome.code)
    return correction

/-- The verdict on an audit: a pending one is completed critical, a confirmed one corrected, a critical one kept. -/
def dispatchQuality (audit : PostAudit) (decision : PromotionDecision) (assessment : RevocationAssessment)
    (actor : ReviewResolutionActor) (reasonCode : QualityReason) (reason : Text) :
    RolloutM (QualityRevokeContext × Bool) := do
  if audit.status = .pending then
    let _ ← complete settings now audit.id actor reasonCode.outcome reason
    return (⟨audit.reviewItemId,assessment.id,.audit,audit.id⟩,false)
  else if audit.status = .completed ∧ audit.outcome = some .confirmed then
    let correction ← ensureCorrection settings now decision.key audit assessment (actorHmac settings actor) reasonCode
    return (⟨audit.reviewItemId,assessment.id,.correction,correction.id⟩,correction.status = .completed)
  else
    require (audit.outcome = some reasonCode.outcome) (.quality "revoke_reason_conflict")
    return (⟨audit.reviewItemId,assessment.id,.audit,audit.id⟩,audit.status = .completed)

/-- `_commit_quality_authority_locked` and the context it mints. -/
def commitQualityAuthority (item : Option ReviewItem) (actor : ReviewResolutionActor) (reasonCode : QualityReason)
    (reason : Text) : RolloutM (QualityRevokeContext × Bool) := do
  require actor.canAudit (.quality "forbidden")
  let normalized := joinWords reason
  require (reasonFits normalized) (.quality "reason must contain 1 to 500 characters")
  let item ← present item (.quality "not_found")
  require (item.permissionLevel ∈ actor.allowedPermissionLevels) (.quality "not_found")
  require (item.resolutionSource = some (text "auto_policy") && (item.status = .approved || item.status = .revoked))
    (.quality "unsupported_transition")
  let db ← get
  let decision ← present (db.decisionOfItem item.id) (.quality "promotion_decision_required")
  let _ ← present (db.rollouts decision.key) (.quality "rollout_state_required")
  let assessment ← recordAssessment settings item.id (actorHmac settings actor) reasonCode
  let audit ← ensureQualityAudit item.id decision
  let committed ← dispatchQuality settings now audit decision assessment actor reasonCode normalized
  modify fun db => { db with contexts := committed.1::db.contexts }
  return committed

/-- The contexts `recover_pending_remediation` mints for unresolved audits and corrections. -/
def recoverPendingRemediation (limit : Nat) : RolloutM (List QualityRevokeContext) := do
  require (1 ≤ limit && limit ≤ 100) (.quality "recovery limit must be between 1 and 100")
  let db ← get
  let audits := (db.audits.reverse.filter fun a => a.status = .remediationRequired &&
    (a.systemResolutionCode = some .revokePending || a.systemResolutionCode = some .revokeFailed)).take limit
  let fromAudits := audits.filterMap fun a => (db.assessmentOfItem a.reviewItemId).map fun assessment =>
    (⟨a.reviewItemId,assessment.id,.audit,a.id⟩ : QualityRevokeContext)
  let corrections := (db.corrections.reverse.filter fun c => c.status = .remediationRequired &&
    (c.systemResolutionCode = .revokePending || c.systemResolutionCode = .revokeFailed)).take (limit-fromAudits.length)
  let fromCorrections := corrections.filterMap fun c => (db.assessments.find? (·.id = c.assessmentId)).map fun assessment =>
    (⟨c.reviewItemId,assessment.id,.correction,c.id⟩ : QualityRevokeContext)
  let pending := fromAudits++fromCorrections
  set { db with contexts := pending++db.contexts }
  return pending

def finalizeAudit (succeeded : Bool) (a : PostAudit) : PostAudit :=
  if succeeded then { a with status := .completed, systemResolutionCode := none, remediationCode := none }
  else { a with status := .remediationRequired, systemResolutionCode := some .revokeFailed }

def finalizeCorrection (succeeded : Bool) (c : AuditCorrection) : AuditCorrection :=
  if succeeded then { c with status := .completed, systemResolutionCode := .revoked, completedAt := some now }
  else { c with status := .remediationRequired, systemResolutionCode := .revokeFailed }

/-- `_finalize`; a context reaches it only after it was minted. -/
def finalizeRemediation (context : QualityRevokeContext) (succeeded : Bool) : RolloutM Unit := do
  let db ← get
  require (context ∈ db.contexts) (.quality "context_required")
  match context.remediationKind with
  | .audit =>
    let _ ← present (db.audit context.remediationId) (.gate "quality remediation audit disappeared")
    set (db.updateAudit context.remediationId (finalizeAudit succeeded))
  | .correction =>
    let _ ← present (db.corrections.find? (·.id = context.remediationId))
      (.gate "quality remediation correction disappeared")
    set (db.updateCorrection context.remediationId (finalizeCorrection now succeeded))

end quality

/-! ## Runs -/

inductive Command where
  | ensureRow (key : RolloutKey)
  | recordShadowPrediction (launch : ShadowLaunch) (reviewItemId : Nat) (workflowThreadId evidenceVersionHash : Text)
      (now : Timestamp)
  | recordShadowComparison (item : ReviewItem) (key : RolloutKey) (thread : Option WorkflowThread) (now : Timestamp)
  | authorizePercentage (settings : Settings) (input : ControlInput) (percentage : Nat)
  | closeRolloutBreaker (settings : Settings) (input : ControlInput)
  | reserveAutoPromotion (settings : Settings) (request : PromotionReservationInput) (item : Option ReviewItem)
  | ensureManualAudit (reviewItemId : Nat) (actor : ReviewResolutionActor) (item : Option ReviewItem)
  | complete (settings : Settings) (now : Timestamp) (auditId : Nat) (actor : ReviewResolutionActor)
      (outcome : AuditOutcome) (reason : Text)
  | completeSourceInvalidated (reviewItemId : Nat) (now : Timestamp)
  | commitQualityAuthority (settings : Settings) (now : Timestamp) (item : Option ReviewItem)
      (actor : ReviewResolutionActor) (reasonCode : QualityReason) (reason : Text)
  | recoverPendingRemediation (limit : Nat)
  | finalizeRemediation (now : Timestamp) (context : QualityRevokeContext) (succeeded : Bool)

def Command.run : Command → RolloutM Unit
  | ensureRow key => do let _ ← Rollout.ensureRow key
  | recordShadowPrediction launch item thread hash now => Rollout.recordShadowPrediction launch item thread hash now
  | recordShadowComparison item key thread now => do let _ ← Rollout.recordShadowComparison item key thread now
  | authorizePercentage settings input percentage => do
    let _ ← Rollout.authorizePercentage settings input percentage
  | closeRolloutBreaker settings input => do let _ ← Rollout.closeRolloutBreaker settings input
  | reserveAutoPromotion settings request item => do let _ ← Rollout.reserveAutoPromotion settings request item
  | ensureManualAudit reviewItemId actor item => do let _ ← Rollout.ensureManualAudit reviewItemId actor item
  | complete settings now auditId actor outcome reason => do
    let _ ← Rollout.complete settings now auditId actor outcome reason
  | completeSourceInvalidated reviewItemId now => do let _ ← Rollout.completeSourceInvalidated reviewItemId now
  | commitQualityAuthority settings now item actor reasonCode reason => do
    let _ ← Rollout.commitQualityAuthority settings now item actor reasonCode reason
  | recoverPendingRemediation limit => do let _ ← Rollout.recoverPendingRemediation limit
  | finalizeRemediation now context succeeded => Rollout.finalizeRemediation now context succeeded

/-- One transaction: a refusal rolls back. -/
def step (db : RolloutDb) (command : Command) : RolloutDb :=
  match command.run db with
  | .ok _ db' => db'
  | .error _ _ => db

def Reachable (db : RolloutDb) : Prop := ∃ commands, db = Lib.run step .empty commands

end ParaWorks.Rollout
