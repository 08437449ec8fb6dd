import ParaWorks.Lib.Program
import ParaWorks.Lib.Text

/-!
# Rows of the automatic review rollout

One rollout row a security scope and policy, the promotion decisions and post audits it counts, and
the control events that explain its control fields. Messages are those of the source.
-/

namespace ParaWorks.Rollout

open Lib

abbrev Timestamp := Nat

/-- A hex digest as the number it writes. -/
abbrev Digest := Nat

structure RolloutKey where
  securityScopeId : Text
  policyVersion : Text
  deriving DecidableEq

inductive RolloutError where
  | gate (message : String)
  | refused (message : String)
  | value (message : String)
  | quality (code : String)

/-! ## The rollout row -/

/-- `AutoReviewRolloutState` with its column defaults. -/
structure RolloutState where
  stateVersion : Nat := 0
  controlEpoch : Nat := 0
  shadowPredictedCount : Nat := 0
  shadowCompletedCount : Nat := 0
  shadowSupportedCount : Nat := 0
  enforcePromotionOrdinal : Nat := 0
  postAuditSelectedCount : Nat := 0
  postAuditCompletedCount : Nat := 0
  postAuditCriticalCount : Nat := 0
  confirmedMandatoryAuditCount : Nat := 0
  pendingMandatoryAuditCount : Nat := 0
  invalidatedBeforeAuditCount : Nat := 0
  correctedCriticalCount : Nat := 0
  breakerOpen : Bool := false
  breakerReasonCode : Option String := none
  breakerOpenedAt : Option Timestamp := none
  maxAuthorizedPercentage : Nat := 0
  authorizationGeneration : Nat := 0
  authorizationAt : Option Timestamp := none
  regressionGateReference : Option Text := none
  lastEventSequence : Nat := 0
  lastEventId : Option Nat := none
  updatedAt : Timestamp := 0
  deriving DecidableEq

/-- `RolloutControlSnapshot`. -/
structure RolloutControlSnapshot where
  key : RolloutKey
  stateVersion : Nat
  controlEpoch : Nat
  shadowPredictedCount : Nat
  shadowCompletedCount : Nat
  shadowSupportedCount : Nat
  enforcePromotionOrdinal : Nat
  postAuditSelectedCount : Nat
  postAuditCompletedCount : Nat
  postAuditCriticalCount : Nat
  confirmedMandatoryAuditCount : Nat
  pendingMandatoryAuditCount : Nat
  invalidatedBeforeAuditCount : Nat
  correctedCriticalCount : Nat
  breakerOpen : Bool
  maxAuthorizedPercentage : Nat
  authorizationGeneration : Nat

def snapshot (key : RolloutKey) (row : RolloutState) : RolloutControlSnapshot :=
  ⟨key,row.stateVersion,row.controlEpoch,row.shadowPredictedCount,row.shadowCompletedCount,row.shadowSupportedCount,
    row.enforcePromotionOrdinal,row.postAuditSelectedCount,row.postAuditCompletedCount,row.postAuditCriticalCount,
    row.confirmedMandatoryAuditCount,row.pendingMandatoryAuditCount,row.invalidatedBeforeAuditCount,
    row.correctedCriticalCount,row.breakerOpen,row.maxAuthorizedPercentage,row.authorizationGeneration⟩

namespace RolloutControlSnapshot

variable (s : RolloutControlSnapshot)

/-- In ten-thousandths, rounded down. -/
def shadowPrecision : Nat :=
  if s.shadowCompletedCount = 0 then 0 else 10000*s.shadowSupportedCount/s.shadowCompletedCount

def shadowGatePassed : Bool :=
  500 ≤ s.shadowCompletedCount && 9900 ≤ s.shadowPrecision && s.postAuditCriticalCount = 0 &&
    s.correctedCriticalCount = 0 && !s.breakerOpen

/-- The share of completed audits without a critical outcome is at least 0.99. -/
def auditPrecisionReached : Bool :=
  s.postAuditCompletedCount ≠ 0 &&
    99*(s.postAuditCompletedCount : Int) ≤ 100*((s.postAuditCompletedCount : Int)-s.postAuditCriticalCount)

def canaryGatePassed : Bool :=
  s.maxAuthorizedPercentage = 10 && 500 ≤ s.enforcePromotionOrdinal && s.confirmedMandatoryAuditCount = 50 &&
    s.pendingMandatoryAuditCount = 0 && s.postAuditSelectedCount = s.postAuditCompletedCount &&
    s.postAuditCriticalCount = 0 && s.correctedCriticalCount = 0 && s.auditPrecisionReached && !s.breakerOpen

def requireAuthorizationTransition (percentage : Nat) : Except String Nat :=
  if percentage ≠ 10 ∧ percentage ≠ 100 then .error "rollout percentage is unavailable"
  else if percentage ≤ s.maxAuthorizedPercentage then .error "rollout percentage cannot be replayed"
  else if s.maxAuthorizedPercentage = 0 then
    if percentage = 100 then .error "rollout cannot jump from zero to full"
    else if !s.shadowGatePassed then .error "shadow rollout gate is incomplete"
    else .ok 10
  else if s.maxAuthorizedPercentage = 10 then
    if percentage ≠ 100 || !s.canaryGatePassed then .error "canary rollout gate is incomplete"
    else .ok 100
  else .error "rollout percentage cannot increase"

end RolloutControlSnapshot

/-! ## Decisions, audits and events -/

structure RolloutSelectionInput where
  securityScopeHmac : Digest
  workflowExecutionHmac : Digest
  candidateKey : Text
  policyVersion : Text
  rolloutControlEpoch : Nat
  rolloutAuthorizationGeneration : Nat
  requestedPercentage : Nat
  authorizedPercentage : Nat
  fingerprintKeyVersion : Text
  fingerprintKeyMaterialVerifier : Digest

structure PromotionReservationInput where
  reviewItemId : Nat
  key : RolloutKey
  selection : RolloutSelectionInput
  requestedPercentage : Nat
  storedPercentage : Nat
  authorizedPercentage : Nat

/-- `selection_result` of a decision and `sample_cohort` of an audit. -/
inductive Cohort where
  | first50
  | sample10
  | sample2
  | notSelected
  | manual
  deriving DecidableEq

/-- `AutoReviewPromotionDecision`. -/
structure PromotionDecision where
  id : Nat
  reviewItemId : Nat
  key : RolloutKey
  rolloutAuthorizationGeneration : Nat
  promotionOrdinal : Nat
  requestedPercentage : Nat
  storedPercentage : Nat
  authorizedPercentage : Nat
  enforceSelectionFingerprint : Digest
  auditSelectionFingerprint : Digest
  selectionResult : Cohort
  fingerprintKeyVersion : Text
  fingerprintKeyMaterialVerifier : Digest

inductive AuditStatus where
  | pending
  | completed
  | remediationRequired
  deriving DecidableEq

inductive AuditOutcome where
  | confirmed
  | incorrect
  | permissionViolation
  | sourceVersionViolation
  | policyViolation
  deriving DecidableEq

def AuditOutcome.code : AuditOutcome → String
  | .confirmed => "confirmed"
  | .incorrect => "incorrect"
  | .permissionViolation => "permission_violation"
  | .sourceVersionViolation => "source_version_violation"
  | .policyViolation => "policy_violation"

inductive SystemResolutionCode where
  | sourceInvalidatedBeforeAudit
  | revokePending
  | revokeFailed
  | revoked
  deriving DecidableEq

/-- `AutoReviewPostAudit`. -/
structure PostAudit where
  id : Nat
  reviewItemId : Nat
  promotionDecisionId : Nat
  sampleCohort : Cohort
  status : AuditStatus := .pending
  outcome : Option AuditOutcome := none
  systemResolutionCode : Option SystemResolutionCode := none
  remediationCode : Option AuditOutcome := none
  auditorSubjectHmac : Option Digest := none
  auditorFingerprintKeyVersion : Option Text := none
  auditorFingerprintKeyMaterialVerifier : Option Digest := none
  auditReason : Option Text := none
  auditedAt : Option Timestamp := none

/-- `AutoReviewRevocationAssessment`. -/
structure RevocationAssessment where
  id : Nat
  reviewItemId : Nat
  reasonCode : String
  actorSubjectHmac : Digest
  actorFingerprintKeyVersion : Text
  actorFingerprintKeyMaterialVerifier : Digest

inductive CorrectionStatus where
  | remediationRequired
  | completed
  deriving DecidableEq

/-- `AutoReviewAuditCorrection`. -/
structure AuditCorrection where
  id : Nat
  postAuditId : Nat
  reviewItemId : Nat
  assessmentId : Nat
  effectiveOutcome : AuditOutcome
  status : CorrectionStatus
  systemResolutionCode : SystemResolutionCode
  actorSubjectHmac : Digest
  actorFingerprintKeyVersion : Text
  actorFingerprintKeyMaterialVerifier : Digest
  completedAt : Option Timestamp

inductive EventKind where
  | percentageAuthorized
  | breakerOpened
  | breakerClosed
  deriving DecidableEq

/-- The control fields an event carries before and after. -/
structure Control where
  epoch : Nat
  percentage : Nat
  breakerOpen : Bool
  generation : Nat
  deriving DecidableEq

def RolloutState.control (row : RolloutState) : Control :=
  ⟨row.controlEpoch,row.maxAuthorizedPercentage,row.breakerOpen,row.authorizationGeneration⟩

/-- `AutoReviewRolloutControlEvent`. -/
structure ControlEvent where
  id : Nat
  key : RolloutKey
  eventSequence : Nat
  eventKind : EventKind
  priorStateVersion : Nat
  newStateVersion : Nat
  prior : Control
  new : Control
  reasonCode : String
  regressionGateReference : Option Text
  actorSubjectHmac : Digest
  fingerprintKeyVersion : Text
  fingerprintKeyMaterialVerifier : Digest
  createdAt : Timestamp

inductive ShadowStatus where
  | pending
  | completed
  | excluded
  deriving DecidableEq

inductive ReviewStatus where
  | pendingReview
  | approved
  | rejected
  | needsMoreEvidence
  | revoked
  deriving DecidableEq

/-- A completed `AutoReviewValidation` of shadow mode. -/
structure ShadowValidation where
  id : Nat
  reviewItemId : Nat
  workflowThreadId : Text
  policyVersion : Text
  evidenceVersionHash : Text
  shadowComparisonStatus : ShadowStatus
  shadowHumanResolution : Option ReviewStatus
  shadowExclusionCode : Option String
  shadowComparedAt : Option Timestamp

inductive RemediationKind where
  | audit
  | correction
  deriving DecidableEq

/-- `QualityRevokeContext`; its reason is the assessment's. -/
structure QualityRevokeContext where
  reviewItemId : Nat
  assessmentId : Nat
  remediationKind : RemediationKind
  remediationId : Nat
  deriving DecidableEq

/-- The tables, newest row first, and the revoke contexts that were minted. -/
structure RolloutDb where
  rollouts : RolloutKey → Option RolloutState
  decisions : List PromotionDecision
  audits : List PostAudit
  assessments : List RevocationAssessment
  corrections : List AuditCorrection
  events : List ControlEvent
  validations : List ShadowValidation
  contexts : List QualityRevokeContext

def RolloutDb.empty : RolloutDb := ⟨fun _ => none,[],[],[],[],[],[],[]⟩

namespace RolloutDb

variable (db : RolloutDb)

def setRollout (key : RolloutKey) (row : RolloutState) : RolloutDb :=
  { db with rollouts := Function.update db.rollouts key (some row) }

def decisionOfItem (itemId : Nat) : Option PromotionDecision := db.decisions.find? (·.reviewItemId = itemId)

def decision (id : Nat) : Option PromotionDecision := db.decisions.find? (·.id = id)

def audit (id : Nat) : Option PostAudit := db.audits.find? (·.id = id)

def auditOfItem (itemId : Nat) : Option PostAudit := db.audits.find? (·.reviewItemId = itemId)

def auditForDecision (decisionId : Nat) : Option PostAudit := db.audits.find? (·.promotionDecisionId = decisionId)

def updateAudit (id : Nat) (f : PostAudit → PostAudit) : RolloutDb :=
  { db with audits := db.audits.map fun a => if a.id = id then f a else a }

def assessmentOfItem (itemId : Nat) : Option RevocationAssessment := db.assessments.find? (·.reviewItemId = itemId)

def correctionOfItem (itemId : Nat) : Option AuditCorrection := db.corrections.find? (·.reviewItemId = itemId)

def updateCorrection (id : Nat) (f : AuditCorrection → AuditCorrection) : RolloutDb :=
  { db with corrections := db.corrections.map fun c => if c.id = id then f c else c }

/-- The scope and policy an audit counts for: those of its decision. -/
def auditKey (a : PostAudit) : Option RolloutKey := (db.decision a.promotionDecisionId).map (·.key)

end RolloutDb

/-! ## What the operations read from elsewhere -/

structure ReviewItem where
  id : Nat
  status : ReviewStatus
  permissionLevel : Text
  resolutionSource : Option Text
  workflowThreadId : Option Text

structure WorkflowThread where
  securityScopeId : Text
  evidenceVersionHash : Text

inductive ActorType where
  | human
  | autoPolicy
  deriving DecidableEq

inductive Capability where
  | humanReview
  | autoReview
  | autoReviewRolloutAdmin
  deriving DecidableEq

/-- A `ReviewResolutionActor` the server has issued. -/
structure ReviewResolutionActor where
  subjectId : Text
  actorType : ActorType
  allowedPermissionLevels : List Text
  capabilities : List Capability

def ReviewResolutionActor.canAudit (actor : ReviewResolutionActor) : Bool :=
  actor.actorType = .human && .humanReview ∈ actor.capabilities

structure RuntimeKeyState where
  ready : Bool
  fingerprintKeyVersion : Text
  fingerprintKeyMaterialVerifier : Digest

structure AuditSelectionPayload where
  selection : RolloutSelectionInput
  promotionOrdinal : Nat
  enforceSelectionFingerprint : Digest
  confirmedMandatoryAuditCount : Nat
  pendingMandatoryAuditCount : Nat

inductive FingerprintPayload where
  | selection (value : RolloutSelectionInput)
  | auditSelection (value : AuditSelectionPayload)
  | subject (subjectId : Text)

/-- The settings of a process; `buildKeyedFingerprint` signs a payload under a schema and a policy. -/
structure Settings where
  fingerprintKeyVersion : Text
  fingerprintKeyMaterialVerifier : Digest
  buildKeyedFingerprint : FingerprintPayload → Text → Text → Digest

end ParaWorks.Rollout
