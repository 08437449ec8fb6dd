import ParaWorks.Lib.Transition
import ParaWorks.Rollout.Contracts

/-!
# The writers of the rollout row

Each operation runs under the lock of the rollout row and in one transaction, so a refusal leaves the
database as it was.
-/

namespace ParaWorks.Rollout

open Lib

abbrev RolloutM := EStateM RolloutError RolloutDb

def words (t : Text) : List Text := (t.splitOnP isSpace).filter (· ≠ [])

/-- `' '.join(text.split())`. -/
def joinWords (t : Text) : Text := [32].intercalate (words t)

def reasonFits (reason : Text) : Bool := 1 ≤ reason.length && reason.length ≤ 500

/-- `ensure_row`. -/
def ensureRow (key : RolloutKey) : RolloutM RolloutState := do
  let db ← get
  match db.rollouts key with
  | some row => return row
  | none =>
    set (db.setRollout key {})
    return {}

def peekOrDefault (db : RolloutDb) (key : RolloutKey) : RolloutState := (db.rollouts key).getD {}

/-! ## Promotion reservation -/

section reservation

variable (settings : Settings)

/-- `stable_rollout_selection`: the fingerprint and whether its bucket is selected. -/
def stableRolloutSelection (value : RolloutSelectionInput) (percentage : Nat) (domain : Text) : Digest × Bool :=
  let fingerprint := settings.buildKeyedFingerprint (.selection value) domain value.policyVersion
  (fingerprint,fingerprint%100 < percentage)

def verifyControl (row : RolloutState) (request : PromotionReservationInput) : Bool :=
  !row.breakerOpen &&
    row.controlEpoch = request.selection.rolloutControlEpoch &&
    row.authorizationGeneration = request.selection.rolloutAuthorizationGeneration &&
    request.authorizedPercentage ≤ row.maxAuthorizedPercentage &&
    request.selection.policyVersion = request.key.policyVersion &&
    request.selection.requestedPercentage = request.requestedPercentage &&
    request.selection.authorizedPercentage = request.authorizedPercentage &&
    request.selection.fingerprintKeyVersion = settings.fingerprintKeyVersion &&
    request.selection.fingerprintKeyMaterialVerifier = settings.fingerprintKeyMaterialVerifier &&
    request.storedPercentage ≤ min request.requestedPercentage request.authorizedPercentage &&
    (request.storedPercentage = 10 || request.storedPercentage = 100)

def verifyReplay (decision : PromotionDecision) (request : PromotionReservationInput) : Bool :=
  decision.key = request.key &&
    decision.rolloutAuthorizationGeneration = request.selection.rolloutAuthorizationGeneration &&
    decision.requestedPercentage = request.requestedPercentage &&
    decision.storedPercentage = request.storedPercentage &&
    decision.authorizedPercentage = request.authorizedPercentage &&
    decision.fingerprintKeyVersion = request.selection.fingerprintKeyVersion &&
    decision.fingerprintKeyMaterialVerifier = request.selection.fingerprintKeyMaterialVerifier

def selectAudit (row : RolloutState) (request : PromotionReservationInput) (promotionOrdinal : Nat)
    (enforceFingerprint : Digest) : RolloutM (Cohort × Digest) := do
  let fingerprint := settings.buildKeyedFingerprint (.auditSelection {
    selection := request.selection
    promotionOrdinal
    enforceSelectionFingerprint := enforceFingerprint
    confirmedMandatoryAuditCount := row.confirmedMandatoryAuditCount
    pendingMandatoryAuditCount := row.pendingMandatoryAuditCount
  }) (text "auto-review-audit-selection:v1") request.key.policyVersion
  if row.confirmedMandatoryAuditCount < 50 then
    require (row.confirmedMandatoryAuditCount+row.pendingMandatoryAuditCount < 50)
      (.gate "mandatory audit slots are full")
    return (.first50,fingerprint)
  else
    let percentage := if request.storedPercentage = 100 then 2 else 10
    if fingerprint%100 < percentage then
      return (if percentage = 2 then .sample2 else .sample10,fingerprint)
    else return (.notSelected,fingerprint)

structure PromotionReservation where
  decision : PromotionDecision
  audit : Option PostAudit
  cacheHit : Bool

/-- The decision, its audit when one is selected, and the row that counts them. -/
def recordPromotion (db : RolloutDb) (row : RolloutState) (decision : PromotionDecision) : RolloutDb :=
  let selected := decision.selectionResult ≠ .notSelected
  let audit : PostAudit := {
    id := db.audits.length+1
    reviewItemId := decision.reviewItemId
    promotionDecisionId := decision.id
    sampleCohort := decision.selectionResult
  }
  let row := { row with
    postAuditSelectedCount := if selected then row.postAuditSelectedCount+1 else row.postAuditSelectedCount
    pendingMandatoryAuditCount :=
      if decision.selectionResult = .first50 then row.pendingMandatoryAuditCount+1
      else row.pendingMandatoryAuditCount
    enforcePromotionOrdinal := decision.promotionOrdinal
    stateVersion := row.stateVersion+1 }
  { db.setRollout decision.key row with
    decisions := decision::db.decisions
    audits := if selected then audit::db.audits else db.audits }

def reserveAutoPromotion (request : PromotionReservationInput) (item : Option ReviewItem) :
    RolloutM PromotionReservation := do
  let db ← get
  match db.decisionOfItem request.reviewItemId with
  | some existing =>
    require (verifyReplay existing request) (.gate "promotion reservation replay changed")
    return ⟨existing,db.auditForDecision existing.id,true⟩
  | none =>
    require (item.all (·.id = request.reviewItemId)) (.gate "held review item identity changed")
    let row ← present (db.rollouts request.key) (.gate "promotion reservation is unavailable")
    let item ← present item (.gate "promotion reservation is unavailable")
    require (item.status = .pendingReview) (.gate "promotion reservation is unavailable")
    require (verifyControl settings row request) (.gate "promotion rollout control changed")
    let enforce := stableRolloutSelection settings request.selection request.storedPercentage
      (text "auto-review-enforce-selection:v1")
    require enforce.2 (.gate "candidate is outside enforce selection")
    let ordinal := row.enforcePromotionOrdinal+1
    let audit ← selectAudit settings row request ordinal enforce.1
    let decision : PromotionDecision := {
      id := db.decisions.length+1
      reviewItemId := request.reviewItemId
      key := request.key
      rolloutAuthorizationGeneration := request.selection.rolloutAuthorizationGeneration
      promotionOrdinal := ordinal
      requestedPercentage := request.requestedPercentage
      storedPercentage := request.storedPercentage
      authorizedPercentage := request.authorizedPercentage
      enforceSelectionFingerprint := enforce.1
      auditSelectionFingerprint := audit.2
      selectionResult := audit.1
      fingerprintKeyVersion := request.selection.fingerprintKeyVersion
      fingerprintKeyMaterialVerifier := request.selection.fingerprintKeyMaterialVerifier
    }
    set (recordPromotion db row decision)
    let db ← get
    return ⟨decision,db.auditForDecision decision.id,false⟩

end reservation

/-! ## Post audits -/

def ensureManualAudit (reviewItemId : Nat) (actor : ReviewResolutionActor) (item : Option ReviewItem) :
    RolloutM PostAudit := do
  require actor.canAudit (.gate "human audit authority is required")
  let item ← present item (.gate "post audit is unavailable")
  require (item.id = reviewItemId && item.permissionLevel ∈ actor.allowedPermissionLevels &&
    (item.status = .approved || item.status = .revoked) && item.resolutionSource = some (text "auto_policy"))
    (.gate "post audit is unavailable")
  let db ← get
  let decision ← present (db.decisionOfItem reviewItemId) (.gate "post audit promotion is unavailable")
  match db.auditOfItem reviewItemId with
  | some existing => return existing
  | none =>
    require (decision.selectionResult = .notSelected) (.gate "selected post audit is unavailable")
    let audit : PostAudit := {
      id := db.audits.length+1
      reviewItemId
      promotionDecisionId := decision.id
      sampleCohort := .manual
    }
    set { db with audits := audit::db.audits }
    return audit

section complete

variable (settings : Settings) (now : Timestamp)

def actorHmac (actor : ReviewResolutionActor) : Digest :=
  settings.buildKeyedFingerprint (.subject actor.subjectId) (text "auto-review-audit-actor:v1")
    (text "auto-review-audit-actor:v1")

/-- The event of a control change from `row` to `controlled`. -/
def controlEvent (db : RolloutDb) (key : RolloutKey) (row controlled : RolloutState) (kind : EventKind)
    (reasonCode : String) (gate : Option Text) (hmac : Digest) (keyVersion : Text) (verifier : Digest) : ControlEvent := {
  id := db.events.length+1
  key
  eventSequence := row.lastEventSequence+1
  eventKind := kind
  priorStateVersion := row.stateVersion
  newStateVersion := controlled.stateVersion
  prior := row.control
  new := controlled.control
  reasonCode
  regressionGateReference := gate
  actorSubjectHmac := hmac
  fingerprintKeyVersion := keyVersion
  fingerprintKeyMaterialVerifier := verifier
  createdAt := now }

/-- The changed row points at its event. -/
def writeControl (db : RolloutDb) (controlled : RolloutState) (event : ControlEvent) : RolloutDb :=
  { db.setRollout event.key { controlled with
      lastEventSequence := event.eventSequence, lastEventId := some event.id } with
    events := event::db.events }

/-- `_open_breaker`: an open breaker stays as it is and only the version moves. -/
def openBreaker (key : RolloutKey) (row : RolloutState) (hmac : Digest) (reasonCode : String) (db : RolloutDb) :
    RolloutDb :=
  if row.breakerOpen then
    db.setRollout key { row with stateVersion := row.stateVersion+1, updatedAt := now }
  else
    let opened := { row with
      stateVersion := row.stateVersion+1
      controlEpoch := row.controlEpoch+1
      breakerOpen := true
      breakerReasonCode := some reasonCode
      breakerOpenedAt := some now
      maxAuthorizedPercentage := 0
      authorizationGeneration := row.authorizationGeneration+1
      updatedAt := now }
    writeControl db opened (controlEvent now db key row opened .breakerOpened reasonCode row.regressionGateReference
      hmac settings.fingerprintKeyVersion settings.fingerprintKeyMaterialVerifier)

structure PostAuditTransitionResult where
  auditId : Nat
  changed : Bool
  replayed : Bool
  remediationRequired : Bool

/-- The counters after a human outcome. -/
def countOutcome (row : RolloutState) (selectionResult : Cohort) (outcome : AuditOutcome) : RolloutState :=
  { row with
    pendingMandatoryAuditCount :=
      if selectionResult = .first50 then row.pendingMandatoryAuditCount-1 else row.pendingMandatoryAuditCount
    postAuditCompletedCount := row.postAuditCompletedCount+1
    postAuditCriticalCount :=
      if outcome ≠ .confirmed then row.postAuditCriticalCount+1 else row.postAuditCriticalCount
    confirmedMandatoryAuditCount :=
      if outcome = .confirmed ∧ selectionResult = .first50 then row.confirmedMandatoryAuditCount+1
      else row.confirmedMandatoryAuditCount }

/-- The audit row after a human outcome. -/
def writeOutcome (outcome : AuditOutcome) (actorHmac : Digest) (reason : Text) (audit : PostAudit) : PostAudit :=
  { audit with
    outcome := some outcome
    auditorSubjectHmac := some actorHmac
    auditorFingerprintKeyVersion := some settings.fingerprintKeyVersion
    auditorFingerprintKeyMaterialVerifier := some settings.fingerprintKeyMaterialVerifier
    auditReason := some reason
    auditedAt := some now
    status := if outcome = .confirmed then .completed else .remediationRequired
    systemResolutionCode := if outcome = .confirmed then none else some .revokePending
    remediationCode := if outcome = .confirmed then none else some outcome }

def complete (auditId : Nat) (actor : ReviewResolutionActor) (outcome : AuditOutcome) (reason : Text) :
    RolloutM PostAuditTransitionResult := do
  require actor.canAudit (.gate "human audit authority is required")
  let normalized := joinWords reason
  require (reasonFits normalized) (.gate "audit reason must contain 1 to 500 characters")
  let hmac := actorHmac settings actor
  let db ← get
  let audit ← present (db.audit auditId) (.gate "post audit is unavailable")
  let decision ← present (db.decision audit.promotionDecisionId) (.gate "post audit promotion is unavailable")
  let row ← present (db.rollouts decision.key) (.gate "post audit state is unavailable")
  if audit.status ≠ .pending then
    require (audit.outcome = some outcome && audit.auditReason = some normalized &&
      audit.auditorSubjectHmac = some hmac) (.gate "post audit outcome is immutable")
    return ⟨audit.id,false,true,audit.status = .remediationRequired⟩
  else
    require (decision.selectionResult ≠ .first50 || 0 < row.pendingMandatoryAuditCount)
      (.gate "mandatory audit counter is inconsistent")
    let counted := countOutcome row decision.selectionResult outcome
    set (db.updateAudit auditId (writeOutcome settings now outcome hmac normalized))
    if outcome = .confirmed then
      modify (·.setRollout decision.key { counted with stateVersion := counted.stateVersion+1, updatedAt := now })
    else modify (openBreaker settings now decision.key counted hmac outcome.code)
    return ⟨audit.id,true,false,outcome ≠ .confirmed⟩

end complete

structure SourceInvalidationAuditResult where
  reviewItemId : Nat
  changed : Bool
  replayed : Bool

/-- The audit row of a source that went away before its audit. -/
def invalidateAudit (now : Timestamp) (audit : PostAudit) : PostAudit :=
  { audit with
    status := .completed
    outcome := none
    systemResolutionCode := some .sourceInvalidatedBeforeAudit
    remediationCode := none
    auditorSubjectHmac := none
    auditorFingerprintKeyVersion := none
    auditorFingerprintKeyMaterialVerifier := none
    auditReason := none
    auditedAt := some now }

def completeSourceInvalidated (reviewItemId : Nat) (now : Timestamp) : RolloutM SourceInvalidationAuditResult := do
  let db ← get
  match db.auditOfItem reviewItemId with
  | none => return ⟨reviewItemId,false,false⟩
  | some audit =>
    if audit.status ≠ .pending then
      return ⟨reviewItemId,false,audit.status = .completed && audit.outcome = none &&
        audit.systemResolutionCode = some .sourceInvalidatedBeforeAudit⟩
    else
      let decision ← present (db.decision audit.promotionDecisionId)
        (.value "source invalidation audit promotion is missing")
      require (decision.reviewItemId = reviewItemId) (.value "source invalidation audit promotion is missing")
      let row ← present (db.rollouts decision.key) (.value "source invalidation audit rollout is missing")
      require (decision.selectionResult ≠ .first50 || 0 < row.pendingMandatoryAuditCount)
        (.value "source invalidation mandatory audit counter is inconsistent")
      let invalidated := { row with
        pendingMandatoryAuditCount :=
          if decision.selectionResult = .first50 then row.pendingMandatoryAuditCount-1
          else row.pendingMandatoryAuditCount
        invalidatedBeforeAuditCount := row.invalidatedBeforeAuditCount+1
        updatedAt := now }
      set ((db.updateAudit audit.id (invalidateAudit now)).setRollout decision.key invalidated)
      return ⟨reviewItemId,true,false⟩

end ParaWorks.Rollout
