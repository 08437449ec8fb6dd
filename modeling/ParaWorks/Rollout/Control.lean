import ParaWorks.Rollout.Operations

/-!
# Shadow comparisons and the operator

The writers that count shadow outcomes and the two control operations of the local operator.
-/

namespace ParaWorks.Rollout

open Lib

/-! ## Shadow comparisons -/

/-- The control identity a workflow was launched under. -/
structure ShadowLaunch where
  key : RolloutKey
  rolloutControlEpoch : Nat
  rolloutAuthorizationGeneration : Nat
  authorizedPercentageAtLaunch : Nat

/-- `_lock_rollout_authority` for a launched row. -/
def ShadowLaunch.matches (launch : ShadowLaunch) (row : RolloutState) : Bool :=
  !row.breakerOpen && row.controlEpoch = launch.rolloutControlEpoch &&
    row.authorizationGeneration = launch.rolloutAuthorizationGeneration &&
    launch.authorizedPercentageAtLaunch ≤ row.maxAuthorizedPercentage

/-- One child of a completed shadow validation: its prediction waits for a human outcome. -/
def recordShadowPrediction (launch : ShadowLaunch) (reviewItemId : Nat) (workflowThreadId evidenceVersionHash : Text)
    (now : Timestamp) : RolloutM Unit := do
  let db ← get
  let validation : ShadowValidation := {
    id := db.validations.length+1
    reviewItemId
    workflowThreadId
    policyVersion := launch.key.policyVersion
    evidenceVersionHash
    shadowComparisonStatus := .pending
    shadowHumanResolution := none
    shadowExclusionCode := none
    shadowComparedAt := none
  }
  let predicted := { db with validations := validation::db.validations }
  match db.rollouts launch.key with
  | none => set predicted
  | some row =>
    require (launch.matches row) (.value "post_validation_drift")
    set (predicted.setRollout launch.key { row with
      shadowPredictedCount := row.shadowPredictedCount+1
      stateVersion := row.stateVersion+1
      updatedAt := now })

structure ShadowComparisonResult where
  reviewItemId : Nat
  changed : Bool
  supported : Bool
  excluded : Bool

def updateValidation (db : RolloutDb) (id : Nat) (f : ShadowValidation → ShadowValidation) : RolloutDb :=
  { db with validations := db.validations.map fun v => if v.id = id then f v else v }

/-- `AutoReviewShadowComparisonStore.record` on the rollout row of `key`. -/
def recordShadowComparison (item : ReviewItem) (key : RolloutKey) (thread : Option WorkflowThread)
    (now : Timestamp) : RolloutM ShadowComparisonResult := do
  let db ← get
  let row ← present (db.rollouts key) (.value "rollout state is unavailable")
  match item.workflowThreadId with
  | none => return ⟨item.id,false,false,false⟩
  | some threadId =>
    match db.validations.filter fun v =>
        v.reviewItemId = item.id && v.workflowThreadId = threadId && v.shadowComparisonStatus = .pending with
    | [validation] =>
      let thread ← present thread (.value "shadow comparison rollout identity changed")
      require (key.securityScopeId = thread.securityScopeId && key.policyVersion = validation.policyVersion)
        (.value "shadow comparison rollout identity changed")
      if thread.evidenceVersionHash ≠ validation.evidenceVersionHash then
        set (updateValidation db validation.id fun v => { v with
          shadowComparisonStatus := .excluded
          shadowExclusionCode := some "evidence_version_changed"
          shadowHumanResolution := none
          shadowComparedAt := some now })
        return ⟨item.id,true,false,true⟩
      else if item.status ≠ .approved ∧ item.status ≠ .rejected ∧ item.status ≠ .needsMoreEvidence then
        return ⟨item.id,false,false,false⟩
      else
        let supported := item.status = .approved
        let compared := updateValidation db validation.id fun v => { v with
          shadowComparisonStatus := .completed
          shadowHumanResolution := some item.status
          shadowExclusionCode := none
          shadowComparedAt := some now }
        set (compared.setRollout key { row with
          shadowCompletedCount := row.shadowCompletedCount+1
          shadowSupportedCount := if supported then row.shadowSupportedCount+1 else row.shadowSupportedCount
          stateVersion := row.stateVersion+1
          updatedAt := now })
        return ⟨item.id,true,supported,false⟩
    | _ => return ⟨item.id,false,false,false⟩

/-! ## The operator -/

structure RolloutAdminStatus where
  key : RolloutKey
  stateVersion : Nat
  controlEpoch : Nat
  maxAuthorizedPercentage : Nat
  authorizationGeneration : Nat
  breakerOpen : Bool

def adminStatus (s : RolloutControlSnapshot) : RolloutAdminStatus :=
  ⟨s.key,s.stateVersion,s.controlEpoch,s.maxAuthorizedPercentage,s.authorizationGeneration,s.breakerOpen⟩

/-- `status`. -/
def status (db : RolloutDb) (key : RolloutKey) : RolloutAdminStatus :=
  adminStatus (snapshot key (peekOrDefault db key))

structure ControlInput where
  key : RolloutKey
  expectedStateVersion : Nat
  reason : Text
  gateRef : Text
  runtime : Option RuntimeKeyState
  now : Timestamp

section admin

variable (settings : Settings)

/-- `_normalize_control_input` and the runtime key check both control operations start with. -/
def checkControlInput (input : ControlInput) : RolloutM RuntimeKeyState := do
  require (reasonFits (joinWords input.reason)) (.refused "rollout reason must contain 1 to 500 characters")
  let gate := strip input.gateRef
  require (1 ≤ gate.length && gate.length ≤ 120) (.refused "rollout gate reference is invalid")
  let runtime ← present input.runtime (.refused "runtime key state is unavailable")
  require (runtime.ready && runtime.fingerprintKeyVersion = settings.fingerprintKeyVersion &&
    runtime.fingerprintKeyMaterialVerifier = settings.fingerprintKeyMaterialVerifier)
    (.refused "runtime key state is unavailable")
  return runtime

def operatorHmac : Digest :=
  settings.buildKeyedFingerprint (.subject (text "system:local-auto-review-rollout-admin"))
    (text "auto-review-rollout-actor:v1") (text "auto-review-rollout-actor:v1")

/-- An operator's control change. -/
def operatorWrite (input : ControlInput) (runtime : RuntimeKeyState) (kind : EventKind) (reasonCode : String)
    (row controlled : RolloutState) (db : RolloutDb) : RolloutDb :=
  writeControl db controlled (controlEvent input.now db input.key row controlled kind reasonCode
    (some (strip input.gateRef)) (operatorHmac settings) runtime.fingerprintKeyVersion
    runtime.fingerprintKeyMaterialVerifier)

def authorizePercentage (input : ControlInput) (percentage : Nat) : RolloutM RolloutAdminStatus := do
  let runtime ← checkControlInput settings input
  let row ← ensureRow input.key
  require (row.stateVersion = input.expectedStateVersion) (.refused "rollout state version changed")
  match (snapshot input.key row).requireAuthorizationTransition percentage with
  | .error message => throw (.refused message)
  | .ok authorized =>
    let controlled := { row with
      stateVersion := row.stateVersion+1
      controlEpoch := row.controlEpoch+1
      maxAuthorizedPercentage := authorized
      authorizationGeneration := row.authorizationGeneration+1
      authorizationAt := some input.now
      regressionGateReference := some (strip input.gateRef)
      updatedAt := input.now }
    modify (operatorWrite settings input runtime .percentageAuthorized "operator_authorized" row controlled)
    let db ← get
    return status db input.key

/-- A pending or unresolved audit, or an unresolved correction, of the scope and policy. -/
def unresolved (db : RolloutDb) (key : RolloutKey) : Bool :=
  db.audits.any (fun a => db.auditKey a = some key && a.status ≠ .completed) ||
    db.corrections.any fun c => (db.decisionOfItem c.reviewItemId).map (·.key) = some key &&
      c.status = .remediationRequired

def closeRolloutBreaker (input : ControlInput) : RolloutM RolloutAdminStatus := do
  let runtime ← checkControlInput settings input
  let db ← get
  let row ← present (db.rollouts input.key) (.refused "rollout state version changed")
  require (row.stateVersion = input.expectedStateVersion) (.refused "rollout state version changed")
  require row.breakerOpen (.refused "rollout breaker is not open")
  require (row.correctedCriticalCount = 0) (.refused "audit correction requires a new reviewed policy")
  require (!unresolved db input.key) (.refused "rollout remediation must be resolved before close")
  let controlled := { row with
    stateVersion := row.stateVersion+1
    controlEpoch := row.controlEpoch+1
    breakerOpen := false
    breakerReasonCode := none
    maxAuthorizedPercentage := 0
    authorizationGeneration := row.authorizationGeneration+1
    regressionGateReference := some (strip input.gateRef)
    updatedAt := input.now }
  modify (operatorWrite settings input runtime .breakerClosed "operator_closed" row controlled)
  let db ← get
  return status db input.key

end admin

end ParaWorks.Rollout
