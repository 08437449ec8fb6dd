import ParaWorks.Rollout.History

/-!
# Commands whose checks pass

The database each command leaves when none of its checks fails.
-/

namespace ParaWorks.Rollout

open Lib

theorem Reachable.empty : Reachable .empty := ⟨[],rfl⟩

theorem Reachable.run {db : RolloutDb} (h : Reachable db) (cs : List Command) : Reachable (run step db cs) := by
  obtain ⟨ds,rfl⟩ := h
  exact ⟨ds++cs,(run_append ..).symm⟩

theorem Reachable.step {db : RolloutDb} (h : Reachable db) (c : Command) : Reachable (step db c) :=
  h.run [c]

section accepted

variable {db : RolloutDb} {row : RolloutState}

theorem step_of_wp {c : Command} {P : RolloutDb → Prop} (h : wp c.run (fun _ => P) (fun _ _ => False) db) :
    P (step db c) := by
  unfold step
  cases hrun : c.run db with
  | ok u db' => exact wp_ok h hrun
  | error e db' => exact (wp_error h hrun).elim

theorem step_eq {c : Command} {db' : RolloutDb} (h : wp c.run (fun _ s => s = db') (fun _ _ => False) db) :
    step db c = db' :=
  step_of_wp (P := fun s => s = db') h

theorem wp_discard_total {α : Type} {m : RolloutM α} {P : RolloutDb → Prop}
    (h : wp m (fun _ => P) (fun _ _ => False) db) : wp (do let _ ← m) (fun _ => P) (fun _ _ => False) db :=
  wp_seq h

theorem wp_of_ok {α : Type} {m : RolloutM α} {Q : α → RolloutDb → Prop} {E : RolloutError → RolloutDb → Prop} {a : α}
    {db' : RolloutDb} (h : m db = .ok a db') (hq : Q a db') : wp m Q E db := by
  unfold wp
  rw [h]
  exact hq

/-- A check that passes. -/
theorem wp_pass {β : Type} {c : Bool} {e : RolloutError} {k : Unit → RolloutM β} {Q : β → RolloutDb → Prop}
    {E : RolloutError → RolloutDb → Prop} (hc : c = true) (h : wp (k ()) Q E db) : wp (require c e >>= k) Q E db := by
  subst hc
  exact wp_seq h

theorem wp_found {α β : Type} {o : Option α} {e : RolloutError} {k : α → RolloutM β} {Q : β → RolloutDb → Prop}
    {E : RolloutError → RolloutDb → Prop} {a : α} (ho : o = some a) (h : wp (k a) Q E db) :
    wp (present o e >>= k) Q E db := by
  subst ho
  exact wp_seq h

theorem step_prediction {launch : ShadowLaunch} {item : Nat} {thread hash : Text} {now : Timestamp}
    (hrow : db.rollouts launch.key = some row) (hlaunch : launch.matches row = true) :
    step db (.recordShadowPrediction launch item thread hash now) =
      { db with validations := ⟨db.validations.length+1,item,thread,launch.key.policyVersion,hash,.pending,none,none,
          none⟩::db.validations }.setRollout launch.key { row with
        shadowPredictedCount := row.shadowPredictedCount+1, stateVersion := row.stateVersion+1, updatedAt := now } := by
  apply step_eq
  unfold Command.run recordShadowPrediction
  apply wp_seq_get
  dsimp only
  rw [hrow]
  apply wp_pass hlaunch
  rfl

theorem step_comparison {item : ReviewItem} {key : RolloutKey} {thread : WorkflowThread} {threadId : Text}
    {now : Timestamp} {v : ShadowValidation} (hrow : db.rollouts key = some row)
    (hthread : item.workflowThreadId = some threadId)
    (hpending : db.validations.filter (fun v => v.reviewItemId = item.id && v.workflowThreadId = threadId &&
      v.shadowComparisonStatus = .pending) = [v])
    (hkey : key.securityScopeId = thread.securityScopeId ∧ key.policyVersion = v.policyVersion)
    (hversion : thread.evidenceVersionHash = v.evidenceVersionHash) (hstatus : item.status = .approved) :
    step db (.recordShadowComparison item key (some thread) now) =
      (updateValidation db v.id fun v => { v with
        shadowComparisonStatus := .completed
        shadowHumanResolution := some item.status
        shadowExclusionCode := none
        shadowComparedAt := some now }).setRollout key { row with
          shadowCompletedCount := row.shadowCompletedCount+1
          shadowSupportedCount := row.shadowSupportedCount+1
          stateVersion := row.stateVersion+1
          updatedAt := now } := by
  apply step_eq
  apply wp_discard_total
  unfold recordShadowComparison
  apply wp_seq_get
  apply wp_found hrow
  rw [hthread]
  dsimp only
  rw [hpending]
  apply wp_found rfl
  apply wp_pass (by simp [hkey])
  rw [if_neg (not_not.mpr hversion), if_neg (by simp [hstatus])]
  simp [hstatus]

/-- An operator input whose fields and key state pass. -/
structure ControlInput.Accepted (settings : Settings) (input : ControlInput) : Prop where
  reason : reasonFits (joinWords input.reason) = true
  gate : 1 ≤ (strip input.gateRef).length ∧ (strip input.gateRef).length ≤ 120
  runtime : ∃ runtime, input.runtime = some runtime ∧ runtime.ready = true ∧
    runtime.fingerprintKeyVersion = settings.fingerprintKeyVersion ∧
    runtime.fingerprintKeyMaterialVerifier = settings.fingerprintKeyMaterialVerifier

theorem authorize_total {settings : Settings} {input : ControlInput} (percentage : Nat) {authorized : Nat}
    (hinput : input.Accepted settings) (hrow : db.rollouts input.key = some row)
    (hversion : row.stateVersion = input.expectedStateVersion)
    (hgate : (snapshot input.key row).requireAuthorizationTransition percentage = .ok authorized) :
    wp (authorizePercentage settings input percentage) (fun _ db' =>
      ∃ row' events, db' = { db.setRollout input.key row' with events } ∧
        row'.control = ⟨row.controlEpoch+1,authorized,row.breakerOpen,row.authorizationGeneration+1⟩ ∧
        row'.counters = row.counters ∧ row'.stateVersion = row.stateVersion+1) (fun _ _ => False) db := by
  obtain ⟨runtime,hruntime,hready,hkey,hverifier⟩ := hinput.runtime
  unfold authorizePercentage checkControlInput
  simp only [bind_assoc]
  apply wp_pass hinput.reason
  apply wp_pass (by simpa using hinput.gate)
  apply wp_found hruntime
  apply wp_pass (by simp [hready, hkey, hverifier])
  rw [pure_bind]
  unfold ensureRow
  simp only [bind_assoc]
  apply wp_seq_get
  rw [hrow]
  dsimp only
  rw [pure_bind]
  apply wp_pass (by simpa using hversion)
  rw [hgate]
  apply wp_seq_modify
  apply wp_seq_get
  exact ⟨_,_,rfl,rfl,rfl,rfl⟩

/-- The decision a reservation records. -/
def reserved (settings : Settings) (db : RolloutDb) (row : RolloutState) (request : PromotionReservationInput)
    (cohort : Cohort) (fingerprint : Digest) : PromotionDecision := {
  id := db.decisions.length+1
  reviewItemId := request.reviewItemId
  key := request.key
  rolloutAuthorizationGeneration := request.selection.rolloutAuthorizationGeneration
  promotionOrdinal := row.enforcePromotionOrdinal+1
  requestedPercentage := request.requestedPercentage
  storedPercentage := request.storedPercentage
  authorizedPercentage := request.authorizedPercentage
  enforceSelectionFingerprint := (stableRolloutSelection settings request.selection request.storedPercentage
    (text "auto-review-enforce-selection:v1")).1
  auditSelectionFingerprint := fingerprint
  selectionResult := cohort
  fingerprintKeyVersion := request.selection.fingerprintKeyVersion
  fingerprintKeyMaterialVerifier := request.selection.fingerprintKeyMaterialVerifier }

theorem step_reserve {settings : Settings} {request : PromotionReservationInput} {item : ReviewItem} {cohort : Cohort}
    {fingerprint : Digest} (hfresh : db.decisionOfItem request.reviewItemId = none)
    (hitem : item.id = request.reviewItemId) (hrow : db.rollouts request.key = some row)
    (hstatus : item.status = .pendingReview) (hcontrol : verifyControl settings row request = true)
    (henforce : (stableRolloutSelection settings request.selection request.storedPercentage
      (text "auto-review-enforce-selection:v1")).2 = true)
    (haudit : selectAudit settings row request (row.enforcePromotionOrdinal+1) (stableRolloutSelection settings
      request.selection request.storedPercentage (text "auto-review-enforce-selection:v1")).1 db =
        .ok (cohort,fingerprint) db) :
    step db (.reserveAutoPromotion settings request (some item)) =
      recordPromotion db row (reserved settings db row request cohort fingerprint) := by
  apply step_eq
  apply wp_discard_total
  unfold reserveAutoPromotion
  apply wp_seq_get
  rw [hfresh]
  apply wp_pass (by simpa using hitem)
  apply wp_found hrow
  apply wp_found rfl
  apply wp_pass (by simpa using hstatus)
  apply wp_pass hcontrol
  apply wp_pass henforce
  apply wp_seq
  apply wp_of_ok haudit
  apply wp_seq_set
  apply wp_seq_get
  rfl

theorem step_complete {settings : Settings} (now : Timestamp) {auditId : Nat} {actor : ReviewResolutionActor}
    {reason : Text} {a : PostAudit} {d : PromotionDecision} (hactor : actor.canAudit = true)
    (hreason : reasonFits (joinWords reason) = true) (haudit : db.audit auditId = some a)
    (hdecision : db.decision a.promotionDecisionId = some d) (hrow : db.rollouts d.key = some row)
    (hpending : a.status = .pending) (hslot : d.selectionResult = .first50 → 0 < row.pendingMandatoryAuditCount) :
    step db (.complete settings now auditId actor .confirmed reason) =
      (db.updateAudit auditId (writeOutcome settings now .confirmed (actorHmac settings actor) (joinWords reason))).setRollout
        d.key { countOutcome row d.selectionResult .confirmed with
          stateVersion := row.stateVersion+1, updatedAt := now } := by
  apply step_eq
  apply wp_discard_total
  unfold complete
  apply wp_pass hactor
  apply wp_pass hreason
  apply wp_seq_get
  apply wp_found haudit
  apply wp_found hdecision
  apply wp_found hrow
  rw [if_neg (not_not.mpr hpending)]
  apply wp_pass
  · by_cases hfirst : d.selectionResult = .first50
    · simp [hfirst, hslot hfirst]
    · simp [hfirst]
  apply wp_seq_set
  rw [if_pos rfl]
  apply wp_seq_modify
  rfl

theorem step_manual (itemId : Nat) {actor : ReviewResolutionActor} {item : ReviewItem} {d : PromotionDecision}
    (hactor : actor.canAudit = true) (hitem : item.id = itemId) (hlevel : item.permissionLevel ∈ actor.allowedPermissionLevels)
    (hstatus : item.status = .approved) (hsource : item.resolutionSource = some (text "auto_policy"))
    (hdecision : db.decisionOfItem itemId = some d) (hnone : db.auditOfItem itemId = none)
    (hresult : d.selectionResult = .notSelected) :
    step db (.ensureManualAudit itemId actor (some item)) = { db with audits :=
      ⟨db.audits.length+1,itemId,d.id,.manual,.pending,none,none,none,none,none,none,none,none⟩::db.audits } := by
  apply step_eq
  apply wp_discard_total
  unfold ensureManualAudit
  apply wp_pass hactor
  apply wp_found rfl
  apply wp_pass (by simp [hitem, hlevel, hstatus, hsource])
  apply wp_seq_get
  apply wp_found hdecision
  rw [hnone]
  apply wp_pass (by simpa using hresult)
  apply wp_seq_set
  rfl

theorem step_invalidate {itemId : Nat} (now : Timestamp) {a : PostAudit} {d : PromotionDecision}
    (haudit : db.auditOfItem itemId = some a) (hpending : a.status = .pending)
    (hdecision : db.decision a.promotionDecisionId = some d) (hitem : d.reviewItemId = itemId)
    (hrow : db.rollouts d.key = some row) (hresult : d.selectionResult ≠ .first50) :
    step db (.completeSourceInvalidated itemId now) = (db.updateAudit a.id (invalidateAudit now)).setRollout d.key
      { row with invalidatedBeforeAuditCount := row.invalidatedBeforeAuditCount+1, updatedAt := now } := by
  apply step_eq
  apply wp_discard_total
  unfold completeSourceInvalidated
  apply wp_seq_get
  rw [haudit]
  dsimp only
  rw [if_neg (not_not.mpr hpending)]
  apply wp_found hdecision
  apply wp_pass (by simpa using hitem)
  apply wp_found hrow
  apply wp_pass (by simp [hresult])
  apply wp_seq_set
  simp [hresult]

end accepted

end ParaWorks.Rollout
