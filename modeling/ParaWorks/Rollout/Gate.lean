import ParaWorks.Rollout.Runs

/-!
# The canary gate

The gate compares two totals: selected audits and audits with a human outcome. The first also counts
the invalidated ones and the second the manual ones.
-/

namespace ParaWorks.Rollout

open Lib

/-! ## A run to the gate -/

def sampleKey : RolloutKey := ⟨[1],[2]⟩

/-- Every candidate is inside the ten percent, and of the audit samples the one of ordinal 51. -/
def sampleSettings : Settings where
  fingerprintKeyVersion := [3]
  fingerprintKeyMaterialVerifier := 4
  buildKeyedFingerprint payload _ _ :=
    match payload with
    | .selection _ => 0
    | .auditSelection value => if value.promotionOrdinal = 51 then 0 else 99
    | .subject _ => 7

def sampleActor : ReviewResolutionActor := ⟨[9],.human,[[8]],[.humanReview]⟩

def sampleInput (version : Nat) : ControlInput :=
  ⟨sampleKey,version,[97],[98],some ⟨true,[3],4⟩,0⟩

def sampleRequest (item : Nat) : PromotionReservationInput where
  reviewItemId := item
  key := sampleKey
  selection := {
    securityScopeHmac := 1
    workflowExecutionHmac := 2
    candidateKey := [1]
    policyVersion := [2]
    rolloutControlEpoch := 1
    rolloutAuthorizationGeneration := 1
    requestedPercentage := 10
    authorizedPercentage := 10
    fingerprintKeyVersion := [3]
    fingerprintKeyMaterialVerifier := 4
  }
  requestedPercentage := 10
  storedPercentage := 10
  authorizedPercentage := 10

/-- A shadow prediction and the approval it is compared with. -/
def shadowCommands (item : Nat) : List Command :=
  [.recordShadowPrediction ⟨sampleKey,0,0,0⟩ item [5] [6] 0,
    .recordShadowComparison ⟨item,.approved,[8],none,some [5]⟩ sampleKey (some ⟨[1],[6]⟩) 0]

def reserveCommand (item : Nat) : Command :=
  .reserveAutoPromotion sampleSettings (sampleRequest item) (some ⟨item,.pendingReview,[8],none,some [5]⟩)

def confirmCommand (auditId : Nat) : Command := .complete sampleSettings 0 auditId sampleActor .confirmed [97]

/-- A promotion with a mandatory audit and its confirmation. -/
def confirmedPromotion (item : Nat) : List Command := [reserveCommand item,confirmCommand (item+1)]

/-- 500 comparisons, the canary, 50 confirmed mandatory audits, 450 more promotions with one sampled audit, and a
manual audit of the last one. -/
def gateRun : List Command :=
  .ensureRow sampleKey::(List.range' 0 500).flatMap shadowCommands++
    .authorizePercentage sampleSettings (sampleInput 1000) 10::(List.range' 0 50).flatMap confirmedPromotion++
    reserveCommand 50::(List.range' 51 449).flatMap (fun item => [reserveCommand item])++
    [.ensureManualAudit 499 sampleActor (some ⟨499,.approved,[8],some (text "auto_policy"),none⟩),confirmCommand 52]

/-- The stages of the run. -/
structure Shadowed (k : Nat) (db : RolloutDb) : Prop where
  row : db.rollouts sampleKey = some {
    stateVersion := 2*k, shadowPredictedCount := k, shadowCompletedCount := k, shadowSupportedCount := k }
  settled : ∀ v ∈ db.validations, v.shadowComparisonStatus = .completed
  decisions : db.decisions = []
  audits : db.audits = []

/-- The row of the canary, with its version and counters. -/
def CanaryRow (db : RolloutDb) (version : Nat) (counters : Counters) : Prop :=
  ∃ row, db.rollouts sampleKey = some row ∧ row.stateVersion = version ∧ row.control = ⟨1,10,false,1⟩ ∧
    row.counters = counters

theorem CanaryRow.of_eq {db : RolloutDb} {v v' : Nat} {n n' : Counters} (h : CanaryRow db v n) (hv : v = v')
    (hn : n = n') : CanaryRow db v' n' := by
  subst hv hn
  exact h

structure Confirmed (k : Nat) (db : RolloutDb) : Prop where
  row : CanaryRow db (1001+2*k) ⟨k,k,k,0,k,0,0,0⟩
  items : ∀ d ∈ db.decisions, d.reviewItemId < k
  auditItems : ∀ a ∈ db.audits, a.reviewItemId < k
  audits : db.audits.length = k

/-- The sampled audit of item 50 is pending. -/
def SamplePending (db : RolloutDb) : Prop :=
  ∃ a d, db.auditOfItem 50 = some a ∧ a.id = 51 ∧ a.sampleCohort = .sample10 ∧ a.status = .pending ∧
    db.decision a.promotionDecisionId = some d ∧ d.key = sampleKey ∧ d.reviewItemId = 50 ∧
    d.selectionResult = .sample10

structure Waiting (k : Nat) (db : RolloutDb) : Prop where
  consistent : db.Consistent
  row : CanaryRow db (1051+k) ⟨k,51,50,0,50,0,0,0⟩
  items : ∀ d ∈ db.decisions, d.reviewItemId < k
  auditItems : ∀ a ∈ db.audits, a.reviewItemId ≤ 50
  audits : db.audits.length = 51
  sample : SamplePending db
  last : 52 ≤ k → ∃ d, db.decisionOfItem (k-1) = some d ∧ d.key = sampleKey ∧ d.selectionResult = .notSelected

theorem shadowed_start : Shadowed 0 (run step .empty [.ensureRow sampleKey]) := by
  refine ⟨rfl,?_,rfl,rfl⟩
  intro v hv
  cases hv

theorem shadowed_step {k : Nat} {db : RolloutDb} (h : Shadowed k db) :
    Shadowed (k+1) (run step db (shadowCommands k)) := by
  have hnone : db.validations.filter (fun v => v.reviewItemId = k && v.workflowThreadId = [5] &&
      v.shadowComparisonStatus = .pending) = [] := by
    rw [List.filter_eq_nil_iff]
    intro v hv
    simp [h.settled v hv]
  unfold shadowCommands
  rw [run_cons, run_cons, run_nil, step_prediction h.row rfl]
  rw [step_comparison (setRollout_rollouts ..) rfl (by simp [RolloutDb.setRollout, hnone]; rfl) ⟨rfl,rfl⟩ rfl rfl]
  refine ⟨?_,?_,h.decisions,h.audits⟩
  · rw [setRollout_rollouts, if_pos rfl]
    rfl
  · intro v hv
    simp only [RolloutDb.setRollout, updateValidation] at hv
    rcases mem_map_update.mp hv with ⟨x,_,_,rfl⟩ | ⟨hv,hne⟩
    · rfl
    · rcases List.mem_cons.mp hv with rfl | hv
      · exact absurd rfl hne
      · exact h.settled v hv

theorem sampleInput_accepted (version : Nat) : (sampleInput version).Accepted sampleSettings :=
  ⟨rfl,show 1 ≤ (strip [98]).length ∧ (strip [98]).length ≤ 120 by decide,⟨_,rfl,rfl,rfl,rfl⟩⟩

theorem confirmed_start {db : RolloutDb} (h : Shadowed 500 db) :
    Confirmed 0 (step db (.authorizePercentage sampleSettings (sampleInput 1000) 10)) := by
  have htotal := authorize_total 10 (sampleInput_accepted 1000) h.row rfl rfl
  obtain ⟨row,events,hstep,hcontrol,hcounters,hversion⟩ :=
    step_of_wp (c := .authorizePercentage sampleSettings (sampleInput 1000) 10) (wp_discard_total htotal)
  rw [hstep]
  refine ⟨⟨row,?_,hversion,hcontrol,hcounters⟩,?_,?_,?_⟩
  · show Function.update db.rollouts sampleKey (some row) sampleKey = some row
    exact Function.update_self ..
  · intro d hd
    change d ∈ db.decisions at hd
    simp [h.decisions] at hd
  · intro a ha
    change a ∈ db.audits at ha
    simp [h.audits] at ha
  · exact congrArg List.length h.audits

theorem sample_control {row : RolloutState} (h : row.control = ⟨1,10,false,1⟩) (item : Nat) :
    verifyControl sampleSettings row (sampleRequest item) = true := by
  simp only [RolloutState.control, Control.mk.injEq] at h
  simp [verifyControl, sampleRequest, sampleSettings, h, sampleKey]

theorem fresh_decision {db : RolloutDb} {k : Nat} (h : ∀ d ∈ db.decisions, d.reviewItemId < k) :
    db.decisionOfItem k = none :=
  find?_none_iff.mpr fun d hd => (h d hd).ne

/-- A promotion of a fresh item on the canary. -/
theorem sample_reserve {db : RolloutDb} {row : RolloutState} {k : Nat} {cohort : Cohort} {fingerprint : Digest}
    (hrow : db.rollouts sampleKey = some row) (hcontrol : row.control = ⟨1,10,false,1⟩)
    (hitems : ∀ d ∈ db.decisions, d.reviewItemId < k)
    (haudit : selectAudit sampleSettings row (sampleRequest k) (row.enforcePromotionOrdinal+1) 0 db =
      .ok (cohort,fingerprint) db) :
    step db (reserveCommand k) =
      recordPromotion db row (reserved sampleSettings db row (sampleRequest k) cohort fingerprint) :=
  step_reserve (fresh_decision hitems) rfl hrow rfl (sample_control hcontrol k) rfl haudit

theorem selectAudit_first50 (settings : Settings) (db : RolloutDb) (row : RolloutState)
    (request : PromotionReservationInput) (ordinal : Nat) (enforce : Digest) (h : row.confirmedMandatoryAuditCount < 50)
    (hslots : row.confirmedMandatoryAuditCount+row.pendingMandatoryAuditCount < 50) :
    ∃ fingerprint, selectAudit settings row request ordinal enforce db = .ok (.first50,fingerprint) db := by
  unfold selectAudit
  dsimp only
  rw [if_pos h, decide_eq_true hslots]
  exact ⟨_,rfl⟩

theorem selectAudit_sampled (db : RolloutDb) (row : RolloutState) (k ordinal : Nat) (enforce : Digest)
    (h : ¬row.confirmedMandatoryAuditCount < 50) :
    ∃ fingerprint, selectAudit sampleSettings row (sampleRequest k) ordinal enforce db =
      .ok (if ordinal = 51 then .sample10 else .notSelected,fingerprint) db := by
  unfold selectAudit
  dsimp only
  rw [if_neg h]
  by_cases hordinal : ordinal = 51
  · rw [if_pos (by simp [sampleSettings, hordinal, sampleRequest]), if_pos hordinal]
    exact ⟨_,rfl⟩
  · rw [if_neg (by simp [sampleSettings, hordinal, sampleRequest]), if_neg hordinal]
    exact ⟨_,rfl⟩

/-- The row a promotion leaves. -/
theorem CanaryRow.promoted (db : RolloutDb) {row : RolloutState} {d : PromotionDecision} {version : Nat} {n : Counters}
    (hkey : d.key = sampleKey) (hversion : row.stateVersion = version) (hcontrol : row.control = ⟨1,10,false,1⟩)
    (hcounters : row.counters = n) : CanaryRow (recordPromotion db row d) (version+1) { n with
      ordinal := d.promotionOrdinal
      selected := if d.selectionResult ≠ .notSelected then n.selected+1 else n.selected
      pending := if d.selectionResult = .first50 then n.pending+1 else n.pending } := by
  subst hversion hcounters
  let row' : RolloutState := { row with
    postAuditSelectedCount :=
      if d.selectionResult ≠ .notSelected then row.postAuditSelectedCount+1 else row.postAuditSelectedCount
    pendingMandatoryAuditCount :=
      if d.selectionResult = .first50 then row.pendingMandatoryAuditCount+1 else row.pendingMandatoryAuditCount
    enforcePromotionOrdinal := d.promotionOrdinal
    stateVersion := row.stateVersion+1 }
  refine ⟨row',?_,rfl,hcontrol,rfl⟩
  rw [← hkey]
  show Function.update db.rollouts d.key (some row') d.key = some row'
  exact Function.update_self ..

/-- A confirmation on the canary. -/
theorem sample_confirm (db : RolloutDb) {a : PostAudit} {d : PromotionDecision} {version : Nat} {n : Counters}
    (haudit : db.audit a.id = some a) (hdecision : db.decision a.promotionDecisionId = some d)
    (hpending : a.status = .pending) (hkey : d.key = sampleKey) (hrow : CanaryRow db version n)
    (hslot : d.selectionResult = .first50 → 0 < n.pending) :
    let db' := step db (confirmCommand a.id)
    CanaryRow db' (version+1) { n with
      pending := if d.selectionResult = .first50 then n.pending-1 else n.pending
      completed := n.completed+1
      confirmed := if d.selectionResult = .first50 then n.confirmed+1 else n.confirmed } ∧
    db'.decisions = db.decisions ∧ ∃ f : PostAudit → PostAudit, KeepsIdentity f ∧
      db'.audits = (db.updateAudit a.id f).audits := by
  obtain ⟨row,hrow,hversion,hcontrol,rfl⟩ := hrow
  rw [← hkey] at hrow
  intro db'
  have hactor : sampleActor.canAudit = true := rfl
  have hreason : reasonFits (joinWords [97]) = true := rfl
  have hstep : db' = _ := step_complete 0 hactor hreason haudit hdecision hrow hpending hslot
  rw [hstep]
  refine ⟨⟨{ countOutcome row d.selectionResult .confirmed with stateVersion := row.stateVersion+1, updatedAt := 0 },?_,
      congrArg (·+1) hversion,hcontrol,?_⟩,rfl,
    writeOutcome sampleSettings 0 .confirmed (actorHmac sampleSettings sampleActor) (joinWords [97]),
    ⟨fun _ => rfl,fun _ => rfl,fun _ => rfl,fun _ => rfl⟩,rfl⟩
  · rw [← hkey]
    exact (setRollout_rollouts ..).trans (if_pos rfl)
  · simp [RolloutState.counters, countOutcome]

theorem confirmed_step {k : Nat} {db : RolloutDb} (hk : k < 50) (h : Confirmed k db) :
    Confirmed (k+1) (run step db (confirmedPromotion k)) := by
  obtain ⟨row,hrow,hversion,hcontrol,hcounters⟩ := h.row
  have hcount := hcounters
  simp only [RolloutState.counters, Counters.mk.injEq] at hcount
  obtain ⟨hordinal,hselected,hcompleted,hcritical,hconfirmed,hpending,hinvalidated,hcorrected⟩ := hcount
  obtain ⟨fingerprint,haudit⟩ := selectAudit_first50 sampleSettings db row (sampleRequest k)
    (row.enforcePromotionOrdinal+1) 0 (by omega) (by omega)
  unfold confirmedPromotion
  rw [run_cons, run_cons, run_nil, sample_reserve hrow hcontrol h.items haudit]
  set d := reserved sampleSettings db row (sampleRequest k) .first50 fingerprint with hd
  let a : PostAudit := { id := db.audits.length+1, reviewItemId := k, promotionDecisionId := d.id, sampleCohort := .first50 }
  have haudits : (recordPromotion db row d).audits = a::db.audits := rfl
  have hdecisions : (recordPromotion db row d).decisions = d::db.decisions := rfl
  have ha : (recordPromotion db row d).audit a.id = some a := by simp [RolloutDb.audit, haudits]
  have hlookup : (recordPromotion db row d).decision a.promotionDecisionId = some d := by
    rw [decision_cons hdecisions, if_pos rfl]
  have hpromoted := CanaryRow.promoted db (d := d) rfl hversion hcontrol hcounters
  obtain ⟨hrow',hdecisions',f,hf,haudits'⟩ := sample_confirm _ ha hlookup rfl rfl hpromoted fun _ => Nat.succ_pos _
  have hid : a.id = k+1 := congrArg (·+1) h.audits
  rw [hid] at hrow' hdecisions' haudits'
  refine ⟨?_,?_,?_,?_⟩
  · exact hrow'.of_eq (by omega) (by simp [hd, reserved, hordinal])
  · rw [hdecisions', hdecisions]
    intro e he
    rcases List.mem_cons.mp he with rfl | he
    · exact Nat.lt_succ_self k
    · exact (h.items e he).trans (Nat.lt_succ_self k)
  · rw [haudits', RolloutDb.updateAudit, haudits]
    intro b hb
    have hitem : ∀ c ∈ a::db.audits, c.reviewItemId < k+1 := by
      intro c hc
      rcases List.mem_cons.mp hc with rfl | hc
      · exact Nat.lt_succ_self k
      · exact (h.auditItems c hc).trans (Nat.lt_succ_self k)
    rcases mem_map_update.mp hb with ⟨c,hc,_,rfl⟩ | ⟨hb,_⟩
    · rw [hf.item]
      exact hitem c hc
    · exact hitem b hb
  · rw [haudits', RolloutDb.updateAudit, List.length_map, haudits, List.length_cons, h.audits]

theorem waiting_start {db : RolloutDb} (hdb : db.Consistent) (h : Confirmed 50 db) :
    Waiting 51 (step db (reserveCommand 50)) := by
  obtain ⟨row,hrow,hversion,hcontrol,hcounters⟩ := h.row
  have hcount := hcounters
  simp only [RolloutState.counters, Counters.mk.injEq] at hcount
  obtain ⟨fingerprint,haudit⟩ := selectAudit_sampled db row 50 (row.enforcePromotionOrdinal+1) 0 (by omega)
  rw [if_pos (by omega)] at haudit
  have hconsistent := step_consistent hdb (reserveCommand 50)
  rw [sample_reserve hrow hcontrol h.items haudit] at hconsistent ⊢
  set d := reserved sampleSettings db row (sampleRequest 50) .sample10 fingerprint with hd
  let a : PostAudit :=
    { id := db.audits.length+1, reviewItemId := 50, promotionDecisionId := d.id, sampleCohort := .sample10 }
  have haudits : (recordPromotion db row d).audits = a::db.audits := rfl
  have hdecisions : (recordPromotion db row d).decisions = d::db.decisions := rfl
  refine ⟨hconsistent,?_,?_,?_,?_,⟨a,d,?_,congrArg (·+1) h.audits,rfl,rfl,?_,rfl,rfl,rfl⟩,fun hk => absurd hk (by decide)⟩
  · exact (CanaryRow.promoted db (d := d) rfl hversion hcontrol hcounters).of_eq (by omega)
      (by simp [hd, reserved, hcount])
  · rw [hdecisions]
    intro e he
    rcases List.mem_cons.mp he with rfl | he
    · exact Nat.lt_succ_self 50
    · exact (h.items e he).trans (Nat.lt_succ_self 50)
  · rw [haudits]
    intro b hb
    rcases List.mem_cons.mp hb with rfl | hb
    · exact le_rfl
    · exact (h.auditItems b hb).le
  · rw [haudits, List.length_cons, h.audits]
  · simp [RolloutDb.auditOfItem, haudits, a]
  · rw [decision_cons hdecisions, if_pos rfl]

theorem waiting_step {k : Nat} {db : RolloutDb} (hk : 51 ≤ k) (h : Waiting k db) :
    Waiting (k+1) (run step db [reserveCommand k]) := by
  obtain ⟨row,hrow,hversion,hcontrol,hcounters⟩ := h.row
  have hcount := hcounters
  simp only [RolloutState.counters, Counters.mk.injEq] at hcount
  obtain ⟨fingerprint,haudit⟩ := selectAudit_sampled db row k (row.enforcePromotionOrdinal+1) 0 (by omega)
  rw [if_neg (by omega)] at haudit
  have hconsistent := step_consistent h.consistent (reserveCommand k)
  rw [run_cons, run_nil]
  rw [sample_reserve hrow hcontrol h.items haudit] at hconsistent ⊢
  set d := reserved sampleSettings db row (sampleRequest k) .notSelected fingerprint with hd
  have haudits : (recordPromotion db row d).audits = db.audits := rfl
  have hdecisions : (recordPromotion db row d).decisions = d::db.decisions := rfl
  obtain ⟨a,e,hitem,hid,hcohort,hpending,hdecision,hkey,hitem',hresult⟩ := h.sample
  refine ⟨hconsistent,?_,?_,h.auditItems,h.audits,⟨a,e,hitem,hid,hcohort,hpending,?_,hkey,hitem',hresult⟩,fun _ => ?_⟩
  · exact (CanaryRow.promoted db (d := d) rfl hversion hcontrol hcounters).of_eq (by omega)
      (by simp [hd, reserved, hcount])
  · rw [hdecisions]
    intro e he
    rcases List.mem_cons.mp he with rfl | he
    · exact Nat.lt_succ_self k
    · exact (h.items e he).trans (Nat.lt_succ_self k)
  · exact h.consistent.tables.decision_old hdecisions rfl hdecision
  · refine ⟨d,?_,rfl,rfl⟩
    show (d::db.decisions).find? (·.reviewItemId = k) = some d
    exact List.find?_cons_of_pos (decide_eq_true rfl)

theorem auditOfItem_update {db db' : RolloutDb} {id item : Nat} {f : PostAudit → PostAudit} (hf : KeepsIdentity f)
    (h : db'.audits = (db.updateAudit id f).audits) :
    db'.auditOfItem item = (db.auditOfItem item).map fun x => if x.id = id then f x else x := by
  rw [RolloutDb.auditOfItem, h, RolloutDb.updateAudit, List.find?_map]
  congr 2
  funext x
  dsimp only [Function.comp]
  split
  · rw [hf.item]
  · rfl

/-- The gate's row while the sampled audit is pending. -/
structure Passed (db : RolloutDb) : Prop where
  row : CanaryRow db 1552 ⟨500,51,51,0,50,0,0,0⟩
  sample : SamplePending db

theorem passed_of_waiting {db : RolloutDb} (h : Waiting 500 db) :
    Passed (run step db [.ensureManualAudit 499 sampleActor
      (some ⟨499,.approved,[8],some (text "auto_policy"),none⟩),confirmCommand 52]) := by
  obtain ⟨d,hd,hkey,hresult⟩ := h.last (by decide)
  obtain ⟨b,e,hitem,hid,hcohort,hpending,hdecision,hkey',hitem',hresult'⟩ := h.sample
  have hnone : db.auditOfItem 499 = none := by
    refine find?_none_iff.mpr fun a ha hitem => ?_
    have hle := h.auditItems a ha
    omega
  have hlookup := h.consistent.tables.decision_of_mem (decisionOfItem_spec hd).1
  rw [run_cons, run_cons, run_nil, step_manual 499 (d := d) rfl rfl (by decide) rfl rfl hd hnone hresult]
  set a : PostAudit :=
    ⟨db.audits.length+1,499,d.id,.manual,.pending,none,none,none,none,none,none,none,none⟩ with ha
  set db1 : RolloutDb := { db with audits := a::db.audits } with hdb1
  have hauditId : a.id = 52 := congrArg (·+1) h.audits
  have haudit : db1.audit a.id = some a := by simp [RolloutDb.audit, hdb1]
  obtain ⟨hrow,hdecisions,f,hf,haudits⟩ := sample_confirm db1 haudit hlookup rfl hkey h.row
    fun hfirst => absurd (hresult.symm.trans hfirst) (by decide)
  rw [hauditId] at hrow hdecisions haudits
  refine ⟨?_,b,e,?_,hid,hcohort,hpending,?_,hkey',hitem',hresult'⟩
  · exact hrow.of_eq rfl (by simp [hresult])
  · rw [auditOfItem_update hf haudits]
    show (((a::db.audits).find? (·.reviewItemId = 50)).map fun x => if x.id = 52 then f x else x) = some b
    rw [List.find?_cons_of_neg (by simp [ha])]
    show ((db.auditOfItem 50).map fun x => if x.id = 52 then f x else x) = some b
    rw [hitem, Option.map_some, if_neg (by omega)]
  · rw [RolloutDb.decision, hdecisions]
    exact hdecision

theorem run_parts (db : RolloutDb) (c0 c1 c2 : Command) (cs ds es fs : List Command) :
    run step db (c0::cs++c1::ds++c2::es++fs) =
      run step (run step (step (run step (step (run step (run step db [c0]) cs) c1) ds) c2) es) fs := by
  rw [run_append, run_append, run_append, run_cons, run_cons, run_cons, run_cons, run_nil]

theorem gateRun_passed : Passed (run step .empty gateRun) := by
  have hshadowed := run_stages (P := Shadowed) (f := shadowCommands) 0 500 shadowed_start
    fun k s _ _ => shadowed_step
  have hconfirmed := run_stages (P := Confirmed) (f := confirmedPromotion) 0 50
    (confirmed_start hshadowed) fun k s _ hk => confirmed_step (by omega)
  have hreachable := (((Reachable.empty.run [.ensureRow sampleKey]).run ((List.range' 0 500).flatMap shadowCommands)).step
    (.authorizePercentage sampleSettings (sampleInput 1000) 10)).run ((List.range' 0 50).flatMap confirmedPromotion)
  have hwaiting := run_stages (P := Waiting) (f := fun item => [reserveCommand item]) 51 449
    (waiting_start hreachable.consistent hconfirmed) fun k s hk _ => waiting_step hk
  have hpassed := passed_of_waiting hwaiting
  unfold gateRun
  rw [run_parts]
  exact hpassed

/-! ## What the gate compares -/

/-- The terms of the gate besides the two totals. -/
def otherTerms (s : RolloutControlSnapshot) : Bool :=
  s.maxAuthorizedPercentage = 10 && 500 ≤ s.enforcePromotionOrdinal && s.confirmedMandatoryAuditCount = 50 &&
    s.pendingMandatoryAuditCount = 0 && s.postAuditCriticalCount = 0 && s.correctedCriticalCount = 0 &&
    s.auditPrecisionReached && !s.breakerOpen

theorem canaryGatePassed_eq (s : RolloutControlSnapshot) :
    s.canaryGatePassed = (otherTerms s && s.postAuditSelectedCount = s.postAuditCompletedCount) := by
  unfold RolloutControlSnapshot.canaryGatePassed otherTerms
  ac_rfl

def gate (db : RolloutDb) (key : RolloutKey) : Bool := (snapshot key (peekOrDefault db key)).canaryGatePassed

def gateTerms (db : RolloutDb) (key : RolloutKey) : Bool := otherTerms (snapshot key (peekOrDefault db key))

/-- Sampled audits without an outcome. -/
def pendingSamples (db : RolloutDb) (key : RolloutKey) : Nat := db.auditCount key fun a => a.sampled && a.isPending

/-- Sampled audits whose source was invalidated first. -/
def invalidatedSamples (db : RolloutDb) (key : RolloutKey) : Nat :=
  db.auditCount key fun a => a.sampled && a.invalidatedBeforeAudit

/-- Manual audits with a human outcome. -/
def manualOutcomes (db : RolloutDb) (key : RolloutKey) : Nat := db.auditCount key fun a => !a.sampled && a.audited

section totals

variable {db : RolloutDb} {key : RolloutKey}

theorem auditCount_add {p q r : PostAudit → Bool} (hor : ∀ a ∈ db.audits, p a = (q a || r a))
    (hnot : ∀ a ∈ db.audits, (q a && r a) = false) :
    db.auditCount key p = db.auditCount key q+db.auditCount key r := by
  refine countP_add (fun a ha => ?_) fun a ha => ?_
  · rw [hor a ha, Bool.and_or_distrib_left]
  · have hqr := hnot a ha
    cases hq : q a <;> cases hr : r a <;> simp_all

/-- A pending audit has no outcome. -/
theorem RolloutDb.Consistent.pending_audited (h : db.Consistent) {a : PostAudit} (ha : a ∈ db.audits) :
    (a.isPending && a.audited) = false := by
  by_cases hpending : a.status = .pending
  · simp [PostAudit.audited, (h.tables.shaped a ha).pending hpending]
  · simp [PostAudit.isPending, hpending]

/-- The gate holds the pending and the invalidated samples against the manual outcomes. -/
theorem RolloutDb.Consistent.gate_eq (h : db.Consistent) (key : RolloutKey) :
    gate db key = (gateTerms db key &&
      decide (pendingSamples db key+invalidatedSamples db key = manualOutcomes db key)) := by
  have hn := h.counted_peek key
  have hselected : (peekOrDefault db key).postAuditSelectedCount =
      db.auditCount key (fun a => a.sampled && a.audited)+(pendingSamples db key+invalidatedSamples db key) := by
    refine hn.selected.trans ?_
    rw [auditCount_add (p := PostAudit.sampled) (q := fun a => a.sampled && a.audited)
      (r := fun a => a.sampled && !a.audited), pendingSamples, invalidatedSamples]
    · congr 1
      apply auditCount_add
      · intro a ha
        have hexclusive := h.pending_audited ha
        rw [(h.tables.shaped a ha).invalidated]
        cases hp : a.isPending <;> cases hq : a.audited <;> simp_all
      · intro a ha
        rw [(h.tables.shaped a ha).invalidated]
        cases a.isPending <;> simp
    · intro a ha
      cases a.audited <;> simp
    · intro a ha
      cases a.audited <;> simp
  have hcompleted : (peekOrDefault db key).postAuditCompletedCount =
      db.auditCount key (fun a => a.sampled && a.audited)+manualOutcomes db key := by
    refine hn.completed.trans ?_
    apply auditCount_add
    · intro a ha
      cases a.sampled <;> simp
    · intro a ha
      cases a.sampled <;> simp
  unfold gate gateTerms
  rw [canaryGatePassed_eq]
  congr 1
  show decide ((peekOrDefault db key).postAuditSelectedCount = (peekOrDefault db key).postAuditCompletedCount) = _
  rw [hselected, hcompleted, decide_eq_decide]
  omega

end totals

/-! ## Soundness of the gate -/

/-- A passed gate leaves no sampled audit pending and none critical. -/
def GateSound (db : RolloutDb) (key : RolloutKey) : Prop :=
  gate db key = true → ∀ a ∈ db.audits, db.auditKey a = some key → a.sampled = true →
    a.isPending = false ∧ a.critical = false

/-- A command gives no manual audit of the scope and policy an outcome. -/
def LeavesManual (key : RolloutKey) (db : RolloutDb) (c : Command) : Prop :=
  manualOutcomes (step db c) key = manualOutcomes db key

/-- Nothing but an invalidated sample is in the gate's way, and it stays there. -/
structure InvalidationBlocks (db : RolloutDb) (key : RolloutKey) : Prop where
  terms : gateTerms db key = true
  settled : pendingSamples db key = 0
  manual : manualOutcomes db key = 0
  forEver : ∀ cs, RunMeets step (LeavesManual key) db cs → gate (run step db cs) key = false

section soundness

variable {c : Command} {db db' : RolloutDb} {key : RolloutKey}

/-- The key of an audit does not change. -/
theorem RolloutDb.Tables.auditKey_kept (h : db.Tables) {a : PostAudit} (ha : a ∈ db.audits)
    (hd : db'.decisions = db.decisions ∨ ∃ d, db'.decisions = d::db.decisions ∧ d.id = db.decisions.length+1) :
    db'.auditKey a = db.auditKey a := by
  rcases hd with hd | ⟨d,hd,hid⟩
  · rw [auditKey_congr hd]
  · exact h.auditKey_old hd hid ha

/-- An audit settled by an invalidation is never written again. -/
theorem Effect.invalidated_stays (h : Effect c db db') (hdb : db.Consistent) {a : PostAudit} (ha : a ∈ db.audits)
    (hinvalidated : a.invalidatedBeforeAudit = true) : a ∈ db'.audits ∧ db'.auditKey a = db.auditKey a := by
  have hshape := hdb.tables.shaped a ha
  rw [hshape.invalidated, Bool.and_eq_true, Bool.not_eq_true', Bool.not_eq_true'] at hinvalidated
  obtain ⟨hsettled,hunaudited⟩ := hinvalidated
  have hkept : ∀ b ∈ db.audits, ∀ f, (b.status = .pending ∨ b.critical = true) → a ∈ (db.updateAudit b.id f).audits := by
    intro b hb f hwritten
    refine mem_map_update.mpr (.inr ⟨ha,fun hid => ?_⟩)
    obtain rfl := hdb.tables.audit_unique ha hb hid
    rcases hwritten with hpending | hcritical
    · simp [PostAudit.isPending, hpending] at hsettled
    · simp only [PostAudit.audited, ne_eq, decide_not, Bool.not_eq_false', decide_eq_true_eq] at hunaudited
      simp [PostAudit.critical, hunaudited] at hcritical
  cases h with
  | elsewhere => exact ⟨ha,rfl⟩
  | created => exact ⟨ha,rfl⟩
  | manual => exact ⟨List.mem_cons_of_mem _ ha,rfl⟩
  | finalized x succeeded hx hkind =>
    obtain ⟨b,hb,hid,hcritical⟩ := hdb.tables.contexts x hx hkind
    rw [← hid]
    exact ⟨hkept b hb _ (.inr hcritical),rfl⟩
  | @write key row row' _ w =>
    cases w.counts with
    | kept _ hd haudits => exact ⟨haudits ▸ ha,hdb.tables.auditKey_kept ha (.inl hd)⟩
    | corrected _ hd haudits => exact ⟨haudits ▸ ha,hdb.tables.auditKey_kept ha (.inl hd)⟩
    | promoted d _ hid _ _ _ _ _ hd haudits =>
      refine ⟨?_,hdb.tables.auditKey_kept ha (.inr ⟨d,hd,hid⟩)⟩
      rw [haudits]
      split
      · exact List.mem_cons_of_mem _ ha
      · exact ha
    | completed b d outcome f haudit hpending _ _ _ _ _ _ hd haudits =>
      refine ⟨?_,hdb.tables.auditKey_kept ha (.inl hd)⟩
      rw [haudits]
      exact hkept b (audit_spec haudit).1 f (.inl hpending)
    | invalidated b d now haudit hpending _ _ _ _ hd haudits =>
      refine ⟨?_,hdb.tables.auditKey_kept ha (.inl hd)⟩
      rw [haudits]
      exact hkept b (auditOfItem_spec haudit).1 _ (.inl hpending)

theorem step_invalidated_stays (hdb : db.Consistent) (c : Command) {a : PostAudit} (ha : a ∈ db.audits)
    (hinvalidated : a.invalidatedBeforeAudit = true) :
    a ∈ (step db c).audits ∧ (step db c).auditKey a = db.auditKey a := by
  have h := step_chain db c
  generalize step db c = db' at h
  have hboth : db'.Consistent ∧ a ∈ db'.audits ∧ db'.auditKey a = db.auditKey a := by
    induction h with
    | refl => exact ⟨hdb,ha,rfl⟩
    | tail _ heffect ih =>
      obtain ⟨hmid,hmem,hkey⟩ := ih
      obtain ⟨hmem',hkey'⟩ := heffect.invalidated_stays hmid hmem hinvalidated
      exact ⟨heffect.consistent hmid,hmem',hkey'.trans hkey⟩
  exact hboth.2

theorem invalidatedSamples_pos : 0 < invalidatedSamples db key ↔
    ∃ a ∈ db.audits, db.auditKey a = some key ∧ a.sampled = true ∧ a.invalidatedBeforeAudit = true := by
  rw [invalidatedSamples, RolloutDb.auditCount, List.countP_pos_iff]
  simp

theorem step_invalidatedSamples (hdb : db.Consistent) (h : 0 < invalidatedSamples db key) :
    0 < invalidatedSamples (step db c) key := by
  obtain ⟨a,ha,hkey,hsampled,hinvalidated⟩ := invalidatedSamples_pos.mp h
  obtain ⟨hmem,hkept⟩ := step_invalidated_stays hdb c ha hinvalidated
  exact invalidatedSamples_pos.mpr ⟨a,hmem,hkept.trans hkey,hsampled,hinvalidated⟩

/-- Without a manual outcome an invalidated sample keeps the gate shut. -/
theorem run_gate_shut (hdb : db.Consistent) (hmanual : manualOutcomes db key = 0) (h : 0 < invalidatedSamples db key)
    {cs : List Command} (hcs : RunMeets step (LeavesManual key) db cs) : gate (run step db cs) key = false := by
  induction cs generalizing db with
  | nil =>
    rw [run_nil, hdb.gate_eq, hmanual, decide_eq_false (by omega), Bool.and_false]
  | cons c cs ih =>
    have hstep : manualOutcomes (step db c) key = manualOutcomes db key := hcs.1
    exact ih (step_consistent hdb c) (hstep.trans hmanual) (step_invalidatedSamples hdb h) hcs.2

theorem RolloutDb.Consistent.gateSound_iff (h : db.Consistent) : GateSound db key ↔ (gateTerms db key = true →
    ¬(0 < pendingSamples db key ∧ manualOutcomes db key = pendingSamples db key+invalidatedSamples db key)) := by
  have hpending : pendingSamples db key = 0 ↔
      ∀ a ∈ db.audits, db.auditKey a = some key → a.sampled = true → a.isPending = false := by
    rw [pendingSamples, RolloutDb.auditCount, List.countP_eq_zero]
    simp
  unfold GateSound
  rw [h.gate_eq]
  constructor
  · rintro hsound hterms ⟨hpositive,hmanual⟩
    have hgate := hsound (by simp [hterms, hmanual])
    exact hpositive.ne' (hpending.mpr fun a ha hkey hsampled => (hgate a ha hkey hsampled).1)
  · intro hcondition hgate a ha hkey hsampled
    rw [Bool.and_eq_true, decide_eq_true_eq] at hgate
    have hzero : pendingSamples db key = 0 := by
      by_contra hne
      exact hcondition hgate.1 ⟨Nat.pos_of_ne_zero hne,hgate.2.symm⟩
    refine ⟨hpending.mp hzero a ha hkey hsampled,?_⟩
    have hnone : db.auditCount key PostAudit.critical = 0 := by
      rw [← (h.counted_peek key).critical]
      have hterms := hgate.1
      simp only [gateTerms, otherTerms, snapshot, Bool.and_eq_true] at hterms
      exact of_decide_eq_true hterms.1.1.1.2
    rw [RolloutDb.auditCount, List.countP_eq_zero] at hnone
    simpa [hkey] using hnone a ha

theorem RolloutDb.Consistent.invalidationBlocks_iff (h : db.Consistent) : InvalidationBlocks db key ↔
    gateTerms db key = true ∧ pendingSamples db key = 0 ∧ manualOutcomes db key = 0 ∧ 0 < invalidatedSamples db key := by
  constructor
  · intro hblocks
    refine ⟨hblocks.terms,hblocks.settled,hblocks.manual,?_⟩
    have hshut := hblocks.forEver [] trivial
    rw [run_nil, h.gate_eq, hblocks.terms, hblocks.settled, hblocks.manual, Bool.true_and, decide_eq_false_iff_not] at hshut
    omega
  · rintro ⟨hterms,hsettled,hmanual,hinvalidated⟩
    exact ⟨hterms,hsettled,hmanual,fun cs hcs => run_gate_shut h hmanual hinvalidated hcs⟩

/-- The manual outcomes neither make up for pending samples nor are missing where a sample was invalidated. -/
def Balanced (db : RolloutDb) (key : RolloutKey) : Prop :=
  gateTerms db key = true →
    ¬(0 < pendingSamples db key ∧ manualOutcomes db key = pendingSamples db key+invalidatedSamples db key) ∧
    ¬(pendingSamples db key = 0 ∧ manualOutcomes db key = 0 ∧ 0 < invalidatedSamples db key)

/-- When the canary gate is sound, in every reachable database. -/
theorem canary_gate_sound_iff (h : Reachable db) (key : RolloutKey) :
    (GateSound db key ∧ ¬InvalidationBlocks db key) ↔ Balanced db key := by
  rw [h.consistent.gateSound_iff, h.consistent.invalidationBlocks_iff]
  unfold Balanced
  tauto

theorem canary_gate_sound_iff_gateRun :
    (GateSound (run step .empty gateRun) sampleKey ∧ ¬InvalidationBlocks (run step .empty gateRun) sampleKey) ↔
      Balanced (run step .empty gateRun) sampleKey :=
  canary_gate_sound_iff (Reachable.empty.run gateRun) sampleKey

/-- After the run the gate passes although the sampled audit of item 50 is pending. -/
theorem gate_passes_over_pending_sample : Reachable (run step .empty gateRun) ∧
    gate (run step .empty gateRun) sampleKey = true ∧ ¬GateSound (run step .empty gateRun) sampleKey := by
  obtain ⟨⟨row,hrow,-,hcontrol,hcounters⟩,a,d,haudit,-,hcohort,hpending,hdecision,hkey,-,-⟩ := gateRun_passed
  generalize hdb : run step .empty gateRun = db at *
  have hgate : gate db sampleKey = true := by
    simp only [RolloutState.control, Control.mk.injEq] at hcontrol
    simp only [RolloutState.counters, Counters.mk.injEq] at hcounters
    simp [gate, peekOrDefault, hrow, snapshot, RolloutControlSnapshot.canaryGatePassed,
      RolloutControlSnapshot.auditPrecisionReached, hcontrol, hcounters]
  refine ⟨⟨gateRun,hdb.symm⟩,hgate,fun hsound => ?_⟩
  have hauditKey : db.auditKey a = some sampleKey := by rw [RolloutDb.auditKey, hdecision, Option.map_some, hkey]
  have hsettled := (hsound hgate a (auditOfItem_spec haudit).1 hauditKey (by simp [PostAudit.sampled, hcohort])).1
  simp [PostAudit.isPending, hpending] at hsettled

end soundness

/-! ## Control operations on a row that was read

The version an operator has read authorizes a change of the row it was read from, as long as no pending
audit is settled by a source invalidation in between. -/

/-- One of the two control operations accepts the input. -/
def ControlSucceeds (settings : Settings) (input : ControlInput) (db : RolloutDb) : Prop :=
  (∃ percentage, succeeds (authorizePercentage settings input percentage) db) ∨
    succeeds (closeRolloutBreaker settings input) db

theorem ControlSucceeds.version {settings : Settings} {input : ControlInput} {db : RolloutDb}
    (h : ControlSucceeds settings input db) :
    (peekOrDefault db input.key).stateVersion = input.expectedStateVersion := by
  rcases h with ⟨percentage,result,db',hrun⟩ | ⟨result,db',hrun⟩
  · exact (wp_ok (authorizePercentage_spec settings input percentage) hrun).1
  · have hversion := wp_ok (closeRolloutBreaker_spec settings input) hrun
    exact hversion

/-- A row that kept its version through advancing steps is the row that was read. -/
theorem Advances.same {key : RolloutKey} {db db' : RolloutDb} (h : Advances key db db')
    (hversion : (peekOrDefault db' key).stateVersion = (peekOrDefault db key).stateVersion) :
    peekOrDefault db' key = peekOrDefault db key := by
  rcases h with hsame | hless
  · exact hsame
  · omega

/-- What an invalidation of the sampled audit does to a read of the row. -/
theorem Passed.stale {db db' : RolloutDb} (h : Passed db) (hstep : db' = step db (.completeSourceInvalidated 50 0)) :
    (status db sampleKey).stateVersion = 1552 ∧
      succeeds (authorizePercentage sampleSettings (sampleInput 1552) 100) db' ∧
      peekOrDefault db' sampleKey ≠ peekOrDefault db sampleKey ∧ ¬Advances sampleKey db db' := by
  obtain ⟨⟨row,hrow,hversion,hcontrol,hcounters⟩,a,d,haudit,-,hcohort,hpending,hdecision,hkey,hitem,hresult⟩ := h
  simp only [RolloutState.control, Control.mk.injEq] at hcontrol
  simp only [RolloutState.counters, Counters.mk.injEq] at hcounters
  have hread : peekOrDefault db sampleKey = row := by rw [peekOrDefault, hrow, Option.getD_some]
  rw [step_invalidate 0 haudit hpending hdecision hitem (hkey ▸ hrow) (by rw [hresult]; decide)] at hstep
  set row' := { row with invalidatedBeforeAuditCount := row.invalidatedBeforeAuditCount+1, updatedAt := 0 } with hrow'
  have hafter : db'.rollouts sampleKey = some row' := by
    rw [hstep, hkey]
    exact (setRollout_rollouts ..).trans (if_pos rfl)
  have hread' : peekOrDefault db' sampleKey = row' := by rw [peekOrDefault, hafter, Option.getD_some]
  have hgate : (snapshot sampleKey row').requireAuthorizationTransition 100 = .ok 100 := by
    simp [RolloutControlSnapshot.requireAuthorizationTransition, snapshot, RolloutControlSnapshot.canaryGatePassed,
      RolloutControlSnapshot.auditPrecisionReached, hrow', hcontrol, hcounters]
  refine ⟨?_,?_,?_,?_⟩
  · show (peekOrDefault db sampleKey).stateVersion = 1552
    rw [hread, hversion]
  · exact (succeeds_of_wp (wp_mono (authorize_total 100 (sampleInput_accepted 1552) hafter hversion hgate)
      (fun _ _ _ => trivial) fun _ _ h => h)).1
  · rw [hread, hread']
    intro hsame
    have hcount := congrArg RolloutState.invalidatedBeforeAuditCount hsame
    simp [hrow'] at hcount
  · rw [Advances, hread, hread']
    rintro (hsame | hless)
    · have hcount := congrArg RolloutState.invalidatedBeforeAuditCount hsame
      simp [hrow'] at hcount
    · exact absurd hless (lt_irrefl _)

end ParaWorks.Rollout
