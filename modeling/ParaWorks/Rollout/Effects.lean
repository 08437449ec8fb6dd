import ParaWorks.Lib.Tables
import ParaWorks.Rollout.System

/-!
# What a writer may do

Every operation is a chain of a few effects. Each invariant is proved of one effect, and no proof
after this module unfolds an operation.
-/

namespace ParaWorks.Rollout

open Lib

/-- The counters of a row that stand for decisions, audits and corrections. -/
structure Counters where
  ordinal : Nat
  selected : Nat
  completed : Nat
  critical : Nat
  confirmed : Nat
  pending : Nat
  invalidated : Nat
  corrected : Nat
  deriving DecidableEq

def RolloutState.counters (row : RolloutState) : Counters :=
  ⟨row.enforcePromotionOrdinal,row.postAuditSelectedCount,row.postAuditCompletedCount,row.postAuditCriticalCount,
    row.confirmedMandatoryAuditCount,row.pendingMandatoryAuditCount,row.invalidatedBeforeAuditCount,
    row.correctedCriticalCount⟩

def Command.Authorizes (key : RolloutKey) (c : Command) : Prop :=
  ∃ settings input percentage, c = .authorizePercentage settings input percentage ∧ input.key = key

def Command.Invalidates (c : Command) : Prop := ∃ item now, c = .completeSourceInvalidated item now

/-- The three changes of the control fields. -/
inductive ControlMove (c : Command) (key : RolloutKey) (row row' : RolloutState) : Prop
  | authorized : c.Authorizes key → row.breakerOpen = false → row'.breakerOpen = false →
      row.postAuditCriticalCount = 0 →
      (row.maxAuthorizedPercentage = 0 ∧ row'.maxAuthorizedPercentage = 10 ∨
        row.maxAuthorizedPercentage = 10 ∧ row'.maxAuthorizedPercentage = 100) → ControlMove c key row row'
  | opened : row'.maxAuthorizedPercentage = 0 → ControlMove c key row row'
  | closed : row'.breakerOpen = false → row'.maxAuthorizedPercentage = 0 → ControlMove c key row row'

/-- The control fields stay, or they move along with one event. -/
inductive ControlStep (c : Command) (key : RolloutKey) (row row' : RolloutState) (events events' : List ControlEvent) :
    Prop
  | kept : row'.control = row.control → row'.lastEventSequence = row.lastEventSequence → events' = events →
      ControlStep c key row row' events events'
  | moved (event : ControlEvent) : event.key = key → event.eventSequence = row.lastEventSequence+1 →
      event.prior = row.control → event.new = row'.control → row'.lastEventSequence = event.eventSequence →
      events' = event::events → ControlMove c key row row' → ControlStep c key row row' events events'

/-- The columns of an audit no update writes. -/
structure KeepsIdentity (f : PostAudit → PostAudit) : Prop where
  id : ∀ b, (f b).id = b.id
  item : ∀ b, (f b).reviewItemId = b.reviewItemId
  decision : ∀ b, (f b).promotionDecisionId = b.promotionDecisionId
  cohort : ∀ b, (f b).sampleCohort = b.sampleCohort

/-- `f` writes a human outcome into an audit. -/
structure WritesOutcome (outcome : AuditOutcome) (f : PostAudit → PostAudit) : Prop extends KeepsIdentity f where
  decides : ∀ b, (f b).outcome = some outcome
  settles : ∀ b, (f b).status = if outcome = .confirmed then .completed else .remediationRequired
  code : ∀ b, (f b).systemResolutionCode ≠ some .sourceInvalidatedBeforeAudit

/-- The counters and the rows they count. -/
inductive CountStep (key : RolloutKey) (row row' : RolloutState) (db db' : RolloutDb) : Prop
  | kept : row'.counters = row.counters → db'.decisions = db.decisions → db'.audits = db.audits →
      CountStep key row row' db db'
  | corrected : row'.counters = { row.counters with corrected := row.counters.corrected+1 } →
      db'.decisions = db.decisions → db'.audits = db.audits → CountStep key row row' db db'
  | promoted (d : PromotionDecision) : d.key = key → d.id = db.decisions.length+1 →
      db.decisionOfItem d.reviewItemId = none → d.promotionOrdinal = row.counters.ordinal+1 →
      d.selectionResult ≠ .manual →
      (d.selectionResult = .first50 → row.counters.confirmed+row.counters.pending < 50) →
      row'.counters = { row.counters with
        ordinal := d.promotionOrdinal
        selected := if d.selectionResult ≠ .notSelected then row.counters.selected+1 else row.counters.selected
        pending := if d.selectionResult = .first50 then row.counters.pending+1 else row.counters.pending } →
      db'.decisions = d::db.decisions →
      db'.audits = (if d.selectionResult ≠ .notSelected then
        { id := db.audits.length+1, reviewItemId := d.reviewItemId, promotionDecisionId := d.id,
          sampleCohort := d.selectionResult }::db.audits else db.audits) →
      CountStep key row row' db db'
  | completed (a : PostAudit) (d : PromotionDecision) (outcome : AuditOutcome) (f : PostAudit → PostAudit) :
      db.audit a.id = some a → a.status = .pending → db.decision a.promotionDecisionId = some d → d.key = key →
      (d.selectionResult = .first50 → 0 < row.counters.pending) →
      WritesOutcome outcome f →
      row'.counters = { row.counters with
        pending := if d.selectionResult = .first50 then row.counters.pending-1 else row.counters.pending
        completed := row.counters.completed+1
        critical := if outcome ≠ .confirmed then row.counters.critical+1 else row.counters.critical
        confirmed := if outcome = .confirmed ∧ d.selectionResult = .first50 then row.counters.confirmed+1
          else row.counters.confirmed } →
      (outcome ≠ .confirmed → row'.breakerOpen = true) →
      db'.decisions = db.decisions → db'.audits = (db.updateAudit a.id f).audits → CountStep key row row' db db'
  | invalidated (a : PostAudit) (d : PromotionDecision) (now : Timestamp) :
      db.auditOfItem a.reviewItemId = some a → a.status = .pending → db.decision a.promotionDecisionId = some d →
      d.key = key → (d.selectionResult = .first50 → 0 < row.counters.pending) →
      row'.counters = { row.counters with
        pending := if d.selectionResult = .first50 then row.counters.pending-1 else row.counters.pending
        invalidated := row.counters.invalidated+1 } →
      db'.decisions = db.decisions → db'.audits = (db.updateAudit a.id (invalidateAudit now)).audits →
      CountStep key row row' db db'

/-- A write of one rollout row together with what it counts and explains. -/
structure Write (c : Command) (key : RolloutKey) (row row' : RolloutState) (db db' : RolloutDb) : Prop where
  before : db.rollouts key = some row
  after : db'.rollouts = Function.update db.rollouts key (some row')
  control : ControlStep c key row row' db.events db'.events
  counts : CountStep key row row' db db'
  contexts : db'.contexts = db.contexts
  version : c.Invalidates ∨ row.stateVersion < row'.stateVersion

/-- The audit behind a context awaits or has a critical verdict. -/
def Remediable (db : RolloutDb) (x : QualityRevokeContext) : Prop :=
  x.remediationKind = .audit → ∃ a ∈ db.audits, a.id = x.remediationId ∧
    (a.status = .remediationRequired ∨ ∃ o, a.outcome = some o ∧ o ≠ .confirmed)

inductive Effect (c : Command) (db : RolloutDb) : RolloutDb → Prop
  | elsewhere (assessments : List RevocationAssessment) (corrections : List AuditCorrection)
      (validations : List ShadowValidation) (contexts : List QualityRevokeContext) :
      (∀ x ∈ contexts, x ∈ db.contexts ∨ Remediable db x) →
      Effect c db { db with assessments, corrections, validations, contexts }
  | created (key : RolloutKey) : db.rollouts key = none → Effect c db (db.setRollout key {})
  | manual (d : PromotionDecision) : db.decisionOfItem d.reviewItemId = some d →
      db.auditOfItem d.reviewItemId = none →
      Effect c db { db with audits :=
        { id := db.audits.length+1, reviewItemId := d.reviewItemId, promotionDecisionId := d.id,
          sampleCohort := .manual }::db.audits }
  | finalized (x : QualityRevokeContext) (succeeded : Bool) : x ∈ db.contexts → x.remediationKind = .audit →
      Effect c db (db.updateAudit x.remediationId (finalizeAudit succeeded))
  | write {key : RolloutKey} {row row' : RolloutState} {db' : RolloutDb} :
      Write c key row row' db db' → Effect c db db'

/-- The effects of one command. -/
abbrev Chain (c : Command) : RolloutDb → RolloutDb → Prop := Relation.ReflTransGen (Effect c)

section specs

variable {c : Command} {db : RolloutDb}

theorem setRollout_rollouts (key k : RolloutKey) (row : RolloutState) :
    (db.setRollout key row).rollouts k = if k = key then some row else db.rollouts k :=
  Function.update_apply ..

theorem audit_spec {id : Nat} {a : PostAudit} (h : db.audit id = some a) : a ∈ db.audits ∧ a.id = id := by
  simpa using find?_spec h

theorem auditOfItem_spec {item : Nat} {a : PostAudit} (h : db.auditOfItem item = some a) :
    a ∈ db.audits ∧ a.reviewItemId = item := by
  simpa using find?_spec h

theorem decision_spec {id : Nat} {d : PromotionDecision} (h : db.decision id = some d) :
    d ∈ db.decisions ∧ d.id = id := by
  simpa using find?_spec h

theorem decisionOfItem_spec {item : Nat} {d : PromotionDecision} (h : db.decisionOfItem item = some d) :
    d ∈ db.decisions ∧ d.reviewItemId = item := by
  simpa using find?_spec h

/-- Opening the breaker of a row whose control fields are those of the stored row. -/
theorem openBreaker_spec (db : RolloutDb) (settings : Settings) (now : Timestamp) (key : RolloutKey)
    {row row0 : RolloutState} (hmac : Digest) (code : String) (hc : row.control = row0.control)
    (hs : row.lastEventSequence = row0.lastEventSequence) : ∃ row',
      (openBreaker settings now key row hmac code db).rollouts = Function.update db.rollouts key (some row') ∧
      ControlStep c key row0 row' db.events (openBreaker settings now key row hmac code db).events ∧
      row'.counters = row.counters ∧ row'.breakerOpen = true ∧ row.stateVersion < row'.stateVersion := by
  unfold openBreaker
  split
  · next hopen => exact ⟨_,rfl,.kept hc hs rfl,rfl,hopen,Nat.lt_succ_self _⟩
  · refine ⟨_,rfl,.moved _ rfl ?_ ?_ rfl rfl rfl (.opened rfl),rfl,rfl,Nat.lt_succ_self _⟩
    · exact congrArg (·+1) hs
    · exact hc

@[simp] theorem openBreaker_decisions (settings : Settings) (now : Timestamp) (key : RolloutKey) (row : RolloutState)
    (hmac : Digest) (code : String) : (openBreaker settings now key row hmac code db).decisions = db.decisions := by
  unfold openBreaker
  split <;> rfl

@[simp] theorem openBreaker_audits (settings : Settings) (now : Timestamp) (key : RolloutKey) (row : RolloutState)
    (hmac : Digest) (code : String) : (openBreaker settings now key row hmac code db).audits = db.audits := by
  unfold openBreaker
  split <;> rfl

@[simp] theorem openBreaker_contexts (settings : Settings) (now : Timestamp) (key : RolloutKey) (row : RolloutState)
    (hmac : Digest) (code : String) : (openBreaker settings now key row hmac code db).contexts = db.contexts := by
  unfold openBreaker
  split <;> rfl

theorem ensureRow_effect (key : RolloutKey) :
    wp (ensureRow key) (fun row db' => Chain c db db' ∧ db'.rollouts key = some row) (fun _ _ => True) db := by
  unfold ensureRow
  refine wp_seq_get ?_
  split
  · next row h => exact ⟨.refl,h⟩
  · next h =>
    refine wp_seq_set ?_
    exact ⟨.single (.created key h),Function.update_self _ _ _⟩

theorem recordShadowPrediction_effect (launch : ShadowLaunch) (item : Nat) (thread hash : Text) (now : Timestamp) :
    wp (recordShadowPrediction launch item thread hash now) (fun _ => Chain c db) (fun _ _ => True) db := by
  unfold recordShadowPrediction
  refine wp_seq_get ?_
  have helse : ∀ vs : List ShadowValidation, Effect c db { db with validations := vs } :=
    fun vs => .elsewhere db.assessments db.corrections vs db.contexts fun x hx => .inl hx
  dsimp only
  split
  · exact .single (helse _)
  · next row h =>
    refine wp_seq_require trivial fun hm => ?_
    refine .tail (.single (helse _)) (.write ⟨h,rfl,.kept rfl rfl rfl,.kept rfl rfl rfl,rfl,.inr (Nat.lt_succ_self _)⟩)

theorem recordShadowComparison_effect (item : ReviewItem) (key : RolloutKey) (thread : Option WorkflowThread)
    (now : Timestamp) :
    wp (recordShadowComparison item key thread now) (fun _ => Chain c db) (fun _ _ => True) db := by
  unfold recordShadowComparison
  refine wp_seq_get ?_
  refine wp_seq_present trivial fun row hrow => ?_
  have helse : ∀ vs : List ShadowValidation, Effect c db { db with validations := vs } :=
    fun vs => .elsewhere db.assessments db.corrections vs db.contexts fun x hx => .inl hx
  split
  · exact .refl
  · split
    · refine wp_seq_present trivial fun thread hthread => ?_
      refine wp_seq_require trivial fun hid => ?_
      split
      · exact .single (helse _)
      · split
        · exact .refl
        · exact .tail (.single (helse _))
            (.write ⟨hrow,rfl,.kept rfl rfl rfl,.kept rfl rfl rfl,rfl,.inr (Nat.lt_succ_self _)⟩)
    · exact .refl

theorem checkControlInput_spec {settings : Settings} {input : ControlInput} {Q : RuntimeKeyState → RolloutDb → Prop}
    (h : ∀ runtime, Q runtime db) : wp (checkControlInput settings input) Q (fun _ _ => True) db := by
  unfold checkControlInput
  refine wp_seq_require trivial fun hreason => ?_
  refine wp_seq_require trivial fun hgate => ?_
  refine wp_seq_present trivial fun runtime hruntime => ?_
  refine wp_seq_require trivial fun hkey => ?_
  exact h runtime

/-- What an authorization of a percentage needs of the row. -/
theorem authorization_spec {key : RolloutKey} {row : RolloutState} {percentage authorized : Nat}
    (h : (snapshot key row).requireAuthorizationTransition percentage = .ok authorized) :
    row.breakerOpen = false ∧ row.postAuditCriticalCount = 0 ∧
      (row.maxAuthorizedPercentage = 0 ∧ authorized = 10 ∨ row.maxAuthorizedPercentage = 10 ∧ authorized = 100) := by
  unfold RolloutControlSnapshot.requireAuthorizationTransition at h
  split at h
  · cases h
  split at h
  · cases h
  split at h
  · next hzero =>
    split at h
    · cases h
    split at h
    · cases h
    · next hgate =>
      simp only [RolloutControlSnapshot.shadowGatePassed,snapshot,Bool.not_eq_true',Bool.not_eq_false,
        Bool.and_eq_true] at hgate
      exact ⟨hgate.2,of_decide_eq_true hgate.1.1.2,.inl ⟨hzero,(Except.ok.inj h).symm⟩⟩
  split at h
  · next hten =>
    split at h
    · cases h
    · next hgate =>
      simp only [RolloutControlSnapshot.canaryGatePassed,snapshot,Bool.or_eq_true,not_or,Bool.not_eq_true',
        Bool.not_eq_false,Bool.and_eq_true] at hgate
      exact ⟨hgate.2.2,of_decide_eq_true hgate.2.1.1.1.2,.inr ⟨hten,(Except.ok.inj h).symm⟩⟩
  · cases h

theorem authorizePercentage_effect (settings : Settings) (input : ControlInput) (percentage : Nat) :
    wp (authorizePercentage settings input percentage)
      (fun _ => Chain (.authorizePercentage settings input percentage) db) (fun _ _ => True) db := by
  unfold authorizePercentage
  refine wp_seq (checkControlInput_spec fun runtime => ?_)
  refine wp_seq (wp_mono (ensureRow_effect (c := .authorizePercentage settings input percentage) input.key) ?_
    fun _ _ _ => trivial)
  rintro row db1 ⟨hchain,hrow⟩
  refine wp_seq_require trivial fun hversion => ?_
  split
  · trivial
  · next authorized hgate =>
    obtain ⟨hopen,hcritical,hpct⟩ := authorization_spec hgate
    refine wp_seq_modify (wp_seq_get ?_)
    refine .tail hchain (.write ⟨hrow,rfl,.moved _ rfl rfl rfl rfl rfl rfl ?_,.kept rfl rfl rfl,rfl,
      .inr (Nat.lt_succ_self _)⟩)
    exact .authorized ⟨settings,input,percentage,rfl,rfl⟩ hopen hopen hcritical hpct

theorem closeRolloutBreaker_effect (settings : Settings) (input : ControlInput) :
    wp (closeRolloutBreaker settings input) (fun _ => Chain c db) (fun _ _ => True) db := by
  unfold closeRolloutBreaker
  refine wp_seq (checkControlInput_spec fun runtime => ?_)
  refine wp_seq_get ?_
  refine wp_seq_present trivial fun row hrow => ?_
  refine wp_seq_require trivial fun hversion => ?_
  refine wp_seq_require trivial fun hopen => ?_
  refine wp_seq_require trivial fun hcorrected => ?_
  refine wp_seq_require trivial fun hresolved => ?_
  refine wp_seq_modify (wp_seq_get ?_)
  exact .single (.write ⟨hrow,rfl,.moved _ rfl rfl rfl rfl rfl rfl (.closed rfl rfl),.kept rfl rfl rfl,rfl,
    .inr (Nat.lt_succ_self _)⟩)

theorem selectAudit_spec {settings : Settings} {row : RolloutState} {request : PromotionReservationInput}
    {ordinal : Nat} {fingerprint : Digest} :
    wp (selectAudit settings row request ordinal fingerprint) (fun r db' => db' = db ∧ r.1 ≠ .manual ∧
      (r.1 = .first50 → row.confirmedMandatoryAuditCount+row.pendingMandatoryAuditCount < 50))
      (fun _ _ => True) db := by
  unfold selectAudit
  dsimp only
  refine (wp_ite _ _ _ _ _ _).mpr ⟨fun hfew => ?_,fun hfull => ?_⟩
  · refine wp_seq_require trivial fun hslots => ?_
    refine ⟨rfl,Cohort.noConfusion,fun _ => ?_⟩
    simpa using hslots
  · refine (wp_ite _ _ _ _ _ _).mpr ⟨fun hselected => ⟨rfl,?_,?_⟩,fun hother => ⟨rfl,?_,?_⟩⟩
    · dsimp only
      split <;> simp
    · dsimp only
      split <;> simp
    · exact Cohort.noConfusion
    · exact fun h => Cohort.noConfusion h

theorem reserveAutoPromotion_effect (settings : Settings) (request : PromotionReservationInput)
    (item : Option ReviewItem) :
    wp (reserveAutoPromotion settings request item) (fun _ => Chain c db) (fun _ _ => True) db := by
  unfold reserveAutoPromotion
  refine wp_seq_get ?_
  split
  · refine wp_seq_require trivial fun hreplay => ?_
    exact .refl
  · next hnone =>
    refine wp_seq_require trivial fun hid => ?_
    refine wp_seq_present trivial fun row hrow => ?_
    refine wp_seq_present trivial fun item hitem => ?_
    refine wp_seq_require trivial fun hstatus => ?_
    refine wp_seq_require trivial fun hcontrol => ?_
    refine wp_seq_require trivial fun henforce => ?_
    refine wp_seq (wp_mono selectAudit_spec ?_ fun _ _ _ => trivial)
    rintro ⟨cohort,fingerprint⟩ db1 ⟨rfl,hmanual,hslots⟩
    refine wp_seq_set (wp_seq_get ?_)
    exact .single (.write ⟨hrow,rfl,.kept rfl rfl rfl,
      .promoted _ rfl rfl hnone rfl hmanual hslots rfl rfl rfl,rfl,.inr (Nat.lt_succ_self _)⟩)

theorem ensureManualAudit_effect (itemId : Nat) (actor : ReviewResolutionActor) (item : Option ReviewItem) :
    wp (ensureManualAudit itemId actor item) (fun _ => Chain c db) (fun _ _ => True) db := by
  unfold ensureManualAudit
  refine wp_seq_require trivial fun hactor => ?_
  refine wp_seq_present trivial fun item hitem => ?_
  refine wp_seq_require trivial fun havailable => ?_
  refine wp_seq_get ?_
  refine wp_seq_present trivial fun d hd => ?_
  split
  · exact .refl
  · next hnone =>
    refine wp_seq_require trivial fun hresult => ?_
    refine wp_seq_set ?_
    obtain rfl := (decisionOfItem_spec hd).2
    exact .single (.manual d hd hnone)

theorem complete_effect (settings : Settings) (now : Timestamp) (auditId : Nat) (actor : ReviewResolutionActor)
    (outcome : AuditOutcome) (reason : Text) :
    wp (complete settings now auditId actor outcome reason)
      (fun _ db' => Chain c db db' ∧ ∃ a ∈ db'.audits, a.id = auditId ∧ a.outcome = some outcome)
      (fun _ _ => True) db := by
  unfold complete
  refine wp_seq_require trivial fun hactor => ?_
  refine wp_seq_require trivial fun hreason => ?_
  refine wp_seq_get ?_
  refine wp_seq_present trivial fun a ha => ?_
  refine wp_seq_present trivial fun d hd => ?_
  refine wp_seq_present trivial fun row hrow => ?_
  obtain ⟨hmem,rfl⟩ := audit_spec ha
  split
  · refine wp_seq_require trivial fun hsame => ?_
    simp only [Bool.and_eq_true,decide_eq_true_eq] at hsame
    exact ⟨.refl,a,hmem,rfl,hsame.1.1⟩
  · next hpending =>
    rw [not_not] at hpending
    refine wp_seq_require trivial fun hslot => ?_
    refine wp_seq_set ?_
    set f := writeOutcome settings now outcome (actorHmac settings actor) (joinWords reason) with hf
    have hslot' : d.selectionResult = .first50 → 0 < row.counters.pending := by
      intro h
      simpa [h,RolloutState.counters] using hslot
    have hshape : WritesOutcome outcome f := by
      refine ⟨⟨fun _ => rfl,fun _ => rfl,fun _ => rfl,fun _ => rfl⟩,fun _ => rfl,fun _ => rfl,fun b => ?_⟩
      dsimp only [f,writeOutcome]
      split <;> simp
    have hwritten : ∃ b ∈ (db.updateAudit a.id f).audits, b.id = a.id ∧ b.outcome = some outcome :=
      ⟨f a,List.mem_map.mpr ⟨a,hmem,if_pos rfl⟩,rfl,rfl⟩
    split
    · next hconfirmed =>
      refine wp_seq_modify ⟨.single (.write ⟨hrow,rfl,.kept rfl rfl rfl,?_,rfl,.inr (Nat.lt_succ_self _)⟩),hwritten⟩
      exact .completed a d outcome f ha hpending hd rfl hslot' hshape rfl (fun h => absurd hconfirmed h) rfl rfl
    · next hcritical =>
      have hcounted : (countOutcome row d.selectionResult outcome).control = row.control := rfl
      obtain ⟨row',hafter,hcontrol,hcounters,hopen,hversion⟩ := openBreaker_spec (c := c) (db.updateAudit a.id f)
        settings now d.key (actorHmac settings actor) outcome.code hcounted rfl
      refine wp_seq_modify ⟨.single (.write ⟨hrow,hafter,hcontrol,?_,?_,.inr hversion⟩),?_⟩
      · exact .completed a d outcome f ha hpending hd rfl hslot' hshape hcounters (fun _ => hopen)
          (openBreaker_decisions ..) (openBreaker_audits ..)
      · exact openBreaker_contexts ..
      · rw [openBreaker_audits]
        exact hwritten

theorem completeSourceInvalidated_effect (itemId : Nat) (now : Timestamp) :
    wp (completeSourceInvalidated itemId now) (fun _ => Chain (.completeSourceInvalidated itemId now) db)
      (fun _ _ => True) db := by
  unfold completeSourceInvalidated
  refine wp_seq_get ?_
  split
  · exact .refl
  · next a ha =>
    obtain ⟨hmem,rfl⟩ := auditOfItem_spec ha
    split
    · exact .refl
    · next hpending =>
      rw [not_not] at hpending
      refine wp_seq_present trivial fun d hd => ?_
      refine wp_seq_require trivial fun hitem => ?_
      refine wp_seq_present trivial fun row hrow => ?_
      refine wp_seq_require trivial fun hslot => ?_
      refine wp_seq_set ?_
      have hslot' : d.selectionResult = .first50 → 0 < row.counters.pending := by
        intro h
        simpa [h,RolloutState.counters] using hslot
      exact .single (.write ⟨hrow,rfl,.kept rfl rfl rfl,.invalidated a d now ha hpending hd rfl hslot' rfl rfl rfl,
        rfl,.inl ⟨_,_,rfl⟩⟩)

theorem recordAssessment_effect (settings : Settings) (itemId : Nat) (hmac : Digest) (reasonCode : QualityReason) :
    wp (recordAssessment settings itemId hmac reasonCode)
      (fun _ db' => Chain c db db' ∧ db'.decisions = db.decisions) (fun _ _ => True) db := by
  unfold recordAssessment
  refine wp_seq_get ?_
  split
  · refine wp_seq_require trivial fun hsame => ?_
    exact ⟨.refl,rfl⟩
  · exact ⟨.single (.elsewhere _ db.corrections db.validations db.contexts fun x hx => .inl hx),rfl⟩

theorem ensureQualityAudit_effect {itemId : Nat} {d : PromotionDecision} (hd : db.decisionOfItem itemId = some d) :
    wp (ensureQualityAudit itemId d) (fun a db' => Chain c db db' ∧ a ∈ db'.audits) (fun _ _ => True) db := by
  unfold ensureQualityAudit
  obtain rfl := (decisionOfItem_spec hd).2
  refine wp_seq_get ?_
  split
  · next a ha => exact ⟨.refl,(auditOfItem_spec ha).1⟩
  · next hnone => exact ⟨.single (.manual d hd hnone),List.mem_cons_self⟩

theorem correction_effect {settings : Settings} {now : Timestamp} {key : RolloutKey} {row : RolloutState}
    {hmac : Digest} {code : String} (hrow : db.rollouts key = some row) :
    Effect c db (openBreaker settings now key
      { row with correctedCriticalCount := row.correctedCriticalCount+1 } hmac code db) := by
  have hcorrected : { row with correctedCriticalCount := row.correctedCriticalCount+1 }.control = row.control := rfl
  obtain ⟨row',hafter,hcontrol,hcounters,-,hversion⟩ := openBreaker_spec (c := c) db settings now key hmac code
    hcorrected rfl
  exact .write ⟨hrow,hafter,hcontrol,.corrected hcounters (openBreaker_decisions ..) (openBreaker_audits ..),
    openBreaker_contexts ..,.inr hversion⟩

theorem ensureCorrection_effect (settings : Settings) (now : Timestamp) (key : RolloutKey) (a : PostAudit)
    (assessment : RevocationAssessment) (hmac : Digest) (reasonCode : QualityReason) :
    wp (ensureCorrection settings now key a assessment hmac reasonCode) (fun _ => Chain c db)
      (fun _ _ => True) db := by
  unfold ensureCorrection
  refine wp_seq_get ?_
  split
  · exact .refl
  · refine wp_seq_present trivial fun row hrow => ?_
    refine wp_seq_set (wp_seq_modify ?_)
    exact .tail (.single (.elsewhere db.assessments _ db.validations db.contexts fun x hx => .inl hx))
      (correction_effect hrow)

theorem QualityReason.outcome_critical (reasonCode : QualityReason) : reasonCode.outcome ≠ .confirmed := by
  cases reasonCode <;> decide

theorem dispatchQuality_effect (settings : Settings) (now : Timestamp) {a : PostAudit} (ha : a ∈ db.audits)
    (d : PromotionDecision) (assessment : RevocationAssessment) (actor : ReviewResolutionActor)
    (reasonCode : QualityReason) (reason : Text) :
    wp (dispatchQuality settings now a d assessment actor reasonCode reason)
      (fun r db' => Chain c db db' ∧ Remediable db' r.1) (fun _ _ => True) db := by
  unfold dispatchQuality
  split
  · refine wp_seq (wp_mono (complete_effect (c := c) settings now a.id actor _ _) ?_ fun _ _ _ => trivial)
    rintro _ db' ⟨hchain,b,hb,hid,houtcome⟩
    exact ⟨hchain,fun _ => ⟨b,hb,hid,.inr ⟨_,houtcome,reasonCode.outcome_critical⟩⟩⟩
  · split
    · refine wp_seq (wp_mono (ensureCorrection_effect (c := c) settings now d.key a assessment _ reasonCode) ?_
        fun _ _ _ => trivial)
      intro correction db' hchain
      exact ⟨hchain,fun h => RemediationKind.noConfusion h⟩
    · refine wp_seq_require trivial fun houtcome => ?_
      exact ⟨.refl,fun _ => ⟨a,ha,rfl,.inr ⟨_,of_decide_eq_true houtcome,reasonCode.outcome_critical⟩⟩⟩

theorem commitQualityAuthority_effect (settings : Settings) (now : Timestamp) (item : Option ReviewItem)
    (actor : ReviewResolutionActor) (reasonCode : QualityReason) (reason : Text) :
    wp (commitQualityAuthority settings now item actor reasonCode reason) (fun _ => Chain c db)
      (fun _ _ => True) db := by
  unfold commitQualityAuthority
  refine wp_seq_require trivial fun hactor => ?_
  refine wp_seq_require trivial fun hreason => ?_
  refine wp_seq_present trivial fun item hitem => ?_
  refine wp_seq_require trivial fun hlevel => ?_
  refine wp_seq_require trivial fun hstatus => ?_
  refine wp_seq_get ?_
  refine wp_seq_present trivial fun d hd => ?_
  refine wp_seq_present trivial fun row hrow => ?_
  refine wp_seq (wp_mono (recordAssessment_effect (c := c) settings item.id _ reasonCode) ?_ fun _ _ _ => trivial)
  rintro assessment db1 ⟨hchain1,hdecisions⟩
  have hd1 : db1.decisionOfItem item.id = some d := by rwa [RolloutDb.decisionOfItem,hdecisions]
  refine wp_seq (wp_mono (ensureQualityAudit_effect (c := c) hd1) ?_ fun _ _ _ => trivial)
  rintro a db2 ⟨hchain2,ha⟩
  refine wp_seq (wp_mono (dispatchQuality_effect (c := c) settings now ha d assessment actor reasonCode _) ?_
    fun _ _ _ => trivial)
  rintro committed db3 ⟨hchain3,hremediable⟩
  refine wp_seq_modify (.tail ((hchain1.trans hchain2).trans hchain3)
    (.elsewhere db3.assessments db3.corrections db3.validations _ ?_))
  intro x hx
  rcases List.mem_cons.mp hx with rfl | hx
  · exact .inr hremediable
  · exact .inl hx

theorem recoverPendingRemediation_effect (limit : Nat) :
    wp (recoverPendingRemediation limit) (fun _ => Chain c db) (fun _ _ => True) db := by
  unfold recoverPendingRemediation
  refine wp_seq_require trivial fun hlimit => ?_
  refine wp_seq_get (wp_seq_set ?_)
  refine .single (.elsewhere db.assessments db.corrections db.validations _ ?_)
  intro x hx
  rcases List.mem_append.mp hx with hx | hx
  · refine .inr ?_
    rcases List.mem_append.mp hx with hx | hx
    · obtain ⟨a,ha,hx⟩ := List.mem_filterMap.mp hx
      obtain ⟨assessment,-,rfl⟩ := Option.map_eq_some_iff.mp hx
      have hfilter := List.mem_filter.mp (List.mem_of_mem_take ha)
      simp only [Bool.and_eq_true,decide_eq_true_eq] at hfilter
      exact fun _ => ⟨a,List.mem_reverse.mp hfilter.1,rfl,.inl hfilter.2.1⟩
    · obtain ⟨correction,-,hx⟩ := List.mem_filterMap.mp hx
      obtain ⟨assessment,-,rfl⟩ := Option.map_eq_some_iff.mp hx
      exact fun h => RemediationKind.noConfusion h
  · exact .inl hx

theorem finalizeRemediation_effect (now : Timestamp) (x : QualityRevokeContext) (succeeded : Bool) :
    wp (finalizeRemediation now x succeeded) (fun _ => Chain c db) (fun _ _ => True) db := by
  unfold finalizeRemediation
  refine wp_seq_get ?_
  refine wp_seq_require trivial fun hx => ?_
  split
  · next hkind =>
    refine wp_seq_present trivial fun a ha => ?_
    exact .single (.finalized x succeeded (of_decide_eq_true hx) hkind)
  · refine wp_seq_present trivial fun correction hcorrection => ?_
    exact .single (.elsewhere db.assessments _ db.validations db.contexts fun x hx => .inl hx)

theorem wp_discard {α : Type} {m : RolloutM α} {P : RolloutDb → Prop} (h : wp m (fun _ => P) (fun _ _ => True) db) :
    wp (do let _ ← m) (fun _ => P) (fun _ _ => True) db :=
  wp_seq h

/-- Every command is a chain of its effects. -/
theorem step_chain (db : RolloutDb) (c : Command) : Chain c db (step db c) := by
  have h : wp c.run (fun _ => Chain c db) (fun _ _ => True) db := by
    cases c with
    | ensureRow key => exact wp_discard (wp_mono (ensureRow_effect key) (fun _ _ h => h.1) fun _ _ _ => trivial)
    | recordShadowPrediction launch item thread hash now => exact recordShadowPrediction_effect launch item thread hash now
    | recordShadowComparison item key thread now => exact wp_discard (recordShadowComparison_effect item key thread now)
    | authorizePercentage settings input percentage =>
      exact wp_discard (authorizePercentage_effect settings input percentage)
    | closeRolloutBreaker settings input => exact wp_discard (closeRolloutBreaker_effect settings input)
    | reserveAutoPromotion settings request item => exact wp_discard (reserveAutoPromotion_effect settings request item)
    | ensureManualAudit itemId actor item => exact wp_discard (ensureManualAudit_effect itemId actor item)
    | complete settings now auditId actor outcome reason =>
      exact wp_discard (wp_mono (complete_effect settings now auditId actor outcome reason) (fun _ _ h => h.1)
        fun _ _ _ => trivial)
    | completeSourceInvalidated itemId now => exact wp_discard (completeSourceInvalidated_effect itemId now)
    | commitQualityAuthority settings now item actor reasonCode reason =>
      exact wp_discard (commitQualityAuthority_effect settings now item actor reasonCode reason)
    | recoverPendingRemediation limit => exact wp_discard (recoverPendingRemediation_effect limit)
    | finalizeRemediation now context succeeded => exact finalizeRemediation_effect now context succeeded
  unfold step
  cases hrun : c.run db with
  | ok u db' =>
    have hchain := wp_ok h hrun
    exact hchain
  | error e db' => exact .refl

end specs

end ParaWorks.Rollout
