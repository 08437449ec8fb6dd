import ParaWorks.Ledger.ClosingRefusals

/-!
# Which refused operations leave a trace

`finalize_component` flushes the settled row before it asks for the projection owner. With the late
refusals of the closing operations that is all: every other error leaves the run and the session as
they were.
-/

namespace ParaWorks.Ledger

open Lib

variable {authority : LedgerAuthority} {w₀ w w' : World} {i : Nat} {env : Environment} {run : Run}
  {p : AgentRun} {q a r : AgentRunCostComponent} {g : CommittedRagDispatchGrant}
  {o : ClassifiedProviderObservation}

/-! ## Finalizing a component -/

/-- A run with a call under way is running. -/
theorem RunFacts.running_of_dispatching (h : RunFacts authority w run) (hr : r ∈ run.rows)
    (hd : r.dispatchState = .dispatching) : run.parent.runRecordPhase = .admission ∧ run.parent.status = .running := by
  have hopen := isClosed_dispatching hd
  have hphase := h.phase
  unfold PhaseOk at hphase
  cases hp : run.parent.runRecordPhase with
  | admission =>
    rw [hp] at hphase
    exact ⟨rfl,hphase.1⟩
  | costFinalizedPendingProjection =>
    rw [hp] at hphase
    cases (isClosed_terminal (hphase.2.2.2.2.1 r hr)).symm.trans hopen
  | final =>
    rw [hp] at hphase
    cases (hphase.2.2 r hr).symm.trans hopen
  | admissionOnly =>
    rw [hp] at hphase
    cases (hphase.2.2 r hr).symm.trans hopen

/-- The rows after one component is settled. -/
def settledRows (g : CommittedRagDispatchGrant) (o : ClassifiedProviderObservation) (overrun : Bool) (p : AgentRun)
    (rows : List AgentRunCostComponent) : List AgentRunCostComponent :=
  (onComponent g.component (settleRow o overrun) rows).map (zeroSibling p (o.classification = .validatedSuccess))

/-- The settled row still names the process that made the call. -/
theorem settledRows_process {overrun : Bool} {rows : List AgentRunCostComponent} (hr : r ∈ rows)
    (hc : r.component = g.component) (ht : o.terminalOutcome ≠ .abandonedUnknown) (hp : r.processInstanceHmac.isSome) :
    ∃ owner, (settledRows g o overrun p rows).findSome? (·.processInstanceHmac) = some owner := by
  refine Option.isSome_iff_exists.mp (List.findSome?_isSome_iff.mpr ⟨settleRow o overrun r,?_,hp⟩)
  refine List.mem_map.mpr ⟨settleRow o overrun r,List.mem_map.mpr ⟨r,hr,if_pos hc⟩,?_⟩
  exact zeroSibling_terminal (if_neg ht) p _

theorem settleComponent_refusal {late : Prop} {v : World} {fl : Option Run} {binding : RagProviderSafetyBinding}
    {overrun : Bool} (h : Clean w) (hdb : w.db = some ⟨p,[q,a]⟩) (hv : v.db = w.db)
    (hrun : RunFacts authority v ⟨p,[q,a]⟩) (hrows : RowsFacts v q a) (hr : r ∈ [q,a])
    (hc : r.component = g.component) (hd : r.dispatchState = .dispatching)
    (ht : o.terminalOutcome ≠ .abandonedUnknown)
    (hlate : late ↔ o.classification = .validatedSuccess ∧
      (settledRows g o overrun p [q,a]).all isClosed = true ∧ env.ownerCapability = none) :
    wp (settleComponent authority i env g o binding overrun p [q,a] r) (fun _ w' => ¬late ∧ Clean w')
      (Refused late w) (v.lock i fl ⟨p,[q,a]⟩) := by
  have hdbv : v.db = some ⟨p,[q,a]⟩ := hv.trans hdb
  obtain ⟨hphase,hs⟩ := hrun.running_of_dispatching hr hd
  have hshape := (hrows.mem hr).shape
  obtain ⟨owner,howner⟩ : ∃ owner, (settledRows g o overrun p [q,a]).findSome? (·.processInstanceHmac) = some owner :=
    settledRows_process hr hc ht (hshape.process_isSome (hshape.attempted_of_dispatching hd))
  unfold settleComponent
  refine wp_seq_modify (wp_seq_modify (wp_seq_modify (wp_seq_modify ?_)))
  refine (wp_ite _ _ _ _ _ _).mpr ⟨fun hclosed => ?_,fun hopen => ?_⟩
  · refine (wp_ite _ _ _ _ _ _).mpr ⟨fun hsuccess => ?_,fun hfailure => ?_⟩
    · have hl : late ↔ env.ownerCapability = none :=
        hlate.trans ⟨fun hl => hl.2.2,fun hn => ⟨of_decide_eq_true hsuccess,hclosed,hn⟩⟩
      refine wp_seq_lookup (fun hn => ?_) fun process _ => wp_seq_modify ?_
      · cases howner.symm.trans hn
      unfold projectionOwnerFence
      refine wp_seq (wp_seq_lookup (fun hn => ?_) fun digest hdigest => ?_)
      · -- The phase is assigned over flushed rows, and there is no owner for it.
        refine .inr ⟨hl.mpr hn,nofun,?_⟩
        refine h.trace_of_pending hdb hdbv rfl fun he => ?_
        have hpending := congrArg (fun run : Run => run.parent.runRecordPhase) he
        cases hpending.trans hphase
      have hnot : ¬late := fun hn => nomatch hdigest.symm.trans (hl.mp hn)
      refine wp_seq_modify ?_
      refine wp_seq (commit_releases hdbv rfl (fun _ w' hu _ => ?_) fun _ w' hu => ?_)
      · exact ⟨hnot,(Clean.of_no_unit hu).congr rfl rfl⟩
      · exact Refused.unacknowledged hnot (Clean.of_no_unit hu)
    · have hnot : ¬late := fun hl => hfailure (decide_eq_true (hlate.mp hl).1)
      refine wp_seq_modify ?_
      refine finalizeFailedRun_ends_in hdbv rfl (.inr (hrun.window hs)) (fun hn => absurd hn (not_naive env))
        (fun _ hf => nomatch hf) (fun _ _ _ w' _ hu _ _ => ?_) fun _ _ _ w' hu => ?_
      · exact ⟨hnot,Clean.of_no_unit hu⟩
      · exact Refused.unacknowledged hnot (Clean.of_no_unit hu)
  · have hnot : ¬late := fun hl => hopen (hlate.mp hl).2.1
    refine wp_seq (commit_releases hdbv rfl (fun _ w' hu _ => ?_) fun _ w' hu => ?_)
    · exact ⟨hnot,(Clean.of_no_unit hu).congr rfl rfl⟩
    · exact Refused.unacknowledged hnot (Clean.of_no_unit hu)

/-- The first success of all components, in a process that cannot own the projection. -/
structure LateFinalization (w : World) (i : Nat) (env : Environment) (g : CommittedRagDispatchGrant)
    (o : ClassifiedProviderObservation) : Prop where
  healthy : env.runtimeHealthy = true
  component : o.component = g.component
  fresh : o.serial ∉ w.consumedObservations
  active : (w.memory i).activeGrants g.component = some g
  consumed : g ∈ w.consumed
  success : o.classification = .validatedSuccess
  follows : o.follows ⟨.componentSucceeded,true,true,.actual,.unchanged⟩ = true
  charge : ∃ usage cost budget, o.strictUsage = some usage ∧ o.actualCostUsd = some cost ∧
    RagCostPolicy.chargeActual o.component usage = .ok cost ∧
    (w.memory i).admissionBudgets g.component = some budget ∧ usageOverran o budget (some cost) = false
  binding : ((w.memory i).grantBindings g.component).isSome = true
  snapshot : ((w.memory i).admissionSnapshots g.component).isSome = true
  safety : env.safetyCompletes = true
  free : w.free i = true
  closes : ∃ p q a r, w.db = some ⟨p,[q,a]⟩ ∧ [q,a].find? (isComponent g.component) = some r ∧
    carriesClaim r g = true ∧ (settledRows g o false p [q,a]).all isClosed = true
  capability : env.ownerCapability = none

/-- A success reports its usage. -/
theorem follows_reported (h : o.follows ⟨.componentSucceeded,true,true,.actual,.unchanged⟩ = true) :
    ∃ usage, o.strictUsage = some usage := by
  simp [ClassifiedProviderObservation.follows] at h
  exact Option.isSome_iff_exists.mp h.1.2.1

theorem finalizeComponent_refusal (g : CommittedRagDispatchGrant) (o : ClassifiedProviderObservation) (h : Clean w)
    (hk : Kept authority w₀ w) : RefusedLateIff (LateFinalization w i env g o) (finalizeComponent authority i env g o) w := by
  unfold RefusedLateIff finalizeComponent runtimeHealthEffect
  refine wp_seq_check (fun hc => .early (not_late_of (·.healthy) hc) h rfl) fun hhealthy => ?_
  refine wp_seq_check (fun hc => .early (fun hl => of_decide_eq_false hc hl.component) h rfl) fun hcomponent => ?_
  refine wp_seq_get ?_
  refine wp_seq_check (fun hc => .early (fun hl => of_decide_eq_false hc hl.fresh) h rfl) fun hfresh => ?_
  refine wp_seq_set (wp_seq_getMemory ?_)
  simp only [decide_eq_true_eq] at hcomponent hfresh
  have h₁ : Clean { w with consumedObservations := o.serial :: w.consumedObservations } := h.congr rfl rfl
  have hk₁ := hk.carries (Carries.observe w o.serial) rfl
  refine wp_seq_check (fun hc => .early (fun hl => of_decide_eq_false hc hl.active) h₁ rfl) fun hactive => ?_
  refine wp_seq_check (fun hc => .early (fun hl => of_decide_eq_false hc hl.consumed) h₁ rfl) fun hconsumed => ?_
  simp only [decide_eq_true_eq] at hactive hconsumed
  obtain ⟨run,hdb⟩ := hk.core.db_of_active hactive
  obtain ⟨q,a,hpair,_⟩ := (hk.core.run run hdb).rows
  obtain ⟨p,rows⟩ := run
  dsimp only at hpair
  subst hpair
  have hcloses : LateFinalization w i env g o → ∃ r, [q,a].find? (isComponent g.component) = some r ∧
      carriesClaim r g = true ∧ (settledRows g o false p [q,a]).all isClosed = true := by
    intro hl
    obtain ⟨p',q',a',r,hdb',hr⟩ := hl.closes
    cases hdb.symm.trans hdb'
    exact ⟨r,hr⟩
  refine wp_seq (validateOutcome_wp (fun hn _ => .early (fun hl => ?_) h₁ rfl) fun rule hrule hfollows => ?_)
  · have hf := hl.follows.symm.trans (hn _ (by rw [hl.success]; rfl))
    cases hf
  refine h₁.wp_seq_peekRun (wp_seq_lookup (fun hn => .early (fun hl => ?_) h₁ rfl) fun preview hpreview => ?_)
  · obtain ⟨r,hr,_⟩ := hcloses hl
    rw [hdb] at hn
    cases hn.symm.trans hr
  rw [hdb] at hpreview
  change [q,a].find? (isComponent g.component) = some preview at hpreview
  refine wp_seq_check (fun hc => .early (fun hl => ?_) h₁ rfl) fun hclaim => ?_
  · obtain ⟨r,hr,hclaim,_⟩ := hcloses hl
    cases hpreview.symm.trans hr
    cases hc.symm.trans hclaim
  refine wp_seq_check (fun hc => .early (fun hl => ?_) h₁ rfl) fun hstarted => ?_
  · have hf := hl.follows
    simp [ClassifiedProviderObservation.follows,hc] at hf
  refine wp_seq_check (fun hc => .early (fun hl => ?_) h₁ rfl) fun _ => ?_
  · obtain ⟨usage,cost,budget,hu,hcost,_⟩ := hl.charge
    simp [hu,hcost] at hc
  refine wp_seq (expectedActual_wp (fun hn _ => .early (fun hl => ?_) h₁ rfl) fun expected hexpected => ?_)
  · obtain ⟨usage,cost,budget,hu,hcost,hcharge,_⟩ := hl.charge
    exact hn usage cost hu hcharge hcost
  refine wp_seq_lookup (fun hn => .early (fun hl => ?_) h₁ rfl) fun budget hbudget => ?_
  · obtain ⟨usage,cost,budget,_,_,_,hbudget,_⟩ := hl.charge
    cases hn.symm.trans hbudget
  have hoverran : LateFinalization w i env g o → usageOverran o budget expected = false := by
    intro hl
    obtain ⟨usage,cost,budget',hu,hcost,_,hbudget',hover⟩ := hl.charge
    obtain ⟨cost',he,_,hcost'⟩ := hexpected usage hu
    cases hbudget.symm.trans hbudget'
    cases hcost.symm.trans hcost'
    rwa [he]
  refine wp_seq_check (fun hc => .early (fun hl => ?_) h₁ rfl) fun hclass => ?_
  · rw [hoverran hl,hl.success] at hc
    cases hc
  refine wp_seq_lookup (fun hn => .early (fun hl => ?_) h₁ rfl) fun binding hbinding => ?_
  · cases hl.binding.symm.trans (congrArg Option.isSome hn)
  refine wp_seq_check (fun hc => .early (not_late_of (·.snapshot) hc) h₁ rfl) fun hsnapshot => ?_
  refine wp_seq (safetyEffect_wp hdb (fun hc _ => .early (not_late_of (·.safety) hc) h₁ rfl)
    fun hsafety w₂ hcarries hunit _ _ => wp_seq_modify (wp_seq_modify ?_))
  have hdb₂ : w₂.db = some ⟨p,[q,a]⟩ := hcarries.db.trans hdb
  have h₂ : Clean (w₂.record (.observed g o.strictUsage)) := h₁.congr hunit hcarries.db
  have hk₂ := (hk₁.carries hcarries hunit).carries
    (Carries.record (.observed g o.strictUsage) hdb₂ id (fun _ h => by cases h) fun _ _ _ _ h => by cases h) rfl
  have hsession : ((w₂.record (.observed g o.strictUsage)).expireAll i).free i = w.free i :=
    (free_expireAll _ i).trans (free_congr hunit i)
  refine wp_seq ((h₂.expireAll i).selectForUpdate (hk₂.expireAll i) (fun hn => by cases hdb₂.symm.trans hn)
    (fun hc => .early (not_late_of (·.free) (hsession.symm.trans hc)) (h₂.expireAll i) hcarries.db) ?_)
  intro p' q' a' fl hdb' hrun hrows hfree hfl
  cases hdb₂.symm.trans hdb'
  refine wp_seq_lookup (fun hn => by cases hn) fun _ he => ?_
  cases he
  refine wp_seq_lookup (fun hn => by cases hpreview.symm.trans hn) fun row hrow => ?_
  cases hpreview.symm.trans hrow
  refine wp_seq_check (fun hc => by simp [hclaim] at hc) fun _ => ?_
  have hrc : preview.component = g.component := by simpa [isComponent] using List.find?_some hrow
  have hd := hclaim
  simp only [carriesClaim,Bool.and_eq_true,decide_eq_true_eq] at hd
  refine settleComponent_refusal h hdb hcarries.db hrun hrows (List.mem_of_find?_eq_some hrow) hrc hd.1
    (follows_terminal hrule hfollows) ⟨fun hl => ?_,fun hl => ?_⟩
  · obtain ⟨r,_,_,hclosed⟩ := hcloses hl
    rw [hoverran hl]
    exact ⟨hl.success,hclosed,hl.capability⟩
  · obtain ⟨hsuccess,hclosed,hcapability⟩ := hl
    rw [hsuccess] at hrule hclass
    cases hrule
    have hover : usageOverran o budget expected = false := of_decide_eq_true hclass
    obtain ⟨usage,husage⟩ := follows_reported hfollows
    obtain ⟨cost,rfl,hcharge,hcost⟩ := hexpected usage husage
    refine ⟨hhealthy,hcomponent,hfresh,hactive,hconsumed,hsuccess,hfollows,
      ⟨usage,cost,budget,husage,hcost,hcharge,hbudget,hover⟩,by rw [hbinding]; rfl,hsnapshot,hsafety,
      hsession.symm.trans hfree,⟨p,q,a,preview,hdb,hpreview,hclaim,?_⟩,hcapability⟩
    rwa [hover] at hclosed

/-! ## All operations -/

/-- The operations that change a run that exists, the callers of `_commit_safe_pending` among them. -/
def Operation.mutates : Operation → Bool
  | bindAnswerBudget _ _ | claimComponent _ _ | finalizeComponent _ _ | commitProviderFreePending _
  | commitEmbeddingOnlyPending _ | commitAnswerCachePending _ _ _ _ | commitAnswerEvidenceChangedPending _ _
  | finalizeInterComponentFailure _ _ | finalizeProjectionlessFailure _ _ | finalizePreSendRefusal _ _
  | cancelClaimBeforeDispatch _ _ | recoverIncompleteRun _ => true
  | _ => false

/-- The call is refused after it has assigned to the run. -/
def LateRefusal (authority : LedgerAuthority) (w : World) (i : Nat) (env : Environment) : Operation → Prop
  | .finalizeComponent g o => LateFinalization w i env g o
  | .commitProviderFreePending generations =>
    env.runtimeHealthy = true ∧ LatePending w i env generations false none none
  | .commitEmbeddingOnlyPending generations =>
    env.runtimeHealthy = true ∧ LatePending w i env generations true none none
  | .commitAnswerCachePending generations valid hit embeddingOnly =>
    env.runtimeHealthy = true ∧ valid = true ∧ LatePending w i env generations embeddingOnly none (some hit)
  | .commitAnswerEvidenceChangedPending g generations =>
    env.runtimeHealthy = true ∧ decide ((w.memory i).evidenceRefusedGrant = some g) = true ∧
      LatePending w i env generations ((w.memory i).terminalBindings .queryEmbedding).isSome (some g) none
  | .finalizeInterComponentFailure outcome finalizer => LateInterComponent authority w i env outcome finalizer
  | .finalizePreSendRefusal outcome completedAt => LatePreSend w i env outcome completedAt
  | .recoverIncompleteRun request => LateRecovery authority w i env request
  | _ => False

/-- An error other than a failed commit acknowledgement leaves no trace of the call. -/
def LeavesNoTrace (authority : LedgerAuthority) (w : World) (i : Nat) (env : Environment) (operation : Operation) :
    Prop :=
  ∀ e w', operation.run authority i env w = .error e w' → e ≠ commitUnacknowledged → NoTrace w w'

theorem Operation.refusedLateIff {operation : Operation} (hm : operation.mutates = true) (h : Clean w)
    (hk : Kept authority w₀ w) :
    RefusedLateIff (LateRefusal authority w i env operation) (operation.run authority i env) w := by
  cases operation with
  | bindAnswerBudget prepared projection => exact bindAnswerBudget_never_late prepared projection h hk
  | claimComponent component prepared => exact wp_seq (claimComponent_never_late component prepared h hk)
  | finalizeComponent g o => exact finalizeComponent_refusal g o h hk
  | commitProviderFreePending generations => exact commitProviderFreePending_refusal generations h hk
  | commitEmbeddingOnlyPending generations => exact commitEmbeddingOnlyPending_refusal generations h hk
  | commitAnswerCachePending generations valid hit embeddingOnly =>
    exact commitAnswerCachePending_refusal generations valid hit embeddingOnly h hk
  | commitAnswerEvidenceChangedPending g generations =>
    exact commitAnswerEvidenceChangedPending_refusal g generations h hk
  | finalizeInterComponentFailure outcome finalizer => exact finalizeInterComponentFailure_refusal outcome finalizer h hk
  | finalizeProjectionlessFailure outcome completedAt =>
    exact finalizeProjectionlessFailure_never_late outcome completedAt h hk
  | finalizePreSendRefusal outcome completedAt => exact finalizePreSendRefusal_refusal outcome completedAt h hk
  | cancelClaimBeforeDispatch g outcome => exact cancelClaimBeforeDispatch_never_late g outcome h hk
  | recoverIncompleteRun request => exact recoverIncompleteRun_refusal request h hk
  | _ => nomatch hm

theorem Operation.run_clean {operation : Operation} (hm : operation.mutates = false) (h : Clean w)
    (hk : Kept authority w₀ w) : wp (operation.run authority i env) (fun _ => Clean) (fun _ => Clean) w := by
  cases operation with
  | createAdmission request => exact createAdmission_clean request h
  | consumeCommittedGrant g => exact consumeCommittedGrant_clean g h
  | consumeTransportGrant g => exact consumeTransportGrant_clean g h hk
  | loadPendingProjection => exact wp_seq (loadPendingProjection_clean h hk)
  | deferAnswerEvidenceRefusal g => exact deferAnswerEvidenceRefusal_clean g h
  | finalizeShadowRun request => exact finalizeShadowRun_clean request h hk
  | recoverIncompleteShadowRuns => exact recoverIncompleteShadowRuns_clean h hk
  | _ => nomatch hm

/-! ## Runs without a late refusal -/

def NotLate (authority : LedgerAuthority) (w : World) : Command → Prop
  | .call i env operation => ¬LateRefusal authority w i env operation
  | _ => True

def Traceless (authority : LedgerAuthority) (w : World) : Command → Prop
  | .call i env operation => operation.mutates = true → LeavesNoTrace authority w i env operation
  | _ => True

theorem Clean.step {c : Command} (h : Clean w) (hk : Kept authority w₀ w) (hc : NotLate authority w c) :
    Clean (step authority w c) := by
  cases c with
  | call i env operation =>
    cases hm : operation.mutates with
    | true => exact (operation.refusedLateIff hm h hk).clean hc
    | false => exact wp_finalState (operation.run_clean hm h hk)
  | restart i processHmac => exact (h.rollback i).congr rfl rfl
  | rollback i => exact h.rollback i

theorem Clean.leavesNoTrace_iff {operation : Operation} (h : Clean w) (hk : Kept authority w₀ w)
    (hm : operation.mutates = true) :
    LeavesNoTrace authority w i env operation ↔ ¬LateRefusal authority w i env operation :=
  (operation.refusedLateIff hm h hk).noTrace_iff h

/-- As long as no call is refused late, refusals leave no trace; and the first that does leaves one. -/
theorem refusals_leave_no_trace (authority : LedgerAuthority) (processHmac : Nat → Hmac) (commands : List Command)
    (h : RunMeets (step authority) (NotLate authority) (World.initial processHmac) commands) :
    RunMeets (step authority) (Traceless authority) (World.initial processHmac) commands ∧
    ∀ i env operation, operation.mutates = true →
      (LeavesNoTrace authority (Lib.run (step authority) (World.initial processHmac) commands) i env operation ↔
        ¬LateRefusal authority (Lib.run (step authority) (World.initial processHmac) commands) i env operation) := by
  let P : World → Prop := fun w => Clean w ∧ Kept authority (World.initial processHmac) w
  have hreach : Reachable authority (World.initial processHmac) := ⟨processHmac,[],rfl⟩
  have hinitial : P (World.initial processHmac) := ⟨Clean.of_no_unit rfl,hreach.kept⟩
  have hstep : ∀ w c, NotLate authority w c → P w → P (step authority w c) :=
    fun w c hc hp => ⟨hp.1.step hp.2 hc,hp.2.step c⟩
  refine ⟨h.of_invariant (P := P) (fun w c hc hp => ⟨?_,hstep w c hc hp⟩) hinitial,?_⟩
  · cases c with
    | call i env operation => exact fun hm => (hp.1.leavesNoTrace_iff hp.2 hm).mpr hc
    | restart => trivial
    | rollback => trivial
  · obtain ⟨hclean,hkept⟩ := Lib.run_invariant_of hstep h hinitial
    exact fun i env operation hm => hclean.leavesNoTrace_iff hkept hm

theorem refusals_leave_no_trace_claimed :
    RunMeets (step sampleAuthority) (Traceless sampleAuthority) sampleInitial (sampleAdmission::sampleClaim) ∧
    ∀ i env operation, operation.mutates = true →
      (LeavesNoTrace sampleAuthority sampleClaimed i env operation ↔
        ¬LateRefusal sampleAuthority sampleClaimed i env operation) :=
  refusals_leave_no_trace sampleAuthority (fun _ => sampleDigest) (sampleAdmission::sampleClaim) ⟨id,id,id,trivial⟩

/-! ## A refused cache hit -/

def sampleProjection : AnswerProjection where
  authentic := true
  budget := sampleBudget
  retrievalQueryHmac := sampleDigest
  renderedInputHmac := sampleDigest
  modelConfigSnapshotHmac := sampleDigest
  aggregateObservationHmac := sampleDigest
  graphScopes := []

def sampleProjected : List Command :=
  [sampleAdmission,.call 0 sampleEnvironment (.bindAnswerBudget sampleBudget (some sampleProjection)),
    .call 0 sampleEnvironment (.claimComponent .answerGeneration sampleBudget)]

def sampleHit : CacheHit where
  identity := ⟨sampleDigest,sampleDigest,0⟩
  renderedInputHmac := sampleDigest
  answerModelConfigSnapshotHmac := sampleDigest
  preparedModelInfluenceObservationHmac := sampleDigest
  securityScopeFingerprint := sampleDigest

/-- The answer is already under way, so the hit is refused, after its identity has been merged. -/
theorem refused_cache_hit_leaves_trace : ¬∀ (w : World) (i : Nat) (env : Environment) (operation : Operation),
    Reachable sampleAuthority w → operation.mutates = true → LeavesNoTrace sampleAuthority w i env operation := by
  intro h
  have ht := h (Lib.run (step sampleAuthority) sampleInitial sampleProjected) 0 sampleEnvironment
    (.commitAnswerCachePending ⟨1,none⟩ true sampleHit false) ⟨fun _ => sampleDigest,sampleProjected,rfl⟩ rfl _ _ rfl nofun
  have hpending := congrArg (Option.map fun run : Run => run.parent.metadata.answerFinalization.isSome) ht.pending
  cases hpending

end ParaWorks.Ledger
