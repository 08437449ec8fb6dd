import ParaWorks.Ledger.Cap

/-!
# No running run is stuck

After every process is gone, what is durable names the closing call that ends the run.
-/

namespace ParaWorks.Ledger

open Lib

variable {authority : LedgerAuthority} {w₀ w : World} {i : Nat} {env : Environment} {run : Run}
  {p : AgentRun} {rows : List AgentRunCostComponent}

/-- Every process is gone: no session, no memory, only new ledgers. -/
def World.lose (w : World) (processHmac : Nat → Hmac) : World :=
  { w with unit := none, memory := fun j => Memory.fresh (processHmac j) }

/-- The closing calls, with the identities that match the durable run. -/
inductive ClosingCall (authority : LedgerAuthority) (run : Run) : Operation → Prop where
  | projectionless (h : ∀ r ∈ run.rows, r.dispatchState = .notAttempted) :
    ClosingCall authority run (.finalizeProjectionlessFailure .abandonedUnknown none)
  | deadProcess (process : Hmac) (hsome : ∃ r ∈ run.rows, r.processInstanceHmac = some process)
      (hone : ∀ r ∈ run.rows, ∀ x, r.processInstanceHmac = some x → x = process) :
    ClosingCall authority run (.recoverIncompleteRun ⟨none,none,
      some (authority.sign.deadProcessAttestation process).text,none⟩)
  | projectionOwner (fence : Hmac) (h : run.parent.projectionOwnerFenceHmac = some fence) :
    ClosingCall authority run (.recoverIncompleteRun ⟨some fence.text,
      some run.parent.metadata.runtimeCostSnapshotHmac.text,none,none⟩)

/-- The run has ended: failed, at some time, with every row terminal or abandoned. -/
def Ended (w : World) : Prop :=
  ∃ run, w.db = some run ∧ run.parent.status = .failed ∧ run.parent.completedAt.isSome ∧
    ∀ r ∈ run.rows, r.dispatchState = .terminal ∨ r.dispatchState = .abandonedUnknown

theorem isClosed_iff {r : AgentRunCostComponent} :
    isClosed r = true ↔ r.dispatchState = .terminal ∨ r.dispatchState = .abandonedUnknown := by
  simp [isClosed]

/-! ## Calls on a lost world -/

theorem selectForUpdate_free {Q : Option (AgentRun × List AgentRunCostComponent) → World → Prop}
    {E : LedgerError → World → Prop} (hdb : w.db = some run) (hu : w.unit = none)
    (hq : Q (some (run.parent,run.rows)) { w with unit := some ⟨i,none,some run.parent,some run.rows⟩ }) :
    wp (selectForUpdate i) Q E w := by
  obtain ⟨db,unit,memory,consumed,observations,grants,history⟩ := w
  cases hdb
  cases hu
  unfold selectForUpdate
  refine wp_seq_get ?_
  refine wp_seq ((wp_require _ _ _ _ _).mpr ⟨fun _ => hq,fun hn => ?_⟩)
  exact absurd rfl (of_decide_eq_false hn)

theorem lockedRun_free {Q : AgentRun × List AgentRunCostComponent → World → Prop}
    {E : LedgerError → World → Prop} (hdb : w.db = some run) (hu : w.unit = none)
    (hc : run.rows.map AgentRunCostComponent.component = componentOrder)
    (hq : Q (run.parent,run.rows) { w with unit := some ⟨i,none,some run.parent,some run.rows⟩ }) :
    wp (lockedRun i) Q E w := by
  unfold lockedRun
  refine wp_seq (selectForUpdate_free hdb hu (wp_seq (wp_seq_pure ?_)))
  exact wp_seq ((wp_require _ _ _ _ _).mpr ⟨fun _ => hq,fun hn => absurd hc (of_decide_eq_false hn)⟩)

theorem commit_acknowledged {Q : Unit → World → Prop} {E : LedgerError → World → Prop} {u : UnitOfWork}
    (hcommit : env.commit = .acknowledged) (hdb : w.db = some run) (hu : w.unit = some u)
    (hq : Q () { w with db := some (u.pending run), unit := none, history := .committed (u.pending run)::w.history }) :
    wp (commit env) Q E w := by
  unfold commit
  rw [hcommit]
  change Q () w.durable
  simpa only [World.durable,hdb,hu] using hq

/-- A failure closure of a route that has a window ends the run. -/
theorem finalizeFailedRun_ends {outcome : Outcome} {admissionOnly : Bool} {u : UnitOfWork}
    (hcommit : env.commit = .acknowledged) (hdb : w.db = some run) (hu : w.unit = some u)
    (hrows : u.rows = some rows) (hclosed : ∀ r ∈ rows, isClosed r = true)
    (hwindow : admissionOnly = true ∨ IsAdmissionWindow p.sourceWindow) :
    wp (finalizeFailedRun authority env p rows outcome none admissionOnly none) (fun _ => Ended)
      (fun _ _ => False) w := by
  unfold finalizeFailedRun
  refine wp_seq ((wp_require _ _ _ _ _).mpr ⟨fun _ => ?_,fun hn => by cases hn⟩)
  refine wp_seq ((wp_present _ _ _ _ _).mpr ⟨fun window _ => ?_,fun hn => ?_⟩)
  · refine wp_seq_modify (wp_seq_pure ?_)
    refine commit_acknowledged hcommit hdb (by simp only [World.assignParent,hu,Option.map_some]; rfl) ?_
    refine ⟨_,rfl,rfl,rfl,?_⟩
    simp only [UnitOfWork.pending,hrows,Option.getD_some]
    exact fun r hr => isClosed_iff.mp (hclosed r hr)
  · rcases hwindow with rfl | ⟨m,s,b,he⟩
    · cases hn
    · rw [he] at hn
      cases admissionOnly <;> cases hn

/-! ## Which closing call is enabled -/

theorem attemptingProcess_some {r : AgentRunCostComponent} {x : Hmac} (h : attemptingProcess r = some x) :
    r.processInstanceHmac = some x := by
  unfold attemptingProcess at h
  split at h
  · exact h
  · cases h

/-- The attestation expected of a run is that of the one process its attempts name. -/
theorem expectedAttestation_eq {process : Hmac}
    (hone : ∀ r ∈ rows, ∀ x, r.processInstanceHmac = some x → x = process)
    (hsome : ∃ r ∈ rows, attemptingProcess r = some process) :
    expectedAttestation authority rows = some (authority.sign.deadProcessAttestation process) := by
  have hall : ∀ x ∈ rows.filterMap attemptingProcess, x = process := by
    intro x hx
    obtain ⟨r,hr,he⟩ := List.mem_filterMap.mp hx
    exact hone r hr x (attemptingProcess_some he)
  have hmem : process ∈ rows.filterMap attemptingProcess := by
    obtain ⟨r,hr,he⟩ := hsome
    exact List.mem_filterMap.mpr ⟨r,hr,he⟩
  unfold expectedAttestation
  cases hl : rows.filterMap attemptingProcess with
  | nil =>
    rw [hl] at hmem
    cases hmem
  | cons x others =>
    rw [hl] at hall
    have hx := hall x List.mem_cons_self
    subst hx
    have hothers : others.all (fun other => other = x) = true :=
      List.all_eq_true.mpr fun y hy => decide_eq_true (hall y (List.mem_cons_of_mem x hy))
    exact if_pos hothers

/-- An attempted row of an open admission names its process. -/
theorem RowFacts.attempting {r : AgentRunCostComponent} (h : RowFacts w r) (hin : InAdmission r)
    (hn : r.dispatchState ≠ .notAttempted) : ∃ x, attemptingProcess r = some x := by
  have hattempt : r.dispatchState = .dispatching ∨
      (r.dispatchState = .terminal ∧ r.attempted = true ∧ r.dispatchCount = 1) := by
    rcases hin with hna | hd | ⟨ht,ha⟩
    · exact absurd hna hn
    · exact .inl hd
    · right
      refine ⟨ht,ha,?_⟩
      have hs := h.shape.hasShape
      simp only [shapeOf,ht,ha,HasShape] at hs
      exact hs.2.2.1
  have hattempted : r.attempted = true := by
    rcases hattempt with hd | ⟨_,ha,_⟩
    · exact h.shape.attempted_of_dispatching hd
    · exact ha
  obtain ⟨x,hx⟩ := Option.isSome_iff_exists.mp (h.shape.process_isSome hattempted)
  exact ⟨x,(if_pos hattempt).trans hx⟩

theorem isIncomplete_of_open {q a : AgentRunCostComponent} (hin : ∀ r ∈ [q,a], InAdmission r)
    {r r' : AgentRunCostComponent} (hr : r ∈ [q,a]) (hopen : isClosed r = false) (hr' : r' ∈ [q,a])
    (hn : r'.dispatchState ≠ .notAttempted) : isIncomplete [q,a] = true := by
  unfold isIncomplete
  rw [Bool.or_eq_true,Bool.and_eq_true]
  simp only [List.any_eq_true,decide_eq_true_eq,Bool.and_eq_true]
  rcases hin r' hr' with hna | hd | ⟨ht,ha⟩
  · exact absurd hna hn
  · exact .inl ⟨r',hr',hd⟩
  · rcases hin r hr with hna | hd | ⟨ht',_⟩
    · exact .inr ⟨⟨r',hr',ht,ha⟩,r,hr,hna⟩
    · exact .inl ⟨r,hr,hd⟩
    · rw [isClosed_terminal ht'] at hopen
      cases hopen

variable {q a : AgentRunCostComponent}

theorem projectionless_ends (hhealthy : env.runtimeHealthy = true) (hcommit : env.commit = .acknowledged)
    (hdb : w.db = some ⟨p,[q,a]⟩) (hu : w.unit = none) (hrows : RowsFacts w₀ q a) (hs : p.status = .running)
    (hp : p.runRecordPhase = .admission) (hall : ∀ r ∈ [q,a], r.dispatchState = .notAttempted) :
    wp (finalizeProjectionlessFailure authority i env .abandonedUnknown none) (fun _ => Ended) (fun _ _ => False) w := by
  have hav : (p.status = .running && p.runRecordPhase = .admission &&
      [q,a].map AgentRunCostComponent.component = componentOrder &&
      [q,a].all fun r => r.dispatchState = .notAttempted) = true := by
    simp only [Bool.and_eq_true,decide_eq_true_eq]
    exact ⟨⟨⟨hs,hp⟩,hrows.componentOrder⟩,List.all_eq_true.mpr fun r hr => decide_eq_true (hall r hr)⟩
  unfold finalizeProjectionlessFailure runtimeHealthEffect
  refine wp_seq ((wp_require _ _ _ _ _).mpr ⟨fun _ => ?_,fun hn => absurd (hhealthy.symm.trans hn) nofun⟩)
  refine wp_seq ((wp_require _ _ _ _ _).mpr ⟨fun _ => ?_,fun hn => absurd hn nofun⟩)
  refine wp_seq (selectForUpdate_free hdb hu (wp_seq (wp_seq_pure ?_)))
  refine wp_seq ((wp_require _ _ _ _ _).mpr ⟨fun _ => ?_,fun hn => absurd (hav.symm.trans hn) nofun⟩)
  refine wp_seq ((wp_require _ _ _ _ _).mpr ⟨fun _ => ?_,fun hn => absurd hn nofun⟩)
  refine wp_seq_modify (wp_seq_modify ?_)
  refine commit_acknowledged hcommit hdb rfl ⟨_,rfl,rfl,rfl,?_⟩
  intro r hr
  rcases List.mem_pair.mp hr with rfl | rfl <;> exact .inl rfl

theorem deadProcess_ends {process : Hmac} (hcommit : env.commit = .acknowledged) (hdb : w.db = some ⟨p,[q,a]⟩)
    (hu : w.unit = none) (horder : [q,a].map AgentRunCostComponent.component = componentOrder)
    (hs : p.status = .running) (hp : p.runRecordPhase = .admission)
    (hincomplete : isIncomplete [q,a] = true)
    (hattestation : expectedAttestation authority [q,a] = some (authority.sign.deadProcessAttestation process)) :
    wp (recoverIncompleteRun authority i env ⟨none,none,some (authority.sign.deadProcessAttestation process).text,none⟩)
      (fun _ => Ended) (fun _ _ => False) w := by
  have hrecovery : deadProcessRecovery authority p [q,a]
      ⟨none,none,some (authority.sign.deadProcessAttestation process).text,none⟩ = true := by
    simp [deadProcessRecovery,hp,hincomplete,hattestation]
  unfold recoverIncompleteRun
  refine wp_seq (lockedRun_free hdb hu horder ?_)
  refine wp_seq ((wp_require _ _ _ _ _).mpr ⟨fun _ => ?_,fun hn => absurd hs (of_decide_eq_false hn)⟩)
  refine (wp_ite _ _ _ _ _ _).mpr ⟨fun hpending => ?_,fun _ => ?_⟩
  · exact absurd (hp.symm.trans hpending) nofun
  · refine wp_seq ((wp_require _ _ _ _ _).mpr ⟨fun _ => ?_,fun hn => absurd (hrecovery.symm.trans hn) nofun⟩)
    refine wp_seq_modify (wp_seq_modify ?_)
    refine finalizeFailedRun_ends hcommit hdb rfl rfl ?_ (.inl rfl)
    intro r hr
    obtain ⟨r,_,rfl⟩ := List.mem_map.mp hr
    exact isClosed_abandonRow r

theorem projectionOwner_ends {fence : Hmac} (hcommit : env.commit = .acknowledged) (hdb : w.db = some ⟨p,[q,a]⟩)
    (hu : w.unit = none) (hrows : RowsFacts w₀ q a) (hs : p.status = .running)
    (hp : p.runRecordPhase = .costFinalizedPendingProjection) (hfence : p.projectionOwnerFenceHmac = some fence)
    (hwindow : IsAdmissionWindow p.sourceWindow) (hterminal : ∀ r ∈ [q,a], r.dispatchState = .terminal)
    (hsnapshot : p.metadata.runtimeCostSnapshotHmac = pendingRuntimeCostIdentity authority.sign [q,a]) :
    wp (recoverIncompleteRun authority i env ⟨some fence.text,some p.metadata.runtimeCostSnapshotHmac.text,none,none⟩)
      (fun _ => Ended) (fun _ _ => False) w := by
  have hall : ([q,a].all fun r => r.dispatchState = .terminal) = true :=
    List.all_eq_true.mpr fun r hr => decide_eq_true (hterminal r hr)
  unfold recoverIncompleteRun
  refine wp_seq (lockedRun_free hdb hu hrows.componentOrder ?_)
  refine wp_seq ((wp_require _ _ _ _ _).mpr ⟨fun _ => ?_,fun hn => absurd hs (of_decide_eq_false hn)⟩)
  refine (wp_ite _ _ _ _ _ _).mpr ⟨fun _ => ?_,fun hn => absurd hp hn⟩
  refine wp_seq ((wp_require _ _ _ _ _).mpr ⟨fun _ => ?_,fun hn => absurd hn ?_⟩)
  · refine wp_seq ((wp_require _ _ _ _ _).mpr ⟨fun _ => ?_,fun hn => absurd hn ?_⟩)
    · refine wp_seq ((wp_require _ _ _ _ _).mpr ⟨fun _ => ?_,fun hn => absurd (hall.symm.trans hn) nofun⟩)
      refine wp_seq_modify ?_
      exact finalizeFailedRun_ends hcommit hdb rfl rfl (fun r hr => isClosed_terminal (hterminal r hr)) (.inr hwindow)
    · simp [digestMatches,← hsnapshot]
  · simp [digestMatches,hfence]

/-- For every running run some closing call is enabled, and it ends the run. -/
theorem Kept.closable (h : Kept authority w₀ w) (hdb : w.db = some run) (hs : run.parent.status = .running)
    (processHmac : Nat → Hmac) (hhealthy : env.runtimeHealthy = true) (hcommit : env.commit = .acknowledged) :
    ∃ operation, ClosingCall authority run operation ∧
      wp (operation.run authority i env) (fun _ => Ended) (fun _ _ => False) (w.lose processHmac) := by
  have hrun := h.core.run run hdb
  obtain ⟨p,rows⟩ := run
  obtain ⟨q,a,rfl,hrows,_⟩ := hrun.rows
  have hphase := hrun.phase
  unfold PhaseOk at hphase
  dsimp only at hs hphase
  cases hp : p.runRecordPhase with
  | admission =>
    rw [hp] at hphase
    obtain ⟨_,_,_,_,hin,r,hr,hopen⟩ := hphase
    by_cases hall : ∀ r ∈ [q,a], r.dispatchState = .notAttempted
    · exact ⟨_,.projectionless hall,projectionless_ends hhealthy hcommit hdb rfl hrows hs hp hall⟩
    · obtain ⟨r',hr',hn⟩ : ∃ r ∈ [q,a], r.dispatchState ≠ .notAttempted := by
        push Not at hall
        exact hall
      obtain ⟨process,hprocess⟩ := (hrows.mem hr').attempting (hin r' hr') hn
      have hnamed := attemptingProcess_some hprocess
      have hone : ∀ r ∈ [q,a], ∀ x, r.processInstanceHmac = some x → x = process := by
        intro r₁ h₁ x hx
        rcases List.mem_pair.mp h₁ with rfl | rfl <;> rcases List.mem_pair.mp hr' with rfl | rfl
        · exact Option.some.inj (hx.symm.trans hnamed)
        · exact hrows.agree x process hx hnamed
        · exact (hrows.agree process x hnamed hx).symm
        · exact Option.some.inj (hx.symm.trans hnamed)
      exact ⟨_,.deadProcess process ⟨r',hr',hnamed⟩ hone,deadProcess_ends hcommit hdb rfl hrows.componentOrder hs hp
        (isIncomplete_of_open hin hr hopen hr' hn) (expectedAttestation_eq hone ⟨r',hr',hprocess⟩)⟩
  | costFinalizedPendingProjection =>
    rw [hp] at hphase
    obtain ⟨_,howned,_,hwindow,hterminal,hsnapshot⟩ := hphase
    obtain ⟨fence,hfence⟩ := Option.isSome_iff_exists.mp howned
    exact ⟨_,.projectionOwner fence hfence,
      projectionOwner_ends hcommit hdb rfl hrows hs hp hfence hwindow hterminal hsnapshot⟩
  | final =>
    rw [hp] at hphase
    exact absurd hs hphase.1
  | admissionOnly =>
    rw [hp] at hphase
    exact absurd (hs.symm.trans hphase.1) nofun

/-- No running run is stuck: with the durable identities in hand a new ledger closes it. -/
theorem running_run_closable (authority : LedgerAuthority) (processHmac processHmac' : Nat → Hmac)
    (commands : List Command) (run : Run) (i : Nat) (env : Environment)
    (hdb : (Lib.run (step authority) (World.initial processHmac) commands).db = some run)
    (hs : run.parent.status = .running) (hhealthy : env.runtimeHealthy = true)
    (hcommit : env.commit = .acknowledged) :
    ∃ operation, ClosingCall authority run operation ∧
      Succeeds authority ((Lib.run (step authority) (World.initial processHmac) commands).lose processHmac') i env
        operation ∧
      Ended (step authority ((Lib.run (step authority) (World.initial processHmac) commands).lose processHmac')
        (.call i env operation)) := by
  have h : Reachable authority (Lib.run (step authority) (World.initial processHmac) commands) :=
    ⟨processHmac,commands,rfl⟩
  obtain ⟨operation,hcall,hwp⟩ := h.kept.closable hdb hs processHmac' hhealthy hcommit
  obtain ⟨hsucceeds,hended⟩ := Lib.succeeds_of_wp hwp
  exact ⟨operation,hcall,hsucceeds,hended⟩

theorem running_run_closable_claimed : ∃ run operation, ClosingCall sampleAuthority run operation ∧
    Succeeds sampleAuthority (sampleClaimed.lose fun _ => sampleDigest) 1 sampleEnvironment operation ∧
    Ended (step sampleAuthority (sampleClaimed.lose fun _ => sampleDigest) (.call 1 sampleEnvironment operation)) :=
  ⟨_,running_run_closable sampleAuthority (fun _ => sampleDigest) (fun _ => sampleDigest)
    (sampleAdmission::sampleClaim) _ 1 sampleEnvironment rfl rfl rfl rfl⟩

end ParaWorks.Ledger
