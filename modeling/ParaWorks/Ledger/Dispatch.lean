import ParaWorks.Ledger.ClosingKept

/-!
# A component is paid for at most once

One grant is issued for a component, it is consumed once, and a row that has left `not_attempted` is
never claimable again. What retires a grant also stops its consumption, in the ledger it runs on; the
transport checks the durable row as well, so it stops everywhere.
-/

namespace ParaWorks.Ledger

open Lib

/-! ## What is true of every committed state

The two rows, their shapes and the total of the parent. -/

/-- `run` is durable, or was at some earlier point of this history. -/
def Committed (w : World) (run : Run) : Prop := w.db = some run ∨ Event.committed run ∈ w.history

/-- Two rows in the fixed order, each of exactly one shape, and a parent that sums their charges. -/
structure Accounted (run : Run) : Prop where
  rows : ∃ q a, run.rows = [q,a] ∧ q.component = .queryEmbedding ∧ a.component = .answerGeneration ∧
    (∃! s, HasShape q s) ∧ ∃! s, HasShape a s
  total : run.parent.totalChargedCostUsd = totalCharged run.rows

theorem RunFacts.accounted {authority : LedgerAuthority} {w : World} {run : Run}
    (h : RunFacts authority w run) : Accounted run := by
  obtain ⟨q,a,he,hr,_⟩ := h.rows
  exact ⟨⟨q,a,he,hr.query,hr.answer,hr.queryFacts.shape.existsUnique,hr.answerFacts.shape.existsUnique⟩,h.total⟩

theorem CommitFacts.accounted {run : Run} {older : List Event} (h : CommitFacts run older) : Accounted run := by
  obtain ⟨q,a,he,hq,ha,hqs,has⟩ := h.shaped
  exact ⟨⟨q,a,he,hq,ha,hqs.existsUnique,has.existsUnique⟩,h.total⟩

theorem LogFacts.tail {e : Event} {older : List Event} (h : LogFacts (e::older)) : LogFacts older := by
  cases e with
  | committed run => exact h.2
  | budgetBound b => exact h.2
  | overrunBlocked c => exact h
  | observed g u => exact h

theorem LogFacts.suffix {newer older : List Event} (h : LogFacts (newer++older)) : LogFacts older := by
  induction newer with
  | nil => exact h
  | cons e newer ih => exact ih h.tail

/-- The facts of a commit, over the events that came before it. -/
theorem LogFacts.commitFacts {events : List Event} (h : LogFacts events) {run : Run}
    (hr : Event.committed run ∈ events) : ∃ older, CommitFacts run older := by
  obtain ⟨newer,older,rfl⟩ := List.append_of_mem hr
  exact ⟨older,h.suffix.1⟩

theorem Reachable.accounted {authority : LedgerAuthority} {w : World} (h : Reachable authority w) {run : Run}
    (hr : Committed w run) : Accounted run := by
  have hk := h.kept
  rcases hr with hr | hr
  · exact (hk.core.run run hr).accounted
  · obtain ⟨_,hf⟩ := hk.core.log.commitFacts hr
    exact hf.accounted

/-- Whatever sequence of calls, refusals, failed commits, rollbacks and restarts leads to it. -/
theorem committed_states_accounted (authority : LedgerAuthority) (processHmac : Nat → Hmac)
    (commands : List Command) (run : Run)
    (h : Committed (Lib.run (step authority) (World.initial processHmac) commands) run) : Accounted run :=
  Reachable.accounted ⟨processHmac,commands,rfl⟩ h

/-! ## One admitted route -/

def sampleDigest : Hmac := ⟨String.ofList (List.replicate 64 'a'),by decide⟩

def sampleAuthority : LedgerAuthority where
  sign := {
    admission := fun _ => sampleDigest
    runtimeCost := fun _ => sampleDigest
    dispatchFence := fun _ => sampleDigest
    processInstance := fun _ => sampleDigest
    deadProcessAttestation := fun _ => sampleDigest
    projectionOwner := fun _ => sampleDigest
    finalShadow := fun _ => sampleDigest
    finalError := fun _ => sampleDigest }
  costPolicy := {
    policyHmac := fun _ => sampleDigest
    configHmac := fun _ => sampleDigest
    estimatorSigner := fun _ _ => sampleDigest
    countPrivateTokens := fun _ _ => some 1
    estimatorText := fun _ _ => some "" }

def sampleSnapshot (component : RagPaidComponent) : AuthorizedProviderPolicySnapshot where
  component := component
  provider := "openai"
  model := "model"
  authorizedModelConfigVersion := "v1"
  authorizedModelConfigSnapshotHmac := sampleDigest
  authorizedCostPolicyVersion := "v1"
  authorizedTokenEstimatorVersion := "v1"
  authorizedPolicySnapshotHmac := sampleDigest

def sampleBinding (component : RagPaidComponent) : RagProviderSafetyBinding where
  policySnapshot := sampleSnapshot component
  globalSafetyGeneration := 1
  providerSafetySnapshotHmac := sampleDigest

/-- Surroundings in which nothing fails. -/
def sampleEnvironment : Environment where
  runtimeHealthy := true
  commit := .acknowledged
  readiness := .ready (sampleBinding .answerGeneration)
  safetyCompletes := true
  safetyBarrier := true
  projectionLock := true
  ownerExit := true
  ownerCapability := some none
  orderCapability := true
  auditAppends := true
  nonce := 0
  now := 0

/-- An ask over keyword retrieval, admitted with the answer ceiling. -/
def sampleRequest : AdmissionRequest where
  surface := .ask
  mode := .enforce
  cutoverStage := .ask
  configuredBackend := .keyword
  queryContextVersion := .directQueryV1
  currentTextHmac := sampleDigest.text
  retrievalQueryHmac := sampleDigest.text
  securityScopeFingerprint := sampleDigest.text
  admissionCacheIdentityHmac := none
  sourceWindow := .admission .enforce .ask .keyword
  query := (sampleSnapshot .queryEmbedding,
    .unused (sampleAuthority.costPolicy.reserveUnusedComponent .queryEmbedding))
  answer := (sampleSnapshot .answerGeneration,.ceiling sampleAuthority.costPolicy.reserveAnswerGeneration)

def sampleInitial : World := World.initial fun _ => sampleDigest

def sampleAdmission : Command := .call 0 sampleEnvironment (.createAdmission sampleRequest)

theorem committed_states_accounted_admission :
    ∃ run, Committed (Lib.run (step sampleAuthority) sampleInitial [sampleAdmission]) run ∧ Accounted run :=
  ⟨_,.inl rfl,committed_states_accounted sampleAuthority (fun _ => sampleDigest) [sampleAdmission] _ (.inl rfl)⟩

variable {authority : LedgerAuthority} {w₀ w w' : World} {i : Nat} {env : Environment} {run : Run}
  {p : AgentRun} {q a : AgentRunCostComponent} {g : CommittedRagDispatchGrant}

def Succeeds (authority : LedgerAuthority) (w : World) (i : Nat) (env : Environment) (operation : Operation) :
    Prop :=
  Lib.succeeds (operation.run authority i env) w

/-- The state a call leads to, and everything that comes after it. -/
def afterCall (authority : LedgerAuthority) (w : World) (i : Nat) (env : Environment) (operation : Operation)
    (later : List Command) : World :=
  Lib.run (step authority) (step authority w (.call i env operation)) later

theorem Reachable.after_call (h : Reachable authority w) (i : Nat) (env : Environment) (operation : Operation)
    (later : List Command) : Reachable authority (afterCall authority w i env operation later) :=
  h.after (.call i env operation::later)

theorem Locked.db (h : Locked authority w₀ w i run p q a w') : w.db = some run := by
  have hdb := h.draft.db
  rwa [h.frame] at hdb

/-! ## Claims -/

/-- A row that has left `not_attempted` cannot be claimed, from the session's view of it either. -/
theorem claimComponent_fails {c : RagPaidComponent} {prepared : PreparedPaidCallBudget}
    (h : Kept authority w₀ w) (hdb : w.db = some run)
    (hleft : ∀ r ∈ run.rows, r.component = c → r.dispatchState ≠ .notAttempted) :
    wp (claimComponent authority i env c prepared) (fun _ _ => False) (fun _ _ => True) w := by
  unfold claimComponent runtimeHealthEffect validatePreparedBudget
  refine wp_seq_require trivial fun _ => ?_
  refine wp_seq_require trivial fun _ => ?_
  refine wp_seq_getMemory ?_
  refine wp_seq_require trivial fun _ => ?_
  refine wp_seq (h.selectForUpdate i (fun _ => trivial) (fun _ => trivial) ?_)
  intro run' p q a w' hl
  have he : run' = run := Option.some.inj (hl.db.symm.trans hdb)
  subst he
  refine wp_seq_present trivial fun _ he => ?_
  cases he
  refine wp_seq_require trivial fun _ => ?_
  refine wp_seq_require trivial fun _ => ?_
  refine wp_seq_require trivial fun _ => ?_
  refine wp_seq_present trivial fun row hrow => ?_
  refine wp_seq_require trivial fun hclaimable => ?_
  simp only [claimable,Bool.and_eq_true,decide_eq_true_eq] at hclaimable
  obtain ⟨⟨⟨⟨⟨⟨hd,_⟩,_⟩,_⟩,_⟩,_⟩,_⟩ := hclaimable
  have hcomp : row.component = c := by simpa [isComponent] using List.find?_some hrow
  obtain ⟨r,hr,hle⟩ := hl.le.exists_before (List.mem_of_find?_eq_some hrow)
  exact absurd hd (hle.left (hleft r hr (hle.component.symm.trans hcomp)))

theorem claim_not_succeeds {c : RagPaidComponent} (h : Reachable authority w) (hdb : w.db = some run)
    (hleft : ∀ r ∈ run.rows, r.component = c → r.dispatchState ≠ .notAttempted)
    (prepared : PreparedPaidCallBudget) : ¬Succeeds authority w i env (.claimComponent c prepared) :=
  Lib.not_succeeds (wp_seq (wp_mono (claimComponent_fails h.kept hdb hleft) (fun _ _ hf => hf.elim) fun _ _ h => h))

/-! ## Consumption -/

/-- No ledger holds the grant any more. -/
def Inactive (w : World) (g : CommittedRagDispatchGrant) : Prop :=
  ∀ j, (w.memory j).activeGrants g.component ≠ some g

/-- The operations that consume a grant. -/
inductive Consumes (g : CommittedRagDispatchGrant) : Operation → Prop where
  | committed : Consumes g (.consumeCommittedGrant g)
  | transport : Consumes g (.consumeTransportGrant g)

theorem consumeAtDispatch_fails (h : g ∈ w.consumed ∨ Inactive w g) :
    wp (consumeAtDispatch g) (fun _ _ => False) (fun _ _ => True) w := by
  unfold consumeAtDispatch
  refine wp_seq_get ?_
  refine wp_seq_require trivial fun hnew => ?_
  refine wp_seq_require trivial fun hactive => ?_
  simp only [decide_eq_true_eq] at hnew hactive
  rcases h with h | h
  · exact absurd h hnew
  · exact absurd hactive (h g.ledger)

theorem consumeCommittedGrant_fails (h : g ∈ w.consumed ∨ Inactive w g) :
    wp (consumeCommittedGrant i env g) (fun _ _ => False) (fun _ _ => True) w := by
  unfold consumeCommittedGrant runtimeHealthEffect
  refine wp_seq_require trivial fun _ => ?_
  refine wp_seq_getMemory ?_
  refine wp_seq_require trivial fun _ => ?_
  exact consumeAtDispatch_fails h

/-- The transport also reads the durable row, which a closing operation has changed. -/
theorem consumeTransportGrant_fails (hk : Kept authority w₀ w)
    (h : g ∈ w.consumed ∨ Inactive w g ∨ ∃ run, w.db = some run ∧ ∀ r ∈ run.rows, isClosed r = true) :
    wp (consumeTransportGrant i env g) (fun _ _ => False) (fun _ _ => True) w := by
  unfold consumeTransportGrant runtimeHealthEffect
  refine wp_seq_require trivial fun _ => ?_
  refine wp_seq_require trivial fun _ => ?_
  refine wp_seq_modify ?_
  refine wp_seq ((hk.expireAll i).selectForUpdate i (fun _ => trivial) (fun _ => trivial) ?_)
  intro run p q a w' hl
  refine wp_seq_present trivial fun _ he => ?_
  cases he
  refine wp_seq_require trivial fun hdurable => ?_
  rcases h with h | h | ⟨run',hdb,hclosed⟩
  · refine consumeCommittedGrant_fails (.inl ?_)
    rw [hl.consumed]
    exact h
  · refine consumeCommittedGrant_fails (.inr fun j => ?_)
    rw [hl.memory]
    exact h j
  · -- Closed rows stay what they are, so none carries the claim.
    have he : run = run' := Option.some.inj (hl.db.symm.trans hdb)
    subst he
    simp only [durableDispatch,Bool.and_eq_true,List.any_eq_true] at hdurable
    obtain ⟨_,row,hrow,⟨⟨_,hclaim⟩,_⟩,_⟩ := hdurable
    simp only [carriesClaim,Bool.and_eq_true,decide_eq_true_eq] at hclaim
    obtain ⟨r,hr,hle⟩ := hl.le.exists_before hrow
    have hc := hclosed r hr
    rw [← hle.closed hc,isClosed_dispatching hclaim.1] at hc
    cases hc

theorem consume_not_succeeds {operation : Operation} (hc : Consumes g operation) (h : Reachable authority w)
    (hg : g ∈ w.consumed ∨ Inactive w g) : ¬Succeeds authority w i env operation := by
  cases hc with
  | committed => exact Lib.not_succeeds (consumeCommittedGrant_fails hg)
  | transport => exact Lib.not_succeeds (consumeTransportGrant_fails h.kept (hg.imp id .inl))

theorem consumeCommittedGrant_consumes :
    wp (consumeCommittedGrant i env g) (fun _ w' => g ∈ w'.consumed) (fun _ _ => True) w := by
  unfold consumeCommittedGrant runtimeHealthEffect consumeAtDispatch
  refine wp_seq_require trivial fun _ => ?_
  refine wp_seq_getMemory ?_
  refine wp_seq_require trivial fun _ => ?_
  refine wp_seq_get ?_
  refine wp_seq_require trivial fun _ => ?_
  exact wp_seq_require trivial fun _ => List.mem_cons_self

theorem Consumes.consumed {operation : Operation} (hc : Consumes g operation) (h : Reachable authority w)
    (hs : Succeeds authority w i env operation) : g ∈ (step authority w (.call i env operation)).consumed := by
  cases hc with
  | committed =>
    refine Lib.succeeds.finalState (P := fun w' => g ∈ w'.consumed) hs ?_
    exact consumeCommittedGrant_consumes
  | transport =>
    refine Lib.succeeds.finalState (P := fun w' => g ∈ w'.consumed) hs ?_
    change wp (consumeTransportGrant i env g) _ _ w
    unfold consumeTransportGrant runtimeHealthEffect
    refine wp_seq_require trivial fun _ => ?_
    refine wp_seq_require trivial fun _ => ?_
    refine wp_seq_modify ?_
    refine wp_seq ((h.kept.expireAll i).selectForUpdate i (fun _ => trivial) (fun _ => trivial) ?_)
    intro run p q a w' hl
    refine wp_seq_present trivial fun _ he => ?_
    cases he
    exact wp_seq_require trivial fun _ => consumeCommittedGrant_consumes

/-! ## Retirement -/

/-- The operations that end the life of a grant. -/
inductive Retires (g : CommittedRagDispatchGrant) : Operation → Prop where
  | cancel (outcome : Outcome) : Retires g (.cancelClaimBeforeDispatch g outcome)
  | refuse : Retires g (.deferAnswerEvidenceRefusal g)
  | finalize (observation : ClassifiedProviderObservation) : Retires g (.finalizeComponent g observation)
  | recover (request : RecoveryAuthority) : Retires g (.recoverIncompleteRun request)

/-- A ledger that drops the grant it issued leaves it with nobody. -/
theorem Kept.inactive (h : Kept authority w₀ w) (hg : (w.memory g.ledger).activeGrants g.component = none) :
    Inactive w g := by
  intro j hj
  obtain ⟨_,_,hl⟩ := h.core.memory.active j _ g hj
  rw [hl,hj] at hg
  cases hg

theorem deferAnswerEvidenceRefusal_wp :
    wp (deferAnswerEvidenceRefusal i g) (fun _ w' => (w'.memory i).activeGrants g.component = none)
      (fun _ _ => True) w := by
  unfold deferAnswerEvidenceRefusal
  refine wp_seq_get (wp_seq_getMemory ?_)
  refine wp_seq_require trivial fun _ => ?_
  change ((w.mapMemory i _).memory i).activeGrants g.component = none
  rw [mapMemory_memory,if_pos rfl]
  simp only [put,if_pos]

/-- A run that has ended has only closed rows. -/
theorem Kept.closed_of_failed (h : Kept authority w₀ w) (hdb : w.db = some run) (hs : run.parent.status = .failed) :
    ∀ r ∈ run.rows, isClosed r = true := by
  have hphase := (h.core.run run hdb).phase
  unfold PhaseOk at hphase
  cases hp : run.parent.runRecordPhase with
  | admission =>
    rw [hp,hs] at hphase
    cases hphase.1
  | costFinalizedPendingProjection =>
    rw [hp,hs] at hphase
    cases hphase.1
  | final =>
    rw [hp] at hphase
    exact hphase.2.2
  | admissionOnly =>
    rw [hp] at hphase
    exact hphase.2.2

/-- The operations that retire a grant by name run on the ledger that holds it. -/
theorem Retires.active {operation : Operation} (hr : Retires g operation) (hs : Succeeds authority w i env operation)
    (hn : ∀ request, operation ≠ .recoverIncompleteRun request) :
    (w.memory i).activeGrants g.component = some g := by
  by_contra hne
  refine absurd hs (Lib.not_succeeds ?_)
  cases hr with
  | cancel outcome =>
    change wp (cancelClaimBeforeDispatch authority i env g outcome) _ _ w
    unfold cancelClaimBeforeDispatch
    refine wp_seq_get (wp_seq_getMemory (wp_seq_require trivial fun hc => ?_))
    simp only [Bool.and_eq_true,decide_eq_true_eq] at hc
    exact absurd hc.1.1 hne
  | refuse =>
    change wp (deferAnswerEvidenceRefusal i g) _ _ w
    unfold deferAnswerEvidenceRefusal
    refine wp_seq_get (wp_seq_getMemory (wp_seq_require trivial fun hc => ?_))
    simp only [Bool.and_eq_true,decide_eq_true_eq] at hc
    exact absurd hc.2 hne
  | finalize o =>
    change wp (finalizeComponent authority i env g o) _ _ w
    unfold finalizeComponent runtimeHealthEffect
    refine wp_seq_require trivial fun _ => ?_
    refine wp_seq_require trivial fun _ => ?_
    refine wp_seq_get (wp_seq_require trivial fun _ => wp_seq_set (wp_seq_getMemory ?_))
    refine wp_seq_require trivial fun hc => ?_
    exact absurd (of_decide_eq_true hc) hne
  | recover request => exact absurd rfl (hn request)

/-- What a successful retirement leaves: no holder in its ledger, and a recovery also closed rows. -/
theorem Retires.retired {operation : Operation} (hr : Retires g operation) (h : Reachable authority w)
    (hs : Succeeds authority w i env operation) :
    let w' := step authority w (.call i env operation)
    (w'.memory i).activeGrants g.component = none ∧
    (i = g.ledger ∨ ∃ run, w'.db = some run ∧ ∀ r ∈ run.rows, isClosed r = true) := by
  intro w'
  have hledger : (∀ request, operation ≠ .recoverIncompleteRun request) → i = g.ledger := by
    intro hn
    obtain ⟨_,_,hl⟩ := h.kept.core.memory.active i _ g (hr.active hs hn)
    exact hl.symm
  cases hr with
  | cancel outcome =>
    refine ⟨?_,.inl (hledger nofun)⟩
    refine Lib.succeeds.finalState (P := fun w' => (w'.memory i).activeGrants g.component = none) hs ?_
    exact wp_ignore_error (cancelClaimBeforeDispatch_wp h.kept fun _ _ hn => hn)
  | refuse =>
    refine ⟨?_,.inl (hledger nofun)⟩
    refine Lib.succeeds.finalState (P := fun w' => (w'.memory i).activeGrants g.component = none) hs ?_
    exact deferAnswerEvidenceRefusal_wp
  | finalize o =>
    refine ⟨?_,.inl (hledger nofun)⟩
    refine Lib.succeeds.finalState (P := fun w' => (w'.memory i).activeGrants g.component = none) hs ?_
    exact wp_ignore_error (finalizeComponent_wp h.kept fun _ _ hn => hn)
  | recover request =>
    let P : World → Prop := fun w' => (w'.memory i).activeGrants g.component = none ∧
      (i = g.ledger ∨ ∃ run, w'.db = some run ∧ ∀ r ∈ run.rows, isClosed r = true)
    refine Lib.succeeds.finalState (P := P) hs ?_
    refine wp_ignore_error (recoverIncompleteRun_wp h.kept fun w'' hk hn ⟨run,hdb,hstatus⟩ => ?_)
    exact ⟨hn g.component,.inr ⟨run,hdb,hk.closed_of_failed hdb hstatus⟩⟩

/-! ## The main result -/

structure DispatchedOnce (authority : LedgerAuthority) (w : World) : Prop where
  /-- one grant for a component, over the whole run -/
  issued : ∀ g ∈ w.issued, ∀ g' ∈ w.issued, g.component = g'.component → g = g'
  /-- once its consumption has succeeded it never does again -/
  consumed : ∀ g i env operation later i' env' operation', Consumes g operation → Consumes g operation' →
    Succeeds authority w i env operation →
    ¬Succeeds authority (afterCall authority w i env operation later) i' env' operation'
  /-- a row that has left `not_attempted` neither returns nor is claimed -/
  left : ∀ run r, w.db = some run → r ∈ run.rows → r.dispatchState ≠ .notAttempted → ∀ later,
    (∃ run', (Lib.run (step authority) w later).db = some run' ∧
      ∀ r' ∈ run'.rows, r'.component = r.component → r'.dispatchState ≠ .notAttempted) ∧
    ∀ i env prepared, ¬Succeeds authority (Lib.run (step authority) w later) i env
      (.claimComponent r.component prepared)
  /-- after a retirement there is no claim and no send, and no consumption unless the holder was not told -/
  retired : ∀ g ∈ w.issued, ∀ i env operation, Retires g operation → Succeeds authority w i env operation →
    ∀ later i' env',
    (∀ prepared, ¬Succeeds authority (afterCall authority w i env operation later) i' env'
      (.claimComponent g.component prepared)) ∧
    ¬Succeeds authority (afterCall authority w i env operation later) i' env' (.consumeTransportGrant g) ∧
    (i = g.ledger ∨ (∀ request, operation ≠ .recoverIncompleteRun request) →
      ¬Succeeds authority (afterCall authority w i env operation later) i' env' (.consumeCommittedGrant g))

/-- The row of an issued grant has left `not_attempted` for good. -/
theorem Kept.issued_left (h : Kept authority w₀ w) (hg : g ∈ w.issued) : ∃ run, w.db = some run ∧
    ∀ r ∈ run.rows, r.component = g.component → r.dispatchState ≠ .notAttempted := by
  cases hdb : w.db with
  | none =>
    rw [(h.core.blank hdb).issued] at hg
    cases hg
  | some run =>
    obtain ⟨q,a,he,hf,_⟩ := (h.core.run run hdb).rows
    refine ⟨run,rfl,fun r hr hc => ?_⟩
    rw [he] at hr
    exact (hf.mem hr).issued g hg hc.symm

theorem Reachable.left_of_evolves (h : Reachable authority w) {r : AgentRunCostComponent} (hdb : w.db = some run)
    (hr : r ∈ run.rows) (hleft : r.dispatchState ≠ .notAttempted) (he : Evolves w w') : ∃ run', w'.db = some run' ∧
    ∀ r' ∈ run'.rows, r'.component = r.component → r'.dispatchState ≠ .notAttempted := by
  obtain ⟨q,a,hrows,hf,_⟩ := (h.kept.core.run run hdb).rows
  obtain ⟨run',hdb',hle⟩ := he.run run hdb
  refine ⟨run',hdb',fun r' hr' hc => ?_⟩
  obtain ⟨r₀,hr₀,hle₀⟩ := hle.exists_before hr'
  rw [hrows] at hr hr₀
  rw [hf.eq_of_component hr₀ hr (hle₀.component.symm.trans hc)] at hle₀
  exact hle₀.left hleft

theorem Reachable.retired (h : Reachable authority w) (hg : g ∈ w.issued) {operation : Operation}
    (hr : Retires g operation) (hs : Succeeds authority w i env operation) (later : List Command) :
    let w' := afterCall authority w i env operation later
    Inactive w' g ∨ i ≠ g.ledger ∧ ∃ run, w'.db = some run ∧ ∀ r ∈ run.rows, isClosed r = true := by
  intro w'
  let w₁ := step authority w (.call i env operation)
  have h₁ : Reachable authority w₁ := h.after [.call i env operation]
  have hg₁ : g ∈ w₁.issued := (h.evolves [.call i env operation]).issued g hg
  obtain ⟨hnone,hclosed⟩ := hr.retired h hs
  have hevolves : Evolves w₁ w' := h₁.evolves later
  by_cases hi : i = g.ledger
  · subst hi
    exact .inl (hevolves.inactive g hg₁ (h₁.kept.inactive hnone))
  · right
    obtain ⟨run,hdb,hc⟩ := hclosed.resolve_left hi
    obtain ⟨run',hdb',hle⟩ := hevolves.run run hdb
    exact ⟨hi,run',hdb',hle.closed hc⟩

theorem paid_dispatch_at_most_once (authority : LedgerAuthority) (processHmac : Nat → Hmac)
    (commands : List Command) :
    DispatchedOnce authority (Lib.run (step authority) (World.initial processHmac) commands) := by
  have h : Reachable authority (Lib.run (step authority) (World.initial processHmac) commands) :=
    ⟨processHmac,commands,rfl⟩
  generalize Lib.run (step authority) (World.initial processHmac) commands = w at h
  refine ⟨h.kept.core.grants.unique,?_,?_,?_⟩
  · intro g i env operation later i' env' operation' hc hc' hs
    have hconsumed := hc.consumed h hs
    have hafter := (h.after [.call i env operation]).evolves later
    exact consume_not_succeeds hc' (h.after_call i env operation later) (.inl (hafter.consumed g hconsumed))
  · intro run r hdb hr hleft later
    obtain ⟨run',hdb',hleft'⟩ := h.left_of_evolves hdb hr hleft (h.evolves later)
    refine ⟨⟨run',hdb',hleft'⟩,fun i env prepared => ?_⟩
    exact claim_not_succeeds (h.after later) hdb' hleft' prepared
  · intro g hg i env operation hr hs later i' env'
    have hafter := h.after_call i env operation later
    have hissued := (h.evolves (.call i env operation::later)).issued g hg
    obtain ⟨run',hdb',hleft'⟩ := hafter.kept.issued_left hissued
    refine ⟨fun prepared => claim_not_succeeds hafter hdb' hleft' prepared,?_,?_⟩
    · rcases h.retired hg hr hs later with hi | ⟨_,hclosed⟩
      · exact consume_not_succeeds .transport hafter (.inr hi)
      · exact Lib.not_succeeds (consumeTransportGrant_fails hafter.kept (.inr (.inr hclosed)))
    · intro hcase
      rcases h.retired hg hr hs later with hi | ⟨hne,_⟩
      · exact consume_not_succeeds .committed hafter (.inr hi)
      · -- Only a recovery runs on another ledger.
        rcases hcase with hi | hn
        · exact absurd hi hne
        · obtain ⟨_,_,hl⟩ := h.kept.core.memory.active i _ g (hr.active hs hn)
          exact absurd hl.symm hne

/-! ## A holder that was not told -/

def sampleBudget : PreparedPaidCallBudget where
  component := .answerGeneration
  estimatedInputTokens := 600
  maximumOutputTokens := 512
  reservedCostUsd := 2754
  costPolicySnapshotHmac := sampleDigest
  estimatorInputHmac := sampleDigest

def sampleClaim : List Command :=
  [.call 0 sampleEnvironment (.bindAnswerBudget sampleBudget none),
    .call 0 sampleEnvironment (.claimComponent .answerGeneration sampleBudget)]

def sampleClaimed : World := Lib.run (step sampleAuthority) sampleInitial (sampleAdmission::sampleClaim)

def sampleGrant : CommittedRagDispatchGrant where
  serial := 0
  ledger := 0
  component := .answerGeneration
  reservedCostUsd := 2754
  dispatchFenceHmac := sampleDigest
  providerSafetySnapshotHmac := sampleDigest

def sampleRecovery : RecoveryAuthority where
  projectionOwnerFenceHmac := none
  expectedRuntimeCostSnapshotHmac := none
  deadProcessAttestationHmac := some sampleDigest.text
  completedAt := none

/-- A second ledger recovers the run of a process that is alive after all; the first still consumes
the grant it holds in memory. -/
theorem recovery_leaves_live_holder : ¬∀ (w : World) (g : CommittedRagDispatchGrant) (i i' : Nat)
    (env env' : Environment) (request : RecoveryAuthority), Reachable sampleAuthority w → g ∈ w.issued →
    Succeeds sampleAuthority w i env (.recoverIncompleteRun request) →
    ¬Succeeds sampleAuthority (afterCall sampleAuthority w i env (.recoverIncompleteRun request) []) i' env'
      (.consumeCommittedGrant g) := by
  intro h
  refine h sampleClaimed sampleGrant 1 0 sampleEnvironment sampleEnvironment sampleRecovery ?_ ?_ ?_ ?_
  · exact ⟨fun _ => sampleDigest,sampleAdmission::sampleClaim,rfl⟩
  · exact List.mem_singleton.mpr rfl
  · exact ⟨(),_,rfl⟩
  · exact ⟨(),_,rfl⟩

end ParaWorks.Ledger
