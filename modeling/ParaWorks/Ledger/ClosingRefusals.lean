import ParaWorks.Ledger.Traces

/-!
# Late refusals of the closing operations

`_commit_safe_pending` merges the cache identity before it checks the run, and the failure closures
zero the rows before they look at the timestamp or the assistant message. None of them rolls back when
it raises there, and the owners raise once more after a commit.
-/

namespace ParaWorks.Ledger

open Lib

variable {authority : LedgerAuthority} {w₀ w w' : World} {i : Nat} {env : Environment} {run : Run}
  {p : AgentRun} {q a : AgentRunCostComponent}

/-- The commit went through, and leaving the barriers raised. -/
def LateExit (env : Environment) : Prop := env.commit = .acknowledged ∧ env.ownerExit = false

/-! ## Pending projections -/

/-- The checks of `_commit_safe_pending` that come after the metadata merge. -/
def pendingChecks (m : Memory) (consumed : List CommittedRagDispatchGrant) (embeddingOnly : Bool)
    (refusedGrant : Option CommittedRagDispatchGrant) (p : AgentRun) (q a : AgentRunCostComponent) : Bool :=
  refusedGrant.all (evidenceRefusalProved m consumed a) &&
  safePendingAvailable p [q,a] embeddingOnly refusedGrant.isSome &&
  (!embeddingOnly || terminalEmbeddingAvailable m p q) && (!embeddingOnly || terminalCostRowUnchanged m q)

/-- The owner lets the body in. -/
structure PendingEntered (w : World) (i : Nat) (env : Environment) (generations : PendingGenerations)
    (embeddingOnly : Bool) : Prop where
  generation : (!embeddingOnly || generations.vectorIndexGeneration.isSome) = true
  admitted : (((w.memory i).admissionSnapshots .queryEmbedding).isSome &&
    ((w.memory i).admissionSnapshots .answerGeneration).isSome) = true
  receipt : (!embeddingOnly || ((w.memory i).terminalBindings .queryEmbedding).isSome) = true
  barrier : (!embeddingOnly || env.safetyBarrier) = true
  lock : env.projectionLock = true

/-- A cache hit merged over a run that fails a check; or a transition without an owner; or an owner that
raises after the commit. -/
structure LatePending (w : World) (i : Nat) (env : Environment) (generations : PendingGenerations)
    (embeddingOnly : Bool) (refusedGrant : Option CommittedRagDispatchGrant) (cache : Option CacheHit) : Prop
    extends PendingEntered w i env generations embeddingOnly where
  free : w.free i = true
  body : ∃ p q a, w.db = some ⟨p,[q,a]⟩ ∧ cache.all (cacheBindingMatches p.metadata) = true ∧
    if pendingChecks (w.memory i) w.consumed embeddingOnly refusedGrant p q a = true
    then env.ownerCapability = none ∨ LateExit env else cache.isSome = true

variable {generations : PendingGenerations} {embeddingOnly : Bool}
  {refusedGrant : Option CommittedRagDispatchGrant} {cache : Option CacheHit}

/-- The merge leaves a trace exactly when there is a hit. -/
theorem applyCacheHit_merges {fl : Option Run} {Q : AgentRun → World → Prop} {E : LedgerError → World → Prop}
    (h : Clean w) (hdb : w.db = some ⟨p,[q,a]⟩) (hfl : fl.getD ⟨p,[q,a]⟩ = ⟨p,[q,a]⟩)
    (hrefused : cache.all (cacheBindingMatches p.metadata) = false →
      E (.ledger "cache preparation binding changed") (w.lock i fl ⟨p,[q,a]⟩))
    (hq : ∀ p' fl', cache.all (cacheBindingMatches p.metadata) = true → SameButCache p' p →
      let w' := { w with unit := some ⟨i,fl',some p',some [q,a]⟩ }
      (cache.isSome = true → ¬NoTrace w w') → (cache.isSome = false → Clean w') → Q p' w') :
    wp (applyCacheHit p cache) Q E (w.lock i fl ⟨p,[q,a]⟩) := by
  unfold applyCacheHit
  cases cache with
  | none => exact hq p fl rfl (SameButCache.refl p) nofun fun _ => Clean.lock hdb hfl
  | some hit =>
    refine wp_seq_check (fun hc => hrefused hc) fun hc => wp_seq_modify ?_
    refine hq (mergeCacheIdentity p hit) fl hc ⟨_,rfl⟩ (fun _ => ?_) nofun
    refine h.trace_of_pending hdb hdb rfl fun he => ?_
    have hnone : p.metadata.answerFinalization = none := by
      simp only [cacheBindingMatches,Bool.and_eq_true,decide_eq_true_eq] at hc
      exact hc.1.1.1.1
    have hmerged : (mergeCacheIdentity p hit).metadata.answerFinalization = p.metadata.answerFinalization :=
      congrArg (fun run : Run => run.parent.metadata.answerFinalization) he
    rw [hnone] at hmerged
    cases hmerged

theorem safePendingBody_refusal (h : Clean w) (hk : Kept authority w₀ w)
    (hentered : PendingEntered w i env generations embeddingOnly) :
    let late := LatePending w i env generations embeddingOnly refusedGrant cache
    wp (safePendingBody authority i env embeddingOnly refusedGrant cache)
      (fun _ w' => Clean w' ∧ w'.db ≠ w.db ∧ (late ↔ env.ownerExit = false)) (Refused late w) w := by
  intro late
  unfold safePendingBody
  refine wp_seq (h.lockedRun hk ?_ ?_ ?_)
  · intro hdb
    refine Refused.early (fun hl => ?_) h rfl
    obtain ⟨p,q,a,hdb',_⟩ := hl.body
    rw [hdb] at hdb'
    cases hdb'
  · intro hfree
    exact Refused.early (fun hl => Bool.eq_false_iff.mp hfree hl.free) h rfl
  · intro p q a fl hdb hrun hrows hfree hfl
    have hlate : late ↔ cache.all (cacheBindingMatches p.metadata) = true ∧
        if pendingChecks (w.memory i) w.consumed embeddingOnly refusedGrant p q a = true
        then env.ownerCapability = none ∨ LateExit env else cache.isSome = true := by
      refine ⟨fun hl => ?_,fun hb => ⟨hentered,hfree,p,q,a,hdb,hb⟩⟩
      obtain ⟨p',q',a',hdb',hb⟩ := hl.body
      rw [hdb] at hdb'
      cases hdb'
      exact hb
    have hlock := Clean.lock (i := i) hdb hfl
    refine wp_seq_lookup (fun hn => ?_) fun query hquery => ?_
    · cases hrows.find_query.symm.trans hn
    refine wp_seq_lookup (fun hn => ?_) fun answer hanswer => ?_
    · cases hrows.find_answer.symm.trans hn
    cases hrows.find_query.symm.trans hquery
    cases hrows.find_answer.symm.trans hanswer
    refine wp_seq (applyCacheHit_merges h hdb hfl (fun hc => ?_) ?_)
    · refine Refused.early (fun hl => ?_) hlock rfl
      exact Bool.eq_false_iff.mp hc (hlate.mp hl).1
    intro p' fl' hmatches hsame w₁ htrace hclean
    obtain ⟨c,rfl⟩ := hsame
    have hfail : pendingChecks (w.memory i) w.consumed embeddingOnly refusedGrant p q a = false →
        ∀ message, Refused late w (.ledger message) w₁ := by
      intro hc message
      cases hcache : cache.isSome with
      | true =>
        refine .inr ⟨hlate.mpr ⟨hmatches,?_⟩,ledger_ne_unacknowledged _,htrace hcache⟩
        rwa [if_neg (Bool.eq_false_iff.mp hc)]
      | false =>
        refine Refused.early (fun hl => ?_) (hclean hcache) rfl
        have hb := (hlate.mp hl).2
        rw [if_neg (Bool.eq_false_iff.mp hc),hcache] at hb
        cases hb
    refine wp_seq_get (wp_seq_getMemory ?_)
    refine wp_seq_check (fun hc => hfail ?_ _) fun hc₁ => ?_
    · have hc' : refusedGrant.all (evidenceRefusalProved (w.memory i) w.consumed a) = false := hc
      simp [pendingChecks,hc']
    refine wp_seq_check (fun hc => hfail ?_ _) fun hc₂ => ?_
    · have hc' : safePendingAvailable p [q,a] embeddingOnly refusedGrant.isSome = false := hc
      simp [pendingChecks,hc']
    refine wp_seq_check (fun hc => hfail ?_ _) fun hc₃ => ?_
    · have hc' : (!embeddingOnly || terminalEmbeddingAvailable (w.memory i) p q) = false := hc
      simp [pendingChecks,hc']
    refine wp_seq_check (fun hc => hfail ?_ _) fun hc₄ => ?_
    · have hc' : (!embeddingOnly || terminalCostRowUnchanged (w.memory i) q) = false := hc
      simp [pendingChecks,hc']
    have hchecks : pendingChecks (w.memory i) w.consumed embeddingOnly refusedGrant p q a = true := by
      unfold pendingChecks
      rw [Bool.and_eq_true,Bool.and_eq_true,Bool.and_eq_true]
      exact ⟨⟨⟨hc₁,hc₂⟩,hc₃⟩,hc₄⟩
    have hpassed : late ↔ env.ownerCapability = none ∨ LateExit env := by
      rw [hlate,if_pos hchecks]
      exact ⟨fun hb => hb.2,fun hb => ⟨hmatches,hb⟩⟩
    have hphase : p.runRecordPhase = .admission := by
      simp only [safePendingAvailable,Bool.and_eq_true,decide_eq_true_eq] at hc₂
      exact hc₂.1.1.1.2
    refine wp_seq_modify (wp_seq_modify ?_)
    unfold projectionOwnerFence
    refine wp_seq (wp_seq_lookup (fun hn => ?_) fun digest hdigest => ?_)
    · -- The transition is assigned, and there is no owner for it.
      refine .inr ⟨hpassed.mpr (.inl hn),ledger_ne_unacknowledged _,?_⟩
      refine h.trace_of_pending hdb hdb rfl fun he => ?_
      have hpending := congrArg (fun run : Run => run.parent.runRecordPhase) he
      cases hpending.trans hphase
    refine wp_seq_modify (wp_seq_modify ?_)
    refine wp_seq (commit_releases hdb rfl (fun hcommit w' hu hdb' => ?_) fun hcommit w' hu => ?_)
    · refine ⟨Clean.of_no_unit hu,fun he => ?_,hpassed.trans ⟨fun hb => ?_,fun hexit => .inr ⟨hcommit,hexit⟩⟩⟩
      · have hsame := Option.some.inj (hdb'.symm.trans (he.trans hdb))
        have hpending := congrArg (fun run : Run => run.parent.runRecordPhase) hsame
        cases hpending.trans hphase
      · rcases hb with hb | hb
        · cases hdigest.symm.trans hb
        · exact hb.2
    · refine Refused.unacknowledged (fun hl => ?_) (Clean.of_no_unit hu)
      rcases hpassed.mp hl with hb | hb
      · cases hdigest.symm.trans hb
      · exact hcommit hb.1

theorem not_late_of {late : Prop} {c : Bool} (hl : late → c = true) (hc : c = false) : ¬late :=
  fun h => absurd ((hl h).symm.trans hc) nofun

theorem commitSafePending_refusal (h : Clean w) (hk : Kept authority w₀ w) :
    RefusedLateIff (LatePending w i env generations embeddingOnly refusedGrant cache)
      (commitSafePending authority i env generations embeddingOnly refusedGrant cache) w := by
  unfold RefusedLateIff commitSafePending safePendingOwner
  refine wp_seq_check (fun hc => Refused.early (not_late_of (·.generation) hc) h rfl) fun hgeneration => ?_
  refine wp_seq_getMemory ?_
  refine wp_seq_check (fun hc => Refused.early (not_late_of (·.admitted) hc) h rfl) fun hadmitted => ?_
  refine wp_seq_getMemory ?_
  refine wp_seq_check (fun hc => Refused.early (not_late_of (·.receipt) hc) h rfl) fun hreceipt => ?_
  refine wp_seq_check (fun hc => Refused.early (not_late_of (·.barrier) hc) h rfl) fun hbarrier => ?_
  refine wp_seq_check (fun hc => Refused.early (not_late_of (·.lock) hc) h rfl) fun hlock => ?_
  refine wp_seq (wp_mono (safePendingBody_refusal h hk ⟨hgeneration,hadmitted,hreceipt,hbarrier,hlock⟩) ?_ fun _ _ he => he)
  intro _ w' hbody
  obtain ⟨hclean,hne,hlate⟩ := hbody
  refine (wp_require _ _ _ _ _).mpr ⟨fun hexit => ⟨fun hl => ?_,hclean⟩,fun hexit => ?_⟩
  · cases hexit.symm.trans (hlate.mp hl)
  · exact .inr ⟨hlate.mpr hexit,nofun,trace_of_committed hne⟩

/-- A refusal of a session that has first been rolled back. -/
theorem Refused.of_rollback {late : Prop} {e : LedgerError} (h : Clean w) (hr : Refused late (w.rollback i) e w') :
    Refused late w e w' := by
  rcases hr with ⟨hl,hc,he⟩ | ⟨hl,hne,htrace⟩
  · exact .inl ⟨hl,hc,he⟩
  · refine .inr ⟨hl,hne,fun ht => htrace ?_⟩
    have hw := h.noTrace (h.rollback i) rfl
    exact ⟨ht.committed,ht.flushed.trans hw.flushed.symm,ht.pending.trans hw.pending.symm⟩

theorem free_rollback (w : World) (i : Nat) : (w.rollback i).free i = w.free i := by
  unfold World.free World.rollback
  cases hu : w.unit with
  | none => rfl
  | some u => by_cases hi : u.session = i <;> simp [Option.filter,hi]

theorem LatePending.rollback :
    LatePending w i env generations embeddingOnly refusedGrant cache ↔
      LatePending (w.rollback i) i env generations embeddingOnly refusedGrant cache := by
  constructor
  · rintro ⟨⟨h₁,h₂,h₃,h₄,h₅⟩,hfree,hbody⟩
    exact ⟨⟨h₁,h₂,h₃,h₄,h₅⟩,(free_rollback w i).trans hfree,hbody⟩
  · rintro ⟨⟨h₁,h₂,h₃,h₄,h₅⟩,hfree,hbody⟩
    exact ⟨⟨h₁,h₂,h₃,h₄,h₅⟩,(free_rollback w i).symm.trans hfree,hbody⟩

theorem commitProviderFreePending_refusal (generations : PendingGenerations) (h : Clean w) (hk : Kept authority w₀ w) :
    RefusedLateIff (env.runtimeHealthy = true ∧ LatePending w i env generations false none none)
      (commitProviderFreePending authority i env generations) w :=
  RefusedLateIff.check h fun _ => commitSafePending_refusal h hk

theorem commitEmbeddingOnlyPending_refusal (generations : PendingGenerations) (h : Clean w) (hk : Kept authority w₀ w) :
    RefusedLateIff (env.runtimeHealthy = true ∧ LatePending w i env generations true none none)
      (commitEmbeddingOnlyPending authority i env generations) w :=
  RefusedLateIff.check h fun _ => commitSafePending_refusal h hk

theorem commitAnswerCachePending_refusal (generations : PendingGenerations) (valid : Bool) (hit : CacheHit)
    (embeddingOnly : Bool) (h : Clean w) (hk : Kept authority w₀ w) :
    RefusedLateIff (env.runtimeHealthy = true ∧ valid = true ∧ LatePending w i env generations embeddingOnly none (some hit))
      (commitAnswerCachePending authority i env generations valid hit embeddingOnly) w :=
  RefusedLateIff.check h fun _ => RefusedLateIff.check h fun _ => commitSafePending_refusal h hk

/-- The refused grant is the one the ledger deferred. -/
theorem commitAnswerEvidenceChangedPending_refusal (g : CommittedRagDispatchGrant) (generations : PendingGenerations)
    (h : Clean w) (hk : Kept authority w₀ w) :
    RefusedLateIff (env.runtimeHealthy = true ∧ decide ((w.memory i).evidenceRefusedGrant = some g) = true ∧
        LatePending w i env generations ((w.memory i).terminalBindings .queryEmbedding).isSome (some g) none)
      (commitAnswerEvidenceChangedPending authority i env g generations) w := by
  unfold commitAnswerEvidenceChangedPending runtimeHealthEffect
  refine RefusedLateIff.check h fun _ => wp_seq_getMemory (RefusedLateIff.check h fun _ => wp_seq_get ?_)
  refine wp_seq_check (fun hdirty => ?_) fun _ => wp_seq_modify ?_
  · nomatch (Bool.not_eq_false' _).mp hdirty ▸ h.not_dirty i
  · rw [LatePending.rollback]
    exact wp_mono (commitSafePending_refusal (h.rollback i) (hk.rollback i)) (fun _ _ hq => hq)
      fun _ _ he => he.of_rollback h

/-! ## Failure closures -/

/-- The timestamp `_finalize_failed_run` refuses. -/
def NaiveCompletion (env : Environment) (completedAt : Option Timestamp) : Prop :=
  (completion env completedAt).aware = false

/-- The three ends of `_finalize_failed_run` over assigned rows. -/
theorem finalizeFailedRun_ends_in {Q : Unit → World → Prop} {E : LedgerError → World → Prop} {u : UnitOfWork}
    {rows : List AgentRunCostComponent} {outcome : Outcome} {completedAt : Option Timestamp} {admissionOnly : Bool}
    {finalizer : Option AssistantFinalizer} (hdb : w.db = some run) (hu : w.unit = some u)
    (hwindow : admissionOnly = true ∨ IsAdmissionWindow p.sourceWindow)
    (hnaive : NaiveCompletion env completedAt → E (.value "completion timestamp must be timezone-aware") w)
    (hrefused : ¬NaiveCompletion env completedAt → finalizer = some none → ∀ w' u', w'.db = some run →
      w'.unit = some u' → (u'.pending run).parent.status = .failed →
      E (.ledger "assistant terminal product is unavailable") w')
    (hq : ¬NaiveCompletion env completedAt → finalizer ≠ some none → env.commit = .acknowledged → ∀ w' run',
      w'.unit = none → w'.db = some run' → run'.parent.status = .failed → Q () w')
    (he : ¬NaiveCompletion env completedAt → finalizer ≠ some none → env.commit ≠ .acknowledged → ∀ w',
      w'.unit = none → E commitUnacknowledged w') :
    wp (finalizeFailedRun authority env p rows outcome completedAt admissionOnly finalizer) Q E w := by
  unfold finalizeFailedRun
  refine wp_seq_check hnaive fun haware => ?_
  have hn : ¬NaiveCompletion env completedAt := fun hn => Bool.eq_false_iff.mp hn haware
  refine wp_seq_lookup (fun hnone => ?_) fun window _ => wp_seq_modify ?_
  · rcases hwindow with rfl | ⟨m,s,b,hwin⟩
    · cases hnone
    · rw [hwin] at hnone
      cases admissionOnly <;> cases hnone
  have hunit : ∀ p', (w.assignParent p').unit = some { u with parent := some p' } := by
    intro p'
    simp only [World.assignParent,hu,Option.map_some]
  unfold appendAssistant
  cases finalizer with
  | none =>
    refine wp_seq_pure (commit_releases hdb (hunit _) (fun hc w' hw hdb' => ?_) (he hn fun h => by cases h))
    exact hq hn (fun h => by cases h) hc w' _ hw hdb' rfl
  | some result =>
    cases result with
    | none => exact hrefused hn rfl _ _ hdb (hunit _) rfl
    | some hmac =>
      refine wp_seq (wp_seq_pure (wp_seq_modify ?_))
      have hunit' : ∀ p' p'', ((w.assignParent p').assignParent p'').unit = some { u with parent := some p'' } := by
        intro p' p''
        simp only [World.assignParent,hu,Option.map_some]
      refine commit_releases hdb (hunit' _ _) (fun hc w' hw hdb' => ?_) (he hn fun h => by cases h)
      exact hq hn (fun h => by cases h) hc w' _ hw hdb' rfl

theorem not_naive (env : Environment) : ¬NaiveCompletion env none := nofun

/-- A running run has the window of its admitted route. -/
theorem RunFacts.window (h : RunFacts authority w run) (hs : run.parent.status = .running) :
    IsAdmissionWindow run.parent.sourceWindow := by
  have hphase := h.phase
  unfold PhaseOk at hphase
  cases hp : run.parent.runRecordPhase with
  | admission =>
    rw [hp] at hphase
    exact hphase.2.2.2.1
  | costFinalizedPendingProjection =>
    rw [hp] at hphase
    exact hphase.2.2.2.1
  | final =>
    rw [hp] at hphase
    exact absurd hs hphase.1
  | admissionOnly =>
    rw [hp] at hphase
    exact absurd (hs.symm.trans hphase.1) nofun

theorem cancelClaimBeforeDispatch_never_late (g : CommittedRagDispatchGrant) (outcome : Outcome) (h : Clean w)
    (hk : Kept authority w₀ w) : RefusedLateIff False (cancelClaimBeforeDispatch authority i env g outcome) w := by
  have he := not_late h rfl
  unfold RefusedLateIff cancelClaimBeforeDispatch
  refine wp_seq_get (wp_seq_getMemory (wp_seq_require (he _) fun _ => ?_))
  refine wp_seq (h.lockedRun hk (fun _ => he _) (fun _ => he _) ?_)
  intro p q a fl hdb hrun _ _ hfl
  have hlock := not_late (w := w) (Clean.lock (i := i) hdb hfl) rfl
  refine wp_seq_require (hlock _) fun hrunning => wp_seq_present (hlock _) fun _ _ => wp_seq_require (hlock _) fun _ => ?_
  have hs : p.status = .running := by
    simp only [Bool.and_eq_true,decide_eq_true_eq] at hrunning
    exact hrunning.1
  refine wp_seq_modify (wp_seq_modify ?_)
  refine finalizeFailedRun_ends_in hdb rfl (.inr (hrun.window hs)) (fun hn => absurd hn (not_naive env))
    (fun _ hf => by cases hf) (fun _ _ _ w' _ hu _ _ => ?_) fun _ _ _ w' hu => ?_
  · exact ⟨id,Clean.of_no_unit hu⟩
  · exact Refused.unacknowledged id (Clean.of_no_unit hu)

/-- The rows of a refused call are zeroed before its timestamp is looked at. -/
structure LatePreSend (w : World) (i : Nat) (env : Environment) (outcome : Outcome) (completedAt : Option Timestamp) :
    Prop where
  healthy : env.runtimeHealthy = true
  outcome : preSendOutcome outcome = true
  free : w.free i = true
  available : ∃ p q a, w.db = some ⟨p,[q,a]⟩ ∧ preSendAvailable p [q,a] = true
  naive : NaiveCompletion env completedAt

theorem finalizePreSendRefusal_refusal (outcome : Outcome) (completedAt : Option Timestamp) (h : Clean w)
    (hk : Kept authority w₀ w) : RefusedLateIff (LatePreSend w i env outcome completedAt)
      (finalizePreSendRefusal authority i env outcome completedAt) w := by
  unfold RefusedLateIff finalizePreSendRefusal runtimeHealthEffect
  refine wp_seq_check (fun hc => .early (not_late_of (·.healthy) hc) h rfl) fun hhealthy => ?_
  refine wp_seq_check (fun hc => .early (not_late_of (·.outcome) hc) h rfl) fun houtcome => ?_
  refine wp_seq (h.lockedRun hk ?_ (fun hc => .early (not_late_of (·.free) hc) h rfl) ?_)
  · intro hdb
    refine .early (fun hl => ?_) h rfl
    obtain ⟨p,q,a,hdb',_⟩ := hl.available
    cases hdb.symm.trans hdb'
  intro p q a fl hdb hrun _ hfree hfl
  have hread : (∃ p q a, w.db = some ⟨p,[q,a]⟩ ∧ preSendAvailable p [q,a] = true) → preSendAvailable p [q,a] = true := by
    rintro ⟨p',q',a',hdb',hc⟩
    cases hdb.symm.trans hdb'
    exact hc
  refine wp_seq_check (fun hc => .early (not_late_of (fun hl => hread hl.available) hc) (Clean.lock hdb hfl) rfl)
    fun havailable => wp_seq_modify ?_
  have hav := havailable
  simp only [preSendAvailable,Bool.and_eq_true,decide_eq_true_eq,List.all_eq_true] at hav
  refine finalizeFailedRun_ends_in hdb rfl (.inr (hrun.window hav.1.1)) (fun hn => ?_) (fun _ hf => by cases hf)
    (fun hn _ _ w' _ hu _ _ => ⟨fun hl => hn hl.naive,Clean.of_no_unit hu⟩) fun hn _ _ w' hu => ?_
  · refine .inr ⟨⟨hhealthy,houtcome,hfree,⟨p,q,a,hdb,havailable⟩,hn⟩,value_ne_unacknowledged _,?_⟩
    refine h.trace_of_pending hdb hdb rfl fun he => ?_
    have hrows : [makeTerminalZero q,makeTerminalZero a] = [q,a] := congrArg Run.rows he
    have hq : (makeTerminalZero q).dispatchState = q.dispatchState :=
      congrArg AgentRunCostComponent.dispatchState (List.cons.inj hrows).1
    cases hq.trans (hav.2 q List.mem_cons_self)
  · exact Refused.unacknowledged (fun hl => hn hl.naive) (Clean.of_no_unit hu)

/-- A recovery of a dead process that gives a naive timestamp. -/
structure LateRecovery (authority : LedgerAuthority) (w : World) (i : Nat) (env : Environment)
    (request : RecoveryAuthority) : Prop where
  free : w.free i = true
  available : ∃ p q a, w.db = some ⟨p,[q,a]⟩ ∧ p.status = .running ∧
    deadProcessRecovery authority p [q,a] request = true
  naive : NaiveCompletion env request.completedAt

theorem abandonRow_ne (h : isIncomplete [q,a] = true) : [abandonRow q,abandonRow a] ≠ [q,a] := by
  intro he
  have hfixed : ∀ r ∈ [q,a], isClosed r = true := by
    intro r hr
    have hsame : abandonRow r = r := by
      rcases List.mem_pair.mp hr with rfl | rfl
      · exact (List.cons.inj he).1
      · exact (List.cons.inj (List.cons.inj he).2).1
    rw [← hsame]
    exact isClosed_abandonRow r
  unfold isIncomplete at h
  rw [Bool.or_eq_true,Bool.and_eq_true] at h
  simp only [List.any_eq_true,decide_eq_true_eq] at h
  rcases h with ⟨r,hr,hd⟩ | ⟨_,r,hr,hd⟩
  · cases (isClosed_dispatching hd).symm.trans (hfixed r hr)
  · cases (isClosed_notAttempted hd).symm.trans (hfixed r hr)

theorem recoverIncompleteRun_refusal (request : RecoveryAuthority) (h : Clean w) (hk : Kept authority w₀ w) :
    RefusedLateIff (LateRecovery authority w i env request) (recoverIncompleteRun authority i env request) w := by
  unfold RefusedLateIff recoverIncompleteRun
  refine wp_seq (h.lockedRun hk ?_ (fun hc => .early (not_late_of (·.free) hc) h rfl) ?_)
  · intro hdb
    refine .early (fun hl => ?_) h rfl
    obtain ⟨p,q,a,hdb',_⟩ := hl.available
    cases hdb.symm.trans hdb'
  intro p q a fl hdb hrun _ hfree hfl
  have hlock := Clean.lock (i := i) hdb hfl
  have hread : LateRecovery authority w i env request → p.status = .running ∧
      deadProcessRecovery authority p [q,a] request = true := by
    rintro ⟨_,⟨p',q',a',hdb',hc⟩,_⟩
    cases hdb.symm.trans hdb'
    exact hc
  refine wp_seq_check (fun hc => .early (fun hl => of_decide_eq_false hc (hread hl).1) hlock rfl) fun hrunning => ?_
  have hwindow := hrun.window (of_decide_eq_true hrunning)
  refine (wp_ite _ _ _ _ _ _).mpr ⟨fun hpending => ?_,fun _ => ?_⟩
  · -- Nothing is assigned to the rows of a pending projection.
    have hnot : ¬LateRecovery authority w i env request := by
      intro hl
      have hd := (hread hl).2
      simp only [deadProcessRecovery,Bool.and_eq_true,decide_eq_true_eq] at hd
      cases hpending.symm.trans hd.1.1.1
    refine wp_seq_require (.early hnot hlock rfl) fun _ => wp_seq_require (.early hnot hlock rfl) fun _ => ?_
    refine wp_seq_require (.early hnot hlock rfl) fun _ => wp_seq_modify ?_
    refine finalizeFailedRun_ends_in hdb rfl (.inr hwindow) (fun _ => .early hnot (hlock.congr rfl rfl) rfl)
      (fun _ hf => by cases hf) (fun _ _ _ w' _ hu _ _ => ⟨hnot,Clean.of_no_unit hu⟩) fun _ _ _ w' hu => ?_
    exact Refused.unacknowledged hnot (Clean.of_no_unit hu)
  · refine wp_seq_check (fun hc => .early (not_late_of (fun hl => (hread hl).2) hc) hlock rfl) fun hdead => ?_
    refine wp_seq_modify (wp_seq_modify ?_)
    refine finalizeFailedRun_ends_in hdb rfl (.inl rfl) (fun hn => ?_) (fun _ hf => by cases hf)
      (fun hn _ _ w' _ hu _ _ => ⟨fun hl => hn hl.naive,Clean.of_no_unit hu⟩) fun hn _ _ w' hu => ?_
    · refine .inr ⟨⟨hfree,⟨p,q,a,hdb,of_decide_eq_true hrunning,hdead⟩,hn⟩,value_ne_unacknowledged _,?_⟩
      refine h.trace_of_pending hdb hdb rfl fun he => ?_
      simp only [deadProcessRecovery,Bool.and_eq_true] at hdead
      exact abandonRow_ne hdead.1.1.2 (congrArg Run.rows he)
    · exact Refused.unacknowledged (fun hl => hn hl.naive) (Clean.of_no_unit hu)

/-- What an owner that renames errors leaves of a refusal. -/
theorem terminalFailureOwner_refusal {late : Prop} {required : Bool} {body : LedgerM Unit} (h : Clean w)
    (hbarrier : late → (!required || env.safetyBarrier) = true) (hlock : late → env.projectionLock = true)
    (hbody : (!required || env.safetyBarrier) = true → env.projectionLock = true →
      wp body (fun _ w' => Clean w' ∧ w'.db ≠ w.db ∧ (late ↔ env.ownerExit = false)) (Refused late w) w) :
    RefusedLateIff late (terminalFailureOwner env required body) w := by
  unfold RefusedLateIff terminalFailureOwner
  refine (wp_tryCatch _ _ _ _ _).mpr (wp_mono (Q := fun _ w' => ¬late ∧ Clean w') (E := Refused late w) ?_
    (fun _ _ h' => h') ?_)
  · refine wp_seq_check (fun hc => .early (not_late_of hbarrier hc) h rfl) fun hb => ?_
    refine wp_seq_check (fun hc => .early (not_late_of hlock hc) h rfl) fun hl => ?_
    refine wp_seq (wp_mono (hbody hb hl) ?_ fun _ _ he => he)
    intro _ w' hb
    obtain ⟨hclean,hne,hlate⟩ := hb
    refine (wp_require _ _ _ _ _).mpr ⟨fun hexit => ⟨fun hl => ?_,hclean⟩,fun hexit => ?_⟩
    · cases hexit.symm.trans (hlate.mp hl)
    · exact .inr ⟨hlate.mpr hexit,nofun,trace_of_committed hne⟩
  · intro e w' he
    cases e with
    | persistence message => exact he
    | _ => exact he.renamed nofun nofun

theorem pendingProjectionRecoverySnapshot_clean (h : Clean w) :
    wp (pendingProjectionRecoverySnapshot authority i) (fun _ => Clean) (fun _ => Clean) w := by
  unfold pendingProjectionRecoverySnapshot
  have h' := h.expireAll i
  refine wp_seq_modify (wp_seq_peekRun fun _ => wp_seq_present h' fun _ _ => wp_seq_require h' fun _ => ?_)
  exact wp_seq_present h' fun _ _ => wp_seq_require h' fun _ => h'

/-- It supplies no timestamp, so none of its recoveries is refused late. -/
theorem recoverIncompleteShadowRuns_clean (h : Clean w) (hk : Kept authority w₀ w) :
    wp (recoverIncompleteShadowRuns authority i env) (fun _ => Clean) (fun _ => Clean) w := by
  unfold recoverIncompleteShadowRuns runtimeHealthEffect
  have h' := h.expireAll i
  have hk' := hk.expireAll i
  refine wp_seq_require h fun _ => wp_seq_modify (wp_seq_peekRun fun seen => ?_)
  refine (wp_ite _ _ _ _ _ _).mpr ⟨fun _ => ?_,fun _ => h'⟩
  refine terminalFailureOwner_wp h' (wp_seq ?_)
  refine wp_mono (wp_and (pendingProjectionRecoverySnapshot_clean h') (pendingProjectionRecoverySnapshot_keeps _ hk'))
    (fun snapshot w₁ h₁ => ?_) fun _ _ h₁ => h₁.1
  refine wp_mono (recoverIncompleteRun_refusal _ h₁.1 h₁.2) (fun _ _ hq => hq.2) fun _ _ he => ?_
  exact he.clean fun hl => not_naive env hl.naive

/-- What one round of the checking loop asks of a row. -/
def interComponentRowOk (m : Memory) (row : AgentRunCostComponent) : Bool :=
  if isPaid m row.component then paidReceiptAvailable m row.component && terminalCostRowUnchanged m row
  else isUnpaid row

theorem checkInterComponentRow_ok {m : Memory} {r : AgentRunCostComponent} {Q : Unit → World → Prop}
    {E : LedgerError → World → Prop} (he : interComponentRowOk m r = false → ∀ e, E e w)
    (hq : interComponentRowOk m r = true → Q () w) : wp (checkInterComponentRow m r) Q E w := by
  unfold interComponentRowOk at he hq
  unfold checkInterComponentRow
  refine (wp_ite _ _ _ _ _ _).mpr ⟨fun hp => ?_,fun hn => ?_⟩
  · rw [if_pos hp] at he hq
    refine wp_seq_check (fun hc => he (by rw [hc,Bool.false_and]) _) fun hreceipt => ?_
    rw [hreceipt,Bool.true_and] at he hq
    exact (wp_require _ _ _ _ _).mpr ⟨hq,fun hc => he hc _⟩
  · rw [if_neg hn] at he hq
    exact (wp_require _ _ _ _ _).mpr ⟨hq,fun hc => he hc _⟩

def interComponentChecks (authority : LedgerAuthority) (m : Memory) (p : AgentRun) (q a : AgentRunCostComponent) :
    Bool :=
  interComponentAvailable m p && pendingUnchanged authority m p [q,a] &&
  interComponentRowOk m q && interComponentRowOk m a

/-- The failure is assigned, and the assistant message or the exit of the owner refuses it. -/
structure LateInterComponent (authority : LedgerAuthority) (w : World) (i : Nat) (env : Environment)
    (outcome : Outcome) (finalizer : Option AssistantFinalizer) : Prop where
  healthy : env.runtimeHealthy = true
  failure : interComponentOutcome outcome = true
  admitted : (((w.memory i).admissionSnapshots .queryEmbedding).isSome &&
    ((w.memory i).admissionSnapshots .answerGeneration).isSome) = true
  barrier : (!(componentOrder.any (isPaid (w.memory i)) || outcome = .providerSafetyUnavailable) ||
    env.safetyBarrier) = true
  lock : env.projectionLock = true
  free : w.free i = true
  available : ∃ p q a, w.db = some ⟨p,[q,a]⟩ ∧ interComponentChecks authority (w.memory i) p q a = true
  refused : finalizer = some none ∨ LateExit env

theorem finalizeInterComponentFailure_refusal (outcome : Outcome) (finalizer : Option AssistantFinalizer)
    (h : Clean w) (hk : Kept authority w₀ w) : RefusedLateIff (LateInterComponent authority w i env outcome finalizer)
      (finalizeInterComponentFailure authority i env outcome finalizer) w := by
  unfold RefusedLateIff finalizeInterComponentFailure runtimeHealthEffect
  refine wp_seq_check (fun hc => .early (not_late_of (·.healthy) hc) h rfl) fun hhealthy => ?_
  refine wp_seq_check (fun hc => .early (not_late_of (·.failure) hc) h rfl) fun houtcome => wp_seq_getMemory ?_
  refine wp_seq_check (fun hc => .early (not_late_of (·.admitted) hc) h rfl) fun hadmitted => ?_
  refine terminalFailureOwner_refusal h (·.barrier) (·.lock) fun hbarrier hlock => ?_
  refine wp_seq (h.lockedRun hk ?_ (fun hc => .early (not_late_of (·.free) hc) h rfl) ?_)
  · intro hdb
    refine .early (fun hl => ?_) h rfl
    obtain ⟨p,q,a,hdb',_⟩ := hl.available
    cases hdb.symm.trans hdb'
  intro p q a fl hdb hrun _ hfree hfl
  have hclean := Clean.lock (i := i) hdb hfl
  have hread : LateInterComponent authority w i env outcome finalizer →
      interComponentChecks authority (w.memory i) p q a = true := by
    intro hl
    obtain ⟨p',q',a',hdb',hc⟩ := hl.available
    cases hdb.symm.trans hdb'
    exact hc
  have hfail : interComponentChecks authority (w.memory i) p q a = false →
      ∀ e, Refused (LateInterComponent authority w i env outcome finalizer) w e (w.lock i fl ⟨p,[q,a]⟩) :=
    fun hc _ => .early (not_late_of hread hc) hclean rfl
  refine wp_seq_check (fun hc => hfail (by simp [interComponentChecks,hc]) _) fun havailable => ?_
  refine wp_seq_check (fun hc => hfail (by simp [interComponentChecks,hc]) _) fun hpending => ?_
  refine wp_seq (wp_forM_pair (checkInterComponentRow_ok (fun hc => hfail (by simp [interComponentChecks,hc])) fun hq =>
    checkInterComponentRow_ok (fun hc => hfail (by simp [interComponentChecks,hc])) fun ha => ?_))
  have hlate : LateInterComponent authority w i env outcome finalizer ↔ finalizer = some none ∨ LateExit env := by
    refine ⟨(·.refused),fun hr => ⟨hhealthy,houtcome,hadmitted,hbarrier,hlock,hfree,⟨p,q,a,hdb,?_⟩,hr⟩⟩
    simp only [interComponentChecks,havailable,hpending,hq,ha,Bool.and_self]
  have hs : p.status = .running := by
    simp only [interComponentAvailable,Bool.and_eq_true,decide_eq_true_eq] at havailable
    exact havailable.1.1.1
  have hchanged : ∀ run' : Run, run'.parent.status = .failed → run' ≠ ⟨p,[q,a]⟩ := by
    rintro run' hf rfl
    cases hf.symm.trans hs
  refine wp_seq_modify (wp_seq_modify (wp_seq_modify ?_))
  refine finalizeFailedRun_ends_in hdb rfl (.inr (hrun.window hs)) (fun hn => absurd hn (not_naive env)) ?_ ?_ ?_
  · intro _ hf w' u' hdb' hu' hfailed
    exact .inr ⟨hlate.mpr (.inl hf),nofun,h.trace_of_pending hdb hdb' hu' (hchanged _ hfailed)⟩
  · intro _ hf hcommit w' run' hu' hdb' hfailed
    refine ⟨Clean.of_no_unit hu',fun he => ?_,hlate.trans ⟨fun hr => (hr.resolve_left hf).2,fun hx => .inr ⟨hcommit,hx⟩⟩⟩
    exact hchanged run' hfailed (Option.some.inj (hdb'.symm.trans (he.trans hdb)))
  · intro _ hf hcommit w' hu'
    exact Refused.unacknowledged (fun hl => hcommit ((hlate.mp hl).resolve_left hf).1) (Clean.of_no_unit hu')

end ParaWorks.Ledger
