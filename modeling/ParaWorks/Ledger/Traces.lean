import ParaWorks.Ledger.Recovery

/-!
# What a refused operation leaves behind

A session without a trace holds nothing that its next commit would change. The operations below keep
it so, whether they return or raise.
-/

namespace ParaWorks.Ledger

open Lib

variable {authority : LedgerAuthority} {w₀ w w' : World} {i : Nat} {env : Environment} {run : Run}
  {p : AgentRun} {q a : AgentRunCostComponent}

/-- The run as the open transaction has flushed it. -/
def World.flushedRun (w : World) : Option Run := w.db.map fun run => (w.unit.map (·.base run)).getD run

/-- The run as the identity map of the open session has it. -/
def World.pendingRun (w : World) : Option Run := w.db.map fun run => (w.unit.map (·.pending run)).getD run

/-- Neither the committed run nor its flushed or assigned values differ. -/
structure NoTrace (w w' : World) : Prop where
  committed : w'.db = w.db
  flushed : w'.flushedRun = w.flushedRun
  pending : w'.pendingRun = w.pendingRun

theorem durable_db (w : World) : w.durable.db = w.pendingRun := by
  obtain ⟨db,unit,memory,consumed,observations,grants,history⟩ := w
  cases db <;> cases unit <;> rfl

/-- What a later commit of the session persists is what it would have persisted before. -/
theorem NoTrace.durable_db (h : NoTrace w w') : w'.durable.db = w.durable.db := by
  rw [Ledger.durable_db,Ledger.durable_db,h.pending]

/-- An open transaction that holds the durable run as it is. -/
def UnitOfWork.Clean (u : UnitOfWork) (run : Run) : Prop := u.base run = run ∧ u.pending run = run

def Clean (w : World) : Prop := ∀ u, w.unit = some u → ∃ run, w.db = some run ∧ u.Clean run

theorem Clean.of_no_unit (h : w.unit = none) : Clean w := by
  intro u hu
  rw [h] at hu
  cases hu

theorem Clean.pendingRun (h : Clean w) : w.pendingRun = w.db := by
  unfold World.pendingRun
  cases hu : w.unit with
  | none => cases w.db <;> rfl
  | some u =>
    obtain ⟨run,hdb,_,hp⟩ := h u hu
    rw [hdb]
    exact congrArg some hp

theorem Clean.flushedRun (h : Clean w) : w.flushedRun = w.db := by
  unfold World.flushedRun
  cases hu : w.unit with
  | none => cases w.db <;> rfl
  | some u =>
    obtain ⟨run,hdb,hb,_⟩ := h u hu
    rw [hdb]
    exact congrArg some hb

/-- A clean session has nothing to write. -/
theorem Clean.not_dirty (h : Clean w) (i : Nat) :
    (w.db.any fun run => w.unit.any fun u => u.session = i && u.dirty run) = false := by
  cases hu : w.unit with
  | none => cases w.db <;> rfl
  | some u =>
    obtain ⟨run,hdb,hb,hp⟩ := h u hu
    simp [hdb,UnitOfWork.dirty,hb,hp]

theorem Clean.noTrace (h : Clean w) (h' : Clean w') (hdb : w'.db = w.db) : NoTrace w w' :=
  ⟨hdb,by rw [h.flushedRun,h'.flushedRun,hdb],by rw [h.pendingRun,h'.pendingRun,hdb]⟩

/-- A value assigned over the durable run is a trace. -/
theorem Clean.trace_of_pending {u : UnitOfWork} (h : Clean w) (hdb : w.db = some run) (hdb' : w'.db = some run)
    (hu : w'.unit = some u) (hne : u.pending run ≠ run) : ¬NoTrace w w' := by
  intro ht
  have hp := ht.pending
  rw [h.pendingRun,hdb,World.pendingRun,hdb',hu] at hp
  exact hne (Option.some.inj hp)

theorem trace_of_committed (h : w'.db ≠ w.db) : ¬NoTrace w w' := fun ht => h ht.committed

/-! ## Refusals -/

theorem ledger_ne_unacknowledged (message : String) : LedgerError.ledger message ≠ commitUnacknowledged := nofun

theorem value_ne_unacknowledged (message : String) : LedgerError.value message ≠ commitUnacknowledged := nofun

/-- How an operation that raises may end: without a trace, but for an unacknowledged commit, or `late`,
after it had assigned to the run. -/
def Refused (late : Prop) (w : World) (e : LedgerError) (w' : World) : Prop :=
  (¬late ∧ Clean w' ∧ (e = commitUnacknowledged ∨ w'.db = w.db)) ∨ (late ∧ e ≠ commitUnacknowledged ∧ ¬NoTrace w w')

/-- The specification of an operation that is refused late exactly when `late` holds. -/
def RefusedLateIff {α : Type} (late : Prop) (m : LedgerM α) (w : World) : Prop :=
  wp m (fun _ w' => ¬late ∧ Clean w') (Refused late w) w

variable {α : Type} {late : Prop} {m : LedgerM α} {e : LedgerError}

theorem Refused.early (hl : ¬late) (h : Clean w') (hdb : w'.db = w.db) : Refused late w e w' :=
  .inl ⟨hl,h,.inr hdb⟩

theorem Refused.unacknowledged (hl : ¬late) (h : Clean w') : Refused late w commitUnacknowledged w' :=
  .inl ⟨hl,h,.inl rfl⟩

theorem Refused.clean (h : Refused late w e w') (hl : ¬late) : Clean w' := by
  rcases h with ⟨_,hc,_⟩ | ⟨hlate,_⟩
  · exact hc
  · exact absurd hlate hl

/-- Neither error says that a commit was not acknowledged. -/
theorem Refused.renamed {e' : LedgerError} (h : Refused late w e w') (he : e ≠ commitUnacknowledged)
    (he' : e' ≠ commitUnacknowledged) : Refused late w e' w' := by
  rcases h with ⟨hl,hc,hdb⟩ | ⟨hl,_,htrace⟩
  · exact .inl ⟨hl,hc,.inr (hdb.resolve_left he)⟩
  · exact .inr ⟨hl,he',htrace⟩

theorem RefusedLateIff.clean (h : RefusedLateIff late m w) (hl : ¬late) : Clean (finalState m w) :=
  wp_finalState (wp_mono h (fun _ _ hq => hq.2) fun _ _ he => he.clean hl)

theorem RefusedLateIff.noTrace_iff (h : RefusedLateIff late m w) (hw : Clean w) :
    (∀ e w', m w = .error e w' → e ≠ commitUnacknowledged → NoTrace w w') ↔ ¬late := by
  refine ⟨fun ht hl => ?_,fun hl e w' hm hne => ?_⟩
  · cases hm : m w with
    | ok _ w' => exact (wp_ok h hm).1 hl
    | error e w' =>
      rcases wp_error h hm with ⟨hn,_⟩ | ⟨_,hne,htrace⟩
      · exact hn hl
      · exact htrace (ht e w' hm hne)
  · rcases wp_error h hm with ⟨_,hc,he | hdb⟩ | ⟨hlate,_⟩
    · exact absurd he hne
    · exact hw.noTrace hc hdb
    · exact absurd hlate hl

/-- A check before anything is assigned is not late. -/
theorem RefusedLateIff.check {β : Type} {c : Bool} {k : Unit → LedgerM β} (hw : Clean w)
    (h : c = true → RefusedLateIff late (k ()) w) : RefusedLateIff (c = true ∧ late) (require c e >>= k) w := by
  refine wp_seq_check (fun hc => .early (fun hl => ?_) hw rfl) fun hc => ?_
  · cases hl.1.symm.trans hc
  · have hk : wp (k ()) (fun _ w' => ¬late ∧ Clean w') (Refused late w) w := h hc
    simpa only [hc,true_and] using hk

/-! ## Locking a clean run -/

/-- No other session holds the run. -/
def World.free (w : World) (i : Nat) : Bool := w.unit.all fun u => u.session = i

/-- Session `i` has just read the durable run. -/
def World.lock (w : World) (i : Nat) (fl : Option Run) (run : Run) : World :=
  { w with unit := some ⟨i,fl,some run.parent,some run.rows⟩ }

theorem Clean.lock {fl : Option Run} (hdb : w.db = some run) (hfl : fl.getD run = run) :
    Clean (w.lock i fl run) := by
  intro u hu
  cases hu
  exact ⟨run,hdb,hfl,rfl⟩

theorem Clean.selectForUpdate {Q : Option (AgentRun × List AgentRunCostComponent) → World → Prop}
    {E : LedgerError → World → Prop} (h : Clean w) (hk : Kept authority w₀ w) (hnone : w.db = none → Q none w)
    (hheld : w.free i = false → E .lockTimeout w)
    (hsome : ∀ p q a fl, w.db = some ⟨p,[q,a]⟩ → RunFacts authority w ⟨p,[q,a]⟩ → RowsFacts w q a →
      w.free i = true → fl.getD ⟨p,[q,a]⟩ = ⟨p,[q,a]⟩ → Q (some (p,[q,a])) (w.lock i fl ⟨p,[q,a]⟩)) :
    wp (selectForUpdate i) Q E w := by
  unfold Ledger.selectForUpdate
  refine wp_seq_get ?_
  obtain ⟨db,unit,memory,consumed,observations,grants,history⟩ := w
  cases db with
  | none => exact hnone rfl
  | some run =>
    have hrun := hk.core.run run rfl
    obtain ⟨q,a,hrows,hfacts,_⟩ := hrun.rows
    obtain ⟨p,rows⟩ := run
    dsimp only at hrows
    subst hrows
    cases unit with
    | none =>
      refine wp_seq_check (fun hn => absurd rfl (of_decide_eq_false hn)) fun _ => ?_
      exact hsome p q a none rfl hrun hfacts rfl rfl
    | some u =>
      obtain ⟨run,hdb,hb,hp⟩ := h u rfl
      cases hdb
      refine wp_seq_check (fun hn => hheld hn) fun hs => ?_
      have hq := hsome p q a u.flushed rfl hrun hfacts hs hb
      have hi : u.session = i := of_decide_eq_true hs
      simp only [Option.getD_some,hp,hb]
      rw [hi]
      exact hq

theorem Clean.lockedRun {Q : AgentRun × List AgentRunCostComponent → World → Prop}
    {E : LedgerError → World → Prop} (h : Clean w) (hk : Kept authority w₀ w)
    (hnone : w.db = none → E (.ledger "exact-two RAG run is unavailable") w)
    (hheld : w.free i = false → E .lockTimeout w)
    (hsome : ∀ p q a fl, w.db = some ⟨p,[q,a]⟩ → RunFacts authority w ⟨p,[q,a]⟩ → RowsFacts w q a →
      w.free i = true → fl.getD ⟨p,[q,a]⟩ = ⟨p,[q,a]⟩ → Q (p,[q,a]) (w.lock i fl ⟨p,[q,a]⟩)) :
    wp (lockedRun i) Q E w := by
  unfold Ledger.lockedRun
  refine wp_seq (h.selectForUpdate hk (fun hn => hnone hn) hheld ?_)
  intro p q a fl hdb hrun hrows hfree hfl
  refine wp_seq (wp_seq_pure ?_)
  refine wp_seq_check (fun hn => absurd hrows.componentOrder (of_decide_eq_false hn)) fun _ => ?_
  exact hsome p q a fl hdb hrun hrows hfree hfl

theorem free_congr (h : w'.unit = w.unit) (i : Nat) : w'.free i = w.free i := by
  unfold World.free
  rw [h]

theorem free_expireAll (w : World) (i : Nat) : (w.expireAll i).free i = w.free i := by
  unfold World.free World.expireAll
  cases hu : w.unit with
  | none => rfl
  | some u => by_cases hi : u.session = i <;> simp [hi]

theorem Clean.wp_seq_peekRun {β : Type} {k : Option Run → LedgerM β} {Q : β → World → Prop}
    {E : LedgerError → World → Prop} (h : Clean w) (hk : wp (k w.db) Q E w) : wp (peekRun i >>= k) Q E w := by
  have hdb : (w.db.map fun run => ((w.unit.filter fun u => u.session = i).map fun u => u.pending run).getD run) = w.db := by
    cases hu : w.unit.filter fun u => u.session = i with
    | none => cases w.db <;> rfl
    | some u =>
      obtain ⟨run,hdb,_,hp⟩ := h u (Option.filter_eq_some_iff.mp hu).1
      rw [hdb]
      exact congrArg some hp
  refine wp_seq (wp_seq_get ?_)
  change wp (k (w.db.map fun run => ((w.unit.filter fun u => u.session = i).map fun u => u.pending run).getD run)) Q E w
  rwa [hdb]

/-- A commit releases the session, whatever becomes of it. -/
theorem commit_releases {Q : Unit → World → Prop} {E : LedgerError → World → Prop} {u : UnitOfWork}
    (hdb : w.db = some run) (hu : w.unit = some u)
    (hq : env.commit = .acknowledged → ∀ w', w'.unit = none → w'.db = some (u.pending run) → Q () w')
    (he : env.commit ≠ .acknowledged → ∀ w', w'.unit = none → E commitUnacknowledged w') :
    wp (commit env) Q E w := by
  have hunit : w.durable.unit = none := by simp only [World.durable,hdb,hu]
  unfold commit
  cases hc : env.commit with
  | acknowledged => exact hq hc w.durable hunit (by simp only [World.durable,hdb,hu])
  | unacknowledged => exact he (by simp [hc]) w.durable hunit
  | failed => exact he (by simp [hc]) _ rfl

theorem Clean.congr (h : Clean w) (hu : w'.unit = w.unit) (hdb : w'.db = w.db) : Clean w' := by
  intro u hu'
  rw [hdb]
  exact h u (hu ▸ hu')

theorem Clean.rollback (h : Clean w) (i : Nat) : Clean (w.rollback i) :=
  fun u hu => h u (Option.filter_eq_some_iff.mp hu).1

theorem Clean.expireAll (h : Clean w) (i : Nat) : Clean (w.expireAll i) := by
  intro u hu
  obtain ⟨v,hv,rfl⟩ := Option.map_eq_some_iff.mp hu
  obtain ⟨run,hdb,hb,hp⟩ := h v hv
  refine ⟨run,hdb,?_⟩
  split
  · exact ⟨hb,hb⟩
  · exact ⟨hb,hp⟩

/-! ## Operations that assign nothing -/

theorem createAdmission_clean (request : AdmissionRequest) (h : Clean w) :
    wp (createAdmission authority i env request) (fun _ => Clean) (fun _ => Clean) w := by
  unfold createAdmission runtimeHealthEffect
  refine wp_seq_require h fun _ => wp_seq_present h fun _ _ => wp_seq_require h fun _ => ?_
  refine wp_seq_present h fun _ _ => wp_seq_present h fun _ _ => wp_seq_present h fun _ _ => ?_
  refine wp_seq (admitComponent_wp (fun _ => h) fun _ _ => ?_)
  refine wp_seq (admitComponent_wp (fun _ => h) fun _ _ => ?_)
  refine wp_seq_require h fun _ => wp_seq_require h fun _ => wp_seq_require h fun _ => ?_
  unfold insertRun
  refine wp_seq (wp_seq_get ?_)
  cases hdb : w.db with
  | some run => exact wp_seq_modify (h.rollback i)
  | none =>
    have hunit : w.unit = none := by
      cases hu : w.unit with
      | none => rfl
      | some u =>
        obtain ⟨run,hdb',_⟩ := h u hu
        rw [hdb] at hdb'
        cases hdb'
    cases env.commit with
    | acknowledged => exact Clean.of_no_unit hunit
    | unacknowledged => exact Clean.of_no_unit hunit
    | failed => exact wp_seq_modify (h.rollback i)

theorem loadPendingProjection_clean (h : Clean w) (hk : Kept authority w₀ w) :
    wp (loadPendingProjection authority i env) (fun _ => Clean) (fun _ => Clean) w := by
  unfold loadPendingProjection runtimeHealthEffect
  refine wp_seq_require h fun _ => ?_
  refine wp_seq_getMemory (wp_seq_present h fun _ _ => ?_)
  refine wp_seq (h.lockedRun hk (fun _ => h) (fun _ => h) ?_)
  intro p q a fl hdb _ _ _ hfl
  exact wp_seq_require (Clean.lock hdb hfl) fun _ => Clean.lock hdb hfl

theorem consumeCommittedGrant_clean (g : CommittedRagDispatchGrant) (h : Clean w) :
    wp (consumeCommittedGrant i env g) (fun _ => Clean) (fun _ => Clean) w := by
  unfold consumeCommittedGrant consumeAtDispatch runtimeHealthEffect
  refine wp_seq_require h fun _ => wp_seq_getMemory (wp_seq_require h fun _ => wp_seq_get ?_)
  exact wp_seq_require h fun _ => wp_seq_require h fun _ => h.congr rfl rfl

theorem consumeTransportGrant_clean (g : CommittedRagDispatchGrant) (h : Clean w) (hk : Kept authority w₀ w) :
    wp (consumeTransportGrant i env g) (fun _ => Clean) (fun _ => Clean) w := by
  unfold consumeTransportGrant runtimeHealthEffect
  refine wp_seq_require h fun _ => wp_seq_require h fun _ => wp_seq_modify ?_
  have h' := h.expireAll i
  refine wp_seq (h'.selectForUpdate (hk.expireAll i) (fun _ => wp_seq_present h' fun _ he => nomatch he) (fun _ => h') ?_)
  intro p q a fl hdb _ _ _ hfl
  have hlock := Clean.lock (i := i) hdb hfl
  refine wp_seq_present hlock fun _ he => ?_
  cases he
  exact wp_seq_require hlock fun _ => consumeCommittedGrant_clean g hlock

theorem deferAnswerEvidenceRefusal_clean (g : CommittedRagDispatchGrant) (h : Clean w) :
    wp (deferAnswerEvidenceRefusal i g) (fun _ => Clean) (fun _ => Clean) w := by
  unfold deferAnswerEvidenceRefusal
  exact wp_seq_get (wp_seq_getMemory (wp_seq_require h fun _ => h.congr rfl rfl))

/-- The body assigns only what it commits at once. -/
theorem finalizeShadowRunLocked_clean (outcome : Outcome) (comparison : Option ShadowComparison) (h : Clean w)
    (hk : Kept authority w₀ w) :
    wp (finalizeShadowRunLocked authority i env outcome comparison) (fun _ => Clean) (fun _ => Clean) w := by
  unfold finalizeShadowRunLocked
  refine wp_seq (h.lockedRun hk (fun _ => h) (fun _ => h) ?_)
  intro p q a fl hdb _ _ _ hfl
  have hlock := Clean.lock (i := i) hdb hfl
  refine wp_seq_present hlock fun _ _ => wp_seq_present hlock fun _ _ => wp_seq_getMemory ?_
  refine wp_seq_require hlock fun _ => wp_seq_require hlock fun _ => wp_seq_present hlock fun _ _ => ?_
  refine wp_seq_present hlock fun _ _ => wp_seq_require hlock fun _ => wp_seq_modify ?_
  refine wp_seq (commit_releases hdb rfl (fun _ w' hu _ => ?_) fun _ w' hu => Clean.of_no_unit hu)
  exact Clean.of_no_unit hu

theorem finalizeShadowRun_clean (request : ShadowRequest) (h : Clean w) (hk : Kept authority w₀ w) :
    wp (finalizeShadowRun authority i env request) (fun _ => Clean) (fun _ => Clean) w := by
  unfold finalizeShadowRun runtimeHealthEffect
  refine wp_seq_require h fun _ => wp_seq_require h fun _ => ?_
  refine (wp_tryCatch _ _ _ _ _).mpr (wp_mono (safePendingOwner_wp h ?_) (fun _ _ h' => h') ?_)
  · refine wp_seq (ShadowRequest.resolve_wp (fun _ => h) fun r => ?_)
    exact finalizeShadowRunLocked_clean r.1 r.2 h hk
  · exact fun e w' h' => wp_seq_modify (h'.rollback i)

/-! ## Operations that are never refused late -/

theorem not_late {w w' : World} (h : Clean w') (hdb : w'.db = w.db) (e : LedgerError) : Refused False w e w' :=
  Refused.early id h hdb

theorem commit_never_late {Q : Unit → World → Prop} {u : UnitOfWork} (hdb : w'.db = some run) (hu : w'.unit = some u)
    (hq : ∀ w'', Clean w'' → Q () w'') : wp (commit env) Q (Refused False w) w' :=
  commit_releases hdb hu (fun _ _ hn _ => hq _ (Clean.of_no_unit hn))
    fun _ _ hn => Refused.unacknowledged id (Clean.of_no_unit hn)

theorem bindAnswerBudget_never_late (prepared : PreparedPaidCallBudget) (projection : Option AnswerProjection)
    (h : Clean w) (hk : Kept authority w₀ w) :
    RefusedLateIff False (bindAnswerBudget authority i env prepared projection) w := by
  have he := not_late h rfl
  unfold RefusedLateIff bindAnswerBudget runtimeHealthEffect validatePreparedBudget
  refine wp_seq_require (he _) fun _ => wp_seq_require (he _) fun _ => wp_seq_require (he _) fun _ => ?_
  refine wp_seq_getMemory (wp_seq_present (he _) fun _ _ => wp_seq_require (he _) fun _ => ?_)
  refine wp_seq (h.lockedRun hk (fun _ => he _) (fun _ => he _) ?_)
  intro p q a fl hdb _ _ _ hfl
  have hlock := not_late (w := w) (Clean.lock (i := i) hdb hfl) rfl
  refine wp_seq_require (hlock _) fun _ => wp_seq_require (hlock _) fun _ => ?_
  refine wp_seq_present (hlock _) fun _ _ => wp_seq_present (hlock _) fun _ _ => ?_
  refine wp_seq_require (hlock _) fun _ => wp_seq_require (hlock _) fun _ => ?_
  refine wp_seq_modify (wp_seq_modify (wp_seq_modify (wp_seq_modify ?_)))
  exact wp_seq (commit_never_late hdb rfl fun w' h' => ⟨id,h'.congr rfl rfl⟩)

theorem requireReady_never_late {Q : RagProviderSafetyBinding → World → Prop} (h : Clean w') (hdb : w'.db = w.db)
    (hq : ∀ binding, Q binding w') : wp (requireReady i env) Q (Refused False w) w' := by
  have he := not_late (w := w) h hdb
  unfold requireReady releasePreclaim
  cases env.readiness with
  | ready binding => exact hq binding
  | inspectionFailed => exact he _
  | refused => exact wp_seq_get (wp_seq_require (he _) fun _ => wp_seq_modify (not_late (h.rollback i) hdb _))
  | unavailable => exact he _

theorem claimComponent_never_late (component : RagPaidComponent) (prepared : PreparedPaidCallBudget) (h : Clean w)
    (hk : Kept authority w₀ w) :
    RefusedLateIff False (claimComponent authority i env component prepared) w := by
  have he := not_late h rfl
  unfold RefusedLateIff claimComponent runtimeHealthEffect validatePreparedBudget
  refine wp_seq_require (he _) fun _ => wp_seq_require (he _) fun _ => ?_
  refine wp_seq_getMemory (wp_seq_require (he _) fun _ => ?_)
  refine wp_seq (h.selectForUpdate hk (fun _ => wp_seq_present (he _) fun _ hs => nomatch hs) (fun _ => he _) ?_)
  intro p q a fl hdb _ _ _ hfl
  have hclean := Clean.lock (i := i) hdb hfl
  have hlock := not_late (w := w) hclean rfl
  refine wp_seq_present (hlock _) fun _ hs => ?_
  cases hs
  refine wp_seq_require (hlock _) fun _ => wp_seq_require (hlock _) fun _ => wp_seq_require (hlock _) fun _ => ?_
  refine wp_seq_present (hlock _) fun _ _ => wp_seq_require (hlock _) fun _ => wp_seq_require (hlock _) fun _ => ?_
  refine wp_seq (requireReady_never_late hclean rfl fun binding => ?_)
  refine wp_seq_modify (wp_seq_modify ?_)
  refine wp_seq (commit_never_late hdb rfl fun w' h' => ?_)
  exact wp_seq_get (wp_seq_set (wp_seq_modify ⟨id,h'.congr rfl rfl⟩))

theorem finalizeProjectionlessFailure_never_late (outcome : Outcome) (completedAt : Option Timestamp) (h : Clean w)
    (hk : Kept authority w₀ w) :
    RefusedLateIff False (finalizeProjectionlessFailure authority i env outcome completedAt) w := by
  have he := not_late h rfl
  unfold RefusedLateIff finalizeProjectionlessFailure runtimeHealthEffect
  refine wp_seq_require (he _) fun _ => wp_seq_require (he _) fun _ => ?_
  refine wp_seq (h.selectForUpdate hk (fun _ => wp_seq_present (he _) fun _ hs => nomatch hs) (fun _ => he _) ?_)
  intro p q a fl hdb _ _ _ hfl
  have hlock := not_late (w := w) (Clean.lock (i := i) hdb hfl) rfl
  refine wp_seq_present (hlock _) fun _ hs => ?_
  cases hs
  refine wp_seq_require (hlock _) fun _ => wp_seq_require (hlock _) fun _ => wp_seq_modify (wp_seq_modify ?_)
  exact commit_never_late hdb rfl fun w' h' => ⟨id,h'⟩

end ParaWorks.Ledger
