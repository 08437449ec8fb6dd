import ParaWorks.Ledger.Dispatch

/-!
# The spending cap

What the policy issues fits the cap, reservations only fall, and what is charged stays within what was
reserved unless an overrun was blocked first.
-/

namespace ParaWorks.Ledger

open Lib

/-! ## A consumed grant stays paid for

Six operations zero rows. None of them can meet a row whose grant was consumed: the invariant keeps
such a row attempted, and only a finalization with the same grant may change what it charges. -/

section billing

variable {authority : LedgerAuthority} {w w' : World} {run : Run} {g : CommittedRagDispatchGrant}

/-- The charge is what the policy asks for usage that a finalization with this grant supplied. -/
def ChargesUsage (history : List Event) (g : CommittedRagDispatchGrant) (r : AgentRunCostComponent) : Prop :=
  ∃ usage cost, Event.observed g (some usage) ∈ history ∧
    RagCostPolicy.chargeActual g.component usage = .ok cost ∧ r.chargedCostUsd = cost

/-- The row of `g` in the later state `w'`, given what it was in `w`. -/
structure Billed (w w' : World) (g : CommittedRagDispatchGrant) : Prop where
  row : ∃ run' r', w'.db = some run' ∧ r' ∈ run'.rows ∧ r'.component = g.component
  charged : ∀ run' r', w'.db = some run' → r' ∈ run'.rows → r'.component = g.component →
    r'.attempted = true ∧ r'.dispatchCount = 1 ∧
    (r'.chargedCostUsd = r'.reservedCostUsd ∨ ChargesUsage w'.history g r')
  unchanged : ∀ run r run' r', w.db = some run → r ∈ run.rows → r.component = g.component →
    w'.db = some run' → r' ∈ run'.rows → r'.component = g.component →
    r'.chargedCostUsd = r.chargedCostUsd ∨ ChargesUsage w'.history g r'

theorem Kept.paid {w₀ : World} (h : Kept authority w₀ w) (hg : w.Live g) {r : AgentRunCostComponent}
    (hdb : w.db = some run) (hr : r ∈ run.rows) (hc : r.component = g.component) : Paid w.history g r := by
  obtain ⟨q,a,he,hf,_⟩ := (h.core.run run hdb).rows
  rw [he] at hr
  exact (hf.mem hr).paid g hg hc.symm

theorem Kept.row_of_live {w₀ : World} (h : Kept authority w₀ w) (hg : w.Live g) :
    ∃ run r, w.db = some run ∧ r ∈ run.rows ∧ r.component = g.component := by
  obtain ⟨run,hdb,_⟩ := h.issued_left (h.core.live_issued hg)
  obtain ⟨q,a,he,hf,_⟩ := (h.core.run run hdb).rows
  cases hc : g.component with
  | queryEmbedding => exact ⟨run,q,hdb,he ▸ List.mem_cons_self,hf.query⟩
  | answerGeneration => exact ⟨run,a,hdb,he ▸ List.mem_cons_of_mem q List.mem_cons_self,hf.answer⟩

/-- An attempted row that is not closed still charges its reservation. -/
theorem Kept.charged_of_open {w₀ : World} (h : Kept authority w₀ w) {r : AgentRunCostComponent}
    (hdb : w.db = some run) (hr : r ∈ run.rows) (ha : r.attempted = true) (ho : isClosed r = false) :
    r.chargedCostUsd = r.reservedCostUsd := by
  obtain ⟨q,a,he,hf,_⟩ := (h.core.run run hdb).rows
  rw [he] at hr
  obtain ⟨s,hs⟩ := (hf.mem hr).shape
  cases s with
  | notAttempted =>
    rw [hs.2.1] at ha
    cases ha
  | dispatching => exact hs.2.2.2.2.2.1
  | terminalZero =>
    rw [hs.2.1] at ha
    cases ha
  | terminalCharged =>
    rw [isClosed_terminal hs.1] at ho
    cases ho
  | abandonedUnknown => exact hs.2.2.2.2.2.1

theorem Reachable.billed (h : Reachable authority w) (hg : g ∈ w.consumed) (h' : Reachable authority w')
    (he : Evolves w w') : Billed w w' g := by
  have hlive : w'.Live g := .inl (he.consumed g hg)
  refine ⟨h'.kept.row_of_live hlive,?_,?_⟩
  · intro run' r' hdb' hr' hc'
    obtain ⟨ha,hn,_,hres,hq⟩ := h'.kept.paid hlive hdb' hr' hc'
    exact ⟨ha,hn,hq.imp (fun hq => hq.trans hres.symm) id⟩
  · intro run r run' r' hdb hr hc hdb' hr' hc'
    obtain ⟨ha,_,_,hres,_⟩ := h.kept.paid (.inl hg) hdb hr hc
    obtain ⟨_,_,_,_,hq'⟩ := h'.kept.paid hlive hdb' hr' hc'
    obtain ⟨run'',hdb'',hle⟩ := he.run run hdb
    rw [hdb'] at hdb''
    cases hdb''
    obtain ⟨r₀,hr₀,hle₀⟩ := hle.exists_before hr'
    obtain ⟨q,a,hrows,hf,_⟩ := (h.kept.core.run run hdb).rows
    have hr₀r : r₀ = r := by
      rw [hrows] at hr hr₀
      exact hf.eq_of_component hr₀ hr ((hle₀.component.symm.trans hc').trans hc.symm)
    subst hr₀r
    cases hclosed : isClosed r₀ with
    | true =>
      left
      rw [hle₀.closed hclosed]
    | false =>
      rcases hq' with hq' | hq'
      · left
        rw [hq',h.kept.charged_of_open hdb hr ha hclosed,hres]
      · exact .inr hq'

/-- A finalization needs the grant its ledger holds, and a successful one gives it up. -/
theorem finalizeComponent_fails {i : Nat} {env : Environment} {o : ClassifiedProviderObservation}
    (h : Inactive w g) :
    wp (finalizeComponent authority i env g o) (fun _ _ => False) (fun _ _ => True) w := by
  unfold finalizeComponent runtimeHealthEffect
  refine wp_seq_require trivial fun _ => ?_
  refine wp_seq_require trivial fun _ => ?_
  refine wp_seq_get (wp_seq_require trivial fun _ => wp_seq_set (wp_seq_getMemory ?_))
  refine wp_seq_require trivial fun hc => ?_
  exact absurd (of_decide_eq_true hc) (h i)

theorem Reachable.finalized_once (h : Reachable authority w) {i i' : Nat} {env env' : Environment}
    {o o' : ClassifiedProviderObservation} (hs : Succeeds authority w i env (.finalizeComponent g o))
    (later : List Command) :
    ¬Succeeds authority (afterCall authority w i env (.finalizeComponent g o) later) i' env' (.finalizeComponent g o') := by
  have hactive := (Retires.finalize (g := g) o).active hs nofun
  have hissued := h.kept.core.memory.active_issued hactive
  rcases h.retired hissued (.finalize o) hs later with hi | ⟨hne,_⟩
  · exact Lib.not_succeeds (finalizeComponent_fails hi)
  · obtain ⟨_,_,hl⟩ := h.kept.core.memory.active i _ g hactive
    exact absurd hl.symm hne

/-- No paid call goes unbilled, and at most one finalization with its grant takes effect. -/
theorem consumed_grant_stays_billed (authority : LedgerAuthority) (processHmac : Nat → Hmac)
    (commands later : List Command) (g : CommittedRagDispatchGrant)
    (hg : g ∈ (Lib.run (step authority) (World.initial processHmac) commands).consumed) :
    Billed (Lib.run (step authority) (World.initial processHmac) commands)
      (Lib.run (step authority) (World.initial processHmac) (commands++later)) g ∧
    ∀ before i i' env env' o o' later', Succeeds authority
      (Lib.run (step authority) (World.initial processHmac) before) i env (.finalizeComponent g o) →
      ¬Succeeds authority (afterCall authority (Lib.run (step authority) (World.initial processHmac) before) i env
        (.finalizeComponent g o) later') i' env' (.finalizeComponent g o') := by
  have h : Reachable authority (Lib.run (step authority) (World.initial processHmac) commands) :=
    ⟨processHmac,commands,rfl⟩
  refine ⟨?_,fun before i i' env env' o o' later' hs => ?_⟩
  · rw [Lib.run_append]
    exact h.billed hg (h.after later) (h.evolves later)
  · exact Reachable.finalized_once ⟨processHmac,before,rfl⟩ hs later'

def sampleSend : Command := .call 0 sampleEnvironment (.consumeTransportGrant sampleGrant)

theorem consumed_grant_stays_billed_sample : Billed
    (Lib.run (step sampleAuthority) sampleInitial (sampleAdmission::sampleClaim++[sampleSend]))
    (Lib.run (step sampleAuthority) sampleInitial ((sampleAdmission::sampleClaim++[sampleSend])++
      [.call 1 sampleEnvironment (.recoverIncompleteRun sampleRecovery)])) sampleGrant :=
  (consumed_grant_stays_billed sampleAuthority (fun _ => sampleDigest) (sampleAdmission::sampleClaim++[sampleSend])
    [.call 1 sampleEnvironment (.recoverIncompleteRun sampleRecovery)] sampleGrant (List.mem_singleton.mpr rfl)).1

end billing

variable {authority : LedgerAuthority} {w₀ w w' : World} {i : Nat} {env : Environment} {run : Run}

/-! ## The admitted rows -/

/-- Whatever a call of `create_admission` makes durable has the rows of its request. -/
def AdmitsRows (request : AdmissionRequest) (w : World) : Prop :=
  ∀ run, w.db = some run → run.rows = request.rows ∧
    request.query.2.component = .queryEmbedding ∧ request.answer.2.component = .answerGeneration

theorem createAdmission_rows (request : AdmissionRequest) (hdb : w.db = none) :
    wp (createAdmission authority i env request) (fun _ => AdmitsRows request) (fun _ => AdmitsRows request) w := by
  have hnone : AdmitsRows request w := by
    intro run hr
    rw [hdb] at hr
    cases hr
  unfold createAdmission runtimeHealthEffect
  refine wp_seq_require hnone fun _ => ?_
  refine wp_seq_present hnone fun _ _ => ?_
  refine wp_seq_require hnone fun _ => ?_
  refine wp_seq_present hnone fun current _ => ?_
  refine wp_seq_present hnone fun query _ => ?_
  refine wp_seq_present hnone fun scope _ => ?_
  refine wp_seq (admitComponent_wp (fun _ => hnone) fun hq _ => ?_)
  refine wp_seq (admitComponent_wp (fun _ => hnone) fun ha _ => ?_)
  refine wp_seq_require hnone fun _ => ?_
  refine wp_seq_require hnone fun _ => ?_
  refine wp_seq_require hnone fun _ => ?_
  have hsome : ∀ run, some (Run.mk (request.parent authority current query scope
      (request.identity authority current query scope)) request.rows) = some run →
      run.rows = request.rows ∧ request.query.2.component = .queryEmbedding ∧
      request.answer.2.component = .answerGeneration := by
    intro run hr
    cases hr
    exact ⟨rfl,hq,ha⟩
  unfold insertRun
  refine wp_seq (wp_seq_get ?_)
  rw [hdb]
  cases env.commit with
  | acknowledged => exact hsome
  | unacknowledged => exact hsome
  | failed => exact wp_seq_modify hnone

/-- Two budgets the policy issued stay under the cap together. -/
theorem AdmissionRequest.totalReserved_le {policy : RagCostPolicy} {request : AdmissionRequest}
    (hq : policy.Produced request.query.2) (ha : policy.Produced request.answer.2)
    (hqc : request.query.2.component = .queryEmbedding) (hac : request.answer.2.component = .answerGeneration) :
    totalReserved request.rows ≤ ragComponentCeilingUsd := by
  have h₁ := hq.reserved_le
  have h₂ := ha.reserved_le
  rw [hqc] at h₁
  rw [hac] at h₂
  have hsum : totalReserved request.rows = request.query.2.reservedCostUsd+request.answer.2.reservedCostUsd :=
    totalReserved_pair _ _
  rw [hsum]
  exact (Nat.add_le_add h₁ h₂).trans (by decide)

/-! ## Binding -/

/-- The rows are unchanged, or the answer reservation was lowered. -/
def Narrowed (prepared : PreparedPaidCallBudget) (run run' : Run) : Prop :=
  run'.rows = run.rows ∨ run'.rows = onComponent .answerGeneration (narrowRow prepared) run.rows ∧
    ∀ r ∈ run.rows, r.component = .answerGeneration → prepared.reservedCostUsd ≤ r.reservedCostUsd

theorem commit_db {P : World → Prop} {u : UnitOfWork} (hdb : w.db = some run) (hu : w.unit = some u)
    (hold : P { w with unit := none })
    (hnew : P { w with db := some (u.pending run), unit := none, history := .committed (u.pending run)::w.history }) :
    wp (commit env) (fun _ => P) (fun _ => P) w := by
  have hd : P w.durable := by simpa only [World.durable,hdb,hu] using hnew
  unfold commit
  cases env.commit with
  | acknowledged => exact hd
  | unacknowledged => exact hd
  | failed => exact hold

theorem bindAnswerBudget_wp {prepared : PreparedPaidCallBudget} {projection : Option AnswerProjection}
    (h : Kept authority w₀ w) (hdb : w.db = some run) :
    wp (bindAnswerBudget authority i env prepared projection)
      (fun _ w' => (∃ run', w'.db = some run' ∧ Narrowed prepared run run') ∧
        Event.budgetBound prepared ∈ w'.history)
      (fun _ w' => ∃ run', w'.db = some run' ∧ Narrowed prepared run run') w := by
  have hsame : ∃ run', w.db = some run' ∧ Narrowed prepared run run' := ⟨run,hdb,.inl rfl⟩
  unfold bindAnswerBudget runtimeHealthEffect validatePreparedBudget
  refine wp_seq_require hsame fun _ => ?_
  refine wp_seq_require hsame fun _ => ?_
  refine wp_seq_require hsame fun _ => ?_
  refine wp_seq_getMemory ?_
  refine wp_seq_present hsame fun reservation _ => ?_
  refine wp_seq_require hsame fun hnarrow => ?_
  refine wp_seq (h.lockedRun i (fun _ => hsame) ?_)
  intro run' p q a w' hl
  have he : run' = run := Option.some.inj (hl.db.symm.trans hdb)
  subst he
  have hsame' : ∃ run₁, w'.db = some run₁ ∧ Narrowed prepared run' run₁ := ⟨run',hl.draft.db,.inl rfl⟩
  refine wp_seq_require hsame' fun _ => ?_
  refine wp_seq_require hsame' fun _ => ?_
  refine wp_seq_present hsame' fun query hquery => ?_
  refine wp_seq_present hsame' fun answer hanswer => ?_
  rw [hl.rows.find_query] at hquery
  rw [hl.rows.find_answer] at hanswer
  cases hquery
  cases hanswer
  refine wp_seq_require hsame' fun hunchanged => ?_
  refine wp_seq_require hsame' fun _ => ?_
  simp only [reservationUnchanged,Bool.and_eq_true,decide_eq_true_eq,Bool.not_eq_true'] at hunchanged
  obtain ⟨⟨⟨⟨⟨⟨⟨⟨⟨⟨⟨hs,hp⟩,hused⟩,hd⟩,_⟩,_⟩,_⟩,_⟩,_⟩,hreserved⟩,_⟩,_⟩ := hunchanged
  simp only [narrows,Bool.and_eq_true,decide_eq_true_eq] at hnarrow
  have hbase := hl.base_of_open hs hp (List.mem_cons_of_mem q List.mem_cons_self) (isClosed_notAttempted hd)
    fun _ => by rw [hl.rows.answer,hused]
  have hnew : Narrowed prepared run' ⟨p,onComponent .answerGeneration (narrowRow prepared) [q,a]⟩ := by
    right
    rw [hbase]
    refine ⟨rfl,fun r hr hc => ?_⟩
    rw [hl.rows.eq_of_component hr (List.mem_cons_of_mem q List.mem_cons_self) (hc.trans hl.rows.answer.symm),hreserved]
    exact hnarrow.1.2
  refine wp_seq_modify (wp_seq_modify (wp_seq_modify (wp_seq_modify ?_)))
  obtain ⟨fl,hu⟩ := hl.draft.unit
  have hbound : ∀ w'' : World, w''.db = some run' →
      w''.unit.bind UnitOfWork.rows = some (onComponent .answerGeneration (narrowRow prepared) [q,a]) →
      Event.budgetBound prepared ∈ w''.history →
      wp (commit env) (fun _ w₁ => (∃ run₁, w₁.db = some run₁ ∧ Narrowed prepared run' run₁) ∧
        Event.budgetBound prepared ∈ w₁.history) (fun _ w₁ => ∃ run₁, w₁.db = some run₁ ∧ Narrowed prepared run' run₁)
        w'' := by
    intro w'' hdb'' hassigned hevent
    obtain ⟨u,hu'',hrows⟩ := Option.bind_eq_some_iff.mp hassigned
    have hpending : Narrowed prepared run' (u.pending run') := by
      unfold Narrowed UnitOfWork.pending
      rw [hrows]
      exact hnew
    refine wp_mono (commit_db (P := fun w₁ => (∃ run₁, w₁.db = some run₁ ∧ Narrowed prepared run' run₁) ∧
      Event.budgetBound prepared ∈ w₁.history) hdb'' hu'' ?_ ?_) (fun _ _ hw => hw) fun _ _ hw => hw.1
    · exact ⟨⟨run',hdb'',.inl rfl⟩,hevent⟩
    · exact ⟨⟨_,rfl,hpending⟩,List.mem_cons_of_mem _ hevent⟩
  refine wp_seq (wp_mono (hbound _ hl.draft.db ?_ List.mem_cons_self) (fun _ w'' hw => hw) fun _ _ hw => hw)
  change Option.bind (Option.map _ (Option.map _ w'.unit)) _ = _
  rw [hu]
  rfl

theorem bindAnswerBudget_fails {prepared bound : PreparedPaidCallBudget} {projection : Option AnswerProjection}
    (h : Kept authority w₀ w) (hb : Event.budgetBound bound ∈ w.history) :
    wp (bindAnswerBudget authority i env prepared projection) (fun _ _ => False) (fun _ _ => True) w := by
  unfold bindAnswerBudget runtimeHealthEffect validatePreparedBudget
  refine wp_seq_require trivial fun _ => ?_
  refine wp_seq_require trivial fun _ => ?_
  refine wp_seq_require trivial fun _ => wp_seq_getMemory ?_
  refine wp_seq_present trivial fun reservation hr => ?_
  exact absurd hb ((h.core.memory.reservation i reservation hr).2.2 bound)

/-! ## The main result -/

/-- What holds in a state `w` after a run was admitted as `admitted`. -/
structure SpendingCapped (authority : LedgerAuthority) (admitted : Run) (w : World) : Prop where
  reserved : ∀ run, w.db = some run → totalReserved run.rows ≤ totalReserved admitted.rows ∧
    totalReserved run.rows ≤ ragComponentCeilingUsd
  falls : ∀ run later run', w.db = some run → (Lib.run (step authority) w later).db = some run' →
    totalReserved run'.rows ≤ totalReserved run.rows
  boundOnce : ∀ i env prepared projection later i' env' prepared' projection',
    Succeeds authority w i env (.bindAnswerBudget prepared projection) →
    ¬Succeeds authority (afterCall authority w i env (.bindAnswerBudget prepared projection) later) i' env'
      (.bindAnswerBudget prepared' projection')
  narrowed : ∀ i env prepared projection run, w.db = some run → ∃ run',
    (step authority w (.call i env (.bindAnswerBudget prepared projection))).db = some run' ∧
    Narrowed prepared run run'
  charged : ∀ run, w.db = some run → run.parent.totalChargedCostUsd ≤ totalReserved admitted.rows ∨
    ∃ r ∈ run.rows, r.overrun = true
  blocked : ∀ newer run older, w.history = newer++.committed run::older → ∀ r ∈ run.rows, r.overrun = true →
    Event.overrunBlocked r.component ∈ older

theorem Kept.totalCharged_le (h : Kept authority w₀ w) (hdb : w.db = some run)
    (hn : ∀ r ∈ run.rows, r.overrun = false) : run.parent.totalChargedCostUsd ≤ totalReserved run.rows := by
  have hrun := h.core.run run hdb
  obtain ⟨q,a,he,hf,_⟩ := hrun.rows
  rw [hrun.total]
  rw [he] at hn ⊢
  simp only [totalCharged_pair,totalReserved_pair]
  exact Nat.add_le_add (hf.queryFacts.charge (hn q List.mem_cons_self))
    (hf.answerFacts.charge (hn a (List.mem_cons_of_mem q List.mem_cons_self)))

theorem Reachable.capped {admitted : Run} (h₀ : Reachable authority w₀) (hdb₀ : w₀.db = some admitted)
    (hcap : totalReserved admitted.rows ≤ ragComponentCeilingUsd) (later : List Command) :
    SpendingCapped authority admitted (Lib.run (step authority) w₀ later) := by
  have h := h₀.after later
  have he := h₀.evolves later
  generalize Lib.run (step authority) w₀ later = w at h he
  have hreserved : ∀ run, w.db = some run → totalReserved run.rows ≤ totalReserved admitted.rows := by
    intro run hdb
    obtain ⟨run',hdb',hle⟩ := he.run admitted hdb₀
    rw [hdb] at hdb'
    cases hdb'
    exact hle.totalReserved_le
  refine ⟨fun run hdb => ⟨hreserved run hdb,(hreserved run hdb).trans hcap⟩,?_,?_,?_,?_,?_⟩
  · intro run later run' hdb hdb'
    obtain ⟨run'',hdb'',hle⟩ := (h.evolves later).run run hdb
    rw [hdb'] at hdb''
    cases hdb''
    exact hle.totalReserved_le
  · intro i env prepared projection later i' env' prepared' projection' hs
    have hbound : Event.budgetBound prepared ∈
        (step authority w (.call i env (.bindAnswerBudget prepared projection))).history := by
      refine Lib.succeeds.finalState (P := fun w' => Event.budgetBound prepared ∈ w'.history) hs ?_
      cases hdb : w.db with
      | some run => exact wp_ignore_error (wp_mono (bindAnswerBudget_wp h.kept hdb) (fun _ _ hw => hw.2) fun _ _ hw => hw)
      | none =>
        -- Without a run the ceiling is not there to be bound.
        refine absurd hs (Lib.not_succeeds ?_)
        change wp (bindAnswerBudget authority i env prepared projection) _ _ w
        unfold bindAnswerBudget runtimeHealthEffect validatePreparedBudget
        refine wp_seq_require trivial fun _ => ?_
        refine wp_seq_require trivial fun _ => ?_
        refine wp_seq_require trivial fun _ => wp_seq_getMemory ?_
        refine wp_seq_present trivial fun reservation hr => ?_
        obtain ⟨p,hp⟩ := (h.kept.core.blank hdb).memory i
        rw [hp] at hr
        cases hr
    have hafter := (h.after [.call i env (.bindAnswerBudget prepared projection)]).evolves later
    exact Lib.not_succeeds (bindAnswerBudget_fails (h.after_call i env _ later).kept (hafter.history _ hbound))
  · intro i env prepared projection run hdb
    exact wp_finalState (wp_mono (bindAnswerBudget_wp h.kept hdb) (fun _ _ hw => hw.1) fun _ _ hw => hw)
  · intro run hdb
    by_cases hn : ∀ r ∈ run.rows, r.overrun = false
    · exact .inl ((h.kept.totalCharged_le hdb hn).trans (hreserved run hdb))
    · right
      simpa using hn
  · intro newer run older heq
    have hlog := h.kept.core.log
    rw [heq] at hlog
    exact hlog.suffix.1.blocked

/-- A run admitted with budgets the policy issued stays under the cap. -/
theorem spending_cap (authority : LedgerAuthority) (processHmac : Nat → Hmac) (before later : List Command)
    (i : Nat) (env : Environment) (request : AdmissionRequest) (admitted : Run)
    (hblank : (Lib.run (step authority) (World.initial processHmac) before).db = none)
    (hadmitted : (Lib.run (step authority) (World.initial processHmac)
      (before++[.call i env (.createAdmission request)])).db = some admitted)
    (hq : authority.costPolicy.Produced request.query.2) (ha : authority.costPolicy.Produced request.answer.2) :
    SpendingCapped authority admitted (Lib.run (step authority) (World.initial processHmac)
      (before++.call i env (.createAdmission request)::later)) := by
  have hrows : AdmitsRows request (Lib.run (step authority) (World.initial processHmac)
      (before++[.call i env (.createAdmission request)])) := by
    rw [Lib.run_append]
    exact wp_finalState (createAdmission_rows request hblank)
  obtain ⟨he,hqc,hac⟩ := hrows admitted hadmitted
  have hcap : totalReserved admitted.rows ≤ ragComponentCeilingUsd :=
    he ▸ AdmissionRequest.totalReserved_le hq ha hqc hac
  have hrun := Reachable.capped ⟨processHmac,_,rfl⟩ hadmitted hcap later
  rw [← Lib.run_append] at hrun
  simpa using hrun

theorem spending_cap_sample : ∃ admitted, SpendingCapped sampleAuthority admitted
    (Lib.run (step sampleAuthority) sampleInitial (sampleAdmission::sampleClaim)) :=
  ⟨_,spending_cap sampleAuthority (fun _ => sampleDigest) [] sampleClaim 0 sampleEnvironment sampleRequest _ rfl rfl
    (.unused .queryEmbedding) .ceiling⟩

end ParaWorks.Ledger
