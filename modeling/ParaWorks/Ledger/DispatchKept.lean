import ParaWorks.Ledger.AdmissionKept

/-!
# Dispatch and settlement keep the invariant
-/

namespace ParaWorks.Ledger

open Lib

variable {authority : LedgerAuthority} {w₀ w w' : World} {i : Nat} {env : Environment} {run : Run}
  {p : AgentRun} {q a : AgentRunCostComponent} {rows : List AgentRunCostComponent}
  {g : CommittedRagDispatchGrant}

/-! ## Consuming a grant -/

theorem MemoryFacts.active_issued (h : MemoryFacts w) {j : Nat} {c : RagPaidComponent}
    (hg : (w.memory j).activeGrants c = some g) : g ∈ w.issued := (h.active j c g hg).1

theorem Core.live_issued (h : Core authority w) (hg : w.Live g) : g ∈ w.issued := by
  rcases hg with hg | ⟨j,hj⟩
  · exact h.grants.consumed g hg
  · exact h.memory.active_issued hj

theorem Core.live_unique (h : Core authority w) {g' : CommittedRagDispatchGrant} (hg : w.Live g)
    (hg' : w.Live g') (hc : g'.component = g.component) : g' = g :=
  h.grants.unique g' (h.live_issued hg') g (h.live_issued hg) hc

/-- A ledger that holds a grant has a run. -/
theorem Core.db_of_active (h : Core authority w) {j : Nat} {c : RagPaidComponent}
    (hg : (w.memory j).activeGrants c = some g) : ∃ run, w.db = some run := by
  cases hdb : w.db with
  | some run => exact ⟨run,rfl⟩
  | none =>
    obtain ⟨p,hp⟩ := (h.blank hdb).memory j
    rw [hp] at hg
    cases hg

/-- A grant on its way to the transport. -/
def World.consume (w : World) (g : CommittedRagDispatchGrant) : World :=
  { w with consumed := g :: w.consumed }

theorem World.Live.of_consume {j : Nat} {g' : CommittedRagDispatchGrant}
    (hg : (w.memory j).activeGrants g.component = some g) (h : (w.consume g).Live g') : w.Live g' := by
  rcases h with h | h
  · rcases List.mem_cons.mp h with rfl | h
    · exact .inr ⟨j,hg⟩
    · exact .inl h
  · exact .inr h

theorem RowFacts.consume {r : AgentRunCostComponent} {j : Nat} (h : RowFacts w r)
    (hg : (w.memory j).activeGrants g.component = some g) : RowFacts (w.consume g) r :=
  ⟨h.shape,h.charge,h.blocked,fun g' hg' => h.paid g' (hg'.of_consume hg),h.issued,h.budget,h.owner⟩

theorem RowsFacts.consume {j : Nat} (h : RowsFacts w q a)
    (hg : (w.memory j).activeGrants g.component = some g) : RowsFacts (w.consume g) q a :=
  ⟨h.query,h.answer,h.queryFacts.consume hg,h.answerFacts.consume hg,h.agree⟩

theorem Kept.consume {j : Nat} (h : Kept authority w₀ w) (hnew : g ∉ w.consumed)
    (hg : (w.memory j).activeGrants g.component = some g) : Kept authority w₀ (w.consume g) := by
  obtain ⟨run,hdb⟩ := h.core.db_of_active hg
  refine ⟨⟨?_,?_,?_,?_,h.core.log,h.core.committed⟩,?_,?_⟩
  · intro hn
    change w.db = none at hn
    rw [hdb] at hn
    cases hn
  · intro run' hr
    obtain ⟨hrows,ht,hp⟩ := h.core.run run' hr
    obtain ⟨q,a,he,hf,ho⟩ := hrows
    exact ⟨⟨q,a,he,hf.consume hg,ho⟩,ht,hp⟩
  · exact ⟨h.core.memory.active,h.core.memory.refused,h.core.memory.owner,h.core.memory.budgets,
      h.core.memory.reservation,h.core.memory.pending,h.core.memory.receipts⟩
  · refine ⟨?_,List.nodup_cons.mpr ⟨hnew,h.core.grants.nodup⟩,h.core.grants.unique⟩
    intro g' hg'
    rcases List.mem_cons.mp hg' with rfl | hg'
    · exact h.core.memory.active_issued hg
    · exact h.core.grants.consumed g' hg'
  · intro u hu
    obtain ⟨run',hr,hf⟩ := h.unit u hu
    refine ⟨run',hr,hf.parent,?_⟩
    intro f hfl
    obtain ⟨hp,ha,⟨q,a,he,hrf,ho⟩,hle,hs⟩ := hf.flushed f hfl
    exact ⟨hp,ha,⟨q,a,he,hrf.consume hg,ho⟩,hle,hs⟩
  · exact ⟨h.evolves.run,fun g' hg' => List.mem_cons_of_mem _ (h.evolves.consumed g' hg'),h.evolves.issued,
      h.evolves.history,h.evolves.inactive⟩

theorem consumeAtDispatch_keeps (g : CommittedRagDispatchGrant) :
    Keeps (Kept authority w₀) (consumeAtDispatch g) := by
  intro w h
  unfold consumeAtDispatch
  refine wp_seq_get ?_
  refine wp_seq_require h fun hnew => ?_
  refine wp_seq_require h fun hactive => ?_
  simp only [decide_eq_true_eq] at hnew hactive
  exact h.consume hnew hactive

theorem consumeCommittedGrant_keeps (g : CommittedRagDispatchGrant) :
    Keeps (Kept authority w₀) (consumeCommittedGrant i env g) := by
  intro w h
  unfold consumeCommittedGrant runtimeHealthEffect
  refine wp_seq_require h fun _ => ?_
  refine wp_seq_getMemory ?_
  refine wp_seq_require h fun _ => ?_
  exact consumeAtDispatch_keeps g w h

theorem consumeTransportGrant_keeps (g : CommittedRagDispatchGrant) :
    Keeps (Kept authority w₀) (consumeTransportGrant i env g) := by
  intro w h
  unfold consumeTransportGrant runtimeHealthEffect
  refine wp_seq_require h fun _ => ?_
  refine wp_seq_require h fun _ => ?_
  refine wp_seq_modify ?_
  have h' := h.expireAll i
  refine wp_seq (h'.selectForUpdate i (fun _ => h') (fun _ => h') ?_)
  intro run p q a w' hl
  refine wp_seq_present hl.kept fun _ he => ?_
  cases he
  refine wp_seq_require hl.kept fun _ => ?_
  exact consumeCommittedGrant_keeps g w' hl.kept

/-! ## Closing a failed run -/

theorem RowsFacts.map {f : AgentRunCostComponent → AgentRunCostComponent} (h : RowsFacts w q a)
    (hcomp : ∀ r, (f r).component = r.component)
    (hproc : ∀ r x, (f r).processInstanceHmac = some x → r.processInstanceHmac = some x)
    (hf : ∀ r ∈ [q,a], RowFacts w r → RowFacts w (f r)) : RowsFacts w (f q) (f a) where
  query := (hcomp q).trans h.query
  answer := (hcomp a).trans h.answer
  queryFacts := hf q List.mem_cons_self h.queryFacts
  answerFacts := hf a (List.mem_cons_of_mem q List.mem_cons_self) h.answerFacts
  agree x y hx hy := h.agree x y (hproc q x hx) (hproc a y hy)

/-- The embedding may be settled or zeroed; the answer may only stay what it was or be zeroed. -/
theorem InOrder.advance {q' a' : AgentRunCostComponent} (h : InOrder p q a)
    (hq : q' = q ∨ q'.dispatchState = .terminal) (ha : a'.attempted = true → a.attempted = true) :
    InOrder p q' a' := by
  rcases hq with rfl | ht
  · exact ⟨h.used,h.settled ∘ ha⟩
  · refine ⟨fun hd => ?_,fun _ => .inl ht⟩
    rw [ht] at hd
    cases hd

/-- A parent that has ended is never asked for its phase again. -/
theorem ParentOk.ended (run : Run) (h : p.status ≠ .running) : ParentOk run p :=
  ⟨fun hs => absurd hs h,fun hs => absurd hs h⟩

theorem failedParent_phase (outcome : Outcome) (completedAt : Timestamp) (admissionOnly : Bool)
    (window : SourceWindow) (result : Option Hmac) (hclosed : ∀ r ∈ rows, isClosed r = true) :
    let failed := failedParent authority p rows outcome completedAt admissionOnly window
    PhaseOk authority ⟨failed,rows⟩ ∧ PhaseOk authority
      ⟨{ failed with metadata := { failed.metadata with ragResultHmac := result } },rows⟩ := by
  cases admissionOnly with
  | true => exact ⟨⟨rfl,rfl,hclosed⟩,rfl,rfl,hclosed⟩
  | false => exact ⟨⟨nofun,rfl,hclosed⟩,nofun,rfl,hclosed⟩

/-- What a failed run leaves behind. -/
structure FailedRun (authority : LedgerAuthority) (w₀ w : World) (q a : AgentRunCostComponent) (w' : World) :
    Prop where
  kept : Kept authority w₀ w'
  memory : w'.memory = w.memory
  durable : ∃ run, w'.db = some run ∧ run.parent.status = .failed ∧ run.rows = [q,a]

/-- `_finalize_failed_run` over rows that are all closed. It can raise before it assigns anything
only for a naive timestamp or a route it has no window for. -/
theorem Draft.failRun {assigned : AgentRun} {outcome : Outcome} {completedAt : Option Timestamp}
    {admissionOnly : Bool} {finalizer : Option AssistantFinalizer} {Q : Unit → World → Prop}
    (h : Draft authority w₀ w i run assigned [q,a]) (hflushed : finalizer.isSome → FlushedOk w run)
    (hrows : RowsFacts w q a) (horder : InOrder run.parent q a)
    (hclosed : ∀ r ∈ [q,a], isClosed r = true) (hle : RowsLe run.rows [q,a])
    (hearly : (completion env completedAt).aware = false ∨
      admissionOnly = false ∧ finalErrorWindow p.sourceWindow = none → Kept authority w₀ w)
    (hq : ∀ w', FailedRun authority w₀ w q a w' → Q () w') :
    wp (finalizeFailedRun authority env p [q,a] outcome completedAt admissionOnly finalizer)
      Q (fun _ => Kept authority w₀) w := by
  unfold finalizeFailedRun
  refine wp_seq ((wp_require _ _ _ _ _).mpr ⟨fun _ => ?_,fun hn => hearly (.inl hn)⟩)
  refine wp_seq ((wp_present _ _ _ _ _).mpr ⟨fun window _ => ?_,fun hn => ?_⟩)
  · refine wp_seq_modify ?_
    let failed := failedParent authority p [q,a] outcome (completion env completedAt) admissionOnly window
    have hdraft := h.assignParent failed
    have hforget : Forgets w (w.assignParent failed) := ⟨rfl,rfl,fun _ => id,fun _ => MemoryLe.refl _⟩
    have hended : failed.status ≠ .running := nofun
    have hphase := fun result => @failedParent_phase authority p [q,a] outcome (completion env completedAt)
      admissionOnly window result hclosed
    have hquery := hclosed q List.mem_cons_self
    unfold appendAssistant
    cases finalizer with
    | none =>
      refine wp_seq_pure (hdraft.commit ⟨⟨q,a,rfl,hrows.forgets hforget,horder.of_closed hquery _⟩,rfl,(hphase none).1⟩ hle ?_)
      rintro w' rfl hdone
      exact hq _ ⟨hdone,rfl,_,rfl,rfl,rfl⟩
    | some result =>
      have hkept := hdraft.kept ((hflushed rfl).assignParent failed) (ParentOk.ended run hended)
      refine wp_seq (wp_seq_present hkept fun hmac _ => ?_)
      have hforget' : Forgets w ((w.assignParent failed).assignParent
        { failed with metadata := { failed.metadata with ragResultHmac := some hmac } }) :=
        ⟨rfl,rfl,fun _ => id,fun _ => MemoryLe.refl _⟩
      refine (hdraft.assignParent _).commit
        ⟨⟨q,a,rfl,hrows.forgets hforget',horder.of_closed hquery _⟩,rfl,(hphase (some hmac)).2⟩ hle ?_
      rintro w' rfl hdone
      exact hq _ ⟨hdone,rfl,_,rfl,rfl,rfl⟩
  · cases admissionOnly with
    | true => nomatch hn
    | false => exact hearly (.inr ⟨rfl,hn⟩)

/-! ## What the checks of a finalization establish -/

theorem outcomeRule_terminal {c : RagPaidComponent} {cl : RagComponentClassification} {rule : OutcomeRule}
    (h : outcomeRule c cl = some rule) : rule.terminal ≠ .abandonedUnknown := by
  cases cl <;> cases h <;> cases c <;> decide

theorem outcomeRule_overrun {c : RagPaidComponent} {rule : OutcomeRule}
    (h : outcomeRule c .knownOverrun = some rule) : rule.action = .blockOverrun := by
  cases h
  rfl

theorem validateOutcome_wp {o : ClassifiedProviderObservation} {Q : Unit → World → Prop}
    {E : LedgerError → World → Prop}
    (he : (∀ rule, outcomeRule o.component o.classification = some rule → o.follows rule = false) → ∀ e, E e w)
    (hq : ∀ rule, outcomeRule o.component o.classification = some rule → o.follows rule = true → Q () w) :
    wp (validateOutcome o) Q E w := by
  unfold validateOutcome
  refine wp_seq_lookup (fun hn => he (fun rule hr => nomatch hn.symm.trans hr) _) fun rule hrule => ?_
  refine (wp_require _ _ _ _ _).mpr ⟨hq rule hrule,fun hf => he (fun rule' hr => ?_) _⟩
  cases hrule.symm.trans hr
  exact hf

theorem follows_terminal {o : ClassifiedProviderObservation} {rule : OutcomeRule}
    (hrule : outcomeRule o.component o.classification = some rule) (hf : o.follows rule = true) :
    o.terminalOutcome ≠ .abandonedUnknown := by
  simp only [ClassifiedProviderObservation.follows,Bool.and_eq_true,decide_eq_true_eq] at hf
  exact hf.1.1.1.1.1.1 ▸ outcomeRule_terminal hrule

theorem follows_overrun {o : ClassifiedProviderObservation} {rule : OutcomeRule}
    (hrule : outcomeRule o.component o.classification = some rule) (hf : o.follows rule = true)
    (hc : o.classification = .knownOverrun) : o.safetyAction = .blockOverrun := by
  simp only [ClassifiedProviderObservation.follows,Bool.and_eq_true,decide_eq_true_eq] at hf
  rw [hc] at hrule
  rw [hf.1.1.1.2,outcomeRule_overrun hrule]

/-- Usage has to be priced by the policy, and the observation has to state that price. -/
theorem expectedActual_wp {o : ClassifiedProviderObservation} {Q : Option Usd → World → Prop}
    {E : LedgerError → World → Prop}
    (he : (∀ usage cost, o.strictUsage = some usage → RagCostPolicy.chargeActual o.component usage = .ok cost →
      o.actualCostUsd ≠ some cost) → ∀ e, E e w)
    (hq : ∀ expected, (∀ usage, o.strictUsage = some usage → ∃ cost, expected = some cost ∧
      RagCostPolicy.chargeActual o.component usage = .ok cost ∧ o.actualCostUsd = some cost) → Q expected w) :
    wp (expectedActual o) Q E w := by
  unfold expectedActual
  cases hu : o.strictUsage with
  | none => exact hq none fun _ hn => by rw [hu] at hn; nomatch hn
  | some usage =>
    dsimp only
    cases hc : RagCostPolicy.chargeActual o.component usage with
    | error e =>
      refine he (fun usage' cost hu' hc' => ?_) e
      cases hu.symm.trans hu'
      cases hc.symm.trans hc'
    | ok cost =>
      refine wp_seq_check (fun ha => he (fun usage' cost' hu' hc' => ?_) _) fun ha => ?_
      · cases hu.symm.trans hu'
        cases hc.symm.trans hc'
        exact of_decide_eq_false ha
      refine hq (some cost) fun usage' hu' => ⟨cost,rfl,?_,of_decide_eq_true ha⟩
      cases hu.symm.trans hu'
      exact hc

theorem wp_seq_peekRun {β : Type} {k : Option Run → LedgerM β} {Q : β → World → Prop}
    {E : LedgerError → World → Prop} (h : ∀ seen, wp (k seen) Q E w) : wp (peekRun i >>= k) Q E w :=
  wp_seq (wp_seq_get (h _))

/-- The effect on provider safety is an event at most. -/
theorem safetyEffect_wp {o : ClassifiedProviderObservation} {Q : Unit → World → Prop}
    {E : LedgerError → World → Prop} (hdb : w.db = some run) (he : env.safetyCompletes = false → ∀ e, E e w)
    (hq : env.safetyCompletes = true → ∀ w', Carries w w' → w'.unit = w.unit → w'.memory = w.memory →
      (o.safetyAction = .blockOverrun → Event.overrunBlocked o.component ∈ w'.history) → Q () w') :
    wp (safetyEffect env o) Q E w := by
  unfold safetyEffect
  refine wp_seq_check (fun hc => he hc _) fun hsafe => ?_
  refine (wp_ite _ _ _ _ _ _).mpr ⟨fun _ => ?_,fun ha => ?_⟩
  · exact hq hsafe _ (Carries.record (.overrunBlocked o.component) hdb id (fun _ => nofun) fun _ _ _ _ => nofun) rfl rfl
      fun _ => List.mem_cons_self
  · exact hq hsafe w (Carries.setUnit w w.unit) rfl rfl fun hb => absurd hb ha

/-- An observation object is used up before anything else is looked at. -/
theorem Carries.observe (w : World) (serial : Nat) :
    Carries w { w with consumedObservations := serial :: w.consumedObservations } :=
  ⟨⟨rfl,rfl,fun _ => id,fun _ => MemoryLe.refl _⟩,rfl,fun _ hb => ⟨hb.consumed,hb.issued,hb.history,hb.memory⟩,
    fun _ _ => .inl,id,fun _ => id,fun _ _ _ _ => id⟩

theorem usageOverran_le {o : ClassifiedProviderObservation} {budget : PreparedPaidCallBudget}
    {usage : StrictProviderUsage} {cost : Usd} (hu : o.strictUsage = some usage)
    (h : usageOverran o budget (some cost) = false) : cost ≤ budget.reservedCostUsd := by
  simp only [usageOverran,hu,Bool.or_eq_false_iff,decide_eq_false_iff_not] at h
  exact Nat.le_of_not_lt h.1.2

theorem expireAll_fresh {u : UnitOfWork} (h : (w.expireAll i).unit = some u) (hs : u.session = i) :
    u.parent = none := by
  obtain ⟨v,_,rfl⟩ := Option.map_eq_some_iff.mp h
  by_cases hv : v.session = i
  · rw [if_pos hv]
  · rw [if_neg hv] at hs
    exact absurd hs hv

/-! ## Settling a component -/

theorem MemoryLe.retireGrant (c : RagPaidComponent) (m : Memory) : MemoryLe (retireGrant c m) m where
  active c' g hg := by
    simp only [Ledger.retireGrant,put] at hg
    split at hg
    · cases hg
    · exact hg
  budgets _ _ hb := ⟨hb,id⟩
  reservation _ hr := ⟨hr,id⟩
  owns ho := ⟨ho,rfl⟩
  pending _ := .inl
  receipts _ _ := .inl

theorem MemoryLe.keepReceipt (c : RagPaidComponent) (binding : RagProviderSafetyBinding)
    (hp : p.runRecordPhase = .costFinalizedPendingProjection → p.projectionOwnerFenceHmac.isSome)
    {r : AgentRunCostComponent} (hr : r.dispatchState = .terminal) (m : Memory) :
    MemoryLe (keepReceipt c binding p r m) m where
  active _ _ := id
  budgets _ _ hb := ⟨hb,id⟩
  reservation _ hr := ⟨hr,id⟩
  owns ho := ⟨ho,rfl⟩
  pending id hi := by
    simp only [Ledger.keepReceipt] at hi
    split at hi
    · next h =>
      cases hi
      exact .inr (hp h)
    · exact .inl hi
  receipts c' r' hr' := by
    simp only [Ledger.keepReceipt,put] at hr'
    split at hr'
    · cases hr'
      exact .inr hr
    · exact .inl hr'

/-- The retired component is the one thing certain of a ledger's memory after a settlement. -/
theorem mapMemory_retired (w : World) (i : Nat) (c : RagPaidComponent) (f : Memory → Memory) :
    ((w.mapMemory i fun m => retireGrant c (f m)).memory i).activeGrants c = none := by
  rw [mapMemory_memory,if_pos rfl]
  simp only [retireGrant,put,if_pos]

theorem Kept.mapMemory {f : Memory → Memory} (h : Kept authority w₀ w) (hdb : w.db = some run) (i : Nat)
    (hle : MemoryLe (f (w.memory i)) (w.memory i))
    (href : ∀ g, (f (w.memory i)).evidenceRefusedGrant = some g →
      (w.memory i).evidenceRefusedGrant = some g ∨ (w.memory i).activeGrants .answerGeneration = some g) :
    Kept authority w₀ (w.mapMemory i f) :=
  h.carries (Carries.mapMemory hdb i hle href) rfl

/-- A dispatching row is durable, in an open admission. -/
theorem Locked.of_dispatching {r : AgentRunCostComponent} (h : Locked authority w₀ w i run p q a w')
    (hr : r ∈ [q,a]) (hd : r.dispatchState = .dispatching) :
    run.rows = [q,a] ∧ run.parent.runRecordPhase = .admission := by
  have hbase : run.rows = [q,a] := by
    rcases h.base with hb | ⟨_,hb⟩
    · exact hb
    · rcases hb r hr with hc | ⟨hn,_⟩
      · rw [isClosed_dispatching hd] at hc
        cases hc
      · rw [hd] at hn
        cases hn
  have hopen := isClosed_dispatching hd
  have hphase := h.runFacts.phase
  unfold PhaseOk at hphase
  rw [hbase] at hphase
  refine ⟨hbase,?_⟩
  cases hp : run.parent.runRecordPhase with
  | admission => rfl
  | costFinalizedPendingProjection =>
    rw [hp] at hphase
    have ht := hphase.2.2.2.2.1 r hr
    rw [hd] at ht
    cases ht
  | final =>
    rw [hp] at hphase
    have hc := hphase.2.2 r hr
    rw [hopen] at hc
    cases hc
  | admissionOnly =>
    rw [hp] at hphase
    have hc := hphase.2.2 r hr
    rw [hopen] at hc
    cases hc

theorem RowsFacts.eq_of_component {r r' : AgentRunCostComponent} (h : RowsFacts w q a) (hr : r ∈ [q,a])
    (hr' : r' ∈ [q,a]) (hc : r.component = r'.component) : r = r' := by
  have hne : q.component ≠ a.component := by
    rw [h.query,h.answer]
    decide
  rcases List.mem_pair.mp hr with rfl | rfl <;> rcases List.mem_pair.mp hr' with rfl | rfl
  · rfl
  · exact absurd hc hne
  · exact absurd hc.symm hne
  · rfl

theorem RowFacts.zeroSibling {r : AgentRunCostComponent} (h : RowFacts w r) (p : AgentRun) (success : Bool) :
    RowFacts w (zeroSibling p success r) := by
  unfold Ledger.zeroSibling
  split
  · next hz => exact h.zero_unattempted (h.unattempted hz.1)
  · exact h

theorem RowLe.zeroSibling (r : AgentRunCostComponent) (p : AgentRun) (success : Bool) :
    RowLe r (zeroSibling p success r) := by
  unfold Ledger.zeroSibling
  split
  · next hz => exact RowLe.makeTerminalZero (isClosed_notAttempted hz.1)
  · exact RowLe.refl r

/-- The rows once the row of a grant is settled as `settled`, before or after its siblings are zeroed. -/
structure Settlement (w : World) (run : Run) (q a settled : AgentRunCostComponent)
    (after : List AgentRunCostComponent) : Prop where
  rows : ∃ q' a', after = [q',a'] ∧ RowsFacts w q' a' ∧ InOrder run.parent q' a'
  le : RowsLe [q,a] after
  mem : settled ∈ after
  terminal : settled.dispatchState = .terminal
  attempted : settled.attempted = true
  process : settled.processInstanceHmac.isSome
  others : ∀ r ∈ after, InAdmission r ∨ r.dispatchState = .terminal

section
variable {row : AgentRunCostComponent} {o : ClassifiedProviderObservation} {budget : PreparedPaidCallBudget}
  {overrun : Bool}

theorem Locked.settlement (h : Locked authority w₀ w i run p q a w') (hr : row ∈ [q,a])
    (hrc : row.component = g.component) (hd : row.dispatchState = .dispatching)
    (hc : Checked w' g o budget overrun) (hg : w'.Live g)
    (hb : (w'.memory i).admissionBudgets g.component = some budget) (hin : ∀ r ∈ [q,a], InAdmission r) :
    Settlement w' run q a (settleRow o overrun row) (onComponent g.component (settleRow o overrun) [q,a]) := by
  let f := fun r : AgentRunCostComponent => if r.component = g.component then settleRow o overrun r else r
  have hfrow : f row = settleRow o overrun row := if_pos hrc
  -- Every other row is left alone.
  have hcases : ∀ r ∈ [q,a], r = row ∨ f r = r := by
    intro r hm
    by_cases he : r.component = g.component
    · exact .inl (h.rows.eq_of_component hm hr (he.trans hrc.symm))
    · exact .inr (if_neg he)
  have hsettled : (settleRow o overrun row).dispatchState = .terminal := settleRow_state hc.terminal overrun row
  have hkeep : ∀ r, (f r).component = r.component ∧ (f r).processInstanceHmac = r.processInstanceHmac ∧
      (f r).attempted = r.attempted := by
    intro r
    dsimp only [f]
    split <;> exact ⟨rfl,rfl,rfl⟩
  have hfacts : ∀ r ∈ [q,a], RowFacts w' r → RowFacts w' (f r) := by
    intro r hm hf
    rcases hcases r hm with rfl | he
    · rw [hfrow]
      exact hf.settleRow hd hc hg hrc.symm hb fun g' hg' hgc => h.draft.core.live_unique hg hg' hgc
    · rwa [he]
  have hstate : ∀ r ∈ [q,a], f r = r ∨ (f r).dispatchState = .terminal := by
    intro r hm
    rcases hcases r hm with rfl | he
    · exact .inr (hfrow ▸ hsettled)
    · exact .inl he
  have hshape : WellShaped row := by
    rcases List.mem_pair.mp hr with rfl | rfl
    · exact h.rows.queryFacts.shape
    · exact h.rows.answerFacts.shape
  have hattempted := hshape.attempted_of_dispatching hd
  refine ⟨⟨f q,f a,rfl,?_,?_⟩,?_,?_,hsettled,hattempted,hshape.process_isSome hattempted,?_⟩
  · exact h.rows.map (fun r => (hkeep r).1) (fun r x hx => (hkeep r).2.1 ▸ hx) hfacts
  · exact h.order.advance (hstate q List.mem_cons_self) fun ht => (hkeep a).2.2 ▸ ht
  · refine RowsLe.map fun r hm => ?_
    change RowLe r (f r)
    rcases hcases r hm with rfl | he
    · rw [hfrow]
      exact RowLe.settleRow (isClosed_dispatching hd) o overrun
    · rw [he]
      exact RowLe.refl r
  · exact hfrow ▸ List.mem_map_of_mem hr
  · intro r' hr'
    obtain ⟨r,hm,rfl⟩ := List.mem_map.mp hr'
    change InAdmission (f r) ∨ (f r).dispatchState = .terminal
    rcases hstate r hm with he | ht
    · rw [he]
      exact .inl (hin r hm)
    · exact .inr ht

end

section
variable {settled : AgentRunCostComponent}

theorem zeroSibling_terminal {r : AgentRunCostComponent} (h : r.dispatchState = .terminal) (p : AgentRun)
    (success : Bool) : zeroSibling p success r = r := by
  unfold zeroSibling
  rw [if_neg]
  rintro ⟨hn,_⟩
  rw [h] at hn
  cases hn

theorem Settlement.zeroSiblings (h : Settlement w run q a settled rows) (p : AgentRun) (success : Bool) :
    Settlement w run q a settled (rows.map (zeroSibling p success)) := by
  obtain ⟨⟨q',a',rfl,hrows,horder⟩,hle,hmem,hterminal,hattempted,hprocess,hothers⟩ := h
  have hkeep : ∀ r x, (zeroSibling p success r).processInstanceHmac = some x →
      r.processInstanceHmac = some x := by
    intro r x hx
    unfold zeroSibling at hx
    split at hx
    · cases hx
    · exact hx
  have hstate : ∀ r, zeroSibling p success r = r ∨ (zeroSibling p success r).dispatchState = .terminal ∧
      (zeroSibling p success r).attempted = false := by
    intro r
    unfold zeroSibling
    split
    · exact .inr ⟨rfl,rfl⟩
    · exact .inl rfl
  refine ⟨⟨_,_,rfl,?_,?_⟩,hle.trans (RowsLe.map fun r _ => RowLe.zeroSibling r p success),?_,hterminal,
    hattempted,hprocess,?_⟩
  · refine hrows.map (fun r => ?_) hkeep fun r _ hf => hf.zeroSibling p success
    unfold zeroSibling
    split <;> rfl
  · refine horder.advance ((hstate q').imp id And.left) fun ha => ?_
    rcases hstate a' with he | ⟨_,hn⟩
    · rwa [he] at ha
    · rw [hn] at ha
      cases ha
  · exact List.mem_map.mpr ⟨settled,hmem,zeroSibling_terminal hterminal p success⟩
  · intro r hr
    obtain ⟨r,hm,rfl⟩ := List.mem_map.mp hr
    rcases hstate r with he | ⟨ht,_⟩
    · rw [he]
      exact hothers r hm
    · exact .inr ht

theorem RowFacts.zeroSibling_charged {r : AgentRunCostComponent} (h : RowFacts w r) (p : AgentRun)
    (success : Bool) : (Ledger.zeroSibling p success r).chargedCostUsd = r.chargedCostUsd := by
  unfold Ledger.zeroSibling
  split
  · next hz => exact (h.shape.charged_eq_zero (h.unattempted hz.1)).symm
  · rfl

/-- What is zeroed had charged nothing. -/
theorem Settlement.totalCharged_zeroSiblings (h : Settlement w run q a settled rows) (p : AgentRun)
    (success : Bool) : totalCharged (rows.map (zeroSibling p success)) = totalCharged rows := by
  obtain ⟨q',a',rfl,hrows,_⟩ := h.rows
  simp only [List.map_cons,List.map_nil,totalCharged_pair,hrows.queryFacts.zeroSibling_charged,
    hrows.answerFacts.zeroSibling_charged]

/-- Once every row is closed, every row is terminal. -/
theorem Settlement.all_terminal (h : Settlement w run q a settled rows)
    (hclosed : ∀ r ∈ rows, isClosed r = true) : ∀ r ∈ rows, r.dispatchState = .terminal := by
  intro r hr
  have hc := hclosed r hr
  rcases h.others r hr with (hn | hd | ⟨ht,_⟩) | ht
  · rw [isClosed_notAttempted hn] at hc
    cases hc
  · rw [isClosed_dispatching hd] at hc
    cases hc
  · exact ht
  · exact ht

theorem isClosed_terminal {r : AgentRunCostComponent} (h : r.dispatchState = .terminal) : isClosed r = true := by
  simp [isClosed,h]

/-- While some row is open the run is still an admission. -/
theorem Settlement.all_inAdmission (h : Settlement w run q a settled rows) {r₀ : AgentRunCostComponent}
    (hr₀ : r₀ ∈ rows) (hopen : isClosed r₀ = false) : ∀ r ∈ rows, InAdmission r := by
  intro r hr
  rcases h.others r hr with hi | ht
  · exact hi
  · -- The row is not the open one, so it is the settled one.
    obtain ⟨q',a',he,_⟩ := h.rows
    have hmem := h.mem
    have hc := isClosed_terminal ht
    have hs := isClosed_terminal h.terminal
    have hne : r ≠ r₀ := by
      rintro rfl
      rw [hopen] at hc
      cases hc
    have hne' : settled ≠ r₀ := by
      rintro rfl
      rw [hopen] at hs
      cases hs
    have heq : r = settled := by
      rw [he,List.mem_pair] at hr hr₀ hmem
      grind
    exact .inr (.inr ⟨ht,heq ▸ h.attempted⟩)

/-- What was flushed before the siblings were zeroed, when a success closed the last row. -/
theorem Settlement.flushedFacts (h : Settlement w run q a settled rows) (hbase : run.rows = [q,a])
    (hadm : run.parent.runRecordPhase = .admission)
    (hclosed : (rows.map (zeroSibling run.parent true)).all isClosed = true) :
    FlushedFacts w run ⟨run.parent,rows⟩ := by
  refine ⟨rfl,hadm,h.rows,hbase ▸ h.le,?_⟩
  intro r hr
  have hc := List.all_eq_true.mp hclosed _ (List.mem_map_of_mem hr)
  unfold zeroSibling at hc
  split at hc
  · next hz => exact .inr ⟨hz.1,hz.2.resolve_left nofun⟩
  · exact .inl hc

end

theorem projectionOwnerFence_wp {process : Hmac} {Q : Hmac → World → Prop} {E : LedgerError → World → Prop}
    (he : ∀ e, E e w) (hq : ∀ fence, Q fence w) : wp (projectionOwnerFence authority env process) Q E w := by
  unfold projectionOwnerFence
  exact wp_seq_present (he _) fun digest _ => hq _

/-- A run whose last component succeeded waits for its projection. -/
theorem PhaseOk.pending {fence : Hmac} (hs : p.status = .running) (hc : p.completedAt = none)
    (hw : IsAdmissionWindow p.sourceWindow) (ht : ∀ r ∈ rows, r.dispatchState = .terminal) :
    PhaseOk authority ⟨pendingParent authority p rows fence,rows⟩ :=
  ⟨hs,rfl,hc,hw,ht,rfl⟩

/-- A run without an owner fence that is already marked pending is none an operation goes on with. -/
theorem ParentOk.unowned (run : Run) (hf : p.projectionOwnerFenceHmac = none)
    (hp : p.runRecordPhase = .costFinalizedPendingProjection) : ParentOk run p := by
  refine ⟨fun _ ha => ?_,fun _ _ hs => ?_⟩
  · rw [hp] at ha
    cases ha
  · rw [hf] at hs
    cases hs

theorem settleComponent_wp {row : AgentRunCostComponent} {o : ClassifiedProviderObservation}
    {budget : PreparedPaidCallBudget} {overrun : Bool} {Q : Unit → World → Prop} (binding : RagProviderSafetyBinding)
    (h : Locked authority w₀ w i run run.parent q a w') (hr : row ∈ [q,a])
    (hrc : row.component = g.component) (hd : row.dispatchState = .dispatching)
    (hc : Checked w' g o budget overrun) (hg : w'.Live g)
    (hb : (w'.memory i).admissionBudgets g.component = some budget)
    (hq : ∀ w'', Kept authority w₀ w'' → (w''.memory i).activeGrants g.component = none → Q () w'') :
    wp (settleComponent authority i env g o binding overrun run.parent [q,a] row)
      Q (fun _ => Kept authority w₀) w' := by
  obtain ⟨hbase,hadm⟩ := h.of_dispatching hr hd
  have hphase := h.runFacts.phase
  unfold PhaseOk at hphase
  rw [hadm,hbase] at hphase
  obtain ⟨hstatus,hfence,hcompleted,hwindow,hin,_⟩ := hphase
  unfold settleComponent
  generalize hs : decide (o.classification = .validatedSuccess) = success
  have hsettled := h.settlement hr hrc hd hc hg hb hin
  generalize onComponent g.component (settleRow o overrun) [q,a] = settled at hsettled ⊢
  have hsiblings := hsettled.zeroSiblings run.parent success
  have htotal := hsettled.totalCharged_zeroSiblings run.parent success
  refine wp_seq_modify (wp_seq_modify (wp_seq_modify (wp_seq_modify ?_)))
  let totalled : AgentRun := { run.parent with totalChargedCostUsd := totalCharged settled }
  generalize hafter : settled.map (zeroSibling run.parent success) = siblings at hsiblings htotal ⊢
  have hle : RowsLe run.rows siblings := hbase ▸ hsiblings.le
  have hdraft := (((h.draft.assignRows settled).flush).assignParent totalled).assignRows siblings
  have hforget : Forgets w' ((((w'.assignRows settled).flush).assignParent totalled).assignRows siblings) :=
    ⟨rfl,rfl,fun _ => id,fun _ => MemoryLe.refl _⟩
  obtain ⟨q',a',hpair,hrows,horder⟩ := hsiblings.rows
  refine (wp_ite _ _ _ _ _ _).mpr ⟨fun hall => ?_,fun hopen => ?_⟩
  · have hclosed := List.all_eq_true.mp hall
    have hterminal := hsiblings.all_terminal hclosed
    refine (wp_ite _ _ _ _ _ _).mpr ⟨fun hsuccess => ?_,fun hfailure => ?_⟩
    · have hok : FlushedOk ((((w'.assignRows settled).flush).assignParent totalled).assignRows siblings) run := by
        refine FlushedOk.assignRows (FlushedOk.assignParent ?_ totalled) siblings
        refine (h.draft.assignRows settled).flushedOk ?_
        subst hsuccess
        exact (hsettled.flushedFacts hbase hadm (hafter ▸ hall)).forgets (Carries.setUnit w' _).toForgets
      refine wp_seq ((wp_present _ _ _ _ _).mpr ⟨fun owner _ => ?_,fun hnone => ?_⟩)
      · refine wp_seq_modify ?_
        have hmarked := (hdraft.assignParent { totalled with runRecordPhase := .costFinalizedPendingProjection }).kept
          (hok.assignParent _) (ParentOk.unowned run hfence rfl)
        refine wp_seq (projectionOwnerFence_wp (fun _ => hmarked) fun fence => ?_)
        refine wp_seq_modify ?_
        have hpending := (hdraft.assignParent { totalled with runRecordPhase := .costFinalizedPendingProjection }).assignParent
          (pendingParent authority totalled siblings fence)
        refine wp_seq (hpending.commit ⟨⟨q',a',hpair,hrows.forgets ?_,horder.parent rfl⟩,htotal.symm,?_⟩ hle ?_)
        · exact ⟨rfl,rfl,fun _ => id,fun _ => MemoryLe.refl _⟩
        · exact PhaseOk.pending hstatus hcompleted hwindow hterminal
        · rintro _ rfl hdone
          refine hq _ (hdone.mapMemory rfl i ((MemoryLe.keepReceipt _ binding (fun _ => rfl) hsettled.terminal _).trans
            (MemoryLe.retireGrant _ _)) fun _ => .inl) (mapMemory_retired _ i g.component _)
      · have hn := List.findSome?_eq_none_iff.mp hnone _ hsiblings.mem
        have hp := hsiblings.process
        rw [hn] at hp
        cases hp
    · refine wp_seq_modify ?_
      have hretire := Carries.mapMemory hdraft.db i (MemoryLe.retireGrant g.component _) fun _ => .inl
      subst hpair
      refine (hdraft.carries hretire rfl).failRun nofun (hrows.forgets (hforget.trans hretire.toForgets)) horder
        hclosed hle ?_ ?_
      · rintro (hn | ⟨_,hn⟩)
        · cases hn
        · obtain ⟨m,s,b,he⟩ := hwindow
          rw [he] at hn
          cases hn
      · intro w'' hfailed
        refine hq w'' hfailed.kept ?_
        rw [hfailed.memory]
        exact mapMemory_retired _ i g.component id
  · obtain ⟨r₀,hr₀,hopen₀⟩ : ∃ r ∈ siblings, isClosed r = false := by simpa using hopen
    have hinAdmission := hsiblings.all_inAdmission hr₀ hopen₀
    refine wp_seq (hdraft.commit ⟨⟨q',a',hpair,hrows.forgets hforget,horder.parent rfl⟩,htotal.symm,?_⟩ hle ?_)
    · subst hpair
      exact PhaseOk.admission hadm hstatus hfence hcompleted hwindow (hinAdmission q' List.mem_cons_self)
        (hinAdmission a' (List.mem_cons_of_mem q' List.mem_cons_self)) hr₀ hopen₀
    · rintro _ rfl hdone
      refine hq _ (hdone.mapMemory rfl i ?_ fun _ => ?_) (mapMemory_retired _ i g.component _)
      · refine MemoryLe.trans ?_ (MemoryLe.retireGrant _ _)
        split
        · refine MemoryLe.keepReceipt _ binding (fun hp => ?_) hsettled.terminal _
          change run.parent.runRecordPhase = _ at hp
          rw [hadm] at hp
          cases hp
        · exact MemoryLe.refl _
      · split <;> exact .inl

theorem finalizeComponent_wp {o : ClassifiedProviderObservation} {Q : Unit → World → Prop}
    (h : Kept authority w₀ w)
    (hq : ∀ w', Kept authority w₀ w' → (w'.memory i).activeGrants g.component = none → Q () w') :
    wp (finalizeComponent authority i env g o) Q (fun _ => Kept authority w₀) w := by
  unfold finalizeComponent runtimeHealthEffect
  refine wp_seq_require h fun _ => ?_
  refine wp_seq_require h fun hcomp => ?_
  refine wp_seq_get ?_
  refine wp_seq_require h fun _ => ?_
  refine wp_seq_set ?_
  have h₁ := h.carries (Carries.observe w o.serial) rfl
  refine wp_seq_getMemory ?_
  refine wp_seq_require h₁ fun hactive => ?_
  refine wp_seq_require h₁ fun hconsumed => ?_
  simp only [decide_eq_true_eq] at hcomp hactive hconsumed
  obtain ⟨run₀,hdb⟩ := h.core.db_of_active hactive
  refine wp_seq (validateOutcome_wp (fun _ _ => h₁) fun rule hrule hfollows => ?_)
  refine wp_seq_peekRun fun seen => ?_
  refine wp_seq_present h₁ fun preview _ => ?_
  refine wp_seq_require h₁ fun _ => ?_
  refine wp_seq_require h₁ fun _ => ?_
  refine wp_seq_require h₁ fun htogether => ?_
  refine wp_seq (expectedActual_wp (fun _ _ => h₁) fun expected hexpected => ?_)
  refine wp_seq_present h₁ fun budget hbudget => ?_
  refine wp_seq_require h₁ fun hclass => ?_
  refine wp_seq_present h₁ fun binding _ => ?_
  refine wp_seq_require h₁ fun _ => ?_
  refine wp_seq (safetyEffect_wp hdb (fun _ _ => h₁) fun _ w₂ hcarries hunit hmemory hblocked => ?_)
  have h₂ := h₁.carries hcarries hunit
  refine wp_seq_modify ?_
  have hdb₂ : w₂.db = some run₀ := hcarries.db.trans hdb
  have hrecord := Carries.record (.observed g o.strictUsage) hdb₂ id (fun _ => nofun) fun _ _ _ _ => nofun
  have h₃ := h₂.carries hrecord rfl
  refine wp_seq_modify ?_
  have h₄ := h₃.expireAll i
  refine wp_seq (h₄.selectForUpdate i (fun _ => h₄) (fun _ => h₄) ?_)
  intro run p q a w' hl
  refine wp_seq_present hl.kept fun _ he => ?_
  cases he
  refine wp_seq_present hl.kept fun row hrow => ?_
  refine wp_seq_require hl.kept fun hclaim => ?_
  simp only [carriesClaim,Bool.and_eq_true,decide_eq_true_eq] at hclaim htogether hclass
  have hrc : row.component = g.component := by simpa [isComponent] using List.find?_some hrow
  have hmem' : w'.memory = w.memory := hl.memory.trans hmemory
  have hchecked : Checked w' g o budget (usageOverran o budget expected) := by
    refine ⟨hcomp,htogether,follows_terminal hrule hfollows,?_,?_,?_,?_⟩
    · intro usage hu
      obtain ⟨cost,_,hcost,hactual⟩ := hexpected usage hu
      exact ⟨cost,hcost,hactual⟩
    · rw [hl.history]
      exact List.mem_cons_self
    · intro hover cost hcost
      have ht := htogether
      rw [hcost] at ht
      obtain ⟨usage,hu⟩ := Option.isSome_iff_exists.mp ht.symm
      obtain ⟨cost',he,_,hactual⟩ := hexpected usage hu
      rw [hcost] at hactual
      cases hactual
      rw [he] at hover
      exact usageOverran_le hu hover
    · intro hover
      rw [hl.history]
      rw [hover] at hclass
      exact List.mem_cons_of_mem _ (hblocked (follows_overrun hrule hfollows (of_decide_eq_true hclass.symm)))
  have hconsumed' : w'.Live g := by
    left
    rw [hl.consumed]
    change g ∈ w₂.consumed
    rw [hcarries.consumed]
    exact hconsumed
  have hfresh := hl.fresh fun u hu hs => expireAll_fresh hu hs
  subst hfresh
  exact settleComponent_wp binding hl (List.mem_of_find?_eq_some hrow) hrc hclaim.1.1 hchecked hconsumed'
    (hmem' ▸ hbudget) hq

theorem finalizeComponent_keeps (g : CommittedRagDispatchGrant) (o : ClassifiedProviderObservation) :
    Keeps (Kept authority w₀) (finalizeComponent authority i env g o) :=
  fun _ h => finalizeComponent_wp h fun _ h' _ => h'

end ParaWorks.Ledger
