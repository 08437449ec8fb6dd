import ParaWorks.Ledger.Invariant

/-!
# The locked part of an operation

`Draft` describes an open transaction with assigned values, `Locked` one in which nothing has been
assigned yet. Every operation that changes the run goes from the second through the first to a
commit.
-/

namespace ParaWorks.Ledger

open Lib

variable {authority : LedgerAuthority} {w₀ w : World} {i : Nat} {run : Run} {p : AgentRun}
  {rows : List AgentRunCostComponent} {α : Type}

theorem wp_seq_getMemory {β : Type} {k : Memory → LedgerM β} {Q : β → World → Prop}
    {E : LedgerError → World → Prop} (h : wp (k (w.memory i)) Q E w) : wp (getMemory i >>= k) Q E w :=
  wp_seq h

/-- Session `i` is about to make `p` and `rows` durable in place of `run`. -/
structure Draft (authority : LedgerAuthority) (w₀ w : World) (i : Nat) (run : Run) (p : AgentRun)
    (rows : List AgentRunCostComponent) : Prop where
  core : Core authority w
  evolves : Evolves w₀ w
  db : w.db = some run
  unit : ∃ fl, w.unit = some ⟨i,fl,some p,some rows⟩

/-- What the open transaction has flushed may stay there. -/
def FlushedOk (w : World) (run : Run) : Prop :=
  ∀ u f, w.unit = some u → u.flushed = some f → FlushedFacts w run f

/-- Session `i` holds the row locks and has just read `p` and `rows`. -/
structure Locked (authority : LedgerAuthority) (w₀ w : World) (i : Nat) (run : Run) (p : AgentRun)
    (q a : AgentRunCostComponent) (w' : World) : Prop where
  draft : Draft authority w₀ w' i run p [q,a]
  flushed : FlushedOk w' run
  frame : w' = { w with unit := w'.unit }
  rows : RowsFacts w' q a
  order : InOrder run.parent q a
  le : RowsLe run.rows [q,a]
  parent : ParentOk run p
  /-- nothing is assigned to a parent that was not in the identity map -/
  fresh : (∀ u, w.unit = some u → u.session = i → u.parent = none) → p = run.parent
  base : run.rows = [q,a] ∨ run.parent.runRecordPhase = .admission ∧ ∀ r ∈ [q,a], isClosed r = true ∨
    r.dispatchState = .notAttempted ∧ componentIsUnused run.parent r.component = true

theorem Draft.kept (h : Draft authority w₀ w i run p rows) (hf : FlushedOk w run) (hp : ParentOk run p) :
    Kept authority w₀ w where
  core := h.core
  unit u hu := by
    refine ⟨run,h.db,?_,fun f hfl => hf u f hu hfl⟩
    obtain ⟨fl,he⟩ := h.unit
    rw [he] at hu
    cases hu
    intro p' hp'
    cases hp'
    exact hp
  evolves := h.evolves

theorem Draft.carries {w' : World} (hw : Carries w w') (hu : w'.unit = w.unit)
    (h : Draft authority w₀ w i run p rows) : Draft authority w₀ w' i run p rows where
  core := h.core.carries hw
  evolves := h.evolves.carries hw
  db := hw.db.trans h.db
  unit := by
    obtain ⟨fl,he⟩ := h.unit
    exact ⟨fl,hu.trans he⟩

theorem Draft.assignRows (h : Draft authority w₀ w i run p rows) (rows' : List AgentRunCostComponent) :
    Draft authority w₀ (w.assignRows rows') i run p rows' where
  core := h.core.carries (Carries.setUnit w _)
  evolves := h.evolves.carries (Carries.setUnit w _)
  db := h.db
  unit := by
    obtain ⟨fl,he⟩ := h.unit
    exact ⟨fl,by simp only [World.assignRows,he,Option.map_some]⟩

theorem Draft.assignParent (h : Draft authority w₀ w i run p rows) (p' : AgentRun) :
    Draft authority w₀ (w.assignParent p') i run p' rows where
  core := h.core.carries (Carries.setUnit w _)
  evolves := h.evolves.carries (Carries.setUnit w _)
  db := h.db
  unit := by
    obtain ⟨fl,he⟩ := h.unit
    exact ⟨fl,by simp only [World.assignParent,he,Option.map_some]⟩

theorem Draft.flush (h : Draft authority w₀ w i run p rows) : Draft authority w₀ w.flush i run p rows where
  core := h.core.carries (Carries.setUnit w _)
  evolves := h.evolves.carries (Carries.setUnit w _)
  db := h.db
  unit := by
    obtain ⟨fl,he⟩ := h.unit
    exact ⟨w.db.map (UnitOfWork.mk i fl (some p) (some rows)).pending,
      by simp only [World.flush,he,Option.map_some]⟩

theorem FlushedOk.carries {w' : World} (hw : Carries w w') (hu : w'.unit = w.unit) (h : FlushedOk w run) :
    FlushedOk w' run := by
  intro u f hs hf
  rw [hu] at hs
  exact (h u f hs hf).forgets hw.toForgets

theorem FlushedOk.assignRows (h : FlushedOk w run) (rows : List AgentRunCostComponent) :
    FlushedOk (w.assignRows rows) run := by
  intro u f hs hf
  obtain ⟨v,hv,rfl⟩ := Option.map_eq_some_iff.mp hs
  exact (h v f hv hf).forgets (Carries.setUnit w _).toForgets

theorem FlushedOk.assignParent (h : FlushedOk w run) (p : AgentRun) : FlushedOk (w.assignParent p) run := by
  intro u f hs hf
  obtain ⟨v,hv,rfl⟩ := Option.map_eq_some_iff.mp hs
  exact (h v f hv hf).forgets (Carries.setUnit w _).toForgets

/-- A flush leaves what was assigned in the transaction. -/
theorem Draft.flushedOk (h : Draft authority w₀ w i run p rows) (hf : FlushedFacts w run ⟨p,rows⟩) :
    FlushedOk w.flush run := by
  intro u f hs hfl
  obtain ⟨fl,he⟩ := h.unit
  obtain ⟨v,hv,rfl⟩ := Option.map_eq_some_iff.mp hs
  rw [he] at hv
  cases hv
  simp only [h.db,Option.map_some,UnitOfWork.pending,Option.getD_some,Option.some.injEq] at hfl
  subst hfl
  exact hf.forgets (Carries.setUnit w _).toForgets

theorem Draft.mapMemory (h : Draft authority w₀ w i run p rows) (j : Nat) {f : Memory → Memory}
    (hle : MemoryLe (f (w.memory j)) (w.memory j))
    (href : ∀ g, (f (w.memory j)).evidenceRefusedGrant = some g →
      (w.memory j).evidenceRefusedGrant = some g ∨ (w.memory j).activeGrants .answerGeneration = some g) :
    Draft authority w₀ (w.mapMemory j f) i run p rows :=
  h.carries (Carries.mapMemory h.db j hle href) rfl

theorem Forgets.assigned (w : World) (rows : List AgentRunCostComponent) (p : AgentRun) :
    Forgets w ((w.assignRows rows).assignParent p) :=
  ⟨rfl,rfl,fun _ => id,fun _ => MemoryLe.refl _⟩

/-! ## Closing a transaction -/

theorem UnitInv.none {w : World} (h : w.unit = none) : UnitInv w := by
  intro u hu
  rw [h] at hu
  cases hu

theorem Kept.closeUnit (h : Core authority w) (he : Evolves w₀ w) :
    Kept authority w₀ { w with unit := none } where
  core := h.carries (Carries.setUnit w _)
  unit := UnitInv.none rfl
  evolves := he.carries (Carries.setUnit w _)

theorem Kept.rollback (h : Kept authority w₀ w) (i : Nat) : Kept authority w₀ (w.rollback i) where
  core := h.core.carries (Carries.setUnit w _)
  unit u hu := by
    obtain ⟨hs,_⟩ := Option.filter_eq_some_iff.mp hu
    obtain ⟨run,hdb,hf⟩ := h.unit u hs
    exact ⟨run,hdb,hf.parent,fun f hfl => (hf.flushed f hfl).forgets (Carries.setUnit w _).toForgets⟩
  evolves := h.evolves.carries (Carries.setUnit w _)

theorem Kept.expireAll (h : Kept authority w₀ w) (i : Nat) : Kept authority w₀ (w.expireAll i) where
  core := h.core.carries (Carries.setUnit w _)
  unit u hu := by
    obtain ⟨v,hv,he⟩ := Option.map_eq_some_iff.mp hu
    obtain ⟨run,hdb,hf⟩ := h.unit v hv
    refine ⟨run,hdb,?_,?_⟩
    · intro p hp
      subst he
      split at hp
      · cases hp
      · exact hf.parent p hp
    · intro f hfl
      have hfl' : v.flushed = some f := by
        subst he
        split at hfl <;> exact hfl
      exact (hf.flushed f hfl').forgets (Carries.setUnit w _).toForgets
  evolves := h.evolves.carries (Carries.setUnit w _)

theorem durable_eq {fl : Option Run} (hdb : w.db = some run)
    (hu : w.unit = some ⟨i,fl,some p,some rows⟩) :
    w.durable = { w with
      db := some ⟨p,rows⟩
      unit := none
      history := .committed ⟨p,rows⟩ :: w.history } := by
  simp only [World.durable,hdb,hu,UnitOfWork.pending,Option.getD_some]

theorem RunFacts.commitFacts (h : RunFacts authority w run)
    (hle : ∀ run', Event.committed run' ∈ w.history → RowsLe run'.rows run.rows) :
    CommitFacts run w.history := by
  obtain ⟨q,a,he,hr,_⟩ := h.rows
  refine ⟨⟨q,a,he,hr.query,hr.answer,hr.queryFacts.shape,hr.answerFacts.shape⟩,h.total,?_,?_,hle⟩
  · intro r hm
    rw [he] at hm
    rcases List.mem_pair.mp hm with rfl | rfl
    · exact hr.queryFacts.charge
    · exact hr.answerFacts.charge
  · intro r hm
    rw [he] at hm
    rcases List.mem_pair.mp hm with rfl | rfl
    · exact hr.queryFacts.blocked
    · exact hr.answerFacts.blocked

/-- A run that carries the invariant, and no row of which goes back, may become durable. -/
theorem Draft.durable (h : Draft authority w₀ w i run p rows) (hfacts : RunFacts authority w ⟨p,rows⟩)
    (hle : RowsLe run.rows rows) : Kept authority w₀ w.durable := by
  obtain ⟨fl,hu⟩ := h.unit
  rw [durable_eq h.db hu]
  have hold : ∀ run', Event.committed run' ∈ w.history → RowsLe run'.rows rows := by
    intro run' hr
    obtain ⟨now,hnow,hle'⟩ := h.core.committed run' hr
    rw [h.db] at hnow
    cases hnow
    exact hle'.trans hle
  have hw : Forgets w { w with
      db := some ⟨p,rows⟩
      unit := none
      history := Event.committed ⟨p,rows⟩ :: w.history } :=
    ⟨rfl,rfl,fun _ he => List.mem_cons_of_mem _ he,fun _ => MemoryLe.refl _⟩
  refine ⟨⟨nofun,?_,?_,?_,⟨hfacts.commitFacts hold,h.core.log⟩,?_⟩,UnitInv.none rfl,?_⟩
  · intro run' hr
    cases hr
    exact hfacts.forgets hw
  · obtain ⟨ha,hr,ho,hb,hs,hp,ht⟩ := h.core.memory
    refine ⟨ha,hr,ho,hb,?_,hp,ht⟩
    intro j r hj
    obtain ⟨h₁,h₂,h₃⟩ := hs j r hj
    refine ⟨h₁,h₂,fun b hb => ?_⟩
    rcases List.mem_cons.mp hb with hb | hb
    · cases hb
    · exact h₃ b hb
  · exact ⟨h.core.grants.consumed,h.core.grants.nodup,h.core.grants.unique⟩
  · intro run' hr
    refine ⟨⟨p,rows⟩,rfl,?_⟩
    rcases List.mem_cons.mp hr with hr | hr
    · cases hr
      exact RowsLe.refl _
    · exact hold run' hr
  · obtain ⟨hr,hc,hi,hh,hn⟩ := h.evolves
    refine ⟨?_,hc,hi,fun e he => List.mem_cons_of_mem _ (hh e he),hn⟩
    intro run₀ h₀
    obtain ⟨now,hnow,hle'⟩ := hr run₀ h₀
    rw [h.db] at hnow
    cases hnow
    exact ⟨⟨p,rows⟩,rfl,hle'.trans hle⟩

theorem Draft.commit {Q : Unit → World → Prop} {env : Environment}
    (h : Draft authority w₀ w i run p rows) (hfacts : RunFacts authority w ⟨p,rows⟩)
    (hle : RowsLe run.rows rows)
    (hq : ∀ w', w' = { w with
        db := some ⟨p,rows⟩
        unit := none
        history := .committed ⟨p,rows⟩ :: w.history } → Kept authority w₀ w' → Q () w') :
    wp (commit env) Q (fun _ => Kept authority w₀) w := by
  obtain ⟨fl,hu⟩ := h.unit
  unfold Ledger.commit
  cases env.commit with
  | acknowledged => exact hq w.durable (durable_eq h.db hu) (h.durable hfacts hle)
  | unacknowledged => exact h.durable hfacts hle
  | failed => exact Kept.closeUnit h.core h.evolves

/-! ## Opening a transaction -/

theorem ParentOk.self (run : Run) : ParentOk run run.parent :=
  ⟨fun _ _ => ⟨_,rfl⟩,fun _ _ _ => ⟨_,rfl⟩⟩

theorem RowsFacts.componentOrder {q a : AgentRunCostComponent} (h : RowsFacts w q a) :
    [q,a].map AgentRunCostComponent.component = componentOrder := by
  simp only [List.map_cons,List.map_nil,h.query,h.answer,Ledger.componentOrder]

theorem RowsFacts.find_query {q a : AgentRunCostComponent} (h : RowsFacts w q a) :
    [q,a].find? (isComponent .queryEmbedding) = some q := by
  simp [isComponent,h.query]

theorem RowsFacts.find_answer {q a : AgentRunCostComponent} (h : RowsFacts w q a) :
    [q,a].find? (isComponent .answerGeneration) = some a := by
  simp [isComponent,h.query,h.answer]

theorem Kept.locked {q a : AgentRunCostComponent} (h : Kept authority w₀ w) (fl : Option Run)
    (hdb : w.db = some run) (hfl : ∀ f, fl = some f → FlushedFacts w run f) (hrows : RowsFacts w q a)
    (horder : InOrder run.parent q a) (hle : RowsLe run.rows [q,a]) (hp : ParentOk run p)
    (hfresh : (∀ u, w.unit = some u → u.session = i → u.parent = none) → p = run.parent)
    (hbase : run.rows = [q,a] ∨ run.parent.runRecordPhase = .admission ∧ ∀ r ∈ [q,a],
      isClosed r = true ∨ r.dispatchState = .notAttempted ∧ componentIsUnused run.parent r.component = true) :
    Locked authority w₀ w i run p q a { w with unit := some ⟨i,fl,some p,some [q,a]⟩ } := by
  have hc := Carries.setUnit w (some ⟨i,fl,some p,some [q,a]⟩)
  refine ⟨⟨h.core.carries hc,h.evolves.carries hc,hdb,fl,rfl⟩,?_,rfl,hrows.forgets hc.toForgets,horder,hle,hp,
    hfresh,hbase⟩
  intro u f hu hf
  cases hu
  exact (hfl f hf).forgets hc.toForgets

/-- Either the run does not exist, or another session holds it, or the session now does. -/
theorem Kept.selectForUpdate {Q : Option (AgentRun × List AgentRunCostComponent) → World → Prop}
    {E : LedgerError → World → Prop} (h : Kept authority w₀ w) (i : Nat) (he : ∀ e, E e w)
    (hnone : w.db = none → Q none w)
    (hsome : ∀ run p q a w', Locked authority w₀ w i run p q a w' → Q (some (p,[q,a])) w') :
    wp (selectForUpdate i) Q E w := by
  unfold Ledger.selectForUpdate
  refine wp_seq_get ?_
  obtain ⟨db,unit,memory,consumed,observations,grants,history⟩ := w
  cases db with
  | none => exact hnone rfl
  | some run =>
    refine wp_seq_require (he _) fun hi => ?_
    have hrun := h.core.run run rfl
    have hself := ParentOk.self run
    obtain ⟨q,a,hrows,hfacts,horder⟩ := hrun.rows
    obtain ⟨parent,rows⟩ := run
    dsimp only at hrows
    subst hrows
    cases unit with
    | none => exact hsome _ _ q a _ (h.locked none rfl (fun _ hf => nomatch hf) hfacts horder (RowsLe.refl _) hself
        (fun _ => rfl) (.inl rfl))
    | some u =>
      obtain ⟨run',hdb',huf⟩ := h.unit u rfl
      cases hdb'
      obtain ⟨session,flushed,cached,urows⟩ := u
      have hs : session = i := by simpa only [Option.getD_some,decide_eq_true_eq] using hi
      subst hs
      -- The cached parent wins over the one that was selected.
      have hcached : ∀ fparent, (∀ u, some (UnitOfWork.mk session flushed cached urows) = some u →
          u.session = session → u.parent = none) → cached.getD fparent = fparent := by
        intro fparent hn
        have he : cached = none := hn _ rfl rfl
        rw [he]
        rfl
      cases flushed with
      | none =>
        have hpar : ParentOk ⟨parent,[q,a]⟩ (cached.getD parent) := by
          cases cached with
          | none => exact hself
          | some p => exact huf.parent p rfl
        exact hsome _ _ q a _ (h.locked none rfl (fun _ hf => nomatch hf) hfacts horder (RowsLe.refl _) hpar
          (hcached parent) (.inl rfl))
      | some f =>
        have hff := huf.flushed f rfl
        obtain ⟨fparent,frows⟩ := f
        obtain ⟨q',a',hrows',hfacts',horder'⟩ := hff.rows
        have hparent := hff.parent
        dsimp only at hrows' hparent
        subst hrows' hparent
        have hpar : ParentOk ⟨fparent,[q,a]⟩ (cached.getD fparent) := by
          cases cached with
          | none => exact hself
          | some p => exact huf.parent p rfl
        exact hsome _ _ q' a' _ (h.locked (some _) rfl (fun f' hf' => huf.flushed f' hf') hfacts' horder' hff.le
          hpar (hcached fparent) (.inr ⟨hff.admission,hff.settled⟩))

theorem Kept.lockedRun {Q : AgentRun × List AgentRunCostComponent → World → Prop}
    {E : LedgerError → World → Prop} (h : Kept authority w₀ w) (i : Nat) (he : ∀ e, E e w)
    (hq : ∀ run p q a w', Locked authority w₀ w i run p q a w' → Q (p,[q,a]) w') :
    wp (lockedRun i) Q E w := by
  unfold Ledger.lockedRun
  refine wp_seq (h.selectForUpdate i he (fun _ => he _) ?_)
  intro run p q a w' hl
  refine wp_seq (wp_seq_pure ?_)
  refine wp_seq ((wp_require _ _ _ _ _).mpr ⟨fun _ => hq run p q a w' hl,fun hn => ?_⟩)
  exact absurd hl.rows.componentOrder (of_decide_eq_false hn)

/-! ## What a locked admission says -/

namespace Locked

variable {q a : AgentRunCostComponent} {w' : World}

theorem memory (h : Locked authority w₀ w i run p q a w') : w'.memory = w.memory := by rw [h.frame]

theorem history (h : Locked authority w₀ w i run p q a w') : w'.history = w.history := by rw [h.frame]

theorem consumed (h : Locked authority w₀ w i run p q a w') : w'.consumed = w.consumed := by rw [h.frame]

theorem issued (h : Locked authority w₀ w i run p q a w') : w'.issued = w.issued := by rw [h.frame]

theorem kept (h : Locked authority w₀ w i run p q a w') : Kept authority w₀ w' := h.draft.kept h.flushed h.parent

theorem runFacts (h : Locked authority w₀ w i run p q a w') : RunFacts authority w' run :=
  h.draft.core.run run h.draft.db

end Locked

theorem componentIsUnused_sameButCache {p p' : AgentRun} (h : SameButCache p p') (c : RagPaidComponent) :
    componentIsUnused p c = componentIsUnused p' c := by
  obtain ⟨_,rfl⟩ := h
  rfl

theorem isClosed_notAttempted {r : AgentRunCostComponent} (h : r.dispatchState = .notAttempted) :
    isClosed r = false := by
  simp [isClosed,h]

theorem isClosed_dispatching {r : AgentRunCostComponent} (h : r.dispatchState = .dispatching) :
    isClosed r = false := by
  simp [isClosed,h]

theorem InOrder.parent {p' : AgentRun} {q a : AgentRunCostComponent} (h : InOrder p q a)
    (hp : componentIsUnused p' .queryEmbedding = componentIsUnused p .queryEmbedding) : InOrder p' q a := by
  refine ⟨?_,?_⟩
  · rw [hp]
    exact h.used
  · rw [hp]
    exact h.settled

/-- Once the embedding is closed its order does not depend on the route. -/
theorem InOrder.of_closed {q a : AgentRunCostComponent} (h : InOrder p q a) (hc : isClosed q = true)
    (p' : AgentRun) : InOrder p' q a := by
  refine ⟨fun hd => ?_,fun ha => ?_⟩
  · rw [isClosed_dispatching hd] at hc
    cases hc
  · rcases h.settled ha with ht | ⟨hn,_⟩
    · exact .inl ht
    · rw [isClosed_notAttempted hn] at hc
      cases hc

/-- An open row of a component the route uses was not flushed away. -/
theorem Locked.base_of_open {q a r : AgentRunCostComponent} {w' : World}
    (h : Locked authority w₀ w i run p q a w') (hs : p.status = .running)
    (hp : p.runRecordPhase = .admission) (hr : r ∈ [q,a]) (ho : isClosed r = false)
    (hu : r.dispatchState = .notAttempted → componentIsUnused p r.component = false) :
    run.rows = [q,a] := by
  rcases h.base with hb | ⟨_,hb⟩
  · exact hb
  · rcases hb r hr with hc | ⟨hn,hc⟩
    · rw [ho] at hc
      cases hc
    · rw [← componentIsUnused_sameButCache (h.parent.admission hs hp),hu hn] at hc
      cases hc

theorem RowsFacts.onComponent_query {q a : AgentRunCostComponent} (h : RowsFacts w q a)
    (f : AgentRunCostComponent → AgentRunCostComponent) :
    onComponent .queryEmbedding f [q,a] = [f q,a] := by
  simp [onComponent,h.query,h.answer]

theorem RowsFacts.onComponent_answer {q a : AgentRunCostComponent} (h : RowsFacts w q a)
    (f : AgentRunCostComponent → AgentRunCostComponent) :
    onComponent .answerGeneration f [q,a] = [q,f a] := by
  simp [onComponent,h.query,h.answer]

theorem RowsLe.pair {q a q' a' : AgentRunCostComponent} (hq : RowLe q q') (ha : RowLe a a') :
    RowsLe [q,a] [q',a'] :=
  .cons hq (.cons ha .nil)

end ParaWorks.Ledger
