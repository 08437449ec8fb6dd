import ParaWorks.Ledger.DispatchKept

/-!
# Pending projections, closures and recovery keep the invariant
-/

namespace ParaWorks.Ledger

open Lib

variable {authority : LedgerAuthority} {w₀ w w' : World} {i : Nat} {env : Environment} {run : Run}
  {p : AgentRun} {q a : AgentRunCostComponent} {rows : List AgentRunCostComponent}
  {g : CommittedRagDispatchGrant}

theorem loadPendingProjection_keeps : Keeps (Kept authority w₀) (loadPendingProjection authority i env) := by
  intro w h
  unfold loadPendingProjection runtimeHealthEffect
  refine wp_seq_require h fun _ => ?_
  refine wp_seq_getMemory ?_
  refine wp_seq_present h fun _ _ => ?_
  refine wp_seq (h.lockedRun i (fun _ => h) ?_)
  intro run p q a w' hl
  exact wp_seq_require hl.kept fun _ => hl.kept

/-- A refused grant leaves the active ones. -/
theorem deferAnswerEvidenceRefusal_keeps (g : CommittedRagDispatchGrant) :
    Keeps (Kept authority w₀) (deferAnswerEvidenceRefusal i g) := by
  intro w h
  unfold deferAnswerEvidenceRefusal
  refine wp_seq_get (wp_seq_getMemory ?_)
  refine wp_seq_require h fun hc => ?_
  simp only [Bool.and_eq_true,decide_eq_true_eq] at hc
  obtain ⟨⟨hanswer,_⟩,hactive⟩ := hc
  obtain ⟨run,hdb⟩ := h.core.db_of_active hactive
  refine h.mapMemory hdb i ⟨?_,fun _ _ hb => ⟨hb,id⟩,fun _ hr => ⟨hr,id⟩,fun ho => ⟨ho,rfl⟩,fun _ => .inl,
    fun _ _ => .inl⟩ ?_
  · intro c g' hg'
    dsimp only [put] at hg'
    split at hg'
    · cases hg'
    · exact hg'
  · intro g' hg'
    cases hg'
    rw [hanswer] at hactive
    exact .inr hactive

/-! ## The owners -/

theorem safePendingOwner_wp {P : World → Prop} {embeddingOnly : Bool} {body : LedgerM Unit} (h : P w)
    (hbody : wp body (fun _ => P) (fun _ => P) w) :
    wp (safePendingOwner i env embeddingOnly body) (fun _ => P) (fun _ => P) w := by
  unfold safePendingOwner
  refine wp_seq_getMemory ?_
  refine wp_seq_require h fun _ => ?_
  refine wp_seq_require h fun _ => ?_
  refine wp_seq_require h fun _ => ?_
  refine wp_seq (wp_mono hbody (fun _ w' h' => ?_) fun _ _ h' => h')
  exact (wp_require _ _ _ _ _).mpr ⟨fun _ => h',fun _ => h'⟩

theorem terminalFailureOwner_wp {P : World → Prop} {required : Bool} {body : LedgerM Unit} (h : P w)
    (hbody : wp body (fun _ => P) (fun _ => P) w) :
    wp (terminalFailureOwner env required body) (fun _ => P) (fun _ => P) w := by
  unfold terminalFailureOwner
  refine (wp_tryCatch _ _ _ _ _).mpr ?_
  refine wp_mono (Q := fun _ => P) (E := fun _ => P) ?_ (fun _ _ h' => h') ?_
  · refine wp_seq_require h fun _ => ?_
    refine wp_seq_require h fun _ => ?_
    refine wp_seq (wp_mono hbody (fun _ w' h' => ?_) fun _ _ h' => h')
    exact (wp_require _ _ _ _ _).mpr ⟨fun _ => h',fun _ => h'⟩
  · intro e w' h'
    cases e <;> exact h'

/-! ## Zeroing rows -/

/-- Each row is kept or zeroed. -/
structure Zeroing (w : World) (q a : AgentRunCostComponent)
    (f : AgentRunCostComponent → AgentRunCostComponent) : Prop where
  kept : ∀ r ∈ [q,a], f r = r ∨ f r = makeTerminalZero r ∧ isClosed r = false ∧
    ∀ g, w.Live g → g.component ≠ r.component
  total : ∀ r, f r = r ∨ f r = makeTerminalZero r

theorem Zeroing.rowsFacts {f : AgentRunCostComponent → AgentRunCostComponent} (hz : Zeroing w q a f)
    (h : RowsFacts w q a) : RowsFacts w (f q) (f a) := by
  refine h.map ?_ ?_ ?_
  · intro r
    rcases hz.total r with he | he <;> rw [he]
    rfl
  · intro r x hx
    rcases hz.total r with he | he <;> rw [he] at hx
    · exact hx
    · cases hx
  · intro r hr hf
    rcases hz.kept r hr with he | ⟨he,_,hlive⟩ <;> rw [he]
    · exact hf
    · exact RowFacts.makeTerminalZero hlive

theorem Zeroing.inOrder {f : AgentRunCostComponent → AgentRunCostComponent} (hz : Zeroing w q a f)
    (h : InOrder p q a) : InOrder p (f q) (f a) := by
  refine h.advance ?_ ?_
  · rcases hz.total q with he | he <;> rw [he]
    · exact .inl rfl
    · exact .inr rfl
  · intro ha
    rcases hz.total a with he | he <;> rw [he] at ha
    · exact ha
    · cases ha

theorem Zeroing.rowsLe {f : AgentRunCostComponent → AgentRunCostComponent} (hz : Zeroing w q a f) :
    RowsLe [q,a] ([q,a].map f) := by
  refine RowsLe.map fun r hr => ?_
  rcases hz.kept r hr with he | ⟨he,hopen,_⟩ <;> rw [he]
  · exact RowLe.refl r
  · exact RowLe.makeTerminalZero hopen

theorem RowsFacts.mem {r : AgentRunCostComponent} (h : RowsFacts w q a) (hr : r ∈ [q,a]) : RowFacts w r := by
  rcases List.mem_pair.mp hr with rfl | rfl
  · exact h.queryFacts
  · exact h.answerFacts

/-- No live grant depends on a row without an attempt. -/
theorem RowFacts.no_live {r : AgentRunCostComponent} (h : RowFacts w r) (ha : r.attempted = false) :
    ∀ g, w.Live g → g.component ≠ r.component := by
  intro g hg hc
  have ht := h.live_attempted hg hc
  rw [ha] at ht
  cases ht

/-! ## Pending projections -/

theorem SameButCache.refl (p : AgentRun) : SameButCache p p := ⟨_,rfl⟩

theorem SameButCache.trans {p' p'' : AgentRun} (h : SameButCache p p') (h' : SameButCache p' p'') :
    SameButCache p p'' := by
  obtain ⟨c,rfl⟩ := h
  obtain ⟨_,rfl⟩ := h'
  exact ⟨c,rfl⟩

theorem SameButCache.symm {p' : AgentRun} (h : SameButCache p p') : SameButCache p' p := by
  obtain ⟨_,rfl⟩ := h
  exact ⟨_,rfl⟩

theorem ParentOk.sameButCache {p' : AgentRun} (h : ParentOk run p) (hs : SameButCache p' p) : ParentOk run p' := by
  have hs' := hs
  obtain ⟨_,rfl⟩ := hs'
  exact ⟨fun h₁ h₂ => hs.trans (h.admission h₁ h₂),fun h₁ h₂ h₃ => hs.trans (h.pending h₁ h₂ h₃)⟩

/-- A merged cache identity changes nothing an operation may not meet. -/
theorem applyCacheHit_wp {cache : Option CacheHit} {Q : AgentRun → World → Prop}
    (h : Locked authority w₀ w i run p q a w')
    (hq : ∀ p' w'', Draft authority w₀ w'' i run p' [q,a] → FlushedOk w'' run → Forgets w' w'' →
      w''.memory = w'.memory → w''.consumed = w'.consumed → SameButCache p' p → Q p' w'') :
    wp (applyCacheHit p cache) Q (fun _ => Kept authority w₀) w' := by
  unfold applyCacheHit
  cases cache with
  | none => exact hq p w' h.draft h.flushed ⟨rfl,rfl,fun _ => id,fun _ => MemoryLe.refl _⟩ rfl rfl (SameButCache.refl p)
  | some hit =>
    refine wp_seq_require h.kept fun _ => ?_
    exact hq _ _ (h.draft.assignParent _) (h.flushed.assignParent _) ⟨rfl,rfl,fun _ => id,fun _ => MemoryLe.refl _⟩
      rfl rfl ⟨_,rfl⟩

theorem isUndispatched_iff {r : AgentRunCostComponent} (h : isUndispatched r = true) :
    r.dispatchState = .notAttempted ∧ r.attempted = false := by
  simp only [isUndispatched,Bool.and_eq_true,decide_eq_true_eq,Bool.not_eq_true'] at h
  exact ⟨h.1.1.1.1,h.1.1.1.2⟩

/-- A proved evidence refusal leaves no live grant for the answer. -/
theorem evidenceRefusal_no_live (h : Core authority w) {m : Memory} (hm : w.memory i = m)
    (hp : evidenceRefusalProved m w.consumed a g = true) :
    a.dispatchState = .dispatching ∧ ∀ g', w.Live g' → g'.component ≠ .answerGeneration := by
  simp only [evidenceRefusalProved,carriesClaim,Bool.and_eq_true,decide_eq_true_eq] at hp
  obtain ⟨⟨⟨⟨⟨⟨⟨⟨⟨hrefused,hconsumed⟩,hclaim,_⟩,_⟩,_⟩,_⟩,_⟩,_⟩,_⟩,hactive⟩ := hp
  subst hm
  obtain ⟨hissued,hcomp,hledger⟩ := h.memory.refused i g hrefused
  refine ⟨hclaim,fun g' hg' hc => ?_⟩
  have he : g' = g := h.grants.unique g' (h.live_issued hg') g hissued (hc.trans hcomp.symm)
  subst he
  rcases hg' with hg' | ⟨j,hj⟩
  · exact hconsumed hg'
  · obtain ⟨_,_,hl⟩ := h.memory.active j _ g' hj
    rw [← hl,hledger,hc,hactive] at hj
    cases hj

theorem MemoryLe.retireAnswer (m : Memory) : MemoryLe (retireAnswer m) m where
  active _ _ := id
  budgets c b hb := by
    simp only [Ledger.retireAnswer,put] at hb
    split at hb
    · cases hb
    · exact ⟨hb,id⟩
  reservation _ := nofun
  owns ho := ⟨ho,rfl⟩
  pending _ := .inl
  receipts _ _ := .inl

/-- What a pending transition zeroes was never sent. -/
theorem RowsFacts.pendingZeroing {p' : AgentRun} {embeddingOnly : Bool}
    {refusedGrant : Option CommittedRagDispatchGrant} (h : RowsFacts w q a) (hcore : Core authority w)
    (hrefused : refusedGrant.all (evidenceRefusalProved (w.memory i) w.consumed a) = true)
    (hav : safePendingAvailable p' [q,a] embeddingOnly refusedGrant.isSome = true) :
    Zeroing w q a fun r => if pendingZeroes embeddingOnly r then makeTerminalZero r else r := by
  simp only [safePendingAvailable,Bool.and_eq_true,List.all_eq_true] at hav
  refine ⟨fun r hr => ?_,fun r => ?_⟩
  · by_cases hz : pendingZeroes embeddingOnly r = true
    · right
      refine ⟨if_pos hz,?_⟩
      have hr' := hav.2 r hr
      simp only [hz,Bool.not_true,Bool.false_or,Bool.or_eq_true,Bool.and_eq_true,decide_eq_true_eq] at hr'
      rcases hr' with ⟨hsome,hanswer⟩ | hu
      · obtain ⟨g,hg⟩ := Option.isSome_iff_exists.mp hsome
        rw [hg,Option.all_some] at hrefused
        obtain ⟨hd,hlive⟩ := evidenceRefusal_no_live hcore rfl hrefused
        have he : r = a := h.eq_of_component hr (List.mem_cons_of_mem q List.mem_cons_self) (hanswer.trans h.answer.symm)
        subst he
        exact ⟨isClosed_dispatching hd,fun g' hg' hc => hlive g' hg' (hc.trans h.answer)⟩
      · obtain ⟨hn,ha⟩ := isUndispatched_iff hu
        exact ⟨isClosed_notAttempted hn,(h.mem hr).no_live ha⟩
    · exact .inl (if_neg hz)
  · by_cases hz : pendingZeroes embeddingOnly r = true
    · exact .inr (if_pos hz)
    · exact .inl (if_neg hz)

theorem RowsFacts.pending_terminal {m : Memory} {p' : AgentRun} {embeddingOnly : Bool} (h : RowsFacts w q a)
    (ht : (!embeddingOnly || terminalEmbeddingAvailable m p' q) = true) :
    ∀ r ∈ [q,a].map fun r => if pendingZeroes embeddingOnly r then makeTerminalZero r else r,
      r.dispatchState = .terminal := by
  intro r hr
  obtain ⟨r,hm,rfl⟩ := List.mem_map.mp hr
  by_cases hz : pendingZeroes embeddingOnly r = true
  · rw [if_pos hz]
    rfl
  · rw [if_neg hz]
    cases embeddingOnly with
    | false => exact absurd rfl hz
    | true =>
      rcases List.mem_pair.mp hm with rfl | rfl
      · simp only [terminalEmbeddingAvailable,Bool.not_true,Bool.false_or,Bool.and_eq_true,decide_eq_true_eq] at ht
        exact ht.1.1.1.1.1.1.2
      · exact absurd (by simp [pendingZeroes,h.answer]) hz

theorem safePendingBody_keeps (embeddingOnly : Bool) (refusedGrant : Option CommittedRagDispatchGrant)
    (cache : Option CacheHit) :
    Keeps (Kept authority w₀) (safePendingBody authority i env embeddingOnly refusedGrant cache) := by
  intro w h
  unfold safePendingBody
  refine wp_seq (h.lockedRun i (fun _ => h) ?_)
  intro run p q a w' hl
  refine wp_seq_present hl.kept fun query hquery => ?_
  refine wp_seq_present hl.kept fun answer hanswer => ?_
  rw [hl.rows.find_query] at hquery
  rw [hl.rows.find_answer] at hanswer
  cases hquery
  cases hanswer
  refine wp_seq (applyCacheHit_wp hl fun p' w₁ hdraft hflushed hforget _ _ hsame => ?_)
  have hparent := hl.parent.sameButCache hsame
  have hkept := hdraft.kept hflushed hparent
  refine wp_seq_get (wp_seq_getMemory ?_)
  refine wp_seq_require hkept fun hrefused => ?_
  refine wp_seq_require hkept fun hav => ?_
  refine wp_seq_require hkept fun hterminal => ?_
  refine wp_seq_require hkept fun _ => ?_
  have hrows := hl.rows.forgets hforget
  have hzero := hrows.pendingZeroing hdraft.core hrefused hav
  have hterminal' := hrows.pending_terminal hterminal
  simp only [safePendingAvailable,Bool.and_eq_true,decide_eq_true_eq] at hav
  obtain ⟨⟨⟨⟨hstatus,hadm⟩,hfence⟩,hcompleted⟩,_⟩ := hav
  have hsame' := hparent.admission hstatus hadm
  obtain ⟨_,_,_,_,hwindow,_,_⟩ := hsame'.phase (hdraft.core.run run hdraft.db) hadm
  let f := fun r : AgentRunCostComponent => if pendingZeroes embeddingOnly r then makeTerminalZero r else r
  refine wp_seq_modify (wp_seq_modify ?_)
  have hmarked := (hdraft.assignRows [f q,f a]).assignParent (pendingTotals p' [f q,f a])
  refine wp_seq (projectionOwnerFence_wp (fun _ => ?_) fun fence => ?_)
  · exact hmarked.kept ((hflushed.assignRows _).assignParent _) (ParentOk.unowned run hfence rfl)
  refine wp_seq_modify (wp_seq_modify ?_)
  have hpending := hmarked.assignParent (pendingParent authority (pendingTotals p' [f q,f a]) [f q,f a] fence)
  have hretire := Carries.mapMemory hpending.db i (MemoryLe.retireAnswer _) fun _ => .inl
  have horder : InOrder p' (f q) (f a) :=
    (hzero.inOrder hl.order).parent (componentIsUnused_sameButCache hsame' .queryEmbedding)
  refine wp_seq ((hpending.carries hretire rfl).commit
    ⟨⟨f q,f a,rfl,(hzero.rowsFacts hrows).forgets (Forgets.trans ?_ hretire.toForgets),horder.parent rfl⟩,rfl,?_⟩
    (hl.le.trans hzero.rowsLe) ?_)
  · exact ⟨rfl,rfl,fun _ => id,fun _ => MemoryLe.refl _⟩
  · exact PhaseOk.pending hstatus hcompleted hwindow hterminal'
  · rintro _ rfl hdone
    refine hdone.mapMemory rfl i ⟨fun _ _ => id,fun _ _ hb => ⟨hb,id⟩,fun _ hr => ⟨hr,id⟩,fun ho => ⟨ho,rfl⟩,?_,
      fun _ _ => .inl⟩ fun g hg => ?_
    · intro id hid
      cases hid
      exact .inr rfl
    · dsimp only at hg
      split at hg
      · cases hg
      · exact .inl hg

theorem commitSafePending_keeps (generations : PendingGenerations) (embeddingOnly : Bool)
    (refusedGrant : Option CommittedRagDispatchGrant) (cache : Option CacheHit) :
    Keeps (Kept authority w₀) (commitSafePending authority i env generations embeddingOnly refusedGrant cache) := by
  intro w h
  unfold commitSafePending
  refine wp_seq_require h fun _ => ?_
  refine wp_seq_getMemory ?_
  refine wp_seq_require h fun _ => ?_
  exact safePendingOwner_wp h (safePendingBody_keeps embeddingOnly refusedGrant cache w h)

theorem commitProviderFreePending_keeps (generations : PendingGenerations) :
    Keeps (Kept authority w₀) (commitProviderFreePending authority i env generations) := by
  intro w h
  unfold commitProviderFreePending runtimeHealthEffect
  refine wp_seq_require h fun _ => ?_
  exact commitSafePending_keeps generations false none none w h

theorem commitEmbeddingOnlyPending_keeps (generations : PendingGenerations) :
    Keeps (Kept authority w₀) (commitEmbeddingOnlyPending authority i env generations) := by
  intro w h
  unfold commitEmbeddingOnlyPending runtimeHealthEffect
  refine wp_seq_require h fun _ => ?_
  exact commitSafePending_keeps generations true none none w h

theorem commitAnswerCachePending_keeps (generations : PendingGenerations) (valid : Bool) (hit : CacheHit)
    (embeddingOnly : Bool) :
    Keeps (Kept authority w₀) (commitAnswerCachePending authority i env generations valid hit embeddingOnly) := by
  intro w h
  unfold commitAnswerCachePending runtimeHealthEffect
  refine wp_seq_require h fun _ => ?_
  refine wp_seq_require h fun _ => ?_
  exact commitSafePending_keeps generations embeddingOnly none (some hit) w h

theorem commitAnswerEvidenceChangedPending_keeps (g : CommittedRagDispatchGrant)
    (generations : PendingGenerations) :
    Keeps (Kept authority w₀) (commitAnswerEvidenceChangedPending authority i env g generations) := by
  intro w h
  unfold commitAnswerEvidenceChangedPending runtimeHealthEffect
  refine wp_seq_require h fun _ => ?_
  refine wp_seq_getMemory ?_
  refine wp_seq_require h fun _ => ?_
  refine wp_seq_get ?_
  refine wp_seq_require h fun _ => ?_
  refine wp_seq_modify ?_
  exact commitSafePending_keeps generations _ (some g) none _ (h.rollback i)

/-! ## Shadow runs -/

theorem ShadowRequest.resolve_wp {request : ShadowRequest} {Q : Outcome × Option ShadowComparison → World → Prop}
    {E : LedgerError → World → Prop} (he : ∀ e, E e w) (hq : ∀ r, Q r w) : wp request.resolve Q E w := by
  unfold ShadowRequest.resolve
  cases request with
  | immediate outcome comparison => exact hq _
  | deferred factory snapshotCurrent =>
    refine wp_seq_present (he _) fun comparison _ => ?_
    refine wp_seq_require (he _) fun _ => ?_
    exact wp_seq_require (he _) fun _ => hq _

theorem MemoryLe.forgetPending (m : Memory) : MemoryLe (forgetPending m) m :=
  (MemoryLe.retireAnswer m).trans ⟨fun _ _ => id,fun _ _ hb => ⟨hb,id⟩,fun _ hr => ⟨hr,id⟩,fun ho => ⟨ho,rfl⟩,
    (fun _ hp => nomatch hp),fun _ _ => .inl⟩

theorem finalizeShadowRunLocked_keeps (outcome : Outcome) (comparison : Option ShadowComparison) :
    Keeps (Kept authority w₀) (finalizeShadowRunLocked authority i env outcome comparison) := by
  intro w h
  unfold finalizeShadowRunLocked
  refine wp_seq (h.lockedRun i (fun _ => h) ?_)
  intro run p q a w' hl
  have hk := hl.kept
  refine wp_seq_present hk fun query hquery => ?_
  refine wp_seq_present hk fun answer hanswer => ?_
  rw [hl.rows.find_query] at hquery
  rw [hl.rows.find_answer] at hanswer
  cases hquery
  cases hanswer
  refine wp_seq_getMemory ?_
  refine wp_seq_require hk fun hpending => ?_
  refine wp_seq_require hk fun _ => ?_
  refine wp_seq_present hk fun route _ => ?_
  refine wp_seq_present hk fun admissionHmac _ => ?_
  refine wp_seq_require hk fun _ => ?_
  simp only [shadowPendingUnchanged,Bool.and_eq_true,decide_eq_true_eq] at hpending
  obtain ⟨⟨⟨⟨⟨⟨⟨⟨⟨⟨⟨⟨⟨⟨hid,hstatus⟩,hphase⟩,_⟩,_⟩,_⟩,hquery⟩,_⟩,_⟩,_⟩,hanswer⟩,_⟩,_⟩,_⟩,_⟩ := hpending
  have howner : p.projectionOwnerFenceHmac.isSome := hl.draft.core.memory.pending i _ hid
  obtain ⟨c,hsame⟩ := hl.parent.pending hstatus hphase howner
  -- The run is already pending, so nothing was flushed over it.
  have hbase : run.rows = [q,a] := by
    rcases hl.base with hb | ⟨hadm,_⟩
    · exact hb
    · rw [hsame] at hphase
      change run.parent.runRecordPhase = _ at hphase
      rw [hadm] at hphase
      cases hphase
  have htotal : p.totalChargedCostUsd = totalCharged [q,a] := by
    rw [hsame,← hbase]
    exact hl.runFacts.total
  refine wp_seq_modify ?_
  have hdraft := hl.draft.assignParent (completedParent authority p [q,a] outcome comparison route.1 route.2 admissionHmac env.now)
  have hclosed : ∀ r ∈ [q,a], isClosed r = true := by
    intro r hr
    rcases List.mem_pair.mp hr with rfl | rfl
    · exact isClosed_terminal hquery
    · exact isClosed_terminal hanswer
  refine wp_seq (hdraft.commit ⟨⟨q,a,rfl,hl.rows.forgets (Carries.setUnit w' _).toForgets,?_⟩,htotal,?_⟩ hl.le ?_)
  · exact hl.order.of_closed (isClosed_terminal hquery) _
  · exact ⟨nofun,rfl,hclosed⟩
  · rintro _ rfl hdone
    exact hdone.mapMemory rfl i (MemoryLe.forgetPending _) fun _ => .inl

theorem finalizeShadowRun_keeps (request : ShadowRequest) :
    Keeps (Kept authority w₀) (finalizeShadowRun authority i env request) := by
  intro w h
  unfold finalizeShadowRun runtimeHealthEffect
  refine wp_seq_require h fun _ => ?_
  refine wp_seq_require h fun _ => ?_
  refine (wp_tryCatch _ _ _ _ _).mpr (wp_mono (safePendingOwner_wp h ?_) (fun _ _ h' => h') ?_)
  · refine wp_seq (ShadowRequest.resolve_wp (fun _ => h) fun r => ?_)
    exact finalizeShadowRunLocked_keeps r.1 r.2 w h
  · exact fun e w' h' => wp_seq_modify (h'.rollback i)

/-! ## Failure closures -/

theorem checkInterComponentRow_wp {m : Memory} {r : AgentRunCostComponent} {Q : Unit → World → Prop}
    {E : LedgerError → World → Prop} (he : ∀ e, E e w)
    (hq : (isPaid m r.component = true → terminalCostRowUnchanged m r = true) →
      (isPaid m r.component = false → isUnpaid r = true) → Q () w) :
    wp (checkInterComponentRow m r) Q E w := by
  unfold checkInterComponentRow
  refine (wp_ite _ _ _ _ _ _).mpr ⟨fun hp => ?_,fun hn => ?_⟩
  · refine wp_seq_require (he _) fun _ => ?_
    refine (wp_require _ _ _ _ _).mpr ⟨fun hu => hq (fun _ => hu) fun hn => ?_,fun _ => he _⟩
    rw [hp] at hn
    cases hn
  · exact (wp_require _ _ _ _ _).mpr ⟨fun hu => hq (fun hp => absurd hp hn) fun _ => hu,fun _ => he _⟩

theorem wp_forM_pair {f : AgentRunCostComponent → LedgerM Unit} {Q : Unit → World → Prop}
    {E : LedgerError → World → Prop} (h : wp (f q) (fun _ => wp (f a) Q E) E w) :
    wp ([q,a].forM f) Q E w := by
  rw [List.forM_eq_forM,List.forM_cons,List.forM_cons,List.forM_nil]
  refine wp_seq (wp_mono h (fun _ w' h' => ?_) fun _ _ h' => h')
  exact wp_seq (wp_mono h' (fun _ _ h'' => h'') fun _ _ h'' => h'')

theorem isUnpaid_iff {r : AgentRunCostComponent} (h : isUnpaid r = true) :
    r.attempted = false ∧ (r.dispatchState = .notAttempted ∨ r.dispatchState = .terminal) := by
  simp only [isUnpaid,Bool.and_eq_true,Bool.or_eq_true,decide_eq_true_eq,Bool.not_eq_true'] at h
  exact ⟨h.1.1.1.1,h.1.1.2⟩

/-- A row that was zeroed stays what it is when it is zeroed again. -/
theorem WellShaped.makeTerminalZero_eq {r : AgentRunCostComponent} (h : WellShaped r)
    (hd : r.dispatchState = .terminal) (ha : r.attempted = false) : Ledger.makeTerminalZero r = r := by
  have hs := h.hasShape
  simp only [shapeOf,hd,ha,HasShape] at hs
  obtain ⟨_,_,hn,hi,ho,hai,hao,hr,hq,hb,hv,hf,hp,ht⟩ := hs
  obtain ⟨⟩ := r
  simp only at *
  subst_vars
  rfl

theorem RowsFacts.unpaidZeroing {paid : RagPaidComponent → Bool} (h : RowsFacts w q a)
    (hunpaid : ∀ r ∈ [q,a], paid r.component = false → isUnpaid r = true) :
    Zeroing w q a fun r => if paid r.component then r else makeTerminalZero r := by
  refine ⟨fun r hr => ?_,fun r => ?_⟩
  · by_cases hp : paid r.component = true
    · exact .inl (if_pos hp)
    · obtain ⟨ha,hd⟩ := isUnpaid_iff (hunpaid r hr (Bool.eq_false_iff.mpr hp))
      rcases hd with hd | hd
      · exact .inr ⟨if_neg hp,isClosed_notAttempted hd,(h.mem hr).no_live ha⟩
      · left
        rw [if_neg hp]
        exact (h.mem hr).shape.makeTerminalZero_eq hd ha
  · by_cases hp : paid r.component = true
    · exact .inl (if_pos hp)
    · exact .inr (if_neg hp)

/-- Releasing the projection owner leaves no parent an operation may not meet. -/
theorem Locked.released (h : Locked authority w₀ w i run p q a w') :
    ParentOk run { p with projectionOwnerFenceHmac := none } := by
  refine ⟨fun hs hp => ?_,fun _ _ hf => nomatch hf⟩
  have hsame := h.parent.admission hs hp
  obtain ⟨_,_,hfence,_⟩ := hsame.phase h.runFacts hp
  obtain ⟨c,he⟩ := hsame
  refine ⟨c,?_⟩
  rw [← he]
  obtain ⟨⟩ := p
  cases hfence
  rfl

theorem finalizeInterComponentFailure_keeps (outcome : Outcome) (finalizer : Option AssistantFinalizer) :
    Keeps (Kept authority w₀) (finalizeInterComponentFailure authority i env outcome finalizer) := by
  intro w h
  unfold finalizeInterComponentFailure runtimeHealthEffect
  refine wp_seq_require h fun _ => ?_
  refine wp_seq_require h fun _ => ?_
  refine wp_seq_getMemory ?_
  refine wp_seq_require h fun _ => ?_
  refine terminalFailureOwner_wp h (wp_seq (h.lockedRun i (fun _ => h) ?_))
  intro run p q a w' hl
  rw [← hl.memory]
  have hk := hl.kept
  refine wp_seq_require hk fun _ => ?_
  refine wp_seq_require hk fun _ => ?_
  refine wp_seq (wp_forM_pair (checkInterComponentRow_wp (fun _ => hk) fun hqp hqu => ?_))
  refine checkInterComponentRow_wp (fun _ => hk) fun hap hau => ?_
  let paid := isPaid (w'.memory i)
  have hunpaid : ∀ r ∈ [q,a], paid r.component = false → isUnpaid r = true := by
    intro r hr
    rcases List.mem_pair.mp hr with rfl | rfl
    · exact hqu
    · exact hau
  have hzero := hl.rows.unpaidZeroing hunpaid
  let f := fun r : AgentRunCostComponent => if paid r.component then r else makeTerminalZero r
  have hterminal : ∀ r ∈ [q,a], (f r).dispatchState = .terminal := by
    intro r hr
    by_cases hp : paid r.component = true
    · have hreceipt : terminalCostRowUnchanged (w'.memory i) r = true := by
        rcases List.mem_pair.mp hr with rfl | rfl
        · exact hqp hp
        · exact hap hp
      simp only [terminalCostRowUnchanged,decide_eq_true_eq] at hreceipt
      have ht := hl.draft.core.memory.receipts i _ _ hreceipt
      rwa [show f r = r from if_pos hp]
    · rw [show f r = makeTerminalZero r from if_neg hp]
      rfl
  refine wp_seq_modify (wp_seq_modify (wp_seq_modify ?_))
  have hdraft := (hl.draft.assignRows [f q,f a]).assignParent { p with projectionOwnerFenceHmac := none }
  have hflushed := (hl.flushed.assignRows [f q,f a]).assignParent { p with projectionOwnerFenceHmac := none }
  have hforget := Carries.mapMemory hdraft.db i (MemoryLe.forgetPending _) fun _ => .inl
  have hdraft' := hdraft.carries hforget rfl
  have hflushed' := hflushed.carries hforget rfl
  refine hdraft'.failRun (fun _ => hflushed') ((hzero.rowsFacts hl.rows).forgets (Forgets.trans ?_ hforget.toForgets))
    (hzero.inOrder hl.order) ?_ (hl.le.trans hzero.rowsLe) (fun _ => hdraft'.kept hflushed' hl.released)
    fun _ hfailed => hfailed.kept
  · exact ⟨rfl,rfl,fun _ => id,fun _ => MemoryLe.refl _⟩
  · intro r hr
    rcases List.mem_pair.mp hr with rfl | rfl
    · exact isClosed_terminal (hterminal q List.mem_cons_self)
    · exact isClosed_terminal (hterminal a (List.mem_cons_of_mem q List.mem_cons_self))

/-- A run none of whose calls was attempted may be zeroed whole. -/
theorem RowsFacts.untouchedZeroing (h : RowsFacts w q a)
    (hall : [q,a].all (fun r => r.dispatchState = .notAttempted) = true) : Zeroing w q a makeTerminalZero := by
  refine ⟨fun r hr => .inr ⟨rfl,?_⟩,fun _ => .inr rfl⟩
  have hd : r.dispatchState = .notAttempted := of_decide_eq_true (List.all_eq_true.mp hall r hr)
  exact ⟨isClosed_notAttempted hd,(h.mem hr).no_live ((h.mem hr).unattempted hd)⟩

theorem finalizeProjectionlessFailure_keeps (outcome : Outcome) (completedAt : Option Timestamp) :
    Keeps (Kept authority w₀) (finalizeProjectionlessFailure authority i env outcome completedAt) := by
  intro w h
  unfold finalizeProjectionlessFailure runtimeHealthEffect
  refine wp_seq_require h fun _ => ?_
  refine wp_seq_require h fun _ => ?_
  refine wp_seq (h.selectForUpdate i (fun _ => h) (fun _ => h) ?_)
  intro run p q a w' hl
  refine wp_seq_present hl.kept fun _ he => ?_
  cases he
  refine wp_seq_require hl.kept fun hav => ?_
  refine wp_seq_require hl.kept fun _ => ?_
  simp only [Bool.and_eq_true] at hav
  have hzero := hl.rows.untouchedZeroing hav.2
  refine wp_seq_modify (wp_seq_modify ?_)
  have hdraft := (hl.draft.assignRows [makeTerminalZero q,makeTerminalZero a]).assignParent { p with
    status := .failed
    runRecordPhase := .admissionOnly
    totalChargedCostUsd := 0
    completedAt := some (completion env completedAt)
    metadata := { p.metadata with
      runtimeCostSnapshotHmac := runtimeCostIdentity authority.sign [makeTerminalZero q,makeTerminalZero a]
        (some outcome) .admissionOnly .failed .terminal
      outcome := some outcome } }
  refine hdraft.commit ⟨⟨_,_,rfl,(hzero.rowsFacts hl.rows).forgets (Forgets.assigned w' _ _),?_⟩,rfl,?_⟩
    (hl.le.trans hzero.rowsLe) fun _ _ hdone => hdone
  · exact (hzero.inOrder hl.order).of_closed rfl _
  · refine ⟨rfl,rfl,?_⟩
    intro r hr
    rcases List.mem_pair.mp hr with rfl | rfl <;> rfl

theorem finalizePreSendRefusal_keeps (outcome : Outcome) (completedAt : Option Timestamp) :
    Keeps (Kept authority w₀) (finalizePreSendRefusal authority i env outcome completedAt) := by
  intro w h
  unfold finalizePreSendRefusal runtimeHealthEffect
  refine wp_seq_require h fun _ => ?_
  refine wp_seq_require h fun _ => ?_
  refine wp_seq (h.lockedRun i (fun _ => h) ?_)
  intro run p q a w' hl
  refine wp_seq_require hl.kept fun hav => ?_
  simp only [preSendAvailable,Bool.and_eq_true] at hav
  have hzero := hl.rows.untouchedZeroing hav.2
  refine wp_seq_modify ?_
  have hdraft := hl.draft.assignRows [makeTerminalZero q,makeTerminalZero a]
  refine hdraft.failRun nofun ((hzero.rowsFacts hl.rows).forgets (Carries.setUnit w' _).toForgets)
    (hzero.inOrder hl.order) ?_ (hl.le.trans hzero.rowsLe)
    (fun _ => hdraft.kept (hl.flushed.assignRows _) hl.parent) fun _ hfailed => hfailed.kept
  intro r hr
  rcases List.mem_pair.mp hr with rfl | rfl <;> rfl

/-- Both calls are never under way together. -/
theorem RowsFacts.not_both (h : RowsFacts w q a) (ho : InOrder p q a) (hq : q.dispatchState = .dispatching) :
    a.dispatchState ≠ .dispatching := by
  intro ha
  rcases ho.settled (h.answerFacts.shape.attempted_of_dispatching ha) with ht | ⟨hn,_⟩
  · rw [hq] at ht
    cases ht
  · rw [hq] at hn
    cases hn

theorem RowsFacts.eq_of_dispatching {r r' : AgentRunCostComponent} (h : RowsFacts w q a) (ho : InOrder p q a)
    (hr : r ∈ [q,a]) (hr' : r' ∈ [q,a]) (hd : r.dispatchState = .dispatching)
    (hd' : r'.dispatchState = .dispatching) : r = r' := by
  rcases List.mem_pair.mp hr with rfl | rfl <;> rcases List.mem_pair.mp hr' with rfl | rfl
  · rfl
  · exact absurd hd' (h.not_both ho hd)
  · exact absurd hd (h.not_both ho hd')
  · rfl

/-- A grant that was neither consumed nor is held any longer is dead, and with it its component. -/
theorem Core.retired_no_live {c : RagPaidComponent} (h : Core authority w)
    (hactive : (w.memory i).activeGrants c = some g) (hc : g.component = c) (hnew : g ∉ w.consumed)
    (hw : Forgets w w') (hnone : (w'.memory i).activeGrants c = none) :
    ∀ g', w'.Live g' → g'.component ≠ c := by
  intro g' hg' hc'
  have hissued := h.memory.active_issued hactive
  have he : g' = g := h.grants.unique g' (h.live_issued (hw.live hg')) g hissued (hc'.trans hc.symm)
  subst he
  rcases hg' with hg' | ⟨j,hj⟩
  · rw [hw.consumed] at hg'
    exact hnew hg'
  · have hj' := (hw.memory j).active _ _ hj
    obtain ⟨_,_,hl⟩ := h.memory.active j _ g' hj'
    obtain ⟨_,_,hl'⟩ := h.memory.active i _ g' hactive
    rw [← hl,hl',hc',hnone] at hj
    cases hj

theorem cancelClaimBeforeDispatch_wp {outcome : Outcome} {Q : Unit → World → Prop} (h : Kept authority w₀ w)
    (hq : ∀ w', Kept authority w₀ w' → (w'.memory i).activeGrants g.component = none → Q () w') :
    wp (cancelClaimBeforeDispatch authority i env g outcome) Q (fun _ => Kept authority w₀) w := by
  unfold cancelClaimBeforeDispatch
  refine wp_seq_get (wp_seq_getMemory ?_)
  refine wp_seq_require h fun hg => ?_
  refine wp_seq (h.lockedRun i (fun _ => h) ?_)
  intro run p q a w' hl
  refine wp_seq_require hl.kept fun _ => ?_
  refine wp_seq_present hl.kept fun selected hselected => ?_
  refine wp_seq_require hl.kept fun hclaim => ?_
  simp only [Bool.and_eq_true,decide_eq_true_eq] at hg
  simp only [carriesClaim,Bool.and_eq_true,decide_eq_true_eq] at hclaim
  obtain ⟨⟨hactive,hnew⟩,_⟩ := hg
  rw [← hl.memory] at hactive
  rw [← hl.consumed] at hnew
  have hmem := List.mem_of_find?_eq_some hselected
  have hcomp : selected.component = g.component := by simpa [isComponent] using List.find?_some hselected
  refine wp_seq_modify (wp_seq_modify ?_)
  have hdraft := hl.draft.assignRows [cancelRow q,cancelRow a]
  have hretire := Carries.mapMemory hdraft.db i (MemoryLe.retireGrant g.component _) fun _ => .inl
  have hassigned : Forgets w' (w'.assignRows [cancelRow q,cancelRow a]) := (Carries.setUnit w' _).toForgets
  have hforget := hassigned.trans hretire.toForgets
  have hdead := hl.draft.core.retired_no_live hactive rfl hnew hforget (mapMemory_retired _ i g.component id)
  have hrows := hl.rows.forgets hforget
  have hzero : Zeroing ((w'.assignRows [cancelRow q,cancelRow a]).mapMemory i (retireGrant g.component)) q a cancelRow := by
    refine ⟨fun r hr => ?_,fun r => ?_⟩
    · by_cases hopen : r.dispatchState = .dispatching ∨ r.dispatchState = .notAttempted
      · refine .inr ⟨if_pos hopen,?_⟩
        rcases hopen with hd | hn
        · -- The row under way is the one whose claim is cancelled.
          have he := hl.rows.eq_of_dispatching hl.order hr hmem hd hclaim.1
          refine ⟨isClosed_dispatching hd,?_⟩
          rw [he,hcomp]
          exact hdead
        · exact ⟨isClosed_notAttempted hn,(hrows.mem hr).no_live ((hrows.mem hr).unattempted hn)⟩
      · exact .inl (if_neg hopen)
    · unfold cancelRow
      split
      · exact .inr rfl
      · exact .inl rfl
  have hdraft' := hdraft.carries hretire rfl
  have hflushed := (hl.flushed.assignRows [cancelRow q,cancelRow a]).carries hretire rfl
  refine hdraft'.failRun (fun hn => by cases hn) (hzero.rowsFacts hrows) (hzero.inOrder hl.order) ?_ (hl.le.trans hzero.rowsLe)
    (fun _ => hdraft'.kept hflushed hl.parent) fun w'' hfailed => hq w'' hfailed.kept (by
      rw [hfailed.memory]
      exact mapMemory_retired _ i g.component id)
  have hclosed : ∀ r, isClosed (cancelRow r) = true := by
    intro r
    unfold cancelRow
    cases hd : r.dispatchState <;> simp [isClosed,makeTerminalZero,hd]
  intro r hr
  rcases List.mem_pair.mp hr with rfl | rfl <;> exact hclosed _

theorem cancelClaimBeforeDispatch_keeps (g : CommittedRagDispatchGrant) (outcome : Outcome) :
    Keeps (Kept authority w₀) (cancelClaimBeforeDispatch authority i env g outcome) :=
  fun _ h => cancelClaimBeforeDispatch_wp h fun _ h' _ => h'

/-! ## Recovery -/

theorem MemoryLe.retireAllGrants (m : Memory) : MemoryLe (retireAllGrants m) m :=
  ⟨fun _ _ => nofun,fun _ _ hb => ⟨hb,id⟩,fun _ hr => ⟨hr,id⟩,fun ho => ⟨ho,rfl⟩,fun _ => .inl,fun _ _ => .inl⟩

theorem abandonRow_process {r : AgentRunCostComponent} {x : Hmac}
    (h : (abandonRow r).processInstanceHmac = some x) : r.processInstanceHmac = some x := by
  cases hd : r.dispatchState <;> simp only [abandonRow,hd] at h
  · cases h
  all_goals exact h

theorem abandonRow_attempted {r : AgentRunCostComponent} (h : (abandonRow r).attempted = true) :
    r.attempted = true := by
  cases hd : r.dispatchState <;> simp only [abandonRow,hd] at h
  · cases h
  all_goals exact h

theorem InOrder.abandonRow (h : InOrder p q a) : InOrder p (abandonRow q) (abandonRow a) := by
  refine ⟨fun hd => ?_,fun ha => .inl ?_⟩
  · have hc := isClosed_abandonRow q
    rw [isClosed_dispatching hd] at hc
    cases hc
  · rcases h.settled (abandonRow_attempted ha) with ht | ⟨hn,_⟩
    · simp only [Ledger.abandonRow,ht]
    · simp only [Ledger.abandonRow,hn,makeTerminalZero]

theorem RowsFacts.abandonRow (h : RowsFacts w q a) : RowsFacts w (abandonRow q) (abandonRow a) :=
  h.map abandonRow_component (fun _ _ => abandonRow_process) fun _ _ hf => hf.abandonRow

theorem recoverIncompleteRun_wp {request : RecoveryAuthority} {Q : Unit → World → Prop}
    (h : Kept authority w₀ w)
    (hq : ∀ w', Kept authority w₀ w' → (∀ c, (w'.memory i).activeGrants c = none) →
      (∃ run, w'.db = some run ∧ run.parent.status = .failed) → Q () w') :
    wp (recoverIncompleteRun authority i env request) Q (fun _ => Kept authority w₀) w := by
  unfold recoverIncompleteRun
  refine wp_seq (h.lockedRun i (fun _ => h) ?_)
  intro run p q a w' hl
  have hk := hl.kept
  have hretired : ∀ w₁ w₂ : World, w₂.memory = (w₁.mapMemory i retireAllGrants).memory →
      ∀ c, (w₂.memory i).activeGrants c = none := by
    intro w₁ w₂ he c
    rw [he,mapMemory_memory,if_pos rfl]
    rfl
  refine wp_seq_require hk fun _ => ?_
  refine (wp_ite _ _ _ _ _ _).mpr ⟨fun _ => ?_,fun _ => ?_⟩
  · refine wp_seq_require hk fun _ => ?_
    refine wp_seq_require hk fun _ => ?_
    refine wp_seq_require hk fun hall => ?_
    have hclosed : ∀ r ∈ [q,a], isClosed r = true :=
      fun r hr => isClosed_terminal (of_decide_eq_true (List.all_eq_true.mp hall r hr))
    refine wp_seq_modify ?_
    have hretire := Carries.mapMemory hl.draft.db i (MemoryLe.retireAllGrants _) fun _ => .inl
    have hdraft := hl.draft.carries hretire rfl
    refine hdraft.failRun nofun (hl.rows.forgets hretire.toForgets) hl.order hclosed hl.le
      (fun _ => hdraft.kept (hl.flushed.carries hretire rfl) hl.parent) fun w'' hfailed => ?_
    obtain ⟨run',hdb',hstatus,_⟩ := hfailed.durable
    exact hq w'' hfailed.kept (hretired _ w'' hfailed.memory) ⟨run',hdb',hstatus⟩
  · refine wp_seq_require hk fun _ => ?_
    refine wp_seq_modify (wp_seq_modify ?_)
    have hdraft := hl.draft.assignRows [abandonRow q,abandonRow a]
    have hassigned : Forgets w' (w'.assignRows [abandonRow q,abandonRow a]) := (Carries.setUnit w' _).toForgets
    have hretire := Carries.mapMemory hdraft.db i (MemoryLe.retireAllGrants _) fun _ => .inl
    have hdraft' := hdraft.carries hretire rfl
    refine hdraft'.failRun nofun (hl.rows.abandonRow.forgets (hassigned.trans hretire.toForgets))
      hl.order.abandonRow ?_ (hl.le.trans (RowsLe.map fun r _ => RowLe.abandonRow r))
      (fun _ => hdraft'.kept ((hl.flushed.assignRows _).carries hretire rfl) hl.parent) fun w'' hfailed => ?_
    · intro r hr
      rcases List.mem_pair.mp hr with rfl | rfl <;> exact isClosed_abandonRow _
    · obtain ⟨run',hdb',hstatus,_⟩ := hfailed.durable
      exact hq w'' hfailed.kept (hretired _ w'' hfailed.memory) ⟨run',hdb',hstatus⟩

theorem recoverIncompleteRun_keeps (request : RecoveryAuthority) :
    Keeps (Kept authority w₀) (recoverIncompleteRun authority i env request) :=
  fun _ h => recoverIncompleteRun_wp h fun _ h' _ _ => h'

theorem pendingProjectionRecoverySnapshot_keeps :
    Keeps (Kept authority w₀) (pendingProjectionRecoverySnapshot authority i) := by
  intro w h
  unfold pendingProjectionRecoverySnapshot
  have h' := h.expireAll i
  refine wp_seq_modify (wp_seq_peekRun fun seen => ?_)
  refine wp_seq_present h' fun run _ => ?_
  refine wp_seq_require h' fun _ => ?_
  refine wp_seq_present h' fun fence _ => ?_
  exact wp_seq_require h' fun _ => h'

theorem recoverIncompleteShadowRuns_keeps :
    Keeps (Kept authority w₀) (recoverIncompleteShadowRuns authority i env) := by
  intro w h
  unfold recoverIncompleteShadowRuns runtimeHealthEffect
  refine wp_seq_require h fun _ => ?_
  have h' := h.expireAll i
  refine wp_seq_modify (wp_seq_peekRun fun seen => ?_)
  refine (wp_ite _ _ _ _ _ _).mpr ⟨fun _ => ?_,fun _ => h'⟩
  refine terminalFailureOwner_wp h' (wp_seq ?_)
  refine wp_mono (pendingProjectionRecoverySnapshot_keeps _ h') (fun s w'' h'' => ?_) fun _ _ h'' => h''
  exact recoverIncompleteRun_keeps _ w'' h''

/-! ## Every step -/

theorem Operation.run_keeps (operation : Operation) :
    Keeps (Kept authority w₀) (operation.run authority i env) := by
  cases operation with
  | createAdmission request => exact createAdmission_keeps request
  | bindAnswerBudget prepared projection => exact bindAnswerBudget_keeps prepared projection
  | claimComponent component prepared =>
    exact fun w h => wp_seq (claimComponent_keeps component prepared w h)
  | consumeCommittedGrant grant => exact consumeCommittedGrant_keeps grant
  | consumeTransportGrant grant => exact consumeTransportGrant_keeps grant
  | finalizeComponent grant observation => exact finalizeComponent_keeps grant observation
  | loadPendingProjection => exact fun w h => wp_seq (loadPendingProjection_keeps w h)
  | deferAnswerEvidenceRefusal grant => exact deferAnswerEvidenceRefusal_keeps grant
  | commitAnswerEvidenceChangedPending grant generations =>
    exact commitAnswerEvidenceChangedPending_keeps grant generations
  | commitProviderFreePending generations => exact commitProviderFreePending_keeps generations
  | commitEmbeddingOnlyPending generations => exact commitEmbeddingOnlyPending_keeps generations
  | commitAnswerCachePending generations valid hit embeddingOnly =>
    exact commitAnswerCachePending_keeps generations valid hit embeddingOnly
  | finalizeShadowRun request => exact finalizeShadowRun_keeps request
  | finalizeInterComponentFailure outcome finalizer => exact finalizeInterComponentFailure_keeps outcome finalizer
  | finalizeProjectionlessFailure outcome completedAt =>
    exact finalizeProjectionlessFailure_keeps outcome completedAt
  | finalizePreSendRefusal outcome completedAt => exact finalizePreSendRefusal_keeps outcome completedAt
  | cancelClaimBeforeDispatch grant outcome => exact cancelClaimBeforeDispatch_keeps grant outcome
  | recoverIncompleteRun request => exact recoverIncompleteRun_keeps request
  | recoverIncompleteShadowRuns => exact recoverIncompleteShadowRuns_keeps

/-- A new process in place of ledger `i`. -/
theorem Carries.restart (w : World) (i : Nat) (processHmac : Hmac) :
    Carries w (w.mapMemory i fun _ => Memory.fresh processHmac) where
  consumed := rfl
  issued := rfl
  history _ := id
  memory j := by
    rw [mapMemory_memory]
    split
    · exact MemoryLe.fresh processHmac _
    · exact MemoryLe.refl _
  db := rfl
  blank _ hb := by
    refine ⟨hb.consumed,hb.issued,hb.history,fun j => ?_⟩
    rw [mapMemory_memory]
    split
    · exact ⟨processHmac,rfl⟩
    · exact hb.memory j
  refused j g hg := by
    rw [mapMemory_memory] at hg
    split at hg
    · cases hg
    · exact .inl hg
  log := id
  committed _ := id
  bound _ _ _ _ := id

/-- A restart forgets; it makes nothing durable. -/
theorem Kept.restart (h : Kept authority w₀ w) (i : Nat) (processHmac : Hmac) :
    Kept authority w₀ (restart w i processHmac) :=
  (h.rollback i).carries (Carries.restart _ i processHmac) rfl

theorem Kept.step (h : Kept authority w₀ w) (c : Command) : Kept authority w₀ (step authority w c) := by
  cases c with
  | call i env operation => exact wp_finalState (operation.run_keeps w h)
  | restart i processHmac => exact h.restart i processHmac
  | rollback i => exact h.rollback i

/-! ## Every run -/

theorem Core.initial (processHmac : Nat → Hmac) : Core authority (World.initial processHmac) where
  blank _ := ⟨rfl,rfl,rfl,fun i => ⟨processHmac i,rfl⟩⟩
  run _ hr := nomatch hr
  memory := by
    refine ⟨?_,?_,?_,?_,?_,?_,?_⟩
    · exact fun _ _ _ => nofun
    · exact fun _ _ => nofun
    · rintro i j ⟨_,hc⟩ _
      cases hc
    · exact fun _ _ _ => nofun
    · exact fun _ _ => nofun
    · exact fun _ _ => nofun
    · exact fun _ _ _ => nofun
  grants := ⟨(fun _ hg => nomatch hg),List.nodup_nil,(fun _ hg => nomatch hg)⟩
  log := trivial
  committed _ hr := nomatch hr

theorem Kept.after (h : Kept authority w₀ w) (commands : List Command) :
    Kept authority w₀ (Lib.run (Ledger.step authority) w commands) :=
  Lib.run_invariant (fun _ c hk => hk.step c) h commands

/-- Every reachable state carries the invariant, and evolves from every state before it. -/
theorem Kept.self (h : Kept authority w₀ w) : Kept authority w w :=
  ⟨h.core,h.unit,Evolves.refl w⟩

theorem Reachable.kept (h : Reachable authority w) : Kept authority w w := by
  obtain ⟨processHmac,commands,rfl⟩ := h
  have hinitial : Kept authority (World.initial processHmac) (World.initial processHmac) :=
    ⟨Core.initial processHmac,UnitInv.none rfl,Evolves.refl _⟩
  exact (hinitial.after commands).self

theorem Reachable.after (h : Reachable authority w) (commands : List Command) :
    Reachable authority (Lib.run (Ledger.step authority) w commands) := by
  obtain ⟨processHmac,before,rfl⟩ := h
  exact ⟨processHmac,before++commands,(Lib.run_append _ _ _).symm⟩

/-- How any later state follows a reachable one. -/
theorem Reachable.evolves (h : Reachable authority w) (commands : List Command) :
    Evolves w (Lib.run (Ledger.step authority) w commands) :=
  (h.kept.after commands).evolves

end ParaWorks.Ledger
