import ParaWorks.Ledger.RowUpdates

/-!
# Admission, binding and claiming keep the invariant
-/

namespace ParaWorks.Ledger

open Lib

variable {authority : LedgerAuthority} {w₀ w : World} {i : Nat} {env : Environment}

/-! ## Creating the run -/

def AdmissionRequest.pair (r : AdmissionRequest) : RagPaidComponent → AuthorizedProviderPolicySnapshot × RagAdmissionBudget
  | .queryEmbedding => r.query
  | .answerGeneration => r.answer

/-- A ledger in whose memory nothing but the admission of `request` is known. -/
structure Started (request : AdmissionRequest) (m : Memory) : Prop where
  active : ∀ c, m.activeGrants c = none
  refused : m.evidenceRefusedGrant = none
  pending : m.pendingProjectionIdentity = none
  receipts : ∀ c, m.terminalCostRows c = none
  budgets : ∀ c b, m.admissionBudgets c = some b → m.Owns ∧ (request.pair c).2 = .prepared b
  reservation : ∀ r, m.answerReservation = some r → m.Owns ∧ m.admissionBudgets .answerGeneration = none

theorem Started.fresh (request : AdmissionRequest) (p : Hmac) : Started request (Memory.fresh p) :=
  ⟨fun _ => rfl,rfl,rfl,fun _ => rfl,nofun,nofun⟩

theorem RagAdmissionBudget.eq_prepared {b : RagAdmissionBudget} {p : PreparedPaidCallBudget}
    (h : b.prepared? = some p) : b = .prepared p := by
  cases b with
  | prepared b =>
    cases h
    rfl
  | ceiling r => nomatch h
  | unused r => nomatch h

theorem RagAdmissionBudget.prepared?_of_ceiling {b : RagAdmissionBudget}
    {r : RagAnswerCeilingReservation} (h : b.ceiling? = some r) : b.prepared? = none := by
  cases b with
  | ceiling r => rfl
  | prepared b => nomatch h
  | unused r => nomatch h

theorem Started.admitted (request : AdmissionRequest) (p : Hmac) (hq : request.query.2.ceiling? = none) :
    Started request (admitted request (Memory.fresh p)) := by
  have howns : (Ledger.admitted request (Memory.fresh p)).Owns := ⟨.answerGeneration,rfl⟩
  refine ⟨fun _ => rfl,rfl,rfl,fun _ => rfl,?_,?_⟩
  · intro c b hb
    refine ⟨howns,RagAdmissionBudget.eq_prepared ?_⟩
    cases c <;> simpa [Ledger.admitted,put,Memory.fresh,AdmissionRequest.pair] using hb
  · intro r hr
    have ha : request.answer.2.ceiling? = some r := by
      simpa [Ledger.admitted,Memory.fresh,hq] using hr
    have hn := RagAdmissionBudget.prepared?_of_ceiling ha
    refine ⟨howns,?_⟩
    simp [Ledger.admitted,put,Memory.fresh,hn]

theorem admissionRow_facts {request : AdmissionRequest} (hlive : ∀ g, ¬w.Live g) (hissued : w.issued = [])
    (hmem : ∀ j, Started request (w.memory j)) (c : RagPaidComponent) :
    RowFacts w (admissionRow c (request.pair c)) where
  shape := ⟨.notAttempted,rfl,rfl,rfl,rfl,rfl,rfl,rfl,rfl,rfl,rfl,rfl⟩
  charge _ := Nat.zero_le _
  blocked := nofun
  paid g hg := absurd hg (hlive g)
  issued g hg := by
    rw [hissued] at hg
    cases hg
  budget j b hb := by
    left
    change (request.pair c).2.reservedCostUsd = b.reservedCostUsd
    rw [((hmem j).budgets c b hb).2]
    rfl
  owner _ _ _ := nofun

theorem admissionWindow_isAdmission {m : RagMode} {s : RagSurface} {b : RagRetrievalBackend}
    {window : SourceWindow} (h : admissionSourceWindow m s b = some window) : IsAdmissionWindow window := by
  unfold admissionSourceWindow at h
  split at h
  · cases h
  · cases h
    exact ⟨m,s,b,rfl⟩

/-- The state after an insertion, whatever the inserting ledger then remembers. -/
theorem admission_kept {request : AdmissionRequest} (current query scope identity : Hmac)
    (h : Kept authority w₀ w) (hdb : w.db = none) (hwin : IsAdmissionWindow request.sourceWindow)
    (memory : Nat → Memory) (hmem : ∀ j, Started request (memory j))
    (howner : ∀ j k, (memory j).Owns → (memory k).Owns → j = k) :
    Kept authority w₀ { w with
      db := some ⟨request.parent authority current query scope identity,request.rows⟩
      memory := memory
      history := .committed ⟨request.parent authority current query scope identity,request.rows⟩ :: w.history } := by
  have hblank := h.core.blank hdb
  obtain ⟨db,unit,oldMemory,consumed,observations,grants,history⟩ := w
  obtain ⟨rfl,rfl,rfl,_⟩ := hblank
  cases hdb
  have hunit : unit = none := by
    cases unit with
    | none => rfl
    | some u =>
      obtain ⟨_,hrun,_⟩ := h.unit u rfl
      cases hrun
  subst hunit
  let run : Run := ⟨request.parent authority current query scope identity,request.rows⟩
  let w' : World := ⟨some run,none,memory,[],observations,[],[.committed run]⟩
  have hlive : ∀ g, ¬w'.Live g := by
    rintro g (hg | ⟨j,hj⟩)
    · cases hg
    · change (memory j).activeGrants g.component = some g at hj
      rw [(hmem j).active] at hj
      cases hj
  have hfacts : RunFacts authority w' run := by
    refine ⟨⟨_,_,rfl,⟨rfl,rfl,?_,?_,nofun⟩,⟨nofun,nofun⟩⟩,rfl,rfl,rfl,rfl,hwin,?_,?_⟩
    · exact admissionRow_facts hlive rfl hmem .queryEmbedding
    · exact admissionRow_facts hlive rfl hmem .answerGeneration
    · intro r hr
      rcases List.mem_pair.mp hr with rfl | rfl
      · exact .inl rfl
      · exact .inl rfl
    · exact ⟨_,List.mem_cons_self,rfl⟩
  refine ⟨⟨nofun,?_,?_,⟨nofun,List.nodup_nil,nofun⟩,⟨?_,trivial⟩,?_⟩,UnitInv.none rfl,?_⟩
  · intro run' hr
    cases hr
    exact hfacts
  · refine ⟨?_,?_,howner,fun j c b hb => ((hmem j).budgets c b hb).1,?_,?_,?_⟩
    · intro j c g hg
      rw [(hmem j).active] at hg
      cases hg
    · intro j g hg
      rw [(hmem j).refused] at hg
      cases hg
    · intro j r hr
      obtain ⟨ho,hb⟩ := (hmem j).reservation r hr
      exact ⟨ho,hb,by simp⟩
    · intro j id hi
      rw [(hmem j).pending] at hi
      cases hi
    · intro j c r hr
      rw [(hmem j).receipts] at hr
      cases hr
  · obtain ⟨q,a,he,hr,_⟩ := hfacts.rows
    refine ⟨⟨q,a,he,hr.query,hr.answer,hr.queryFacts.shape,hr.answerFacts.shape⟩,rfl,?_,?_,fun _ hr => absurd hr List.not_mem_nil⟩
    · intro r hm _
      rcases List.mem_pair.mp hm with rfl | rfl <;> exact Nat.zero_le _
    · intro r hm hv
      rcases List.mem_pair.mp hm with rfl | rfl <;> nomatch hv
  · intro run' hr
    cases List.mem_singleton.mp hr
    exact ⟨run,rfl,RowsLe.refl _⟩
  · obtain ⟨hr,hc,hi,hh,_⟩ := h.evolves
    refine ⟨?_,hc,hi,fun e he => List.mem_cons_of_mem _ (hh e he),?_⟩
    · intro run₀ h₀
      obtain ⟨_,hn,_⟩ := hr run₀ h₀
      cases hn
    · intro g _ _ j hj
      exact hlive g (.inr ⟨j,hj⟩)

theorem admitComponent_wp {request : AdmissionRequest} {c : RagPaidComponent}
    {pair : AuthorizedProviderPolicySnapshot × RagAdmissionBudget} {Q : Unit → World → Prop}
    {E : LedgerError → World → Prop} (he : ∀ e, E e w)
    (hq : pair.2.component = c → (c = .queryEmbedding → pair.2.ceiling? = none) → Q () w) :
    wp (admitComponent authority request c pair) Q E w := by
  unfold admitComponent
  refine wp_seq_require (he _) fun ha => ?_
  simp only [Bool.and_eq_true,decide_eq_true_eq] at ha
  cases hb : pair.2 with
  | prepared b => exact hq ha.1.2 fun _ => by rw [hb]; rfl
  | ceiling r =>
    refine wp_seq_require (he _) fun hc => ?_
    simp only [Bool.and_eq_true,decide_eq_true_eq] at hc
    refine (wp_require _ _ _ _ _).mpr ⟨fun _ => hq ha.1.2 fun hn => ?_,fun _ => he _⟩
    rw [hc.1.1] at hn
    cases hn
  | unused r =>
    exact (wp_require _ _ _ _ _).mpr ⟨fun _ => hq ha.1.2 fun _ => by rw [hb]; rfl,fun _ => he _⟩

theorem createAdmission_keeps (request : AdmissionRequest) :
    Keeps (Kept authority w₀) (createAdmission authority i env request) := by
  intro w h
  unfold createAdmission runtimeHealthEffect
  refine wp_seq_require h fun _ => ?_
  refine wp_seq_present h fun window hwindow => ?_
  refine wp_seq_require h fun hroute => ?_
  have hwin : IsAdmissionWindow request.sourceWindow := by
    simp only [Bool.and_eq_true,decide_eq_true_eq] at hroute
    rw [hroute.1.1]
    exact admissionWindow_isAdmission hwindow
  refine wp_seq_present h fun current _ => ?_
  refine wp_seq_present h fun query _ => ?_
  refine wp_seq_present h fun scope _ => ?_
  refine wp_seq (admitComponent_wp (fun _ => h) fun _ hceil => ?_)
  refine wp_seq (admitComponent_wp (fun _ => h) fun _ _ => ?_)
  refine wp_seq_require h fun _ => ?_
  refine wp_seq_require h fun _ => ?_
  refine wp_seq_require h fun _ => ?_
  unfold insertRun
  refine wp_seq (wp_seq_get ?_)
  cases hdb : w.db with
  | some run => exact h.rollback i
  | none =>
    have hmem := (h.core.blank hdb).memory
    have hfresh : ∀ j, Started request (w.memory j) := by
      intro j
      obtain ⟨p,hp⟩ := hmem j
      exact hp ▸ Started.fresh request p
    have hown : ∀ j, ¬(w.memory j).Owns := by
      intro j hj
      obtain ⟨p,hp⟩ := hmem j
      rw [hp] at hj
      obtain ⟨_,hc⟩ := hj
      cases hc
    cases env.commit with
    | failed => exact h.rollback i
    | unacknowledged =>
      exact admission_kept current query scope _ h hdb hwin w.memory hfresh fun j _ hj => absurd hj (hown j)
    | acknowledged =>
      let memory : Nat → Memory := fun j => if j = i then admitted request (w.memory j) else w.memory j
      have hstarted : ∀ j, Started request (memory j) := by
        intro j
        obtain ⟨p,hp⟩ := hmem j
        by_cases hj : j = i
        · have he : memory j = admitted request (Memory.fresh p) := by simp only [memory,if_pos hj,hp]
          rw [he]
          exact Started.admitted request p (hceil rfl)
        · have he : memory j = w.memory j := by simp only [memory,if_neg hj]
          rw [he]
          exact hfresh j
      have howner : ∀ j, (memory j).Owns → j = i := by
        intro j hj
        by_contra hne
        have he : memory j = w.memory j := by simp only [memory,if_neg hne]
        rw [he] at hj
        exact hown j hj
      exact admission_kept current query scope _ h hdb hwin memory hstarted fun j k hj hk =>
        (howner j hj).trans (howner k hk).symm

/-! ## Binding the answer budget -/

theorem SameButCache.phase {run : Run} {p : AgentRun} (h : SameButCache p run.parent)
    (hf : RunFacts authority w run) (hp : p.runRecordPhase = .admission) :
    run.parent.runRecordPhase = .admission ∧ p.status = .running ∧ p.projectionOwnerFenceHmac = none ∧
    p.completedAt = none ∧ IsAdmissionWindow p.sourceWindow ∧
    p.totalChargedCostUsd = totalCharged run.rows ∧ ∀ r ∈ run.rows, InAdmission r := by
  obtain ⟨c,rfl⟩ := h
  have hphase := hf.phase
  unfold PhaseOk at hphase
  change run.parent.runRecordPhase = .admission at hp
  rw [hp] at hphase
  exact ⟨hp,hphase.1,hphase.2.1,hphase.2.2.1,hphase.2.2.2.1,hf.total,hphase.2.2.2.2.1⟩

/-- A run that stays in admission keeps its phase when one of its rows stays open. -/
theorem PhaseOk.admission {p : AgentRun} {q a r : AgentRunCostComponent}
    (hp : p.runRecordPhase = .admission) (hs : p.status = .running)
    (hf : p.projectionOwnerFenceHmac = none) (hc : p.completedAt = none)
    (hw : IsAdmissionWindow p.sourceWindow) (hq : InAdmission q) (ha : InAdmission a)
    (hr : r ∈ [q,a]) (ho : isClosed r = false) : PhaseOk authority ⟨p,[q,a]⟩ := by
  unfold PhaseOk
  dsimp only
  rw [hp]
  refine ⟨hs,hf,hc,hw,?_,r,hr,ho⟩
  intro r' hr'
  rcases List.mem_pair.mp hr' with rfl | rfl
  · exact hq
  · exact ha

theorem MemoryFacts.no_answer_budget {r : RagAnswerCeilingReservation} (h : MemoryFacts w)
    (hr : (w.memory i).answerReservation = some r) (j : Nat) :
    (w.memory j).admissionBudgets .answerGeneration = none := by
  obtain ⟨ho,hn,_⟩ := h.reservation i r hr
  cases hb : (w.memory j).admissionBudgets .answerGeneration with
  | none => rfl
  | some b =>
    have hj := h.owner j i (h.budgets j _ b hb) ho
    rw [hj,hn] at hb
    cases hb

/-- The bound budget becomes the budget of a later claim. -/
theorem Kept.bindBudget {p : AgentRun} {q a : AgentRunCostComponent} {prepared : PreparedPaidCallBudget}
    (h : Kept authority w₀ w) (hdb : w.db = some ⟨p,[q,a]⟩) (hu : w.unit = none)
    (howns : (w.memory i).Owns) (hres : ∀ j r, (w.memory j).answerReservation ≠ some r)
    (hr : a.reservedCostUsd = prepared.reservedCostUsd) :
    Kept authority w₀ (w.mapMemory i fun m => { m with
      admissionBudgets := put m.admissionBudgets .answerGeneration (some prepared) }) := by
  let bound : Memory → Memory := fun m => { m with
    admissionBudgets := put m.admissionBudgets .answerGeneration (some prepared) }
  -- Everything but the budgets of ledger `i` is unchanged.
  have hactive : ∀ j, ((w.mapMemory i bound).memory j).activeGrants = (w.memory j).activeGrants := by
    intro j
    rw [mapMemory_memory]
    split <;> rfl
  have howns' : ∀ j, ((w.mapMemory i bound).memory j).Owns ↔ (w.memory j).Owns := by
    intro j
    rw [mapMemory_memory]
    split <;> exact Iff.rfl
  have hprocess : ∀ j, ((w.mapMemory i bound).memory j).processHmac = (w.memory j).processHmac := by
    intro j
    rw [mapMemory_memory]
    split <;> rfl
  have hbudget : ∀ j c b, ((w.mapMemory i bound).memory j).admissionBudgets c = some b →
      (w.memory j).admissionBudgets c = some b ∨ j = i ∧ c = .answerGeneration ∧ b = prepared := by
    intro j c b hb
    rw [mapMemory_memory] at hb
    split at hb
    · next hj =>
      by_cases hc : c = .answerGeneration
      · simp only [bound,put,if_pos hc,Option.some.injEq] at hb
        exact .inr ⟨hj,hc,hb.symm⟩
      · simp only [bound,put,if_neg hc] at hb
        exact .inl hb
    · exact .inl hb
  have hrow : ∀ r, RowFacts w r → (r.component = .answerGeneration → r = a) →
      RowFacts (w.mapMemory i bound) r := by
    intro r hf he
    refine ⟨hf.shape,hf.charge,hf.blocked,?_,hf.issued,?_,?_⟩
    · intro g hg
      refine hf.paid g ?_
      rcases hg with hg | ⟨j,hj⟩
      · exact .inl hg
      · exact .inr ⟨j,by rwa [hactive] at hj⟩
    · intro j b hb
      rcases hbudget j _ b hb with hb | ⟨_,hc,rfl⟩
      · exact hf.budget j b hb
      · left
        rw [he hc,hr]
    · intro j hj p hp
      rw [hprocess]
      exact hf.owner j ((howns' j).mp hj) p hp
  have hrun := h.core.run _ hdb
  refine ⟨⟨?_,?_,?_,⟨h.core.grants.consumed,h.core.grants.nodup,h.core.grants.unique⟩,h.core.log,
    h.core.committed⟩,UnitInv.none hu,?_⟩
  · intro hn
    change w.db = none at hn
    rw [hdb] at hn
    cases hn
  · intro run' hr'
    change w.db = some run' at hr'
    rw [hdb] at hr'
    cases hr'
    obtain ⟨q',a',he,hf,ho⟩ := hrun.rows
    cases he
    refine ⟨⟨q,a,rfl,⟨hf.query,hf.answer,hrow q hf.queryFacts ?_,hrow a hf.answerFacts fun _ => rfl,hf.agree⟩,ho⟩,
      hrun.total,hrun.phase⟩
    intro hc
    rw [hf.query] at hc
    cases hc
  · obtain ⟨hma,hmr,hmo,hmb,_,hmp,hmt⟩ := h.core.memory
    refine ⟨?_,?_,?_,?_,?_,?_,?_⟩
    · intro j c g hg
      rw [hactive] at hg
      exact hma j c g hg
    · intro j g hg
      refine hmr j g ?_
      rw [mapMemory_memory] at hg
      split at hg <;> exact hg
    · intro j k hj hk
      exact hmo j k ((howns' j).mp hj) ((howns' k).mp hk)
    · intro j c b hb
      rw [howns']
      rcases hbudget j c b hb with hb | ⟨rfl,_,_⟩
      · exact hmb j c b hb
      · exact howns
    · intro j r hj
      rw [mapMemory_memory] at hj
      split at hj <;> exact absurd hj (hres j r)
    · intro j id hi
      refine hmp j id ?_
      rw [mapMemory_memory] at hi
      split at hi <;> exact hi
    · intro j c r hj
      refine hmt j c r ?_
      rw [mapMemory_memory] at hj
      split at hj <;> exact hj
  · obtain ⟨her,hec,hei,heh,hen⟩ := h.evolves
    refine ⟨her,hec,hei,heh,?_⟩
    intro g hg hi j
    rw [hactive]
    exact hen g hg hi j

theorem bindAnswerBudget_keeps (prepared : PreparedPaidCallBudget) (projection : Option AnswerProjection) :
    Keeps (Kept authority w₀) (bindAnswerBudget authority i env prepared projection) := by
  intro w h
  unfold bindAnswerBudget runtimeHealthEffect validatePreparedBudget
  refine wp_seq_require h fun _ => ?_
  refine wp_seq_require h fun _ => ?_
  refine wp_seq_require h fun _ => ?_
  refine wp_seq_getMemory ?_
  refine wp_seq_present h fun reservation hres => ?_
  refine wp_seq_require h fun hnarrow => ?_
  refine wp_seq (h.lockedRun i (fun _ => h) ?_)
  intro run p q a w' hl
  have hk := hl.kept
  refine wp_seq_require hk fun _ => ?_
  refine wp_seq_require hk fun _ => ?_
  refine wp_seq_present hk fun query hquery => ?_
  refine wp_seq_present hk fun answer hanswer => ?_
  rw [hl.rows.find_query] at hquery
  rw [hl.rows.find_answer] at hanswer
  cases hquery
  cases hanswer
  refine wp_seq_require hk fun hunchanged => ?_
  refine wp_seq_require hk fun _ => ?_
  simp only [reservationUnchanged,Bool.and_eq_true,decide_eq_true_eq,Bool.not_eq_true'] at hunchanged
  obtain ⟨⟨⟨⟨⟨⟨⟨⟨⟨⟨⟨hs,hp⟩,hused⟩,hd⟩,_⟩,_⟩,_⟩,_⟩,_⟩,hreserved⟩,_⟩,_⟩ := hunchanged
  simp only [narrows,Bool.and_eq_true,decide_eq_true_eq] at hnarrow
  have hle : prepared.reservedCostUsd ≤ a.reservedCostUsd := hreserved ▸ hnarrow.1.2
  have hopen := isClosed_notAttempted hd
  have hbase := hl.base_of_open hs hp (List.mem_cons_of_mem q List.mem_cons_self) hopen
    fun _ => by rw [hl.rows.answer,hused]
  obtain ⟨_,_,hfence,hcompleted,hwindow,htotal,hin⟩ := (hl.parent.admission hs hp).phase hl.runFacts hp
  rw [hbase] at htotal hin
  -- The ceiling is gone before anything can fail.
  let retired : Memory → Memory := fun m => { m with answerReservation := none }
  have hretire : Carries w' (w'.mapMemory i retired) :=
    Carries.mapMemory hl.draft.db i
      ⟨fun _ _ => id,fun _ _ hb => ⟨hb,id⟩,(fun _ hr => nomatch hr),fun ho => ⟨ho,rfl⟩,fun _ => .inl,fun _ _ => .inl⟩
      fun _ => .inl
  rw [← hl.memory] at hres
  have hmemory := hl.draft.core.memory
  obtain ⟨howns,_,hunbound⟩ := hmemory.reservation i reservation hres
  have hnone : ∀ j r, ((w'.mapMemory i retired).memory j).answerReservation ≠ some r := by
    intro j r hr
    rw [mapMemory_memory] at hr
    split at hr
    · cases hr
    · next hne => exact hne (hmemory.owner j i (hmemory.reservation j r hr).1 howns)
  have howns' : ((w'.mapMemory i retired).memory i).Owns := by
    rw [mapMemory_memory,if_pos rfl]
    exact howns
  let narrowed := narrowRow prepared a
  have hfacts : RowsFacts w' q narrowed := by
    refine ⟨hl.rows.query,hl.rows.answer,hl.rows.queryFacts,?_,hl.rows.agree⟩
    refine hl.rows.answerFacts.narrowRow hd fun j => ?_
    rw [hl.rows.answer]
    exact hmemory.no_answer_budget hres j
  rw [hl.rows.onComponent_answer]
  refine wp_seq_modify ?_
  refine wp_seq_modify ?_
  refine wp_seq_modify ?_
  refine wp_seq_modify ?_
  have hdraft := ((hl.draft.carries hretire rfl).assignRows [q,narrowed]).assignParent { p with
    estimatedCostUsd := totalReserved [q,narrowed]
    metadata := boundMetadata p.metadata projection
      (runtimeCostIdentity authority.sign [q,narrowed] none .admission .running .preProjection) }
  have hrecord := Carries.record (.budgetBound prepared) hdraft.db (fun hlog => ⟨hunbound,hlog⟩)
    (fun _ => nofun) fun j r hr => absurd hr (hnone j r)
  have hforget := (hretire.toForgets.trans (Carries.setUnit _ _).toForgets).trans hrecord.toForgets
  have horder : InOrder run.parent q narrowed := ⟨hl.order.used,hl.order.settled⟩
  refine wp_seq ((hdraft.carries hrecord rfl).commit ⟨⟨q,narrowed,rfl,hfacts.forgets hforget,?_⟩,htotal,?_⟩ ?_ ?_)
  · have hunused := componentIsUnused_sameButCache (hl.parent.admission hs hp) .queryEmbedding
    exact horder.parent hunused
  · exact PhaseOk.admission hp hs hfence hcompleted hwindow (hin q List.mem_cons_self) (.inl hd)
      (List.mem_cons_of_mem q List.mem_cons_self) hopen
  · rw [hbase]
    exact RowsLe.pair (RowLe.refl q) (RowLe.narrowRow hopen hle)
  · rintro _ rfl hdone
    exact hdone.bindBudget rfl rfl howns' hnone rfl

/-! ## Claiming a component -/

/-- The row a new grant was issued for. -/
structure ClaimedFor (g : CommittedRagDispatchGrant) (r : AgentRunCostComponent) : Prop where
  state : r.dispatchState ≠ .notAttempted
  attempted : r.attempted = true
  dispatchCount : r.dispatchCount = 1
  fence : r.dispatchFenceHmac = some g.dispatchFenceHmac
  reserved : r.reservedCostUsd = g.reservedCostUsd
  charged : r.chargedCostUsd = g.reservedCostUsd

/-- `issueGrant` on a state. -/
def World.issue (w : World) (i : Nat) (g : CommittedRagDispatchGrant) (binding : RagProviderSafetyBinding) :
    World :=
  ({ w with issued := g :: w.issued }).mapMemory i fun m => { m with
    activeGrants := put m.activeGrants g.component (some g)
    grantBindings := put m.grantBindings g.component (some binding) }

theorem issue_active {g : CommittedRagDispatchGrant} {binding : RagProviderSafetyBinding} {j : Nat}
    {c : RagPaidComponent} {g' : CommittedRagDispatchGrant}
    (h : ((w.issue i g binding).memory j).activeGrants c = some g') :
    (w.memory j).activeGrants c = some g' ∨ j = i ∧ c = g.component ∧ g' = g := by
  unfold World.issue at h
  rw [mapMemory_memory] at h
  split at h
  · next hj =>
    by_cases hc : c = g.component
    · simp only [put,if_pos hc,Option.some.injEq] at h
      exact .inr ⟨hj,hc,h.symm⟩
    · simp only [put,if_neg hc] at h
      exact .inl h
  · exact .inl h

theorem issue_rest (w : World) (i : Nat) (g : CommittedRagDispatchGrant) (binding : RagProviderSafetyBinding)
    (j : Nat) : ∃ active bindings, (w.issue i g binding).memory j =
      { w.memory j with activeGrants := active, grantBindings := bindings } := by
  unfold World.issue
  rw [mapMemory_memory]
  split
  · exact ⟨_,_,rfl⟩
  · exact ⟨(w.memory j).activeGrants,(w.memory j).grantBindings,rfl⟩

theorem RowFacts.issue {g : CommittedRagDispatchGrant} {binding : RagProviderSafetyBinding}
    {r : AgentRunCostComponent} (h : RowFacts w r) (hr : r.component = g.component → ClaimedFor g r) :
    RowFacts (w.issue i g binding) r := by
  refine ⟨h.shape,h.charge,h.blocked,?_,?_,?_,?_⟩
  · intro g' hg' hc
    have hcase : w.Live g' ∨ g' = g := by
      rcases hg' with hg' | ⟨j,hj⟩
      · exact .inl (.inl hg')
      · rcases issue_active hj with hj | ⟨_,_,he⟩
        · exact .inl (.inr ⟨j,hj⟩)
        · exact .inr he
    rcases hcase with hl | rfl
    · exact h.paid g' hl hc
    · obtain ⟨_,ha,hn,hf,hv,hp⟩ := hr hc.symm
      exact ⟨ha,hn,hf,hv,.inl hp⟩
  · intro g' hg' hc
    rcases List.mem_cons.mp hg' with rfl | hg'
    · exact (hr hc.symm).state
    · exact h.issued g' hg' hc
  · intro j b hb
    obtain ⟨active,bindings,he⟩ := issue_rest w i g binding j
    rw [he] at hb
    exact h.budget j b hb
  · intro j ho p hp
    obtain ⟨active,bindings,he⟩ := issue_rest w i g binding j
    rw [he] at ho ⊢
    exact h.owner j ho p hp

/-- A grant for a component that had none. -/
theorem Kept.issue {p : AgentRun} {q a : AgentRunCostComponent} {g : CommittedRagDispatchGrant}
    {binding : RagProviderSafetyBinding} (h : Kept authority w₀ w) (hdb : w.db = some ⟨p,[q,a]⟩)
    (hu : w.unit = none) (hledger : g.ledger = i) (hnew : ∀ g' ∈ w.issued, g'.component ≠ g.component)
    (hclaimed : ∀ r ∈ [q,a], r.component = g.component → ClaimedFor g r) :
    Kept authority w₀ (w.issue i g binding) := by
  have hrun := h.core.run _ hdb
  refine ⟨⟨?_,?_,?_,?_,h.core.log,h.core.committed⟩,UnitInv.none hu,?_⟩
  · intro hn
    change w.db = none at hn
    rw [hdb] at hn
    cases hn
  · intro run' hr'
    change w.db = some run' at hr'
    rw [hdb] at hr'
    cases hr'
    obtain ⟨q',a',he,hf,ho⟩ := hrun.rows
    cases he
    exact ⟨⟨q,a,rfl,⟨hf.query,hf.answer,hf.queryFacts.issue (hclaimed q List.mem_cons_self),
      hf.answerFacts.issue (hclaimed a (List.mem_cons_of_mem q List.mem_cons_self)),hf.agree⟩,ho⟩,
      hrun.total,hrun.phase⟩
  · obtain ⟨hma,hmr,hmo,hmb,hms,hmp,hmt⟩ := h.core.memory
    have howns : ∀ j, ((w.issue i g binding).memory j).Owns → (w.memory j).Owns := by
      intro j hj
      obtain ⟨active,bindings,he⟩ := issue_rest w i g binding j
      rw [he] at hj
      exact hj
    refine ⟨?_,?_,fun j k hj hk => hmo j k (howns j hj) (howns k hk),?_,?_,?_,?_⟩
    · intro j c g' hg'
      rcases issue_active hg' with hj | ⟨rfl,rfl,rfl⟩
      · obtain ⟨hm,hc,hl⟩ := hma j c g' hj
        exact ⟨List.mem_cons_of_mem _ hm,hc,hl⟩
      · exact ⟨List.mem_cons_self,rfl,hledger⟩
    · intro j g' hg'
      obtain ⟨active,bindings,he⟩ := issue_rest w i g binding j
      rw [he] at hg'
      obtain ⟨hm,hc,hl⟩ := hmr j g' hg'
      exact ⟨List.mem_cons_of_mem _ hm,hc,hl⟩
    · intro j c b hb
      obtain ⟨active,bindings,he⟩ := issue_rest w i g binding j
      rw [he] at hb ⊢
      exact hmb j c b hb
    · intro j r hr
      obtain ⟨active,bindings,he⟩ := issue_rest w i g binding j
      rw [he] at hr ⊢
      exact hms j r hr
    · intro j id hi
      obtain ⟨active,bindings,he⟩ := issue_rest w i g binding j
      rw [he] at hi
      exact hmp j id hi
    · intro j c r hr
      obtain ⟨active,bindings,he⟩ := issue_rest w i g binding j
      rw [he] at hr
      exact hmt j c r hr
  · refine ⟨fun g' hg' => List.mem_cons_of_mem _ (h.core.grants.consumed g' hg'),h.core.grants.nodup,?_⟩
    intro g₁ h₁ g₂ h₂ hc
    rcases List.mem_cons.mp h₁ with e₁ | k₁
    · subst e₁
      rcases List.mem_cons.mp h₂ with e₂ | k₂
      · exact e₂.symm
      · exact absurd hc.symm (hnew g₂ k₂)
    · rcases List.mem_cons.mp h₂ with e₂ | k₂
      · subst e₂
        exact absurd hc (hnew g₁ k₁)
      · exact h.core.grants.unique g₁ k₁ g₂ k₂ hc
  · obtain ⟨her,hec,hei,heh,hen⟩ := h.evolves
    refine ⟨her,hec,fun g' hg' => List.mem_cons_of_mem _ (hei g' hg'),heh,?_⟩
    intro g' hg' hi j hj
    rcases issue_active hj with hj | ⟨_,_,rfl⟩
    · exact hen g' hg' hi j hj
    · exact hnew g' (hei g' hg') rfl

theorem requireReady_wp {Q : RagProviderSafetyBinding → World → Prop} (h : Kept authority w₀ w)
    (hq : ∀ binding, Q binding w) : wp (requireReady i env) Q (fun _ => Kept authority w₀) w := by
  unfold requireReady
  cases env.readiness with
  | ready binding => exact hq binding
  | inspectionFailed => exact h
  | unavailable => exact h
  | refused =>
    unfold releasePreclaim
    refine wp_seq_get (wp_seq_require h fun _ => ?_)
    exact wp_seq_modify (h.rollback i)

theorem querySucceeded_terminal {p : AgentRun} {q a : AgentRunCostComponent} (h : RowsFacts w q a)
    (hs : querySucceeded p [q,a] = true) :
    q.dispatchState = .terminal ∨ componentIsUnused p .queryEmbedding = true := by
  cases hb : p.metadata.configuredBackend with
  | keyword => exact .inr (by simp only [componentIsUnused,hb,decide_true])
  | pgvector =>
    left
    have hany : q.dispatchState = .terminal ∧ q.terminalOutcome = some .componentSucceeded := by
      simpa [querySucceeded,hb,h.query,h.answer] using hs
    exact hany.1

/-- The rows after a claim of component `c`. -/
theorem Locked.claimed {run : Run} {p : AgentRun} {q a row : AgentRunCostComponent} {w' : World}
    (h : Locked authority w₀ w i run p q a w') (hs : p.status = .running)
    (hp : p.runRecordPhase = .admission) {c : RagPaidComponent}
    (hused : componentIsUnused p c = false) (hquery : c = .answerGeneration → querySucceeded p [q,a] = true)
    (hrow : [q,a].find? (isComponent c) = some row)
    (hd : row.dispatchState = .notAttempted) (howns : (w'.memory i).Owns) (fence : Hmac) :
    let claimed := onComponent c (claimRow fence (w'.memory i).processHmac) [q,a]
    RunFacts authority w' ⟨{ p with totalChargedCostUsd := totalCharged claimed },claimed⟩ ∧
    RowsLe run.rows claimed ∧
    (∀ r ∈ claimed, r.component = c → r = claimRow fence (w'.memory i).processHmac row) ∧
    ∃ q' a', claimed = [q',a'] := by
  have hmem := List.mem_of_find?_eq_some hrow
  have hopen := isClosed_notAttempted hd
  have hcomp : row.component = c := by simpa [isComponent] using List.find?_some hrow
  have hbase := h.base_of_open hs hp hmem hopen fun _ => hcomp ▸ hused
  have hsame := h.parent.admission hs hp
  obtain ⟨_,_,hfence,hcompleted,hwindow,_,hin⟩ := hsame.phase h.runFacts hp
  rw [hbase] at hin
  have horder : InOrder p q a := h.order.parent (componentIsUnused_sameButCache hsame _)
  have howner : ∀ j, (w'.memory j).Owns → (w'.memory i).processHmac = (w'.memory j).processHmac := by
    intro j hj
    rw [h.draft.core.memory.owner j i hj howns]
  have hclaim : ∀ r, RowFacts w' r → r.dispatchState = .notAttempted →
      RowFacts w' (claimRow fence (w'.memory i).processHmac r) :=
    fun r hf hd => hf.claimRow hd fence _ howner
  cases c with
  | queryEmbedding =>
    rw [h.rows.find_query] at hrow
    cases hrow
    rw [h.rows.onComponent_query]
    -- No answer was attempted: the embedding is used and was not settled.
    have hunattempted : a.attempted ≠ true := by
      intro ha
      rcases horder.settled ha with ht | ⟨_,hu⟩
      · rw [hd] at ht
        cases ht
      · rw [hused] at hu
        cases hu
    have hfacts : RowsFacts w' (claimRow fence (w'.memory i).processHmac q) a := by
      refine ⟨h.rows.query,h.rows.answer,hclaim q h.rows.queryFacts hd,h.rows.answerFacts,?_⟩
      intro x y hx hy
      cases hx
      exact (h.rows.answerFacts.owner i howns y hy).symm
    refine ⟨⟨⟨_,_,rfl,hfacts,fun _ => hused,fun ha => absurd ha hunattempted⟩,rfl,?_⟩,?_,?_,_,_,rfl⟩
    · exact PhaseOk.admission hp hs hfence hcompleted hwindow (.inr (.inl rfl))
        (hin a (List.mem_cons_of_mem q List.mem_cons_self)) List.mem_cons_self rfl
    · rw [hbase]
      exact RowsLe.pair (RowLe.claimRow hopen fence _) (RowLe.refl a)
    · intro r hr hc
      rcases List.mem_pair.mp hr with rfl | rfl
      · rfl
      · rw [h.rows.answer] at hc
        cases hc
  | answerGeneration =>
    rw [h.rows.find_answer] at hrow
    cases hrow
    rw [h.rows.onComponent_answer]
    have hsettled : q.dispatchState = .terminal ∨
        q.dispatchState = .notAttempted ∧ componentIsUnused p .queryEmbedding = true := by
      rcases querySucceeded_terminal h.rows (hquery rfl) with ht | hu
      · exact .inl ht
      · rcases hin q List.mem_cons_self with hn | hdisp | ⟨ht,_⟩
        · exact .inr ⟨hn,hu⟩
        · rw [horder.used hdisp] at hu
          cases hu
        · exact .inl ht
    have hfacts : RowsFacts w' q (claimRow fence (w'.memory i).processHmac a) := by
      refine ⟨h.rows.query,h.rows.answer,h.rows.queryFacts,hclaim a h.rows.answerFacts hd,?_⟩
      intro x y hx hy
      cases hy
      exact h.rows.queryFacts.owner i howns x hx
    refine ⟨⟨⟨_,_,rfl,hfacts,horder.used,fun _ => hsettled⟩,rfl,?_⟩,?_,?_,_,_,rfl⟩
    · exact PhaseOk.admission hp hs hfence hcompleted hwindow (hin q List.mem_cons_self) (.inr (.inl rfl))
        (List.mem_cons_of_mem q List.mem_cons_self) rfl
    · rw [hbase]
      exact RowsLe.pair (RowLe.refl q) (RowLe.claimRow hopen fence _)
    · intro r hr hc
      rcases List.mem_pair.mp hr with rfl | rfl
      · rw [h.rows.query] at hc
        cases hc
      · rfl

theorem claimComponent_keeps (c : RagPaidComponent) (prepared : PreparedPaidCallBudget) :
    Keeps (Kept authority w₀) (claimComponent authority i env c prepared) := by
  intro w h
  unfold claimComponent runtimeHealthEffect validatePreparedBudget
  refine wp_seq_require h fun _ => ?_
  refine wp_seq_require h fun _ => ?_
  refine wp_seq_getMemory ?_
  refine wp_seq_require h fun _ => ?_
  refine wp_seq (h.selectForUpdate i (fun _ => h) (fun _ => h) ?_)
  intro run p q a w' hl
  have hk := hl.kept
  refine wp_seq_present hk fun _ he => ?_
  cases he
  refine wp_seq_require hk fun hadmission => ?_
  refine wp_seq_require hk fun hused => ?_
  refine wp_seq_require hk fun hquery => ?_
  refine wp_seq_present hk fun row hrow => ?_
  refine wp_seq_require hk fun hclaimable => ?_
  refine wp_seq_require hk fun _ => ?_
  refine wp_seq (requireReady_wp hk fun binding => ?_)
  simp only [Bool.and_eq_true,decide_eq_true_eq,Bool.not_eq_true'] at hadmission hused
  simp only [claimable,Bool.and_eq_true,decide_eq_true_eq] at hclaimable
  obtain ⟨⟨⟨⟨⟨⟨hd,_⟩,_⟩,_⟩,_⟩,_⟩,hsnapshot⟩ := hclaimable
  rw [← hl.memory] at hsnapshot ⊢
  generalize claimFence authority (w'.memory i) p c prepared binding env.nonce = fence
  have hsucceeded : c = .answerGeneration → querySucceeded p [q,a] = true := by
    rintro rfl
    simpa using hquery
  obtain ⟨hfacts,hle,hclaimed,q',a',hpair⟩ :=
    hl.claimed hadmission.1.1 hadmission.1.2 hused hsucceeded hrow hd ⟨c,hsnapshot⟩ fence
  simp only [hpair] at hfacts hle hclaimed
  have hmem := List.mem_of_find?_eq_some hrow
  have hcomp : row.component = c := by simpa [isComponent] using List.find?_some hrow
  have hrowFacts : RowFacts w' row := by
    rcases List.mem_pair.mp hmem with rfl | rfl
    · exact hl.rows.queryFacts
    · exact hl.rows.answerFacts
  refine wp_seq_modify ?_
  refine wp_seq_modify ?_
  rw [hpair]
  have hdraft := (hl.draft.assignRows [q',a']).assignParent
    { p with totalChargedCostUsd := totalCharged [q',a'] }
  refine wp_seq (hdraft.commit (hfacts.forgets (Forgets.assigned w' _ _)) hle ?_)
  rintro _ rfl hdone
  refine hdone.issue rfl rfl rfl ?_ ?_
  · intro g hg hc
    exact hrowFacts.issued g hg (hc.trans hcomp.symm) hd
  · intro r hr hc
    rw [hclaimed r hr hc]
    exact ⟨(fun hn => by cases hn),rfl,rfl,rfl,rfl,rfl⟩

end ParaWorks.Ledger
