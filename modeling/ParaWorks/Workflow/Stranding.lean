import ParaWorks.Workflow.Recovery

/-!
# No stranded thread

From every state that orderly calls leave, further calls under a healthy environment bring the thread to an end or to an
interrupt that can be resumed. A crash behind the terminal checkpoint is not orderly: `status` never reads that checkpoint.
-/

namespace ParaWorks.Workflow

open Lib Answers Rollout

/-! ## A healthy environment -/

/-- The checkpoint store is there, the owner's permissions are those the owner calls with, and a coordinator fails with a
`ValueError` at most. -/
structure Healthy (owner : DemoUser) (s : Shared) (m : Moment) : Prop where
  ready : m.ready = true
  store : m.checkpointStore = s.rows.thread.checkpointStore
  registered : m.registered = true
  saver : m.saverFails = false
  permissions : runtimePermissions m owner owner.id = owner.permissionLevels
  items : ∀ items, m.coordinator = .ok items → ItemsReadable owner items
  errors : m.coordinator ≠ .error .permission ∧ m.coordinator ≠ .error .unmapped

def perform (settings : Settings) (owner : DemoUser) (c : Pc × Shared) (m : Moment) : Pc × Shared :=
  stepCall settings owner m c.2 c.1

/-- The owner's call ends, whatever a healthy environment does, and with `Q`. -/
def Ends (settings : Settings) (owner : DemoUser) (call : Call) (Q : Pc × Shared → Prop) (s : Shared) : Prop :=
  Inevitable (perform settings owner) (fun c m => Healthy owner c.2 m) (fun c => c.1.isDone = true) Q (call.entry,s)

/-- An end, or an interrupt that can be resumed once the items are resolved. -/
def Recovered (settings : Settings) (owner : DemoUser) (s : Shared) : Prop :=
  s.status = .completed ∨ s.status = .needsMoreEvidence ∨ s.status = .failed ∨
  s.status = .awaitingHumanReview ∧ ((countItems s.rows.items).pendingReview = 0 →
    Ends settings owner .status (fun c => ∃ view, c.1 = .done (.ok view) ∧ view.resumeAllowed = true) s)

/-- At most so many further calls of the owner, none of them a cancel, recover the thread. -/
def RecoversIn (settings : Settings) (owner : DemoUser) : Nat → Shared → Prop
  | 0, s => Recovered settings owner s
  | n+1, s => Recovered settings owner s ∨
    ∃ call, call ≠ .cancel ∧ Ends settings owner call (fun c => RecoversIn settings owner n c.2) s

def Recoverable (settings : Settings) (owner : DemoUser) (s : Shared) : Prop := ∃ n, RecoversIn settings owner n s

section healthy

variable {settings : Settings} {owner : DemoUser} {m : Moment} {s : Shared}

theorem projection_owner (hl : Launched settings owner s.rows) :
    projection settings owner s.rows = some (s.rows.thread,countItems s.rows.items) := by
  unfold projection
  rw [if_neg (by simp [hl.version,hl.owned,hl.scope]),if_neg]
  rintro ⟨item,hitem,h⟩
  obtain ⟨hstatus,hread,-⟩ := hl.items item hitem
  rcases h with h | h
  · exact hstatus h
  · exact h hread

theorem saver_healthy (hm : Healthy owner s m) : saverAvailable m s.rows.thread = true := by
  simp [saverAvailable,hm.ready,hm.store]

theorem loadThread_launched {rows : Rows} (h : Launched settings owner rows) : loadThread rows = .ok rows.thread := by
  unfold loadThread
  rw [if_neg (by simp [h.workflow,h.version])]

theorem owner_levels (hl : Launched settings owner s.rows) (hm : Healthy owner s m) :
    ∃ levels, ownerPermissions (runtimePermissions m owner) s.rows = .ok levels ∧
      ∀ level, OwnerReads owner level → level ∈ levels := by
  have hload := loadThread_launched hl
  have hlevel : ∀ level, OwnerReads owner level →
      level ∈ [text "internal",text "public"].filter (· ∈ runtimePermissions m owner s.rows.thread.ownerSubjectId) := by
    rintro level ⟨hread,hkind⟩
    rw [hl.owned,hm.permissions]
    simpa [hread] using hkind
  refine ⟨_,?_,hlevel⟩
  unfold ownerPermissions
  simp only [hload,Except.bind]
  rw [if_neg]
  intro hnil
  obtain ⟨hne,hall⟩ := hl.evidence
  obtain ⟨level,hmem⟩ := List.exists_mem_of_ne_nil _ hne
  have := hlevel level (hall level hmem)
  rw [hnil] at this
  cases this

theorem counts_healthy (hl : Launched settings owner s.rows) (hm : Healthy owner s m) :
    counts (runtimePermissions m owner) s.rows = .ok (countItems s.rows.items) := by
  obtain ⟨levels,hlevels,hread⟩ := owner_levels hl hm
  unfold counts
  simp only [hlevels,Except.bind]
  have hnone : s.rows.items.find? (fun item => item.permissionLevel ∉ levels ∨ item.status = none) = none := by
    apply List.find?_eq_none.mpr
    intro item hitem
    obtain ⟨hstatus,hlevel⟩ := hl.items item hitem
    simp [hstatus,hread _ hlevel]
  rw [hnone]

end healthy

/-! ## A `status` call on a waiting thread -/

/-- The thread waits at its interrupt. -/
structure AtInterrupt (settings : Settings) (owner : DemoUser) (s : Shared) : Prop where
  launched : Launched settings owner s.rows
  status : s.status = .checkpointPending ∨ s.status = .awaitingHumanReview ∨ s.status = .resuming ∨
    s.status = .checkpointFailed
  waiting : Waiting s

/-- What `status` has found of a waiting thread. -/
structure Probe.Found (s : Shared) (probe : Probe) : Prop where
  after : probe.after = .answer
  thread : probe.thread = s.rows.thread
  counts : probe.counts = countItems s.rows.items
  resumable : probe.resumable = true

def Answered (s : Shared) (result : Except Raised ReviewWorkflowStatusV21) : Prop :=
  s.status = .awaitingHumanReview ∧ ∃ view, result = .ok view ∧
    ((countItems s.rows.items).pendingReview = 0 → view.resumeAllowed = true)

/-- The points of a `status` call on a waiting thread. -/
def Answering (s : Shared) : Pc → Prop
  | .statusProjection after => after = .answer
  | .snapshot after thread counts => after = .answer ∧ thread = s.rows.thread ∧ counts = countItems s.rows.items
  | .verifyRevoked probe human => probe.Found s ∧ revokedRowsValid s.rows.items = true ∧
    (human = true → humanResolutionRowsValid s.rows.items s.rows.audits = true)
  | .verifyHuman probe => probe.Found s ∧ humanResolutionRowsValid s.rows.items s.rows.audits = true
  | .reconcile probe target => probe.Found s ∧ target = .awaitingHumanReview
  | .reprojection probe => probe.after = .answer ∧ probe.resumable = true ∧ s.status = .awaitingHumanReview
  | .autoApproved probe => probe.Found s ∧ s.status = .awaitingHumanReview
  | .done result => Answered s result
  | _ => False

/-- How far a call is from its end. -/
def Node.rank : Node → Nat
  | .validateInput => 10
  | .collectEvidenceRefs => 9
  | .planAgentRuns => 8
  | .draftReviewCandidatesTransaction => 7
  | .runAutoReview => 6
  | .refreshReviewResolution => 5
  | .routeReviewBoundary => 4
  | .awaitHumanReview => 3
  | .finalizeNoCandidates => 3
  | .finalizeNeedsMoreEvidence => 3
  | .finalizeAutoResolved => 3

def nextRank (next : Option Node) : Nat := (next.map Node.rank).getD 0

def Pc.rank : Pc → Nat
  | .launch => 60
  | .initialProjection _ => 59
  | .initialWrite _ _ => 58
  | .previous _ _ => 57
  | .load _ _ _ => 56
  | .node run => 20+3*nextRank run.next
  | .persist _ _ next _ => 21+3*nextRank next
  | .interrupt _ _ => 19
  | .confirm _ => 18
  | .finish _ _ => 17
  | .fail _ _ _ _ => 17
  | .statusProjection _ => 10
  | .snapshot _ _ _ => 9
  | .verifyRevoked _ _ => 8
  | .verifyHuman _ => 7
  | .reconcile _ _ => 6
  | .reprojection _ => 5
  | .autoApproved _ => 4
  | .resumeProjection => 3
  | .resumeWrite _ => 2
  | .cancelProjection => 12
  | .cancelWrite _ => 11
  | .done _ => 0

theorem liveReconciliation_total {cc live : StatusCounts} {interrupted : Bool} {found : Bool × Bool}
    (h : liveReconciliation cc live interrupted = some found) : cc.total = live.total := by
  unfold liveReconciliation at h
  split at h
  · next heq => rw [heq]
  · split at h
    · cases h
    · next ht => exact not_not.mp ht

section calls

variable {settings : Settings} {owner actor : DemoUser} {m : Moment} {s : Shared}

/-- The points of a `status` call that only answers, and its answers. -/
def Pc.Reading : Pc → Prop
  | .statusProjection after => after = .answer
  | .snapshot after _ _ => after = .answer
  | .verifyRevoked probe _ => probe.after = .answer
  | .verifyHuman probe => probe.after = .answer
  | .reconcile probe _ => probe.after = .answer
  | .reprojection probe => probe.after = .answer
  | .autoApproved probe => probe.after = .answer
  | .done result => result ≠ .error .unmapped
  | _ => False

theorem Pc.Reading.not_breaks {pc : Pc} (h : pc.Reading) : ¬Breaks pc := by
  rintro (rfl | ⟨origin,thread,code,rfl⟩)
  · exact h rfl
  · exact h

theorem decide_reading {probe : Probe} (h : probe.after = .answer) : (decide probe).Reading ∧ (decide probe).rank ≤ 6 := by
  unfold decide
  split
  · split
    · exact ⟨h,le_refl _⟩
    · exact ⟨h,by simp [Pc.rank]⟩
  · exact ⟨h,by simp [Pc.rank]⟩

theorem snapshotStep_reading (thread : AgentWorkflowThread) (counts : StatusCounts) :
    (snapshotStep m .answer thread counts s).Reading ∧ (snapshotStep m .answer thread counts s).rank ≤ 8 := by
  have hdecide : ∀ probe : Probe, probe.after = .answer → (decide probe).Reading ∧ (decide probe).rank ≤ 8 := by
    intro probe h
    obtain ⟨hr,hle⟩ := decide_reading h
    exact ⟨hr,by omega⟩
  have hraised : ∀ code : ErrorCode, (Pc.raised code).Reading ∧ (Pc.raised code).rank ≤ 8 :=
    fun code => ⟨by simp [Pc.raised,Pc.Reading],Nat.zero_le _⟩
  unfold snapshotStep
  simp only
  split
  · exact hdecide _ rfl
  · split
    · exact hraised _
    · split
      · exact hdecide _ rfl
      · split
        · exact hdecide _ rfl
        · split
          · exact hdecide _ rfl
          · split
            · exact hraised _
            · exact ⟨rfl,le_refl _⟩
            · exact ⟨rfl,by simp [Pc.rank]⟩
            · exact hdecide _ rfl

/-- A `status` call that only answers comes to its end. -/
theorem reading_step {pc : Pc} (h : pc.Reading) (hpc : pc.isDone = false) :
    (stepCall settings actor m s pc).1.Reading ∧ (stepCall settings actor m s pc).1.rank < pc.rank := by
  have hraised : ∀ code : ErrorCode, (Pc.raised code).Reading := fun code => by simp [Pc.raised,Pc.Reading]
  cases pc with
  | statusProjection after =>
    cases h
    simp only [stepCall]
    cases projection settings actor s.rows with
    | none => exact ⟨hraised _,by simp [Pc.rank,Pc.raised]⟩
    | some p => exact ⟨rfl,by simp [Pc.rank]⟩
  | snapshot after thread counts =>
    cases h
    obtain ⟨hr,hle⟩ := snapshotStep_reading (m := m) (s := s) thread counts
    exact ⟨hr,Nat.lt_succ_of_le hle⟩
  | verifyRevoked probe human =>
    simp only [stepCall]
    split
    · exact ⟨hraised _,by simp [Pc.rank,Pc.raised]⟩
    · split
      · exact ⟨h,by simp [Pc.rank]⟩
      · obtain ⟨hr,hle⟩ := decide_reading h
        exact ⟨hr,lt_of_le_of_lt hle (by simp [Pc.rank])⟩
  | verifyHuman probe =>
    simp only [stepCall]
    split
    · exact ⟨hraised _,by simp [Pc.rank,Pc.raised]⟩
    · obtain ⟨hr,hle⟩ := decide_reading h
      exact ⟨hr,lt_of_le_of_lt hle (by simp [Pc.rank])⟩
  | reconcile probe target => exact ⟨h,by simp [stepCall,Pc.rank]⟩
  | reprojection probe =>
    simp only [stepCall]
    cases projection settings actor s.rows with
    | none => exact ⟨hraised _,by simp [Pc.rank,Pc.raised]⟩
    | some p => exact ⟨h,by simp [Pc.rank]⟩
  | autoApproved probe =>
    have ha : probe.after = .answer := h
    simp only [stepCall,ha]
    exact ⟨by simp [Pc.Reading],by simp [Pc.rank]⟩
  | done result => cases hpc
  | _ => exact absurd h id

/-- A `status` call on a waiting thread. -/
theorem answering_step {pc : Pc} (hs : AtInterrupt settings owner s) (h : Answering s pc) (hpc : pc.isDone = false)
    (hm : Healthy owner s m) :
    AtInterrupt settings owner (stepCall settings owner m s pc).2 ∧
      Answering (stepCall settings owner m s pc).2 (stepCall settings owner m s pc).1 := by
  have hdecide : ∀ probe : Probe, probe.Found s → Answering s (decide probe) := by
    intro probe hp
    unfold decide
    split
    · simp only [hp.resumable,if_true]
      exact ⟨hp,rfl⟩
    · next hnot =>
      refine ⟨hp,?_⟩
      rw [hp.thread] at hnot
      have hstatus := hs.status
      unfold Shared.status at hstatus ⊢
      tauto
  cases pc with
  | statusProjection after =>
    simp only [stepCall,projection_owner hs.launched]
    exact ⟨hs,h,rfl,rfl⟩
  | snapshot after thread counts =>
    obtain ⟨rfl,rfl,rfl⟩ := h
    refine ⟨hs,?_⟩
    obtain ⟨c,cc,hc,hi,-,hfull,hcc,-,revoked,human,hlive,hrevoked,hhuman⟩ := hs.waiting.waits
    have hp : Probe.Found s ⟨.answer,s.rows.thread,countItems s.rows.items,true,none⟩ := ⟨rfl,rfl,rfl,rfl⟩
    simp only [stepCall,snapshotStep,saver_healthy hm,hm.registered,hm.saver,hs.launched.checkpointId,hc,hfull.valid,hi,
      hcc,hlive,Option.getD_some,Bool.true_eq_false,Bool.false_eq_true,or_self,if_false,if_true]
    cases revoked with
    | true => exact ⟨hp,hrevoked rfl,hhuman⟩
    | false =>
      cases human with
      | true => exact ⟨hp,hhuman rfl⟩
      | false => exact hdecide _ hp
  | verifyRevoked probe human =>
    obtain ⟨hp,hrevoked,hhuman⟩ := h
    simp only [stepCall,hrevoked,Bool.true_eq_false,if_false]
    split
    · next hh => exact ⟨hs,hp,hhuman hh⟩
    · exact ⟨hs,hdecide _ hp⟩
  | verifyHuman probe =>
    obtain ⟨hp,hhuman⟩ := h
    simp only [stepCall,hhuman,Bool.true_eq_false,if_false]
    exact ⟨hs,hdecide _ hp⟩
  | reconcile probe target =>
    obtain ⟨hp,rfl⟩ := h
    exact ⟨⟨hs.launched.setStatus _ _ _ _,.inr (.inl rfl),⟨hs.waiting.waits⟩⟩,hp.after,hp.resumable,rfl⟩
  | reprojection probe =>
    obtain ⟨hafter,hres,hstatus⟩ := h
    simp only [stepCall,projection_owner hs.launched]
    exact ⟨hs,⟨hafter,rfl,rfl,hres⟩,hstatus⟩
  | autoApproved probe =>
    obtain ⟨hp,hstatus⟩ := h
    simp only [stepCall,hp.after]
    refine ⟨hs,hstatus,_,rfl,?_⟩
    intro hpending
    obtain ⟨c,cc,-,-,-,-,-,htotal,revoked,human,hlive,-⟩ := hs.waiting.waits
    have htotal' := liveReconciliation_total hlive
    have hawaits : s.rows.thread.status = .awaitingHumanReview := hstatus
    simp [statusView,hp.thread,hp.counts,hp.resumable,hawaits,hpending]
    omega
  | done result => cases hpc
  | _ => exact absurd h id

theorem Answering.reading {pc : Pc} (h : Answering s pc) : pc.Reading := by
  cases pc with
  | statusProjection after => exact h
  | snapshot after thread counts => exact h.1
  | verifyRevoked probe human => exact h.1.after
  | verifyHuman probe => exact h.1.after
  | reconcile probe target => exact h.1.after
  | reprojection probe => exact h.1
  | autoApproved probe => exact h.1.after
  | done result =>
    obtain ⟨-,view,rfl,-⟩ := h
    simp [Pc.Reading]
  | _ => exact absurd h id

/-- A `status` call writes nothing but the status it reconciles. -/
theorem reading_shared (settings : Settings) (actor : DemoUser) (m : Moment) (s : Shared) {pc : Pc} (h : pc.Reading) :
    (stepCall settings actor m s pc).2 = s ∨ ∃ probe target, pc = .reconcile probe target := by
  cases pc with
  | statusProjection after =>
    simp only [stepCall]
    cases projection settings actor s.rows <;> exact .inl rfl
  | verifyRevoked probe human =>
    simp only [stepCall]
    split
    · exact .inl rfl
    · split <;> exact .inl rfl
  | verifyHuman probe =>
    simp only [stepCall]
    split <;> exact .inl rfl
  | reconcile probe target => exact .inr ⟨probe,target,rfl⟩
  | reprojection probe =>
    simp only [stepCall]
    cases projection settings actor s.rows <;> exact .inl rfl
  | autoApproved probe =>
    simp only [stepCall]
    cases probe.after <;> exact .inl rfl
  | snapshot after thread counts => exact .inl rfl
  | done result => exact .inl rfl
  | _ => exact absurd h id

theorem reading_items {pc : Pc} (h : pc.Reading) : (stepCall settings actor m s pc).2.rows.items = s.rows.items := by
  rcases reading_shared settings actor m s h with hs | ⟨probe,target,rfl⟩
  · rw [hs]
  · rfl

theorem reading_status (settings : Settings) (actor : DemoUser) (m : Moment) {pc : Pc} (hf : pc.Fits s) (h : pc.Reading) :
    (stepCall settings actor m s pc).2.status = s.status ∨
      (stepCall settings actor m s pc).2.status = .awaitingHumanReview := by
  rcases reading_shared settings actor m s h with hs | ⟨probe,target,rfl⟩
  · rw [hs]
    exact .inl rfl
  · obtain ⟨-,rfl,-⟩ := hf
    exact .inr rfl

/-- `status` finds the interrupt of a waiting thread. -/
theorem status_answers (hs : AtInterrupt settings owner s) :
    Ends settings owner .status (fun c => AtInterrupt settings owner c.2 ∧ c.2.rows.items = s.rows.items ∧
      ∃ result, c.1 = .done result ∧ Answered c.2 result) s := by
  have hstart : AtInterrupt settings owner s ∧ s.rows.items = s.rows.items ∧ Answering s Call.status.entry := ⟨hs,rfl,rfl⟩
  apply inevitable_of_rank
    (J := fun c : Pc × Shared => AtInterrupt settings owner c.2 ∧ c.2.rows.items = s.rows.items ∧ Answering c.2 c.1)
    (fun c => c.1.rank) _ _ 11 _ (by simp [Call.entry,Pc.rank]) hstart
  · rintro ⟨pc,s'⟩ ⟨hs',hitems,ha⟩ hdone
    cases pc with
    | done result => exact ⟨hs',hitems,result,rfl,ha⟩
    | _ => cases hdone
  · rintro ⟨pc,s'⟩ m ⟨hs',hitems,ha⟩ hpc hm
    have hpc' : pc.isDone = false := by simpa using hpc
    obtain ⟨hnext,hanswering⟩ := answering_step hs' ha hpc' hm
    exact ⟨⟨hnext,(reading_items ha.reading).trans hitems,hanswering⟩,(reading_step ha.reading hpc').2⟩

/-! ## A `start` call on a thread not run yet -/

/-- The points of a `start` call that runs the thread. -/
def Starting (s : Shared) : Pc → Prop
  | .launch => s.status = .created
  | .initialProjection _ => True
  | .initialWrite _ _ => True
  | .previous origin _ => origin = .initial
  | .load origin _ previous => origin = .initial ∧ previous = none
  | .node run => run.origin = .initial ∧ run.previous = none ∧ run.resume = none
  | .persist run _ _ _ => run.origin = .initial ∧ run.previous = none
  | .interrupt run _ => run.origin = .initial ∧ run.previous = none
  | .confirm run => run.origin = .initial ∧ run.previous = none ∧
    ∃ c, s.checkpoint = some c ∧ run.interrupted.map (run.current,·) = c.interrupt.map (c.id,·)
  | .finish _ _ => True
  | .fail _ _ status _ => status = .failed
  | pc => pc.Reading ∧ s.status ≠ .created ∧ s.status ≠ .cancelled

/-- A node raises a `ValueError` at most when the owner may read the evidence and the items. -/
theorem execute_value {run : GraphRun} {node : Node} {e : NodeError} (hl : Launched settings owner s.rows)
    (hm : Healthy owner s m) (h : execute settings owner m s.rows run node = .error e) :
    ∃ message, e = .value message := by
  have hload := loadThread_launched hl
  have hcounts := counts_healthy hl hm
  cases node with
  | validateInput =>
    simp only [execute,validateInput,hload] at h
    split at h
    · cases h
      exact ⟨_,rfl⟩
    · cases h
  | collectEvidenceRefs =>
    obtain ⟨levels,hlevels,hread⟩ := owner_levels hl hm
    have hevidence : ¬(s.rows.evidencePermissions = [] ∨ ∃ level ∈ s.rows.evidencePermissions, level ∉ levels) := by
      rintro (hnil | ⟨level,hmem,hnot⟩)
      · exact hl.evidence.1 hnil
      · exact hnot (hread level (hl.evidence.2 level hmem))
    simp only [execute,collectEvidenceRefs,hlevels,Except.bind,if_neg hevidence] at h
    cases h
  | planAgentRuns =>
    simp only [execute,planAgentRuns] at h
    split at h
    · cases h
      exact ⟨_,rfl⟩
    · cases h
  | draftReviewCandidatesTransaction =>
    simp only [execute,draft,hcounts] at h
    cases h
  | refreshReviewResolution =>
    simp only [execute,refresh,hcounts] at h
    cases h
  | routeReviewBoundary =>
    simp only [execute,branch] at h
    split at h
    · cases h
    · split at h
      · cases h
      · split at h
        · cases h
        · split at h
          · cases h
          · cases h
            exact ⟨_,rfl⟩
  | awaitHumanReview =>
    simp only [execute,hload,Except.bind] at h
    split at h
    · cases h
    · split at h
      · cases h
      · cases h
        exact ⟨_,rfl⟩
  | _ => cases h

/-- Without an acknowledgement the graph goes forward. -/
theorem execute_forward {rows : Rows} {run : GraphRun} {node : Node} {channels : Channels} {next : Option Node} {ack : Bool}
    (hresume : run.resume = none) (h : execute settings actor m rows run node = .ok (.writes channels next ack)) :
    nextRank next < node.rank := by
  cases node with
  | routeReviewBoundary =>
    obtain ⟨next,hb,heq⟩ := map_ok h
    cases heq
    simp only [branch] at hb
    split at hb
    · cases hb
      decide
    · split at hb
      · cases hb
        decide
      · split at hb
        · cases hb
          decide
        · split at hb
          · cases hb
            decide
          · cases hb
  | awaitHumanReview =>
    obtain ⟨thread,-,h⟩ := bind_ok h
    rw [hresume] at h
    cases h
  | runAutoReview =>
    cases h
    decide
  | finalizeNoCandidates =>
    cases h
    decide
  | finalizeNeedsMoreEvidence =>
    cases h
    decide
  | finalizeAutoResolved =>
    cases h
    decide
  | _ =>
    obtain ⟨ch,-,heq⟩ := map_ok h
    cases heq
    decide

/-- A node of a `start` call under a healthy environment. -/
theorem starting_node {run : GraphRun} {node : Node} (hl : Launched settings owner s.rows) (hm : Healthy owner s m)
    (h : Starting s (.node run)) (hnode : run.next = some node) :
    Starting (nodeStep settings owner m run node s).2 (nodeStep settings owner m run node s).1 ∧
      (nodeStep settings owner m run node s).1.rank < (Pc.node run).rank ∧ ¬Breaks (nodeStep settings owner m run node s).1 := by
  obtain ⟨horigin,hprevious,hresume⟩ := h
  have hrank : (Pc.node run).rank = 20+3*node.rank := by simp [Pc.rank,nextRank,hnode]
  have hpos : 0 < node.rank := by cases node <;> decide
  have hfail : ∀ (message : ValueMessage) (s' : Shared),
      Starting s' (raiseInGraph run.origin run.thread (.value message)) ∧
        (raiseInGraph run.origin run.thread (.value message)).rank < (Pc.node run).rank ∧
        ¬Breaks (raiseInGraph run.origin run.thread (.value message)) := by
    intro message s'
    rw [horigin,hrank]
    refine ⟨rfl,?_,?_⟩
    · change 17 < _
      omega
    · rintro (hb | ⟨origin,thread,code,hb⟩) <;> cases hb
  unfold nodeStep
  cases hc : coordinate owner m s node with
  | error e =>
    obtain ⟨message,rfl⟩ : ∃ message, e = .value message := by
      unfold coordinate at hc
      split at hc
      · obtain ⟨levels,hlevels,-⟩ := owner_levels hl hm
        rw [hlevels] at hc
        cases hcoord : m.coordinator with
        | ok items =>
          rw [hcoord] at hc
          cases hc
        | error raised =>
          have he : e = raised := by
            rw [hcoord] at hc
            cases hc
            rfl
          subst he
          cases e with
          | value message => exact ⟨message,rfl⟩
          | permission => exact absurd hcoord hm.errors.1
          | unmapped => exact absurd hcoord hm.errors.2
      · cases hc
    exact hfail message s
  | ok s₁ =>
    obtain ⟨items,rfl,hreadable⟩ : ∃ items, s₁ = s.setItems items ∧ ItemsReadable owner items := by
      unfold coordinate at hc
      split at hc
      · obtain ⟨levels,-,hc⟩ := bind_ok hc
        obtain ⟨items,hitems,rfl⟩ := map_ok hc
        exact ⟨items,rfl,hm.items items hitems⟩
      · cases hc
        exact ⟨s.rows.items,rfl,hl.items⟩
    have hm₁ : Healthy owner (s.setItems items) m := ⟨hm.ready,hm.store,hm.registered,hm.saver,hm.permissions,hm.items,hm.errors⟩
    have hl₁ : Launched settings owner (s.setItems items).rows := hl.setItems hreadable
    simp only
    cases he : execute settings owner m (s.setItems items).rows run node with
    | error e =>
      obtain ⟨message,rfl⟩ := execute_value hl₁ hm₁ he
      exact hfail message _
    | ok outcome =>
      cases outcome with
      | interrupts version =>
        refine ⟨⟨horigin,hprevious⟩,?_,?_⟩
        · rw [hrank]
          change 19 < _
          omega
        · rintro (hb | ⟨origin,thread,code,hb⟩) <;> cases hb
      | writes channels next ack =>
        have hforward := execute_forward hresume he
        refine ⟨⟨horigin,hprevious⟩,?_,?_⟩
        · rw [hrank]
          change 21+3*nextRank next < _
          omega
        · rintro (hb | ⟨origin,thread,code,hb⟩) <;> cases hb

theorem starting_confirm {run : GraphRun} (hm : Healthy owner s m) (hf : (Pc.confirm run).Fits s)
    (h : Starting s (.confirm run)) : ∃ target, confirmStep m run s = .finish run target := by
  obtain ⟨-,hprevious,c,hc,hmatch⟩ := h
  unfold confirmStep
  simp only [hc]
  rw [if_neg (by simp [hm.saver,hprevious,hmatch])]
  cases hi : run.interrupted with
  | some version => exact ⟨_,rfl⟩
  | none =>
    rcases hf.2.2 hi with hstatus | hstatus
    · simp only [hstatus]
      exact ⟨_,rfl⟩
    · simp only [hstatus]
      exact ⟨_,rfl⟩

theorem starting_reading (settings : Settings) (actor : DemoUser) (m : Moment) {pc : Pc} (hf : pc.Fits s) (hpc : pc.isDone = false)
    (h : pc.Reading ∧ s.status ≠ .created ∧ s.status ≠ .cancelled) :
    (stepCall settings actor m s pc).1.Reading ∧ (stepCall settings actor m s pc).2.status ≠ .created ∧
      (stepCall settings actor m s pc).2.status ≠ .cancelled := by
  refine ⟨(reading_step h.1 hpc).1,?_⟩
  rcases reading_status settings actor m hf h.1 with hs | hs <;> rw [hs]
  · exact h.2
  · simp

theorem Starting.of_reading {pc : Pc} (h : pc.Reading) (hs : s.status ≠ .created ∧ s.status ≠ .cancelled) :
    Starting s pc := by
  cases pc with
  | statusProjection after => exact ⟨h,hs⟩
  | snapshot after thread counts => exact ⟨h,hs⟩
  | verifyRevoked probe human => exact ⟨h,hs⟩
  | verifyHuman probe => exact ⟨h,hs⟩
  | reconcile probe target => exact ⟨h,hs⟩
  | reprojection probe => exact ⟨h,hs⟩
  | autoApproved probe => exact ⟨h,hs⟩
  | done result => exact ⟨h,hs⟩
  | _ => exact absurd h id

/-- A `start` call comes to its end under a healthy environment, and nothing breaks it. -/
theorem starting_step {pc : Pc} (hl : Launched settings owner s.rows) (hm : Healthy owner s m) (hf : pc.Fits s)
    (h : Starting s pc) (hpc : pc.isDone = false) :
    Starting (stepCall settings owner m s pc).2 (stepCall settings owner m s pc).1 ∧
      (stepCall settings owner m s pc).1.rank < pc.rank ∧ ¬Breaks (stepCall settings owner m s pc).1 := by
  have hreading : pc.Reading → s.status ≠ .created ∧ s.status ≠ .cancelled →
      Starting (stepCall settings owner m s pc).2 (stepCall settings owner m s pc).1 ∧
        (stepCall settings owner m s pc).1.rank < pc.rank ∧ ¬Breaks (stepCall settings owner m s pc).1 := by
    intro hr hs
    obtain ⟨hr',hs'⟩ := starting_reading settings owner m hf hpc ⟨hr,hs⟩
    exact ⟨.of_reading hr' hs',(reading_step hr hpc).2,hr'.not_breaks⟩
  have hbreaks : ∀ pc' : Pc, (∀ e, pc' ≠ .done (.error e)) → (∀ origin thread status code, pc' ≠ .fail origin thread status code) →
      ¬Breaks pc' := by
    rintro pc' hdone hfail (hb | ⟨origin,thread,code,hb⟩)
    · exact hdone _ hb
    · exact hfail _ _ _ _ hb
  cases pc with
  | launch =>
    have hs : s.rows.thread.status = .created := h
    simp only [stepCall]
    rw [if_neg (by simp [hl.version]),if_neg (by simp [hs])]
    exact ⟨trivial,by simp [Pc.rank],hbreaks _ (by simp) (by simp)⟩
  | initialProjection launched =>
    simp only [stepCall,projection_owner hl]
    rw [if_neg (by simp [saver_healthy hm]),if_neg (by simp [hm.registered])]
    exact ⟨trivial,by simp [Pc.rank],hbreaks _ (by simp) (by simp)⟩
  | initialWrite launched thread => exact ⟨rfl,by simp [stepCall,Pc.rank],hbreaks _ (by simp [stepCall]) (by simp [stepCall])⟩
  | previous origin thread =>
    cases h
    obtain ⟨-,hnone,-⟩ := hf
    simp only [stepCall]
    split
    · refine ⟨rfl,by simp [raiseInGraph,Pc.rank],?_⟩
      rintro (hb | ⟨origin,thread,code,hb⟩) <;> cases hb
    · rw [if_neg (by simp [hm.saver])]
      exact ⟨⟨rfl,by rw [hnone]; rfl⟩,by simp [Pc.rank],hbreaks _ (by simp) (by simp)⟩
  | load origin thread previous =>
    obtain ⟨rfl,rfl⟩ := h
    exact ⟨⟨rfl,rfl,rfl⟩,by simp [stepCall,Pc.rank,nextRank,Node.rank],hbreaks _ (by simp [stepCall]) (by simp [stepCall])⟩
  | node run =>
    cases hn : run.next with
    | some node =>
      simp only [stepCall,hn]
      exact starting_node hl hm h hn
    | none =>
      obtain ⟨-,hi,⟨-,hat,-⟩ | ⟨hsome,-⟩⟩ := hf
      · have hc : s.checkpoint = some ⟨run.current,run.channels,run.next,none⟩ := hat
        simp only [stepCall,hn]
        exact ⟨⟨h.1,h.2.1,_,hc,by simp [hi]⟩,by simp [Pc.rank,hn,nextRank],hbreaks _ (by simp) (by simp)⟩
      · rw [h.2.2] at hsome
        cases hsome
  | persist run channels next ack =>
    exact ⟨⟨h.1,h.2,rfl⟩,by simp [stepCall,Pc.rank],hbreaks _ (by simp [stepCall]) (by simp [stepCall])⟩
  | interrupt run version =>
    have hc : s.checkpoint = some ⟨run.current,run.channels,run.next,none⟩ := hf.2.1
    refine ⟨⟨h.1,h.2,⟨run.current,run.channels,run.next,some version⟩,?_,rfl⟩,by simp [stepCall,Pc.rank],
      hbreaks _ (by simp [stepCall]) (by simp [stepCall])⟩
    simp [stepCall,Shared.putInterrupt,hc]
  | confirm run =>
    obtain ⟨target,ht⟩ := starting_confirm hm hf h
    simp only [stepCall,ht]
    exact ⟨trivial,by simp [Pc.rank],hbreaks _ (by simp) (by simp)⟩
  | finish run target =>
    refine ⟨⟨rfl,?_⟩,by simp [stepCall,Pc.rank],hbreaks _ (by simp [stepCall]) (by simp [stepCall])⟩
    change target ≠ .created ∧ target ≠ .cancelled
    rcases hf.2 with ⟨rfl,-⟩ | rfl | rfl <;> simp
  | fail origin thread status code =>
    cases h
    have hr : (Pc.raised code).Reading := by simp [Pc.raised,Pc.Reading]
    refine ⟨⟨hr,?_⟩,by simp [stepCall,Pc.raised,Pc.rank],hr.not_breaks⟩
    simp [stepCall,Shared.status,Shared.setThread,setStatus]
  | done result => cases hpc
  | resumeProjection => exact absurd h.1 id
  | resumeWrite thread => exact absurd h.1 id
  | cancelProjection => exact absurd h.1 id
  | cancelWrite thread => exact absurd h.1 id
  | statusProjection after => exact hreading h.1 h.2
  | snapshot after thread counts => exact hreading h.1 h.2
  | verifyRevoked probe human => exact hreading h.1 h.2
  | verifyHuman probe => exact hreading h.1 h.2
  | reconcile probe target => exact hreading h.1 h.2
  | reprojection probe => exact hreading h.1 h.2
  | autoApproved probe => exact hreading h.1 h.2

/-- `start` brings a thread that has not run to its interrupt or to an end. -/
theorem start_runs (hl : Launched settings owner s.rows) (hs : s.status = .created) (hc : s.checkpoint = none) :
    Ends settings owner .start (fun c => Launched settings owner c.2.rows ∧ Resting c.2 ∧ c.2.status ≠ .created ∧
      c.2.status ≠ .cancelled) s := by
  have hstart : Launched settings owner s.rows ∧ Call.start.entry.Fits s ∧ Starting s Call.start.entry :=
    ⟨hl,.inl ⟨hs,hc⟩,hs⟩
  apply inevitable_of_rank (J := fun c : Pc × Shared => Launched settings owner c.2.rows ∧ c.1.Fits c.2 ∧ Starting c.2 c.1)
    (fun c => c.1.rank) _ _ 61 _ (by simp [Call.entry,Pc.rank]) hstart
  · rintro ⟨pc,s'⟩ ⟨hl',hf,h⟩ hdone
    cases pc with
    | done result => exact ⟨hl',hf,h.2⟩
    | _ => cases hdone
  · rintro ⟨pc,s'⟩ m ⟨hl',hf,h⟩ hpc hm
    have hpc' : pc.isDone = false := by simpa using hpc
    obtain ⟨hnext,hrank,hbreak⟩ := starting_step hl' hm hf h hpc'
    obtain ⟨hl'',hf'⟩ := stepCall_fits hl' hf hpc' hm.items fun hb => absurd hb hbreak
    exact ⟨⟨hl'',hf',hnext⟩,hrank⟩

/-! ## Where a thread can go on from -/

theorem AtInterrupt.recovered (hs : AtInterrupt settings owner s) (h : s.status = .awaitingHumanReview) :
    Recovered settings owner s := by
  have hstatus : (countItems s.rows.items).pendingReview = 0 →
      Ends settings owner .status (fun c => ∃ view, c.1 = .done (.ok view) ∧ view.resumeAllowed = true) s := by
    intro hpending
    apply (status_answers hs).mono
    rintro ⟨pc,s'⟩ ⟨-,hitems,result,hdone,-,view,rfl,hallowed⟩
    refine ⟨view,hdone,hallowed ?_⟩
    rw [hitems]
    exact hpending
  exact .inr (.inr (.inr ⟨h,hstatus⟩))

/-- `status` alone recovers a thread that has been started. -/
theorem recovers_started (hl : Launched settings owner s.rows) (hr : Resting s) (hcreated : s.status ≠ .created)
    (hcancelled : s.status ≠ .cancelled) : RecoversIn settings owner 1 s := by
  rcases hr with ⟨h,-⟩ | ⟨hstatus,hw⟩ | h | h | h | h
  · exact absurd h hcreated
  · right
    refine ⟨.status,by simp,?_⟩
    apply (status_answers ⟨hl,hstatus,hw⟩).mono
    rintro c ⟨hc,-,result,-,hawaits,-⟩
    exact hc.recovered hawaits
  · exact .inl (.inl h)
  · exact .inl (.inr (.inl h))
  · exact .inl (.inr (.inr (.inl h)))
  · exact absurd h hcancelled

/-- Every resting thread that is not cancelled recovers. -/
theorem Resting.recoverable (hl : Launched settings owner s.rows) (hr : Resting s) (hcancelled : s.status ≠ .cancelled) :
    Recoverable settings owner s := by
  by_cases hcreated : s.status = .created
  · have hnone : s.checkpoint = none := by
      rcases hr with ⟨-,hc⟩ | ⟨hstatus,-⟩ | hend
      · exact hc
      · simp [hcreated] at hstatus
      · simp [hcreated] at hend
    refine ⟨2,.inr ⟨.start,by simp,?_⟩⟩
    apply (start_runs hl hcreated hnone).mono
    rintro c ⟨hl',hr',hc₁,hc₂⟩
    exact recovers_started hl' hr' hc₁ hc₂
  · exact ⟨1,recovers_started hl hr hcreated hcancelled⟩

/-! ## Where no call brings it further -/

/-- The thread is cancelled, or under way with a last checkpoint that `status` does not read. -/
def Stuck (s : Shared) : Prop :=
  s.status = .cancelled ∨ (s.status = .checkpointPending ∨ s.status = .resuming ∨ s.status = .checkpointFailed) ∧
    s.checkpoint.all (validateCheckpointState ·.channels = false) = true

/-- The points of the calls that find a stuck thread. -/
def Idle (s : Shared) : Pc → Prop
  | .launch => True
  | .statusProjection _ => True
  | .snapshot _ thread _ => thread.status = s.status
  | .verifyRevoked probe _ => probe.thread.status = .cancelled
  | .verifyHuman probe => probe.thread.status = .cancelled
  | .autoApproved _ => True
  | .resumeProjection => True
  | .done _ => True
  | _ => False

theorem decide_idle {probe : Probe}
    (h : probe.thread.status = .cancelled ∨ probe.resumable = false ∧ probe.terminal = none) : Idle s (decide probe) := by
  unfold decide
  split
  · next hstatus =>
    rcases h with h | ⟨h₁,h₂⟩
    · simp [h] at hstatus
    · simp only [h₁,h₂,Bool.false_eq_true,if_false]
      trivial
  · trivial

/-- No call but a cancel moves a stuck thread. -/
theorem stuck_step (settings : Settings) (actor : DemoUser) (m : Moment) {pc : Pc} (hs : Stuck s) (h : Idle s pc) :
    Idle s (stepCall settings actor m s pc).1 ∧ (stepCall settings actor m s pc).2 = s := by
  have hstatus : s.status ≠ .created ∧ s.status ≠ .awaitingHumanReview := by
    rcases hs with hs | ⟨hs | hs | hs,-⟩ <;> simp [hs]
  cases pc with
  | launch =>
    simp only [stepCall]
    split
    · exact ⟨trivial,rfl⟩
    · split
      · exact ⟨trivial,rfl⟩
      · next hcreated => exact absurd (not_not.mp hcreated) hstatus.1
  | statusProjection after =>
    simp only [stepCall]
    cases hp : projection settings actor s.rows with
    | none => exact ⟨trivial,rfl⟩
    | some p => exact ⟨congrArg _ (projection_thread hp),rfl⟩
  | snapshot after thread counts =>
    refine ⟨?_,rfl⟩
    have hnothing : ∀ counts, Idle s (decide ⟨after,thread,counts,false,none⟩) := fun counts => decide_idle (.inr ⟨rfl,rfl⟩)
    have ht : thread.status = s.status := h
    simp only [stepCall,snapshotStep]
    split
    · exact hnothing _
    · split
      · exact trivial
      · split
        · exact hnothing _
        · cases hc : s.checkpoint with
          | none => exact hnothing _
          | some c =>
            simp only
            split
            · exact hnothing _
            · next hvalid =>
              have hcancelled : thread.status = .cancelled := by
                rw [ht]
                rcases hs with hs | ⟨-,hs⟩
                · exact hs
                · simp [hc,hvalid] at hs
              split
              · exact trivial
              · exact hcancelled
              · exact hcancelled
              · exact decide_idle (.inl hcancelled)
  | verifyRevoked probe human =>
    simp only [stepCall]
    split
    · exact ⟨trivial,rfl⟩
    · split
      · exact ⟨h,rfl⟩
      · exact ⟨decide_idle (.inl h),rfl⟩
  | verifyHuman probe =>
    simp only [stepCall]
    split
    · exact ⟨trivial,rfl⟩
    · exact ⟨decide_idle (.inl h),rfl⟩
  | autoApproved probe =>
    simp only [stepCall]
    cases probe.after <;> exact ⟨trivial,rfl⟩
  | resumeProjection =>
    simp only [stepCall]
    cases hp : projection settings actor s.rows with
    | none => exact ⟨trivial,rfl⟩
    | some p =>
      have ht := projection_thread hp
      simp only
      rw [if_pos (by rw [ht]; exact hstatus.2)]
      exact ⟨trivial,rfl⟩
  | done result => exact ⟨trivial,rfl⟩
  | _ => exact absurd h id

/-- A healthy environment there always is. -/
def healthyMoment (owner : DemoUser) (s : Shared) : Moment :=
  ⟨0,true,s.rows.thread.checkpointStore,true,false,some fun _ => owner.permissionLevels,.ok []⟩

theorem healthyMoment_healthy (owner : DemoUser) (s : Shared) : Healthy owner s (healthyMoment owner s) where
  ready := rfl
  store := rfl
  registered := rfl
  saver := rfl
  permissions := rfl
  items := by
    rintro items ⟨⟩ item hitem
    cases hitem
  errors := ⟨by simp [healthyMoment],by simp [healthyMoment]⟩

theorem Stuck.not_recoverable (hs : Stuck s) : ¬Recoverable settings owner s := by
  have hnot : ¬Recovered settings owner s := by
    rintro (h | h | h | ⟨h,-⟩)
    all_goals rcases hs with hs | ⟨hs | hs | hs,-⟩ <;> simp [hs] at h
  rintro ⟨n,hn⟩
  induction n with
  | zero => exact hnot hn
  | succ n ih =>
    rcases hn with hn | ⟨call,hcall,hn⟩
    · exact hnot hn
    · have hentry : Idle s call.entry ∧ s = s := by
        cases call with
        | cancel => exact absurd rfl hcall
        | _ => exact ⟨trivial,rfl⟩
      obtain ⟨⟨pc,s'⟩,⟨-,hs'⟩,-,hq⟩ := hn.exists_end (J := fun c : Pc × Shared => Idle s c.1 ∧ c.2 = s)
        (fun c hc _ => ⟨healthyMoment owner c.2,healthyMoment_healthy owner c.2,by
          obtain ⟨hi,hc⟩ := hc
          have := stuck_step settings owner (healthyMoment owner c.2) hs hi
          unfold perform
          rw [hc]
          rw [hc] at this
          exact this⟩) hentry
      subst hs'
      exact ih hq

end calls

end ParaWorks.Workflow
