import ParaWorks.Workflow.Outcomes

/-!
# What a call leaves behind

Calls one after the other, each of which may be cut off at any point. The states they leave are those from which a
thread can go on: not run yet, waiting at a valid interrupt, or at an end.
-/

namespace ParaWorks.Workflow

open Lib Answers Rollout

/-! ## Threads and items of one owner -/

def OwnerReads (owner : DemoUser) (level : Text) : Prop :=
  level ∈ owner.permissionLevels ∧ (level = text "internal" ∨ level = text "public")

def ItemsReadable (owner : DemoUser) (items : List ReviewItem) : Prop :=
  ∀ item ∈ items, item.status ≠ none ∧ OwnerReads owner item.permissionLevel

/-- A V2.1 thread of the owner as the launch service creates it, with evidence and items the owner may read. -/
structure Launched (settings : Settings) (owner : DemoUser) (rows : Rows) : Prop where
  workflow : rows.thread.workflowName = companyMemoryReviewWorkflow
  version : rows.thread.graphVersion = graphVersionV21
  owned : rows.thread.ownerSubjectId = owner.id
  scope : rows.thread.securityScopeId = settings.agentRuntimeSecurityScopeId
  threadId : strip rows.thread.threadId ≠ []
  checkpointId : strip rows.thread.checkpointThreadId ≠ []
  hashes : isHash rows.thread.inputHash = true ∧ isHash rows.thread.evidenceVersionHash = true
  evidence : rows.evidencePermissions ≠ [] ∧ ∀ level ∈ rows.evidencePermissions, OwnerReads owner level
  items : ItemsReadable owner rows.items

/-! ## Channels along a run -/

structure BaseChannels (channels : Channels) : Prop where
  thread : channels.workflowThreadId.any (strip · ≠ []) = true
  status : channels.status = none
  count : channels.reviewItemCount = none
  nodes : channels.completedNodes.length ≤ maxCompletedNodes ∧ channels.completedNodes.Nodup
  errors : channels.errorCodes = []

structure FullChannels (channels : Channels) : Prop extends BaseChannels channels where
  version : channels.graphVersion.isSome = true
  hashes : channels.inputHash.any isHash = true ∧ channels.evidenceVersionHash.any isHash = true
  counts : channels.reviewStatusCounts.isSome = true
  phase : channels.phase.isSome = true

theorem FullChannels.valid {channels : Channels} (h : FullChannels channels) : validateCheckpointState channels = true := by
  have hthread : channels.workflowThreadId.isSome = true := by
    have := h.thread
    cases hw : channels.workflowThreadId with
    | none => rw [hw] at this; cases this
    | some t => rfl
  simp [validateCheckpointState,h.status,h.count,hthread,h.version,h.hashes.1,h.hashes.2,h.counts,h.phase,h.nodes.1,
    h.nodes.2,h.errors]

theorem appendUniqueBounded_bounds {α : Type} [DecidableEq α] (current updates : List α) (limit : Nat) :
    (appendUniqueBounded current updates limit).length ≤ limit ∧ (appendUniqueBounded current updates limit).Nodup := by
  have hnodup : ∀ (values merged : List α), merged.Nodup →
      (values.foldl (fun merged value => if value ∈ merged then merged else merged++[value]) merged).Nodup := by
    intro values
    induction values with
    | nil => exact fun merged h => h
    | cons value values ih =>
      intro merged h
      rw [List.foldl_cons]
      apply ih
      split
      · exact h
      · next hmem => exact List.nodup_append.mpr ⟨h,by simp,by simpa using fun a ha => ne_of_mem_of_not_mem ha hmem⟩
  unfold appendUniqueBounded
  constructor
  · rw [List.length_drop]
    omega
  · exact (hnodup _ [] List.nodup_nil).sublist (List.drop_sublist _ _)

theorem FullChannels.complete {channels : Channels} (h : FullChannels channels) (phase : Phase) (node : Node) :
    FullChannels (channels.complete phase node) where
  thread := h.thread
  status := h.status
  count := h.count
  nodes := appendUniqueBounded_bounds ..
  errors := h.errors
  version := h.version
  hashes := h.hashes
  counts := h.counts
  phase := rfl

theorem FullChannels.setCounts {channels : Channels} (h : FullChannels channels) (counts : StatusCounts) :
    FullChannels { channels with reviewStatusCounts := some counts } :=
  ⟨⟨h.thread,h.status,h.count,h.nodes,h.errors⟩,h.version,h.hashes,rfl,h.phase⟩

/-- What the channels hold when a node is due. -/
def ChannelsAt (items : List ReviewItem) (channels : Channels) : Option Node → Prop
  | none => channels.status = some .completed ∨ channels.status = some .needsMoreEvidence
  | some .validateInput => BaseChannels channels
  | some .routeReviewBoundary => FullChannels channels ∧ channels.reviewStatusCounts = some (countItems items)
  | some .awaitHumanReview =>
    FullChannels channels ∧ channels.reviewStatusCounts = some (countItems items) ∧ 0 < (countItems items).total
  | some _ => FullChannels channels

/-! ## States that a thread goes on from -/

def Interrupted (s : Shared) : Prop := ∃ c, s.checkpoint = some c ∧ c.interrupt.isSome = true

/-- `status` accepts the items against the counts of the interrupted checkpoint. -/
def Reconcilable (checkpoint : StatusCounts) (items : List ReviewItem) (audits : List AuditLog) : Prop :=
  ∃ revoked human, liveReconciliation checkpoint (countItems items) true = some (revoked,human) ∧
    (revoked = true → revokedRowsValid items = true) ∧ (human = true → humanResolutionRowsValid items audits = true)

/-- The thread waits at an interrupt that `status` accepts. -/
structure Waiting (s : Shared) : Prop where
  waits : ∃ c cc, s.checkpoint = some c ∧ c.interrupt.isSome = true ∧ c.next = some .awaitHumanReview ∧
    FullChannels c.channels ∧ c.channels.reviewStatusCounts = some cc ∧ 0 < cc.total ∧
    Reconcilable cc s.rows.items s.rows.audits

theorem Waiting.interrupted {s : Shared} (h : Waiting s) : Interrupted s :=
  let ⟨c,_,hc,hi,_⟩ := h.waits
  ⟨c,hc,hi⟩

def Shared.status (s : Shared) : ThreadStatus := s.rows.thread.status

/-- Not run yet; waiting at its interrupt, whatever the row says of it; or at an end. -/
def Resting (s : Shared) : Prop :=
  s.status = .created ∧ s.checkpoint = none ∨
  (s.status = .checkpointPending ∨ s.status = .awaitingHumanReview ∨ s.status = .resuming ∨
    s.status = .checkpointFailed) ∧ Waiting s ∨
  s.status = .completed ∨ s.status = .needsMoreEvidence ∨ s.status = .failed ∨ s.status = .cancelled

/-- A call that is cut off here leaves the thread where it can go on. -/
def Safe (s : Shared) : Prop :=
  s.status ≠ .checkpointPending ∧ s.status ≠ .resuming ∧ s.status ≠ .checkpointFailed ∨ Interrupted s

structure InRun (s : Shared) : Prop where
  status : s.status = .checkpointPending ∨ s.status = .resuming
  waiting : Interrupted s → Waiting s

theorem InRun.waiting_of_safe {s : Shared} (h : InRun s) (hs : Safe s) : Waiting s := by
  rcases hs with ⟨h₁,h₂,-⟩ | hi
  · rcases h.status with h' | h'
    · exact absurd h' h₁
    · exact absurd h' h₂
  · exact h.waiting hi

theorem InRun.resting {s : Shared} (h : InRun s) (hw : Waiting s) : Resting s := by
  rcases h.status with h' | h'
  · exact .inr (.inl ⟨.inl h',hw⟩)
  · exact .inr (.inl ⟨.inr (.inr (.inl h')),hw⟩)

/-- The run stands at the last checkpoint, which is not interrupted. -/
def GraphRun.At (run : GraphRun) (s : Shared) : Prop := s.checkpoint = some ⟨run.current,run.channels,run.next,none⟩

/-- What `status` has found fits the row: an interrupt is there, and an outcome is not found of a thread under way. -/
structure Probe.Fits (s : Shared) (probe : Probe) : Prop where
  resting : Resting s
  thread : probe.thread.status = s.status
  resumable : probe.resumable = true → Interrupted s
  terminal : probe.terminal = none ∨ ¬probe.thread.status.Reconciled

/-- What holds of the shared state while one call, and only this one, stands at the point. -/
def Pc.Fits (s : Shared) : Pc → Prop
  | .initialProjection _ => s.status = .created ∧ s.checkpoint = none
  | .initialWrite _ thread => s.status = .created ∧ s.checkpoint = none ∧ strip thread.threadId ≠ []
  | .previous .initial thread => InRun s ∧ s.checkpoint = none ∧ strip thread.threadId ≠ []
  | .previous .resume _ => InRun s ∧ Waiting s
  | .load .initial thread _ => InRun s ∧ s.checkpoint = none ∧ strip thread.threadId ≠ []
  | .load .resume _ _ => InRun s ∧ Waiting s
  | .node run => InRun s ∧ run.interrupted = none ∧
    (run.resume = none ∧ run.At s ∧ ChannelsAt s.rows.items run.channels run.next ∨
      run.resume.isSome = true ∧ run.next = some .awaitHumanReview ∧ FullChannels run.channels)
  | .persist run channels next _ => InRun s ∧ run.interrupted = none ∧ ChannelsAt s.rows.items channels next
  | .interrupt run _ => InRun s ∧ run.At s ∧ run.next = some .awaitHumanReview ∧
    ChannelsAt s.rows.items run.channels (some .awaitHumanReview)
  | .confirm run => InRun s ∧ (run.interrupted.isSome = true → Waiting s) ∧
    (run.interrupted = none → run.channels.status = some .completed ∨ run.channels.status = some .needsMoreEvidence)
  | .finish _ target => InRun s ∧
    (target = .awaitingHumanReview ∧ Waiting s ∨ target = .completed ∨ target = .needsMoreEvidence)
  | .fail _ _ status _ => InRun s ∧ (status = .failed ∨ status = .checkpointFailed ∧ Waiting s)
  | .snapshot _ thread _ => Resting s ∧ thread.status = s.status
  | .verifyRevoked probe _ => probe.Fits s
  | .verifyHuman probe => probe.Fits s
  | .reconcile _ target => Resting s ∧ target = .awaitingHumanReview ∧ Waiting s
  | .resumeWrite _ => s.status = .awaitingHumanReview ∧ Waiting s
  | _ => Resting s

/-- A call is cut off at a safe point only. -/
theorem Pc.Fits.resting {s : Shared} {pc : Pc} (h : pc.Fits s) (hs : Safe s) : Resting s := by
  have hrun : InRun s → Resting s := fun h => h.resting (h.waiting_of_safe hs)
  cases pc with
  | initialProjection launched => exact .inl h
  | initialWrite launched thread => exact .inl ⟨h.1,h.2.1⟩
  | previous origin thread => cases origin <;> exact hrun h.1
  | load origin thread previous => cases origin <;> exact hrun h.1
  | node run => exact hrun h.1
  | persist run channels next ack => exact hrun h.1
  | interrupt run version => exact hrun h.1
  | confirm run => exact hrun h.1
  | finish run target => exact hrun h.1
  | fail origin thread status code => exact hrun h.1
  | snapshot after thread counts => exact h.1
  | verifyRevoked probe human => exact Probe.Fits.resting h
  | verifyHuman probe => exact Probe.Fits.resting h
  | reconcile probe target => exact h.1
  | resumeWrite thread => exact .inr (.inl ⟨.inr (.inl h.1),h.2⟩)
  | launch => exact h
  | statusProjection after => exact h
  | reprojection probe => exact h
  | autoApproved probe => exact h
  | resumeProjection => exact h
  | cancelProjection => exact h
  | cancelWrite thread => exact h
  | done result => exact h

/-! ## One step of a call that is alone -/

/-- The call leaves by an exception that nothing maps, or marks the checkpoint as failed. -/
def Breaks (pc : Pc) : Prop :=
  pc = .done (.error .unmapped) ∨ ∃ origin thread code, pc = .fail origin thread .checkpointFailed code

section alone

variable {settings : Settings} {owner actor : DemoUser} {m : Moment} {s : Shared}

theorem Launched.setThread {rows : Rows} (h : Launched settings owner rows) {thread : AgentWorkflowThread}
    (hw : thread.workflowName = rows.thread.workflowName) (hv : thread.graphVersion = rows.thread.graphVersion)
    (ho : thread.ownerSubjectId = rows.thread.ownerSubjectId) (hs : thread.securityScopeId = rows.thread.securityScopeId)
    (ht : thread.threadId = rows.thread.threadId) (hc : thread.checkpointThreadId = rows.thread.checkpointThreadId)
    (hi : thread.inputHash = rows.thread.inputHash ∧ thread.evidenceVersionHash = rows.thread.evidenceVersionHash) :
    Launched settings owner { rows with thread := thread } where
  workflow := hw ▸ h.workflow
  version := hv ▸ h.version
  owned := ho ▸ h.owned
  scope := hs ▸ h.scope
  threadId := ht ▸ h.threadId
  checkpointId := hc ▸ h.checkpointId
  hashes := by
    rw [show thread.inputHash = _ from hi.1,show thread.evidenceVersionHash = _ from hi.2]
    exact h.hashes
  evidence := h.evidence
  items := h.items

theorem Launched.setStatus {rows : Rows} (h : Launched settings owner rows) (status : ThreadStatus)
    (completed bump : Bool) (now : Nat) :
    Launched settings owner { rows with thread := Workflow.setStatus rows.thread status completed bump now } :=
  h.setThread rfl rfl rfl rfl rfl rfl ⟨rfl,rfl⟩

theorem Launched.setItems {rows : Rows} (h : Launched settings owner rows) {items : List ReviewItem}
    (hi : ItemsReadable owner items) : Launched settings owner { rows with items := items } :=
  ⟨h.workflow,h.version,h.owned,h.scope,h.threadId,h.checkpointId,h.hashes,h.evidence,hi⟩

theorem InRun.of_at {run : GraphRun} (h : InRun s) (hat : run.At s) : ¬Interrupted s ∧ ¬Safe s := by
  have hi : ¬Interrupted s := by
    rintro ⟨c,hc,hi⟩
    rw [show s.checkpoint = _ from hat] at hc
    cases hc
    cases hi
  refine ⟨hi,?_⟩
  rintro (⟨h₁,h₂,-⟩ | h')
  · rcases h.status with h' | h'
    · exact h₁ h'
    · exact h₂ h'
  · exact hi h'

theorem decide_fits {probe : Probe} (h : probe.Fits s) : (decide probe).Fits s := by
  unfold decide
  split
  · next hr =>
    cases hres : probe.resumable with
    | true =>
      have hi := h.resumable hres
      rcases h.resting with ⟨-,hc⟩ | ⟨-,hw⟩ | hend
      · obtain ⟨c,hc',-⟩ := hi
        rw [hc] at hc'
        cases hc'
      · exact ⟨h.resting,rfl,hw⟩
      · rw [h.thread] at hr
        rcases hr with hr | hr | hr | hr <;> simp [hr] at hend
    | false =>
      rcases h.terminal with ht | hnot
      · simp only [ht,Bool.false_eq_true,if_false]
        exact h.resting
      · exact absurd hr hnot
  · exact h.resting

theorem snapshotStep_fits {after : After} {thread : AgentWorkflowThread} {counts : StatusCounts} (hr : Resting s)
    (ht : thread.status = s.status) : (snapshotStep m after thread counts s).Fits s := by
  have hnothing : (decide ⟨after,thread,counts,false,none⟩).Fits s :=
    decide_fits ⟨hr,ht,by simp,.inl rfl⟩
  unfold snapshotStep
  cases hc : s.checkpoint with
  | none =>
    simp only
    split
    · exact hnothing
    · split
      · exact hr
      · split <;> exact hnothing
  | some c =>
    have hprobe : Probe.Fits s ⟨after,thread,counts,c.interrupt.isSome,
        if c.interrupt.isSome then none else terminalPhase c.channels.phase⟩ := by
      refine ⟨hr,ht,fun hi => ⟨c,hc,hi⟩,?_⟩
      cases hi : c.interrupt.isSome with
      | true => exact .inl rfl
      | false =>
        right
        intro hrec
        change thread.status.Reconciled at hrec
        rw [ht] at hrec
        rcases hr with ⟨-,hc'⟩ | ⟨-,hw⟩ | hend
        · rw [hc] at hc'
          cases hc'
        · obtain ⟨d,hd,hdi⟩ := hw.interrupted
          rw [hc] at hd
          cases hd
          rw [hi] at hdi
          cases hdi
        · rcases hrec with hrec | hrec | hrec | hrec <;> simp [hrec] at hend
    simp only
    split
    · exact hnothing
    · split
      · exact hr
      · split
        · exact hnothing
        · split
          · exact hnothing
          · split
            · exact hr
            · exact hprobe
            · exact hprobe
            · exact decide_fits hprobe

/-- The channels that a persisted node leaves fit the node that is due next. -/
theorem execute_fits {rows : Rows} {run : GraphRun} {node : Node} {channels : Channels} {next : Option Node} {ack : Bool}
    (hl : Launched settings owner rows) (hnode : run.next = some node) {items : List ReviewItem}
    (hitems : node.coordinated = false → items = rows.items) (hch : ChannelsAt items run.channels run.next)
    (h : execute settings actor m rows run node = .ok (.writes channels next ack)) :
    ChannelsAt rows.items channels next := by
  rw [hnode] at hch
  cases node with
  | validateInput =>
    obtain ⟨ch,hv,heq⟩ := map_ok h
    cases heq
    unfold validateInput at hv
    split at hv
    · cases hv
    · obtain ⟨thread,hload,rfl⟩ := map_ok hv
      unfold loadThread at hload
      split at hload
      · cases hload
      · cases hload
        exact ⟨⟨hch.thread,hch.status,hch.count,appendUniqueBounded_bounds ..,hch.errors⟩,rfl,
          by simpa [Channels.complete] using hl.hashes,rfl,rfl⟩
  | collectEvidenceRefs =>
    obtain ⟨ch,hv,heq⟩ := map_ok h
    cases heq
    obtain ⟨allowed,-,hv⟩ := bind_ok hv
    split at hv
    · cases hv
    · cases hv
      exact FullChannels.complete hch _ _
  | planAgentRuns =>
    obtain ⟨ch,hv,heq⟩ := map_ok h
    cases heq
    unfold planAgentRuns at hv
    split at hv
    · cases hv
    · cases hv
      exact FullChannels.complete hch _ _
  | draftReviewCandidatesTransaction =>
    obtain ⟨ch,hv,heq⟩ := map_ok h
    cases heq
    obtain ⟨c,-,rfl⟩ := map_ok hv
    exact (FullChannels.setCounts hch c).complete _ _
  | runAutoReview =>
    cases h
    exact FullChannels.complete hch _ _
  | refreshReviewResolution =>
    obtain ⟨ch,hv,heq⟩ := map_ok h
    cases heq
    obtain ⟨c,hcounts,rfl⟩ := map_ok hv
    obtain ⟨rfl,-⟩ := counts_ok hcounts
    exact ⟨(FullChannels.setCounts hch _).complete _ _,rfl⟩
  | routeReviewBoundary =>
    obtain ⟨next,hb,heq⟩ := map_ok h
    cases heq
    have hfull : FullChannels (route run.channels) := FullChannels.complete hch.1 _ _
    have hcounts : (route run.channels).reviewStatusCounts = some (countItems rows.items) := by
      rw [←hitems rfl]
      exact hch.2
    unfold branch at hb
    rw [hcounts] at hb
    simp only [Option.getD_some] at hb
    split at hb
    · cases hb
      exact hfull
    · split at hb
      · next hp =>
        cases hb
        refine ⟨hfull,hcounts,?_⟩
        unfold StatusCounts.total
        omega
      · split at hb
        · cases hb
          exact hfull
        · split at hb
          · cases hb
            exact hfull
          · cases hb
  | awaitHumanReview =>
    obtain ⟨thread,-,h⟩ := bind_ok h
    split at h
    · cases h
    · split at h
      · cases h
        exact FullChannels.complete hch.1 _ _
      · cases h
  | finalizeNoCandidates =>
    cases h
    exact .inl rfl
  | finalizeNeedsMoreEvidence =>
    cases h
    exact .inr rfl
  | finalizeAutoResolved =>
    cases h
    exact .inl rfl

/-- A node raises into a failed thread, or out of the call. -/
theorem raiseInGraph_cases (origin : Origin) (thread : AgentWorkflowThread) (e : NodeError) :
    (∃ code, raiseInGraph origin thread e = .fail .initial thread .failed code) ∨
      raiseInGraph origin thread e = .done (.error .unmapped) := by
  cases e with
  | value message =>
    cases origin with
    | initial => exact .inl ⟨_,rfl⟩
    | resume => exact .inr rfl
  | permission => exact .inr rfl
  | unmapped => exact .inr rfl

theorem raiseInGraph_fits {origin : Origin} {thread : AgentWorkflowThread} {e : NodeError} (h : InRun s)
    (hs : Breaks (raiseInGraph origin thread e) → Waiting s) : (raiseInGraph origin thread e).Fits s := by
  rcases raiseInGraph_cases origin thread e with ⟨code,he⟩ | he
  · rw [he]
    exact ⟨h,.inl rfl⟩
  · rw [he] at hs ⊢
    exact h.resting (hs (.inl rfl))

theorem Waiting.of_putInterrupt {run : GraphRun} (hat : run.At s) (hnext : run.next = some .awaitHumanReview)
    (hch : ChannelsAt s.rows.items run.channels (some .awaitHumanReview)) (version : Nat) :
    Waiting (s.putInterrupt run.current version) := by
  refine ⟨⟨⟨run.current,run.channels,run.next,some version⟩,countItems s.rows.items,?_,rfl,hnext,hch.1,hch.2.1,hch.2.2,?_⟩⟩
  · change s.checkpoint.map _ = _
    rw [show s.checkpoint = _ from hat]
    simp
  · exact ⟨false,false,by simp [liveReconciliation,Shared.putInterrupt],by simp,by simp⟩

/-- A node that the run stands at. -/
theorem nodeStep_fits {run : GraphRun} {node : Node} (hl : Launched settings owner s.rows) (hrun : InRun s)
    (hi : run.interrupted = none) (hat : run.At s) (hnode : run.next = some node)
    (hch : ChannelsAt s.rows.items run.channels run.next)
    (hcoord : ∀ items, m.coordinator = .ok items → ItemsReadable owner items)
    (hbreak : ¬Breaks (nodeStep settings actor m run node s).1) :
    Launched settings owner (nodeStep settings actor m run node s).2.rows ∧
      (nodeStep settings actor m run node s).1.Fits (nodeStep settings actor m run node s).2 := by
  unfold nodeStep at hbreak ⊢
  cases hc : coordinate actor m s node with
  | error e =>
    rw [hc] at hbreak
    exact ⟨hl,raiseInGraph_fits hrun fun h => absurd h hbreak⟩
  | ok s₁ =>
    rw [hc] at hbreak
    have hs₁ : ∃ items, s₁ = s.setItems items ∧ ItemsReadable owner items ∧
        (node.coordinated = false → s.rows.items = items) := by
      unfold coordinate at hc
      split at hc
      · next hco =>
        obtain ⟨levels,-,hc⟩ := bind_ok hc
        obtain ⟨items,hitems,rfl⟩ := map_ok hc
        exact ⟨items,rfl,hcoord items hitems,fun h => absurd hco (by simp [h])⟩
      · cases hc
        exact ⟨s.rows.items,rfl,hl.items,fun _ => rfl⟩
    obtain ⟨items,rfl,hreadable,hsame⟩ := hs₁
    have hl₁ : Launched settings owner (s.setItems items).rows := hl.setItems hreadable
    have hrun₁ : InRun (s.setItems items) := ⟨hrun.status,fun h => absurd h (hrun.of_at hat).1⟩
    cases he : execute settings actor m (s.setItems items).rows run node with
    | error e =>
      simp only [he] at hbreak ⊢
      exact ⟨hl₁,raiseInGraph_fits hrun₁ fun h => absurd h hbreak⟩
    | ok outcome =>
      cases outcome with
      | interrupts version =>
        simp only [he]
        refine ⟨hl₁,hrun₁,hat,?_⟩
        cases node with
        | awaitHumanReview =>
          rw [hnode] at hch
          rw [←show s.rows.items = items from hsame rfl]
          exact ⟨hnode,hch⟩
        | routeReviewBoundary =>
          obtain ⟨next,-,h⟩ := map_ok he
          cases h
        | _ => first | cases he | (obtain ⟨ch,-,h⟩ := map_ok he; cases h)
      | writes channels next ack =>
        have hfits := execute_fits hl₁ hnode hsame hch he
        simp only [he]
        refine ⟨?_,?_⟩
        · split <;> exact hl₁
        · split <;> exact ⟨⟨hrun₁.status,fun h => absurd h (hrun.of_at hat).1⟩,hi,hfits⟩

theorem resting_end {status : ThreadStatus} (h : s.status = status)
    (he : status = .completed ∨ status = .needsMoreEvidence ∨ status = .failed ∨ status = .cancelled) : Resting s := by
  subst h
  exact .inr (.inr he)

/-- The acknowledgement of the interrupt the thread waits at. -/
theorem acknowledge_fits {run : GraphRun} (hl : Launched settings owner s.rows) (hrun : InRun s)
    (hi : run.interrupted = none) (hresume : run.resume.isSome = true) (hch : FullChannels run.channels)
    (hbreak : Breaks (nodeStep settings actor m run .awaitHumanReview s).1 → Safe s) :
    Launched settings owner (nodeStep settings actor m run .awaitHumanReview s).2.rows ∧
      (nodeStep settings actor m run .awaitHumanReview s).1.Fits (nodeStep settings actor m run .awaitHumanReview s).2 := by
  have hc : coordinate actor m s .awaitHumanReview = .ok s := rfl
  unfold nodeStep at hbreak ⊢
  rw [hc] at hbreak ⊢
  cases he : execute settings actor m s.rows run .awaitHumanReview with
  | error e =>
    simp only [he] at hbreak ⊢
    exact ⟨hl,raiseInGraph_fits hrun fun h => hrun.waiting_of_safe (hbreak h)⟩
  | ok outcome =>
    simp only [he]
    obtain ⟨thread,-,he⟩ := bind_ok he
    cases hv : run.resume with
    | none =>
      rw [hv] at hresume
      cases hresume
    | some version =>
      rw [hv] at he
      simp only at he
      split at he
      · cases he
        exact ⟨hl,hrun,hi,hch.complete _ _⟩
      · cases he

theorem confirmStep_fits {run : GraphRun} (h : (Pc.confirm run).Fits s) (hbreak : Breaks (confirmStep m run s) → Safe s) :
    (confirmStep m run s).Fits s := by
  obtain ⟨hrun,hwait,hend⟩ := h
  have hfail : (Safe s) → (Pc.fail run.origin run.thread .checkpointFailed .checkpointFailed).Fits s :=
    fun hs => ⟨hrun,.inr ⟨rfl,hrun.waiting_of_safe hs⟩⟩
  have hbroken : Breaks (.fail run.origin run.thread .checkpointFailed .checkpointFailed) := .inr ⟨_,_,_,rfl⟩
  unfold confirmStep at hbreak ⊢
  cases hc : s.checkpoint with
  | none =>
    rw [hc] at hbreak
    exact hfail (hbreak hbroken)
  | some c =>
    rw [hc] at hbreak
    simp only at hbreak ⊢
    split
    · next hbad => exact hfail (hbreak (by rw [if_pos hbad]; exact hbroken))
    · cases hi : run.interrupted with
      | some version => exact ⟨hrun,.inl ⟨rfl,hwait (by rw [hi]; rfl)⟩⟩
      | none =>
        rcases hend hi with hstatus | hstatus
        · simp only [hstatus]
          exact ⟨hrun,.inr (.inl rfl)⟩
        · simp only [hstatus]
          exact ⟨hrun,.inr (.inr rfl)⟩

/-- One step of a call that is alone, and does not break where the thread could not go on. -/
theorem stepCall_fits {pc : Pc} (hl : Launched settings owner s.rows) (h : pc.Fits s) (hpc : pc.isDone = false)
    (hcoord : ∀ items, m.coordinator = .ok items → ItemsReadable owner items)
    (hbreak : Breaks (stepCall settings actor m s pc).1 → Safe s) :
    Launched settings owner (stepCall settings actor m s pc).2.rows ∧
      (stepCall settings actor m s pc).1.Fits (stepCall settings actor m s pc).2 := by
  cases pc with
  | launch =>
    simp only [stepCall]
    split
    · exact ⟨hl,h⟩
    · split
      · exact ⟨hl,h⟩
      · next hs =>
        refine ⟨hl,not_not.mp hs,?_⟩
        rcases h with ⟨-,hc⟩ | ⟨hstatus,-⟩ | hend
        · exact hc
        · have : s.status = .created := not_not.mp hs
          rw [this] at hstatus
          simp at hstatus
        · have : s.status = .created := not_not.mp hs
          rw [this] at hend
          simp at hend
  | initialProjection launched =>
    simp only [stepCall]
    cases hp : projection settings actor s.rows with
    | none => exact ⟨hl,.inl h⟩
    | some p =>
      obtain ⟨thread,counts⟩ := p
      simp only
      split
      · exact ⟨hl,.inl h⟩
      · split
        · exact ⟨hl,.inl h⟩
        · exact ⟨hl,h.1,h.2,projection_thread hp ▸ hl.threadId⟩
  | initialWrite launched thread =>
    refine ⟨hl.setStatus _ _ _ _,⟨.inl rfl,?_⟩,h.2.1,h.2.2⟩
    rintro ⟨c,hc,-⟩
    rw [show (stepCall settings actor m s (.initialWrite launched thread)).2.checkpoint = none from h.2.1] at hc
    cases hc
  | previous origin thread =>
    cases origin with
    | initial =>
      obtain ⟨hrun,hc,ht⟩ := h
      simp only [stepCall] at hbreak ⊢
      have hnot : ¬Safe s := by
        intro hs
        obtain ⟨c,hc',-⟩ := (hrun.waiting_of_safe hs).interrupted
        rw [hc] at hc'
        cases hc'
      split
      · exact ⟨hl,hrun,.inl rfl⟩
      · next hid =>
        rw [if_neg hid] at hbreak
        split
        · next hfails =>
          rw [if_pos hfails] at hbreak
          exact absurd (hbreak (.inr ⟨_,_,_,rfl⟩)) hnot
        · exact ⟨hl,hrun,hc,ht⟩
    | resume =>
      obtain ⟨hrun,hw⟩ := h
      simp only [stepCall]
      split
      · exact ⟨hl,hrun.resting hw⟩
      · split
        · exact ⟨hl,hrun,.inr ⟨rfl,hw⟩⟩
        · exact ⟨hl,hrun,hw⟩
  | load origin thread previous =>
    cases origin with
    | initial =>
      obtain ⟨hrun,hc,ht⟩ := h
      refine ⟨hl,⟨hrun.status,?_⟩,rfl,.inl ⟨rfl,rfl,?_⟩⟩
      · rintro ⟨c,hc',hi⟩
        cases hc'
        cases hi
      · simp only [hc]
        exact ⟨by simpa using ht,rfl,rfl,⟨Nat.zero_le _,List.nodup_nil⟩,rfl⟩
    | resume =>
      obtain ⟨hrun,hw⟩ := h
      obtain ⟨c,cc,hc,hi,hn,hfull,hcc,htotal,hrec⟩ := hw.waits
      simp only [stepCall,hc]
      exact ⟨hl,hrun,rfl,.inr ⟨rfl,hn,hfull⟩⟩
  | node run =>
    obtain ⟨hrun,hi,hcase⟩ := h
    cases hn : run.next with
    | none =>
      simp only [stepCall,hn]
      refine ⟨hl,hrun,by simp [hi],fun _ => ?_⟩
      rcases hcase with ⟨-,-,hch⟩ | ⟨-,hnext,-⟩
      · rw [hn] at hch
        exact hch
      · rw [hn] at hnext
        cases hnext
    | some node =>
      simp only [stepCall,hn] at hbreak ⊢
      rcases hcase with ⟨-,hat,hch⟩ | ⟨hresume,hnext,hfull⟩
      · exact nodeStep_fits hl hrun hi hat hn hch hcoord fun hb => (hrun.of_at hat).2 (hbreak hb)
      · rw [hn] at hnext
        cases hnext
        exact acknowledge_fits hl hrun hi hresume hfull hbreak
  | persist run channels next ack =>
    obtain ⟨hrun,hi,hch⟩ := h
    refine ⟨hl,⟨hrun.status,?_⟩,hi,.inl ⟨rfl,rfl,hch⟩⟩
    rintro ⟨c,hc,hint⟩
    cases hc
    cases hint
  | interrupt run version =>
    obtain ⟨hrun,hat,hn,hch⟩ := h
    have hw := Waiting.of_putInterrupt hat hn hch version
    exact ⟨hl,⟨hrun.status,fun _ => hw⟩,fun _ => hw,by simp⟩
  | confirm run => exact ⟨hl,confirmStep_fits h hbreak⟩
  | finish run target =>
    obtain ⟨hrun,htarget⟩ := h
    refine ⟨hl.setStatus _ _ _ _,?_⟩
    rcases htarget with ⟨rfl,hw⟩ | rfl | rfl
    · exact .inr (.inl ⟨.inr (.inl rfl),⟨hw.waits⟩⟩)
    · exact resting_end rfl (.inl rfl)
    · exact resting_end rfl (.inr (.inl rfl))
  | fail origin thread status code =>
    obtain ⟨hrun,hstatus⟩ := h
    refine ⟨hl.setStatus _ _ _ _,?_⟩
    rcases hstatus with rfl | ⟨rfl,hw⟩
    · exact resting_end rfl (.inr (.inr (.inl rfl)))
    · exact .inr (.inl ⟨.inr (.inr (.inr rfl)),⟨hw.waits⟩⟩)
  | statusProjection after =>
    simp only [stepCall]
    cases hp : projection settings actor s.rows with
    | none => exact ⟨hl,h⟩
    | some p =>
      obtain ⟨thread,counts⟩ := p
      exact ⟨hl,h,congrArg _ (projection_thread hp)⟩
  | snapshot after thread counts => exact ⟨hl,snapshotStep_fits h.1 h.2⟩
  | verifyRevoked probe human =>
    simp only [stepCall]
    split
    · exact ⟨hl,Probe.Fits.resting h⟩
    · split
      · exact ⟨hl,h⟩
      · exact ⟨hl,decide_fits h⟩
  | verifyHuman probe =>
    simp only [stepCall]
    split
    · exact ⟨hl,Probe.Fits.resting h⟩
    · exact ⟨hl,decide_fits h⟩
  | reconcile probe target =>
    obtain ⟨-,rfl,hw⟩ := h
    exact ⟨hl.setStatus _ _ _ _,.inr (.inl ⟨.inr (.inl rfl),⟨hw.waits⟩⟩)⟩
  | reprojection probe =>
    simp only [stepCall]
    cases projection settings actor s.rows with
    | none => exact ⟨hl,h⟩
    | some p => exact ⟨hl,h⟩
  | autoApproved probe =>
    simp only [stepCall]
    cases probe.after <;> exact ⟨hl,h⟩
  | resumeProjection =>
    simp only [stepCall]
    cases hp : projection settings actor s.rows with
    | none => exact ⟨hl,h⟩
    | some p =>
      obtain ⟨thread,counts⟩ := p
      have ht := projection_thread hp
      simp only
      split
      · exact ⟨hl,h⟩
      · next hstatus =>
        split
        · exact ⟨hl,h⟩
        · split
          · exact ⟨hl,h⟩
          · split
            · exact ⟨hl,h⟩
            · have hs : s.status = .awaitingHumanReview := by
                rw [ht] at hstatus
                exact not_not.mp hstatus
              refine ⟨hl,hs,?_⟩
              rcases h with ⟨hc,-⟩ | ⟨-,hw⟩ | hend
              · rw [hs] at hc
                cases hc
              · exact hw
              · rw [hs] at hend
                simp at hend
  | resumeWrite thread =>
    have hw : Waiting (s.setThread (setStatus · .resuming false false m.now)) := ⟨h.2.waits⟩
    exact ⟨hl.setStatus _ _ _ _,⟨.inr rfl,fun _ => hw⟩,hw⟩
  | cancelProjection =>
    simp only [stepCall]
    cases projection settings actor s.rows with
    | none => exact ⟨hl,h⟩
    | some p =>
      simp only
      split
      · exact ⟨hl,h⟩
      · split <;> exact ⟨hl,h⟩
  | cancelWrite thread =>
    exact ⟨hl.setThread rfl rfl rfl rfl rfl rfl ⟨rfl,rfl⟩,resting_end rfl (.inr (.inr (.inr rfl)))⟩
  | done result => cases hpc

end alone

end ParaWorks.Workflow
