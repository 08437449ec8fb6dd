import ParaWorks.ReviewThreads.Service

/-!
# The moves of a call

What one step of a call may do to the rows and the checkpoints, and where it leaves the call. Everything that holds over
whole runs is derived from this list.
-/

namespace ParaWorks.ReviewThreads

open Lib Answers

/-! ## Projections -/

/-- The actor may read every evidence source and every review item. -/
structure MayRead (actor : DemoUser) (rows : Rows) : Prop where
  sources : ∀ ref ∈ rows.refs, ∃ source ∈ sourceOf rows ref, source.permissionLevel ∈ actor.permissionLevels
  items : ∀ item ∈ rows.items, item.permissionLevel ∈ actor.permissionLevels

/-- The projection of the rows. -/
def Rows.projection (rows : Rows) : Projection := ⟨rows.thread,rows.items.map (·.id),countItems rows.items⟩

theorem readProjection_ok {scope : Text} {actor : DemoUser} {action : Action} {current : Bool} {rows : Rows}
    {projection : Projection} (h : readProjection scope actor action current rows = .ok projection) :
    projection = rows.projection ∧ MayRead actor rows ∧ actionAllowed rows.thread actor action = true ∧
      ∀ item ∈ rows.items, item.status ≠ none := by
  unfold readProjection at h
  split at h
  · cases h
  split at h
  · cases h
  split at h
  · cases h
  next hrefs =>
    split at h
    · cases h
    split at h
    · cases h
    next hitems =>
      split at h
      · cases h
      next hact =>
        split at h
        · cases h
        next hstatus =>
          cases h
          push Not at hrefs hitems hstatus
          refine ⟨rfl,⟨?_,hitems⟩,by simpa using hact,hstatus⟩
          intro ref href
          have hidden := hrefs.2 ref href
          unfold refHidden at hidden
          cases hs : sourceOf rows ref with
          | none => simp [hs] at hidden
          | some source =>
            rw [hs] at hidden
            have hlevel : source.permissionLevel ∈ actor.permissionLevels := by
              by_contra hn
              exact hidden (by simp [hn])
            exact ⟨source,rfl,hlevel⟩

/-! ## Program points -/

/-- The entry that a point of the guarded part belongs to. -/
def Pc.purpose : Pc → Option Purpose
  | .initialProjection result => some (.start result)
  | .previous purpose _ => some purpose
  | .load purpose _ _ => some purpose
  | .node run => some run.purpose
  | .persist run _ _ => some run.purpose
  | .interrupt run _ => some run.purpose
  | .confirm run => some run.purpose
  | _ => none

/-- The points from which an entry marks the thread without having come to a result. -/
def Pc.marks : Pc → Bool
  | .finishRead _ _ => true
  | .repairReread _ _ => true
  | .resumeReread _ => true
  | pc => pc.purpose.isSome

/-- A compare-and-set that an entry has decided on: the row it was decided on and the status it writes. -/
def Pc.decision : Pc → Option (AgentWorkflowThread × ThreadStatus)
  | .ensureWrite _ thread => some (thread,.checkpointPending)
  | .finishWrite _ projection target => some (projection.thread,target)
  | .markWrite thread target _ => some (thread,target)
  | .restore claimed _ => some (claimed.thread,.awaitingHumanReview)
  | .reconcile _ projection _ target => some (projection.thread,target)
  | .resumeReconcile projection target => some (projection.thread,target)
  | .failWrite projection => some (projection.thread,.checkpointFailed)
  | .claim projection => some (projection.thread,.resuming)
  | .cancelWrite projection => some (projection.thread,.cancelled)
  | _ => none

/-- Where a decided compare-and-set leaves the call. -/
def Pc.Won (s' : Shared) : Pc → Pc → Prop
  | .ensureWrite result _, pc => pc = .initialProjection result
  | .finishWrite purpose _ _, pc => pc = .statusRead purpose.after
  | .markWrite _ _ code, pc => pc = .raised code
  | .restore _ code, pc => pc = .raised code
  | .reconcile after _ resumable _, pc => pc = .reread after resumable
  | .resumeReconcile _ _, pc => pc = .statusRead .answer
  | .failWrite _, pc => pc = .failedRead
  | .claim _, pc => pc = .resumeReread s'.thread
  | .cancelWrite _, pc => pc = .statusRead .answer
  | _, _ => False

/-- The status that a row is reconciled to. -/
def Probe.target : Probe → ThreadStatus
  | .interrupted _ => .awaitingHumanReview
  | .terminal status => status

/-- The leases that a point of the draft service holds. -/
def DraftPc.leases : DraftPc → List Lease
  | .preview => []
  | .result _ => []
  | .claim => []
  | .packet lease => [lease]
  | .adapter lease _ => [lease]
  | .renew lease _ => [lease]
  | .persist lease _ => [lease]
  | .release claims _ => claims

/-- The points of the draft service that may still end in a result or in a second attempt. -/
def DraftPc.open : DraftPc → Bool
  | .release _ trouble => trouble = .code (.of .modelUnavailable)
  | _ => true

/-- The row after a compare-and-set: the version is one up, and what identifies the thread is as it was. -/
structure Rewritten (base thread : AgentWorkflowThread) (target : ThreadStatus) : Prop where
  version : thread.stateVersion = base.stateVersion+1
  status : thread.status = target
  owner : thread.ownerSubjectId = base.ownerSubjectId

/-! ## Moves -/

/-- The moves of a call from one program point to the next. -/
inductive Moves (settings : Settings) (actor : DemoUser) (m : Moment) (s : Shared) : Pc → Pc → Shared → Prop where
  /-- a draft that a node of the graph has asked for -/
  | redrafts {pc' : Pc} {s' : Shared} (run : GraphRun) (point : DraftPc) :
    Moves settings actor m s (.drafting (.node run) point) pc' s'
  | ends {pc : Pc} (result : Except Raised ReviewWorkflowStatus) : Moves settings actor m s pc (.done result) s
  | endsInNode (run : GraphRun) (result : Except Raised ReviewWorkflowStatus) (h : run.next.isSome = true) :
    Moves settings actor m s (.node run) (.done result)
      (s.modify run.attempt run.current fun c => { c with raised := true })
  | marks {pc : Pc} (target : ThreadStatus) (code : ErrorCode) (hpc : pc.marks = true)
      (ht : target = .checkpointFailed ∨ target = .awaitingHumanReview) :
    Moves settings actor m s pc (.markRead target code) s
  | marksInNode (run : GraphRun) (target : ThreadStatus) (code : ErrorCode) (h : run.next.isSome = true)
      (ht : target = .checkpointFailed ∨ target = .awaitingHumanReview) :
    Moves settings actor m s (.node run) (.markRead target code)
      (s.modify run.attempt run.current fun c => { c with raised := true })
  | restores {pc : Pc} (claimed : Projection) (code : ErrorCode) (hpc : pc.purpose = some (.resume claimed)) :
    Moves settings actor m s pc (.restore claimed code) s
  | restoresInNode (run : GraphRun) (claimed : Projection) (code : ErrorCode) (h : run.next.isSome = true)
      (hpc : run.purpose = .resume claimed) :
    Moves settings actor m s (.node run) (.restore claimed code)
      (s.modify run.attempt run.current fun c => { c with raised := true })
  | restoresUnready (written : AgentWorkflowThread) (code : ErrorCode) :
    Moves settings actor m s (.resumeReread written) (.restore s.rows.projection code) s
  | decides {pc pc' : Pc} {s' : Shared} (base : AgentWorkflowThread) (target : ThreadStatus)
      (hpc : pc.decision = some (base,target)) (hu : unmoved s.thread base = true)
      (hs : ∃ thread, s' = s.setThread thread ∧ Rewritten s.thread thread target ∧
        thread.checkpointThreadId = s.thread.checkpointThreadId)
      (hw : pc.Won s' pc') : Moves settings actor m s pc pc' s'
  | rotates (projection : Projection) (after : After) (thread : AgentWorkflowThread)
      (hv : s.thread.stateVersion = projection.thread.stateVersion) (hs : s.thread.status = .checkpointFailed)
      (ht : Rewritten s.thread thread .checkpointPending ∧
        thread.checkpointThreadId = s.thread.checkpointThreadId+1) :
    Moves settings actor m s (.rotate projection after) (.repairReread thread after) (s.setThread thread)
  | loses {pc : Pc} {pc' : Pc} (hpc : pc' = .resumeRead) (h : ∃ after projection resumable target,
      pc = .reconcile after projection resumable target) : Moves settings actor m s pc pc' s
  | drafts (attempt attempt' : Nat) (point point' : DraftPc) (hl : point'.leases ⊆ point.leases)
      (ho : point'.open = true → point.open = true) :
    Moves settings actor m s (.drafting (.start attempt) point) (.drafting (.start attempt') point') s
  | leases (attempt : Nat) (lease : Lease) (thread : AgentWorkflowThread)
      (hs : Draftable s.thread.status = true) (hl : lease.priorStatus = leaseRestoreStatus s.thread.status)
      (ht : Rewritten s.thread thread .drafting ∧ thread.checkpointThreadId = s.thread.checkpointThreadId)
      (s' : Shared) (hs' : s'.rows = (s.setThread thread).rows ∧ s'.checkpoints = s.checkpoints) :
    Moves settings actor m s (.drafting (.start attempt) .claim) (.drafting (.start attempt) (.packet lease)) s'
  | renews (attempt : Nat) (lease : Lease) (results : List (List Text)) (point' : DraftPc)
      (thread : AgentWorkflowThread) (hs : threadHasExactLease s.thread lease = true)
      (hl : ∀ lease' ∈ point'.leases, lease'.priorStatus = lease.priorStatus)
      (ht : Rewritten s.thread thread .drafting ∧ thread.checkpointThreadId = s.thread.checkpointThreadId) :
    Moves settings actor m s (.drafting (.start attempt) (.renew lease results)) (.drafting (.start attempt) point')
      (s.setThread thread)
  | unrenewed (attempt : Nat) (lease : Lease) (results : List (List Text)) (point' : DraftPc)
      (hl : ∀ lease' ∈ point'.leases, lease'.priorStatus = lease.priorStatus) :
    Moves settings actor m s (.drafting (.start attempt) (.renew lease results)) (.drafting (.start attempt) point') s
  | releases (attempt : Nat) (lease : Lease) (claims : List Lease) (trouble : DraftTrouble)
      (hs : threadHasExactLease s.thread lease = true) :
    Moves settings actor m s (.drafting (.start attempt) (.release (lease::claims) trouble))
      (.drafting (.start attempt) (.release claims trouble))
      (s.setThread (endLease s.thread lease.priorStatus m.now))
  | mismatches (attempt : Nat) (lease : Lease) (results : List (List Text)) (levels : List Text)
      (hs : threadHasExactLease s.thread lease = true) :
    Moves settings actor m s (.drafting (.start attempt) (.persist lease results))
      (.drafting (.start attempt) (.release [lease] (.code .evidenceBindingMismatch)))
      ((insertReviewItems s levels).setThread (endLease s.thread lease.priorStatus m.now))
  | persistsDraft (attempt : Nat) (lease : Lease) (results : List (List Text)) (result : ReviewDraftResult)
      (hs : threadHasExactLease s.thread lease = true)
      (hr : result.reviewStatusCounts.total = 0 → results.flatten = []) :
    Moves settings actor m s (.drafting (.start attempt) (.persist lease results)) (.ensureRead result)
      ((insertReviewItems s results.flatten).setThread (endLease s.thread .checkpointPending m.now))
  | drafted (attempt : Nat) (point : DraftPc) (result : ReviewDraftResult) (ho : point.open = true) :
    Moves settings actor m s (.drafting (.start attempt) point) (.ensureRead result) s
  | exhausts (attempt : Nat) (point : DraftPc) (code : ErrorCode) :
    Moves settings actor m s (.drafting (.start attempt) point) (.markRead .failed code) s
  | ensures (result : ReviewDraftResult) (h : s.thread.status = .created ∨ s.thread.status = .drafting ∨
      s.thread.status = .checkpointFailed) :
    Moves settings actor m s (.ensureRead result) (.ensureWrite result s.thread) s
  | ensured (result : ReviewDraftResult) (h : s.thread.status = .checkpointPending) :
    Moves settings actor m s (.ensureRead result) (.initialProjection result) s
  | projects (result : ReviewDraftResult) :
    Moves settings actor m s (.initialProjection result) (.previous (.start result) s.thread.checkpointThreadId) s
  | opens (purpose : Purpose) (attempt : Nat) (previous : Option Nat) :
    Moves settings actor m s (.previous purpose attempt) (.load purpose attempt previous) s
  | inputs (purpose : Purpose) (attempt : Nat) (previous : Option Nat) (hp : purpose.prepared.isSome = true) :
    Moves settings actor m s (.load purpose attempt previous)
      (.node ⟨purpose,attempt,previous,s.nextId,
        { ((saved m s attempt).map (·.channels)).getD {} with workflowThreadId := some s.thread.threadId },
        some .validateInput,none,none⟩)
      (s.put attempt { ((saved m s attempt).map (·.channels)).getD {} with workflowThreadId := some s.thread.threadId }
        (some .validateInput))
  | continues (claimed : Projection) (attempt : Nat) (previous : Option Nat) (c : Checkpoint)
      (h : saved m s attempt = some c) :
    Moves settings actor m s (.load (.resume claimed) attempt previous)
      (.node ⟨.resume claimed,attempt,previous,c.id,c.channels,c.next,some claimed.thread.stateVersion,none⟩) s
  | concludes (run : GraphRun) (h : run.next = none) : Moves settings actor m s (.node run) (.confirm run) s
  | works (run : GraphRun) (node : Node) (channels : Channels) (next : Option Node) (h : run.next = some node)
      (hn : execute settings actor s.rows run node = .ok (.writes channels next)) :
    Moves settings actor m s (.node run) (.persist run channels next) s
  | pauses (run : GraphRun) (version : Nat) (h : run.next = some .awaitHumanReview)
      (ha : run.acknowledgement = none) :
    Moves settings actor m s (.node run) (.interrupt run version) s
  | asks (run : GraphRun) (h : run.next = some .draftReviewCandidatesTransaction)
      (hp : run.purpose.prepared = none) :
    Moves settings actor m s (.node run) (.drafting (.node run) .preview) s
  | persists (run : GraphRun) (channels : Channels) (next : Option Node) :
    Moves settings actor m s (.persist run channels next)
      (.node { run with current := s.nextId, channels := channels, next := next, acknowledgement := none })
      (s.put run.attempt channels next)
  | interrupts (run : GraphRun) (version : Nat) :
    Moves settings actor m s (.interrupt run version) (.confirm { run with interrupted := some version })
      (s.modify run.attempt run.current fun c => { c with interrupt := some version })
  | confirms (run : GraphRun) :
    Moves settings actor m s (.confirm run) (.finishRead run.purpose (resultTarget run)) s
  | finishes (purpose : Purpose) (target : ThreadStatus) (h : s.thread.status = purpose.claimedStatus) :
    Moves settings actor m s (.finishRead purpose (some target)) (.finishWrite purpose s.rows.projection target) s
  | readsForMark (target : ThreadStatus) (code : ErrorCode) (h : TerminalThreadStatus s.thread.status = false) :
    Moves settings actor m s (.markRead target code) (.markWrite s.thread target code) s
  | replays : Moves settings actor m s .replay (.statusRead .answer) s
  | readsStatus (after : After) :
    Moves settings actor m s (.statusRead after) (.statusProbe after s.rows.projection) s
  | asksAgain {pc : Pc} (h : (∃ after, pc = .statusRead after) ∨ (∃ after projection, pc = .statusProbe after projection) ∨
      ∃ after resumable, pc = .reread after resumable) : Moves settings actor m s pc .resumeRead s
  | reconciles (after : After) (projection : Projection) (version : Nat)
      (hs : projection.thread.status = .checkpointPending ∨ projection.thread.status = .checkpointFailed)
      (hp : probeCheckpoint projection (saved m s projection.thread.checkpointThreadId) = .ok (.interrupted version)) :
    Moves settings actor m s (.statusProbe after projection) (.reconcile after projection true .awaitingHumanReview) s
  | reconcilesEnd (after : After) (projection : Projection) (target : ThreadStatus)
      (hs : projection.thread.status = .checkpointPending ∨ projection.thread.status = .resuming ∨
        projection.thread.status = .checkpointFailed)
      (hp : probeCheckpoint projection (saved m s projection.thread.checkpointThreadId) = .ok (.terminal target)) :
    Moves settings actor m s (.statusProbe after projection) (.reconcile after projection false target) s
  | admits (h : s.thread.status = .awaitingHumanReview ∧ (countItems s.rows.items).pendingReview = 0 ∨
      s.thread.status = .checkpointFailed) :
    Moves settings actor m s .resumeRead (.resumeProbe s.rows.projection) s
  | repairs {pc : Pc} (projection : Projection) (after : After)
      (h : pc = .resumeProbe projection ∨ pc = .failedRead ∧ projection = s.rows.projection) :
    Moves settings actor m s pc (.rotate projection after) s
  | breaks (projection : Projection) (hs : projection.thread.status ≠ .checkpointFailed) :
    Moves settings actor m s (.resumeProbe projection) (.failWrite projection) s
  | recovers (projection : Projection) (probe : Probe) (hs : projection.thread.status = .checkpointFailed)
      (hp : probeCheckpoint projection (saved m s projection.thread.checkpointThreadId) = .ok probe) :
    Moves settings actor m s (.resumeProbe projection)
      (.resumeReconcile projection probe.target) s
  | claims (projection : Projection) (version : Nat) (hs : projection.thread.status ≠ .checkpointFailed)
      (hp : probeCheckpoint projection (saved m s projection.thread.checkpointThreadId) = .ok (.interrupted version)) :
    Moves settings actor m s (.resumeProbe projection) (.claim projection) s
  | rereadsRepair (written : AgentWorkflowThread) (after : After)
      (hs : ∀ item ∈ s.rows.items, item.status ≠ none) :
    Moves settings actor m s (.repairReread written after)
      (.previous (.repair s.rows.projection after) s.thread.checkpointThreadId) s
  | rereadsResume (written : AgentWorkflowThread) :
    Moves settings actor m s (.resumeReread written)
      (.previous (.resume s.rows.projection) s.thread.checkpointThreadId) s
  | cancels (h : CancellableThreadStatus s.thread.status = true) :
    Moves settings actor m s .cancelRead (.cancelWrite s.rows.projection) s

section step

variable {settings : Settings} {actor : DemoUser} {m : Moment} {s : Shared}

theorem handle_moves {pc : Pc} {purpose : Purpose} (hpc : pc.purpose = some purpose) (failure : Failure) :
    Moves settings actor m s pc (handle purpose failure) s := by
  have hm : pc.marks = true := by cases pc <;> simp_all [Pc.purpose,Pc.marks]
  cases purpose with
  | start result => cases failure <;> first | exact .ends _ | exact .marks _ _ hm (.inl rfl)
  | repair fresh after => exact .marks _ _ hm (.inl rfl)
  | resume claimed =>
    cases failure <;> first
      | exact .marks _ _ hm (.inl rfl)
      | exact .marks _ _ hm (.inr rfl)
      | exact .restores _ _ hpc

theorem raiseInNode_moves (run : GraphRun) (h : run.next.isSome = true) (failure : Failure) :
    Moves settings actor m s (.node run) (raiseInNode m run failure s).1 (raiseInNode m run failure s).2 := by
  unfold raiseInNode
  by_cases hsaver : m.saverFails = true
  · rw [if_pos hsaver]
    exact handle_moves rfl failure
  · rw [if_neg hsaver]
    cases hp : run.purpose with
    | start result => cases failure <;> first | exact .endsInNode _ _ h | exact .marksInNode _ _ _ h (.inl rfl)
    | repair fresh after => exact .marksInNode _ _ _ h (.inl rfl)
    | resume claimed =>
      cases failure <;> first
        | exact .marksInNode _ _ _ h (.inl rfl)
        | exact .marksInNode _ _ _ h (.inr rfl)
        | exact .restoresInNode _ _ _ h hp

/-- A projection that is refused ends the call. -/
theorem project_moves {pc : Pc} {action : Action} {current : Bool} {k : Projection → Pc}
    (hk : ∀ projection, readProjection settings.agentRuntimeSecurityScopeId actor action current s.rows = .ok projection →
      Moves settings actor m s pc (k projection) s) :
    Moves settings actor m s pc (project settings actor action current s k) s := by
  unfold project
  split
  · exact .ends _
  · next projection h => exact hk projection h

theorem casStep_moves {pc lost : Pc} {won : Shared → Pc} {base : AgentWorkflowThread} {target : ThreadStatus}
    {confirmed completed : Bool} (hpc : pc.decision = some (base,target))
    (hw : ∀ s', pc.Won s' (won s')) (hl : Moves settings actor m s pc lost s) :
    Moves settings actor m s pc (casStep m s base target confirmed completed lost won).1
      (casStep m s base target confirmed completed lost won).2 := by
  unfold casStep casStatus
  by_cases hu : unmoved s.thread base = true
  · rw [if_pos hu]
    have hv : s.thread.stateVersion = base.stateVersion := by
      have := hu
      simp only [unmoved,Bool.and_eq_true,decide_eq_true_eq] at this
      exact this.1
    exact .decides base target hpc hu ⟨_,rfl,⟨by simp [casValues,hv],rfl,rfl⟩,rfl⟩ (hw _)
  · rw [if_neg hu]
    exact hl

theorem answerStatus_moves {pc : Pc} (after : After) (projection : Projection) (resumable : Bool)
    (errorCode resumeErrorCode : Option ErrorCode)
    (h : Moves settings actor m s pc .resumeRead s) :
    Moves settings actor m s pc (answerStatus actor m after projection resumable errorCode resumeErrorCode) s := by
  unfold answerStatus
  cases after with
  | answer => exact .ends _
  | resume =>
    dsimp only
    split
    · exact h
    · exact .ends _

end step

section runs

variable {settings : Settings} {actor : DemoUser} {m : Moment} {s : Shared}

theorem execute_interrupts {rows : Rows} {run : GraphRun} {node : Node} {version : Nat}
    (h : execute settings actor rows run node = .ok (.interrupts version)) :
    node = .awaitHumanReview ∧ run.acknowledgement = none ∧ version = rows.thread.stateVersion := by
  cases node with
  | awaitHumanReview =>
    simp only [execute,loadThread] at h
    split at h
    · cases h
    · cases ha : run.acknowledgement with
      | none =>
        rw [ha] at h
        cases h
        exact ⟨rfl,rfl,rfl⟩
      | some version' =>
        simp only [ha,Except.bind] at h
        split at h <;> cases h
  | validateInput => exact absurd h (by cases hx : validateInput rows run.channels <;> simp [execute,hx,Except.map])
  | collectEvidenceRefs =>
    exact absurd h (by cases hx : collectEvidenceRefs actor rows run.channels <;> simp [execute,hx,Except.map])
  | planAgentRuns =>
    exact absurd h
      (by cases hx : planAgentRuns settings.agentRegistry rows run.channels <;> simp [execute,hx,Except.map])
  | draftReviewCandidatesTransaction =>
    simp only [execute] at h
    cases hx : currentPermissions actor with
    | error _ => simp [hx,Except.bind] at h
    | ok _ =>
      simp only [hx,Except.bind] at h
      split at h
      · next result hr =>
        cases hd : draftReviewCandidatesTransaction result run.channels <;> simp [hd,Except.map] at h
      · cases h
  | routeReviewBoundary => cases h
  | finalizeNoCandidates => cases h
  | verifyReviewResolutionFromPostgres =>
    simp only [execute] at h
    cases hx : verifyReviewResolution actor rows run.channels with
    | error _ => simp [hx,Except.bind] at h
    | ok channels => cases hb : reviewResolutionBranch channels <;> simp [hx,hb,Except.bind,Except.map] at h
  | finalizeNeedsMoreEvidence => cases h
  | finalizeReviewTrace => cases h

theorem execute_drafts {rows : Rows} {run : GraphRun} {node : Node}
    (h : execute settings actor rows run node = .ok .drafts) :
    node = .draftReviewCandidatesTransaction ∧ run.purpose.prepared = none := by
  cases node with
  | draftReviewCandidatesTransaction =>
    simp only [execute] at h
    cases hx : currentPermissions actor with
    | error _ => simp [hx,Except.bind] at h
    | ok _ =>
      simp only [hx,Except.bind] at h
      split at h
      · next result hr =>
        cases hd : draftReviewCandidatesTransaction result run.channels <;> simp [hd,Except.map] at h
      · next hr => exact ⟨rfl,hr⟩
  | awaitHumanReview =>
    simp only [execute] at h
    cases hx : loadThread rows with
    | error _ => simp [hx,Except.bind] at h
    | ok thread =>
      simp only [hx,Except.bind] at h
      split at h
      · cases h
      · split at h <;> cases h
  | validateInput => exact absurd h (by cases hx : validateInput rows run.channels <;> simp [execute,hx,Except.map])
  | collectEvidenceRefs =>
    exact absurd h (by cases hx : collectEvidenceRefs actor rows run.channels <;> simp [execute,hx,Except.map])
  | planAgentRuns =>
    exact absurd h
      (by cases hx : planAgentRuns settings.agentRegistry rows run.channels <;> simp [execute,hx,Except.map])
  | routeReviewBoundary => cases h
  | finalizeNoCandidates => cases h
  | verifyReviewResolutionFromPostgres =>
    simp only [execute] at h
    cases hx : verifyReviewResolution actor rows run.channels with
    | error _ => simp [hx,Except.bind] at h
    | ok channels => cases hb : reviewResolutionBranch channels <;> simp [hx,hb,Except.bind,Except.map] at h
  | finalizeNeedsMoreEvidence => cases h
  | finalizeReviewTrace => cases h

theorem nodeStep_moves (run : GraphRun) (node : Node) (h : run.next = some node) :
    Moves settings actor m s (.node run) (nodeStep settings actor m run node s).1
      (nodeStep settings actor m run node s).2 := by
  unfold nodeStep
  by_cases hdb : m.databaseFails = true
  · rw [if_pos hdb]
    exact raiseInNode_moves run (by simp [h]) .other
  · rw [if_neg hdb]
    cases hx : execute settings actor s.rows run node with
    | error failure => exact raiseInNode_moves run (by simp [h]) failure
    | ok outcome =>
      cases outcome with
      | writes channels next => exact .works run node channels next h hx
      | interrupts version =>
        obtain ⟨rfl,ha,-⟩ := execute_interrupts hx
        exact .pauses run version h ha
      | drafts =>
        obtain ⟨rfl,hp⟩ := execute_drafts hx
        exact .asks run h hp

theorem confirmStep_moves (run : GraphRun) : Moves settings actor m s (.confirm run) (confirmStep m run s) s := by
  unfold confirmStep
  split
  · exact handle_moves rfl .confirmation
  split
  · exact handle_moves rfl .confirmation
  split
  · exact .marks _ _ rfl (.inl rfl)
  · exact .marks _ _ rfl (.inl rfl)
  · exact .confirms run

end runs

section drafting

variable {settings : Settings} {actor : DemoUser} {m : Moment} {s : Shared} {attempt : Nat} {point : DraftPc}

theorem draftFails_moves {trouble : DraftTrouble} (ho : trouble = .code (.of .modelUnavailable) → point.open = true) :
    Moves settings actor m s (.drafting (.start attempt) point) (draftFails (.start attempt) trouble) s := by
  unfold draftFails
  cases trouble with
  | other => exact .ends _
  | code code =>
    dsimp only
    split
    · exact .ends _
    · next hcode =>
      have hmodel : code = .of .modelUnavailable := by simpa using hcode
      split
      · exact .drafts attempt 1 point .preview (List.nil_subset _) fun _ => ho (by rw [hmodel])
      · exact .exhausts attempt point _

theorem draftReleases_moves {claims : List Lease} {trouble : DraftTrouble} (hl : claims ⊆ point.leases)
    (ho : point.open = true) :
    Moves settings actor m s (.drafting (.start attempt) point) (draftReleases (.start attempt) claims trouble) s :=
  .drafts attempt attempt point (.release claims trouble) hl fun _ => ho

theorem exactLease_status {thread : AgentWorkflowThread} {lease : Lease} (h : threadHasExactLease thread lease = true) :
    thread.status = .drafting := by
  simp only [threadHasExactLease,Bool.and_eq_true,decide_eq_true_eq] at h
  exact h.1.2

theorem countItems_eq_zero {items : List ReviewItem} (hs : ∀ item ∈ items, item.status ≠ none)
    (h : (countItems items).total = 0) : items = [] := by
  cases items with
  | nil => rfl
  | cons item items =>
    have hitem := hs item List.mem_cons_self
    obtain ⟨status,hstatus⟩ := Option.ne_none_iff_exists'.mp hitem
    cases status <;> simp [countItems,StatusCounts.total,withStatus,hstatus] at h

theorem draftResultFromDb_total {rows : Rows} {ids : List Nat} {result : ReviewDraftResult}
    (h : draftResultFromDb rows ids = .ok result) (h0 : result.reviewStatusCounts.total = 0) : ids = [] := by
  unfold draftResultFromDb at h
  dsimp only at h
  split at h
  · cases h
  next hlen =>
    split at h
    · cases h
    next hs =>
      cases h
      push Not at hs hlen
      have hnil := countItems_eq_zero hs h0
      rw [hnil] at hlen
      exact List.length_eq_zero_iff.mp hlen.symm

theorem draftStep_moves : Moves settings actor m s (.drafting (.start attempt) point)
    (draftStep m (.start attempt) s point).1 (draftStep m (.start attempt) s point).2 := by
  cases point with
  | preview =>
    change Moves _ _ _ _ _ (draftPreview m (.start attempt) s) s
    unfold draftPreview
    split
    · exact draftFails_moves fun _ => rfl
    split
    · exact draftFails_moves fun _ => rfl
    split
    · exact .drafted attempt _ _ rfl
    · exact .drafts attempt attempt _ _ (List.nil_subset _) fun _ => rfl
    · exact .drafts attempt attempt _ _ (List.nil_subset _) fun _ => rfl
  | result ids =>
    change Moves _ _ _ _ _ (draftResult m (.start attempt) ids s) s
    unfold draftResult
    split
    · exact draftFails_moves fun _ => rfl
    split
    · exact .drafted attempt _ _ rfl
    split
    · exact draftFails_moves fun _ => rfl
    · exact .drafted attempt _ _ rfl
  | claim =>
    change Moves _ _ _ _ _ (claimLease m (.start attempt) s).1 (claimLease m (.start attempt) s).2
    have hfails : ∀ trouble, Moves settings actor m s (.drafting (.start attempt) .claim)
        (draftFails (.start attempt) trouble) s := fun trouble => draftFails_moves fun _ => rfl
    unfold claimLease
    split
    · exact hfails _
    split
    · dsimp only
      exact hfails _
    next hs =>
      split
      · dsimp only
        exact hfails _
      split
      · exact .drafts attempt attempt _ _ (List.nil_subset _) fun _ => rfl
      · push Not at hs
        refine .leases attempt _ _ (by simpa using hs.1) ?_ ?_ _ ⟨rfl,rfl⟩
        · rfl
        · exact ⟨⟨rfl,rfl,rfl⟩,rfl⟩
  | packet lease =>
    simp only [draftStep]
    split
    · exact draftReleases_moves (List.Subset.refl _) rfl
    · exact .drafts attempt attempt _ _ (List.Subset.refl _) fun _ => rfl
  | adapter lease results =>
    change Moves _ _ _ _ _ (runAdapter m (.start attempt) lease results) s
    unfold runAdapter
    split
    · exact draftReleases_moves (List.Subset.refl _) rfl
    · exact draftReleases_moves (List.Subset.refl _) rfl
    split
    · exact .drafts attempt attempt _ _ (List.Subset.refl _) fun _ => rfl
    · exact .drafts attempt attempt _ _ (List.Subset.refl _) fun _ => rfl
  | renew lease results =>
    change Moves _ _ _ _ _ (renewLease m (.start attempt) lease results s).1 (renewLease m (.start attempt) lease results s).2
    unfold renewLease
    split
    · exact draftReleases_moves (List.Subset.refl _) rfl
    next hlease =>
      have hexact : threadHasExactLease s.thread lease = true := by
        push Not at hlease
        simpa using hlease.1
      have hrenewed : ∀ thread, thread.stateVersion = s.thread.stateVersion+1 → thread.status = s.thread.status →
          thread.ownerSubjectId = s.thread.ownerSubjectId → Rewritten s.thread thread .drafting :=
        fun thread hv hs ho => ⟨hv,hs.trans (exactLease_status hexact),ho⟩
      split
      · exact draftReleases_moves (List.Subset.refl _) rfl
      dsimp only
      split
      · by_cases hc : m.committed = true
        · rw [if_pos hc]
          exact .renews attempt lease results _ _ hexact (by simp [DraftPc.leases]) ⟨hrenewed _ rfl rfl rfl,rfl⟩
        · rw [if_neg hc]
          exact .unrenewed attempt lease results _ (by simp [DraftPc.leases])
      · exact .renews attempt lease results _ _ hexact (by simp [DraftPc.leases]) ⟨hrenewed _ rfl rfl rfl,rfl⟩
  | persist lease results =>
    change Moves _ _ _ _ _ (persistResults m (.start attempt) lease results s).1
      (persistResults m (.start attempt) lease results s).2
    unfold persistResults
    split
    · exact draftReleases_moves (List.Subset.refl _) rfl
    next hlease =>
      have hexact : threadHasExactLease s.thread lease = true := by
        push Not at hlease
        simpa using hlease.1
      split
      · exact draftReleases_moves (List.Subset.refl _) rfl
      split
      · exact draftReleases_moves (List.Subset.refl _) rfl
      · exact .mismatches attempt lease results _ hexact
      dsimp only
      split
      · exact draftReleases_moves (List.Subset.refl _) rfl
      · next result hresult =>
        apply Moves.persistsDraft attempt lease results result hexact
        intro h0
        have hids := draftResultFromDb_total hresult h0
        rw [List.append_eq_nil_iff,List.map_eq_nil_iff,List.range_eq_nil] at hids
        exact List.length_eq_zero_iff.mp hids.2
  | release claims trouble =>
    cases claims with
    | nil => exact draftFails_moves fun h => by simp [DraftPc.open,h]
    | cons lease claims =>
      change Moves _ _ _ _ _ (.drafting (.start attempt) (.release claims trouble))
        (if m.databaseFails then s else releaseLease s lease m.now)
      have hkeep : Moves settings actor m s (.drafting (.start attempt) (.release (lease::claims) trouble))
          (.drafting (.start attempt) (.release claims trouble)) s :=
        .drafts attempt attempt _ _ (List.subset_cons_self _ _) fun h => h
      by_cases hdb : m.databaseFails = true
      · rw [if_pos hdb]
        exact hkeep
      · rw [if_neg hdb]
        unfold releaseLease
        split
        · next hlease => exact .releases attempt lease claims trouble hlease
        · exact hkeep

end drafting

section step

variable {settings : Settings} {actor : DemoUser} {m : Moment} {s : Shared}

theorem probe_ok {projection : Projection} {found : Probe} (h : probe m projection s = .ok found) :
    probeCheckpoint projection (saved m s projection.thread.checkpointThreadId) = .ok found := by
  unfold probe at h
  split at h
  · cases h
  split at h
  · cases h
  · exact h

theorem decideStatus_moves (after : After) (projection : Projection) :
    Moves settings actor m s (.statusProbe after projection)
      (decideStatus actor m after projection (probe m projection s)) s := by
  have hanswer : ∀ resumable errorCode resumeErrorCode, Moves settings actor m s (.statusProbe after projection)
      (answerStatus actor m after projection resumable errorCode resumeErrorCode) s := by
    intro resumable errorCode resumeErrorCode
    apply answerStatus_moves
    exact .asksAgain (.inr (.inl ⟨_,_,rfl⟩))
  cases hp : probe m projection s with
  | error e => exact hanswer _ _ _
  | ok found =>
    cases found with
    | interrupted version =>
      simp only [decideStatus]
      split
      · next hs => exact .reconciles after projection version hs (probe_ok hp)
      · exact hanswer _ _ _
    | terminal status =>
      simp only [decideStatus]
      split
      · next hs => exact .reconcilesEnd after projection status hs (probe_ok hp)
      · exact hanswer _ _ _

theorem decideResume_moves (projection : Projection) :
    Moves settings actor m s (.resumeProbe projection) (decideResume projection (probe m projection s)) s := by
  have hlost : Moves settings actor m s (.resumeProbe projection)
      (if projection.thread.status = .checkpointFailed then .rotate projection .answer else .failWrite projection) s := by
    split
    · exact .repairs projection .answer (.inl rfl)
    · next hs => exact .breaks projection hs
  cases hp : probe m projection s with
  | error e =>
    cases e with
    | unavailable => exact .ends _
    | missing => exact hlost
    | corrupt => exact hlost
  | ok found =>
    have hfound := probe_ok hp
    by_cases hs : projection.thread.status = .checkpointFailed
    · cases found with
      | interrupted version =>
        simp only [decideResume,if_pos hs]
        exact .recovers projection (.interrupted version) hs hfound
      | terminal status =>
        simp only [decideResume,if_pos hs]
        exact .recovers projection (.terminal status) hs hfound
    · cases found with
      | interrupted version =>
        simp only [decideResume,if_neg hs]
        exact .claims projection version hs hfound
      | terminal status =>
        simp only [decideResume,if_neg hs]
        exact .ends _

theorem admitResume_moves : Moves settings actor m s .resumeRead (admitResume m s.rows.projection) s := by
  unfold admitResume
  split
  · exact .ends _
  split
  · exact .ends _
  next hs =>
    split
    · exact .ends _
    next hp =>
      split
      · exact .ends _
      · apply Moves.admits
        by_cases hf : s.thread.status = .checkpointFailed
        · exact .inr hf
        · have ha : s.thread.status = .awaitingHumanReview := by
            by_contra hn
            exact hs ⟨hn,hf⟩
          refine .inl ⟨ha,?_⟩
          by_contra hn
          exact hp ⟨ha,hn⟩

theorem markRead_moves (target : ThreadStatus) (code : ErrorCode) :
    Moves settings actor m s (.markRead target code) (stepCall settings actor m s (.markRead target code)).1
      (stepCall settings actor m s (.markRead target code)).2 := by
  simp only [stepCall]
  split
  · exact .ends _
  · next h => exact .readsForMark target code (by simpa using h)

theorem stepCall_moves (pc : Pc) :
    Moves settings actor m s pc (stepCall settings actor m s pc).1 (stepCall settings actor m s pc).2 := by
  cases pc with
  | replay =>
    simp only [stepCall]
    split
    · exact .ends _
    · exact .replays
  | drafting draftUse point =>
    cases draftUse with
    | start attempt => exact draftStep_moves
    | node run => exact .redrafts run point
  | ensureRead result =>
    simp only [stepCall]
    split
    · next h => exact .ensured result h
    split
    · next h => exact .ensures result h
    · exact .ends _
  | ensureWrite result thread => exact casStep_moves rfl (fun _ => rfl) (.ends _)
  | initialProjection result =>
    apply project_moves
    intro projection h
    rw [(readProjection_ok h).1]
    split
    · exact handle_moves rfl _
    split
    · exact handle_moves rfl _
    · exact .projects result
  | previous purpose attempt =>
    simp only [stepCall]
    split
    · dsimp only
      exact handle_moves rfl _
    · exact .opens purpose attempt _
  | load purpose attempt previous =>
    cases purpose with
    | start result =>
      simp only [stepCall]
      split
      · dsimp only
        exact handle_moves rfl _
      · exact .inputs (.start result) attempt previous rfl
    | repair fresh after =>
      simp only [stepCall]
      split
      · dsimp only
        exact handle_moves rfl _
      · exact .inputs (.repair fresh after) attempt previous rfl
    | resume claimed =>
      simp only [stepCall]
      split
      · dsimp only
        exact handle_moves rfl _
      · next c hc =>
        split
        · dsimp only
          exact handle_moves rfl _
        · exact .continues claimed attempt previous c hc
  | node run =>
    simp only [stepCall]
    split
    · next h => exact .concludes run h
    · next node h => exact nodeStep_moves run node h
  | persist run channels next =>
    simp only [stepCall]
    split
    · dsimp only
      exact handle_moves rfl _
    · exact .persists run channels next
  | interrupt run version =>
    simp only [stepCall]
    split
    · dsimp only
      exact handle_moves rfl _
    · exact .interrupts run version
  | confirm run => exact confirmStep_moves run
  | finishRead purpose target =>
    apply project_moves
    intro projection h
    rw [(readProjection_ok h).1]
    cases target with
    | none => exact .marks _ _ rfl (.inl rfl)
    | some target =>
      dsimp only
      split
      · exact .ends _
      · next hs =>
        apply Moves.finishes
        by_contra hn
        exact hs hn
  | finishWrite purpose projection target => exact casStep_moves rfl (fun _ => rfl) (.ends _)
  | markRead target code => exact markRead_moves target code
  | markWrite thread target code => exact casStep_moves rfl (fun _ => rfl) (.ends _)
  | restore claimed code => exact casStep_moves rfl (fun _ => rfl) (.ends _)
  | statusRead after =>
    apply project_moves
    intro projection h
    rw [(readProjection_ok h).1]
    split
    · apply answerStatus_moves
      exact .asksAgain (.inl ⟨_,rfl⟩)
    · exact .readsStatus after
  | statusProbe after projection => exact decideStatus_moves after projection
  | reconcile after projection resumable target =>
    exact casStep_moves rfl (fun _ => rfl) (answerStatus_moves _ _ _ _ _ (.loses rfl ⟨_,_,_,_,rfl⟩))
  | reread after resumable =>
    apply project_moves
    intro projection h
    apply answerStatus_moves
    exact .asksAgain (.inr (.inr ⟨_,_,rfl⟩))
  | resumeRead =>
    apply project_moves
    intro projection h
    rw [(readProjection_ok h).1]
    exact admitResume_moves
  | resumeProbe projection => exact decideResume_moves projection
  | resumeReconcile projection target => exact casStep_moves rfl (fun _ => rfl) (.ends _)
  | failWrite projection => exact casStep_moves rfl (fun _ => rfl) (.ends _)
  | failedRead =>
    apply project_moves
    intro projection h
    exact .repairs projection .resume (.inr ⟨rfl,(readProjection_ok h).1⟩)
  | rotate projection after =>
    simp only [stepCall,rotateCheckpointAttempt]
    by_cases h : s.thread.stateVersion = projection.thread.stateVersion ∧ s.thread.status = .checkpointFailed
    · rw [if_pos h]
      exact .rotates projection after _ h.1 h.2 ⟨⟨congrArg (·+1) h.1.symm,rfl,rfl⟩,rfl⟩
    · rw [if_neg h]
      exact .ends _
  | repairReread written after =>
    simp only [stepCall]
    split
    · exact .marks _ _ rfl (.inl rfl)
    · next fresh h =>
      rw [(readProjection_ok h).1]
      split
      · exact .marks _ _ rfl (.inl rfl)
      split
      · exact .marks _ _ rfl (.inl rfl)
      · exact .rereadsRepair written after (readProjection_ok h).2.2.2
  | claim projection => exact casStep_moves rfl (fun _ => rfl) (.ends _)
  | resumeReread written =>
    simp only [stepCall]
    split
    · exact .marks _ _ rfl (.inl rfl)
    split
    · exact .marks _ _ rfl (.inr rfl)
    · next claimed h =>
      rw [(readProjection_ok h).1]
      split
      · exact .restoresUnready written _
      · exact .rereadsResume written
  | cancelRead =>
    apply project_moves
    intro projection h
    rw [(readProjection_ok h).1]
    by_cases hc : CancellableThreadStatus s.rows.projection.thread.status = false
    · rw [if_pos hc]
      exact .ends _
    · rw [if_neg hc]
      apply Moves.cancels
      exact (Bool.not_eq_false _).mp hc
  | cancelWrite projection =>
    simp only [stepCall,casStatus]
    by_cases hu : unmoved s.thread projection.thread = true
    · rw [if_pos hu]
      refine .decides projection.thread .cancelled rfl hu ⟨_,rfl,⟨?_,rfl,rfl⟩,rfl⟩ rfl
      have hv := hu
      simp only [unmoved,Bool.and_eq_true,decide_eq_true_eq] at hv
      simp [casValues,hv.1]
    · rw [if_neg hu]
      exact .ends _
  | done result => exact .ends _

end step

end ParaWorks.ReviewThreads
