import ParaWorks.Workflow.Graph

/-!
# The V2.1 review service

`ReviewV21Service` as a step relation. A call stands between two of its transactions at a program point (`Pc`); one
step runs one transaction, one node of the graph or one write to the checkpoint store. Any number of calls may be
under way on the thread.
-/

namespace ParaWorks.Workflow

open Lib Answers Rollout

/-! ## Settings, moments and errors -/

structure Settings where
  agentRuntimeSecurityScopeId : Text
  agentRegistry : List Text

/-- What surrounds one step of a call: the clock, the checkpoint runtime, the graph registry, the permission resolver
and what a coordinator does to the items when a node calls it. -/
structure Moment where
  now : Nat
  ready : Bool
  checkpointStore : Text
  registered : Bool
  saverFails : Bool
  permissionResolver : Option (Text → List Text)
  coordinator : Except NodeError (List ReviewItem)

inductive ErrorCode where
  | notFound
  | runtimeVersionUnavailable
  | invalidStateTransition
  | reviewUnresolved
  | checkpointFailed
  | checkpointUnavailable
  | modelUnavailable
  deriving DecidableEq

/-- What a call raises: a service error or an exception it does not map. -/
inductive Raised where
  | service (code : ErrorCode)
  | unmapped
  deriving DecidableEq

structure ReviewWorkflowStatusV21 where
  threadId : Text
  status : ThreadStatus
  reviewItemCount : Nat
  reviewStatusCounts : StatusCounts
  durable : Bool
  graphVersion : Text
  reviewResolutionReady : Bool
  checkpointResumable : Bool
  resumeAllowed : Bool
  retryAllowed : Bool
  createdAt : Nat
  updatedAt : Nat
  errorCode : Option ErrorCode
  resumeErrorCode : Option ErrorCode
  autoReviewMode : Option Text
  autoReviewPolicyVersion : Option Text
  autoReviewEnforcePercentage : Option Nat
  autoApprovedCount : Nat
  humanReviewRequiredCount : Nat
  autoReviewFallbackCount : Nat
  deriving DecidableEq

/-! ## Shared state -/

/-- The rows and checkpoints that all calls share. Two histories are kept beside them: the interrupts that an
acknowledgement has passed, and the item tables the graph has counted. -/
structure Shared where
  rows : Rows
  checkpoint : Option Checkpoint
  nextId : Nat
  acknowledged : List Nat
  counted : List (List ReviewItem)
  deriving DecidableEq

/-- `_set_status`: the row is read again and written, whatever it holds. -/
def setStatus (thread : AgentWorkflowThread) (status : ThreadStatus) (completed bumpVersion : Bool) (now : Nat) :
    AgentWorkflowThread :=
  { thread with
    status := status
    stateVersion := if bumpVersion then thread.stateVersion+1 else thread.stateVersion
    updatedAt := now
    checkpointConfirmedAt :=
      if status = .awaitingHumanReview ∨ status = .completed ∨ status = .needsMoreEvidence then some now
      else thread.checkpointConfirmedAt
    completedAt := if completed then some now else thread.completedAt }

def Shared.setThread (s : Shared) (f : AgentWorkflowThread → AgentWorkflowThread) : Shared :=
  { s with rows := { s.rows with thread := f s.rows.thread } }

def Shared.setItems (s : Shared) (items : List ReviewItem) : Shared := { s with rows := { s.rows with items := items } }

/-- A new last checkpoint. -/
def Shared.put (s : Shared) (channels : Channels) (next : Option Node) : Shared :=
  { s with checkpoint := some ⟨s.nextId,channels,next,none⟩, nextId := s.nextId+1 }

/-- The interrupt is stored with the checkpoint it belongs to. -/
def Shared.putInterrupt (s : Shared) (current version : Nat) : Shared :=
  { s with checkpoint := s.checkpoint.map fun c => if c.id = current then { c with interrupt := some version } else c }

/-! ## Projections and reconciliation -/

/-- `_projection`. -/
def projection (settings : Settings) (actor : DemoUser) (rows : Rows) : Option (AgentWorkflowThread × StatusCounts) :=
  if rows.thread.graphVersion ≠ graphVersionV21 ∨ rows.thread.ownerSubjectId ≠ actor.id ∨
      rows.thread.securityScopeId ≠ settings.agentRuntimeSecurityScopeId then none
  else if ∃ item ∈ rows.items, item.status = none ∨ item.permissionLevel ∉ actor.permissionLevels then none
  else some (rows.thread,countItems rows.items)

/-- `_saver`. -/
def saverAvailable (m : Moment) (thread : AgentWorkflowThread) : Bool :=
  m.ready && m.checkpointStore = thread.checkpointStore

/-- The permissions function of `_runtime_context`. -/
def runtimePermissions (m : Moment) (actor : DemoUser) (owner : Text) : List Text :=
  match m.permissionResolver with
  | some resolver => resolver owner
  | none => if owner = actor.id then actor.permissionLevels else []

/-- `_validate_live_reconciliation` up to the rows it goes on to verify: whether revoked rows and whether human
resolutions are looked at. -/
def liveReconciliation (checkpoint live : StatusCounts) (interrupted : Bool) : Option (Bool × Bool) :=
  if checkpoint = live then some (false,false)
  else if checkpoint.total ≠ live.total then none
  else
    let revoked : Int := live.revoked-checkpoint.revoked
    if revoked < 0 ∨ (checkpoint.approved : Int)-live.approved < revoked then none
    else if interrupted = false then
      if checkpoint.pendingReview = live.pendingReview ∧ (checkpoint.approved : Int)-revoked = live.approved ∧
          checkpoint.rejected = live.rejected ∧ checkpoint.needsMoreEvidence = live.needsMoreEvidence then
        some (revoked ≠ 0,false)
      else none
    else
      let pending : Int := checkpoint.pendingReview-live.pendingReview
      let approved : Int := live.approved-(checkpoint.approved-revoked)
      let rejected : Int := live.rejected-checkpoint.rejected
      let needsMore : Int := live.needsMoreEvidence-checkpoint.needsMoreEvidence
      if pending < 0 ∨ approved < 0 ∨ rejected < 0 ∨ needsMore < 0 ∨ approved+rejected+needsMore ≠ pending then none
      else some (revoked ≠ 0,pending ≠ 0)

/-- `_verify_revoked_rows`. -/
def revokedRowsValid (items : List ReviewItem) : Bool :=
  let rows := items.filter fun item => item.status = some .revoked
  rows ≠ [] ∧ rows.all fun row =>
    row.resolutionSource = some (text "auto_policy") && row.autoValidationId.isSome && row.revokedAt.isSome

def humanAction : ReviewStatus → Option Text
  | .approved => some (text "review.approve")
  | .rejected => some (text "review.reject")
  | .needsMoreEvidence => some (text "review.request_more_evidence")
  | .pendingReview => none
  | .revoked => none

/-- The success row of the audit log that a human resolution must have. -/
def hasResolutionAudit (audits : List AuditLog) (row : ReviewItem) (action : Text) : Bool :=
  audits.any fun audit => audit.targetType = text "review_item" && audit.targetId = some row.id &&
    audit.action = action && audit.status = text "success" && row.reviewerId = some audit.actorId

/-- `_verify_human_resolution_rows`. -/
def humanResolutionRowsValid (items : List ReviewItem) (audits : List AuditLog) : Bool :=
  let rows := items.filter fun item =>
    item.resolutionSource = some (text "human") && (item.status.bind humanAction).isSome
  rows ≠ [] ∧ rows.all fun row =>
    row.reviewedAt.isSome && (row.status.bind humanAction).any (hasResolutionAudit audits row)

/-- `_auto_approved_count`. -/
def autoApprovedCount (items : List ReviewItem) : Nat :=
  items.countP fun item => item.status = some .approved && item.resolutionSource = some (text "auto_policy")

def statusView (thread : AgentWorkflowThread) (request : AgentWorkflowRequest) (counts : StatusCounts)
    (resumable : Bool) (autoApproved : Nat) : ReviewWorkflowStatusV21 where
  threadId := thread.threadId
  status := thread.status
  reviewItemCount := counts.total
  reviewStatusCounts := counts
  durable := thread.checkpointStore = text "postgres"
  graphVersion := graphVersionV21
  reviewResolutionReady := 0 < counts.total && counts.pendingReview = 0
  checkpointResumable := resumable
  resumeAllowed :=
    thread.status = .awaitingHumanReview && (0 < counts.total && counts.pendingReview = 0) && resumable
  retryAllowed := false
  createdAt := thread.createdAt
  updatedAt := thread.updatedAt
  errorCode := if thread.status = .checkpointFailed then some .checkpointFailed else none
  resumeErrorCode := none
  autoReviewMode := request.autoReviewMode
  autoReviewPolicyVersion := request.autoReviewPolicyVersion
  autoReviewEnforcePercentage := request.autoReviewEnforcePercentage
  autoApprovedCount := autoApproved
  humanReviewRequiredCount := counts.pendingReview
  autoReviewFallbackCount := counts.pendingReview

/-! ## Program points -/

inductive Call where
  | start
  | status
  | resume
  | cancel
  deriving DecidableEq

/-- Which of the two entries runs the graph. -/
inductive Origin where
  | initial
  | resume
  deriving DecidableEq

/-- What follows a `status` that another entry calls. -/
inductive After where
  | answer
  | resume
  deriving DecidableEq

/-- One `graph.invoke`: the thread the entry projected, the checkpoint before it and the one it has reached. -/
structure GraphRun where
  origin : Origin
  thread : AgentWorkflowThread
  previous : Option Nat
  current : Nat
  channels : Channels
  next : Option Node
  resume : Option Nat
  interrupted : Option Nat
  deriving DecidableEq

/-- What `status` has found of the checkpoint. -/
structure Probe where
  after : After
  thread : AgentWorkflowThread
  counts : StatusCounts
  resumable : Bool
  terminal : Option ThreadStatus
  deriving DecidableEq

inductive Pc where
  | launch
  | initialProjection (launched : AgentWorkflowThread)
  | initialWrite (launched thread : AgentWorkflowThread)
  | previous (origin : Origin) (thread : AgentWorkflowThread)
  | load (origin : Origin) (thread : AgentWorkflowThread) (previous : Option Nat)
  | node (run : GraphRun)
  | persist (run : GraphRun) (channels : Channels) (next : Option Node) (acknowledged : Bool)
  | interrupt (run : GraphRun) (version : Nat)
  | confirm (run : GraphRun)
  | finish (run : GraphRun) (target : ThreadStatus)
  | fail (origin : Origin) (thread : AgentWorkflowThread) (status : ThreadStatus) (code : ErrorCode)
  | statusProjection (after : After)
  | snapshot (after : After) (thread : AgentWorkflowThread) (counts : StatusCounts)
  | verifyRevoked (probe : Probe) (human : Bool)
  | verifyHuman (probe : Probe)
  | reconcile (probe : Probe) (target : ThreadStatus)
  | reprojection (probe : Probe)
  | autoApproved (probe : Probe)
  | resumeProjection
  | resumeWrite (thread : AgentWorkflowThread)
  | cancelProjection
  | cancelWrite (thread : AgentWorkflowThread)
  | done (result : Except Raised ReviewWorkflowStatusV21)

def Call.entry : Call → Pc
  | .start => .launch
  | .status => .statusProjection .answer
  | .resume => .statusProjection .resume
  | .cancel => .cancelProjection

def Pc.raised (code : ErrorCode) : Pc := .done (.error (.service code))

/-! ## Running the graph -/

/-- What a node leaves: channels to be persisted with the next node, or an interrupt. -/
inductive NodeOutcome where
  | writes (channels : Channels) (next : Option Node) (acknowledged : Bool)
  | interrupts (version : Nat)

section service

variable (settings : Settings) (actor : DemoUser) (m : Moment)

/-- One node, over the rows as a coordinator has left them. -/
def execute (rows : Rows) (run : GraphRun) : Node → Except NodeError NodeOutcome
  | .validateInput => (validateInput rows run.channels).map (.writes · (some .collectEvidenceRefs) false)
  | .collectEvidenceRefs =>
    (collectEvidenceRefs (runtimePermissions m actor) rows run.channels).map (.writes · (some .planAgentRuns) false)
  | .planAgentRuns =>
    (planAgentRuns settings.agentRegistry rows run.channels).map
      (.writes · (some .draftReviewCandidatesTransaction) false)
  | .draftReviewCandidatesTransaction =>
    (draft (runtimePermissions m actor) rows run.channels).map (.writes · (some .runAutoReview) false)
  | .runAutoReview => .ok (.writes (runAutoReview run.channels) (some .refreshReviewResolution) false)
  | .refreshReviewResolution =>
    (refresh (runtimePermissions m actor) rows run.channels).map (.writes · (some .routeReviewBoundary) false)
  | .routeReviewBoundary =>
    (branch (route run.channels)).map fun next => .writes (route run.channels) (some next) false
  | .awaitHumanReview =>
    (loadThread rows).bind fun thread =>
      match run.resume with
      | none => .ok (.interrupts thread.stateVersion)
      | some version =>
        if version = thread.stateVersion then
          .ok (.writes (run.channels.complete .reviewResolutionAcknowledged .awaitHumanReview)
            (some .refreshReviewResolution) true)
        else .error (.value .invalidStateTransition)
  | .finalizeNoCandidates => .ok (.writes (output run.channels .completed .completed .finalizeNoCandidates) none false)
  | .finalizeNeedsMoreEvidence =>
    .ok (.writes (output run.channels .needsMoreEvidence .needsMoreEvidence .finalizeNeedsMoreEvidence) none false)
  | .finalizeAutoResolved => .ok (.writes (output run.channels .completed .completed .finalizeAutoResolved) none false)

/-- The nodes that call a coordinator; they first check the owner's permissions. -/
def Node.coordinated (node : Node) : Bool := node = .draftReviewCandidatesTransaction ∨ node = .runAutoReview

def Node.countsItems (node : Node) : Bool :=
  node = .draftReviewCandidatesTransaction ∨ node = .refreshReviewResolution

/-- What a coordinator does to the items, if the node calls one. -/
def coordinate (s : Shared) (node : Node) : Except NodeError Shared :=
  if node.coordinated then
    (ownerPermissions (runtimePermissions m actor) s.rows).bind fun _ => m.coordinator.map s.setItems
  else .ok s

/-- How an exception inside `graph.invoke` leaves the two entries. -/
def raiseInGraph (origin : Origin) (thread : AgentWorkflowThread) : NodeError → Pc
  | .value message =>
    match origin with
    | .initial =>
      .fail .initial thread .failed
        (if message = .modelUnavailable then .modelUnavailable else .invalidStateTransition)
    | .resume => .done (.error .unmapped)
  | .permission => .done (.error .unmapped)
  | .unmapped => .done (.error .unmapped)

def nodeStep (run : GraphRun) (node : Node) (s : Shared) : Pc × Shared :=
  match coordinate actor m s node with
  | .error e => (raiseInGraph run.origin run.thread e,s)
  | .ok s' =>
    match execute settings actor m s'.rows run node with
    | .error e => (raiseInGraph run.origin run.thread e,s')
    | .ok (.interrupts version) => (.interrupt run version,s')
    | .ok (.writes channels next acknowledged) =>
      (.persist run channels next acknowledged,
        if node.countsItems then { s' with counted := s'.rows.items::s'.counted } else s')

/-- The rest of `invoke_and_confirm_checkpoint`, and the status the result stands for. -/
def confirmStep (run : GraphRun) (s : Shared) : Pc :=
  match s.checkpoint with
  | none => .fail run.origin run.thread .checkpointFailed .checkpointFailed
  | some c =>
    if m.saverFails ∨ run.previous = some c.id ∨ run.interrupted.map (run.current,·) ≠ c.interrupt.map (c.id,·) then
      .fail run.origin run.thread .checkpointFailed .checkpointFailed
    else if run.interrupted.isSome then .finish run .awaitingHumanReview
    else match run.channels.status with
      | some .completed => .finish run .completed
      | some .needsMoreEvidence => .finish run .needsMoreEvidence
      | some .awaitingHumanReview =>
        match run.origin with
        | .initial => .finish run .awaitingHumanReview
        | .resume => .fail .resume run.thread .checkpointFailed .checkpointFailed
      | _ => .fail run.origin run.thread .checkpointFailed .checkpointFailed

/-! ## `status` -/

/-- The end of `status`: a status that the checkpoint has overtaken is written back. -/
def decide (probe : Probe) : Pc :=
  if probe.thread.status = .created ∨ probe.thread.status = .checkpointPending ∨ probe.thread.status = .resuming ∨
      probe.thread.status = .checkpointFailed then
    match if probe.resumable then some .awaitingHumanReview else probe.terminal with
    | some target => .reconcile probe target
    | none => .autoApproved probe
  else .autoApproved probe

def terminalPhase : Option Phase → Option ThreadStatus
  | some .completed => some .completed
  | some .needsMoreEvidence => some .needsMoreEvidence
  | _ => none

def snapshotStep (after : After) (thread : AgentWorkflowThread) (counts : StatusCounts) (s : Shared) : Pc :=
  let nothing : Probe := ⟨after,thread,counts,false,none⟩
  if saverAvailable m thread = false then decide nothing
  else if m.registered = false then .raised .runtimeVersionUnavailable
  else if m.saverFails ∨ strip thread.checkpointThreadId = [] then decide nothing
  else match s.checkpoint with
    | none => decide nothing
    | some c =>
      if validateCheckpointState c.channels = false then decide nothing
      else
        let resumable := c.interrupt.isSome
        let probe : Probe :=
          ⟨after,thread,counts,resumable,if resumable then none else terminalPhase c.channels.phase⟩
        match liveReconciliation (c.channels.reviewStatusCounts.getD {}) counts resumable with
        | none => .raised .invalidStateTransition
        | some (true,human) => .verifyRevoked probe human
        | some (false,true) => .verifyHuman probe
        | some (false,false) => decide probe

/-! ## One step of a call -/

def stepCall (s : Shared) : Pc → Pc × Shared
  | .launch =>
    if s.rows.thread.graphVersion ≠ graphVersionV21 then (.raised .runtimeVersionUnavailable,s)
    else if s.rows.thread.status ≠ .created then (.statusProjection .answer,s)
    else (.initialProjection s.rows.thread,s)
  | .initialProjection launched =>
    match projection settings actor s.rows with
    | none => (.raised .notFound,s)
    | some (thread,_) =>
      if saverAvailable m thread = false then (.raised .checkpointUnavailable,s)
      else if m.registered = false then (.raised .runtimeVersionUnavailable,s)
      else (.initialWrite launched thread,s)
  | .initialWrite _ thread =>
    (.previous .initial thread,s.setThread (setStatus · .checkpointPending false true m.now))
  | .previous origin thread =>
    if strip thread.checkpointThreadId = [] then (raiseInGraph origin thread (.value .other),s)
    else if m.saverFails then (.fail origin thread .checkpointFailed .checkpointFailed,s)
    else (.load origin thread (s.checkpoint.map (·.id)),s)
  | .load .initial thread previous =>
    let channels := { (s.checkpoint.map (·.channels)).getD {} with workflowThreadId := some thread.threadId }
    (.node ⟨.initial,thread,previous,s.nextId,channels,some .validateInput,none,none⟩,
      s.put channels (some .validateInput))
  | .load .resume thread previous =>
    match s.checkpoint with
    | none => (.done (.error .unmapped),s)
    | some c => (.node ⟨.resume,thread,previous,c.id,c.channels,c.next,some thread.stateVersion,none⟩,s)
  | .node run =>
    match run.next with
    | none => (.confirm run,s)
    | some node => nodeStep settings actor m run node s
  | .persist run channels next acknowledged =>
    (.node { run with current := s.nextId, channels := channels, next := next, resume := none },
      { s.put channels next with
        acknowledged := if acknowledged then run.current::s.acknowledged else s.acknowledged })
  | .interrupt run version => (.confirm { run with interrupted := some version },s.putInterrupt run.current version)
  | .confirm run => (confirmStep m run s,s)
  | .finish _ target =>
    (.statusProjection .answer,s.setThread (setStatus · target (target ≠ .awaitingHumanReview) false m.now))
  | .fail _ _ status code => (.raised code,s.setThread (setStatus · status false true m.now))
  | .statusProjection after =>
    match projection settings actor s.rows with
    | none => (.raised .notFound,s)
    | some (thread,counts) => (.snapshot after thread counts,s)
  | .snapshot after thread counts => (snapshotStep m after thread counts s,s)
  | .verifyRevoked probe human =>
    if revokedRowsValid s.rows.items = false then (.raised .invalidStateTransition,s)
    else if human then (.verifyHuman probe,s)
    else (decide probe,s)
  | .verifyHuman probe =>
    if humanResolutionRowsValid s.rows.items s.rows.audits = false then (.raised .invalidStateTransition,s)
    else (decide probe,s)
  | .reconcile probe target =>
    (.reprojection probe,s.setThread (setStatus · target (probe.resumable = false) false m.now))
  | .reprojection probe =>
    match projection settings actor s.rows with
    | none => (.raised .notFound,s)
    | some (thread,counts) => (.autoApproved { probe with thread := thread, counts := counts },s)
  | .autoApproved probe =>
    match probe.after with
    | .resume => (.resumeProjection,s)
    | .answer =>
      (.done (.ok (statusView probe.thread s.rows.request probe.counts probe.resumable
        (autoApprovedCount s.rows.items))),s)
  | .resumeProjection =>
    match projection settings actor s.rows with
    | none => (.raised .notFound,s)
    | some (thread,counts) =>
      if thread.status ≠ .awaitingHumanReview then (.raised .invalidStateTransition,s)
      else if counts.pendingReview ≠ 0 then (.raised .reviewUnresolved,s)
      else if saverAvailable m thread = false then (.raised .checkpointUnavailable,s)
      else if m.registered = false then (.raised .runtimeVersionUnavailable,s)
      else (.resumeWrite thread,s)
  | .resumeWrite thread => (.previous .resume thread,s.setThread (setStatus · .resuming false false m.now))
  | .cancelProjection =>
    match projection settings actor s.rows with
    | none => (.raised .notFound,s)
    | some (thread,_) =>
      if actor.role ≠ text "admin" ∧ thread.ownerSubjectId ≠ actor.id then (.raised .notFound,s)
      else if thread.status = .completed ∨ thread.status = .needsMoreEvidence ∨ thread.status = .cancelled then
        (.raised .invalidStateTransition,s)
      else (.cancelWrite thread,s)
  | .cancelWrite _ =>
    -- `cancel_workflow` then closes the paid calls of the thread, which touches none of these rows
    (.statusProjection .answer,s.setThread fun thread =>
      { thread with
        status := .cancelled
        cancelledAt := some m.now
        cancelledBySubjectId := some actor.id
        updatedAt := m.now })
  | .done result => (.done result,s)

end service

/-! ## Runs -/

structure Frame where
  actor : DemoUser
  call : Call
  pc : Pc

/-- The calls under way. `fresh` is a history: no other call has committed a status since the call last read the row
to decide on it, or wrote it. -/
structure System where
  shared : Shared
  calls : Nat → Option Frame
  fresh : Nat → Bool

inductive Command where
  | begin (process : Nat) (actor : DemoUser) (call : Call)
  | step (process : Nat) (m : Moment)
  /-- the process dies, or an exception that nothing maps leaves the call -/
  | crash (process : Nat)
  /-- review items are resolved by other services -/
  | review (items : List ReviewItem) (audits : List AuditLog)

def Pc.isDone : Pc → Bool
  | .done _ => true
  | _ => false

/-- The reads of the row on which a later write is decided. -/
def Pc.reads : Pc → Bool
  | .launch => true
  | .statusProjection _ => true
  | .resumeProjection => true
  | .cancelProjection => true
  | _ => false

/-- The points at which a status is committed. -/
def Pc.writes : Pc → Bool
  | .initialWrite .. => true
  | .finish .. => true
  | .fail .. => true
  | .reconcile .. => true
  | .resumeWrite _ => true
  | .cancelWrite _ => true
  | _ => false

/-- The points at which the checkpoint store is written. -/
def Pc.persists : Pc → Bool
  | .load .initial _ _ => true
  | .persist .. => true
  | .interrupt .. => true
  | _ => false

def freshAfter (pc : Pc) (p : Nat) (fresh : Nat → Bool) : Nat → Bool :=
  if pc.writes then fun q => q = p
  else if pc.reads then Function.update fresh p true
  else fresh

def step (settings : Settings) (s : System) : Command → System
  | .begin p actor call =>
    if (s.calls p).all (·.pc.isDone) then
      { s with calls := Function.update s.calls p (some ⟨actor,call,call.entry⟩) }
    else s
  | .step p m =>
    match s.calls p with
    | none => s
    | some frame =>
      let next := stepCall settings frame.actor m s.shared frame.pc
      { shared := next.2
        calls := Function.update s.calls p (some { frame with pc := next.1 })
        fresh := freshAfter frame.pc p s.fresh }
  | .crash p => { s with calls := Function.update s.calls p none }
  | .review items audits =>
    { s with shared := { s.shared with rows := { s.shared.rows with items := items, audits := audits } } }

/-- A thread that has been launched and not run yet. -/
def initial (thread : AgentWorkflowThread) (request : AgentWorkflowRequest) (evidencePermissions : List Text) : System where
  shared := ⟨⟨{ thread with status := .created },request,evidencePermissions,[],[]⟩,none,1,[],[]⟩
  calls := fun _ => none
  fresh := fun _ => false

end ParaWorks.Workflow
