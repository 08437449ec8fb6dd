import ParaWorks.ReviewThreads.Probe

/-!
# The V2.0 review service

`ReviewWorkflowService` as a step relation. A call stands between two of its transactions at a program point (`Pc`); one
step runs one transaction, one node of the graph or one write to the checkpoint store. Any number of calls of any number
of processes may be under way on the thread.
-/

namespace ParaWorks.ReviewThreads

open Lib Answers
open Workflow (companyMemoryReviewWorkflow)

/-! ## Row transactions

What one transaction on the row of the thread writes: the compare-and-set updates of `ReviewWorkflowService` and the
lease of `ReviewDraftService`, which locks the row. -/

/-! ## Shared state -/

/-- The rows of the thread and the last checkpoint of each attempt. -/
structure Shared where
  rows : Rows
  checkpoints : Nat → Option Checkpoint
  nextId : Nat
  nextItemId : Nat
  nextToken : Nat

namespace Shared

abbrev thread (s : Shared) : AgentWorkflowThread := s.rows.thread

def setThread (s : Shared) (thread : AgentWorkflowThread) : Shared := { s with rows := { s.rows with thread := thread } }

def setItems (s : Shared) (items : List ReviewItem) : Shared := { s with rows := { s.rows with items := items } }

def setCheckpoint (s : Shared) (attempt : Nat) (c : Option Checkpoint) : Shared :=
  { s with checkpoints := Function.update s.checkpoints attempt c }

/-- A new last checkpoint. -/
def put (s : Shared) (attempt : Nat) (channels : Channels) (next : Option Node) : Shared :=
  { s.setCheckpoint attempt (some ⟨s.nextId,channels,next,none,false⟩) with nextId := s.nextId+1 }

/-- What a task stores is kept with the checkpoint it belongs to. -/
def modify (s : Shared) (attempt current : Nat) (f : Checkpoint → Checkpoint) : Shared :=
  s.setCheckpoint attempt <| (s.checkpoints attempt).map fun c => if c.id = current then f c else c

end Shared

/-! ## Compare-and-set -/

def TerminalThreadStatus (status : ThreadStatus) : Bool :=
  status = .completed || status = .needsMoreEvidence || status = .failed || status = .cancelled

def CancellableThreadStatus (status : ThreadStatus) : Bool :=
  status = .created || status = .drafting || status = .checkpointPending || status = .awaitingHumanReview ||
  status = .resuming || status = .checkpointFailed

/-- The values of `_cas_status`. -/
def casValues (base : AgentWorkflowThread) (target : ThreadStatus) (confirmed completed : Bool)
    (cancelledBy : Option Text) (now : Nat) (thread : AgentWorkflowThread) : AgentWorkflowThread :=
  { thread with
    status := target
    stateVersion := base.stateVersion+1
    updatedAt := now
    checkpointConfirmedAt := if confirmed then some now else thread.checkpointConfirmedAt
    completedAt := if completed then some now else thread.completedAt
    cancelledAt := if cancelledBy.isSome then some now else thread.cancelledAt
    cancelledBySubjectId := if cancelledBy.isSome then cancelledBy else thread.cancelledBySubjectId }

/-- Whether the row is still the one that was read, by version and status. -/
def unmoved (thread base : AgentWorkflowThread) : Bool :=
  thread.stateVersion = base.stateVersion && thread.status = base.status

/-- `_cas_status`. -/
def casStatus (s : Shared) (base : AgentWorkflowThread) (target : ThreadStatus) (confirmed completed : Bool)
    (cancelledBy : Option Text) (now : Nat) : Option Shared :=
  if unmoved s.thread base then some (s.setThread (casValues base target confirmed completed cancelledBy now s.thread))
  else none

/-- The update of `_rotate_checkpoint_attempt`. -/
def rotateCheckpointAttempt (s : Shared) (base : AgentWorkflowThread) (now : Nat) : Option Shared :=
  if s.thread.stateVersion = base.stateVersion ∧ s.thread.status = .checkpointFailed then
    some (s.setThread
      { s.thread with
        checkpointThreadId := s.thread.checkpointThreadId+1
        checkpointConfirmedAt := none
        status := .checkpointPending
        stateVersion := base.stateVersion+1
        updatedAt := now })
  else none

/-! ## Leases -/

structure Lease where
  token : Nat
  expiresAt : Nat
  stateVersion : Nat
  priorStatus : ThreadStatus
  plans : Nat
  cachedReviewItemIds : List Nat
  deriving DecidableEq

def Draftable (status : ThreadStatus) : Bool :=
  status = .created || status = .drafting || status = .checkpointPending || status = .checkpointFailed

/-- `_lease_restore_status`. -/
def leaseRestoreStatus (status : ThreadStatus) : ThreadStatus := if status = .drafting then .created else status

def leaseExpired (expiresAt now : Nat) : Bool := expiresAt ≤ now

/-- `_thread_has_exact_lease`. -/
def threadHasExactLease (thread : AgentWorkflowThread) (lease : Lease) : Bool :=
  thread.leaseToken = some lease.token && thread.stateVersion = lease.stateVersion && thread.status = .drafting &&
  thread.leaseExpiresAt = some lease.expiresAt

/-- The end of a lease: the row takes its status and holds no token. -/
def endLease (thread : AgentWorkflowThread) (status : ThreadStatus) (now : Nat) : AgentWorkflowThread :=
  { thread with
    status := status
    leaseToken := none
    leaseExpiresAt := none
    stateVersion := thread.stateVersion+1
    updatedAt := now }

/-- `_release_lease`. -/
def releaseLease (s : Shared) (lease : Lease) (now : Nat) : Shared :=
  if threadHasExactLease s.thread lease then s.setThread (endLease s.thread lease.priorStatus now) else s

/-- The review items that the candidates of one result become. -/
def insertReviewItems (s : Shared) (levels : List Text) : Shared :=
  { s.setItems (s.rows.items++levels.mapIdx fun i level => ⟨s.nextItemId+i,some .pendingReview,level⟩) with
    nextItemId := s.nextItemId+levels.length }

/-- `_draft_result_from_db`: the items of the ids, all of which must be there with a known status. -/
def draftResultFromDb (rows : Rows) (ids : List Nat) : Except DraftCode ReviewDraftResult :=
  let items := rows.items.filter (·.id ∈ ids)
  if items.length ≠ ids.length then .error (.of .concurrentResume)
  else if ∃ item ∈ items, item.status = none then .error (.of .invalidStateTransition)
  else .ok ⟨ids,countItems items⟩

/-! ## Settings and moments -/

structure Settings where
  agentRuntimeSecurityScopeId : Text
  agentRegistry : List Text

/-- How a step of the draft service may fail: with a code of its own or with an exception of something it calls. -/
inductive DraftTrouble where
  | code (code : DraftCode)
  | other
  deriving DecidableEq

/-- What the cost preview of the packet comes to. -/
inductive PreviewVerdict where
  | noInput
  | cached (reviewItemIds : List Nat)
  | ready
  deriving DecidableEq

/-- What surrounds one step of a call: the clock, the checkpoint runtime, the graph registry, what fails, and what the
draft service finds out about the evidence and gets from the model. A checkpoint is `elsewhere` when the memory store of
another process holds it. -/
structure Moment where
  now : Nat
  ready : Bool
  checkpointStore : Text
  registered : Bool
  elsewhere : Bool
  saverFails : Bool
  snapshotMoved : Bool
  databaseFails : Bool
  preflight : Option ErrorCode
  trouble : Option DraftTrouble
  committed : Bool
  verdict : PreviewVerdict
  leaseTtl : Nat
  plans : Nat
  cached : List Nat
  candidates : List Text
  mismatchAfter : Option Nat

/-! ## Program points -/

inductive Call where
  | start
  | status
  | resume
  | cancel
  deriving DecidableEq

/-- What follows a `status` that another entry calls. -/
inductive After where
  | answer
  | resume
  deriving DecidableEq

/-- Which entry runs the graph, with what it has prepared. -/
inductive Purpose where
  | start (result : ReviewDraftResult)
  | repair (fresh : Projection) (after : After)
  | resume (claimed : Projection)
  deriving DecidableEq

/-- The draft result that `_PreparedDraftService` answers with. -/
def Purpose.prepared : Purpose → Option ReviewDraftResult
  | .start result => some result
  | .repair fresh _ => some ⟨fresh.reviewItemIds,fresh.reviewStatusCounts⟩
  | .resume _ => none

/-- Whether the invocation must end in an interrupt. -/
def Purpose.expectInterrupt : Purpose → Bool
  | .start result => result.reviewItemIds ≠ []
  | .repair fresh _ => fresh.reviewItemIds ≠ []
  | .resume _ => false

/-- The status that the entry's last compare-and-set must find, and what it raises when it does not. -/
def Purpose.claimedStatus : Purpose → ThreadStatus
  | .start _ => .checkpointPending
  | .repair _ _ => .checkpointPending
  | .resume _ => .resuming

def Purpose.lost : Purpose → ErrorCode
  | .start _ => .checkpointFailed
  | .repair _ _ => .concurrentResume
  | .resume _ => .concurrentResume

def Purpose.after : Purpose → After
  | .start _ => .answer
  | .repair _ after => after
  | .resume _ => .answer

/-- One `graph.invoke`: the attempt it runs on, the checkpoint before it and the one it has reached. -/
structure GraphRun where
  purpose : Purpose
  attempt : Nat
  previous : Option Nat
  current : Nat
  channels : Channels
  next : Option Node
  acknowledgement : Option Nat
  interrupted : Option Nat
  deriving DecidableEq

/-- Who asks for a draft: `start` with the number of its attempt, or the draft node of a graph. -/
inductive DraftUse where
  | start (attempt : Nat)
  | node (run : GraphRun)
  deriving DecidableEq

inductive DraftPc where
  | preview
  | result (ids : List Nat)
  | claim
  | packet (lease : Lease)
  | adapter (lease : Lease) (results : List (List Text))
  | renew (lease : Lease) (results : List (List Text))
  | persist (lease : Lease) (results : List (List Text))
  | release (claims : List Lease) (trouble : DraftTrouble)
  deriving DecidableEq

inductive Pc where
  | replay
  | drafting (draftUse : DraftUse) (point : DraftPc)
  | ensureRead (result : ReviewDraftResult)
  | ensureWrite (result : ReviewDraftResult) (thread : AgentWorkflowThread)
  | initialProjection (result : ReviewDraftResult)
  | previous (purpose : Purpose) (attempt : Nat)
  | load (purpose : Purpose) (attempt : Nat) (previous : Option Nat)
  | node (run : GraphRun)
  | persist (run : GraphRun) (channels : Channels) (next : Option Node)
  | interrupt (run : GraphRun) (version : Nat)
  | confirm (run : GraphRun)
  | finishRead (purpose : Purpose) (target : Option ThreadStatus)
  | finishWrite (purpose : Purpose) (projection : Projection) (target : ThreadStatus)
  | markRead (target : ThreadStatus) (code : ErrorCode)
  | markWrite (thread : AgentWorkflowThread) (target : ThreadStatus) (code : ErrorCode)
  | restore (claimed : Projection) (code : ErrorCode)
  | statusRead (after : After)
  | statusProbe (after : After) (projection : Projection)
  | reconcile (after : After) (projection : Projection) (resumable : Bool) (target : ThreadStatus)
  | reread (after : After) (resumable : Bool)
  | resumeRead
  | resumeProbe (projection : Projection)
  | resumeReconcile (projection : Projection) (target : ThreadStatus)
  | failWrite (projection : Projection)
  | failedRead
  | rotate (projection : Projection) (after : After)
  | repairReread (written : AgentWorkflowThread) (after : After)
  | claim (projection : Projection)
  | resumeReread (written : AgentWorkflowThread)
  | cancelRead
  | cancelWrite (projection : Projection)
  | done (result : Except Raised ReviewWorkflowStatus)

def Call.entry : Call → Pc
  | .start => .replay
  | .status => .statusRead .answer
  | .resume => .resumeRead
  | .cancel => .cancelRead

def Pc.raised (code : ErrorCode) : Pc := .done (.error (.service code))

/-! ## Exceptions -/

/-- The code that an entry raises for what its guarded part has raised. -/
def Failure.code : Failure → ErrorCode
  | .service code => code
  | .unavailable => .checkpointUnavailable
  | .confirmation => .checkpointFailed
  | .draft code => code.public
  | .permission => .notFound
  | .value code => if code = .permissionDenied then .notFound else code
  | .other => .checkpointFailed

/-- The handlers of `start`, `_repair_checkpoint` and `resume`. -/
def handle : Purpose → Failure → Pc
  | .start _, .service code => .raised code
  | .start _, failure => .markRead .checkpointFailed failure.code
  | .repair _ _, failure => .markRead .checkpointFailed failure.code
  | .resume _, .service code => .markRead .awaitingHumanReview code
  | .resume _, .confirmation => .markRead .checkpointFailed .checkpointFailed
  | .resume _, .draft _ => .markRead .checkpointFailed .checkpointFailed
  | .resume _, .other => .markRead .checkpointFailed .checkpointFailed
  | .resume claimed, failure => .restore claimed failure.code

section service

variable (settings : Settings) (actor : DemoUser) (m : Moment)

/-- `require_thread_checkpoint_runtime`. -/
def runtimeReady (thread : AgentWorkflowThread) : Bool := thread.checkpointStore = m.checkpointStore && m.ready

/-- The read of the row by the entry, with its exceptions. -/
def project (action : Action) (current : Bool) (s : Shared) (k : Projection → Pc) : Pc :=
  match readProjection settings.agentRuntimeSecurityScopeId actor action current s.rows with
  | .error code => .raised code
  | .ok projection => k projection

/-! ## Answers of `status` -/

/-- The answer of `status`, and the next entry where another one has asked for it. -/
def answerStatus (after : After) (projection : Projection) (resumable : Bool)
    (errorCode resumeErrorCode : Option ErrorCode) : Pc :=
  let view := statusResponse projection actor (runtimeReady m projection.thread) resumable errorCode resumeErrorCode
  match after with
  | .answer => .done (.ok view)
  | .resume => if view.status = .awaitingHumanReview then .resumeRead else .done (.ok view)

/-- What the saver of the process has of an attempt. -/
def saved (s : Shared) (attempt : Nat) : Option Checkpoint := if m.elsewhere then none else s.checkpoints attempt

/-- `_probe_checkpoint`, with what the store does meanwhile. -/
def probe (projection : Projection) (s : Shared) : Except ProbeError Probe :=
  if runtimeReady m projection.thread = false ∨ m.saverFails then .error .unavailable
  else if m.snapshotMoved then .error .corrupt
  else probeCheckpoint projection (saved m s projection.thread.checkpointThreadId)

/-- What `status` makes of the probe: a row that the checkpoint has overtaken is reconciled with it. -/
def decideStatus (after : After) (projection : Projection) : Except ProbeError Probe → Pc
  | .ok (.interrupted _) =>
    if projection.thread.status = .checkpointPending ∨ projection.thread.status = .checkpointFailed then
      .reconcile after projection true .awaitingHumanReview
    else answerStatus actor m after projection true (threadErrorCode projection.thread.status) none
  | .ok (.terminal status) =>
    if projection.thread.status = .checkpointPending ∨ projection.thread.status = .resuming ∨
        projection.thread.status = .checkpointFailed then
      .reconcile after projection false status
    else answerStatus actor m after projection false (threadErrorCode projection.thread.status) none
  | .error _ =>
    answerStatus actor m after projection false (threadErrorCode projection.thread.status)
      (some .checkpointUnavailable)

/-- What `resume` makes of the probe. -/
def decideResume (projection : Projection) : Except ProbeError Probe → Pc
  | .error .unavailable => .raised .checkpointUnavailable
  | .error .missing =>
    if projection.thread.status = .checkpointFailed then .rotate projection .answer else .failWrite projection
  | .error .corrupt =>
    if projection.thread.status = .checkpointFailed then .rotate projection .answer else .failWrite projection
  | .ok (.terminal status) =>
    if projection.thread.status = .checkpointFailed then .resumeReconcile projection status
    else .raised .checkpointUnavailable
  | .ok (.interrupted _) =>
    if projection.thread.status = .checkpointFailed then .resumeReconcile projection .awaitingHumanReview
    else .claim projection

/-- The checks of `resume` on the row it has read. -/
def admitResume (projection : Projection) : Pc :=
  if m.registered = false then .raised .runtimeVersionUnavailable
  else if projection.thread.status ≠ .awaitingHumanReview ∧ projection.thread.status ≠ .checkpointFailed then
    .raised .invalidStateTransition
  else if projection.thread.status = .awaitingHumanReview ∧ projection.reviewStatusCounts.pendingReview ≠ 0 then
    .raised .reviewUnresolved
  else if runtimeReady m projection.thread = false then .raised .checkpointUnavailable
  else .resumeProbe projection

/-! ## Running the graph -/

/-- What a node leaves: channels to be persisted with the next node, an interrupt, or a call of the draft service. -/
inductive NodeOutcome where
  | writes (channels : Channels) (next : Option Node)
  | interrupts (version : Nat)
  | drafts

/-- One node over the rows. -/
def execute (rows : Rows) (run : GraphRun) : Node → Except Failure NodeOutcome
  | .validateInput => (validateInput rows run.channels).map (.writes · (some .collectEvidenceRefs))
  | .collectEvidenceRefs => (collectEvidenceRefs actor rows run.channels).map (.writes · (some .planAgentRuns))
  | .planAgentRuns =>
    (planAgentRuns settings.agentRegistry rows run.channels).map (.writes · (some .draftReviewCandidatesTransaction))
  | .draftReviewCandidatesTransaction =>
    (currentPermissions actor).bind fun _ =>
      match run.purpose.prepared with
      | some result =>
        (draftReviewCandidatesTransaction result run.channels).map (.writes · (some .routeReviewBoundary))
      | none => .ok .drafts
  | .routeReviewBoundary =>
    .ok (.writes (routeReviewBoundary run.channels) (some (reviewBoundaryBranch (routeReviewBoundary run.channels))))
  | .finalizeNoCandidates => .ok (.writes (output run.channels .completed .completed .finalizeNoCandidates) none)
  | .awaitHumanReview =>
    (loadThread rows).bind fun thread =>
      match run.acknowledgement with
      | none => .ok (.interrupts thread.stateVersion)
      | some version =>
        if version = thread.stateVersion then
          .ok (.writes (run.channels.complete .reviewResolutionAcknowledged .awaitHumanReview)
            (some .verifyReviewResolutionFromPostgres))
        else .error (.value .invalidStateTransition)
  | .verifyReviewResolutionFromPostgres =>
    (verifyReviewResolution actor rows run.channels).bind fun channels =>
      (reviewResolutionBranch channels).map fun next => .writes channels (some next)
  | .finalizeNeedsMoreEvidence =>
    .ok (.writes (output run.channels .needsMoreEvidence .needsMoreEvidence .finalizeNeedsMoreEvidence) none)
  | .finalizeReviewTrace => .ok (.writes (output run.channels .completed .completed .finalizeReviewTrace) none)

/-- A node raises: the store keeps that with the checkpoint, and the entry handles the exception. -/
def raiseInNode (run : GraphRun) (failure : Failure) (s : Shared) : Pc × Shared :=
  (handle run.purpose failure,
    if m.saverFails then s
    else s.modify run.attempt run.current fun c => { c with raised := true })

def nodeStep (run : GraphRun) (node : Node) (s : Shared) : Pc × Shared :=
  match if m.databaseFails then .error .other else execute settings actor s.rows run node with
  | .error failure => raiseInNode m run failure s
  | .ok (.writes channels next) => (.persist run channels next,s)
  | .ok (.interrupts version) => (.interrupt run version,s)
  | .ok .drafts => (.drafting (.node run) .preview,s)

/-- The status that the result of the invocation stands for. -/
def resultTarget (run : GraphRun) : Option ThreadStatus :=
  match run.purpose with
  | .resume _ => if run.channels.status = some .needsMoreEvidence then some .needsMoreEvidence else completedOnly
  | _ => if run.purpose.expectInterrupt then some .awaitingHumanReview else completedOnly
where
  completedOnly : Option ThreadStatus := if run.channels.status = some .completed then some .completed else none

/-- The rest of `invoke_and_confirm_checkpoint`, and what the entry makes of the confirmation. -/
def confirmStep (run : GraphRun) (s : Shared) : Pc :=
  match saved m s run.attempt with
  | none => handle run.purpose .confirmation
  | some c =>
    if m.saverFails ∨ m.snapshotMoved ∨ run.previous = some c.id ∨
        run.interrupted.map (run.current,·) ≠ c.interrupt.map (c.id,·) ∨
        run.interrupted.isSome ≠ run.purpose.expectInterrupt then
      handle run.purpose .confirmation
    else match resultTarget run, run.purpose with
      | none, .start _ => .markRead .checkpointFailed .checkpointFailed
      | none, .resume _ => .markRead .checkpointFailed .checkpointFailed
      | target, purpose => .finishRead purpose target

/-! ## Drafting -/

def draftFails (draftUse : DraftUse) (trouble : DraftTrouble) : Pc :=
  match draftUse with
  | .node run => handle run.purpose (match trouble with | .code code => .draft code | .other => .other)
  | .start attempt =>
    match trouble with
    | .other => .done (.error .unmapped)
    | .code code =>
      if code ≠ .of .modelUnavailable then .raised code.public
      else if attempt = 0 then .drafting (.start 1) .preview
      else .markRead .failed .modelUnavailable

def draftSucceeds (draftUse : DraftUse) (result : ReviewDraftResult) : Pc :=
  match draftUse with
  | .start _ => .ensureRead result
  | .node run =>
    match draftReviewCandidatesTransaction result run.channels with
    | .error failure => handle run.purpose failure
    | .ok channels => .persist run channels (some .routeReviewBoundary)

/-- A draft that fails while it holds a lease gives it back first. -/
def draftReleases (draftUse : DraftUse) (claims : List Lease) (trouble : DraftTrouble) : Pc :=
  .drafting draftUse (.release claims trouble)

def draftPreview (draftUse : DraftUse) (s : Shared) : Pc :=
  match m.trouble with
  | some trouble => draftFails draftUse trouble
  | none =>
    if Draftable s.thread.status = false then draftFails draftUse (.code (.of .invalidStateTransition))
    else match m.verdict with
      | .noInput => draftSucceeds draftUse ⟨[],{}⟩
      | .cached ids => .drafting draftUse (.result ids)
      | .ready => .drafting draftUse .claim

def draftResult (draftUse : DraftUse) (ids : List Nat) (s : Shared) : Pc :=
  match m.trouble with
  | some trouble => draftFails draftUse trouble
  | none =>
    if ids = [] then draftSucceeds draftUse ⟨[],{}⟩
    else match draftResultFromDb s.rows ids with
      | .error code => draftFails draftUse (.code code)
      | .ok result => draftSucceeds draftUse result

/-- `_claim_lease`. -/
def claimLease (draftUse : DraftUse) (s : Shared) : Pc × Shared :=
  match m.trouble with
  | some trouble => (draftFails draftUse trouble,s)
  | none =>
    if Draftable s.thread.status = false ∨ s.thread.cancelledAt.isSome then
      (draftFails draftUse (.code (.of .invalidStateTransition)),s)
    else if s.thread.leaseToken.isSome ∧ ∃ expiresAt ∈ s.thread.leaseExpiresAt, leaseExpired expiresAt m.now = false then
      (draftFails draftUse (.code (.of .concurrentResume)),s)
    else if m.plans = 0 then (.drafting draftUse (.result m.cached),s)
    else
      let lease : Lease :=
        ⟨s.nextToken,m.now+m.leaseTtl,s.thread.stateVersion+1,leaseRestoreStatus s.thread.status,m.plans,m.cached⟩
      (.drafting draftUse (.packet lease),
        { s.setThread
            { s.thread with
              status := .drafting
              stateVersion := s.thread.stateVersion+1
              leaseToken := some lease.token
              leaseExpiresAt := some lease.expiresAt
              updatedAt := m.now } with
          nextToken := s.nextToken+1 })

/-- One plan: the adapter runs, and any exception of it is a missing model. -/
def runAdapter (draftUse : DraftUse) (lease : Lease) (results : List (List Text)) : Pc :=
  match m.trouble with
  | some (.code code) => draftReleases draftUse [lease] (.code code)
  | some .other => draftReleases draftUse [lease] (.code (.of .modelUnavailable))
  | none =>
    if results.length+1 < lease.plans then .drafting draftUse (.renew lease (results++[m.candidates]))
    else .drafting draftUse (.persist lease (results++[m.candidates]))

/-- `_renew_lease`; after an exception of its commit both leases are given back. -/
def renewLease (draftUse : DraftUse) (lease : Lease) (results : List (List Text)) (s : Shared) : Pc × Shared :=
  if threadHasExactLease s.thread lease = false ∨ leaseExpired lease.expiresAt m.now then
    (draftReleases draftUse [lease] (.code (.of .concurrentResume)),s)
  else if s.thread.cancelledAt.isSome then
    (draftReleases draftUse [lease] (.code (.of .invalidStateTransition)),s)
  else
    let prospective := { lease with expiresAt := m.now+m.leaseTtl, stateVersion := s.thread.stateVersion+1 }
    let renewed := s.setThread
      { s.thread with
        leaseExpiresAt := some prospective.expiresAt
        stateVersion := s.thread.stateVersion+1
        updatedAt := m.now }
    match m.trouble with
    | some trouble => (draftReleases draftUse [prospective,lease] trouble,if m.committed then renewed else s)
    | none => (.drafting draftUse (.adapter prospective results),renewed)

/-- `_persist_results`; a binding mismatch keeps the items of the plans before it. -/
def persistResults (draftUse : DraftUse) (lease : Lease) (results : List (List Text)) (s : Shared) : Pc × Shared :=
  if threadHasExactLease s.thread lease = false ∨ leaseExpired lease.expiresAt m.now then
    (draftReleases draftUse [lease] (.code (.of .concurrentResume)),s)
  else if s.thread.cancelledAt.isSome then
    (draftReleases draftUse [lease] (.code (.of .invalidStateTransition)),s)
  else match m.trouble, m.mismatchAfter with
    | some trouble, _ => (draftReleases draftUse [lease] trouble,s)
    | none, some kept =>
      let inserted := insertReviewItems s (results.take kept).flatten
      (draftReleases draftUse [lease] (.code .evidenceBindingMismatch),
        inserted.setThread (endLease s.thread lease.priorStatus m.now))
    | none, none =>
      let inserted := insertReviewItems s results.flatten
      let ids := lease.cachedReviewItemIds++(List.range results.flatten.length).map (s.nextItemId+·)
      match draftResultFromDb inserted.rows ids with
      | .error code => (draftReleases draftUse [lease] (.code code),s)
      | .ok result =>
        (draftSucceeds draftUse result,inserted.setThread (endLease s.thread .checkpointPending m.now))

def draftStep (draftUse : DraftUse) (s : Shared) : DraftPc → Pc × Shared
  | .preview => (draftPreview m draftUse s,s)
  | .result ids => (draftResult m draftUse ids s,s)
  | .claim => claimLease m draftUse s
  | .packet lease =>
    match m.trouble with
    | some trouble => (draftReleases draftUse [lease] trouble,s)
    | none => (.drafting draftUse (.adapter lease []),s)
  | .adapter lease results => (runAdapter m draftUse lease results,s)
  | .renew lease results => renewLease m draftUse lease results s
  | .persist lease results => persistResults m draftUse lease results s
  | .release [] trouble => (draftFails draftUse trouble,s)
  | .release (lease::claims) trouble =>
    (draftReleases draftUse claims trouble,if m.databaseFails then s else releaseLease s lease m.now)

/-! ## One step of a call -/

/-- A compare-and-set of the entry and what follows it. -/
def casStep (s : Shared) (base : AgentWorkflowThread) (target : ThreadStatus) (confirmed completed : Bool)
    (lost : Pc) (won : Shared → Pc) : Pc × Shared :=
  match casStatus s base target confirmed completed none m.now with
  | none => (lost,s)
  | some s' => (won s',s')

def stepCall (s : Shared) : Pc → Pc × Shared
  | .replay =>
    match m.preflight with
    | some code => (.raised code,s)
    | none => (.statusRead .answer,s)
  | .drafting draftUse point => draftStep m draftUse s point
  | .ensureRead result =>
    if s.thread.status = .checkpointPending then (.initialProjection result,s)
    else if s.thread.status = .created ∨ s.thread.status = .drafting ∨ s.thread.status = .checkpointFailed then
      (.ensureWrite result s.thread,s)
    else (.raised .invalidStateTransition,s)
  | .ensureWrite result thread =>
    casStep m s thread .checkpointPending false false (.raised .concurrentResume) fun _ => .initialProjection result
  | .initialProjection result =>
    (project settings actor .read false s fun projection =>
      if m.registered = false then handle (.start result) (.service .runtimeVersionUnavailable)
      else if runtimeReady m projection.thread = false then handle (.start result) .unavailable
      else .previous (.start result) projection.thread.checkpointThreadId,s)
  | .previous purpose attempt =>
    if m.saverFails then (handle purpose .confirmation,s)
    else (.load purpose attempt ((saved m s attempt).map (·.id)),s)
  | .load (.resume claimed) attempt previous =>
    match saved m s attempt with
    | none => (handle (.resume claimed) .other,s)
    | some c =>
      if m.saverFails then (handle (.resume claimed) .other,s)
      else
        (.node ⟨.resume claimed,attempt,previous,c.id,c.channels,c.next,some claimed.thread.stateVersion,none⟩,s)
  | .load purpose attempt previous =>
    if m.saverFails then (handle purpose .other,s)
    else
      let channels := { ((saved m s attempt).map (·.channels)).getD {} with
        workflowThreadId := some s.thread.threadId }
      (.node ⟨purpose,attempt,previous,s.nextId,channels,some .validateInput,none,none⟩,
        s.put attempt channels (some .validateInput))
  | .node run =>
    match run.next with
    | none => (.confirm run,s)
    | some node => nodeStep settings actor m run node s
  | .persist run channels next =>
    if m.saverFails then (handle run.purpose .other,s)
    else
      (.node { run with current := s.nextId, channels := channels, next := next, acknowledgement := none },
        s.put run.attempt channels next)
  | .interrupt run version =>
    if m.saverFails then (handle run.purpose .other,s)
    else
      (.confirm { run with interrupted := some version },
        s.modify run.attempt run.current fun c => { c with interrupt := some version })
  | .confirm run => (confirmStep m run s,s)
  | .finishRead purpose target =>
    (project settings actor (match purpose with | .start _ => .read | _ => .resume) false s fun projection =>
      match target with
      | none => .markRead .checkpointFailed .checkpointFailed
      | some target =>
        if projection.thread.status ≠ purpose.claimedStatus then .raised purpose.lost
        else .finishWrite purpose projection target,s)
  | .finishWrite purpose projection target =>
    casStep m s projection.thread target (purpose.claimedStatus = .checkpointPending) (target ≠ .awaitingHumanReview)
      (.raised purpose.lost) fun _ => .statusRead purpose.after
  | .markRead target code =>
    if TerminalThreadStatus s.thread.status then (.raised code,s) else (.markWrite s.thread target code,s)
  | .markWrite thread target code =>
    casStep m s thread target false (target = .failed) (.raised code) fun _ => .raised code
  | .restore claimed code =>
    casStep m s claimed.thread .awaitingHumanReview false false (.raised code) fun _ => .raised code
  | .statusRead after =>
    (project settings actor .read false s fun projection =>
      if m.registered = false then
        answerStatus actor m after projection false (some .runtimeVersionUnavailable) (some .runtimeVersionUnavailable)
      else .statusProbe after projection,s)
  | .statusProbe after projection => (decideStatus actor m after projection (probe m projection s),s)
  | .reconcile after projection resumable target =>
    casStep m s projection.thread target true (resumable = false)
      (answerStatus actor m after projection resumable (threadErrorCode projection.thread.status) none)
      fun _ => .reread after resumable
  | .reread after resumable =>
    (project settings actor .read false s fun projection =>
      answerStatus actor m after projection resumable (threadErrorCode projection.thread.status) none,s)
  | .resumeRead => (project settings actor .resume true s fun projection => admitResume m projection,s)
  | .resumeProbe projection => (decideResume projection (probe m projection s),s)
  | .resumeReconcile projection target =>
    casStep m s projection.thread target true (target ≠ .awaitingHumanReview) (.raised .concurrentResume)
      fun _ => .statusRead .answer
  | .failWrite projection =>
    casStep m s projection.thread .checkpointFailed false false (.raised .concurrentResume) fun _ => .failedRead
  | .failedRead => (project settings actor .resume true s fun projection => .rotate projection .resume,s)
  | .rotate projection after =>
    match rotateCheckpointAttempt s projection.thread m.now with
    | none => (.raised .concurrentResume,s)
    | some s' => (.repairReread s'.thread after,s')
  | .repairReread _ after =>
    match readProjection settings.agentRuntimeSecurityScopeId actor .resume true s.rows with
    | .error code => (.markRead .checkpointFailed code,s)
    | .ok fresh =>
      if m.databaseFails then (handle (.repair fresh after) .other,s)
      else if runtimeReady m fresh.thread = false then (handle (.repair fresh after) .unavailable,s)
      else (.previous (.repair fresh after) fresh.thread.checkpointThreadId,s)
  | .claim projection =>
    casStep m s projection.thread .resuming false false (.raised .concurrentResume) fun s' => .resumeReread s'.thread
  | .resumeReread _ =>
    if m.databaseFails then (.markRead .checkpointFailed .checkpointFailed,s)
    else match readProjection settings.agentRuntimeSecurityScopeId actor .resume true s.rows with
      | .error code => (.markRead .awaitingHumanReview code,s)
      | .ok claimed =>
        if runtimeReady m claimed.thread = false then (handle (.resume claimed) .unavailable,s)
        else (.previous (.resume claimed) claimed.thread.checkpointThreadId,s)
  | .cancelRead =>
    (project settings actor .cancel false s fun projection =>
      if CancellableThreadStatus projection.thread.status = false then .raised .invalidStateTransition
      else .cancelWrite projection,s)
  | .cancelWrite projection =>
    match casStatus s projection.thread .cancelled false true (some actor.id) m.now with
    | none => (.raised .concurrentResume,s)
    | some s' => (.statusRead .answer,s')
  | .done result => (.done result,s)

end service

/-! ## Runs -/

/-- A call under way. Two histories are kept with it: its number, and the rows as it first read them. -/
structure Frame where
  ticket : Nat
  actor : DemoUser
  call : Call
  pc : Pc
  admission : Option Rows

/-- One committed change of the row: by which call, from which program point and with which items in the tables. -/
structure Commit where
  ticket : Nat
  actor : DemoUser
  call : Call
  pc : Pc
  admission : Option Rows
  before : AgentWorkflowThread
  after : AgentWorkflowThread
  items : List ReviewItem

structure System where
  shared : Shared
  calls : Nat → Option Frame
  begun : Nat
  log : List Commit

inductive Command where
  | begin (process : Nat) (actor : DemoUser) (call : Call)
  | step (process : Nat) (m : Moment)
  /-- the process dies, or an exception that nothing maps leaves the call -/
  | crash (process : Nat)
  /-- a pending item is resolved in the review queue -/
  | review (item : Nat) (status : ReviewItemStatus)
  /-- the permission level of an item changes -/
  | relabel (item : Nat) (level : Text)
  /-- the sources are synchronised -/
  | sync (sources : List Source)
  /-- a store loses a checkpoint, as the memory store of a process that restarts does -/
  | lose (attempt : Nat)

def Pc.isDone : Pc → Bool
  | .done _ => true
  | _ => false

/-- The first read of the row by an entry. -/
def Pc.entryRead : Pc → Option (Action × Bool)
  | .statusRead _ => some (.read,false)
  | .resumeRead => some (.resume,true)
  | .cancelRead => some (.cancel,false)
  | _ => none

/-- The rows as the call first read them, after one more step. -/
def admissionAfter (settings : Settings) (frame : Frame) (rows : Rows) : Option Rows :=
  if frame.admission.isSome then frame.admission
  else match frame.pc.entryRead with
    | none => none
    | some (action,current) =>
      match readProjection settings.agentRuntimeSecurityScopeId frame.actor action current rows with
      | .error _ => none
      | .ok _ => some rows

/-- A resolution of the review queue: only a pending item takes one. -/
def resolveItem (id : Nat) (status : ReviewItemStatus) (item : ReviewItem) : ReviewItem :=
  if item.id = id ∧ item.status = some .pendingReview then { item with status := some status } else item

def step (settings : Settings) (s : System) : Command → System
  | .begin p actor call =>
    if (s.calls p).all (·.pc.isDone) then
      { s with
        calls := Function.update s.calls p (some ⟨s.begun,actor,call,call.entry,none⟩)
        begun := s.begun+1 }
    else s
  | .step p m =>
    match s.calls p with
    | none => s
    | some frame =>
      let next := stepCall settings frame.actor m s.shared frame.pc
      { s with
        shared := next.2
        calls := Function.update s.calls p
          (some { frame with pc := next.1, admission := admissionAfter settings frame s.shared.rows })
        log :=
          if next.2.thread = s.shared.thread then s.log
          else ⟨frame.ticket,frame.actor,frame.call,frame.pc,frame.admission,s.shared.thread,next.2.thread,
            next.2.rows.items⟩::s.log }
  | .crash p => { s with calls := Function.update s.calls p none }
  | .review id status => { s with shared := s.shared.setItems (s.shared.rows.items.map (resolveItem id status)) }
  | .relabel id level =>
    let relabelled := s.shared.rows.items.map fun item =>
      if item.id = id then { item with permissionLevel := level } else item
    { s with shared := s.shared.setItems relabelled }
  | .sync sources => { s with shared := { s.shared with rows := { s.shared.rows with sources := sources } } }
  | .lose attempt => { s with shared := s.shared.setCheckpoint attempt none }

/-- What `_create_thread_rows` has just committed for the call of process `0`: its evidence resolves for the actor. -/
structure Launch (settings : Settings) where
  thread : AgentWorkflowThread
  agentNames : List Text
  refs : List AgentWorkflowEvidenceRef
  sources : List Source
  actor : DemoUser
  isOwner : thread.ownerSubjectId = actor.id
  inScope : thread.securityScopeId = settings.agentRuntimeSecurityScopeId
  named : thread.workflowName = companyMemoryReviewWorkflow
  versioned : thread.graphVersion = graphVersionV2
  resolved : ∀ ref ∈ refs, ∃ source ∈ sources.find? (·.id = ref.canonicalRowId),
    resolveSourceVersion actor ref source = .ok ref

namespace Launch

variable {settings : Settings}

def rows (launch : Launch settings) : Rows where
  thread :=
    { launch.thread with
      checkpointThreadId := 1
      status := .created
      stateVersion := 0
      leaseToken := none
      leaseExpiresAt := none
      checkpointConfirmedAt := none
      cancelledAt := none
      cancelledBySubjectId := none
      completedAt := none }
  agentNames := launch.agentNames
  refs := launch.refs
  sources := launch.sources
  items := []

/-- The thread has just been created, and the call that has created it is about to draft. -/
def initial (launch : Launch settings) : System where
  shared := ⟨launch.rows,fun _ => none,1,1,1⟩
  calls p := if p = 0 then some ⟨0,launch.actor,.start,.drafting (.start 0) .preview,some launch.rows⟩ else none
  begun := 1
  log := []

end Launch

end ParaWorks.ReviewThreads
