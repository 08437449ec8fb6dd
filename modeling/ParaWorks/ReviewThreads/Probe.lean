import ParaWorks.ReviewThreads.Graph

/-!
# Projections and the checkpoint probe

What `ReviewWorkflowService` reads before it decides: the row with its live review items, as far as the actor may see
them, and the last checkpoint of the attempt that the row names.
-/

namespace ParaWorks.ReviewThreads

open Lib Answers
open Workflow (companyMemoryReviewWorkflow)

/-! ## Source versions -/

/-- `_resolve_source_version` of the version that an evidence reference stores: the current reference to the source, or
the code of the preflight error. -/
def resolveSourceVersion (actor : DemoUser) (ref : AgentWorkflowEvidenceRef) (source : Source) :
    Except ErrorCode AgentWorkflowEvidenceRef :=
  if source.permissionLevel ∉ actor.permissionLevels then .error .notFound
  else if source.sourceType ≠ ref.canonicalSourceType then .error .invalidInput
  else match source.contentSignature, source.authority with
    | some signature, some authority =>
      if signature ≠ ref.contentSignature then .error .evidenceChanged
      else .ok
        { canonicalSourceType := ref.canonicalSourceType
          canonicalTable := text "sources"
          canonicalRowId := source.id
          documentVersionId := some authority.documentVersionId
          externalRevision := authority.externalRevision
          contentSignature := signature
          permissionLevelSnapshot := source.permissionLevel
          contentFingerprint := authority.contentFingerprint }
    | _, _ => .error .evidenceChanged

/-- What the preflight error of an existing thread becomes. -/
def versionError : ErrorCode → ErrorCode
  | .notFound => .notFound
  | _ => .evidenceChanged

def sourceOf (rows : Rows) (ref : AgentWorkflowEvidenceRef) : Option Source :=
  rows.sources.find? (·.id = ref.canonicalRowId)

/-- The references of the thread, resolved once more: the first one that fails decides, and then any that is not as
stored. -/
def resolveSourceVersions (actor : DemoUser) (rows : Rows) : Except ErrorCode Unit :=
  match rows.refs.filterMap fun ref => (sourceOf rows ref).bind fun source =>
      match resolveSourceVersion actor ref source with
      | .error code => some code
      | .ok _ => none with
  | code::_ => .error (versionError code)
  | [] =>
    if ∃ ref ∈ rows.refs, ∃ source ∈ sourceOf rows ref, resolveSourceVersion actor ref source ≠ .ok ref then
      .error .evidenceChanged
    else .ok ()

/-! ## Projections -/

inductive Action where
  | read
  | resume
  | cancel
  deriving DecidableEq

/-- `_action_allowed`, and what `_authorize_action` lets through. -/
def actionAllowed (thread : AgentWorkflowThread) (actor : DemoUser) : Action → Bool
  | .read => true
  | .resume => thread.ownerSubjectId = actor.id || actor.role = text "reviewer" || actor.role = text "admin"
  | .cancel => thread.ownerSubjectId = actor.id || actor.role = text "admin"

structure Projection where
  thread : AgentWorkflowThread
  reviewItemIds : List Nat
  reviewStatusCounts : StatusCounts
  deriving DecidableEq

namespace Projection

def reviewItemCount (projection : Projection) : Nat := projection.reviewStatusCounts.total

def reviewResolutionReady (projection : Projection) : Bool :=
  0 < projection.reviewItemCount && projection.reviewStatusCounts.pendingReview = 0

end Projection

/-- Whether a reference hides the thread: its source is gone, out of sight, or of another kind. -/
def refHidden (actor : DemoUser) (current : Bool) (rows : Rows) (ref : AgentWorkflowEvidenceRef) : Bool :=
  match sourceOf rows ref with
  | none => true
  | some source =>
    source.permissionLevel ∉ actor.permissionLevels || (!current && source.sourceType ≠ ref.canonicalSourceType)

/-- `_read_projection`. -/
def readProjection (scope : Text) (actor : DemoUser) (action : Action) (current : Bool) (rows : Rows) :
    Except ErrorCode Projection :=
  if rows.thread.securityScopeId ≠ scope ∨ rows.thread.workflowName ≠ companyMemoryReviewWorkflow then .error .notFound
  else if rows.refs = [] ∨ (current = false ∧ ∃ ref ∈ rows.refs, ref.canonicalTable ≠ text "sources") then
    .error .notFound
  else if ¬(rows.refs.map (·.canonicalRowId)).Nodup ∨ ∃ ref ∈ rows.refs, refHidden actor current rows ref then
    .error .notFound
  else match if current then resolveSourceVersions actor rows else .ok () with
    | .error code => .error code
    | .ok _ =>
      if ∃ item ∈ rows.items, item.permissionLevel ∉ actor.permissionLevels then .error .notFound
      else if actionAllowed rows.thread actor action = false then .error .notFound
      else if ∃ item ∈ rows.items, item.status = none then .error .invalidStateTransition
      else .ok ⟨rows.thread,rows.items.map (·.id),countItems rows.items⟩

/-! ## The probe -/

inductive Probe where
  | interrupted (stateVersion : Nat)
  | terminal (status : ThreadStatus)
  deriving DecidableEq

inductive ProbeError where
  | unavailable
  | missing
  | corrupt
  deriving DecidableEq

def initialCompletedNodes : List Node :=
  [.validateInput,.collectEvidenceRefs,.planAgentRuns,.draftReviewCandidatesTransaction,.routeReviewBoundary]

def resolutionCompletedNodes : List Node :=
  initialCompletedNodes++[.awaitHumanReview,.verifyReviewResolutionFromPostgres]

/-- `_expected_interrupt_state_version`; versions are integers, so the difference may be negative. -/
def expectedInterruptStateVersion (thread : AgentWorkflowThread) : Option Int :=
  match thread.status with
  | .checkpointPending => some thread.stateVersion
  | .awaitingHumanReview => some (thread.stateVersion-1)
  | .checkpointFailed =>
    some (thread.stateVersion-(if thread.checkpointConfirmedAt.isSome then 2 else 1))
  | _ => none

/-- The identity that a snapshot must share with the row. -/
def sameIdentity (thread : AgentWorkflowThread) (channels : Channels) : Bool :=
  channels.workflowThreadId = some thread.threadId && channels.graphVersion = some thread.graphVersion &&
  channels.inputHash = some thread.inputHash && channels.evidenceVersionHash = some thread.evidenceVersionHash

/-- `_validate_minimized_snapshot_state`. -/
def minimizedSnapshotValid (projection : Projection) (channels : Channels) (terminal : Bool) : Bool :=
  channels.status.isSome = terminal && channels.reviewItemCount.isSome = terminal &&
  validateCheckpointState channels &&
  (channels.reviewStatusCounts.getD {}).total = projection.reviewItemCount &&
  (!terminal || channels.reviewStatusCounts.getD {} = projection.reviewStatusCounts) &&
  channels.errorCodes = []

/-- The status, phase and nodes of the terminal checkpoint that the live items call for. -/
def expectedTerminal (projection : Projection) : Option (ThreadStatus × Phase × List Node) :=
  let live := projection.reviewStatusCounts
  if projection.reviewItemCount = 0 then
    some (.completed,.completed,initialCompletedNodes++[.finalizeNoCandidates])
  else if live.needsMoreEvidence ≠ 0 then
    some (.needsMoreEvidence,.needsMoreEvidence,resolutionCompletedNodes++[.finalizeNeedsMoreEvidence])
  else if live.pendingReview ≠ 0 then none
  else if live.approved+live.rejected ≠ projection.reviewItemCount then none
  else some (.completed,.completed,resolutionCompletedNodes++[.finalizeReviewTrace])

def probeTerminal (projection : Projection) (c : Checkpoint) : Except ProbeError Probe :=
  if c.next ≠ none then .error .corrupt
  else if minimizedSnapshotValid projection c.channels true = false then .error .corrupt
  else if c.channels.reviewItemCount ≠ some projection.reviewItemCount then .error .corrupt
  else match expectedTerminal projection with
    | none => .error .corrupt
    | some (status,phase,nodes) =>
      if c.channels.status ≠ some status ∨ c.channels.phase ≠ some phase ∨ c.channels.completedNodes ≠ nodes then
        .error .corrupt
      else .ok (.terminal status)

def probeInterrupt (projection : Projection) (c : Checkpoint) (version : Nat) : Except ProbeError Probe :=
  if projection.reviewItemCount = 0 ∨ c.next ≠ some .awaitHumanReview then .error .corrupt
  else if minimizedSnapshotValid projection c.channels false = false then .error .corrupt
  else if c.raised ∨ c.channels.phase ≠ some .reviewBoundaryRouted ∨
      c.channels.completedNodes ≠ initialCompletedNodes then
    .error .corrupt
  else if expectedInterruptStateVersion projection.thread ≠ some version then .error .corrupt
  else .ok (.interrupted version)

/-- `_probe_checkpoint` of the checkpoint that the saver has. -/
def probeCheckpoint (projection : Projection) (saved : Option Checkpoint) : Except ProbeError Probe :=
  match saved with
  | none => .error .missing
  | some c =>
    if sameIdentity projection.thread c.channels = false then .error .corrupt
    else match c.interrupt with
      | none => probeTerminal projection c
      | some version => probeInterrupt projection c version

/-! ## Answers -/

structure ReviewWorkflowStatus where
  threadId : Text
  status : ThreadStatus
  reviewItemCount : Nat
  reviewStatusCounts : StatusCounts
  durable : Bool
  graphVersion : Text
  reviewResolutionReady : Bool
  checkpointResumable : Bool
  resumeAllowed : Bool
  retryAllowed : Bool
  createdAt : Nat
  updatedAt : Nat
  errorCode : Option ErrorCode
  resumeErrorCode : Option ErrorCode
  deriving DecidableEq

/-- `_thread_error_code`. -/
def threadErrorCode : ThreadStatus → Option ErrorCode
  | .checkpointFailed => some .checkpointFailed
  | .failed => some .modelUnavailable
  | _ => none

/-- `_status_response`. -/
def statusResponse (projection : Projection) (actor : DemoUser) (runtimeReady resumable : Bool)
    (errorCode resumeErrorCode : Option ErrorCode) : ReviewWorkflowStatus where
  threadId := projection.thread.threadId
  status := projection.thread.status
  reviewItemCount := projection.reviewItemCount
  reviewStatusCounts := projection.reviewStatusCounts
  durable := projection.thread.checkpointStore = text "postgres"
  graphVersion := projection.thread.graphVersion
  reviewResolutionReady := projection.reviewResolutionReady
  checkpointResumable := resumable
  resumeAllowed :=
    projection.thread.status = .awaitingHumanReview && projection.reviewResolutionReady && resumable &&
    actionAllowed projection.thread actor .resume
  retryAllowed :=
    projection.thread.status = .checkpointFailed && actionAllowed projection.thread actor .resume && runtimeReady &&
    errorCode ≠ some .runtimeVersionUnavailable
  createdAt := projection.thread.createdAt
  updatedAt := projection.thread.updatedAt
  errorCode := errorCode
  resumeErrorCode := resumeErrorCode

end ParaWorks.ReviewThreads
