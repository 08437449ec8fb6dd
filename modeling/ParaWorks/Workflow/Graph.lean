import ParaWorks.Answers.Candidates
import ParaWorks.Rollout.Contracts

/-!
# The checkpointed review graph

The rows of one V2.1 review thread, the nodes of `build_company_memory_review_v21_graph` and the checkpoints
they leave. Each node is a function of the rows it reads and of the channels of the last checkpoint.
-/

namespace ParaWorks.Workflow

open Lib Answers Rollout

/-! ## Rows -/

inductive ThreadStatus where
  | created
  | checkpointPending
  | awaitingHumanReview
  | resuming
  | checkpointFailed
  | completed
  | needsMoreEvidence
  | failed
  | cancelled
  deriving DecidableEq

structure AgentWorkflowThread where
  threadId : Text
  workflowName : Text
  graphVersion : Text
  checkpointThreadId : Text
  checkpointStore : Text
  ownerSubjectId : Text
  securityScopeId : Text
  inputHash : Text
  evidenceVersionHash : Text
  status : ThreadStatus
  stateVersion : Nat
  checkpointConfirmedAt : Option Nat
  cancelledAt : Option Nat
  cancelledBySubjectId : Option Text
  createdAt : Nat
  updatedAt : Nat
  completedAt : Option Nat
  deriving DecidableEq

structure AgentWorkflowRequest where
  agentNames : List Text
  autoReviewMode : Option Text
  autoReviewPolicyVersion : Option Text
  autoReviewEnforcePercentage : Option Nat
  deriving DecidableEq

/-- A review item; its status is `none` when it is not one of `REVIEW_STATUS_ORDER_V21`. -/
structure ReviewItem where
  id : Nat
  status : Option ReviewStatus
  permissionLevel : Text
  resolutionSource : Option Text := none
  autoValidationId : Option Nat := none
  revokedAt : Option Nat := none
  reviewedAt : Option Nat := none
  reviewerId : Option Text := none
  deriving DecidableEq

/-- An audit row; the target is the row id that the text of `target_id` is. -/
structure AuditLog where
  actorId : Text
  action : Text
  targetType : Text
  targetId : Option Nat
  status : Text
  deriving DecidableEq

/-! ## Counts -/

structure StatusCounts where
  pendingReview : Nat := 0
  approved : Nat := 0
  rejected : Nat := 0
  needsMoreEvidence : Nat := 0
  revoked : Nat := 0
  deriving DecidableEq

namespace StatusCounts

def total (c : StatusCounts) : Nat := c.pendingReview+c.approved+c.rejected+c.needsMoreEvidence+c.revoked

def get (c : StatusCounts) : ReviewStatus → Nat
  | .pendingReview => c.pendingReview
  | .approved => c.approved
  | .rejected => c.rejected
  | .needsMoreEvidence => c.needsMoreEvidence
  | .revoked => c.revoked

end StatusCounts

def withStatus (items : List ReviewItem) (status : ReviewStatus) : Nat :=
  items.countP fun item => item.status = some status

/-- The counts of the items, all of which have a status of the order. -/
def countItems (items : List ReviewItem) : StatusCounts where
  pendingReview := withStatus items .pendingReview
  approved := withStatus items .approved
  rejected := withStatus items .rejected
  needsMoreEvidence := withStatus items .needsMoreEvidence
  revoked := withStatus items .revoked

/-! ## Channels and checkpoints -/

inductive Node where
  | validateInput
  | collectEvidenceRefs
  | planAgentRuns
  | draftReviewCandidatesTransaction
  | runAutoReview
  | refreshReviewResolution
  | routeReviewBoundary
  | awaitHumanReview
  | finalizeNoCandidates
  | finalizeNeedsMoreEvidence
  | finalizeAutoResolved
  deriving DecidableEq

inductive Phase where
  | inputValidated
  | evidenceRefsCollected
  | agentRunsPlanned
  | candidatesDrafted
  | autoReviewRun
  | reviewResolutionRefreshed
  | reviewBoundaryRouted
  | reviewResolutionAcknowledged
  | completed
  | needsMoreEvidence
  deriving DecidableEq

/-- `get_state().values`: every state and output channel that has been written. The two lists have reducers and are
there from the start. -/
structure Channels where
  workflowThreadId : Option Text := none
  graphVersion : Option Text := none
  inputHash : Option Text := none
  evidenceVersionHash : Option Text := none
  reviewStatusCounts : Option StatusCounts := none
  phase : Option Phase := none
  completedNodes : List Node := []
  errorCodes : List Text := []
  status : Option ThreadStatus := none
  reviewItemCount : Option Nat := none
  deriving DecidableEq

/-- The last checkpoint of the thread: the channels, the node that is due and the version its interrupt carries. -/
structure Checkpoint where
  id : Nat
  channels : Channels
  next : Option Node
  interrupt : Option Nat
  deriving DecidableEq

def maxCompletedNodes : Nat := 64

def maxErrorCodes : Nat := 16

def allowedReviewErrorCodes : List Text :=
  ["invalid_input","idempotency_key_reused","evidence_changed","permission_denied","checkpoint_unavailable",
    "checkpoint_failed","review_unresolved","runtime_version_unavailable","model_unavailable","budget_exceeded",
    "concurrent_resume","invalid_state_transition"].map text

/-- `_append_unique_bounded`. -/
def appendUniqueBounded {α : Type} [DecidableEq α] (current updates : List α) (limit : Nat) : List α :=
  let merged := (current++updates).foldl (fun merged value => if value ∈ merged then merged else merged++[value]) []
  merged.drop (merged.length-limit)

def isHash (t : Text) : Bool :=
  t.length = 64 && t.all (· ∈ text "0123456789abcdef")

/-- `validate_v21_checkpoint_state`: exactly the eight state keys, each of its form. -/
def validateCheckpointState (channels : Channels) : Bool :=
  channels.status.isNone && channels.reviewItemCount.isNone &&
  channels.workflowThreadId.isSome && channels.graphVersion.isSome &&
  channels.inputHash.any isHash && channels.evidenceVersionHash.any isHash &&
  channels.reviewStatusCounts.isSome && channels.phase.isSome &&
  channels.completedNodes.length ≤ maxCompletedNodes && channels.completedNodes.Nodup &&
  channels.errorCodes.length ≤ maxErrorCodes && channels.errorCodes.Nodup &&
  channels.errorCodes.all (· ∈ allowedReviewErrorCodes)

/-! ## Nodes -/

/-- What a node raises: a `ValueError` by its text, a `PermissionError` or something else. -/
inductive ValueMessage where
  | notFound
  | runtimeVersionUnavailable
  | invalidInput
  | invalidStateTransition
  | modelUnavailable
  | other
  deriving DecidableEq

inductive NodeError where
  | value (message : ValueMessage)
  | permission
  | unmapped
  deriving DecidableEq

def companyMemoryReviewWorkflow : Text := text "company-memory-review"

def graphVersionV21 : Text := text "company-memory-review-v2.1-auto-review"

/-- The rows that the nodes of a thread read. -/
structure Rows where
  thread : AgentWorkflowThread
  request : AgentWorkflowRequest
  evidencePermissions : List Text
  items : List ReviewItem
  audits : List AuditLog
  deriving DecidableEq

def loadThread (rows : Rows) : Except NodeError AgentWorkflowThread :=
  if rows.thread.workflowName ≠ companyMemoryReviewWorkflow ∨ rows.thread.graphVersion ≠ graphVersionV21 then
    .error (.value .runtimeVersionUnavailable)
  else .ok rows.thread

/-- `_owner_permissions`: the levels of the owner among public and internal. -/
def ownerPermissions (permissions : Text → List Text) (rows : Rows) : Except NodeError (List Text) :=
  (loadThread rows).bind fun thread =>
    let levels := [text "internal",text "public"].filter (· ∈ permissions thread.ownerSubjectId)
    if levels = [] then .error .permission else .ok levels

/-- `_counts`, the rows in order: the first bad one decides what is raised. -/
def counts (permissions : Text → List Text) (rows : Rows) : Except NodeError StatusCounts :=
  (ownerPermissions permissions rows).bind fun allowed =>
    match rows.items.find? fun item => item.permissionLevel ∉ allowed ∨ item.status = none with
    | none => .ok (countItems rows.items)
    | some item =>
      if item.permissionLevel ∉ allowed then .error .permission else .error (.value .invalidStateTransition)

/-- The channels after the node's update, through the reducer of `completed_nodes`. -/
def Channels.complete (channels : Channels) (phase : Phase) (node : Node) : Channels :=
  { channels with
    phase := some phase
    completedNodes := appendUniqueBounded channels.completedNodes [node] maxCompletedNodes }

def validateInput (rows : Rows) (channels : Channels) : Except NodeError Channels :=
  if channels.workflowThreadId.all (strip · = []) then .error (.value .invalidInput)
  else (loadThread rows).map fun thread =>
    { channels with
      graphVersion := some thread.graphVersion
      inputHash := some thread.inputHash
      evidenceVersionHash := some thread.evidenceVersionHash
      reviewStatusCounts := some {} }.complete .inputValidated .validateInput

def collectEvidenceRefs (permissions : Text → List Text) (rows : Rows) (channels : Channels) :
    Except NodeError Channels :=
  (ownerPermissions permissions rows).bind fun allowed =>
    if rows.evidencePermissions = [] ∨ ∃ level ∈ rows.evidencePermissions, level ∉ allowed then .error .permission
    else .ok (channels.complete .evidenceRefsCollected .collectEvidenceRefs)

def planAgentRuns (registry : List Text) (rows : Rows) (channels : Channels) : Except NodeError Channels :=
  if rows.request.agentNames = [] ∨ ∃ name ∈ rows.request.agentNames, name ∉ registry then
    .error (.value .invalidInput)
  else .ok (channels.complete .agentRunsPlanned .planAgentRuns)

def draft (permissions : Text → List Text) (rows : Rows) (channels : Channels) : Except NodeError Channels :=
  (counts permissions rows).map fun counts =>
    { channels with reviewStatusCounts := some counts }.complete .candidatesDrafted .draftReviewCandidatesTransaction

def runAutoReview (channels : Channels) : Channels := channels.complete .autoReviewRun .runAutoReview

def refresh (permissions : Text → List Text) (rows : Rows) (channels : Channels) : Except NodeError Channels :=
  (counts permissions rows).map fun counts =>
    { channels with reviewStatusCounts := some counts }.complete .reviewResolutionRefreshed .refreshReviewResolution

def route (channels : Channels) : Channels := channels.complete .reviewBoundaryRouted .routeReviewBoundary

/-- `_branch`, with the node each answer leads to. -/
def branch (channels : Channels) : Except NodeError Node :=
  let counts := channels.reviewStatusCounts.getD {}
  if counts.total = 0 then .ok .finalizeNoCandidates
  else if counts.pendingReview ≠ 0 then .ok .awaitHumanReview
  else if counts.needsMoreEvidence ≠ 0 then .ok .finalizeNeedsMoreEvidence
  else if counts.approved+counts.rejected+counts.revoked = counts.total then .ok .finalizeAutoResolved
  else .error (.value .invalidStateTransition)

/-- `_output`. -/
def output (channels : Channels) (status : ThreadStatus) (phase : Phase) (node : Node) : Channels :=
  { channels with
    status := some status
    reviewItemCount := some (channels.reviewStatusCounts.getD {}).total }.complete phase node

end ParaWorks.Workflow
