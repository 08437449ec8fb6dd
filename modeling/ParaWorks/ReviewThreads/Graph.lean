import ParaWorks.Workflow.Graph

/-!
# The review graph of version 2.0

The rows of one review thread, the nodes of `build_company_memory_review_v2_graph` and the checkpoints they leave.
-/

namespace ParaWorks.ReviewThreads

open Lib Answers
open Workflow (appendUniqueBounded isHash maxCompletedNodes maxErrorCodes allowedReviewErrorCodes
  companyMemoryReviewWorkflow)

/-! ## Rows -/

inductive ThreadStatus where
  | created
  | drafting
  | checkpointPending
  | awaitingHumanReview
  | resuming
  | checkpointFailed
  | completed
  | needsMoreEvidence
  | failed
  | cancelled
  deriving DecidableEq

inductive ReviewItemStatus where
  | pendingReview
  | approved
  | rejected
  | needsMoreEvidence
  deriving DecidableEq

/-- A keyed fingerprint: the hex digits of an HMAC. -/
abbrev KeyedHmac := {t : Text // isHash t = true}

/-- The row of the thread. Each checkpoint thread id is a fresh one: the number of the attempt. -/
structure AgentWorkflowThread where
  threadId : Text
  workflowName : Text
  graphVersion : Text
  checkpointThreadId : Nat
  checkpointStore : Text
  ownerSubjectId : Text
  securityScopeId : Text
  inputHash : KeyedHmac
  evidenceVersionHash : KeyedHmac
  status : ThreadStatus
  stateVersion : Nat
  leaseToken : Option Nat
  leaseExpiresAt : Option Nat
  checkpointConfirmedAt : Option Nat
  cancelledAt : Option Nat
  cancelledBySubjectId : Option Text
  createdAt : Nat
  updatedAt : Nat
  completedAt : Option Nat
  deriving DecidableEq

structure AgentWorkflowEvidenceRef where
  canonicalSourceType : Text
  canonicalTable : Text
  canonicalRowId : Nat
  documentVersionId : Option Nat
  externalRevision : Option Text
  contentSignature : Text
  permissionLevelSnapshot : Text
  contentFingerprint : Text
  deriving DecidableEq

/-- The exact authority of a source, with the fingerprint of its chain. -/
structure Authority where
  documentVersionId : Nat
  externalRevision : Option Text
  contentFingerprint : Text
  deriving DecidableEq

structure Source where
  id : Nat
  sourceType : Text
  permissionLevel : Text
  contentSignature : Option Text
  authority : Option Authority
  deriving DecidableEq

/-- A review item; its status is `none` when it is not one of `REVIEW_STATUS_ORDER`. -/
structure ReviewItem where
  id : Nat
  status : Option ReviewItemStatus
  permissionLevel : Text
  deriving DecidableEq

structure Rows where
  thread : AgentWorkflowThread
  agentNames : List Text
  refs : List AgentWorkflowEvidenceRef
  sources : List Source
  items : List ReviewItem
  deriving DecidableEq

/-! ## Counts -/

structure StatusCounts where
  pendingReview : Nat := 0
  approved : Nat := 0
  rejected : Nat := 0
  needsMoreEvidence : Nat := 0
  deriving DecidableEq

def StatusCounts.total (c : StatusCounts) : Nat := c.pendingReview+c.approved+c.rejected+c.needsMoreEvidence

def withStatus (items : List ReviewItem) (status : ReviewItemStatus) : Nat :=
  items.countP fun item => item.status = some status

/-- The counts of the items, all of which have a status of the order. -/
def countItems (items : List ReviewItem) : StatusCounts where
  pendingReview := withStatus items .pendingReview
  approved := withStatus items .approved
  rejected := withStatus items .rejected
  needsMoreEvidence := withStatus items .needsMoreEvidence

structure ReviewDraftResult where
  reviewItemIds : List Nat
  reviewStatusCounts : StatusCounts
  deriving DecidableEq

/-! ## Channels and checkpoints -/

inductive Node where
  | validateInput
  | collectEvidenceRefs
  | planAgentRuns
  | draftReviewCandidatesTransaction
  | routeReviewBoundary
  | finalizeNoCandidates
  | awaitHumanReview
  | verifyReviewResolutionFromPostgres
  | finalizeNeedsMoreEvidence
  | finalizeReviewTrace
  deriving DecidableEq

inductive Phase where
  | inputValidated
  | evidenceRefsCollected
  | agentRunsPlanned
  | checkpointPending
  | reviewBoundaryRouted
  | reviewResolutionAcknowledged
  | reviewResolutionVerified
  | completed
  | needsMoreEvidence
  deriving DecidableEq

/-- `get_state().values`: every channel that has been written. The two lists have reducers and are there from the
start. -/
structure Channels where
  workflowThreadId : Option Text := none
  graphVersion : Option Text := none
  inputHash : Option KeyedHmac := none
  evidenceVersionHash : Option KeyedHmac := none
  reviewStatusCounts : Option StatusCounts := none
  phase : Option Phase := none
  completedNodes : List Node := []
  errorCodes : List Text := []
  status : Option ThreadStatus := none
  reviewItemCount : Option Nat := none
  deriving DecidableEq

/-- The last checkpoint of an attempt: the channels, the node that is due, and what the node has stored with it, the
version its interrupt carries or that it has raised. -/
structure Checkpoint where
  id : Nat
  channels : Channels
  next : Option Node
  interrupt : Option Nat
  raised : Bool
  deriving DecidableEq

/-- `validate_checkpoint_state` of the eight state keys, each of its form. -/
def validateCheckpointState (channels : Channels) : Bool :=
  channels.workflowThreadId.isSome && channels.graphVersion.isSome && channels.inputHash.isSome &&
  channels.evidenceVersionHash.isSome && channels.reviewStatusCounts.isSome && channels.phase.isSome &&
  channels.completedNodes.length ≤ maxCompletedNodes && channels.completedNodes.Nodup &&
  channels.errorCodes.length ≤ maxErrorCodes && channels.errorCodes.Nodup &&
  channels.errorCodes.all (· ∈ allowedReviewErrorCodes)

/-! ## Errors -/

/-- `_PUBLIC_ERROR_CODES`. -/
inductive ErrorCode where
  | invalidInput
  | notFound
  | idempotencyKeyReused
  | evidenceChanged
  | permissionDenied
  | checkpointUnavailable
  | checkpointFailed
  | reviewUnresolved
  | runtimeVersionUnavailable
  | modelUnavailable
  | budgetExceeded
  | costPreviewChanged
  | concurrentResume
  | invalidStateTransition
  deriving DecidableEq

/-- The code of a `ReviewDraftError`; one of them is not public. -/
inductive DraftCode where
  | of (code : ErrorCode)
  | evidenceBindingMismatch
  deriving DecidableEq

/-- `_raise_preflight_error` and the codes that `ReviewWorkflowServiceError` lets out. -/
def DraftCode.public : DraftCode → ErrorCode
  | .of .permissionDenied => .notFound
  | .of code => code
  | .evidenceBindingMismatch => .invalidStateTransition

/-- What leaves a call of the service: one of its own errors or an exception that nothing maps. -/
inductive Raised where
  | service (code : ErrorCode)
  | unmapped
  deriving DecidableEq

/-- What the guarded part of an entry may raise. -/
inductive Failure where
  | service (code : ErrorCode)
  | unavailable
  | confirmation
  | draft (code : DraftCode)
  | permission
  | value (code : ErrorCode)
  | other
  deriving DecidableEq

/-! ## Nodes -/

def graphVersionV2 : Text := text "company-memory-review-v2.0"

def loadThread (rows : Rows) : Except Failure AgentWorkflowThread :=
  if rows.thread.workflowName ≠ companyMemoryReviewWorkflow ∨ rows.thread.graphVersion ≠ graphVersionV2 then
    .error (.value .runtimeVersionUnavailable)
  else .ok rows.thread

/-- `_current_permissions`: the levels of the actor, stripped, without blanks. -/
def currentPermissions (actor : DemoUser) : Except Failure (List Text) :=
  let levels := (actor.permissionLevels.map strip).filter (· ≠ [])
  if levels = [] then .error .permission else .ok levels

/-- The channels after the node's update, through the reducer of `completed_nodes`. -/
def Channels.complete (channels : Channels) (phase : Phase) (node : Node) : Channels :=
  { channels with
    phase := some phase
    completedNodes := appendUniqueBounded channels.completedNodes [node] maxCompletedNodes }

def validateInput (rows : Rows) (channels : Channels) : Except Failure Channels :=
  if channels.workflowThreadId.all (strip · = []) then .error (.value .invalidInput)
  else (loadThread rows).map fun thread =>
    { channels with
      graphVersion := some thread.graphVersion
      inputHash := some thread.inputHash
      evidenceVersionHash := some thread.evidenceVersionHash
      reviewStatusCounts := some {} }.complete .inputValidated .validateInput

def collectEvidenceRefs (actor : DemoUser) (rows : Rows) (channels : Channels) : Except Failure Channels :=
  (currentPermissions actor).bind fun allowed =>
    if rows.refs = [] then .error (.value .invalidInput)
    else if ∃ ref ∈ rows.refs, ref.permissionLevelSnapshot ∉ allowed then .error .permission
    else .ok (channels.complete .evidenceRefsCollected .collectEvidenceRefs)

def planAgentRuns (registry : List Text) (rows : Rows) (channels : Channels) : Except Failure Channels :=
  if rows.agentNames = [] ∨ ∃ name ∈ rows.agentNames, name ∉ registry then .error (.value .invalidInput)
  else .ok (channels.complete .agentRunsPlanned .planAgentRuns)

/-- The draft node once the draft service has answered. -/
def draftReviewCandidatesTransaction (result : ReviewDraftResult) (channels : Channels) : Except Failure Channels :=
  if result.reviewItemIds.length ≠ result.reviewStatusCounts.total then .error (.value .invalidStateTransition)
  else .ok ({ channels with reviewStatusCounts := some result.reviewStatusCounts }.complete
    .checkpointPending .draftReviewCandidatesTransaction)

def routeReviewBoundary (channels : Channels) : Channels := channels.complete .reviewBoundaryRouted .routeReviewBoundary

/-- `_review_boundary_branch`, with the node each answer leads to. -/
def reviewBoundaryBranch (channels : Channels) : Node :=
  if (channels.reviewStatusCounts.getD {}).total = 0 then .finalizeNoCandidates else .awaitHumanReview

/-- `_verify_review_resolution_from_postgres`. -/
def verifyReviewResolution (actor : DemoUser) (rows : Rows) (channels : Channels) : Except Failure Channels :=
  (currentPermissions actor).bind fun allowed =>
    (loadThread rows).bind fun _ =>
      if rows.items = [] then .error (.value .invalidStateTransition)
      else if ∃ item ∈ rows.items, item.permissionLevel ∉ allowed then .error .permission
      else if ∃ item ∈ rows.items, item.status = none then .error (.value .invalidStateTransition)
      else .ok ({ channels with reviewStatusCounts := some (countItems rows.items) }.complete
        .reviewResolutionVerified .verifyReviewResolutionFromPostgres)

/-- `_review_resolution_branch`, with the node each answer leads to. -/
def reviewResolutionBranch (channels : Channels) : Except Failure Node :=
  let counts := channels.reviewStatusCounts.getD {}
  if counts.needsMoreEvidence ≠ 0 then .ok .finalizeNeedsMoreEvidence
  else if counts.pendingReview ≠ 0 then .ok .awaitHumanReview
  else if counts.approved+counts.rejected = counts.total then .ok .finalizeReviewTrace
  else .error (.value .invalidStateTransition)

/-- `_output`. -/
def output (channels : Channels) (status : ThreadStatus) (phase : Phase) (node : Node) : Channels :=
  { channels with
    status := some status
    reviewItemCount := some (channels.reviewStatusCounts.getD {}).total }.complete phase node

end ParaWorks.ReviewThreads
