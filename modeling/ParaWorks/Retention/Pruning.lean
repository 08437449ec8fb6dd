import ParaWorks.Lib.Paging
import ParaWorks.Lib.Text

/-!
# Pruning of checkpoints

The threads that have ended long ago are read page by page behind a cursor, and the checkpoint rows of the first of them
that still have any are deleted.
-/

namespace ParaWorks.Retention

open Lib

/-! ## Tables -/

structure WorkflowThread where
  threadId : Text
  checkpointThreadId : Text
  checkpointStore : Text
  status : Text
  completedAt : Option Int
  cancelledAt : Option Int
  updatedAt : Int
  deriving DecidableEq

/-- `func.coalesce(completed_at, cancelled_at, updated_at)`. -/
def WorkflowThread.terminalAt (t : WorkflowThread) : Int := (t.completedAt.orElse fun _ => t.cancelledAt).getD t.updatedAt

/-- `agent_workflow_threads` with its two unique columns. -/
structure ThreadTable where
  rows : List WorkflowThread
  threadIds : (rows.map (·.threadId)).Nodup
  checkpointThreadIds : (rows.map (·.checkpointThreadId)).Nodup

/-- A row of a checkpoint table: the thread that it belongs to and what it holds. -/
structure CheckpointRow where
  threadId : Text
  content : Text
  deriving DecidableEq

structure Checkpoints where
  writes : List CheckpointRow
  blobs : List CheckpointRow
  checkpoints : List CheckpointRow
  deriving DecidableEq

/-- The order of texts in the database. -/
structure Collation where
  le : Text → Text → Bool
  total : ∀ a b, le a b = true ∨ le b a = true
  trans : ∀ a b c, le a b = true → le b c = true → le a c = true
  antisymm : ∀ a b, le a b = true → le b a = true → a = b

/-- `a < b`. -/
def Collation.lt (collation : Collation) (a b : Text) : Bool := !collation.le b a

/-! ## Pages -/

structure Candidate where
  checkpointThreadId : Text
  terminalAt : Int
  threadId : Text
  deriving DecidableEq

def WorkflowThread.candidate (t : WorkflowThread) : Candidate := ⟨t.checkpointThreadId,t.terminalAt,t.threadId⟩

def terminalPrunableStatuses : List Text :=
  [text "completed",text "needs_more_evidence",text "failed",text "cancelled"]

/-- The `WHERE` of the candidates. -/
def isExpired (cutoff : Int) (t : WorkflowThread) : Bool :=
  t.status ∈ terminalPrunableStatuses && t.checkpointStore = text "postgres" && t.terminalAt < cutoff

section pages

variable (collation : Collation)

/-- The `ORDER BY` of the candidates. -/
def inOrder (t u : WorkflowThread) : Prop :=
  t.terminalAt < u.terminalAt ∨ (t.terminalAt = u.terminalAt ∧ collation.le t.threadId u.threadId = true)

instance : DecidableRel (inOrder collation) := fun t u => by unfold inOrder; infer_instance

/-- The thread comes behind the cursor. -/
def isBehind (cursor : Option (Int × Text)) (t : WorkflowThread) : Bool :=
  match cursor with
  | none => true
  | some (terminalAt,threadId) =>
    terminalAt < t.terminalAt || (t.terminalAt = terminalAt && collation.lt threadId t.threadId)

/-- `_load_candidate_page`. -/
def loadCandidatePage (threads : ThreadTable) (cutoff : Int) (pageSize : Nat) (cursor : Option (Int × Text)) :
    List Candidate :=
  let rows := threads.rows.filter fun t => isExpired cutoff t && isBehind collation cursor t
  ((rows.insertionSort (inOrder collation)).take pageSize).map WorkflowThread.candidate

/-- `_remaining_checkpoint_thread_ids`. -/
def remainingCheckpointThreadIds (tables : Checkpoints) (candidateIds : List Text) : List Text :=
  (((tables.writes++tables.blobs++tables.checkpoints).map (·.threadId)).filter (· ∈ candidateIds)).dedup

/-! ## Pruning -/

/-- The loop over the pages, none where the fuel runs out. -/
def collect (threads : ThreadTable) (tables : Checkpoints) (cutoff : Int) (limit : Nat) :
    Nat → List Text → List Candidate → Option (List Text)
  | 0, _, _ => none
  | fuel+1, ids, page =>
    if page = [] then some ids
    else
      let candidateIds := page.map (·.checkpointThreadId)
      let remainingIds := remainingCheckpointThreadIds tables candidateIds
      let ids := ids++candidateIds.filter (· ∈ remainingIds)
      if limit ≤ ids.length then some (ids.take limit)
      else if page.length < limit then some ids
      else
        let cursor := page.getLast?.map fun c => (c.terminalAt,c.threadId)
        collect threads tables cutoff limit fuel ids (loadCandidatePage collation threads cutoff limit cursor)

structure CheckpointPruneResult where
  selectedThreadCount : Nat
  deletedWriteCount : Nat
  deletedBlobCount : Nat
  deletedCheckpointCount : Nat
  cutoff : Int
  deriving DecidableEq

/-- `DELETE FROM … WHERE thread_id = ANY(ids)`: the rows that are left. -/
def deleteRows (ids : List Text) (rows : List CheckpointRow) : List CheckpointRow := rows.filter (·.threadId ∉ ids)

def Checkpoints.delete (tables : Checkpoints) (ids : List Text) : Checkpoints :=
  ⟨deleteRows ids tables.writes,deleteRows ids tables.blobs,deleteRows ids tables.checkpoints⟩

inductive PruneError where
  | limitOutOfRange
  | outOfFuel
  deriving DecidableEq

/-- `prune_expired_checkpoints` at a cutoff, with the tables that it leaves. -/
def pruneExpiredCheckpoints (threads : ThreadTable) (tables : Checkpoints) (cutoff : Int) (limit : Nat) :
    Except PruneError (CheckpointPruneResult × Checkpoints) :=
  if limit < 1 ∨ 1000 < limit then .error .limitOutOfRange
  else
    let page := loadCandidatePage collation threads cutoff limit none
    if page = [] then .ok (⟨0,0,0,0,cutoff⟩,tables)
    else match collect collation threads tables cutoff limit (threads.rows.length+1) [] page with
      | none => .error .outOfFuel
      | some ids =>
        if ids = [] then .ok (⟨0,0,0,0,cutoff⟩,tables)
        else
          let left := tables.delete ids
          .ok (⟨ids.length,tables.writes.length-left.writes.length,tables.blobs.length-left.blobs.length,
            tables.checkpoints.length-left.checkpoints.length,cutoff⟩,left)

end pages

end ParaWorks.Retention
