import ParaWorks.Lib.Transition
import ParaWorks.Ledger.Closing

/-!
# Runs of the ledger

One step is one call on one ledger instance, a process restart, or a session that gives up its
transaction. A call runs while its session holds the locks of the run, so calls do not interleave
further than whole steps; a call that raises is a step too, from the state it left behind.
-/

namespace ParaWorks.Ledger

open Lib

variable (authority : LedgerAuthority)

inductive Operation where
  | createAdmission (request : AdmissionRequest)
  | bindAnswerBudget (prepared : PreparedPaidCallBudget) (projection : Option AnswerProjection)
  | claimComponent (component : RagPaidComponent) (prepared : PreparedPaidCallBudget)
  | consumeCommittedGrant (grant : CommittedRagDispatchGrant)
  | consumeTransportGrant (grant : CommittedRagDispatchGrant)
  | finalizeComponent (grant : CommittedRagDispatchGrant) (observation : ClassifiedProviderObservation)
  | loadPendingProjection
  | deferAnswerEvidenceRefusal (grant : CommittedRagDispatchGrant)
  | commitAnswerEvidenceChangedPending (grant : CommittedRagDispatchGrant) (generations : PendingGenerations)
  | commitProviderFreePending (generations : PendingGenerations)
  | commitEmbeddingOnlyPending (generations : PendingGenerations)
  | commitAnswerCachePending (generations : PendingGenerations) (valid : Bool) (hit : CacheHit)
      (embeddingOnly : Bool)
  | finalizeShadowRun (request : ShadowRequest)
  | finalizeInterComponentFailure (outcome : Outcome) (finalizer : Option AssistantFinalizer)
  | finalizeProjectionlessFailure (outcome : Outcome) (completedAt : Option Timestamp)
  | finalizePreSendRefusal (outcome : Outcome) (completedAt : Option Timestamp)
  | cancelClaimBeforeDispatch (grant : CommittedRagDispatchGrant) (outcome : Outcome)
  | recoverIncompleteRun (request : RecoveryAuthority)
  | recoverIncompleteShadowRuns

/-- The call of an operation on ledger `i`. The grant a claim returns is in `issued`. -/
def Operation.run (i : Nat) (env : Environment) : Operation → LedgerM Unit
  | createAdmission request => ParaWorks.Ledger.createAdmission authority i env request
  | bindAnswerBudget prepared projection => ParaWorks.Ledger.bindAnswerBudget authority i env prepared projection
  | claimComponent component prepared => do
    let _ ← ParaWorks.Ledger.claimComponent authority i env component prepared
  | consumeCommittedGrant grant => ParaWorks.Ledger.consumeCommittedGrant i env grant
  | consumeTransportGrant grant => ParaWorks.Ledger.consumeTransportGrant i env grant
  | finalizeComponent grant observation => ParaWorks.Ledger.finalizeComponent authority i env grant observation
  | loadPendingProjection => do
    let _ ← ParaWorks.Ledger.loadPendingProjection authority i env
  | deferAnswerEvidenceRefusal grant => ParaWorks.Ledger.deferAnswerEvidenceRefusal i grant
  | commitAnswerEvidenceChangedPending grant generations =>
    ParaWorks.Ledger.commitAnswerEvidenceChangedPending authority i env grant generations
  | commitProviderFreePending generations => ParaWorks.Ledger.commitProviderFreePending authority i env generations
  | commitEmbeddingOnlyPending generations =>
    ParaWorks.Ledger.commitEmbeddingOnlyPending authority i env generations
  | commitAnswerCachePending generations valid hit embeddingOnly =>
    ParaWorks.Ledger.commitAnswerCachePending authority i env generations valid hit embeddingOnly
  | finalizeShadowRun request => ParaWorks.Ledger.finalizeShadowRun authority i env request
  | finalizeInterComponentFailure outcome finalizer =>
    ParaWorks.Ledger.finalizeInterComponentFailure authority i env outcome finalizer
  | finalizeProjectionlessFailure outcome completedAt =>
    ParaWorks.Ledger.finalizeProjectionlessFailure authority i env outcome completedAt
  | finalizePreSendRefusal outcome completedAt =>
    ParaWorks.Ledger.finalizePreSendRefusal authority i env outcome completedAt
  | cancelClaimBeforeDispatch grant outcome =>
    ParaWorks.Ledger.cancelClaimBeforeDispatch authority i env grant outcome
  | recoverIncompleteRun request => ParaWorks.Ledger.recoverIncompleteRun authority i env request
  | recoverIncompleteShadowRuns => ParaWorks.Ledger.recoverIncompleteShadowRuns authority i env

inductive Command where
  | call (ledger : Nat) (env : Environment) (operation : Operation)
  /-- a new process in place of ledger `i`; the database rolls its transaction back -/
  | restart (ledger : Nat) (processHmac : Hmac)
  | rollback (ledger : Nat)

def restart (w : World) (i : Nat) (processHmac : Hmac) : World :=
  (w.rollback i).mapMemory i fun _ => Memory.fresh processHmac

def step (w : World) : Command → World
  | .call i env operation => finalState (operation.run authority i env) w
  | .restart i processHmac => restart w i processHmac
  | .rollback i => w.rollback i

/-- The states of every run from an empty database. -/
def Reachable (w : World) : Prop :=
  ∃ processHmac commands, w = Lib.run (step authority) (World.initial processHmac) commands

end ParaWorks.Ledger
