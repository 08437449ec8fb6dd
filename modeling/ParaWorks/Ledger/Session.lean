import ParaWorks.Lib.Program
import ParaWorks.Ledger.CostPolicy

/-!
# Ledgers, their sessions and the database

Any number of ledger instances work on one run. What is durable is `World.db`; what one session has
read, flushed or assigned but not committed is its unit of work; the maps of a ledger instance are
its `Memory` and die with its process. The ghost fields `issued` and `history` only record.
-/

namespace ParaWorks.Ledger

open Lib

/-- A dispatch grant is an object: `serial` is its identity, `ledger` the instance whose closure
consumes it. -/
structure CommittedRagDispatchGrant where
  serial : Nat
  ledger : Nat
  component : RagPaidComponent
  reservedCostUsd : Usd
  dispatchFenceHmac : Hmac
  providerSafetySnapshotHmac : Hmac
deriving DecidableEq

structure PendingProjectionIdentity where
  projectionOwnerFenceHmac : Option Hmac
  securityScopeFingerprint : Hmac
  runtimeCostSnapshotHmac : Hmac
deriving DecidableEq

/-- The maps of one `RagCostLedger`, restricted to the run. -/
structure Memory where
  processHmac : Hmac
  activeGrants : RagPaidComponent → Option CommittedRagDispatchGrant
  evidenceRefusedGrant : Option CommittedRagDispatchGrant
  admissionSnapshots : RagPaidComponent → Option AuthorizedProviderPolicySnapshot
  admissionBudgets : RagPaidComponent → Option PreparedPaidCallBudget
  answerReservation : Option RagAnswerCeilingReservation
  grantBindings : RagPaidComponent → Option RagProviderSafetyBinding
  terminalBindings : RagPaidComponent → Option RagProviderSafetyBinding
  terminalCostRows : RagPaidComponent → Option AgentRunCostComponent
  pendingProjectionIdentity : Option PendingProjectionIdentity

/-- `RagCostLedger.__init__`: a new process knows nothing of the run. -/
def Memory.fresh (processHmac : Hmac) : Memory where
  processHmac := processHmac
  activeGrants := fun _ => none
  evidenceRefusedGrant := none
  admissionSnapshots := fun _ => none
  admissionBudgets := fun _ => none
  answerReservation := none
  grantBindings := fun _ => none
  terminalBindings := fun _ => none
  terminalCostRows := fun _ => none
  pendingProjectionIdentity := none

/-- One dictionary entry written. -/
def put {α : Type} (f : RagPaidComponent → Option α) (component : RagPaidComponent) (value : Option α) :
    RagPaidComponent → Option α :=
  fun c => if c = component then value else f c

/-- The open transaction of `session`, which holds the row locks of the run until it ends. `parent`
and `rows` are the instances in the identity map, with the values assigned to them so far. -/
structure UnitOfWork where
  session : Nat
  flushed : Option Run
  parent : Option AgentRun
  rows : Option (List AgentRunCostComponent)

inductive Event where
  | committed (run : Run)
  | budgetBound (prepared : PreparedPaidCallBudget)
  | overrunBlocked (component : RagPaidComponent)
  | observed (grant : CommittedRagDispatchGrant) (usage : Option StrictProviderUsage)

structure World where
  db : Option Run
  unit : Option UnitOfWork
  memory : Nat → Memory
  consumed : List CommittedRagDispatchGrant
  consumedObservations : List Nat
  issued : List CommittedRagDispatchGrant
  history : List Event

def World.initial (processHmac : Nat → Hmac) : World where
  db := none
  unit := none
  memory := fun i => Memory.fresh (processHmac i)
  consumed := []
  consumedObservations := []
  issued := []
  history := []

abbrev LedgerM := EStateM LedgerError World

/-- How `session.commit()` ends: `unacknowledged` made the transaction durable and still raised. -/
inductive CommitOutcome where
  | acknowledged
  | unacknowledged
  | failed
deriving DecidableEq, Repr

/-- What `require_ready` answers to a claim. -/
inductive ReadinessAnswer where
  | ready (binding : RagProviderSafetyBinding)
  | inspectionFailed
  | refused
  | unavailable
deriving DecidableEq

/-- What the surroundings of one call decide. -/
structure Environment where
  runtimeHealthy : Bool
  commit : CommitOutcome
  readiness : ReadinessAnswer
  /-- `block_overrun`, `block_remediation` or `revalidate_after_response` completes -/
  safetyCompletes : Bool
  /-- the finalization or accounting barrier of provider safety admits the body -/
  safetyBarrier : Bool
  /-- the projection-owner lock is granted -/
  projectionLock : Bool
  /-- leaving the barriers raises nothing -/
  ownerExit : Bool
  /-- the advisory digest of `_projection_owner_fence`, or the refusal of its capability -/
  ownerCapability : Option (Option Hmac)
  orderCapability : Bool
  auditAppends : Bool
  nonce : Nat
  now : Int

def commitUnacknowledged : LedgerError := .persistence "ledger commit acknowledgement unavailable"

/-- What the transaction of `u` sees of the run before its own unflushed assignments. -/
def UnitOfWork.base (u : UnitOfWork) (db : Run) : Run := u.flushed.getD db

/-- What a commit of `u` would make durable. -/
def UnitOfWork.pending (u : UnitOfWork) (db : Run) : Run where
  parent := u.parent.getD (u.base db).parent
  rows := u.rows.getD (u.base db).rows

/-- `session.dirty`: an assigned value has not been flushed. -/
def UnitOfWork.dirty (u : UnitOfWork) (db : Run) : Bool := u.pending db ≠ u.base db

def getMemory (i : Nat) : LedgerM Memory := do
  let w ← get
  pure (w.memory i)

def World.mapMemory (w : World) (i : Nat) (f : Memory → Memory) : World :=
  { w with memory := fun j => if j = i then f (w.memory j) else w.memory j }

def modifyMemory (i : Nat) (f : Memory → Memory) : LedgerM Unit :=
  modify fun w => w.mapMemory i f

def World.record (w : World) (e : Event) : World := { w with history := e :: w.history }

/-- Session `i` discards what it has read and assigned; what it flushed stays in its transaction. -/
def World.expireAll (w : World) (i : Nat) : World :=
  { w with unit := w.unit.map fun u => if u.session = i then { u with parent := none, rows := none } else u }

def World.rollback (w : World) (i : Nat) : World :=
  { w with unit := w.unit.filter fun u => u.session ≠ i }

def World.assignParent (w : World) (parent : AgentRun) : World :=
  { w with unit := w.unit.map fun u => { u with parent := some parent } }

def World.assignRows (w : World) (rows : List AgentRunCostComponent) : World :=
  { w with unit := w.unit.map fun u => { u with rows := some rows } }

def World.flush (w : World) : World :=
  { w with unit := w.unit.map fun u => { u with flushed := w.db.map u.pending } }

/-- The pending values of the open transaction become durable and its locks are released. -/
def World.durable (w : World) : World :=
  match w.db, w.unit with
  | some run, some u =>
    { w with db := some (u.pending run), unit := none, history := .committed (u.pending run) :: w.history }
  | _, _ => w

def expireAll (i : Nat) : LedgerM Unit := modify fun w => w.expireAll i

def rollback (i : Nat) : LedgerM Unit := modify fun w => w.rollback i

def assignParent (parent : AgentRun) : LedgerM Unit := modify fun w => w.assignParent parent

def assignRows (rows : List AgentRunCostComponent) : LedgerM Unit := modify fun w => w.assignRows rows

def flush : LedgerM Unit := modify World.flush

/-- `_commit`: a failed acknowledgement is never retried, and does not say what became durable. -/
def commit (env : Environment) : LedgerM Unit :=
  match env.commit with
  | .acknowledged => modify World.durable
  | .unacknowledged => do
    modify World.durable
    throw commitUnacknowledged
  | .failed => do
    modify fun w => { w with unit := none }
    throw commitUnacknowledged

/-- `session.get(.., with_for_update=True)` and the locked row select: the parent keeps the values
assigned to it earlier in this session, the rows are populated again. -/
def selectForUpdate (i : Nat) : LedgerM (Option (AgentRun × List AgentRunCostComponent)) := do
  let w ← get
  match w.db with
  | none => pure none
  | some run => do
    let u := w.unit.getD ⟨i,none,none,none⟩
    require (u.session = i) .lockTimeout
    let parent := (u.pending run).parent
    let rows := (u.base run).rows
    set { w with unit := some { u with parent := some parent, rows := some rows } }
    pure (some (parent,rows))

/-- `_locked_run`. -/
def lockedRun (i : Nat) : LedgerM (AgentRun × List AgentRunCostComponent) := do
  let selected ← selectForUpdate i
  let (parent,rows) ← present selected (.ledger "exact-two RAG run is unavailable")
  require (rows.map AgentRunCostComponent.component = componentOrder) (.ledger "exact-two RAG run is unavailable")
  pure (parent,rows)

/-- An unlocked read: instances in the session's identity map keep their assigned values. -/
def peekRun (i : Nat) : LedgerM (Option Run) := do
  let w ← get
  pure (w.db.map fun run => ((w.unit.filter fun u => u.session = i).map fun u => u.pending run).getD run)

/-- `_runtime_health_effect`. -/
def runtimeHealthEffect (env : Environment) : LedgerM Unit :=
  require env.runtimeHealthy .runtimeHealth

end ParaWorks.Ledger
