import ParaWorks.Lib.Program
import ParaWorks.Lib.Tables
import ParaWorks.ProviderSafety.Latch

/-!
# The provider safety service

`RagProviderSafetyService` over the latch file and the database. Each operation holds both locks to its end, so that
operations follow one another; what it can lose on the way is the write of the file and the commit of the database.
-/

namespace ParaWorks.ProviderSafety

open Lib
open Ledger (RagPaidComponent Usd)
open Release (lowerHmac)

/-! ## The tables of provider safety

The authority row, the readiness rows and the transitions of one database, what the service compares of them with the
latch file, and the one transaction that every transition commits. -/

/-! ## Rows -/

structure AuthorizedProviderPolicySnapshot where
  identity : FamilyIdentity
  authorizedModelConfigVersion : Text
  authorizedModelConfigSnapshotHmac : Text
  authorizedCostPolicyVersion : Text
  authorizedTokenEstimatorVersion : Text
  fingerprintKeyVersion : Text
  fingerprintKeyMaterialVerifier : Text
  authorizedPolicySnapshotHmac : Text
  deriving DecidableEq

/-- `RagProviderSafetyAuthority`, the one row with the identity 1. -/
structure AuthorityRow where
  authorityUuid : Text
  designatedEnvironmentId : Text
  globalSafetyGeneration : Nat
  envelopeDigest : Text
  fingerprintKeyVersion : Text
  fingerprintKeyMaterialVerifier : Text
  deriving DecidableEq

/-- The overrun columns of a family, which are there together or not at all. -/
structure Overrun where
  agentRunId : Nat
  inputTokens : Nat
  outputTokens : Nat
  costUsd : Usd
  observedAt : Text
  deriving DecidableEq

/-- `RagProviderReadiness` -/
structure ReadinessRow where
  id : Nat
  snapshot : AuthorizedProviderPolicySnapshot
  active : Bool
  state : SafetyState
  stateVersion : Nat
  familySafetyGeneration : Nat
  overrun : Option Overrun
  reset : Option (Option Text × Text)
  reviewedGateReferenceHmac : Option Text
  deriving DecidableEq

inductive TransitionKind where
  | bootstrap
  | rebindRequired
  | rebind
  | reset
  | blockOverrun
  | blockRemediation
  | supersession
  deriving DecidableEq

/-- What a transition says of its family before or after it. -/
structure FamilyPoint where
  state : SafetyState
  stateVersion : Nat
  familySafetyGeneration : Nat
  deriving DecidableEq

structure FamilyChange where
  readinessId : Nat
  prior : Option FamilyPoint
  new : FamilyPoint
  deriving DecidableEq

/-- `RagProviderSafetyTransition` -/
structure TransitionRow where
  globalSafetyGeneration : Nat
  kind : TransitionKind
  family : Option FamilyChange
  envelopeDigest : Text
  reviewedTransitionReferenceHmac : Text
  actorSubjectHmac : Option Text
  agentRunId : Option Nat
  deriving DecidableEq

/-- The three tables. -/
structure Database where
  authority : Option AuthorityRow
  readiness : List ReadinessRow
  transitions : List TransitionRow
  deriving DecidableEq

def ReadinessRow.point (row : ReadinessRow) : FamilyPoint := ⟨row.state,row.stateVersion,row.familySafetyGeneration⟩

def FamilyRecord.point (record : FamilyRecord) : FamilyPoint :=
  ⟨record.state,record.stateVersion,record.familySafetyGeneration⟩

/-- The unique constraints and the partial unique index of the tables, and the check on the generation of a bootstrap. -/
structure Database.Consistent (db : Database) : Prop where
  families : (db.readiness.map (·.snapshot.identity)).Nodup
  active : ((db.readiness.filter (·.active)).map (·.snapshot.identity.component)).Nodup
  generations : (db.transitions.map (·.globalSafetyGeneration)).Nodup
  bootstrap : ∀ t ∈ db.transitions,
    (t.globalSafetyGeneration = 0 ↔ t.kind = .bootstrap) ∧ (t.kind = .bootstrap → t.family = none)

instance Database.Consistent.decidable (db : Database) : Decidable db.Consistent :=
  decidable_of_iff
    ((db.readiness.map (·.snapshot.identity)).Nodup ∧
      ((db.readiness.filter (·.active)).map (·.snapshot.identity.component)).Nodup ∧
      (db.transitions.map (·.globalSafetyGeneration)).Nodup ∧
      ∀ t ∈ db.transitions,
        (t.globalSafetyGeneration = 0 ↔ t.kind = .bootstrap) ∧ (t.kind = .bootstrap → t.family = none))
    ⟨fun ⟨hf,ha,hg,hb⟩ => ⟨hf,ha,hg,hb⟩,fun ⟨hf,ha,hg,hb⟩ => ⟨hf,ha,hg,hb⟩⟩

/-! ## The two stores -/

/-- The record of a family. -/
def Body.record? (b : Body) (identity : FamilyIdentity) : Option FamilyRecord :=
  b.familyRecords.find? fun f => f.identity = identity

/-- `_active_record` -/
def Body.activeRecord (b : Body) (component : RagPaidComponent) : Option FamilyRecord :=
  b.record? (b.activeFamilyByComponent.get component)

/-- What `_match_database_rows` compares of one readiness row. -/
def matchesRecord (b : Body) (row : ReadinessRow) : Bool :=
  match b.record? row.snapshot.identity with
  | none => false
  | some record =>
    row.active = decide (b.activeFamilyByComponent.get row.snapshot.identity.component = row.snapshot.identity) ∧
      row.snapshot.authorizedPolicySnapshotHmac = record.authorizedPolicySnapshotHmac ∧ row.state = record.state ∧
      row.stateVersion = record.stateVersion ∧ row.familySafetyGeneration = record.familySafetyGeneration ∧
      row.reviewedGateReferenceHmac = record.reviewedTransitionReferenceHmac

/-- `_match_database_rows` -/
def matchDatabaseRows (s : Service) (latch : Latch s) (db : Database) : Bool :=
  match db.authority with
  | none => false
  | some authority =>
    let body := latch.body
    let active := (db.readiness.filter (·.active)).map (·.snapshot.identity.component)
    authority.authorityUuid = body.authorityUuid ∧ authority.designatedEnvironmentId = s.environment ∧
      authority.globalSafetyGeneration = body.globalSafetyGeneration ∧
      authority.envelopeDigest = latch.envelopeDigest ∧
      authority.fingerprintKeyVersion = latch.envelope.signedPayload.fingerprintKeyVersion ∧
      authority.fingerprintKeyMaterialVerifier = latch.envelope.signedPayload.fingerprintKeyMaterialVerifier ∧
      db.readiness.length = body.familyRecords.length ∧ db.readiness.all (matchesRecord body) = true ∧ active.Nodup ∧
      ∀ c ∈ Ledger.componentOrder, c ∈ active

/-! ## A transition -/

/-- What a transition writes beside the generation and the digest. -/
structure TransitionInput where
  component : RagPaidComponent
  kind : TransitionKind
  reviewedReference : Text
  actorSubjectHmac : Option Text
  agentRunId : Option Nat
  snapshot : Option AuthorizedProviderPolicySnapshot
  supersession : Bool
  blocker : Option Overrun
  now : Text

def Database.nextReadinessId (db : Database) : Nat := (db.readiness.map (·.id)).foldr max 0+1

/-- The readiness row of a family that replaces another. -/
def successorRow (id : Nat) (snapshot : AuthorizedProviderPolicySnapshot) (generation : Nat) (reference : Text) :
    ReadinessRow :=
  ⟨id,snapshot,true,.ready,1,generation,none,none,some reference⟩

/-- The active row of a family after a transition of it. -/
def updatedRow (t : TransitionInput) (new : FamilyRecord) (generation : Nat) (row : ReadinessRow) : ReadinessRow :=
  { row with
    state := new.state
    stateVersion := new.stateVersion
    familySafetyGeneration := generation
    reviewedGateReferenceHmac := some t.reviewedReference
    reset := if t.kind = .reset then some (t.actorSubjectHmac,t.now) else row.reset
    snapshot := t.snapshot.getD row.snapshot
    overrun := if row.overrun = none then t.blocker else row.overrun }

def changeRow (rows : List ReadinessRow) (id : Nat) (change : ReadinessRow → ReadinessRow) : List ReadinessRow :=
  rows.map fun row => if row.id = id then change row else row

/-- The readiness rows that a transition leaves, the row it is of and the point where that row was; none where it raises. -/
def transitionRows (t : TransitionInput) (oldRow : ReadinessRow) (oldRecord newRecord : FamilyRecord) (generation : Nat)
    (db : Database) : Option (List ReadinessRow × Nat × Option FamilyPoint) :=
  if t.supersession then
    t.snapshot.map fun snapshot =>
      (changeRow db.readiness oldRow.id ({ · with active := false })++
        [successorRow db.nextReadinessId snapshot generation t.reviewedReference],db.nextReadinessId,none)
  else if oldRow.stateVersion ≠ oldRecord.stateVersion ∨
      oldRow.familySafetyGeneration ≠ oldRecord.familySafetyGeneration then none
  else some (changeRow db.readiness oldRow.id (updatedRow t newRecord generation),oldRow.id,some oldRecord.point)

/-- The tables with the authority, the readiness rows and the log entry of a transition. -/
def Database.transition (db : Database) (t : TransitionInput) (authority : AuthorityRow) (newRecord : FamilyRecord)
    (generation : Nat) (digest : Text) (rows : List ReadinessRow × Nat × Option FamilyPoint) : Database :=
  { authority := some { authority with globalSafetyGeneration := generation, envelopeDigest := digest }
    readiness := rows.1
    transitions := db.transitions++[⟨generation,t.kind,
      some ⟨rows.2.1,rows.2.2,⟨newRecord.state,newRecord.stateVersion,generation⟩⟩,digest,t.reviewedReference,
      t.actorSubjectHmac,t.agentRunId⟩] }

/-- The rows that the transaction of `_commit_transition` leaves, none where it raises. -/
def commitTransition (s : Service) (t : TransitionInput) (old : Latch s) (new : Body) (digest : Text) (db : Database) :
    Option Database := do
  if matchDatabaseRows s old db = true then
    let authority ← db.authority
    let oldRecord ← old.body.activeRecord t.component
    let oldRow ← db.readiness.find? fun row => row.active ∧ row.snapshot.identity.component = t.component
    let newRecord ← new.activeRecord t.component
    let generation := new.globalSafetyGeneration
    if authority.globalSafetyGeneration = old.body.globalSafetyGeneration ∧
        authority.envelopeDigest = old.envelopeDigest then
      let rows ← transitionRows t oldRow oldRecord newRecord generation db
      let after := db.transition t authority newRecord generation digest rows
      if after.Consistent then some after else none
    else none
  else none

/-! ## Reviewed commands -/

inductive ReviewedOperation where
  | markRebindRequired
  | rebind
  | reset
  | supersession
  deriving DecidableEq

/-- `RagProviderSafetyReviewContext` -/
structure ReviewContext where
  authorityUuid : Text
  designatedEnvironmentId : Text
  component : RagPaidComponent
  familyIdentity : FamilyIdentity
  state : SafetyState
  stateVersion : Nat
  globalSafetyGeneration : Nat
  hasHistoricalBlocker : Bool
  deriving DecidableEq

structure CommandPayload where
  actorSubjectHmac : Text
  context : ReviewContext
  historicalBlockAcknowledged : Bool
  operation : ReviewedOperation
  reviewedGateReferenceHmac : Text
  successor : Option AuthorizedProviderPolicySnapshot
  deriving DecidableEq

/-- `ReviewedProviderSafetyCommand` -/
structure Command where
  payload : CommandPayload
  hmac : Text
  consumed : Bool
  deriving DecidableEq

def ReviewedOperation.name : ReviewedOperation → Text
  | markRebindRequired => text "mark_rebind_required"
  | rebind => text "rebind"
  | reset => text "reset"
  | supersession => text "supersession"

/-- `_context` -/
def ReviewContext.json (c : ReviewContext) : Json :=
  .dict [(text "authority_uuid",.str c.authorityUuid),(text "component",.str (componentName c.component)),
    (text "current_family_identity",.list (c.familyIdentity.tuple.map .str)),
    (text "current_state",.str c.state.name),(text "current_state_version",.int c.stateVersion),
    (text "designated_environment_id",.str c.designatedEnvironmentId),
    (text "global_safety_generation",.int c.globalSafetyGeneration),
    (text "has_historical_blocker",.bool c.hasHistoricalBlocker)]

/-- `_successor` -/
def AuthorizedProviderPolicySnapshot.json (p : AuthorizedProviderPolicySnapshot) : Json :=
  .dict [(text "authorized_cost_policy_version",.str p.authorizedCostPolicyVersion),
    (text "authorized_model_config_snapshot_hmac",.str p.authorizedModelConfigSnapshotHmac),
    (text "authorized_model_config_version",.str p.authorizedModelConfigVersion),
    (text "authorized_policy_snapshot_hmac",.str p.authorizedPolicySnapshotHmac),
    (text "authorized_token_estimator_version",.str p.authorizedTokenEstimatorVersion),
    (text "component",.str (componentName p.identity.component)),
    (text "fingerprint_key_material_verifier",.str p.fingerprintKeyMaterialVerifier),
    (text "fingerprint_key_version",.str p.fingerprintKeyVersion),(text "model",.str p.identity.model),
    (text "provider",.str p.identity.provider),
    (text "reasoning_or_config_identity",.str p.identity.reasoningOrConfigIdentity)]

def CommandPayload.json (p : CommandPayload) : Json :=
  .dict [(text "actor_subject_hmac",.str p.actorSubjectHmac),(text "context",p.context.json),
    (text "historical_block_acknowledged",.bool p.historicalBlockAcknowledged),(text "operation",.str p.operation.name),
    (text "reviewed_gate_reference_hmac",.str p.reviewedGateReferenceHmac),
    (text "successor",(p.successor.map (·.json)).getD .null)]

/-- The HMAC of a command under a signer's secret. -/
def commandHmac (s : Service) (secret : ByteArray) (p : CommandPayload) : Option Text :=
  ({ s with secret }).identityHmac (text "rag-provider-safety-reviewed-command:v1") (text "rag-provider-safety:v1") p.json

/-- What `issue` of the review authority returns, none where it raises. -/
def issue (s : Service) (secret : ByteArray) (context : ReviewContext) (operation : ReviewedOperation)
    (successor : Option AuthorizedProviderPolicySnapshot) (actor reference : Text) (acknowledged : Bool) : Option Command :=
  if lowerHmac actor = false ∨ lowerHmac reference = false then none
  else if context.hasHistoricalBlocker = true ∧ (operation = .reset ∨ operation = .supersession) ∧ acknowledged = false then
    none
  else if (operation = .rebind ∨ operation = .supersession) ≠ (successor.isSome = true) then none
  else
    let payload : CommandPayload := ⟨actor,context,acknowledged,operation,reference,successor⟩
    (commandHmac s secret payload).map (⟨payload,·,false⟩)

/-! ## The world -/

/-- The file and the database as they are committed, how many paid components of V2 runs were attempted, the review
contexts that were handed out and the commands that were issued. -/
structure World where
  file : Option Text
  db : Database
  attempted : Nat
  contexts : List ReviewContext
  commands : List Command

/-- Where the write of a store fails: not at all, before it takes effect, or when it has taken effect. -/
inductive Failure where
  | none
  | before
  | after
  deriving DecidableEq

structure Failures where
  replace : Failure
  commit : Failure
  remediation : Failure
  deriving DecidableEq

/-- `RagProviderSafetyError` -/
inductive SafetyError where
  | refused
  | replaceFailed
  | transitionFailed
  deriving DecidableEq

abbrev SafetyM := EStateM SafetyError World

/-- The whole authority, as every operation first reads and compares it. -/
def readMatched (s : Service) : SafetyM (Latch s) := do
  let w ← get
  let file ← present w.file .refused
  let latch ← present (readUnlocked s file) .refused
  require (matchDatabaseRows s latch w.db) .refused
  return latch

/-- `_replace_unlocked` of a text that may not exist. -/
def replaceFile (printed : Option Text) (failure : Failure) : SafetyM Unit := do
  let file ← present printed .replaceFailed
  require (failure ≠ .before) .replaceFailed
  modify fun w => { w with file := some file }
  require (failure ≠ .after) .replaceFailed

/-- The transaction of an operation and its commit. -/
def commitRows (rows : Option Database) (failure : Failure) : SafetyM Unit := do
  let db ← present rows .transitionFailed
  require (failure ≠ .before) .transitionFailed
  modify fun w => { w with db }
  require (failure ≠ .after) .transitionFailed

/-! ## Transitions -/

def hasHistoricalBlocker (b : Body) (component : RagPaidComponent) : Bool :=
  b.familyRecords.any fun f => f.identity.component = component ∧ f.firstBlocker.isSome = true

/-- `_review_context_from` -/
def reviewContextFrom (s : Service) (b : Body) (component : RagPaidComponent) (record : FamilyRecord) : ReviewContext :=
  ⟨b.authorityUuid,s.environment,component,record.identity,record.state,record.stateVersion,b.globalSafetyGeneration,
    hasHistoricalBlocker b component⟩

/-- `_record` -/
def newRecord (p : AuthorizedProviderPolicySnapshot) (generation : Nat) (reference : Text) : FamilyRecord :=
  ⟨p.identity,p.authorizedPolicySnapshotHmac,generation,none,some reference,.ready,1⟩

/-- What a call of `_mutate` asks for. -/
structure Mutation where
  component : RagPaidComponent
  kind : TransitionKind
  newState : SafetyState
  allowed : List SafetyState
  command : Option (Nat × ReviewedOperation)
  actorSubjectHmac : Option Text
  blocker : Option (BlockerCategory × Nat × Nat × Nat × Usd)
  snapshot : Option AuthorizedProviderPolicySnapshot
  supersession : Bool
  now : Text

/-- `_consume` of a command: it is spent before it is checked. -/
def consume (s : Service) (index : Nat) (operation : ReviewedOperation) (context : ReviewContext)
    (successor : Option AuthorizedProviderPolicySnapshot) : SafetyM CommandPayload := do
  let w ← get
  let command ← present w.commands[index]? .refused
  require (!command.consumed) .refused
  set { w with commands := w.commands.set index { command with consumed := true } }
  let expected ← present (commandHmac s s.secret command.payload) .refused
  require (command.hmac = expected ∧ command.payload.context = context ∧ command.payload.operation = operation ∧
    command.payload.successor = successor) .refused
  return command.payload

/-- `_blocker_agent_run_hmac` -/
def blockerAgentRunHmac (s : Service) (agentRunId : Nat) : Option Text :=
  s.identityHmac (text "rag-provider-blocker-agent-run:v1") (text "rag-provider-safety:v1")
    (.dict [(text "agent_run_id",.int agentRunId)])

/-- The policy of a record that a transition changes; a rebind cannot change the identity of the family. -/
def mutatedPolicy (m : Mutation) (target : FamilyRecord) : Option Text :=
  match m.snapshot with
  | none => some target.authorizedPolicySnapshotHmac
  | some p => if p.identity = target.identity then some p.authorizedPolicySnapshotHmac else none

/-- The first blocker of a record that a transition changes: the one that it has, or the one of the transition. -/
def mutatedBlocker (s : Service) (m : Mutation) (target : FamilyRecord) : Option (Option FirstBlocker) :=
  match m.blocker, target.firstBlocker with
  | some (category,agentRunId,_), none => (blockerAgentRunHmac s agentRunId).map fun run => some ⟨run,category,m.now⟩
  | _, known => some known

/-- The target record of a transition that is no supersession. -/
def mutatedRecord (s : Service) (m : Mutation) (reference : Option Text) (generation : Nat) (target : FamilyRecord) :
    Option FamilyRecord := do
  let policy ← mutatedPolicy m target
  let firstBlocker ← mutatedBlocker s m target
  some
    { target with
      authorizedPolicySnapshotHmac := policy
      familySafetyGeneration := generation
      firstBlocker
      reviewedTransitionReferenceHmac := reference
      state := m.newState
      stateVersion := target.stateVersion+1 }

def changeRecord (records : List FamilyRecord) (identity : FamilyIdentity) (record : FamilyRecord) : List FamilyRecord :=
  records.map fun f => if f.identity = identity then record else f

def sortRecords (records : List FamilyRecord) : List FamilyRecord :=
  records.insertionSort fun f g => f.identity.tuple ≤ g.identity.tuple

/-- The body that a transition writes, none where it raises. -/
def mutatedBody (s : Service) (m : Mutation) (reference : Text) (b : Body) : Option Body := do
  let target ← b.activeRecord m.component
  let generation := b.globalSafetyGeneration+1
  if m.supersession then
    let p ← m.snapshot
    if p.identity.component ≠ m.component ∨ p.identity ∈ b.familyRecords.map (·.identity) then none
    else
      some
        { b with
          activeFamilyByComponent := b.activeFamilyByComponent.set m.component p.identity
          familyRecords := sortRecords (b.familyRecords++[newRecord p generation reference])
          globalSafetyGeneration := generation }
  else
    let record ← mutatedRecord s m (some reference) generation target
    some
      { b with
        familyRecords := changeRecord b.familyRecords target.identity record
        globalSafetyGeneration := generation }

/-- The overrun columns of a blocker. -/
def Mutation.overrun (m : Mutation) : Option Overrun :=
  m.blocker.map fun (_,agentRunId,inputTokens,outputTokens,cost) => ⟨agentRunId,inputTokens,outputTokens,cost,m.now⟩

def Mutation.input (m : Mutation) (reference : Text) (actor : Option Text) : TransitionInput :=
  ⟨m.component,m.kind,reference,actor,m.blocker.map (·.2.1),m.snapshot,m.supersession,m.overrun,m.now⟩

/-- The body that the database alone is taken to when the file cannot be written. -/
def remediatedBody (m : Mutation) (reference : Text) (b : Body) : Option Body := do
  let target ← b.activeRecord m.component
  let generation := b.globalSafetyGeneration+1
  some
    { b with
      familyRecords := changeRecord b.familyRecords target.identity
        { target with
          familySafetyGeneration := generation
          reviewedTransitionReferenceHmac := some reference
          state := .blockedRemediation
          stateVersion := target.stateVersion+1 }
      globalSafetyGeneration := generation }

/-- The digest of the event that `_commit_minimal_remediation` records in place of a file. -/
def remediationDigest (s : Service) (m : Mutation) (actor : Option Text) (old : Latch s) : Option Text := do
  let canonical ← (Fingerprints.canonicalJsonBytes s.nfc s.limits (.dict [
    (text "authority_uuid",.str old.body.authorityUuid),(text "component",.str (componentName m.component)),
    (text "external_envelope_digest",.str old.envelopeDigest),
    (text "global_safety_generation",.int (old.body.globalSafetyGeneration+1)),
    (text "incident_reference_hmac",(actor.map .str).getD .null),
    (text "state",.str SafetyState.blockedRemediation.name)])).toOption
  some (s.sha256 ("paraworks:provider-safety-db-only-remediation:v1\x00".toUTF8++canonical))

/-- The rows that `_commit_minimal_remediation` commits, none where it raises. -/
def remediationRows (s : Service) (m : Mutation) (reference : Text) (actor : Option Text) (old : Latch s) (db : Database) :
    Option Database := do
  let new ← remediatedBody m reference old.body
  let digest ← remediationDigest s m actor old
  commitTransition s
    { m.input reference actor with kind := .blockRemediation, snapshot := none, supersession := false } old new digest db

/-- `_commit_minimal_remediation` -/
def commitMinimalRemediation (s : Service) (m : Mutation) (reference : Text) (actor : Option Text) (old : Latch s)
    (failure : Failure) : SafetyM Unit := do
  let record ← present (old.body.activeRecord m.component) .refused
  if record.state = .ready then
    let w ← get
    commitRows (remediationRows s m reference actor old w.db) failure

/-- The reference and the actor of a transition: those of its command, which it spends, or for a block the reference of
the family that it blocks. -/
def authorize (s : Service) (m : Mutation) (b : Body) (record : FamilyRecord) : SafetyM (Text × Option Text) :=
  match m.command with
  | none => do
    let reference ← present record.reviewedTransitionReferenceHmac .refused
    return (reference,m.actorSubjectHmac)
  | some (index,operation) => do
    let payload ← consume s index operation (reviewContextFrom s b m.component record) m.snapshot
    return (payload.reviewedGateReferenceHmac,some payload.actorSubjectHmac)

/-- The envelope of a transition: the body that it writes, under the keys of the one that it read. -/
def mutatedEnvelope (s : Service) (m : Mutation) (reference : Text) (old : Latch s) : Option Envelope := do
  let body ← mutatedBody s m reference old.body
  let signed := old.envelope.signedPayload
  s.wrap body signed.fingerprintKeyVersion signed.fingerprintKeyMaterialVerifier

/-- What a block does when the file cannot be written. -/
def remediate (s : Service) (m : Mutation) (reference : Text) (actor : Option Text) (old : Latch s) (failure : Failure) :
    SafetyM Unit :=
  if m.blocker.isSome then commitMinimalRemediation s m reference actor old failure else pure ()

/-- The end of a transition: the new file is read back, and the database follows it. -/
def followFile (s : Service) (m : Mutation) (reference : Text) (actor : Option Text) (old : Latch s) (failure : Failure) :
    SafetyM Unit := do
  let w ← get
  let file ← present w.file .refused
  let new ← present (readUnlocked s file) .refused
  commitRows (commitTransition s (m.input reference actor) old new.body new.envelopeDigest w.db) failure
  discard (readMatched s)

/-- `_mutate` -/
def mutate (s : Service) (m : Mutation) (failures : Failures) : SafetyM Unit := do
  let old ← readMatched s
  let record ← present (old.body.activeRecord m.component) .refused
  let (reference,actor) ← authorize s m old.body record
  require (record.state ∈ m.allowed) .refused
  let envelope ← present (mutatedEnvelope s m reference old) .refused
  tryCatch (replaceFile (replaceUnlocked s envelope) failures.replace) fun e => do
    remediate s m reference actor old failures.remediation
    throw e
  followFile s m reference actor old failures.commit

/-- `mark_rebind_required` -/
def markRebindRequired (component : RagPaidComponent) (command : Nat) (now : Text) : Mutation :=
  ⟨component,.rebindRequired,.rebindRequired,[.ready],some (command,.markRebindRequired),none,none,none,false,now⟩

/-- `reviewed_rebind` -/
def reviewedRebind (component : RagPaidComponent) (command : Nat) (snapshot : AuthorizedProviderPolicySnapshot)
    (now : Text) : Mutation :=
  ⟨component,.rebind,.ready,[.rebindRequired],some (command,.rebind),none,none,some snapshot,false,now⟩

/-- `reviewed_reset` -/
def reviewedReset (component : RagPaidComponent) (command : Nat) (now : Text) : Mutation :=
  ⟨component,.reset,.ready,[.blockedOverrun,.blockedRemediation],some (command,.reset),none,none,none,false,now⟩

/-- `reviewed_supersession` -/
def reviewedSupersession (component : RagPaidComponent) (command : Nat) (successor : AuthorizedProviderPolicySnapshot)
    (now : Text) : Mutation :=
  ⟨component,.supersession,.ready,[.ready,.rebindRequired,.blockedOverrun,.blockedRemediation],
    some (command,.supersession),none,none,some successor,true,now⟩

/-- The operation of a reviewed command, for the component that `_bound_component` finds in it. -/
def reviewed (s : Service) (command : Nat) (mutation : RagPaidComponent → Nat → Mutation) (failures : Failures) :
    SafetyM Unit := do
  let w ← get
  let bound ← present w.commands[command]? .refused
  require (!bound.consumed) .refused
  mutate s (mutation bound.payload.context.component command) failures

/-- What a paid call that must block its family reports. -/
structure BlockInput where
  component : RagPaidComponent
  category : BlockerCategory
  agentRunId : Nat
  inputTokens : Nat
  outputTokens : Nat
  costUsd : Usd
  now : Text

/-- The state that a blocker of a category leads to. -/
def BlockerCategory.blockedState : BlockerCategory → SafetyState
  | providerUsageOverrun => .blockedOverrun
  | _ => .blockedRemediation

/-- `_incident_reference` -/
def incidentReference (s : Service) (b : BlockInput) : Option Text :=
  s.identityHmac (text "rag-provider-safety-incident-reference:v1") (text "rag-provider-safety:v1") (.dict [
    (text "agent_run_id",.int b.agentRunId),(text "component",.str (componentName b.component)),
    (text "category",.str b.category.name),(text "state",.str b.category.blockedState.name)])

def blockMutation (b : BlockInput) (reference : Text) : Mutation :=
  ⟨b.component,if b.category = .providerUsageOverrun then .blockOverrun else .blockRemediation,b.category.blockedState,
    [.ready],none,some reference,some (b.category,b.agentRunId,b.inputTokens,b.outputTokens,b.costUsd),none,false,b.now⟩

/-- `_block`, of `block_overrun` and `block_remediation` -/
def block (s : Service) (b : BlockInput) (failures : Failures) : SafetyM Unit := do
  require (0 < b.agentRunId) .refused
  let reference ← present (incidentReference s b) .refused
  require (lowerHmac reference) .refused
  mutate s (blockMutation b reference) failures

/-! ## Bootstrap -/

def bootstrapIdentity : RagPaidComponent → FamilyIdentity
  | .queryEmbedding => ⟨.queryEmbedding,text "text-embedding-3-small",text "openai",text "dimensions:1536"⟩
  | .answerGeneration => ⟨.answerGeneration,text "gpt-5.4-mini-2026-03-17",text "openai",text "reasoning:none"⟩

/-- `_BOOTSTRAP_FAMILIES` -/
def isBootstrapFamily (component : RagPaidComponent) (p : AuthorizedProviderPolicySnapshot) : Bool :=
  match component with
  | .queryEmbedding =>
    p.identity = bootstrapIdentity .queryEmbedding ∧
      p.authorizedModelConfigVersion = text "rag-query-embedding-config:v1" ∧
      p.authorizedCostPolicyVersion = text "rag-query-embedding-cost:v1" ∧
      p.authorizedTokenEstimatorVersion = text "openai-cl100k-text-embedding-3-small:v1"
  | .answerGeneration =>
    p.identity = bootstrapIdentity .answerGeneration ∧
      p.authorizedModelConfigVersion = text "rag-answer-model-config:v1" ∧
      p.authorizedCostPolicyVersion = text "rag-answer-cost:v1" ∧
      p.authorizedTokenEstimatorVersion = text "openai-o200k-rag-answer:v1"

/-- The two snapshots of a bootstrap, in the order of the components. -/
structure Snapshots where
  query : AuthorizedProviderPolicySnapshot
  answer : AuthorizedProviderPolicySnapshot
  deriving DecidableEq

/-- `_validate_snapshots` -/
def validateSnapshots (p : Snapshots) : Bool :=
  p.query.fingerprintKeyVersion = p.answer.fingerprintKeyVersion ∧
    p.query.fingerprintKeyMaterialVerifier = p.answer.fingerprintKeyMaterialVerifier ∧
    isBootstrapFamily .queryEmbedding p.query = true ∧ isBootstrapFamily .answerGeneration p.answer = true

/-- `_db_is_empty_and_unattempted` -/
def dbIsEmptyAndUnattempted (w : World) : Bool :=
  w.db.authority = none ∧ w.db.readiness = [] ∧ w.db.transitions = [] ∧ w.attempted = 0

def bootstrapBody (s : Service) (p : Snapshots) (uuid reference : Text) : Body :=
  ⟨⟨p.answer.identity,p.query.identity⟩,uuid,s.environment,
    sortRecords [newRecord p.query 0 reference,newRecord p.answer 0 reference],0⟩

/-- `_insert_bootstrap_rows` -/
def insertBootstrapRows (s : Service) (latch : Latch s) (p : Snapshots) (reference : Text) (db : Database) :
    Option Database :=
  let rows := [successorRow db.nextReadinessId p.query 0 reference,successorRow (db.nextReadinessId+1) p.answer 0 reference]
  let after : Database :=
    { db with
      authority := some ⟨latch.body.authorityUuid,s.environment,0,latch.envelopeDigest,
        latch.envelope.signedPayload.fingerprintKeyVersion,
        latch.envelope.signedPayload.fingerprintKeyMaterialVerifier⟩
      readiness := db.readiness++rows
      transitions := db.transitions++[⟨0,.bootstrap,none,latch.envelopeDigest,reference,none,none⟩] }
  if after.Consistent then some after else none

/-- `bootstrap`; the UUID is the one that `uuid4` gives. -/
def bootstrap (s : Service) (p : Snapshots) (uuid reference : Text) (failures : Failures) : SafetyM Unit := do
  require (validateSnapshots p) .refused
  require (lowerHmac reference) .refused
  let w ← get
  require w.file.isNone .refused
  require (dbIsEmptyAndUnattempted w) .refused
  let envelope ← present (s.wrap (bootstrapBody s p uuid reference) p.query.fingerprintKeyVersion
    p.query.fingerprintKeyMaterialVerifier) .refused
  replaceFile (replaceUnlocked s envelope) failures.replace
  let w ← get
  let file ← present w.file .refused
  let latch ← present (readUnlocked s file) .refused
  commitRows (insertBootstrapRows s latch p reference w.db) failures.commit
  let w ← get
  require (matchDatabaseRows s latch w.db) .refused

/-- `_match_external_snapshots` -/
def matchExternalSnapshots (s : Service) (latch : Latch s) (p : Snapshots) : Bool :=
  latch.envelope.signedPayload.fingerprintKeyVersion = p.query.fingerprintKeyVersion ∧
    latch.envelope.signedPayload.fingerprintKeyMaterialVerifier = p.query.fingerprintKeyMaterialVerifier ∧
    ∀ q ∈ [p.query,p.answer], latch.body.activeFamilyByComponent.get q.identity.component = q.identity ∧
      (latch.body.record? q.identity).map (·.authorizedPolicySnapshotHmac) = some q.authorizedPolicySnapshotHmac

/-- The reference that both records of an untouched bootstrap share. -/
def bootstrapReference (b : Body) : Option Text :=
  match b.familyRecords with
  | [first,second] =>
    if first.reviewedTransitionReferenceHmac = second.reviewedTransitionReferenceHmac ∧
        [first,second].all (fun f => f.point = ⟨.ready,1,0⟩ ∧ f.firstBlocker = none) = true then
      first.reviewedTransitionReferenceHmac
    else none
  | _ => none

/-- `recover_partial_bootstrap` -/
def recoverPartialBootstrap (s : Service) (p : Snapshots) (failures : Failures) : SafetyM Unit := do
  require (validateSnapshots p) .refused
  let w ← get
  let file ← present w.file .refused
  let latch ← present (readUnlocked s file) .refused
  require (latch.body.globalSafetyGeneration = 0) .refused
  require (dbIsEmptyAndUnattempted w) .refused
  require (matchExternalSnapshots s latch p) .refused
  let reference ← present (bootstrapReference latch.body) .refused
  require (lowerHmac reference) .refused
  commitRows (insertBootstrapRows s latch p reference w.db) failures.commit
  discard (readMatched s)

/-! ## Readiness -/

/-- `RagProviderSafetyBinding` -/
structure Binding where
  policySnapshot : AuthorizedProviderPolicySnapshot
  authorityUuid : Text
  designatedEnvironmentId : Text
  envelopeDigest : Text
  globalSafetyGeneration : Nat
  familyStateVersion : Nat
  familySafetyGeneration : Nat
  providerSafetySnapshotHmac : Text
  deriving DecidableEq

/-- `provider_safety_snapshot_identity` of the active family -/
def snapshotIdentity (s : Service) (latch : Latch s) (record : FamilyRecord) : Option Text :=
  s.identityHmac (text "rag-provider-safety-snapshot:v1") (text "rag-provider-safety:v1") (.dict [
    (text "authority_uuid",.str latch.body.authorityUuid),
    (text "global_safety_generation",.int latch.body.globalSafetyGeneration),
    (text "active_family",recordCodec.encode record),(text "envelope_digest",.str latch.envelopeDigest)])

/-- `_binding` -/
def binding (s : Service) (latch : Latch s) (db : Database) (component : RagPaidComponent)
    (policy : AuthorizedProviderPolicySnapshot) : Option Binding := do
  if policy.identity.component ≠ component then none
  else
    let family ← latch.body.activeRecord component
    if policy.identity ≠ family.identity ∨ family.authorizedPolicySnapshotHmac ≠ policy.authorizedPolicySnapshotHmac ∨
        family.state ≠ .ready ∨ matchDatabaseRows s latch db = false then none
    else
      let row ← db.readiness.find? fun row => row.active ∧ row.snapshot.identity.component = component
      if row.snapshot ≠ policy then none
      else
        let identity ← snapshotIdentity s latch family
        some ⟨policy,latch.body.authorityUuid,s.environment,latch.envelopeDigest,latch.body.globalSafetyGeneration,
          family.stateVersion,family.familySafetyGeneration,identity⟩

/-- `require_ready`, none where it raises -/
def requireReady (s : Service) (w : World) (component : RagPaidComponent) (policy : AuthorizedProviderPolicySnapshot) :
    Option Binding := do
  let latch ← readUnlocked s (← w.file)
  binding s latch w.db component policy

/-- `review_context`, which hands out the context of a component's active family -/
def reviewContext (s : Service) (component : RagPaidComponent) : SafetyM Unit := do
  let latch ← readMatched s
  let record ← present (latch.body.activeRecord component) .refused
  modify fun w => { w with contexts := w.contexts++[reviewContextFrom s latch.body component record] }

/-- `issue` of a review authority with the secret, for a context that was handed out -/
def issueCommand (s : Service) (secret : ByteArray) (context : Nat) (operation : ReviewedOperation)
    (successor : Option AuthorizedProviderPolicySnapshot) (actor reference : Text) (acknowledged : Bool) :
    SafetyM Unit := do
  let w ← get
  let context ← present w.contexts[context]? .refused
  let command ← present (issue s secret context operation successor actor reference acknowledged) .refused
  set { w with commands := w.commands++[command] }

/-! ## Calls -/

/-- A call of the service or of a review authority, or a paid component that another part of the program attempts. -/
inductive Call where
  | bootstrap (snapshots : Snapshots) (uuid reference : Text) (failures : Failures)
  | recoverPartialBootstrap (snapshots : Snapshots) (failures : Failures)
  | reviewContext (component : RagPaidComponent)
  | issue (secret : ByteArray) (context : Nat) (operation : ReviewedOperation)
    (successor : Option AuthorizedProviderPolicySnapshot) (actor reference : Text) (acknowledged : Bool)
  | markRebindRequired (command : Nat) (now : Text) (failures : Failures)
  | reviewedRebind (command : Nat) (snapshot : AuthorizedProviderPolicySnapshot) (now : Text) (failures : Failures)
  | reviewedReset (command : Nat) (now : Text) (failures : Failures)
  | reviewedSupersession (command : Nat) (successor : AuthorizedProviderPolicySnapshot) (now : Text) (failures : Failures)
  | block (input : BlockInput) (failures : Failures)
  | attempt

def Call.program (s : Service) : Call → SafetyM Unit
  | bootstrap p uuid reference failures => ProviderSafety.bootstrap s p uuid reference failures
  | recoverPartialBootstrap p failures => ProviderSafety.recoverPartialBootstrap s p failures
  | reviewContext component => ProviderSafety.reviewContext s component
  | issue secret context operation successor actor reference acknowledged =>
    issueCommand s secret context operation successor actor reference acknowledged
  | markRebindRequired command now failures =>
    reviewed s command (fun c i => ProviderSafety.markRebindRequired c i now) failures
  | reviewedRebind command snapshot now failures =>
    reviewed s command (fun c i => ProviderSafety.reviewedRebind c i snapshot now) failures
  | reviewedReset command now failures => reviewed s command (fun c i => ProviderSafety.reviewedReset c i now) failures
  | reviewedSupersession command successor now failures =>
    reviewed s command (fun c i => ProviderSafety.reviewedSupersession c i successor now) failures
  | block input failures => ProviderSafety.block s input failures
  | attempt => modify fun w => { w with attempted := w.attempted+1 }

/-- One call, returned or raised. -/
def call (s : Service) (w : World) (c : Call) : World := finalState (c.program s) w

/-- Before anything was bootstrapped. -/
def World.initial : World := ⟨none,⟨none,[],[]⟩,0,[],[]⟩

end ParaWorks.ProviderSafety
