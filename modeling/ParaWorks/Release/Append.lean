import ParaWorks.Release.Authority

/-!
# Appending a transition

`RagReleaseLedger.append` over the authority's state, and the runs of all four operations. Of the mutation set the
authorization row is modelled; the checks of its other rows are a verdict that comes with the set.
-/

namespace ParaWorks.Release

open Lib

/-! ## Inputs -/

/-- `RagProviderSafetyIncidentPlan`. -/
structure ProviderIncident where
  oldEnvelopeDigest : Hmac
  newEnvelope : Provider
  deriving DecidableEq

structure AppendInput where
  payload : Payload
  /-- The planned image of the authorization row, or the observed one. -/
  authorization : Authorization
  /-- The peers after the planned mutations. -/
  peers : List Text
  incident : Option ProviderIncident
  /-- The projection and roster checks of the peers pass. -/
  peersAccepted : Bool
  deriving DecidableEq

/-! ## The checks of `append` -/

def isOf (p : Payload) (row : Authorization) : Bool :=
  row.ledgerUuid = p.ledgerUuid && row.ledgerEpoch = p.ledgerEpoch && row.approvalIdHmac = p.approvalIdHmac

/-- The locked before-image of the authorization. -/
def authorizationBefore (tables : Tables) (p : Payload) : Option Authorization := tables.authorizations.find? (isOf p)

/-- The provider as the append leaves it. -/
def providerAfter (s : ReleaseState) (input : AppendInput) : Provider :=
  match input.incident with
  | none => s.provider
  | some incident => incident.newEnvelope

def isDriftKind (kind : TransitionKind) : Bool :=
  kind = .authorizationAbortControl ∨ kind = .authorizationAbortComponentSnapshot ∨ kind = .authorizationAbortFinal ∨
    kind = .authorizationAbortSnapshot

/-- What `assert_payload_projection` asks of the provider by kind. -/
def providerAccepts (kind : TransitionKind) (approved : Hmac) (before after : Provider) : Bool :=
  if isDriftKind kind then !(after.envelopeDigest = approved && after.ready)
  else if kind = .authorizationAbortComponent then before.envelopeDigest = approved && after.envelopeDigest ≠ approved
  else if kind = .authorizationAbortExecutionCrash ∨ kind = .authorizationAbortCorpusDrift then true
  else after.envelopeDigest = approved && after.ready

/-- The authorization part of `assert_payload_projection`. -/
def projectionMatches (s : ReleaseState) (input : AppendInput) : Bool :=
  let p := input.payload
  let before := authorizationBefore s.rows p
  let after := input.authorization
  before.map (·.state) = p.authorizationStateBefore && after.state = p.authorizationStateAfter && isOf p after &&
  (p.transitionKind ≠ .authorizationBootstrap || after.providerSafetyEnvelopeDigest = p.providerSafetyEnvelopeDigest) &&
  before.all (·.providerSafetyEnvelopeDigest = after.providerSafetyEnvelopeDigest) &&
  (providerAfter s input).envelopeDigest = p.providerSafetyEnvelopeDigest &&
  providerAccepts p.transitionKind after.providerSafetyEnvelopeDigest s.provider (providerAfter s input)

/-- The kinds that may end an authorization whose provider has drifted. -/
def isDriftAbortKind (kind : TransitionKind) : Bool :=
  isDriftKind kind ∨ kind = .authorizationAbortCorpusDrift ∨ kind = .authorizationAbortExecutionCrash

/-- `_provider_drift_abort_binding`. -/
def providerDriftAbort (tables : Tables) (p : Payload) : Option ProviderDriftAbort :=
  if isDriftAbortKind p.transitionKind = true ∧ p.authorizationStateBefore = some .started then
    (authorizationBefore tables p).bind fun before =>
      if before.providerSafetyEnvelopeDigest = p.providerSafetyEnvelopeDigest then none
      else some ⟨p.transitionKind,p.ledgerUuid,p.ledgerEpoch,p.approvalIdHmac,before.providerSafetyEnvelopeDigest,
        p.providerSafetyEnvelopeDigest⟩
  else none

/-! ## The mutations -/

/-- The planned mutations of the release tables. -/
def mutate (tables : Tables) (input : AppendInput) : Tables :=
  { tables with
    authorizations :=
      if (authorizationBefore tables input.payload).isNone then tables.authorizations++[input.authorization]
      else tables.authorizations.map fun row => if isOf input.payload row then input.authorization else row
    peers := input.peers }

section append

variable (a : Authority)

def nextMarker (current : Marker) (p : Payload) (digest : Hmac) : Marker :=
  { current with generation := p.toGeneration, lastTransitionDigest := some digest }

/-- The row that the update is meant for. -/
def isCurrentRow (current : Marker) (row : LedgerRow) : Bool :=
  row.ledgerUuid = current.ledgerUuid && row.ledgerEpoch = current.ledgerEpoch &&
    row.generation = current.generation && row.lastTransitionDigest = current.lastTransitionDigest &&
    row.markerFileDigest = a.fileDigest current

def LedgerRow.advance (next : Marker) (row : LedgerRow) : LedgerRow :=
  { row with
    generation := next.generation
    lastTransitionDigest := next.lastTransitionDigest
    markerFileDigest := a.fileDigest next }

/-- The update of the ledger row and the insert of the transition. -/
def recordTransition (tables : Tables) (current next : Marker) (p : Payload) (digest : Hmac) :
    Except ReleaseError Tables :=
  if tables.ledgers.countP (isCurrentRow a current) ≠ 1 ∨
      (tables.transitions.any fun row => row.ledgerUuid = current.ledgerUuid && row.ledgerEpoch = current.ledgerEpoch &&
        row.generation = p.toGeneration) = true then .error .generationCasFailed
  else .ok { tables with
    ledgers := tables.ledgers.map fun row => if isCurrentRow a current row then row.advance a next else row
    transitions := tables.transitions++
      [⟨current.ledgerUuid,current.ledgerEpoch,p.toGeneration,p.transitionKind,digest,p⟩] }

/-- What `append` checks before its first write, and the marker it builds. -/
def prepareAppend (s : ReleaseState) (input : AppendInput) : Except ReleaseError (Marker × Hmac) :=
  let p := input.payload
  match validateTransitionPayload a p with
  | none => .error .payloadInvalid
  | some digest =>
    if (p.transitionKind = .authorizationAbortComponent) ≠ (input.incident.isSome = true) then
      .error .incidentCapabilityRequired
    else if input.incident.any (·.newEnvelope.envelopeDigest ≠ p.providerSafetyEnvelopeDigest) = true then
      .error .incidentDiffers
    else match s.marker with
      | none => .error .markerUnavailable
      | some m =>
        if barrierHeld s = false then .error .providerUnavailable
        else match parse a m with
          | .error e => .error e
          | .ok current =>
            match inspectLocked a s.tables current with
            | .error e => .error e
            | .ok current =>
              if p.ledgerUuid ≠ current.ledgerUuid ∨ p.ledgerEpoch ≠ current.ledgerEpoch ∨
                  p.validationDatabaseIdentityHmac ≠ current.validationDatabaseIdentityHmac ∨
                  p.fromGeneration ≠ current.generation then .error .generationCasFailed
              else if input.incident.any (·.oldEnvelopeDigest ≠ s.provider.envelopeDigest) = true then
                .error .incidentDiffers
              else if projectionMatches s input = false ∨ input.peersAccepted = false then .error .projectionDiffers
              else if revalidateProvider s.rows.authorizations s.provider.envelopeDigest
                  (providerDriftAbort s.rows p) = false then .error .incidentAuthorityDiffers
              else (parse a (nextMarker current p digest)).map fun _ => (current,digest)

/-- The provider latch once the incident, if any, is applied; its database peer follows with the commit. -/
def latched (s : ReleaseState) (input : AppendInput) : ReleaseState :=
  { s with latch := (providerAfter s input).envelopeDigest }

/-- `append`. -/
def append (s : ReleaseState) (stop : Stop) (input : AppendInput) : ReleaseState × Except ReleaseError Marker :=
  match prepareAppend a s input with
  | .error e => (s,.error e)
  | .ok (current,digest) =>
    if stop = .refused then (s,.error .stopped)
    else if stop = .afterIncident then (latched s input,.error .stopped)
    else
      let drift := providerDriftAbort s.rows input.payload
      let mutated := mutate s.rows input
      let next := nextMarker current input.payload digest
      let provider := providerAfter s input
      if revalidateProvider mutated.authorizations provider.envelopeDigest drift = false then
        (latched s input,.error .incidentAuthorityDiffers)
      else if stop = .afterMarker then ({ latched s input with marker := some next },.error .stopped)
      else match recordTransition a mutated current next input.payload digest with
        | .error e => ({ latched s input with marker := some next },.error e)
        | .ok tables =>
          match inspectLocked a (some tables) next with
          | .error e => ({ latched s input with marker := some next },.error e)
          | .ok next =>
            ({ marker := some next, tables := some tables, latch := provider.envelopeDigest, provider := provider },.ok next)

end append

/-! ## Runs -/

inductive ReleaseCommand where
  | initializeLedger (stop : Stop) (review : Review) (ledgerUuid identityUuid : Text)
  | append (stop : Stop) (input : AppendInput)
  | rebootstrap (stop : Stop) (review : Review)
  | disasterInitialize (stop : Stop) (review : Review) (ledgerUuid identityUuid : Text)
  /-- the provider's own administration writes a new envelope and its database peer -/
  | changeProvider (provider : Provider)

/-- The release state, the ledger UUIDs drawn so far, every marker published and every review consumed by a commit. -/
structure ReleaseSystem where
  state : ReleaseState
  uuids : List Text
  published : List Marker

/-- A marker is published when the file has changed. -/
def publishedBy (s : ReleaseState) (s' : ReleaseState) : List Marker :=
  if s'.marker = s.marker then [] else s'.marker.toList

section runs

variable (a : Authority)

/-- One operation and what it answers; the provider's administration answers nothing. -/
def perform (s : ReleaseState) : ReleaseCommand → ReleaseState × Option (Except ReleaseError Marker)
  | .initializeLedger stop review ledgerUuid identityUuid =>
    let result := initializeLedger a s stop review ledgerUuid identityUuid
    (result.1,some result.2)
  | .append stop input =>
    let result := append a s stop input
    (result.1,some result.2)
  | .rebootstrap stop review =>
    let result := rebootstrap a s stop review
    (result.1,some result.2)
  | .disasterInitialize stop review ledgerUuid identityUuid =>
    let result := disasterInitialize a s stop review ledgerUuid identityUuid
    (result.1,some result.2)
  | .changeProvider provider => ({ s with latch := provider.envelopeDigest, provider := provider },none)

def drawnBy : ReleaseCommand → List Text
  | .initializeLedger _ _ ledgerUuid _ | .disasterInitialize _ _ ledgerUuid _ => [ledgerUuid]
  | _ => []

def step (s : ReleaseSystem) (c : ReleaseCommand) : ReleaseSystem :=
  let state := (perform a s.state c).1
  ⟨state,drawnBy c++s.uuids,s.published++publishedBy s.state state⟩

end runs

def ReleaseSystem.initial (provider : Provider) : ReleaseSystem :=
  ⟨⟨none,none,provider.envelopeDigest,provider⟩,[],[]⟩

end ParaWorks.Release
