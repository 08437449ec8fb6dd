import ParaWorks.Lib.Text
import ParaWorks.Lib.Transition

/-!
# The release authority

`RagReleaseAuthority` over the marker file and the `rag_live_gate` tables of one database. A marker stands for its
signed and canonical bytes. The provider-safety envelope is a latch file with a peer in the same database.
-/

namespace ParaWorks.Release

open Lib

/-! ## Values -/

def lowerHmac (t : Text) : Bool := t.length = 64 && t.all (· ∈ text "0123456789abcdef")

/-- What `require_lower_hmac` accepts; SHA-256 digests have the same form. -/
abbrev Hmac := { t : Text // lowerHmac t = true }

structure DatabaseIdentity where
  databaseName : Text
  databaseOid : Nat
  deriving DecidableEq

inductive BootstrapOperation where
  | releaseLedgerInit
  | releaseLedgerRebootstrap
  | releaseLedgerDisasterInit
  deriving DecidableEq

/-- The signed payload of the marker file. -/
structure Marker where
  designatedEnvironmentIdHmac : Hmac
  designatedHostIdHmac : Hmac
  generation : Nat
  lastTransitionDigest : Option Hmac
  ledgerEpoch : Nat
  ledgerUuid : Text
  predecessorMarkerDigest : Option Hmac
  rebootstrapReasonHmac : Option Hmac
  bootstrapReviewEnvelopeHmac : Hmac
  bootstrapReviewNonceHmac : Hmac
  bootstrapOperation : BootstrapOperation
  validationDatabaseIdentityHmac : Hmac
  validationDatabaseLocatorHmac : Hmac
  fingerprintKeyVersion : Text
  fingerprintKeyMaterialVerifier : Hmac
  deriving DecidableEq

/-! ## Tables -/

structure LedgerRow where
  ledgerUuid : Text
  ledgerEpoch : Nat
  generation : Nat
  lastTransitionDigest : Option Hmac
  predecessorMarkerDigest : Option Hmac
  rebootstrapReasonHmac : Option Hmac
  markerFileDigest : Hmac
  bootstrapReviewEnvelopeHmac : Hmac
  bootstrapReviewNonceHmac : Hmac
  bootstrapOperation : BootstrapOperation
  fingerprintKeyVersion : Text
  fingerprintKeyMaterialVerifier : Hmac
  designatedEnvironmentIdHmac : Hmac
  designatedHostIdHmac : Hmac
  validationDatabaseIdentityHmac : Hmac
  validationDatabaseLocatorHmac : Hmac
  validationDatabaseIdentityUuid : Text
  validationDatabaseOid : Nat
  deriving DecidableEq

inductive AuthorizationState where
  | unused
  | started
  | complete
  | finishedFailed
  | abortedCorpusDrift
  | abortedExecutionCrash
  | abortedOverrun
  | abortedProviderSafety
  deriving DecidableEq

structure Authorization where
  ledgerUuid : Text
  ledgerEpoch : Nat
  approvalIdHmac : Hmac
  state : AuthorizationState
  providerSafetyEnvelopeDigest : Hmac
  deriving DecidableEq

inductive TransitionKind where
  | authorizationBootstrap
  | caseClaim
  | componentClaim
  | componentOutcome
  | caseSafeOutcome
  | caseOutcome
  | caseFailure
  | authorizationAbortControl
  | authorizationAbortComponentSnapshot
  | authorizationAbortFinal
  | authorizationAbortSnapshot
  | authorizationAbortComponent
  | authorizationAbortCorpusDrift
  | authorizationAbortExecutionCrash
  | authorizationComplete
  | authorizationFinishFailed
  | authorizationFinishQualityFailed
  deriving DecidableEq

inductive Outcome where
  | componentSucceeded
  | noMatch
  | hiddenOnly
  | safetyFilterEmpty
  | supported
  | insufficientEvidence
  | evidenceUnavailable
  | budgetExceeded
  | retrieverUnavailable
  | modelUnavailable
  | modelProviderFailed
  | structuredOutputInvalid
  | citationValidationFailed
  | persistenceFailed
  | unexpectedInternalError
  | providerSafetyUnavailable
  | providerUsageOverrun
  | providerResponseIdentityInvalid
  | providerEmbeddingPayloadInvalid
  | liveCorpusSnapshotChanged
  | abandonedUnknown
  | qualityGateGreen
  | ordinaryExecutionFailed
  | executionContractFailed
  | qualityGateFailed
  deriving DecidableEq

/-- The transition payload; what only its peers are compared with is one field. -/
structure Payload where
  transitionKind : TransitionKind
  outcome : Option Outcome
  ledgerUuid : Text
  ledgerEpoch : Nat
  fromGeneration : Nat
  toGeneration : Nat
  approvalIdHmac : Hmac
  authorizationStateBefore : Option AuthorizationState
  authorizationStateAfter : AuthorizationState
  providerSafetyEnvelopeDigest : Hmac
  validationDatabaseIdentityHmac : Hmac
  peerFields : Text
  deriving DecidableEq

/-- A row of `rag_live_gate_transitions`, its canonical bytes decoded. -/
structure TransitionRow where
  ledgerUuid : Text
  ledgerEpoch : Nat
  generation : Nat
  transitionKind : TransitionKind
  transitionDigest : Hmac
  payload : Payload
  deriving DecidableEq

/-- The six tables; cases, dispatches and quality reports are the peers of an authorization. -/
structure Tables where
  ledgers : List LedgerRow
  authorizations : List Authorization
  peers : List Text
  transitions : List TransitionRow
  deriving DecidableEq

def Tables.empty : Tables := ⟨[],[],[],[]⟩

structure Provider where
  envelopeDigest : Hmac
  ready : Bool
  deriving DecidableEq

/-- The marker file, the tables (`none` when the schema is absent), the provider's latch file and its database peer. -/
structure ReleaseState where
  marker : Option Marker
  tables : Option Tables
  latch : Hmac
  provider : Provider
  deriving DecidableEq

def ReleaseState.rows (s : ReleaseState) : Tables := s.tables.getD .empty

/-! ## The authority -/

/-- What an authority is configured with, and its keyed digests. -/
structure Authority where
  keyVersion : Text
  keyVerifier : Hmac
  environmentHmac : Hmac
  hostHmac : Hmac
  databaseIdentity : DatabaseIdentity
  databaseHmac : DatabaseIdentity → Text → Hmac
  databaseLocatorHmac : DatabaseIdentity → Hmac
  fileDigest : Marker → Hmac
  transitionDigest : Payload → Hmac
  /-- The null matrix, the peer matrix and the other shape rules of a payload. -/
  matrixAccepts : Payload → Bool

inductive ReleaseError where
  | alreadyExists
  | markerUnavailable
  | markerInvalid
  | providerUnavailable
  | schemaInconsistent
  | databasePeerMissing
  | identityDiffers
  | historyInvalid
  | nonceBound
  | nonceConsumed
  | healthy
  | requiresRebootstrap
  | refusesDisasterInit
  | incidentAuthorityDiffers
  | ledgerInsertFailed
  | payloadInvalid
  | incidentCapabilityRequired
  | incidentDiffers
  | generationCasFailed
  | projectionDiffers
  | stopped
  deriving DecidableEq

/-- `_parse`, of bytes that the authority has signed. -/
def Marker.wellFormed (m : Marker) : Bool :=
  0 < m.ledgerEpoch && decide (m.generation = 0) == m.lastTransitionDigest.isNone &&
  match m.bootstrapOperation with
  | .releaseLedgerInit =>
    m.ledgerEpoch = 1 && m.predecessorMarkerDigest.isNone && m.rebootstrapReasonHmac.isNone
  | .releaseLedgerDisasterInit =>
    m.ledgerEpoch = 1 && m.predecessorMarkerDigest.isNone && m.rebootstrapReasonHmac.isSome
  | .releaseLedgerRebootstrap =>
    1 < m.ledgerEpoch && m.predecessorMarkerDigest.isSome && m.rebootstrapReasonHmac.isSome

/-- The state pairs of `_validate_transition_matrix`. -/
def allowedStates (kind : TransitionKind) (outcome : Option Outcome) :
    List (Option AuthorizationState × AuthorizationState) :=
  match kind with
  | .authorizationBootstrap => [(none,.unused)]
  | .caseClaim => [(some .unused,.started),(some .started,.started)]
  | .componentClaim | .componentOutcome | .caseFailure | .caseSafeOutcome | .caseOutcome => [(some .started,.started)]
  | .authorizationAbortComponent =>
    [(some .started,if outcome = some .providerUsageOverrun then .abortedOverrun else .abortedProviderSafety)]
  | .authorizationAbortControl | .authorizationAbortComponentSnapshot | .authorizationAbortFinal =>
    [(some .started,.abortedProviderSafety)]
  | .authorizationAbortSnapshot => [(some .unused,.abortedProviderSafety),(some .started,.abortedProviderSafety)]
  | .authorizationAbortCorpusDrift => [(some .unused,.abortedCorpusDrift),(some .started,.abortedCorpusDrift)]
  | .authorizationAbortExecutionCrash => [(some .started,.abortedExecutionCrash)]
  | .authorizationComplete => [(some .started,.complete)]
  | .authorizationFinishFailed | .authorizationFinishQualityFailed => [(some .started,.finishedFailed)]

/-- `_OUTCOMES`. -/
def allowedOutcomes : TransitionKind → List (Option Outcome)
  | .authorizationBootstrap | .caseClaim | .componentClaim => [none]
  | .componentOutcome => [some .componentSucceeded]
  | .caseSafeOutcome => [some .noMatch,some .hiddenOnly,some .safetyFilterEmpty]
  | .caseOutcome => [some .supported,some .insufficientEvidence,some .evidenceUnavailable]
  | .caseFailure =>
    [some .budgetExceeded,some .retrieverUnavailable,some .modelUnavailable,some .modelProviderFailed,
      some .structuredOutputInvalid,some .citationValidationFailed,some .persistenceFailed,some .unexpectedInternalError]
  | .authorizationAbortControl | .authorizationAbortComponentSnapshot | .authorizationAbortFinal
  | .authorizationAbortSnapshot => [some .providerSafetyUnavailable]
  | .authorizationAbortComponent =>
    [some .providerUsageOverrun,some .providerResponseIdentityInvalid,some .providerEmbeddingPayloadInvalid,
      some .providerSafetyUnavailable]
  | .authorizationAbortCorpusDrift => [some .liveCorpusSnapshotChanged]
  | .authorizationAbortExecutionCrash => [some .abandonedUnknown]
  | .authorizationComplete => [some .qualityGateGreen]
  | .authorizationFinishFailed => [some .ordinaryExecutionFailed,some .executionContractFailed]
  | .authorizationFinishQualityFailed => [some .qualityGateFailed]

section authority

variable (a : Authority)

def parse (m : Marker) : Except ReleaseError Marker :=
  if m.fingerprintKeyVersion = a.keyVersion ∧ m.fingerprintKeyMaterialVerifier = a.keyVerifier ∧
    m.wellFormed = true then .ok m else .error .markerInvalid

/-- `validate_transition_payload`, with the digest of the payload. -/
def validateTransitionPayload (p : Payload) : Option Hmac :=
  if p.outcome ∈ allowedOutcomes p.transitionKind ∧ 0 < p.ledgerEpoch ∧ p.toGeneration = p.fromGeneration+1 ∧
    (p.authorizationStateBefore,p.authorizationStateAfter) ∈ allowedStates p.transitionKind p.outcome ∧
    a.matrixAccepts p = true then some (a.transitionDigest p) else none

/-! ## Checks -/

/-- The transport: the latch must agree with its database peer. -/
def barrierHeld (s : ReleaseState) : Bool := s.latch = s.provider.envelopeDigest

/-- `_ProviderDriftAbort`. -/
structure ProviderDriftAbort where
  transitionKind : TransitionKind
  ledgerUuid : Text
  ledgerEpoch : Nat
  approvalIdHmac : Hmac
  predecessorDigest : Hmac
  currentDigest : Hmac
  deriving DecidableEq

/-- `Guard.revalidate_provider`: every started authorization of every epoch has the provider's digest, or the only one
that has not is the one that this append ends. -/
def revalidateProvider (authorizations : List Authorization) (digest : Hmac) (drift : Option ProviderDriftAbort) : Bool :=
  let mismatches := authorizations.filter fun row => row.state = .started && row.providerSafetyEnvelopeDigest ≠ digest
  mismatches = [] || match drift with
    | none => false
    | some abort => abort.predecessorDigest ≠ abort.currentDigest && abort.currentDigest = digest &&
      mismatches.map (fun row => (row.ledgerUuid,row.ledgerEpoch,row.approvalIdHmac,row.providerSafetyEnvelopeDigest)) =
        [(abort.ledgerUuid,abort.ledgerEpoch,abort.approvalIdHmac,abort.predecessorDigest)]

def isRowOf (m : Marker) (row : LedgerRow) : Bool := row.ledgerUuid = m.ledgerUuid && row.ledgerEpoch = m.ledgerEpoch

def ledgerRowOrNone (tables : Option Tables) (m : Marker) : Except ReleaseError (Option LedgerRow) :=
  match tables with
  | none => .error .schemaInconsistent
  | some tables => .ok (tables.ledgers.find? (isRowOf m))

/-- The comparison of `_inspect_locked`. -/
def rowMatches (m : Marker) (row : LedgerRow) : Bool :=
  row.generation = m.generation && row.lastTransitionDigest = m.lastTransitionDigest &&
  row.markerFileDigest = a.fileDigest m && row.fingerprintKeyVersion = m.fingerprintKeyVersion &&
  row.fingerprintKeyMaterialVerifier = m.fingerprintKeyMaterialVerifier &&
  row.designatedEnvironmentIdHmac = m.designatedEnvironmentIdHmac &&
  row.designatedHostIdHmac = m.designatedHostIdHmac &&
  row.validationDatabaseIdentityHmac = m.validationDatabaseIdentityHmac &&
  row.validationDatabaseLocatorHmac = m.validationDatabaseLocatorHmac &&
  row.bootstrapReviewEnvelopeHmac = m.bootstrapReviewEnvelopeHmac &&
  row.bootstrapReviewNonceHmac = m.bootstrapReviewNonceHmac && row.bootstrapOperation = m.bootstrapOperation &&
  m.designatedEnvironmentIdHmac = a.environmentHmac && m.designatedHostIdHmac = a.hostHmac &&
  m.validationDatabaseIdentityHmac = a.databaseHmac a.databaseIdentity row.validationDatabaseIdentityUuid &&
  m.validationDatabaseLocatorHmac = a.databaseLocatorHmac a.databaseIdentity &&
  row.validationDatabaseOid = a.databaseIdentity.databaseOid

def isOfEpoch (ledgerUuid : Text) (ledgerEpoch : Nat) (row : TransitionRow) : Bool :=
  row.ledgerUuid = ledgerUuid && row.ledgerEpoch = ledgerEpoch

/-- The stored transitions of an epoch by generation. -/
def transitionsOf (tables : Tables) (ledgerUuid : Text) (ledgerEpoch : Nat) : List TransitionRow :=
  (tables.transitions.filter (isOfEpoch ledgerUuid ledgerEpoch)).insertionSort fun x y => x.generation ≤ y.generation

/-- What `_verify_transition_history` asks of the row at a generation. -/
def transitionMatches (m : Marker) (generation : Nat) (row : TransitionRow) : Bool :=
  row.generation = generation && row.payload.fromGeneration+1 = generation && row.payload.toGeneration = generation &&
  row.payload.ledgerUuid = m.ledgerUuid && row.payload.ledgerEpoch = m.ledgerEpoch &&
  row.payload.validationDatabaseIdentityHmac = m.validationDatabaseIdentityHmac &&
  row.payload.transitionKind = row.transitionKind &&
  validateTransitionPayload a row.payload = some row.transitionDigest

def historyMatches (m : Marker) : Nat → List TransitionRow → Bool
  | _, [] => true
  | generation, row::rows => transitionMatches a m generation row && historyMatches m (generation+1) rows

/-- `_verify_transition_history`. -/
def verifyTransitionHistory (tables : Tables) (m : Marker) : Bool :=
  let rows := transitionsOf tables m.ledgerUuid m.ledgerEpoch
  rows.length = m.generation && historyMatches a m 1 rows &&
    rows.getLast?.all fun row => some row.transitionDigest = m.lastTransitionDigest

/-- `_inspect_locked`. -/
def inspectLocked (tables : Option Tables) (m : Marker) : Except ReleaseError Marker :=
  match ledgerRowOrNone tables m with
  | .error e => .error e
  | .ok none => .error .databasePeerMissing
  | .ok (some row) =>
    if rowMatches a m row = false then .error .identityDiffers
    else if verifyTransitionHistory a (tables.getD .empty) m = false then .error .historyInvalid
    else .ok m

/-- `inspect`. -/
def inspect (s : ReleaseState) : Except ReleaseError Marker :=
  match s.marker with
  | none => .error .markerUnavailable
  | some m =>
    if barrierHeld s = false then .error .providerUnavailable
    else match parse a m with
      | .error e => .error e
      | .ok m =>
        match inspectLocked a s.tables m with
        | .error e => .error e
        | .ok m =>
          if revalidateProvider s.rows.authorizations s.provider.envelopeDigest none = false then
            .error .incidentAuthorityDiffers
          else .ok m

/-- `_require_fresh_database`: the schema is absent or every table is empty. -/
def databaseIsFresh (tables : Option Tables) : Bool := tables = none || tables = some .empty

/-- `_assert_review_nonce_fresh`. -/
def nonceFresh (s : ReleaseState) (nonce : Hmac) : Except ReleaseError Unit :=
  if (s.marker.any fun m => (parse a m).isOk && m.bootstrapReviewNonceHmac = nonce) then .error .nonceBound
  else if s.rows.ledgers.any (·.bootstrapReviewNonceHmac = nonce) then .error .nonceConsumed
  else .ok ()

/-! ## Publication -/

/-- Where an operation is cut off: before it writes anything, once a provider incident is applied, or between the marker
replacement and the commit. -/
inductive Stop where
  | none
  | refused
  | afterIncident
  | afterMarker
  deriving DecidableEq

structure Review where
  envelopeHmac : Hmac
  nonceHmac : Hmac
  reasonHmac : Hmac

/-- `_insert_ledger`, which creates the schema where it is absent. -/
def ledgerRowOf (m : Marker) (identityUuid : Text) : LedgerRow where
  ledgerUuid := m.ledgerUuid
  ledgerEpoch := m.ledgerEpoch
  generation := m.generation
  lastTransitionDigest := m.lastTransitionDigest
  predecessorMarkerDigest := m.predecessorMarkerDigest
  rebootstrapReasonHmac := m.rebootstrapReasonHmac
  markerFileDigest := a.fileDigest m
  bootstrapReviewEnvelopeHmac := m.bootstrapReviewEnvelopeHmac
  bootstrapReviewNonceHmac := m.bootstrapReviewNonceHmac
  bootstrapOperation := m.bootstrapOperation
  fingerprintKeyVersion := m.fingerprintKeyVersion
  fingerprintKeyMaterialVerifier := m.fingerprintKeyMaterialVerifier
  designatedEnvironmentIdHmac := m.designatedEnvironmentIdHmac
  designatedHostIdHmac := m.designatedHostIdHmac
  validationDatabaseIdentityHmac := m.validationDatabaseIdentityHmac
  validationDatabaseLocatorHmac := m.validationDatabaseLocatorHmac
  validationDatabaseIdentityUuid := identityUuid
  validationDatabaseOid := a.databaseIdentity.databaseOid

/-- The primary key and the two unique constraints of the table. -/
def insertLedger (tables : Tables) (row : LedgerRow) : Except ReleaseError Tables :=
  if tables.ledgers.any fun other => other.ledgerUuid = row.ledgerUuid && other.ledgerEpoch = row.ledgerEpoch ||
      other.bootstrapReviewEnvelopeHmac = row.bootstrapReviewEnvelopeHmac ||
      other.bootstrapReviewNonceHmac = row.bootstrapReviewNonceHmac then .error .ledgerInsertFailed
  else .ok { tables with ledgers := tables.ledgers++[row] }

/-- What the three bootstrap operations share once their marker is built: the checkpoint, the marker replacement, the
insert, the checks over it and the commit. -/
def publish (s : ReleaseState) (stop : Stop) (m : Marker) (identityUuid : Text) :
    ReleaseState × Except ReleaseError Marker :=
  if revalidateProvider s.rows.authorizations s.provider.envelopeDigest none = false then
    (s,.error .incidentAuthorityDiffers)
  else if stop = .refused ∨ stop = .afterIncident then (s,.error .stopped)
  else if stop = .afterMarker then ({ s with marker := some m },.error .stopped)
  else match insertLedger s.rows (ledgerRowOf a m identityUuid) with
    | .error e => ({ s with marker := some m },.error e)
    | .ok tables =>
      match inspectLocked a (some tables) m with
      | .error e => ({ s with marker := some m },.error e)
      | .ok m => ({ s with marker := some m, tables := some tables },.ok m)

/-- `_body` and `_wrap` of a new epoch. -/
def newMarker (ledgerUuid : Text) (ledgerEpoch : Nat) (predecessor reason : Option Hmac) (identityHmac locatorHmac : Hmac)
    (review : Review) (operation : BootstrapOperation) : Marker where
  designatedEnvironmentIdHmac := a.environmentHmac
  designatedHostIdHmac := a.hostHmac
  generation := 0
  lastTransitionDigest := none
  ledgerEpoch := ledgerEpoch
  ledgerUuid := ledgerUuid
  predecessorMarkerDigest := predecessor
  rebootstrapReasonHmac := reason
  bootstrapReviewEnvelopeHmac := review.envelopeHmac
  bootstrapReviewNonceHmac := review.nonceHmac
  bootstrapOperation := operation
  validationDatabaseIdentityHmac := identityHmac
  validationDatabaseLocatorHmac := locatorHmac
  fingerprintKeyVersion := a.keyVersion
  fingerprintKeyMaterialVerifier := a.keyVerifier

/-- `initialize`; the two UUIDs are drawn by `uuid4`. -/
def initializeLedger (s : ReleaseState) (stop : Stop) (review : Review) (ledgerUuid identityUuid : Text) :
    ReleaseState × Except ReleaseError Marker :=
  if s.marker.isSome then (s,.error .alreadyExists)
  else if barrierHeld s = false then (s,.error .providerUnavailable)
  else if databaseIsFresh s.tables = false then (s,.error .alreadyExists)
  else match nonceFresh a s review.nonceHmac with
    | .error e => (s,.error e)
    | .ok _ =>
      publish a s stop (newMarker a ledgerUuid 1 none none (a.databaseHmac a.databaseIdentity identityUuid)
        (a.databaseLocatorHmac a.databaseIdentity) review .releaseLedgerInit) identityUuid

/-- The row that `rebootstrap` compares with: that of the marker's epoch, or else the newest older one. -/
def predecessorRow (tables : Option Tables) (prior : Marker) : Except ReleaseError LedgerRow :=
  match ledgerRowOrNone tables prior with
  | .error e => .error e
  | .ok (some row) => .ok row
  | .ok none =>
    match (((tables.getD .empty).ledgers.filter fun row =>
        row.ledgerUuid = prior.ledgerUuid && row.ledgerEpoch < prior.ledgerEpoch).insertionSort
        fun x y => y.ledgerEpoch ≤ x.ledgerEpoch).head? with
    | none => .error .databasePeerMissing
    | some row => .ok row

/-- `rebootstrap`. -/
def rebootstrap (s : ReleaseState) (stop : Stop) (review : Review) : ReleaseState × Except ReleaseError Marker :=
  match s.marker with
  | none => (s,.error .markerUnavailable)
  | some m =>
    if barrierHeld s = false then (s,.error .providerUnavailable)
    else match parse a m with
      | .error e => (s,.error e)
      | .ok prior =>
        match nonceFresh a s review.nonceHmac with
        | .error e => (s,.error e)
        | .ok _ =>
          match predecessorRow s.tables prior with
          | .error e => (s,.error e)
          | .ok row =>
            if row.validationDatabaseIdentityHmac ≠
                a.databaseHmac a.databaseIdentity row.validationDatabaseIdentityUuid ∨
                prior.validationDatabaseIdentityHmac ≠ row.validationDatabaseIdentityHmac then
              (s,.error .identityDiffers)
            else if row.ledgerEpoch = prior.ledgerEpoch ∧ row.generation = prior.generation ∧
                row.lastTransitionDigest = prior.lastTransitionDigest ∧
                row.markerFileDigest = a.fileDigest prior then (s,.error .healthy)
            else
              publish a s stop (newMarker a prior.ledgerUuid (prior.ledgerEpoch+1) (some (a.fileDigest prior))
                (some review.reasonHmac) prior.validationDatabaseIdentityHmac prior.validationDatabaseLocatorHmac review
                .releaseLedgerRebootstrap) row.validationDatabaseIdentityUuid

/-- `_is_pending_initial_marker`. -/
def isPendingInitialMarker (m : Marker) : Bool :=
  m.bootstrapOperation = .releaseLedgerInit && m.ledgerEpoch = 1 && m.generation = 0 && m.lastTransitionDigest.isNone &&
    m.predecessorMarkerDigest.isNone && m.rebootstrapReasonHmac.isNone

/-- The marker is one that only `rebootstrap` may follow. -/
def requiresRebootstrap (m : Marker) : Bool :=
  (parse a m).isOk && m.validationDatabaseLocatorHmac = a.databaseLocatorHmac a.databaseIdentity &&
    !isPendingInitialMarker m

/-- `disaster_initialize`. -/
def disasterInitialize (s : ReleaseState) (stop : Stop) (review : Review) (ledgerUuid identityUuid : Text) :
    ReleaseState × Except ReleaseError Marker :=
  if barrierHeld s = false then (s,.error .providerUnavailable)
  else if databaseIsFresh s.tables = false then (s,.error .refusesDisasterInit)
  else if s.marker.any (requiresRebootstrap a) then (s,.error .requiresRebootstrap)
  else match nonceFresh a s review.nonceHmac with
    | .error e => (s,.error e)
    | .ok _ =>
      publish a s stop (newMarker a ledgerUuid 1 none (some review.reasonHmac)
        (a.databaseHmac a.databaseIdentity identityUuid) (a.databaseLocatorHmac a.databaseIdentity) review
        .releaseLedgerDisasterInit) identityUuid

end authority

end ParaWorks.Release
