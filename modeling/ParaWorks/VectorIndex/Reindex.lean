import ParaWorks.VectorIndex.Tables

/-!
# Reindexing

A run plans what to embed, remembers what it planned from, calls the provider without a transaction, and persists
the batch under the serving locks. The writer is `PgVectorStore` on PostgreSQL and the states are persisted.
-/

namespace ParaWorks.VectorIndex

open Lib Sources Knowledge Answers

inductive IndexError
  | budgetExceeded
  | providerFailed
  | notCosineIndexable
  | generationUnavailable
  | generationIdentityMismatch
  | metadataIncomplete
  | refreshUnstable
  deriving DecidableEq

structure VectorIndexResult where
  documentIds : List Text
  skippedDocumentIds : List Text
  deriving DecidableEq

/-- `embed_many`; none where the provider raises. -/
structure EmbeddingAdapter where
  embedMany : List Text → Option (List Embedding)

/-! ## Budget -/

def utf8Length (t : Text) : Nat :=
  (t.map fun c => if c.val < 0x80 then 1 else if c.val < 0x800 then 2 else if c.val < 0x10000 then 3 else 4).sum

def estimateEmbeddingTokens (t : Text) : Nat := if t = [] then 0 else max 1 ((utf8Length t+3)/4)

/-- `estimate_embedding_budget` answers `block`. -/
def budgetBlocks (settings : Settings) (texts : List Text) : Bool :=
  texts ≠ [] && match settings.maxCostUsd with
    | none => false
    | some limit => limit < ((texts.map estimateEmbeddingTokens).sum : Rat)*settings.costPer1mTokens/1000000

section runs

variable (digests : Digests) (settings : Settings) (ragV2 : Bool)

/-! ## Planning -/

inductive Planned
  | skipped
  | refreshed
  | changed
  deriving DecidableEq

def stateIsSkippable (hash : Text) (state : VectorIndexState) : Bool :=
  state.status = text "indexed" && state.contentHash = hash && (!ragV2 || match state.serving with
    | none => false
    | some columns => state.embeddingDimensions = settings.embeddingDimensions &&
        columns.indexPolicyVersion = ragIndexPolicyVersion &&
        columns.pgvectorCosinePolicyVersion = ragCosinePolicyVersion && columns.cosineIndexable)

/-- What the planning loop makes of one document. -/
def classify (db : Database) (d : VectorDocument) : Planned :=
  if d.documentId ∈ db.index.tombstones then .skipped
  else match db.corpus.canonical ragV2 d.documentId with
    | none => .skipped
    | some canonical =>
      if computeVectorDocumentHash digests canonical ≠ computeVectorDocumentHash digests d then .skipped
      else match db.index.getIndexState d.documentId settings.embeddingModel with
        | none => .changed
        | some state =>
          if stateIsSkippable settings ragV2 (contentHash digests ragV2 d) state then
            if ragV2 then .refreshed else .skipped
          else .changed

structure Plan where
  changed : List VectorDocument
  refreshed : List VectorDocument
  skipped : List Text

def makePlan (db : Database) (documents : List VectorDocument) : Plan :=
  ⟨documents.filter (classify digests settings ragV2 db · = .changed),
    documents.filter (classify digests settings ragV2 db · = .refreshed),
    (documents.filter (classify digests settings ragV2 db · ≠ .changed)).map (·.documentId)⟩

def Plan.planned (plan : Plan) : List VectorDocument := plan.changed++plan.refreshed

/-- `sorted({…})`. -/
def sortedSet (ids : List Text) : List Text := ids.dedup.insertionSort (· ≤ ·)

def Plan.documentIds (plan : Plan) : List Text := sortedSet (plan.planned.map (·.documentId))

/-! ## The snapshot before the provider call -/

structure RagV2PreProviderSnapshot where
  corpusGeneration : Nat
  vectorIndexGeneration : Nat
  generationUpdatedAt : Nat
  canonicalDocumentHashes : List (Text × Text)
  lockPlan : ServingMutationLockPlan

def generationSnapshot (g : RagServingCorpusGeneration) : Nat × Nat × Nat :=
  (g.corpusGeneration,g.vectorIndexGeneration,g.updatedAt)

/-- The stored document with the id is canonical, by its hash. -/
def canonicalHash (corpus : Corpus) (documentId : Text) : Option Text :=
  (corpus.canonical ragV2 documentId).map (computeVectorDocumentHash digests)

/-- `_capture_rag_v2_pre_provider_snapshot`, none on drift; the database is read at the start, for the documents and
at the end. -/
def captureSnapshot (start middle last : Database) (plan : Plan) : Except IndexError (Option RagV2PreProviderSnapshot) :=
  if ¬(plan.planned.map (·.documentId)).Nodup then .ok none
  else match start.index.generation with
    | none => .error .generationUnavailable
    | some g =>
      let locks := start.corpus.buildServingLockPlan plan.documentIds
      if last.index.generation.map generationSnapshot = some (generationSnapshot g) ∧
          last.corpus.buildServingLockPlan plan.documentIds = locks ∧
          plan.planned.all (fun d =>
            canonicalHash digests true middle.corpus d.documentId = some (computeVectorDocumentHash digests d)) then
        .ok (some ⟨g.corpusGeneration,g.vectorIndexGeneration,g.updatedAt,
          plan.planned.map fun d => (d.documentId,computeVectorDocumentHash digests d),locks⟩)
      else .ok none

/-! ## State rows -/

structure RequiredMetadata where
  servingKind : Text
  supportMode : Text
  servingIdentityHmac : Text
  servingVersionFingerprint : Text
  modelContentHmac : Text
  canonicalCitationProjectionHmac : Text

def requiredText (d : VectorDocument) (key : Text) : Option Text :=
  match entry d.metadata key with
  | some (.str t) => if t = [] then none else some t
  | _ => none

/-- `_required_rag_v2_state_metadata`. -/
def requiredMetadata (d : VectorDocument) : Option RequiredMetadata := do
  let servingKind ← requiredText d (text "serving_kind")
  let supportMode ← requiredText d (text "support_mode")
  let servingIdentityHmac ← requiredText d (text "serving_identity_hmac")
  let servingVersionFingerprint ← requiredText d (text "serving_version_fingerprint")
  let modelContentHmac ← requiredText d (text "model_content_hmac")
  let canonicalCitationProjectionHmac ← requiredText d (text "canonical_citation_projection_hmac")
  return ⟨servingKind,supportMode,servingIdentityHmac,servingVersionFingerprint,modelContentHmac,
    canonicalCitationProjectionHmac⟩

/-- `build_rag_v2_vector_index_state_hmac` of an indexed document. -/
def indexedStateHmac (d : VectorDocument) (documentId embeddingModel : Text) (dimensions : Nat) (hash : Text)
    (vectorSha256 : Text) (generation : Nat) : Text :=
  digests.stateHmac ⟨documentId,embeddingModel,dimensions,hash,computeVectorDocumentHash digests d,vectorSha256,
    text "indexed",generation⟩

/-- The row that `_apply_rag_v2_state_metadata` leaves. -/
def appliedState (d : VectorDocument) (m : RequiredMetadata) (embedding : Embedding) (generation : Nat) :
    VectorIndexState :=
  let hash := computeRagV2DocumentHash digests d
  ⟨d.documentId,settings.embeddingModel,embedding.length,hash,text "indexed",
    some ⟨m.servingKind,m.supportMode,d.permissionLevel,m.servingIdentityHmac,m.servingVersionFingerprint,
      m.modelContentHmac,m.canonicalCitationProjectionHmac,ragIndexPolicyVersion,ragCosinePolicyVersion,true,generation,
      indexedStateHmac digests d d.documentId settings.embeddingModel embedding.length hash
        (digests.sha256Vector embedding) generation,
      settings.fingerprintKeyVersion,settings.keyMaterialVerifier⟩⟩

def upsertRagV2VectorIndexState (tables : IndexTables) (d : VectorDocument) (embedding : Embedding) (generation : Nat) :
    Except IndexError IndexTables :=
  match requiredMetadata d with
  | none => .error .metadataIncomplete
  | some m => .ok (tables.putState (appliedState digests settings d m embedding generation))

/-- The legacy `_upsert_index_state`; the serving columns of a row stay. -/
def upsertIndexState (tables : IndexTables) (d : VectorDocument) (embedding : Embedding) : IndexTables :=
  tables.putState ⟨d.documentId,settings.embeddingModel,embedding.length,computeVectorDocumentHash digests d,
    text "indexed",(tables.getIndexState d.documentId settings.embeddingModel).bind (·.serving)⟩

/-- The refresh is of a stable indexed vector. -/
def refreshIsStable (state : VectorIndexState) (d : VectorDocument) (embedding : Embedding) (vectorIndexGeneration : Nat) :
    Bool :=
  state.documentId = d.documentId && state.embeddingModel = settings.embeddingModel &&
  state.embeddingDimensions = embedding.length && state.contentHash = computeRagV2DocumentHash digests d &&
  state.status = text "indexed" && match state.serving with
    | none => false
    | some columns => columns.cosineIndexable && columns.vectorIndexGeneration ≤ vectorIndexGeneration

/-- `refresh_rag_v2_vector_index_state_metadata`. -/
def refreshRagV2VectorIndexStateMetadata (vectorIndexGeneration : Nat) (tables : IndexTables)
    (refresh : VectorIndexState × VectorDocument × Embedding) : Except IndexError IndexTables :=
  match requiredMetadata refresh.2.1, refresh.1.serving with
  | none, _ => .error .metadataIncomplete
  | _, none => .error .refreshUnstable
  | some m, some columns =>
    if refreshIsStable digests settings refresh.1 refresh.2.1 refresh.2.2 vectorIndexGeneration then
      .ok (tables.putState (appliedState digests settings refresh.2.1 m refresh.2.2 columns.vectorIndexGeneration))
    else .error .refreshUnstable

/-! ## The locked batch -/

def permissionOnlyNarrowing (embedded canonical : VectorDocument) : Bool :=
  match permissionRank embedded.permissionLevel, permissionRank canonical.permissionLevel with
  | some wide, some narrow =>
    wide < narrow && sameDocument { canonical with permissionLevel := embedded.permissionLevel } embedded
  | _, _ => false

/-- The canonical document that is written for a changed one; none where it is skipped as stale. -/
def admitted (db : Database) (d : VectorDocument) : Option VectorDocument :=
  match db.corpus.canonical ragV2 d.documentId with
  | none => none
  | some canonical =>
    let live := db.corpus.forDocument d.documentId
    if !ragV2 && (!live.eligible || live.effectivePermission = none) then none
    else if d.documentId ∈ db.index.tombstones then none
    else if (sameDocument canonical d && contentHash digests ragV2 canonical = contentHash digests ragV2 d) ||
        (!ragV2 && permissionOnlyNarrowing d canonical) then some canonical
    else none

/-- The conditional `INSERT … ON CONFLICT` of `_upsert_sql`, which may write nothing. -/
def upsertWithEmbedding (corpus : Corpus) (tables : IndexTables) (d : VectorDocument) (embedding : Embedding) :
    IndexTables :=
  if d.documentId ∉ tables.tombstones ∧ corpus.liveEligibilitySql d = true then tables.putVector ⟨d,embedding⟩
  else tables

/-- The vector and the state row of an admitted document. -/
def persistDocument (corpus : Corpus) (nextVectorGeneration : Nat) (tables : IndexTables) (canonical : VectorDocument)
    (embedding : Embedding) : Except IndexError IndexTables :=
  let written := upsertWithEmbedding corpus tables canonical embedding
  if ragV2 then upsertRagV2VectorIndexState digests settings written canonical embedding nextVectorGeneration
  else .ok (upsertIndexState digests settings written canonical embedding)

/-- The loop over the changed documents: the tables, the indexed ids and the stale ones. -/
def persistChanged (db : Database) (nextVectorGeneration : Nat) :
    List (VectorDocument × Embedding) → IndexTables → Except IndexError (IndexTables × List Text × List Text)
  | [], tables => .ok (tables,[],[])
  | (d,embedding)::rest, tables =>
    match admitted digests ragV2 db d with
    | none => (persistChanged db nextVectorGeneration rest tables).map fun r => (r.1,r.2.1,d.documentId::r.2.2)
    | some canonical =>
      match persistDocument digests settings ragV2 db.corpus nextVectorGeneration tables canonical embedding with
      | .error e => .error e
      | .ok next => (persistChanged db nextVectorGeneration rest next).map fun r => (r.1,d.documentId::r.2.1,r.2.2)

/-- The row, the document and the stored vector of a refresh; none where the batch is discarded. -/
def refreshVector (db : Database) (d : VectorDocument) : Option (VectorIndexState × VectorDocument × Embedding) := do
  let state ← db.index.getIndexState d.documentId settings.embeddingModel
  let canonical ← db.corpus.canonical ragV2 d.documentId
  if state.status = text "indexed" ∧ state.contentHash = contentHash digests ragV2 d ∧
      state.embeddingDimensions = settings.embeddingDimensions ∧
      state.serving.map (·.cosineIndexable) = some true ∧ d.documentId ∉ db.index.tombstones then
    let row ← db.index.vector d.documentId
    let live ← validate row.embedding settings.embeddingDimensions
    return (state,canonical,live)
  else none

/-- `_validate_generation_identity`. -/
def generationMatches (g : RagServingCorpusGeneration) : Bool :=
  g.embeddingModel = settings.embeddingModel && g.embeddingDimensions = settings.embeddingDimensions &&
  g.indexPolicyVersion = ragIndexPolicyVersion && g.pgvectorCosinePolicyVersion = ragCosinePolicyVersion &&
  g.fingerprintKeyVersion = settings.fingerprintKeyVersion &&
  g.fingerprintKeyMaterialVerifier = settings.keyMaterialVerifier

/-- `lock_rag_serving_generation`, which adds a missing row. -/
def lockRagServingGeneration (tables : IndexTables) (now : Nat) : Except IndexError RagServingCorpusGeneration :=
  match tables.generation with
  | none => .ok ⟨0,0,settings.embeddingModel,settings.embeddingDimensions,ragIndexPolicyVersion,ragCosinePolicyVersion,
      settings.fingerprintKeyVersion,settings.keyMaterialVerifier,now⟩
  | some g => if generationMatches settings g then .ok g else .error .generationIdentityMismatch

/-- What the locked transaction finds changed since the snapshot. -/
def drifted (snapshot : RagV2PreProviderSnapshot) (db : Database) (g : RagServingCorpusGeneration) (ids : List Text) :
    Bool :=
  generationSnapshot g ≠ (snapshot.corpusGeneration,snapshot.vectorIndexGeneration,snapshot.generationUpdatedAt) ||
  ids.any (fun id => canonicalHash digests ragV2 db.corpus id = none ∨
    canonicalHash digests ragV2 db.corpus id ≠ (snapshot.canonicalDocumentHashes.find? (·.1 = id)).map (·.2)) ||
  ids.any (· ∈ db.index.tombstones)

/-- `discard_locked_batch`. -/
def discardLockedBatch (plan : Plan) : VectorIndexResult :=
  ⟨[],plan.skipped++plan.documentIds.filter (· ∉ plan.skipped)⟩

/-- The commit advances the vector generation where a serving state was written. -/
def commitGeneration (tables : IndexTables) (g : RagServingCorpusGeneration) (vectorMutation : Bool) (now : Nat) :
    IndexTables :=
  { tables with generation := some (if vectorMutation then
      { g with vectorIndexGeneration := g.vectorIndexGeneration+1, updatedAt := now } else g) }

/-- `_persist_locked_pgvector_batch`; a discarded batch and an error leave the tables as they are. -/
def persistLockedPgvectorBatch (plan : Plan) (snapshot : Option RagV2PreProviderSnapshot)
    (lockPlan : ServingMutationLockPlan) (embeddings : List Embedding) (now : Nat) (db : Database) :
    Except IndexError (VectorIndexResult × IndexTables) := do
  if plan.documentIds = [] then return (⟨[],plan.skipped⟩,db.index)
  let g ← lockRagServingGeneration settings db.index now
  if db.corpus.buildServingLockPlan plan.documentIds ≠ lockPlan then return (discardLockedBatch plan,db.index)
  if snapshot.any (drifted digests ragV2 · db g plan.documentIds) then return (discardLockedBatch plan,db.index)
  match plan.refreshed.mapM (refreshVector digests settings ragV2 db) with
  | none => return (discardLockedBatch plan,db.index)
  | some refreshes =>
    let (changed,indexed,stale) ←
      persistChanged digests settings ragV2 db (g.vectorIndexGeneration+1) (plan.changed.zip embeddings) db.index
    let refreshed ← refreshes.foldlM
      (refreshRagV2VectorIndexStateMetadata digests settings g.vectorIndexGeneration) changed
    return (⟨indexed,plan.skipped++stale⟩,commitGeneration refreshed g (ragV2 && indexed ≠ []) now)

/-! ## A run -/

/-- The database as the statements of a run find it; other transactions commit in between. -/
structure Moments where
  planning : Database
  captureStart : Database
  capture : Database
  captureEnd : Database
  /-- Where the legacy lane reads its lock plan. -/
  lockPlanning : Database
  locked : Database

def Moments.undisturbed (db : Database) : Moments := ⟨db,db,db,db,db,db⟩

/-- The texts sent to the provider, and what the run returned and committed. -/
structure Run where
  requested : List Text
  outcome : Except IndexError (VectorIndexResult × IndexTables)

/-- The result on drift before the provider call. -/
def rejectedBatch (plan : Plan) : VectorIndexResult :=
  ⟨[],sortedSet (plan.skipped++plan.planned.map (·.documentId))⟩

/-- The snapshot of the lane: none on drift, and no snapshot in the legacy lane or without planned documents. -/
def snapshotOf (m : Moments) (plan : Plan) : Except IndexError (Option (Option RagV2PreProviderSnapshot)) :=
  if ragV2 ∧ plan.planned ≠ [] then
    (captureSnapshot digests m.captureStart m.capture m.captureEnd plan).map fun s => s.map some
  else .ok (some none)

/-- `index_changed_vector_documents`. -/
def indexChangedVectorDocuments (adapter : EmbeddingAdapter) (m : Moments) (now : Nat) (documents : List VectorDocument) :
    Run :=
  let plan := makePlan digests settings ragV2 m.planning documents
  let texts := plan.changed.map (·.text)
  if budgetBlocks settings texts then ⟨[],.error .budgetExceeded⟩
  else match snapshotOf digests ragV2 m plan with
    | .error e => ⟨[],.error e⟩
    | .ok none => ⟨[],.ok (rejectedBatch plan,m.locked.index)⟩
    | .ok (some snapshot) =>
      match if texts = [] then some [] else adapter.embedMany texts with
      | none => ⟨texts,.error .providerFailed⟩
      | some vectors =>
        if vectors.length ≠ plan.changed.length then ⟨texts,.error .notCosineIndexable⟩
        else match validateBatch vectors settings.embeddingDimensions with
          | none => ⟨texts,.error .notCosineIndexable⟩
          | some embeddings =>
            let lockPlan := (snapshot.map (·.lockPlan)).getD
              (m.lockPlanning.corpus.buildServingLockPlan plan.documentIds)
            ⟨texts,persistLockedPgvectorBatch digests settings ragV2 plan snapshot lockPlan embeddings now m.locked⟩

end runs

/-- The tables after a run; an error rolls back. -/
def Run.index (run : Run) (before : IndexTables) : IndexTables :=
  match run.outcome with
  | .error _ => before
  | .ok r => r.2

/-! ## Readiness of the serving index

The canonical documents against the state rows, the stored vectors and the tombstones, without a provider. -/

structure LiveVectorSnapshot where
  dimensions : Nat
  cosineIndexable : Bool
  canonicalFloat32VectorSha256 : Option Text
  deriving DecidableEq

structure RagServingIndexReadiness where
  ready : Bool
  corpusGeneration : Nat
  vectorIndexGeneration : Nat
  expectedDocumentCount : Nat
  liveVectorCount : Nat
  tombstoneCount : Nat
  mismatchCountCappedAt20 : Nat
  deriving DecidableEq

section inspection

variable (digests : Digests) (settings : Settings) (db : Database)

def trackedStates : List VectorIndexState := db.index.states.filter (·.serving.isSome)

def expectedIds : List Text := db.corpus.ragV2Documents.map (·.documentId)

def trackedIds : List Text := (trackedStates db).map (·.documentId)

/-- `_inspect_live_vectors` selects the row. -/
def isLive (row : VectorRow) : Bool :=
  (row.documentId ∈ expectedIds db || row.documentId ∈ trackedIds db) ||
  row.metadataText (text "index_policy_version") = some ragIndexPolicyVersion

def liveVectors : List VectorRow := db.index.vectors.filter (isLive db)

/-- `_snapshot_from_vector`; a norm is positive when a coordinate is not zero. -/
def snapshotFromVector (vector : Embedding) : LiveVectorSnapshot :=
  match validate vector settings.embeddingDimensions with
  | none => ⟨vector.length,false,none⟩
  | some canonical => ⟨canonical.length,true,some (digests.sha256Vector canonical)⟩

def tombstoneIds : List Text :=
  (db.index.tombstones++((trackedStates db).filter (·.status = text "tombstoned")).map (·.documentId)).dedup

def generationIdentityMatches : Bool := db.index.generation.any (generationMatches settings)

def vectorIndexGeneration : Nat := (db.index.generation.map (·.vectorIndexGeneration)).getD 0

/-- `_expected_state_matches`. -/
def expectedStateMatches (state : VectorIndexState) (d : VectorDocument) (live : LiveVectorSnapshot) : Bool :=
  match state.serving, live.canonicalFloat32VectorSha256 with
  | some columns, some vectorSha256 =>
    state.status = text "indexed" && state.embeddingModel = settings.embeddingModel &&
    state.embeddingDimensions = settings.embeddingDimensions &&
    state.contentHash = computeRagV2DocumentHash digests d &&
    entry d.metadata (text "serving_kind") = some (.str columns.servingKind) &&
    entry d.metadata (text "support_mode") = some (.str columns.supportMode) &&
    columns.effectivePermission = d.permissionLevel &&
    entry d.metadata (text "serving_identity_hmac") = some (.str columns.servingIdentityHmac) &&
    entry d.metadata (text "serving_version_fingerprint") = some (.str columns.servingVersionFingerprint) &&
    entry d.metadata (text "model_content_hmac") = some (.str columns.modelContentHmac) &&
    entry d.metadata (text "canonical_citation_projection_hmac") =
      some (.str columns.canonicalCitationProjectionHmac) &&
    columns.indexPolicyVersion = ragIndexPolicyVersion &&
    columns.pgvectorCosinePolicyVersion = ragCosinePolicyVersion && columns.cosineIndexable &&
    columns.vectorIndexGeneration ≤ vectorIndexGeneration db &&
    columns.fingerprintKeyVersion = settings.fingerprintKeyVersion &&
    columns.fingerprintKeyMaterialVerifier = settings.keyMaterialVerifier &&
    live.dimensions = settings.embeddingDimensions && live.cosineIndexable &&
    columns.vectorIndexStateHmac = indexedStateHmac digests d state.documentId state.embeddingModel
      state.embeddingDimensions state.contentHash vectorSha256 columns.vectorIndexGeneration
  | _, _ => false

/-- A canonical document has its exact state row and a live vector, and no tombstone. -/
def expectedMatches (d : VectorDocument) : Bool :=
  match (trackedStates db).find? (·.key = (d.documentId,settings.embeddingModel)),
      (liveVectors db).find? (·.documentId = d.documentId) with
  | some state, some row => d.documentId ∉ tombstoneIds db &&
      expectedStateMatches digests settings db state d (snapshotFromVector digests settings row.embedding)
  | _, _ => false

/-- A tracked document that is no longer canonical has neither a live vector nor an indexed state. -/
def cleanTombstone (documentId : Text) : Bool :=
  documentId ∉ (liveVectors db).map VectorRow.documentId && documentId ∈ tombstoneIds db &&
  (trackedStates db).all fun state => state.documentId ≠ documentId || state.status = text "tombstoned"

/-- The documents in `mismatches`. -/
def mismatches : List Text :=
  let liveIds := (liveVectors db).map VectorRow.documentId
  ((db.corpus.ragV2Documents.filter fun d => !expectedMatches digests settings db d).map (·.documentId)++
    (trackedIds db).filter (fun id => id ∉ expectedIds db && !cleanTombstone db id)++
    (tombstoneIds db).filter (· ∈ liveIds)++
    liveIds.filter fun id => id ∉ expectedIds db && id ∉ trackedIds db).dedup

/-- `RagV2ServingIndexReadinessService.inspect`, less the HMAC of the snapshot; the generation row does not change
while it reads. -/
def inspect : RagServingIndexReadiness :=
  let identityMatches := generationIdentityMatches settings db
  let found := mismatches digests settings db
  ⟨identityMatches && found = [],(db.index.generation.map (·.corpusGeneration)).getD 0,vectorIndexGeneration db,
    db.corpus.ragV2Documents.length,(liveVectors db).length,(tombstoneIds db).length,
    min (found.length+if identityMatches then 0 else 1) 20⟩

end inspection

end ParaWorks.VectorIndex
