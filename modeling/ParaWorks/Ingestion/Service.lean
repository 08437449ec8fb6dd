import ParaWorks.Ingestion.Documents

/-!
# Ingestion

How a list of source events changes the stored sources, their chunks and the rows of the vector store.
-/

namespace ParaWorks.Ingestion

open Lib Sources

def c5SourceTypes : List Text := [text "gmail",text "gmail_attachment",text "drive",text "calendar"]

def operationalMetadataKeys : List Text :=
  [text "sync_cursor",text "sync_partition",text "connector_revision",text "connector_updated_at"]

def serverResolvedMetadataKeys : List Text :=
  [text "account_id",text "oauth_scope",text "oauth_scopes",text "required_scopes",text "security_scope_id",
    text "server_security_scope"]

def connectorAuthorityKeys : List Text :=
  [text "content_signature",text "current_document_version_id",text "server_content_signature",
    text "server_content_signature_schema"]

def connectorParserAuthorityKeys : List Text :=
  [text "chunk_max_chars",text "chunk_policy",text "chunk_policy_version",text "content_hash",text "mime_type",
    text "page_number",text "parser_name",text "parser_policy_version",text "parser_status",
    text "parser_status_reason",text "parser_version",text "section_path",text "source_snippet"]

/-- A vector writer narrows each row on its own, to a level at least as strict, or refuses. -/
structure VectorWriter (p : Platform) where
  narrow : Text → Text → Option Text
  narrow_strict : ∀ {level stored narrowed}, narrow level stored = some narrowed →
    strictness p level ≤ strictness p narrowed ∧ strictness p stored ≤ strictness p narrowed

structure Environment (p : Platform) where
  /-- `datetime.now(UTC).isoformat()`. -/
  now : Text
  syntheticSlack : Bool
  authenticatedMetadata : Text → Option Entries
  writer : Option (VectorWriter p)

variable {p : Platform}

structure VectorMutations where
  deleteIds : List Text
  narrowings : List (Text × List Text)

def VectorMutations.empty : VectorMutations := ⟨[],[]⟩

/-- `narrowings.setdefault(level, set()).add(document_id)`. -/
def addNarrowing : List (Text × List Text) → Text → Text → List (Text × List Text)
  | [], level, documentId => [(level,[documentId])]
  | (l,ids)::rest, level, documentId =>
    if l = level then (l,if documentId ∈ ids then ids else ids++[documentId])::rest
    else (l,ids)::addNarrowing rest level documentId

/-- What a call has done so far: its session, the vector mutations and the changed sources. -/
structure Batch where
  db : IngestionState
  mutations : VectorMutations
  changedStates : List (Nat × SourceStateChangeClassification)

def IngestionState.putSource (db : IngestionState) (source : Source) : IngestionState :=
  { db with sources := db.sources.map fun s => if s.id = source.id then source else s }

/-- `chunk:{id}`. -/
def chunkDocumentId (id : Nat) : Text := text "chunk:"++Json.renderInt id

/-! ## Identity -/

/-- `_validate_source_event_identity`. -/
def sourceEventIdentityValid (event : SourceEvent) (existing : Option Source) : Bool :=
  existing.all (fun source => source.sourceType = event.sourceType) &&
    if event.sourceType ∈ c5SourceTypes then
      let typePrefix := event.sourceType++text ":"
      event.sourceId = strip event.sourceId && typePrefix.isPrefixOf event.sourceId && event.sourceId ≠ typePrefix
    else if event.sourceType = text "slack" then
      c5SourceTypes.all fun sourceType => !(sourceType++text ":").isPrefixOf event.sourceId
    else true

/-- The event is one of the server's canonical sources. -/
def Environment.canonical (env : Environment p) (event : SourceEvent) : Bool :=
  event.sourceType ∈ c5SourceTypes || env.syntheticSlack && event.sourceType = text "slack"

/-! ## The source row -/

/-- `incoming.setdefault(key, value)`. -/
def Entries.setDefault (entries : Entries) (key : Text) (value : Json) : Entries :=
  if entries.any (·.1 = key) then entries else entries.set key value

/-- `_canonical_source_metadata`; none where the authenticated metadata has other keys. -/
def canonicalSourceMetadata (event : SourceEvent) (existing : Option Entries) (authenticated : Option Entries)
    (policy : ServerParserPolicy) : Option Entries :=
  let incoming := event.rawMetadata.without
    (connectorAuthorityKeys++connectorParserAuthorityKeys++serverResolvedMetadataKeys)
  let incoming := serverResolvedMetadataKeys.foldl (fun (incoming : Entries) key =>
    match (existing.getD []).get key with
    | none => incoming
    | some value => incoming.set key value) incoming
  if (authenticated.getD []).any (·.1 ∉ serverResolvedMetadataKeys) then none
  else
    let incoming := (authenticated.getD []).foldl (fun (incoming : Entries) e => incoming.setDefault e.1 e.2) incoming
    some (incoming.merge
      [(text "participants",.list (event.participants.map Json.str)),
        (text "semantic_timestamp_raw",optionalJson event.semanticTimestampRaw),
        (text "mime_type",.str policy.mimeType)])

/-- `_upsert_c5_source`: the stored source after the event. -/
def upsertC5Source (env : Environment p) (db : IngestionState) (event : SourceEvent) (existing : Option Source)
    (signature : CanonicalSourceContentSignature) (policy : ServerParserPolicy) : Option (IngestionState × Source) :=
  (canonicalSourceMetadata event (existing.bind (·.rawMetadata)) (env.authenticatedMetadata event.sourceId) policy).bind
    fun metadata =>
  (normalizeSourcePermission p event.permissionLevel).map fun permission =>
  match existing with
  | none =>
    let source : Source :=
      ⟨⟨freshId (db.sources.map (·.id)),event.sourceType,event.sourceId,permission,some metadata,
        some signature.schema,some signature.signature⟩,event.sourceUrl,event.title,event.author,
        connectorContentSignature event,env.now⟩
    ({ db.flush with sources := db.sources++[source] },source)
  | some source =>
    let source : Source :=
      ⟨⟨source.id,event.sourceType,source.sourceId,permission,some metadata,some signature.schema,
        some signature.signature⟩,event.sourceUrl,event.title,event.author,connectorContentSignature event,
        source.createdAt⟩
    (db.putSource source,source)

/-- `_advance_unchanged_operational_state`. -/
def advanceUnchangedOperationalState (db : IngestionState) (source : Source) (event : SourceEvent) : IngestionState :=
  let metadata := operationalMetadataKeys.foldl (fun (metadata : Entries) key =>
    match event.rawMetadata.get key with
    | none => metadata
    | some value => metadata.set key value) (source.rawMetadata.getD [])
  db.putSource { source with
    rawMetadata := some metadata
    sourceUrl := event.sourceUrl
    connectorContentSignature := connectorContentSignature event }

/-- `_current_parser_run`. -/
def currentParserRun (db : IngestionState) (source : Source) : Option DocumentParserRun :=
  (db.documentOf source).bind fun document =>
  document.currentDocumentVersionId.bind fun versionId =>
  match db.parserRuns.filter fun r =>
      r.documentId = document.id && r.sourceId = source.id && r.documentVersionId = versionId with
  | [run] =>
    let chunks := (db.chunks.filter (·.versionId = versionId)).insertionSort fun a b =>
      a.chunkIndex < b.chunkIndex ∨ a.chunkIndex = b.chunkIndex ∧ a.id ≤ b.id
    if run.chunkCount ≠ chunks.length ∨ chunks.isEmpty = true ∨
        chunks.map (·.chunkIndex) ≠ (List.range chunks.length).map Int.ofNat ∨
        chunks.any (fun c => c.sourceId ≠ source.id || c.parserRunId ≠ some run.id) = true then none
    else some run
  | _ => none

/-! ## Permission changes -/

/-- The chunk of a vector document, if it is stored. -/
def chunkOf (db : IngestionState) (documentId : Text) : Option DocumentChunk :=
  (splitOnce (ofChar ':') documentId).bind fun parts =>
  (parseInt parts.2).bind fun id => db.chunks.find? fun c => (c.id : Int) = id

def jsonOf (entries : Entries) (key : Text) : Json := (entries.get key).getD .null

/-- The metadata of the vector document of a chunk. -/
def chunkVectorMetadata (p : Platform) (source : Source) (chunk : DocumentChunk) (version : DocumentVersion)
    (run : DocumentParserRun) (contentHash : Text) : Entries :=
  let sourceMetadata := source.rawMetadata.getD []
  let authorName := jsonOf sourceMetadata (text "author_name")
  let parserMetadata : Entries :=
    [(text "parser_name",.str run.parserName),
      (text "parser_status",.str run.parserStatus),
      (text "parser_status_reason",optionalJson run.parserStatusReason),
      (text "mime_type",.str run.mimeType),
      (text "document_version",.str version.version),
      (text "revision_id",optionalJson run.revisionId),
      (text "content_signature",.str run.contentSignature),
      (text "content_hash",.str contentHash)]++
    [text "section_path",text "page_number"].filterMap fun key => (chunk.metadata.get key).map (key,·)
  Entries.merge
    [(text "chunk_id",.int chunk.id),
      (text "source_pk",.int source.id),
      (text "source_id",.str source.sourceId),
      (text "source_type",.str source.sourceType),
      (text "author",optionalJson source.author),
      (text "author_name",if truthy authorName then authorName else optionalJson source.author),
      (text "channel_name",jsonOf sourceMetadata (text "channel_name")),
      (text "timestamp",.str (strOr p sourceMetadata (text "ts") source.createdAt)),
      (text "created_at_date",jsonOf sourceMetadata (text "created_at_date")),
      (text "category",jsonOf chunk.metadata (text "category")),
      (text "topic_tag",jsonOf chunk.metadata (text "topic_tag")),
      (text "importance",jsonOf chunk.metadata (text "importance")),
      (text "scenario",jsonOf sourceMetadata (text "scenario"))]
    parserMetadata

/-- The hash of the vector document of a chunk of the source, none where its parser authority is unavailable. -/
def refreshedHash (p : Platform) (db : IngestionState) (source : Source) (chunk : DocumentChunk)
    (documentId permissionLevel : Text) : Option Text :=
  match db.versions.find? (·.id = chunk.versionId),
      chunk.parserRunId.bind (fun runId => db.parserRuns.find? (·.id = runId)) with
  | some version, some run =>
    match db.documents.find? (·.id = version.documentId) with
    | none => none
    | some document =>
      if document.sourceId ≠ source.id ∨ document.currentDocumentVersionId ≠ some version.id ∨
          run.documentId ≠ document.id ∨ run.documentVersionId ≠ version.id ∨ run.sourceId ≠ source.id ∨
          run.documentVersionLabel ≠ version.version ∨ source.serverContentSignature = none ∨
          serverParserRunMatchesAuthority p.letters source.toSource run.toDocumentParserRun = false then none
      else (p.textDigest chunk.text).bind fun contentHash =>
        p.plainDigest (.dict
          [(text "document_id",.str documentId),
            (text "text",.str chunk.text),
            (text "source_url",.str source.sourceUrl),
            (text "source_snippet",.str chunk.sourceSnippet),
            (text "permission_level",.str permissionLevel),
            (text "metadata",.dict (chunkVectorMetadata p source chunk version run contentHash))])
  | _, _ => none

/-- `_refresh_chunk_index_state_hash`; none where it raises. -/
def refreshChunkIndexStateHash (p : Platform) (source : Source) (db : IngestionState) (documentId permissionLevel : Text) :
    Option IngestionState :=
  if db.indexStates.any (·.documentId = documentId) = false then some db
  else match chunkOf db documentId with
    | none => some db
    | some chunk => (refreshedHash p db source chunk documentId permissionLevel).map fun contentHash =>
      { db with indexStates := db.indexStates.map fun s =>
          if s.documentId = documentId ∧ s.servingKind = none then { s with contentHash := contentHash } else s }

def DocumentChunk.withPermission (chunk : DocumentChunk) (permissionLevel : Text) : DocumentChunk :=
  { chunk with
    permissionLevel := permissionLevel
    metadata := chunk.metadata.set (Lib.text "permission_level") (.str permissionLevel) }

def sourceChunkDocumentIds (db : IngestionState) (source : Source) : List Text :=
  (db.chunks.filter (·.sourceId = source.id)).map fun c => chunkDocumentId c.id

/-- The new level of a chunk, none where its own is blank. -/
def effectivePermission (p : Platform) (incoming : Text) (chunk : DocumentChunk) : Option Text :=
  (normalizeSourcePermission p chunk.permissionLevel).map fun current => strictest current incoming

/-- The chunk changes its level. -/
def narrows (p : Platform) (incoming : Text) (chunk : DocumentChunk) : Bool :=
  effectivePermission p incoming chunk ≠ normalizeSourcePermission p chunk.permissionLevel

/-- The level and document of each chunk of the source that a known level narrows. -/
def narrowedDocuments (p : Platform) (db : IngestionState) (source : Source) (incoming : Text) : List (Text × Text) :=
  (db.chunks.filter fun c => c.sourceId = source.id && narrows p incoming c).filterMap fun c =>
    (effectivePermission p incoming c).map (·,chunkDocumentId c.id)

/-- `narrowings.items()`, document by document. -/
def narrowingPairs (narrowings : List (Text × List Text)) : List (Text × Text) :=
  narrowings.flatMap fun n => n.2.map (n.1,·)

/-- `_apply_permission_only_change`; none where it raises. -/
def applyPermissionOnlyChange (p : Platform) (db : IngestionState) (source : Source) (incoming : Text)
    (mutations : VectorMutations) : Option (IngestionState × VectorMutations) :=
  if permissionRank incoming = 3 then
    some ({ db with chunks := db.chunks.map fun c =>
        if c.sourceId = source.id then c.withPermission incoming else c },
      { mutations with deleteIds := mutations.deleteIds++sourceChunkDocumentIds db source })
  else
    (db.chunks.mapM fun c => if c.sourceId = source.id then (effectivePermission p incoming c).map c.withPermission
      else some c).bind fun chunks =>
    let narrowings := (narrowedDocuments p db source incoming).foldl (fun narrowings n =>
      addNarrowing narrowings n.1 n.2) mutations.narrowings
    ((narrowingPairs narrowings).foldlM (fun db n => refreshChunkIndexStateHash p source db n.2 n.1)
      ({ db with chunks := chunks } : IngestionState).flush).map fun db =>
    (db,{ mutations with narrowings := narrowings })

/-! ## Unsigned Slack sources -/

/-- `_legacy_slack_event_is_unchanged`, for a stored source. -/
def legacySlackEventIsUnchanged (source : Source) (event : SourceEvent) : Bool :=
  let existing := match source.connectorContentSignature with
    | some t => some (Json.str t)
    | none => source.rawMetadata.get (text "content_signature")
  match existing, connectorContentSignature event with
  | some (.str t), some u => t = u
  | _, _ => true

/-- `_narrow_legacy_slack_permissions`. -/
def narrowLegacySlackPermissions (p : Platform) (batch : Batch) (source : Source) (event : SourceEvent) : Option Batch :=
  (normalizeSourcePermission p source.permissionLevel).bind fun stored =>
  (normalizeSourcePermission p event.permissionLevel).bind fun incoming =>
  let effective := strictest stored incoming
  ((batch.db.chunks.filter (·.sourceId = source.id)).mapM fun c =>
    normalizeSourcePermission p c.permissionLevel).bind fun levels =>
  if source.permissionLevel = effective ∧ levels.any (fun l => permissionRank l < permissionRank effective) = false then
    some batch
  else
    let source : Source := { source with permissionLevel := effective }
    (applyPermissionOnlyChange p (batch.db.putSource source) source effective batch.mutations).map fun changed =>
    { batch with db := changed.1, mutations := changed.2 }

/-- `_persist_legacy_slack_event`. -/
def persistLegacySlackEvent (env : Environment p) (db : IngestionState) (event : SourceEvent) (existing : Option Source) :
    Option IngestionState :=
  (parsedDocumentFromSourceEvent p event none).map fun parsed =>
  let metadata := (event.rawMetadata.set (text "participants") (.list (event.participants.map Json.str))).set
    (text "content_signature") (.str parsed.contentSignature)
  let base : Sources.Source := match existing with
    | none => ⟨freshId (db.sources.map (·.id)),event.sourceType,event.sourceId,event.permissionLevel,some metadata,
        none,none⟩
    | some source => { source.toSource with permissionLevel := event.permissionLevel, rawMetadata := some metadata }
  let source : Source := ⟨base,event.sourceUrl,event.title,event.author,connectorContentSignature event,
    (existing.map (·.createdAt)).getD env.now⟩
  let db := match existing with
    | none => { db.flush with sources := db.sources++[source] }
    | some _ => db.putSource source
  persistParsedDocument db source event.title parsed
    (event.rawMetadata.merge
      [(text "source_id",.str event.sourceId),(text "source_url",.str event.sourceUrl),
        (text "source_type",.str event.sourceType),(text "permission_level",.str event.permissionLevel),
        (text "participants",.list (event.participants.map Json.str)),
        (text "scenario",jsonOf event.rawMetadata (text "scenario"))]) none

/-! ## One event -/

/-- The branch of an event of a canonical source that changed. -/
def ingestChangedEvent (env : Environment p) (batch : Batch) (event : SourceEvent)
    (classification : SourceStateChangeClassification) (signature : CanonicalSourceContentSignature)
    (policy : ServerParserPolicy) : Option Batch :=
  (upsertC5Source env batch.db event (batch.db.source event.sourceId) signature policy).bind fun (db,source) =>
  let changedStates := batch.changedStates++[(source.id,classification)]
  if classification.permissionChanged && !classification.contentChanged && !classification.parserPolicyChanged then
    (normalizeSourcePermission p event.permissionLevel).bind fun incoming =>
    (applyPermissionOnlyChange p db source incoming batch.mutations).map fun changed =>
    ⟨changed.1.flush,changed.2,changedStates⟩
  else
    let oldChunkIds := sourceChunkDocumentIds db source
    let server : ServerParsing := ⟨signature,policy,source.permissionLevel⟩
    (parsedDocumentFromSourceEvent p event (some server)).bind fun parsed =>
    (canonicalSourceMetadata event source.rawMetadata (env.authenticatedMetadata event.sourceId) policy).map fun metadata =>
    let metadata := metadata.merge
      [(text "source_id",.str event.sourceId),(text "source_url",.str event.sourceUrl),
        (text "source_type",.str event.sourceType),(text "permission_level",.str source.permissionLevel),
        (text "participants",.list (event.participants.map Json.str)),
        (text "scenario",jsonOf event.rawMetadata (text "scenario"))]
    ⟨(persistParsedDocument db source event.title parsed metadata (some server)).flush,
      { batch.mutations with deleteIds := batch.mutations.deleteIds++oldChunkIds },changedStates⟩

def ingestCanonicalEvent (env : Environment p) (batch : Batch) (event : SourceEvent) : Option Batch :=
  let existing := batch.db.source event.sourceId
  (canonicalSourceContentSignature p event).bind fun signature =>
  (serverParserPolicyForEvent p event).bind fun policy =>
  (classifySourceStateChange p (existing.map (·.toSource)) event
    (existing.bind fun source => (currentParserRun batch.db source).map (·.toDocumentParserRun)) signature policy).bind
    fun classification =>
  if classification.contentChanged || classification.permissionChanged || classification.parserPolicyChanged then
    ingestChangedEvent env batch event classification signature policy
  else existing.map fun source => { batch with db := advanceUnchangedOperationalState batch.db source event }

def ingestLegacySlackEvent (env : Environment p) (batch : Batch) (event : SourceEvent) : Option Batch :=
  match batch.db.source event.sourceId with
  | none => (persistLegacySlackEvent env batch.db event none).map fun db => { batch with db := db }
  | some source =>
    if source.serverContentSignature.any (· ≠ []) then none
    else if legacySlackEventIsUnchanged source event then narrowLegacySlackPermissions p batch source event
    else (persistLegacySlackEvent env batch.db event (some source)).map fun db => { batch with db := db }

/-- The body of the loop over the events; none where it raises. -/
def ingestEvent (env : Environment p) (batch : Batch) (event : SourceEvent) : Option Batch :=
  let existing := batch.db.source event.sourceId
  if sourceEventIdentityValid event existing = false then none
  else if event.sourceType = text "slack" ∧ env.syntheticSlack = true ∧
      existing.any (fun source => !source.serverContentSignature.any (· ≠ [])) = true then none
  else if event.sourceType = text "slack" ∧ env.syntheticSlack = false then ingestLegacySlackEvent env batch event
  else if env.canonical event = false then none
  else ingestCanonicalEvent env batch event

/-! ## The transaction -/

/-- The row under a narrowing to a level of the documents listed. -/
def narrowRow (writer : VectorWriter p) (level : Text) (ids : List Text) (row : VectorRow) : Option VectorRow :=
  if row.documentId ∈ ids then (writer.narrow level row.permissionLevel).map fun narrowed =>
    { row with permissionLevel := narrowed }
  else some row

/-- One level of the narrowings, for the documents that are not deleted. -/
def narrowVectors (writer : VectorWriter p) (deleteIds tracked : List Text) (result : List VectorRow × Bool)
    (n : Text × List Text) : Option (List VectorRow × Bool) :=
  let ids := n.2.filter (· ∉ deleteIds)
  (result.1.mapM (narrowRow writer n.1 ids)).map fun rows =>
    (rows,result.2 || rows.any (·.documentId ∈ ids) && tracked.any (· ∈ ids))

/-- `_apply_vector_mutations`: the state, and whether a tracked vector was changed. -/
def applyVectorMutations (env : Environment p) (db : IngestionState) (mutations : VectorMutations) :
    Option (IngestionState × Bool) :=
  let allDocumentIds := mutations.deleteIds++mutations.narrowings.flatMap (·.2)
  if allDocumentIds = [] then some (db,false)
  else
    let tracked := (db.indexStates.filter fun s => s.documentId ∈ allDocumentIds && s.servingKind.isSome &&
      s.indexPolicyVersion = some (text "rag-v2-serving-index:v1") && s.status = text "indexed").map (·.documentId)
    let indexStates := db.indexStates.filter (·.documentId ∉ mutations.deleteIds)
    match env.writer with
    | none => some ({ db with indexStates := indexStates },false)
    | some writer =>
      let kept := db.vectors.filter (·.documentId ∉ mutations.deleteIds)
      let deleted := kept.length < db.vectors.length && tracked.any (· ∈ mutations.deleteIds)
      let levels := mutations.narrowings.insertionSort fun a b => permissionRank a.1 ≤ permissionRank b.1
      (levels.foldlM (narrowVectors writer mutations.deleteIds tracked) (kept,deleted)).map fun result =>
      ({ db with indexStates := indexStates, vectors := result.1 },result.2)

/-- The end of the transaction: vectors, generations and the commit. -/
def finishIngestion (env : Environment p) (context : Bool) (batch : Batch) : Option IngestionState :=
  (applyVectorMutations env batch.db batch.mutations).bind fun (db,mutated) =>
  if (mutated || !batch.changedStates.isEmpty) && !context then none
  else some { db.flush with
    vectorIndexGeneration := db.vectorIndexGeneration+(if mutated then 1 else 0)
    corpusGeneration := db.corpusGeneration+(if batch.changedStates.isEmpty then 0 else 1) }

/-- `_ingest_events_transaction`; none where it raises. -/
def ingestEventsTransaction (env : Environment p) (db : IngestionState) (events : List SourceEvent) :
    Option IngestionState :=
  (events.foldlM (ingestEvent env) ⟨db,.empty,[]⟩).bind
    (finishIngestion env (events.any env.canonical))

/-- `ingest_events_with_result`: whether it succeeds, and the committed state. -/
def ingestEventsWithResult (env : Environment p) (db : IngestionState) (events : List SourceEvent) :
    Bool × IngestionState :=
  match ingestEventsTransaction env db events with
  | none => (false,db)
  | some committed => (true,committed)

end ParaWorks.Ingestion
