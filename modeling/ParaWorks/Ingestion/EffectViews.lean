import ParaWorks.Ingestion.Effects

/-!
# Effects on other index states

The effect of an event depends neither on index states and vectors nor on chunks of other sources that are still
pending.
-/

namespace ParaWorks.Ingestion

open Lib Sources

/-- What a call keeps beside the tables of its sources. -/
structure Beside where
  indexStates : List VectorIndexState
  vectors : List VectorRow
  corpusGeneration : Nat
  vectorIndexGeneration : Nat

variable {p : Platform} {env : Environment p} {db db' : IngestionState} {event : SourceEvent} {source : Source}
  {r : Beside}

/-- The flushed tables of the sources beside others. -/
def IngestionState.view (db : IngestionState) (r : Beside) : IngestionState :=
  { db.flush with
    indexStates := r.indexStates
    vectors := r.vectors
    corpusGeneration := r.corpusGeneration
    vectorIndexGeneration := r.vectorIndexGeneration }

def Effect.view (effect : Effect) (r : Beside) : Effect := { effect with db := effect.db.view r }

theorem view_view (db : IngestionState) (r r' : Beside) : (db.view r).view r' = db.view r' := by
  simp [IngestionState.view,IngestionState.flush]

theorem flush_view (db : IngestionState) : db.flush.view r = db.view r := by
  simp [IngestionState.view,IngestionState.flush]

theorem view_flush (db : IngestionState) : (db.view r).flush = db.view r :=
  flush_of_pending rfl

theorem view_allChunks (db : IngestionState) : (db.view r).allChunks = db.allChunks := by
  simp [IngestionState.view,IngestionState.flush,IngestionState.allChunks]

/-- No pending chunk belongs to the source or to the current version of its document. -/
structure PendingElsewhere (db : IngestionState) (source : Source) : Prop where
  chunks : ∀ c ∈ db.pending, c.sourceId ≠ source.id
  versions : ∀ document, db.documentOf source = some document → ∀ c ∈ db.pending,
    some c.versionId ≠ document.currentDocumentVersionId

theorem PendingElsewhere.filter (h : PendingElsewhere db source) (q : DocumentChunk → Bool) :
    (db.view r).chunks.filter (fun c => c.sourceId = source.id && q c) =
      db.chunks.filter fun c => c.sourceId = source.id && q c := by
  have hpending : db.pending.filter (fun c => c.sourceId = source.id && q c) = [] := by
    rw [List.filter_eq_nil_iff]
    intro c hmem
    simp [h.chunks c hmem]
  change (db.chunks++db.pending).filter _ = _
  rw [List.filter_append,hpending,List.append_nil]

theorem PendingElsewhere.sourceFilter (h : PendingElsewhere db source) :
    (db.view r).chunks.filter (·.sourceId = source.id) = db.chunks.filter (·.sourceId = source.id) := by
  simpa using h.filter (r := r) fun _ => true

theorem PendingElsewhere.currentParserRun (h : PendingElsewhere db source) :
    currentParserRun (db.view r) source = currentParserRun db source := by
  unfold Ingestion.currentParserRun
  change (db.documentOf source).bind _ = _
  cases hdocument : db.documentOf source with
  | none => rfl
  | some document =>
    simp only [Option.bind_some]
    cases hversion : document.currentDocumentVersionId with
    | none => rfl
    | some versionId =>
      have hchunks : (db.view r).chunks.filter (·.versionId = versionId) = db.chunks.filter (·.versionId = versionId) := by
        have hpending : db.pending.filter (·.versionId = versionId) = [] := by
          rw [List.filter_eq_nil_iff]
          intro c hmem
          have hne := h.versions document hdocument c hmem
          rw [hversion] at hne
          simpa using hne
        change (db.chunks++db.pending).filter _ = _
        rw [List.filter_append,hpending,List.append_nil]
      simp only [Option.bind_some,hchunks]
      rfl

theorem PendingElsewhere.permissionEffect (h : PendingElsewhere db source) (incoming : Text) :
    (permissionEffect p (db.view r) source incoming).map (·.view r) =
      (permissionEffect p db source incoming).map (·.view r) := by
  have hids : sourceChunkDocumentIds (db.view r) source = sourceChunkDocumentIds db source := by
    unfold sourceChunkDocumentIds
    rw [h.sourceFilter]
  have hnarrowed : narrowedDocuments p (db.view r) source incoming = narrowedDocuments p db source incoming := by
    unfold narrowedDocuments
    rw [h.filter]
  unfold Ingestion.permissionEffect
  split
  · have hpending : (db.pending.map fun c => if c.sourceId = source.id then c.withPermission incoming else c) =
        db.pending := by
      conv_rhs => rw [← List.map_id db.pending]
      exact List.map_congr_left fun c hmem => if_neg (h.chunks c hmem)
    rw [hids]
    simp only [Option.map_some,Effect.view,IngestionState.view,IngestionState.flush,List.map_append,
      hpending,List.append_nil]
  · have hpending : (db.pending.mapM fun c => if c.sourceId = source.id then
        (effectivePermission p incoming c).map c.withPermission else some c) = some db.pending := by
      conv_rhs => rw [← List.map_id db.pending,← mapM_some_map]
      exact mapM_congr_option fun c hmem => if_neg (h.chunks c hmem)
    have hchunks : ((db.view r).chunks.mapM fun c => if c.sourceId = source.id then
        (effectivePermission p incoming c).map c.withPermission else some c) =
        (db.chunks.mapM fun c => if c.sourceId = source.id then
          (effectivePermission p incoming c).map c.withPermission else some c).map (·++db.pending) := by
      change (db.chunks++db.pending).mapM _ = _
      rw [mapM_append_option,hpending]
      cases db.chunks.mapM fun c => if c.sourceId = source.id then
          (effectivePermission p incoming c).map c.withPermission else some c <;> rfl
    rw [hchunks,hnarrowed,Option.map_map,Option.map_map,Option.map_map]
    apply congrArg (Option.map · _)
    funext chunks
    simp [Effect.view,IngestionState.view,IngestionState.flush]

/-- Another row of the source does not change where the pending chunks are. -/
theorem PendingElsewhere.put (h : PendingElsewhere db source) {source' : Source} (hid : source'.id = source.id) :
    PendingElsewhere (db.putSource source') source' :=
  ⟨fun c hmem => hid ▸ h.chunks c hmem,fun document hdocument => h.versions document (by
    rw [← hdocument]
    unfold IngestionState.documentOf
    rw [hid]
    rfl)⟩

theorem upsert_view {existing : Option Source} {signature : CanonicalSourceContentSignature}
    {policy : ServerParserPolicy} : upsertC5Source env (db.view r) event existing signature policy =
      (upsertC5Source env db event existing signature policy).map fun written => (written.1.view r,written.2) := by
  unfold upsertC5Source
  cases canonicalSourceMetadata event (existing.bind (·.rawMetadata)) (env.authenticatedMetadata event.sourceId) policy with
  | none => rfl
  | some metadata =>
  cases normalizeSourcePermission p event.permissionLevel with
  | none => rfl
  | some permission =>
  cases existing with
  | none => simp [IngestionState.view,IngestionState.flush]
  | some source => rfl

/-- After the source row is written its pending chunks are elsewhere. -/
theorem upsert_pending {existing : Option Source} {signature : CanonicalSourceContentSignature}
    {policy : ServerParserPolicy} (h : ∀ source, existing = some source → PendingElsewhere db source)
    (hupsert : upsertC5Source env db event existing signature policy = some (db',source)) :
    PendingElsewhere db' source := by
  unfold upsertC5Source at hupsert
  obtain ⟨metadata,-,hupsert⟩ := Option.bind_eq_some_iff.mp hupsert
  obtain ⟨permission,-,hupsert⟩ := Option.map_eq_some_iff.mp hupsert
  cases existing with
  | none =>
    obtain ⟨rfl,rfl⟩ := Prod.mk.inj hupsert
    exact ⟨by simp [IngestionState.flush],by simp [IngestionState.flush]⟩
  | some old =>
    obtain ⟨rfl,rfl⟩ := Prod.mk.inj hupsert
    exact (h old rfl).put rfl

theorem persist_view {title : Text} {parsed : ParsedDocument} {metadata : Entries} {server : Option ServerParsing} :
    (persistParsedDocument (db.view r) source title parsed metadata server).view r =
      (persistParsedDocument db source title parsed metadata server).view r := by
  have hstored : storedDocument (db.view r) source title parsed.documentVersion =
      storedDocument db source title parsed.documentVersion := rfl
  unfold persistParsedDocument
  rw [view_allChunks,hstored]
  simp [IngestionState.view,IngestionState.flush]

theorem changedEffect_view {classification : SourceStateChangeClassification}
    {signature : CanonicalSourceContentSignature} {policy : ServerParserPolicy}
    (h : ∀ source, db.source event.sourceId = some source → PendingElsewhere db source) :
    (changedEffect env (db.view r) event classification signature policy).map (·.view r) =
      (changedEffect env db event classification signature policy).map (·.view r) := by
  unfold changedEffect
  have hsource : (db.view r).source event.sourceId = db.source event.sourceId := rfl
  rw [hsource,upsert_view]
  cases hupsert : upsertC5Source env db event (db.source event.sourceId) signature policy with
  | none => rfl
  | some written =>
  obtain ⟨db',source⟩ := written
  have hpending := upsert_pending h hupsert
  simp only [Option.map_some,Option.bind_some]
  split
  · cases normalizeSourcePermission p event.permissionLevel with
    | none => rfl
    | some incoming =>
      have heffect := congrArg (Option.map fun effect : Effect =>
        { effect with changed := [(source.id,classification)] }) (hpending.permissionEffect (p := p) (r := r) incoming)
      simp only [Option.bind_some,Option.map_map] at heffect ⊢
      exact heffect
  · cases parsedDocumentFromSourceEvent p event (some ⟨signature,policy,source.permissionLevel⟩) with
    | none => rfl
    | some parsed =>
    cases canonicalSourceMetadata event source.rawMetadata (env.authenticatedMetadata event.sourceId) policy with
    | none => rfl
    | some metadata =>
      have hids : sourceChunkDocumentIds (db'.view r) source = sourceChunkDocumentIds db' source := by
        unfold sourceChunkDocumentIds
        rw [hpending.sourceFilter]
      simp only [Option.bind_some,Option.map_some,Effect.view,persist_view,hids]

theorem canonicalEffect_view
    (h : ∀ source, db.source event.sourceId = some source → PendingElsewhere db source) :
    (canonicalEffect env (db.view r) event).map (·.view r) = (canonicalEffect env db event).map (·.view r) := by
  unfold canonicalEffect
  have hsource : (db.view r).source event.sourceId = db.source event.sourceId := rfl
  have hrun : ((db.source event.sourceId).bind fun source =>
      (currentParserRun (db.view r) source).map (·.toDocumentParserRun)) =
      (db.source event.sourceId).bind fun source => (currentParserRun db source).map (·.toDocumentParserRun) := by
    cases hs : db.source event.sourceId with
    | none => rfl
    | some source => rw [Option.bind_some,Option.bind_some,(h source hs).currentParserRun]
  rw [hsource,hrun]
  cases canonicalSourceContentSignature p event with
  | none => rfl
  | some signature =>
  cases serverParserPolicyForEvent p event with
  | none => rfl
  | some policy =>
  simp only [Option.bind_some]
  cases classifySourceStateChange p ((db.source event.sourceId).map (·.toSource)) event
      ((db.source event.sourceId).bind fun source => (currentParserRun db source).map (·.toDocumentParserRun))
      signature policy with
  | none => rfl
  | some classification =>
  simp only [Option.bind_some]
  split
  · exact changedEffect_view h
  · cases db.source event.sourceId with
    | none => rfl
    | some source =>
      simp only [Option.map_some,Effect.view,advanceUnchangedOperationalState]
      apply congrArg some
      simp [IngestionState.view,IngestionState.flush,IngestionState.putSource]

theorem persist_view_congr {db₁ db₂ : IngestionState} {title : Text} {parsed : ParsedDocument} {metadata : Entries}
    {server : Option ServerParsing} (h : db₁.view r = db₂.view r) :
    (persistParsedDocument db₁ source title parsed metadata server).view r =
      (persistParsedDocument db₂ source title parsed metadata server).view r := by
  rw [← persist_view,h,persist_view]

theorem persistLegacy_view (existing : Option Source) :
    (persistLegacySlackEvent env (db.view r) event existing).map (·.view r) =
      (persistLegacySlackEvent env db event existing).map (·.view r) := by
  unfold persistLegacySlackEvent
  cases parsedDocumentFromSourceEvent p event none with
  | none => rfl
  | some parsed =>
    cases existing with
    | none =>
      apply congrArg some
      apply persist_view_congr
      simp [IngestionState.view,IngestionState.flush]
    | some source =>
      apply congrArg some
      apply persist_view_congr
      simp [IngestionState.view,IngestionState.flush,IngestionState.putSource]

theorem legacyNarrowing_view (h : PendingElsewhere db source) :
    (legacyNarrowingEffect p (db.view r) source event).map (·.view r) =
      (legacyNarrowingEffect p db source event).map (·.view r) := by
  unfold legacyNarrowingEffect
  rw [h.sourceFilter]
  cases normalizeSourcePermission p source.permissionLevel with
  | none => rfl
  | some stored =>
  cases normalizeSourcePermission p event.permissionLevel with
  | none => rfl
  | some incoming =>
  simp only [Option.bind_some]
  cases (db.chunks.filter (·.sourceId = source.id)).mapM fun c => normalizeSourcePermission p c.permissionLevel with
  | none => rfl
  | some levels =>
  simp only [Option.bind_some]
  split
  · apply congrArg some
    simp only [Effect.view,view_view]
  · have hput : PendingElsewhere (db.putSource { source with permissionLevel := strictest stored incoming })
        { source with permissionLevel := strictest stored incoming } := h.put rfl
    exact hput.permissionEffect _

theorem legacyEffect_view (h : ∀ source, db.source event.sourceId = some source → PendingElsewhere db source) :
    (legacyEffect env (db.view r) event).map (·.view r) = (legacyEffect env db event).map (·.view r) := by
  have hpersist : ∀ existing, ((persistLegacySlackEvent env (db.view r) event existing).map fun db =>
      (⟨db,[],[],none,[]⟩ : Effect)).map (·.view r) = ((persistLegacySlackEvent env db event existing).map fun db =>
        (⟨db,[],[],none,[]⟩ : Effect)).map (·.view r) := by
    intro existing
    have hlegacy : (persistLegacySlackEvent env (db.view r) event existing).map (·.view r) =
        (persistLegacySlackEvent env db event existing).map (·.view r) := persistLegacy_view existing
    have hview := congrArg (Option.map fun db => (⟨db,[],[],none,[]⟩ : Effect)) hlegacy
    simp only [Option.map_map] at hview ⊢
    exact hview
  unfold legacyEffect
  have hsource : (db.view r).source event.sourceId = db.source event.sourceId := rfl
  rw [hsource]
  cases hs : db.source event.sourceId with
  | none => exact hpersist none
  | some source =>
    dsimp only
    split
    · rfl
    · split
      · exact legacyNarrowing_view (h source hs)
      · exact hpersist (some source)

/-- The effect of an event on other index states, vectors and pending chunks. -/
theorem eventEffect_view (h : ∀ source, db.source event.sourceId = some source → PendingElsewhere db source) :
    (eventEffect env (db.view r) event).map (·.view r) = (eventEffect env db event).map (·.view r) := by
  unfold eventEffect
  have hsource : (db.view r).source event.sourceId = db.source event.sourceId := rfl
  rw [hsource]
  split
  · rfl
  split
  · rfl
  split
  · exact legacyEffect_view h
  split
  · rfl
  · exact canonicalEffect_view h

end ParaWorks.Ingestion
