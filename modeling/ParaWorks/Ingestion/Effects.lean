import ParaWorks.Ingestion.PermissionChanges

/-!
# What an event does to its call

An event changes the tables of its own source, and adds deletions or narrowings to the mutations that the events of
a call share.
-/

namespace ParaWorks.Ingestion

open Lib Sources

variable {p : Platform}

/-- The tables after an event, the mutations it adds, and the source whose narrowings it refreshes. -/
structure Effect where
  db : IngestionState
  deletes : List Text
  narrowed : List (Text × Text)
  refresh : Option Source
  changed : List (Nat × SourceStateChangeClassification)

def permissionEffect (p : Platform) (db : IngestionState) (source : Source) (incoming : Text) : Option Effect :=
  if permissionRank incoming = 3 then
    some ⟨{ db with chunks := db.chunks.map fun c =>
        if c.sourceId = source.id then c.withPermission incoming else c },sourceChunkDocumentIds db source,[],none,[]⟩
  else
    (db.chunks.mapM fun c => if c.sourceId = source.id then (effectivePermission p incoming c).map c.withPermission
      else some c).map fun chunks =>
    ⟨({ db with chunks := chunks } : IngestionState).flush,[],narrowedDocuments p db source incoming,some source,[]⟩

def changedEffect (env : Environment p) (db : IngestionState) (event : SourceEvent)
    (classification : SourceStateChangeClassification) (signature : CanonicalSourceContentSignature)
    (policy : ServerParserPolicy) : Option Effect :=
  (upsertC5Source env db event (db.source event.sourceId) signature policy).bind fun (db,source) =>
  if classification.permissionChanged && !classification.contentChanged && !classification.parserPolicyChanged then
    (normalizeSourcePermission p event.permissionLevel).bind fun incoming =>
    (permissionEffect p db source incoming).map fun effect => { effect with changed := [(source.id,classification)] }
  else
    let server : ServerParsing := ⟨signature,policy,source.permissionLevel⟩
    (parsedDocumentFromSourceEvent p event (some server)).bind fun parsed =>
    (canonicalSourceMetadata event source.rawMetadata (env.authenticatedMetadata event.sourceId) policy).map fun metadata =>
    let metadata := metadata.merge
      [(text "source_id",.str event.sourceId),(text "source_url",.str event.sourceUrl),
        (text "source_type",.str event.sourceType),(text "permission_level",.str source.permissionLevel),
        (text "participants",.list (event.participants.map Json.str)),
        (text "scenario",jsonOf event.rawMetadata (text "scenario"))]
    ⟨persistParsedDocument db source event.title parsed metadata (some server),sourceChunkDocumentIds db source,[],none,
      [(source.id,classification)]⟩

def canonicalEffect (env : Environment p) (db : IngestionState) (event : SourceEvent) : Option Effect :=
  (canonicalSourceContentSignature p event).bind fun signature =>
  (serverParserPolicyForEvent p event).bind fun policy =>
  (classifySourceStateChange p ((db.source event.sourceId).map (·.toSource)) event
    ((db.source event.sourceId).bind fun source => (currentParserRun db source).map (·.toDocumentParserRun))
    signature policy).bind fun classification =>
  if classification.contentChanged || classification.permissionChanged || classification.parserPolicyChanged then
    changedEffect env db event classification signature policy
  else (db.source event.sourceId).map fun source =>
    ⟨advanceUnchangedOperationalState db source event,[],[],none,[]⟩

def legacyNarrowingEffect (p : Platform) (db : IngestionState) (source : Source) (event : SourceEvent) : Option Effect :=
  (normalizeSourcePermission p source.permissionLevel).bind fun stored =>
  (normalizeSourcePermission p event.permissionLevel).bind fun incoming =>
  let effective := strictest stored incoming
  ((db.chunks.filter (·.sourceId = source.id)).mapM fun c => normalizeSourcePermission p c.permissionLevel).bind fun levels =>
  if source.permissionLevel = effective ∧ levels.any (fun l => permissionRank l < permissionRank effective) = false then
    some ⟨db,[],[],none,[]⟩
  else
    let source : Source := { source with permissionLevel := effective }
    permissionEffect p (db.putSource source) source effective

def legacyEffect (env : Environment p) (db : IngestionState) (event : SourceEvent) : Option Effect :=
  match db.source event.sourceId with
  | none => (persistLegacySlackEvent env db event none).map fun db => ⟨db,[],[],none,[]⟩
  | some source =>
    if source.serverContentSignature.any (· ≠ []) then none
    else if legacySlackEventIsUnchanged source event then legacyNarrowingEffect p db source event
    else (persistLegacySlackEvent env db event (some source)).map fun db => ⟨db,[],[],none,[]⟩

def eventEffect (env : Environment p) (db : IngestionState) (event : SourceEvent) : Option Effect :=
  if sourceEventIdentityValid event (db.source event.sourceId) = false then none
  else if event.sourceType = text "slack" ∧ env.syntheticSlack = true ∧
      (db.source event.sourceId).any (fun source => !source.serverContentSignature.any (· ≠ [])) = true then none
  else if event.sourceType = text "slack" ∧ env.syntheticSlack = false then legacyEffect env db event
  else if env.canonical event = false then none
  else canonicalEffect env db event

/-- The narrowings of a call after those of one event. -/
def addNarrowings (narrowings : List (Text × List Text)) (added : List (Text × Text)) : List (Text × List Text) :=
  added.foldl (fun narrowings n => addNarrowing narrowings n.1 n.2) narrowings

/-- The refresh of all narrowings of a call against one source. -/
def refreshAll (p : Platform) (db : IngestionState) (refresh : Option Source) (narrowings : List (Text × List Text)) :
    Option IngestionState :=
  match refresh with
  | none => some db
  | some source =>
    (narrowingPairs narrowings).foldlM (fun db n => refreshChunkIndexStateHash p source db n.2 n.1) db

def applyEffect (p : Platform) (batch : Batch) (effect : Effect) : Option Batch :=
  (refreshAll p effect.db effect.refresh (addNarrowings batch.mutations.narrowings effect.narrowed)).map fun db =>
  ⟨db,⟨batch.mutations.deleteIds++effect.deletes,addNarrowings batch.mutations.narrowings effect.narrowed⟩,
    batch.changedStates++effect.changed⟩

def Batch.flush (batch : Batch) : Batch := { batch with db := batch.db.flush }

/-! ## Events by their effects -/

section effects

variable {env : Environment p} {batch : Batch} {event : SourceEvent}

theorem flush_flush (db : IngestionState) : db.flush.flush = db.flush := by
  simp [IngestionState.flush]

theorem flush_of_pending {db : IngestionState} (h : db.pending = []) : db.flush = db := by
  rw [IngestionState.flush,h,List.append_nil,← h]

theorem applyPermissionOnlyChange_effect (db : IngestionState) (source : Source) (incoming : Text)
    (changed : List (Nat × SourceStateChangeClassification)) :
    ((applyPermissionOnlyChange p db source incoming batch.mutations).map fun result =>
      (⟨result.1,result.2,batch.changedStates++changed⟩ : Batch)) =
    ((permissionEffect p db source incoming).map fun effect => { effect with changed := changed }).bind
      (applyEffect p batch) := by
  unfold applyPermissionOnlyChange permissionEffect
  split
  · rfl
  · cases db.chunks.mapM fun c => if c.sourceId = source.id then (effectivePermission p incoming c).map c.withPermission
        else some c with
    | none => rfl
    | some chunks =>
      simp only [Option.bind_some,Option.map_some,applyEffect,refreshAll,List.append_nil,Option.map_map]
      rfl

theorem permissionEffect_changed {db : IngestionState} {source : Source} {incoming : Text} :
    ((permissionEffect p db source incoming).map fun effect => { effect with changed := [] }) =
      permissionEffect p db source incoming := by
  unfold permissionEffect
  split
  · rfl
  · rw [Option.map_map]
    rfl

theorem persist_effect (db : IngestionState) (deletes : List Text)
    (changed : List (Nat × SourceStateChangeClassification)) :
    applyEffect p batch ⟨db,deletes,[],none,changed⟩ =
      some ⟨db,{ batch.mutations with deleteIds := batch.mutations.deleteIds++deletes },batch.changedStates++changed⟩ := rfl

theorem idle_effect (db : IngestionState) : applyEffect p batch ⟨db,[],[],none,[]⟩ = some { batch with db := db } := by
  rw [persist_effect,List.append_nil,List.append_nil]

theorem narrowLegacy_effect {source : Source} : narrowLegacySlackPermissions p batch source event =
    (legacyNarrowingEffect p batch.db source event).bind (applyEffect p batch) := by
  unfold narrowLegacySlackPermissions legacyNarrowingEffect
  cases normalizeSourcePermission p source.permissionLevel with
  | none => rfl
  | some stored =>
  cases normalizeSourcePermission p event.permissionLevel with
  | none => rfl
  | some incoming =>
  simp only [Option.bind_some]
  cases (batch.db.chunks.filter (·.sourceId = source.id)).mapM fun c => normalizeSourcePermission p c.permissionLevel with
  | none => rfl
  | some levels =>
  simp only [Option.bind_some]
  split
  · exact (idle_effect batch.db).symm
  · rw [← permissionEffect_changed,← applyPermissionOnlyChange_effect,List.append_nil]

theorem ingestLegacy_effect : ingestLegacySlackEvent env batch event =
    (legacyEffect env batch.db event).bind (applyEffect p batch) := by
  have hpersist : ∀ existing, ((persistLegacySlackEvent env batch.db event existing).map fun db =>
      ({ batch with db := db } : Batch)) = ((persistLegacySlackEvent env batch.db event existing).map fun db =>
        (⟨db,[],[],none,[]⟩ : Effect)).bind (applyEffect p batch) := by
    intro existing
    cases persistLegacySlackEvent env batch.db event existing with
    | none => rfl
    | some db => exact (idle_effect db).symm
  unfold ingestLegacySlackEvent legacyEffect
  cases batch.db.source event.sourceId with
  | none => exact hpersist none
  | some source =>
    dsimp only
    by_cases hsigned : source.serverContentSignature.any (· ≠ []) = true
    · rw [if_pos hsigned,if_pos hsigned]
      rfl
    · rw [if_neg hsigned,if_neg hsigned]
      by_cases hunchanged : legacySlackEventIsUnchanged source event = true
      · rw [if_pos hunchanged,if_pos hunchanged]
        exact narrowLegacy_effect
      · rw [if_neg hunchanged,if_neg hunchanged]
        exact hpersist (some source)

theorem ingestChanged_effect {classification : SourceStateChangeClassification}
    {signature : CanonicalSourceContentSignature} {policy : ServerParserPolicy} :
    ingestChangedEvent env batch event classification signature policy =
      ((changedEffect env batch.db event classification signature policy).bind (applyEffect p batch)).map
        Batch.flush := by
  unfold ingestChangedEvent changedEffect
  cases upsertC5Source env batch.db event (batch.db.source event.sourceId) signature policy with
  | none => rfl
  | some written =>
  obtain ⟨db,source⟩ := written
  simp only [Option.bind_some]
  split
  · cases normalizeSourcePermission p event.permissionLevel with
    | none => rfl
    | some incoming =>
      simp only [Option.bind_some]
      rw [← applyPermissionOnlyChange_effect,Option.map_map]
      rfl
  · cases parsedDocumentFromSourceEvent p event (some ⟨signature,policy,source.permissionLevel⟩) with
    | none => rfl
    | some parsed =>
    cases canonicalSourceMetadata event source.rawMetadata (env.authenticatedMetadata event.sourceId) policy with
    | none => rfl
    | some metadata =>
      rfl

theorem ingestCanonical_effect :
    ingestCanonicalEvent env batch event = (canonicalEffect env batch.db event).bind (applyEffect p batch) ∨
    ingestCanonicalEvent env batch event =
      ((canonicalEffect env batch.db event).bind (applyEffect p batch)).map Batch.flush := by
  unfold ingestCanonicalEvent canonicalEffect
  cases canonicalSourceContentSignature p event with
  | none => exact .inl rfl
  | some signature =>
  cases serverParserPolicyForEvent p event with
  | none => exact .inl rfl
  | some policy =>
  simp only [Option.bind_some]
  cases classifySourceStateChange p ((batch.db.source event.sourceId).map (·.toSource)) event
      ((batch.db.source event.sourceId).bind fun source =>
        (currentParserRun batch.db source).map (·.toDocumentParserRun)) signature policy with
  | none => exact .inl rfl
  | some classification =>
  simp only [Option.bind_some]
  split
  · exact .inr ingestChanged_effect
  · apply Or.inl
    cases batch.db.source event.sourceId with
    | none => rfl
    | some source => exact (idle_effect _).symm

/-- An event does to its call what its effect says, and may flush the pending chunks. -/
theorem ingestEvent_effect (env : Environment p) (batch : Batch) (event : SourceEvent) :
    ingestEvent env batch event = (eventEffect env batch.db event).bind (applyEffect p batch) ∨
    ingestEvent env batch event = ((eventEffect env batch.db event).bind (applyEffect p batch)).map Batch.flush := by
  unfold ingestEvent eventEffect
  dsimp only
  split
  · exact .inl rfl
  split
  · exact .inl rfl
  split
  · exact .inl ingestLegacy_effect
  split
  · exact .inl rfl
  · exact ingestCanonical_effect

end effects

end ParaWorks.Ingestion
