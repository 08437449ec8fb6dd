import ParaWorks.Ingestion.Permissions

/-!
# Permissions over one event

Each branch of the loop over events is a change that keeps the invariant of the call.
-/

namespace ParaWorks.Ingestion

open Lib Sources

variable {p : Platform} {db db' : IngestionState} {m m' : VectorMutations} {source : Source}

/-! ## The source row -/

theorem putSource_ids (db : IngestionState) (source : Source) :
    (db.putSource source).sources.map (·.id) = db.sources.map (·.id) := by
  change (db.sources.map fun s => if s.id = source.id then source else s).map (·.id) = _
  rw [List.map_map]
  apply List.map_congr_left
  intro s _
  dsimp only [Function.comp]
  split
  · next h => exact h.symm
  · rfl

theorem mem_putSource {s : Source} (h : s ∈ (db.putSource source).sources) :
    s = source ∨ s ∈ db.sources ∧ s.id ≠ source.id := by
  obtain ⟨t,ht,hs⟩ := List.mem_map.mp h
  split at hs
  · exact .inl hs.symm
  · next hne => exact .inr (hs ▸ ⟨ht,hne⟩)

theorem putSource_keeps {s : Source} (h : s ∈ db.sources) : ∃ s' ∈ (db.putSource source).sources, s'.id = s.id := by
  have hmem : s.id ∈ (db.putSource source).sources.map (·.id) := by
    rw [putSource_ids]
    exact List.mem_map_of_mem h
  obtain ⟨s',hs',hid⟩ := List.mem_map.mp hmem
  exact ⟨s',hs',hid⟩

/-- Chunks stay at least as strict as their sources where those of one source are as strict as its new level. -/
theorem strict_putSource (hc : Covered p db m) {c : DocumentChunk} (hmem : c ∈ db.allChunks)
    (hle : c.sourceId = source.id → strictness p source.permissionLevel ≤ strictness p c.permissionLevel) :
    ∀ s ∈ (db.putSource source).sources, s.id = c.sourceId →
      strictness p s.permissionLevel ≤ strictness p c.permissionLevel := by
  intro s hs hid
  rcases mem_putSource hs with rfl | ⟨hs,-⟩
  · exact hle hid.symm
  · exact hc.strict c hmem s hs hid

/-- A source row may change as long as its chunks are as strict as its new level. -/
theorem putSource_change (hc : Covered p db m)
    (hle : ∀ c ∈ db.allChunks, c.sourceId = source.id →
      strictness p source.permissionLevel ≤ strictness p c.permissionLevel) :
    Change p db (db.putSource source) m m db.allChunks [] where
  sourceIds := by rw [putSource_ids]; exact hc.sourceIds
  sources := fun s hs => putSource_keeps hs
  chunks := (List.append_nil _).symm
  olds := List.forall₂_same.mpr fun c _ => ChunkKept.refl m c
  newIds := List.nodup_nil
  fresh := by simp
  newOwned := by simp
  strict := fun c hmem => strict_putSource hc hmem (hle c hmem)
  vectors := rfl
  states := fun s hs => ⟨s,hs,rfl⟩
  deletes := fun _ h => h
  narrowings := fun _ h => h

/-! ## Permission changes -/

/-- Refreshing hashes changes nothing but the hashes of index states. -/
structure Refreshed (db db' : IngestionState) : Prop where
  sources : db'.sources = db.sources
  chunks : db'.chunks = db.chunks
  pending : db'.pending = db.pending
  vectors : db'.vectors = db.vectors
  states : ∀ s' ∈ db'.indexStates, ∃ s ∈ db.indexStates, s.documentId = s'.documentId

theorem Refreshed.step {db₀ : IngestionState} (h : Refreshed db₀ db) {documentId level : Text}
    (hrefresh : refreshChunkIndexStateHash p source db documentId level = some db') : Refreshed db₀ db' := by
  unfold refreshChunkIndexStateHash at hrefresh
  split at hrefresh
  · obtain rfl := Option.some.inj hrefresh
    exact h
  · split at hrefresh
    · obtain rfl := Option.some.inj hrefresh
      exact h
    · obtain ⟨contentHash,-,rfl⟩ := Option.map_eq_some_iff.mp hrefresh
      refine ⟨h.sources,h.chunks,h.pending,h.vectors,fun s' hs' => ?_⟩
      obtain ⟨s,hs,rfl⟩ := List.mem_map.mp hs'
      obtain ⟨t,ht,hdocument⟩ := h.states s hs
      refine ⟨t,ht,?_⟩
      rw [hdocument]
      split <;> rfl

theorem refreshed_of_loop {narrowings : List (Text × Text)}
    (h : narrowings.foldlM (fun db n => refreshChunkIndexStateHash p source db n.2 n.1) db = some db') :
    Refreshed db db' :=
  foldlM_keeps (P := Refreshed db) (fun _ _ _ hstep hkept => hkept.step hstep) h
    ⟨rfl,rfl,rfl,rfl,fun s hs => ⟨s,hs,rfl⟩⟩

theorem withPermission_kept {c : DocumentChunk} {level : Text}
    (hle : strictness p c.permissionLevel ≤ strictness p level)
    (hvectors : strictness p level = strictness p c.permissionLevel ∨ chunkDocumentId c.id ∈ m.deleteIds ∨
      strictness p level ≠ 3 ∧ ∃ level', (level',chunkDocumentId c.id) ∈ narrowingPairs m.narrowings ∧
        strictness p level ≤ strictness p level') : ChunkKept p m c (c.withPermission level) :=
  ⟨rfl,rfl,rfl,hle,hvectors⟩

theorem mem_sourceChunkDocumentIds {c : DocumentChunk} (hmem : c ∈ db.chunks) (hsource : c.sourceId = source.id) :
    chunkDocumentId c.id ∈ sourceChunkDocumentIds db source :=
  List.mem_map.mpr ⟨c,List.mem_filter.mpr ⟨hmem,by simpa using hsource⟩,rfl⟩

/-- An unknown level goes to all flushed chunks of the source, whose vectors are deleted. -/
theorem unknown_change (hc : Covered p db m) {incoming : Text} (hunknown : strictness p incoming = 3)
    (hlevel : strictness p source.permissionLevel = strictness p incoming)
    (hpending : ∀ c ∈ db.pending, c.sourceId = source.id →
      strictness p incoming ≤ strictness p c.permissionLevel) :
    Change p db
      { db.putSource source with chunks := db.chunks.map fun c =>
          if c.sourceId = source.id then c.withPermission incoming else c }
      m { m with deleteIds := m.deleteIds++sourceChunkDocumentIds (db.putSource source) source }
      ((db.chunks.map fun c => if c.sourceId = source.id then c.withPermission incoming else c)++db.pending) [] where
  sourceIds := by
    change ((db.putSource source).sources.map (·.id)).Nodup
    rw [putSource_ids]
    exact hc.sourceIds
  sources := fun s hs => putSource_keeps hs
  chunks := (List.append_nil _).symm
  olds := by
    apply List.rel_append
    · rw [List.forall₂_map_right_iff]
      apply List.forall₂_same.mpr
      intro c hmem
      split
      · next hsource =>
        apply withPermission_kept
        · rw [hunknown]
          exact strictness_le _
        · exact .inr (.inl (List.mem_append_right _ (mem_sourceChunkDocumentIds hmem hsource)))
      · exact ChunkKept.refl _ c
    · exact List.forall₂_same.mpr fun c _ => ChunkKept.refl _ c
  newIds := List.nodup_nil
  fresh := by simp
  newOwned := by simp
  strict := by
    intro c hmem
    rcases List.mem_append.mp hmem with hmem | hmem
    · obtain ⟨d,hd,rfl⟩ := List.mem_map.mp hmem
      split
      · intro s _ _
        change strictness p s.permissionLevel ≤ strictness p incoming
        rw [hunknown]
        exact strictness_le _
      · next hne => exact strict_putSource hc (List.mem_append_left _ hd) fun h => absurd h hne
    · refine strict_putSource hc (List.mem_append_right _ hmem) fun h => ?_
      rw [hlevel]
      exact hpending c hmem h
  vectors := rfl
  states := fun s hs => ⟨s,hs,rfl⟩
  deletes := fun _ h => List.mem_append_left _ h
  narrowings := fun _ h => h

/-- The chunks of the source under a known level, each with its effective level. -/
theorem known_chunks {incoming : Text} {narrowings : List (Text × List Text)} {chunks : List DocumentChunk}
    (hincoming : strictness p incoming = permissionRank incoming) (hknown : permissionRank incoming ≠ 3)
    (hnarrowings : ∀ n ∈ narrowedDocuments p db source incoming, n ∈ narrowingPairs narrowings)
    (hchunks : (db.chunks.mapM fun c => if c.sourceId = source.id then
      (effectivePermission p incoming c).map c.withPermission else some c) = some chunks) :
    List.Forall₂ (fun c c' => ChunkKept p { m with narrowings := narrowings } c c' ∧
      (c.sourceId = source.id → strictness p incoming ≤ strictness p c'.permissionLevel)) db.chunks chunks := by
  rw [mapM_eq_some_iff] at hchunks
  have hmem : List.Forall₂ (fun c c' => c ∈ db.chunks ∧ (if c.sourceId = source.id then
      (effectivePermission p incoming c).map c.withPermission else some c) = some c') db.chunks chunks :=
    List.forall₂_and_left _ _ |>.mpr ⟨fun c hc => hc,hchunks⟩
  refine hmem.imp ?_
  rintro c c' ⟨hc,hc'⟩
  split at hc'
  · next hsource =>
    obtain ⟨level,hlevel,rfl⟩ := Option.map_eq_some_iff.mp hc'
    have hmax : strictness p level = max (strictness p c.permissionLevel) (strictness p incoming) :=
      effectivePermission_spec hincoming hlevel
    have hcase := effectivePermission_narrows hlevel
    refine ⟨withPermission_kept (by omega) ?_,fun _ => by
      change strictness p incoming ≤ strictness p level
      omega⟩
    by_cases hnarrows : narrows p incoming c = true
    · rw [if_pos hnarrows] at hcase
      refine .inr (.inr ⟨by rw [hcase,hincoming]; exact hknown,level,?_,le_rfl⟩)
      apply hnarrowings
      refine List.mem_filterMap.mpr ⟨c,List.mem_filter.mpr ⟨hc,by simp [hsource,hnarrows]⟩,?_⟩
      rw [hlevel]
      rfl
    · rw [if_neg hnarrows] at hcase
      exact .inl hcase
  · next hother =>
    obtain rfl := Option.some.inj hc'
    exact ⟨ChunkKept.refl _ c,fun h => absurd h hother⟩

/-- `_apply_permission_only_change` after the source row took the level. -/
theorem applyPermissionOnlyChange_change (hc : Covered p db m) {incoming : Text}
    (hincoming : strictness p incoming = permissionRank incoming)
    (hlevel : strictness p source.permissionLevel = strictness p incoming)
    (hpending : ∀ c ∈ db.pending, c.sourceId = source.id → strictness p incoming ≤ strictness p c.permissionLevel)
    (h : applyPermissionOnlyChange p (db.putSource source) source incoming m = some (db',m')) :
    ∃ olds, Change p db db' m m' olds [] := by
  unfold applyPermissionOnlyChange at h
  split at h
  · next hunknown =>
    obtain ⟨rfl,rfl⟩ := Prod.mk.inj (Option.some.inj h)
    exact ⟨_,unknown_change hc (hincoming.trans hunknown) hlevel hpending⟩
  · next hknown =>
    obtain ⟨chunks,hchunks,h⟩ := Option.bind_eq_some_iff.mp h
    obtain ⟨refreshed,hrefreshed,h⟩ := Option.map_eq_some_iff.mp h
    obtain ⟨rfl,rfl⟩ := Prod.mk.inj h
    have hloop := refreshed_of_loop hrefreshed
    have hadded : ∀ n ∈ narrowedDocuments p (db.putSource source) source incoming, n ∈ narrowingPairs
        ((narrowedDocuments p (db.putSource source) source incoming).foldl (fun narrowings n =>
          addNarrowing narrowings n.1 n.2) m.narrowings) := fun n hn => mem_addNarrowings.mpr (.inr hn)
    have holds := known_chunks (m := m) hincoming hknown hadded hchunks
    refine ⟨chunks++db.pending,?_,?_,?_,?_,List.nodup_nil,by simp,by simp,?_,hloop.vectors,?_,fun _ h => h,?_⟩
    · rw [hloop.sources]
      change ((db.putSource source).sources.map (·.id)).Nodup
      rw [putSource_ids]
      exact hc.sourceIds
    · rw [hloop.sources]
      exact fun s hs => putSource_keeps hs
    · rw [IngestionState.allChunks,hloop.chunks,hloop.pending]
      rfl
    · exact List.rel_append (holds.imp fun _ _ hkept => hkept.1)
        (List.forall₂_same.mpr fun c _ => ChunkKept.refl _ c)
    · intro c' hc' s hs hid
      rw [hloop.sources] at hs
      rw [IngestionState.allChunks,hloop.chunks,hloop.pending] at hc'
      have hmem : c' ∈ chunks++db.pending := by
        simpa [IngestionState.flush,IngestionState.putSource] using hc'
      rcases List.mem_append.mp hmem with hmem | hmem
      · obtain ⟨c,hcmem,hkept,hsource⟩ := forall₂_mem_right holds hmem
        rcases mem_putSource hs with rfl | ⟨hs,-⟩
        · rw [hlevel]
          exact hsource (hkept.sourceId.symm.trans hid.symm)
        · exact (hc.strict c (List.mem_append_left _ hcmem) s hs (hid.trans hkept.sourceId)).trans hkept.stricter
      · exact strict_putSource hc (List.mem_append_right _ hmem) (fun hsource => by
          rw [hlevel]
          exact hpending c' hmem hsource) s hs hid
    · exact hloop.states
    · exact fun n hn => mem_addNarrowings.mpr (.inl hn)

/-! ## New content -/

theorem Change.flush {olds new : List DocumentChunk} (h : Change p db db' m m' olds new) :
    Change p db db'.flush m m' olds new := by
  have hall : db'.flush.allChunks = db'.allChunks := by simp [IngestionState.flush,IngestionState.allChunks]
  exact ⟨h.sourceIds,h.sources,hall.trans h.chunks,h.olds,h.newIds,h.fresh,h.newOwned,
    fun c hmem => h.strict c (hall ▸ hmem),h.vectors,h.states,h.deletes,h.narrowings⟩

/-- The tables after the source row of an event with new content was written. -/
structure SourceWritten (p : Platform) (db db₁ : IngestionState) (source : Source) : Prop where
  sourceIds : (db₁.sources.map (·.id)).Nodup
  sources : ∀ s ∈ db.sources, ∃ s' ∈ db₁.sources, s'.id = s.id
  mem : source ∈ db₁.sources
  chunks : db₁.allChunks = db.allChunks
  vectors : db₁.vectors = db.vectors
  states : db₁.indexStates = db.indexStates
  strict : ∀ c ∈ db.allChunks, ∀ s ∈ db₁.sources, s.id = c.sourceId →
    strictness p s.permissionLevel ≤ strictness p c.permissionLevel

theorem sourceWritten_put (hc : Covered p db m) {old : Source} (hold : old ∈ db.sources) (hid : old.id = source.id)
    (hle : ∀ c ∈ db.allChunks, c.sourceId = source.id →
      strictness p source.permissionLevel ≤ strictness p c.permissionLevel) :
    SourceWritten p db (db.putSource source) source where
  sourceIds := by rw [putSource_ids]; exact hc.sourceIds
  sources := fun s hs => putSource_keeps hs
  mem := List.mem_map.mpr ⟨old,hold,if_pos hid⟩
  chunks := rfl
  vectors := rfl
  states := rfl
  strict := fun c hmem => strict_putSource hc hmem (hle c hmem)

theorem sourceWritten_new (hc : Covered p db m) (hid : source.id = freshId (db.sources.map (·.id))) :
    SourceWritten p db { db.flush with sources := db.sources++[source] } source := by
  have hfresh : ∀ s ∈ db.sources, s.id ≠ source.id := by
    intro s hs heq
    have hlt := lt_freshId (List.mem_map_of_mem (f := fun s : Source => s.id) hs)
    omega
  refine ⟨?_,?_,by simp,by simp [IngestionState.flush,IngestionState.allChunks],rfl,rfl,?_⟩
  · rw [List.map_append,List.nodup_append]
    refine ⟨hc.sourceIds,by simp,?_⟩
    intro i hi j hj
    obtain ⟨s,hs,rfl⟩ := List.mem_map.mp hi
    obtain rfl : j = source.id := by simpa using hj
    exact hfresh s hs
  · exact fun s hs => ⟨s,List.mem_append_left _ hs,rfl⟩
  · intro c hmem s hs hsid
    rcases List.mem_append.mp hs with hs | hs
    · exact hc.strict c hmem s hs hsid
    · obtain rfl := List.mem_singleton.mp hs
      obtain ⟨t,ht,htid⟩ := hc.owned c hmem
      exact absurd (htid.trans hsid.symm) (hfresh t ht)

variable {db₁ : IngestionState} {parsed : ParsedDocument} {title : Text} {metadata : Entries}
  {server : Option ServerParsing}

/-- The chunks of a stored document: above the ids in use, of the source, at the levels of the parsed chunks. -/
theorem persist_pending {c : DocumentChunk}
    (h : c ∈ (persistParsedDocument db₁ source title parsed metadata server).pending) :
    ∃ chunk ∈ parsed.chunks, ∃ i, c.id = freshId (db₁.allChunks.map (·.id))+i ∧ c.sourceId = source.id ∧
      c.permissionLevel = chunk.permissionLevel := by
  obtain ⟨⟨chunk,i⟩,hmem,rfl⟩ := List.mem_map.mp h
  exact ⟨chunk,(List.mem_zipIdx hmem).2.2 ▸ List.getElem_mem _,i,rfl,rfl,rfl⟩

theorem persist_change (hw : SourceWritten p db db₁ source)
    (hlevel : ∀ chunk ∈ parsed.chunks, strictness p source.permissionLevel ≤ strictness p chunk.permissionLevel)
    (hdeletes : ∀ id ∈ m.deleteIds, id ∈ m'.deleteIds) (hnarrowings : m'.narrowings = m.narrowings) :
    Change p db (persistParsedDocument db₁ source title parsed metadata server) m m' db.allChunks
      (persistParsedDocument db₁ source title parsed metadata server).pending := by
  have hsources : (persistParsedDocument db₁ source title parsed metadata server).sources = db₁.sources := rfl
  have hall : (persistParsedDocument db₁ source title parsed metadata server).allChunks =
      db.allChunks++(persistParsedDocument db₁ source title parsed metadata server).pending := by
    rw [← hw.chunks]
    rfl
  refine ⟨hw.sourceIds,hw.sources,hall,List.forall₂_same.mpr fun c _ => ChunkKept.refl m' c,?_,?_,?_,?_,
    hw.vectors,?_,hdeletes,?_⟩
  · have hids : (persistParsedDocument db₁ source title parsed metadata server).pending.map (·.id) =
        (parsed.chunks.zipIdx.map Prod.snd).map (freshId (db₁.allChunks.map (·.id))+·) := by
      change ((parsed.chunks.zipIdx.map _).map _) = _
      rw [List.map_map,List.map_map]
      rfl
    rw [hids,List.zipIdx_map_snd]
    exact (List.nodup_range' 1).map fun _ _ h => Nat.add_left_cancel h
  · intro c hmem d hd heq
    obtain ⟨-,-,i,hid,-⟩ := persist_pending hmem
    rw [← hw.chunks] at hd
    have hlt := lt_freshId (List.mem_map_of_mem (f := fun c : DocumentChunk => c.id) hd)
    omega
  · intro c hmem
    obtain ⟨-,-,-,-,hsource,-⟩ := persist_pending hmem
    exact ⟨source,hw.mem,hsource.symm⟩
  · intro c hmem s hs hid
    rw [hall,List.mem_append] at hmem
    rcases hmem with hmem | hmem
    · exact hw.strict c hmem s hs hid
    · obtain ⟨chunk,hchunk,-,-,hsource,hpermission⟩ := persist_pending hmem
      obtain rfl : s = source := List.inj_on_of_nodup_map hw.sourceIds hs hw.mem (hid.trans hsource)
      rw [hpermission]
      exact hlevel chunk hchunk
  · intro s hs
    exact ⟨s,hw.states ▸ hs,rfl⟩
  · intro n hn
    rwa [hnarrowings]

theorem parsed_permission {event : SourceEvent}
    (h : parsedDocumentFromSourceEvent p event server = some parsed) {chunk : ParsedDocumentChunk}
    (hmem : chunk ∈ parsed.chunks) :
    chunk.permissionLevel = (server.map (·.permissionLevel)).getD event.permissionLevel := by
  have hinit : ∀ {raw : ParsedDocument} {texts : List (Text × Text × Option Text)},
      ParsedDocument.postInit p raw texts = some parsed → chunk.permissionLevel = raw.permissionLevel := by
    intro raw texts hpost
    unfold ParsedDocument.postInit at hpost
    split at hpost
    · cases hpost
    · obtain ⟨chunks,hchunks,rfl⟩ := Option.map_eq_some_iff.mp hpost
      rw [mapM_eq_some_iff] at hchunks
      obtain ⟨x,-,hx⟩ := forall₂_mem_right hchunks hmem
      obtain ⟨contentHash,-,rfl⟩ := Option.map_eq_some_iff.mp hx
      rfl
  unfold parsedDocumentFromSourceEvent at h
  cases server with
  | none => exact hinit h
  | some server => exact hinit h

/-! ## Events -/

section events

variable {env : Environment p} {batch batch' : Batch} {event : SourceEvent}

/-- The source is stored with the content of the event, under the current parser policy. -/
def contentStored (env : Environment p) (db : IngestionState) (source : Source) (event : SourceEvent) : Bool :=
  if event.sourceType = text "slack" ∧ env.syntheticSlack = false then legacySlackEventIsUnchanged source event
  else match canonicalSourceContentSignature p event, serverParserPolicyForEvent p event with
    | some computed, some policy =>
      source.serverContentSignatureSchema = some computed.schema &&
        source.serverContentSignature = some computed.signature &&
        !((currentParserRun db source).map (·.toDocumentParserRun)).all (parserPolicyDiffers source.toSource policy)
    | _, _ => false

/-- An event with new content is no stricter than the chunks it leaves behind, and one that only narrows finds
all less strict chunks flushed. -/
def Settled (env : Environment p) (db : IngestionState) (event : SourceEvent) : Prop :=
  ∀ source, db.source event.sourceId = some source → ∀ c ∈ db.allChunks, c.sourceId = source.id →
    contentStored env db source event = true ∧ c ∉ db.pending ∨
      strictness p event.permissionLevel ≤ strictness p c.permissionLevel

theorem Change.refl (hc : Covered p db m) : Change p db db m m db.allChunks [] :=
  ⟨hc.sourceIds,fun s hs => ⟨s,hs,rfl⟩,(List.append_nil _).symm,List.forall₂_same.mpr fun c _ => ChunkKept.refl m c,
    List.nodup_nil,by simp,by simp,hc.strict,rfl,fun s hs => ⟨s,hs,rfl⟩,fun _ h => h,fun _ h => h⟩

theorem source_mem {sourceId : Text} (h : db.source sourceId = some source) : source ∈ db.sources :=
  (find?_spec h).1

theorem persistLegacy_change (hc : Covered p batch.db batch.mutations) {existing : Option Source}
    (hexisting : ∀ source, existing = some source → source ∈ batch.db.sources ∧ ∀ c ∈ batch.db.allChunks,
      c.sourceId = source.id → strictness p event.permissionLevel ≤ strictness p c.permissionLevel)
    (h : persistLegacySlackEvent env batch.db event existing = some db') :
    ∃ olds new, Change p batch.db db' batch.mutations batch.mutations olds new := by
  obtain ⟨parsed,hparsed,rfl⟩ := Option.map_eq_some_iff.mp h
  refine ⟨_,_,persist_change ?_ ?_ (fun _ h => h) rfl⟩
  · cases existing with
    | none => exact sourceWritten_new hc rfl
    | some source =>
      obtain ⟨hmem,hle⟩ := hexisting source rfl
      exact sourceWritten_put hc hmem rfl hle
  · intro chunk hmem
    rw [parsed_permission hparsed hmem]
    cases existing <;> exact le_rfl

theorem narrowLegacy_change (hc : Covered p batch.db batch.mutations) {source : Source}
    (hsource : source ∈ batch.db.sources)
    (hpending : ∀ c ∈ batch.db.pending, c.sourceId = source.id →
      strictness p event.permissionLevel ≤ strictness p c.permissionLevel)
    (h : narrowLegacySlackPermissions p batch source event = some batch') :
    ∃ olds, Change p batch.db batch'.db batch.mutations batch'.mutations olds [] := by
  unfold narrowLegacySlackPermissions at h
  obtain ⟨stored,hstored,h⟩ := Option.bind_eq_some_iff.mp h
  obtain ⟨incoming,hincoming,h⟩ := Option.bind_eq_some_iff.mp h
  obtain ⟨levels,-,h⟩ := Option.bind_eq_some_iff.mp h
  split at h
  · obtain rfl := Option.some.inj h
    exact ⟨_,.refl hc⟩
  · obtain ⟨⟨changed,mutations⟩,hchanged,rfl⟩ := Option.map_eq_some_iff.mp h
    obtain ⟨hmax,hrank⟩ := strictest_spec (strictness_of_normalized hstored) (strictness_of_normalized hincoming)
    refine applyPermissionOnlyChange_change hc hrank.symm rfl ?_ hchanged
    intro c hmem hid
    rw [hmax,(normalized_spec hstored).2,(normalized_spec hincoming).2]
    exact max_le (hc.strict c (List.mem_append_right _ hmem) source hsource hid.symm) (hpending c hmem hid)

theorem ingestLegacy_change (hc : Covered p batch.db batch.mutations) (hsettled : Settled env batch.db event)
    (hlegacy : event.sourceType = text "slack" ∧ env.syntheticSlack = false)
    (h : ingestLegacySlackEvent env batch event = some batch') :
    ∃ olds new, Change p batch.db batch'.db batch.mutations batch'.mutations olds new := by
  unfold ingestLegacySlackEvent at h
  split at h
  · obtain ⟨db',hdb,rfl⟩ := Option.map_eq_some_iff.mp h
    exact persistLegacy_change hc (by simp) hdb
  next source hsource =>
  have hstored : contentStored env batch.db source event = legacySlackEventIsUnchanged source event := if_pos hlegacy
  split at h
  · cases h
  · split at h
    · obtain ⟨olds,hchange⟩ := narrowLegacy_change hc (source_mem hsource) (fun c hmem hid => by
        rcases hsettled source hsource c (List.mem_append_right _ hmem) hid with ⟨-,hflushed⟩ | hle
        · exact absurd hmem hflushed
        · exact hle) h
      exact ⟨olds,_,hchange⟩
    · next hchanged =>
      obtain ⟨db',hdb,rfl⟩ := Option.map_eq_some_iff.mp h
      apply persistLegacy_change hc ?_ hdb
      intro s hs
      obtain rfl := Option.some.inj hs
      refine ⟨source_mem hsource,fun c hmem hid => ?_⟩
      rcases hsettled source hsource c hmem hid with ⟨hcontent,-⟩ | hle
      · exact absurd (hstored.symm.trans hcontent) hchanged
      · exact hle

theorem ingestChanged_change (hc : Covered p batch.db batch.mutations)
    {classification : SourceStateChangeClassification} {signature : CanonicalSourceContentSignature}
    {policy : ServerParserPolicy}
    (hnew : batch.db.source event.sourceId = none → classification.contentChanged = true)
    (hpending : ∀ source, batch.db.source event.sourceId = some source → ∀ c ∈ batch.db.pending,
      c.sourceId = source.id → strictness p event.permissionLevel ≤ strictness p c.permissionLevel)
    (hcontent : ∀ source, batch.db.source event.sourceId = some source →
      classification.contentChanged = true ∨ classification.parserPolicyChanged = true ∨
        classification.permissionChanged = false → ∀ c ∈ batch.db.allChunks, c.sourceId = source.id →
          strictness p event.permissionLevel ≤ strictness p c.permissionLevel)
    (h : ingestChangedEvent env batch event classification signature policy = some batch') :
    ∃ olds new, Change p batch.db batch'.db batch.mutations batch'.mutations olds new := by
  unfold ingestChangedEvent at h
  obtain ⟨⟨db₁,source⟩,hupsert,h⟩ := Option.bind_eq_some_iff.mp h
  unfold upsertC5Source at hupsert
  obtain ⟨rawMetadata,-,hupsert⟩ := Option.bind_eq_some_iff.mp hupsert
  obtain ⟨permission,hpermission,hupsert⟩ := Option.map_eq_some_iff.mp hupsert
  have hlevel : strictness p permission = strictness p event.permissionLevel := (normalized_spec hpermission).2
  dsimp only at h
  split at h
  · next honly =>
    simp only [Bool.and_eq_true,Bool.not_eq_true'] at honly
    obtain ⟨incoming,hincoming,h⟩ := Option.bind_eq_some_iff.mp h
    obtain ⟨⟨db',m'⟩,hchanged,rfl⟩ := Option.map_eq_some_iff.mp h
    obtain rfl : incoming = permission := Option.some.inj (hincoming.symm.trans hpermission)
    split at hupsert
    · next hnone => exact absurd (hnew hnone) (by simp [honly])
    next old hold =>
    obtain ⟨rfl,rfl⟩ := Prod.mk.inj hupsert
    obtain ⟨olds,hchange⟩ := applyPermissionOnlyChange_change hc (strictness_of_normalized hpermission) rfl (by
      intro c hmem hid
      rw [hlevel]
      exact hpending old hold c hmem hid) hchanged
    exact ⟨olds,[],hchange.flush⟩
  · next hother =>
    have hreplaced : classification.contentChanged = true ∨ classification.parserPolicyChanged = true ∨
        classification.permissionChanged = false := by
      by_cases hcontentChanged : classification.contentChanged = true
      · exact .inl hcontentChanged
      · by_cases hpolicy : classification.parserPolicyChanged = true
        · exact .inr (.inl hpolicy)
        · exact .inr (.inr (by simpa [hcontentChanged,hpolicy] using hother))
    obtain ⟨parsed,hparsed,h⟩ := Option.bind_eq_some_iff.mp h
    obtain ⟨metadata,-,rfl⟩ := Option.map_eq_some_iff.mp h
    have hchunks : ∀ chunk ∈ parsed.chunks, strictness p source.permissionLevel ≤ strictness p chunk.permissionLevel := by
      intro chunk hmem
      rw [parsed_permission hparsed hmem]
      exact le_rfl
    have hwritten : SourceWritten p batch.db db₁ source := by
      split at hupsert
      · obtain ⟨rfl,rfl⟩ := Prod.mk.inj hupsert
        exact sourceWritten_new hc rfl
      next old hold =>
      obtain ⟨rfl,rfl⟩ := Prod.mk.inj hupsert
      refine sourceWritten_put hc (source_mem hold) ?_ fun c hmem hid => ?_
      · rfl
      change strictness p permission ≤ _
      rw [hlevel]
      exact hcontent old hold hreplaced c hmem hid
    refine ⟨_,_,Change.flush (persist_change hwritten hchunks ?_ ?_)⟩
    · exact fun id hid => List.mem_append_left _ hid
    · rfl

/-- What the classification says of a stored source. -/
theorem classify_stored {source : Source} {run : Option Sources.DocumentParserRun}
    {computed : CanonicalSourceContentSignature} {policy : ServerParserPolicy}
    {classification : SourceStateChangeClassification}
    (h : classifySourceStateChange p (some source.toSource) event run computed policy = some classification) :
    classification.contentChanged = (source.serverContentSignatureSchema ≠ some computed.schema ||
      source.serverContentSignature ≠ some computed.signature) ∧
    classification.parserPolicyChanged = run.all (parserPolicyDiffers source.toSource policy) := by
  unfold classifySourceStateChange at h
  obtain ⟨incoming,-,h⟩ := Option.bind_eq_some_iff.mp h
  obtain ⟨stored,-,rfl⟩ := Option.map_eq_some_iff.mp h
  exact ⟨rfl,rfl⟩

theorem ingestCanonical_change (hc : Covered p batch.db batch.mutations) (hsettled : Settled env batch.db event)
    (hcanonical : ¬(event.sourceType = text "slack" ∧ env.syntheticSlack = false))
    (h : ingestCanonicalEvent env batch event = some batch') :
    ∃ olds new, Change p batch.db batch'.db batch.mutations batch'.mutations olds new := by
  unfold ingestCanonicalEvent at h
  obtain ⟨signature,hsignature,h⟩ := Option.bind_eq_some_iff.mp h
  obtain ⟨policy,hpolicy,h⟩ := Option.bind_eq_some_iff.mp h
  obtain ⟨classification,hclass,h⟩ := Option.bind_eq_some_iff.mp h
  split at h
  · next hchanged =>
    apply ingestChanged_change hc ?_ ?_ ?_ h
    · intro hnone
      rw [hnone] at hclass
      obtain ⟨incoming,-,hclass⟩ := Option.bind_eq_some_iff.mp hclass
      obtain rfl := Option.some.inj hclass
      rfl
    · intro source hsource c hmem hid
      rcases hsettled source hsource c (List.mem_append_right _ hmem) hid with ⟨-,hflushed⟩ | hle
      · exact absurd hmem hflushed
      · exact hle
    · intro source hsource hreplaced c hmem hid
      rw [hsource] at hclass
      obtain ⟨hcontent,hparser⟩ := classify_stored hclass
      rcases hsettled source hsource c hmem hid with ⟨hstored,-⟩ | hle
      · rw [contentStored,if_neg hcanonical,hsignature,hpolicy] at hstored
        simp only [Bool.and_eq_true,decide_eq_true_eq,Bool.not_eq_true'] at hstored
        obtain ⟨⟨hschema,hsame⟩,hrun⟩ := hstored
        have hnoContent : classification.contentChanged = false := by simp [hcontent,hschema,hsame]
        have hnoParser : classification.parserPolicyChanged = false := by
          rw [hparser,← hrun]
          rfl
        simp [hnoContent,hnoParser] at hreplaced hchanged
        simp [hreplaced] at hchanged
      · exact hle
  · obtain ⟨source,hsource,rfl⟩ := Option.map_eq_some_iff.mp h
    have hmem := source_mem hsource
    exact ⟨_,_,putSource_change hc fun c hcmem hid => hc.strict c hcmem source hmem hid.symm⟩

/-- One event of a call that meets the condition keeps the invariant of the call. -/
theorem ingestEvent_change (hc : Covered p batch.db batch.mutations) (hsettled : Settled env batch.db event)
    (h : ingestEvent env batch event = some batch') :
    ∃ olds new, Change p batch.db batch'.db batch.mutations batch'.mutations olds new := by
  unfold ingestEvent at h
  dsimp only at h
  split at h
  · cases h
  split at h
  · cases h
  split at h
  · next hlegacy => exact ingestLegacy_change hc hsettled hlegacy h
  next hcanonical =>
  split at h
  · cases h
  · exact ingestCanonical_change hc hsettled hcanonical h

end events

end ParaWorks.Ingestion
