import ParaWorks.Ingestion.EffectViews

/-!
# Keys over an event

An event keeps the keys of the tables, and names only chunks of its own source.
-/

namespace ParaWorks.Ingestion

open Lib Sources

variable {p : Platform} {env : Environment p} {db db' : IngestionState} {event : SourceEvent} {source : Source}

/-- The keys of the schema, with the documents of chunks that are still pending. -/
structure Keyed (db : IngestionState) : Prop where
  sourceIds : (db.sources.map (·.id)).Nodup
  sourceKeys : (db.sources.map (·.sourceId)).Nodup
  documentIds : (db.documents.map (·.id)).Nodup
  versionIds : (db.versions.map (·.id)).Nodup
  runIds : (db.parserRuns.map (·.id)).Nodup
  chunkIds : (db.allChunks.map (·.id)).Nodup
  chunkSources : ∀ c ∈ db.allChunks, ∃ s ∈ db.sources, s.id = c.sourceId
  chunkRuns : ∀ c ∈ db.allChunks, ∀ r, c.parserRunId = some r →
    ∃ run ∈ db.parserRuns, run.id = r ∧ run.sourceId = c.sourceId
  currentVersions : ∀ d ∈ db.documents, ∀ v, d.currentDocumentVersionId = some v →
    ∃ version ∈ db.versions, version.id = v ∧ version.documentId = d.id
  pendingVersions : ∀ c ∈ db.pending, ∃ version ∈ db.versions, version.id = c.versionId ∧
    ∃ d ∈ db.documents, d.id = version.documentId ∧ d.sourceId = c.sourceId

/-- The id is that of the source with this external id. -/
def OwnedBy (db : IngestionState) (sourceId : Text) (id : Nat) : Prop :=
  ∃ s ∈ db.sources, s.id = id ∧ s.sourceId = sourceId

/-- Rows keep their keys, and other rows than before belong to the source with this external id. -/
structure Extends (db db' : IngestionState) (sourceId : Text) : Prop where
  sources : ∀ s ∈ db.sources, ∃ s' ∈ db'.sources, s'.id = s.id ∧ s'.sourceId = s.sourceId
  newSources : ∀ s' ∈ db'.sources, s'.sourceId = sourceId ∨ s' ∈ db.sources
  chunks : ∀ c ∈ db.allChunks, ∃ c' ∈ db'.allChunks, c'.id = c.id ∧ c'.sourceId = c.sourceId
  newChunks : ∀ c' ∈ db'.allChunks, OwnedBy db' sourceId c'.sourceId ∨
    ∃ c ∈ db.allChunks, c.id = c'.id ∧ c.sourceId = c'.sourceId
  pending : ∀ c ∈ db'.pending, c ∈ db.pending ∨ OwnedBy db' sourceId c.sourceId
  indexStates : db'.indexStates = db.indexStates
  vectors : db'.vectors = db.vectors

/-- What an event touches. -/
structure Touches (env : Environment p) (db : IngestionState) (event : SourceEvent) (effect : Effect) : Prop where
  keyed : Keyed effect.db
  extended : Extends db effect.db event.sourceId
  own : ∀ id ∈ effect.deletes++effect.narrowed.map (·.2), ∃ c ∈ db.allChunks, id = chunkDocumentId c.id ∧
    OwnedBy effect.db event.sourceId c.sourceId
  narrowedOnce : (effect.narrowed.map (·.2)).Nodup
  oneKind : effect.deletes = [] ∨ effect.narrowed = []
  refreshes : ∀ source, effect.refresh = some source → source.sourceId = event.sourceId ∧
    source ∈ effect.db.sources ∧ effect.db.pending = [] ∧ effect.deletes = []
  canonical : effect.changed ≠ [] → env.canonical event = true

/-! ## Pending chunks of other sources -/

theorem Keyed.source_eq (hk : Keyed db) {s t : Source} (hs : s ∈ db.sources) (ht : t ∈ db.sources)
    (hid : s.sourceId = t.sourceId) : s = t :=
  List.inj_on_of_nodup_map hk.sourceKeys hs ht hid

theorem Keyed.elsewhere (hk : Keyed db)
    (hpending : ∀ c ∈ db.pending, c.sourceId ≠ source.id) : PendingElsewhere db source := by
  refine ⟨hpending,fun document hdocument c hmem hcurrent => ?_⟩
  obtain ⟨hmemd,hdsource⟩ := find?_spec hdocument
  rw [decide_eq_true_eq] at hdsource
  obtain ⟨version,hversion,hvid,d,hd,hdid,hdowner⟩ := hk.pendingVersions c hmem
  obtain ⟨current,hcmem,hcid,hcdoc⟩ := hk.currentVersions document hmemd _ hcurrent.symm
  obtain rfl : current = version := List.inj_on_of_nodup_map hk.versionIds hcmem hversion (hcid.trans hvid.symm)
  obtain rfl : d = document := List.inj_on_of_nodup_map hk.documentIds hd hmemd (hdid.trans hcdoc)
  exact hpending c hmem (hdowner.symm.trans hdsource)

/-! ## The source row -/

theorem putSource_sourceKeys {old : Source} (hk : Keyed db) (hold : old ∈ db.sources) (hid : source.id = old.id)
    (hkey : source.sourceId = old.sourceId) :
    (db.putSource source).sources.map (·.sourceId) = db.sources.map (·.sourceId) := by
  change (db.sources.map fun s => if s.id = source.id then source else s).map (·.sourceId) = _
  rw [List.map_map]
  apply List.map_congr_left
  intro s hs
  dsimp only [Function.comp]
  split
  · next heq =>
    obtain rfl : s = old := List.inj_on_of_nodup_map hk.sourceIds hs hold (heq.trans hid)
    exact hkey
  · rfl

theorem putSource_mem {old : Source} (hold : old ∈ db.sources) (hid : source.id = old.id) :
    source ∈ (db.putSource source).sources :=
  List.mem_map.mpr ⟨old,hold,if_pos hid.symm⟩

theorem Keyed.put {old : Source} (hk : Keyed db) (hold : old ∈ db.sources) (hid : source.id = old.id)
    (hkey : source.sourceId = old.sourceId) : Keyed (db.putSource source) where
  sourceIds := by rw [putSource_ids]; exact hk.sourceIds
  sourceKeys := by rw [putSource_sourceKeys hk hold hid hkey]; exact hk.sourceKeys
  documentIds := hk.documentIds
  versionIds := hk.versionIds
  runIds := hk.runIds
  chunkIds := hk.chunkIds
  chunkSources := by
    intro c hmem
    obtain ⟨s,hs,hsid⟩ := hk.chunkSources c hmem
    have hkept : ∃ s' ∈ (db.putSource source).sources, s'.id = s.id := putSource_keeps hs
    obtain ⟨s',hs',hid'⟩ := hkept
    exact ⟨s',hs',hid'.trans hsid⟩
  chunkRuns := hk.chunkRuns
  currentVersions := hk.currentVersions
  pendingVersions := hk.pendingVersions

theorem putSource_keepsKeys {old s : Source} (hk : Keyed db) (hold : old ∈ db.sources) (hid : source.id = old.id)
    (hkey : source.sourceId = old.sourceId) (hs : s ∈ db.sources) :
    ∃ s' ∈ (db.putSource source).sources, s'.id = s.id ∧ s'.sourceId = s.sourceId := by
  by_cases heq : s.id = source.id
  · obtain rfl : s = old := List.inj_on_of_nodup_map hk.sourceIds hs hold (heq.trans hid)
    exact ⟨source,putSource_mem hold hid,hid,hkey⟩
  · exact ⟨s,List.mem_map.mpr ⟨s,hs,if_neg heq⟩,rfl,rfl⟩

theorem Extends.put {old : Source} (hk : Keyed db) (hold : old ∈ db.sources) (hid : source.id = old.id)
    (hkey : source.sourceId = old.sourceId) : Extends db (db.putSource source) source.sourceId where
  sources := fun s hs => putSource_keepsKeys hk hold hid hkey hs
  newSources := by
    intro s' hs'
    obtain ⟨s,hs,rfl⟩ := List.mem_map.mp hs'
    by_cases heq : s.id = source.id
    · rw [if_pos heq]
      exact .inl rfl
    · rw [if_neg heq]
      exact .inr hs
  chunks := fun c hc => ⟨c,hc,rfl,rfl⟩
  newChunks := fun c hc => .inr ⟨c,hc,rfl,rfl⟩
  pending := fun c hc => .inl hc
  indexStates := rfl
  vectors := rfl

theorem Keyed.flush (hk : Keyed db) : Keyed db.flush := by
  have hall : db.flush.allChunks = db.allChunks := by simp [IngestionState.flush,IngestionState.allChunks]
  exact ⟨hk.sourceIds,hk.sourceKeys,hk.documentIds,hk.versionIds,hk.runIds,hall ▸ hk.chunkIds,
    hall ▸ hk.chunkSources,hall ▸ hk.chunkRuns,hk.currentVersions,by simp [IngestionState.flush]⟩

/-- A new source under a new id and a new external id. -/
theorem Keyed.addSource (hk : Keyed db) (hid : source.id = freshId (db.sources.map (·.id)))
    (hkey : ∀ s ∈ db.sources, s.sourceId ≠ source.sourceId) :
    Keyed { db.flush with sources := db.sources++[source] } where
  sourceIds := by
    rw [List.map_append,List.nodup_append]
    refine ⟨hk.sourceIds,by simp,?_⟩
    intro i hi j hj heq
    obtain rfl : j = source.id := by simpa using hj
    have hlt := lt_freshId hi
    omega
  sourceKeys := by
    rw [List.map_append,List.nodup_append]
    refine ⟨hk.sourceKeys,by simp,?_⟩
    intro i hi j hj
    obtain rfl : j = source.sourceId := by simpa using hj
    obtain ⟨s,hs,rfl⟩ := List.mem_map.mp hi
    exact hkey s hs
  documentIds := hk.documentIds
  versionIds := hk.versionIds
  runIds := hk.runIds
  chunkIds := hk.flush.chunkIds
  chunkSources := by
    intro c hmem
    obtain ⟨s,hs,hsid⟩ := hk.flush.chunkSources c hmem
    exact ⟨s,List.mem_append_left _ hs,hsid⟩
  chunkRuns := hk.flush.chunkRuns
  currentVersions := hk.currentVersions
  pendingVersions := by simp [IngestionState.flush]

/-! ## Changed chunks -/

/-- The row of a chunk with its keys unchanged. -/
structure SameChunk (c c' : DocumentChunk) : Prop where
  id : c'.id = c.id
  versionId : c'.versionId = c.versionId
  sourceId : c'.sourceId = c.sourceId
  parserRunId : c'.parserRunId = c.parserRunId

theorem Keyed.changeChunks (hk : Keyed db) (hsources : db'.sources = db.sources) (hdocuments : db'.documents = db.documents)
    (hversions : db'.versions = db.versions) (hruns : db'.parserRuns = db.parserRuns)
    (hchunks : List.Forall₂ SameChunk db.allChunks db'.allChunks) (hpending : db'.pending = db.pending ∨ db'.pending = []) :
    Keyed db' where
  sourceIds := by rw [hsources]; exact hk.sourceIds
  sourceKeys := by rw [hsources]; exact hk.sourceKeys
  documentIds := by rw [hdocuments]; exact hk.documentIds
  versionIds := by rw [hversions]; exact hk.versionIds
  runIds := by rw [hruns]; exact hk.runIds
  chunkIds := by
    rw [forall₂_map_eq hchunks fun _ _ hsame => hsame.id]
    exact hk.chunkIds
  chunkSources := by
    intro c' hmem
    obtain ⟨c,hc,hsame⟩ := forall₂_mem_right hchunks hmem
    rw [hsources,hsame.sourceId]
    exact hk.chunkSources c hc
  chunkRuns := by
    intro c' hmem
    obtain ⟨c,hc,hsame⟩ := forall₂_mem_right hchunks hmem
    rw [hruns,hsame.sourceId,hsame.parserRunId]
    exact hk.chunkRuns c hc
  currentVersions := by rw [hdocuments,hversions]; exact hk.currentVersions
  pendingVersions := by
    rcases hpending with hsame | hnone
    · rw [hsame,hdocuments,hversions]
      exact hk.pendingVersions
    · rw [hnone]
      simp

/-! ## A stored document -/

/-- The documents after that of the source was written. -/
structure DocumentStored (db : IngestionState) (source : Source) (document : Document) (documents : List Document) :
    Prop where
  ids : (documents.map (·.id)).Nodup
  mem : document ∈ documents
  owner : document.sourceId = source.id
  kept : ∀ d ∈ db.documents, ∃ d' ∈ documents, d'.id = d.id ∧ d'.sourceId = d.sourceId
  current : ∀ d' ∈ documents, ∀ v, d'.currentDocumentVersionId = some v →
    ∃ d ∈ db.documents, d.id = d'.id ∧ d.currentDocumentVersionId = some v

theorem storedDocument_stored (hk : Keyed db) (title version : Text) :
    DocumentStored db source (storedDocument db source title version).1 (storedDocument db source title version).2 := by
  unfold storedDocument
  cases hdocument : db.documentOf source with
  | none =>
    refine ⟨?_,by simp,rfl,fun d hd => ⟨d,List.mem_append_left _ hd,rfl,rfl⟩,?_⟩
    · rw [List.map_append,List.nodup_append]
      refine ⟨hk.documentIds,by simp,?_⟩
      intro i hi j hj heq
      have hlt := lt_freshId hi
      have hj' : j = freshId (db.documents.map (·.id)) := by simpa using hj
      omega
    · intro d' hd' v hv
      rcases List.mem_append.mp hd' with hd' | hd'
      · exact ⟨d',hd',rfl,hv⟩
      · obtain rfl := List.mem_singleton.mp hd'
        cases hv
  | some document =>
    obtain ⟨hmem,howner⟩ := find?_spec hdocument
    rw [decide_eq_true_eq] at howner
    have hsame : ∀ d ∈ db.documents, d.id = document.id → d = document := fun d hd hid =>
      List.inj_on_of_nodup_map hk.documentIds hd hmem hid
    refine ⟨?_,?_,howner,?_,?_⟩
    · dsimp only
      rw [List.map_map]
      have hids : db.documents.map ((fun d : Document => d.id) ∘ fun d => if d.id = document.id then
          { document with title := title, currentVersion := version } else d) = db.documents.map (·.id) := by
        apply List.map_congr_left
        intro d _
        dsimp only [Function.comp]
        split
        · next hid => exact hid.symm
        · rfl
      rw [hids]
      exact hk.documentIds
    · exact List.mem_map.mpr ⟨document,hmem,if_pos rfl⟩
    · intro d hd
      by_cases hid : d.id = document.id
      · obtain rfl := hsame d hd hid
        exact ⟨_,List.mem_map.mpr ⟨d,hd,if_pos rfl⟩,rfl,rfl⟩
      · exact ⟨d,List.mem_map.mpr ⟨d,hd,if_neg hid⟩,rfl,rfl⟩
    · intro d' hd' v hv
      obtain ⟨d,hd,rfl⟩ := List.mem_map.mp hd'
      split at hv
      · next hid => exact ⟨document,hmem,by rw [if_pos hid],hv⟩
      · next hid => exact ⟨d,hd,by rw [if_neg hid],hv⟩

/-! ## Extended tables -/

theorem OwnedBy.extends {db₁ db₂ : IngestionState} {key sourceId : Text} {id : Nat} (h : Extends db₁ db₂ sourceId)
    (howned : OwnedBy db₁ key id) : OwnedBy db₂ key id := by
  obtain ⟨s,hs,hid,hkey⟩ := howned
  obtain ⟨s',hs',hid',hkey'⟩ := h.sources s hs
  exact ⟨s',hs',hid'.trans hid,hkey'.trans hkey⟩

theorem Extends.refl (sourceId : Text) : Extends db db sourceId :=
  ⟨fun s hs => ⟨s,hs,rfl,rfl⟩,fun _ hs => .inr hs,fun c hc => ⟨c,hc,rfl,rfl⟩,
    fun c hc => .inr ⟨c,hc,rfl,rfl⟩,fun _ hc => .inl hc,rfl,rfl⟩

theorem Extends.trans {db₁ db₂ : IngestionState} {sourceId : Text} (h : Extends db db₁ sourceId)
    (h' : Extends db₁ db₂ sourceId) : Extends db db₂ sourceId where
  sources := by
    intro s hs
    obtain ⟨s₁,hs₁,hid₁,hkey₁⟩ := h.sources s hs
    obtain ⟨s₂,hs₂,hid₂,hkey₂⟩ := h'.sources s₁ hs₁
    exact ⟨s₂,hs₂,hid₂.trans hid₁,hkey₂.trans hkey₁⟩
  newSources := by
    intro s hs
    obtain hown | hs := h'.newSources s hs
    · exact .inl hown
    · exact h.newSources s hs
  chunks := by
    intro c hc
    obtain ⟨c₁,hc₁,hid₁,howner₁⟩ := h.chunks c hc
    obtain ⟨c₂,hc₂,hid₂,howner₂⟩ := h'.chunks c₁ hc₁
    exact ⟨c₂,hc₂,hid₂.trans hid₁,howner₂.trans howner₁⟩
  newChunks := by
    intro c₂ hc₂
    obtain hown | ⟨c₁,hc₁,hid₁,howner₁⟩ := h'.newChunks c₂ hc₂
    · exact .inl hown
    · obtain hown | ⟨c,hc,hid,howner⟩ := h.newChunks c₁ hc₁
      · exact .inl (howner₁ ▸ hown.extends h')
      · exact .inr ⟨c,hc,hid.trans hid₁,howner.trans howner₁⟩
  pending := by
    intro c hc
    obtain hc₁ | hown := h'.pending c hc
    · obtain hc₀ | hown := h.pending c hc₁
      · exact .inl hc₀
      · exact .inr (hown.extends h')
    · exact .inr hown
  indexStates := h'.indexStates.trans h.indexStates
  vectors := h'.vectors.trans h.vectors

theorem Extends.addSource (source : Source) :
    Extends db { db.flush with sources := db.sources++[source] } source.sourceId where
  sources := fun s hs => ⟨s,List.mem_append_left _ hs,rfl,rfl⟩
  newSources := by
    intro s hs
    rcases List.mem_append.mp hs with hs | hs
    · exact .inr hs
    · obtain rfl := List.mem_singleton.mp hs
      exact .inl rfl
  chunks := fun _ hc => ⟨_,by simpa [IngestionState.allChunks,IngestionState.flush] using hc,rfl,rfl⟩
  newChunks := fun _ hc => .inr ⟨_,by simpa [IngestionState.allChunks,IngestionState.flush] using hc,rfl,rfl⟩
  pending := by simp [IngestionState.flush]
  indexStates := rfl
  vectors := rfl

theorem Extends.changeChunks (sourceId : Text) (hsources : db'.sources = db.sources)
    (hchunks : List.Forall₂ SameChunk db.allChunks db'.allChunks) (hpending : db'.pending = db.pending ∨ db'.pending = [])
    (hstates : db'.indexStates = db.indexStates) (hvectors : db'.vectors = db.vectors) : Extends db db' sourceId where
  sources := fun s hs => ⟨s,hsources ▸ hs,rfl,rfl⟩
  newSources := fun _ hs => .inr (hsources ▸ hs)
  chunks := by
    intro c hc
    obtain ⟨c',hc',hsame⟩ := forall₂_mem_left hchunks hc
    exact ⟨c',hc',hsame.id,hsame.sourceId⟩
  newChunks := by
    intro c' hc'
    obtain ⟨c,hc,hsame⟩ := forall₂_mem_right hchunks hc'
    exact .inr ⟨c,hc,hsame.id.symm,hsame.sourceId.symm⟩
  pending := by
    intro c hc
    rcases hpending with hsame | hnone
    · exact .inl (hsame ▸ hc)
    · rw [hnone] at hc
      cases hc
  indexStates := hstates
  vectors := hvectors

/-! ## Permission changes -/

theorem withPermission_same (c : DocumentChunk) (level : Text) : SameChunk c (c.withPermission level) :=
  ⟨rfl,rfl,rfl,rfl⟩

theorem narrowedDocuments_once (hk : Keyed db) (incoming : Text) :
    ((narrowedDocuments p db source incoming).map (·.2)).Nodup := by
  have hids : (db.chunks.map fun c => chunkDocumentId c.id).Nodup := by
    have hnodup : (db.chunks.map (·.id)).Nodup := by
      have hall := hk.chunkIds
      rw [IngestionState.allChunks,List.map_append] at hall
      exact hall.of_append_left
    have hmap := hnodup.map fun _ _ => chunkDocumentId_injective
    rwa [List.map_map] at hmap
  unfold narrowedDocuments
  rw [List.map_filterMap]
  refine List.Nodup.sublist ((filterMap_sublist_map ?_ _).trans (List.filter_sublist.map _)) hids
  intro c id heq
  obtain ⟨n,hn,rfl⟩ := Option.map_eq_some_iff.mp heq
  obtain ⟨level,-,rfl⟩ := Option.map_eq_some_iff.mp hn
  rfl

/-- A permission change touches chunks of its source only. -/
structure PermissionTouches (db : IngestionState) (source : Source) (effect : Effect) : Prop where
  keyed : Keyed effect.db
  extended : Extends db effect.db source.sourceId
  own : ∀ id ∈ effect.deletes++effect.narrowed.map (·.2), ∃ c ∈ db.chunks, id = chunkDocumentId c.id ∧
    c.sourceId = source.id
  narrowedOnce : (effect.narrowed.map (·.2)).Nodup
  oneKind : effect.deletes = [] ∨ effect.narrowed = []
  sources : effect.db.sources = db.sources
  refreshes : ∀ s, effect.refresh = some s → s = source ∧ effect.db.pending = [] ∧ effect.deletes = []
  changed : effect.changed = []

theorem permissionEffect_touches {incoming : Text} {effect : Effect} (hk : Keyed db)
    (h : permissionEffect p db source incoming = some effect) : PermissionTouches db source effect := by
  unfold permissionEffect at h
  split at h
  · obtain rfl := Option.some.inj h
    have hchunks : List.Forall₂ SameChunk db.allChunks
        ((db.chunks.map fun c => if c.sourceId = source.id then c.withPermission incoming else c)++db.pending) := by
      apply List.rel_append _ (List.forall₂_same.mpr fun c _ => ⟨rfl,rfl,rfl,rfl⟩)
      rw [List.forall₂_map_right_iff,List.forall₂_same]
      intro c _
      split
      · exact withPermission_same c incoming
      · exact ⟨rfl,rfl,rfl,rfl⟩
    refine ⟨hk.changeChunks rfl rfl rfl rfl hchunks (.inl rfl),.changeChunks _ rfl hchunks (.inl rfl) rfl rfl,
      ?_,List.nodup_nil,.inr rfl,rfl,by simp,rfl⟩
    intro id hid
    simp only [sourceChunkDocumentIds,List.map_nil,List.append_nil,List.mem_map,List.mem_filter,
      decide_eq_true_eq] at hid
    obtain ⟨c,⟨hc,howner⟩,rfl⟩ := hid
    exact ⟨c,hc,rfl,howner⟩
  · obtain ⟨chunks,hmap,rfl⟩ := Option.map_eq_some_iff.mp h
    have hchunks : List.Forall₂ SameChunk db.allChunks (({ db with chunks := chunks } : IngestionState).flush).allChunks := by
      simp only [IngestionState.flush,IngestionState.allChunks,List.append_nil]
      apply List.rel_append _ (List.forall₂_same.mpr fun c _ => ⟨rfl,rfl,rfl,rfl⟩)
      apply (mapM_eq_some_iff.mp hmap).imp
      intro c c' heq
      split at heq
      · obtain ⟨level,-,rfl⟩ := Option.map_eq_some_iff.mp heq
        exact withPermission_same c level
      · obtain rfl := Option.some.inj heq
        exact ⟨rfl,rfl,rfl,rfl⟩
    refine ⟨hk.changeChunks rfl rfl rfl rfl hchunks (.inr rfl),.changeChunks _ rfl hchunks (.inr rfl) rfl rfl,
      ?_,narrowedDocuments_once hk incoming,.inl rfl,rfl,?_,rfl⟩
    · intro id hid
      simp only [narrowedDocuments,List.nil_append,List.mem_map,List.mem_filterMap,List.mem_filter,
        Bool.and_eq_true,decide_eq_true_eq] at hid
      obtain ⟨n,⟨c,⟨hc,howner,-⟩,heq⟩,rfl⟩ := hid
      obtain ⟨level,-,rfl⟩ := Option.map_eq_some_iff.mp heq
      exact ⟨c,hc,rfl,howner⟩
    · intro s hs
      exact ⟨(Option.some.inj hs).symm,rfl,rfl⟩

/-! ## Parsed documents -/

section persist

variable {title : Text} {parsed : ParsedDocument} {metadata : Entries} {server : Option ServerParsing}

theorem persist_chunks {c : DocumentChunk}
    (hc : c ∈ (persistParsedDocument db source title parsed metadata server).pending) :
    c.sourceId = source.id ∧ c.versionId = freshId (db.versions.map (·.id)) ∧
    freshId (db.allChunks.map (·.id)) ≤ c.id ∧
    c.parserRunId = server.map fun _ => freshId (db.parserRuns.map (·.id)) := by
  simp only [persistParsedDocument,List.mem_map] at hc
  obtain ⟨_,-,rfl⟩ := hc
  exact ⟨rfl,rfl,Nat.le_add_right _ _,rfl⟩

theorem persist_chunkIds : ((persistParsedDocument db source title parsed metadata server).pending.map (·.id)).Nodup := by
  simp only [persistParsedDocument,List.map_map]
  have hids : (parsed.chunks.zipIdx.map fun chunk => freshId (db.allChunks.map (·.id))+chunk.2) =
      (List.range parsed.chunks.length).map (freshId (db.allChunks.map (·.id))+·) := by
    rw [List.range_eq_range',← List.zipIdx_map_snd,List.map_map]
    rfl
  have hnodup : ((List.range parsed.chunks.length).map (freshId (db.allChunks.map (·.id))+·)).Nodup :=
    List.nodup_range.map (add_right_injective _)
  rw [← hids] at hnodup
  exact hnodup

theorem persist_allChunks : (persistParsedDocument db source title parsed metadata server).allChunks =
    db.allChunks++(persistParsedDocument db source title parsed metadata server).pending := rfl

theorem persist_documents : ∀ d ∈ (persistParsedDocument db source title parsed metadata server).documents,
    ∃ d' ∈ (storedDocument db source title parsed.documentVersion).2, d'.id = d.id ∧ d'.sourceId = d.sourceId ∧
    (d.currentDocumentVersionId = d'.currentDocumentVersionId ∨
      d.id = (storedDocument db source title parsed.documentVersion).1.id ∧
      d.currentDocumentVersionId = some (freshId (db.versions.map (·.id)))) := by
  intro d hd
  cases server with
  | none => exact ⟨d,hd,rfl,rfl,.inl rfl⟩
  | some server =>
    cases hstored : storedDocument db source title parsed.documentVersion with
    | mk document documents =>
      simp only [persistParsedDocument,hstored,List.mem_map] at hd
      obtain ⟨d',hd',rfl⟩ := hd
      refine ⟨d',hd',?_⟩
      split
      · next hid => exact ⟨rfl,rfl,.inr ⟨hid,rfl⟩⟩
      · exact ⟨rfl,rfl,.inl rfl⟩

theorem persist_documentIds : (persistParsedDocument db source title parsed metadata server).documents.map (·.id) =
    (storedDocument db source title parsed.documentVersion).2.map (·.id) := by
  cases server with
  | none => rfl
  | some server =>
    cases hstored : storedDocument db source title parsed.documentVersion with
    | mk document documents =>
      simp only [persistParsedDocument,hstored,List.map_map]
      apply List.map_congr_left
      intro d _
      dsimp only [Function.comp]
      split <;> rfl

theorem Keyed.persist (hk : Keyed db) (hsource : source ∈ db.sources) :
    Keyed (persistParsedDocument db source title parsed metadata server) := by
  have hstored : DocumentStored db source _ _ := storedDocument_stored hk title parsed.documentVersion
  have hnew {ids : List Nat} {id : Nat} (h : id ∈ ids) : id ≠ freshId ids := by
    have hlt := lt_freshId h
    omega
  refine ⟨hk.sourceIds,hk.sourceKeys,?_,?_,?_,?_,?_,?_,?_,?_⟩
  · rw [persist_documentIds]
    exact hstored.ids
  · change ((db.versions++[_]).map _).Nodup
    rw [List.map_append,List.nodup_append]
    refine ⟨hk.versionIds,by simp,fun i hi j hj => ?_⟩
    obtain rfl : j = freshId (db.versions.map (·.id)) := by simpa using hj
    exact hnew hi
  · change ((db.parserRuns++[_]).map _).Nodup
    rw [List.map_append,List.nodup_append]
    refine ⟨hk.runIds,by simp,fun i hi j hj => ?_⟩
    obtain rfl : j = freshId (db.parserRuns.map (·.id)) := by simpa using hj
    exact hnew hi
  · rw [persist_allChunks,List.map_append,List.nodup_append]
    refine ⟨hk.chunkIds,persist_chunkIds,fun i hi j hj => ?_⟩
    obtain ⟨c,hc,rfl⟩ := List.mem_map.mp hj
    have hlt := lt_freshId hi
    have hle := (persist_chunks hc).2.2.1
    omega
  · intro c hc
    rw [persist_allChunks] at hc
    rcases List.mem_append.mp hc with hc | hc
    · exact hk.chunkSources c hc
    · exact ⟨source,hsource,(persist_chunks hc).1.symm⟩
  · intro c hc r hr
    rw [persist_allChunks] at hc
    rcases List.mem_append.mp hc with hc | hc
    · obtain ⟨run,hrun,hid,howner⟩ := hk.chunkRuns c hc r hr
      exact ⟨run,List.mem_append_left _ hrun,hid,howner⟩
    · obtain ⟨howner,-,-,hrunId⟩ := persist_chunks hc
      refine ⟨_,List.mem_append_right _ (List.mem_singleton_self _),?_,howner.symm⟩
      rw [hrunId] at hr
      obtain ⟨_,-,rfl⟩ := Option.map_eq_some_iff.mp hr
      rfl
  · intro d hd v hv
    obtain ⟨d',hd',hid,-,hsame | ⟨hown,hcurrent⟩⟩ := persist_documents d hd
    · obtain ⟨d₀,hd₀,hid₀,hcurrent⟩ := hstored.current d' hd' v (hsame.symm.trans hv)
      obtain ⟨version,hversion,hvid,howner⟩ := hk.currentVersions d₀ hd₀ v hcurrent
      exact ⟨version,List.mem_append_left _ hversion,hvid,howner.trans (hid₀.trans hid)⟩
    · obtain rfl := Option.some.inj (hv.symm.trans hcurrent)
      exact ⟨_,List.mem_append_right _ (List.mem_singleton_self _),rfl,hown.symm⟩
  · intro c hc
    obtain ⟨howner,hversion,-⟩ := persist_chunks hc
    refine ⟨_,List.mem_append_right _ (List.mem_singleton_self _),hversion.symm,?_⟩
    have hmem : (storedDocument db source title parsed.documentVersion).1.id ∈
        (persistParsedDocument db source title parsed metadata server).documents.map (·.id) := by
      rw [persist_documentIds]
      exact List.mem_map_of_mem hstored.mem
    obtain ⟨d,hd,hid⟩ := List.mem_map.mp hmem
    refine ⟨d,hd,hid,?_⟩
    obtain ⟨d',hd',hid',hsource',-⟩ := persist_documents d hd
    obtain rfl : d' = (storedDocument db source title parsed.documentVersion).1 :=
      List.inj_on_of_nodup_map hstored.ids hd' hstored.mem (hid'.trans hid)
    rw [← hsource',hstored.owner,howner]

theorem Extends.persist (hsource : source ∈ db.sources) :
    Extends db (persistParsedDocument db source title parsed metadata server) source.sourceId where
  sources := fun s hs => ⟨s,hs,rfl,rfl⟩
  newSources := fun _ hs => .inr hs
  chunks := fun c hc => ⟨c,List.mem_append_left _ hc,rfl,rfl⟩
  newChunks := by
    intro c hc
    rw [persist_allChunks] at hc
    rcases List.mem_append.mp hc with hc | hc
    · exact .inr ⟨c,hc,rfl,rfl⟩
    · exact .inl ⟨source,hsource,(persist_chunks hc).1.symm,rfl⟩
  pending := fun c hc => .inr ⟨source,hsource,(persist_chunks hc).1.symm,rfl⟩
  indexStates := rfl
  vectors := rfl

end persist

/-! ## Effects -/

/-- The tables after the row of the source was written. -/
structure RowWritten (db db' : IngestionState) (sourceId : Text) (source : Source) : Prop where
  keyed : Keyed db'
  extended : Extends db db' sourceId
  mem : source ∈ db'.sources
  key : source.sourceId = sourceId
  chunks : db'.allChunks = db.allChunks

theorem RowWritten.put {sourceId : Text} {old : Source} (hk : Keyed db) (hold : db.source sourceId = some old)
    (hid : source.id = old.id) (hkey : source.sourceId = old.sourceId) :
    RowWritten db (db.putSource source) sourceId source := by
  obtain ⟨hmem,hown⟩ := find?_spec hold
  rw [decide_eq_true_eq] at hown
  obtain rfl := hkey.trans hown
  exact ⟨hk.put hmem hid hkey,.put hk hmem hid hkey,putSource_mem hmem hid,rfl,rfl⟩

theorem RowWritten.add {sourceId : Text} (hk : Keyed db) (hnone : db.source sourceId = none)
    (hid : source.id = freshId (db.sources.map (·.id))) (hkey : source.sourceId = sourceId) :
    RowWritten db { db.flush with sources := db.sources++[source] } sourceId source := by
  subst hkey
  refine ⟨hk.addSource hid fun s hs => ?_,.addSource source,List.mem_append_right _ (List.mem_singleton_self _),rfl,?_⟩
  · simpa using List.find?_eq_none.mp hnone s hs
  · simp [IngestionState.flush,IngestionState.allChunks]

theorem upsert_written {signature : CanonicalSourceContentSignature} {policy : ServerParserPolicy} (hk : Keyed db)
    (h : upsertC5Source env db event (db.source event.sourceId) signature policy = some (db',source)) :
    RowWritten db db' event.sourceId source := by
  unfold upsertC5Source at h
  obtain ⟨metadata,-,h⟩ := Option.bind_eq_some_iff.mp h
  obtain ⟨permission,-,h⟩ := Option.map_eq_some_iff.mp h
  cases hsource : db.source event.sourceId with
  | none =>
    rw [hsource] at h
    obtain ⟨rfl,rfl⟩ := Prod.mk.inj h
    exact .add hk hsource rfl rfl
  | some old =>
    rw [hsource] at h
    obtain ⟨rfl,rfl⟩ := Prod.mk.inj h
    exact .put hk hsource rfl rfl

theorem PermissionTouches.touches {effect : Effect} (h : PermissionTouches db' source effect)
    (hwritten : RowWritten db db' event.sourceId source) (changed : List (Nat × SourceStateChangeClassification))
    (hchanged : changed ≠ [] → env.canonical event = true) :
    Touches env db event { effect with changed := changed } where
  keyed := h.keyed
  extended := hwritten.extended.trans (hwritten.key ▸ h.extended)
  own := by
    intro id hid
    obtain ⟨c,hc,heq,howner⟩ := h.own id hid
    refine ⟨c,hwritten.chunks ▸ List.mem_append_left _ hc,heq,source,?_,howner.symm,hwritten.key⟩
    exact h.sources ▸ hwritten.mem
  narrowedOnce := h.narrowedOnce
  oneKind := h.oneKind
  refreshes := by
    intro s hs
    obtain ⟨rfl,hpending⟩ := h.refreshes s hs
    exact ⟨hwritten.key,h.sources ▸ hwritten.mem,hpending⟩
  canonical := hchanged

/-- The rows were written and the documents to delete belong to the source. -/
theorem RowWritten.persistTouches {title : Text} {parsed : ParsedDocument} {metadata : Entries} {server : Option ServerParsing}
    {deletes : List Text} {changed : List (Nat × SourceStateChangeClassification)}
    (h : RowWritten db db' event.sourceId source)
    (hdeletes : ∀ id ∈ deletes, ∃ c ∈ db'.chunks, id = chunkDocumentId c.id ∧ c.sourceId = source.id)
    (hchanged : changed ≠ [] → env.canonical event = true) :
    Touches env db event ⟨persistParsedDocument db' source title parsed metadata server,deletes,[],none,changed⟩ where
  keyed := h.keyed.persist h.mem
  extended := h.extended.trans (h.key ▸ .persist h.mem)
  own := by
    intro id hid
    obtain ⟨c,hc,heq,howner⟩ := hdeletes id (by simpa using hid)
    exact ⟨c,h.chunks ▸ List.mem_append_left _ hc,heq,source,h.mem,howner.symm,h.key⟩
  narrowedOnce := List.nodup_nil
  oneKind := .inr rfl
  refreshes := by simp
  canonical := hchanged

theorem RowWritten.idle (h : RowWritten db db' event.sourceId source) :
    Touches env db event ⟨db',[],[],none,[]⟩ :=
  ⟨h.keyed,h.extended,by simp,List.nodup_nil,.inl rfl,by simp,by simp⟩

theorem changedEffect_touches {classification : SourceStateChangeClassification}
    {signature : CanonicalSourceContentSignature} {policy : ServerParserPolicy} {effect : Effect} (hk : Keyed db)
    (hcanonical : env.canonical event = true)
    (h : changedEffect env db event classification signature policy = some effect) : Touches env db event effect := by
  unfold changedEffect at h
  obtain ⟨⟨db',source⟩,hupsert,h⟩ := Option.bind_eq_some_iff.mp h
  have hwritten := upsert_written hk hupsert
  dsimp only at h
  split at h
  · obtain ⟨incoming,-,h⟩ := Option.bind_eq_some_iff.mp h
    obtain ⟨effect,heffect,rfl⟩ := Option.map_eq_some_iff.mp h
    exact (permissionEffect_touches hwritten.keyed heffect).touches hwritten _ fun _ => hcanonical
  · obtain ⟨parsed,-,h⟩ := Option.bind_eq_some_iff.mp h
    obtain ⟨metadata,-,rfl⟩ := Option.map_eq_some_iff.mp h
    apply hwritten.persistTouches _ fun _ => hcanonical
    intro id hid
    simp only [sourceChunkDocumentIds,List.mem_map,List.mem_filter,decide_eq_true_eq] at hid
    obtain ⟨c,⟨hc,howner⟩,rfl⟩ := hid
    exact ⟨c,hc,rfl,howner⟩

theorem canonicalEffect_touches {effect : Effect} (hk : Keyed db) (hcanonical : env.canonical event = true)
    (h : canonicalEffect env db event = some effect) : Touches env db event effect := by
  unfold canonicalEffect at h
  obtain ⟨signature,-,h⟩ := Option.bind_eq_some_iff.mp h
  obtain ⟨policy,-,h⟩ := Option.bind_eq_some_iff.mp h
  obtain ⟨classification,-,h⟩ := Option.bind_eq_some_iff.mp h
  split at h
  · exact changedEffect_touches hk hcanonical h
  · obtain ⟨source,hsource,rfl⟩ := Option.map_eq_some_iff.mp h
    have hwritten : RowWritten db (advanceUnchangedOperationalState db source event) event.sourceId _ :=
      .put hk hsource rfl rfl
    exact hwritten.idle

theorem persistLegacy_written {existing : Option Source} (hk : Keyed db) (hexisting : db.source event.sourceId = existing)
    (h : persistLegacySlackEvent env db event existing = some db') : Touches env db event ⟨db',[],[],none,[]⟩ := by
  unfold persistLegacySlackEvent at h
  obtain ⟨parsed,-,rfl⟩ := Option.map_eq_some_iff.mp h
  cases existing with
  | none =>
    apply RowWritten.persistTouches _ (fun id hid => by cases hid) fun hne => absurd rfl hne
    exact .add hk hexisting rfl rfl
  | some source =>
    apply RowWritten.persistTouches _ (fun id hid => by cases hid) fun hne => absurd rfl hne
    exact .put hk hexisting rfl rfl

theorem legacyEffect_touches {effect : Effect} (hk : Keyed db) (h : legacyEffect env db event = some effect) :
    Touches env db event effect := by
  unfold legacyEffect at h
  cases hsource : db.source event.sourceId with
  | none =>
    rw [hsource] at h
    obtain ⟨db',hpersist,rfl⟩ := Option.map_eq_some_iff.mp h
    exact persistLegacy_written hk hsource hpersist
  | some source =>
    rw [hsource] at h
    dsimp only at h
    split at h
    · cases h
    split at h
    · unfold legacyNarrowingEffect at h
      obtain ⟨stored,-,h⟩ := Option.bind_eq_some_iff.mp h
      obtain ⟨incoming,-,h⟩ := Option.bind_eq_some_iff.mp h
      obtain ⟨levels,-,h⟩ := Option.bind_eq_some_iff.mp h
      split at h
      · obtain rfl := Option.some.inj h
        exact ⟨hk,.refl _,by simp,List.nodup_nil,.inl rfl,by simp,by simp⟩
      · have hwritten : RowWritten db (db.putSource { source with permissionLevel := strictest stored incoming })
            event.sourceId { source with permissionLevel := strictest stored incoming } := .put hk hsource rfl rfl
        have htouches := permissionEffect_touches hwritten.keyed h
        apply htouches.touches hwritten effect.changed
        rw [htouches.changed]
        simp
    · obtain ⟨db',hpersist,rfl⟩ := Option.map_eq_some_iff.mp h
      exact persistLegacy_written hk hsource hpersist

/-- An event extends the tables by rows of its source, and names chunks of its source. -/
theorem eventEffect_touches {effect : Effect} (hk : Keyed db) (h : eventEffect env db event = some effect) :
    Touches env db event effect := by
  unfold eventEffect at h
  split at h
  · cases h
  split at h
  · cases h
  split at h
  · exact legacyEffect_touches hk h
  split at h
  · cases h
  · next hcanonical => exact canonicalEffect_touches hk (by simpa using hcanonical) h

end ParaWorks.Ingestion
