import ParaWorks.Ingestion.Mutations

/-!
# A batch and its events one by one

One call for a list of events against one call for each event.
-/

namespace ParaWorks.Ingestion

open Lib Sources

variable {p : Platform}

/-- One event in a call of its own. -/
def ingestAlone (env : Environment p) (db : IngestionState) (event : SourceEvent) : Option IngestionState :=
  ingestEventsTransaction env db [event]

/-- Each event in a call of its own, until one raises. -/
def ingestOneByOne (env : Environment p) (db : IngestionState) (events : List SourceEvent) : Option IngestionState :=
  events.foldlM (ingestAlone env) db

/-- The tables are the same, generations aside. -/
def SameTables (db db' : IngestionState) : Prop :=
  { db with
    corpusGeneration := db'.corpusGeneration
    vectorIndexGeneration := db'.vectorIndexGeneration } = db'

/-- The batch succeeds where the events do one by one, with the same tables, and changes nothing where it fails. -/
structure BatchAgrees (env : Environment p) (db : IngestionState) (events : List SourceEvent) : Prop where
  succeeds : (ingestEventsWithResult env db events).1 = (ingestOneByOne env db events).isSome
  tables : ∀ db', ingestOneByOne env db events = some db' → SameTables (ingestEventsWithResult env db events).2 db'
  rolledBack : (ingestEventsWithResult env db events).1 = false → (ingestEventsWithResult env db events).2 = db

/-- The documents that an event narrows. -/
def narrowedBy (env : Environment p) (db : IngestionState) (event : SourceEvent) : List Text :=
  ((eventEffect env db event).map fun effect => effect.narrowed.map (·.2)).getD []

/-- The event changes only a permission, to a known level, while a narrowed document has an index state. -/
def crosses (env : Environment p) (db : IngestionState) (narrowed : List Text) (event : SourceEvent) : Bool :=
  (eventEffect env db event).any (·.refresh.isSome) && db.indexStates.any (·.documentId ∈ narrowed)

/-- Some event crosses the narrowings of those before it. -/
def crossing (env : Environment p) : IngestionState → List Text → List SourceEvent → Bool
  | _, _, [] => false
  | db, narrowed, event::events => crosses env db narrowed event ||
    (ingestAlone env db event).any fun db' => crossing env db' (narrowed++narrowedBy env db event) events

/-- The index state serves RAG V2. -/
def VectorIndexState.tracked (s : VectorIndexState) : Bool :=
  s.servingKind.isSome && s.indexPolicyVersion = some (text "rag-v2-serving-index:v1") && s.status = text "indexed"

/-- The committed tables: RAG V2 serves chunks of signed sources only. -/
structure Committed (db : IngestionState) : Prop where
  keyed : Keyed db
  flushed : db.pending = []
  signed : ∀ s ∈ db.indexStates, s.tracked = true → ∀ c ∈ db.chunks, s.documentId = chunkDocumentId c.id →
    ∀ source ∈ db.sources, source.id = c.sourceId → source.serverContentSignature.any (· ≠ []) = true

variable {env : Environment p} {db db' : IngestionState} {event : SourceEvent} {batch batch' : Batch} {effect : Effect}

/-- The documents that a call has deleted or narrowed. -/
def Batch.ids (batch : Batch) : List Text := batch.mutations.deleteIds++narrowedIds batch.mutations.narrowings

/-! ## The end of a call -/

theorem narrowedIds_eq (narrowings : List (Text × List Text)) : narrowedIds narrowings = narrowings.flatMap (·.2) := by
  simp [narrowedIds,narrowingPairs,List.map_flatMap]

theorem narrowVectors_untracked {writer : VectorWriter p} {deletes : List Text} {result result' : List VectorRow × Bool}
    {levels : List (Text × List Text)} (h : levels.foldlM (narrowVectors writer deletes []) result = some result')
    (hresult : result.2 = false) : result'.2 = false := by
  refine foldlM_keeps (P := fun r => r.2 = false) ?_ h hresult
  intro r n r' hr hfalse
  obtain ⟨rows,-,rfl⟩ := Option.map_eq_some_iff.mp hr
  simp [hfalse]

theorem applyVectorMutations_untracked {mutations : VectorMutations} {mutated : Bool}
    (h : applyVectorMutations env db mutations = some (db',mutated))
    (huntracked : ∀ s ∈ db.indexStates, s.tracked = true →
      s.documentId ∉ mutations.deleteIds++narrowedIds mutations.narrowings) : mutated = false := by
  rw [narrowedIds_eq] at huntracked
  unfold applyVectorMutations at h
  have hnone : (db.indexStates.filter fun s => s.documentId ∈ mutations.deleteIds++mutations.narrowings.flatMap (·.2) &&
      s.servingKind.isSome && s.indexPolicyVersion = some (text "rag-v2-serving-index:v1") &&
      s.status = text "indexed") = [] := by
    rw [List.filter_eq_nil_iff]
    intro s hs htracked
    simp only [Bool.and_eq_true,and_assoc] at htracked
    apply huntracked s hs _ (by simpa using htracked.1)
    simp only [VectorIndexState.tracked,Bool.and_eq_true]
    exact ⟨⟨htracked.2.1,htracked.2.2.1⟩,htracked.2.2.2⟩
  dsimp only at h
  rw [hnone] at h
  split at h
  · exact ((Prod.mk.inj (Option.some.inj h)).2).symm
  · split at h
    · exact ((Prod.mk.inj (Option.some.inj h)).2).symm
    · obtain ⟨result,hfold,heq⟩ := Option.map_eq_some_iff.mp h
      rw [← (Prod.mk.inj heq).2]
      apply narrowVectors_untracked hfold
      simp

/-- The tables that the end of a call commits. -/
def Batch.committed (batch : Batch) (rows : List VectorRow) (corpus vector : Nat) : IngestionState :=
  batch.db.view ⟨batch.db.indexStates.filter (·.documentId ∉ batch.mutations.deleteIds),rows,corpus,vector⟩

def Batch.rows (env : Environment p) (batch : Batch) : Option (List VectorRow) :=
  vectorsAfter env batch.mutations.deleteIds (narrowingPairs batch.mutations.narrowings) batch.db.vectors

theorem finishIngestion_rows (env : Environment p) (context : Bool) (batch : Batch)
    (honce : (narrowedIds batch.mutations.narrowings).Nodup)
    (hcontext : context = false → batch.changedStates = [] ∧
      ∀ s ∈ batch.db.indexStates, s.tracked = true → s.documentId ∉ batch.ids) :
    ∃ corpus vector, finishIngestion env context batch = (batch.rows env).map fun rows =>
      batch.committed rows corpus vector := by
  have hrows := applyVectorMutations_rows env batch.db batch.mutations.deleteIds honce
  unfold finishIngestion
  cases happly : applyVectorMutations env batch.db batch.mutations with
  | none =>
    rw [happly] at hrows
    refine ⟨0,0,?_⟩
    cases hafter : batch.rows env with
    | none => rfl
    | some rows =>
      rw [Batch.rows] at hafter
      rw [hafter] at hrows
      cases hrows
  | some result =>
    obtain ⟨db',mutated⟩ := result
    rw [happly] at hrows
    obtain ⟨rows,hafter,rfl⟩ := Option.map_eq_some_iff.mp hrows.symm
    have hquiet : ((mutated || !batch.changedStates.isEmpty) && !context) = false := by
      cases context with
      | true => simp
      | false =>
        obtain ⟨hchanged,huntracked⟩ := hcontext rfl
        rw [hchanged,applyVectorMutations_untracked happly huntracked]
        rfl
    rw [Batch.rows,hafter,Option.bind_some]
    dsimp only
    rw [hquiet]
    exact ⟨_,_,rfl⟩

theorem finishIngestion_flush {context : Bool} :
    finishIngestion env context batch.flush = finishIngestion env context batch := by
  unfold finishIngestion applyVectorMutations Batch.flush
  dsimp only
  split
  · simp [IngestionState.flush]
  · cases env.writer with
    | none => simp [IngestionState.flush]
    | some writer =>
      simp only [Option.bind_map]
      apply congrArg (Option.bind _)
      funext result
      simp [IngestionState.flush]

theorem applyEffect_states : applyEffect p batch effect =
    (statesAfter p effect.refresh effect.db
      (narrowingPairs (addNarrowings batch.mutations.narrowings effect.narrowed)) effect.db.indexStates).map fun states =>
    ⟨{ effect.db with indexStates := states },
      ⟨batch.mutations.deleteIds++effect.deletes,addNarrowings batch.mutations.narrowings effect.narrowed⟩,
      batch.changedStates++effect.changed⟩ := by
  rw [applyEffect,refreshAll_states,Option.map_map]
  rfl

/-! ## What a call keeps -/

/-- A batch after the events done, from the tables that it started with. -/
structure Shared (env : Environment p) (initial : IngestionState) (done : List SourceEvent) (batch : Batch) : Prop where
  keyed : Keyed batch.db
  owned : ∀ id ∈ batch.ids, ∃ c ∈ batch.db.allChunks, id = chunkDocumentId c.id ∧
    ∃ e ∈ done, OwnedBy batch.db e.sourceId c.sourceId
  pending : ∀ c ∈ batch.db.pending, ∃ e ∈ done, OwnedBy batch.db e.sourceId c.sourceId
  once : (narrowedIds batch.mutations.narrowings).Nodup
  apart : ∀ id ∈ batch.mutations.deleteIds, id ∉ narrowedIds batch.mutations.narrowings
  sources : ∀ s ∈ batch.db.sources, (∃ e ∈ done, s.sourceId = e.sourceId) ∨ s ∈ initial.sources
  chunks : ∀ c ∈ batch.db.allChunks, (∃ e ∈ done, OwnedBy batch.db e.sourceId c.sourceId) ∨
    ∃ c₀ ∈ initial.allChunks, c₀.id = c.id ∧ c₀.sourceId = c.sourceId
  states : ∀ s ∈ batch.db.indexStates, ∃ s₀ ∈ initial.indexStates, s.documentId = s₀.documentId ∧ s.tracked = s₀.tracked
  unchanged : (∀ e ∈ done, env.canonical e = false) → batch.changedStates = []
  untracked : (∀ e ∈ done, env.canonical e = false) → ∀ s ∈ batch.db.indexStates, s.tracked = true →
    s.documentId ∉ batch.ids

/-- An event of a source that no event before had, and what it does. -/
structure Next (env : Environment p) (initial : IngestionState) (done : List SourceEvent) (batch : Batch)
    (event : SourceEvent) (effect : Effect) : Prop where
  shared : Shared env initial done batch
  touches : Touches env batch.db event effect
  fresh : ∀ e ∈ done, e.sourceId ≠ event.sourceId
  untracked : env.canonical event = false → ∀ s ∈ batch.db.indexStates, s.tracked = true →
    s.documentId ∉ effect.deletes++effect.narrowed.map (·.2)

variable {initial : IngestionState} {done : List SourceEvent}

theorem Keyed.owner_eq (hk : Keyed db) {key key' : Text} {id : Nat} (h : OwnedBy db key id) (h' : OwnedBy db key' id) :
    key = key' := by
  obtain ⟨s,hs,hid,rfl⟩ := h
  obtain ⟨t,ht,hid',rfl⟩ := h'
  rw [List.inj_on_of_nodup_map hk.sourceIds hs ht (hid.trans hid'.symm)]

/-- The documents of an event are not among those of the events before. -/
theorem Next.newIds (h : Next env initial done batch event effect) :
    ∀ id ∈ effect.deletes++effect.narrowed.map (·.2), id ∉ batch.ids := by
  intro id hid hold
  obtain ⟨c,hc,rfl,howner⟩ := h.touches.own id hid
  obtain ⟨c',hc',heq,e,he,howner'⟩ := h.shared.owned _ hold
  obtain rfl : c' = c := List.inj_on_of_nodup_map h.shared.keyed.chunkIds hc' hc (chunkDocumentId_injective heq).symm
  exact h.fresh e he (h.touches.keyed.owner_eq (howner'.extends h.touches.extended) howner)

theorem Next.newNarrowed (h : Next env initial done batch event effect) :
    ∀ n ∈ effect.narrowed, n.2 ∉ narrowedIds batch.mutations.narrowings := fun n hn hold =>
  h.newIds n.2 (List.mem_append_right _ (List.mem_map_of_mem hn)) (List.mem_append_right _ hold)

theorem Next.pairs (h : Next env initial done batch event effect) :
    (narrowingPairs (addNarrowings batch.mutations.narrowings effect.narrowed)).Perm
      (narrowingPairs batch.mutations.narrowings++effect.narrowed) :=
  addNarrowings_pairs _ h.touches.narrowedOnce h.newNarrowed

theorem Next.ids (h : Next env initial done batch event effect) :
    (narrowedIds (addNarrowings batch.mutations.narrowings effect.narrowed)).Perm
      (narrowedIds batch.mutations.narrowings++effect.narrowed.map (·.2)) :=
  addNarrowings_ids h.touches.narrowedOnce h.newNarrowed

theorem Next.once (h : Next env initial done batch event effect) :
    (narrowedIds (addNarrowings batch.mutations.narrowings effect.narrowed)).Nodup := by
  rw [h.ids.nodup_iff,List.nodup_append]
  refine ⟨h.shared.once,h.touches.narrowedOnce,fun id hid id' hid' heq => ?_⟩
  subst heq
  exact h.newIds id (List.mem_append_right _ hid') (List.mem_append_right _ hid)

/-- The batch after the effect has the documents of both. -/
theorem Next.mem_ids (h : Next env initial done batch event effect) {id : Text}
    (hid : id ∈ (batch.mutations.deleteIds++effect.deletes)++
      narrowedIds (addNarrowings batch.mutations.narrowings effect.narrowed)) :
    id ∈ batch.ids ∨ id ∈ effect.deletes++effect.narrowed.map (·.2) := by
  rcases List.mem_append.mp hid with hdeleted | hnarrowed
  · rcases List.mem_append.mp hdeleted with hold | hnew
    · exact .inl (List.mem_append_left _ hold)
    · exact .inr (List.mem_append_left _ hnew)
  · rcases List.mem_append.mp (h.ids.mem_iff.mp hnarrowed) with hold | hnew
    · exact .inl (List.mem_append_right _ hold)
    · exact .inr (List.mem_append_right _ hnew)

/-- The deleted documents are not narrowed, after the event either. -/
theorem Next.apart (h : Next env initial done batch event effect) :
    ∀ id ∈ batch.mutations.deleteIds++effect.deletes,
      id ∉ narrowedIds (addNarrowings batch.mutations.narrowings effect.narrowed) := by
  intro id hdeleted hnarrowed
  rcases List.mem_append.mp (h.ids.mem_iff.mp hnarrowed) with hold | hnew
  · rcases List.mem_append.mp hdeleted with hdeleted | hdeleted
    · exact h.shared.apart id hdeleted hold
    · exact h.newIds id (List.mem_append_left _ hdeleted) (List.mem_append_right _ hold)
  · rcases List.mem_append.mp hdeleted with hdeleted | hdeleted
    · exact h.newIds id (List.mem_append_right _ hnew) (List.mem_append_left _ hdeleted)
    · rcases h.touches.oneKind with hkind | hkind
      · rw [hkind] at hdeleted
        cases hdeleted
      · rw [hkind] at hnew
        cases hnew

theorem Keyed.withStates (hk : Keyed db) (states : List VectorIndexState) :
    Keyed { db with indexStates := states } :=
  ⟨hk.sourceIds,hk.sourceKeys,hk.documentIds,hk.versionIds,hk.runIds,hk.chunkIds,hk.chunkSources,hk.chunkRuns,
    hk.currentVersions,hk.pendingVersions⟩

/-- What an event does keeps what a call keeps. -/
theorem Next.step (h : Next env initial done batch event effect) (happly : applyEffect p batch effect = some batch') :
    Shared env initial (event::done) batch' := by
  rw [applyEffect_states] at happly
  obtain ⟨states,hstates,rfl⟩ := Option.map_eq_some_iff.mp happly
  have htracked : ∀ s ∈ states, ∃ s₀ ∈ batch.db.indexStates, s.documentId = s₀.documentId ∧ s.tracked = s₀.tracked := by
    intro s hs
    obtain ⟨s₀,hs₀,hid,hkind,hpolicy,hstatus⟩ := statesAfter_keeps hstates s hs
    refine ⟨s₀,h.touches.extended.indexStates ▸ hs₀,hid,?_⟩
    rw [VectorIndexState.tracked,hkind,hpolicy,hstatus]
    rfl
  have hold : ∀ id : Nat, (∃ e ∈ done, OwnedBy batch.db e.sourceId id) → ∃ e ∈ event::done, OwnedBy effect.db e.sourceId id := by
    rintro id ⟨e,he,howner⟩
    exact ⟨e,List.mem_cons_of_mem _ he,howner.extends h.touches.extended⟩
  refine ⟨h.touches.keyed.withStates states,?_,?_,h.once,h.apart,?_,?_,?_,?_,?_⟩
  · intro id hid
    rcases h.mem_ids hid with hmem | hmem
    · obtain ⟨c,hc,rfl,howner⟩ := h.shared.owned id hmem
      obtain ⟨c',hc',hcid,hsource⟩ := h.touches.extended.chunks c hc
      exact ⟨c',hc',by rw [hcid],hsource ▸ hold _ howner⟩
    · obtain ⟨c,hc,rfl,howner⟩ := h.touches.own id hmem
      obtain ⟨c',hc',hcid,hsource⟩ := h.touches.extended.chunks c hc
      exact ⟨c',hc',by rw [hcid],event,List.mem_cons_self,hsource ▸ howner⟩
  · intro c hc
    rcases h.touches.extended.pending c hc with hmem | howner
    · exact hold _ (h.shared.pending c hmem)
    · exact ⟨event,List.mem_cons_self,howner⟩
  · intro s hs
    rcases h.touches.extended.newSources s hs with hown | hmem
    · exact .inl ⟨event,List.mem_cons_self,hown⟩
    · rcases h.shared.sources s hmem with ⟨e,he,hown⟩ | hinitial
      · exact .inl ⟨e,List.mem_cons_of_mem _ he,hown⟩
      · exact .inr hinitial
  · intro c hc
    rcases h.touches.extended.newChunks c hc with hown | ⟨c',hc',hid,hsource⟩
    · exact .inl ⟨event,List.mem_cons_self,hown⟩
    · rcases h.shared.chunks c' hc' with hown | ⟨c₀,hc₀,hid₀,hsource₀⟩
      · exact .inl (hsource ▸ hold _ hown)
      · exact .inr ⟨c₀,hc₀,hid₀.trans hid,hsource₀.trans hsource⟩
  · intro s hs
    obtain ⟨s₁,hs₁,hid,hsame⟩ := htracked s hs
    obtain ⟨s₀,hs₀,hid₀,hsame₀⟩ := h.shared.states s₁ hs₁
    exact ⟨s₀,hs₀,hid.trans hid₀,hsame.trans hsame₀⟩
  · intro hcanonical
    rw [List.forall_mem_cons] at hcanonical
    change batch.changedStates++effect.changed = []
    rw [h.shared.unchanged hcanonical.2,List.nil_append]
    by_contra hchanged
    rw [h.touches.canonical hchanged] at hcanonical
    cases hcanonical.1
  · intro hcanonical s hs hserves hid
    rw [List.forall_mem_cons] at hcanonical
    obtain ⟨s₀,hs₀,hid₀,hsame⟩ := htracked s hs
    rw [hid₀] at hid
    rw [hsame] at hserves
    rcases h.mem_ids hid with hmem | hmem
    · exact h.shared.untracked hcanonical.2 s₀ hs₀ hserves hmem
    · exact h.untracked hcanonical.1 s₀ hs₀ hserves hmem

theorem Shared.flush (h : Shared env initial done batch) : Shared env initial done batch.flush := by
  have hall : batch.flush.db.allChunks = batch.db.allChunks := by
    simp [Batch.flush,IngestionState.flush,IngestionState.allChunks]
  refine ⟨h.keyed.flush,?_,?_,h.once,h.apart,h.sources,?_,h.states,h.unchanged,h.untracked⟩
  · rw [hall]
    exact h.owned
  · simp [Batch.flush,IngestionState.flush]
  · rw [hall]
    exact h.chunks

/-! ## The next event -/

/-- An event outside the canonical sources has an effect on unsigned sources only. -/
theorem eventEffect_unsigned {source : Source} (hcanonical : env.canonical event = false)
    (h : eventEffect env db event = some effect) (hsource : db.source event.sourceId = some source) :
    source.serverContentSignature.any (· ≠ []) = false := by
  unfold eventEffect at h
  split at h
  · cases h
  split at h
  · cases h
  split at h
  · unfold legacyEffect at h
    rw [hsource] at h
    dsimp only at h
    split at h
    · cases h
    · next hunsigned => simpa using hunsigned
  cases h

theorem Shared.next (hinitial : Committed initial) (h : Shared env initial done batch)
    (hfresh : ∀ e ∈ done, e.sourceId ≠ event.sourceId) (heffect : eventEffect env batch.db event = some effect) :
    Next env initial done batch event effect := by
  have htouches := eventEffect_touches h.keyed heffect
  refine ⟨h,htouches,hfresh,?_⟩
  intro hcanonical s hs htracked hid
  obtain ⟨c,hc,hdocument,howner⟩ := htouches.own s.documentId hid
  obtain ⟨source,hsource,hsourceId⟩ := h.keyed.chunkSources c hc
  obtain ⟨source',hsource',hid',hkey'⟩ := htouches.extended.sources source hsource
  have hkey : source.sourceId = event.sourceId :=
    htouches.keyed.owner_eq ⟨source',hsource',hid'.trans hsourceId,hkey'⟩ howner
  have hfound : batch.db.source event.sourceId = some source := by
    rw [← hkey]
    exact find?_of_nodup h.keyed.sourceKeys hsource
  have hunsigned := eventEffect_unsigned hcanonical heffect hfound
  rcases h.sources source hsource with ⟨e,he,hown⟩ | hinitialSource
  · exact hfresh e he (hown.symm.trans hkey)
  rcases h.chunks c hc with ⟨e,he,hown⟩ | ⟨c₀,hc₀,hcid,hcsource⟩
  · exact hfresh e he (htouches.keyed.owner_eq (hown.extends htouches.extended) howner)
  obtain ⟨s₀,hs₀,hdocument₀,hsame⟩ := h.states s hs
  rw [IngestionState.allChunks,hinitial.flushed,List.append_nil] at hc₀
  have hsigned := hinitial.signed s₀ hs₀ (hsame ▸ htracked) c₀ hc₀ (by rw [← hdocument₀,hdocument,hcid]) source
    hinitialSource (hsourceId.trans hcsource.symm)
  rw [hunsigned] at hsigned
  cases hsigned

theorem chunkOf_mem {c : DocumentChunk} (hids : (db.chunks.map (·.id)).Nodup) (hc : c ∈ db.chunks) :
    chunkOf db (chunkDocumentId c.id) = some c := by
  have hsplit : splitOnce (ofChar ':') (chunkDocumentId c.id) = some (text "chunk",Json.renderInt c.id) :=
    splitOnce_append (show ofChar ':' ∉ text "chunk" by decide)
  have hints : (db.chunks.map fun c => (c.id : Int)).Nodup := by
    have hmap := hids.map (f := Int.ofNat) fun a b h => Int.ofNat.inj h
    rwa [List.map_map] at hmap
  rw [chunkOf,hsplit,Option.bind_some,parseInt_renderInt,Option.bind_some]
  exact find?_of_nodup hints hc

/-- A chunk of another source has no authority under this source. -/
theorem refreshedHash_other {source : Source} {chunk : DocumentChunk} {documentId level : Text} (hk : Keyed db)
    (hchunk : chunk ∈ db.allChunks) (hother : chunk.sourceId ≠ source.id) :
    refreshedHash p db source chunk documentId level = none := by
  unfold refreshedHash
  split
  · next version run hversion hrun =>
    obtain ⟨runId,hrunId,hfound⟩ := Option.bind_eq_some_iff.mp hrun
    obtain ⟨hmem,hid⟩ := find?_spec hfound
    obtain ⟨run',hmem',hid',howner⟩ := hk.chunkRuns chunk hchunk runId hrunId
    obtain rfl : run' = run := List.inj_on_of_nodup_map hk.runIds hmem' hmem (hid'.trans (of_decide_eq_true hid).symm)
    split
    · rfl
    · rw [if_pos]
      right; right; right; right; left
      rw [howner]
      exact hother
  · rfl

/-- A refresh over an indexed document of another source raises. -/
theorem Next.crosses_raises {s : VectorIndexState} (h : Next env initial done batch event effect)
    (hrefresh : effect.refresh.isSome = true) (hs : s ∈ batch.db.indexStates)
    (hnarrowed : s.documentId ∈ narrowedIds batch.mutations.narrowings) : applyEffect p batch effect = none := by
  obtain ⟨source,hsource⟩ := Option.isSome_iff_exists.mp hrefresh
  obtain ⟨hkey,hmem,hpending,-⟩ := h.touches.refreshes source hsource
  rw [applyEffect_states,hsource]
  cases hstates : statesAfter p (some source) effect.db
      (narrowingPairs (addNarrowings batch.mutations.narrowings effect.narrowed)) effect.db.indexStates with
  | none => rfl
  | some states =>
    exfalso
    have hs' : s ∈ effect.db.indexStates := h.touches.extended.indexStates ▸ hs
    obtain ⟨s',-,hfold⟩ := forall₂_mem_left (mapM_eq_some_iff.mp hstates) hs'
    have hpair : s.documentId ∈ narrowedIds (addNarrowings batch.mutations.narrowings effect.narrowed) :=
      h.ids.mem_iff.mpr (List.mem_append_left _ hnarrowed)
    obtain ⟨m,hm,hdocument⟩ := List.mem_map.mp hpair
    cases hpairs : (narrowingPairs (addNarrowings batch.mutations.narrowings effect.narrowed)).filter
        (·.2 = s.documentId) with
    | nil => exact List.filter_eq_nil_iff.mp hpairs m hm (by simpa using hdocument)
    | cons n rest =>
      have hn : n.2 = s.documentId := by
        have hmem : n ∈ n::rest := List.mem_cons_self
        rw [← hpairs] at hmem
        simpa using (List.mem_filter.mp hmem).2
      obtain ⟨c,hc,hid,e,he,howner⟩ := h.shared.owned s.documentId (List.mem_append_right _ hnarrowed)
      obtain ⟨c',hc',hcid,hcsource⟩ := h.touches.extended.chunks c hc
      have hflushed : c' ∈ effect.db.chunks := by
        rwa [IngestionState.allChunks,hpending,List.append_nil] at hc'
      have hids : (effect.db.chunks.map (·.id)).Nodup := by
        have hall := h.touches.keyed.chunkIds
        rwa [IngestionState.allChunks,hpending,List.append_nil] at hall
      have hchunk : chunkOf effect.db n.2 = some c' := by
        rw [hn,hid,← hcid]
        exact chunkOf_mem hids hflushed
      have hother : c'.sourceId ≠ source.id := by
        intro heq
        apply h.fresh e he
        apply h.touches.keyed.owner_eq (howner.extends h.touches.extended)
        exact ⟨source,hmem,(hcsource.symm.trans heq).symm,hkey⟩
      rw [hpairs,foldlM_cons_option,refreshedState,if_pos hn.symm,hchunk] at hfold
      simp [refreshedHash_other h.touches.keyed hc' hother] at hfold

/-! ## One event in both -/

theorem ingestEvent_some (h : ingestEvent env batch event = some batch') : ∃ effect result,
    eventEffect env batch.db event = some effect ∧ applyEffect p batch effect = some result ∧
    (batch' = result ∨ batch' = result.flush) := by
  rcases ingestEvent_effect env batch event with heq | heq
  · rw [heq] at h
    obtain ⟨effect,heffect,happly⟩ := Option.bind_eq_some_iff.mp h
    exact ⟨effect,batch',heffect,happly,.inl rfl⟩
  · rw [heq] at h
    obtain ⟨result,hbind,rfl⟩ := Option.map_eq_some_iff.mp h
    obtain ⟨effect,heffect,happly⟩ := Option.bind_eq_some_iff.mp hbind
    exact ⟨effect,result,heffect,happly,.inr rfl⟩

theorem ingestEvent_none (h : (eventEffect env batch.db event).bind (applyEffect p batch) = none) :
    ingestEvent env batch event = none := by
  rcases ingestEvent_effect env batch event with heq | heq
  · rw [heq,h]
  · rw [heq,h]
    rfl

theorem ingestAlone_effect : ingestAlone env db event =
    ((eventEffect env db event).bind (applyEffect p ⟨db,.empty,[]⟩)).bind
      (finishIngestion env (env.canonical event)) := by
  have hloop : ingestAlone env db event =
      (ingestEvent env ⟨db,.empty,[]⟩ event).bind (finishIngestion env (env.canonical event)) := by
    rw [ingestAlone,ingestEventsTransaction,foldlM_cons_option]
    simp only [List.any_cons,List.any_nil,Bool.or_false]
    cases ingestEvent env ⟨db,.empty,[]⟩ event <;> rfl
  rw [hloop]
  rcases ingestEvent_effect env ⟨db,.empty,[]⟩ event with heq | heq
  · rw [heq]
  · rw [heq,Option.bind_map]
    apply congrArg (Option.bind _)
    funext batch
    exact finishIngestion_flush

theorem Next.rows (h : Next env initial done batch event effect) (happly : applyEffect p batch effect = some batch') :
    batch'.rows env = (batch.rows env).bind (vectorsAfter env effect.deletes effect.narrowed) := by
  rw [applyEffect_states] at happly
  obtain ⟨states,-,rfl⟩ := Option.map_eq_some_iff.mp happly
  rw [Batch.rows]
  dsimp only
  rw [vectorsAfter_perm h.pairs h.once,vectorsAfter_append,h.touches.extended.vectors]
  · rfl
  · exact fun id hid hold => h.newIds id (List.mem_append_left _ hid) (List.mem_append_right _ hold)

theorem statesAfter_view {refresh : Option Source} {r : Beside} (h : db.pending = []) :
    statesAfter p refresh (db.view r) = statesAfter p refresh db := by
  change statesAfter p refresh db.flush = _
  rw [flush_of_pending h]

theorem Keyed.view (hk : Keyed db) (r : Beside) : Keyed (db.view r) :=
  ⟨hk.flush.sourceIds,hk.flush.sourceKeys,hk.flush.documentIds,hk.flush.versionIds,hk.flush.runIds,hk.flush.chunkIds,
    hk.flush.chunkSources,hk.flush.chunkRuns,hk.flush.currentVersions,hk.flush.pendingVersions⟩

/-- The effect of an event after the calls for the events before. -/
theorem Shared.effect_view (h : Shared env initial done batch) (hfresh : ∀ e ∈ done, e.sourceId ≠ event.sourceId)
    (r : Beside) : (eventEffect env (batch.db.view r) event).map (·.view r) =
      (eventEffect env batch.db event).map (·.view r) := by
  apply eventEffect_view
  intro source hsource
  obtain ⟨hmem,hkey⟩ := find?_spec hsource
  apply h.keyed.elsewhere
  intro c hc heq
  obtain ⟨e,he,howner⟩ := h.pending c hc
  apply hfresh e he
  exact h.keyed.owner_eq howner ⟨source,hmem,heq.symm,of_decide_eq_true hkey⟩

/-- The index states of a call of its own are those of the batch that are not deleted. -/
theorem Next.states {effect₂ : Effect} {r : Beside} (h : Next env initial done batch event effect)
    (hr : r.indexStates = batch.db.indexStates.filter (·.documentId ∉ batch.mutations.deleteIds))
    (htouches : Touches env (batch.db.view r) event effect₂) (hview : effect₂.view r = effect.view r)
    (hcross : effect.refresh.isSome = true → ∀ s ∈ batch.db.indexStates,
      s.documentId ∉ narrowedIds batch.mutations.narrowings) :
    statesAfter p effect₂.refresh effect₂.db (narrowingPairs (addNarrowings [] effect₂.narrowed)) effect₂.db.indexStates =
      (statesAfter p effect.refresh effect.db
        (narrowingPairs (addNarrowings batch.mutations.narrowings effect.narrowed)) effect.db.indexStates).map
        (·.filter (·.documentId ∉ batch.mutations.deleteIds)) := by
  have hrefresh : effect₂.refresh = effect.refresh := congrArg (·.refresh) hview
  have hnarrowed : effect₂.narrowed = effect.narrowed := congrArg (·.narrowed) hview
  have hdb : effect₂.db.view r = effect.db.view r := congrArg (·.db) hview
  have hstates₂ : effect₂.db.indexStates = batch.db.indexStates.filter (·.documentId ∉ batch.mutations.deleteIds) :=
    htouches.extended.indexStates.trans hr
  rw [hstates₂,h.touches.extended.indexStates,hrefresh,hnarrowed]
  cases hsource : effect.refresh with
  | none => rfl
  | some source =>
    have htables : statesAfter p (some source) effect₂.db = statesAfter p (some source) effect.db := by
      rw [← statesAfter_view (r := r) (htouches.refreshes source (hrefresh.trans hsource)).2.2.1,hdb,
        statesAfter_view (h.touches.refreshes source hsource).2.2.1]
    have halone := addNarrowings_pairs [] h.touches.narrowedOnce (by simp [narrowedIds,narrowingPairs])
    have hids : (narrowedIds (addNarrowings [] effect.narrowed)).Nodup :=
      (halone.map _).nodup_iff.mpr h.touches.narrowedOnce
    have hskip := hcross (by rw [hsource]; rfl)
    rw [htables,statesAfter_perm halone hids,statesAfter_perm h.pairs h.once,statesAfter_skip hskip,statesAfter_filter]
    · rfl
    · exact fun id hid hold => h.newIds id (List.mem_append_right _ hold) (List.mem_append_left _ hid)

/-- Where an event crosses no narrowing, its call commits what the batch would. -/
theorem Next.alone {rows : List VectorRow} (corpus vector : Nat) (h : Next env initial done batch event effect)
    (heffect : eventEffect env batch.db event = some effect) (hrows : batch.rows env = some rows)
    (hcross : effect.refresh.isSome = true → ∀ s ∈ batch.db.indexStates,
      s.documentId ∉ narrowedIds batch.mutations.narrowings) :
    ∃ corpus' vector', ingestAlone env (batch.committed rows corpus vector) event =
      (applyEffect p batch effect).bind fun batch' => (batch'.rows env).map fun rows' =>
        batch'.committed rows' corpus' vector' := by
  generalize hr : (⟨batch.db.indexStates.filter (·.documentId ∉ batch.mutations.deleteIds),rows,corpus,vector⟩ : Beside) = r
  have hcommitted : batch.committed rows corpus vector = batch.db.view r := by rw [← hr]; rfl
  have hsame := h.shared.effect_view h.fresh r
  rw [heffect] at hsame
  obtain ⟨effect₂,heffect₂,hview⟩ := Option.map_eq_some_iff.mp hsame
  have htouches := eventEffect_touches (h.shared.keyed.view r) heffect₂
  have hstates := h.states (by rw [← hr]) htouches hview hcross
  have hnarrowed : effect₂.narrowed = effect.narrowed := congrArg (·.narrowed) hview
  have hdeletes : effect₂.deletes = effect.deletes := congrArg (·.deletes) hview
  have hdb : effect₂.db.view r = effect.db.view r := congrArg (·.db) hview
  have hrun : applyEffect p batch effect = _ := applyEffect_states
  rw [hcommitted,ingestAlone_effect,heffect₂,Option.bind_some,applyEffect_states]
  dsimp only [VectorMutations.empty]
  rw [hstates]
  cases hafter : statesAfter p effect.refresh effect.db
      (narrowingPairs (addNarrowings batch.mutations.narrowings effect.narrowed)) effect.db.indexStates with
  | none =>
    rw [hafter] at hrun
    rw [hrun]
    exact ⟨0,0,rfl⟩
  | some states =>
    rw [hafter,Option.map_some] at hrun
    have hnext := h.rows hrun
    rw [hrows,Option.bind_some] at hnext
    rw [Option.map_some,Option.map_some,Option.bind_some,hrun]
    have halone := addNarrowings_pairs [] htouches.narrowedOnce (by simp [narrowedIds,narrowingPairs])
    have honce : (narrowedIds (addNarrowings [] effect₂.narrowed)).Nodup :=
      (halone.map _).nodup_iff.mpr htouches.narrowedOnce
    obtain ⟨corpus',vector',hfinish⟩ := finishIngestion_rows env (env.canonical event)
      (⟨{ effect₂.db with
          indexStates := states.filter (·.documentId ∉ batch.mutations.deleteIds) },
        ⟨[]++effect₂.deletes,addNarrowings [] effect₂.narrowed⟩,[]++effect₂.changed⟩) honce (by
          intro hcanonical
          refine ⟨?_,fun s hs htracked hid => ?_⟩
          · by_contra hchanged
            rw [htouches.canonical hchanged] at hcanonical
            cases hcanonical
          · obtain ⟨s₀,hs₀,hdocument,hkind,hpolicy,hstatus⟩ := statesAfter_keeps hafter s (List.mem_filter.mp hs).1
            apply h.untracked hcanonical s₀ (h.touches.extended.indexStates ▸ hs₀)
            · rw [VectorIndexState.tracked,← hkind,← hpolicy,← hstatus]
              exact htracked
            · rw [← hdocument,← hnarrowed,← hdeletes]
              rcases List.mem_append.mp hid with hmem | hmem
              · exact List.mem_append_left _ hmem
              · exact List.mem_append_right _ ((halone.map (·.2)).mem_iff.mp hmem))
    refine ⟨corpus',vector',hfinish.trans ?_⟩
    have hvectors : vectorsAfter env ([]++effect₂.deletes) (narrowingPairs (addNarrowings [] effect₂.narrowed))
        effect₂.db.vectors = vectorsAfter env effect.deletes effect.narrowed rows := by
      rw [vectorsAfter_perm halone honce,htouches.extended.vectors,hnarrowed,hdeletes]
      change vectorsAfter env effect.deletes effect.narrowed r.vectors = _
      rw [← hr]
    rw [Option.bind_some,hnext,Batch.rows,hvectors]
    apply congrArg (Option.map · _)
    funext rows'
    have hfilter : (states.filter (·.documentId ∉ batch.mutations.deleteIds)).filter (·.documentId ∉ effect₂.deletes) =
        states.filter (·.documentId ∉ batch.mutations.deleteIds++effect.deletes) := by
      rw [List.filter_filter,hdeletes]
      apply List.filter_congr
      intro s _
      simp [Bool.and_comm]
    have htables := congrArg (·.view ⟨states.filter (·.documentId ∉ batch.mutations.deleteIds++effect.deletes),rows',
      corpus',vector'⟩) hdb
    rw [view_view,view_view] at htables
    unfold Batch.committed
    dsimp only
    rw [List.nil_append,hfilter]
    exact htables

end ParaWorks.Ingestion
