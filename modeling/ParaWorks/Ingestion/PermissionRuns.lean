import ParaWorks.Ingestion.PermissionChanges

/-!
# Permissions over runs

The end of a call, and runs of calls with indexing between them.
-/

namespace ParaWorks.Ingestion

open Lib Sources

variable {p : Platform} {db db' : IngestionState} {m : VectorMutations}

/-! ## Vector mutations -/

/-- A vector row after narrowing: as strict as before and as each level it was narrowed to. -/
structure RowNarrowed (p : Platform) (levels : List (Text × List Text)) (deleteIds : List Text) (v v' : VectorRow) :
    Prop where
  documentId : v'.documentId = v.documentId
  stricter : strictness p v.permissionLevel ≤ strictness p v'.permissionLevel
  levels : ∀ n ∈ levels, v.documentId ∈ n.2 → v.documentId ∉ deleteIds →
    strictness p n.1 ≤ strictness p v'.permissionLevel

theorem narrowRow_spec {writer : VectorWriter p} {level : Text} {ids deleteIds : List Text} {v v' : VectorRow}
    (h : narrowRow writer level (ids.filter (· ∉ deleteIds)) v = some v') :
    RowNarrowed p [(level,ids)] deleteIds v v' := by
  unfold narrowRow at h
  split at h
  · obtain ⟨narrowed,hnarrow,rfl⟩ := Option.map_eq_some_iff.mp h
    obtain ⟨hlevel,hstored⟩ := writer.narrow_strict hnarrow
    refine ⟨rfl,hstored,fun n hn _ _ => ?_⟩
    obtain rfl := List.mem_singleton.mp hn
    exact hlevel
  · next hother =>
    obtain rfl := Option.some.inj h
    refine ⟨rfl,le_rfl,fun n hn hmem hkept => ?_⟩
    obtain rfl := List.mem_singleton.mp hn
    exact absurd (List.mem_filter.mpr ⟨hmem,by simpa using hkept⟩) hother

theorem narrowLoop_spec {writer : VectorWriter p} {deleteIds tracked : List Text} {levels : List (Text × List Text)}
    {result result' : List VectorRow × Bool}
    (h : levels.foldlM (narrowVectors writer deleteIds tracked) result = some result') :
    List.Forall₂ (RowNarrowed p levels deleteIds) result.1 result'.1 := by
  induction levels generalizing result with
  | nil =>
    obtain rfl : result = result' := by simpa using h
    exact List.forall₂_same.mpr fun v _ => ⟨rfl,le_rfl,by simp⟩
  | cons n levels ih =>
    rw [foldlM_cons_option] at h
    obtain ⟨middle,hmiddle,hrest⟩ := Option.bind_eq_some_iff.mp h
    obtain ⟨rows,hrows,rfl⟩ := Option.map_eq_some_iff.mp hmiddle
    rw [mapM_eq_some_iff] at hrows
    have hfirst : List.Forall₂ (RowNarrowed p [n] deleteIds) result.1 rows := hrows.imp fun _ _ => narrowRow_spec
    refine forall₂_comp hfirst (ih hrest) ?_
    intro u v w huv hvw
    refine ⟨hvw.documentId.trans huv.documentId,huv.stricter.trans hvw.stricter,fun k hk hmem hkept => ?_⟩
    rcases List.mem_cons.mp hk with rfl | hk
    · exact (huv.levels k (List.mem_singleton_self _) hmem hkept).trans hvw.stricter
    · rw [← huv.documentId] at hmem hkept
      exact hvw.levels k hk hmem hkept

/-- Between calls: the invariant with no mutation left to apply and all chunks flushed. -/
structure Consistent (p : Platform) (db : IngestionState) : Prop where
  covered : Covered p db .empty
  flushed : db.pending = []

/-- The rows that the vector mutations leave. -/
structure Applied (p : Platform) (db db' : IngestionState) (m : VectorMutations) : Prop where
  sources : db'.sources = db.sources
  chunks : db'.allChunks = db.allChunks
  states : ∀ s ∈ db'.indexStates, s ∈ db.indexStates ∧ s.documentId ∉ m.deleteIds
  vectors : ∀ v' ∈ db'.vectors, ∃ v ∈ db.vectors, v.documentId ∉ m.deleteIds ∧ RowNarrowed p m.narrowings m.deleteIds v v'

theorem applyVectorMutations_applied {env : Environment p} {writer : VectorWriter p} {mutated : Bool}
    (hwriter : env.writer = some writer) (h : applyVectorMutations env db m = some (db',mutated)) :
    Applied p db db' m := by
  unfold applyVectorMutations at h
  dsimp only at h
  split at h
  · next hnone =>
    obtain ⟨rfl,rfl⟩ := Prod.mk.inj (Option.some.inj h)
    obtain ⟨hdelete,hnarrow⟩ := List.append_eq_nil_iff.mp hnone
    refine ⟨rfl,rfl,fun s hs => ⟨hs,by simp [hdelete]⟩,fun v hv => ⟨v,hv,by simp [hdelete],rfl,le_rfl,?_⟩⟩
    intro n hn hmem
    rw [List.flatMap_eq_nil_iff.mp hnarrow n hn] at hmem
    cases hmem
  · rw [hwriter] at h
    obtain ⟨result,hresult,h⟩ := Option.map_eq_some_iff.mp h
    obtain ⟨rfl,rfl⟩ := Prod.mk.inj h
    refine ⟨rfl,rfl,fun s hs => ?_,fun v' hv' => ?_⟩
    · obtain ⟨hmem,hkept⟩ := List.mem_filter.mp hs
      exact ⟨hmem,by simpa using hkept⟩
    · obtain ⟨v,hv,hnarrowed⟩ := forall₂_mem_right (narrowLoop_spec hresult) hv'
      obtain ⟨hmem,hkept⟩ := List.mem_filter.mp hv
      refine ⟨v,hmem,by simpa using hkept,hnarrowed.documentId,hnarrowed.stricter,fun n hn => ?_⟩
      exact hnarrowed.levels n ((List.perm_insertionSort _ _).mem_iff.mpr hn)

theorem Applied.covered (hc : Covered p db m) (h : Applied p db db' m) : Covered p db' .empty where
  sourceIds := by rw [h.sources]; exact hc.sourceIds
  chunkIds := by rw [h.chunks]; exact hc.chunkIds
  owned := by rw [h.chunks,h.sources]; exact hc.owned
  strict := by rw [h.chunks,h.sources]; exact hc.strict
  vectorChunks := by
    intro v' hv' id hid
    obtain ⟨v,hv,-,hnarrowed⟩ := h.vectors v' hv'
    rw [h.chunks]
    exact hc.vectorChunks v hv id (hnarrowed.documentId.symm.trans hid)
  stateChunks := by
    intro s hs
    rw [h.chunks]
    exact hc.stateChunks s (h.states s hs).1
  vectors := by
    intro v' hv' c hmem hid
    obtain ⟨v,hv,hkept,hnarrowed⟩ := h.vectors v' hv'
    rw [h.chunks] at hmem
    have hdocument : v.documentId = chunkDocumentId c.id := hnarrowed.documentId.symm.trans hid
    rw [hdocument] at hkept
    rcases hc.vectors v hv c hmem hdocument with hdelete | hle | ⟨level,hpair,hle⟩
    · exact absurd hdelete hkept
    · exact .inr (.inl (hle.trans hnarrowed.stricter))
    · obtain ⟨n,hn,hpair⟩ := List.mem_flatMap.mp hpair
      obtain ⟨id,hidmem,heq⟩ := List.mem_map.mp hpair
      obtain ⟨rfl,rfl⟩ := Prod.mk.inj heq
      exact .inr (.inl (hle.trans (hnarrowed.levels n hn (by rwa [hdocument]) (by rwa [hdocument]))))
  unknown := by
    intro c hmem hunknown
    rw [h.chunks] at hmem
    right
    rcases hc.unknown c hmem hunknown with hdelete | ⟨hvectors,hstates⟩
    · constructor
      · intro v' hv' hid
        obtain ⟨v,-,hkept,hnarrowed⟩ := h.vectors v' hv'
        rw [hnarrowed.documentId.symm.trans hid] at hkept
        exact hkept hdelete
      · intro s hs hid
        exact (h.states s hs).2 (hid ▸ hdelete)
    · constructor
      · intro v' hv' hid
        obtain ⟨v,hv,-,hnarrowed⟩ := h.vectors v' hv'
        exact hvectors v hv (hnarrowed.documentId.symm.trans hid)
      · exact fun s hs => hstates s (h.states s hs).1

/-! ## Calls -/

section calls

variable {env : Environment p} {batch batch' : Batch} {events : List SourceEvent}

/-- Every event of a call is settled in the state that the events before it leave. -/
def AllSettled (env : Environment p) : Batch → List SourceEvent → Prop
  | _, [] => True
  | batch, event::events => Settled env batch.db event ∧
      ∀ batch', ingestEvent env batch event = some batch' → AllSettled env batch' events

theorem loop_covered (hc : Covered p batch.db batch.mutations) (hsettled : AllSettled env batch events)
    (h : events.foldlM (ingestEvent env) batch = some batch') :
    Covered p batch'.db batch'.mutations ∧ Keeps p batch.db batch'.db := by
  induction events generalizing batch with
  | nil =>
    obtain rfl : batch = batch' := by simpa using h
    exact ⟨hc,.refl _⟩
  | cons event events ih =>
    rw [foldlM_cons_option] at h
    obtain ⟨middle,hmiddle,hrest⟩ := Option.bind_eq_some_iff.mp h
    obtain ⟨olds,new,hchange⟩ := ingestEvent_change hc hsettled.1 hmiddle
    obtain ⟨hcovered,hkeeps⟩ := ih (hchange.covered hc) (hsettled.2 middle hmiddle) hrest
    exact ⟨hcovered,hchange.keeps.trans hkeeps⟩

theorem finish_consistent {context : Bool} (hwriter : env.writer ≠ none) (hc : Covered p batch.db batch.mutations)
    (h : finishIngestion env context batch = some db') : Consistent p db' ∧ Keeps p batch.db db' := by
  obtain ⟨writer,hwriter⟩ := Option.ne_none_iff_exists'.mp hwriter
  obtain ⟨⟨applied,mutated⟩,happly,h⟩ := Option.bind_eq_some_iff.mp h
  have happlied := applyVectorMutations_applied hwriter happly
  have hcovered := happlied.covered hc
  dsimp only at h
  split at h
  · cases h
  · obtain rfl := Option.some.inj h
    have hall : ({ applied.flush with
        vectorIndexGeneration := applied.vectorIndexGeneration+(if mutated then 1 else 0)
        corpusGeneration := applied.corpusGeneration+(if batch.changedStates.isEmpty then 0 else 1) } :
          IngestionState).allChunks = applied.allChunks := by simp [IngestionState.flush,IngestionState.allChunks]
    refine ⟨⟨?_,rfl⟩,?_⟩
    · refine ⟨hcovered.sourceIds,?_,?_,?_,?_,?_,?_,?_⟩
      · rw [hall]; exact hcovered.chunkIds
      · rw [hall]; exact hcovered.owned
      · rw [hall]; exact hcovered.strict
      · rw [hall]; exact hcovered.vectorChunks
      · rw [hall]; exact hcovered.stateChunks
      · rw [hall]; exact hcovered.vectors
      · rw [hall]; exact hcovered.unknown
    · intro c hmem
      rw [hall,happlied.chunks]
      exact ⟨c,hmem,rfl,rfl,rfl,le_rfl⟩

theorem ingest_consistent (hwriter : env.writer ≠ none) (hc : Consistent p db)
    (hsettled : AllSettled env ⟨db,.empty,[]⟩ events) (h : ingestEventsTransaction env db events = some db') :
    Consistent p db' ∧ Keeps p db db' := by
  obtain ⟨batch,hloop,hfinish⟩ := Option.bind_eq_some_iff.mp h
  obtain ⟨hcovered,hkeeps⟩ := loop_covered hc.covered hsettled hloop
  obtain ⟨hconsistent,hkeeps'⟩ := finish_consistent hwriter hcovered hfinish
  exact ⟨hconsistent,hkeeps.trans hkeeps'⟩

end calls

/-! ## Runs -/

/-- Indexing writes vector rows and index states of chunks of a known level, as strict as their chunks. -/
structure Indexed (p : Platform) (db db' : IngestionState) : Prop where
  sources : db'.sources = db.sources
  chunks : db'.chunks = db.chunks
  pending : db'.pending = db.pending
  vectors : ∀ v ∈ db'.vectors, v ∈ db.vectors ∨ (∀ id, v.documentId ≠ chunkDocumentId id) ∨
    ∃ c ∈ db.chunks, v.documentId = chunkDocumentId c.id ∧ strictness p c.permissionLevel ≠ 3 ∧
      strictness p c.permissionLevel ≤ strictness p v.permissionLevel
  states : ∀ s ∈ db'.indexStates, s ∈ db.indexStates ∨ (∀ id, s.documentId ≠ chunkDocumentId id) ∨
    ∃ c ∈ db.chunks, s.documentId = chunkDocumentId c.id ∧ strictness p c.permissionLevel ≠ 3

/-- Successful calls with a vector writer, whose events are settled, and indexing between them. -/
inductive Run (p : Platform) (start : IngestionState) : IngestionState → Prop
  | start : Run p start start
  | ingest {db db' : IngestionState} (env : Environment p) (events : List SourceEvent) : Run p start db →
      env.writer ≠ none → AllSettled env ⟨db,.empty,[]⟩ events → ingestEventsWithResult env db events = (true,db') →
      Run p start db'
  | index {db db' : IngestionState} : Run p start db → Indexed p db db' → Run p start db'

theorem chunk_eq_of_id (hc : Covered p db m) {c d : DocumentChunk} (hmem : c ∈ db.allChunks) (hmem' : d ∈ db.allChunks)
    (hid : c.id = d.id) : c = d :=
  List.inj_on_of_nodup_map hc.chunkIds hmem hmem' hid

theorem Indexed.consistent (hc : Consistent p db) (h : Indexed p db db') : Consistent p db' ∧ Keeps p db db' := by
  have hall : db'.allChunks = db.allChunks := by rw [IngestionState.allChunks,h.chunks,h.pending]; rfl
  have hchunk : ∀ {c}, c ∈ db.chunks → c ∈ db.allChunks := fun hmem => List.mem_append_left _ hmem
  refine ⟨⟨⟨?_,?_,?_,?_,?_,?_,?_,?_⟩,h.pending.trans hc.flushed⟩,fun c hmem => ?_⟩
  · rw [h.sources]; exact hc.covered.sourceIds
  · rw [hall]; exact hc.covered.chunkIds
  · rw [hall,h.sources]; exact hc.covered.owned
  · rw [hall,h.sources]; exact hc.covered.strict
  · intro v hv id hid
    rw [hall]
    rcases h.vectors v hv with hold | hother | ⟨c,hmem,hdocument,-⟩
    · exact hc.covered.vectorChunks v hold id hid
    · exact absurd hid (hother id)
    · exact ⟨c,hchunk hmem,chunkDocumentId_injective (hdocument.symm.trans hid)⟩
  · intro s hs id hid
    rw [hall]
    rcases h.states s hs with hold | hother | ⟨c,hmem,hdocument,-⟩
    · exact hc.covered.stateChunks s hold id hid
    · exact absurd hid (hother id)
    · exact ⟨c,hchunk hmem,chunkDocumentId_injective (hdocument.symm.trans hid)⟩
  · intro v hv c hmem hid
    rw [hall] at hmem
    rcases h.vectors v hv with hold | hother | ⟨d,hd,hdocument,-,hle⟩
    · exact hc.covered.vectors v hold c hmem hid
    · exact absurd hid (hother _)
    · obtain rfl := chunk_eq_of_id hc.covered (hchunk hd) hmem
        (chunkDocumentId_injective (hdocument.symm.trans hid))
      exact .inr (.inl hle)
  · intro c hmem hunknown
    rw [hall] at hmem
    rcases hc.covered.unknown c hmem hunknown with hdelete | ⟨hvectors,hstates⟩
    · cases hdelete
    · right
      constructor
      · intro v hv hid
        rcases h.vectors v hv with hold | hother | ⟨d,hd,hdocument,hknown,-⟩
        · exact hvectors v hold hid
        · exact hother _ hid
        · obtain rfl := chunk_eq_of_id hc.covered (hchunk hd) hmem
            (chunkDocumentId_injective (hdocument.symm.trans hid))
          exact hknown hunknown
      · intro s hs hid
        rcases h.states s hs with hold | hother | ⟨d,hd,hdocument,hknown⟩
        · exact hstates s hold hid
        · exact hother _ hid
        · obtain rfl := chunk_eq_of_id hc.covered (hchunk hd) hmem
            (chunkDocumentId_injective (hdocument.symm.trans hid))
          exact hknown hunknown
  · rw [hall]
    exact ⟨c,hmem,rfl,rfl,rfl,le_rfl⟩

theorem Run.consistent {start : IngestionState} (hstart : Consistent p start) (h : Run p start db) :
    Consistent p db ∧ Keeps p start db := by
  induction h with
  | start => exact ⟨hstart,.refl _⟩
  | ingest env events _ hwriter hsettled hingest ih =>
    unfold ingestEventsWithResult at hingest
    split at hingest
    · cases hingest
    next committed hcommitted =>
    obtain ⟨-,rfl⟩ := Prod.mk.inj hingest
    obtain ⟨hconsistent,hkeeps⟩ := ingest_consistent hwriter ih.1 hsettled hcommitted
    exact ⟨hconsistent,ih.2.trans hkeeps⟩
  | index _ hindexed ih =>
    obtain ⟨hconsistent,hkeeps⟩ := hindexed.consistent ih.1
    exact ⟨hconsistent,ih.2.trans hkeeps⟩

/-- Over every run of settled events the served permissions follow each narrowing. -/
theorem ingestion_keeps_permissions (p : Platform) (start db : IngestionState) (hstart : Consistent p start)
    (hrun : Run p start db) :
    (∀ c ∈ db.chunks, ∀ s ∈ db.sources, s.id = c.sourceId →
      strictness p s.permissionLevel ≤ strictness p c.permissionLevel) ∧
    (∀ c ∈ start.chunks, ∃ c' ∈ db.chunks, c'.id = c.id ∧ c'.versionId = c.versionId ∧
      strictness p c.permissionLevel ≤ strictness p c'.permissionLevel) ∧
    (∀ v ∈ db.vectors, ∀ c ∈ db.chunks, v.documentId = chunkDocumentId c.id →
      strictness p c.permissionLevel ≤ strictness p v.permissionLevel) ∧
    ∀ s ∈ db.sources, strictness p s.permissionLevel = 3 → ∀ c ∈ db.chunks, c.sourceId = s.id →
      (∀ v ∈ db.vectors, v.documentId ≠ chunkDocumentId c.id) ∧
        ∀ state ∈ db.indexStates, state.documentId ≠ chunkDocumentId c.id := by
  obtain ⟨⟨hcovered,hflushed⟩,hkeeps⟩ := hrun.consistent hstart
  have hall : db.allChunks = db.chunks := by rw [IngestionState.allChunks,hflushed,List.append_nil]
  refine ⟨by rw [← hall]; exact hcovered.strict,?_,?_,?_⟩
  · intro c hmem
    obtain ⟨c',hmem',hid,hversion,-,hle⟩ := hkeeps c (List.mem_append_left _ hmem)
    exact ⟨c',hall ▸ hmem',hid,hversion,hle⟩
  · intro v hv c hmem hid
    rcases hcovered.vectors v hv c (List.mem_append_left _ hmem) hid with hdelete | hle | ⟨level,hpair,-⟩
    · cases hdelete
    · exact hle
    · cases hpair
  · intro s hs hunknown c hmem hid
    have hle := hcovered.strict c (List.mem_append_left _ hmem) s hs hid.symm
    have hchunk : strictness p c.permissionLevel = 3 := le_antisymm (strictness_le _) (hunknown ▸ hle)
    rcases hcovered.unknown c (List.mem_append_left _ hmem) hchunk with hdelete | hnone
    · cases hdelete
    · exact hnone

/-! ## The vector store, and a mail that narrows with new content -/

theorem strictness_known {level : Text} (h : permissionRank level ≠ 3) : strictness p level = permissionRank level := by
  have hmem : level ∈ [text "public",text "internal",text "restricted"] := by
    unfold permissionRank at h
    split_ifs at h with hpublic hinternal hrestricted
    · simp [hpublic]
    · simp [hinternal]
    · simp [hrestricted]
    · exact absurd rfl h
  have hstrip : ∀ t ∈ [text "public",text "internal",text "restricted"], strip t = t := by decide
  rw [strictness,hstrip level hmem,p.lower_level level hmem]

/-- `PgVectorStore.narrow_permissions`, row by row. -/
def pgVectorStore (p : Platform) : VectorWriter p where
  narrow level stored :=
    if permissionRank level = 3 ∨ permissionRank stored = 3 ∨ permissionRank level < permissionRank stored then none
    else some level
  narrow_strict := by
    intro level stored narrowed h
    split at h
    · cases h
    next hallowed =>
    obtain rfl := Option.some.inj h
    simp only [not_or,not_lt] at hallowed
    obtain ⟨hlevel,hstored,hle⟩ := hallowed
    rw [strictness_known hlevel,strictness_known hstored]
    exact ⟨le_rfl,hle⟩

def asciiLower (c : CodePoint) : CodePoint := if 65 ≤ c.val ∧ c.val ≤ 90 then Fin.ofNat _ (c.val+32) else c

theorem isSpace_asciiLower (c : CodePoint) : isSpace (asciiLower c) = isSpace c := by
  unfold asciiLower
  split
  · next h =>
    have hval : (Fin.ofNat 0x110000 (c.val+32)).val = c.val+32 := Nat.mod_eq_of_lt (by omega)
    simp only [isSpace,hval]
    grind
  · rfl

theorem asciiLower_asciiLower (c : CodePoint) : asciiLower (asciiLower c) = asciiLower c := by
  unfold asciiLower
  split
  · next h =>
    have hval : (Fin.ofNat 0x110000 (c.val+32)).val = c.val+32 := Nat.mod_eq_of_lt (by omega)
    rw [if_neg (by omega)]
  · rfl

def samplePlatform : Platform where
  letters := ⟨List.map asciiLower,rfl⟩
  lower_level := by decide
  lower_lower := by
    intro t
    change (strip ((strip t).map asciiLower)).map asciiLower = (strip t).map asciiLower
    rw [strip_map isSpace_asciiLower,strip_strip,List.map_map]
    exact List.map_congr_left fun c _ => asciiLower_asciiLower c
  nfc := id
  str := Json.render
  fromTimestamp := fun _ _ => none
  fromMillis := fun n => some (Json.renderInt n)
  fromIso := fun _ => none
  dateExact := fun _ => false
  textDigest := some
  compactDigest := fun v => some (Json.render v)
  plainDigest := fun v => some (Json.render v)

def emptyState : IngestionState := ⟨[],[],[],[],[],[],[],[],0,0⟩

theorem emptyState_consistent : Consistent p emptyState :=
  ⟨⟨List.nodup_nil,List.nodup_nil,by simp [emptyState,IngestionState.allChunks],
    by simp [emptyState,IngestionState.allChunks],by simp [emptyState],by simp [emptyState],by simp [emptyState],
    by simp [emptyState,IngestionState.allChunks]⟩,rfl⟩

def sampleEnvironment : Environment samplePlatform :=
  ⟨text "2026-01-01T00:00:00+00:00",false,fun _ => none,some (pgVectorStore samplePlatform)⟩

def mail (body level : Text) : SourceEvent :=
  ⟨text "gmail",text "gmail:1",text "mail",text "Plan",body,none,[],level,[],some (text "0")⟩

/-- The tables after a public mail. -/
def mailState : IngestionState :=
  (ingestEventsWithResult sampleEnvironment emptyState [mail (text "a") (text "public")]).2

theorem mailState_settled : Settled sampleEnvironment mailState (mail (text "a") (text "restricted")) := by
  intro source hsource c hmem hid
  have hstored : (mailState.source (text "gmail:1")).all (fun source =>
      contentStored sampleEnvironment mailState source (mail (text "a") (text "restricted"))) = true := by decide
  have hpending : mailState.pending = [] := List.isEmpty_iff.mp (by decide)
  change mailState.source (text "gmail:1") = some source at hsource
  rw [hsource] at hstored
  exact .inl ⟨by simpa using hstored,by simp [hpending]⟩

theorem committed_of_success {result : Bool × IngestionState} (h : result.1 = true) : result = (true,result.2) :=
  Prod.ext h rfl

/-- The tables after the same mail under a stricter permission. -/
def narrowedMailState : IngestionState :=
  (ingestEventsWithResult sampleEnvironment mailState [mail (text "a") (text "restricted")]).2

theorem narrowedMailState_run : Run samplePlatform emptyState narrowedMailState := by
  have hfirst : Run samplePlatform emptyState mailState := by
    refine .ingest sampleEnvironment [mail (text "a") (text "public")] .start (by simp [sampleEnvironment])
      ⟨fun source hsource => ?_,fun _ _ => trivial⟩ ?_
    · cases hsource
    · exact committed_of_success (by decide)
  refine .ingest sampleEnvironment [mail (text "a") (text "restricted")] hfirst (by simp [sampleEnvironment])
    ⟨mailState_settled,fun _ _ => trivial⟩ ?_
  exact committed_of_success (by decide +kernel)

theorem ingestion_keeps_permissions_mail : narrowedMailState.chunks.map (·.permissionLevel) = [text "restricted"] ∧
    ∀ c ∈ narrowedMailState.chunks, ∀ s ∈ narrowedMailState.sources, s.id = c.sourceId →
      strictness samplePlatform s.permissionLevel ≤ strictness samplePlatform c.permissionLevel :=
  ⟨by decide +kernel,(ingestion_keeps_permissions samplePlatform emptyState narrowedMailState emptyState_consistent
    narrowedMailState_run).1⟩

/-- The tables after a mail with new content under a stricter permission. -/
def replacedMailState : IngestionState :=
  (ingestEventsWithResult sampleEnvironment mailState [mail (text "b") (text "restricted")]).2

/-- The chunk of the earlier version stays public under a restricted source. -/
theorem ingestion_leaves_public_chunk :
    (ingestEventsWithResult sampleEnvironment emptyState [mail (text "a") (text "public")]).1 = true ∧
    (ingestEventsWithResult sampleEnvironment mailState [mail (text "b") (text "restricted")]).1 = true ∧
    ∃ s ∈ replacedMailState.sources, ∃ c ∈ replacedMailState.chunks, s.id = c.sourceId ∧
      strictness samplePlatform c.permissionLevel < strictness samplePlatform s.permissionLevel := by
  decide +kernel

end ParaWorks.Ingestion
