import ParaWorks.VectorIndex.Commit
import ParaWorks.Lib.Partial

/-!
# Undisturbed runs

Runs over an unchanging corpus: what one plans, what it commits, and the condition under which it commits.
-/

namespace ParaWorks.VectorIndex

open Lib Sources Knowledge Answers

section runs

variable (digests : Digests) (settings : Settings)

/-- An authorized `run_rag_v2_reindex` that no other transaction disturbs. -/
def runRagV2Reindex (adapter : EmbeddingAdapter) (now : Nat) (db : Database) : Run :=
  indexChangedVectorDocuments digests settings true adapter (.undisturbed db) now db.corpus.ragV2Documents

def reindexed (adapter : EmbeddingAdapter) (now : Nat) (db : Database) : Database :=
  ⟨db.corpus,(runRagV2Reindex digests settings adapter now db).index db.index⟩

def afterRuns (adapters : Nat → EmbeddingAdapter) (clock : Nat → Nat) (db : Database) : Nat → Database
  | 0 => db
  | n+1 => reindexed digests settings (adapters n) (clock n) (afterRuns adapters clock db n)

/-- The adapter answers with one cosine-indexable vector for each text. -/
def EmbeddingAdapter.CosineIndexable (adapter : EmbeddingAdapter) (expectedDimensions : Nat) : Prop :=
  ∀ texts, texts ≠ [] → ∃ vectors, adapter.embedMany texts = some vectors ∧ vectors.length = texts.length ∧
    ∀ v ∈ vectors, validate v expectedDimensions ≠ none

/-- No batch of the corpus exceeds the budget. -/
def WithinBudget (corpus : Corpus) : Prop :=
  ∀ texts, texts.Sublist (corpus.ragV2Documents.map (·.text)) → budgetBlocks settings texts = false

/-! ## The condition -/

/-- The document has a stored vector that a run can read back. -/
def HasVector (db : Database) (d : VectorDocument) : Prop :=
  ∃ row, db.index.vector d.documentId = some row ∧ validate row.embedding settings.embeddingDimensions ≠ none

/-- The next run takes the document for unchanged. -/
def Refreshes (db : Database) (d : VectorDocument) : Prop := classify digests settings true db d = .refreshed

/-- The rows that no run touches are clean. -/
structure OutsideClean (db : Database) : Prop where
  /-- No live vector is of a document that is not canonical. -/
  foreignRows : ∀ row ∈ db.index.vectors, row.documentId ∉ expectedIds db → isLive db row = false
  /-- Nor is a serving state other than a tombstone. -/
  foreignStates : ∀ state ∈ trackedStates db, state.documentId ∉ expectedIds db → state.status = text "tombstoned"
  notTombstoned : ∀ d ∈ db.corpus.ragV2Documents, d.documentId ∉ db.index.tombstones
  /-- No serving state of another model is a tombstone of a canonical document. -/
  otherModels : ∀ d ∈ db.corpus.ragV2Documents, ∀ state ∈ trackedStates db, state.documentId = d.documentId →
    state.embeddingModel ≠ settings.embeddingModel → state.status ≠ text "tombstoned"

/-- What the tables need for the runs to make the index ready. -/
structure CanConverge (db : Database) : Prop extends OutsideClean settings db where
  /-- A document taken for unchanged has its vector; another one is accepted by the insert, or has one too. -/
  vectors : ∀ d ∈ db.corpus.ragV2Documents, HasVector settings db d ∨
    ¬Refreshes digests settings db d ∧ db.corpus.liveEligibilitySql d = true
  generations : ∀ d ∈ db.corpus.ragV2Documents, Refreshes digests settings db d →
    ∀ state columns, db.index.getIndexState d.documentId settings.embeddingModel = some state →
      state.serving = some columns → columns.vectorIndexGeneration ≤ vectorIndexGeneration db

end runs

/-! ## Planning -/

section planning

variable {digests : Digests} {settings : Settings} {db : Database} {d : VectorDocument}

/-- The state row makes the document unchanged. -/
theorem refreshes_iff (db : Database) (hd : d ∈ db.corpus.ragV2Documents) : Refreshes digests settings db d ↔
    d.documentId ∉ db.index.tombstones ∧
    ∃ state, db.index.getIndexState d.documentId settings.embeddingModel = some state ∧
      stateIsSkippable settings true (computeRagV2DocumentHash digests d) state = true := by
  unfold Refreshes classify
  rw [canonical_of_mem hd]
  by_cases htomb : d.documentId ∈ db.index.tombstones
  · simp [htomb]
  · cases hstate : db.index.getIndexState d.documentId settings.embeddingModel with
    | none => simp [htomb]
    | some state =>
      by_cases hskip : stateIsSkippable settings true (computeRagV2DocumentHash digests d) state = true
      · simp [htomb,hskip,contentHash]
      · simp [htomb,hskip,contentHash]

theorem classify_changed (hd : d ∈ db.corpus.ragV2Documents) (htomb : d.documentId ∉ db.index.tombstones)
    (h : ¬Refreshes digests settings db d) : classify digests settings true db d = .changed := by
  unfold Refreshes at h
  unfold classify at h ⊢
  rw [canonical_of_mem hd] at h ⊢
  cases hstate : db.index.getIndexState d.documentId settings.embeddingModel with
  | none => simp [htomb]
  | some state =>
    by_cases hskip : stateIsSkippable settings true (contentHash digests true d) state = true
    · simp [htomb,hskip,hstate] at h
    · simp [htomb,hskip]

theorem not_tombstoned_of_planned (h : classify digests settings true db d ≠ .skipped) :
    d.documentId ∉ db.index.tombstones := by
  intro htomb
  exact h (by simp [classify,htomb])

theorem ragV2Ids_nodup (corpus : Corpus) : (corpus.ragV2Documents.map (·.documentId)).Nodup := by
  rw [Corpus.ragV2Documents,List.map_map]
  exact corpus.evidenceIds

variable (digests settings db) in
/-- The plan of an undisturbed run. -/
def ownPlan : Plan := makePlan digests settings true db db.corpus.ragV2Documents

theorem mem_changed : d ∈ (ownPlan digests settings db).changed ↔
    d ∈ db.corpus.ragV2Documents ∧ classify digests settings true db d = .changed := by
  simp [ownPlan,makePlan]

theorem mem_refreshed : d ∈ (ownPlan digests settings db).refreshed ↔
    d ∈ db.corpus.ragV2Documents ∧ Refreshes digests settings db d := by
  simp [ownPlan,makePlan,Refreshes]

theorem mem_planned : d ∈ (ownPlan digests settings db).planned ↔
    d ∈ db.corpus.ragV2Documents ∧ d.documentId ∉ db.index.tombstones := by
  rw [Plan.planned,List.mem_append,mem_changed,mem_refreshed]
  constructor
  · rintro (⟨hd,hchanged⟩ | ⟨hd,hrefreshes⟩)
    · have hplanned : classify digests settings true db d ≠ .skipped := by simp [hchanged]
      exact ⟨hd,not_tombstoned_of_planned hplanned⟩
    · exact ⟨hd,((refreshes_iff _ hd).mp hrefreshes).1⟩
  · rintro ⟨hd,htomb⟩
    by_cases h : Refreshes digests settings db d
    · exact .inr ⟨hd,h⟩
    · exact .inl ⟨hd,classify_changed hd htomb h⟩

theorem changed_nodup : ((ownPlan digests settings db).changed.map (·.documentId)).Nodup :=
  (ragV2Ids_nodup db.corpus).sublist (List.filter_sublist.map _)

theorem refreshed_nodup : ((ownPlan digests settings db).refreshed.map (·.documentId)).Nodup :=
  (ragV2Ids_nodup db.corpus).sublist (List.filter_sublist.map _)

/-- Two documents of the corpus with one id are one. -/
theorem eq_of_documentId {e : VectorDocument} (hd : d ∈ db.corpus.ragV2Documents) (he : e ∈ db.corpus.ragV2Documents)
    (h : d.documentId = e.documentId) : d = e := by
  have hfound := canonical_of_mem hd
  rw [h,canonical_of_mem he] at hfound
  exact (Option.some.inj hfound).symm

theorem planned_nodup (digests : Digests) (settings : Settings) (db : Database) :
    ((ownPlan digests settings db).planned.map (·.documentId)).Nodup := by
  rw [Plan.planned,List.map_append,List.nodup_append]
  refine ⟨changed_nodup,refreshed_nodup,?_⟩
  intro id hid id' hid' heq
  obtain ⟨d,hd,rfl⟩ := List.mem_map.mp hid
  obtain ⟨e,he,rfl⟩ := List.mem_map.mp hid'
  rw [mem_changed] at hd
  rw [mem_refreshed] at he
  obtain rfl := eq_of_documentId hd.1 he.1 heq
  have hrefreshes := he.2
  rw [Refreshes,hd.2] at hrefreshes
  cases hrefreshes

theorem mem_sortedSet {id : Text} {ids : List Text} : id ∈ sortedSet ids ↔ id ∈ ids := by
  rw [sortedSet,List.mem_insertionSort,List.mem_dedup]

end planning

/-! ## One run -/

section oneRun

variable {digests : Digests} {settings : Settings} {db : Database} {g : RagServingCorpusGeneration}
  {adapter : EmbeddingAdapter} {now : Nat}

/-- Nothing drifts in an undisturbed run. -/
theorem snapshot_undisturbed (digests : Digests) (settings : Settings) (hgen : db.index.generation = some g) :
    ∃ snapshot, snapshotOf digests true (.undisturbed db) (ownPlan digests settings db) = .ok (some snapshot) ∧
      ((snapshot.map (·.lockPlan)).getD (db.corpus.buildServingLockPlan (ownPlan digests settings db).documentIds) =
        db.corpus.buildServingLockPlan (ownPlan digests settings db).documentIds) ∧
      snapshot.any (drifted digests true · db g (ownPlan digests settings db).documentIds) = false := by
  let plan := ownPlan digests settings db
  by_cases hnone : plan.planned = []
  · refine ⟨none,?_,rfl,rfl⟩
    change (if true = true ∧ plan.planned ≠ [] then _ else _) = _
    rw [if_neg (fun h => h.2 hnone)]
  have hhash : ∀ d ∈ plan.planned,
      canonicalHash digests true db.corpus d.documentId = some (computeVectorDocumentHash digests d) := by
    intro d hd
    rw [canonicalHash,canonical_of_mem (mem_planned.mp hd).1]
    rfl
  let snapshot : RagV2PreProviderSnapshot := ⟨g.corpusGeneration,g.vectorIndexGeneration,g.updatedAt,
    plan.planned.map fun d => (d.documentId,computeVectorDocumentHash digests d),
    db.corpus.buildServingLockPlan plan.documentIds⟩
  refine ⟨some snapshot,?_,rfl,?_⟩
  · have hall : plan.planned.all (fun d => canonicalHash digests true db.corpus d.documentId =
        some (computeVectorDocumentHash digests d)) = true := by
      rw [List.all_eq_true]
      exact fun d hd => decide_eq_true (hhash d hd)
    change (if true = true ∧ plan.planned ≠ [] then _ else _) = _
    rw [if_pos ⟨rfl,hnone⟩]
    change (captureSnapshot digests db db db plan).map _ = _
    unfold captureSnapshot
    rw [if_neg (not_not.mpr (planned_nodup digests settings db)),hgen]
    dsimp only
    rw [if_pos ⟨rfl,rfl,hall⟩]
    rfl
  · change drifted digests true snapshot db g plan.documentIds = false
    unfold drifted
    simp only [Bool.or_eq_false_iff,List.any_eq_false,decide_eq_true_eq,decide_eq_false_iff_not,not_not,not_or]
    refine ⟨⟨rfl,?_⟩,?_⟩
    · intro id hid
      obtain ⟨d,hd,rfl⟩ := List.mem_map.mp (mem_sortedSet.mp hid)
      have hfind : (snapshot.canonicalDocumentHashes.find? (·.1 = d.documentId)).map (·.2) =
          some (computeVectorDocumentHash digests d) := by
        have hn : (snapshot.canonicalDocumentHashes.map (·.1)).Nodup := by
          rw [List.map_map]
          exact planned_nodup digests settings db
        rw [(find?_eq_some_iff hn).mpr ⟨List.mem_map.mpr ⟨d,hd,rfl⟩,rfl⟩]
        rfl
      rw [hfind,hhash d hd]
      simp
    · intro id hid
      obtain ⟨d,hd,rfl⟩ := List.mem_map.mp (mem_sortedSet.mp hid)
      exact (mem_planned.mp hd).2

/-- The provider answers with an embedding for each changed document. -/
theorem embedded (hadapter : adapter.CosineIndexable settings.embeddingDimensions) (documents : List VectorDocument) :
    ∃ vectors, (if documents.map (·.text) = [] then some [] else adapter.embedMany (documents.map (·.text))) =
        some vectors ∧ vectors.length = documents.length ∧
      validateBatch vectors settings.embeddingDimensions = some vectors ∧
      ∀ v ∈ vectors, validate v settings.embeddingDimensions ≠ none := by
  by_cases hnone : documents.map (·.text) = []
  · obtain rfl := List.map_eq_nil_iff.mp hnone
    exact ⟨[],if_pos hnone,rfl,rfl,by simp⟩
  · obtain ⟨vectors,hsome,hlength,hvalid⟩ := hadapter _ hnone
    refine ⟨vectors,by rw [if_neg hnone,hsome],by rw [hlength,List.length_map],?_,hvalid⟩
    clear hsome hlength
    induction vectors with
    | nil => rfl
    | cons v vectors ih =>
      rw [List.forall_mem_cons] at hvalid
      have hself : validate v settings.embeddingDimensions = some v := validate_eq_some.mpr ⟨hvalid.1,rfl⟩
      rw [validateBatch,List.mapM_cons,hself]
      have hrest := ih hvalid.2
      rw [validateBatch] at hrest
      rw [hrest]
      rfl

/-- The changed documents are admitted as they are. -/
theorem admitted_changed {d : VectorDocument} (hd : d ∈ (ownPlan digests settings db).changed) :
    admitted digests true db d = some d := by
  rw [mem_changed] at hd
  have hplanned : classify digests settings true db d ≠ .skipped := by simp [hd.2]
  have htomb := not_tombstoned_of_planned hplanned
  unfold admitted
  rw [canonical_of_mem hd.1]
  simp [htomb,sameDocument]

theorem ragV2_required {d : VectorDocument} {corpus : Corpus} (hd : d ∈ corpus.ragV2Documents) :
    ∃ m, requiredMetadata d = some m := by
  obtain ⟨e,-,rfl⟩ := List.mem_map.mp hd
  exact ⟨e.required,requiredMetadata_ragV2 e⟩

/-- The refreshed rows are those of the planned documents. -/
theorem refreshVectors_ids {documents : List VectorDocument}
    {refreshes : List (VectorIndexState × VectorDocument × Embedding)} (hdocs : ∀ d ∈ documents, d ∈ db.corpus.ragV2Documents)
    (h : documents.mapM (refreshVector digests settings true db) = some refreshes) :
    refreshes.map (·.2.1) = documents ∧ ∀ r ∈ refreshes,
      db.index.getIndexState r.2.1.documentId settings.embeddingModel = some r.1 ∧
      r.1.status = text "indexed" ∧ r.1.contentHash = computeRagV2DocumentHash digests r.2.1 ∧
      r.1.embeddingDimensions = settings.embeddingDimensions ∧ r.1.serving.map (·.cosineIndexable) = some true ∧
      ∃ row, db.index.vector r.2.1.documentId = some row ∧ r.2.2 = row.embedding ∧
        validate row.embedding settings.embeddingDimensions ≠ none := by
  induction documents generalizing refreshes with
  | nil =>
    obtain rfl := Option.some.inj h
    simp
  | cons d documents ih =>
    rw [List.forall_mem_cons] at hdocs
    rw [List.mapM_cons] at h
    simp only [Option.bind_eq_bind,Option.bind_eq_some_iff,Option.pure_def,Option.some.injEq] at h
    obtain ⟨r,hr,rest,hrest,rfl⟩ := h
    obtain ⟨hids,hfacts⟩ := ih hdocs.2 hrest
    have hone : r.2.1 = d ∧ db.index.getIndexState d.documentId settings.embeddingModel = some r.1 ∧
        r.1.status = text "indexed" ∧ r.1.contentHash = computeRagV2DocumentHash digests d ∧
        r.1.embeddingDimensions = settings.embeddingDimensions ∧ r.1.serving.map (·.cosineIndexable) = some true ∧
        ∃ row, db.index.vector d.documentId = some row ∧ r.2.2 = row.embedding ∧
          validate row.embedding settings.embeddingDimensions ≠ none := by
      unfold refreshVector at hr
      rw [canonical_of_mem hdocs.1] at hr
      simp only [Option.bind_eq_bind,Option.bind_eq_some_iff,Option.some.injEq,exists_eq_left'] at hr
      obtain ⟨state,hstate,hr⟩ := hr
      split at hr
      next hall =>
        simp only [Option.bind_eq_some_iff,Option.pure_def,Option.some.injEq] at hr
        obtain ⟨row,hrow,live,hlive,rfl⟩ := hr
        obtain ⟨hvalid,rfl⟩ := validate_eq_some.mp hlive
        exact ⟨rfl,hstate,hall.1,hall.2.1,hall.2.2.1,hall.2.2.2.1,row,hrow,rfl,hvalid⟩
      · cases hr
    refine ⟨?_,?_⟩
    · rw [List.map_cons,hids,hone.1]
    · intro s hs
      rcases List.mem_cons.mp hs with rfl | hs
      · rw [hone.1]
        exact hone.2
      · exact hfacts s hs

theorem not_tombstoned_of_changed {d : VectorDocument} (hd : d ∈ (ownPlan digests settings db).changed) :
    d.documentId ∉ db.index.tombstones :=
  (mem_planned.mp (List.mem_append_left _ hd)).2

/-- What an undisturbed run does: the changed documents, then the refreshes, or nothing where a refresh fails. -/
theorem run_cases (hgen : db.index.generation = some g) (hmatch : generationMatches settings g = true)
    (hbudget : WithinBudget settings db.corpus) (hadapter : adapter.CosineIndexable settings.embeddingDimensions)
    (digests : Digests) (now : Nat) :
    (runRagV2Reindex digests settings adapter now db).requested =
      (ownPlan digests settings db).changed.map (·.text) ∧
    ∃ batch middle, batch.map Prod.fst = (ownPlan digests settings db).changed ∧
      (∀ p ∈ batch, validate p.2 settings.embeddingDimensions ≠ none) ∧
      ChangedBatch digests settings db.corpus (g.vectorIndexGeneration+1) batch db.index middle ∧
      ((ownPlan digests settings db).refreshed.mapM (refreshVector digests settings true db) = none ∧
        (runRagV2Reindex digests settings adapter now db).index db.index = db.index ∨
      ∃ refreshes, (ownPlan digests settings db).refreshed.mapM (refreshVector digests settings true db) =
          some refreshes ∧
        ((∃ e, refreshes.foldlM (refreshRagV2VectorIndexStateMetadata digests settings g.vectorIndexGeneration)
            middle = .error e ∧ (runRagV2Reindex digests settings adapter now db).index db.index = db.index) ∨
        ∃ after, refreshes.foldlM (refreshRagV2VectorIndexStateMetadata digests settings g.vectorIndexGeneration)
            middle = .ok after ∧
          (runRagV2Reindex digests settings adapter now db).index db.index =
            commitGeneration after g (batch ≠ []) now)) := by
  let plan := ownPlan digests settings db
  obtain ⟨vectors,hvectors,hlength,hvalidated,hvalid⟩ := embedded hadapter plan.changed
  obtain ⟨snapshot,hsnapshot,hlocks,hdrift⟩ := snapshot_undisturbed digests settings hgen
  let batch := plan.changed.zip vectors
  have hfst : batch.map Prod.fst = plan.changed := List.map_fst_zip (by omega)
  have hmem : ∀ p ∈ batch, p.1 ∈ plan.changed := fun p hp => (List.of_mem_zip hp).1
  have hids : (batch.map (·.1.documentId)).Nodup := by
    have hmap : batch.map (·.1.documentId) = plan.changed.map (·.documentId) := by
      rw [← hfst,List.map_map]
      rfl
    rw [hmap]
    exact changed_nodup
  obtain ⟨middle,hmiddle,hchanged⟩ := persistChanged_canonical (g := g.vectorIndexGeneration+1)
    (fun p hp => admitted_changed (hmem p hp)) (fun p hp => ragV2_required (mem_changed.mp (hmem p hp)).1)
    (fun p hp => not_tombstoned_of_changed (hmem p hp)) hids
  have hrun : runRagV2Reindex digests settings adapter now db = ⟨plan.changed.map (·.text),
      persistLockedPgvectorBatch digests settings true plan snapshot (db.corpus.buildServingLockPlan plan.documentIds)
        vectors now db⟩ := by
    have heq := indexChangedVectorDocuments_eq (.undisturbed db) now rfl
      (hbudget _ (List.filter_sublist.map _)) hsnapshot hvectors hlength hvalidated
    rw [← hlocks]
    exact heq
  rw [hrun]
  refine ⟨rfl,batch,middle,hfst,fun p hp => hvalid _ (List.of_mem_zip hp).2,hchanged,?_⟩
  by_cases hnone : plan.documentIds = []
  · have hplanned : plan.planned = [] := by
      apply List.eq_nil_iff_forall_not_mem.mpr
      intro d hd
      have hid : d.documentId ∈ plan.documentIds := mem_sortedSet.mpr (List.mem_map.mpr ⟨d,hd,rfl⟩)
      rw [hnone] at hid
      cases hid
    obtain ⟨hnochange,hnorefresh⟩ := List.append_eq_nil_iff.mp hplanned
    have hbatch : batch = [] := by
      change plan.changed.zip vectors = []
      rw [hnochange]
      rfl
    have hsame : middle = db.index := by
      rw [hbatch] at hmiddle
      exact (congrArg Prod.fst (Except.ok.inj hmiddle)).symm
    refine .inr ⟨[],?_,.inr ⟨middle,rfl,?_⟩⟩
    · change plan.refreshed.mapM _ = _
      rw [hnorefresh]
      rfl
    · rw [persist_nothing hnone,hsame]
      change db.index = commitGeneration db.index g (decide (batch ≠ [])) now
      rw [hbatch,commitGeneration]
      simp [← hgen]
  · have hundrifted : Undrifted digests settings true plan snapshot
        (db.corpus.buildServingLockPlan plan.documentIds) now db g := by
      refine ⟨hnone,?_,rfl,hdrift⟩
      simp [lockRagServingGeneration,hgen,hmatch]
    cases hrefresh : plan.refreshed.mapM (refreshVector digests settings true db) with
    | none =>
      rw [persist_discarded hundrifted hrefresh]
      exact .inl ⟨rfl,rfl⟩
    | some refreshes =>
      rw [persist_eq hundrifted hrefresh,hmiddle]
      refine .inr ⟨refreshes,rfl,?_⟩
      cases hfold : refreshes.foldlM
          (refreshRagV2VectorIndexStateMetadata digests settings g.vectorIndexGeneration) middle with
      | error e => exact .inl ⟨e,rfl,by simp [Except.bind,hfold,Except.map,Run.index]⟩
      | ok after =>
        refine .inr ⟨after,rfl,?_⟩
        have hsome : (batch.map (·.1.documentId) = []) ↔ batch = [] := List.map_eq_nil_iff
        simp [Except.bind,hfold,Except.map,Run.index,hsome]

variable (digests settings) in
/-- What a committed run leaves, document by document. -/
structure Committed (db : Database) (g : RagServingCorpusGeneration) (after : IndexTables) : Prop where
  tombstones : after.tombstones = db.index.tombstones
  generation : ∃ h, after.generation = some h ∧ generationMatches settings h = generationMatches settings g ∧
    g.vectorIndexGeneration ≤ h.vectorIndexGeneration ∧
    ((ownPlan digests settings db).changed ≠ [] → h.vectorIndexGeneration = g.vectorIndexGeneration+1)
  changed : ∀ d ∈ (ownPlan digests settings db).changed, ∃ m embedding, requiredMetadata d = some m ∧
    validate embedding settings.embeddingDimensions ≠ none ∧
    after.getIndexState d.documentId settings.embeddingModel =
      some (appliedState digests settings d m embedding (g.vectorIndexGeneration+1)) ∧
    after.vector d.documentId =
      if db.corpus.liveEligibilitySql d = true then some ⟨d,embedding⟩ else db.index.vector d.documentId
  refreshed : ∀ d ∈ (ownPlan digests settings db).refreshed, ∃ m state columns row, requiredMetadata d = some m ∧
    db.index.getIndexState d.documentId settings.embeddingModel = some state ∧ state.serving = some columns ∧
    columns.vectorIndexGeneration ≤ g.vectorIndexGeneration ∧ db.index.vector d.documentId = some row ∧
    validate row.embedding settings.embeddingDimensions ≠ none ∧
    after.getIndexState d.documentId settings.embeddingModel =
      some (appliedState digests settings d m row.embedding columns.vectorIndexGeneration) ∧
    after.vector d.documentId = some row
  otherStates : ∀ documentId model,
    documentId ∉ (ownPlan digests settings db).planned.map (·.documentId) ∨ model ≠ settings.embeddingModel →
    after.getIndexState documentId model = db.index.getIndexState documentId model
  otherVectors : ∀ documentId, documentId ∉ (ownPlan digests settings db).planned.map (·.documentId) →
    after.vector documentId = db.index.vector documentId
  /-- Without changed documents the run leaves vectors and generation as they are. -/
  quiet : (ownPlan digests settings db).changed = [] →
    after.vectors = db.index.vectors ∧ after.generation = db.index.generation

theorem not_mem_planned_ids {documentId : Text}
    (h : documentId ∉ (ownPlan digests settings db).planned.map (·.documentId)) :
    documentId ∉ (ownPlan digests settings db).changed.map (·.documentId) ∧
    documentId ∉ (ownPlan digests settings db).refreshed.map (·.documentId) := by
  rw [Plan.planned,List.map_append,List.mem_append,not_or] at h
  exact h

/-- The two batches of a run together. -/
theorem committed_of_batches {batch : List (VectorDocument × Embedding)} {middle refreshedTables : IndexTables}
    {refreshes : List (VectorIndexState × VectorDocument × Embedding)} (hgen : db.index.generation = some g)
    (hfst : batch.map Prod.fst = (ownPlan digests settings db).changed)
    (hvalid : ∀ p ∈ batch, validate p.2 settings.embeddingDimensions ≠ none)
    (hchanged : ChangedBatch digests settings db.corpus (g.vectorIndexGeneration+1) batch db.index middle)
    (hvectors : (ownPlan digests settings db).refreshed.mapM (refreshVector digests settings true db) = some refreshes)
    (hfold : refreshes.foldlM (refreshRagV2VectorIndexStateMetadata digests settings g.vectorIndexGeneration) middle =
      .ok refreshedTables) :
    Committed digests settings db g (commitGeneration refreshedTables g (batch ≠ []) now) := by
  obtain ⟨hdocs,hrows⟩ := refreshVectors_ids (fun d hd => (mem_refreshed.mp hd).1) hvectors
  have hids : refreshes.map (·.2.1.documentId) = (ownPlan digests settings db).refreshed.map (·.documentId) := by
    rw [← hdocs,List.map_map]
    rfl
  have hbatchIds : batch.map (·.1.documentId) = (ownPlan digests settings db).changed.map (·.documentId) := by
    rw [← hfst,List.map_map]
    rfl
  have hrefreshed := refreshes_ok (hids ▸ refreshed_nodup) hfold
  have hvector : ∀ documentId, refreshedTables.vector documentId = middle.vector documentId := by
    intro documentId
    rw [IndexTables.vector,IndexTables.vector,hrefreshed.vectors]
  have happart : ∀ d ∈ (ownPlan digests settings db).changed, ∀ e ∈ (ownPlan digests settings db).refreshed,
      d.documentId ≠ e.documentId := by
    have hn := planned_nodup digests settings db
    rw [Plan.planned,List.map_append,List.nodup_append] at hn
    exact fun d hd e he => hn.2.2 _ (List.mem_map_of_mem hd) _ (List.mem_map_of_mem he)
  have hnotRefreshed : ∀ d ∈ (ownPlan digests settings db).changed,
      d.documentId ∉ refreshes.map (·.2.1.documentId) := by
    intro d hd hmem
    rw [hids] at hmem
    obtain ⟨e,he,heq⟩ := List.mem_map.mp hmem
    exact happart d hd e he heq.symm
  have hnotChanged : ∀ d ∈ (ownPlan digests settings db).refreshed, d.documentId ∉ batch.map (·.1.documentId) := by
    intro d hd hmem
    rw [hbatchIds] at hmem
    obtain ⟨e,he,heq⟩ := List.mem_map.mp hmem
    exact happart e he d hd heq
  have hempty : batch = [] ↔ (ownPlan digests settings db).changed = [] := by
    rw [← hfst,List.map_eq_nil_iff]
  refine ⟨hrefreshed.tombstones.trans hchanged.tombstones,?_,?_,?_,?_,?_,?_⟩
  · by_cases hnone : batch = []
    · exact ⟨g,by simp [commitGeneration,hnone],rfl,le_rfl,fun h => absurd (hempty.mp hnone) h⟩
    · exact ⟨{ g with vectorIndexGeneration := g.vectorIndexGeneration+1, updatedAt := now },
        by simp [commitGeneration,hnone],rfl,Nat.le_succ _,fun _ => rfl⟩
  · intro d hd
    rw [← hfst] at hd
    obtain ⟨p,hp,rfl⟩ := List.mem_map.mp hd
    rw [hfst] at hd
    obtain ⟨m,hm,hstate⟩ := hchanged.state p hp
    refine ⟨m,p.2,hm,hvalid p hp,?_,?_⟩
    · exact (hrefreshed.otherState _ _ (.inl (hnotRefreshed p.1 hd))).trans hstate
    · exact (hvector _).trans (hchanged.vector p hp)
  · intro d hd
    have hd' := hd
    rw [← hdocs] at hd'
    obtain ⟨r,hr,rfl⟩ := List.mem_map.mp hd'
    obtain ⟨m,columns,hm,hcolumns,hle,hstate⟩ := hrefreshed.state r hr
    obtain ⟨hbefore,-,-,-,-,row,hrow,hlive,hread⟩ := hrows r hr
    refine ⟨m,r.1,columns,row,hm,hbefore,hcolumns,hle,hrow,hread,?_,?_⟩
    · rw [← hlive]
      exact hstate
    · exact (hvector _).trans ((hchanged.otherVector _ (hnotChanged _ hd)).trans hrow)
  · intro documentId model hother
    have hsplit : (documentId ∉ refreshes.map (·.2.1.documentId) ∨ model ≠ settings.embeddingModel) ∧
        (documentId ∉ batch.map (·.1.documentId) ∨ model ≠ settings.embeddingModel) := by
      rw [hids,hbatchIds]
      exact ⟨hother.imp_left fun h => (not_mem_planned_ids h).2,hother.imp_left fun h => (not_mem_planned_ids h).1⟩
    exact (hrefreshed.otherState _ _ hsplit.1).trans (hchanged.otherState _ _ hsplit.2)
  · intro documentId hother
    exact (hvector _).trans (hchanged.otherVector _ (hbatchIds ▸ (not_mem_planned_ids hother).1))
  · intro hnone
    have hbatch := hempty.mpr hnone
    constructor
    · exact hrefreshed.vectors.trans (congrArg IndexTables.vectors (hchanged.unchanged hbatch))
    · rw [commitGeneration,hbatch,hgen]
      rfl

theorem run_committed_or (hgen : db.index.generation = some g) (hmatch : generationMatches settings g = true)
    (hbudget : WithinBudget settings db.corpus) (hadapter : adapter.CosineIndexable settings.embeddingDimensions)
    (digests : Digests) (now : Nat) :
    (runRagV2Reindex digests settings adapter now db).index db.index = db.index ∨
    Committed digests settings db g ((runRagV2Reindex digests settings adapter now db).index db.index) := by
  obtain ⟨-,batch,middle,hfst,hvalid,hchanged,h⟩ := run_cases hgen hmatch hbudget hadapter digests now
  rcases h with ⟨-,hsame⟩ | ⟨refreshes,hvectors,⟨e,-,hsame⟩ | ⟨after,hfold,hindex⟩⟩
  · exact .inl hsame
  · exact .inl hsame
  · rw [hindex]
    exact .inr (committed_of_batches hgen hfst hvalid hchanged hvectors hfold)

/-- The row that a refreshed document is read back from. -/
theorem refreshVector_some {d : VectorDocument} (hd : d ∈ db.corpus.ragV2Documents)
    (hrefreshes : Refreshes digests settings db d) (hvector : HasVector settings db d) :
    ∃ r, refreshVector digests settings true db d = some r := by
  obtain ⟨htomb,state,hstate,hskip⟩ := (refreshes_iff _ hd).mp hrefreshes
  obtain ⟨row,hrow,hvalid⟩ := hvector
  simp only [stateIsSkippable,Bool.and_eq_true,decide_eq_true_eq,Bool.not_true,Bool.false_or] at hskip
  cases hserving : state.serving with
  | none => simp [hserving] at hskip
  | some columns =>
    rw [hserving] at hskip
    simp only [Bool.and_eq_true,decide_eq_true_eq] at hskip
    have hlive : validate row.embedding settings.embeddingDimensions = some row.embedding :=
      validate_eq_some.mpr ⟨hvalid,rfl⟩
    refine ⟨(state,d,row.embedding),?_⟩
    simp only [refreshVector,hstate,canonical_of_mem hd,hrow,hlive,Option.bind_eq_bind,Option.bind_some,contentHash,
      if_true,Option.pure_def]
    rw [if_pos ⟨hskip.1.1,hskip.1.2,hskip.2.1.1.1,by simp [hserving,hskip.2.2],htomb⟩]

/-- Under the condition the run commits. -/
theorem run_committed (hgen : db.index.generation = some g) (hmatch : generationMatches settings g = true)
    (hbudget : WithinBudget settings db.corpus) (hadapter : adapter.CosineIndexable settings.embeddingDimensions)
    (now : Nat) (h : CanConverge digests settings db) :
    Committed digests settings db g ((runRagV2Reindex digests settings adapter now db).index db.index) := by
  obtain ⟨-,batch,middle,hfst,hvalid,hchanged,hcases⟩ := run_cases hgen hmatch hbudget hadapter digests now
  have hread : ∀ d ∈ (ownPlan digests settings db).refreshed,
      ∃ r, refreshVector digests settings true db d = some r := by
    intro d hd
    rw [mem_refreshed] at hd
    exact refreshVector_some hd.1 hd.2 ((h.vectors d hd.1).resolve_right fun hno => hno.1 hd.2)
  rcases hcases with ⟨hnone,-⟩ | ⟨refreshes,hvectors,⟨e,herror,-⟩ | ⟨after,hfold,hindex⟩⟩
  · obtain ⟨refreshes,hvectors⟩ := exists_mapM_eq_some hread
    rw [hnone] at hvectors
    cases hvectors
  · obtain ⟨hdocs,hrows⟩ := refreshVectors_ids (fun d hd => (mem_refreshed.mp hd).1) hvectors
    have hstable : ∀ r ∈ refreshes, requiredMetadata r.2.1 ≠ none ∧
        refreshIsStable digests settings r.1 r.2.1 r.2.2 g.vectorIndexGeneration = true := by
      intro r hr
      have hd : r.2.1 ∈ (ownPlan digests settings db).refreshed := hdocs ▸ List.mem_map.mpr ⟨r,hr,rfl⟩
      rw [mem_refreshed] at hd
      obtain ⟨m,hm⟩ := ragV2_required hd.1
      obtain ⟨hstate,hstatus,hhash,hdims,hcosine,row,hrow,hlive,hread⟩ := hrows r hr
      obtain ⟨columns,hcolumns,htrue⟩ := Option.map_eq_some_iff.mp hcosine
      have hgeneration := h.generations r.2.1 hd.1 hd.2 r.1 columns hstate hcolumns
      rw [vectorIndexGeneration,hgen] at hgeneration
      have hkey := IndexTables.getIndexState_eq.mp hstate
      refine ⟨by simp [hm],?_⟩
      simp only [refreshIsStable,hcolumns,Bool.and_eq_true,decide_eq_true_eq]
      refine ⟨⟨⟨⟨⟨hkey.2.1,hkey.2.2⟩,?_⟩,hhash⟩,hstatus⟩,htrue,hgeneration⟩
      rw [hdims,hlive,validate_length hread]
    obtain ⟨after,hafter⟩ := refreshes_progress middle hstable
    rw [hafter] at herror
    cases herror
  · rw [hindex]
    exact committed_of_batches hgen hfst hvalid hchanged hvectors hfold

end oneRun

end ParaWorks.VectorIndex
