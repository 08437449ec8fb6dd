import ParaWorks.VectorIndex.Reindex

/-!
# What a committed batch leaves

The rows of the changed and of the refreshed documents after a RAG V2 batch, in terms of the rows before it.
-/

namespace ParaWorks.VectorIndex

open Lib Sources Knowledge Answers

section metadata

variable {e : IndexableEvidence}

/-- The metadata that every built document carries. -/
def IndexableEvidence.required (e : IndexableEvidence) : RequiredMetadata :=
  ⟨e.servingKind,e.supportMode,e.servingIdentityHmac,e.servingVersionFingerprint,e.modelContentHmac,
    e.canonicalCitationProjectionHmac⟩

theorem entry_ragV2Metadata (e : IndexableEvidence) :
    entry (ragV2Metadata e) (text "serving_kind") = some (.str e.servingKind) ∧
    entry (ragV2Metadata e) (text "support_mode") = some (.str e.supportMode) ∧
    entry (ragV2Metadata e) (text "serving_identity_hmac") = some (.str e.servingIdentityHmac) ∧
    entry (ragV2Metadata e) (text "serving_version_fingerprint") = some (.str e.servingVersionFingerprint) ∧
    entry (ragV2Metadata e) (text "model_content_hmac") = some (.str e.modelContentHmac) ∧
    entry (ragV2Metadata e) (text "canonical_citation_projection_hmac") =
      some (.str e.canonicalCitationProjectionHmac) := by
  refine ⟨?_,?_,?_,?_,?_,?_⟩ <;> rfl

theorem requiredMetadata_ragV2 (e : IndexableEvidence) :
    requiredMetadata (ragV2VectorDocument e) = some e.required := by
  obtain ⟨hkind,hmode,hidentity,hversion,hcontent,hcitation⟩ := entry_ragV2Metadata e
  simp only [requiredMetadata,requiredText,ragV2VectorDocument,hkind,hmode,hidentity,hversion,hcontent,hcitation,
    if_neg e.servingKind_ne,if_neg e.supportMode_ne,if_neg e.servingIdentityHmac_ne,
    if_neg e.servingVersionFingerprint_ne,if_neg e.modelContentHmac_ne,if_neg e.canonicalCitationProjectionHmac_ne]
  rfl

end metadata

section batch

variable (digests : Digests) (settings : Settings)

/-- What the loop over the changed documents does, each with its embedding. -/
structure ChangedBatch (corpus : Corpus) (nextVectorGeneration : Nat) (batch : List (VectorDocument × Embedding))
    (before after : IndexTables) : Prop where
  generation : after.generation = before.generation
  tombstones : after.tombstones = before.tombstones
  state : ∀ p ∈ batch, ∃ m, requiredMetadata p.1 = some m ∧
    after.getIndexState p.1.documentId settings.embeddingModel =
      some (appliedState digests settings p.1 m p.2 nextVectorGeneration)
  vector : ∀ p ∈ batch, after.vector p.1.documentId =
    if corpus.liveEligibilitySql p.1 = true then some ⟨p.1,p.2⟩ else before.vector p.1.documentId
  otherState : ∀ documentId model, documentId ∉ batch.map (·.1.documentId) ∨ model ≠ settings.embeddingModel →
    after.getIndexState documentId model = before.getIndexState documentId model
  otherVector : ∀ documentId, documentId ∉ batch.map (·.1.documentId) →
    after.vector documentId = before.vector documentId
  unchanged : batch = [] → after = before

variable {digests settings} {db : Database} {g : Nat} {tables : IndexTables}

/-- One document of the batch. -/
theorem persistDocument_ragV2 (digests : Digests) (settings : Settings) (corpus : Corpus) (g : Nat) (embedding : Embedding)
    {d : VectorDocument} {m : RequiredMetadata} (hm : requiredMetadata d = some m)
    (htomb : d.documentId ∉ tables.tombstones) :
    ∃ after, persistDocument digests settings true corpus g tables d embedding = .ok after ∧
      ChangedBatch digests settings corpus g [(d,embedding)] tables after := by
  let written := upsertWithEmbedding corpus tables d embedding
  have hwritten : written.generation = tables.generation ∧ written.tombstones = tables.tombstones ∧
      (∀ documentId model, written.getIndexState documentId model = tables.getIndexState documentId model) ∧
      written.vector d.documentId =
        (if corpus.liveEligibilitySql d = true then some ⟨d,embedding⟩ else tables.vector d.documentId) ∧
      ∀ documentId, documentId ≠ d.documentId → written.vector documentId = tables.vector documentId := by
    unfold written upsertWithEmbedding
    by_cases hlive : corpus.liveEligibilitySql d = true
    · rw [if_pos ⟨htomb,hlive⟩,if_pos hlive]
      exact ⟨rfl,rfl,fun _ _ => rfl,IndexTables.vector_putVector_self,fun _ h => IndexTables.vector_putVector_ne h⟩
    · rw [if_neg (fun h => hlive h.2),if_neg hlive]
      exact ⟨rfl,rfl,fun _ _ => rfl,rfl,fun _ _ => rfl⟩
  obtain ⟨hgen,htombs,hstates,hvector,hothers⟩ := hwritten
  refine ⟨written.putState (appliedState digests settings d m embedding g),?_,hgen,htombs,?_,?_,?_,?_,by simp⟩
  · simp [persistDocument,upsertRagV2VectorIndexState,hm,written]
  · intro p hp
    obtain rfl := List.mem_singleton.mp hp
    exact ⟨m,hm,IndexTables.getIndexState_putState_self⟩
  · intro p hp
    obtain rfl := List.mem_singleton.mp hp
    exact hvector
  · intro documentId model hother
    have hne : (documentId,model) ≠ (appliedState digests settings d m embedding g).key := by
      intro heq
      obtain ⟨rfl,rfl⟩ := Prod.mk.injEq .. ▸ heq
      simp [appliedState] at hother
    rw [IndexTables.getIndexState_putState_ne hne,hstates]
  · intro documentId hother
    exact hothers documentId (by simpa using hother)

/-- The batch of one document, then the rest. -/
theorem ChangedBatch.cons {corpus : Corpus} {p : VectorDocument × Embedding} {batch : List (VectorDocument × Embedding)}
    {middle after : IndexTables} (hn : ((p::batch).map (·.1.documentId)).Nodup)
    (h : ChangedBatch digests settings corpus g [p] tables middle)
    (hrest : ChangedBatch digests settings corpus g batch middle after) :
    ChangedBatch digests settings corpus g (p::batch) tables after := by
  rw [List.map_cons,List.nodup_cons] at hn
  have hids : ∀ q ∈ batch, q.1.documentId ∉ [p].map (·.1.documentId) := by
    intro q hq hmem
    apply hn.1
    rw [List.map_singleton,List.mem_singleton] at hmem
    exact List.mem_map.mpr ⟨q,hq,hmem⟩
  refine ⟨hrest.generation.trans h.generation,hrest.tombstones.trans h.tombstones,?_,?_,?_,?_,by simp⟩
  · intro q hq
    rcases List.mem_cons.mp hq with rfl | hq
    · obtain ⟨m,hm,hstate⟩ := h.state q (List.mem_singleton_self q)
      exact ⟨m,hm,(hrest.otherState _ _ (.inl hn.1)).trans hstate⟩
    · exact hrest.state q hq
  · intro q hq
    rcases List.mem_cons.mp hq with rfl | hq
    · rw [hrest.otherVector _ hn.1]
      exact h.vector q (List.mem_singleton_self q)
    · rw [hrest.vector q hq,h.otherVector _ (hids q hq)]
  · intro documentId model hother
    rw [hrest.otherState documentId model (hother.imp_left fun h => List.not_mem_of_not_mem_cons h),
      h.otherState documentId model (hother.imp_left fun h hmem => h (by simp_all))]
  · intro documentId hother
    rw [hrest.otherVector documentId (List.not_mem_of_not_mem_cons hother),
      h.otherVector documentId (fun hmem => hother (by simp_all))]

/-- Documents that are all admitted as they are. -/
theorem persistChanged_canonical {batch : List (VectorDocument × Embedding)}
    (hadmitted : ∀ p ∈ batch, admitted digests true db p.1 = some p.1)
    (hmeta : ∀ p ∈ batch, ∃ m, requiredMetadata p.1 = some m)
    (htomb : ∀ p ∈ batch, p.1.documentId ∉ tables.tombstones) (hn : (batch.map (·.1.documentId)).Nodup) :
    ∃ after, persistChanged digests settings true db g batch tables = .ok (after,batch.map (·.1.documentId),[]) ∧
      ChangedBatch digests settings db.corpus g batch tables after := by
  induction batch generalizing tables with
  | nil => exact ⟨tables,rfl,rfl,rfl,by simp,by simp,fun _ _ _ => rfl,fun _ _ => rfl,fun _ => rfl⟩
  | cons p batch ih =>
    obtain ⟨d,embedding⟩ := p
    rw [List.forall_mem_cons] at hadmitted hmeta htomb
    obtain ⟨m,hm⟩ := hmeta.1
    obtain ⟨middle,hmiddle,hfirst⟩ :=
      persistDocument_ragV2 digests settings db.corpus g embedding hm htomb.1
    obtain ⟨after,hafter,hbatch⟩ := ih hadmitted.2 hmeta.2 (hfirst.tombstones.symm ▸ htomb.2) (List.nodup_cons.mp hn).2
    refine ⟨after,?_,hfirst.cons hn hbatch⟩
    simp only [persistChanged,hadmitted.1,hmiddle,hafter]
    rfl

variable (digests settings) in
/-- What the loop over the refreshed documents does, each with its state row and its stored vector. -/
structure RefreshedBatch (vectorIndexGeneration : Nat) (refreshes : List (VectorIndexState × VectorDocument × Embedding))
    (before after : IndexTables) : Prop where
  generation : after.generation = before.generation
  tombstones : after.tombstones = before.tombstones
  vectors : after.vectors = before.vectors
  state : ∀ r ∈ refreshes, ∃ m columns, requiredMetadata r.2.1 = some m ∧ r.1.serving = some columns ∧
    columns.vectorIndexGeneration ≤ vectorIndexGeneration ∧
    after.getIndexState r.2.1.documentId settings.embeddingModel =
      some (appliedState digests settings r.2.1 m r.2.2 columns.vectorIndexGeneration)
  otherState : ∀ documentId model, documentId ∉ refreshes.map (·.2.1.documentId) ∨ model ≠ settings.embeddingModel →
    after.getIndexState documentId model = before.getIndexState documentId model

/-- One refresh that does not raise. -/
theorem refresh_ok {refresh : VectorIndexState × VectorDocument × Embedding} {after : IndexTables}
    (h : refreshRagV2VectorIndexStateMetadata digests settings g tables refresh = .ok after) :
    RefreshedBatch digests settings g [refresh] tables after := by
  unfold refreshRagV2VectorIndexStateMetadata at h
  split at h
  · cases h
  · cases h
  next m columns hm hcolumns =>
  split at h
  next hstable =>
    obtain rfl := Except.ok.inj h
    simp only [refreshIsStable,hcolumns,Bool.and_eq_true,decide_eq_true_eq] at hstable
    refine ⟨rfl,rfl,rfl,?_,?_⟩
    · intro r hr
      obtain rfl := List.mem_singleton.mp hr
      exact ⟨m,columns,hm,hcolumns,hstable.2.2,IndexTables.getIndexState_putState_self⟩
    · intro documentId model hother
      apply IndexTables.getIndexState_putState_ne
      intro heq
      obtain ⟨rfl,rfl⟩ := Prod.mk.injEq .. ▸ heq
      simp [appliedState] at hother
  · cases h

theorem refreshes_ok {refreshes : List (VectorIndexState × VectorDocument × Embedding)} {after : IndexTables}
    (hn : (refreshes.map (·.2.1.documentId)).Nodup)
    (h : refreshes.foldlM (refreshRagV2VectorIndexStateMetadata digests settings g) tables = .ok after) :
    RefreshedBatch digests settings g refreshes tables after := by
  induction refreshes generalizing tables with
  | nil =>
    obtain rfl := Except.ok.inj h
    exact ⟨rfl,rfl,rfl,by simp,fun _ _ _ => rfl⟩
  | cons r refreshes ih =>
    rw [List.foldlM_cons] at h
    cases hr : refreshRagV2VectorIndexStateMetadata digests settings g tables r with
    | error e =>
      rw [hr] at h
      cases h
    | ok middle =>
      rw [hr] at h
      rw [List.map_cons,List.nodup_cons] at hn
      have hfirst := refresh_ok hr
      have hrest := ih hn.2 h
      refine ⟨hrest.generation.trans hfirst.generation,hrest.tombstones.trans hfirst.tombstones,
        hrest.vectors.trans hfirst.vectors,?_,?_⟩
      · intro s hs
        rcases List.mem_cons.mp hs with rfl | hs
        · obtain ⟨m,columns,hm,hcolumns,hle,hstate⟩ := hfirst.state s (List.mem_singleton_self s)
          exact ⟨m,columns,hm,hcolumns,hle,(hrest.otherState _ _ (.inl hn.1)).trans hstate⟩
        · exact hrest.state s hs
      · intro documentId model hother
        rw [hrest.otherState documentId model (hother.imp_left fun h => List.not_mem_of_not_mem_cons h),
          hfirst.otherState documentId model (hother.imp_left fun h hmem => h (by simp_all))]

/-- Stable refreshes do not raise. -/
theorem refreshes_progress (tables : IndexTables) {refreshes : List (VectorIndexState × VectorDocument × Embedding)}
    (h : ∀ r ∈ refreshes, requiredMetadata r.2.1 ≠ none ∧ refreshIsStable digests settings r.1 r.2.1 r.2.2 g = true) :
    ∃ after, refreshes.foldlM (refreshRagV2VectorIndexStateMetadata digests settings g) tables = .ok after := by
  induction refreshes generalizing tables with
  | nil => exact ⟨tables,rfl⟩
  | cons r refreshes ih =>
    rw [List.forall_mem_cons] at h
    obtain ⟨m,hm⟩ := Option.ne_none_iff_exists'.mp h.1.1
    have hserving : ∃ columns, r.1.serving = some columns := by
      have hstable := h.1.2
      unfold refreshIsStable at hstable
      cases hs : r.1.serving with
      | none => simp [hs] at hstable
      | some columns => exact ⟨columns,rfl⟩
    obtain ⟨columns,hcolumns⟩ := hserving
    have hstep : refreshRagV2VectorIndexStateMetadata digests settings g tables r =
        .ok (tables.putState (appliedState digests settings r.2.1 m r.2.2 columns.vectorIndexGeneration)) := by
      simp [refreshRagV2VectorIndexStateMetadata,hm,hcolumns,h.1.2]
    rw [List.foldlM_cons,hstep]
    exact ih _ h.2

/-! ## The locked batch -/

/-- The run, once its plan is within the budget, undrifted and answered. -/
theorem indexChangedVectorDocuments_eq {adapter : EmbeddingAdapter} {ragV2 : Bool} (m : Moments) (now : Nat) {documents : List VectorDocument} {plan : Plan}
    {snapshot : Option RagV2PreProviderSnapshot} {vectors embeddings : List Embedding}
    (hplan : makePlan digests settings ragV2 m.planning documents = plan)
    (hbudget : budgetBlocks settings (plan.changed.map (·.text)) = false)
    (hsnapshot : snapshotOf digests ragV2 m plan = .ok (some snapshot))
    (hvectors : (if plan.changed.map (·.text) = [] then some [] else adapter.embedMany (plan.changed.map (·.text))) =
      some vectors) (hlength : vectors.length = plan.changed.length)
    (hbatch : validateBatch vectors settings.embeddingDimensions = some embeddings) :
    indexChangedVectorDocuments digests settings ragV2 adapter m now documents = ⟨plan.changed.map (·.text),
      persistLockedPgvectorBatch digests settings ragV2 plan snapshot ((snapshot.map (·.lockPlan)).getD
        (m.lockPlanning.corpus.buildServingLockPlan plan.documentIds)) embeddings now m.locked⟩ := by
  subst hplan
  unfold indexChangedVectorDocuments
  simp only [hbudget,Bool.false_eq_true,if_false,hsnapshot,hvectors,hlength,ne_eq,not_true_eq_false,hbatch]

section persisting

variable {g : RagServingCorpusGeneration} {now : Nat} {ragV2 : Bool} {plan : Plan} {snapshot : Option RagV2PreProviderSnapshot} {lockPlan : ServingMutationLockPlan}
  {embeddings : List Embedding}

theorem persist_nothing (h : plan.documentIds = []) :
    persistLockedPgvectorBatch digests settings ragV2 plan snapshot lockPlan embeddings now db =
      .ok (⟨[],plan.skipped⟩,db.index) := by
  unfold persistLockedPgvectorBatch
  rw [if_pos h]
  rfl

/-- The locked transaction finds nothing changed. -/
structure Undrifted (digests : Digests) (settings : Settings) (ragV2 : Bool) (plan : Plan)
    (snapshot : Option RagV2PreProviderSnapshot) (lockPlan : ServingMutationLockPlan) (now : Nat) (db : Database)
    (g : RagServingCorpusGeneration) : Prop where
  some : plan.documentIds ≠ []
  locked : lockRagServingGeneration settings db.index now = .ok g
  lockPlan : db.corpus.buildServingLockPlan plan.documentIds = lockPlan
  snapshot : snapshot.any (drifted digests ragV2 · db g plan.documentIds) = false

theorem persist_discarded (h : Undrifted digests settings ragV2 plan snapshot lockPlan now db g)
    (hnone : plan.refreshed.mapM (refreshVector digests settings ragV2 db) = none) :
    persistLockedPgvectorBatch digests settings ragV2 plan snapshot lockPlan embeddings now db =
      .ok (discardLockedBatch plan,db.index) := by
  unfold persistLockedPgvectorBatch
  rw [if_neg h.some,h.locked]
  simp only [bind,Except.bind,pure,Except.pure,h.lockPlan,h.snapshot,hnone,ne_eq,not_true_eq_false,if_false,
    Bool.false_eq_true]

theorem persist_eq (h : Undrifted digests settings ragV2 plan snapshot lockPlan now db g)
    {refreshes : List (VectorIndexState × VectorDocument × Embedding)}
    (hsome : plan.refreshed.mapM (refreshVector digests settings ragV2 db) = some refreshes) :
    persistLockedPgvectorBatch digests settings ragV2 plan snapshot lockPlan embeddings now db =
      (persistChanged digests settings ragV2 db (g.vectorIndexGeneration+1) (plan.changed.zip embeddings)
        db.index).bind fun r =>
      (refreshes.foldlM (refreshRagV2VectorIndexStateMetadata digests settings g.vectorIndexGeneration) r.1).map
        fun after => (⟨r.2.1,plan.skipped++r.2.2⟩,commitGeneration after g (ragV2 && r.2.1 ≠ []) now) := by
  unfold persistLockedPgvectorBatch
  rw [if_neg h.some,h.locked]
  simp only [bind,Except.bind,pure,Except.pure,h.lockPlan,h.snapshot,hsome,ne_eq,not_true_eq_false,if_false,
    Bool.false_eq_true]
  rfl

end persisting

end batch

end ParaWorks.VectorIndex
