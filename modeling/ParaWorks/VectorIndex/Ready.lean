import ParaWorks.VectorIndex.Runs

/-!
# Ready rows

What the inspection asks of the rows: those that no run touches are clean, and each canonical document has the state
row that a run leaves of its vector.
-/

namespace ParaWorks.VectorIndex

open Lib Sources Knowledge Answers

/-! ## Rows outside the runs -/

section outside

variable {settings : Settings} {corpus : Corpus} {before after : IndexTables}

variable (settings corpus) in
/-- The rows that belong to no canonical document, and the states of other models, are the same. -/
structure SameOutside (before after : IndexTables) : Prop where
  tombstones : after.tombstones = before.tombstones
  states : ∀ documentId model,
    documentId ∉ corpus.ragV2Documents.map (·.documentId) ∨ model ≠ settings.embeddingModel →
    after.getIndexState documentId model = before.getIndexState documentId model
  vectors : ∀ documentId, documentId ∉ corpus.ragV2Documents.map (·.documentId) →
    after.vector documentId = before.vector documentId

theorem SameOutside.symm (h : SameOutside settings corpus before after) : SameOutside settings corpus after before :=
  ⟨h.tombstones.symm,fun _ _ hid => (h.states _ _ hid).symm,fun _ hid => (h.vectors _ hid).symm⟩

theorem mem_trackedStates {db : Database} {state : VectorIndexState} : state ∈ trackedStates db ↔
    db.index.getIndexState state.documentId state.embeddingModel = some state ∧ state.serving.isSome = true := by
  rw [trackedStates,List.mem_filter,IndexTables.getIndexState_eq]
  simp

theorem SameOutside.tracked (h : SameOutside settings corpus before after) {state : VectorIndexState}
    (hid : state.documentId ∉ corpus.ragV2Documents.map (·.documentId) ∨ state.embeddingModel ≠ settings.embeddingModel) :
    state ∈ trackedStates ⟨corpus,after⟩ ↔ state ∈ trackedStates ⟨corpus,before⟩ := by
  rw [mem_trackedStates,mem_trackedStates,h.states _ _ hid]

theorem mem_trackedIds {db : Database} {documentId : Text} :
    documentId ∈ trackedIds db ↔ ∃ state ∈ trackedStates db, state.documentId = documentId := by
  simp [trackedIds]

theorem SameOutside.isLive (h : SameOutside settings corpus before after) {row : VectorRow}
    (hid : row.documentId ∉ corpus.ragV2Documents.map (·.documentId)) :
    isLive ⟨corpus,after⟩ row = isLive ⟨corpus,before⟩ row := by
  have htracked : row.documentId ∈ trackedIds ⟨corpus,after⟩ ↔ row.documentId ∈ trackedIds ⟨corpus,before⟩ := by
    rw [mem_trackedIds,mem_trackedIds]
    constructor
    · rintro ⟨state,hstate,heq⟩
      exact ⟨state,(h.tracked (.inl (heq ▸ hid))).mp hstate,heq⟩
    · rintro ⟨state,hstate,heq⟩
      exact ⟨state,(h.tracked (.inl (heq ▸ hid))).mpr hstate,heq⟩
  simp only [VectorIndex.isLive,htracked]
  rfl

/-- Cleanliness outside depends on these rows alone. -/
theorem SameOutside.clean (h : SameOutside settings corpus before after)
    (hclean : OutsideClean settings ⟨corpus,before⟩) : OutsideClean settings ⟨corpus,after⟩ := by
  refine ⟨?_,?_,?_,?_⟩
  · intro row hrow hid
    rw [h.isLive hid]
    have hfound := IndexTables.vector_eq.mpr ⟨hrow,rfl⟩
    rw [h.vectors _ hid] at hfound
    exact hclean.foreignRows row (IndexTables.vector_eq.mp hfound).1 hid
  · intro state hstate hid
    exact hclean.foreignStates state ((h.tracked (.inl hid)).mp hstate) hid
  · intro d hd
    change d.documentId ∉ after.tombstones
    rw [h.tombstones]
    exact hclean.notTombstoned d hd
  · intro d hd state hstate hid hmodel
    exact hclean.otherModels d hd state ((h.tracked (.inr hmodel)).mp hstate) hid hmodel

end outside

/-! ## Readiness -/

section readiness

variable {digests : Digests} {settings : Settings} {db : Database} {d : VectorDocument}

theorem ready_iff : (inspect digests settings db).ready = true ↔ generationIdentityMatches settings db = true ∧
    (∀ d ∈ db.corpus.ragV2Documents, expectedMatches digests settings db d = true) ∧
    (∀ id ∈ trackedIds db, id ∉ expectedIds db → cleanTombstone db id = true) ∧
    (∀ id ∈ tombstoneIds db, id ∉ (liveVectors db).map VectorRow.documentId) ∧
    ∀ id ∈ (liveVectors db).map VectorRow.documentId, id ∉ expectedIds db → id ∈ trackedIds db := by
  have hnone : ∀ {α : Type} {f : α → Text} {p : α → Bool} {xs : List α}, (xs.filter p).map f = [] ↔
      ∀ x ∈ xs, p x = false := by
    intro α f p xs
    rw [List.map_eq_nil_iff,List.filter_eq_nil_iff]
    simp
  simp only [inspect,mismatches,Bool.and_eq_true,decide_eq_true_eq,List.dedup_eq_nil,List.append_eq_nil_iff,hnone,
    List.filter_eq_nil_iff,Bool.not_eq_false',Bool.not_eq_true']
  constructor
  · rintro ⟨hidentity,⟨⟨hexpected,htracked⟩,htombs⟩,hlive⟩
    refine ⟨hidentity,hexpected,?_,htombs,?_⟩
    · intro id hid hno
      by_contra hclean
      exact htracked id hid ⟨hno,Bool.eq_false_iff.mpr hclean⟩
    · intro id hid hno
      by_contra htrack
      exact hlive id hid ⟨hno,htrack⟩
  · rintro ⟨hidentity,hexpected,htracked,htombs,hlive⟩
    refine ⟨hidentity,⟨⟨hexpected,?_⟩,htombs⟩,?_⟩
    · rintro id hid ⟨hno,hdirty⟩
      exact absurd (htracked id hid hno) (Bool.eq_false_iff.mp hdirty)
    · rintro id hid ⟨hno,htrack⟩
      exact htrack (hlive id hid hno)

theorem mem_tombstoneIds {documentId : Text} : documentId ∈ tombstoneIds db ↔ documentId ∈ db.index.tombstones ∨
    ∃ state ∈ trackedStates db, state.status = text "tombstoned" ∧ state.documentId = documentId := by
  simp [tombstoneIds,and_assoc]

theorem mem_liveIds {documentId : Text} : documentId ∈ (liveVectors db).map VectorRow.documentId ↔
    ∃ row ∈ db.index.vectors, isLive db row = true ∧ row.documentId = documentId := by
  simp [liveVectors,and_assoc]

theorem isLive_of_expected {row : VectorRow} (h : row.documentId ∈ expectedIds db) : isLive db row = true := by
  simp [isLive,h]

theorem trackedStates_keys (db : Database) : ((trackedStates db).map VectorIndexState.key).Nodup :=
  db.index.stateKeys.sublist (List.filter_sublist.map _)

theorem liveVectors_ids (db : Database) : ((liveVectors db).map VectorRow.documentId).Nodup :=
  db.index.vectorIds.sublist (List.filter_sublist.map _)

/-- The rows that the inspection compares a canonical document with. -/
theorem expectedMatches_iff (hd : d ∈ db.corpus.ragV2Documents) : expectedMatches digests settings db d = true ↔
    d.documentId ∉ tombstoneIds db ∧
    ∃ state row, db.index.getIndexState d.documentId settings.embeddingModel = some state ∧
      db.index.vector d.documentId = some row ∧
      expectedStateMatches digests settings db state d (snapshotFromVector digests settings row.embedding) = true := by
  have hstates : ∀ state, (trackedStates db).find? (·.key = (d.documentId,settings.embeddingModel)) = some state ↔
      db.index.getIndexState d.documentId settings.embeddingModel = some state ∧ state.serving.isSome = true := by
    intro state
    rw [find?_eq_some_iff (trackedStates_keys db),mem_trackedStates,
      VectorIndexState.key,Prod.mk.injEq]
    constructor
    · rintro ⟨⟨hfound,hserving⟩,hid,hmodel⟩
      rw [← hid,← hmodel]
      exact ⟨hfound,hserving⟩
    · rintro ⟨hfound,hserving⟩
      obtain ⟨-,hid,hmodel⟩ := IndexTables.getIndexState_eq.mp hfound
      rw [← hid,← hmodel] at hfound
      exact ⟨⟨hfound,hserving⟩,hid,hmodel⟩
  have hrows : ∀ row, (liveVectors db).find? (·.documentId = d.documentId) = some row ↔
      db.index.vector d.documentId = some row := by
    intro row
    rw [find?_eq_some_iff (liveVectors_ids db),IndexTables.vector_eq,liveVectors,
      List.mem_filter]
    constructor
    · exact fun h => ⟨h.1.1,h.2⟩
    · exact fun h => ⟨⟨h.1,isLive_of_expected (h.2 ▸ List.mem_map_of_mem hd)⟩,h.2⟩
  constructor
  · intro h
    unfold expectedMatches at h
    split at h
    · next state row hstate hrow =>
      simp only [Bool.and_eq_true,decide_eq_true_eq] at h
      exact ⟨h.1,state,row,((hstates state).mp hstate).1,(hrows row).mp hrow,h.2⟩
    · cases h
  · rintro ⟨htomb,state,row,hstate,hrow,hmatch⟩
    have hserving : state.serving.isSome = true := by
      unfold expectedStateMatches at hmatch
      cases hs : state.serving with
      | none => simp [hs] at hmatch
      | some columns => rfl
    unfold expectedMatches
    rw [(hstates state).mpr ⟨hstate,hserving⟩,(hrows row).mpr hrow]
    simp [htomb,hmatch]

/-- Of a ready index, the condition holds. -/
theorem canConverge_of_ready (h : (inspect digests settings db).ready = true) : CanConverge digests settings db := by
  obtain ⟨-,hexpected,htracked,htombs,hlive⟩ := ready_iff.mp h
  have hexact : ∀ d ∈ db.corpus.ragV2Documents, HasVector settings db d ∧
      ∀ state columns, db.index.getIndexState d.documentId settings.embeddingModel = some state →
        state.serving = some columns → columns.vectorIndexGeneration ≤ vectorIndexGeneration db := by
    intro d hd
    obtain ⟨-,state,row,hstate,hrow,hmatch⟩ := (expectedMatches_iff hd).mp (hexpected d hd)
    unfold expectedStateMatches snapshotFromVector at hmatch
    cases hvalid : validate row.embedding settings.embeddingDimensions with
    | none => cases hs : state.serving <;> simp [hvalid,hs] at hmatch
    | some live =>
      refine ⟨⟨row,hrow,by simp [hvalid]⟩,?_⟩
      intro state' columns hstate' hcolumns
      rw [hstate] at hstate'
      obtain rfl := Option.some.inj hstate'
      simp only [hcolumns,hvalid,Bool.and_eq_true,decide_eq_true_eq] at hmatch
      tauto
  have hforeign : ∀ row ∈ db.index.vectors, row.documentId ∉ expectedIds db → isLive db row = false := by
    intro row hrow hid
    by_contra hno
    have hmem := mem_liveIds.mpr ⟨row,hrow,Bool.eq_true_of_not_eq_false hno,rfl⟩
    have hclean := htracked _ (hlive _ hmem hid) hid
    simp only [cleanTombstone,Bool.and_eq_true,decide_eq_true_eq] at hclean
    exact hclean.1.1 hmem
  refine ⟨⟨hforeign,?_,?_,?_⟩,fun d hd => .inl (hexact d hd).1,fun d hd _ => (hexact d hd).2⟩
  · intro state hstate hid
    have hclean := htracked _ (mem_trackedIds.mpr ⟨state,hstate,rfl⟩) hid
    simp only [cleanTombstone,Bool.and_eq_true,List.all_eq_true,Bool.or_eq_true,decide_eq_true_eq] at hclean
    exact (hclean.2 state hstate).resolve_left (not_not.mpr rfl)
  · intro d hd htomb
    exact ((expectedMatches_iff hd).mp (hexpected d hd)).1 (mem_tombstoneIds.mpr (.inl htomb))
  · intro d hd state hstate hid _ hstatus
    exact ((expectedMatches_iff hd).mp (hexpected d hd)).1 (mem_tombstoneIds.mpr (.inr ⟨state,hstate,hstatus,hid⟩))

variable (digests settings db) in
/-- The document has the state row that a run leaves of the vector it has. -/
def Exact (d : VectorDocument) : Prop :=
  ∃ m row generation, requiredMetadata d = some m ∧ db.index.vector d.documentId = some row ∧
    validate row.embedding settings.embeddingDimensions ≠ none ∧ generation ≤ vectorIndexGeneration db ∧
    db.index.getIndexState d.documentId settings.embeddingModel =
      some (appliedState digests settings d m row.embedding generation)

/-- Exact rows, and nothing else, are ready. -/
theorem ready_of_exact (hgen : generationIdentityMatches settings db = true) (hclean : OutsideClean settings db)
    (h : ∀ d ∈ db.corpus.ragV2Documents, Exact digests settings db d) : (inspect digests settings db).ready = true := by
  have hexpected : ∀ id, id ∈ expectedIds db → id ∉ tombstoneIds db := by
    intro id hid htomb
    obtain ⟨d,hd,rfl⟩ := List.mem_map.mp hid
    rcases mem_tombstoneIds.mp htomb with htomb | ⟨state,hstate,hstatus,heq⟩
    · exact hclean.notTombstoned d hd htomb
    · by_cases hmodel : state.embeddingModel = settings.embeddingModel
      · obtain ⟨m,row,generation,-,-,-,-,happlied⟩ := h d hd
        have hfound := (mem_trackedStates.mp hstate).1
        rw [heq,hmodel,happlied] at hfound
        obtain rfl := Option.some.inj hfound
        simp [appliedState] at hstatus
        exact absurd hstatus (by decide)
      · exact hclean.otherModels d hd state hstate heq hmodel hstatus
  have hforeign : ∀ id, id ∉ expectedIds db → id ∉ (liveVectors db).map VectorRow.documentId := by
    intro id hid hlive
    obtain ⟨row,hrow,htrue,rfl⟩ := mem_liveIds.mp hlive
    rw [hclean.foreignRows row hrow hid] at htrue
    cases htrue
  refine ready_iff.mpr ⟨hgen,?_,?_,?_,?_⟩
  · intro d hd
    obtain ⟨m,row,generation,hm,hrow,hvalid,hle,hstate⟩ := h d hd
    refine (expectedMatches_iff hd).mpr ⟨hexpected _ (List.mem_map_of_mem hd),_,row,hstate,hrow,?_⟩
    obtain ⟨e,-,rfl⟩ := List.mem_map.mp hd
    rw [requiredMetadata_ragV2] at hm
    obtain rfl := Option.some.inj hm
    obtain ⟨hkind,hmode,hidentity,hversion,hcontent,hcitation⟩ := entry_ragV2Metadata e
    have hlive : validate row.embedding settings.embeddingDimensions = some row.embedding :=
      validate_eq_some.mpr ⟨hvalid,rfl⟩
    have hlength := validate_length hvalid
    simp [expectedStateMatches,snapshotFromVector,hlive,appliedState,ragV2VectorDocument,hkind,hmode,hidentity,hversion,
      hcontent,hcitation,hlength,hle,IndexableEvidence.required]
  · intro id htracked hid
    simp only [cleanTombstone,Bool.and_eq_true,List.all_eq_true,Bool.or_eq_true,decide_eq_true_eq]
    obtain ⟨state,hstate,rfl⟩ := mem_trackedIds.mp htracked
    refine ⟨⟨hforeign _ hid,?_⟩,?_⟩
    · exact mem_tombstoneIds.mpr (.inr ⟨state,hstate,hclean.foreignStates state hstate hid,rfl⟩)
    · intro other hother
      by_cases heq : other.documentId = state.documentId
      · exact .inr (hclean.foreignStates other hother (heq ▸ hid))
      · exact .inl heq
  · intro id htomb hlive
    by_cases hid : id ∈ expectedIds db
    · exact hexpected id hid htomb
    · exact hforeign id hid hlive
  · exact fun id hlive hid => absurd hlive (hforeign id hid)

end readiness

end ParaWorks.VectorIndex
