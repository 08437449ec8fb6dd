import ParaWorks.VectorIndex.Ready

/-!
# Reindexing until ready

The tables from which repeated runs make the index ready, and those from which none does.
-/

namespace ParaWorks.VectorIndex

open Lib Sources Knowledge Answers

section statement

variable (digests : Digests) (settings : Settings)

/-- From some number of runs on the index is ready, and no run calls the provider or changes vectors or generations. -/
def Converges (adapters : Nat → EmbeddingAdapter) (clock : Nat → Nat) (db : Database) : Prop :=
  ∃ n, ∀ m, n ≤ m →
    (inspect digests settings (afterRuns digests settings adapters clock db m)).ready = true ∧
    (runRagV2Reindex digests settings (adapters m) (clock m)
      (afterRuns digests settings adapters clock db m)).requested = [] ∧
    (afterRuns digests settings adapters clock db (m+1)).index.vectors =
      (afterRuns digests settings adapters clock db m).index.vectors ∧
    (afterRuns digests settings adapters clock db (m+1)).index.generation =
      (afterRuns digests settings adapters clock db m).index.generation

end statement

/-! ## Runs after one another -/

section convergence

variable {digests : Digests} {settings : Settings} {db : Database} {g : RagServingCorpusGeneration}
  {adapter : EmbeddingAdapter} {after : IndexTables}

theorem Committed.sameOutside (h : Committed digests settings db g after) :
    SameOutside settings db.corpus db.index after := by
  have hsub : ∀ documentId, documentId ∉ db.corpus.ragV2Documents.map (·.documentId) →
      documentId ∉ (ownPlan digests settings db).planned.map (·.documentId) := by
    intro documentId hno hmem
    obtain ⟨d,hd,rfl⟩ := List.mem_map.mp hmem
    exact hno (List.mem_map_of_mem (mem_planned.mp hd).1)
  exact ⟨h.tombstones,fun _ _ hid => h.otherStates _ _ (hid.imp_left (hsub _)),
    fun _ hid => h.otherVectors _ (hsub _ hid)⟩

/-- The state row that a run leaves makes the next one take the document for unchanged. -/
theorem appliedState_skippable {d : VectorDocument} {m : RequiredMetadata} {embedding : Embedding} {generation : Nat}
    (h : validate embedding settings.embeddingDimensions ≠ none) :
    stateIsSkippable settings true (computeRagV2DocumentHash digests d)
      (appliedState digests settings d m embedding generation) = true := by
  simp [stateIsSkippable,appliedState,validate_length h]

/-- The document has a state row of a run, and a vector, maybe another one. -/
theorem Committed.settled (h : Committed digests settings db g after)
    (hcan : CanConverge digests settings db) {d : VectorDocument} (hd : d ∈ db.corpus.ragV2Documents) :
    ∃ m row embedding generation, requiredMetadata d = some m ∧ after.vector d.documentId = some row ∧
      validate row.embedding settings.embeddingDimensions ≠ none ∧
      validate embedding settings.embeddingDimensions ≠ none ∧
      generation ≤ vectorIndexGeneration ⟨db.corpus,after⟩ ∧
      after.getIndexState d.documentId settings.embeddingModel =
        some (appliedState digests settings d m embedding generation) ∧
      (d ∈ (ownPlan digests settings db).refreshed → embedding = row.embedding) := by
  obtain ⟨next,hnext,-,hle,hadvanced⟩ := h.generation
  have hgeneration : vectorIndexGeneration ⟨db.corpus,after⟩ = next.vectorIndexGeneration := by
    rw [vectorIndexGeneration]
    change (after.generation.map _).getD 0 = _
    rw [hnext]
    rfl
  rw [hgeneration]
  have htomb := hcan.notTombstoned d hd
  by_cases hrefreshes : Refreshes digests settings db d
  · obtain ⟨m,state,columns,row,hm,-,-,hcolumns,-,hvalid,hstate,hrow⟩ := h.refreshed d (mem_refreshed.mpr ⟨hd,hrefreshes⟩)
    exact ⟨m,row,row.embedding,columns.vectorIndexGeneration,hm,hrow,hvalid,hvalid,hcolumns.trans hle,hstate,fun _ => rfl⟩
  · have hchanged := mem_changed.mpr ⟨hd,classify_changed hd htomb hrefreshes⟩
    obtain ⟨m,embedding,hm,hvalid,hstate,hvector⟩ := h.changed d hchanged
    have hstep : g.vectorIndexGeneration+1 ≤ next.vectorIndexGeneration :=
      (hadvanced (List.ne_nil_of_mem hchanged)).ge
    have hnot : d ∈ (ownPlan digests settings db).refreshed → False := fun hmem => hrefreshes (mem_refreshed.mp hmem).2
    by_cases hlive : db.corpus.liveEligibilitySql d = true
    · rw [if_pos hlive] at hvector
      exact ⟨m,_,embedding,_,hm,hvector,hvalid,hvalid,hstep,hstate,fun hmem => (hnot hmem).elim⟩
    · rw [if_neg hlive] at hvector
      obtain ⟨row,hrow,hread⟩ := (hcan.vectors d hd).resolve_right fun hno => hlive hno.2
      exact ⟨m,row,embedding,_,hm,hvector.trans hrow,hread,hvalid,hstep,hstate,fun hmem => (hnot hmem).elim⟩

/-- A committed run from the condition keeps it, and leaves every document unchanged for the next run. -/
theorem Committed.canConverge (h : Committed digests settings db g after)
    (hcan : CanConverge digests settings db) : CanConverge digests settings ⟨db.corpus,after⟩ ∧
    ∀ d ∈ db.corpus.ragV2Documents, Refreshes digests settings ⟨db.corpus,after⟩ d := by
  have hclean : OutsideClean settings ⟨db.corpus,after⟩ := h.sameOutside.clean hcan.toOutsideClean
  refine ⟨⟨hclean,?_,?_⟩,?_⟩
  · intro d hd
    obtain ⟨m,row,embedding,generation,-,hrow,hvalid,-⟩ := h.settled hcan hd
    exact .inl ⟨row,hrow,hvalid⟩
  · intro d hd _ state columns hstate hcolumns
    obtain ⟨m,row,embedding,generation,-,-,-,-,hle,happlied,-⟩ := h.settled hcan hd
    change after.getIndexState d.documentId settings.embeddingModel = some state at hstate
    rw [happlied] at hstate
    obtain rfl := Option.some.inj hstate
    obtain rfl := Option.some.inj hcolumns
    exact hle
  · intro d hd
    obtain ⟨m,row,embedding,generation,-,-,-,hvalid,-,happlied,-⟩ := h.settled hcan hd
    exact (refreshes_iff ⟨db.corpus,after⟩ hd).mpr
      ⟨hclean.notTombstoned d hd,_,happlied,appliedState_skippable hvalid⟩

/-- The condition comes from before the run. -/
theorem canConverge_of_committed (hgen : db.index.generation = some g) (h : Committed digests settings db g after)
    (hcan : CanConverge digests settings ⟨db.corpus,after⟩) : CanConverge digests settings db := by
  have hclean : OutsideClean settings db := h.sameOutside.symm.clean hcan.toOutsideClean
  refine ⟨hclean,?_,?_⟩
  · intro d hd
    by_cases hrefreshes : Refreshes digests settings db d
    · obtain ⟨m,state,columns,row,-,-,-,-,hrow,hvalid,-,-⟩ := h.refreshed d (mem_refreshed.mpr ⟨hd,hrefreshes⟩)
      exact .inl ⟨row,hrow,hvalid⟩
    · by_cases hlive : db.corpus.liveEligibilitySql d = true
      · exact .inr ⟨hrefreshes,hlive⟩
      · have hchanged := mem_changed.mpr ⟨hd,classify_changed hd (hclean.notTombstoned d hd) hrefreshes⟩
        obtain ⟨m,embedding,-,hvalid,hstate,hvector⟩ := h.changed d hchanged
        rw [if_neg hlive] at hvector
        -- the state of the run makes the document unchanged, so the next run needs the old vector
        have hnext : Refreshes digests settings ⟨db.corpus,after⟩ d :=
          (refreshes_iff ⟨db.corpus,after⟩ hd).mpr
            ⟨hcan.notTombstoned d hd,_,hstate,appliedState_skippable hvalid⟩
        obtain ⟨row,hrow,hread⟩ := (hcan.vectors d hd).resolve_right fun hno => hno.1 hnext
        exact .inl ⟨row,hvector.symm.trans hrow,hread⟩
  · intro d hd hrefreshes state columns hstate hcolumns
    obtain ⟨m,state',columns',row,-,hstate',hcolumns',hle,-⟩ := h.refreshed d (mem_refreshed.mpr ⟨hd,hrefreshes⟩)
    rw [hstate] at hstate'
    obtain rfl := Option.some.inj hstate'
    rw [hcolumns] at hcolumns'
    obtain rfl := Option.some.inj hcolumns'
    rw [vectorIndexGeneration,hgen]
    exact hle

/-- A run over documents that are all unchanged calls no provider, changes neither vectors nor generation, and leaves
the index ready. -/
theorem Committed.quiet_ready (hgen : db.index.generation = some g) (hmatch : generationMatches settings g = true)
    (h : Committed digests settings db g after) (hcan : CanConverge digests settings db)
    (hall : ∀ d ∈ db.corpus.ragV2Documents, Refreshes digests settings db d) :
    (ownPlan digests settings db).changed = [] ∧ after.vectors = db.index.vectors ∧
    after.generation = db.index.generation ∧ (inspect digests settings ⟨db.corpus,after⟩).ready = true := by
  have hnone : (ownPlan digests settings db).changed = [] := by
    apply List.eq_nil_iff_forall_not_mem.mpr
    intro d hd
    rw [mem_changed] at hd
    have hrefreshes := hall d hd.1
    rw [Refreshes,hd.2] at hrefreshes
    cases hrefreshes
  obtain ⟨hvectors,hgeneration⟩ := h.quiet hnone
  refine ⟨hnone,hvectors,hgeneration,ready_of_exact ?_ (h.sameOutside.clean hcan.toOutsideClean) ?_⟩
  · change after.generation.any (generationMatches settings) = true
    rw [hgeneration,hgen]
    exact hmatch
  · intro d hd
    obtain ⟨m,row,embedding,generation,hm,hrow,hvalid,-,hle,hstate,hsame⟩ := h.settled hcan hd
    rw [hsame (mem_refreshed.mpr ⟨hd,hall d hd⟩)] at hstate
    exact ⟨m,row,generation,hm,hrow,hvalid,hle,hstate⟩

variable {adapters : Nat → EmbeddingAdapter} {clock : Nat → Nat}

variable (settings) in
/-- The generation row matches the settings, and the adapters answer within the budget. -/
structure Operable (adapters : Nat → EmbeddingAdapter) (db : Database) : Prop where
  generation : generationIdentityMatches settings db = true
  budget : WithinBudget settings db.corpus
  adapters : ∀ n, (adapters n).CosineIndexable settings.embeddingDimensions

theorem Operable.generationRow (h : Operable settings adapters db) :
    ∃ g, db.index.generation = some g ∧ generationMatches settings g = true :=
  (Option.any_eq_true ..).mp h.generation

theorem afterRuns_corpus (digests : Digests) (settings : Settings) (adapters : Nat → EmbeddingAdapter)
    (clock : Nat → Nat) (db : Database) (n : Nat) : (afterRuns digests settings adapters clock db n).corpus = db.corpus := by
  induction n with
  | zero => rfl
  | succ n ih => exact ih

/-- Runs keep the generation row matching. -/
theorem Operable.afterRuns (h : Operable settings adapters db) (digests : Digests) (clock : Nat → Nat) (n : Nat) :
    Operable settings adapters (afterRuns digests settings adapters clock db n) := by
  induction n with
  | zero => exact h
  | succ n ih =>
    obtain ⟨g,hgen,hmatch⟩ := ih.generationRow
    refine ⟨?_,ih.budget,h.adapters⟩
    rcases run_committed_or hgen hmatch ih.budget (h.adapters n) digests (clock n) with hsame | hcommitted
    · change ((runRagV2Reindex digests settings (adapters n) (clock n) _).index _).generation.any _ = true
      rw [hsame]
      exact ih.generation
    · obtain ⟨next,hnext,hmatches,-⟩ := hcommitted.generation
      change ((runRagV2Reindex digests settings (adapters n) (clock n) _).index _).generation.any _ = true
      rw [hnext]
      exact hmatches.trans hmatch

/-- The condition of a later state was there before. -/
theorem canConverge_of_afterRuns (h : Operable settings adapters db) {n : Nat}
    (hcan : CanConverge digests settings (afterRuns digests settings adapters clock db n)) :
    CanConverge digests settings db := by
  induction n with
  | zero => exact hcan
  | succ n ih =>
    apply ih
    have hop := h.afterRuns digests clock n
    obtain ⟨g,hgen,hmatch⟩ := hop.generationRow
    rcases run_committed_or hgen hmatch hop.budget (h.adapters n) digests (clock n) with hsame | hcommitted
    · change CanConverge digests settings ⟨_,(runRagV2Reindex digests settings (adapters n) (clock n) _).index _⟩ at hcan
      rw [hsame] at hcan
      exact hcan
    · exact canConverge_of_committed hgen hcommitted hcan

/-- Without the condition, no number of runs makes the index ready. -/
theorem never_ready (h : Operable settings adapters db) (hcan : ¬CanConverge digests settings db) (n : Nat) :
    (inspect digests settings (afterRuns digests settings adapters clock db n)).ready = false := by
  by_contra hready
  exact hcan (canConverge_of_afterRuns h (canConverge_of_ready (Bool.eq_true_of_not_eq_false hready)))

/-- One document that is taken for unchanged and has no vector makes every run discard its whole batch. -/
theorem stuck_of_missing_vector (h : Operable settings adapters db) {d : VectorDocument}
    (hd : d ∈ db.corpus.ragV2Documents) (hrefreshes : Refreshes digests settings db d)
    (hmissing : ¬HasVector settings db d) (n : Nat) :
    (afterRuns digests settings adapters clock db n).index = db.index := by
  induction n with
  | zero => rfl
  | succ n ih =>
    have hsame : afterRuns digests settings adapters clock db n = db := by
      have hcorpus := afterRuns_corpus digests settings adapters clock db n
      cases hafter : afterRuns digests settings adapters clock db n with
      | mk corpus index =>
        rw [hafter] at hcorpus ih
        obtain rfl : corpus = db.corpus := hcorpus
        obtain rfl : index = db.index := ih
        rfl
    change ((runRagV2Reindex digests settings (adapters n) (clock n)
      (afterRuns digests settings adapters clock db n)).index _) = _
    rw [hsame]
    obtain ⟨g,hgen,hmatch⟩ := h.generationRow
    rcases run_committed_or hgen hmatch h.budget (h.adapters n) digests (clock n) with hsame | hcommitted
    · exact hsame
    · obtain ⟨m,state,columns,row,-,-,-,-,hrow,hvalid,-⟩ :=
        hcommitted.refreshed d (mem_refreshed.mpr ⟨hd,hrefreshes⟩)
      exact absurd ⟨row,hrow,hvalid⟩ hmissing

/-- From the condition, every document is unchanged after one run. -/
theorem settled_afterRuns (clock : Nat → Nat) (h : Operable settings adapters db) (hcan : CanConverge digests settings db) (n : Nat) :
    CanConverge digests settings (afterRuns digests settings adapters clock db (n+1)) ∧
    ∀ d ∈ db.corpus.ragV2Documents,
      Refreshes digests settings (afterRuns digests settings adapters clock db (n+1)) d := by
  have hstep : ∀ m, CanConverge digests settings (afterRuns digests settings adapters clock db m) →
      CanConverge digests settings (afterRuns digests settings adapters clock db (m+1)) ∧
      ∀ d ∈ db.corpus.ragV2Documents,
        Refreshes digests settings (afterRuns digests settings adapters clock db (m+1)) d := by
    intro m hm
    have hop := h.afterRuns digests clock m
    obtain ⟨g,hgen,hmatch⟩ := hop.generationRow
    have hcommitted := run_committed hgen hmatch hop.budget (h.adapters m) (clock m) hm
    rw [← afterRuns_corpus digests settings adapters clock db m]
    exact hcommitted.canConverge hm
  induction n with
  | zero => exact hstep 0 hcan
  | succ n ih => exact hstep (n+1) ih.1

/-- The runs make the index ready exactly when the condition holds. -/
theorem reindexing_converges_iff (h : Operable settings adapters db) :
    Converges digests settings adapters clock db ↔ CanConverge digests settings db := by
  constructor
  · rintro ⟨n,hn⟩
    exact canConverge_of_afterRuns h (canConverge_of_ready (hn n le_rfl).1)
  · intro hcan
    have hquiet : ∀ m,
        (ownPlan digests settings (afterRuns digests settings adapters clock db (m+1))).changed = [] ∧
        (afterRuns digests settings adapters clock db (m+2)).index.vectors =
          (afterRuns digests settings adapters clock db (m+1)).index.vectors ∧
        (afterRuns digests settings adapters clock db (m+2)).index.generation =
          (afterRuns digests settings adapters clock db (m+1)).index.generation ∧
        (inspect digests settings (afterRuns digests settings adapters clock db (m+2))).ready = true := by
      intro m
      have hop := h.afterRuns digests clock (m+1)
      obtain ⟨g,hgen,hmatch⟩ := hop.generationRow
      obtain ⟨hm,hall⟩ := settled_afterRuns clock h hcan m
      rw [← afterRuns_corpus digests settings adapters clock db (m+1)] at hall
      exact (run_committed hgen hmatch hop.budget (h.adapters _) (clock _) hm).quiet_ready hgen hmatch hm hall
    refine ⟨2,?_⟩
    intro m hm
    obtain ⟨k,rfl⟩ := Nat.exists_eq_add_of_le' hm
    obtain ⟨hnone,hvectors,hgeneration,-⟩ := hquiet (k+1)
    refine ⟨(hquiet k).2.2.2,?_,hvectors,hgeneration⟩
    have hop := h.afterRuns digests clock (k+2)
    obtain ⟨g,hgen,hmatch⟩ := hop.generationRow
    rw [(run_cases hgen hmatch hop.budget (h.adapters _) digests (clock _)).1,hnone]
    rfl

end convergence

/-! ## A decision that is no longer canonical -/

section superseded

def exampleSettings : Settings := ⟨text "text-embedding-3-small",1,text "v1",text "key",0,none⟩

def exampleDigests : Digests :=
  ⟨Json.render,Json.render,fun v => v.flatMap fun x => Json.digits x.bits.toNat,fun f => Json.render (.list [
    .str f.documentId,.str f.embeddingModel,.int f.embeddingDimensions,.str f.contentHash,
    .str f.canonicalDocumentSha256,.str f.canonicalFloat32VectorSha256,.str f.indexState,.int f.vectorIndexGeneration])⟩

/-- Every text is embedded as the vector `(1.0)`. -/
def exampleAdapter : EmbeddingAdapter := ⟨fun texts => some (texts.map fun _ => [⟨0x3f800000#32⟩])⟩

theorem exampleAdapter_indexable : exampleAdapter.CosineIndexable exampleSettings.embeddingDimensions := by
  intro texts _
  refine ⟨_,rfl,List.length_map _,?_⟩
  intro v hv
  obtain ⟨t,-,rfl⟩ := List.mem_map.mp hv
  decide

/-- A decision that a human approved, with its evidence current. -/
def exampleDecision : IndexableEvidence where
  servingDocumentId := text "decision_record:1"
  servingKind := text "trusted_knowledge"
  publicSourceId := text "decision_record:1"
  publicSourceType := none
  supportMode := text "trusted_fact"
  modelContent := text "Ship on Friday"
  title := text "Ship on Friday"
  effectivePermission := text "internal"
  servingIdentityHmac := text "i"
  servingVersionFingerprint := text "f"
  modelContentHmac := text "m"
  canonicalCitationProjectionHmac := text "c"
  provenanceBranch := text "explicit_approval"
  sourceUrl := text "https://mail/1"
  sourceSnippet := text "Ship on Friday"
  typedRowId := 1
  sourcePk := none
  servingKind_ne := by decide
  supportMode_ne := by decide
  servingIdentityHmac_ne := by decide
  servingVersionFingerprint_ne := by decide
  modelContentHmac_ne := by decide
  canonicalCitationProjectionHmac_ne := by decide

/-- A corpus whose rows the insert accepts. -/
def acceptedCorpus (evidence : List IndexableEvidence) (h : (evidence.map (·.servingDocumentId)).Nodup) : Corpus where
  ragDocuments := []
  evidence := evidence
  forDocument := fun _ => ⟨true,some (text "internal")⟩
  liveEligibilitySql := fun _ => true
  buildServingLockPlan := fun ids => ⟨ids,[],[],[],[],[],[]⟩
  ragIds := List.nodup_nil
  evidenceIds := h

/-- The index before its first run. -/
def freshIndex : IndexTables where
  generation := some ⟨0,0,exampleSettings.embeddingModel,1,ragIndexPolicyVersion,ragCosinePolicyVersion,text "v1",
    text "key",0⟩
  states := []
  vectors := []
  tombstones := []
  stateKeys := List.nodup_nil
  vectorIds := List.nodup_nil

/-- The index after the run that indexed the decision. -/
def indexedDecision : IndexTables :=
  (reindexed exampleDigests exampleSettings exampleAdapter 1
    ⟨acceptedCorpus [exampleDecision] (List.nodup_singleton _),freshIndex⟩).index

/-- The source of the decision has a new version: the decision is not canonical, and its rows are left. -/
def supersededDecision : Database := ⟨acceptedCorpus [] List.nodup_nil,indexedDecision⟩

theorem within_noBudget (corpus : Corpus) : WithinBudget exampleSettings corpus := by
  intro texts _
  simp [budgetBlocks,exampleSettings]

/-- From the empty tables the runs converge. -/
theorem reindexing_converges_fresh : Converges exampleDigests exampleSettings (fun _ => exampleAdapter) id
    ⟨acceptedCorpus [exampleDecision] (List.nodup_singleton _),freshIndex⟩ := by
  have hnone : ∀ d ∈ (acceptedCorpus [exampleDecision] (List.nodup_singleton _)).ragV2Documents,
      ¬Refreshes exampleDigests exampleSettings
        ⟨acceptedCorpus [exampleDecision] (List.nodup_singleton _),freshIndex⟩ d := by
    intro d hd hrefreshes
    obtain ⟨-,state,hstate,-⟩ := (refreshes_iff _ hd).mp hrefreshes
    cases hstate
  refine (reindexing_converges_iff ⟨by decide +kernel,within_noBudget _,fun _ => exampleAdapter_indexable⟩).mpr
    ⟨⟨?_,?_,?_,?_⟩,?_,?_⟩
  · exact fun row hrow => absurd hrow List.not_mem_nil
  · exact fun state hstate => absurd hstate List.not_mem_nil
  · exact fun d _ => List.not_mem_nil
  · exact fun d _ state hstate => absurd hstate List.not_mem_nil
  · exact fun d hd => .inr ⟨hnone d hd,rfl⟩
  · exact fun d hd hrefreshes => absurd hrefreshes (hnone d hd)

/-- The rows that one run left for the decision keep the index from ever being ready again. -/
theorem supersededDecision_never_converges :
    (inspect exampleDigests exampleSettings
      ⟨acceptedCorpus [exampleDecision] (List.nodup_singleton _),indexedDecision⟩).ready = true ∧
    ¬Converges exampleDigests exampleSettings (fun _ => exampleAdapter) id supersededDecision := by
  have hop : Operable exampleSettings (fun _ => exampleAdapter) supersededDecision :=
    ⟨by decide +kernel,within_noBudget _,fun _ => exampleAdapter_indexable⟩
  have hcan : ¬CanConverge exampleDigests exampleSettings supersededDecision := by
    intro h
    have hleft : ∃ state ∈ trackedStates supersededDecision, state.status = text "indexed" := by decide +kernel
    obtain ⟨state,hstate,hstatus⟩ := hleft
    have htombstone := h.foreignStates state hstate (List.not_mem_nil)
    rw [hstatus] at htombstone
    exact absurd htombstone (by decide)
  constructor
  · decide +kernel
  · rintro ⟨n,hn⟩
    have hready := (hn n le_rfl).1
    rw [never_ready hop hcan n] at hready
    cases hready

end superseded

end ParaWorks.VectorIndex
