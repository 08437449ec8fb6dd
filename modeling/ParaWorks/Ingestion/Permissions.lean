import ParaWorks.Ingestion.Service
import ParaWorks.Lib.Integers
import ParaWorks.Lib.Partial
import ParaWorks.Lib.Tables

/-!
# Permissions of stored chunks

A stored chunk is at least as strict as its source, and a vector row at least as strict as its chunk, as long as no
event that replaces the content of a source is stricter than a chunk that stays behind.
-/

namespace ParaWorks.Ingestion

open Lib Sources

variable {p : Platform}

/-! ## Strictness -/

theorem permissionRank_le (value : Text) : permissionRank value ≤ 3 := by
  unfold permissionRank
  split_ifs <;> omega

theorem strictness_le (value : Text) : strictness p value ≤ 3 := permissionRank_le _

theorem normalized_spec {value level : Text} (h : normalizeSourcePermission p value = some level) :
    permissionRank level = strictness p value ∧ strictness p level = strictness p value := by
  unfold normalizeSourcePermission at h
  split at h
  · cases h
  · obtain rfl := Option.some.inj h
    exact ⟨rfl,by rw [strictness,p.lower_lower,strictness]⟩

theorem strictness_of_normalized {value level : Text} (h : normalizeSourcePermission p value = some level) :
    strictness p level = permissionRank level := by
  obtain ⟨hrank,hstrict⟩ := normalized_spec h
  rw [hrank,hstrict]

/-- The stricter of two normalized levels. -/
theorem strictest_spec {a b : Text} (ha : strictness p a = permissionRank a) (hb : strictness p b = permissionRank b) :
    strictness p (strictest a b) = max (strictness p a) (strictness p b) ∧
      permissionRank (strictest a b) = strictness p (strictest a b) := by
  unfold strictest
  split
  · exact ⟨by omega,hb.symm⟩
  · exact ⟨by omega,ha.symm⟩

theorem effectivePermission_spec {incoming level : Text} {chunk : DocumentChunk}
    (hincoming : strictness p incoming = permissionRank incoming)
    (h : effectivePermission p incoming chunk = some level) :
    strictness p level = max (strictness p chunk.permissionLevel) (strictness p incoming) := by
  obtain ⟨current,hcurrent,rfl⟩ := Option.map_eq_some_iff.mp h
  rw [(strictest_spec (strictness_of_normalized hcurrent) hincoming).1,(normalized_spec hcurrent).2]

/-- A chunk that changes its level takes the incoming one. -/
theorem effectivePermission_narrows {incoming level : Text} {chunk : DocumentChunk}
    (h : effectivePermission p incoming chunk = some level) :
    if narrows p incoming chunk then level = incoming else strictness p level = strictness p chunk.permissionLevel := by
  obtain ⟨current,hcurrent,rfl⟩ := Option.map_eq_some_iff.mp h
  rw [narrows,h,hcurrent]
  by_cases hrank : permissionRank current < permissionRank incoming
  · have hlevel : strictest current incoming = incoming := if_pos hrank
    have hne : incoming ≠ current := by
      rintro rfl
      omega
    simp [hlevel,hne]
  · have hlevel : strictest current incoming = current := if_neg hrank
    simp [hlevel,(normalized_spec hcurrent).2]

theorem chunkDocumentId_injective {a b : Nat} (h : chunkDocumentId a = chunkDocumentId b) : a = b := by
  have hid : (a : Int) = b := renderInt_injective (List.append_cancel_left h)
  omega

theorem lt_freshId {ids : List Nat} {i : Nat} (h : i ∈ ids) : i < freshId ids := by
  induction ids with
  | nil => cases h
  | cons j ids ih =>
    unfold freshId at ih ⊢
    rw [List.foldr_cons]
    rcases List.mem_cons.mp h with rfl | h
    · omega
    · have hlt := ih h
      omega

/-! ## Narrowings -/

theorem mem_addNarrowing {narrowings : List (Text × List Text)} {level documentId : Text} {n : Text × Text} :
    n ∈ narrowingPairs (addNarrowing narrowings level documentId) ↔
      n ∈ narrowingPairs narrowings ∨ n = (level,documentId) := by
  induction narrowings with
  | nil => simp [addNarrowing,narrowingPairs]
  | cons entry rest ih =>
    obtain ⟨l,ids⟩ := entry
    unfold addNarrowing
    by_cases hl : l = level
    · rw [if_pos hl]
      by_cases hid : documentId ∈ ids
      · rw [if_pos hid]
        constructor
        · exact .inl
        · rintro (h | rfl)
          · exact h
          · simp [narrowingPairs,← hl,hid]
      · rw [if_neg hid]
        simp only [narrowingPairs,List.flatMap_cons,List.map_append,List.mem_append,List.map_cons,List.map_nil,
          List.mem_singleton,hl]
        tauto
    · rw [if_neg hl]
      simp only [narrowingPairs,List.flatMap_cons,List.mem_append] at ih ⊢
      rw [ih,or_assoc]

theorem mem_addNarrowings {narrowings : List (Text × List Text)} {added : List (Text × Text)} {n : Text × Text} :
    n ∈ narrowingPairs (added.foldl (fun narrowings n => addNarrowing narrowings n.1 n.2) narrowings) ↔
      n ∈ narrowingPairs narrowings ∨ n ∈ added := by
  induction added generalizing narrowings with
  | nil => simp
  | cons a added ih =>
    rw [List.foldl_cons,ih,mem_addNarrowing,List.mem_cons,or_assoc]

/-! ## The invariant of a call -/

/-- The row of a chunk after a change: no less strict, with what happens to its vectors. -/
structure ChunkKept (p : Platform) (m : VectorMutations) (c c' : DocumentChunk) : Prop where
  id : c'.id = c.id
  versionId : c'.versionId = c.versionId
  sourceId : c'.sourceId = c.sourceId
  stricter : strictness p c.permissionLevel ≤ strictness p c'.permissionLevel
  vectors : strictness p c'.permissionLevel = strictness p c.permissionLevel ∨ chunkDocumentId c.id ∈ m.deleteIds ∨
    strictness p c'.permissionLevel ≠ 3 ∧ ∃ level, (level,chunkDocumentId c.id) ∈ narrowingPairs m.narrowings ∧
      strictness p c'.permissionLevel ≤ strictness p level

theorem ChunkKept.refl (m : VectorMutations) (c : DocumentChunk) : ChunkKept p m c c :=
  ⟨rfl,rfl,rfl,le_rfl,.inl rfl⟩

/-- What holds between the events of a call, whose vector mutations are still to be applied. -/
structure Covered (p : Platform) (db : IngestionState) (m : VectorMutations) : Prop where
  sourceIds : (db.sources.map (·.id)).Nodup
  chunkIds : (db.allChunks.map (·.id)).Nodup
  owned : ∀ c ∈ db.allChunks, ∃ s ∈ db.sources, s.id = c.sourceId
  strict : ∀ c ∈ db.allChunks, ∀ s ∈ db.sources, s.id = c.sourceId →
    strictness p s.permissionLevel ≤ strictness p c.permissionLevel
  vectorChunks : ∀ v ∈ db.vectors, ∀ id, v.documentId = chunkDocumentId id → ∃ c ∈ db.allChunks, c.id = id
  stateChunks : ∀ s ∈ db.indexStates, ∀ id, s.documentId = chunkDocumentId id → ∃ c ∈ db.allChunks, c.id = id
  vectors : ∀ v ∈ db.vectors, ∀ c ∈ db.allChunks, v.documentId = chunkDocumentId c.id →
    chunkDocumentId c.id ∈ m.deleteIds ∨ strictness p c.permissionLevel ≤ strictness p v.permissionLevel ∨
      ∃ level, (level,chunkDocumentId c.id) ∈ narrowingPairs m.narrowings ∧
        strictness p c.permissionLevel ≤ strictness p level
  unknown : ∀ c ∈ db.allChunks, strictness p c.permissionLevel = 3 → chunkDocumentId c.id ∈ m.deleteIds ∨
    (∀ v ∈ db.vectors, v.documentId ≠ chunkDocumentId c.id) ∧ ∀ s ∈ db.indexStates, s.documentId ≠ chunkDocumentId c.id

/-- No chunk is lost, moved to another version or less strict. -/
def Keeps (p : Platform) (db db' : IngestionState) : Prop :=
  ∀ c ∈ db.allChunks, ∃ c' ∈ db'.allChunks, c'.id = c.id ∧ c'.versionId = c.versionId ∧ c'.sourceId = c.sourceId ∧
    strictness p c.permissionLevel ≤ strictness p c'.permissionLevel

theorem Keeps.refl (db : IngestionState) : Keeps p db db := fun c hc => ⟨c,hc,rfl,rfl,rfl,le_rfl⟩

theorem Keeps.trans {db db' db'' : IngestionState} (h : Keeps p db db') (h' : Keeps p db' db'') : Keeps p db db'' := by
  intro c hc
  obtain ⟨d,hd,hid,hversion,hsource,hle⟩ := h c hc
  obtain ⟨e,he,hid',hversion',hsource',hle'⟩ := h' d hd
  exact ⟨e,he,hid'.trans hid,hversion'.trans hversion,hsource'.trans hsource,hle.trans hle'⟩

/-- How one event may change the tables and the mutations of its call. -/
structure Change (p : Platform) (db db' : IngestionState) (m m' : VectorMutations) (olds new : List DocumentChunk) :
    Prop where
  sourceIds : (db'.sources.map (·.id)).Nodup
  sources : ∀ s ∈ db.sources, ∃ s' ∈ db'.sources, s'.id = s.id
  chunks : db'.allChunks = olds++new
  olds : List.Forall₂ (ChunkKept p m') db.allChunks olds
  newIds : (new.map (·.id)).Nodup
  fresh : ∀ c ∈ new, ∀ d ∈ db.allChunks, c.id ≠ d.id
  newOwned : ∀ c ∈ new, ∃ s ∈ db'.sources, s.id = c.sourceId
  strict : ∀ c ∈ db'.allChunks, ∀ s ∈ db'.sources, s.id = c.sourceId →
    strictness p s.permissionLevel ≤ strictness p c.permissionLevel
  vectors : db'.vectors = db.vectors
  states : ∀ s' ∈ db'.indexStates, ∃ s ∈ db.indexStates, s.documentId = s'.documentId
  deletes : ∀ id ∈ m.deleteIds, id ∈ m'.deleteIds
  narrowings : ∀ n ∈ narrowingPairs m.narrowings, n ∈ narrowingPairs m'.narrowings

section change

variable {db db' : IngestionState} {m m' : VectorMutations} {olds new : List DocumentChunk}

theorem Change.keeps (h : Change p db db' m m' olds new) : Keeps p db db' := by
  intro c hc
  obtain ⟨c',hc',hkept⟩ := forall₂_mem_left h.olds hc
  exact ⟨c',by rw [h.chunks]; exact List.mem_append_left _ hc',hkept.id,hkept.versionId,hkept.sourceId,hkept.stricter⟩

theorem Change.chunkIds (hc : Covered p db m) (h : Change p db db' m m' olds new) :
    (db'.allChunks.map (·.id)).Nodup := by
  have holds : olds.map (·.id) = db.allChunks.map (·.id) := forall₂_map_eq h.olds fun _ _ hkept => hkept.id
  rw [h.chunks,List.map_append,List.nodup_append]
  refine ⟨by rw [holds]; exact hc.chunkIds,h.newIds,?_⟩
  intro i hi j hj
  rw [holds] at hi
  obtain ⟨d,hd,rfl⟩ := List.mem_map.mp hi
  obtain ⟨c,hmem,rfl⟩ := List.mem_map.mp hj
  exact (h.fresh c hmem d hd).symm

/-- A chunk after the change is an old one, or has no vector or index state. -/
theorem Change.cases (h : Change p db db' m m' olds new) {c' : DocumentChunk} (hc' : c' ∈ db'.allChunks) :
    (∃ c ∈ db.allChunks, ChunkKept p m' c c') ∨ ∀ d ∈ db.allChunks, c'.id ≠ d.id := by
  rw [h.chunks,List.mem_append] at hc'
  rcases hc' with hc' | hc'
  · exact .inl (forall₂_mem_right h.olds hc')
  · exact .inr (h.fresh c' hc')

theorem Change.covered (hc : Covered p db m) (h : Change p db db' m m' olds new) : Covered p db' m' where
  sourceIds := h.sourceIds
  chunkIds := h.chunkIds hc
  strict := h.strict
  owned := by
    intro c' hc'
    rw [h.chunks,List.mem_append] at hc'
    rcases hc' with hc' | hc'
    · obtain ⟨c,hmem,hkept⟩ := forall₂_mem_right h.olds hc'
      obtain ⟨s,hs,hsid⟩ := hc.owned c hmem
      obtain ⟨s',hs',hid⟩ := h.sources s hs
      exact ⟨s',hs',by rw [hid,hsid,hkept.sourceId]⟩
    · exact h.newOwned c' hc'
  vectorChunks := by
    intro v hv id hid
    rw [h.vectors] at hv
    obtain ⟨c,hmem,rfl⟩ := hc.vectorChunks v hv id hid
    obtain ⟨c',hc',hkept,-⟩ := h.keeps c hmem
    exact ⟨c',hc',hkept⟩
  stateChunks := by
    intro s' hs' id hid
    obtain ⟨s,hs,hdocument⟩ := h.states s' hs'
    obtain ⟨c,hmem,rfl⟩ := hc.stateChunks s hs id (hdocument.trans hid)
    obtain ⟨c',hc',hkept,-⟩ := h.keeps c hmem
    exact ⟨c',hc',hkept⟩
  vectors := by
    intro v hv c' hc' hdocument
    rw [h.vectors] at hv
    rcases h.cases hc' with ⟨c,hmem,hkept⟩ | hfresh
    · rw [hkept.id] at hdocument ⊢
      rcases hkept.vectors with heq | hdelete | ⟨-,hnarrowed⟩
      · rw [heq]
        rcases hc.vectors v hv c hmem hdocument with hdelete | hle | ⟨level,hpair,hle⟩
        · exact .inl (h.deletes _ hdelete)
        · exact .inr (.inl hle)
        · exact .inr (.inr ⟨level,h.narrowings _ hpair,hle⟩)
      · exact .inl hdelete
      · exact .inr (.inr hnarrowed)
    · obtain ⟨d,hd,hid⟩ := hc.vectorChunks v hv _ hdocument
      exact absurd hid.symm (hfresh d hd)
  unknown := by
    intro c' hc' hunknown
    rcases h.cases hc' with ⟨c,hmem,hkept⟩ | hfresh
    · rw [hkept.id]
      rcases hkept.vectors with heq | hdelete | ⟨hknown,-⟩
      · rcases hc.unknown c hmem (heq.symm.trans hunknown) with hdelete | ⟨hvectors,hstates⟩
        · exact .inl (h.deletes _ hdelete)
        · refine .inr ⟨by rwa [h.vectors],fun s' hs' => ?_⟩
          obtain ⟨s,hs,hdocument⟩ := h.states s' hs'
          rw [← hdocument]
          exact hstates s hs
      · exact .inl hdelete
      · exact absurd hunknown hknown
    · right
      constructor
      · intro v hv hdocument
        rw [h.vectors] at hv
        obtain ⟨d,hd,hid⟩ := hc.vectorChunks v hv _ hdocument
        exact hfresh d hd hid.symm
      · intro s' hs' hdocument
        obtain ⟨s,hs,hsame⟩ := h.states s' hs'
        obtain ⟨d,hd,hid⟩ := hc.stateChunks s hs _ (hsame.trans hdocument)
        exact hfresh d hd hid.symm

end change

end ParaWorks.Ingestion
