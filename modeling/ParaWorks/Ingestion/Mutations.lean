import ParaWorks.Ingestion.EffectKeys

/-!
# Mutations as maps

Where each document is narrowed once, the mutations of a call change each vector and each index state on its own, and
the mutations of one call after another compose.
-/

namespace ParaWorks.Ingestion

open Lib Sources

variable {p : Platform} {env : Environment p} {db db' : IngestionState} {source : Source}
  {narrowings : List (Text × List Text)} {added pairs pairs' : List (Text × Text)} {deletes : List Text}

/-- The documents of narrowings. -/
def narrowedIds (narrowings : List (Text × List Text)) : List Text := (narrowingPairs narrowings).map (·.2)

/-! ## Narrowings of distinct documents -/

theorem addNarrowing_pairs {documentId : Text} (level : Text) (h : documentId ∉ narrowedIds narrowings) :
    (narrowingPairs (addNarrowing narrowings level documentId)).Perm (narrowingPairs narrowings++[(level,documentId)]) := by
  induction narrowings with
  | nil => simp [addNarrowing,narrowingPairs]
  | cons n rest ih =>
    obtain ⟨l,ids⟩ := n
    simp only [narrowedIds,narrowingPairs,List.flatMap_cons,List.map_append,List.mem_append,not_or] at h ih
    have hids : documentId ∉ ids := by
      intro hmem
      apply h.1
      simpa using hmem
    unfold addNarrowing
    split
    · next hl =>
      simp only [narrowingPairs,List.flatMap_cons,List.map_append,List.map_cons,List.map_nil,hl,List.append_assoc]
      exact List.perm_append_comm.append_left _
    · simp only [narrowingPairs,List.flatMap_cons,List.append_assoc]
      exact (ih h.2).append_left _

theorem addNarrowings_pairs (narrowings : List (Text × List Text)) (hadded : (added.map (·.2)).Nodup) (hfresh : ∀ n ∈ added, n.2 ∉ narrowedIds narrowings) :
    (narrowingPairs (addNarrowings narrowings added)).Perm (narrowingPairs narrowings++added) := by
  induction added generalizing narrowings with
  | nil => simp [addNarrowings]
  | cons n added ih =>
    rw [List.map_cons,List.nodup_cons] at hadded
    rw [List.forall_mem_cons] at hfresh
    have hfirst := addNarrowing_pairs n.1 hfresh.1
    change (narrowingPairs (addNarrowings (addNarrowing narrowings n.1 n.2) added)).Perm _
    refine (ih _ hadded.2 ?_).trans ?_
    · intro m hm hmem
      rcases List.mem_append.mp (((hfirst.map (·.2)).mem_iff).mp hmem |> (List.map_append ▸ ·)) with hold | hnew
      · exact hfresh.2 m hm hold
      · obtain heq : m.2 = n.2 := by simpa using hnew
        exact hadded.1 (heq ▸ List.mem_map_of_mem hm)
    · rw [List.append_cons]
      exact hfirst.append_right _

theorem addNarrowings_ids (hadded : (added.map (·.2)).Nodup) (hfresh : ∀ n ∈ added, n.2 ∉ narrowedIds narrowings) :
    (narrowedIds (addNarrowings narrowings added)).Perm (narrowedIds narrowings++added.map (·.2)) := by
  rw [narrowedIds,narrowedIds,← List.map_append]
  exact (addNarrowings_pairs narrowings hadded hfresh).map _

/-- A document that occurs once has the same pairs in any order. -/
theorem filter_once {documentId : Text} (hperm : pairs.Perm pairs') (honce : (pairs.map (·.2)).Nodup) :
    pairs.filter (·.2 = documentId) = pairs'.filter (·.2 = documentId) := by
  have hfilter := hperm.filter (·.2 = documentId)
  have hshort : ∀ ps : List (Text × Text), (ps.map (·.2)).Nodup → (∀ n ∈ ps, n.2 = documentId) → ps.length ≤ 1 := by
    intro ps hnodup hall
    cases ps with
    | nil => exact Nat.zero_le 1
    | cons n ps =>
      cases ps with
      | nil => exact le_refl 1
      | cons m ps =>
        rw [List.map_cons,List.nodup_cons] at hnodup
        apply absurd _ hnodup.1
        rw [hall n List.mem_cons_self,← hall m (by simp)]
        simp
  have hlength : (pairs.filter (·.2 = documentId)).length ≤ 1 :=
    hshort _ (honce.sublist (List.filter_sublist.map _)) fun n hn => by simpa using (List.mem_filter.mp hn).2
  cases hleft : pairs.filter (·.2 = documentId) with
  | nil =>
    rw [hleft] at hfilter
    exact hfilter.nil_eq
  | cons n ps =>
    rw [hleft] at hfilter hlength
    obtain rfl : ps = [] := by
      cases ps with
      | nil => rfl
      | cons => simp at hlength
    exact (List.perm_singleton.mp hfilter.symm).symm

/-! ## Vector rows -/

/-- The row after the narrowings of its document. -/
def narrowedRow (writer : VectorWriter p) (pairs : List (Text × Text)) (row : VectorRow) : Option VectorRow :=
  (pairs.filter (·.2 = row.documentId)).foldlM (fun row n => (writer.narrow n.1 row.permissionLevel).map fun narrowed =>
    { row with permissionLevel := narrowed }) row

/-- The vector rows after the mutations of a call; none where the writer refuses. -/
def vectorsAfter (env : Environment p) (deletes : List Text) (pairs : List (Text × Text)) (rows : List VectorRow) :
    Option (List VectorRow) :=
  match env.writer with
  | none => some rows
  | some writer => (rows.filter (·.documentId ∉ deletes)).mapM (narrowedRow writer pairs)

theorem narrowedRow_documentId {writer : VectorWriter p} {row row' : VectorRow}
    (h : narrowedRow writer pairs row = some row') : row'.documentId = row.documentId := by
  refine foldlM_keeps (P := fun r => r.documentId = row.documentId) ?_ h rfl
  intro r n r' hr hid
  obtain ⟨level,-,rfl⟩ := Option.map_eq_some_iff.mp hr
  exact hid

theorem narrowedRow_skip {writer : VectorWriter p} {row : VectorRow} (h : row.documentId ∉ pairs.map (·.2)) :
    narrowedRow writer pairs row = some row := by
  have hnone : pairs.filter (·.2 = row.documentId) = [] := by
    rw [List.filter_eq_nil_iff]
    intro n hn heq
    exact h (List.mem_map.mpr ⟨n,hn,by simpa using heq⟩)
  rw [narrowedRow,hnone]
  rfl

theorem narrowedRow_perm {writer : VectorWriter p} (hperm : pairs.Perm pairs') (honce : (pairs.map (·.2)).Nodup) :
    narrowedRow writer pairs = narrowedRow writer pairs' := by
  funext row
  rw [narrowedRow,filter_once hperm honce]
  rfl

theorem narrowedRow_append (writer : VectorWriter p) (pairs added : List (Text × Text)) (row : VectorRow) :
    narrowedRow writer (pairs++added) row = (narrowedRow writer pairs row).bind (narrowedRow writer added) := by
  cases hrow : narrowedRow writer pairs row with
  | none =>
    rw [narrowedRow] at hrow ⊢
    rw [List.filter_append,List.foldlM_append,hrow]
    rfl
  | some row' =>
    have hid := narrowedRow_documentId hrow
    rw [narrowedRow] at hrow
    rw [narrowedRow,List.filter_append,List.foldlM_append,hrow,Option.bind_some,narrowedRow,hid]
    rfl

/-- One level of narrowings changes a kept row once. -/
theorem narrowRow_pairs {writer : VectorWriter p} {level : Text} {ids : List Text} {row : VectorRow} (hids : ids.Nodup)
    (hkept : row.documentId ∉ deletes) :
    narrowRow writer level (ids.filter (· ∉ deletes)) row = narrowedRow writer (ids.map (level,·)) row := by
  unfold narrowRow
  by_cases hmem : row.documentId ∈ ids
  · have hpair : (ids.map (level,·)).filter (fun n => n.2 = row.documentId) = [(level,row.documentId)] := by
      rw [List.filter_map]
      have hone : ids.filter (fun id => id = row.documentId) = [row.documentId] := by
        rw [List.filter_eq,List.count_eq_one_of_mem hids hmem]
        rfl
      change (ids.filter fun id => id = row.documentId).map _ = _
      rw [hone]
      rfl
    rw [if_pos (List.mem_filter.mpr ⟨hmem,by simpa using hkept⟩),narrowedRow,hpair,foldlM_cons_option]
    exact (Option.bind_fun_some _).symm
  · rw [if_neg fun h => hmem (List.mem_filter.mp h).1,narrowedRow_skip]
    simpa using hmem

theorem narrowRow_levels {writer : VectorWriter p} {levels : List (Text × List Text)} {row : VectorRow}
    (honce : (narrowedIds levels).Nodup) (hkept : row.documentId ∉ deletes) :
    levels.foldlM (fun row n => narrowRow writer n.1 (n.2.filter (· ∉ deletes)) row) row =
      narrowedRow writer (narrowingPairs levels) row := by
  induction levels generalizing row with
  | nil => rfl
  | cons n levels ih =>
    have hpairs : narrowingPairs (n::levels) = n.2.map (n.1,·)++narrowingPairs levels := rfl
    rw [narrowedIds,hpairs,List.map_append,List.map_map] at honce
    have hids : n.2.Nodup := by simpa using honce.of_append_left
    rw [foldlM_cons_option,narrowRow_pairs hids hkept,hpairs,narrowedRow_append]
    cases hrow : narrowedRow writer (n.2.map (n.1,·)) row with
    | none => rfl
    | some row' => exact ih honce.of_append_right (narrowedRow_documentId hrow ▸ hkept)

theorem narrowVectors_rows {writer : VectorWriter p} {tracked : List Text} (levels : List (Text × List Text))
    (result : List VectorRow × Bool) :
    (levels.foldlM (narrowVectors writer deletes tracked) result).map (·.1) =
      levels.foldlM (fun rows n => rows.mapM (narrowRow writer n.1 (n.2.filter (· ∉ deletes)))) result.1 := by
  induction levels generalizing result with
  | nil => rfl
  | cons n levels ih =>
    rw [foldlM_cons_option,foldlM_cons_option]
    cases hrows : result.1.mapM (narrowRow writer n.1 (n.2.filter (· ∉ deletes))) with
    | none =>
      have hstep : narrowVectors writer deletes tracked result n = none := by simp only [narrowVectors,hrows,Option.map_none]
      rw [hstep]
      rfl
    | some rows =>
      obtain ⟨changed,hstep⟩ : ∃ changed, narrowVectors writer deletes tracked result n = some (rows,changed) :=
        ⟨_,by simp only [narrowVectors,hrows,Option.map_some]; rfl⟩
      rw [hstep,Option.bind_some,Option.bind_some,ih]

theorem narrowedIds_sorted {r : Text × List Text → Text × List Text → Prop} [DecidableRel r] :
    (narrowingPairs (narrowings.insertionSort r)).Perm (narrowingPairs narrowings) :=
  (List.perm_insertionSort r narrowings).flatMap_right _

/-- The levels in any order narrow each kept row at most once. -/
theorem narrowLevels_rows {writer : VectorWriter p} {tracked : List Text} {levels : List (Text × List Text)}
    {rows : List VectorRow} {changed : Bool} (hperm : (narrowingPairs levels).Perm (narrowingPairs narrowings))
    (honce : (narrowedIds narrowings).Nodup) :
    (levels.foldlM (narrowVectors writer deletes tracked) (rows.filter (·.documentId ∉ deletes),changed)).map (·.1) =
      (rows.filter (·.documentId ∉ deletes)).mapM (narrowedRow writer (narrowingPairs narrowings)) := by
  have hlevels : (narrowedIds levels).Nodup := (hperm.map _).nodup_iff.mpr honce
  rw [narrowVectors_rows,foldlM_mapM]
  apply mapM_congr_option
  intro row hrow
  have hkept : row.documentId ∉ deletes := by simpa using (List.mem_filter.mp hrow).2
  rw [narrowRow_levels hlevels hkept,narrowedRow_perm hperm hlevels]

/-- The tables after the mutations of a call that narrow each document once. -/
theorem applyVectorMutations_rows (env : Environment p) (db : IngestionState) (deletes : List Text)
    (honce : (narrowedIds narrowings).Nodup) :
    (applyVectorMutations env db ⟨deletes,narrowings⟩).map (·.1) =
      (vectorsAfter env deletes (narrowingPairs narrowings) db.vectors).map fun rows =>
        { db with indexStates := db.indexStates.filter (·.documentId ∉ deletes), vectors := rows } := by
  unfold applyVectorMutations vectorsAfter
  dsimp only
  split
  · next hempty =>
    obtain ⟨rfl,hids⟩ := List.append_eq_nil_iff.mp hempty
    have hpairs : narrowingPairs narrowings = [] := by
      rw [narrowingPairs,List.flatMap_eq_nil_iff]
      intro n hn
      rw [List.flatMap_eq_nil_iff.mp hids n hn]
      rfl
    cases env.writer with
    | none => simp
    | some writer =>
      have hrows : db.vectors.mapM (narrowedRow writer []) = some db.vectors := by
        conv_rhs => rw [← List.map_id db.vectors,← mapM_some_map]
        rfl
      simp [hpairs,hrows]
  · cases env.writer with
    | none => rfl
    | some writer =>
      have hsorted : (narrowingPairs (narrowings.insertionSort fun a b => permissionRank a.1 ≤ permissionRank b.1)).Perm
          (narrowingPairs narrowings) := narrowedIds_sorted
      dsimp only
      rw [← narrowLevels_rows hsorted honce,Option.map_map,Option.map_map]
      rfl

theorem vectorsAfter_perm (hperm : pairs.Perm pairs') (honce : (pairs.map (·.2)).Nodup) (rows : List VectorRow) :
    vectorsAfter env deletes pairs rows = vectorsAfter env deletes pairs' rows := by
  unfold vectorsAfter
  cases env.writer with
  | none => rfl
  | some writer =>
    dsimp only
    rw [narrowedRow_perm hperm honce]

/-- The mutations of one call after another, where the later deletes no document that the earlier narrowed. -/
theorem vectorsAfter_append {deletes' : List Text} (hdeletes : ∀ id ∈ deletes', id ∉ pairs.map (·.2))
    (rows : List VectorRow) : vectorsAfter env (deletes++deletes') (pairs++added) rows =
      (vectorsAfter env deletes pairs rows).bind (vectorsAfter env deletes' added) := by
  unfold vectorsAfter
  cases env.writer with
  | none => rfl
  | some writer =>
    dsimp only
    have hfilter : rows.filter (·.documentId ∉ deletes++deletes') =
        (rows.filter (·.documentId ∉ deletes)).filter (·.documentId ∉ deletes') := by
      rw [List.filter_filter]
      apply List.filter_congr
      intro row _
      simp [Bool.and_comm]
    have hmap : ((rows.filter (·.documentId ∉ deletes)).mapM (narrowedRow writer pairs)).map
        (·.filter (·.documentId ∉ deletes')) =
        ((rows.filter (·.documentId ∉ deletes)).filter (·.documentId ∉ deletes')).mapM (narrowedRow writer pairs) := by
      apply mapM_filter_option
      · intro row row' hrow
        rw [narrowedRow_documentId hrow]
      · intro row _ hdeleted
        exact narrowedRow_skip (hdeletes row.documentId (by simpa using hdeleted))
    rw [hfilter]
    have hcongr : ((rows.filter (·.documentId ∉ deletes)).filter (·.documentId ∉ deletes')).mapM
        (narrowedRow writer (pairs++added)) = _ :=
      mapM_congr_option fun row _ => narrowedRow_append writer pairs added row
    rw [hcongr,← mapM_bind_mapM,← hmap,Option.bind_map]
    rfl

/-! ## Index states -/

/-- The row of an index state after its document was refreshed. -/
def refreshedState (p : Platform) (source : Source) (db : IngestionState) (s : VectorIndexState) (n : Text × Text) :
    Option VectorIndexState :=
  if s.documentId = n.2 then
    match chunkOf db n.2 with
    | none => some s
    | some chunk => (refreshedHash p db source chunk n.2 n.1).map fun contentHash =>
      if s.servingKind = none then { s with contentHash := contentHash } else s
  else some s

/-- The index states after the refresh of narrowings; none where it raises. -/
def statesAfter (p : Platform) (refresh : Option Source) (db : IngestionState) (pairs : List (Text × Text))
    (states : List VectorIndexState) : Option (List VectorIndexState) :=
  match refresh with
  | none => some states
  | some source => states.mapM fun s => (pairs.filter (·.2 = s.documentId)).foldlM (refreshedState p source db) s

theorem refreshedState_keeps {s s' : VectorIndexState} {n : Text × Text} (h : refreshedState p source db s n = some s') :
    s'.documentId = s.documentId ∧ s'.servingKind = s.servingKind ∧ s'.indexPolicyVersion = s.indexPolicyVersion ∧
    s'.status = s.status := by
  unfold refreshedState at h
  split at h
  · split at h
    · obtain rfl := Option.some.inj h
      exact ⟨rfl,rfl,rfl,rfl⟩
    · obtain ⟨contentHash,-,rfl⟩ := Option.map_eq_some_iff.mp h
      split <;> exact ⟨rfl,rfl,rfl,rfl⟩
  · obtain rfl := Option.some.inj h
    exact ⟨rfl,rfl,rfl,rfl⟩

theorem statesAfter_keeps {refresh : Option Source} {states states' : List VectorIndexState}
    (h : statesAfter p refresh db pairs states = some states') : ∀ s' ∈ states', ∃ s ∈ states,
    s'.documentId = s.documentId ∧ s'.servingKind = s.servingKind ∧ s'.indexPolicyVersion = s.indexPolicyVersion ∧
    s'.status = s.status := by
  intro s' hs'
  cases refresh with
  | none =>
    obtain rfl := Option.some.inj h
    exact ⟨s',hs',rfl,rfl,rfl,rfl⟩
  | some source =>
    obtain ⟨s,hs,hfold⟩ := forall₂_mem_right (mapM_eq_some_iff.mp h) hs'
    refine ⟨s,hs,foldlM_keeps (P := fun t => t.documentId = s.documentId ∧ t.servingKind = s.servingKind ∧
      t.indexPolicyVersion = s.indexPolicyVersion ∧ t.status = s.status) ?_ hfold ⟨rfl,rfl,rfl,rfl⟩⟩
    intro t n t' ht hkept
    obtain ⟨hid,hkind,hpolicy,hstatus⟩ := refreshedState_keeps ht
    exact ⟨hid.trans hkept.1,hkind.trans hkept.2.1,hpolicy.trans hkept.2.2.1,hstatus.trans hkept.2.2.2⟩

/-- One document refreshes its own index states. -/
theorem refresh_states (n : Text × Text) : refreshChunkIndexStateHash p source db n.2 n.1 =
    (db.indexStates.mapM fun s => refreshedState p source db s n).map fun states => { db with indexStates := states } := by
  unfold refreshChunkIndexStateHash
  have hall : (∀ s ∈ db.indexStates, refreshedState p source db s n = some s) →
      (db.indexStates.mapM fun s => refreshedState p source db s n) = some db.indexStates := by
    intro hsame
    rw [mapM_congr_option hsame,mapM_some_map,List.map_id']
  split
  · next hnone =>
    rw [hall]
    · rfl
    · intro s hs
      apply if_neg
      simpa using List.any_eq_false.mp hnone s hs
  · next hsome =>
    cases hchunk : chunkOf db n.2 with
    | none =>
      rw [hall]
      · rfl
      · intro s _
        unfold refreshedState
        rw [hchunk]
        split <;> rfl
    | some chunk =>
      cases hhash : refreshedHash p db source chunk n.2 n.1 with
      | none =>
        have hmap : (db.indexStates.mapM fun s => refreshedState p source db s n) = none := by
          rw [Bool.not_eq_false,List.any_eq_true] at hsome
          obtain ⟨s,hs,hid⟩ := hsome
          cases hmap : db.indexStates.mapM fun s => refreshedState p source db s n with
          | none => rfl
          | some states =>
            obtain ⟨s',-,hs'⟩ := forall₂_mem_left (mapM_eq_some_iff.mp hmap) hs
            rw [refreshedState,if_pos (by simpa using hid),hchunk] at hs'
            simp [hhash] at hs'
        rw [hmap]
        simp [hhash]
      | some contentHash =>
        have hmap : (db.indexStates.mapM fun s => refreshedState p source db s n) = some (db.indexStates.map fun s =>
            if s.documentId = n.2 ∧ s.servingKind = none then { s with contentHash := contentHash } else s) := by
          rw [← mapM_some_map]
          apply mapM_congr_option
          intro s _
          unfold refreshedState
          by_cases hid : s.documentId = n.2
          · rw [if_pos hid,hchunk]
            by_cases hkind : s.servingKind = none
            · simp [hhash,hid,hkind]
            · simp [hhash,hkind]
          · rw [if_neg hid,if_neg fun h => hid h.1]
        rw [hmap]
        simp [hhash]

/-- The refresh of all narrowings of a call refreshes each index state on its own. -/
theorem refreshAll_states (refresh : Option Source) : refreshAll p db refresh narrowings =
    (statesAfter p refresh db (narrowingPairs narrowings) db.indexStates).map fun states =>
      { db with indexStates := states } := by
  cases refresh with
  | none => rfl
  | some source =>
    have hfold : ∀ (pairs : List (Text × Text)) (states : List VectorIndexState),
        pairs.foldlM (fun db n => refreshChunkIndexStateHash p source db n.2 n.1) { db with indexStates := states } =
        (pairs.foldlM (fun (states : List VectorIndexState) n => states.mapM fun s => refreshedState p source db s n)
          states).map fun states => { db with indexStates := states } := by
      intro pairs
      induction pairs with
      | nil => exact fun _ => rfl
      | cons n pairs ih =>
        intro states
        rw [foldlM_cons_option,foldlM_cons_option,refresh_states]
        change ((states.mapM fun s => refreshedState p source db s n).map _).bind _ = _
        cases states.mapM fun s => refreshedState p source db s n with
        | none => rfl
        | some states => exact ih states
    change (narrowingPairs narrowings).foldlM _ { db with indexStates := db.indexStates } = _
    rw [hfold,foldlM_mapM,statesAfter]
    apply congrArg (Option.map _)
    apply mapM_congr_option
    intro s _
    apply foldlM_filter fun t => t.documentId = s.documentId
    · exact fun t n t' hid ht => (refreshedState_keeps ht).1.trans hid
    · intro t n hid hne
      apply if_neg
      rw [hid]
      exact fun heq => (by simpa using hne : n.2 ≠ s.documentId) heq.symm
    · rfl

theorem statesAfter_perm {refresh : Option Source} (hperm : pairs.Perm pairs') (honce : (pairs.map (·.2)).Nodup)
    (states : List VectorIndexState) :
    statesAfter p refresh db pairs states = statesAfter p refresh db pairs' states := by
  cases refresh with
  | none => rfl
  | some source =>
    apply mapM_congr_option
    intro s _
    rw [filter_once hperm honce]

/-- Documents without an index state need no refresh. -/
theorem statesAfter_skip {refresh : Option Source} {states : List VectorIndexState}
    (h : ∀ s ∈ states, s.documentId ∉ pairs.map (·.2)) :
    statesAfter p refresh db (pairs++added) states = statesAfter p refresh db added states := by
  cases refresh with
  | none => rfl
  | some source =>
    apply mapM_congr_option
    intro s hs
    have hnone : pairs.filter (·.2 = s.documentId) = [] := by
      rw [List.filter_eq_nil_iff]
      intro n hn heq
      exact h s hs (List.mem_map.mpr ⟨n,hn,by simpa using heq⟩)
    rw [List.filter_append,hnone,List.nil_append]

/-- Index states of documents that are not refreshed can be removed first. -/
theorem statesAfter_filter {refresh : Option Source} {states : List VectorIndexState}
    (h : ∀ id ∈ deletes, id ∉ pairs.map (·.2)) :
    (statesAfter p refresh db pairs states).map (·.filter (·.documentId ∉ deletes)) =
      statesAfter p refresh db pairs (states.filter (·.documentId ∉ deletes)) := by
  cases refresh with
  | none => rfl
  | some source =>
    apply mapM_filter_option
    · intro s s' hs
      have hid := foldlM_keeps (P := fun t => t.documentId = s.documentId)
        (fun t n t' ht hid => (refreshedState_keeps ht).1.trans hid) hs rfl
      rw [hid]
    · intro s _ hdeleted
      have hnone : pairs.filter (·.2 = s.documentId) = [] := by
        rw [List.filter_eq_nil_iff]
        intro n hn heq
        exact h s.documentId (by simpa using hdeleted) (List.mem_map.mpr ⟨n,hn,by simpa using heq⟩)
      rw [hnone]
      rfl

end ParaWorks.Ingestion
