import ParaWorks.Retention.Pruning

/-!
# What is pruned

The threads that are selected are the oldest that can be pruned, and nothing is left to select in the end.
-/

namespace ParaWorks.Retention

open Lib

/-! ## Specification -/

/-- Some table holds a row of the thread. -/
def hasData (tables : Checkpoints) (t : WorkflowThread) : Bool :=
  (tables.writes++tables.blobs++tables.checkpoints).any (·.threadId = t.checkpointThreadId)

/-- The thread has ended before the cutoff, and some of its rows are left. -/
def isPrunable (tables : Checkpoints) (cutoff : Int) (t : WorkflowThread) : Bool := isExpired cutoff t && hasData tables t

/-- By the time of the end, then by the id of the thread. -/
def comesBefore (collation : Collation) (t u : WorkflowThread) : Bool :=
  t.terminalAt < u.terminalAt || (t.terminalAt = u.terminalAt && collation.lt t.threadId u.threadId)

/-- Fewer than `limit` threads that can be pruned come before this one. -/
def isOldest (collation : Collation) (threads : ThreadTable) (tables : Checkpoints) (cutoff : Int) (limit : Nat)
    (t : WorkflowThread) : Bool :=
  isPrunable tables cutoff t &&
    threads.rows.countP (fun u => isPrunable tables cutoff u && comesBefore collation u t) < limit

/-- The rows without those of the oldest threads. -/
def withoutOldest (collation : Collation) (threads : ThreadTable) (tables : Checkpoints) (cutoff : Int) (limit : Nat)
    (rows : List CheckpointRow) : List CheckpointRow :=
  rows.filter fun row => !threads.rows.any fun t =>
    isOldest collation threads tables cutoff limit t && t.checkpointThreadId = row.threadId

/-! ## The order of the candidates -/

section order

variable {collation : Collation}

instance : IsTrans WorkflowThread (inOrder collation) where
  trans t u v htu huv := by
    rcases htu with htu | ⟨htu,hle⟩ <;> rcases huv with huv | ⟨huv,hle'⟩
    · exact Or.inl (htu.trans huv)
    · exact Or.inl (huv ▸ htu)
    · exact Or.inl (htu ▸ huv)
    · exact Or.inr ⟨htu.trans huv,collation.trans _ _ _ hle hle'⟩

instance : Std.Total (inOrder collation) where
  total t u := by
    rcases lt_trichotomy t.terminalAt u.terminalAt with h | h | h
    · exact Or.inl (Or.inl h)
    · rcases collation.total t.threadId u.threadId with hle | hle
      · exact Or.inl (Or.inr ⟨h,hle⟩)
      · exact Or.inr (Or.inr ⟨h.symm,hle⟩)
    · exact Or.inr (Or.inl h)

theorem comesBefore_iff {t u : WorkflowThread} : comesBefore collation t u = true ↔
    t.terminalAt < u.terminalAt ∨ (t.terminalAt = u.terminalAt ∧ collation.le u.threadId t.threadId = false) := by
  simp [comesBefore,Collation.lt]

theorem comesBefore_asymm (t u : WorkflowThread) (h : comesBefore collation t u = true) :
    comesBefore collation u t = false := by
  rw [← Bool.not_eq_true,comesBefore_iff]
  rw [comesBefore_iff] at h
  rintro (h' | ⟨h',hle'⟩)
  · rcases h with h | ⟨h,_⟩ <;> omega
  · rcases h with h | ⟨_,hle⟩
    · omega
    · rcases collation.total u.threadId t.threadId with h | h <;> simp_all

theorem isBehind_cursor (t : WorkflowThread) :
    isBehind collation (some (t.terminalAt,t.threadId)) = comesBefore collation t := by
  funext u
  simp only [isBehind,comesBefore,eq_comm]

/-- The expired threads in order. -/
def expiredThreads (collation : Collation) (threads : ThreadTable) (cutoff : Int) : List WorkflowThread :=
  (threads.rows.filter (isExpired cutoff)).insertionSort (inOrder collation)

variable {threads : ThreadTable} {tables : Checkpoints} {cutoff : Int} {limit : Nat}

theorem expiredThreads_perm : (expiredThreads collation threads cutoff).Perm (threads.rows.filter (isExpired cutoff)) :=
  List.perm_insertionSort _ _

theorem mem_expiredThreads {t : WorkflowThread} :
    t ∈ expiredThreads collation threads cutoff ↔ t ∈ threads.rows ∧ isExpired cutoff t = true :=
  expiredThreads_perm.mem_iff.trans List.mem_filter

theorem expiredThreads_ids : ((expiredThreads collation threads cutoff).map (·.threadId)).Nodup :=
  (expiredThreads_perm.map _).nodup_iff.mpr (threads.threadIds.sublist (List.filter_sublist.map _))

theorem expiredThreads_checkpointIds : ((expiredThreads collation threads cutoff).map (·.checkpointThreadId)).Nodup :=
  (expiredThreads_perm.map _).nodup_iff.mpr (threads.checkpointThreadIds.sublist (List.filter_sublist.map _))

/-- No two threads share a place. -/
theorem expiredThreads_sorted :
    (expiredThreads collation threads cutoff).Pairwise fun t u => comesBefore collation t u = true := by
  have hids := List.pairwise_map.mp (@expiredThreads_ids collation threads cutoff)
  have hsorted := List.pairwise_insertionSort (inOrder collation) (threads.rows.filter (isExpired cutoff))
  apply (hids.and hsorted).imp
  rintro t u ⟨hne,hlt | ⟨heq,hle⟩⟩
  · exact comesBefore_iff.mpr (Or.inl hlt)
  · refine comesBefore_iff.mpr (Or.inr ⟨heq,?_⟩)
    by_contra hge
    rw [Bool.not_eq_false] at hge
    exact hne (collation.antisymm _ _ hle hge)

theorem loadCandidatePage_eq (pageSize : Nat) (cursor : Option (Int × Text)) :
    loadCandidatePage collation threads cutoff pageSize cursor =
      (((expiredThreads collation threads cutoff).filter (isBehind collation cursor)).take pageSize).map
        WorkflowThread.candidate := by
  rw [expiredThreads,filter_insertionSort,List.filter_filter]
  simp only [loadCandidatePage,Bool.and_comm]

/-- The page behind a page is the next one. -/
theorem loadCandidatePage_next {k : Nat} {c : Candidate}
    (h : ((((expiredThreads collation threads cutoff).drop k).take limit).map WorkflowThread.candidate).getLast? = some c) :
    loadCandidatePage collation threads cutoff limit (some (c.terminalAt,c.threadId)) =
      (((expiredThreads collation threads cutoff).drop (k+limit)).take limit).map WorkflowThread.candidate := by
  rw [List.getLast?_map] at h
  obtain ⟨t,ht,rfl⟩ := Option.map_eq_some_iff.mp h
  have hne : ((expiredThreads collation threads cutoff).drop k).take limit ≠ [] := by
    intro hnil
    rw [hnil] at ht
    cases ht
  have hlast : ((expiredThreads collation threads cutoff).take (k+limit)).getLast? = some t := by
    rw [List.take_add,List.getLast?_append_of_ne_nil _ hne]
    exact ht
  have hbehind := filter_behind expiredThreads_sorted comesBefore_asymm hlast
  rw [loadCandidatePage_eq]
  change (((expiredThreads collation threads cutoff).filter
    (isBehind collation (some (t.terminalAt,t.threadId)))).take limit).map _ = _
  rw [isBehind_cursor,hbehind]

end order

/-! ## The loop -/

section loop

variable {collation : Collation} {threads : ThreadTable} {tables : Checkpoints} {cutoff : Int} {limit : Nat}

theorem mem_remaining {t : WorkflowThread} {ids : List Text} (h : t.checkpointThreadId ∈ ids) :
    t.checkpointThreadId ∈ remainingCheckpointThreadIds tables ids ↔ hasData tables t = true := by
  rw [remainingCheckpointThreadIds,List.mem_dedup,List.mem_filter,hasData,List.any_eq_true,List.mem_map]
  simp [h]

/-- The ids that a page adds are those of its threads that have data. -/
theorem page_remaining (page : List WorkflowThread) :
    ((page.map WorkflowThread.candidate).map (·.checkpointThreadId)).filter
        (· ∈ remainingCheckpointThreadIds tables ((page.map WorkflowThread.candidate).map (·.checkpointThreadId))) =
      (page.filter (hasData tables)).map (·.checkpointThreadId) := by
  rw [List.map_map,List.filter_map]
  apply congrArg (List.map _)
  apply List.filter_congr
  intro t ht
  have hmem : t.checkpointThreadId ∈ page.map ((·.checkpointThreadId)∘WorkflowThread.candidate) :=
    List.mem_map.mpr ⟨t,ht,rfl⟩
  have hiff : t.checkpointThreadId ∈ remainingCheckpointThreadIds tables _ ↔ hasData tables t = true := mem_remaining hmem
  cases hdata : hasData tables t <;> simp_all [WorkflowThread.candidate]

/-- From a page on the loop collects the first threads that have data. -/
theorem collect_eq (hlimit : 0 < limit) {fuel k : Nat} {ids : List Text} (hids : ids.length < limit)
    (hfuel : ((expiredThreads collation threads cutoff).drop k).length < fuel) :
    collect collation threads tables cutoff limit fuel ids
        ((((expiredThreads collation threads cutoff).drop k).take limit).map WorkflowThread.candidate) =
      some ((ids++(((expiredThreads collation threads cutoff).drop k).filter (hasData tables)).map
        (·.checkpointThreadId)).take limit) := by
  induction fuel generalizing k ids with
  | zero => omega
  | succ fuel ih =>
    by_cases hempty : (expiredThreads collation threads cutoff).drop k = []
    · rw [hempty]
      simp [collect,List.take_of_length_le hids.le]
    · have hpage : (((expiredThreads collation threads cutoff).drop k).take limit).map WorkflowThread.candidate ≠ [] := by
        rw [ne_eq,List.map_eq_nil_iff,List.take_eq_nil_iff]
        exact not_or.mpr ⟨by omega,hempty⟩
      have hrest : ((expiredThreads collation threads cutoff).drop k).drop limit =
          (expiredThreads collation threads cutoff).drop (k+limit) := by rw [List.drop_drop]
      have hsplit : ((expiredThreads collation threads cutoff).drop k).filter (hasData tables) =
          (((expiredThreads collation threads cutoff).drop k).take limit).filter (hasData tables)++
            ((expiredThreads collation threads cutoff).drop (k+limit)).filter (hasData tables) := by
        rw [← hrest,← List.filter_append,List.take_append_drop]
      rw [collect,if_neg hpage]
      dsimp only
      rw [page_remaining,hsplit,List.map_append,← List.append_assoc]
      split_ifs with hfull hshort
      · rw [List.take_append_of_le_length hfull]
      · rw [List.length_map,List.length_take] at hshort
        have hnone : (expiredThreads collation threads cutoff).drop (k+limit) = [] := by
          rw [← hrest]
          exact List.drop_eq_nil_of_le (by omega)
        rw [hnone,List.filter_nil,List.map_nil,List.append_nil]
        exact congrArg some (List.take_of_length_le (le_of_not_ge hfull)).symm
      · obtain ⟨c,hc⟩ := Option.isSome_iff_exists.mp (List.getLast?_isSome.mpr hpage)
        rw [hc]
        change collect collation threads tables cutoff limit fuel _
          (loadCandidatePage collation threads cutoff limit (some (c.terminalAt,c.threadId))) = _
        rw [loadCandidatePage_next hc]
        apply ih (not_le.mp hfull)
        rw [← hrest,List.length_drop]
        have hpos := List.length_pos_iff.mpr hempty
        omega

/-- The ids of the threads that are selected. -/
def selectedIds (collation : Collation) (threads : ThreadTable) (tables : Checkpoints) (cutoff : Int) (limit : Nat) :
    List Text :=
  (((expiredThreads collation threads cutoff).filter (hasData tables)).take limit).map (·.checkpointThreadId)

theorem pruneExpiredCheckpoints_eq (hlimit : 0 < limit) (hmax : limit ≤ 1000) :
    pruneExpiredCheckpoints collation threads tables cutoff limit =
      let ids := selectedIds collation threads tables cutoff limit
      let left := tables.delete ids
      .ok (⟨ids.length,tables.writes.length-left.writes.length,tables.blobs.length-left.blobs.length,
        tables.checkpoints.length-left.checkpoints.length,cutoff⟩,left) := by
  have hnone : tables.delete [] = tables := by
    cases tables
    simp [Checkpoints.delete,deleteRows]
  have hfirst : loadCandidatePage collation threads cutoff limit none =
      (((expiredThreads collation threads cutoff).drop 0).take limit).map WorkflowThread.candidate := by
    rw [loadCandidatePage_eq,List.drop_zero]
    congr 2
    exact List.filter_eq_self.mpr fun _ _ => rfl
  have hlength : ((expiredThreads collation threads cutoff).drop 0).length < threads.rows.length+1 := by
    rw [List.drop_zero,expiredThreads_perm.length_eq]
    exact Nat.lt_succ_of_le (List.length_filter_le _ _)
  have hcollect := @collect_eq collation threads tables cutoff limit hlimit _ 0 [] hlimit hlength
  rw [← hfirst,List.nil_append,← List.map_take,List.drop_zero] at hcollect
  have hcollect : collect collation threads tables cutoff limit (threads.rows.length+1) []
      (loadCandidatePage collation threads cutoff limit none) =
      some (selectedIds collation threads tables cutoff limit) := hcollect
  rw [pruneExpiredCheckpoints,if_neg (by omega)]
  dsimp only
  split_ifs with hpage
  · have hempty : selectedIds collation threads tables cutoff limit = [] := by
      rw [hpage] at hcollect
      exact (Option.some.inj hcollect).symm
    simp [hempty,hnone]
  · rw [hcollect]
    dsimp only
    split_ifs with hempty
    · simp [hempty,hnone]
    · rfl

/-- A thread is selected where it is one of the oldest. -/
theorem mem_selected {t : WorkflowThread} :
    t ∈ ((expiredThreads collation threads cutoff).filter (hasData tables)).take limit ↔
      t ∈ threads.rows ∧ isOldest collation threads tables cutoff limit t = true := by
  have hperm : ((expiredThreads collation threads cutoff).filter (hasData tables)).Perm
      (threads.rows.filter (isPrunable tables cutoff)) := by
    have h := (@expiredThreads_perm collation threads cutoff).filter (hasData tables)
    rw [List.filter_filter] at h
    convert h using 2
    funext u
    exact Bool.and_comm _ _
  have hsorted := (@expiredThreads_sorted collation threads cutoff).sublist
    (List.filter_sublist (p := hasData tables))
  have hcount : ((expiredThreads collation threads cutoff).filter (hasData tables)).countP (comesBefore collation · t) =
      threads.rows.countP fun u => isPrunable tables cutoff u && comesBefore collation u t := by
    rw [hperm.countP_eq,List.countP_filter]
    congr 1
    funext u
    exact Bool.and_comm _ _
  have hmem : t ∈ (expiredThreads collation threads cutoff).filter (hasData tables) ↔
      t ∈ threads.rows ∧ isPrunable tables cutoff t = true := hperm.mem_iff.trans List.mem_filter
  rw [isOldest,Bool.and_eq_true,decide_eq_true_iff,← hcount]
  constructor
  · intro h
    have hin := List.mem_of_mem_take h
    exact ⟨(hmem.mp hin).1,(hmem.mp hin).2,(mem_take_iff_before hsorted comesBefore_asymm hin).mp h⟩
  · rintro ⟨hrow,hprunable,hfew⟩
    exact (mem_take_iff_before hsorted comesBefore_asymm (hmem.mpr ⟨hrow,hprunable⟩)).mpr hfew

theorem mem_selectedIds {id : Text} : id ∈ selectedIds collation threads tables cutoff limit ↔
    (threads.rows.any fun t => isOldest collation threads tables cutoff limit t && t.checkpointThreadId = id) = true := by
  simp only [selectedIds,List.mem_map,mem_selected,List.any_eq_true,Bool.and_eq_true,decide_eq_true_iff,and_assoc]

theorem selectedIds_length : (selectedIds collation threads tables cutoff limit).length =
    (threads.rows.filter (isOldest collation threads tables cutoff limit)).length := by
  have hids := @expiredThreads_ids collation threads cutoff
  have hselected : (((expiredThreads collation threads cutoff).filter (hasData tables)).take limit).Nodup :=
    (List.Nodup.of_map _ hids).sublist ((List.take_sublist _ _).trans List.filter_sublist)
  have hrows : (threads.rows.filter (isOldest collation threads tables cutoff limit)).Nodup :=
    (List.Nodup.of_map _ threads.threadIds).sublist List.filter_sublist
  rw [selectedIds,List.length_map]
  apply List.Perm.length_eq
  rw [List.perm_ext_iff_of_nodup hselected hrows]
  intro t
  rw [mem_selected,List.mem_filter]

theorem deleteRows_selected (rows : List CheckpointRow) :
    deleteRows (selectedIds collation threads tables cutoff limit) rows =
      withoutOldest collation threads tables cutoff limit rows := by
  apply List.filter_congr
  intro row _
  rw [Bool.eq_iff_iff]
  simp [mem_selectedIds]

end loop

/-! ## Exactness -/

section exactness

variable {collation : Collation} {threads : ThreadTable} {tables : Checkpoints} {cutoff : Int} {limit : Nat}

/-- The rows of the oldest threads are gone, all others are left, and the result counts them. -/
structure PrunesOldest (collation : Collation) (threads : ThreadTable) (tables : Checkpoints) (cutoff : Int)
    (limit : Nat) (result : CheckpointPruneResult) (left : Checkpoints) : Prop where
  writes : left.writes = withoutOldest collation threads tables cutoff limit tables.writes
  blobs : left.blobs = withoutOldest collation threads tables cutoff limit tables.blobs
  checkpoints : left.checkpoints = withoutOldest collation threads tables cutoff limit tables.checkpoints
  selected : result.selectedThreadCount = (threads.rows.filter (isOldest collation threads tables cutoff limit)).length
  writeCount : result.deletedWriteCount+left.writes.length = tables.writes.length
  blobCount : result.deletedBlobCount+left.blobs.length = tables.blobs.length
  checkpointCount : result.deletedCheckpointCount+left.checkpoints.length = tables.checkpoints.length
  cutoff : result.cutoff = cutoff

theorem prunes_oldest (hlimit : 0 < limit) (hmax : limit ≤ 1000) :
    ∃ result left, pruneExpiredCheckpoints collation threads tables cutoff limit = .ok (result,left) ∧
      PrunesOldest collation threads tables cutoff limit result left := by
  refine ⟨_,_,pruneExpiredCheckpoints_eq hlimit hmax,?_⟩
  have hle : ∀ ids rows, (deleteRows ids rows).length ≤ rows.length := fun _ _ => List.length_filter_le _ _
  exact ⟨deleteRows_selected _,deleteRows_selected _,deleteRows_selected _,selectedIds_length,
    Nat.sub_add_cancel (hle _ _),Nat.sub_add_cancel (hle _ _),Nat.sub_add_cancel (hle _ _),rfl⟩

/-! ## Repeated calls -/

/-- The tables after a number of calls, each at its own cutoff and limit. -/
def tablesAfter (collation : Collation) (threads : ThreadTable) (calls : Nat → Int × Nat) (tables : Checkpoints) :
    Nat → Checkpoints
  | 0 => tables
  | n+1 =>
    let before := tablesAfter collation threads calls tables n
    match pruneExpiredCheckpoints collation threads before (calls n).1 (calls n).2 with
    | .ok (_,left) => left
    | .error _ => before

/-- How many threads have data. -/
def threadsWithData (threads : ThreadTable) (tables : Checkpoints) : Nat := threads.rows.countP (hasData tables)

theorem hasData_delete {ids : List Text} {t : WorkflowThread} :
    hasData (tables.delete ids) t = true ↔ hasData tables t = true ∧ t.checkpointThreadId ∉ ids := by
  simp only [hasData,Checkpoints.delete,deleteRows,List.any_eq_true,List.mem_append,List.mem_filter,decide_eq_true_iff]
  constructor
  · rintro ⟨row,hrow,hid⟩
    rw [← hid]
    rcases hrow with (h | h) | h
    · exact ⟨⟨row,Or.inl (Or.inl h.1),rfl⟩,h.2⟩
    · exact ⟨⟨row,Or.inl (Or.inr h.1),rfl⟩,h.2⟩
    · exact ⟨⟨row,Or.inr h.1,rfl⟩,h.2⟩
  · rintro ⟨⟨row,hrow,hid⟩,hnot⟩
    rw [← hid] at hnot
    refine ⟨row,?_,hid⟩
    rcases hrow with (h | h) | h
    · exact Or.inl (Or.inl ⟨h,hnot⟩)
    · exact Or.inl (Or.inr ⟨h,hnot⟩)
    · exact Or.inr ⟨h,hnot⟩

/-- A call that selects a thread leaves fewer threads with data. -/
theorem threadsWithData_delete (hne : selectedIds collation threads tables cutoff limit ≠ []) :
    threadsWithData threads (tables.delete (selectedIds collation threads tables cutoff limit)) <
      threadsWithData threads tables := by
  obtain ⟨id,hid⟩ := List.exists_mem_of_ne_nil _ hne
  obtain ⟨t,ht,rfl⟩ := List.mem_map.mp hid
  obtain ⟨hrow,holdest⟩ := mem_selected.mp ht
  have hdata : hasData tables t = true := (List.mem_filter.mp (List.mem_of_mem_take ht)).2
  unfold threadsWithData
  rw [List.countP_eq_length_filter,List.countP_eq_length_filter]
  have hsub : (threads.rows.filter (hasData (tables.delete (selectedIds collation threads tables cutoff limit)))).Sublist
      ((threads.rows.filter (hasData tables)).filter fun u => u ≠ t) := by
    rw [List.filter_filter]
    apply List.monotone_filter_right
    intro u hu
    obtain ⟨hdata',hnot⟩ := hasData_delete.mp hu
    have hne : u ≠ t := by
      rintro rfl
      exact hnot hid
    simp [hdata',hne]
  have hless : ((threads.rows.filter (hasData tables)).filter fun u => u ≠ t).length <
      (threads.rows.filter (hasData tables)).length := by
    apply List.length_filter_lt_length_iff_exists.mpr
    exact ⟨t,List.mem_filter.mpr ⟨hrow,hdata⟩,by simp⟩
  exact hsub.length_le.trans_lt hless

/-- After some call nothing more is selected. -/
theorem nothing_selected_eventually (calls : Nat → Int × Nat) (hcalls : ∀ n, 0 < (calls n).2 ∧ (calls n).2 ≤ 1000) :
    ∃ N, ∀ n ≥ N, pruneExpiredCheckpoints collation threads (tablesAfter collation threads calls tables n)
      (calls n).1 (calls n).2 = .ok (⟨0,0,0,0,(calls n).1⟩,tablesAfter collation threads calls tables n) := by
  let left : Nat → Nat := fun n => threadsWithData threads (tablesAfter collation threads calls tables n)
  have hstep : ∀ n, tablesAfter collation threads calls tables (n+1) =
      (tablesAfter collation threads calls tables n).delete (selectedIds collation threads
        (tablesAfter collation threads calls tables n) (calls n).1 (calls n).2) := by
    intro n
    rw [tablesAfter,pruneExpiredCheckpoints_eq (hcalls n).1 (hcalls n).2]
  have hnone : ∀ tables : Checkpoints, tables.delete [] = tables := by
    intro tables
    cases tables
    simp [Checkpoints.delete,deleteRows]
  have hanti : Antitone left := by
    apply antitone_nat_of_succ_le
    intro n
    change threadsWithData threads (tablesAfter collation threads calls tables (n+1)) ≤ _
    rw [hstep]
    by_cases hempty : selectedIds collation threads (tablesAfter collation threads calls tables n) (calls n).1
        (calls n).2 = []
    · rw [hempty,hnone]
    · exact (threadsWithData_delete hempty).le
  -- the number of threads with data reaches its least value, from where on no call selects any
  obtain ⟨_,⟨N,rfl⟩,hleast⟩ := WellFounded.has_min wellFounded_lt (Set.range left) ⟨_,0,rfl⟩
  refine ⟨N,fun n hn => ?_⟩
  have hempty : selectedIds collation threads (tablesAfter collation threads calls tables n) (calls n).1
      (calls n).2 = [] := by
    by_contra hne
    have hless : left (n+1) < left n := by
      change threadsWithData threads (tablesAfter collation threads calls tables (n+1)) < _
      rw [hstep]
      exact threadsWithData_delete hne
    exact hleast _ ⟨n+1,rfl⟩ (hless.trans_le (hanti hn))
  rw [pruneExpiredCheckpoints_eq (hcalls n).1 (hcalls n).2]
  simp [hempty,hnone]

/-- A call prunes the oldest threads and no others, and calls without new threads come to select nothing. -/
theorem pruning_exact (collation : Collation) (threads : ThreadTable) (tables : Checkpoints) :
    (∀ cutoff limit, 0 < limit → limit ≤ 1000 →
      ∃ result left, pruneExpiredCheckpoints collation threads tables cutoff limit = .ok (result,left) ∧
        PrunesOldest collation threads tables cutoff limit result left) ∧
    ∀ calls : Nat → Int × Nat, (∀ n, 0 < (calls n).2 ∧ (calls n).2 ≤ 1000) →
      ∃ N, ∀ n ≥ N, pruneExpiredCheckpoints collation threads (tablesAfter collation threads calls tables n)
        (calls n).1 (calls n).2 = .ok (⟨0,0,0,0,(calls n).1⟩,tablesAfter collation threads calls tables n) :=
  ⟨fun _ _ hlimit hmax => prunes_oldest hlimit hmax,nothing_selected_eventually⟩

end exactness

/-! ## A sample -/

def codePointOrder : Collation where
  le a b := decide (a ≤ b)
  total a b := by simpa using le_total a b
  trans a b c := by simpa using fun h h' => le_trans h h'
  antisymm a b := by simpa using fun h h' => le_antisymm h h'

def endedThread (id : String) (ended : Int) : WorkflowThread :=
  ⟨text id,text id,text "postgres",text "completed",some ended,none,0⟩

/-- Two threads that ended together and one that ended later. -/
def endedThreads : ThreadTable := ⟨[endedThread "b" 5,endedThread "c" 6,endedThread "a" 5],by decide,by decide⟩

def fullTables : Checkpoints :=
  ⟨[⟨text "a",[]⟩,⟨text "b",[]⟩],[⟨text "c",[]⟩],[⟨text "a",[]⟩,⟨text "d",[]⟩]⟩

theorem pruning_exact_sample : ∃ result left,
    pruneExpiredCheckpoints codePointOrder endedThreads fullTables 7 1 = .ok (result,left) ∧
      left = ⟨[⟨text "b",[]⟩],[⟨text "c",[]⟩],[⟨text "d",[]⟩]⟩ := by
  obtain ⟨result,left,hprune,hexact⟩ :=
    (pruning_exact codePointOrder endedThreads fullTables).1 7 1 (by decide) (by decide)
  refine ⟨result,left,hprune,?_⟩
  cases left
  rw [Checkpoints.mk.injEq]
  exact ⟨hexact.writes.trans (by decide),hexact.blobs.trans (by decide),hexact.checkpoints.trans (by decide)⟩

end ParaWorks.Retention
