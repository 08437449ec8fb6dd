import Mathlib

/-!
# Pages behind a cursor

Rows in the order of their keys, read in pages that start behind a cursor, and merged into a table by another key.
-/

namespace ParaWorks.Lib

variable {α κ : Type}

/-! ## Pages -/

section pages

variable (key : α → Nat)

/-- The rows behind a cursor. -/
def after (c : Nat) (rows : List α) : List α := rows.filter (c < key ·)

/-- The rows up to a cursor. -/
def upTo (c : Nat) (rows : List α) : List α := rows.filter (key · ≤ c)

/-- The cursor behind a page that starts at `c`. -/
def nextCursor (c : Nat) (page : List α) : Nat := (page.getLast?.map key).getD c

variable {key} {c : Nat} {rows : List α}

@[simp] theorem nextCursor_nil : nextCursor key c [] = c := rfl

@[simp] theorem nextCursor_cons (r : α) (page : List α) :
    nextCursor key c (r::page) = nextCursor key (key r) page := by
  rw [nextCursor,nextCursor,List.getLast?_cons]
  cases page.getLast? <;> rfl

theorem le_nextCursor {page : List α} (h : ∀ r ∈ page, c < key r) : c ≤ nextCursor key c page := by
  unfold nextCursor
  cases hlast : page.getLast? with
  | none => exact le_rfl
  | some r => exact (h r (List.mem_of_getLast? hlast)).le

theorem mem_after {r : α} : r ∈ after key c rows ↔ r ∈ rows ∧ c < key r := by
  simp [after]

theorem after_sorted (hsorted : (rows.map key).Pairwise (· < ·)) : ((after key c rows).map key).Pairwise (· < ·) :=
  hsorted.sublist (List.filter_sublist.map key)

/-- Rows all behind the cursor: a page holds those up to the next cursor, and leaves the others. -/
theorem page_upTo {d k : Nat} (hsorted : (rows.map key).Pairwise (· < ·)) (hd : ∀ r ∈ rows, d < key r) :
    upTo key (nextCursor key d (rows.take k)) rows = rows.take k ∧
    after key (nextCursor key d (rows.take k)) rows = rows.drop k := by
  induction rows generalizing d k with
  | nil => simp [upTo,after]
  | cons r rows ih =>
    rw [List.forall_mem_cons] at hd
    rw [List.map_cons,List.pairwise_cons] at hsorted
    cases k with
    | zero =>
      rw [List.take_zero,nextCursor_nil,List.drop_zero]
      constructor
      · apply List.filter_eq_nil_iff.mpr
        intro s hs
        rcases List.mem_cons.mp hs with rfl | hs
        · have := hd.1
          simp
          omega
        · have := hd.2 s hs
          simp
          omega
      · apply List.filter_eq_self.mpr
        intro s hs
        rcases List.mem_cons.mp hs with rfl | hs
        · simpa using hd.1
        · simpa using hd.2 s hs
    | succ k =>
      have hrest : ∀ s ∈ rows, key r < key s := fun s hs => hsorted.1 (key s) (List.mem_map_of_mem hs)
      obtain ⟨hup,hafter⟩ := ih (d := key r) (k := k) hsorted.2 hrest
      have hle : key r ≤ nextCursor key (key r) (rows.take k) :=
        le_nextCursor fun s hs => hrest s (List.mem_of_mem_take hs)
      rw [List.take_succ_cons,nextCursor_cons,List.drop_succ_cons]
      constructor
      · rw [upTo,List.filter_cons_of_pos (by simpa using hle)]
        exact congrArg (r::·) hup
      · rw [after,List.filter_cons_of_neg (by simpa using hle)]
        exact hafter

theorem upTo_upTo {d : Nat} (h : c ≤ d) : upTo key c rows = (upTo key d rows).filter (key · ≤ c) := by
  rw [upTo,upTo,List.filter_filter]
  apply List.filter_congr
  intro r _
  simp
  omega

/-- The rows up to a cursor and those behind it. -/
theorem upTo_append_after (hsorted : (rows.map key).Pairwise (· < ·)) : upTo key c rows++after key c rows = rows := by
  induction rows with
  | nil => rfl
  | cons r rows ih =>
    rw [List.map_cons,List.pairwise_cons] at hsorted
    by_cases h : key r ≤ c
    · rw [upTo,after,List.filter_cons_of_pos (by simpa using h),List.filter_cons_of_neg (by simpa using h),List.cons_append]
      exact congrArg (r::·) (ih hsorted.2)
    · have hrest : ∀ s ∈ rows, c < key s := by
        intro s hs
        have := hsorted.1 (key s) (List.mem_map_of_mem hs)
        omega
      have hnone : upTo key c (r::rows) = [] := by
        apply List.filter_eq_nil_iff.mpr
        intro s hs
        rcases List.mem_cons.mp hs with rfl | hs
        · simpa using h
        · have := hrest s hs
          simp
          omega
      have hall : after key c (r::rows) = r::rows := by
        apply List.filter_eq_self.mpr
        intro s hs
        rcases List.mem_cons.mp hs with rfl | hs
        · simp
          omega
        · simpa using hrest s hs
      rw [hnone,hall,List.nil_append]

theorem filter_after {q : α → Bool} (hq : ∀ r, q r = true → c < key r) : (after key c rows).filter q = rows.filter q := by
  rw [after,List.filter_filter]
  apply List.filter_congr
  intro r _
  cases h : q r with
  | false => rfl
  | true => simpa using hq r h

/-- A page read behind the cursor extends the rows read so far. -/
theorem upTo_page (hsorted : (rows.map key).Pairwise (· < ·)) (k : Nat) :
    upTo key (nextCursor key c ((after key c rows).take k)) rows = upTo key c rows++(after key c rows).take k := by
  have hbehind : ∀ r ∈ after key c rows, c < key r := fun r hr => (mem_after.mp hr).2
  obtain ⟨hup,-⟩ := page_upTo (k := k) (after_sorted (c := c) hsorted) hbehind
  have hle : c ≤ nextCursor key c ((after key c rows).take k) :=
    le_nextCursor fun r hr => hbehind r (List.mem_of_mem_take hr)
  generalize nextCursor key c ((after key c rows).take k) = d at hup hle
  have hold : upTo key d (upTo key c rows) = upTo key c rows := by
    apply List.filter_eq_self.mpr
    intro r hr
    have hkey : key r ≤ c := by simpa using (List.mem_filter.mp hr).2
    simp
    omega
  have hsplit : upTo key d rows = upTo key d (upTo key c rows)++upTo key d (after key c rows) := by
    conv_lhs => rw [← upTo_append_after (c := c) hsorted]
    exact List.filter_append ..
  rw [hsplit,hold,hup]

theorem after_page (hsorted : (rows.map key).Pairwise (· < ·)) (k : Nat) :
    after key (nextCursor key c ((after key c rows).take k)) rows = (after key c rows).drop k := by
  have hbehind : ∀ r ∈ after key c rows, c < key r := fun r hr => (mem_after.mp hr).2
  obtain ⟨-,hafter⟩ := page_upTo (k := k) (after_sorted (c := c) hsorted) hbehind
  have hle : c ≤ nextCursor key c ((after key c rows).take k) :=
    le_nextCursor fun r hr => hbehind r (List.mem_of_mem_take hr)
  rw [← hafter,after,after]
  exact (filter_after fun r hr => lt_of_le_of_lt hle (of_decide_eq_true hr)).symm

/-- The rows behind a later cursor. -/
theorem after_length {d : Nat} (h : c ≤ d) : (after key d rows).length ≤ (after key c rows).length := by
  rw [after,after,← List.countP_eq_length_filter,← List.countP_eq_length_filter]
  apply List.countP_mono_left
  intro r _ hr
  simp only [decide_eq_true_eq] at hr ⊢
  omega

end pages

/-! ## Merging rows -/

section merge

variable [DecidableEq κ] (key : α → κ)

/-- The row replaces the one with its key, or is added. -/
def mergeRow (rows : List α) (row : α) : List α :=
  if rows.any (key · = key row) then rows.map fun r => if key r = key row then row else r else rows++[row]

def mergeRows (rows new : List α) : List α := new.foldl (mergeRow key) rows

variable {key} {rows new : List α} {row : α}

theorem mem_mergeRow {r : α} (h : r ∈ mergeRow key rows row) : r = row ∨ r ∈ rows ∧ key r ≠ key row := by
  unfold mergeRow at h
  split at h
  · obtain ⟨s,hs,rfl⟩ := List.mem_map.mp h
    split
    · exact .inl rfl
    · next hne => exact .inr ⟨hs,hne⟩
  · next hnone =>
    rcases List.mem_append.mp h with h | h
    · refine .inr ⟨h,fun heq => hnone ?_⟩
      exact List.any_eq_true.mpr ⟨r,h,by simpa using heq⟩
    · exact .inl (List.mem_singleton.mp h)

theorem mergeRow_mem : row ∈ mergeRow key rows row := by
  unfold mergeRow
  split
  · next hany =>
    obtain ⟨r,hr,hkey⟩ := List.any_eq_true.mp hany
    exact List.mem_map.mpr ⟨r,hr,if_pos (by simpa using hkey)⟩
  · exact List.mem_append_right _ (List.mem_singleton_self row)

theorem mergeRow_keeps {r : α} (hr : r ∈ rows) (hne : key r ≠ key row) : r ∈ mergeRow key rows row := by
  unfold mergeRow
  split
  · exact List.mem_map.mpr ⟨r,hr,if_neg hne⟩
  · exact List.mem_append_left _ hr

theorem mergeRow_keys (h : (rows.map key).Nodup) : ((mergeRow key rows row).map key).Nodup := by
  unfold mergeRow
  split
  · have hkeys : (rows.map fun r => if key r = key row then row else r).map key = rows.map key := by
      rw [List.map_map]
      apply List.map_congr_left
      intro r _
      dsimp only [Function.comp]
      split
      · next heq => exact heq.symm
      · rfl
    rw [hkeys]
    exact h
  · next hnone =>
    rw [List.map_append,List.nodup_append]
    refine ⟨h,by simp,fun k hk k' hk' heq => hnone ?_⟩
    obtain ⟨r,hr,rfl⟩ := List.mem_map.mp hk
    have hk'' : k' = key row := by simpa using hk'
    exact List.any_eq_true.mpr ⟨r,hr,by simpa using heq.trans hk''⟩

theorem find?_mergeRow_self : (mergeRow key rows row).find? (key · = key row) = some row := by
  unfold mergeRow
  split
  · next hany =>
    induction rows with
    | nil => simp at hany
    | cons r rows ih =>
      rw [List.map_cons,List.find?_cons]
      by_cases hkey : key r = key row
      · simp [hkey]
      · rw [List.any_cons,Bool.or_eq_true] at hany
        simp only [if_neg hkey,decide_eq_false hkey]
        exact ih (hany.resolve_left (by simp [hkey]))
  · next hnone =>
    have hfind : rows.find? (key · = key row) = none := by
      apply List.find?_eq_none.mpr
      intro r hr hkey
      exact hnone (List.any_eq_true.mpr ⟨r,hr,hkey⟩)
    rw [List.find?_append,hfind]
    simp

theorem find?_mergeRow_ne {k : κ} (hne : k ≠ key row) :
    (mergeRow key rows row).find? (key · = k) = rows.find? (key · = k) := by
  unfold mergeRow
  split
  · next hany =>
    clear hany
    induction rows with
    | nil => rfl
    | cons r rows ih =>
      rw [List.map_cons,List.find?_cons,List.find?_cons,ih]
      by_cases hkey : key r = key row
      · have hk : key r ≠ k := fun h => hne (h.symm.trans hkey)
        simp [hkey,hne.symm]
      · rw [if_neg hkey]
  · rw [List.find?_append]
    simp [hne.symm]

theorem mergeRow_length : rows.length ≤ (mergeRow key rows row).length := by
  unfold mergeRow
  split <;> simp

theorem mergeRows_keys (h : (rows.map key).Nodup) : ((mergeRows key rows new).map key).Nodup := by
  induction new generalizing rows with
  | nil => exact h
  | cons row new ih => exact ih (mergeRow_keys h)

theorem mergeRows_length : rows.length ≤ (mergeRows key rows new).length := by
  induction new generalizing rows with
  | nil => exact le_rfl
  | cons row new ih => exact mergeRow_length.trans ih

/-- A merged row is a new one, or an old one with none of the new keys. -/
theorem mem_mergeRows {r : α} (h : r ∈ mergeRows key rows new) :
    r ∈ new ∨ r ∈ rows ∧ ∀ row ∈ new, key row ≠ key r := by
  induction new generalizing rows with
  | nil => exact .inr ⟨h,by simp⟩
  | cons row new ih =>
    rcases ih h with hnew | ⟨hold,hne⟩
    · exact .inl (List.mem_cons_of_mem _ hnew)
    · rcases mem_mergeRow hold with rfl | ⟨hmem,hkey⟩
      · exact .inl List.mem_cons_self
      · refine .inr ⟨hmem,?_⟩
        intro s hs
        rcases List.mem_cons.mp hs with rfl | hs
        · exact hkey.symm
        · exact hne s hs

/-- Every new key has a new row. -/
theorem mergeRows_mem (key : α → κ) (rows : List α) (h : row ∈ new) : ∃ r ∈ mergeRows key rows new, r ∈ new ∧ key r = key row := by
  have hkeep : ∀ (rest : List α) (table : List α) (r : α), r ∈ table → r ∈ new → (∀ s ∈ rest, s ∈ new) →
      ∃ r' ∈ mergeRows key table rest, r' ∈ new ∧ key r' = key r := by
    intro rest
    induction rest with
    | nil => exact fun table r hr hnew _ => ⟨r,hr,hnew,rfl⟩
    | cons s rest ih =>
      intro table r hr hnew hrest
      rw [List.forall_mem_cons] at hrest
      by_cases hkey : key r = key s
      · obtain ⟨r',hr',hmem,heq⟩ := ih (mergeRow key table s) s mergeRow_mem hrest.1 hrest.2
        exact ⟨r',hr',hmem,heq.trans hkey.symm⟩
      · exact ih (mergeRow key table s) r (mergeRow_keeps hr hkey) hnew hrest.2
  obtain ⟨before,rest,rfl⟩ := List.append_of_mem h
  have hsplit : mergeRows key rows (before++row::rest) =
      mergeRows key (mergeRow key (mergeRows key rows before) row) rest := by
    rw [mergeRows,List.foldl_append,List.foldl_cons]
    rfl
  rw [hsplit]
  apply hkeep rest _ row mergeRow_mem h
  intro s hs
  simp [hs]

theorem mergeRows_keeps {r : α} (hr : r ∈ rows) (hne : ∀ row ∈ new, key row ≠ key r) : r ∈ mergeRows key rows new := by
  induction new generalizing rows with
  | nil => exact hr
  | cons row new ih =>
    rw [List.forall_mem_cons] at hne
    exact ih (mergeRow_keeps hr hne.1.symm) hne.2

end merge

/-! ## Removing rows -/

theorem removed_length [DecidableEq α] {rows gone : List α} (hrows : rows.Nodup) (hgone : gone.Nodup)
    (hsub : ∀ r ∈ gone, r ∈ rows) : (rows.filter (· ∉ gone)).length+gone.length = rows.length := by
  have hperm : (rows.filter (· ∈ gone)).Perm gone := by
    apply (List.perm_ext_iff_of_nodup (hrows.filter _) hgone).mpr
    intro r
    simpa using hsub r
  have hsplit := List.length_eq_length_filter_add (l := rows) (fun r => decide (r ∈ gone))
  have hnot : (rows.filter fun r => !decide (r ∈ gone)) = rows.filter (· ∉ gone) := by
    apply List.filter_congr
    intro r _
    simp
  rw [hnot,hperm.length_eq] at hsplit
  omega

section limits

variable {r : α → α → Prop} [DecidableRel r] [IsTrans α r] {p : α → Bool}

theorem filter_orderedInsert (a : α) {rows : List α} (hsorted : rows.Pairwise r) :
    (rows.orderedInsert r a).filter p = if p a then (rows.filter p).orderedInsert r a else rows.filter p := by
  induction rows with
  | nil => cases hp : p a <;> simp [hp]
  | cons b rows ih =>
    obtain ⟨hb,hrows⟩ := List.pairwise_cons.mp hsorted
    by_cases hab : r a b
    · -- the row goes before every other one, also before those that are kept
      rw [List.orderedInsert_cons_of_le _ _ hab,List.filter_cons]
      cases hkept : (b::rows).filter p with
      | nil => simp
      | cons c kept =>
        have hc : c ∈ (b::rows).filter p := by rw [hkept]; exact List.mem_cons_self
        have hac : r a c := by
          rcases List.mem_cons.mp (List.mem_filter.mp hc).1 with rfl | hmem
          · exact hab
          · exact trans_of r hab (hb c hmem)
        rw [List.orderedInsert_cons_of_le _ _ hac]
    · rw [List.orderedInsert_of_not_le _ _ hab]
      cases hpb : p b with
      | true =>
        rw [List.filter_cons_of_pos hpb,List.filter_cons_of_pos hpb,ih hrows,List.orderedInsert_of_not_le _ _ hab]
        split <;> rfl
      | false =>
        rw [List.filter_cons_of_neg (by simp [hpb]),List.filter_cons_of_neg (by simp [hpb]),ih hrows]

/-- The rows that are kept stay in the order they were in. -/
theorem filter_insertionSort [Std.Total r] (rows : List α) :
    (rows.insertionSort r).filter p = (rows.filter p).insertionSort r := by
  induction rows with
  | nil => rfl
  | cons a rows ih =>
    rw [List.insertionSort_cons,filter_orderedInsert a (List.pairwise_insertionSort r rows),ih]
    cases hp : p a <;> simp [hp]

/-- When the first rows are all kept, they are the first of the kept ones. -/
theorem take_filter_of_all {n : Nat} {rows : List α} (h : ∀ row ∈ rows.take n, p row = true) :
    (rows.filter p).take n = rows.take n := by
  have hsplit : rows.filter p = rows.take n++(rows.drop n).filter p := by
    conv_lhs => rw [← List.take_append_drop n rows]
    rw [List.filter_append,List.filter_eq_self.mpr h]
  rw [hsplit]
  by_cases hlen : n ≤ rows.length
  · have hn : (rows.take n).length = n := List.length_take_of_le hlen
    exact List.take_left' hn
  · rw [List.drop_eq_nil_of_le (by omega),List.filter_nil,List.append_nil,List.take_take,Nat.min_self]

/-- A row is among the first `n` where fewer than `n` rows have a greater key. -/
theorem mem_take_iff_countP {key : α → Nat} {rows : List α} {n : Nat} {row : α}
    (hsorted : rows.Pairwise fun a b => key b < key a) (hrow : row ∈ rows) :
    row ∈ rows.take n ↔ rows.countP (fun r => decide (key row < key r)) < n := by
  induction rows generalizing n with
  | nil => cases hrow
  | cons a rows ih =>
    obtain ⟨ha,hrows⟩ := List.pairwise_cons.mp hsorted
    cases n with
    | zero => simp
    | succ n =>
      rw [List.take_succ_cons,List.mem_cons,List.countP_cons]
      rcases List.mem_cons.mp hrow with rfl | hmem
      · have hnone : rows.countP (fun r => decide (key row < key r)) = 0 := by
          apply List.countP_eq_zero.mpr
          intro r hr hlt
          have hgt := ha r hr
          rw [decide_eq_true_eq] at hlt
          omega
        rw [hnone]
        simp
      · have hlt := ha row hmem
        have hne : row ≠ a := by
          rintro rfl
          omega
        rw [if_pos (decide_eq_true hlt),ih hrows hmem]
        simp [hne]

end limits

/-! ## Behind a row -/

section behind

variable {lt : α → α → Bool} {rows : List α} {row : α} {n : Nat}

/-- Of rows in a strict order, those behind the last of the first `n` are the others. -/
theorem filter_behind (hsorted : rows.Pairwise fun a b => lt a b = true) (hasymm : ∀ a b, lt a b = true → lt b a = false)
    (hlast : (rows.take n).getLast? = some row) : rows.filter (lt row) = rows.drop n := by
  obtain ⟨front,hfront⟩ := List.getLast?_eq_some_iff.mp hlast
  have hrows := List.take_append_drop n rows
  rw [hfront,List.append_assoc] at hrows
  rw [← hrows,List.pairwise_append] at hsorted
  obtain ⟨_,htail,hcross⟩ := hsorted
  have hirrefl : lt row row = false := by
    by_contra h
    rw [Bool.not_eq_false] at h
    exact Bool.noConfusion ((hasymm row row h).symm.trans h)
  have hgone : front.filter (lt row) = [] := by
    apply List.filter_eq_nil_iff.mpr
    intro a ha
    rw [hasymm a row (hcross a ha row (by simp))]
    exact Bool.false_ne_true
  have hkept : (rows.drop n).filter (lt row) = rows.drop n :=
    List.filter_eq_self.mpr (List.pairwise_cons.mp htail).1
  conv_lhs => rw [← hrows]
  rw [List.filter_append,hgone,List.nil_append,List.singleton_append,List.filter_cons_of_neg (by simp [hirrefl]),hkept]

/-- A row is among the first `n` where fewer than `n` rows come before it. -/
theorem mem_take_iff_before (hsorted : rows.Pairwise fun a b => lt a b = true)
    (hasymm : ∀ a b, lt a b = true → lt b a = false) (hrow : row ∈ rows) :
    row ∈ rows.take n ↔ rows.countP (lt · row) < n := by
  have hirrefl : ∀ a, lt a a = false := by
    intro a
    by_contra h
    rw [Bool.not_eq_false] at h
    exact Bool.noConfusion ((hasymm a a h).symm.trans h)
  induction rows generalizing n with
  | nil => cases hrow
  | cons a rows ih =>
    obtain ⟨ha,hrows⟩ := List.pairwise_cons.mp hsorted
    cases n with
    | zero => simp
    | succ n =>
      rw [List.take_succ_cons,List.mem_cons,List.countP_cons]
      rcases List.mem_cons.mp hrow with rfl | hmem
      · have hnone : rows.countP (lt · row) = 0 := by
          apply List.countP_eq_zero.mpr
          intro r hr
          rw [hasymm row r (ha r hr)]
          exact Bool.false_ne_true
        simp [hnone,hirrefl]
      · have hne : row ≠ a := by
          rintro rfl
          exact Bool.noConfusion ((hirrefl row).symm.trans (ha row hmem))
        have hrest : row ∈ rows.take n ↔ rows.countP (lt · row) < n := ih hrows hmem
        simp [ha row hmem,hrest,hne]

end behind

end ParaWorks.Lib
