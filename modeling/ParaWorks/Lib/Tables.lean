import Mathlib

/-!
# Tables as lists

A table is a list of rows, newest first. Rows are found, counted and updated by an identity that the
table does not repeat.
-/

namespace ParaWorks.Lib

variable {α β : Type}

theorem find?_spec {p : α → Bool} {xs : List α} {a : α} (h : xs.find? p = some a) : a ∈ xs ∧ p a :=
  ⟨List.mem_of_find?_eq_some h,List.find?_some h⟩

theorem find?_of_nodup [DecidableEq β] {g : α → β} {xs : List α} (hn : (xs.map g).Nodup) {a : α} (ha : a ∈ xs) :
    xs.find? (fun x => g x = g a) = some a := by
  induction xs with
  | nil => cases ha
  | cons x xs ih =>
    rw [List.map_cons,List.nodup_cons] at hn
    rw [List.find?_cons]
    rcases List.mem_cons.mp ha with rfl | ha
    · simp
    · have hx : g x ≠ g a := fun h => hn.1 (List.mem_map.mpr ⟨a,ha,h.symm⟩)
      simp [hx,ih hn.2 ha]

/-- No row with the identity is found exactly when no row has it. -/
theorem find?_none_iff [DecidableEq β] {g : α → β} {xs : List α} {k : β} :
    xs.find? (fun x => g x = k) = none ↔ ∀ x ∈ xs, g x ≠ k := by
  simp

/-- A table that is built from its keys. -/
theorem find?_filterMap_key [DecidableEq β] {f : β → Option (β × α)} (hkey : ∀ k e, f k = some e → e.1 = k)
    {keys : List β} {k : β} : (keys.filterMap f).find? (·.1 = k) = if k ∈ keys then f k else none := by
  induction keys with
  | nil => rfl
  | cons c keys ih =>
    rw [List.filterMap_cons]
    cases hf : f c with
    | none =>
      dsimp only
      rw [ih]
      by_cases hk : k = c
      · simp [hk,hf]
      · simp [hk]
    | some e =>
      dsimp only
      have he := hkey c e hf
      rw [List.find?_cons,ih]
      by_cases hk : k = c
      · simp [hk,hf,he]
      · have hne : e.1 ≠ k := fun h => hk (h.symm.trans he)
        simp [hk,hne]

/-- With distinct identities, the row found under one is the row that has it. -/
theorem find?_eq_some_iff [DecidableEq β] {g : α → β} {xs : List α} (hn : (xs.map g).Nodup) {k : β} {a : α} :
    xs.find? (g · = k) = some a ↔ a ∈ xs ∧ g a = k := by
  constructor
  · intro h
    obtain ⟨hmem,hkey⟩ := find?_spec h
    exact ⟨hmem,of_decide_eq_true hkey⟩
  · rintro ⟨hmem,rfl⟩
    exact find?_of_nodup hn hmem

/-- The rows after a change of the rows with one identity. -/
theorem mem_map_update [DecidableEq β] {g : α → β} {xs : List α} {k : β} {f : α → α} {b : α} :
    b ∈ xs.map (fun x => if g x = k then f x else x) ↔
      (∃ x ∈ xs, g x = k ∧ f x = b) ∨ b ∈ xs ∧ g b ≠ k := by
  rw [List.mem_map]
  constructor
  · rintro ⟨x,hx,hb⟩
    split at hb
    · next hk => exact .inl ⟨x,hx,hk,hb⟩
    · next hk => exact .inr (hb ▸ ⟨hx,hk⟩)
  · rintro (⟨x,hx,hk,hb⟩ | ⟨hb,hk⟩)
    · exact ⟨x,hx,by rw [if_pos hk,hb]⟩
    · exact ⟨b,hb,if_neg hk⟩

/-- The row that is found under the identity that a change is of. -/
theorem find?_map_update [DecidableEq β] {g : α → β} {xs : List α} {k : β} {f : α → α} (hf : ∀ x, g x = k → g (f x) = k) :
    (xs.map fun x => if g x = k then f x else x).find? (g · = k) = (xs.find? (g · = k)).map f := by
  induction xs with
  | nil => rfl
  | cons x xs ih =>
    rw [List.map_cons,List.find?_cons,List.find?_cons]
    by_cases hx : g x = k
    · simp [hx,hf x hx]
    · simp only [hx,if_false,decide_false]
      exact ih

theorem map_map_update {γ : Type} [DecidableEq β] {g : α → β} {xs : List α} {k : β} {f : α → α} {i : α → γ}
    (hf : ∀ x, i (f x) = i x) : (xs.map fun x => if g x = k then f x else x).map i = xs.map i := by
  rw [List.map_map]
  refine List.map_congr_left fun x _ => ?_
  dsimp only [Function.comp]
  split
  · exact hf x
  · rfl

theorem countP_update [DecidableEq β] {g : α → β} {xs : List α} (hn : (xs.map g).Nodup) {a : α} (ha : a ∈ xs)
    (f : α → α) (p : α → Bool) :
    (xs.map fun x => if g x = g a then f x else x).countP p+(if p a then 1 else 0) =
      xs.countP p+if p (f a) then 1 else 0 := by
  induction xs with
  | nil => cases ha
  | cons x xs ih =>
    rw [List.map_cons,List.nodup_cons] at hn
    rw [List.map_cons,List.countP_cons,List.countP_cons]
    rcases List.mem_cons.mp ha with rfl | ha
    · have hrest : xs.map (fun x => if g x = g a then f x else x) = xs := by
        refine (List.map_congr_left fun x hx => ?_).trans (List.map_id xs)
        exact if_neg fun h => hn.1 (List.mem_map.mpr ⟨x,hx,h⟩)
      rw [hrest,if_pos rfl]
      omega
    · have hx : g x ≠ g a := fun h => hn.1 (List.mem_map.mpr ⟨a,ha,h.symm⟩)
      have hih := ih hn.2 ha
      rw [if_neg hx]
      omega

/-- A property that is one of two that exclude each other. -/
theorem countP_add {p q r : α → Bool} {xs : List α} (hor : ∀ x ∈ xs, p x = (q x || r x))
    (hnot : ∀ x ∈ xs, (q x && r x) = false) : xs.countP p = xs.countP q+xs.countP r := by
  induction xs with
  | nil => rfl
  | cons x xs ih =>
    have hih := ih (fun y hy => hor y (List.mem_cons_of_mem _ hy)) fun y hy => hnot y (List.mem_cons_of_mem _ hy)
    have hx := hor x List.mem_cons_self
    have hx' := hnot x List.mem_cons_self
    rw [List.countP_cons,List.countP_cons,List.countP_cons,hih,hx]
    cases hq : q x <;> cases hr : r x <;> simp_all <;> omega

/-- A new identity is greater than all that are there. -/
theorem le_foldr_max {ids : List Nat} {i : Nat} (h : i ∈ ids) : i ≤ ids.foldr max 0 := by
  induction ids with
  | nil => cases h
  | cons j ids ih =>
    rw [List.foldr_cons]
    rcases List.mem_cons.mp h with rfl | h
    · exact le_max_left _ _
    · exact (ih h).trans (le_max_right _ _)

/-- `ORDER BY key`. -/
def orderBy (key : α → Nat) (rows : List α) : List α := rows.mergeSort fun a b => key a ≤ key b

@[simp] theorem mem_orderBy {key : α → Nat} {rows : List α} {a : α} : a ∈ orderBy key rows ↔ a ∈ rows :=
  List.mem_mergeSort

@[simp] theorem orderBy_eq_nil {key : α → Nat} {rows : List α} : orderBy key rows = [] ↔ rows = [] := by
  rw [← List.length_eq_zero_iff, orderBy, List.length_mergeSort, List.length_eq_zero_iff]

theorem orderBy_of_sorted {key : α → Nat} {rows : List α} (h : rows.Pairwise fun a b => key a ≤ key b) :
    orderBy key rows = rows := by
  apply List.mergeSort_of_pairwise
  simpa using h

end ParaWorks.Lib
