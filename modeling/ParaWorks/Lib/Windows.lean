import Mathlib.Data.List.Infix
import Mathlib.Data.List.Nodup

/-!
# Windows at the end of a list

The first occurrences of the items of a list, its last items, and its longest suffix that fits.
-/

namespace ParaWorks.Lib

variable {α : Type}

/-- The last `n` items. -/
def lastN (n : Nat) (xs : List α) : List α := xs.drop (xs.length-n)

theorem lastN_suffix (n : Nat) (xs : List α) : lastN n xs <:+ xs := List.drop_suffix _ _

theorem length_lastN (n : Nat) (xs : List α) : (lastN n xs).length = min n xs.length := by
  rw [lastN,List.length_drop]
  omega

/-- A suffix is shorter than another exactly when it is a suffix of it. -/
theorem suffix_iff_length_le {xs ys zs : List α} (hy : ys <:+ xs) (hz : zs <:+ xs) : ys <:+ zs ↔ ys.length ≤ zs.length :=
  ⟨fun h => h.length_le,List.suffix_of_suffix_length_le hy hz⟩

/-! ## First occurrences -/

section distinct

variable [DecidableEq α]

/-- The items that have not been seen, each once. -/
def distinctFrom : List α → List α → List α
  | [], _ => []
  | x::xs, seen => if x ∈ seen then distinctFrom xs seen else x::distinctFrom xs (x::seen)

/-- The first occurrence of each item. -/
def distinct (xs : List α) : List α := distinctFrom xs []

theorem mem_distinctFrom {xs seen : List α} {x : α} : x ∈ distinctFrom xs seen ↔ x ∈ xs ∧ x ∉ seen := by
  induction xs generalizing seen with
  | nil => simp [distinctFrom]
  | cons y xs ih =>
    unfold distinctFrom
    split_ifs with hy
    · rw [ih,List.mem_cons]
      constructor
      · exact fun h => ⟨Or.inr h.1,h.2⟩
      · rintro ⟨rfl | h,hseen⟩
        · exact absurd hy hseen
        · exact ⟨h,hseen⟩
    · rw [List.mem_cons,ih,List.mem_cons,List.mem_cons]
      by_cases hxy : x = y
      · subst hxy
        simp [hy]
      · simp [hxy]

theorem mem_distinct {xs : List α} {x : α} : x ∈ distinct xs ↔ x ∈ xs := by
  simp [distinct,mem_distinctFrom]

theorem distinctFrom_sublist (xs seen : List α) : (distinctFrom xs seen).Sublist xs := by
  induction xs generalizing seen with
  | nil => exact .slnil
  | cons x xs ih =>
    unfold distinctFrom
    split_ifs
    · exact (ih seen).cons x
    · exact (ih (x::seen)).cons_cons x

theorem distinctFrom_nodup (xs seen : List α) : (distinctFrom xs seen).Nodup := by
  induction xs generalizing seen with
  | nil => exact List.nodup_nil
  | cons x xs ih =>
    unfold distinctFrom
    split_ifs
    · exact ih seen
    · rw [List.nodup_cons,mem_distinctFrom]
      exact ⟨fun h => h.2 List.mem_cons_self,ih _⟩

theorem distinct_nodup (xs : List α) : (distinct xs).Nodup := distinctFrom_nodup xs []

/-- The list from an item on. -/
def since (x : α) (xs : List α) : List α := xs.dropWhile (· ≠ x)

theorem since_suffix (x : α) (xs : List α) : since x xs <:+ xs := List.dropWhile_suffix _

theorem since_eq_cons {x : α} {xs : List α} (h : x ∈ xs) : ∃ rest, since x xs = x::rest := by
  induction xs with
  | nil => cases h
  | cons y xs ih =>
    by_cases hy : y = x
    · subst hy
      exact ⟨xs,List.dropWhile_cons_of_neg (by simp)⟩
    · rw [since,List.dropWhile_cons_of_pos (by simpa using hy)]
      exact ih ((List.mem_cons.mp h).resolve_left (Ne.symm hy))

/-- An item is in a suffix when the list from it on is a suffix of that. -/
theorem mem_suffix_iff {x : α} {xs ys : List α} (hn : xs.Nodup) (hx : x ∈ xs) (h : ys <:+ xs) :
    x ∈ ys ↔ (since x xs).length ≤ ys.length := by
  rw [← suffix_iff_length_le (since_suffix x xs) h]
  constructor
  · intro hmem
    obtain ⟨front,rfl⟩ := h
    have hfront : x ∉ front := fun hf => (List.nodup_append.mp hn).2.2 x hf x hmem rfl
    rw [since,List.dropWhile_append_of_pos]
    · exact List.dropWhile_suffix _
    · intro y hy
      simpa using fun he : y = x => hfront (he ▸ hy)
  · intro hs
    obtain ⟨rest,hrest⟩ := since_eq_cons hx
    rw [hrest] at hs
    exact hs.subset List.mem_cons_self

end distinct

/-! ## The longest suffix that fits -/

/-- Items are dropped from the front until the rest fits. -/
def longestFitting (fits : List α → Bool) : List α → Option (List α)
  | [] => if fits [] then some [] else none
  | x::xs => if fits (x::xs) then some (x::xs) else longestFitting fits xs

variable {fits : List α → Bool} {xs ys zs : List α}

theorem longestFitting_some (h : longestFitting fits xs = some ys) : ys <:+ xs ∧ fits ys = true := by
  induction xs with
  | nil =>
    unfold longestFitting at h
    split_ifs at h with hf
    obtain rfl := Option.some.inj h
    exact ⟨List.suffix_rfl,hf⟩
  | cons x xs ih =>
    unfold longestFitting at h
    split_ifs at h with hf
    · obtain rfl := Option.some.inj h
      exact ⟨List.suffix_rfl,hf⟩
    · exact ⟨(ih h).1.trans (List.suffix_cons x xs),(ih h).2⟩

/-- Nothing longer fits. -/
theorem length_le_longestFitting (h : longestFitting fits xs = some ys) (hz : zs <:+ xs) (hfits : fits zs = true) :
    zs.length ≤ ys.length := by
  induction xs with
  | nil =>
    rw [List.suffix_nil.mp hz]
    exact Nat.zero_le _
  | cons x xs ih =>
    unfold longestFitting at h
    split_ifs at h with hf
    · obtain rfl := Option.some.inj h
      exact hz.length_le
    · rcases List.suffix_cons_iff.mp hz with rfl | hz
      · exact absurd hfits hf
      · exact ih h hz

end ParaWorks.Lib
