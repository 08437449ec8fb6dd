import Mathlib.Algebra.Order.Field.Rat
import Mathlib.Algebra.Order.Floor.Semifield
import Mathlib.Data.Rat.Floor
import Mathlib.Data.List.Sort
import Mathlib.Data.List.Range
import Mathlib.Tactic.Linarith

/-!
# Largest remainders

Shares that are rounded down leave a rest, which goes to the shares with the largest fractions, one unit each.
-/

namespace ParaWorks.Lib

variable {τ : Type} [LinearOrder τ] (fraction : Nat → ℚ) (tie : Nat → τ) (n : Nat)

/-- The larger fraction first, then the smaller tie-breaker, then the earlier place. -/
def remainderOrder : List Nat :=
  (List.range n).insertionSort fun i j => fraction j < fraction i ∨ fraction i = fraction j ∧ tie i ≤ tie j

/-- The places that are rounded up, by their fractions and tie-breakers alone. -/
def roundedUp : List Nat := (remainderOrder fraction tie n).take ⌈((List.range n).map fraction).sum⌉₊

section order

variable {fraction} {tie} {n}

theorem remainderOrder_perm : (remainderOrder fraction tie n).Perm (List.range n) := List.perm_insertionSort _ _

theorem remainderOrder_nodup : (remainderOrder fraction tie n).Nodup :=
  remainderOrder_perm.nodup_iff.mpr List.nodup_range

theorem remainderOrder_pairwise :
    (remainderOrder fraction tie n).Pairwise fun i j => fraction j ≤ fraction i := by
  have total : Std.Total fun i j => fraction j < fraction i ∨ fraction i = fraction j ∧ tie i ≤ tie j := by
    constructor
    intro i j
    rcases lt_trichotomy (fraction i) (fraction j) with h | h | h
    · exact .inr (.inl h)
    · rcases le_total (tie i) (tie j) with ht | ht
      · exact .inl (.inr ⟨h,ht⟩)
      · exact .inr (.inr ⟨h.symm,ht⟩)
    · exact .inl (.inl h)
  have trans : IsTrans Nat fun i j => fraction j < fraction i ∨ fraction i = fraction j ∧ tie i ≤ tie j := by
    constructor
    rintro i j k (hij | ⟨hij,tij⟩) (hjk | ⟨hjk,tjk⟩)
    · exact .inl (hjk.trans hij)
    · exact .inl (hjk ▸ hij)
    · exact .inl (hij ▸ hjk)
    · exact .inr ⟨hij.trans hjk,tij.trans tjk⟩
  exact (List.pairwise_insertionSort _ _).imp fun h => h.elim le_of_lt fun h => h.1.ge

theorem sum_fractions : ((List.range n).map fraction).sum = ((remainderOrder fraction tie n).map fraction).sum :=
  (remainderOrder_perm.map fraction).sum_eq.symm

theorem sum_le_length {places : List Nat} (h : ∀ i, fraction i ≤ 1) : (places.map fraction).sum ≤ places.length := by
  induction places with
  | nil => simp
  | cons i places ih =>
    rw [List.map_cons,List.sum_cons,List.length_cons,Nat.cast_add,Nat.cast_one]
    linarith [h i]

/-- Nothing is rounded up that needs no rounding. -/
theorem fraction_pos_of_mem (h0 : ∀ i, 0 ≤ fraction i) (h1 : ∀ i, fraction i ≤ 1) {i : Nat}
    (hi : i ∈ roundedUp fraction tie n) : 0 < fraction i := by
  by_contra hpos
  have hzero : fraction i = 0 := le_antisymm (not_lt.mp hpos) (h0 i)
  generalize hcount : ⌈((List.range n).map fraction).sum⌉₊ = count at *
  have hmem : i ∈ (remainderOrder fraction tie n).take count := by rwa [roundedUp,hcount] at hi
  obtain ⟨front,back,hsplit⟩ := List.append_of_mem hmem
  have hfront : front.length < count := by
    have hlen := congrArg List.length hsplit
    rw [List.length_take,List.length_append,List.length_cons] at hlen
    omega
  have horder : remainderOrder fraction tie n = front++i::(back++(remainderOrder fraction tie n).drop count) := by
    rw [← List.cons_append,← List.append_assoc,← hsplit,List.take_append_drop]
  generalize back++(remainderOrder fraction tie n).drop count = rest at horder
  have hrest : ∀ j ∈ rest, fraction j = 0 := by
    intro j hj
    have hpair := (List.pairwise_append.mp (horder ▸ remainderOrder_pairwise)).2.1
    have hle := (List.pairwise_cons.mp hpair).1 j hj
    exact le_antisymm (hle.trans hzero.le) (h0 j)
  have hnone : (rest.map fraction).sum = 0 := List.sum_eq_zero (List.forall_mem_map.mpr hrest)
  have hsum : ((List.range n).map fraction).sum = (front.map fraction).sum := by
    rw [@sum_fractions τ _ fraction tie n,horder,List.map_append,List.sum_append,List.map_cons,List.sum_cons,hzero,hnone]
    simp
  have hle : count ≤ front.length := by
    rw [← hcount,Nat.ceil_le,hsum]
    exact sum_le_length h1
  omega

theorem length_roundedUp (h : ∀ i, fraction i ≤ 1) :
    (roundedUp fraction tie n).length = ⌈((List.range n).map fraction).sum⌉₊ := by
  have hle : ⌈((List.range n).map fraction).sum⌉₊ ≤ n := by
    rw [Nat.ceil_le]
    simpa using @sum_le_length fraction (List.range n) h
  rw [roundedUp,List.length_take,remainderOrder_perm.length_eq,List.length_range]
  exact min_eq_left hle

theorem sum_indicator {places : List Nat} (hnodup : places.Nodup) (hlt : ∀ i ∈ places, i < n) :
    ((List.range n).map fun i => if i ∈ places then 1 else 0).sum = places.length := by
  have hcount : ∀ l : List Nat, (l.map fun i => if i ∈ places then 1 else 0).sum = (l.filter (· ∈ places)).length := by
    intro l
    induction l with
    | nil => rfl
    | cons i l ih =>
      rw [List.map_cons,List.sum_cons,ih,List.filter_cons]
      by_cases hi : i ∈ places
      · simp [hi,Nat.add_comm]
      · simp [hi]
  have hperm : ((List.range n).filter (· ∈ places)).Perm places := by
    rw [List.perm_ext_iff_of_nodup (List.nodup_range.filter _) hnodup]
    intro i
    rw [List.mem_filter,List.mem_range,decide_eq_true_eq]
    exact and_iff_right_of_imp (hlt i)
  rw [hcount,hperm.length_eq]

/-- The shares with what they are rounded up by sum up to the rounded sum. -/
theorem sum_roundedUp (h : ∀ i, fraction i ≤ 1) (base : Nat → Nat) :
    ((List.range n).map fun i => base i+if i ∈ roundedUp fraction tie n then 1 else 0).sum =
      ((List.range n).map base).sum+⌈((List.range n).map fraction).sum⌉₊ := by
  have hlt : ∀ i ∈ roundedUp fraction tie n, i < n := fun i hi =>
    List.mem_range.mp (remainderOrder_perm.mem_iff.mp (List.mem_of_mem_take hi))
  have hnodup : (roundedUp fraction tie n).Nodup := remainderOrder_nodup.sublist (List.take_sublist _ _)
  rw [List.sum_map_add,sum_indicator hnodup hlt,length_roundedUp h]

end order

end ParaWorks.Lib
