import ParaWorks.AutoReview.Contracts
import ParaWorks.Lib.Decimals
import ParaWorks.Lib.LargestRemainder

/-!
# The cost of a batch in decimal arithmetic

The costs of a batch and of its candidates at any prices, in the default context of 28 digits. Where the total has no more
digits than that, the candidates share it exactly.
-/

namespace ParaWorks.AutoReview

open Lib

inductive CostFailure
  | validationUsage
  | validationAllocation
  | validationCostAllocation
  | invalidOperation
  | valueError
  | indexError
  deriving DecidableEq

/-- `Decimal('0.000001')`. -/
def microUsd : Amount := ⟨1,-6⟩

/-- `Decimal(input_tokens) * input_price + Decimal(output_tokens) * output_price`: micro-dollars. -/
def rawShare (inputPrice outputPrice : Amount) (inputTokens outputTokens : Nat) : Amount :=
  Amount.add 28 (Amount.mul 28 (Amount.ofNat inputTokens) inputPrice) (Amount.mul 28 (Amount.ofNat outputTokens) outputPrice)

/-- `_token_cost` -/
def decimalTokenCost (inputTokens outputTokens : Int) (inputPrice outputPrice : Amount) : Except CostFailure Amount :=
  if inputTokens < 0 ∨ outputTokens < 0 then .error .validationUsage
  else
    let raw := rawShare inputPrice outputPrice inputTokens.toNat outputTokens.toNat
    match Amount.quantizeCeiling 28 (-6) (Amount.div 28 raw (Amount.ofNat 1000000)) with
    | some cost => .ok cost
    | none => .error .invalidOperation

/-- `_allocate_integer_tokens` -/
def integerShares (total : Int) (count : Nat) : Except CostFailure (List Nat) :=
  if total < 0 ∨ count = 0 then .error .validationAllocation
  else .ok (allocateIntegerTokens total.toNat count)

/-- `floors[index] += 1` for each place. -/
def raiseEach (floors places : List Nat) : List Nat := places.foldl (fun floors index => floors.modify index (·+1)) floors

/-- `_allocate_micro_usd` -/
def decimalShares (inputs outputs : List Nat) (inputPrice outputPrice totalCost : Amount) (tieBreakers : List Text) :
    Except CostFailure (List Amount) :=
  if inputs.length ≠ outputs.length then .error .valueError
  else
    let raw := List.zipWith (rawShare inputPrice outputPrice) inputs outputs
    let floors := raw.map Amount.floor
    let totalMicro := (Amount.div 28 totalCost microUsd).floor
    if totalMicro < floors.sum then .error .validationCostAllocation
    else if tieBreakers.length < raw.length then .error .indexError
    else
      let fraction := fun index => (Amount.sub 28 (raw.getD index ⟨0,0⟩) (Amount.ofNat (floors.getD index 0))).value
      let order := remainderOrder fraction (tieBreakers.getD · []) raw.length
      .ok ((raiseEach floors (order.take (totalMicro-floors.sum))).map fun v => Amount.mul 28 (Amount.ofNat v) microUsd)

/-! ## Exact sums -/

/-- The exact cost in micro-dollars. -/
def exactShare (inputPrice outputPrice : Amount) (inputTokens outputTokens : Nat) : ℚ :=
  inputTokens*inputPrice.value+outputTokens*outputPrice.value

/-- The last decimal place of the prices, or the unit. -/
def lastPlace (inputPrice outputPrice : Amount) : Int := min 0 (min inputPrice.exponent outputPrice.exponent)

/-- The total cost has at most 28 digits down to the last place of the prices. -/
def TotalFits (inputPrice outputPrice : Amount) (inputTokens outputTokens : Nat) : Prop :=
  exactShare inputPrice outputPrice inputTokens outputTokens < 10^28*10^lastPlace inputPrice outputPrice

section exact

variable {inputPrice outputPrice : Amount} {inputTokens outputTokens i o : Nat}

theorem exactShare_nonneg : 0 ≤ exactShare inputPrice outputPrice i o :=
  add_nonneg (mul_nonneg (Nat.cast_nonneg _) (Amount.value_nonneg _))
    (mul_nonneg (Nat.cast_nonneg _) (Amount.value_nonneg _))

theorem exactShare_mono (hi : i ≤ inputTokens) (ho : o ≤ outputTokens) :
    exactShare inputPrice outputPrice i o ≤ exactShare inputPrice outputPrice inputTokens outputTokens := by
  have hi' : (i : ℚ) ≤ inputTokens := by exact_mod_cast hi
  have ho' : (o : ℚ) ≤ outputTokens := by exact_mod_cast ho
  exact add_le_add (mul_le_mul_of_nonneg_right hi' (Amount.value_nonneg _))
    (mul_le_mul_of_nonneg_right ho' (Amount.value_nonneg _))

theorem TotalFits.mono (h : TotalFits inputPrice outputPrice inputTokens outputTokens) (hi : i ≤ inputTokens)
    (ho : o ≤ outputTokens) : TotalFits inputPrice outputPrice i o := (exactShare_mono hi ho).trans_lt h

/-- What is below the total in value has a coefficient of at most 28 digits at every place of the sum. -/
theorem coefficient_lt {a : Amount} {exponent : Int} (hexponent : exponent ≤ a.exponent)
    (hplace : lastPlace inputPrice outputPrice ≤ exponent)
    (h : a.value < 10^28*10^lastPlace inputPrice outputPrice) : Amount.coefficientAt exponent a < 10^28 := by
  rw [Amount.coefficientAt_lt hexponent,Nat.cast_pow,Nat.cast_ofNat]
  refine h.trans_le (mul_le_mul_of_nonneg_left ?_ (by positivity))
  exact zpow_le_zpow_right₀ (by norm_num) hplace

theorem below_place {x : ℚ} {exponent : Int} (h : x < 10^28*10^lastPlace inputPrice outputPrice)
    (hplace : lastPlace inputPrice outputPrice ≤ exponent) : x < 10^28*10^exponent :=
  h.trans_le (mul_le_mul_of_nonneg_left (zpow_le_zpow_right₀ (by norm_num) hplace) (by positivity))

/-- The product of tokens and a price is not rounded. -/
theorem mul_tokens {price : Amount} {tokens : Nat} (hplace : lastPlace inputPrice outputPrice ≤ price.exponent)
    (h : tokens*price.value < 10^28*10^lastPlace inputPrice outputPrice) :
    (Amount.mul 28 (Amount.ofNat tokens) price).value = tokens*price.value ∧
      (Amount.mul 28 (Amount.ofNat tokens) price).exponent = price.exponent := by
  have htokens : (Amount.ofNat tokens).value = tokens := by simp [Amount.ofNat,Amount.value]
  have hexponent : (Amount.ofNat tokens).exponent+price.exponent = price.exponent := Int.zero_add _
  have hexact := @Amount.mul_exact 28 (Amount.ofNat tokens) price
  rw [htokens,hexponent] at hexact
  exact hexact (below_place h hplace)

/-- Neither the products nor their sum are rounded. -/
theorem rawShare_exact (h : TotalFits inputPrice outputPrice i o) :
    (rawShare inputPrice outputPrice i o).value = exactShare inputPrice outputPrice i o ∧
      lastPlace inputPrice outputPrice ≤ (rawShare inputPrice outputPrice i o).exponent := by
  have hin : lastPlace inputPrice outputPrice ≤ inputPrice.exponent := (min_le_right _ _).trans (min_le_left _ _)
  have hout : lastPlace inputPrice outputPrice ≤ outputPrice.exponent := (min_le_right _ _).trans (min_le_right _ _)
  have hi0 : (0 : ℚ) ≤ i*inputPrice.value := mul_nonneg (Nat.cast_nonneg _) (Amount.value_nonneg _)
  have ho0 : (0 : ℚ) ≤ o*outputPrice.value := mul_nonneg (Nat.cast_nonneg _) (Amount.value_nonneg _)
  have hsum : (i : ℚ)*inputPrice.value+o*outputPrice.value < 10^28*10^lastPlace inputPrice outputPrice := h
  obtain ⟨hiv,hie⟩ := mul_tokens hin (by linarith : (i : ℚ)*inputPrice.value < _)
  obtain ⟨hov,hoe⟩ := mul_tokens hout (by linarith : (o : ℚ)*outputPrice.value < _)
  have hexact := @Amount.add_exact 28 (Amount.mul 28 (Amount.ofNat i) inputPrice)
    (Amount.mul 28 (Amount.ofNat o) outputPrice)
  rw [hiv,hov,hie,hoe] at hexact
  obtain ⟨hvalue,hexponent⟩ := hexact (below_place hsum (le_min hin hout))
  exact ⟨hvalue,hexponent ▸ le_min hin hout⟩

theorem rawShare_floor (h : TotalFits inputPrice outputPrice i o) :
    (rawShare inputPrice outputPrice i o).floor = ⌊exactShare inputPrice outputPrice i o⌋₊ := by
  rw [Amount.floor_eq,(rawShare_exact h).1]

/-- What is left of a share after rounding it down. -/
theorem rawShare_fraction (h : TotalFits inputPrice outputPrice i o) :
    (Amount.sub 28 (rawShare inputPrice outputPrice i o)
      (Amount.ofNat ⌊exactShare inputPrice outputPrice i o⌋₊)).value = Int.fract (exactShare inputPrice outputPrice i o) := by
  obtain ⟨hvalue,hplace⟩ := rawShare_exact h
  have hfloor : (Amount.ofNat ⌊exactShare inputPrice outputPrice i o⌋₊).value = ⌊exactShare inputPrice outputPrice i o⌋₊ := by
    simp [Amount.ofNat,Amount.value]
  have hle : (Amount.ofNat ⌊exactShare inputPrice outputPrice i o⌋₊).value ≤ (rawShare inputPrice outputPrice i o).value := by
    rw [hfloor,hvalue]
    exact Nat.floor_le exactShare_nonneg
  have hlt : Amount.coefficientAt (min (rawShare inputPrice outputPrice i o).exponent
      (Amount.ofNat ⌊exactShare inputPrice outputPrice i o⌋₊).exponent) (rawShare inputPrice outputPrice i o) < 10^28 :=
    coefficient_lt (min_le_left _ _) (le_min hplace (min_le_left _ _)) (hvalue ▸ h)
  rw [Amount.value_sub hle hlt,hfloor,hvalue,Int.fract,natCast_floor_eq_intCast_floor exactShare_nonneg]

/-- The cost of the batch is its exact cost, rounded up to a micro-dollar. -/
theorem decimalTokenCost_eq (h : TotalFits inputPrice outputPrice inputTokens outputTokens) :
    decimalTokenCost inputTokens outputTokens inputPrice outputPrice =
        .ok ⟨⌈exactShare inputPrice outputPrice inputTokens outputTokens⌉₊,-6⟩ ∧
      ⌈exactShare inputPrice outputPrice inputTokens outputTokens⌉₊ < 10^28 := by
  obtain ⟨hvalue,hplace⟩ := rawShare_exact h
  have hceil : ⌈exactShare inputPrice outputPrice inputTokens outputTokens⌉₊ < 10^28 := by
    have hlt := coefficient_lt hplace le_rfl (hvalue ▸ h)
    refine lt_of_le_of_lt ?_ hlt
    have hone : (10 : ℚ)^lastPlace inputPrice outputPrice ≤ 1 := zpow_le_one_of_nonpos₀ (by norm_num) (min_le_left _ _)
    rw [Nat.ceil_le,← hvalue,← Amount.value_coefficientAt hplace]
    exact mul_le_of_le_one_right (Nat.cast_nonneg _) hone
  have hcoefficient : (rawShare inputPrice outputPrice inputTokens outputTokens).coefficient < 10^28 := by
    have hlt := coefficient_lt le_rfl hplace (hvalue ▸ h)
    rwa [Amount.coefficientAt,Int.sub_self,Int.toNat_zero,Nat.pow_zero,Nat.mul_one] at hlt
  have hdiv : (Amount.div 28 (rawShare inputPrice outputPrice inputTokens outputTokens) (Amount.ofNat 1000000)).value =
      exactShare inputPrice outputPrice inputTokens outputTokens/1000000 := by
    have hmillion : (⟨10^6,0⟩ : Amount).value = 1000000 := by
      rw [Amount.value]
      norm_num
    have hquotient := @Amount.value_div 28 6 0 _ hcoefficient
    rw [hmillion,hvalue] at hquotient
    exact hquotient
  have hmicro : exactShare inputPrice outputPrice inputTokens outputTokens/1000000/10^(-6 : ℤ) =
      exactShare inputPrice outputPrice inputTokens outputTokens := by
    norm_num
    ring
  refine ⟨?_,hceil⟩
  unfold decimalTokenCost
  rw [if_neg (by omega)]
  dsimp only
  rw [Int.toNat_natCast,Int.toNat_natCast,Amount.quantizeCeiling_eq,hdiv,hmicro,if_pos hceil]

end exact

/-! ## Shares -/

/-- Shares of a total that differ by at most one. -/
def FairShares (shares : List Nat) (total count : Nat) : Prop :=
  shares.length = count ∧ shares.sum = total ∧ ∀ a ∈ shares, ∀ b ∈ shares, a ≤ b+1

theorem integerShares_fair (total : Nat) {count : Nat} (h : 0 < count) :
    integerShares total count = .ok (allocateIntegerTokens total count) ∧
      FairShares (allocateIntegerTokens total count) total count := by
  constructor
  · unfold integerShares
    rw [if_neg (by omega),Int.toNat_natCast]
  · refine ⟨allocateIntegerTokens_length _ _,allocateIntegerTokens_sum _ h,?_⟩
    have hshare : ∀ a ∈ allocateIntegerTokens total count, total/count ≤ a ∧ a ≤ total/count+1 := by
      intro a ha
      obtain ⟨index,_,rfl⟩ := List.mem_map.mp ha
      split <;> omega
    intro a ha b hb
    have := hshare a ha
    have := hshare b hb
    omega

theorem raiseEach_range (n : Nat) (base : Nat → Nat) {places : List Nat} (h : places.Nodup) :
    raiseEach ((List.range n).map base) places = (List.range n).map fun i => base i+if i ∈ places then 1 else 0 := by
  induction places generalizing base with
  | nil => simp [raiseEach]
  | cons place places ih =>
    rw [List.nodup_cons] at h
    have hmodify : ((List.range n).map base).modify place (·+1) =
        (List.range n).map fun i => base i+if i = place then 1 else 0 := by
      apply List.ext_getElem
      · simp
      · intro i _ _
        simp only [List.getElem_modify,List.getElem_map,List.getElem_range]
        by_cases hi : place = i
        · simp [hi]
        · simp [hi,Ne.symm hi]
    change raiseEach (((List.range n).map base).modify place (·+1)) places = _
    rw [hmodify,ih _ h.2]
    apply List.map_congr_left
    intro i _
    by_cases hi : i = place
    · subst hi
      simp [h.1]
    · simp [hi]

theorem sum_getD (xs : List Nat) : ((List.range xs.length).map fun i => xs.getD i 0).sum = xs.sum := by
  congr 1
  apply List.ext_getElem
  · simp
  · intro i h1 h2
    simp [h2]

theorem getD_le_sum (xs : List Nat) (i : Nat) : xs.getD i 0 ≤ xs.sum := by
  by_cases hi : i < xs.length
  · rw [List.getD_eq_getElem _ _ hi]
    exact List.single_le_sum (by simp) _ (List.getElem_mem hi)
  · rw [List.getD_eq_default _ _ (by omega)]
    exact Nat.zero_le _

theorem zipWith_range {α : Type} (f : Nat → Nat → α) {xs ys : List Nat} (h : xs.length = ys.length) :
    List.zipWith f xs ys = (List.range xs.length).map fun i => f (xs.getD i 0) (ys.getD i 0) := by
  apply List.ext_getElem
  · simp [h]
  · intro i h1 h2
    rw [List.length_map,List.length_range] at h2
    have h3 : i < ys.length := h ▸ h2
    simp [h2,h3]

/-- The exact cost of the candidate at a place. -/
def exactAt (inputs outputs : List Nat) (inputPrice outputPrice : Amount) (i : Nat) : ℚ :=
  exactShare inputPrice outputPrice (inputs.getD i 0) (outputs.getD i 0)

section shares

variable {inputs outputs : List Nat} {inputPrice outputPrice : Amount}

theorem exactAt_nonneg (i : Nat) : 0 ≤ exactAt inputs outputs inputPrice outputPrice i := exactShare_nonneg

theorem sum_exactAt (h : inputs.length = outputs.length) :
    ((List.range inputs.length).map (exactAt inputs outputs inputPrice outputPrice)).sum =
      exactShare inputPrice outputPrice inputs.sum outputs.sum := by
  have hcast : ∀ xs : List Nat, ((List.range xs.length).map fun i => ((xs.getD i 0 : Nat) : ℚ)).sum = (xs.sum : ℚ) := by
    intro xs
    rw [← sum_getD xs,Nat.cast_list_sum,List.map_map]
    rfl
  unfold exactAt exactShare
  rw [List.sum_map_add,List.sum_map_mul_right,List.sum_map_mul_right,hcast inputs,h,hcast outputs]

/-- The rounded up total is the rounded down shares and the rounded up sum of what they leave. -/
theorem ceil_total (h : inputs.length = outputs.length) :
    ⌈exactShare inputPrice outputPrice inputs.sum outputs.sum⌉₊ =
      ((List.range inputs.length).map fun i => ⌊exactAt inputs outputs inputPrice outputPrice i⌋₊).sum +
        ⌈((List.range inputs.length).map fun i => Int.fract (exactAt inputs outputs inputPrice outputPrice i)).sum⌉₊ := by
  have hsplit : ∀ i, exactAt inputs outputs inputPrice outputPrice i =
      ((⌊exactAt inputs outputs inputPrice outputPrice i⌋₊ : Nat) : ℚ)+
        Int.fract (exactAt inputs outputs inputPrice outputPrice i) := by
    intro i
    rw [natCast_floor_eq_intCast_floor (exactAt_nonneg i),Int.floor_add_fract]
  have hsum : exactShare inputPrice outputPrice inputs.sum outputs.sum =
      ((((List.range inputs.length).map fun i => ⌊exactAt inputs outputs inputPrice outputPrice i⌋₊).sum : Nat) : ℚ)+
        ((List.range inputs.length).map fun i => Int.fract (exactAt inputs outputs inputPrice outputPrice i)).sum := by
    rw [← sum_exactAt h,Nat.cast_list_sum,List.map_map,← List.sum_map_add]
    exact congrArg List.sum (List.map_congr_left fun i _ => hsplit i)
  have hnonneg : 0 ≤ ((List.range inputs.length).map fun i =>
      Int.fract (exactAt inputs outputs inputPrice outputPrice i)).sum :=
    List.sum_nonneg (List.forall_mem_map.mpr fun i _ => Int.fract_nonneg _)
  rw [hsum,Nat.add_comm,add_comm (Nat.cast _),Nat.ceil_add_natCast hnonneg]

/-- The places that are rounded up. -/
def raised (inputs outputs : List Nat) (inputPrice outputPrice : Amount) (tieBreakers : List Text) : List Nat :=
  roundedUp (fun i => Int.fract (exactAt inputs outputs inputPrice outputPrice i)) (tieBreakers.getD · []) inputs.length

/-- The candidates share the total by largest remainders. -/
theorem decimalShares_eq {tieBreakers : List Text} (hlength : inputs.length = outputs.length)
    (hties : inputs.length ≤ tieBreakers.length) (h : TotalFits inputPrice outputPrice inputs.sum outputs.sum)
    (htotal : ⌈exactShare inputPrice outputPrice inputs.sum outputs.sum⌉₊ < 10^28) :
    decimalShares inputs outputs inputPrice outputPrice
        ⟨⌈exactShare inputPrice outputPrice inputs.sum outputs.sum⌉₊,-6⟩ tieBreakers =
      .ok ((List.range inputs.length).map fun i => ⟨⌊exactAt inputs outputs inputPrice outputPrice i⌋₊+
        if i ∈ raised inputs outputs inputPrice outputPrice tieBreakers then 1 else 0,-6⟩) := by
  have hfits : ∀ i, TotalFits inputPrice outputPrice (inputs.getD i 0) (outputs.getD i 0) := fun i =>
    h.mono (getD_le_sum inputs i) (getD_le_sum outputs i)
  have hraw := zipWith_range (rawShare inputPrice outputPrice) hlength
  have hfloors : (List.zipWith (rawShare inputPrice outputPrice) inputs outputs).map Amount.floor =
      (List.range inputs.length).map fun i => ⌊exactAt inputs outputs inputPrice outputPrice i⌋₊ := by
    rw [hraw,List.map_map]
    exact List.map_congr_left fun i _ => rawShare_floor (hfits i)
  have hmicro : (Amount.div 28 ⟨⌈exactShare inputPrice outputPrice inputs.sum outputs.sum⌉₊,-6⟩ microUsd).floor =
      ⌈exactShare inputPrice outputPrice inputs.sum outputs.sum⌉₊ := by
    have hquotient := @Amount.value_div 28 0 (-6) ⟨⌈exactShare inputPrice outputPrice inputs.sum outputs.sum⌉₊,-6⟩ htotal
    have hself : (⟨⌈exactShare inputPrice outputPrice inputs.sum outputs.sum⌉₊,-6⟩ : Amount).value/
        (⟨10^0,-6⟩ : Amount).value = ⌈exactShare inputPrice outputPrice inputs.sum outputs.sum⌉₊ := by
      rw [Amount.value,Amount.value]
      norm_num
    rw [Amount.floor_eq,microUsd,← Nat.pow_zero 10,hquotient,hself,Nat.floor_natCast]
  have hfraction : ∀ i, (Amount.sub 28 ((List.zipWith (rawShare inputPrice outputPrice) inputs outputs).getD i ⟨0,0⟩)
      (Amount.ofNat (((List.zipWith (rawShare inputPrice outputPrice) inputs outputs).map Amount.floor).getD i 0))).value =
      Int.fract (exactAt inputs outputs inputPrice outputPrice i) := by
    intro i
    rw [hfloors,hraw]
    by_cases hi : i < inputs.length
    · simp only [List.getD_eq_getElem?_getD,List.getElem?_map,List.getElem?_range hi,Option.map_some,Option.getD_some]
      exact rawShare_fraction (hfits i)
    · have hi' : outputs.length ≤ i := by omega
      rw [exactAt,List.getD_eq_default _ _ (by simpa using hi),List.getD_eq_default _ _ (by simpa using hi),
        List.getD_eq_default _ _ (by omega),List.getD_eq_default _ _ hi']
      simp [exactShare,Amount.ofNat,Amount.value,Amount.sub,Amount.coefficientAt,Amount.fix_of_lt]
  have hremaining := @ceil_total inputs outputs inputPrice outputPrice hlength
  have hrest : ⌈exactShare inputPrice outputPrice inputs.sum outputs.sum⌉₊-
      ((List.range inputs.length).map fun i => ⌊exactAt inputs outputs inputPrice outputPrice i⌋₊).sum =
      ⌈((List.range inputs.length).map fun i => Int.fract (exactAt inputs outputs inputPrice outputPrice i)).sum⌉₊ := by
    omega
  have hsum := @sum_roundedUp Text _ (fun i => Int.fract (exactAt inputs outputs inputPrice outputPrice i))
    (tieBreakers.getD · []) inputs.length (fun i => (Int.fract_lt_one _).le)
    fun i => ⌊exactAt inputs outputs inputPrice outputPrice i⌋₊
  have hrawLength : (List.zipWith (rawShare inputPrice outputPrice) inputs outputs).length = inputs.length := by
    rw [hraw,List.length_map,List.length_range]
  have hnodup : (raised inputs outputs inputPrice outputPrice tieBreakers).Nodup :=
    remainderOrder_nodup.sublist (List.take_sublist _ _)
  unfold decimalShares
  rw [if_neg (not_not.mpr hlength)]
  dsimp only
  rw [funext hfraction,hfloors,hmicro,hrawLength,if_neg (by omega),if_neg (by omega),hrest]
  change Except.ok ((raiseEach _ (raised inputs outputs inputPrice outputPrice tieBreakers)).map _) = _
  rw [raiseEach_range _ _ hnodup,List.map_map]
  refine congrArg Except.ok (List.map_congr_left fun i hi => ?_)
  have hlt : ⌊exactAt inputs outputs inputPrice outputPrice i⌋₊+
      (if i ∈ raised inputs outputs inputPrice outputPrice tieBreakers then 1 else 0) < 10^28 := by
    refine lt_of_le_of_lt ?_ htotal
    rw [hremaining,← hsum]
    exact List.single_le_sum (by simp) _ (List.mem_map_of_mem hi)
  change Amount.mul 28 ⟨_,0⟩ ⟨1,-6⟩ = _
  rw [Amount.mul_of_lt (by rwa [Nat.mul_one]),Nat.mul_one,Int.zero_add]

end shares

/-! ## A batch -/

/-- A share that is rounded up is not an integer. -/
theorem share_floor_or_ceil {inputs outputs : List Nat} {inputPrice outputPrice : Amount} {tieBreakers : List Text} (i : Nat) :
    (⌊exactAt inputs outputs inputPrice outputPrice i⌋₊+
      if i ∈ raised inputs outputs inputPrice outputPrice tieBreakers then 1 else 0) =
        ⌊exactAt inputs outputs inputPrice outputPrice i⌋₊ ∨
    (⌊exactAt inputs outputs inputPrice outputPrice i⌋₊+
      if i ∈ raised inputs outputs inputPrice outputPrice tieBreakers then 1 else 0) =
        ⌈exactAt inputs outputs inputPrice outputPrice i⌉₊ := by
  split_ifs with hi
  · have hfract : 0 < Int.fract (exactAt inputs outputs inputPrice outputPrice i) :=
      fraction_pos_of_mem (fun _ => Int.fract_nonneg _) (fun _ => (Int.fract_lt_one _).le) hi
    refine .inr (Eq.symm ((Nat.ceil_eq_iff (by omega)).mpr ⟨?_,?_⟩))
    · rw [Nat.add_sub_cancel,natCast_floor_eq_intCast_floor (exactAt_nonneg i)]
      rw [Int.fract] at hfract
      linarith
    · rw [Nat.cast_add,Nat.cast_one]
      exact (Nat.lt_floor_add_one _).le
  · exact .inl (Nat.add_zero _)

/-- Where the total has no more digits than the context, a batch is shared exactly, and which candidates are rounded up is
a matter of their fractions and keys. -/
theorem batch_cost_shared (inputTokens outputTokens : Nat) (inputPrice outputPrice : Amount) (tieBreakers : List Text)
    (hcount : 0 < tieBreakers.length) (hfits : TotalFits inputPrice outputPrice inputTokens outputTokens) :
    ∃ totalCost inputs outputs costs,
      decimalTokenCost inputTokens outputTokens inputPrice outputPrice = .ok totalCost ∧
      integerShares inputTokens tieBreakers.length = .ok inputs ∧
      integerShares outputTokens tieBreakers.length = .ok outputs ∧
      decimalShares inputs outputs inputPrice outputPrice totalCost tieBreakers = .ok costs ∧
      FairShares inputs inputTokens tieBreakers.length ∧ FairShares outputs outputTokens tieBreakers.length ∧
      costs.length = tieBreakers.length ∧ (∀ cost ∈ costs, cost.exponent = -6) ∧
      (costs.map Amount.value).sum = totalCost.value ∧
      ∀ i cost, costs[i]? = some cost →
        (cost.coefficient = ⌊exactAt inputs outputs inputPrice outputPrice i⌋₊ ∨
          cost.coefficient = ⌈exactAt inputs outputs inputPrice outputPrice i⌉₊) ∧
        cost.coefficient = ⌊exactAt inputs outputs inputPrice outputPrice i⌋₊+
          if i ∈ roundedUp (fun j => Int.fract (exactAt inputs outputs inputPrice outputPrice j))
            (fun j => tieBreakers.getD j []) tieBreakers.length then 1 else 0 := by
  obtain ⟨hinputs,hfairInputs⟩ := integerShares_fair inputTokens hcount
  obtain ⟨houtputs,hfairOutputs⟩ := integerShares_fair outputTokens hcount
  obtain ⟨hcost,hlt⟩ := decimalTokenCost_eq hfits
  generalize allocateIntegerTokens inputTokens tieBreakers.length = inputs at *
  generalize allocateIntegerTokens outputTokens tieBreakers.length = outputs at *
  obtain ⟨hinputsLength,rfl,-⟩ := id hfairInputs
  obtain ⟨houtputsLength,rfl,-⟩ := id hfairOutputs
  have hlength : inputs.length = outputs.length := hinputsLength.trans houtputsLength.symm
  have hshares := decimalShares_eq hlength hinputsLength.le hfits hlt
  have hsum := @sum_roundedUp Text _ (fun i => Int.fract (exactAt inputs outputs inputPrice outputPrice i))
    (tieBreakers.getD · []) inputs.length (fun i => (Int.fract_lt_one _).le)
    fun i => ⌊exactAt inputs outputs inputPrice outputPrice i⌋₊
  rw [← ceil_total hlength] at hsum
  refine ⟨_,inputs,outputs,_,hcost,hinputs,houtputs,hshares,hfairInputs,hfairOutputs,?_,?_,?_,?_⟩
  · rw [List.length_map,List.length_range,hinputsLength]
  · exact List.forall_mem_map.mpr fun i _ => rfl
  · have hvalue : ∀ i, (⟨⌊exactAt inputs outputs inputPrice outputPrice i⌋₊+
        if i ∈ raised inputs outputs inputPrice outputPrice tieBreakers then 1 else 0,-6⟩ : Amount).value =
        ((⌊exactAt inputs outputs inputPrice outputPrice i⌋₊+
          if i ∈ raised inputs outputs inputPrice outputPrice tieBreakers then 1 else 0 : Nat) : ℚ)*10^(-6 : ℤ) := fun _ => rfl
    rw [List.map_map]
    change ((List.range inputs.length).map fun i => Amount.value ⟨_,-6⟩).sum = _
    simp only [hvalue]
    rw [List.sum_map_mul_right,Amount.value,← hsum,Nat.cast_list_sum,List.map_map]
    rfl
  · intro i cost hi
    rw [List.getElem?_map,Option.map_eq_some_iff] at hi
    obtain ⟨j,hj,rfl⟩ := hi
    obtain ⟨hlt,rfl⟩ := List.getElem?_eq_some_iff.mp hj
    rw [List.getElem_range]
    refine ⟨share_floor_or_ceil _,?_⟩
    rw [← hinputsLength]
    rfl

theorem batch_cost_shared_sample : ∃ totalCost costs, decimalTokenCost 3 2 ⟨2500000,-6⟩ ⟨15,0⟩ = .ok totalCost ∧
    decimalShares [2,1] [1,1] ⟨2500000,-6⟩ ⟨15,0⟩ totalCost [text "a",text "b"] = .ok costs ∧
    (costs.map Amount.value).sum = totalCost.value := by
  obtain ⟨totalCost,inputs,outputs,costs,hcost,hinputs,houtputs,hshares,-,-,-,-,hsum,-⟩ :=
    batch_cost_shared 3 2 ⟨2500000,-6⟩ ⟨15,0⟩ [text "a",text "b"] (by decide)
      (by norm_num [TotalFits,exactShare,lastPlace,Amount.value])
  obtain rfl : [2,1] = inputs := Except.ok.inj hinputs
  obtain rfl : [1,1] = outputs := Except.ok.inj houtputs
  exact ⟨totalCost,costs,hcost,hshares,hsum⟩

/-- Two shares of half a micro-dollar more than 28 digits hold are each rounded up. -/
theorem half_rounded_up_twice : decimalTokenCost (4*10^27+6) 0 ⟨5,-1⟩ ⟨0,0⟩ = .ok ⟨2*10^27+3,-6⟩ ∧
    integerShares (4*10^27+6) 2 = .ok [2*10^27+3,2*10^27+3] ∧ integerShares 0 2 = .ok [0,0] ∧
    decimalShares [2*10^27+3,2*10^27+3] [0,0] ⟨5,-1⟩ ⟨0,0⟩ ⟨2*10^27+3,-6⟩ [text "a",text "b"] =
      .error .validationCostAllocation := by
  decide +kernel

end ParaWorks.AutoReview
