import ParaWorks.Ledger.Closing
import ParaWorks.Lib.Decimals

/-!
# Rounding of costs

The cost that the policy computes in decimal arithmetic is the exact cost rounded up to a micro-dollar, so that usage within
a budget never costs more than the budget reserves.
-/

namespace ParaWorks.Ledger

open Lib

/-- A price per million tokens with its six places. -/
def priceAmount (price : Nat) : Amount := ⟨price,-6⟩

/-- The quotient of `_rounded_cost` in its context of 64 digits. -/
def unroundedCost (inputTokens outputTokens inputPrice outputPrice : Nat) : Amount :=
  Amount.div 64 (Amount.add 64 (Amount.mul 64 (Amount.ofNat inputTokens) (priceAmount inputPrice))
    (Amount.mul 64 (Amount.ofNat outputTokens) (priceAmount outputPrice))) (Amount.ofNat 1000000)

/-- `_rounded_cost`, none where it raises. -/
def decimalCost (inputTokens outputTokens inputPrice outputPrice : Nat) : Option Amount :=
  Amount.quantizeCeiling 64 (-6) (unroundedCost inputTokens outputTokens inputPrice outputPrice)

/-- The cost without any rounding, in dollars. -/
def exactCost (inputTokens outputTokens inputPrice outputPrice : Nat) : ℚ :=
  (inputTokens*(priceAmount inputPrice).value+outputTokens*(priceAmount outputPrice).value)/1000000

/-- `NUMERIC(24,6)` has eighteen digits before the point. -/
def fitsStorage (a : Amount) : Prop := a.exponent = -6 ∧ a.coefficient < 10^24

section rounding

variable {inputTokens outputTokens inputPrice outputPrice : Nat}

/-- Nothing is lost before the rounding. -/
theorem unroundedCost_value (hi : inputTokens < 2^63) (ho : outputTokens < 2^63) (hip : inputPrice < 10^24)
    (hop : outputPrice < 10^24) : (unroundedCost inputTokens outputTokens inputPrice outputPrice).value =
      exactCost inputTokens outputTokens inputPrice outputPrice := by
  have hin : inputTokens*inputPrice < 2^63*10^24 := Nat.mul_lt_mul'' hi hip
  have hout : outputTokens*outputPrice < 2^63*10^24 := Nat.mul_lt_mul'' ho hop
  have hfixed : ∀ tokens price, tokens*price < 2^63*10^24 →
      Amount.mul 64 (Amount.ofNat tokens) (priceAmount price) = ⟨tokens*price,-6⟩ := by
    intro tokens price h
    rw [Amount.ofNat,priceAmount,Amount.mul_of_lt (h.trans (by norm_num)),Int.zero_add]
  have hvalue : ∀ tokens price, (⟨tokens*price,-6⟩ : Amount).value = tokens*(priceAmount price).value := by
    intro tokens price
    rw [priceAmount,Amount.value,Amount.value,Nat.cast_mul]
    ring
  have hlt : inputTokens*inputPrice+outputTokens*outputPrice < 10^64 :=
    (Nat.add_lt_add hin hout).trans (by norm_num)
  have hsum : Amount.add 64 ⟨inputTokens*inputPrice,-6⟩ ⟨outputTokens*outputPrice,-6⟩ =
      ⟨inputTokens*inputPrice+outputTokens*outputPrice,-6⟩ := Amount.add_of_lt hlt
  have hdiv : (Amount.div 64 ⟨inputTokens*inputPrice+outputTokens*outputPrice,-6⟩ ⟨10^6,0⟩).value =
      (⟨inputTokens*inputPrice+outputTokens*outputPrice,-6⟩ : Amount).value/(⟨10^6,0⟩ : Amount).value := Amount.value_div hlt
  have hmillion : (⟨10^6,0⟩ : Amount).value = 1000000 := by
    rw [Amount.value]
    norm_num
  rw [unroundedCost,hfixed _ _ hin,hfixed _ _ hout,hsum,exactCost,← hvalue,← hvalue]
  rw [show Amount.ofNat 1000000 = ⟨10^6,0⟩ from rfl,hdiv,hmillion]
  congr 1
  rw [Amount.value,Amount.value,Amount.value,Nat.cast_add]
  ring

/-- In micro-dollars the exact cost is a million-th of the sum of the products. -/
theorem exactCost_micro : exactCost inputTokens outputTokens inputPrice outputPrice/10^(-6 : ℤ) =
    ((inputTokens*inputPrice+outputTokens*outputPrice : Nat) : ℚ)/(1000000 : Nat) := by
  rw [exactCost,priceAmount,priceAmount,Amount.value,Amount.value]
  push_cast
  field_simp

theorem roundedCost_eq : roundedCost inputTokens outputTokens inputPrice outputPrice =
    ⌈exactCost inputTokens outputTokens inputPrice outputPrice/10^(-6 : ℤ)⌉₊ := by
  rw [exactCost_micro,← Amount.ceil_div _ (by decide),roundedCost]
  rfl

/-- `_rounded_cost` gives the number of micro-dollars that the ledger reckons with. -/
theorem decimalCost_eq (hi : inputTokens < 2^63) (ho : outputTokens < 2^63) (hip : inputPrice < 10^24)
    (hop : outputPrice < 10^24) : decimalCost inputTokens outputTokens inputPrice outputPrice =
      some ⟨roundedCost inputTokens outputTokens inputPrice outputPrice,-6⟩ := by
  have hin : inputTokens*inputPrice < 2^63*10^24 := Nat.mul_lt_mul'' hi hip
  have hout : outputTokens*outputPrice < 2^63*10^24 := Nat.mul_lt_mul'' ho hop
  have hfits : roundedCost inputTokens outputTokens inputPrice outputPrice < 10^64 := by
    have hlt : inputTokens*inputPrice+outputTokens*outputPrice+999999 < 10^64*1000000 :=
      (Nat.add_lt_add_right (Nat.add_lt_add hin hout) 999999).trans (by norm_num)
    exact (Nat.div_lt_iff_lt_mul (by decide)).mpr hlt
  rw [decimalCost,Amount.quantizeCeiling_eq,unroundedCost_value hi ho hip hop,← roundedCost_eq,if_pos hfits]

end rounding

theorem price_lt (component : RagPaidComponent) : inputPrice component < 10^7 ∧ outputPrice component < 10^7 := by
  cases component <;> decide

/-- No micro-dollar less pays for the tokens. -/
theorem roundedCost_least (inputTokens outputTokens inputPrice outputPrice : Nat) :
    IsLeast {micros : Nat | exactCost inputTokens outputTokens inputPrice outputPrice ≤ (⟨micros,-6⟩ : Amount).value}
      (roundedCost inputTokens outputTokens inputPrice outputPrice) := by
  have hmem : ∀ micros : Nat, exactCost inputTokens outputTokens inputPrice outputPrice ≤ (⟨micros,-6⟩ : Amount).value ↔
      roundedCost inputTokens outputTokens inputPrice outputPrice ≤ micros := by
    intro micros
    rw [roundedCost_eq,Nat.ceil_le,div_le_iff₀ (zpow_pos (by norm_num) _)]
    rfl
  exact ⟨(hmem _).mpr le_rfl,fun micros h => (hmem micros).mp h⟩

/-- A charge within an accepted budget is covered by its reservation. -/
theorem charge_within_budget {policy : RagCostPolicy} {budget : PreparedPaidCallBudget} {usage : StrictProviderUsage}
    {cost : Usd} (hvalid : policy.validPreparedBudget budget = true)
    (hinput : usage.inputTokens ≤ budget.estimatedInputTokens)
    (houtput : usage.outputTokens ≤ budget.maximumOutputTokens)
    (hcharge : RagCostPolicy.chargeActual budget.component usage = .ok cost) : cost ≤ budget.reservedCostUsd := by
  have hreserved : budget.reservedCostUsd = roundedCost budget.estimatedInputTokens budget.maximumOutputTokens
      (inputPrice budget.component) (outputPrice budget.component) := by
    unfold RagCostPolicy.validPreparedBudget at hvalid
    simp only [Bool.and_eq_true,decide_eq_true_eq] at hvalid
    exact hvalid.1.2
  rw [hreserved]
  cases hcomponent : budget.component with
  | queryEmbedding =>
    rw [hcomponent] at hcharge
    unfold RagCostPolicy.chargeActual at hcharge
    dsimp only at hcharge
    split_ifs at hcharge with hnone
    obtain rfl := Except.ok.inj hcharge
    exact roundedCost_mono _ _ hinput (Nat.zero_le _)
  | answerGeneration =>
    rw [hcomponent] at hcharge
    obtain rfl := Except.ok.inj hcharge
    exact roundedCost_mono _ _ hinput houtput

/-- The decimal cost of usage at the prices of the policy is exact up to its rounding, which is up to the next micro-dollar
and grows with the tokens; usage within an accepted budget is never charged more than its reservation, and an overrun of
such a budget is always one of tokens. -/
theorem rounding_agrees_with_reservation (policy : RagCostPolicy) (component : RagPaidComponent) :
    (∀ inputTokens < 2^63, ∀ outputTokens < 2^63, ∃ a : Amount,
      decimalCost inputTokens outputTokens (inputPrice component) (outputPrice component) = some a ∧
      a.coefficient = roundedCost inputTokens outputTokens (inputPrice component) (outputPrice component) ∧
      fitsStorage a ∧
      (unroundedCost inputTokens outputTokens (inputPrice component) (outputPrice component)).value =
        exactCost inputTokens outputTokens (inputPrice component) (outputPrice component) ∧
      IsLeast {micros : Nat | exactCost inputTokens outputTokens (inputPrice component) (outputPrice component) ≤
        (⟨micros,-6⟩ : Amount).value} a.coefficient) ∧
    (∀ i i' o o', i ≤ i' → o ≤ o' → roundedCost i o (inputPrice component) (outputPrice component) ≤
      roundedCost i' o' (inputPrice component) (outputPrice component)) ∧
    ∀ (budget : PreparedPaidCallBudget) (usage : StrictProviderUsage) (cost : Usd), budget.component = component →
      policy.validPreparedBudget budget = true → RagCostPolicy.chargeActual component usage = .ok cost →
      (usage.inputTokens ≤ budget.estimatedInputTokens → usage.outputTokens ≤ budget.maximumOutputTokens →
        cost ≤ budget.reservedCostUsd) ∧
      ∀ o : ClassifiedProviderObservation, o.component = component → o.strictUsage = some usage →
        usageOverran o budget (some cost) = true →
        usage.inputTokens > budget.estimatedInputTokens ∨ usage.outputTokens > budget.maximumOutputTokens ∨
          RagCostPolicy.usageExceedsAuthorizedCap component usage = true := by
  obtain ⟨hip,hop⟩ := price_lt component
  have hip' : inputPrice component < 10^24 := hip.trans (by norm_num)
  have hop' : outputPrice component < 10^24 := hop.trans (by norm_num)
  refine ⟨?_,fun i i' o o' hi ho => roundedCost_mono _ _ hi ho,?_⟩
  · intro inputTokens hi outputTokens ho
    have hin : inputTokens*inputPrice component < 2^63*10^7 := Nat.mul_lt_mul'' hi hip
    have hout : outputTokens*outputPrice component < 2^63*10^7 := Nat.mul_lt_mul'' ho hop
    refine ⟨_,decimalCost_eq hi ho hip' hop',rfl,⟨rfl,?_⟩,unroundedCost_value hi ho hip' hop',
      roundedCost_least _ _ _ _⟩
    have hlt : inputTokens*inputPrice component+outputTokens*outputPrice component+999999 < 10^24*1000000 :=
      (Nat.add_lt_add_right (Nat.add_lt_add hin hout) 999999).trans (by norm_num)
    exact (Nat.div_lt_iff_lt_mul (by decide)).mpr hlt
  · rintro budget usage cost rfl hvalid hcharge
    refine ⟨fun hinput houtput => charge_within_budget hvalid hinput houtput hcharge,?_⟩
    intro o ho husage hoverran
    unfold usageOverran at hoverran
    rw [husage,ho] at hoverran
    simp only [Bool.or_eq_true,decide_eq_true_eq] at hoverran
    by_cases hinput : usage.inputTokens > budget.estimatedInputTokens
    · exact Or.inl hinput
    · by_cases houtput : usage.outputTokens > budget.maximumOutputTokens
      · exact Or.inr (Or.inl houtput)
      · have hcovered := charge_within_budget hvalid (Nat.le_of_not_gt hinput) (Nat.le_of_not_gt houtput) hcharge
        rcases hoverran with ((h | h) | h) | h
        · exact absurd h hinput
        · exact absurd h houtput
        · exact absurd h (Nat.not_lt.mpr hcovered)
        · exact Or.inr (Or.inr h)

section samples

def pricedDigest : Hmac := ⟨String.ofList (List.replicate 64 'd'),by decide⟩

def samplePolicy : RagCostPolicy where
  policyHmac _ := pricedDigest
  configHmac _ := pricedDigest
  estimatorSigner _ _ := pricedDigest
  countPrivateTokens _ _ := some 1
  estimatorText _ _ := some ""

def pricedBudget : PreparedPaidCallBudget := ⟨.answerGeneration,100,10,120,pricedDigest,pricedDigest⟩

def sampleUsage : StrictProviderUsage := ⟨3,2,5,rfl,by decide⟩

theorem rounding_agrees_with_reservation_sample :
    (∃ a : Amount, decimalCost 3 2 answerInputUsdPer1M answerOutputUsdPer1M = some a ∧ a.coefficient = 12) ∧
      ∃ cost, RagCostPolicy.chargeActual .answerGeneration sampleUsage = .ok cost ∧ cost ≤ pricedBudget.reservedCostUsd := by
  obtain ⟨hexact,-,hbudget⟩ := rounding_agrees_with_reservation samplePolicy .answerGeneration
  obtain ⟨a,ha,hcoefficient,-⟩ := hexact 3 (by decide) 2 (by decide)
  refine ⟨⟨a,ha,hcoefficient⟩,12,rfl,?_⟩
  exact (hbudget pricedBudget sampleUsage 12 rfl (by decide +kernel) rfl).1 (by decide) (by decide)

end samples

end ParaWorks.Ledger
