import ParaWorks.Ledger.Transactions

/-!
# What the operations write keeps the row facts

One lemma for each way a row is rewritten: zeroed, narrowed, claimed, settled, abandoned.
-/

namespace ParaWorks.Ledger

open Lib

variable {w : World} {r : AgentRunCostComponent}

/-- A row that no live grant depends on may be zeroed. -/
theorem RowFacts.makeTerminalZero (hlive : ∀ g, w.Live g → g.component ≠ r.component) :
    RowFacts w (makeTerminalZero r) where
  shape := WellShaped.makeTerminalZero r
  charge _ := Nat.le_refl 0
  blocked := nofun
  paid g hg hc := absurd hc (hlive g hg)
  issued _ _ _ := nofun
  budget _ _ _ := .inr ⟨rfl,rfl⟩
  owner _ _ _ := nofun

theorem RowFacts.live_attempted (h : RowFacts w r) {g : CommittedRagDispatchGrant} (hg : w.Live g)
    (hc : g.component = r.component) : r.attempted = true :=
  (h.paid g hg hc).attempted

/-- Nothing live depends on a row that was not attempted. -/
theorem RowFacts.zero_unattempted (h : RowFacts w r) (ha : r.attempted = false) :
    RowFacts w (Ledger.makeTerminalZero r) := by
  refine RowFacts.makeTerminalZero fun g hg hc => ?_
  have ht := h.live_attempted hg hc
  rw [ha] at ht
  cases ht

theorem RowFacts.unattempted (h : RowFacts w r) (hd : r.dispatchState = .notAttempted) :
    r.attempted = false := (h.shape.notAttempted hd).2.1

theorem RowFacts.narrowRow (h : RowFacts w r) (hd : r.dispatchState = .notAttempted)
    {prepared : PreparedPaidCallBudget}
    (hb : ∀ i, (w.memory i).admissionBudgets r.component = none) : RowFacts w (narrowRow prepared r) where
  shape := h.shape.narrowRow hd prepared
  charge _ := by
    have hz : (Ledger.narrowRow prepared r).chargedCostUsd = 0 := h.shape.charged_eq_zero (h.unattempted hd)
    rw [hz]
    exact Nat.zero_le _
  blocked := h.blocked
  paid g hg hc := by
    have ht := h.live_attempted hg hc
    rw [h.unattempted hd] at ht
    cases ht
  issued := h.issued
  budget i b hs := by
    have hn := hb i
    change (w.memory i).admissionBudgets r.component = some b at hs
    rw [hn] at hs
    cases hs
  owner := h.owner

theorem RowFacts.claimRow (h : RowFacts w r) (hd : r.dispatchState = .notAttempted) (fence process : Hmac)
    (howner : ∀ i, (w.memory i).Owns → process = (w.memory i).processHmac) :
    RowFacts w (claimRow fence process r) where
  shape := h.shape.claimRow hd fence process
  charge _ := Nat.le_refl _
  blocked := h.blocked
  paid g hg hc := by
    have ht := h.live_attempted hg hc
    rw [h.unattempted hd] at ht
    cases ht
  issued _ _ _ := nofun
  budget i b hb := by
    rcases h.budget i b hb with he | ⟨ht,_⟩
    · exact .inl he
    · rw [hd] at ht
      cases ht
  owner i hi p hp := by
    cases hp
    exact howner i hi

theorem abandonRow_component (r : AgentRunCostComponent) : (abandonRow r).component = r.component := by
  cases hd : r.dispatchState <;> simp only [abandonRow,hd,makeTerminalZero_component]

theorem RowFacts.abandonRow (h : RowFacts w r) : RowFacts w (abandonRow r) := by
  cases hd : r.dispatchState with
  | notAttempted => simpa only [Ledger.abandonRow,hd] using h.zero_unattempted (h.unattempted hd)
  | dispatching =>
    have hs := h.shape.abandonRow
    simp only [Ledger.abandonRow,hd] at hs ⊢
    refine ⟨hs,h.charge,h.blocked,?_,?_,?_,h.owner⟩
    · intro g hg hc
      obtain ⟨ha,hn,hf,hr,hq⟩ := h.paid g hg hc
      exact ⟨ha,hn,hf,hr,hq⟩
    · exact fun _ _ _ h => by cases h
    · intro i b hb
      rcases h.budget i b hb with he | ⟨ht,_⟩
      · exact .inl he
      · rw [hd] at ht
        cases ht
  | terminal => simpa only [Ledger.abandonRow,hd] using h
  | abandonedUnknown => simpa only [Ledger.abandonRow,hd] using h

theorem isClosed_abandonRow (r : AgentRunCostComponent) : isClosed (abandonRow r) = true := by
  cases hd : r.dispatchState <;> simp [isClosed,abandonRow,makeTerminalZero,hd]

/-! ## Settling -/

/-- An observation that the checks before the safety effect let through, and what they say of it. -/
structure Checked (w : World) (g : CommittedRagDispatchGrant) (o : ClassifiedProviderObservation)
    (budget : PreparedPaidCallBudget) (overrun : Bool) : Prop where
  component : o.component = g.component
  together : o.actualCostUsd.isSome = o.strictUsage.isSome
  terminal : o.terminalOutcome ≠ .abandonedUnknown
  charge : ∀ usage, o.strictUsage = some usage → ∃ cost,
    RagCostPolicy.chargeActual o.component usage = .ok cost ∧ o.actualCostUsd = some cost
  observed : Event.observed g o.strictUsage ∈ w.history
  within : overrun = false → ∀ cost, o.actualCostUsd = some cost → cost ≤ budget.reservedCostUsd
  blocked : overrun = true → Event.overrunBlocked o.component ∈ w.history

theorem Checked.usage {w : World} {g : CommittedRagDispatchGrant} {o : ClassifiedProviderObservation}
    {budget : PreparedPaidCallBudget} {overrun : Bool} (h : Checked w g o budget overrun) {cost : Usd}
    (hc : o.actualCostUsd = some cost) : ∃ usage, o.strictUsage = some usage ∧
      RagCostPolicy.chargeActual o.component usage = .ok cost := by
  have ht := h.together
  rw [hc] at ht
  obtain ⟨usage,hu⟩ := Option.isSome_iff_exists.mp ht.symm
  obtain ⟨cost',hcost,he⟩ := h.charge usage hu
  rw [hc] at he
  cases he
  exact ⟨usage,hu,hcost⟩

theorem settleRow_state {o : ClassifiedProviderObservation} (ht : o.terminalOutcome ≠ .abandonedUnknown)
    (overrun : Bool) (r : AgentRunCostComponent) : (settleRow o overrun r).dispatchState = .terminal := by
  simp only [settleRow,if_neg ht]

theorem RowFacts.settle_shape (h : RowFacts w r) (hd : r.dispatchState = .dispatching)
    {g : CommittedRagDispatchGrant} {o : ClassifiedProviderObservation} {budget : PreparedPaidCallBudget}
    {overrun : Bool} (hc : Checked w g o budget overrun) : WellShaped (settleRow o overrun r) := by
  obtain ⟨_,ha,hn,_,_,_,_,_,hf,hp,_⟩ := h.shape.dispatching hd
  refine ⟨.terminalCharged,settleRow_state hc.terminal overrun r,ha,hn,hf,hp,rfl,?_,?_⟩
  · cases hcost : o.actualCostUsd with
    | none =>
      right
      simp [settleRow,hcost]
    | some cost =>
      obtain ⟨usage,hu,_⟩ := hc.usage hcost
      left
      simp [settleRow,hcost,hu]
  · cases hcost : o.actualCostUsd with
    | none => simp [settleRow,hcost]
    | some cost => simp [settleRow,hcost]

/-- Settling the row of a consumed grant charges the reservation or the reported usage. -/
theorem RowFacts.settleRow (h : RowFacts w r) (hd : r.dispatchState = .dispatching) {i : Nat}
    {g : CommittedRagDispatchGrant} {o : ClassifiedProviderObservation} {budget : PreparedPaidCallBudget}
    {overrun : Bool} (hc : Checked w g o budget overrun) (hg : w.Live g) (hgc : g.component = r.component)
    (hb : (w.memory i).admissionBudgets g.component = some budget)
    (hunique : ∀ g', w.Live g' → g'.component = g.component → g' = g) :
    RowFacts w (settleRow o overrun r) where
  shape := h.settle_shape hd hc
  charge hv := by
    have hbud : r.reservedCostUsd = budget.reservedCostUsd := by
      rcases h.budget i budget (hgc ▸ hb) with he | ⟨ht,_⟩
      · exact he
      · rw [hd] at ht
        cases ht
    cases hcost : o.actualCostUsd with
    | none => simp [Ledger.settleRow,hcost]
    | some cost =>
      have ho : overrun = false := by simpa [Ledger.settleRow,hcost] using hv
      have hle := hc.within ho cost hcost
      simpa [Ledger.settleRow,hcost,hbud] using hle
  blocked hv := by
    have ho : overrun = true := by
      have : o.actualCostUsd.isSome = true ∧ overrun = true := by simpa [Ledger.settleRow] using hv
      exact this.2
    have hm := hc.blocked ho
    rw [hc.component,hgc] at hm
    exact hm
  paid g' hg' hc' := by
    have he := hunique g' hg' (hc'.trans hgc.symm)
    subst he
    obtain ⟨ha,hn,hf,hr,_⟩ := h.paid g' hg hgc
    refine ⟨ha,hn,hf,hr,?_⟩
    cases hcost : o.actualCostUsd with
    | none =>
      left
      simpa [Ledger.settleRow,hcost] using hr
    | some cost =>
      obtain ⟨usage,hu,hch⟩ := hc.usage hcost
      right
      refine ⟨usage,cost,hu ▸ hc.observed,hc.component ▸ hch,?_⟩
      simp [Ledger.settleRow,hcost]
  issued _ _ _ := by
    rw [settleRow_state hc.terminal]
    nofun
  budget j b hb' := by
    rcases h.budget j b hb' with he | ⟨ht,_⟩
    · exact .inl he
    · rw [hd] at ht
      cases ht
  owner := h.owner

end ParaWorks.Ledger
