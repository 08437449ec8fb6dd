import ParaWorks.Ledger.System

/-!
# What a step may do to a cost row

The five shapes of a row, and the order in which a row may only move: its reservation falls, it never
becomes claimable again, and once closed it is final.
-/

namespace ParaWorks.Ledger

inductive RowShape where
  | notAttempted
  | dispatching
  | terminalZero
  | terminalCharged
  | abandonedUnknown
deriving DecidableEq, Repr

/-- The columns of a row of each shape, as `ck_agent_run_cost_component_state_shape` lists them. -/
def HasShape (r : AgentRunCostComponent) : RowShape → Prop
  | .notAttempted =>
    r.dispatchState = .notAttempted ∧ r.attempted = false ∧ r.dispatchCount = 0 ∧
    r.actualInputTokens = none ∧ r.actualOutputTokens = none ∧ r.chargedCostUsd = 0 ∧
    r.chargeBasis = .zero ∧ r.overrun = false ∧ r.dispatchFenceHmac = none ∧
    r.processInstanceHmac = none ∧ r.terminalOutcome = none
  | .dispatching =>
    r.dispatchState = .dispatching ∧ r.attempted = true ∧ r.dispatchCount = 1 ∧
    r.actualInputTokens = none ∧ r.actualOutputTokens = none ∧ r.chargedCostUsd = r.reservedCostUsd ∧
    r.chargeBasis = .reserved ∧ r.overrun = false ∧ r.dispatchFenceHmac.isSome ∧
    r.processInstanceHmac.isSome ∧ r.terminalOutcome = none
  | .terminalZero =>
    r.dispatchState = .terminal ∧ r.attempted = false ∧ r.dispatchCount = 0 ∧
    r.reservedInputTokens = 0 ∧ r.reservedOutputTokens = 0 ∧ r.actualInputTokens = none ∧
    r.actualOutputTokens = none ∧ r.reservedCostUsd = 0 ∧ r.chargedCostUsd = 0 ∧
    r.chargeBasis = .zero ∧ r.overrun = false ∧ r.dispatchFenceHmac = none ∧
    r.processInstanceHmac = none ∧ r.terminalOutcome = none
  | .terminalCharged =>
    r.dispatchState = .terminal ∧ r.attempted = true ∧ r.dispatchCount = 1 ∧
    r.dispatchFenceHmac.isSome ∧ r.processInstanceHmac.isSome ∧ r.terminalOutcome.isSome ∧
    ((r.chargeBasis = .actual ∧ r.actualInputTokens.isSome ∧ r.actualOutputTokens.isSome) ∨
      (r.chargeBasis = .reserved ∧ r.actualInputTokens = none ∧ r.actualOutputTokens = none ∧
        r.chargedCostUsd = r.reservedCostUsd)) ∧
    (r.overrun = false ∨ r.chargeBasis = .actual)
  | .abandonedUnknown =>
    r.dispatchState = .abandonedUnknown ∧ r.attempted = true ∧ r.dispatchCount = 1 ∧
    r.actualInputTokens = none ∧ r.actualOutputTokens = none ∧ r.chargedCostUsd = r.reservedCostUsd ∧
    r.chargeBasis = .reserved ∧ r.overrun = false ∧ r.dispatchFenceHmac.isSome ∧
    r.processInstanceHmac.isSome ∧ r.terminalOutcome = some .abandonedUnknown

def WellShaped (r : AgentRunCostComponent) : Prop := ∃ s, HasShape r s

/-- The state and the attempted flag tell the shapes apart. -/
def shapeOf (r : AgentRunCostComponent) : RowShape :=
  match r.dispatchState, r.attempted with
  | .notAttempted, _ => .notAttempted
  | .dispatching, _ => .dispatching
  | .terminal, false => .terminalZero
  | .terminal, true => .terminalCharged
  | .abandonedUnknown, _ => .abandonedUnknown

theorem HasShape.shapeOf_eq {r : AgentRunCostComponent} {s : RowShape} (h : HasShape r s) :
    shapeOf r = s := by
  cases s with
  | notAttempted => simp only [shapeOf,h.1]
  | dispatching => simp only [shapeOf,h.1]
  | terminalZero => simp only [shapeOf,h.1,h.2.1]
  | terminalCharged => simp only [shapeOf,h.1,h.2.1]
  | abandonedUnknown => simp only [shapeOf,h.1]

/-- A row has exactly one shape. -/
theorem WellShaped.existsUnique {r : AgentRunCostComponent} (h : WellShaped r) : ∃! s, HasShape r s := by
  obtain ⟨s,hs⟩ := h
  refine ⟨s,hs,?_⟩
  intro t ht
  exact ht.shapeOf_eq.symm.trans hs.shapeOf_eq

theorem WellShaped.hasShape {r : AgentRunCostComponent} (h : WellShaped r) : HasShape r (shapeOf r) := by
  obtain ⟨s,hs⟩ := h
  rwa [hs.shapeOf_eq]

namespace WellShaped

variable {r : AgentRunCostComponent}

theorem notAttempted (h : WellShaped r) (hd : r.dispatchState = .notAttempted) :
    HasShape r .notAttempted := by
  have hs := h.hasShape
  simpa only [shapeOf,hd] using hs

theorem dispatching (h : WellShaped r) (hd : r.dispatchState = .dispatching) :
    HasShape r .dispatching := by
  have hs := h.hasShape
  simpa only [shapeOf,hd] using hs

theorem attempted_of_dispatching (h : WellShaped r) (hd : r.dispatchState = .dispatching) :
    r.attempted = true := (h.dispatching hd).2.1

theorem process_isSome (h : WellShaped r) (ha : r.attempted = true) : r.processInstanceHmac.isSome := by
  obtain ⟨s,hs⟩ := h
  cases s with
  | notAttempted => exact absurd ha (by simp [hs.2.1])
  | dispatching => exact hs.2.2.2.2.2.2.2.2.2.1
  | terminalZero => exact absurd ha (by simp [hs.2.1])
  | terminalCharged => exact hs.2.2.2.2.1
  | abandonedUnknown => exact hs.2.2.2.2.2.2.2.2.2.1

theorem charged_eq_zero (h : WellShaped r) (ha : r.attempted = false) : r.chargedCostUsd = 0 := by
  obtain ⟨s,hs⟩ := h
  cases s with
  | notAttempted => exact hs.2.2.2.2.2.1
  | dispatching => exact absurd ha (by simp [hs.2.1])
  | terminalZero => exact hs.2.2.2.2.2.2.2.2.1
  | terminalCharged => exact absurd ha (by simp [hs.2.1])
  | abandonedUnknown => exact absurd ha (by simp [hs.2.1])

theorem makeTerminalZero (r : AgentRunCostComponent) : WellShaped (makeTerminalZero r) :=
  ⟨.terminalZero,rfl,rfl,rfl,rfl,rfl,rfl,rfl,rfl,rfl,rfl,rfl,rfl,rfl,rfl⟩

theorem narrowRow (h : WellShaped r) (hd : r.dispatchState = .notAttempted)
    (prepared : PreparedPaidCallBudget) : WellShaped (narrowRow prepared r) :=
  ⟨.notAttempted,h.notAttempted hd⟩

theorem claimRow (h : WellShaped r) (hd : r.dispatchState = .notAttempted) (fence process : Hmac) :
    WellShaped (claimRow fence process r) := by
  obtain ⟨_,_,_,hi,ho,_,_,hv,_,_,ht⟩ := h.notAttempted hd
  exact ⟨.dispatching,rfl,rfl,rfl,hi,ho,rfl,rfl,hv,rfl,rfl,ht⟩

theorem abandonRow (h : WellShaped r) : WellShaped (abandonRow r) := by
  cases hd : r.dispatchState with
  | notAttempted =>
    have he : Ledger.abandonRow r = Ledger.makeTerminalZero r := by simp only [Ledger.abandonRow,hd]
    rw [he]
    exact makeTerminalZero r
  | dispatching =>
    obtain ⟨_,ha,hc,hi,ho,hq,hb,hv,hf,hp,_⟩ := h.dispatching hd
    have he : Ledger.abandonRow r =
        { r with dispatchState := .abandonedUnknown, terminalOutcome := some .abandonedUnknown } := by
      simp only [Ledger.abandonRow,hd]
    rw [he]
    exact ⟨.abandonedUnknown,rfl,ha,hc,hi,ho,hq,hb,hv,hf,hp,rfl⟩
  | terminal => simpa only [Ledger.abandonRow,hd] using h
  | abandonedUnknown => simpa only [Ledger.abandonRow,hd] using h

end WellShaped

/-- A row in a later committed state. -/
structure RowLe (r r' : AgentRunCostComponent) : Prop where
  component : r'.component = r.component
  reserved : r'.reservedCostUsd ≤ r.reservedCostUsd
  left : r.dispatchState ≠ .notAttempted → r'.dispatchState ≠ .notAttempted
  closed : isClosed r = true → r' = r

theorem RowLe.refl (r : AgentRunCostComponent) : RowLe r r :=
  ⟨rfl,Nat.le_refl _,id,fun _ => rfl⟩

theorem RowLe.trans {r r' r'' : AgentRunCostComponent} (h : RowLe r r') (h' : RowLe r' r'') :
    RowLe r r'' where
  component := h'.component.trans h.component
  reserved := h'.reserved.trans h.reserved
  left := h'.left ∘ h.left
  closed hc := by
    have he := h.closed hc
    subst he
    exact h'.closed hc

theorem RowLe.makeTerminalZero {r : AgentRunCostComponent} (h : isClosed r = false) :
    RowLe r (makeTerminalZero r) where
  component := rfl
  reserved := Nat.zero_le _
  left _ := nofun
  closed hc := absurd hc (by simp [h])

theorem RowLe.narrowRow {r : AgentRunCostComponent} {prepared : PreparedPaidCallBudget}
    (h : isClosed r = false) (hr : prepared.reservedCostUsd ≤ r.reservedCostUsd) :
    RowLe r (narrowRow prepared r) where
  component := rfl
  reserved := hr
  left := id
  closed hc := absurd hc (by simp [h])

theorem RowLe.claimRow {r : AgentRunCostComponent} (h : isClosed r = false) (fence process : Hmac) :
    RowLe r (claimRow fence process r) where
  component := rfl
  reserved := Nat.le_refl _
  left _ := nofun
  closed hc := absurd hc (by simp [h])

theorem RowLe.settleRow {r : AgentRunCostComponent} (h : isClosed r = false)
    (o : ClassifiedProviderObservation) (overrun : Bool) : RowLe r (settleRow o overrun r) where
  component := rfl
  reserved := Nat.le_refl _
  left _ := by
    unfold Ledger.settleRow
    dsimp only
    split <;> decide
  closed hc := absurd hc (by simp [h])

theorem RowLe.abandonRow (r : AgentRunCostComponent) : RowLe r (abandonRow r) := by
  cases hd : r.dispatchState with
  | notAttempted =>
    have hc : isClosed r = false := by simp [isClosed,hd]
    simpa only [Ledger.abandonRow,hd] using RowLe.makeTerminalZero hc
  | dispatching =>
    refine ⟨?_,?_,?_,?_⟩
    · simp only [Ledger.abandonRow,hd]
    · simp only [Ledger.abandonRow,hd,Nat.le_refl]
    · simp [Ledger.abandonRow,hd]
    · simp [isClosed,hd]
  | terminal => simpa only [Ledger.abandonRow,hd] using RowLe.refl r
  | abandonedUnknown => simpa only [Ledger.abandonRow,hd] using RowLe.refl r

abbrev RowsLe : List AgentRunCostComponent → List AgentRunCostComponent → Prop := List.Forall₂ RowLe

theorem RowsLe.refl (rows : List AgentRunCostComponent) : RowsLe rows rows :=
  List.forall₂_same.mpr fun r _ => RowLe.refl r

theorem RowsLe.trans {rows rows' rows'' : List AgentRunCostComponent} (h : RowsLe rows rows')
    (h' : RowsLe rows' rows'') : RowsLe rows rows'' := by
  induction h generalizing rows'' with
  | nil => exact h'
  | cons hr _ ih =>
    cases h' with
    | cons hr' ht => exact .cons (hr.trans hr') (ih ht)

theorem RowsLe.totalReserved_le {rows rows' : List AgentRunCostComponent} (h : RowsLe rows rows') :
    totalReserved rows' ≤ totalReserved rows := by
  induction h with
  | nil => exact Nat.le_refl _
  | cons hr _ ih => exact Nat.add_le_add hr.reserved ih

/-- Every later row comes from an earlier one. -/
theorem RowsLe.exists_before {rows rows' : List AgentRunCostComponent} (h : RowsLe rows rows')
    {r' : AgentRunCostComponent} (hr : r' ∈ rows') : ∃ r ∈ rows, RowLe r r' := by
  induction h with
  | nil => nomatch hr
  | cons hle _ ih =>
    rcases List.mem_cons.mp hr with rfl | hr
    · exact ⟨_,List.mem_cons_self,hle⟩
    · obtain ⟨r,hm,hle'⟩ := ih hr
      exact ⟨r,List.mem_cons_of_mem _ hm,hle'⟩

theorem RowsLe.closed {rows rows' : List AgentRunCostComponent} (h : RowsLe rows rows')
    (hc : ∀ r ∈ rows, isClosed r = true) : ∀ r ∈ rows', isClosed r = true := by
  intro r' hr'
  obtain ⟨r,hr,hle⟩ := h.exists_before hr'
  rw [hle.closed (hc r hr)]
  exact hc r hr

theorem RowsLe.map {f : AgentRunCostComponent → AgentRunCostComponent} {rows : List AgentRunCostComponent}
    (h : ∀ r ∈ rows, RowLe r (f r)) : RowsLe rows (rows.map f) :=
  List.forall₂_map_right_iff.mpr (List.forall₂_same.mpr h)

end ParaWorks.Ledger
