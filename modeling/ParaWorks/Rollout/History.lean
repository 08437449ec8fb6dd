import ParaWorks.Rollout.Invariant
import ParaWorks.Rollout.Versions

/-!
# The control history of a row

The events of a scope and policy explain its control fields, and a critical outcome ends its rollout.
-/

namespace ParaWorks.Rollout

open Lib

/-- An event applies to the control fields it starts from. -/
def applyEvent (control : Option Control) (event : ControlEvent) : Option Control :=
  if control = some event.prior then some event.new else none

/-- The control fields events lead to, from those of a new row. -/
def replay (events : List ControlEvent) : Option Control :=
  events.foldl applyEvent (some ⟨0,0,false,0⟩)

theorem replay_concat (events : List ControlEvent) (event : ControlEvent)
    (h : replay events = some event.prior) : replay (events++[event]) = some event.new := by
  unfold replay at h ⊢
  rw [List.foldl_append, h]
  simp [applyEvent]

/-- The events of a scope and policy in the order of their sequence numbers. -/
def RolloutDb.eventsOf (db : RolloutDb) (key : RolloutKey) : List ControlEvent :=
  (db.events.filter (·.key = key)).reverse

structure Explained (db : RolloutDb) (key : RolloutKey) (row : RolloutState) : Prop where
  sequence : (db.eventsOf key).map (·.eventSequence) = List.range' 1 row.lastEventSequence
  control : replay (db.eventsOf key) = some row.control

/-- No percentage while the breaker is open or after a critical outcome. -/
structure Guarded (row : RolloutState) : Prop where
  breaker : row.breakerOpen = true → row.maxAuthorizedPercentage = 0
  critical : 0 < row.postAuditCriticalCount → row.maxAuthorizedPercentage = 0

structure Governed (db : RolloutDb) : Prop where
  rows : ∀ e ∈ db.events, ∃ row, db.rollouts e.key = some row
  explained : ∀ key row, db.rollouts key = some row → Explained db key row
  guarded : ∀ key row, db.rollouts key = some row → Guarded row

theorem governed_empty : Governed .empty := by
  refine ⟨?_,?_,?_⟩ <;> simp [RolloutDb.empty]

section effects

variable {c : Command} {db db' : RolloutDb} {key : RolloutKey} {row row' : RolloutState}

theorem eventsOf_cons {event : ControlEvent} (h : db'.events = event::db.events) :
    db'.eventsOf key = if event.key = key then db.eventsOf key++[event] else db.eventsOf key := by
  unfold RolloutDb.eventsOf
  rw [h]
  by_cases hk : event.key = key <;> simp [hk]

theorem ControlStep.explained (h : ControlStep c key row row' db.events db'.events) (he : Explained db key row) :
    Explained db' key row' := by
  cases h with
  | kept hcontrol hsequence hevents =>
    have hsame : db'.eventsOf key = db.eventsOf key := by simp [RolloutDb.eventsOf, hevents]
    exact ⟨by rw [hsame, hsequence, he.sequence], by rw [hsame, hcontrol, he.control]⟩
  | moved event hkey hsequence hprior hnew hlast hevents _ =>
    have hmore : db'.eventsOf key = db.eventsOf key++[event] := by rw [eventsOf_cons hevents, if_pos hkey]
    constructor
    · rw [hmore, List.map_append, he.sequence, hlast, hsequence, List.range'_1_concat]
      simp [hsequence, Nat.add_comm]
    · rw [hmore, ← hnew]
      apply replay_concat
      rw [he.control, hprior]

/-- Events of one row leave the history of the others. -/
theorem ControlStep.explained_other (h : ControlStep c key row row' db.events db'.events) {k : RolloutKey}
    (hk : k ≠ key) {r : RolloutState} (he : Explained db k r) : Explained db' k r := by
  have hsame : db'.eventsOf k = db.eventsOf k := by
    cases h with
    | kept _ _ hevents => simp [RolloutDb.eventsOf, hevents]
    | moved event hkey _ _ _ _ hevents _ =>
      rw [eventsOf_cons hevents, if_neg]
      rw [hkey]
      exact hk.symm
  exact ⟨by rw [hsame, he.sequence], by rw [hsame, he.control]⟩

theorem Write.guarded (w : Write c key row row' db db') (h : Guarded row) : Guarded row' := by
  have hbreaker : row'.breakerOpen = true → row'.maxAuthorizedPercentage = 0 := by
    intro hopen
    cases w.control with
    | kept hcontrol _ _ =>
      simp only [RolloutState.control, Control.mk.injEq] at hcontrol
      rw [hcontrol.2.1]
      apply h.breaker
      rw [← hcontrol.2.2.1, hopen]
    | moved _ _ _ _ _ _ _ hmove =>
      cases hmove with
      | authorized _ _ hclosed => simp [hclosed] at hopen
      | opened hzero => exact hzero
      | closed _ hzero => exact hzero
  refine ⟨hbreaker,fun hcritical => ?_⟩
  -- only a completion with a critical outcome raises the count, and it leaves the breaker open
  by_cases hsame : row'.postAuditCriticalCount = row.postAuditCriticalCount
  · have hbefore : row.maxAuthorizedPercentage = 0 := h.critical (by omega)
    cases w.control with
    | kept hcontrol _ _ =>
      simp only [RolloutState.control, Control.mk.injEq] at hcontrol
      omega
    | moved _ _ _ _ _ _ _ hmove =>
      cases hmove with
      | authorized _ _ _ hnone => omega
      | opened hzero => exact hzero
      | closed _ hzero => exact hzero
  · apply hbreaker
    cases w.counts with
    | kept hcounters => exact absurd (congrArg Counters.critical hcounters) hsame
    | corrected hcounters => exact absurd (congrArg Counters.critical hcounters) hsame
    | promoted d _ _ _ _ _ _ hcounters => exact absurd (congrArg Counters.critical hcounters) hsame
    | invalidated a d now _ _ _ _ _ hcounters => exact absurd (congrArg Counters.critical hcounters) hsame
    | completed a d outcome f _ _ _ _ _ _ hcounters hopen =>
      apply hopen
      intro hconfirmed
      have hcount := congrArg Counters.critical hcounters
      simp only [hconfirmed, ne_eq, not_true_eq_false, if_false] at hcount
      exact hsame hcount

theorem Write.governed (w : Write c key row row' db db') (h : Governed db) : Governed db' := by
  refine ⟨?_,fun k r hk => ?_,fun k r hk => ?_⟩
  · intro e he
    apply w.rows
    cases w.control with
    | kept _ _ hevents =>
      rw [hevents] at he
      exact h.rows e he
    | moved event hkey _ _ _ _ hevents _ =>
      rw [hevents] at he
      rcases List.mem_cons.mp he with rfl | he
      · rw [hkey]
        exact ⟨row,w.before⟩
      · exact h.rows e he
  · rw [w.after, Function.update_apply] at hk
    split at hk
    · next heq =>
      obtain rfl := Option.some.inj hk
      rw [heq]
      exact w.control.explained (h.explained key row w.before)
    · next hne => exact w.control.explained_other hne (h.explained k r hk)
  · rw [w.after, Function.update_apply] at hk
    split at hk
    · obtain rfl := Option.some.inj hk
      exact w.guarded (h.guarded key row w.before)
    · exact h.guarded k r hk

theorem created_governed (h : Governed db) (hnone : db.rollouts key = none) : Governed (db.setRollout key {}) := by
  refine ⟨fun e he => ?_,fun k r hk => ?_,fun k r hk => ?_⟩
  · obtain ⟨r,hr⟩ := h.rows e he
    have hne : e.key ≠ key := by
      intro heq
      rw [heq, hnone] at hr
      cases hr
    exact ⟨r,by rw [setRollout_rollouts, if_neg hne, hr]⟩
  · rw [setRollout_rollouts] at hk
    split at hk
    · next heq =>
      obtain rfl := Option.some.inj hk
      have hnew : (db.setRollout key {}).eventsOf k = [] := by
        unfold RolloutDb.eventsOf
        rw [List.reverse_eq_nil_iff, List.filter_eq_nil_iff]
        intro e he hkey
        obtain ⟨r,hr⟩ := h.rows e he
        rw [of_decide_eq_true hkey, heq, hnone] at hr
        cases hr
      exact ⟨by rw [hnew]; rfl,by rw [hnew]; rfl⟩
    · have hold := h.explained k r hk
      exact ⟨hold.sequence,hold.control⟩
  · rw [setRollout_rollouts] at hk
    split at hk
    · obtain rfl := Option.some.inj hk
      exact ⟨fun _ => rfl,fun _ => rfl⟩
    · exact h.guarded k r hk

theorem Effect.governed (h : Effect c db db') (hdb : Governed db) : Governed db' := by
  cases h with
  | elsewhere => exact ⟨hdb.rows,fun k r hk => ⟨(hdb.explained k r hk).1,(hdb.explained k r hk).2⟩,hdb.guarded⟩
  | manual => exact ⟨hdb.rows,fun k r hk => ⟨(hdb.explained k r hk).1,(hdb.explained k r hk).2⟩,hdb.guarded⟩
  | finalized => exact ⟨hdb.rows,fun k r hk => ⟨(hdb.explained k r hk).1,(hdb.explained k r hk).2⟩,hdb.guarded⟩
  | created key hnone => exact created_governed hdb hnone
  | write w => exact w.governed hdb

theorem step_governed (hdb : Governed db) (c : Command) : Governed (step db c) := by
  have h := step_chain db c
  generalize step db c = db' at h
  induction h with
  | refl => exact hdb
  | tail _ heffect ih => exact heffect.governed ih

theorem Reachable.governed (h : Reachable db) : Governed db := by
  obtain ⟨commands,rfl⟩ := h
  exact run_invariant (P := Governed) (fun _ c h => step_governed h c) governed_empty commands

end effects

/-! ## Percentages -/

/-- Where one command may take the percentage of a row. -/
def PercentageMove (c : Command) (key : RolloutKey) (p p' : Nat) : Prop :=
  p' = p ∨ p' = 0 ∨ c.Authorizes key ∧ (p = 0 ∧ p' = 10 ∨ p = 10 ∧ p' = 100)

section percentages

variable {c : Command} {db db' : RolloutDb} {key : RolloutKey}

/-- No effect but an authorization raises a percentage. -/
theorem Effect.percentage (h : Effect c db db') (hc : ¬c.Authorizes key) :
    (peekOrDefault db' key).maxAuthorizedPercentage = (peekOrDefault db key).maxAuthorizedPercentage ∨
      (peekOrDefault db' key).maxAuthorizedPercentage = 0 := by
  cases h with
  | elsewhere => exact .inl rfl
  | manual => exact .inl rfl
  | finalized => exact .inl rfl
  | created key' hnone =>
    rw [peek_update rfl]
    split
    · exact .inr rfl
    · exact .inl rfl
  | @write key' row row' _ w =>
    rw [peek_update w.after]
    split
    · next hk =>
      have hrow : peekOrDefault db key = row := by rw [hk, peekOrDefault, w.before, Option.getD_some]
      cases w.control with
      | kept hcontrol _ _ =>
        simp only [RolloutState.control, Control.mk.injEq] at hcontrol
        exact .inl (by rw [hcontrol.2.1, hrow])
      | moved _ _ _ _ _ _ _ hmove =>
        cases hmove with
        | authorized hauth => exact absurd (hk ▸ hauth) hc
        | opened hzero => exact .inr hzero
        | closed _ hzero => exact .inr hzero
    · exact .inl rfl

theorem step_percentage (db : RolloutDb) (c : Command) (key : RolloutKey) :
    PercentageMove c key (peekOrDefault db key).maxAuthorizedPercentage
      (peekOrDefault (step db c) key).maxAuthorizedPercentage := by
  by_cases hc : c.Authorizes key
  · obtain ⟨settings,input,percentage,rfl,rfl⟩ := hc
    unfold step
    cases hrun : (Command.authorizePercentage settings input percentage).run db with
    | error e db' => exact .inl rfl
    | ok u db' =>
      have hspec := wp_ok (wp_discard (P := fun db' => ∃ authorized,
        (snapshot input.key (peekOrDefault db input.key)).requireAuthorizationTransition percentage = .ok authorized ∧
          (peekOrDefault db' input.key).maxAuthorizedPercentage = authorized)
        (wp_mono (authorizePercentage_spec settings input percentage) (fun _ _ h => h.2.1) fun _ _ _ => trivial)) hrun
      obtain ⟨authorized,hgate,hafter⟩ := hspec
      dsimp only
      rw [hafter]
      exact .inr (.inr ⟨⟨settings,input,percentage,rfl,rfl⟩,(authorization_spec hgate).2.2⟩)
  · have h := step_chain db c
    generalize step db c = db' at h
    have hmove : (peekOrDefault db' key).maxAuthorizedPercentage = (peekOrDefault db key).maxAuthorizedPercentage ∨
        (peekOrDefault db' key).maxAuthorizedPercentage = 0 := by
      induction h with
      | refl => exact .inl rfl
      | tail _ heffect ih =>
        rcases heffect.percentage hc with hsame | hzero
        · rwa [hsame]
        · exact .inr hzero
    rcases hmove with hsame | hzero
    · exact .inl hsame
    · exact .inr (.inl hzero)

/-- Critical outcomes are never taken back. -/
theorem Effect.critical_le (h : Effect c db db') :
    (peekOrDefault db key).postAuditCriticalCount ≤ (peekOrDefault db' key).postAuditCriticalCount := by
  cases h with
  | elsewhere => exact le_rfl
  | manual => exact le_rfl
  | finalized => exact le_rfl
  | created key' hnone =>
    have hpeek : peekOrDefault (db.setRollout key' {}) key = if key = key' then {} else peekOrDefault db key :=
      peek_update rfl
    rw [hpeek]
    split
    · next hk => simp [hk, peekOrDefault, hnone]
    · exact le_rfl
  | @write key' row row' _ w =>
    rw [peek_update w.after]
    split
    · next hk =>
      have hrow : peekOrDefault db key = row := by rw [hk, peekOrDefault, w.before, Option.getD_some]
      rw [hrow]
      change row.counters.critical ≤ row'.counters.critical
      cases w.counts with
      | kept hcounters => rw [hcounters]
      | corrected hcounters => rw [hcounters]
      | promoted d _ _ _ _ _ _ hcounters => rw [hcounters]
      | invalidated a d now _ _ _ _ _ hcounters => rw [hcounters]
      | completed a d outcome f _ _ _ _ _ _ hcounters =>
        rw [hcounters]
        dsimp only
        split <;> omega
    · exact le_rfl

theorem step_critical_le (db : RolloutDb) (c : Command) (key : RolloutKey) :
    (peekOrDefault db key).postAuditCriticalCount ≤ (peekOrDefault (step db c) key).postAuditCriticalCount := by
  have h := step_chain db c
  generalize step db c = db' at h
  induction h with
  | refl => exact le_rfl
  | tail _ heffect ih => exact ih.trans heffect.critical_le

theorem Governed.guarded_peek (h : Governed db) (key : RolloutKey) : Guarded (peekOrDefault db key) := by
  cases hrow : db.rollouts key with
  | none =>
    rw [peekOrDefault, hrow]
    exact ⟨fun _ => rfl,fun _ => rfl⟩
  | some row =>
    rw [peekOrDefault, hrow]
    exact h.guarded key row hrow

/-- After a critical outcome no run brings a percentage back. -/
theorem run_percentage_zero (h : Governed db) (hcritical : 0 < (peekOrDefault db key).postAuditCriticalCount)
    (cs : List Command) : (peekOrDefault (run step db cs) key).maxAuthorizedPercentage = 0 := by
  induction cs generalizing db with
  | nil => exact (h.guarded_peek key).critical hcritical
  | cons c cs ih =>
    apply ih (step_governed h c)
    have hle := step_critical_le db c key
    omega

end percentages

/-! ## The invariant of the rollout -/

/-- What the counters, the control fields and the events of every scope and policy are. -/
structure Sound (db : RolloutDb) : Prop where
  oneDecision : (db.decisions.map (·.reviewItemId)).Nodup
  oneAudit : (db.audits.map (·.reviewItemId)).Nodup
  ordinals : ∀ key, ((db.decisionsOf key).map (·.promotionOrdinal)).reverse =
    List.range' 1 (peekOrDefault db key).enforcePromotionOrdinal
  pending : ∀ key, (peekOrDefault db key).pendingMandatoryAuditCount = db.auditCount key PostAudit.mandatoryPending
  confirmed : ∀ key, (peekOrDefault db key).confirmedMandatoryAuditCount =
    db.auditCount key PostAudit.mandatoryConfirmed
  slots : ∀ key, (peekOrDefault db key).pendingMandatoryAuditCount+
    (peekOrDefault db key).confirmedMandatoryAuditCount ≤ 50
  breaker : ∀ key, (peekOrDefault db key).breakerOpen = true → (peekOrDefault db key).maxAuthorizedPercentage = 0
  percentage : ∀ key c, PercentageMove c key (peekOrDefault db key).maxAuthorizedPercentage
    (peekOrDefault (step db c) key).maxAuthorizedPercentage
  critical : ∀ key, 0 < (peekOrDefault db key).postAuditCriticalCount →
    ∀ cs, (peekOrDefault (run step db cs) key).maxAuthorizedPercentage = 0
  history : ∀ key, Explained db key (peekOrDefault db key)

theorem RolloutDb.Consistent.counted_peek {db : RolloutDb} (h : db.Consistent) (key : RolloutKey) :
    db.Counted key (peekOrDefault db key).counters := by
  cases hrow : db.rollouts key with
  | none =>
    rw [peekOrDefault, hrow]
    exact h.tables.counted_new hrow
  | some row =>
    rw [peekOrDefault, hrow]
    exact h.counted key row hrow

theorem Governed.explained_peek {db : RolloutDb} (h : Governed db) (key : RolloutKey) :
    Explained db key (peekOrDefault db key) := by
  cases hrow : db.rollouts key with
  | none =>
    have hnone : db.eventsOf key = [] := by
      unfold RolloutDb.eventsOf
      rw [List.reverse_eq_nil_iff, List.filter_eq_nil_iff]
      intro e he hkey
      obtain ⟨r,hr⟩ := h.rows e he
      rw [of_decide_eq_true hkey, hrow] at hr
      cases hr
    rw [peekOrDefault, hrow]
    exact ⟨by rw [hnone]; rfl,by rw [hnone]; rfl⟩
  | some row =>
    rw [peekOrDefault, hrow]
    exact h.explained key row hrow

/-- Every reachable database keeps its counters, its control fields and its control events in step. -/
theorem rollout_sound {db : RolloutDb} (h : Reachable db) : Sound db := by
  have hcounts := h.consistent
  have hcontrol := h.governed
  refine ⟨hcounts.tables.decisionItems,hcounts.tables.auditItems,fun key => ?_,fun key => (hcounts.counted_peek key).pending,
    fun key => (hcounts.counted_peek key).confirmed,fun key => ?_,fun key => (hcontrol.guarded_peek key).breaker,
    fun key c => step_percentage db c key,fun key hcritical cs => run_percentage_zero hcontrol hcritical cs,
    hcontrol.explained_peek⟩
  · rw [(hcounts.counted_peek key).ordinals, List.reverse_reverse]
    rfl
  · have hslots := (hcounts.counted_peek key).slots
    rw [Nat.add_comm]
    exact hslots

theorem rollout_sound_created : Sound (step .empty (.ensureRow ⟨[1],[2]⟩)) :=
  rollout_sound ⟨[.ensureRow ⟨[1],[2]⟩],rfl⟩

end ParaWorks.Rollout
