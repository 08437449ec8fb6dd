import ParaWorks.Rollout.Effects

/-!
# What the counters count

The counters of every rollout row are the numbers of decisions and audits of its scope and policy, in
every reachable database.
-/

namespace ParaWorks.Rollout

open Lib

def AuditOutcome.critical (o : AuditOutcome) : Bool := o ≠ .confirmed

namespace PostAudit

variable (a : PostAudit)

def sampled : Bool := a.sampleCohort ≠ .manual

def isPending : Bool := a.status = .pending

/-- A human has given the outcome. -/
def audited : Bool := a.outcome ≠ none

def critical : Bool := a.outcome.any AuditOutcome.critical

/-- Settled as `source_invalidated_before_audit`. -/
def invalidatedBeforeAudit : Bool := a.systemResolutionCode = some .sourceInvalidatedBeforeAudit

def mandatoryConfirmed : Bool := a.sampleCohort = .first50 && a.outcome = some .confirmed

def mandatoryPending : Bool := a.sampleCohort = .first50 && a.isPending

/-- The states `ck_auto_review_post_audits_terminal_outcome` allows. -/
structure Shaped : Prop where
  pending : a.status = .pending → a.outcome = none
  remediation : a.status = .remediationRequired → a.critical
  invalidated : a.invalidatedBeforeAudit = (!a.isPending && !a.audited)

end PostAudit

namespace RolloutDb

variable (db : RolloutDb)

/-- The audits of a scope and policy with a property. -/
def auditCount (key : RolloutKey) (p : PostAudit → Bool) : Nat :=
  db.audits.countP fun a => db.auditKey a = some key && p a

def decisionsOf (key : RolloutKey) : List PromotionDecision := db.decisions.filter (·.key = key)

/-- The audit belongs to the decision of its item and has its cohort, or is a manual one of an unselected item. -/
def Linked (a : PostAudit) : Prop :=
  ∃ d, db.decision a.promotionDecisionId = some d ∧ d.reviewItemId = a.reviewItemId ∧
    ((a.sampleCohort = d.selectionResult ∧ d.selectionResult ≠ .notSelected) ∨
      (a.sampleCohort = .manual ∧ d.selectionResult = .notSelected))

/-- The counters of a row against the rows they count. -/
structure Counted (key : RolloutKey) (n : Counters) : Prop where
  ordinals : (db.decisionsOf key).map (·.promotionOrdinal) = (List.range' 1 n.ordinal).reverse
  selected : n.selected = db.auditCount key PostAudit.sampled
  completed : n.completed = db.auditCount key PostAudit.audited
  critical : n.critical = db.auditCount key PostAudit.critical
  confirmed : n.confirmed = db.auditCount key PostAudit.mandatoryConfirmed
  pending : n.pending = db.auditCount key PostAudit.mandatoryPending
  invalidated : n.invalidated = db.auditCount key PostAudit.invalidatedBeforeAudit
  slots : n.confirmed+n.pending ≤ 50

/-- What the tables refer to. -/
structure Tables : Prop where
  decisionIds : ∀ d ∈ db.decisions, d.id ≤ db.decisions.length
  decisionsOnce : (db.decisions.map (·.id)).Nodup
  decisionItems : (db.decisions.map (·.reviewItemId)).Nodup
  auditIds : ∀ a ∈ db.audits, a.id ≤ db.audits.length
  auditsOnce : (db.audits.map (·.id)).Nodup
  auditItems : (db.audits.map (·.reviewItemId)).Nodup
  rows : ∀ d ∈ db.decisions, ∃ row, db.rollouts d.key = some row
  linked : ∀ a ∈ db.audits, db.Linked a
  shaped : ∀ a ∈ db.audits, a.Shaped
  contexts : ∀ x ∈ db.contexts, x.remediationKind = .audit → ∃ a ∈ db.audits, a.id = x.remediationId ∧ a.critical

structure Consistent : Prop where
  tables : db.Tables
  selection : ∀ d ∈ db.decisions, d.selectionResult ≠ .manual ∧
    (d.selectionResult ≠ .notSelected → ∃ a ∈ db.audits, a.reviewItemId = d.reviewItemId)
  counted : ∀ key row, db.rollouts key = some row → db.Counted key row.counters

end RolloutDb

theorem consistent_empty : RolloutDb.empty.Consistent := by
  refine ⟨⟨?_,?_,?_,?_,?_,?_,?_,?_,?_,?_⟩,?_,?_⟩ <;> simp [RolloutDb.empty]

/-! ## Counts under a change of one table -/

section counts

variable {db db' : RolloutDb} {key : RolloutKey} {p : PostAudit → Bool}

theorem auditKey_congr (hd : db'.decisions = db.decisions) : db'.auditKey = db.auditKey := by
  funext a
  rw [RolloutDb.auditKey,RolloutDb.decision,hd]
  rfl

theorem auditCount_congr (hd : db'.decisions = db.decisions) (ha : db'.audits = db.audits) :
    db'.auditCount key p = db.auditCount key p := by
  rw [RolloutDb.auditCount,auditKey_congr hd,ha]
  rfl

theorem decision_cons {d : PromotionDecision} {id : Nat} (hd : db'.decisions = d::db.decisions) :
    db'.decision id = if d.id = id then some d else db.decision id := by
  rw [RolloutDb.decision,hd,List.find?_cons]
  by_cases h : d.id = id <;> simp [h,RolloutDb.decision]

theorem auditCount_cons {a : PostAudit} (hd : db'.decisions = db.decisions) (ha : db'.audits = a::db.audits) :
    db'.auditCount key p = db.auditCount key p+if db.auditKey a = some key && p a then 1 else 0 := by
  rw [RolloutDb.auditCount,auditKey_congr hd,ha,List.countP_cons]
  rfl

namespace RolloutDb.Tables

variable (h : db.Tables)

include h

theorem decision_of_mem {d : PromotionDecision} (hd : d ∈ db.decisions) : db.decision d.id = some d :=
  find?_of_nodup h.decisionsOnce hd

theorem audit_unique {a b : PostAudit} (ha : a ∈ db.audits) (hb : b ∈ db.audits) (hid : a.id = b.id) : a = b :=
  List.inj_on_of_nodup_map h.auditsOnce ha hb hid

/-- A new decision takes no audit from another one. -/
theorem decision_old {d : PromotionDecision} (hd : db'.decisions = d::db.decisions)
    (hid : d.id = db.decisions.length+1) {id : Nat} {e : PromotionDecision} (he : db.decision id = some e) :
    db'.decision id = some e := by
  obtain ⟨hmem,rfl⟩ := decision_spec he
  have hle := h.decisionIds e hmem
  rw [decision_cons hd,if_neg (by omega),he]

theorem auditKey_old {d : PromotionDecision} (hd : db'.decisions = d::db.decisions)
    (hid : d.id = db.decisions.length+1) {a : PostAudit} (ha : a ∈ db.audits) : db'.auditKey a = db.auditKey a := by
  obtain ⟨e,he,-⟩ := h.linked a ha
  rw [RolloutDb.auditKey,h.decision_old hd hid he,RolloutDb.auditKey,he]

/-- A decision adds its audit's count to those of the earlier audits. -/
theorem auditCount_old {d : PromotionDecision} (hd : db'.decisions = d::db.decisions)
    (hid : d.id = db.decisions.length+1) :
    db.audits.countP (fun a => db'.auditKey a = some key && p a) = db.auditCount key p := by
  refine List.countP_congr fun a ha => ?_
  rw [h.auditKey_old hd hid ha]

theorem auditCount_update (key : RolloutKey) {a : PostAudit} (ha : a ∈ db.audits) {f : PostAudit → PostAudit}
    (hf : ∀ b, (f b).promotionDecisionId = b.promotionDecisionId) (hd : db'.decisions = db.decisions)
    (haudits : db'.audits = (db.updateAudit a.id f).audits) :
    db'.auditCount key p+(if db.auditKey a = some key && p a then 1 else 0) =
      db.auditCount key p+if db.auditKey a = some key && p (f a) then 1 else 0 := by
  have hcount := countP_update h.auditsOnce ha f fun b => db.auditKey b = some key && p b
  have hkey : db.auditKey (f a) = db.auditKey a := by rw [RolloutDb.auditKey,hf,RolloutDb.auditKey]
  rw [hkey] at hcount
  rw [RolloutDb.auditCount,auditKey_congr hd,haudits]
  exact hcount

/-! ## What the tables keep -/

theorem of_same (hd : db'.decisions = db.decisions) (ha : db'.audits = db.audits)
    (hrows : ∀ k, (∃ row, db.rollouts k = some row) → ∃ row, db'.rollouts k = some row)
    (hx : ∀ x ∈ db'.contexts, x ∈ db.contexts ∨ Remediable db x) : db'.Tables := by
  refine ⟨?_,?_,?_,?_,?_,?_,?_,?_,?_,?_⟩
  · rw [hd]
    exact h.decisionIds
  · rw [hd]
    exact h.decisionsOnce
  · rw [hd]
    exact h.decisionItems
  · rw [ha]
    exact h.auditIds
  · rw [ha]
    exact h.auditsOnce
  · rw [ha]
    exact h.auditItems
  · rw [hd]
    exact fun d hmem => hrows _ (h.rows d hmem)
  · rw [ha]
    intro a hmem
    rw [RolloutDb.Linked,RolloutDb.decision,hd]
    exact h.linked a hmem
  · rw [ha]
    exact h.shaped
  · rw [ha]
    intro x hmem hkind
    rcases hx x hmem with hold | hnew
    · exact h.contexts x hold hkind
    · obtain ⟨a,hmem,hid,hstatus | ⟨o,ho,hcritical⟩⟩ := hnew hkind
      · exact ⟨a,hmem,hid,(h.shaped a hmem).remediation hstatus⟩
      · exact ⟨a,hmem,hid,by simp [PostAudit.critical,AuditOutcome.critical,ho,hcritical]⟩

/-- An audit of an item that has none. -/
theorem cons_audit {a : PostAudit} (hd : db'.decisions = db.decisions) (ha : db'.audits = a::db.audits)
    (hrows : db'.rollouts = db.rollouts) (hx : db'.contexts = db.contexts) (hid : a.id = db.audits.length+1)
    (hfresh : db.auditOfItem a.reviewItemId = none) (hlink : db.Linked a) (hshape : a.Shaped) : db'.Tables := by
  refine ⟨?_,?_,?_,?_,?_,?_,?_,?_,?_,?_⟩
  · rw [hd]
    exact h.decisionIds
  · rw [hd]
    exact h.decisionsOnce
  · rw [hd]
    exact h.decisionItems
  · rw [ha,List.length_cons]
    rintro b hb
    rcases List.mem_cons.mp hb with rfl | hb
    · exact hid.le
    · exact (h.auditIds b hb).trans (Nat.le_succ _)
  · rw [ha,List.map_cons,List.nodup_cons]
    refine ⟨fun hmem => ?_,h.auditsOnce⟩
    obtain ⟨b,hb,heq⟩ := List.mem_map.mp hmem
    have hle := h.auditIds b hb
    omega
  · rw [ha,List.map_cons,List.nodup_cons]
    refine ⟨fun hmem => ?_,h.auditItems⟩
    obtain ⟨b,hb,heq⟩ := List.mem_map.mp hmem
    exact find?_none_iff.mp hfresh b hb heq
  · rw [hd,hrows]
    exact h.rows
  · rw [ha]
    intro b hb
    rw [RolloutDb.Linked,RolloutDb.decision,hd]
    rcases List.mem_cons.mp hb with rfl | hb
    · exact hlink
    · exact h.linked b hb
  · rw [ha]
    intro b hb
    rcases List.mem_cons.mp hb with rfl | hb
    · exact hshape
    · exact h.shaped b hb
  · rw [ha,hx]
    intro x hmem hkind
    obtain ⟨b,hb,hbx⟩ := h.contexts x hmem hkind
    exact ⟨b,List.mem_cons_of_mem _ hb,hbx⟩

/-- A decision of an item that has none, on an existing row. -/
theorem cons_decision {d : PromotionDecision} (hd : db'.decisions = d::db.decisions) (ha : db'.audits = db.audits)
    (hrows : ∀ k, (∃ row, db.rollouts k = some row) → ∃ row, db'.rollouts k = some row)
    (hx : db'.contexts = db.contexts) (hid : d.id = db.decisions.length+1)
    (hfresh : db.decisionOfItem d.reviewItemId = none) (hrow : ∃ row, db.rollouts d.key = some row) :
    db'.Tables := by
  refine ⟨?_,?_,?_,?_,?_,?_,?_,?_,?_,?_⟩
  · rw [hd,List.length_cons]
    rintro e he
    rcases List.mem_cons.mp he with rfl | he
    · exact hid.le
    · exact (h.decisionIds e he).trans (Nat.le_succ _)
  · rw [hd,List.map_cons,List.nodup_cons]
    refine ⟨fun hmem => ?_,h.decisionsOnce⟩
    obtain ⟨e,he,heq⟩ := List.mem_map.mp hmem
    have hle := h.decisionIds e he
    omega
  · rw [hd,List.map_cons,List.nodup_cons]
    refine ⟨fun hmem => ?_,h.decisionItems⟩
    obtain ⟨e,he,heq⟩ := List.mem_map.mp hmem
    exact find?_none_iff.mp hfresh e he heq
  · rw [ha]
    exact h.auditIds
  · rw [ha]
    exact h.auditsOnce
  · rw [ha]
    exact h.auditItems
  · rw [hd]
    intro e he
    rcases List.mem_cons.mp he with rfl | he
    · exact hrows _ hrow
    · exact hrows _ (h.rows e he)
  · rw [ha]
    intro a hmem
    obtain ⟨e,he,hlink⟩ := h.linked a hmem
    exact ⟨e,h.decision_old hd hid he,hlink⟩
  · rw [ha]
    exact h.shaped
  · rw [ha,hx]
    exact h.contexts

/-- A rewritten audit keeps what refers to it. -/
theorem update {a : PostAudit} {f : PostAudit → PostAudit} (hmem : a ∈ db.audits) (hd : db'.decisions = db.decisions)
    (ha : db'.audits = (db.updateAudit a.id f).audits)
    (hrows : ∀ k, (∃ row, db.rollouts k = some row) → ∃ row, db'.rollouts k = some row)
    (hx : db'.contexts = db.contexts) (hf : KeepsIdentity f) (hshape : (f a).Shaped)
    (hcritical : a.critical → (f a).critical) : db'.Tables := by
  have hlength : db'.audits.length = db.audits.length := by
    rw [ha]
    exact List.length_map _
  have hother : ∀ {b}, b ∈ db'.audits → b = f a ∨ b ∈ db.audits := by
    intro b hb
    rw [ha] at hb
    rcases mem_map_update.mp hb with ⟨x,hx,hid,rfl⟩ | ⟨hb,-⟩
    · exact .inl (congrArg f (h.audit_unique hx hmem hid))
    · exact .inr hb
  refine ⟨?_,?_,?_,?_,?_,?_,?_,?_,?_,?_⟩
  · rw [hd]
    exact h.decisionIds
  · rw [hd]
    exact h.decisionsOnce
  · rw [hd]
    exact h.decisionItems
  · rw [hlength]
    intro b hb
    rcases hother hb with rfl | hb
    · rw [hf.id]
      exact h.auditIds a hmem
    · exact h.auditIds b hb
  · rw [ha,RolloutDb.updateAudit,map_map_update hf.id]
    exact h.auditsOnce
  · rw [ha,RolloutDb.updateAudit,map_map_update hf.item]
    exact h.auditItems
  · rw [hd]
    exact fun d hmem => hrows _ (h.rows d hmem)
  · intro b hb
    rw [RolloutDb.Linked,RolloutDb.decision,hd]
    rcases hother hb with rfl | hb
    · rw [hf.decision,hf.item,hf.cohort]
      exact h.linked a hmem
    · exact h.linked b hb
  · intro b hb
    rcases hother hb with rfl | hb
    · exact hshape
    · exact h.shaped b hb
  · rw [hx]
    intro x hxmem hkind
    obtain ⟨b,hb,hid,hbx⟩ := h.contexts x hxmem hkind
    rw [ha]
    by_cases hba : b.id = a.id
    · obtain rfl := h.audit_unique hb hmem hba
      exact ⟨f b,mem_map_update.mpr (.inl ⟨b,hb,rfl,rfl⟩),(hf.id b).trans hid,hcritical hbx⟩
    · exact ⟨b,mem_map_update.mpr (.inr ⟨hb,hba⟩),hid,hbx⟩

theorem auditCount_self {a : PostAudit} (ha : a ∈ db.audits) {f : PostAudit → PostAudit} (hf : KeepsIdentity f)
    (hd : db'.decisions = db.decisions) (haudits : db'.audits = (db.updateAudit a.id f).audits)
    (hkey : db.auditKey a = some key) (p : PostAudit → Bool) :
    db'.auditCount key p+(if p a then 1 else 0) = db.auditCount key p+if p (f a) then 1 else 0 := by
  have hcount := h.auditCount_update (p := p) key ha hf.decision hd haudits
  simpa only [hkey,decide_true,Bool.true_and] using hcount

theorem auditCount_other {a : PostAudit} (ha : a ∈ db.audits) {f : PostAudit → PostAudit} (hf : KeepsIdentity f)
    (hd : db'.decisions = db.decisions) (haudits : db'.audits = (db.updateAudit a.id f).audits)
    (hkey : db.auditKey a ≠ some key) (p : PostAudit → Bool) : db'.auditCount key p = db.auditCount key p := by
  have hcount := h.auditCount_update (p := p) key ha hf.decision hd haudits
  simpa [hkey] using hcount

/-- The audits a promotion leaves. -/
theorem auditCount_promoted (key : RolloutKey) {d : PromotionDecision} {a : PostAudit} (hd : db'.decisions = d::db.decisions)
    (hid : d.id = db.decisions.length+1)
    (ha : db'.audits = if d.selectionResult ≠ .notSelected then a::db.audits else db.audits)
    (hlink : a.promotionDecisionId = d.id) (p : PostAudit → Bool) :
    db'.auditCount key p = db.auditCount key p+
      if d.selectionResult ≠ .notSelected ∧ d.key = key ∧ p a then 1 else 0 := by
  have hkey : db'.auditKey a = some d.key := by
    rw [RolloutDb.auditKey,hlink,decision_cons hd,if_pos rfl,Option.map_some]
  rw [RolloutDb.auditCount,ha]
  by_cases hselected : d.selectionResult = .notSelected
  · simpa [hselected] using h.auditCount_old hd hid
  · rw [if_pos hselected,List.countP_cons,h.auditCount_old hd hid,hkey]
    simp [hselected]

end RolloutDb.Tables

/-! ## What the rows count -/

theorem RolloutDb.Counted.congr {n : Counters} (h : db.Counted key n) (hd : db'.decisionsOf key = db.decisionsOf key)
    (hcount : ∀ p, db'.auditCount key p = db.auditCount key p) : db'.Counted key n := by
  refine ⟨?_,?_,?_,?_,?_,?_,?_,h.slots⟩
  · rw [hd]
    exact h.ordinals
  all_goals rw [hcount]
  · exact h.selected
  · exact h.completed
  · exact h.critical
  · exact h.confirmed
  · exact h.pending
  · exact h.invalidated

theorem decisionsOf_congr (hd : db'.decisions = db.decisions) : db'.decisionsOf key = db.decisionsOf key := by
  rw [RolloutDb.decisionsOf,hd,RolloutDb.decisionsOf]

/-- A new manual audit counts for nothing. -/
theorem RolloutDb.Counted.cons_manual {n : Counters} {a : PostAudit} (h : db.Counted key n)
    (hd : db'.decisions = db.decisions) (ha : db'.audits = a::db.audits) (hcohort : a.sampleCohort = .manual)
    (houtcome : a.outcome = none) (hcode : a.systemResolutionCode = none) :
    db'.Counted key n := by
  have hsame : ∀ p : PostAudit → Bool, p a = false → db'.auditCount key p = db.auditCount key p := by
    intro p hp
    rw [auditCount_cons hd ha,hp,Bool.and_false,if_neg Bool.false_ne_true,Nat.add_zero]
  refine ⟨?_,?_,?_,?_,?_,?_,?_,h.slots⟩
  · rw [decisionsOf_congr hd]
    exact h.ordinals
  · rw [h.selected,hsame]
    simp [PostAudit.sampled,hcohort]
  · rw [h.completed,hsame]
    simp [PostAudit.audited,houtcome]
  · rw [h.critical,hsame]
    simp [PostAudit.critical,houtcome]
  · rw [h.confirmed,hsame]
    simp [PostAudit.mandatoryConfirmed,houtcome]
  · rw [h.pending,hsame]
    simp [PostAudit.mandatoryPending,hcohort]
  · rw [h.invalidated,hsame]
    simp [PostAudit.invalidatedBeforeAudit,hcode]

theorem RolloutDb.Linked.first50 {a : PostAudit} {d : PromotionDecision} (h : db.Linked a)
    (hd : db.decision a.promotionDecisionId = some d) :
    a.sampleCohort = .first50 ↔ d.selectionResult = .first50 := by
  obtain ⟨e,he,-,⟨hcohort,-⟩ | ⟨hcohort,hresult⟩⟩ := h
  · obtain rfl := Option.some.inj (hd.symm.trans he)
    rw [hcohort]
  · obtain rfl := Option.some.inj (hd.symm.trans he)
    simp [hcohort,hresult]

/-- A row the tables have no decision of. -/
theorem RolloutDb.Tables.counted_new (h : db.Tables) (hnone : db.rollouts key = none) :
    db.Counted key ({} : RolloutState).counters := by
  have hdecisions : ∀ d ∈ db.decisions, d.key ≠ key := by
    rintro d hd rfl
    obtain ⟨row,hrow⟩ := h.rows d hd
    exact absurd (hnone.symm.trans hrow) (by simp)
  have hcount : ∀ p, db.auditCount key p = 0 := by
    intro p
    refine List.countP_eq_zero.mpr fun a ha => ?_
    obtain ⟨d,hd,-⟩ := h.linked a ha
    simp [RolloutDb.auditKey,hd,hdecisions d (decision_spec hd).1]
  refine ⟨?_,(hcount _).symm,(hcount _).symm,(hcount _).symm,(hcount _).symm,(hcount _).symm,(hcount _).symm,?_⟩
  · rw [RolloutDb.decisionsOf,List.filter_eq_nil_iff.mpr]
    · rfl
    · exact fun d hd => by simpa using hdecisions d hd
  · exact Nat.zero_le 50

theorem RolloutDb.Tables.counted_promoted (h : db.Tables) {d : PromotionDecision} {a : PostAudit} {n n' : Counters}
    (hn : db.Counted d.key n) (hd : db'.decisions = d::db.decisions) (hid : d.id = db.decisions.length+1)
    (ha : db'.audits = if d.selectionResult ≠ .notSelected then a::db.audits else db.audits)
    (hlink : a.promotionDecisionId = d.id) (hcohort : a.sampleCohort = d.selectionResult)
    (hresult : d.selectionResult ≠ .manual) (hpending : a.status = .pending) (houtcome : a.outcome = none)
    (hcode : a.systemResolutionCode = none) (hordinal : d.promotionOrdinal = n.ordinal+1)
    (hslots : d.selectionResult = .first50 → n.confirmed+n.pending < 50)
    (hcounters : n' = { n with
      ordinal := d.promotionOrdinal
      selected := if d.selectionResult ≠ .notSelected then n.selected+1 else n.selected
      pending := if d.selectionResult = .first50 then n.pending+1 else n.pending }) : db'.Counted d.key n' := by
  have hcount := h.auditCount_promoted d.key hd hid ha hlink
  subst hcounters
  refine ⟨?_,?_,?_,?_,?_,?_,?_,?_⟩
  · have hold := hn.ordinals
    rw [RolloutDb.decisionsOf] at hold
    rw [RolloutDb.decisionsOf,hd,List.filter_cons,if_pos (decide_eq_true rfl),List.map_cons,hold,hordinal,
      List.range'_1_concat,List.reverse_append,List.reverse_singleton,List.singleton_append,Nat.add_comm 1]
  · rw [hcount,← hn.selected]
    by_cases hselected : d.selectionResult = .notSelected <;> simp [PostAudit.sampled,hcohort,hresult,hselected]
  · rw [hcount,← hn.completed]
    simp [PostAudit.audited,houtcome]
  · rw [hcount,← hn.critical]
    simp [PostAudit.critical,houtcome]
  · rw [hcount,← hn.confirmed]
    simp [PostAudit.mandatoryConfirmed,houtcome]
  · rw [hcount,← hn.pending]
    by_cases hfirst : d.selectionResult = .first50 <;>
      simp [PostAudit.mandatoryPending,PostAudit.isPending,hcohort,hpending,hfirst]
  · rw [hcount,← hn.invalidated]
    simp [PostAudit.invalidatedBeforeAudit,hcode]
  · have hold := hn.slots
    dsimp only
    split
    · next hfirst =>
      have hfree := hslots hfirst
      omega
    · exact hold

/-- How the counts answer to one rewritten audit of the scope and policy. -/
structure CountsMove (db db' : RolloutDb) (key : RolloutKey) (a b : PostAudit) : Prop where
  decisions : db'.decisions = db.decisions
  count : ∀ p, db'.auditCount key p+(if p a then 1 else 0) = db.auditCount key p+if p b then 1 else 0
  cohort : b.sampled = a.sampled

theorem RolloutDb.Tables.countsMove (h : db.Tables) {a : PostAudit} {d : PromotionDecision} {f : PostAudit → PostAudit}
    (hmem : a ∈ db.audits) (hdecision : db.decision a.promotionDecisionId = some d) (hf : KeepsIdentity f)
    (hd : db'.decisions = db.decisions) (ha : db'.audits = (db.updateAudit a.id f).audits) :
    CountsMove db db' d.key a (f a) := by
  refine ⟨hd,h.auditCount_self hmem hf hd ha ?_,?_⟩
  · rw [RolloutDb.auditKey,hdecision,Option.map_some]
  · rw [PostAudit.sampled,hf.cohort,PostAudit.sampled]

/-- The counters follow an audit that was pending. -/
theorem CountsMove.settled {a b : PostAudit} {n n' : Counters} (h : CountsMove db db' key a b)
    (hn : db.Counted key n) (hshape : a.Shaped) (hpending : a.status = .pending) (hsettled : b.status ≠ .pending)
    (hcohort : b.sampleCohort = a.sampleCohort) (hordinal : n'.ordinal = n.ordinal)
    (hselected : n'.selected = n.selected)
    (hcompleted : n'.completed = n.completed+if b.audited then 1 else 0)
    (hcritical : n'.critical = n.critical+if b.critical then 1 else 0)
    (hconfirmed : n'.confirmed = n.confirmed+if b.mandatoryConfirmed then 1 else 0)
    (hslot : n'.pending+(if a.sampleCohort = .first50 then 1 else 0) = n.pending)
    (hinvalidated : n'.invalidated = n.invalidated+if b.invalidatedBeforeAudit then 1 else 0) :
    db'.Counted key n' := by
  have houtcome := hshape.pending hpending
  have hbefore : a.audited = false ∧ a.critical = false ∧ a.mandatoryConfirmed = false ∧
      a.invalidatedBeforeAudit = false := by
    simp [PostAudit.audited,PostAudit.critical,PostAudit.mandatoryConfirmed,hshape.invalidated,PostAudit.isPending,
      houtcome,hpending]
  have hmandatory : a.mandatoryPending = decide (a.sampleCohort = .first50) := by
    simp [PostAudit.mandatoryPending,PostAudit.isPending,hpending]
  have hmandatory' : b.mandatoryPending = false := by
    simp [PostAudit.mandatoryPending,PostAudit.isPending,hsettled]
  refine ⟨?_,?_,?_,?_,?_,?_,?_,?_⟩
  · rw [RolloutDb.decisionsOf,h.decisions,hordinal]
    exact hn.ordinals
  · have hnew := h.count PostAudit.sampled
    rw [h.cohort,Nat.add_right_cancel_iff] at hnew
    rw [hselected,hnew,hn.selected]
  · have hnew := h.count PostAudit.audited
    rw [hbefore.1,if_neg Bool.false_ne_true,← hn.completed,← hcompleted] at hnew
    exact hnew.symm
  · have hnew := h.count PostAudit.critical
    rw [hbefore.2.1,if_neg Bool.false_ne_true,← hn.critical,← hcritical] at hnew
    exact hnew.symm
  · have hnew := h.count PostAudit.mandatoryConfirmed
    rw [hbefore.2.2.1,if_neg Bool.false_ne_true,← hn.confirmed,← hconfirmed] at hnew
    exact hnew.symm
  · have hnew := h.count PostAudit.mandatoryPending
    rw [hmandatory,hmandatory',if_neg Bool.false_ne_true,← hn.pending] at hnew
    simp only [decide_eq_true_eq] at hnew
    omega
  · have hnew := h.count PostAudit.invalidatedBeforeAudit
    rw [hbefore.2.2.2,if_neg Bool.false_ne_true,← hn.invalidated,← hinvalidated] at hnew
    exact hnew.symm
  · have hold := hn.slots
    have hone : b.mandatoryConfirmed = true → a.sampleCohort = .first50 := by
      rw [PostAudit.mandatoryConfirmed,Bool.and_eq_true,hcohort]
      exact fun hb => of_decide_eq_true hb.1
    rw [hconfirmed]
    split
    · next hb =>
      rw [if_pos (hone hb)] at hslot
      omega
    · omega

theorem CountsMove.unchanged {a b : PostAudit} {n : Counters} (h : CountsMove db db' key a b) (hn : db.Counted key n)
    (hcohort : b.sampleCohort = a.sampleCohort) (houtcome : b.outcome = a.outcome)
    (hpending : b.isPending = a.isPending) (hcode : b.invalidatedBeforeAudit = a.invalidatedBeforeAudit) :
    db'.Counted key n := by
  have hsame : ∀ p : PostAudit → Bool, p b = p a → db'.auditCount key p = db.auditCount key p := by
    intro p hp
    have hnew := h.count p
    rwa [hp,Nat.add_right_cancel_iff] at hnew
  refine ⟨?_,?_,?_,?_,?_,?_,?_,hn.slots⟩
  · rw [RolloutDb.decisionsOf,h.decisions]
    exact hn.ordinals
  · rw [hn.selected,hsame _ h.cohort]
  · rw [hn.completed,hsame]
    rw [PostAudit.audited,houtcome,PostAudit.audited]
  · rw [hn.critical,hsame]
    rw [PostAudit.critical,houtcome,PostAudit.critical]
  · rw [hn.confirmed,hsame]
    rw [PostAudit.mandatoryConfirmed,hcohort,houtcome,PostAudit.mandatoryConfirmed]
  · rw [hn.pending,hsame]
    rw [PostAudit.mandatoryPending,hcohort,hpending,PostAudit.mandatoryPending]
  · rw [hn.invalidated,hsame _ hcode]

end counts

/-! ## Effects -/

section effects

variable {c : Command} {db db' : RolloutDb}

theorem Write.rows {key : RolloutKey} {row row' : RolloutState} (w : Write c key row row' db db') (k : RolloutKey)
    (h : ∃ r, db.rollouts k = some r) : ∃ r, db'.rollouts k = some r := by
  rw [w.after,Function.update_apply]
  split
  · exact ⟨row',rfl⟩
  · exact h

theorem Write.counted {key : RolloutKey} {row row' : RolloutState} (w : Write c key row row' db db')
    (hdb : db.Consistent) (hself : db.Counted key row.counters → db'.Counted key row'.counters)
    (hother : ∀ k n, k ≠ key → db.Counted k n → db'.Counted k n) (k : RolloutKey) (r : RolloutState)
    (h : db'.rollouts k = some r) : db'.Counted k r.counters := by
  rw [w.after,Function.update_apply] at h
  split at h
  · next hk =>
    obtain rfl := Option.some.inj h
    rw [hk]
    exact hself (hdb.counted key row w.before)
  · next hk => exact hother k _ hk (hdb.counted k r h)

/-- A write that leaves decisions and audits alone. -/
theorem Write.consistent_of_same {key : RolloutKey} {row row' : RolloutState} (w : Write c key row row' db db')
    (hdb : db.Consistent) (hd : db'.decisions = db.decisions) (ha : db'.audits = db.audits)
    (hcounters : row'.counters = { row.counters with corrected := row'.counters.corrected }) : db'.Consistent := by
  refine ⟨hdb.tables.of_same hd ha w.rows fun x hx => .inl (w.contexts ▸ hx),?_,?_⟩
  · rw [hd,ha]
    exact hdb.selection
  · refine w.counted hdb (fun hn => ?_) fun k n _ hn => hn.congr (decisionsOf_congr hd) fun p => auditCount_congr hd ha
    have hsame := hn.congr (decisionsOf_congr hd) fun p => auditCount_congr hd ha
    rw [hcounters]
    exact ⟨hsame.ordinals,hsame.selected,hsame.completed,hsame.critical,hsame.confirmed,hsame.pending,
      hsame.invalidated,hsame.slots⟩

theorem selection_update {a : PostAudit} {f : PostAudit → PostAudit} (hdb : db.Consistent) (hf : KeepsIdentity f)
    (hd : db'.decisions = db.decisions) (ha : db'.audits = (db.updateAudit a.id f).audits) :
    ∀ d ∈ db'.decisions, d.selectionResult ≠ .manual ∧
      (d.selectionResult ≠ .notSelected → ∃ b ∈ db'.audits, b.reviewItemId = d.reviewItemId) := by
  rw [hd,ha]
  intro d hmem
  refine ⟨(hdb.selection d hmem).1,fun hselected => ?_⟩
  obtain ⟨b,hb,hitem⟩ := (hdb.selection d hmem).2 hselected
  by_cases hba : b.id = a.id
  · exact ⟨f b,mem_map_update.mpr (.inl ⟨b,hb,hba,rfl⟩),(hf.item b).trans hitem⟩
  · exact ⟨b,mem_map_update.mpr (.inr ⟨hb,hba⟩),hitem⟩

/-- A write that settles a pending audit. -/
theorem Write.consistent_of_update {key : RolloutKey} {row row' : RolloutState} (w : Write c key row row' db db')
    (hdb : db.Consistent) {a : PostAudit} {d : PromotionDecision} {f : PostAudit → PostAudit} (hmem : a ∈ db.audits)
    (hdecision : db.decision a.promotionDecisionId = some d) (hkey : d.key = key) (hf : KeepsIdentity f)
    (hd : db'.decisions = db.decisions) (ha : db'.audits = (db.updateAudit a.id f).audits) (hshape : (f a).Shaped)
    (hpending : a.status = .pending)
    (hself : CountsMove db db' key a (f a) → db.Counted key row.counters → db'.Counted key row'.counters) :
    db'.Consistent := by
  have hmove := hdb.tables.countsMove hmem hdecision hf hd ha
  rw [hkey] at hmove
  have hauditKey : db.auditKey a = some key := by rw [RolloutDb.auditKey,hdecision,Option.map_some,hkey]
  refine ⟨hdb.tables.update hmem hd ha w.rows w.contexts hf hshape fun hcritical => ?_,selection_update hdb hf hd ha,
    w.counted hdb (hself hmove) fun k n hk hn => hn.congr (decisionsOf_congr hd) (hdb.tables.auditCount_other hmem hf hd ha ?_)⟩
  · simp [PostAudit.critical,(hdb.tables.shaped a hmem).pending hpending] at hcritical
  · rw [hauditKey]
    exact fun h => hk (Option.some.inj h).symm

theorem invalidateAudit_keeps (now : Timestamp) : KeepsIdentity (invalidateAudit now) :=
  ⟨fun _ => rfl,fun _ => rfl,fun _ => rfl,fun _ => rfl⟩

theorem invalidateAudit_shaped (now : Timestamp) (a : PostAudit) : (invalidateAudit now a).Shaped :=
  ⟨fun _ => rfl,fun h => AuditStatus.noConfusion h,rfl⟩

theorem WritesOutcome.shaped {outcome : AuditOutcome} {f : PostAudit → PostAudit} (hf : WritesOutcome outcome f)
    (a : PostAudit) : (f a).Shaped := by
  refine ⟨fun h => ?_,fun h => ?_,?_⟩
  · rw [hf.settles] at h
    split at h <;> cases h
  · rw [hf.settles] at h
    split at h
    · cases h
    · next hcritical => simp [PostAudit.critical,AuditOutcome.critical,hf.decides,hcritical]
  · simp [PostAudit.invalidatedBeforeAudit,PostAudit.audited,hf.decides,hf.code]

/-- A write that promotes an item. -/
theorem Write.consistent_of_promotion {key : RolloutKey} {row row' : RolloutState}
    (w : Write c key row row' db db') (hdb : db.Consistent) {d : PromotionDecision} (hkey : d.key = key)
    (hid : d.id = db.decisions.length+1) (hfresh : db.decisionOfItem d.reviewItemId = none)
    (hordinal : d.promotionOrdinal = row.counters.ordinal+1) (hresult : d.selectionResult ≠ .manual)
    (hslots : d.selectionResult = .first50 → row.counters.confirmed+row.counters.pending < 50)
    (hcounters : row'.counters = { row.counters with
      ordinal := d.promotionOrdinal
      selected := if d.selectionResult ≠ .notSelected then row.counters.selected+1 else row.counters.selected
      pending := if d.selectionResult = .first50 then row.counters.pending+1 else row.counters.pending })
    (hd : db'.decisions = d::db.decisions) {a : PostAudit} (hauditId : a.id = db.audits.length+1)
    (hitem : a.reviewItemId = d.reviewItemId) (hlink : a.promotionDecisionId = d.id)
    (hcohort : a.sampleCohort = d.selectionResult) (hpending : a.status = .pending) (houtcome : a.outcome = none)
    (hcode : a.systemResolutionCode = none)
    (ha : db'.audits = if d.selectionResult ≠ .notSelected then a::db.audits else db.audits) : db'.Consistent := by
  subst hkey
  have hdecided : { db' with audits := db.audits }.Tables :=
    hdb.tables.cons_decision hd rfl w.rows w.contexts hid hfresh ⟨row,w.before⟩
  refine ⟨?_,?_,w.counted hdb (fun hn => ?_) fun k n hk hn => ?_⟩
  · by_cases hselected : d.selectionResult = .notSelected
    · rw [if_neg (not_not.mpr hselected)] at ha
      refine hdecided.of_same rfl ha (fun _ h => h) fun x hx => .inl hx
    · rw [if_pos hselected] at ha
      refine hdecided.cons_audit rfl ha rfl rfl hauditId ?_ ⟨d,?_,hitem.symm,.inl ⟨hcohort,hselected⟩⟩ ?_
      · refine find?_none_iff.mpr fun b hb heq => ?_
        obtain ⟨e,he,hitem',-⟩ := hdb.tables.linked b hb
        exact find?_none_iff.mp hfresh e (decision_spec he).1 (hitem'.trans (heq.trans hitem))
      · have hfound : db'.decision d.id = some d := (decision_cons hd).trans (if_pos rfl)
        rw [hlink]
        exact hfound
      · refine ⟨fun _ => houtcome,fun h => ?_,?_⟩
        · rw [hpending] at h
          cases h
        · simp [PostAudit.invalidatedBeforeAudit,PostAudit.isPending,hcode,hpending]
  · rw [hd]
    intro e he
    rcases List.mem_cons.mp he with rfl | he
    · refine ⟨hresult,fun hselected => ⟨a,?_,hitem⟩⟩
      rw [ha,if_pos hselected]
      exact List.mem_cons_self
    · refine ⟨(hdb.selection e he).1,fun hselected => ?_⟩
      obtain ⟨b,hb,hbe⟩ := (hdb.selection e he).2 hselected
      refine ⟨b,?_,hbe⟩
      rw [ha]
      split
      · exact List.mem_cons_of_mem _ hb
      · exact hb
  · exact hdb.tables.counted_promoted hn hd hid ha hlink hcohort hresult hpending houtcome hcode hordinal hslots
      hcounters
  · refine hn.congr ?_ fun p => ?_
    · rw [RolloutDb.decisionsOf,hd,List.filter_cons,if_neg (by simpa using fun h => hk h.symm)]
      rfl
    · rw [hdb.tables.auditCount_promoted k hd hid ha hlink,if_neg fun h => hk h.2.1.symm,Nat.add_zero]

theorem Write.consistent {key : RolloutKey} {row row' : RolloutState} (w : Write c key row row' db db')
    (hdb : db.Consistent) : db'.Consistent := by
  cases w.counts with
  | kept hcounters hd ha => exact w.consistent_of_same hdb hd ha (by rw [hcounters])
  | corrected hcounters hd ha => exact w.consistent_of_same hdb hd ha (by rw [hcounters])
  | promoted d hkey hid hfresh hordinal hresult hslots hcounters hd ha =>
    exact w.consistent_of_promotion hdb hkey hid hfresh hordinal hresult hslots hcounters hd rfl rfl rfl rfl rfl rfl
      rfl ha
  | completed a d outcome f haudit hpending hdecision hkey hslot hf hcounters _ hd ha =>
    obtain ⟨hmem,-⟩ := audit_spec haudit
    have hfirst := (hdb.tables.linked a hmem).first50 hdecision
    refine w.consistent_of_update hdb hmem hdecision hkey hf.toKeepsIdentity hd ha (hf.shaped a) hpending
      fun hmove hn => ?_
    refine hmove.settled hn (hdb.tables.shaped a hmem) hpending ?_ (hf.cohort a) ?_ ?_ ?_ ?_ ?_ ?_ ?_
    · rw [hf.settles]
      split <;> exact AuditStatus.noConfusion
    · rw [hcounters]
    · rw [hcounters]
    · simp [hcounters,PostAudit.audited,hf.decides]
    · by_cases hc : outcome = .confirmed <;>
        simp [hcounters,PostAudit.critical,AuditOutcome.critical,hf.decides,hc]
    · by_cases hc : outcome = .confirmed <;> by_cases hs : d.selectionResult = .first50 <;>
        simp [hcounters,PostAudit.mandatoryConfirmed,hf.decides,hf.cohort,hfirst,hc,hs]
    · simp only [hcounters,hfirst]
      split
      · next hs => exact Nat.sub_add_cancel (hslot hs)
      · rfl
    · simp [hcounters,PostAudit.invalidatedBeforeAudit,hf.code]
  | invalidated a d now haudit hpending hdecision hkey hslot hcounters hd ha =>
    obtain ⟨hmem,-⟩ := auditOfItem_spec haudit
    have hfirst := (hdb.tables.linked a hmem).first50 hdecision
    refine w.consistent_of_update hdb hmem hdecision hkey (invalidateAudit_keeps now) hd ha
      (invalidateAudit_shaped now a) hpending fun hmove hn => ?_
    refine hmove.settled hn (hdb.tables.shaped a hmem) hpending AuditStatus.noConfusion rfl ?_ ?_ ?_ ?_ ?_ ?_ ?_
    · rw [hcounters]
    · rw [hcounters]
    · simp [hcounters,PostAudit.audited,invalidateAudit]
    · simp [hcounters,PostAudit.critical,invalidateAudit]
    · simp [hcounters,PostAudit.mandatoryConfirmed,invalidateAudit]
    · simp only [hcounters,hfirst]
      split
      · next hs => exact Nat.sub_add_cancel (hslot hs)
      · rfl
    · simp [hcounters,PostAudit.invalidatedBeforeAudit,invalidateAudit]

theorem finalizeAudit_keeps (succeeded : Bool) : KeepsIdentity (finalizeAudit succeeded) := by
  refine ⟨fun b => ?_,fun b => ?_,fun b => ?_,fun b => ?_⟩ <;> unfold finalizeAudit <;> split <;> rfl

theorem finalizeAudit_outcome (succeeded : Bool) (a : PostAudit) : (finalizeAudit succeeded a).outcome = a.outcome := by
  unfold finalizeAudit
  split <;> rfl

theorem finalizeAudit_shaped (succeeded : Bool) {a : PostAudit} (h : a.critical) : (finalizeAudit succeeded a).Shaped := by
  have haudited : a.outcome ≠ none := by
    intro hnone
    simp [PostAudit.critical,hnone] at h
  cases succeeded with
  | true =>
    refine ⟨fun hs => AuditStatus.noConfusion hs,fun hs => AuditStatus.noConfusion hs,?_⟩
    simp [PostAudit.invalidatedBeforeAudit,PostAudit.audited,finalizeAudit,haudited]
  | false =>
    refine ⟨fun hs => AuditStatus.noConfusion hs,fun _ => h,?_⟩
    simp [PostAudit.invalidatedBeforeAudit,PostAudit.audited,finalizeAudit,haudited]

theorem finalizeAudit_consistent (hdb : db.Consistent) {x : QualityRevokeContext} (succeeded : Bool)
    (hx : x ∈ db.contexts) (hkind : x.remediationKind = .audit) :
    (db.updateAudit x.remediationId (finalizeAudit succeeded)).Consistent := by
  obtain ⟨a,hmem,hid,hcritical⟩ := hdb.tables.contexts x hx hkind
  rw [← hid]
  have hf := finalizeAudit_keeps succeeded
  have hshape := finalizeAudit_shaped succeeded hcritical
  have hsettled : a.isPending = false := by
    refine decide_eq_false fun hpending => ?_
    simp [PostAudit.critical,(hdb.tables.shaped a hmem).pending hpending] at hcritical
  have hsettled' : (finalizeAudit succeeded a).isPending = false := by cases succeeded <;> rfl
  obtain ⟨d,hdecision,-⟩ := hdb.tables.linked a hmem
  refine ⟨hdb.tables.update hmem rfl rfl (fun _ h => h) rfl hf hshape fun h => ?_,selection_update hdb hf rfl rfl,
    fun k r hk => ?_⟩
  · rwa [PostAudit.critical,finalizeAudit_outcome]
  · by_cases hkey : d.key = k
    · have hmove : CountsMove db (db.updateAudit a.id (finalizeAudit succeeded)) d.key a (finalizeAudit succeeded a) :=
        hdb.tables.countsMove hmem hdecision hf rfl rfl
      rw [hkey] at hmove
      refine hmove.unchanged (hdb.counted k r hk) (hf.cohort a) (finalizeAudit_outcome succeeded a) ?_ ?_
      · rw [hsettled,hsettled']
      · rw [hshape.invalidated,(hdb.tables.shaped a hmem).invalidated,hsettled,hsettled',PostAudit.audited,
          PostAudit.audited,finalizeAudit_outcome]
    · refine (hdb.counted k r hk).congr rfl (hdb.tables.auditCount_other hmem hf rfl rfl ?_)
      rw [RolloutDb.auditKey,hdecision,Option.map_some]
      exact fun h => hkey (Option.some.inj h)

theorem Effect.consistent (h : Effect c db db') (hdb : db.Consistent) : db'.Consistent := by
  cases h with
  | elsewhere assessments corrections validations contexts hx =>
    exact ⟨hdb.tables.of_same rfl rfl (fun _ h => h) hx,hdb.selection,
      fun k r hk => (hdb.counted k r hk).congr rfl fun p => auditCount_congr rfl rfl⟩
  | created key hnone =>
    refine ⟨hdb.tables.of_same rfl rfl ?_ fun x hx => .inl hx,hdb.selection,fun k r hk => ?_⟩
    · rintro k ⟨r,hr⟩
      by_cases hk : k = key
      · exact ⟨{},by rw [setRollout_rollouts,if_pos hk]⟩
      · exact ⟨r,by rw [setRollout_rollouts,if_neg hk,hr]⟩
    · suffices hold : db.Counted k r.counters from hold.congr rfl fun p => auditCount_congr rfl rfl
      by_cases hkey : k = key
      · subst hkey
        rw [setRollout_rollouts,if_pos rfl] at hk
        obtain rfl := Option.some.inj hk
        exact hdb.tables.counted_new hnone
      · rw [setRollout_rollouts,if_neg hkey] at hk
        exact hdb.counted k r hk
  | manual d hd hnone =>
    obtain ⟨hmem,-⟩ := decisionOfItem_spec hd
    have hresult : d.selectionResult = .notSelected := by
      by_contra hselected
      obtain ⟨b,hb,hitem⟩ := (hdb.selection d hmem).2 hselected
      exact find?_none_iff.mp hnone b hb hitem
    refine ⟨hdb.tables.cons_audit rfl rfl rfl rfl rfl hnone ⟨d,hdb.tables.decision_of_mem hmem,rfl,.inr ⟨rfl,hresult⟩⟩
      ⟨fun _ => rfl,fun h => AuditStatus.noConfusion h,rfl⟩,fun e he => ?_,fun k r hk => ?_⟩
    · refine ⟨(hdb.selection e he).1,fun hselected => ?_⟩
      obtain ⟨b,hb,hitem⟩ := (hdb.selection e he).2 hselected
      exact ⟨b,List.mem_cons_of_mem _ hb,hitem⟩
    · exact (hdb.counted k r hk).cons_manual rfl rfl rfl rfl rfl
  | finalized x succeeded hx hkind => exact finalizeAudit_consistent hdb succeeded hx hkind
  | write w => exact w.consistent hdb

theorem step_consistent (hdb : db.Consistent) (c : Command) : (step db c).Consistent := by
  have h := step_chain db c
  generalize step db c = db' at h
  induction h with
  | refl => exact hdb
  | tail _ heffect ih => exact heffect.consistent ih

theorem Reachable.consistent (h : Reachable db) : db.Consistent := by
  obtain ⟨commands,rfl⟩ := h
  exact run_invariant (P := RolloutDb.Consistent) (fun _ c h => step_consistent h c) consistent_empty commands

end effects

end ParaWorks.Rollout
