import ParaWorks.Ledger.Rows

/-!
# The invariant of the ledger

`RowFacts` relates one row to the grants, budgets and recorded events; `PhaseOk` relates the parent
to its rows. Both are asked of the committed run, and the row facts also of rows that were flushed
but not committed. Assigned values that were never flushed are read again by the next locked select,
except those of the parent: `ParentOk` says which parents an operation can meet.
-/

namespace ParaWorks.Ledger

open Lib

variable (authority : LedgerAuthority)

/-- The grant was consumed, or its ledger still holds it. -/
def World.Live (w : World) (g : CommittedRagDispatchGrant) : Prop :=
  g ∈ w.consumed ∨ ∃ i, (w.memory i).activeGrants g.component = some g

/-- This instance admitted the run. -/
def Memory.Owns (m : Memory) : Prop := ∃ c, (m.admissionSnapshots c).isSome

/-- The row pays for the call of grant `g`: in full, or what the policy charges for usage that a
finalization of this grant reported. -/
structure Paid (history : List Event) (g : CommittedRagDispatchGrant) (r : AgentRunCostComponent) :
    Prop where
  attempted : r.attempted = true
  dispatchCount : r.dispatchCount = 1
  fence : r.dispatchFenceHmac = some g.dispatchFenceHmac
  reserved : r.reservedCostUsd = g.reservedCostUsd
  charged : r.chargedCostUsd = g.reservedCostUsd ∨ ∃ usage cost,
    Event.observed g (some usage) ∈ history ∧ RagCostPolicy.chargeActual g.component usage = .ok cost ∧
    r.chargedCostUsd = cost

structure RowFacts (w : World) (r : AgentRunCostComponent) : Prop where
  shape : WellShaped r
  charge : r.overrun = false → r.chargedCostUsd ≤ r.reservedCostUsd
  blocked : r.overrun = true → Event.overrunBlocked r.component ∈ w.history
  paid : ∀ g, w.Live g → g.component = r.component → Paid w.history g r
  issued : ∀ g ∈ w.issued, g.component = r.component → r.dispatchState ≠ .notAttempted
  budget : ∀ i b, (w.memory i).admissionBudgets r.component = some b →
    r.reservedCostUsd = b.reservedCostUsd ∨ r.dispatchState = .terminal ∧ r.attempted = false
  owner : ∀ i, (w.memory i).Owns → ∀ p, r.processInstanceHmac = some p → p = (w.memory i).processHmac

def ProcessesAgree (q a : AgentRunCostComponent) : Prop :=
  ∀ p p', q.processInstanceHmac = some p → a.processInstanceHmac = some p' → p = p'

/-- An answer is attempted only over a settled embedding, or on a route that has none. -/
structure InOrder (p : AgentRun) (q a : AgentRunCostComponent) : Prop where
  used : q.dispatchState = .dispatching → componentIsUnused p .queryEmbedding = false
  settled : a.attempted = true → q.dispatchState = .terminal ∨
    q.dispatchState = .notAttempted ∧ componentIsUnused p .queryEmbedding = true

structure RowsFacts (w : World) (q a : AgentRunCostComponent) : Prop where
  query : q.component = .queryEmbedding
  answer : a.component = .answerGeneration
  queryFacts : RowFacts w q
  answerFacts : RowFacts w a
  agree : ProcessesAgree q a

/-- While the admission is open a row is untouched, under way, or settled after an attempt. -/
def InAdmission (r : AgentRunCostComponent) : Prop :=
  r.dispatchState = .notAttempted ∨ r.dispatchState = .dispatching ∨
    r.dispatchState = .terminal ∧ r.attempted = true

def IsAdmissionWindow (window : SourceWindow) : Prop := ∃ m s b, window = .admission m s b

def PhaseOk (run : Run) : Prop :=
  match run.parent.runRecordPhase with
  | .admission =>
    run.parent.status = .running ∧ run.parent.projectionOwnerFenceHmac = none ∧
    run.parent.completedAt = none ∧ IsAdmissionWindow run.parent.sourceWindow ∧
    (∀ r ∈ run.rows, InAdmission r) ∧ ∃ r ∈ run.rows, isClosed r = false
  | .costFinalizedPendingProjection =>
    run.parent.status = .running ∧ run.parent.projectionOwnerFenceHmac.isSome ∧
    run.parent.completedAt = none ∧ IsAdmissionWindow run.parent.sourceWindow ∧
    (∀ r ∈ run.rows, r.dispatchState = .terminal) ∧
    run.parent.metadata.runtimeCostSnapshotHmac = pendingRuntimeCostIdentity authority.sign run.rows
  | .final =>
    run.parent.status ≠ .running ∧ run.parent.completedAt.isSome ∧ ∀ r ∈ run.rows, isClosed r = true
  | .admissionOnly =>
    run.parent.status = .failed ∧ run.parent.completedAt.isSome ∧ ∀ r ∈ run.rows, isClosed r = true

structure RunFacts (w : World) (run : Run) : Prop where
  rows : ∃ q a, run.rows = [q,a] ∧ RowsFacts w q a ∧ InOrder run.parent q a
  total : run.parent.totalChargedCostUsd = totalCharged run.rows
  phase : PhaseOk authority run

/-- Parents that differ in a merged cache identity at most. -/
def SameButCache (p p' : AgentRun) : Prop :=
  ∃ c, p = { p' with metadata := { p'.metadata with answerFinalization := c } }

/-- A parent in an identity map. One that is neither the durable parent up to a cache identity nor
ended has a half-assigned phase, and no owner fence. -/
structure ParentOk (run : Run) (p : AgentRun) : Prop where
  admission : p.status = .running → p.runRecordPhase = .admission → SameButCache p run.parent
  pending : p.status = .running → p.runRecordPhase = .costFinalizedPendingProjection →
    p.projectionOwnerFenceHmac.isSome → SameButCache p run.parent

/-- Rows that were flushed and then not committed: a component was settled, and the run could not be
given a projection owner. -/
structure FlushedFacts (w : World) (run flushed : Run) : Prop where
  parent : flushed.parent = run.parent
  admission : run.parent.runRecordPhase = .admission
  rows : ∃ q a, flushed.rows = [q,a] ∧ RowsFacts w q a ∧ InOrder run.parent q a
  le : RowsLe run.rows flushed.rows
  settled : ∀ r ∈ flushed.rows, isClosed r = true ∨
    r.dispatchState = .notAttempted ∧ componentIsUnused run.parent r.component = true

structure UnitFacts (w : World) (run : Run) (u : UnitOfWork) : Prop where
  parent : ∀ p, u.parent = some p → ParentOk run p
  flushed : ∀ f, u.flushed = some f → FlushedFacts w run f

def UnitInv (w : World) : Prop :=
  ∀ u, w.unit = some u → ∃ run, w.db = some run ∧ UnitFacts w run u

structure MemoryFacts (w : World) : Prop where
  active : ∀ i c g, (w.memory i).activeGrants c = some g → g ∈ w.issued ∧ g.component = c ∧ g.ledger = i
  refused : ∀ i g, (w.memory i).evidenceRefusedGrant = some g →
    g ∈ w.issued ∧ g.component = .answerGeneration ∧ g.ledger = i
  owner : ∀ i j, (w.memory i).Owns → (w.memory j).Owns → i = j
  budgets : ∀ i c b, (w.memory i).admissionBudgets c = some b → (w.memory i).Owns
  reservation : ∀ i r, (w.memory i).answerReservation = some r → (w.memory i).Owns ∧
    (w.memory i).admissionBudgets .answerGeneration = none ∧ ∀ b, Event.budgetBound b ∉ w.history
  pending : ∀ i id, (w.memory i).pendingProjectionIdentity = some id → id.projectionOwnerFenceHmac.isSome
  receipts : ∀ i c r, (w.memory i).terminalCostRows c = some r → r.dispatchState = .terminal

structure GrantFacts (w : World) : Prop where
  consumed : ∀ g ∈ w.consumed, g ∈ w.issued
  nodup : w.consumed.Nodup
  unique : ∀ g ∈ w.issued, ∀ g' ∈ w.issued, g.component = g'.component → g = g'

/-- What is true of a run at the moment it becomes durable, over the events before that. -/
structure CommitFacts (run : Run) (older : List Event) : Prop where
  shaped : ∃ q a, run.rows = [q,a] ∧ q.component = .queryEmbedding ∧ a.component = .answerGeneration ∧
    WellShaped q ∧ WellShaped a
  total : run.parent.totalChargedCostUsd = totalCharged run.rows
  charge : ∀ r ∈ run.rows, r.overrun = false → r.chargedCostUsd ≤ r.reservedCostUsd
  blocked : ∀ r ∈ run.rows, r.overrun = true → Event.overrunBlocked r.component ∈ older
  le : ∀ run', Event.committed run' ∈ older → RowsLe run'.rows run.rows

/-- At most one binding, and the facts of every commit. -/
def LogFacts : List Event → Prop
  | [] => True
  | .committed run::older => CommitFacts run older ∧ LogFacts older
  | .budgetBound _::older => (∀ b, Event.budgetBound b ∉ older) ∧ LogFacts older
  | _::older => LogFacts older

/-- Before the admission nothing is known of the run. -/
structure Blank (w : World) : Prop where
  consumed : w.consumed = []
  issued : w.issued = []
  history : w.history = []
  memory : ∀ i, ∃ p, w.memory i = Memory.fresh p

structure Core (w : World) : Prop where
  blank : w.db = none → Blank w
  run : ∀ run, w.db = some run → RunFacts authority w run
  memory : MemoryFacts w
  grants : GrantFacts w
  log : LogFacts w.history
  committed : ∀ run, Event.committed run ∈ w.history → ∃ now, w.db = some now ∧ RowsLe run.rows now.rows

/-- How a state may follow an earlier one of the same run. -/
structure Evolves (w₀ w : World) : Prop where
  run : ∀ run₀, w₀.db = some run₀ → ∃ run, w.db = some run ∧ RowsLe run₀.rows run.rows
  consumed : ∀ g ∈ w₀.consumed, g ∈ w.consumed
  issued : ∀ g ∈ w₀.issued, g ∈ w.issued
  history : ∀ e ∈ w₀.history, e ∈ w.history
  inactive : ∀ g ∈ w₀.issued, (∀ i, (w₀.memory i).activeGrants g.component ≠ some g) →
    ∀ i, (w.memory i).activeGrants g.component ≠ some g

/-- The invariant, relative to a state `w₀` the run has passed through. -/
structure Kept (w₀ w : World) : Prop where
  core : Core authority w
  unit : UnitInv w
  evolves : Evolves w₀ w

theorem Evolves.refl (w : World) : Evolves w w where
  run run₀ h := ⟨run₀,h,RowsLe.refl _⟩
  consumed _ := id
  issued _ := id
  history _ := id
  inactive _ _ := id

theorem Evolves.trans {w₀ w w' : World} (h : Evolves w₀ w) (h' : Evolves w w') : Evolves w₀ w' where
  run run₀ h₀ := by
    obtain ⟨run,hr,hle⟩ := h.run run₀ h₀
    obtain ⟨run',hr',hle'⟩ := h'.run run hr
    exact ⟨run',hr',hle.trans hle'⟩
  consumed g hg := h'.consumed g (h.consumed g hg)
  issued g hg := h'.issued g (h.issued g hg)
  history e he := h'.history e (h.history e he)
  inactive g hg hi := h'.inactive g (h.issued g hg) (h.inactive g hg hi)

/-! ## A state that forgets -/

/-- The memory `m'` has no entry `m` did not have, but for an owned projection and the receipt of a
terminal row, and gives up its admission only with its entries. -/
structure MemoryLe (m' m : Memory) : Prop where
  active : ∀ c g, m'.activeGrants c = some g → m.activeGrants c = some g
  budgets : ∀ c b, m'.admissionBudgets c = some b → m.admissionBudgets c = some b ∧ (m.Owns → m'.Owns)
  reservation : ∀ r, m'.answerReservation = some r → m.answerReservation = some r ∧ (m.Owns → m'.Owns)
  owns : m'.Owns → m.Owns ∧ m'.processHmac = m.processHmac
  pending : ∀ id, m'.pendingProjectionIdentity = some id →
    m.pendingProjectionIdentity = some id ∨ id.projectionOwnerFenceHmac.isSome
  receipts : ∀ c r, m'.terminalCostRows c = some r →
    m.terminalCostRows c = some r ∨ r.dispatchState = .terminal

theorem MemoryLe.refl (m : Memory) : MemoryLe m m :=
  ⟨fun _ _ => id,fun _ _ h => ⟨h,id⟩,fun _ h => ⟨h,id⟩,fun h => ⟨h,rfl⟩,fun _ => .inl,fun _ _ => .inl⟩

theorem MemoryLe.fresh (p : Hmac) (m : Memory) : MemoryLe (Memory.fresh p) m where
  active _ _ := nofun
  budgets _ _ := nofun
  reservation _ := nofun
  owns h := by
    obtain ⟨_,hc⟩ := h
    cases hc
  pending _ := nofun
  receipts _ _ := nofun

/-- `w'` holds no obligation `w` did not have: fewer entries in memory, more events recorded. -/
structure Forgets (w w' : World) : Prop where
  consumed : w'.consumed = w.consumed
  issued : w'.issued = w.issued
  history : ∀ e ∈ w.history, e ∈ w'.history
  memory : ∀ i, MemoryLe (w'.memory i) (w.memory i)

theorem Forgets.live {w w' : World} (h : Forgets w w') {g : CommittedRagDispatchGrant}
    (hg : w'.Live g) : w.Live g := by
  rcases hg with hg | ⟨i,hi⟩
  · exact .inl (h.consumed ▸ hg)
  · exact .inr ⟨i,(h.memory i).active _ _ hi⟩

theorem Paid.mono {l l' : List Event} {g : CommittedRagDispatchGrant} {r : AgentRunCostComponent}
    (hl : ∀ e ∈ l, e ∈ l') (h : Paid l g r) : Paid l' g r where
  attempted := h.attempted
  dispatchCount := h.dispatchCount
  fence := h.fence
  reserved := h.reserved
  charged := h.charged.imp id fun ⟨usage,cost,hm,hc,hr⟩ => ⟨usage,cost,hl _ hm,hc,hr⟩

theorem RowFacts.forgets {w w' : World} (hw : Forgets w w') {r : AgentRunCostComponent}
    (h : RowFacts w r) : RowFacts w' r where
  shape := h.shape
  charge := h.charge
  blocked hr := hw.history _ (h.blocked hr)
  paid g hg hc := (h.paid g (hw.live hg) hc).mono hw.history
  issued g hg := h.issued g (hw.issued ▸ hg)
  budget i b hb := h.budget i b ((hw.memory i).budgets _ _ hb).1
  owner i hi p hp := by
    obtain ⟨ho,he⟩ := (hw.memory i).owns hi
    rw [he]
    exact h.owner i ho p hp

theorem RowsFacts.forgets {w w' : World} (hw : Forgets w w') {q a : AgentRunCostComponent}
    (h : RowsFacts w q a) : RowsFacts w' q a :=
  ⟨h.query,h.answer,h.queryFacts.forgets hw,h.answerFacts.forgets hw,h.agree⟩

theorem RunFacts.forgets {authority : LedgerAuthority} {w w' : World} (hw : Forgets w w') {run : Run}
    (h : RunFacts authority w run) : RunFacts authority w' run where
  rows := by
    obtain ⟨q,a,he,hr,ho⟩ := h.rows
    exact ⟨q,a,he,hr.forgets hw,ho⟩
  total := h.total
  phase := h.phase

theorem FlushedFacts.forgets {w w' : World} (hw : Forgets w w') {run flushed : Run}
    (h : FlushedFacts w run flushed) : FlushedFacts w' run flushed where
  parent := h.parent
  admission := h.admission
  rows := by
    obtain ⟨q,a,he,hr,ho⟩ := h.rows
    exact ⟨q,a,he,hr.forgets hw,ho⟩
  le := h.le
  settled := h.settled

/-- `w'` follows `w` without a commit, a new grant or a new entry in memory. -/
structure Carries (w w' : World) : Prop extends Forgets w w' where
  db : w'.db = w.db
  blank : w.db = none → Blank w → Blank w'
  refused : ∀ i g, (w'.memory i).evidenceRefusedGrant = some g →
    (w.memory i).evidenceRefusedGrant = some g ∨ (w.memory i).activeGrants .answerGeneration = some g
  log : LogFacts w.history → LogFacts w'.history
  committed : ∀ run, Event.committed run ∈ w'.history → Event.committed run ∈ w.history
  bound : ∀ i r, (w'.memory i).answerReservation = some r →
    ∀ b, Event.budgetBound b ∈ w'.history → Event.budgetBound b ∈ w.history

theorem MemoryFacts.carries {w w' : World} (hw : Carries w w') (h : MemoryFacts w) : MemoryFacts w' where
  active i c g hg := by
    rw [hw.issued]
    exact h.active i c g ((hw.memory i).active c g hg)
  refused i g hg := by
    rw [hw.issued]
    rcases hw.refused i g hg with hr | ha
    · exact h.refused i g hr
    · exact h.active i _ g ha
  owner i j hi hj := h.owner i j ((hw.memory i).owns hi).1 ((hw.memory j).owns hj).1
  budgets i c b hb := by
    obtain ⟨hb',ho⟩ := (hw.memory i).budgets c b hb
    exact ho (h.budgets i c b hb')
  reservation i r hr := by
    obtain ⟨hr',ho⟩ := (hw.memory i).reservation r hr
    obtain ⟨howns,hbud,hev⟩ := h.reservation i r hr'
    refine ⟨ho howns,?_,fun b hb => hev b (hw.bound i r hr b hb)⟩
    cases hb : (w'.memory i).admissionBudgets .answerGeneration with
    | none => rfl
    | some b =>
      have hb' := ((hw.memory i).budgets _ b hb).1
      rw [hbud] at hb'
      cases hb'
  pending i id hi := by
    rcases (hw.memory i).pending id hi with hp | hs
    · exact h.pending i id hp
    · exact hs
  receipts i c r hr := by
    rcases (hw.memory i).receipts c r hr with hr | ht
    · exact h.receipts i c r hr
    · exact ht

theorem Core.carries {authority : LedgerAuthority} {w w' : World} (hw : Carries w w')
    (h : Core authority w) : Core authority w' where
  blank hdb := by
    rw [hw.db] at hdb
    exact hw.blank hdb (h.blank hdb)
  run run hdb := (h.run run (hw.db ▸ hdb)).forgets hw.toForgets
  memory := h.memory.carries hw
  grants := by
    constructor
    · rw [hw.consumed,hw.issued]
      exact h.grants.consumed
    · rw [hw.consumed]
      exact h.grants.nodup
    · rw [hw.issued]
      exact h.grants.unique
  log := hw.log h.log
  committed run hr := by
    rw [hw.db]
    exact h.committed run (hw.committed run hr)

theorem Evolves.carries {w₀ w w' : World} (hw : Carries w w') (h : Evolves w₀ w) : Evolves w₀ w' where
  run run₀ h₀ := by
    rw [hw.db]
    exact h.run run₀ h₀
  consumed g hg := hw.consumed ▸ h.consumed g hg
  issued g hg := hw.issued ▸ h.issued g hg
  history e he := hw.history e (h.history e he)
  inactive g hg hi i hc := h.inactive g hg hi i ((hw.memory i).active _ _ hc)

theorem UnitInv.carries {w w' : World} (hw : Carries w w') (hu : w'.unit = w.unit) (h : UnitInv w) :
    UnitInv w' := by
  intro u hs
  rw [hu] at hs
  obtain ⟨run,hdb,hf⟩ := h u hs
  refine ⟨run,hw.db.trans hdb,hf.parent,?_⟩
  intro f hfl
  exact (hf.flushed f hfl).forgets hw.toForgets

theorem Kept.carries {authority : LedgerAuthority} {w₀ w w' : World} (hw : Carries w w')
    (hu : w'.unit = w.unit) (h : Kept authority w₀ w) : Kept authority w₀ w' :=
  ⟨h.core.carries hw,h.unit.carries hw hu,h.evolves.carries hw⟩

theorem MemoryLe.trans {m m' m'' : Memory} (h : MemoryLe m' m) (h' : MemoryLe m'' m') : MemoryLe m'' m where
  active c g hg := h.active c g (h'.active c g hg)
  budgets c b hb := by
    obtain ⟨hb',ho'⟩ := h'.budgets c b hb
    obtain ⟨hb,ho⟩ := h.budgets c b hb'
    exact ⟨hb,ho' ∘ ho⟩
  reservation r hr := by
    obtain ⟨hr',ho'⟩ := h'.reservation r hr
    obtain ⟨hr,ho⟩ := h.reservation r hr'
    exact ⟨hr,ho' ∘ ho⟩
  owns ho := by
    obtain ⟨ho',hp'⟩ := h'.owns ho
    obtain ⟨ho,hp⟩ := h.owns ho'
    exact ⟨ho,hp'.trans hp⟩
  pending id hi := by
    rcases h'.pending id hi with hp | hs
    · exact h.pending id hp
    · exact .inr hs
  receipts c r hr := by
    rcases h'.receipts c r hr with hr | ht
    · exact h.receipts c r hr
    · exact .inr ht

theorem Forgets.trans {w w' w'' : World} (h : Forgets w w') (h' : Forgets w' w'') : Forgets w w'' where
  consumed := h'.consumed.trans h.consumed
  issued := h'.issued.trans h.issued
  history e he := h'.history e (h.history e he)
  memory i := (h.memory i).trans (h'.memory i)

/-- The open transaction is not part of the core. -/
theorem Carries.setUnit (w : World) (u : Option UnitOfWork) : Carries w { w with unit := u } where
  consumed := rfl
  issued := rfl
  history _ := id
  memory _ := MemoryLe.refl _
  db := rfl
  blank _ h := ⟨h.consumed,h.issued,h.history,h.memory⟩
  refused _ _ := .inl
  log := id
  committed _ := id
  bound _ _ _ _ := id

theorem mapMemory_memory (w : World) (i j : Nat) (f : Memory → Memory) :
    (w.mapMemory i f).memory j = if j = i then f (w.memory j) else w.memory j := rfl

/-- One ledger drops entries of its memory. -/
theorem Carries.mapMemory {w : World} {run : Run} (hdb : w.db = some run) (i : Nat) {f : Memory → Memory}
    (hle : MemoryLe (f (w.memory i)) (w.memory i))
    (href : ∀ g, (f (w.memory i)).evidenceRefusedGrant = some g →
      (w.memory i).evidenceRefusedGrant = some g ∨ (w.memory i).activeGrants .answerGeneration = some g) :
    Carries w (w.mapMemory i f) where
  consumed := rfl
  issued := rfl
  history _ := id
  memory j := by
    rw [mapMemory_memory]
    split
    · next he =>
      subst he
      exact hle
    · exact MemoryLe.refl _
  db := rfl
  blank h := by
    rw [hdb] at h
    cases h
  refused j g := by
    rw [mapMemory_memory]
    split
    · next he =>
      subst he
      exact href g
    · exact .inl
  log := id
  committed _ := id
  bound _ _ _ _ := id

/-- An event that is no commit is recorded; a binding only once no ceiling is left to bind. -/
theorem Carries.record {w : World} {run : Run} (e : Event) (hdb : w.db = some run)
    (hlog : LogFacts w.history → LogFacts (e::w.history)) (hcommit : ∀ run', e ≠ .committed run')
    (hbound : ∀ i r, (w.memory i).answerReservation = some r → ∀ b, e ≠ .budgetBound b) :
    Carries w (w.record e) where
  consumed := rfl
  issued := rfl
  history _ := List.mem_cons_of_mem e
  memory _ := MemoryLe.refl _
  db := rfl
  blank h := by
    rw [hdb] at h
    cases h
  refused _ _ := .inl
  log := hlog
  committed run' hr := by
    rcases List.mem_cons.mp hr with hr | hr
    · exact absurd hr.symm (hcommit run')
    · exact hr
  bound i r hi b hb := by
    rcases List.mem_cons.mp hb with hb | hb
    · exact absurd hb.symm (hbound i r hi b)
    · exact hb

end ParaWorks.Ledger
