import ParaWorks.ReviewThreads.Moves
import ParaWorks.Lib.Transition

/-!
# The order of a thread's calls

The invariant of the runs in which a resume or a repair reads back the row that it has just written: while the thread is
prepared nobody else acts on it, an attempt has one run that prepares it, and whatever a call may still commit is true of
the items.
-/

namespace ParaWorks.ReviewThreads

open Lib Answers

/-! ## Statuses -/

namespace ThreadStatus

/-- The thread is still being prepared. -/
def early (status : ThreadStatus) : Bool := status = .created || status = .drafting

/-- The thread has candidates or none, and is not finished. -/
def late (status : ThreadStatus) : Bool :=
  status = .checkpointPending || status = .awaitingHumanReview || status = .resuming || status = .checkpointFailed

/-- The edges of the status machine. -/
def edge : ThreadStatus → ThreadStatus → Bool
  | .created, target => target = .drafting || target = .checkpointPending || target = .failed || target = .cancelled
  | .drafting, target =>
    target = .created || target = .drafting || target = .checkpointPending || target = .failed || target = .cancelled
  | .checkpointPending, target =>
    target = .awaitingHumanReview || target = .completed || target = .needsMoreEvidence ||
    target = .checkpointFailed || target = .cancelled
  | .awaitingHumanReview, target =>
    target = .resuming || target = .awaitingHumanReview || target = .checkpointFailed || target = .cancelled
  | .resuming, target =>
    target = .awaitingHumanReview || target = .completed || target = .needsMoreEvidence ||
    target = .checkpointFailed || target = .cancelled
  | .checkpointFailed, target =>
    target = .checkpointPending || target = .awaitingHumanReview || target = .completed ||
    target = .needsMoreEvidence || target = .checkpointFailed || target = .cancelled
  | _, _ => false

theorem late_not_early {status : ThreadStatus} (h : status.late = true) : status.early = false := by
  cases status <;> simp_all [late,early]

end ThreadStatus

/-! ## Items -/

def NoPending (items : List ReviewItem) : Prop := some ReviewItemStatus.pendingReview ∉ items.map (·.status)

/-- What a status of the thread says of its items. -/
def Promise (items : List ReviewItem) : ThreadStatus → Prop
  | .awaitingHumanReview => True
  | .completed => NoPending items ∧ some ReviewItemStatus.needsMoreEvidence ∉ items.map (·.status)
  | .needsMoreEvidence => NoPending items ∧ some ReviewItemStatus.needsMoreEvidence ∈ items.map (·.status)
  | _ => False

/-- The items later on: there are as many, and once none is pending they keep their statuses. -/
structure ItemsLater (items items' : List ReviewItem) : Prop where
  length : items'.length = items.length
  settled : NoPending items → items'.map (·.status) = items.map (·.status)

theorem ItemsLater.refl (items : List ReviewItem) : ItemsLater items items := ⟨rfl,fun _ => rfl⟩

namespace ItemsLater

variable {items items' : List ReviewItem} (h : ItemsLater items items')

include h

theorem nil (hnil : items = []) : items' = [] := List.length_eq_zero_iff.mp (by rw [h.length,hnil]; rfl)

theorem noPending (hp : NoPending items) : NoPending items' := by
  unfold NoPending
  rw [h.settled hp]
  exact hp

theorem promise {status : ThreadStatus} (hp : Promise items status) : Promise items' status := by
  cases status with
  | awaitingHumanReview => trivial
  | completed =>
    refine ⟨h.noPending hp.1,?_⟩
    rw [h.settled hp.1]
    exact hp.2
  | needsMoreEvidence =>
    refine ⟨h.noPending hp.1,?_⟩
    rw [h.settled hp.1]
    exact hp.2
  | created => exact hp.elim
  | drafting => exact hp.elim
  | checkpointPending => exact hp.elim
  | resuming => exact hp.elim
  | checkpointFailed => exact hp.elim
  | failed => exact hp.elim
  | cancelled => exact hp.elim

end ItemsLater

/-- What the channels and the next node of a run already settle about the items. -/
structure Owed (items : List ReviewItem) (channels : Channels) (next : Option Node) : Prop where
  completed : next = some .finalizeReviewTrace ∨ next = some .finalizeNoCandidates ∨ channels.status = some .completed →
    Promise items .completed
  needsMore : next = some .finalizeNeedsMoreEvidence ∨ channels.status = some .needsMoreEvidence →
    Promise items .needsMoreEvidence
  empty : next = some .routeReviewBoundary → (channels.reviewStatusCounts.getD {}).total = 0 → items = []

theorem Owed.later {items items' : List ReviewItem} {channels : Channels} {next : Option Node}
    (h : Owed items channels next) (hl : ItemsLater items items') : Owed items' channels next :=
  ⟨fun hn => hl.promise (h.completed hn),fun hn => hl.promise (h.needsMore hn),fun hn h0 => hl.nil (h.empty hn h0)⟩

/-! ## Checkpoints -/

/-- The nodes of a run up to the human review. -/
def Node.early : Node → Bool
  | .verifyReviewResolutionFromPostgres => false
  | .finalizeNeedsMoreEvidence => false
  | .finalizeReviewTrace => false
  | _ => true

/-- A checkpoint that a run has left on its way to the human review. -/
def Checkpoint.Early (c : Checkpoint) : Prop := c.interrupt = none ∧ ∃ node, c.next = some node ∧ node.early = true

/-- What holds of every checkpoint. -/
structure Checkpoint.Ok (items : List ReviewItem) (c : Checkpoint) : Prop where
  owed : Owed items c.channels c.next
  interrupt : c.interrupt ≠ none → c.next = some .awaitHumanReview

theorem probe_not_early {projection : Projection} {saved : Option Checkpoint} {found : Probe}
    (h : probeCheckpoint projection saved = .ok found) : ∃ c, saved = some c ∧ ¬c.Early := by
  cases saved with
  | none => cases h
  | some c =>
    refine ⟨c,rfl,?_⟩
    rintro ⟨hint,node,hnext,-⟩
    simp only [probeCheckpoint] at h
    split at h
    · cases h
    rw [hint] at h
    simp [probeTerminal,hnext] at h

/-- What the probe of an interrupt and of a terminal checkpoint found. -/
theorem probe_terminal {projection : Projection} {c : Checkpoint} {status : ThreadStatus}
    (h : probeCheckpoint projection (some c) = .ok (.terminal status)) :
    c.channels.status = some status ∧ (status = .completed ∨ status = .needsMoreEvidence) := by
  simp only [probeCheckpoint] at h
  split at h
  · cases h
  split at h
  · unfold probeTerminal at h
    split at h
    · cases h
    split at h
    · cases h
    split at h
    · cases h
    split at h
    · cases h
    · next hexpected =>
      split at h
      · cases h
      · next hstatus =>
        cases h
        push Not at hstatus
        refine ⟨hstatus.1,?_⟩
        unfold expectedTerminal at hexpected
        dsimp only at hexpected
        split at hexpected
        · cases hexpected
          exact .inl rfl
        split at hexpected
        · cases hexpected
          exact .inr rfl
        split at hexpected
        · cases hexpected
        split at hexpected
        · cases hexpected
        · cases hexpected
          exact .inl rfl
  · unfold probeInterrupt at h
    split at h
    · cases h
    split at h
    · cases h
    split at h
    · cases h
    split at h
    · cases h
    · cases h

/-! ## Program points -/

/-- The row that was read is still there, or the version has gone up since. -/
structure Seen (s : Shared) (base : AgentWorkflowThread) : Prop where
  version : base.stateVersion ≤ s.thread.stateVersion
  same : base.stateVersion = s.thread.stateVersion → s.thread = base

theorem Seen.refl (s : Shared) : Seen s s.thread := ⟨Nat.le_refl _,fun _ => rfl⟩

/-- The rows later on. -/
structure Later (s s' : Shared) : Prop where
  thread : s'.thread = s.thread ∨ s.thread.stateVersion < s'.thread.stateVersion
  items : ItemsLater s.rows.items s'.rows.items

theorem Seen.later {s s' : Shared} {base : AgentWorkflowThread} (h : Seen s base)
    (hl : s'.thread = s.thread ∨ s.thread.stateVersion < s'.thread.stateVersion) : Seen s' base := by
  have hv := h.version
  cases hl with
  | inl heq => exact ⟨by rw [heq]; exact hv,by rw [heq]; exact h.same⟩
  | inr hlt => exact ⟨by omega,fun heq => by omega⟩

/-- The calls that hold no decision of their own about the thread, or only to cancel it. -/
def Pc.idle : Pc → Bool
  | .replay => true
  | .statusRead _ => true
  | .statusProbe _ _ => true
  | .resumeRead => true
  | .cancelRead => true
  | .cancelWrite _ => true
  | .done _ => true
  | _ => false

/-- The call that has created the thread, before it runs the graph. -/
def Pc.preparing : Pc → Bool
  | .drafting (.start _) _ => true
  | .ensureRead _ => true
  | .ensureWrite _ _ => true
  | .initialProjection _ => true
  | .markRead target _ => target = .failed
  | .markWrite _ target _ => target = .failed
  | _ => false

/-- The attempt that a call prepares a checkpoint of, up to the human review. -/
def Pc.running : Pc → Option Nat
  | .repairReread written _ => some written.checkpointThreadId
  | .previous purpose attempt => if purpose.prepared.isSome then some attempt else none
  | .load purpose attempt _ => if purpose.prepared.isSome then some attempt else none
  | .node run => if run.purpose.prepared.isSome ∧ run.next.isSome then some run.attempt else none
  | .persist run _ _ => if run.purpose.prepared.isSome then some run.attempt else none
  | .interrupt run _ => if run.purpose.prepared.isSome then some run.attempt else none
  | _ => none

def Purpose.starts : Purpose → Bool
  | .start _ => true
  | _ => false

/-- The graph run of the call that has created the thread, up to the human review. -/
def Pc.starting (pc : Pc) : Bool :=
  match pc with
  | .previous purpose _ => purpose.starts
  | .load purpose _ _ => purpose.starts
  | .node run => run.purpose.starts && run.next.isSome
  | .persist run _ _ => run.purpose.starts
  | .interrupt run _ => run.purpose.starts
  | _ => false

/-- The attempt that a call resumes. -/
def Pc.claiming : Pc → Option Nat
  | .claim projection => some projection.thread.checkpointThreadId
  | .resumeReread written => some written.checkpointThreadId
  | .previous purpose attempt => if purpose.prepared.isSome then none else some attempt
  | .load purpose attempt _ => if purpose.prepared.isSome then none else some attempt
  | .node run => if run.purpose.prepared.isSome then none else some run.attempt
  | .persist run _ _ => if run.purpose.prepared.isSome then none else some run.attempt
  | .interrupt run _ => if run.purpose.prepared.isSome then none else some run.attempt
  | _ => none

/-- The node that is due in the attempt that a call prepares. -/
def Pc.due : Pc → Option (Nat × Node)
  | .node run => if run.purpose.prepared.isSome then run.next.map (run.attempt,·) else none
  | .interrupt run _ => if run.purpose.prepared.isSome then run.next.map (run.attempt,·) else none
  | _ => none

/-- The statuses that the thread may have while its creator is at a point. -/
def Pc.allows (pc : Pc) (status : ThreadStatus) : Bool :=
  match pc with
  | .drafting _ _ => status.early || status = .cancelled
  | .markRead _ _ => status.early || status = .cancelled
  | .markWrite _ _ _ => status.early || status = .cancelled
  | .ensureRead _ => status.early || status = .checkpointPending || status = .cancelled
  | .ensureWrite _ _ => status.early || status = .checkpointPending || status = .cancelled
  | _ => status = .checkpointPending || status = .cancelled

/-- What an entry knows of the items when it runs the graph. -/
def Purpose.Ok (s : Shared) : Purpose → Prop
  | .start result => result.reviewStatusCounts.total = 0 → s.rows.items = []
  | .repair fresh _ => fresh.reviewStatusCounts.total = 0 → s.rows.items = []
  | .resume claimed => NoPending s.rows.items ∧ claimed.thread.status = .resuming ∧ Seen s claimed.thread

/-- The nodes that a run may come to. -/
def Purpose.Reaches (purpose : Purpose) (next : Option Node) : Prop :=
  if purpose.prepared.isSome then ∀ node, next = some node → node.early = true
  else ∀ node, next = some node → node.early = false

/-- What a call knows and holds at a point. -/
def Pc.Ok (s : Shared) : Pc → Prop
  | .drafting (.node _) _ => False
  | .drafting (.start _) point =>
    (∀ lease ∈ point.leases, lease.priorStatus = .created) ∧ (point.open = true → s.rows.items = [])
  | .ensureRead result => result.reviewStatusCounts.total = 0 → s.rows.items = []
  | .ensureWrite result thread =>
    (result.reviewStatusCounts.total = 0 → s.rows.items = []) ∧ Seen s thread ∧ thread.status.early = true
  | .initialProjection result => result.reviewStatusCounts.total = 0 → s.rows.items = []
  | .previous purpose _ => purpose.Ok s
  | .load purpose _ _ => purpose.Ok s
  | .node run => run.purpose.Ok s ∧ Owed s.rows.items run.channels run.next ∧
    (run.purpose.prepared.isSome = true → run.acknowledgement = none) ∧
    (run.purpose.Reaches run.next ∨
      run.purpose.prepared = none ∧ run.next = some .awaitHumanReview ∧ run.acknowledgement.isSome = true)
  | .persist run channels next => run.purpose.Ok s ∧ Owed s.rows.items channels next ∧ run.purpose.Reaches next
  | .interrupt run _ => run.purpose.Ok s ∧ Owed s.rows.items run.channels run.next ∧
    run.purpose.prepared.isSome = true ∧ run.next = some .awaitHumanReview
  | .confirm run => run.purpose.Ok s ∧ Owed s.rows.items run.channels run.next
  | .finishRead _ target => ∀ status, target = some status → Promise s.rows.items status
  | .finishWrite purpose projection target =>
    Seen s projection.thread ∧ projection.thread.status = purpose.claimedStatus ∧ Promise s.rows.items target
  | .markRead target _ => target = .failed ∨ target = .checkpointFailed ∨ target = .awaitingHumanReview
  | .markWrite thread target _ => Seen s thread ∧
    (target = .failed ∧ thread.status.early = true ∨
      (target = .checkpointFailed ∨ target = .awaitingHumanReview) ∧ thread.status.late = true)
  | .restore claimed _ => Seen s claimed.thread ∧ claimed.thread.status = .resuming
  | .statusProbe _ projection => Seen s projection.thread
  | .reconcile _ projection _ target => Seen s projection.thread ∧
    (projection.thread.status = .checkpointPending ∨ projection.thread.status = .resuming ∨
      projection.thread.status = .checkpointFailed) ∧ Promise s.rows.items target
  | .resumeProbe projection => Seen s projection.thread ∧
    (projection.thread.status = .awaitingHumanReview ∧ NoPending s.rows.items ∨
      projection.thread.status = .checkpointFailed)
  | .resumeReconcile projection target =>
    Seen s projection.thread ∧ projection.thread.status = .checkpointFailed ∧ Promise s.rows.items target
  | .failWrite projection => Seen s projection.thread ∧ projection.thread.status = .awaitingHumanReview
  | .rotate projection _ => Seen s projection.thread
  | .repairReread written _ => Seen s written ∧ written.status = .checkpointPending
  | .claim projection =>
    Seen s projection.thread ∧ projection.thread.status = .awaitingHumanReview ∧ NoPending s.rows.items
  | .resumeReread written => Seen s written ∧ written.status = .resuming ∧ NoPending s.rows.items
  | .cancelWrite projection => Seen s projection.thread ∧ CancellableThreadStatus projection.thread.status = true
  | _ => True

section later

variable {s s' : Shared} (hl : Later s s')

include hl

theorem Purpose.Ok.later {purpose : Purpose} (h : purpose.Ok s) : purpose.Ok s' := by
  cases purpose with
  | start result => exact fun h0 => hl.items.nil (h h0)
  | repair fresh after => exact fun h0 => hl.items.nil (h h0)
  | resume claimed => exact ⟨hl.items.noPending h.1,h.2.1,h.2.2.later hl.thread⟩

/-- What a call knows and holds stays true while others act. -/
theorem Pc.Ok.later {pc : Pc} (h : pc.Ok s) : pc.Ok s' := by
  cases pc with
  | drafting draftUse point =>
    cases draftUse with
    | start attempt => exact ⟨h.1,fun ho => hl.items.nil (h.2 ho)⟩
    | node run => exact h
  | ensureRead result => exact fun h0 => hl.items.nil (h h0)
  | ensureWrite result thread => exact ⟨fun h0 => hl.items.nil (h.1 h0),h.2.1.later hl.thread,h.2.2⟩
  | initialProjection result => exact fun h0 => hl.items.nil (h h0)
  | previous purpose attempt => exact Purpose.Ok.later hl h
  | load purpose attempt previous => exact Purpose.Ok.later hl h
  | node run => exact ⟨Purpose.Ok.later hl h.1,h.2.1.later hl.items,h.2.2⟩
  | persist run channels next => exact ⟨Purpose.Ok.later hl h.1,h.2.1.later hl.items,h.2.2⟩
  | interrupt run version => exact ⟨Purpose.Ok.later hl h.1,h.2.1.later hl.items,h.2.2⟩
  | confirm run => exact ⟨Purpose.Ok.later hl h.1,h.2.later hl.items⟩
  | finishRead purpose target => exact fun status hs => hl.items.promise (h status hs)
  | finishWrite purpose projection target => exact ⟨h.1.later hl.thread,h.2.1,hl.items.promise h.2.2⟩
  | markRead target code => exact h
  | markWrite thread target code => exact ⟨h.1.later hl.thread,h.2⟩
  | restore claimed code => exact ⟨h.1.later hl.thread,h.2⟩
  | statusProbe after projection => exact Seen.later h hl.thread
  | reconcile after projection resumable target => exact ⟨h.1.later hl.thread,h.2.1,hl.items.promise h.2.2⟩
  | resumeProbe projection =>
    exact ⟨h.1.later hl.thread,h.2.imp_left fun hw => ⟨hw.1,hl.items.noPending hw.2⟩⟩
  | resumeReconcile projection target => exact ⟨h.1.later hl.thread,h.2.1,hl.items.promise h.2.2⟩
  | failWrite projection => exact ⟨h.1.later hl.thread,h.2⟩
  | rotate projection after => exact Seen.later h hl.thread
  | repairReread written after => exact ⟨h.1.later hl.thread,h.2⟩
  | claim projection => exact ⟨h.1.later hl.thread,h.2.1,hl.items.noPending h.2.2⟩
  | resumeReread written => exact ⟨h.1.later hl.thread,h.2.1,hl.items.noPending h.2.2⟩
  | cancelWrite projection => exact ⟨h.1.later hl.thread,h.2⟩
  | replay => trivial
  | statusRead after => trivial
  | reread after resumable => trivial
  | resumeRead => trivial
  | failedRead => trivial
  | cancelRead => trivial
  | done result => trivial

end later

/-- An idle call knows nothing of the items. -/
theorem Pc.Ok.later_of_idle {s s' : Shared} {pc : Pc} (h : pc.Ok s) (hi : pc.idle = true)
    (hl : s'.thread = s.thread ∨ s.thread.stateVersion < s'.thread.stateVersion) : pc.Ok s' := by
  cases pc with
  | statusProbe after projection => exact Seen.later h hl
  | cancelWrite projection => exact ⟨h.1.later hl,h.2⟩
  | replay => trivial
  | statusRead after => trivial
  | resumeRead => trivial
  | cancelRead => trivial
  | done result => trivial
  | _ => cases hi

/-! ## The invariant -/

/-- What holds while the creator of the thread is at a point. -/
structure Quiet (s : Shared) (pc : Pc) : Prop where
  allows : pc.allows s.thread.status = true
  unprepared : pc.preparing = true → ∀ a, s.checkpoints a = none
  early : ∀ a c, s.checkpoints a = some c → c.Early

structure Orderly (s : System) : Prop where
  ok : ∀ p f, s.calls p = some f → f.pc.Ok s.shared
  quiet : ∀ p f, s.calls p = some f → f.pc.preparing = true ∨ f.pc.starting = true →
    Quiet s.shared f.pc ∧ ∀ q g, q ≠ p → s.calls q = some g → g.pc.idle = true
  running : ∀ p f a, s.calls p = some f → f.pc.running = some a →
    a ≤ s.shared.thread.checkpointThreadId ∧ (∀ c, s.shared.checkpoints a = some c → c.Early) ∧
      ∀ q g, q ≠ p → s.calls q = some g → g.pc.running ≠ some a ∧ g.pc.claiming ≠ some a
  claiming : ∀ p f a, s.calls p = some f → f.pc.claiming = some a →
    a ≤ s.shared.thread.checkpointThreadId ∧ ∀ c, s.shared.checkpoints a = some c → ¬c.Early
  checkpoints : ∀ a c, s.shared.checkpoints a = some c →
    a ≤ s.shared.thread.checkpointThreadId ∧ c.Ok s.shared.rows.items
  due : ∀ p f a node, s.calls p = some f → f.pc.due = some (a,node) →
    ∀ c, s.shared.checkpoints a = some c → c.next = some node
  early : s.shared.thread.status.early = true →
    (∀ a, s.shared.checkpoints a = none) ∧
      ∀ p f, s.calls p = some f → f.pc.idle = true ∨ f.pc.preparing = true

section pcs

variable {pc : Pc}

theorem Pc.idle_plain (h : pc.idle = true) :
    pc.preparing = false ∧ pc.starting = false ∧ pc.running = none ∧ pc.claiming = none := by
  cases pc <;> first | exact ⟨rfl,rfl,rfl,rfl⟩ | cases h

theorem Pc.preparing_plain (h : pc.preparing = true) :
    pc.idle = false ∧ pc.starting = false ∧ pc.running = none ∧ pc.claiming = none := by
  cases pc with
  | drafting draftUse point => cases draftUse <;> exact ⟨rfl,rfl,rfl,rfl⟩
  | _ => first | exact ⟨rfl,rfl,rfl,rfl⟩ | cases h

theorem Pc.allows_cases {status : ThreadStatus} (h : pc.allows status = true) :
    status.early = true ∨ status = .checkpointPending ∨ status = .cancelled := by
  cases pc <;> simp_all [Pc.allows] <;> tauto

theorem Pc.due_running {a : Nat} {node : Node} (h : pc.due = some (a,node)) : pc.running = some a := by
  cases pc with
  | node run =>
    simp only [due] at h
    split at h
    · next hp =>
      obtain ⟨n,hn,heq⟩ := Option.map_eq_some_iff.mp h
      cases heq
      simp [running,hp,hn]
    · cases h
  | interrupt run version =>
    simp only [due] at h
    split at h
    · next hp =>
      obtain ⟨n,hn,heq⟩ := Option.map_eq_some_iff.mp h
      cases heq
      simp [running,hp]
    · cases h
  | _ => cases h

theorem Pc.due_of_running (h : pc.running = none) : pc.due = none := by
  cases hd : pc.due with
  | none => rfl
  | some d =>
    rw [Pc.due_running hd] at h
    cases h

theorem Pc.running_plain {a : Nat} (h : pc.running = some a) :
    pc.idle = false ∧ pc.preparing = false ∧ pc.claiming = none := by
  cases pc with
  | repairReread written after => exact ⟨rfl,rfl,rfl⟩
  | previous purpose attempt => refine ⟨rfl,rfl,?_⟩; simp_all [running,claiming]
  | load purpose attempt previous => refine ⟨rfl,rfl,?_⟩; simp_all [running,claiming]
  | node run => refine ⟨rfl,rfl,?_⟩; simp_all [running,claiming]
  | persist run channels next => refine ⟨rfl,rfl,?_⟩; simp_all [running,claiming]
  | interrupt run version => refine ⟨rfl,rfl,?_⟩; simp_all [running,claiming]
  | _ => cases h

theorem Pc.claiming_plain {a : Nat} (h : pc.claiming = some a) :
    pc.idle = false ∧ pc.preparing = false ∧ pc.starting = false := by
  cases pc with
  | claim projection => exact ⟨rfl,rfl,rfl⟩
  | resumeReread written => exact ⟨rfl,rfl,rfl⟩
  | previous purpose attempt => cases purpose <;> first | exact ⟨rfl,rfl,rfl⟩ | cases h
  | load purpose attempt previous => cases purpose <;> first | exact ⟨rfl,rfl,rfl⟩ | cases h
  | node run =>
    refine ⟨rfl,rfl,?_⟩
    cases hp : run.purpose <;> simp_all [claiming,starting,Purpose.starts,Purpose.prepared]
  | persist run channels next =>
    refine ⟨rfl,rfl,?_⟩
    cases hp : run.purpose <;> simp_all [claiming,starting,Purpose.starts,Purpose.prepared]
  | interrupt run version =>
    refine ⟨rfl,rfl,?_⟩
    cases hp : run.purpose <;> simp_all [claiming,starting,Purpose.starts,Purpose.prepared]
  | _ => cases h

theorem Pc.starting_running (h : pc.starting = true) : ∃ a, pc.running = some a := by
  cases pc with
  | previous purpose attempt => cases purpose <;> first | exact ⟨_,rfl⟩ | cases h
  | load purpose attempt previous => cases purpose <;> first | exact ⟨_,rfl⟩ | cases h
  | node run =>
    refine ⟨run.attempt,?_⟩
    cases hp : run.purpose <;> simp_all [running,starting,Purpose.starts,Purpose.prepared]
  | persist run channels next =>
    refine ⟨run.attempt,?_⟩
    cases hp : run.purpose <;> simp_all [running,starting,Purpose.starts,Purpose.prepared]
  | interrupt run version =>
    refine ⟨run.attempt,?_⟩
    cases hp : run.purpose <;> simp_all [running,starting,Purpose.starts,Purpose.prepared]
  | _ => cases h

theorem Pc.starting_allows (h : pc.starting = true) (status : ThreadStatus) :
    pc.allows status = (decide (status = .checkpointPending) || decide (status = .cancelled)) := by
  cases pc <;> first | rfl | cases h

end pcs

/-- The thread is still being prepared, by a call that is not `p`. -/
def Secluded (s : System) (p : Nat) : Prop :=
  s.shared.thread.status.early = true ∨
    ∃ q g, q ≠ p ∧ s.calls q = some g ∧ (g.pc.preparing = true ∨ g.pc.starting = true)

section orderly

variable {s : System} (h : Orderly s) {p : Nat} {f : Frame} (hp : s.calls p = some f)

include h hp

theorem Orderly.secluded (hs : Secluded s p) : (f.pc.idle = true ∨ f.pc.preparing = true) ∧
    (∀ a c, s.shared.checkpoints a = some c → c.Early) ∧
    (s.shared.thread.status.early = true ∨ s.shared.thread.status = .checkpointPending ∨
      s.shared.thread.status = .cancelled) := by
  obtain hearly | ⟨q,g,hne,hq,hg⟩ := hs
  · obtain ⟨hnone,hall⟩ := h.early hearly
    refine ⟨hall p f hp,?_,.inl hearly⟩
    intro a c hc
    rw [hnone a] at hc
    cases hc
  · obtain ⟨hquiet,hidle⟩ := h.quiet q g hq hg
    exact ⟨.inl (hidle p f (Ne.symm hne) hp),hquiet.early,Pc.allows_cases hquiet.allows⟩

/-- A call that finds an interrupt or a terminal checkpoint is not secluded. -/
theorem Orderly.not_secluded_of_probe {m : Moment} {projection : Projection} {found : Probe}
    (hf : probeCheckpoint projection (saved m s.shared projection.thread.checkpointThreadId) = .ok found) :
    ¬Secluded s p := by
  intro hs
  obtain ⟨c,hc,hne⟩ := probe_not_early hf
  unfold saved at hc
  split at hc
  · cases hc
  · exact hne ((h.secluded hp hs).2.1 _ c hc)

theorem Orderly.not_secluded (hi : f.pc.idle = false) (hprep : f.pc.preparing = false) : ¬Secluded s p := by
  intro hs
  have := (h.secluded hp hs).1
  simp [hi,hprep] at this

end orderly

/-- The step of a call in the system, its histories apart. -/
structure Stepped (s : System) (p : Nat) (f : Frame) (pc' : Pc) (shared' : Shared) (t : System) : Prop where
  shared : t.shared = shared'
  own : ∃ f', t.calls p = some f' ∧ f'.pc = pc'
  others : ∀ q, q ≠ p → t.calls q = s.calls q

/-- The general step lemma: what is to be shown of the point that a call has come to, and of what it has written. -/
theorem Orderly.next {s t : System} (h : Orderly s) {p : Nat} {f : Frame} (hp : s.calls p = some f) {pc' : Pc}
    {shared' : Shared} (ht : Stepped s p f pc' shared' t)
    (hthread : shared'.thread = s.shared.thread ∨ s.shared.thread.stateVersion < shared'.thread.stateVersion)
    (hitems : ItemsLater s.shared.rows.items shared'.rows.items ∨ f.pc.preparing = true)
    (hattempt : s.shared.thread.checkpointThreadId ≤ shared'.thread.checkpointThreadId) (hok : pc'.Ok shared')
    (hcps : ∀ a, shared'.checkpoints a = s.shared.checkpoints a ∨ f.pc.running = some a ∨ f.pc.claiming = some a)
    (howed : ∀ a c, shared'.checkpoints a = some c → s.shared.checkpoints a = some c ∨
      a ≤ shared'.thread.checkpointThreadId ∧ c.Ok shared'.rows.items)
    (hown : ∀ a c, f.pc.claiming = some a → shared'.checkpoints a = some c → ¬c.Early)
    (hearly : shared'.thread.status.early = true → s.shared.thread.status.early = true ∧
      (∀ a, shared'.checkpoints a = none) ∧ (pc'.idle = true ∨ pc'.preparing = true))
    (hquiet : pc'.preparing = true ∨ pc'.starting = true →
      (f.pc.preparing = true ∨ f.pc.starting = true) ∧ Quiet shared' pc')
    (hidle : Secluded s p → f.pc.idle = true → pc'.idle = true ∧
      (shared'.thread.status = s.shared.thread.status ∨ shared'.thread.status = .cancelled))
    (hrun : ∀ a, pc'.running = some a → a ≤ shared'.thread.checkpointThreadId ∧
      (∀ c, shared'.checkpoints a = some c → c.Early) ∧
      ∀ q g, q ≠ p → s.calls q = some g → g.pc.running ≠ some a ∧ g.pc.claiming ≠ some a)
    (hclaim : ∀ a, pc'.claiming = some a → a ≤ shared'.thread.checkpointThreadId ∧
      (∀ c, shared'.checkpoints a = some c → ¬c.Early) ∧
      ∀ q g, q ≠ p → s.calls q = some g → g.pc.running ≠ some a)
    (hdue : ∀ a node, pc'.due = some (a,node) → ∀ c, shared'.checkpoints a = some c → c.next = some node) :
    Orderly t := by
  obtain ⟨f',hf',hpc'⟩ := ht.own
  have hothers : ∀ q g, q ≠ p → t.calls q = some g → s.calls q = some g := by
    intro q g hne hq
    rwa [ht.others q hne] at hq
  have hself : ∀ q g, q = p → t.calls q = some g → g.pc = pc' := by
    intro q g heq hq
    rw [heq,hf'] at hq
    cases hq
    exact hpc'
  have hsh := ht.shared
  constructor
  · intro q g hq
    rw [hsh]
    by_cases hne : q = p
    · rw [hself q g hne hq]
      exact hok
    · have hq' := hothers q g hne hq
      obtain hitems | hprep := hitems
      · exact (h.ok q g hq').later ⟨hthread,hitems⟩
      · exact (h.ok q g hq').later_of_idle ((h.quiet p f hp (.inl hprep)).2 q g hne hq') hthread
  · intro q g hq hg
    rw [hsh]
    by_cases hne : q = p
    · have hgpc := hself q g hne hq
      rw [hgpc] at hg
      obtain ⟨hbefore,hquiet'⟩ := hquiet hg
      refine ⟨by rw [hgpc]; exact hquiet',?_⟩
      intro r k hr hk
      rw [hne] at hr
      exact (h.quiet p f hp hbefore).2 r k hr (hothers r k hr hk)
    · have hq' := hothers q g hne hq
      obtain ⟨hquiet',hidles⟩ := h.quiet q g hq' hg
      have hfi : f.pc.idle = true := hidles p f (Ne.symm hne) hp
      obtain ⟨hpi,hstatus⟩ := hidle (.inr ⟨q,g,hne,hq',hg⟩) hfi
      have hsame : ∀ a, shared'.checkpoints a = s.shared.checkpoints a := by
        intro a
        have hplain := Pc.idle_plain hfi
        obtain hc | hc | hc := hcps a
        · exact hc
        · rw [hplain.2.2.1] at hc
          cases hc
        · rw [hplain.2.2.2] at hc
          cases hc
      refine ⟨⟨?_,?_,?_⟩,?_⟩
      · obtain hs | hs := hstatus
        · rw [hs]
          exact hquiet'.allows
        · rw [hs]
          cases g.pc <;> rfl
      · intro hprep a
        rw [hsame a]
        exact hquiet'.unprepared hprep a
      · intro a c hc
        rw [hsame a] at hc
        exact hquiet'.early a c hc
      · intro r k hr hk
        by_cases hrp : r = p
        · rw [hself r k hrp hk]
          exact hpi
        · exact hidles r k hr (hothers r k hrp hk)
  · intro q g a hq hg
    rw [hsh]
    by_cases hne : q = p
    · rw [hself q g hne hq] at hg
      obtain ⟨hle,hcp,hex⟩ := hrun a hg
      refine ⟨hle,hcp,?_⟩
      intro r k hr hk
      rw [hne] at hr
      exact hex r k hr (hothers r k hr hk)
    · have hq' := hothers q g hne hq
      obtain ⟨hle,hcp,hex⟩ := h.running q g a hq' hg
      refine ⟨by omega,?_,?_⟩
      · intro c hc
        obtain hsame | hr | hr := hcps a
        · rw [hsame] at hc
          exact hcp c hc
        · exact absurd hr (hex p f (Ne.symm hne) hp).1
        · exact absurd hr (hex p f (Ne.symm hne) hp).2
      · intro r k hr hk
        by_cases hrp : r = p
        · rw [hself r k hrp hk]
          refine ⟨fun hkr => ?_,fun hkc => ?_⟩
          · exact ((hrun a hkr).2.2 q g hne hq').1 hg
          · exact (hclaim a hkc).2.2 q g hne hq' hg
        · exact hex r k hr (hothers r k hrp hk)
  · intro q g a hq hg
    rw [hsh]
    by_cases hne : q = p
    · rw [hself q g hne hq] at hg
      exact ⟨(hclaim a hg).1,(hclaim a hg).2.1⟩
    · have hq' := hothers q g hne hq
      obtain ⟨hle,hcp⟩ := h.claiming q g a hq' hg
      refine ⟨by omega,?_⟩
      intro c hc
      obtain hsame | hr | hr := hcps a
      · rw [hsame] at hc
        exact hcp c hc
      · exact absurd hg ((h.running p f a hp hr).2.2 q g hne hq').2
      · exact hown a c hr hc
  · intro a c hc
    rw [hsh] at hc ⊢
    obtain hold | hnew := howed a c hc
    · obtain ⟨hle,ho⟩ := h.checkpoints a c hold
      obtain hitems | hprep := hitems
      · exact ⟨by omega,ho.owed.later hitems,ho.interrupt⟩
      · rw [(h.quiet p f hp (.inl hprep)).1.unprepared hprep a] at hold
        cases hold
    · exact hnew
  · intro q g a node hq hg c hc
    rw [hsh] at hc
    by_cases hne : q = p
    · rw [hself q g hne hq] at hg
      exact hdue a node hg c hc
    · have hq' := hothers q g hne hq
      have hrunning := Pc.due_running hg
      obtain hsame | hr | hr := hcps a
      · rw [hsame] at hc
        exact h.due q g a node hq' hg c hc
      · exact absurd hr ((h.running q g a hq' hrunning).2.2 p f (Ne.symm hne) hp).1
      · exact absurd hr ((h.running q g a hq' hrunning).2.2 p f (Ne.symm hne) hp).2
  · intro hstatus
    rw [hsh] at hstatus ⊢
    obtain ⟨hbefore,hnone,hpc⟩ := hearly hstatus
    refine ⟨hnone,?_⟩
    intro q g hq
    by_cases hne : q = p
    · rw [hself q g hne hq]
      exact hpc
    · exact (h.early hbefore).2 q g (hothers q g hne hq)

section kinds

variable {s t : System} (h : Orderly s) {p : Nat} {f : Frame} (hp : s.calls p = some f) {pc' : Pc}

include h hp

/-- A step that writes nothing, to a point that holds no attempt and prepares nothing. -/
theorem Orderly.rests (ht : Stepped s p f pc' s.shared t) (hok : pc'.Ok s.shared) (hr : pc'.running = none)
    (hc : pc'.claiming = none) (hprep : pc'.preparing = false) (hstart : pc'.starting = false)
    (he : pc'.idle = true ∨ ¬Secluded s p) : Orderly t := by
  have hsecluded : Secluded s p → pc'.idle = true := fun hs => he.resolve_right fun hn => hn hs
  apply h.next hp ht (.inl rfl) (.inl (ItemsLater.refl _)) (Nat.le_refl _) hok
  · exact fun a => .inl rfl
  · exact fun a c hca => .inl hca
  · exact fun a c hca => (h.claiming p f a hp hca).2 c
  · exact fun hearly => ⟨hearly,(h.early hearly).1,.inl (hsecluded (.inl hearly))⟩
  · intro hq
    simp [hprep,hstart] at hq
  · exact fun hs _ => ⟨hsecluded hs,.inl rfl⟩
  · intro a ha
    rw [hr] at ha
    cases ha
  · intro a ha
    rw [hc] at ha
    cases ha
  · intro a node hd
    rw [Pc.due_of_running hr] at hd
    cases hd

/-- A compare-and-set to a status that is not early. -/
theorem Orderly.writes {thread : AgentWorkflowThread} (ht : Stepped s p f pc' (s.shared.setThread thread) t)
    (hv : s.shared.thread.stateVersion < thread.stateVersion)
    (ha : s.shared.thread.checkpointThreadId = thread.checkpointThreadId) (hs : thread.status.early = false)
    (hok : pc'.Ok (s.shared.setThread thread)) (hr : pc'.running = none)
    (hprep : pc'.preparing = false) (hstart : pc'.starting = false)
    (hc : ∀ a, pc'.claiming = some a → f.pc.claiming = some a)
    (he : f.pc.idle = true → thread.status = .cancelled ∧ pc'.idle = true) : Orderly t := by
  apply h.next hp ht (.inr hv) (.inl (ItemsLater.refl _)) (Nat.le_of_eq ha) hok
  · exact fun a => .inl rfl
  · exact fun a c hca => .inl hca
  · exact fun a c hca => (h.claiming p f a hp hca).2 c
  · intro hearly
    change thread.status.early = true at hearly
    rw [hs] at hearly
    cases hearly
  · intro hq
    simp [hprep,hstart] at hq
  · exact fun _ hi => ⟨(he hi).2,.inr (he hi).1⟩
  · intro a hra
    rw [hr] at hra
    cases hra
  · intro a hca
    have hf := hc a hca
    obtain ⟨hle,hcp⟩ := h.claiming p f a hp hf
    refine ⟨hle.trans (Nat.le_of_eq ha),hcp,?_⟩
    intro q g hne hq hg
    exact ((h.running q g a hq hg).2.2 p f (Ne.symm hne) hp).2 hf
  · intro a node hd
    rw [Pc.due_of_running hr] at hd
    cases hd

/-- The call that creates the thread goes on preparing it. -/
theorem Orderly.prepares {shared' : Shared} (ht : Stepped s p f pc' shared' t) (hf : f.pc.preparing = true)
    (hprep : pc'.preparing = true)
    (hthread : shared'.thread = s.shared.thread ∨ s.shared.thread.stateVersion < shared'.thread.stateVersion)
    (ha : s.shared.thread.checkpointThreadId = shared'.thread.checkpointThreadId)
    (hcps : shared'.checkpoints = s.shared.checkpoints) (hok : pc'.Ok shared')
    (hstatus : pc'.allows shared'.thread.status = true)
    (hearly : shared'.thread.status.early = true → s.shared.thread.status.early = true) : Orderly t := by
  have hnone : ∀ a, shared'.checkpoints a = none := by
    intro a
    rw [hcps]
    exact (h.quiet p f hp (.inl hf)).1.unprepared hf a
  have hplain := Pc.preparing_plain hprep
  apply h.next hp ht hthread (.inr hf) (Nat.le_of_eq ha) hok
  · exact fun a => .inl (congrFun hcps a)
  · intro a c hca
    rw [hnone a] at hca
    cases hca
  · intro a c _ hca
    rw [hnone a] at hca
    cases hca
  · exact fun he => ⟨hearly he,hnone,.inr hprep⟩
  · intro _
    refine ⟨.inl hf,hstatus,fun _ => hnone,?_⟩
    intro a c hca
    rw [hnone a] at hca
    cases hca
  · intro _ hi
    rw [(Pc.preparing_plain hf).1] at hi
    cases hi
  · intro a hra
    rw [hplain.2.2.1] at hra
    cases hra
  · intro a hca
    rw [hplain.2.2.2] at hca
    cases hca
  · intro a node hd
    rw [Pc.due_of_running hplain.2.2.1] at hd
    cases hd

/-- A graph run goes on: it writes to its own attempt only. -/
theorem Orderly.carries {shared' : Shared} (ht : Stepped s p f pc' shared' t)
    (hf : f.pc.running.isSome = true ∨ f.pc.claiming.isSome = true) (hrows : shared'.rows = s.shared.rows)
    (hok : pc'.Ok shared') (hprep : pc'.preparing = false) (hstart : pc'.starting = true → f.pc.starting = true)
    (hcps : ∀ a, shared'.checkpoints a = s.shared.checkpoints a ∨ f.pc.running = some a ∨ f.pc.claiming = some a)
    (hnew : ∀ a c, shared'.checkpoints a = some c → s.shared.checkpoints a = some c ∨
      (f.pc.running = some a ∨ f.pc.claiming = some a) ∧ c.Ok s.shared.rows.items)
    (hown : ∀ a c, f.pc.claiming = some a → shared'.checkpoints a = some c → ¬c.Early)
    (hrun : ∀ a, pc'.running = some a → f.pc.running = some a ∧ ∀ c, shared'.checkpoints a = some c → c.Early)
    (hclaim : ∀ a, pc'.claiming = some a → f.pc.claiming = some a)
    (hdue : ∀ a node, pc'.due = some (a,node) → ∀ c, shared'.checkpoints a = some c → c.next = some node) :
    Orderly t := by
  have hplain : f.pc.idle = false ∧ f.pc.preparing = false := by
    obtain hr | hc := hf
    · obtain ⟨a,ha⟩ := Option.isSome_iff_exists.mp hr
      exact ⟨(Pc.running_plain ha).1,(Pc.running_plain ha).2.1⟩
    · obtain ⟨a,ha⟩ := Option.isSome_iff_exists.mp hc
      exact ⟨(Pc.claiming_plain ha).1,(Pc.claiming_plain ha).2.1⟩
  have hthread : shared'.thread = s.shared.thread := congrArg Rows.thread hrows
  apply h.next hp ht (.inl hthread) (.inl (by rw [hrows]; exact ItemsLater.refl _)) (by rw [hthread]) hok hcps
  · intro a c hc
    obtain hold | ⟨ha,hok'⟩ := hnew a c hc
    · exact .inl hold
    · rw [hthread,hrows]
      refine .inr ⟨?_,hok'⟩
      obtain ha | ha := ha
      · exact (h.running p f a hp ha).1
      · exact (h.claiming p f a hp ha).1
  · exact hown
  · intro he
    rw [hthread] at he
    have := (h.early he).2 p f hp
    simp [hplain.1,hplain.2] at this
  · intro hq
    rw [hprep] at hq
    simp only [Bool.false_eq_true,false_or] at hq
    have hfs := hstart hq
    obtain ⟨hquiet,-⟩ := h.quiet p f hp (.inr hfs)
    refine ⟨.inr hfs,?_,?_,?_⟩
    · rw [hthread,Pc.starting_allows hq,← Pc.starting_allows hfs]
      exact hquiet.allows
    · intro hx
      rw [hprep] at hx
      cases hx
    · intro a c hc
      obtain ⟨b,hb⟩ := Pc.starting_running hq
      obtain ⟨hfb,hearly⟩ := hrun b hb
      obtain hsame | hr | hc' := hcps a
      · rw [hsame] at hc
        exact hquiet.early a c hc
      · rw [hfb] at hr
        cases hr
        exact hearly c hc
      · rw [(Pc.running_plain hfb).2.2] at hc'
        cases hc'
  · intro _ hi
    rw [hplain.1] at hi
    cases hi
  · intro a ha
    obtain ⟨hfa,hearly⟩ := hrun a ha
    obtain ⟨hle,-,hex⟩ := h.running p f a hp hfa
    exact ⟨by rw [hthread]; exact hle,hearly,hex⟩
  · intro a ha
    have hfa := hclaim a ha
    refine ⟨by rw [hthread]; exact (h.claiming p f a hp hfa).1,fun c => hown a c hfa,?_⟩
    intro q g hne hq hg
    exact ((h.running q g a hq hg).2.2 p f (Ne.symm hne) hp).2 hfa
  · exact hdue

end kinds

/-! ## What a node settles -/

section nodes

variable {purpose : Purpose} {items : List ReviewItem} {channels channels' : Channels} {node : Node} {next : Option Node}

theorem Purpose.reaches_prepared (h : purpose.prepared.isSome = true) :
    purpose.Reaches next ↔ ∀ node, next = some node → node.early = true := by simp [Purpose.Reaches,h]

theorem Purpose.reaches_unprepared (h : purpose.prepared = none) :
    purpose.Reaches next ↔ ∀ node, next = some node → node.early = false := by simp [Purpose.Reaches,h]

theorem Purpose.reaches_early (h : purpose.prepared.isSome = true) (he : node.early = true) :
    purpose.Reaches (some node) := by
  rw [Purpose.reaches_prepared h]
  rintro _ ⟨⟩
  exact he

theorem Purpose.reaches_late (h : purpose.prepared = none) (he : node.early = false) :
    purpose.Reaches (some node) := by
  rw [Purpose.reaches_unprepared h]
  rintro _ ⟨⟩
  exact he

theorem Purpose.reaches_end (purpose : Purpose) : purpose.Reaches none := by
  unfold Purpose.Reaches
  split <;> exact fun _ hn => by cases hn

/-- A node that is not the last one keeps what the channels settle. -/
theorem Owed.goes_on (h : Owed items channels next) (hstatus : channels'.status = channels.status)
    (hnode : node ≠ .finalizeReviewTrace ∧ node ≠ .finalizeNoCandidates ∧ node ≠ .finalizeNeedsMoreEvidence ∧
      node ≠ .routeReviewBoundary) : Owed items channels' (some node) := by
  obtain ⟨h1,h2,h3,h4⟩ := hnode
  constructor
  · rintro (hn | hn | hn)
    · exact absurd (Option.some.inj hn) h1
    · exact absurd (Option.some.inj hn) h2
    · rw [hstatus] at hn
      exact h.completed (.inr (.inr hn))
  · rintro (hn | hn)
    · exact absurd (Option.some.inj hn) h3
    · rw [hstatus] at hn
      exact h.needsMore (.inr hn)
  · exact fun hn => absurd (Option.some.inj hn) h4

theorem withStatus_eq_zero {status : ReviewItemStatus} :
    withStatus items status = 0 ↔ some status ∉ items.map (·.status) := by
  simp only [withStatus,List.countP_eq_zero,decide_eq_true_eq,List.mem_map,not_exists,not_and]

theorem noPending_iff : NoPending items ↔ (countItems items).pendingReview = 0 := withStatus_eq_zero.symm

/-- The counts of the items that the verification has read settle the branch. -/
theorem resolution_owed (hp : NoPending items) (hc : channels.reviewStatusCounts = some (countItems items))
    (hb : reviewResolutionBranch channels = .ok node) (ho : Owed items channels next) :
    Owed items channels (some node) ∧ node.early = false := by
  have hpending : (countItems items).pendingReview = 0 := noPending_iff.mp hp
  unfold reviewResolutionBranch at hb
  rw [hc] at hb
  dsimp only [Option.getD_some] at hb
  split at hb
  · next hmore =>
    cases hb
    have hmem : some ReviewItemStatus.needsMoreEvidence ∈ items.map (·.status) := by
      by_contra hn
      exact hmore (withStatus_eq_zero.mpr hn)
    refine ⟨⟨?_,fun _ => ⟨hp,hmem⟩,?_⟩,rfl⟩
    · rintro (hn | hn | hn)
      · cases hn
      · cases hn
      · exact ho.completed (.inr (.inr hn))
    · intro hn
      cases hn
  next hmore =>
    split at hb
    · next hn => exact absurd hpending hn
    split at hb
    · cases hb
      have hnone : some ReviewItemStatus.needsMoreEvidence ∉ items.map (·.status) :=
        withStatus_eq_zero.mp (not_not.mp hmore)
      refine ⟨⟨fun _ => ⟨hp,hnone⟩,?_,?_⟩,rfl⟩
      · rintro (hn | hn)
        · cases hn
        · exact ho.needsMore (.inr hn)
      · intro hn
        cases hn
    · cases hb

theorem promise_nil : Promise [] .completed := ⟨List.not_mem_nil,List.not_mem_nil⟩

/-- The channels of a finished run. -/
theorem output_owed {status : ThreadStatus} {phase : Phase} (hp : Promise items status)
    (hs : status = .completed ∨ status = .needsMoreEvidence) :
    Owed items (output channels status phase node) none := by
  constructor
  · rintro (hn | hn | hn)
    · cases hn
    · cases hn
    · rw [show (output channels status phase node).status = some status from rfl] at hn
      cases hn
      exact hp
  · rintro (hn | hn)
    · cases hn
    · rw [show (output channels status phase node).status = some status from rfl] at hn
      cases hn
      exact hp
  · intro hn
    cases hn

end nodes

section execute

variable {settings : Settings} {actor : DemoUser} {s : Shared} {run : GraphRun} {node : Node} {channels : Channels}
  {next : Option Node}

theorem map_writes {x : Except Failure Channels} {target : Option Node}
    (h : x.map (NodeOutcome.writes · target) = .ok (.writes channels next)) : x = .ok channels ∧ next = target := by
  cases x with
  | error e => cases h
  | ok channels' =>
    cases h
    exact ⟨rfl,rfl⟩

theorem validateInput_status {rows : Rows} {before : Channels} (h : validateInput rows before = .ok channels) :
    channels.status = before.status := by
  unfold validateInput at h
  split at h
  · cases h
  · cases hl : loadThread rows <;> rw [hl] at h <;> cases h
    rfl

theorem collectEvidenceRefs_status {rows : Rows} {before : Channels}
    (h : collectEvidenceRefs actor rows before = .ok channels) : channels.status = before.status := by
  unfold collectEvidenceRefs at h
  cases hl : currentPermissions actor with
  | error e =>
    rw [hl] at h
    cases h
  | ok allowed =>
    rw [hl] at h
    simp only [Except.bind] at h
    split at h
    · cases h
    split at h
    · cases h
    · cases h
      rfl

theorem planAgentRuns_status {registry : List Text} {rows : Rows} {before : Channels}
    (h : planAgentRuns registry rows before = .ok channels) : channels.status = before.status := by
  unfold planAgentRuns at h
  split at h <;> cases h
  rfl

theorem verifyReviewResolution_ok {rows : Rows} {before : Channels}
    (h : verifyReviewResolution actor rows before = .ok channels) :
    channels.status = before.status ∧ channels.reviewStatusCounts = some (countItems rows.items) := by
  unfold verifyReviewResolution at h
  cases hl : currentPermissions actor with
  | error e =>
    rw [hl] at h
    cases h
  | ok allowed =>
    cases ht : loadThread rows with
    | error e =>
      rw [hl,ht] at h
      cases h
    | ok thread =>
      rw [hl,ht] at h
      simp only [Except.bind] at h
      split at h
      · cases h
      split at h
      · cases h
      split at h
      · cases h
      · cases h
        exact ⟨rfl,rfl⟩

theorem Purpose.Ok.prepared {purpose : Purpose} {result : ReviewDraftResult} (h : purpose.Ok s)
    (hp : purpose.prepared = some result) (h0 : result.reviewStatusCounts.total = 0) : s.rows.items = [] := by
  cases purpose with
  | start result' =>
    cases hp
    exact h h0
  | repair fresh after =>
    cases hp
    exact h h0
  | resume claimed => cases hp

theorem Purpose.Ok.unprepared {purpose : Purpose} (h : purpose.Ok s) (hp : purpose.prepared = none) :
    NoPending s.rows.items := by
  cases purpose with
  | start result => cases hp
  | repair fresh after => cases hp
  | resume claimed => exact h.1

/-- What a node writes settles no more than is true, and leads on in its part of the graph. -/
theorem execute_owed (hok : run.purpose.Ok s) (ho : Owed s.rows.items run.channels (some node))
    (hack : run.purpose.prepared.isSome = true → run.acknowledgement = none)
    (hr : run.purpose.Reaches (some node) ∨
      run.purpose.prepared = none ∧ node = .awaitHumanReview ∧ run.acknowledgement.isSome = true)
    (hx : execute settings actor s.rows run node = .ok (.writes channels next)) :
    Owed s.rows.items channels next ∧ run.purpose.Reaches next := by
  have hprep : node.early = true → node ≠ .awaitHumanReview → run.purpose.prepared.isSome = true := by
    intro hearly hne
    obtain hr | hr := hr
    · by_contra hn
      have hnone : run.purpose.prepared = none := by simpa using hn
      have := (Purpose.reaches_unprepared hnone).mp hr node rfl
      rw [hearly] at this
      cases this
    · exact absurd hr.2.1 hne
  have hunprep : node.early = false → run.purpose.prepared = none := by
    intro hlate
    obtain hr | hr := hr
    · by_contra hn
      have hsome : run.purpose.prepared.isSome = true := Option.isSome_iff_ne_none.mpr hn
      have := (Purpose.reaches_prepared hsome).mp hr node rfl
      rw [hlate] at this
      cases this
    · exact hr.1
  cases node with
  | validateInput =>
    obtain ⟨hv,rfl⟩ := map_writes hx
    exact ⟨ho.goes_on (validateInput_status hv) (by simp),Purpose.reaches_early (hprep rfl (by simp)) rfl⟩
  | collectEvidenceRefs =>
    obtain ⟨hv,rfl⟩ := map_writes hx
    exact ⟨ho.goes_on (collectEvidenceRefs_status hv) (by simp),Purpose.reaches_early (hprep rfl (by simp)) rfl⟩
  | planAgentRuns =>
    obtain ⟨hv,rfl⟩ := map_writes hx
    exact ⟨ho.goes_on (planAgentRuns_status hv) (by simp),Purpose.reaches_early (hprep rfl (by simp)) rfl⟩
  | draftReviewCandidatesTransaction =>
    have hsome := hprep rfl (by simp)
    obtain ⟨result,hresult⟩ := Option.isSome_iff_exists.mp hsome
    simp only [execute,hresult] at hx
    cases hl : currentPermissions actor with
    | error e =>
      rw [hl] at hx
      cases hx
    | ok allowed =>
      rw [hl] at hx
      obtain ⟨hv,rfl⟩ := map_writes hx
      unfold draftReviewCandidatesTransaction at hv
      split at hv
      · cases hv
      · cases hv
        refine ⟨⟨?_,?_,fun _ h0 => hok.prepared hresult h0⟩,Purpose.reaches_early hsome rfl⟩
        · rintro (hn | hn | hn)
          · cases hn
          · cases hn
          · exact ho.completed (.inr (.inr hn))
        · rintro (hn | hn)
          · cases hn
          · exact ho.needsMore (.inr hn)
  | routeReviewBoundary =>
    cases hx
    have hsome := hprep rfl (by simp)
    have hempty := ho.empty rfl
    refine ⟨⟨?_,?_,?_⟩,Purpose.reaches_early hsome ?_⟩
    · intro hn
      by_cases h0 : (run.channels.reviewStatusCounts.getD {}).total = 0
      · rw [hempty h0]
        exact promise_nil
      · rw [reviewBoundaryBranch,if_neg (by exact h0)] at hn
        obtain hn | hn | hn := hn
        · cases hn
        · cases hn
        · exact ho.completed (.inr (.inr hn))
    · rintro (hn | hn)
      · unfold reviewBoundaryBranch at hn
        split at hn <;> cases hn
      · exact ho.needsMore (.inr hn)
    · intro hn
      unfold reviewBoundaryBranch at hn
      split at hn <;> cases hn
    · unfold reviewBoundaryBranch
      split <;> rfl
  | finalizeNoCandidates =>
    cases hx
    exact ⟨output_owed (ho.completed (.inr (.inl rfl))) (.inl rfl),Purpose.reaches_end _⟩
  | awaitHumanReview =>
    simp only [execute] at hx
    cases hl : loadThread s.rows with
    | error e =>
      rw [hl] at hx
      cases hx
    | ok thread =>
      rw [hl] at hx
      simp only [Except.bind] at hx
      split at hx
      · cases hx
      · next version hversion =>
        split at hx
        · cases hx
          have hnone : run.purpose.prepared = none := by
            by_contra hn
            rw [hack (Option.isSome_iff_ne_none.mpr hn)] at hversion
            cases hversion
          exact ⟨ho.goes_on rfl (by simp),Purpose.reaches_late hnone rfl⟩
        · cases hx
  | verifyReviewResolutionFromPostgres =>
    have hnone := hunprep rfl
    simp only [execute] at hx
    cases hv : verifyReviewResolution actor s.rows run.channels with
    | error e =>
      rw [hv] at hx
      cases hx
    | ok verified =>
      rw [hv] at hx
      cases hb : reviewResolutionBranch verified with
      | error e =>
        simp only [Except.bind,hb,Except.map] at hx
        cases hx
      | ok node =>
        simp only [Except.bind,hb,Except.map] at hx
        cases hx
        obtain ⟨hstatus,hcounts⟩ := verifyReviewResolution_ok hv
        have hgoes : Owed s.rows.items channels (some .collectEvidenceRefs) := ho.goes_on hstatus (by simp)
        obtain ⟨howed,hlate⟩ := resolution_owed (hok.unprepared hnone) hcounts hb hgoes
        exact ⟨howed,Purpose.reaches_late hnone hlate⟩
  | finalizeNeedsMoreEvidence =>
    cases hx
    exact ⟨output_owed (ho.needsMore (.inl rfl)) (.inr rfl),Purpose.reaches_end _⟩
  | finalizeReviewTrace =>
    cases hx
    exact ⟨output_owed (ho.completed (.inl rfl)) (.inl rfl),Purpose.reaches_end _⟩

end execute

/-! ## One step -/

/-- The row that a resume or a repair has written and is about to read back. -/
def Pc.written : Pc → Option AgentWorkflowThread
  | .repairReread written _ => some written
  | .resumeReread written => some written
  | _ => none

/-- A resume or a repair reads back the row as it has just written it. -/
def Pc.Undisturbed (s : Shared) (pc : Pc) : Prop :=
  ∀ written ∈ pc.written, s.thread.stateVersion = written.stateVersion

instance (s : Shared) (pc : Pc) : Decidable (pc.Undisturbed s) :=
  inferInstanceAs (Decidable (∀ written ∈ pc.written, s.thread.stateVersion = written.stateVersion))

theorem unmoved_seen {s : Shared} {base : AgentWorkflowThread} (h : Seen s base) (hu : unmoved s.thread base = true) :
    s.thread = base := by
  simp only [unmoved,Bool.and_eq_true,decide_eq_true_eq] at hu
  exact h.same hu.1.symm

theorem Pc.Ok.resumed {s : Shared} {pc : Pc} {claimed : Projection} (h : pc.Ok s)
    (hpc : pc.purpose = some (.resume claimed)) : (Purpose.resume claimed).Ok s ∧ pc.idle = false ∧ pc.preparing = false := by
  cases pc with
  | initialProjection result => cases hpc
  | previous purpose attempt =>
    cases hpc
    exact ⟨h,rfl,rfl⟩
  | load purpose attempt previous =>
    cases hpc
    exact ⟨h,rfl,rfl⟩
  | node run => exact ⟨(Option.some.inj hpc) ▸ h.1,rfl,rfl⟩
  | persist run channels next => exact ⟨(Option.some.inj hpc) ▸ h.1,rfl,rfl⟩
  | interrupt run version => exact ⟨(Option.some.inj hpc) ▸ h.1,rfl,rfl⟩
  | confirm run => exact ⟨(Option.some.inj hpc) ▸ h.1,rfl,rfl⟩
  | _ => cases hpc

section step

variable {settings : Settings} {m : Moment} {s t : System} (h : Orderly s) {p : Nat} {f : Frame}
  (hp : s.calls p = some f)

include h hp

/-- The creator of the thread is not secluded once the thread is not early any more. -/
theorem Orderly.creator_not_secluded (hf : f.pc.preparing = true ∨ f.pc.starting = true)
    (hs : s.shared.thread.status.early = false) : ¬Secluded s p := by
  rintro (he | ⟨q,g,hne,hq,hg⟩)
  · rw [hs] at he
    cases he
  · have hplain := Pc.idle_plain ((h.quiet p f hp hf).2 q g hne hq)
    simp [hplain.1,hplain.2.1] at hg

theorem Orderly.marks_not_secluded (hm : f.pc.marks = true) : ¬Secluded s p := by
  cases hpc : f.pc with
  | initialProjection result =>
    apply h.creator_not_secluded hp (.inl (by rw [hpc]; rfl))
    have hallows := (h.quiet p f hp (.inl (by rw [hpc]; rfl))).1.allows
    rw [hpc] at hallows
    simp only [Pc.allows,Bool.or_eq_true,decide_eq_true_eq] at hallows
    obtain hs | hs := hallows <;> rw [hs] <;> rfl
  | previous purpose attempt => exact h.not_secluded hp (by rw [hpc]; rfl) (by rw [hpc]; rfl)
  | load purpose attempt previous => exact h.not_secluded hp (by rw [hpc]; rfl) (by rw [hpc]; rfl)
  | node run => exact h.not_secluded hp (by rw [hpc]; rfl) (by rw [hpc]; rfl)
  | persist run channels next => exact h.not_secluded hp (by rw [hpc]; rfl) (by rw [hpc]; rfl)
  | interrupt run version => exact h.not_secluded hp (by rw [hpc]; rfl) (by rw [hpc]; rfl)
  | confirm run => exact h.not_secluded hp (by rw [hpc]; rfl) (by rw [hpc]; rfl)
  | finishRead purpose target => exact h.not_secluded hp (by rw [hpc]; rfl) (by rw [hpc]; rfl)
  | repairReread written after => exact h.not_secluded hp (by rw [hpc]; rfl) (by rw [hpc]; rfl)
  | resumeReread written => exact h.not_secluded hp (by rw [hpc]; rfl) (by rw [hpc]; rfl)
  | _ =>
    rw [hpc] at hm
    cases hm

/-- A node raises and the call leaves the graph. -/
theorem Orderly.leaves_node {run : GraphRun} {pc' : Pc} (hpc : f.pc = .node run) (hnext : run.next.isSome = true)
    (ht : Stepped s p f pc' (s.shared.modify run.attempt run.current fun c => { c with raised := true }) t)
    (hok : pc'.Ok s.shared) (hr : pc'.running = none) (hc : pc'.claiming = none)
    (hprep : pc'.preparing = false) (hstart : pc'.starting = false) : Orderly t := by
  have hmine : f.pc.running = some run.attempt ∨ f.pc.claiming = some run.attempt := by
    rw [hpc]
    by_cases hs : run.purpose.prepared.isSome = true
    · exact .inl (by simp [Pc.running,hs,hnext])
    · exact .inr (by simp [Pc.claiming,hs])
  have hold : ∀ a c, (s.shared.modify run.attempt run.current fun c => { c with raised := true }).checkpoints a = some c →
      ∃ c', s.shared.checkpoints a = some c' ∧ (a = run.attempt ∨ c = c') ∧ c.channels = c'.channels ∧
        c.next = c'.next ∧ c.interrupt = c'.interrupt := by
    intro a c hca
    change Function.update s.shared.checkpoints run.attempt _ a = some c at hca
    by_cases ha : a = run.attempt
    · rw [ha,Function.update_self] at hca
      obtain ⟨c',hc',heq⟩ := Option.map_eq_some_iff.mp hca
      refine ⟨c',by rw [ha]; exact hc',.inl ha,?_⟩
      rw [← heq]
      split <;> exact ⟨rfl,rfl,rfl⟩
    · rw [Function.update_of_ne ha] at hca
      exact ⟨c,hca,.inr rfl,rfl,rfl,rfl⟩
  have hlater : Later s.shared (s.shared.modify run.attempt run.current fun c => { c with raised := true }) :=
    ⟨.inl rfl,ItemsLater.refl _⟩
  apply h.carries hp ht (hmine.imp (by simp +contextual) (by simp +contextual)) rfl (hok.later hlater) hprep
  · intro hx
    rw [hstart] at hx
    cases hx
  · intro a
    by_cases ha : a = run.attempt
    · rw [ha]
      exact .inr hmine
    · exact .inl (Function.update_of_ne ha _ _)
  · intro a c hca
    obtain ⟨c',hc',ha | hcc,hch,hn,hi⟩ := hold a c hca
    · refine .inr ⟨by rw [ha]; exact hmine,?_⟩
      have hok' := (h.checkpoints a c' hc').2
      exact ⟨by rw [hch,hn]; exact hok'.owed,by rw [hi,hn]; exact hok'.interrupt⟩
    · exact .inl (by rw [hcc]; exact hc')
  · intro a c hfa hca
    obtain ⟨c',hc',-,-,hn,hi⟩ := hold a c hca
    have hne := (h.claiming p f a hp hfa).2 c' hc'
    rintro ⟨hint,hnode⟩
    exact hne ⟨by rw [← hi]; exact hint,by rw [← hn]; exact hnode⟩
  · intro a ha
    rw [hr] at ha
    cases ha
  · intro a ha
    rw [hc] at ha
    cases ha
  · intro a node hd
    rw [Pc.due_of_running hr] at hd
    cases hd

/-- A graph run goes on without a write. -/
theorem Orderly.keeps_run {pc' : Pc} (ht : Stepped s p f pc' s.shared t)
    (hf : f.pc.running.isSome = true ∨ f.pc.claiming.isSome = true) (hok : pc'.Ok s.shared)
    (hprep : pc'.preparing = false) (hstart : pc'.starting = true → f.pc.starting = true)
    (hrun : ∀ a, pc'.running = some a → f.pc.running = some a)
    (hclaim : ∀ a, pc'.claiming = some a → f.pc.claiming = some a)
    (hdue : ∀ a node, pc'.due = some (a,node) → f.pc.due = some (a,node)) : Orderly t := by
  apply h.carries hp ht hf rfl hok hprep hstart
  · exact fun a => .inl rfl
  · exact fun a c hc => .inl hc
  · exact fun a c ha => (h.claiming p f a hp ha).2 c
  · exact fun a ha => ⟨hrun a ha,(h.running p f a hp (hrun a ha)).2.1⟩
  · exact hclaim
  · exact fun a node hd c hc => h.due p f a node hp (hdue a node hd) c hc

/-- A new checkpoint of the attempt that the call works on. -/
theorem Orderly.puts {pc' : Pc} {attempt : Nat} {channels : Channels} {next : Option Node}
    (ht : Stepped s p f pc' (s.shared.put attempt channels next) t)
    (hf : f.pc.running = some attempt ∨ f.pc.claiming = some attempt) (hok : pc'.Ok s.shared)
    (hprep : pc'.preparing = false) (hstart : pc'.starting = true → f.pc.starting = true)
    (howed : Owed s.shared.rows.items channels next)
    (hearly : f.pc.running = some attempt → ∀ node, next = some node → node.early = true)
    (hlate : f.pc.claiming = some attempt → ∀ node, next = some node → node.early = false)
    (hrun : ∀ a, pc'.running = some a → f.pc.running = some a ∧ next.isSome = true)
    (hclaim : ∀ a, pc'.claiming = some a → f.pc.claiming = some a)
    (hdue : ∀ a node, pc'.due = some (a,node) → next = some node ∧ a = attempt) : Orderly t := by
  have hlater : Later s.shared (s.shared.put attempt channels next) := ⟨.inl rfl,ItemsLater.refl _⟩
  have hmine : (s.shared.put attempt channels next).checkpoints attempt =
      some ⟨s.shared.nextId,channels,next,none,false⟩ := Function.update_self _ _ _
  have hother : ∀ a, a ≠ attempt → (s.shared.put attempt channels next).checkpoints a = s.shared.checkpoints a :=
    fun a ha => Function.update_of_ne ha _ _
  apply h.carries hp ht (hf.imp (by simp +contextual) (by simp +contextual)) rfl (hok.later hlater) hprep hstart
  · intro a
    by_cases ha : a = attempt
    · rw [ha]
      exact .inr hf
    · exact .inl (hother a ha)
  · intro a c hc
    by_cases ha : a = attempt
    · rw [ha,hmine] at hc
      cases hc
      exact .inr ⟨by rw [ha]; exact hf,howed,fun hi => absurd rfl hi⟩
    · rw [hother a ha] at hc
      exact .inl hc
  · intro a c ha hc
    by_cases heq : a = attempt
    · rw [heq,hmine] at hc
      cases hc
      rintro ⟨-,node,hn,he⟩
      rw [hlate (heq ▸ ha) node hn] at he
      cases he
    · rw [hother a heq] at hc
      exact (h.claiming p f a hp ha).2 c hc
  · intro a ha
    obtain ⟨hfa,hsome⟩ := hrun a ha
    refine ⟨hfa,?_⟩
    intro c hc
    by_cases heq : a = attempt
    · rw [heq,hmine] at hc
      cases hc
      obtain ⟨node,hn⟩ := Option.isSome_iff_exists.mp hsome
      exact ⟨rfl,node,hn,hearly (heq ▸ hfa) node hn⟩
    · rw [hother a heq] at hc
      exact (h.running p f a hp hfa).2.1 c hc
  · exact hclaim
  · intro a node hd c hc
    obtain ⟨hn,ha⟩ := hdue a node hd
    rw [ha,hmine] at hc
    cases hc
    exact hn

end step

end ParaWorks.ReviewThreads
