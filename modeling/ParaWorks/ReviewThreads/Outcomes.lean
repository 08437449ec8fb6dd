import ParaWorks.ReviewThreads.Steps

/-!
# Outcomes of a review thread

What the log of committed changes says over whole runs: each change is a compare-and-set along an edge of the status
machine, final statuses stay and are true of the items, and every change is by a call that was let in.
-/

namespace ParaWorks.ReviewThreads

open Lib Answers
open Workflow (companyMemoryReviewWorkflow)

/-! ## Commits -/

/-- The version and status that the update of a draft requires of the row it has locked. -/
def DraftPc.expects : DraftPc → Option (Nat × ThreadStatus)
  | .renew lease _ => some (lease.stateVersion,.drafting)
  | .persist lease _ => some (lease.stateVersion,.drafting)
  | .release (lease::_) _ => some (lease.stateVersion,.drafting)
  | _ => none

/-- The version and status that an update requires of the row. -/
def Pc.expects : Pc → Option (Nat × ThreadStatus)
  | .drafting _ point => point.expects
  | .rotate projection _ => some (projection.thread.stateVersion,.checkpointFailed)
  | pc => pc.decision.map fun d => (d.1.stateVersion,d.1.status)

/-- What a committed change of the row says of the row, whoever has made it. -/
structure Commit.Changes (c : Commit) : Prop where
  raises : c.after.stateVersion = c.before.stateVersion+1
  compared : c.pc.expects = some (c.before.stateVersion,c.before.status) ∨
    ∃ draftUse, c.pc = .drafting draftUse .claim ∧ Draftable c.before.status = true
  edge : c.before.status.edge c.after.status = true
  completed : c.after.status = .completed → Promise c.items .completed
  needsMore : c.after.status = .needsMoreEvidence → Promise c.items .needsMoreEvidence

/-- What the entry that a call belongs to has checked when it first read the rows. -/
structure Admitted (actor : DemoUser) (call : Call) (rows : Rows) : Prop where
  reads : MayRead actor rows
  resumes : call = .resume → actionAllowed rows.thread actor .resume = true
  cancels : call = .cancel → actionAllowed rows.thread actor .cancel = true

theorem ThreadStatus.edge_live {status target : ThreadStatus} (h : status.edge target = true) :
    TerminalThreadStatus status = false := by
  cases status <;> first | rfl | cases h

section decisions

variable {s : Shared} {pc : Pc} {base : AgentWorkflowThread} {target : ThreadStatus}

theorem Promise.edge {items : List ReviewItem} (h : Promise items target) {status : ThreadStatus}
    (hs : status = .checkpointPending ∨ status = .resuming ∨ status = .checkpointFailed) :
    status.edge target = true := by
  obtain rfl | rfl | rfl := hs <;> cases target <;> first | rfl | exact h.elim

theorem Purpose.claimed_cases (purpose : Purpose) : purpose.claimedStatus = .checkpointPending ∨
    purpose.claimedStatus = .resuming ∨ purpose.claimedStatus = .checkpointFailed := by
  cases purpose <;> simp [Purpose.claimedStatus]

/-- Every decided update follows an edge, and leads to a final status only where that is true of the items. -/
theorem Pc.Ok.decided (h : pc.Ok s) (hd : pc.decision = some (base,target)) : Seen s base ∧
    base.status.edge target = true ∧ pc.expects = some (base.stateVersion,base.status) ∧
    (target = .completed ∨ target = .needsMoreEvidence → Promise s.rows.items target) := by
  cases pc with
  | ensureWrite result thread =>
    cases hd
    refine ⟨h.2.1,?_,rfl,by simp⟩
    have hearly := h.2.2
    cases hs : base.status <;> simp_all [ThreadStatus.early,ThreadStatus.edge]
  | finishWrite purpose projection target' =>
    cases hd
    refine ⟨h.1,?_,rfl,fun _ => h.2.2⟩
    rw [h.2.1]
    exact h.2.2.edge purpose.claimed_cases
  | markWrite thread target' code =>
    cases hd
    obtain ⟨hseen,⟨rfl,hearly⟩ | ⟨rfl | rfl,hlate⟩⟩ := h
    · refine ⟨hseen,?_,rfl,by simp⟩
      cases hs : base.status <;> simp_all [ThreadStatus.early,ThreadStatus.edge]
    · refine ⟨hseen,?_,rfl,by simp⟩
      cases hs : base.status <;> simp_all [ThreadStatus.late,ThreadStatus.edge]
    · refine ⟨hseen,?_,rfl,by simp⟩
      cases hs : base.status <;> simp_all [ThreadStatus.late,ThreadStatus.edge]
  | restore claimed code =>
    cases hd
    refine ⟨h.1,?_,rfl,by simp⟩
    rw [h.2]
    rfl
  | reconcile after projection resumable target' =>
    cases hd
    exact ⟨h.1,h.2.2.edge h.2.1,rfl,fun _ => h.2.2⟩
  | resumeReconcile projection target' =>
    cases hd
    exact ⟨h.1,h.2.2.edge (.inr (.inr h.2.1)),rfl,fun _ => h.2.2⟩
  | failWrite projection =>
    cases hd
    refine ⟨h.1,?_,rfl,by simp⟩
    rw [h.2]
    rfl
  | claim projection =>
    cases hd
    refine ⟨h.1,?_,rfl,by simp⟩
    rw [h.2.1]
    rfl
  | cancelWrite projection =>
    cases hd
    refine ⟨h.1,?_,rfl,by simp⟩
    have hc := h.2
    cases hs : projection.thread.status <;> simp_all [CancellableThreadStatus,ThreadStatus.edge]
  | _ => cases hd

end decisions

theorem exactLease_version {thread : AgentWorkflowThread} {lease : Lease}
    (h : threadHasExactLease thread lease = true) :
    some (lease.stateVersion,ThreadStatus.drafting) = some (thread.stateVersion,thread.status) := by
  have hs := exactLease_status h
  simp only [threadHasExactLease,Bool.and_eq_true,decide_eq_true_eq] at h
  rw [hs,h.1.1.2]

/-! ## One step -/

section step

variable {settings : Settings} {m : Moment} {s : System} (h : Orderly s) {p : Nat} {f : Frame}
  (hp : s.calls p = some f) {pc' : Pc} {shared' : Shared}

include h hp

/-- What the draft of the creator writes. -/
theorem Orderly.draft_changes {attempt : Nat} {point : DraftPc} (hpc : f.pc = .drafting (.start attempt) point)
    {thread : AgentWorkflowThread} {target : ThreadStatus} (hr : Rewritten s.shared.thread thread target)
    (ht : target = .created ∨ target = .drafting ∨ target = .checkpointPending)
    (hexpects : f.pc.expects = some (s.shared.thread.stateVersion,s.shared.thread.status) ∨
      ∃ draftUse, f.pc = .drafting draftUse .claim ∧ Draftable s.shared.thread.status = true)
    (hs : s.shared.thread.status = .drafting ∨ Draftable s.shared.thread.status = true ∧ target = .drafting)
    (ticket : Nat) (actor : DemoUser) (call : Call) (admission : Option Rows) (items : List ReviewItem) :
    Commit.Changes ⟨ticket,actor,call,f.pc,admission,s.shared.thread,thread,items⟩ := by
  have hfinal : target ≠ .completed ∧ target ≠ .needsMoreEvidence := by
    obtain rfl | rfl | rfl := ht <;> exact ⟨by simp,by simp⟩
  refine ⟨hr.version,hexpects,?_,fun hc => absurd (hr.status.symm.trans hc) hfinal.1,
    fun hc => absurd (hr.status.symm.trans hc) hfinal.2⟩
  change s.shared.thread.status.edge thread.status = true
  rw [hr.status]
  obtain hs | ⟨hs,rfl⟩ := hs
  · rw [hs]
    obtain rfl | rfl | rfl := ht <;> rfl
  · have hstatus := (h.draft_facts hp hpc).2.1
    cases hst : s.shared.thread.status <;> simp_all [ThreadStatus.early,ThreadStatus.edge,Draftable]

/-- Every step of a call changes the row by one compare-and-set or not at all. -/
theorem Orderly.changes (hmove : Moves settings f.actor m s.shared f.pc pc' shared')
    (hne : shared'.thread ≠ s.shared.thread) :
    Commit.Changes ⟨f.ticket,f.actor,f.call,f.pc,f.admission,s.shared.thread,shared'.thread,shared'.rows.items⟩ := by
  have hok := h.ok p f hp
  generalize hpc : f.pc = pc at hmove hok
  cases hmove with
  | redrafts run point => exact hok.elim
  | decides base target hd hun hs hw =>
    obtain ⟨thread,rfl,hr,-⟩ := hs
    obtain ⟨hseen,hedge,hexpects,hfinal⟩ := hok.decided hd
    have hsame := unmoved_seen hseen hun
    refine ⟨hr.version,.inl ?_,?_,fun hc => ?_,fun hc => ?_⟩
    · rw [hexpects,hsame]
    · change s.shared.thread.status.edge thread.status = true
      rw [hr.status,hsame]
      exact hedge
    · have htarget : target = .completed := hr.status.symm.trans hc
      rw [htarget] at hfinal
      exact hfinal (.inl rfl)
    · have htarget : target = .needsMoreEvidence := hr.status.symm.trans hc
      rw [htarget] at hfinal
      exact hfinal (.inr rfl)
  | rotates projection after thread hv hs hr =>
    have hstatus : thread.status = .checkpointPending := hr.1.status
    refine ⟨hr.1.version,.inl ?_,?_,fun hc => ?_,fun hc => ?_⟩
    · change some (projection.thread.stateVersion,ThreadStatus.checkpointFailed) = _
      rw [hv,hs]
    · change s.shared.thread.status.edge thread.status = true
      rw [hs,hstatus]
      rfl
    · exact absurd (hstatus.symm.trans hc) (by simp)
    · exact absurd (hstatus.symm.trans hc) (by simp)
  | leases attempt lease thread hs hl hr _ hs' =>
    have hthread : shared'.thread = thread := congrArg Rows.thread hs'.1
    rw [hthread,← hpc]
    apply h.draft_changes hp hpc hr.1 (.inr (.inl rfl)) _ (.inr ⟨hs,rfl⟩)
    exact .inr ⟨_,hpc,hs⟩
  | renews attempt lease results point' thread hs hl hr =>
    rw [← hpc]
    apply h.draft_changes hp hpc hr.1 (.inr (.inl rfl)) _ (.inl (exactLease_status hs))
    exact .inl (by rw [hpc]; exact exactLease_version hs)
  | releases attempt lease claims trouble hs =>
    have hprior := (h.draft_facts hp hpc).2.2.1 lease List.mem_cons_self
    rw [← hpc]
    apply h.draft_changes hp hpc (endLease_rewritten _ _ _) (.inl hprior) _ (.inl (exactLease_status hs))
    exact .inl (by rw [hpc]; exact exactLease_version hs)
  | mismatches attempt lease results levels hs =>
    have hprior := (h.draft_facts hp hpc).2.2.1 lease List.mem_cons_self
    rw [← hpc]
    apply h.draft_changes hp hpc (endLease_rewritten _ _ _) (.inl hprior) _ (.inl (exactLease_status hs))
    exact .inl (by rw [hpc]; exact exactLease_version hs)
  | persistsDraft attempt lease results result hs hr =>
    rw [← hpc]
    apply h.draft_changes hp hpc (endLease_rewritten _ _ _) (.inr (.inr rfl)) _ (.inl (exactLease_status hs))
    exact .inl (by rw [hpc]; exact exactLease_version hs)
  | _ => exact absurd rfl hne

end step

/-! ## The log -/

/-- The row on which a resume or a cancel takes its first decision. -/
def Pc.firstThread : Pc → Option AgentWorkflowThread
  | .resumeProbe projection => some projection.thread
  | .resumeReconcile projection _ => some projection.thread
  | .failWrite projection => some projection.thread
  | .rotate projection _ => some projection.thread
  | .claim projection => some projection.thread
  | .cancelWrite projection => some projection.thread
  | _ => none

/-- The points at which a call has not read the rows. -/
def Call.unread : Call → Pc → Bool
  | .start, .replay => true
  | .start, .statusRead _ => true
  | .status, .statusRead _ => true
  | .resume, .resumeRead => true
  | .cancel, .cancelRead => true
  | _, .done _ => true
  | _, _ => false

/-- A call has changed the row at a version. -/
def Changed (log : List Commit) (ticket version : Nat) : Prop :=
  ∃ c ∈ log, c.ticket = ticket ∧ c.before.stateVersion = version

def Call.acts (call : Call) : Prop := call = .resume ∨ call = .cancel

/-- What the log and the calls under way have in common. -/
structure Recorded (s : System) : Prop where
  unread : ∀ p f, s.calls p = some f → f.admission = none → f.call.unread f.pc = true
  admitted : ∀ p f rows, s.calls p = some f → f.admission = some rows → Admitted f.actor f.call rows
  first : ∀ p f rows, s.calls p = some f → f.call.acts → f.admission = some rows →
    f.pc.isDone = true ∨ f.pc.firstThread = some rows.thread ∨ Changed s.log f.ticket rows.thread.stateVersion
  below : ∀ c ∈ s.log, c.before.stateVersion < s.shared.thread.stateVersion
  falling : s.log.Pairwise fun c d => d.before.stateVersion < c.before.stateVersion
  changes : ∀ c ∈ s.log, c.Changes
  allowed : ∀ c ∈ s.log, ∃ rows, c.admission = some rows ∧ Admitted c.actor c.call rows ∧
    (c.call.acts → Changed s.log c.ticket rows.thread.stateVersion)

theorem Changed.mono {log log' : List Commit} {ticket version : Nat} (h : Changed log ticket version)
    (hsub : log ⊆ log') : Changed log' ticket version := by
  obtain ⟨c,hc,hx⟩ := h
  exact ⟨c,hsub hc,hx⟩

section record

variable {settings : Settings} {m : Moment} {actor : DemoUser} {s : Shared} {pc pc' : Pc} {shared' : Shared}

theorem Pc.firstThread_expects {thread : AgentWorkflowThread} (h : pc.firstThread = some thread)
    {d : Nat × ThreadStatus} (hd : pc.expects = some d) : d.1 = thread.stateVersion := by
  cases pc <;> cases h <;> cases hd <;> rfl

theorem Pc.firstThread_claim {thread : AgentWorkflowThread} (h : pc.firstThread = some thread) (draftUse : DraftUse)
    (point : DraftPc) : pc ≠ .drafting draftUse point := by
  rintro rfl
  cases h

/-- A resume or a cancel ends, stays with the row it has read, or changes it. -/
theorem Moves.first (h : Moves settings actor m s pc pc' shared') {thread : AgentWorkflowThread}
    (hf : pc.firstThread = some thread) :
    pc'.isDone = true ∨ pc'.firstThread = some thread ∨ shared'.thread ≠ s.thread := by
  have hraised : ∀ {t : AgentWorkflowThread} {target}, Rewritten s.thread t target → t ≠ s.thread := by
    intro t target hr heq
    have := hr.version
    rw [heq] at this
    omega
  cases h with
  | ends result => exact .inl rfl
  | decides base target hd hu hs hw =>
    obtain ⟨t,rfl,hr,-⟩ := hs
    exact .inr (.inr (hraised hr))
  | rotates projection after t hv hs ht => exact .inr (.inr (hraised ht.1))
  | repairs projection after hx =>
    obtain rfl | ⟨rfl,-⟩ := hx
    · exact .inr (.inl hf)
    · cases hf
  | breaks projection hs => exact .inr (.inl hf)
  | recovers projection probe hs hp => exact .inr (.inl hf)
  | claims projection version hs hp => exact .inr (.inl hf)
  | marks target code hm ht => cases pc <;> cases hf <;> cases hm
  | restores claimed code hpc => cases pc <;> cases hf <;> cases hpc
  | loses hx hy =>
    obtain ⟨_,_,_,_,rfl⟩ := hy
    cases hf
  | asksAgain hx =>
    obtain ⟨_,rfl⟩ | ⟨_,_,rfl⟩ | ⟨_,_,rfl⟩ := hx <;> cases hf
  | _ => cases hf

theorem stepCall_done (h : pc.isDone = true) : stepCall settings actor m s pc = (pc,s) := by
  cases pc <;> cases h
  rfl

/-- A call that has not read the rows leaves them as they are. -/
theorem stepCall_unread {call : Call} (h : call.unread pc = true) : (stepCall settings actor m s pc).2 = s := by
  cases pc with
  | replay =>
    simp only [stepCall]
    split <;> rfl
  | statusRead after => rfl
  | resumeRead => rfl
  | cancelRead => rfl
  | done result => rfl
  | _ => cases call <;> cases h

/-- A call that is not let in ends. -/
theorem stepCall_refused {call : Call} (h : call.unread pc = true)
    (hr : ∀ action current, pc.entryRead = some (action,current) →
      ∃ code, readProjection settings.agentRuntimeSecurityScopeId actor action current s.rows = .error code) :
    call.unread (stepCall settings actor m s pc).1 = true := by
  cases pc with
  | replay =>
    simp only [stepCall]
    cases call <;> cases h
    split <;> rfl
  | statusRead after =>
    obtain ⟨code,hcode⟩ := hr .read false rfl
    simp only [stepCall,project,hcode]
    cases call <;> rfl
  | resumeRead =>
    obtain ⟨code,hcode⟩ := hr .resume true rfl
    simp only [stepCall,project,hcode]
    cases call <;> rfl
  | cancelRead =>
    obtain ⟨code,hcode⟩ := hr .cancel false rfl
    simp only [stepCall,project,hcode]
    cases call <;> rfl
  | done result => exact h
  | _ => cases call <;> cases h

/-- A call that is let in may read the rows, and what it is called for is allowed to its actor. -/
theorem unread_admitted {call : Call} (h : call.unread pc = true) {action : Action} {current : Bool}
    (he : pc.entryRead = some (action,current)) {projection : Projection} {scope : Text} {rows : Rows}
    (hr : readProjection scope actor action current rows = .ok projection) : Admitted actor call rows := by
  obtain ⟨-,hmay,hallowed,-⟩ := readProjection_ok hr
  refine ⟨hmay,?_,?_⟩
  · rintro rfl
    cases pc <;> cases he <;> cases h
    exact hallowed
  · rintro rfl
    cases pc <;> cases he <;> cases h
    exact hallowed

/-- A resume or a cancel that is let in goes on with the row as it has read it. -/
theorem unread_first {call : Call} (h : call.unread pc = true) (ha : call.acts) :
    (stepCall settings actor m s pc).1.isDone = true ∨
      (stepCall settings actor m s pc).1.firstThread = some s.thread := by
  cases pc with
  | resumeRead =>
    simp only [stepCall,project]
    split
    · exact .inl rfl
    · next projection hr =>
      rw [(readProjection_ok hr).1]
      unfold admitResume
      split
      · exact .inl rfl
      split
      · exact .inl rfl
      split
      · exact .inl rfl
      split
      · exact .inl rfl
      · exact .inr rfl
  | cancelRead =>
    simp only [stepCall,project]
    split
    · exact .inl rfl
    · next projection hr =>
      rw [(readProjection_ok hr).1]
      split
      · exact .inl rfl
      · exact .inr rfl
  | done result => exact .inl rfl
  | _ => obtain rfl | rfl := ha <;> cases h

end record

/-! ## Runs -/

section runs

variable {settings : Settings} {s : System}

theorem admissionAfter_none {f : Frame} {rows : Rows} (h : admissionAfter settings f rows = none) :
    f.admission = none ∧ ∀ action current, f.pc.entryRead = some (action,current) →
      ∃ code, readProjection settings.agentRuntimeSecurityScopeId f.actor action current rows = .error code := by
  unfold admissionAfter at h
  split at h
  · next hsome =>
    rw [h] at hsome
    cases hsome
  · next hnone =>
    refine ⟨by simpa using hnone,?_⟩
    intro action current he
    rw [he] at h
    dsimp only at h
    split at h
    · next code hcode => exact ⟨code,hcode⟩
    · cases h

theorem admissionAfter_some {f : Frame} {rows rows' : Rows} (h : admissionAfter settings f rows = some rows') :
    f.admission = some rows' ∨ f.admission = none ∧ rows' = rows ∧ ∃ action current projection,
      f.pc.entryRead = some (action,current) ∧
      readProjection settings.agentRuntimeSecurityScopeId f.actor action current rows = .ok projection := by
  unfold admissionAfter at h
  split at h
  · exact .inl h
  · next hnone =>
    split at h
    · cases h
    · next action current he =>
      split at h
      · cases h
      · next projection hok =>
        cases h
        exact .inr ⟨by simpa using hnone,rfl,action,current,projection,he,hok⟩

theorem Recorded.framed {t : System} (h : Recorded s) (hthread : t.shared.thread = s.shared.thread) (hlog : t.log = s.log)
    (hcalls : ∀ p f, t.calls p = some f → s.calls p = some f ∨ f.admission = none ∧ f.call.unread f.pc = true) :
    Recorded t := by
  constructor
  · intro p f hp ha
    obtain hs | hs := hcalls p f hp
    · exact h.unread p f hs ha
    · exact hs.2
  · intro p f rows hp ha
    obtain hs | hs := hcalls p f hp
    · exact h.admitted p f rows hs ha
    · rw [hs.1] at ha
      cases ha
  · intro p f rows hp hact ha
    rw [hlog]
    obtain hs | hs := hcalls p f hp
    · exact h.first p f rows hs hact ha
    · rw [hs.1] at ha
      cases ha
  · rw [hlog,hthread]
    exact h.below
  · rw [hlog]
    exact h.falling
  · rw [hlog]
    exact h.changes
  · rw [hlog]
    exact h.allowed

/-- One step of a call, with the change of the row that it may have committed. -/
theorem Recorded.step_call (h : Recorded s) (ho : Orderly s) {p : Nat} {m : Moment} {f : Frame} (hp : s.calls p = some f) :
    Recorded (step settings s (.step p m)) := by
  have hmove := @stepCall_moves settings f.actor m s.shared f.pc
  generalize hnext : stepCall settings f.actor m s.shared f.pc = next at hmove
  have hunread : f.admission = none → next.2 = s.shared := by
    intro ha
    rw [← hnext]
    exact stepCall_unread (h.unread p f hp ha)
  let commit : Commit :=
    ⟨f.ticket,f.actor,f.call,f.pc,f.admission,s.shared.thread,next.2.thread,next.2.rows.items⟩
  let log' := if next.2.thread = s.shared.thread then s.log else commit::s.log
  have hsub : s.log ⊆ log' := by
    dsimp only [log']
    split
    · exact List.Subset.refl _
    · exact List.subset_cons_self _ _
  have hlater : s.shared.thread.stateVersion ≤ next.2.thread.stateVersion := by
    by_cases hne : next.2.thread = s.shared.thread
    · rw [hne]
    · have hraises := (ho.changes hp hmove hne).raises
      change next.2.thread.stateVersion = s.shared.thread.stateVersion+1 at hraises
      omega
  -- a first decision that is committed was taken on the row as the call had read it
  have hfirst : ∀ thread, f.pc.firstThread = some thread → next.2.thread ≠ s.shared.thread →
      s.shared.thread.stateVersion = thread.stateVersion := by
    intro thread hf hne
    obtain hexpects | ⟨draftUse,hclaim,-⟩ := (ho.changes hp hmove hne).compared
    · exact Pc.firstThread_expects hf hexpects
    · exact absurd hclaim (Pc.firstThread_claim hf draftUse _)
  have hstate : step settings s (.step p m) = ⟨next.2,Function.update s.calls p
      (some { f with pc := next.1, admission := admissionAfter settings f s.shared.rows }),s.begun,log'⟩ := by
    simp only [ReviewThreads.step,hp,hnext,log',commit]
  have hcall : ∀ q g,
      Function.update s.calls p
        (some { f with pc := next.1, admission := admissionAfter settings f s.shared.rows }) q = some g →
      q = p ∧ g = { f with pc := next.1, admission := admissionAfter settings f s.shared.rows } ∨ s.calls q = some g := by
    intro q g hq
    by_cases hqp : q = p
    · rw [hqp,Function.update_self] at hq
      exact .inl ⟨hqp,(Option.some.inj hq).symm⟩
    · rw [Function.update_of_ne hqp] at hq
      exact .inr hq
  have hlog : ∀ c ∈ log', c = commit ∧ next.2.thread ≠ s.shared.thread ∨ c ∈ s.log := by
    intro c hc
    dsimp only [log'] at hc
    split at hc
    · exact .inr hc
    · next hne => exact (List.mem_cons.mp hc).imp_left fun heq => ⟨heq,hne⟩
  rw [hstate]
  constructor
  · intro q g hq ha
    obtain ⟨-,rfl⟩ | hs := hcall q g hq
    · obtain ⟨hnone,hrefused⟩ := admissionAfter_none ha
      rw [← hnext]
      exact stepCall_refused (h.unread p f hp hnone) hrefused
    · exact h.unread q g hs ha
  · intro q g rows hq ha
    obtain ⟨-,rfl⟩ | hs := hcall q g hq
    · obtain hold | ⟨hnone,rfl,action,current,projection,he,hok⟩ := admissionAfter_some ha
      · exact h.admitted p f rows hp hold
      · exact unread_admitted (h.unread p f hp hnone) he hok
    · exact h.admitted q g rows hs ha
  · intro q g rows hq hact ha
    obtain ⟨-,rfl⟩ | hs := hcall q g hq
    · obtain hold | ⟨hnone,rfl,-⟩ := admissionAfter_some ha
      · obtain hdone | hf | hc := h.first p f rows hp hact hold
        · left
          rw [← hnext,stepCall_done hdone]
          exact hdone
        · obtain hdone | hf' | hne := hmove.first hf
          · exact .inl hdone
          · exact .inr (.inl hf')
          · refine .inr (.inr ⟨commit,?_,rfl,hfirst rows.thread hf hne⟩)
            simp only [log',if_neg hne,List.mem_cons,true_or]
        · exact .inr (.inr (hc.mono hsub))
      · rw [← hnext]
        exact (unread_first (h.unread p f hp hnone) hact).imp_right .inl
    · exact (h.first q g rows hs hact ha).imp_right fun hx => hx.imp_right fun hc => hc.mono hsub
  · intro c hc
    obtain ⟨rfl,hne⟩ | hc := hlog c hc
    · have hraises := (ho.changes hp hmove hne).raises
      change next.2.thread.stateVersion = s.shared.thread.stateVersion+1 at hraises
      change s.shared.thread.stateVersion < next.2.thread.stateVersion
      omega
    · exact (h.below c hc).trans_le hlater
  · dsimp only [log']
    split
    · exact h.falling
    · exact List.pairwise_cons.mpr ⟨h.below,h.falling⟩
  · intro c hc
    obtain ⟨rfl,hne⟩ | hc := hlog c hc
    · exact ho.changes hp hmove hne
    · exact h.changes c hc
  · intro c hc
    obtain ⟨rfl,hne⟩ | hc := hlog c hc
    · cases ha : f.admission with
      | none => exact absurd (congrArg Shared.thread (hunread ha)) hne
      | some rows =>
        refine ⟨rows,ha,h.admitted p f rows hp ha,fun hact => ?_⟩
        obtain hdone | hf | hc := h.first p f rows hp hact ha
        · refine absurd ?_ hne
          rw [← hnext,stepCall_done hdone]
        · refine ⟨commit,?_,rfl,hfirst rows.thread hf hne⟩
          simp only [log',if_neg hne,List.mem_cons,true_or]
        · exact hc.mono hsub
    · obtain ⟨rows,ha,hadm,hchanged⟩ := h.allowed c hc
      exact ⟨rows,ha,hadm,fun hact => (hchanged hact).mono hsub⟩

theorem Recorded.step (h : Recorded s) (ho : Orderly s) (c : Command) : Recorded (step settings s c) := by
  cases c with
  | begin p actor call =>
    simp only [ReviewThreads.step]
    split
    · refine h.framed ?_ rfl ?_
      · rfl
      intro q g hq
      change Function.update s.calls p _ q = some g at hq
      by_cases hqp : q = p
      · rw [hqp,Function.update_self] at hq
        cases hq
        exact .inr ⟨rfl,by cases call <;> rfl⟩
      · rw [Function.update_of_ne hqp] at hq
        exact .inl hq
    · exact h
  | step p m =>
    cases hp : s.calls p with
    | none =>
      simp only [ReviewThreads.step,hp]
      exact h
    | some f => exact h.step_call ho hp
  | crash p =>
    refine h.framed ?_ rfl ?_
    · rfl
    intro q g hq
    change Function.update s.calls p none q = some g at hq
    by_cases hqp : q = p
    · rw [hqp,Function.update_self] at hq
      cases hq
    · rw [Function.update_of_ne hqp] at hq
      exact .inl hq
  | review id status => exact h.framed rfl rfl fun q g hq => .inl hq
  | relabel id level => exact h.framed rfl rfl fun q g hq => .inl hq
  | sync sources => exact h.framed rfl rfl fun q g hq => .inl hq
  | lose attempt => exact h.framed rfl rfl fun q g hq => .inl hq

/-- The evidence of a new thread resolves for its creator. -/
theorem Launch.mayRead (launch : Launch settings) : MayRead launch.actor launch.rows := by
  refine ⟨fun ref href => ?_,fun item hitem => absurd hitem List.not_mem_nil⟩
  obtain ⟨source,hsource,hresolved⟩ := launch.resolved ref href
  refine ⟨source,hsource,?_⟩
  by_contra hn
  rw [resolveSourceVersion,if_pos hn] at hresolved
  cases hresolved

theorem Launch.recorded (launch : Launch settings) : Recorded launch.initial := by
  have hcall : ∀ q g, launch.initial.calls q = some g → g.call = .start ∧ g.admission = some launch.rows ∧
      g.actor = launch.actor := by
    intro q g hq
    simp only [Launch.initial] at hq
    split at hq
    · cases hq
      exact ⟨rfl,rfl,rfl⟩
    · cases hq
  constructor
  · intro q g hq ha
    rw [(hcall q g hq).2.1] at ha
    cases ha
  · intro q g rows hq ha
    obtain ⟨hc,hrows,hactor⟩ := hcall q g hq
    rw [hrows] at ha
    cases ha
    rw [hactor,hc]
    exact ⟨launch.mayRead,(by simp),(by simp)⟩
  · intro q g rows hq hact ha
    rw [(hcall q g hq).1] at hact
    obtain hact | hact := hact <;> cases hact
  · exact fun c hc => absurd hc List.not_mem_nil
  · exact .nil
  · exact fun c hc => absurd hc List.not_mem_nil
  · exact fun c hc => absurd hc List.not_mem_nil

/-- A row with a final status stays as it is. -/
theorem Orderly.final (ho : Orderly s) (c : Command)
    (ht : TerminalThreadStatus s.shared.thread.status = true) :
    (ReviewThreads.step settings s c).shared.thread = s.shared.thread := by
  cases c with
  | begin p actor call =>
    simp only [ReviewThreads.step]
    split <;> rfl
  | step p m =>
    cases hp : s.calls p with
    | none => simp only [ReviewThreads.step,hp]
    | some f =>
      by_contra hne
      simp only [ReviewThreads.step,hp] at hne
      have hedge := (ho.changes hp (@stepCall_moves settings f.actor m s.shared f.pc) hne).edge
      rw [ThreadStatus.edge_live hedge] at ht
      cases ht
  | crash p => rfl
  | review id status => rfl
  | relabel id level => rfl
  | sync sources => rfl
  | lose attempt => rfl

/-- What the committed changes of a run say together. -/
structure Upright (log : List Commit) : Prop where
  changes : ∀ c ∈ log, c.Changes
  once : log.Pairwise fun c d => d.before.stateVersion < c.before.stateVersion
  admitted : ∀ c ∈ log, ∃ rows, c.admission = some rows ∧ Admitted c.actor c.call rows
  exclusive : ∀ c ∈ log, ∀ d ∈ log, c.call.acts → d.call.acts → ∀ rows ∈ c.admission, ∀ rows' ∈ d.admission,
    rows.thread.stateVersion = rows'.thread.stateVersion → c.ticket = d.ticket

/-- A version is raised once. -/
theorem falling_unique {log : List Commit} (h : log.Pairwise fun c d => d.before.stateVersion < c.before.stateVersion)
    {c d : Commit} (hc : c ∈ log) (hd : d ∈ log) (hv : c.before.stateVersion = d.before.stateVersion) : c = d := by
  have hunique : ∀ c ∈ log, ∀ d ∈ log, c.before.stateVersion = d.before.stateVersion → c = d := by
    apply List.Pairwise.forall_of_forall_of_flip
    · exact fun c _ _ => rfl
    · exact h.imp fun hlt heq => by omega
    · exact h.imp fun hlt heq => by omega
  exact hunique c hc d hd hv

theorem Recorded.upright (h : Recorded s) : Upright s.log := by
  refine ⟨h.changes,h.falling,?_,?_⟩
  · intro c hc
    obtain ⟨rows,ha,hadm,-⟩ := h.allowed c hc
    exact ⟨rows,ha,hadm⟩
  · intro c hc d hd hcact hdact rows hrows rows' hrows' hv
    obtain ⟨_,hca,-,hcc⟩ := h.allowed c hc
    obtain ⟨_,hda,-,hdd⟩ := h.allowed d hd
    cases hca.symm.trans hrows
    cases hda.symm.trans hrows'
    obtain ⟨c',hc',htc,hvc⟩ := hcc hcact
    obtain ⟨d',hd',htd,hvd⟩ := hdd hdact
    rw [← htc,← htd,falling_unique h.falling hc' hd' (by rw [hvc,hvd,hv])]

end runs

/-! ## The outcomes -/

/-- In every run in which a resume and a repair read back the row as they have written it, the committed changes are
upright and a final status stays. -/
theorem outcomes_upright {settings : Settings} (launch : Launch settings) (commands more : List Command)
    (hu : RunMeets (step settings) (fun s c => c.Undisturbed s) launch.initial (commands++more)) :
    Upright (run (step settings) launch.initial (commands++more)).log ∧
      (TerminalThreadStatus (run (step settings) launch.initial commands).shared.thread.status = true →
        (run (step settings) launch.initial (commands++more)).shared.thread =
          (run (step settings) launch.initial commands).shared.thread) := by
  have hstep : ∀ s c, Command.Undisturbed s c → Orderly s ∧ Recorded s →
      Orderly (step settings s c) ∧ Recorded (step settings s c) :=
    fun s c hc hs => ⟨hs.1.step c hc,hs.2.step hs.1 c⟩
  constructor
  · exact (run_invariant_of hstep hu ⟨launch.orderly,launch.recorded⟩).2.upright
  · intro ht
    obtain ⟨hfirst,hmore⟩ := RunMeets.append.mp hu
    have hs := run_invariant_of hstep hfirst ⟨launch.orderly,launch.recorded⟩
    rw [run_append]
    generalize run (step settings) launch.initial commands = s at ht hs hmore
    have hkept : ∀ t c, Command.Undisturbed t c → Orderly t ∧ t.shared.thread = s.shared.thread →
        Orderly (step settings t c) ∧ (step settings t c).shared.thread = s.shared.thread := by
      intro t c hc ⟨ho,heq⟩
      exact ⟨ho.step c hc,(ho.final c (by rw [heq]; exact ht)).trans heq⟩
    exact (run_invariant_of hkept hmore ⟨hs.1,rfl⟩).2

def sampleSettings : Settings := ⟨text "scope",[text "memory"]⟩

def sampleHash : KeyedHmac := ⟨List.replicate 64 (ofChar '0'),by decide⟩

def sampleOwner : DemoUser := ⟨text "owner",text "member",[text "normal"]⟩

def sampleAdmin : DemoUser := ⟨text "admin",text "admin",[text "normal"]⟩

def sampleRef : AgentWorkflowEvidenceRef :=
  ⟨text "slack",text "sources",1,some 1,none,text "s",text "normal",text "f"⟩

def sampleLaunch : Launch sampleSettings where
  thread :=
    { threadId := text "thread"
      workflowName := companyMemoryReviewWorkflow
      graphVersion := graphVersionV2
      checkpointThreadId := 0
      checkpointStore := text "postgres"
      ownerSubjectId := sampleOwner.id
      securityScopeId := sampleSettings.agentRuntimeSecurityScopeId
      inputHash := sampleHash
      evidenceVersionHash := sampleHash
      status := .created
      stateVersion := 0
      leaseToken := none
      leaseExpiresAt := none
      checkpointConfirmedAt := none
      cancelledAt := none
      cancelledBySubjectId := none
      createdAt := 0
      updatedAt := 0
      completedAt := none }
  agentNames := [text "memory"]
  refs := [sampleRef]
  sources := [⟨1,text "slack",text "normal",some (text "s"),some ⟨1,none,text "f"⟩⟩]
  actor := sampleOwner
  isOwner := rfl
  inScope := rfl
  named := rfl
  versioned := rfl
  resolved := by
    intro ref href
    rw [List.mem_singleton.mp href]
    exact ⟨_,rfl,by decide⟩

/-- A moment at which everything works and the draft has one candidate. -/
def sampleMoment : Moment where
  now := 1
  ready := true
  checkpointStore := text "postgres"
  registered := true
  elsewhere := false
  saverFails := false
  snapshotMoved := false
  databaseFails := false
  preflight := none
  trouble := none
  committed := true
  verdict := .ready
  leaseTtl := 300
  plans := 1
  cached := []
  candidates := [text "normal"]
  mismatchAfter := none

def steps (p n : Nat) : List Command := List.replicate n (.step p sampleMoment)

/-- The owner drafts, the item is approved and an admin resumes the thread to its end. -/
def sampleCommands : List Command :=
  steps 0 30++[.review 1 .approved,.begin 1 sampleAdmin .resume]++steps 1 30

theorem outcomes_upright_sample :
    Upright (run (step sampleSettings) sampleLaunch.initial sampleCommands).log ∧
      (run (step sampleSettings) sampleLaunch.initial sampleCommands).shared.thread.status = .completed :=
  ⟨(outcomes_upright sampleLaunch sampleCommands [] (by decide +kernel)).1,by decide +kernel⟩

/-- An admin who is neither the owner nor a reviewer changes the row by a resume. -/
theorem resume_of_admin : ∃ c ∈ (run (step sampleSettings) sampleLaunch.initial sampleCommands).log,
    c.call = .resume ∧ c.actor.id ≠ c.before.ownerSubjectId ∧ c.actor.role ≠ text "reviewer" := by decide +kernel

end ParaWorks.ReviewThreads
