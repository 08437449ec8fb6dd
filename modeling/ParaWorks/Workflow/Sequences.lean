import ParaWorks.Workflow.Stranding

/-!
# Sequences of calls

Calls on one thread, one after the other, each of which may be cut off. Where they are cut off at safe points the thread
is never stranded.
-/

namespace ParaWorks.Workflow

open Lib Answers Rollout

/-- No call is under way. -/
def System.Quiet (s : System) : Prop := ∀ p frame, s.calls p = some frame → frame.pc.isDone = true

/-- Calls follow each other. A crash or an unmapped exception cuts a call off, and a checkpoint fails its confirmation,
only where the thread is not under way or the last checkpoint is interrupted. Items stay readable, and those resolved
while the thread waits are resolved as `status` accepts it. -/
def Orderly (settings : Settings) (owner : DemoUser) (s : System) : Command → Prop
  | .begin _ _ _ => s.Quiet
  | .step p m => ∀ frame, s.calls p = some frame → frame.pc.isDone = false →
    (∀ items, m.coordinator = .ok items → ItemsReadable owner items) ∧
    (Breaks (stepCall settings frame.actor m s.shared frame.pc).1 → Safe s.shared)
  | .crash p => ∀ frame, s.calls p = some frame → frame.pc.isDone = false → Safe s.shared
  | .review items audits => s.Quiet ∧ ItemsReadable owner items ∧
    ∀ c cc, s.shared.checkpoint = some c → c.interrupt.isSome = true → c.channels.reviewStatusCounts = some cc →
      Reconcilable cc items audits

/-- At most one call is under way, at a point that fits the shared state. -/
structure Sequential (settings : Settings) (owner : DemoUser) (s : System) : Prop where
  launched : Launched settings owner s.shared.rows
  fits : ∀ p frame, s.calls p = some frame → frame.pc.isDone = false → frame.pc.Fits s.shared
  alone : ∀ p q fp fq, s.calls p = some fp → s.calls q = some fq → fp.pc.isDone = false → fq.pc.isDone = false → p = q
  quiet : s.Quiet → Resting s.shared

section sequences

variable {settings : Settings} {owner : DemoUser} {s : System}

/-- No call is under way: what the calls stand at is no matter. -/
theorem Sequential.of_quiet (hl : Launched settings owner s.shared.rows) (hq : s.Quiet) (hr : Resting s.shared) :
    Sequential settings owner s where
  launched := hl
  fits p frame hp hpc := by simp [hq p frame hp] at hpc
  alone p q fp fq hp hq' hfp hfq := by simp [hq p fp hp] at hfp
  quiet _ := hr

theorem initial_sequential {thread : AgentWorkflowThread} {request : AgentWorkflowRequest} {permissions : List Text}
    (hl : Launched settings owner (initial thread request permissions).shared.rows) :
    Sequential settings owner (initial thread request permissions) := by
  apply Sequential.of_quiet hl
  · intro p frame hp
    cases hp
  · exact .inl ⟨rfl,rfl⟩

theorem Call.entry_fits {s : Shared} (h : Resting s) (call : Call) : call.entry.Fits s ∧ call.entry.isDone = false := by
  cases call <;> exact ⟨h,rfl⟩

theorem Sequential.begin (h : Sequential settings owner s) (hq : s.Quiet) (p : Nat) (actor : DemoUser) (call : Call) :
    Sequential settings owner (step settings s (.begin p actor call)) := by
  obtain ⟨hfits,hpc⟩ := Call.entry_fits (h.quiet hq) call
  have hother : ∀ q frame, (step settings s (.begin p actor call)).calls q = some frame → frame.pc.isDone = false →
      q = p ∧ frame.pc = call.entry ∧ (step settings s (.begin p actor call)).shared = s.shared := by
    intro q frame hq' hf
    simp only [step] at hq' ⊢
    split at hq'
    · next hidle =>
      rw [if_pos hidle]
      rcases update_calls hq' with ⟨hqp,rfl⟩ | ⟨-,hq'⟩
      · exact ⟨hqp,rfl,rfl⟩
      · simp [hq q frame hq'] at hf
    · simp [hq q frame hq'] at hf
  have hshared : (step settings s (.begin p actor call)).shared = s.shared := by
    simp only [step]
    split <;> rfl
  constructor
  · rw [hshared]
    exact h.launched
  · intro q frame hq' hf
    obtain ⟨-,hentry,-⟩ := hother q frame hq' hf
    rw [hentry,hshared]
    exact hfits
  · intro q q' fq fq' hfq hfq' hd hd'
    rw [(hother q fq hfq hd).1,(hother q' fq' hfq' hd').1]
  · intro _
    rw [hshared]
    exact h.quiet hq

theorem Sequential.step_call (h : Sequential settings owner s) {p : Nat} {m : Moment}
    (ho : Orderly settings owner s (.step p m)) : Sequential settings owner (step settings s (.step p m)) := by
  cases hp : s.calls p with
  | none =>
    simp only [step,hp]
    exact h
  | some frame =>
    cases hpc : frame.pc.isDone with
    | true =>
      obtain ⟨actor,call,pc⟩ := frame
      cases pc with
      | done result =>
        have hcalls : (step settings s (.step p m)).calls = s.calls := by
          simp only [step,hp,stepCall]
          rw [Function.update_eq_self_iff]
          exact hp.symm
        have hshared : (step settings s (.step p m)).shared = s.shared := by simp only [step,hp,stepCall]
        constructor
        · rw [hshared]
          exact h.launched
        · rw [hcalls,hshared]
          exact h.fits
        · rw [hcalls]
          exact h.alone
        · unfold System.Quiet
          rw [hcalls,hshared]
          exact h.quiet
      | _ => cases hpc
    | false =>
      obtain ⟨hitems,hbreak⟩ := ho frame hp hpc
      obtain ⟨hl,hf⟩ := stepCall_fits h.launched (h.fits p frame hp hpc) hpc hitems hbreak
      have hother : ∀ q fq, (step settings s (.step p m)).calls q = some fq → fq.pc.isDone = false →
          q = p ∧ fq.pc = (stepCall settings frame.actor m s.shared frame.pc).1 := by
        intro q fq hq hfq
        simp only [step,hp] at hq
        rcases update_calls hq with ⟨hqp,rfl⟩ | ⟨hqp,hq⟩
        · exact ⟨hqp,rfl⟩
        · exact absurd (h.alone q p fq frame hq hp hfq hpc) hqp
      have hshared : (step settings s (.step p m)).shared = (stepCall settings frame.actor m s.shared frame.pc).2 := by
        simp only [step,hp]
      constructor
      · rw [hshared]
        exact hl
      · intro q fq hq hfq
        rw [(hother q fq hq hfq).2,hshared]
        exact hf
      · intro q q' fq fq' hfq hfq' hd hd'
        rw [(hother q fq hfq hd).1,(hother q' fq' hfq' hd').1]
      · intro hq
        rw [hshared]
        have hself : (step settings s (.step p m)).calls p =
            some { frame with pc := (stepCall settings frame.actor m s.shared frame.pc).1 } := by
          simp only [step,hp]
          rw [Function.update_self]
        have hdone := hq p _ hself
        revert hf hdone
        generalize (stepCall settings frame.actor m s.shared frame.pc).1 = pc
        intro hf hdone
        cases pc with
        | done result => exact hf
        | _ => cases hdone

theorem Sequential.crash (h : Sequential settings owner s) {p : Nat} (ho : Orderly settings owner s (.crash p)) :
    Sequential settings owner (step settings s (.crash p)) := by
  have hother : ∀ q fq, (step settings s (.crash p)).calls q = some fq → q ≠ p ∧ s.calls q = some fq :=
    fun q fq hq => crash_calls hq
  constructor
  · exact h.launched
  · exact fun q fq hq hfq => h.fits q fq (hother q fq hq).2 hfq
  · exact fun q q' fq fq' hfq hfq' => h.alone q q' fq fq' (hother q fq hfq).2 (hother q' fq' hfq').2
  · intro hq
    change Resting s.shared
    by_cases hcut : ∃ frame, s.calls p = some frame ∧ frame.pc.isDone = false
    · obtain ⟨frame,hp,hpc⟩ := hcut
      exact (h.fits p frame hp hpc).resting (ho frame hp hpc)
    · apply h.quiet
      intro q fq hfq
      by_cases hqp : q = p
      · subst hqp
        by_contra hpc
        exact hcut ⟨fq,hfq,by simpa using hpc⟩
      · apply hq q fq
        simp only [step]
        rw [Function.update_of_ne hqp]
        exact hfq

theorem Sequential.review (h : Sequential settings owner s) {items : List ReviewItem} {audits : List AuditLog}
    (ho : Orderly settings owner s (.review items audits)) :
    Sequential settings owner (step settings s (.review items audits)) := by
  obtain ⟨hq,hitems,hreconcile⟩ := ho
  have hl := h.launched
  apply Sequential.of_quiet
  · exact ⟨hl.workflow,hl.version,hl.owned,hl.scope,hl.threadId,hl.checkpointId,hl.hashes,hl.evidence,hitems⟩
  · exact hq
  · rcases h.quiet hq with hcreated | ⟨hstatus,hw⟩ | hend
    · exact .inl hcreated
    · obtain ⟨c,cc,hc,hi,hn,hfull,hcc,htotal,-⟩ := hw.waits
      exact .inr (.inl ⟨hstatus,⟨c,cc,hc,hi,hn,hfull,hcc,htotal,hreconcile c cc hc hi hcc⟩⟩)
    · exact .inr (.inr hend)

theorem Sequential.next (h : Sequential settings owner s) (c : Command) (ho : Orderly settings owner s c) :
    Sequential settings owner (step settings s c) := by
  cases c with
  | begin p actor call => exact h.begin ho p actor call
  | step p m => exact h.step_call ho
  | crash p => exact h.crash ho
  | review items audits => exact h.review ho

end sequences

/-- After orderly calls on a launched thread, further calls recover it unless it has been cancelled. -/
theorem threads_recover (settings : Settings) (owner : DemoUser) (thread : AgentWorkflowThread)
    (request : AgentWorkflowRequest) (permissions : List Text) (commands : List Command)
    (hl : Launched settings owner (initial thread request permissions).shared.rows)
    (h : RunMeets (step settings) (Orderly settings owner) (initial thread request permissions) commands)
    (hq : (run (step settings) (initial thread request permissions) commands).Quiet) :
    Recoverable settings owner (run (step settings) (initial thread request permissions) commands).shared ↔
      (run (step settings) (initial thread request permissions) commands).shared.status ≠ .cancelled := by
  have hs : Sequential settings owner (run (step settings) (initial thread request permissions) commands) :=
    run_invariant_of (fun s c hc hs => hs.next c hc) h (initial_sequential hl)
  constructor
  · intro hrecover hcancelled
    exact Stuck.not_recoverable (.inl hcancelled) hrecover
  · exact (hs.quiet hq).recoverable hs.launched

def sampleApproved : ReviewItem where
  id := 1
  status := some .approved
  permissionLevel := text "internal"
  resolutionSource := some (text "auto_policy")
  autoValidationId := some 1

/-- Auto review approves the one item that extraction drafts. -/
def approvingMoment : Moment := { sampleMoment with coordinator := .ok [sampleApproved] }

/-- A start whose graph has ended and is confirmed dies before its status is written. -/
def terminalCrash : List Command :=
  .begin 0 sampleOwner .start::(List.replicate 23 (.step 0 approvingMoment)++[.crash 0])

theorem terminal_checkpoint_stranded :
    ¬Recoverable sampleSettings sampleOwner (run (step sampleSettings) sampleInitial terminalCrash).shared := by
  apply Stuck.not_recoverable
  have hstatus : (run (step sampleSettings) sampleInitial terminalCrash).shared.status = .checkpointPending := by
    decide +kernel
  have hcheckpoint : (run (step sampleSettings) sampleInitial terminalCrash).shared.checkpoint.all
      (validateCheckpointState ·.channels = false) = true := by decide +kernel
  exact .inr ⟨.inl hstatus,hcheckpoint⟩

theorem sample_launched : Launched sampleSettings sampleOwner sampleInitial.shared.rows where
  workflow := rfl
  version := rfl
  owned := rfl
  scope := rfl
  threadId := by decide
  checkpointId := by decide
  hashes := by decide
  evidence := by
    refine ⟨by decide,fun level hlevel => ?_⟩
    rw [List.mem_singleton.mp hlevel]
    exact ⟨by decide,.inl rfl⟩
  items item hitem := by cases hitem

theorem threads_recover_sample :
    Recoverable sampleSettings sampleOwner
      (run (step sampleSettings) sampleInitial
        [.begin 0 sampleOwner .start,.step 0 sampleMoment,.step 0 sampleMoment,.crash 0]).shared ↔
      (run (step sampleSettings) sampleInitial
        [.begin 0 sampleOwner .start,.step 0 sampleMoment,.step 0 sampleMoment,.crash 0]).shared.status ≠ .cancelled := by
  apply threads_recover
  · exact sample_launched
  · have hquiet : sampleInitial.Quiet := by
      intro p frame hp
      cases hp
    have hitems : ∀ items, sampleMoment.coordinator = .ok items → ItemsReadable sampleOwner items := by
      rintro items ⟨⟩ item hitem
      rw [List.mem_singleton.mp hitem]
      exact ⟨by decide,by decide,.inl rfl⟩
    have hcreated : Safe sampleInitial.shared := .inl (by decide)
    exact ⟨hquiet,fun _ _ _ => ⟨hitems,fun _ => hcreated⟩,fun _ _ _ => ⟨hitems,fun _ => hcreated⟩,
      fun _ _ _ => hcreated,trivial⟩
  · intro p frame hp
    obtain ⟨hne,hp⟩ := crash_calls hp
    rcases update_calls hp with ⟨h,-⟩ | ⟨-,hp⟩
    · exact absurd h hne
    · rcases update_calls hp with ⟨h,-⟩ | ⟨-,hp⟩
      · exact absurd h hne
      · rcases update_calls hp with ⟨h,-⟩ | ⟨-,hp⟩
        · exact absurd h hne
        · cases hp

end ParaWorks.Workflow
