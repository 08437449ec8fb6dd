import ParaWorks.Workflow.Service
import ParaWorks.Lib.Transition

/-!
# Interleaved calls on one thread

What one step of a call may do to the row, to the checkpoints and to the decision it carries. The run lemma holds of the
runs in which a call that another one has overtaken writes nothing more.
-/

namespace ParaWorks.Workflow

open Lib Answers Rollout

def ThreadStatus.Final (status : ThreadStatus) : Prop :=
  status = .cancelled ∨ status = .completed ∨ status = .needsMoreEvidence

/-- A status that `status` reconciles with the checkpoint. -/
def ThreadStatus.Reconciled (status : ThreadStatus) : Prop :=
  status = .created ∨ status = .checkpointPending ∨ status = .resuming ∨ status = .checkpointFailed

/-! ## Decisions -/

/-- The status and version a run of the graph works under, as its entry left them. -/
def ranUnder (origin : Origin) (thread : AgentWorkflowThread) : ThreadStatus × Nat :=
  match origin with
  | .initial => (.checkpointPending,thread.stateVersion+1)
  | .resume => (.resuming,thread.stateVersion)

/-- The status and version of the row that the next status write of the call is decided on. -/
def Pc.decidedOn : Pc → Option (ThreadStatus × Nat)
  | .initialProjection launched => some (launched.status,launched.stateVersion)
  | .initialWrite launched _ => some (launched.status,launched.stateVersion)
  | .previous origin thread => some (ranUnder origin thread)
  | .load origin thread _ => some (ranUnder origin thread)
  | .node run => some (ranUnder run.origin run.thread)
  | .persist run _ _ _ => some (ranUnder run.origin run.thread)
  | .interrupt run _ => some (ranUnder run.origin run.thread)
  | .confirm run => some (ranUnder run.origin run.thread)
  | .finish run _ => some (ranUnder run.origin run.thread)
  | .fail origin thread _ _ => some (ranUnder origin thread)
  | .snapshot _ thread _ => some (thread.status,thread.stateVersion)
  | .verifyRevoked probe _ => some (probe.thread.status,probe.thread.stateVersion)
  | .verifyHuman probe => some (probe.thread.status,probe.thread.stateVersion)
  | .reconcile probe _ => some (probe.thread.status,probe.thread.stateVersion)
  | .resumeWrite thread => some (thread.status,thread.stateVersion)
  | .cancelWrite thread => some (thread.status,thread.stateVersion)
  | _ => none

/-- What the entries have checked of the rows they carry. -/
def Pc.Checked : Pc → Prop
  | .initialProjection launched => launched.status = .created
  | .initialWrite launched _ => launched.status = .created
  | .resumeWrite thread => thread.status = .awaitingHumanReview
  | .cancelWrite thread => ¬thread.status.Final
  | .reconcile probe target =>
    probe.thread.status.Reconciled ∧ (target = .awaitingHumanReview ∨ probe.terminal = some target)
  | _ => True

/-- The points of a run of the graph, after the write that opens it. -/
def Pc.running : Pc → Bool
  | .previous .. => true
  | .load .. => true
  | .node _ => true
  | .persist .. => true
  | .interrupt .. => true
  | .confirm _ => true
  | .finish .. => true
  | .fail .. => true
  | _ => false

/-- What `status` has found and may still write. -/
def Pc.probe? : Pc → Option Probe
  | .verifyRevoked probe _ => some probe
  | .verifyHuman probe => some probe
  | .reconcile probe _ => some probe
  | _ => none

/-- The checkpoint a run of the graph has reached. -/
def Pc.reached : Pc → Option Nat
  | .node run => some run.current
  | .persist run _ _ _ => some run.current
  | .interrupt run _ => some run.current
  | _ => none

/-- The last checkpoint by its id. -/
def Shared.last (s : Shared) : Option Nat := s.checkpoint.map (·.id)

/-! ## What one step does -/

/-- The row of the thread and the checkpoint store are left as they are. -/
structure Shared.Keeps (s s' : Shared) : Prop where
  thread : s'.rows.thread = s.rows.thread
  checkpoint : s'.checkpoint = s.checkpoint
  nextId : s'.nextId = s.nextId
  acknowledged : s'.acknowledged = s.acknowledged
  counted : s.counted ⊆ s'.counted

theorem Shared.Keeps.refl (s : Shared) : s.Keeps s := ⟨rfl,rfl,rfl,rfl,List.Subset.refl _⟩

theorem Shared.Keeps.last {s s' : Shared} (h : s.Keeps s') :
    s'.last = s.last ∧ s'.nextId = s.nextId ∧ s'.acknowledged = s.acknowledged :=
  ⟨congrArg (Option.map Checkpoint.id) h.checkpoint,h.nextId,h.acknowledged⟩

/-- The moves of a call from one program point to the next. -/
inductive Moves (settings : Settings) (actor : DemoUser) (m : Moment) (s : Shared) : Pc → Pc → Shared → Prop where
  | raises {pc : Pc} {s' : Shared} (e : Raised) (hpc : pc.writes = false) (hs : s.Keeps s') :
    Moves settings actor m s pc (.done (.error e)) s'
  | launched (h : s.rows.thread.status = .created) :
    Moves settings actor m s .launch (.initialProjection s.rows.thread) s
  | projects (launched : AgentWorkflowThread) :
    Moves settings actor m s (.initialProjection launched) (.initialWrite launched s.rows.thread) s
  | opens (launched thread : AgentWorkflowThread) :
    Moves settings actor m s (.initialWrite launched thread) (.previous .initial thread)
      (s.setThread (setStatus · .checkpointPending false true m.now))
  | loads (origin : Origin) (thread : AgentWorkflowThread) :
    Moves settings actor m s (.previous origin thread) (.load origin thread (s.checkpoint.map (·.id))) s
  | fails {pc : Pc} {s' : Shared} (origin : Origin) (thread : AgentWorkflowThread) (status : ThreadStatus)
      (code : ErrorCode) (hpc : pc.running = true) (hw : pc.writes = false)
      (hd : pc.decidedOn = some (ranUnder origin thread)) (hstatus : ¬status.Final) (hs : s.Keeps s') :
    Moves settings actor m s pc (.fail origin thread status code) s'
  | inputs (thread : AgentWorkflowThread) (previous : Option Nat) :
    Moves settings actor m s (.load .initial thread previous)
      (.node ⟨.initial,thread,previous,s.nextId,
        { (s.checkpoint.map (·.channels)).getD {} with workflowThreadId := some thread.threadId },
        some .validateInput,none,none⟩)
      (s.put { (s.checkpoint.map (·.channels)).getD {} with workflowThreadId := some thread.threadId }
        (some .validateInput))
  | continues (thread : AgentWorkflowThread) (previous : Option Nat) (c : Checkpoint) (h : s.checkpoint = some c) :
    Moves settings actor m s (.load .resume thread previous)
      (.node ⟨.resume,thread,previous,c.id,c.channels,c.next,some thread.stateVersion,none⟩) s
  | concludes (run : GraphRun) (h : run.next = none) : Moves settings actor m s (.node run) (.confirm run) s
  | pauses {s' : Shared} (run : GraphRun) (version : Nat) (hs : s.Keeps s') :
    Moves settings actor m s (.node run) (.interrupt run version) s'
  | works {s' : Shared} (run : GraphRun) (node : Node) (channels : Channels) (next : Option Node) (ack : Bool)
      (h : run.next = some node)
      (hn : nodeStep settings actor m run node s = (.persist run channels next ack,s')) (hs : s.Keeps s') :
    Moves settings actor m s (.node run) (.persist run channels next ack) s'
  | persists (run : GraphRun) (channels : Channels) (next : Option Node) (ack : Bool) :
    Moves settings actor m s (.persist run channels next ack)
      (.node { run with current := s.nextId, channels := channels, next := next, resume := none })
      { s.put channels next with acknowledged := if ack then run.current::s.acknowledged else s.acknowledged }
  | interrupts (run : GraphRun) (version : Nat) :
    Moves settings actor m s (.interrupt run version) (.confirm { run with interrupted := some version })
      (s.putInterrupt run.current version)
  | confirms (run : GraphRun) (target : ThreadStatus)
      (h : target = .awaitingHumanReview ∨ run.interrupted = none ∧ run.channels.status = some target) :
    Moves settings actor m s (.confirm run) (.finish run target) s
  | finishes (run : GraphRun) (target : ThreadStatus) :
    Moves settings actor m s (.finish run target) (.statusProjection .answer)
      (s.setThread (setStatus · target (target ≠ .awaitingHumanReview) false m.now))
  | marks (origin : Origin) (thread : AgentWorkflowThread) (status : ThreadStatus) (code : ErrorCode) :
    Moves settings actor m s (.fail origin thread status code) (.raised code)
      (s.setThread (setStatus · status false true m.now))
  | asks {pc : Pc} (after : After) (h : pc = .launch) : Moves settings actor m s pc (.statusProjection after) s
  | reads (after : After) (counts : StatusCounts) :
    Moves settings actor m s (.statusProjection after) (.snapshot after s.rows.thread counts) s
  | probes {pc pc' : Pc} (probe : Probe) (hw : pc.writes = false) (hr : pc.reads = false)
      (hd : pc.decidedOn = some (probe.thread.status,probe.thread.stateVersion))
      (hp : pc.probe? = some probe ∨
        ∃ after thread counts, pc = .snapshot after thread counts ∧ pc' = snapshotStep m after thread counts s)
      (h : pc' = .autoApproved probe ∨ (∃ human, pc' = .verifyRevoked probe human) ∨ pc' = .verifyHuman probe ∨
        ∃ target, pc' = .reconcile probe target ∧ probe.thread.status.Reconciled ∧
          (target = .awaitingHumanReview ∨ probe.terminal = some target)) :
    Moves settings actor m s pc pc' s
  | reconciles (probe : Probe) (target : ThreadStatus) :
    Moves settings actor m s (.reconcile probe target) (.reprojection probe)
      (s.setThread (setStatus · target (probe.resumable = false) false m.now))
  | reprojects (probe probe' : Probe) : Moves settings actor m s (.reprojection probe) (.autoApproved probe') s
  | goesOn (probe : Probe) : Moves settings actor m s (.autoApproved probe) .resumeProjection s
  | answers (probe : Probe) (view : ReviewWorkflowStatusV21) :
    Moves settings actor m s (.autoApproved probe) (.done (.ok view)) s
  | resumes (h : s.rows.thread.status = .awaitingHumanReview) :
    Moves settings actor m s .resumeProjection (.resumeWrite s.rows.thread) s
  | claims (thread : AgentWorkflowThread) :
    Moves settings actor m s (.resumeWrite thread) (.previous .resume thread)
      (s.setThread (setStatus · .resuming false false m.now))
  | cancels (h : ¬s.rows.thread.status.Final) :
    Moves settings actor m s .cancelProjection (.cancelWrite s.rows.thread) s
  | cancelled (thread : AgentWorkflowThread) :
    Moves settings actor m s (.cancelWrite thread) (.statusProjection .answer)
      (s.setThread fun thread =>
        { thread with
          status := .cancelled
          cancelledAt := some m.now
          cancelledBySubjectId := some actor.id
          updatedAt := m.now })
  | rests (result : Except Raised ReviewWorkflowStatusV21) :
    Moves settings actor m s (.done result) (.done result) s

section moves

variable {settings : Settings} {actor : DemoUser} {m : Moment} {s : Shared}

theorem decide_cases (probe : Probe) : decide probe = .autoApproved probe ∨
    ∃ target, decide probe = .reconcile probe target ∧ probe.thread.status.Reconciled ∧
      (target = .awaitingHumanReview ∨ probe.terminal = some target) := by
  unfold decide
  split
  · next h =>
    cases hr : probe.resumable with
    | true => exact .inr ⟨_,rfl,h,.inl rfl⟩
    | false =>
      cases ht : probe.terminal with
      | none => exact .inl rfl
      | some target => exact .inr ⟨target,rfl,h,.inr rfl⟩
  · exact .inl rfl

theorem Moves.decides {pc : Pc} (probe : Probe) (hw : pc.writes = false) (hr : pc.reads = false)
    (hd : pc.decidedOn = some (probe.thread.status,probe.thread.stateVersion))
    (hp : pc.probe? = some probe ∨ ∃ after thread counts, pc = .snapshot after thread counts ∧
      decide probe = snapshotStep m after thread counts s) : Moves settings actor m s pc (decide probe) s := by
  apply Moves.probes probe hw hr hd hp
  rcases decide_cases probe with h | h
  · exact .inl h
  · exact .inr (.inr (.inr h))

theorem Moves.raisesInGraph (pc : Pc) {s' : Shared} {origin : Origin} {thread : AgentWorkflowThread} (e : NodeError)
    (hpc : pc.running = true) (hw : pc.writes = false) (hd : pc.decidedOn = some (ranUnder origin thread))
    (hs : s.Keeps s') : Moves settings actor m s pc (raiseInGraph origin thread e) s' := by
  cases e with
  | value message =>
    cases origin with
    | initial => exact .fails _ _ _ _ hpc hw hd (by simp [ThreadStatus.Final]) hs
    | resume => exact .raises _ hw hs
  | permission => exact .raises _ hw hs
  | unmapped => exact .raises _ hw hs

/-- A coordinator changes the items only. -/
theorem coordinate_ok {node : Node} {s' : Shared} (h : coordinate actor m s node = .ok s') :
    ∃ items, s' = s.setItems items := by
  unfold coordinate at h
  split at h
  · cases ho : ownerPermissions (runtimePermissions m actor) s.rows with
    | error e => rw [ho] at h; cases h
    | ok levels =>
      rw [ho] at h
      cases hc : m.coordinator with
      | error e => rw [hc] at h; cases h
      | ok items =>
        rw [hc] at h
        cases h
        exact ⟨items,rfl⟩
  · cases h
    exact ⟨s.rows.items,rfl⟩

theorem coordinate_keeps {node : Node} {s' : Shared} (h : coordinate actor m s node = .ok s') : s.Keeps s' := by
  obtain ⟨items,rfl⟩ := coordinate_ok h
  exact ⟨rfl,rfl,rfl,rfl,List.Subset.refl _⟩

theorem nodeStep_moves (run : GraphRun) (node : Node) (h : run.next = some node) :
    Moves settings actor m s (.node run) (nodeStep settings actor m run node s).1
      (nodeStep settings actor m run node s).2 := by
  cases hc : coordinate actor m s node with
  | error e =>
    simp only [nodeStep,hc]
    exact .raisesInGraph (.node run) e rfl rfl rfl (.refl s)
  | ok s' =>
    have hs := coordinate_keeps hc
    cases he : execute settings actor m s'.rows run node with
    | error e =>
      simp only [nodeStep,hc,he]
      exact .raisesInGraph (.node run) e rfl rfl rfl hs
    | ok outcome =>
      cases outcome with
      | interrupts version =>
        simp only [nodeStep,hc,he]
        exact .pauses run version hs
      | writes channels next ack =>
        have hn : nodeStep settings actor m run node s = (.persist run channels next ack,
            if node.countsItems then { s' with counted := s'.rows.items::s'.counted } else s') := by
          simp only [nodeStep,hc,he]
        rw [hn]
        refine .works run node channels next ack h hn ?_
        split
        · exact ⟨hs.thread,hs.checkpoint,hs.nextId,hs.acknowledged,fun _ h => List.mem_cons_of_mem _ (hs.counted h)⟩
        · exact hs

theorem confirmStep_moves (run : GraphRun) : Moves settings actor m s (.confirm run) (confirmStep m run s) s := by
  have hfail : Moves settings actor m s (.confirm run)
      (.fail run.origin run.thread .checkpointFailed .checkpointFailed) s :=
    .fails _ _ _ _ rfl rfl rfl (by simp [ThreadStatus.Final]) (.refl s)
  unfold confirmStep
  cases s.checkpoint with
  | none => exact hfail
  | some c =>
    simp only
    split
    · exact hfail
    · cases hi : run.interrupted with
      | some version => exact .confirms run _ (.inl rfl)
      | none =>
        simp only [Option.isSome_none,Bool.false_eq_true,if_false]
        cases hstatus : run.channels.status with
        | none => exact hfail
        | some status =>
          cases status with
          | completed => exact .confirms run _ (.inr ⟨hi,hstatus⟩)
          | needsMoreEvidence => exact .confirms run _ (.inr ⟨hi,hstatus⟩)
          | awaitingHumanReview =>
            cases ho : run.origin with
            | initial => exact .confirms run _ (.inl rfl)
            | resume =>
              rw [ho] at hfail
              exact hfail
          | _ => exact hfail

/-- What `status` makes of a checkpoint: an error, or a probe of the row and counts it read. -/
theorem snapshotStep_cases (after : After) (thread : AgentWorkflowThread) (counts : StatusCounts) :
    (∃ code, snapshotStep m after thread counts s = .raised code) ∨ ∃ probe : Probe, probe.thread = thread ∧
      (snapshotStep m after thread counts s = decide probe ∨
        (∃ human, snapshotStep m after thread counts s = .verifyRevoked probe human) ∨
        snapshotStep m after thread counts s = .verifyHuman probe) := by
  have hdecide : ∀ probe : Probe, probe.thread = thread → (∃ code, decide probe = .raised code) ∨
      ∃ probe' : Probe, probe'.thread = thread ∧ (decide probe = decide probe' ∨
        (∃ human, decide probe = .verifyRevoked probe' human) ∨ decide probe = .verifyHuman probe') :=
    fun probe h => .inr ⟨probe,h,.inl rfl⟩
  unfold snapshotStep
  cases s.checkpoint with
  | none =>
    simp only
    split
    · exact hdecide _ rfl
    · split
      · exact .inl ⟨_,rfl⟩
      · split <;> exact hdecide _ rfl
  | some c =>
    simp only
    split
    · exact hdecide _ rfl
    · split
      · exact .inl ⟨_,rfl⟩
      · split
        · exact hdecide _ rfl
        · split
          · exact hdecide _ rfl
          · split
            · exact .inl ⟨_,rfl⟩
            · exact .inr ⟨_,rfl,.inr (.inl ⟨_,rfl⟩)⟩
            · exact .inr ⟨_,rfl,.inr (.inr rfl)⟩
            · exact hdecide _ rfl

theorem snapshotStep_moves (after : After) (thread : AgentWorkflowThread) (counts : StatusCounts) :
    Moves settings actor m s (.snapshot after thread counts) (snapshotStep m after thread counts s) s := by
  rcases snapshotStep_cases after thread counts with ⟨code,h⟩ | ⟨probe,rfl,h⟩
  · rw [h]
    exact .raises _ rfl (.refl s)
  · apply Moves.probes probe rfl rfl rfl (.inr ⟨after,probe.thread,counts,rfl,rfl⟩)
    rcases h with h | h | h
    · rcases decide_cases probe with hd | ⟨target,hd,ht⟩
      · exact .inl (h.trans hd)
      · exact .inr (.inr (.inr ⟨target,h.trans hd,ht⟩))
    · exact .inr (.inl h)
    · exact .inr (.inr (.inl h))

theorem projection_thread {rows : Rows} {thread : AgentWorkflowThread} {counts : StatusCounts}
    (h : projection settings actor rows = some (thread,counts)) : thread = rows.thread := by
  unfold projection at h
  split at h
  · cases h
  · split at h
    · cases h
    · cases h
      rfl

/-- What a call may do from a program point. -/
theorem stepCall_moves (settings : Settings) (actor : DemoUser) (m : Moment) (s : Shared) (pc : Pc) :
    Moves settings actor m s pc (stepCall settings actor m s pc).1 (stepCall settings actor m s pc).2 := by
  have hraise : ∀ {pc : Pc} (_ : pc.writes = false) (e : Raised), Moves settings actor m s pc (.done (.error e)) s :=
    fun h e => .raises e h (.refl s)
  cases pc with
  | launch =>
    simp only [stepCall]
    split
    · exact hraise rfl _
    · split
      · exact .asks _ rfl
      · next h => exact .launched (not_not.mp h)
  | initialProjection launched =>
    simp only [stepCall]
    cases hp : projection settings actor s.rows with
    | none => exact hraise rfl _
    | some p =>
      obtain ⟨thread,counts⟩ := p
      simp only
      split
      · exact hraise rfl _
      · split
        · exact hraise rfl _
        · rw [projection_thread hp]
          exact .projects launched
  | initialWrite launched thread => exact .opens launched thread
  | previous origin thread =>
    simp only [stepCall]
    split
    · exact .raisesInGraph (.previous origin thread) (.value .other) rfl rfl rfl (.refl s)
    · split
      · exact .fails _ _ _ _ rfl rfl rfl (by simp [ThreadStatus.Final]) (.refl s)
      · exact .loads origin thread
  | load origin thread previous =>
    cases origin with
    | initial => exact .inputs thread previous
    | resume =>
      cases hc : s.checkpoint with
      | none =>
        simp only [stepCall,hc]
        exact hraise rfl _
      | some c =>
        simp only [stepCall,hc]
        exact .continues thread previous c hc
  | node run =>
    cases hn : run.next with
    | none =>
      simp only [stepCall,hn]
      exact .concludes run hn
    | some node =>
      simp only [stepCall,hn]
      exact nodeStep_moves run node hn
  | persist run channels next ack => exact .persists run channels next ack
  | interrupt run version => exact .interrupts run version
  | confirm run => exact confirmStep_moves run
  | finish run target => exact .finishes run target
  | fail origin thread status code => exact .marks origin thread status code
  | statusProjection after =>
    simp only [stepCall]
    cases hp : projection settings actor s.rows with
    | none => exact hraise rfl _
    | some p =>
      obtain ⟨thread,counts⟩ := p
      simp only
      rw [projection_thread hp]
      exact .reads after counts
  | snapshot after thread counts => exact snapshotStep_moves after thread counts
  | verifyRevoked probe human =>
    simp only [stepCall]
    split
    · exact hraise rfl _
    · split
      · exact .probes probe rfl rfl rfl (.inl rfl) (.inr (.inr (.inl rfl)))
      · exact .decides probe rfl rfl rfl (.inl rfl)
  | verifyHuman probe =>
    simp only [stepCall]
    split
    · exact hraise rfl _
    · exact .decides probe rfl rfl rfl (.inl rfl)
  | reconcile probe target => exact .reconciles probe target
  | reprojection probe =>
    simp only [stepCall]
    cases hp : projection settings actor s.rows with
    | none => exact hraise rfl _
    | some p => exact .reprojects probe _
  | autoApproved probe =>
    cases ha : probe.after with
    | resume =>
      simp only [stepCall,ha]
      exact .goesOn probe
    | answer =>
      simp only [stepCall,ha]
      exact .answers probe _
  | resumeProjection =>
    simp only [stepCall]
    cases hp : projection settings actor s.rows with
    | none => exact hraise rfl _
    | some p =>
      obtain ⟨thread,counts⟩ := p
      have ht := projection_thread hp
      simp only
      split
      · exact hraise rfl _
      · next hstatus =>
        split
        · exact hraise rfl _
        · split
          · exact hraise rfl _
          · split
            · exact hraise rfl _
            · rw [ht]
              exact .resumes (ht ▸ not_not.mp hstatus)
  | resumeWrite thread => exact .claims thread
  | cancelProjection =>
    simp only [stepCall]
    cases hp : projection settings actor s.rows with
    | none => exact hraise rfl _
    | some p =>
      obtain ⟨thread,counts⟩ := p
      have ht := projection_thread hp
      simp only
      split
      · exact hraise rfl _
      · split
        · exact hraise rfl _
        · next hstatus =>
          rw [ht]
          apply Moves.cancels
          rw [←ht]
          intro hfinal
          apply hstatus
          rcases hfinal with h | h | h
          · exact .inr (.inr h)
          · exact .inl h
          · exact .inr (.inl h)
  | cancelWrite thread => exact .cancelled thread
  | done result => exact .rests result

end moves

/-! ## What a move keeps of one call -/

/-- The row is as the next write of the call was decided on. -/
structure Pc.Grounded (row : AgentWorkflowThread) (pc : Pc) : Prop where
  decided : ∀ d, pc.decidedOn = some d → (row.status,row.stateVersion) = d
  projected : ∀ launched thread, pc = .initialWrite launched thread → thread.stateVersion = row.stateVersion

theorem Pc.Grounded.of_none {row : AgentWorkflowThread} {pc : Pc} (h : pc.decidedOn = none) : pc.Grounded row := by
  constructor
  · intro d hd
    rw [h] at hd
    cases hd
  · rintro launched thread rfl
    cases h

theorem Pc.Grounded.of_same {row : AgentWorkflowThread} {pc pc' : Pc} (h : pc.Grounded row)
    (hd : pc'.decidedOn = pc.decidedOn) (hpc : ∀ launched thread, pc' ≠ .initialWrite launched thread) :
    pc'.Grounded row :=
  ⟨fun d hd' => h.decided d (hd ▸ hd'),fun launched thread h' => absurd h' (hpc launched thread)⟩

/-- A completed cancel is past its write. -/
def Pc.afterCancel : Pc → Bool
  | .cancelProjection => false
  | .cancelWrite _ => false
  | .done (.error _) => false
  | _ => true

namespace Moves

variable {settings : Settings} {actor : DemoUser} {m : Moment} {s s' : Shared} {pc pc' : Pc}

theorem checked (h : Moves settings actor m s pc pc' s') (hpc : pc.Checked) : pc'.Checked := by
  cases h with
  | launched h => exact h
  | projects launched => exact hpc
  | probes probe hw hr hd hp h =>
    rcases h with rfl | ⟨human,rfl⟩ | rfl | ⟨target,rfl,h⟩
    · trivial
    · trivial
    · trivial
    · exact h
  | resumes h => exact h
  | cancels h => exact h
  | _ => trivial

theorem thread_eq (h : Moves settings actor m s pc pc' s') (hpc : pc.writes = false) :
    s'.rows.thread = s.rows.thread := by
  cases h with
  | raises e hw hs => exact hs.thread
  | fails _ _ _ _ _ _ _ _ hs => exact hs.thread
  | pauses _ _ hs => exact hs.thread
  | works _ _ _ _ _ _ _ hs => exact hs.thread
  | opens | finishes | marks | reconciles | claims | cancelled => cases hpc
  | _ => rfl

theorem store_eq (h : Moves settings actor m s pc pc' s') (hpc : pc.persists = false) :
    s'.checkpoint = s.checkpoint ∧ s'.nextId = s.nextId ∧ s'.acknowledged = s.acknowledged := by
  cases h with
  | raises e hw hs => exact ⟨hs.checkpoint,hs.nextId,hs.acknowledged⟩
  | fails _ _ _ _ _ _ _ _ hs => exact ⟨hs.checkpoint,hs.nextId,hs.acknowledged⟩
  | pauses _ _ hs => exact ⟨hs.checkpoint,hs.nextId,hs.acknowledged⟩
  | works _ _ _ _ _ _ _ hs => exact ⟨hs.checkpoint,hs.nextId,hs.acknowledged⟩
  | inputs | persists | interrupts => cases hpc
  | _ => exact ⟨rfl,rfl,rfl⟩

/-- A decision is carried on, taken anew from the row, or stands on the call's own write. -/
theorem grounded (h : Moves settings actor m s pc pc' s') (hpc : pc.reads = false → pc.Grounded s.rows.thread) :
    pc'.Grounded s'.rows.thread := by
  cases h with
  | launched h => exact ⟨fun d hd => by cases hd; rfl,fun _ _ h => by cases h⟩
  | projects launched =>
    exact ⟨(hpc rfl).decided,fun _ _ h => by cases h; rfl⟩
  | opens launched thread =>
    refine ⟨fun d hd => ?_,fun _ _ h => by cases h⟩
    cases hd
    change (ThreadStatus.checkpointPending,s.rows.thread.stateVersion+1) = (.checkpointPending,thread.stateVersion+1)
    rw [(hpc rfl).projected launched thread rfl]
  | claims thread =>
    refine ⟨fun d hd => ?_,fun _ _ h => by cases h⟩
    cases hd
    have := (hpc rfl).decided _ rfl
    change (ThreadStatus.resuming,s.rows.thread.stateVersion) = (.resuming,thread.stateVersion)
    rw [(Prod.mk.inj this).2]
  | loads origin thread => exact (hpc rfl).of_same rfl (by simp)
  | fails origin thread status code hrun hw hd hstatus hs =>
    rw [hs.thread]
    have hreads : pc.reads = false := by cases pc <;> first | rfl | cases hrun
    exact (hpc hreads).of_same hd.symm (by simp)
  | inputs thread previous => exact (hpc rfl).of_same rfl (by simp)
  | continues thread previous c hc => exact (hpc rfl).of_same rfl (by simp)
  | concludes run hn => exact (hpc rfl).of_same rfl (by simp)
  | pauses run version hs =>
    rw [hs.thread]
    exact (hpc rfl).of_same rfl (by simp)
  | works run node channels next ack hn hstep hs =>
    rw [hs.thread]
    exact (hpc rfl).of_same rfl (by simp)
  | persists run channels next ack => exact (hpc rfl).of_same rfl (by simp)
  | interrupts run version => exact (hpc rfl).of_same rfl (by simp)
  | confirms run target => exact (hpc rfl).of_same rfl (by simp)
  | reads after counts => exact ⟨fun d hd => by cases hd; rfl,fun _ _ h => by cases h⟩
  | probes probe hw hr hd hp h =>
    rcases h with rfl | ⟨human,rfl⟩ | rfl | ⟨target,rfl,-⟩
    · exact .of_none rfl
    · exact (hpc hr).of_same hd.symm (by simp)
    · exact (hpc hr).of_same hd.symm (by simp)
    · exact (hpc hr).of_same hd.symm (by simp)
  | resumes h => exact ⟨fun d hd => by cases hd; rfl,fun _ _ h => by cases h⟩
  | cancels h => exact ⟨fun d hd => by cases hd; rfl,fun _ _ h => by cases h⟩
  | _ => exact .of_none rfl

/-- A status is only ever written over one that is not final. -/
theorem writes_over (hw : pc.writes = true) (hc : pc.Checked) (hg : pc.Grounded s.rows.thread) :
    ¬s.rows.thread.status.Final ∧ pc.decidedOn = some (s.rows.thread.status,s.rows.thread.stateVersion) := by
  have hrun : ∀ origin thread, ¬(ranUnder origin thread).1.Final := by
    intro origin thread
    cases origin <;> simp [ranUnder,ThreadStatus.Final]
  have key : ∀ d, pc.decidedOn = some d → ¬d.1.Final →
      ¬s.rows.thread.status.Final ∧ pc.decidedOn = some (s.rows.thread.status,s.rows.thread.stateVersion) := by
    intro d hd hfinal
    have := hg.decided d hd
    rw [hd,←this]
    rw [←this] at hfinal
    exact ⟨hfinal,rfl⟩
  cases pc with
  | initialWrite launched thread =>
    refine key _ rfl ?_
    change launched.status = .created at hc
    simp [hc,ThreadStatus.Final]
  | finish run target => exact key _ rfl (hrun _ _)
  | fail origin thread status code => exact key _ rfl (hrun _ _)
  | reconcile probe target =>
    refine key _ rfl ?_
    rcases hc.1 with h | h | h | h <;> simp [h,ThreadStatus.Final]
  | resumeWrite thread =>
    refine key _ rfl ?_
    change thread.status = .awaitingHumanReview at hc
    simp [hc,ThreadStatus.Final]
  | cancelWrite thread => exact key _ rfl hc
  | _ => cases hw

/-- Only a write opens a run of the graph. -/
theorem opened (h : Moves settings actor m s pc pc' s') (hrun : pc'.running = true) :
    pc.running = true ∨ pc.writes = true := by
  cases h with
  | opens | claims => exact .inr rfl
  | loads | inputs | continues | concludes | pauses | works | persists | interrupts | confirms => exact .inl rfl
  | fails _ _ _ _ hpc => exact .inl hpc
  | probes probe hw hr hd hp h => rcases h with rfl | ⟨human,rfl⟩ | rfl | ⟨target,rfl,-⟩ <;> cases hrun
  | _ => cases hrun

theorem reads_closed (hr : pc.reads = true) : pc.running = false ∧ pc.writes = false ∧ pc.persists = false := by
  cases pc <;> first | exact ⟨rfl,rfl,rfl⟩ | cases hr

/-- A run stands at the last checkpoint if it did before. -/
theorem reached (h : Moves settings actor m s pc pc' s')
    (hpc : ∀ i, pc.reached = some i → s.last = some i) (i : Nat) (hi : pc'.reached = some i) :
    s'.last = some i := by
  cases h with
  | inputs thread previous =>
    cases hi
    rfl
  | continues thread previous c hc =>
    cases hi
    rw [Shared.last,hc]
    rfl
  | pauses run version hs =>
    rw [Shared.last,hs.checkpoint]
    exact hpc i hi
  | works run node channels next ack hn hstep hs =>
    rw [Shared.last,hs.checkpoint]
    exact hpc i hi
  | persists run channels next ack =>
    cases hi
    rfl
  | probes probe hw hr hd hp h => rcases h with rfl | ⟨human,rfl⟩ | rfl | ⟨target,rfl,-⟩ <;> cases hi
  | _ => cases hi

/-- A move puts a new last checkpoint or leaves the id of the last one. -/
theorem stores (h : Moves settings actor m s pc pc' s') :
    (s'.last = some s.nextId ∧ s'.nextId = s.nextId+1 ∧
      (s'.acknowledged = s.acknowledged ∨ ∃ i, pc.reached = some i ∧ s'.acknowledged = i::s.acknowledged)) ∨
    (s'.last = s.last ∧ s'.nextId = s.nextId ∧ s'.acknowledged = s.acknowledged) := by
  cases h with
  | inputs thread previous => exact .inl ⟨rfl,rfl,.inl rfl⟩
  | persists run channels next ack =>
    refine .inl ⟨rfl,rfl,?_⟩
    cases ack with
    | false => exact .inl rfl
    | true => exact .inr ⟨run.current,rfl,rfl⟩
  | interrupts run version =>
    refine .inr ⟨?_,rfl,rfl⟩
    unfold Shared.last Shared.putInterrupt
    rw [Option.map_map]
    apply congrArg (fun f => s.checkpoint.map f)
    funext c
    dsimp only [Function.comp]
    split <;> rfl
  | raises e hw hs => exact .inr hs.last
  | fails _ _ _ _ _ _ _ _ hs => exact .inr hs.last
  | pauses _ _ hs => exact .inr hs.last
  | works _ _ _ _ _ _ _ hs => exact .inr hs.last
  | _ => exact .inr ⟨rfl,rfl,rfl⟩

/-- A cancelled row stays so unless the call itself writes it. -/
theorem afterCancel (h : Moves settings actor m s pc pc' s') (hpc' : pc'.afterCancel = true) :
    pc.afterCancel = true ∨ s'.rows.thread.status = .cancelled := by
  cases h with
  | raises => cases hpc'
  | cancels => cases hpc'
  | cancelled => exact .inr rfl
  | fails _ _ _ _ hpc => cases pc <;> first | exact .inl rfl | cases hpc
  | asks after h =>
    subst h
    exact .inl rfl
  | probes probe hw hr hd hp h => cases pc <;> first | exact .inl rfl | cases hd | cases hw
  | rests => exact .inl hpc'
  | _ => exact .inl rfl

end Moves

/-! ## Runs -/

/-- A call that another one has overtaken writes neither the row nor a checkpoint any more. -/
def Uninterfered (s : System) : Command → Prop
  | .step p _ => ∀ frame, s.calls p = some frame → (frame.pc.writes = true ∨ frame.pc.persists = true) → s.fresh p = true
  | _ => True

structure Coherent (s : System) : Prop where
  checked : ∀ p frame, s.calls p = some frame → frame.pc.Checked
  grounded : ∀ p frame, s.calls p = some frame → s.fresh p = true → frame.pc.Grounded s.shared.rows.thread
  alone : ∀ p q f g, s.calls p = some f → s.calls q = some g → s.fresh p = true → s.fresh q = true →
    f.pc.running = true → g.pc.running = true → p = q
  reached : ∀ p frame, s.calls p = some frame → s.fresh p = true → ∀ i, frame.pc.reached = some i →
    s.shared.last = some i
  bounded : ∀ i, s.shared.last = some i → i < s.shared.nextId
  passed : ∀ i ∈ s.shared.acknowledged, ∃ j, s.shared.last = some j ∧ i < j
  once : s.shared.acknowledged.Nodup
  cancelled : ∀ p frame, s.calls p = some frame → frame.call = .cancel → frame.pc.afterCancel = true →
    s.shared.rows.thread.status = .cancelled

theorem initial_coherent (thread : AgentWorkflowThread) (request : AgentWorkflowRequest) (levels : List Text) :
    Coherent (initial thread request levels) := by
  constructor
  all_goals simp [initial,Shared.last]

theorem Call.entry_new (call : Call) : call.entry.Checked ∧ call.entry.decidedOn = none ∧ call.entry.running = false ∧
    call.entry.reached = none ∧ (call = .cancel → call.entry.afterCancel = false) := by
  cases call <;> exact ⟨trivial,rfl,rfl,rfl,by simp [Call.entry,Pc.afterCancel]⟩

/-- The calls after a call of process `p` has become `frame`. -/
theorem update_calls {calls : Nat → Option Frame} {p q : Nat} {frame g : Frame}
    (h : Function.update calls p (some frame) q = some g) : q = p ∧ g = frame ∨ q ≠ p ∧ calls q = some g := by
  by_cases hq : q = p
  · subst hq
    rw [Function.update_self] at h
    exact .inl ⟨rfl,(Option.some.inj h).symm⟩
  · rw [Function.update_of_ne hq] at h
    exact .inr ⟨hq,h⟩

/-- The calls that are left when that of process `p` is gone. -/
theorem crash_calls {calls : Nat → Option Frame} {p q : Nat} {frame : Frame}
    (h : Function.update calls p none q = some frame) : q ≠ p ∧ calls q = some frame := by
  by_cases hq : q = p
  · subst hq
    rw [Function.update_self] at h
    cases h
  · rw [Function.update_of_ne hq] at h
    exact ⟨hq,h⟩

theorem Coherent.begin {s : System} (h : Coherent s) (p : Nat) (actor : DemoUser) (call : Call) :
    Coherent { s with calls := Function.update s.calls p (some ⟨actor,call,call.entry⟩) } := by
  obtain ⟨hchecked,hdecided,hrunning,hreached,hcancel⟩ := call.entry_new
  constructor
  · intro q frame hq
    rcases update_calls hq with ⟨-,rfl⟩ | ⟨-,hq⟩
    · exact hchecked
    · exact h.checked q frame hq
  · intro q frame hq hf
    rcases update_calls hq with ⟨-,rfl⟩ | ⟨-,hq⟩
    · exact .of_none hdecided
    · exact h.grounded q frame hq hf
  · intro q r f g hq hr hfq hfr hrq hrr
    rcases update_calls hq with ⟨-,rfl⟩ | ⟨-,hq⟩
    · exact absurd hrq (by simp [hrunning])
    · rcases update_calls hr with ⟨-,rfl⟩ | ⟨-,hr⟩
      · exact absurd hrr (by simp [hrunning])
      · exact h.alone q r f g hq hr hfq hfr hrq hrr
  · intro q frame hq hf i hi
    rcases update_calls hq with ⟨-,rfl⟩ | ⟨-,hq⟩
    · rw [hreached] at hi
      cases hi
    · exact h.reached q frame hq hf i hi
  · exact h.bounded
  · exact h.passed
  · exact h.once
  · intro q frame hq hc ha
    rcases update_calls hq with ⟨-,rfl⟩ | ⟨-,hq⟩
    · rw [hcancel hc] at ha
      cases ha
    · exact h.cancelled q frame hq hc ha

theorem Coherent.crash {s : System} (h : Coherent s) (p : Nat) :
    Coherent { s with calls := Function.update s.calls p none } := by
  constructor
  · exact fun q frame hq => h.checked q frame (crash_calls hq).2
  · exact fun q frame hq => h.grounded q frame (crash_calls hq).2
  · exact fun q r f g hq hr => h.alone q r f g (crash_calls hq).2 (crash_calls hr).2
  · exact fun q frame hq => h.reached q frame (crash_calls hq).2
  · exact h.bounded
  · exact h.passed
  · exact h.once
  · exact fun q frame hq => h.cancelled q frame (crash_calls hq).2

theorem freshAfter_self {pc : Pc} {p : Nat} {fresh : Nat → Bool} (h : freshAfter pc p fresh p = true) :
    pc.writes = true ∨ pc.reads = true ∨ fresh p = true := by
  unfold freshAfter at h
  split at h
  · next hw => exact .inl hw
  · split at h
    · next hr => exact .inr (.inl hr)
    · exact .inr (.inr h)

theorem freshAfter_other {pc : Pc} {p q : Nat} {fresh : Nat → Bool} (hq : q ≠ p)
    (h : freshAfter pc p fresh q = true) : pc.writes = false ∧ fresh q = true := by
  unfold freshAfter at h
  split at h
  · exact absurd (of_decide_eq_true h) hq
  · next hw =>
    refine ⟨by simpa using hw,?_⟩
    split at h
    · rwa [Function.update_of_ne hq] at h
    · exact h

/-- A move of one call keeps the decisions of the calls that are still fresh, and the order of the checkpoints. -/
theorem Coherent.move {settings : Settings} {m : Moment} {s : System} (h : Coherent s) {p : Nat} {frame : Frame}
    {pc' : Pc} {shared' : Shared} (hp : s.calls p = some frame)
    (hm : Moves settings frame.actor m s.shared frame.pc pc' shared')
    (hok : frame.pc.writes = true ∨ frame.pc.persists = true → s.fresh p = true) :
    Coherent ⟨shared',Function.update s.calls p (some { frame with pc := pc' }),freshAfter frame.pc p s.fresh⟩ := by
  have hchecked := h.checked p frame hp
  have hground : frame.pc.writes = true → frame.pc.Grounded s.shared.rows.thread :=
    fun hw => h.grounded p frame hp (hok (.inl hw))
  -- what stays for a call that is fresh after another one moved
  have hstill : ∀ q g, q ≠ p → s.calls q = some g → freshAfter frame.pc p s.fresh q = true →
      shared'.rows.thread = s.shared.rows.thread ∧ s.fresh q = true := by
    intro q g hqp hq hf
    obtain ⟨hw,hf⟩ := freshAfter_other hqp hf
    exact ⟨hm.thread_eq hw,hf⟩
  have hrunning : freshAfter frame.pc p s.fresh p = true → pc'.running = true →
      frame.pc.writes = true ∨ s.fresh p = true ∧ frame.pc.running = true := by
    intro hf hrun
    rcases hm.opened hrun with hr | hw
    · rcases freshAfter_self hf with hw | hreads | hf
      · exact .inl hw
      · rw [(Moves.reads_closed hreads).1] at hr
        cases hr
      · exact .inr ⟨hf,hr⟩
    · exact .inl hw
  have halone : ∀ q g, q ≠ p → s.calls q = some g → freshAfter frame.pc p s.fresh q = true →
      freshAfter frame.pc p s.fresh p = true → g.pc.running = true → pc'.running = true → False := by
    intro q g hqp hq hfq hfp hrq hrp
    obtain ⟨hw,hfq⟩ := freshAfter_other hqp hfq
    rcases hrunning hfp hrp with hw' | ⟨hfp,hrp⟩
    · rw [hw] at hw'
      cases hw'
    · exact hqp (h.alone q p g frame hq hp hfq hfp hrq hrp)
  have hreachedRuns : ∀ pc : Pc, ∀ i, pc.reached = some i → pc.running = true := by
    intro pc i hi
    cases pc <;> first | rfl | cases hi
  have hlast : ∀ i, s.shared.last = some i → ∃ j, shared'.last = some j ∧ i ≤ j := by
    intro i hi
    rcases hm.stores with ⟨hl,-,-⟩ | ⟨hl,-,-⟩
    · exact ⟨s.shared.nextId,hl,(h.bounded i hi).le⟩
    · exact ⟨i,hl.trans hi,le_rfl⟩
  -- an acknowledgement passes the interrupt of the last checkpoint, and a later one becomes the last
  have hpassed : ∀ i, frame.pc.reached = some i → shared'.acknowledged = i::s.shared.acknowledged →
      shared'.last = some s.shared.nextId → s.shared.last = some i := by
    intro i hi hack hl
    apply h.reached p frame hp _ i hi
    by_cases hpersist : frame.pc.persists = true
    · exact hok (.inr hpersist)
    · have := (hm.store_eq (by simpa using hpersist)).2.2
      rw [hack] at this
      exact absurd this (List.cons_ne_self _ _)
  constructor
  · intro q g hq
    rcases update_calls hq with ⟨-,rfl⟩ | ⟨-,hq'⟩
    · exact hm.checked hchecked
    · exact h.checked q g hq'
  · intro q g hq hf
    rcases update_calls hq with ⟨rfl,rfl⟩ | ⟨hqp,hq'⟩
    · apply hm.grounded
      intro hreads
      rcases freshAfter_self hf with hw | hr | hf
      · exact hground hw
      · rw [hreads] at hr
        cases hr
      · exact h.grounded q frame hp hf
    · obtain ⟨ht,hf⟩ := hstill q g hqp hq' hf
      rw [ht]
      exact h.grounded q g hq' hf
  · intro q r f g hq hr hfq hfr hrq hrr
    rcases update_calls hq with ⟨hqp,rfl⟩ | ⟨hqp,hq'⟩
    · rcases update_calls hr with ⟨hrp,rfl⟩ | ⟨hrp,hr'⟩
      · rw [hqp,hrp]
      · exact (halone r g hrp hr' hfr (hqp ▸ hfq) hrr hrq).elim
    · rcases update_calls hr with ⟨hrp,rfl⟩ | ⟨hrp,hr'⟩
      · exact (halone q f hqp hq' hfq (hrp ▸ hfr) hrq hrr).elim
      · exact h.alone q r f g hq' hr' (hstill q f hqp hq' hfq).2 (hstill r g hrp hr' hfr).2 hrq hrr
  · intro q g hq hf i hi
    rcases update_calls hq with ⟨rfl,rfl⟩ | ⟨hqp,hq'⟩
    · apply hm.reached _ i hi
      intro j hj
      apply h.reached q frame hp _ j hj
      rcases freshAfter_self hf with hw | hr | hf
      · exact hok (.inl hw)
      · have := (Moves.reads_closed hr).1
        rw [hreachedRuns _ _ hj] at this
        cases this
      · exact hf
    · obtain ⟨-,hfq⟩ := hstill q g hqp hq' hf
      have hl := h.reached q g hq' hfq i hi
      by_cases hpersist : frame.pc.persists = true
      · refine absurd (h.alone q p g frame hq' hp hfq (hok (.inr hpersist)) (hreachedRuns _ _ hi) ?_) hqp
        revert hpersist
        cases frame.pc <;> simp [Pc.persists,Pc.running]
      · change shared'.checkpoint.map _ = _
        rw [(hm.store_eq (by simpa using hpersist)).1]
        exact hl
  · intro i hi
    rcases hm.stores with ⟨hl,hn,-⟩ | ⟨hl,hn,-⟩
    · rw [hl] at hi
      cases hi
      change s.shared.nextId < shared'.nextId
      omega
    · change i < shared'.nextId
      rw [hn]
      exact h.bounded i (hl ▸ hi)
  · intro i hi
    have hold : i ∈ s.shared.acknowledged → ∃ j, shared'.last = some j ∧ i < j := by
      intro hi
      obtain ⟨j,hj,hij⟩ := h.passed i hi
      obtain ⟨k,hk,hjk⟩ := hlast j hj
      exact ⟨k,hk,by omega⟩
    rcases hm.stores with ⟨hl,-,hack | ⟨j,hj,hack⟩⟩ | ⟨-,-,hack⟩
    · exact hold (hack ▸ hi)
    · change i ∈ shared'.acknowledged at hi
      rw [hack] at hi
      rcases List.mem_cons.mp hi with rfl | hi
      · exact ⟨_,hl,h.bounded i (hpassed i hj hack hl)⟩
      · exact hold hi
    · exact hold (hack ▸ hi)
  · change shared'.acknowledged.Nodup
    rcases hm.stores with ⟨hl,-,hack | ⟨j,hj,hack⟩⟩ | ⟨-,-,hack⟩
    · exact hack ▸ h.once
    · rw [hack]
      refine List.nodup_cons.mpr ⟨fun hmem => ?_,h.once⟩
      obtain ⟨k,hk,hjk⟩ := h.passed j hmem
      have := hpassed j hj hack hl
      rw [hk] at this
      cases this
      omega
    · exact hack ▸ h.once
  · intro q g hq hc ha
    have hkeep : s.shared.rows.thread.status = .cancelled → shared'.rows.thread.status = .cancelled := by
      intro hs
      by_cases hw : frame.pc.writes = true
      · refine absurd ?_ (Moves.writes_over hw hchecked (hground hw)).1
        exact .inl hs
      · rw [hm.thread_eq (by simpa using hw)]
        exact hs
    rcases update_calls hq with ⟨rfl,rfl⟩ | ⟨-,hq'⟩
    · rcases hm.afterCancel ha with hbefore | hstatus
      · exact hkeep (h.cancelled q frame hp hc hbefore)
      · exact hstatus
    · exact hkeep (h.cancelled q g hq' hc ha)

theorem Coherent.next {settings : Settings} {s : System} (h : Coherent s) (c : Command) (hc : Uninterfered s c) :
    Coherent (step settings s c) := by
  cases c with
  | begin p actor call =>
    simp only [step]
    split
    · exact h.begin p actor call
    · exact h
  | step p m =>
    simp only [step]
    split
    · exact h
    · next frame hp => exact h.move hp (stepCall_moves settings frame.actor m s.shared frame.pc) (hc frame hp)
  | crash p => exact h.crash p
  | review items audits =>
    exact ⟨h.checked,h.grounded,h.alone,h.reached,h.bounded,h.passed,h.once,h.cancelled⟩

end ParaWorks.Workflow
