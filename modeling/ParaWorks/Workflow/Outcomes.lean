import ParaWorks.Workflow.Interleavings

/-!
# Final outcomes

A thread is only completed on a count of its items that leaves nothing to a human. With the decisions of the calls kept
apart, an outcome once committed stays, a cancel is not undone, and an interrupt is passed once.
-/

namespace ParaWorks.Workflow

open Lib Answers Rollout

/-! ## What the graph counted -/

/-- No item waits for a human or for more evidence. -/
def Settled (items : List ReviewItem) : Prop :=
  ∀ item ∈ items, item.status ≠ some .pendingReview ∧ item.status ≠ some .needsMoreEvidence

/-- The counts of the channels were taken from an item table in which nothing was left to a human. -/
def CountedSettled (counted : List (List ReviewItem)) (channels : Channels) : Prop :=
  ∃ items ∈ counted, channels.reviewStatusCounts = some (countItems items) ∧ Settled items

/-- The channels say of the items only what the graph has counted. -/
structure Placed (counted : List (List ReviewItem)) (channels : Channels) (next : Option Node) : Prop where
  phase : (terminalPhase channels.phase).isSome → channels.status.isSome
  routed : next = some .routeReviewBoundary →
    ∃ items ∈ counted, channels.reviewStatusCounts = some (countItems items) ∧ ∀ item ∈ items, item.status ≠ none
  settled : next = some .finalizeNoCandidates ∨ next = some .finalizeAutoResolved → CountedSettled counted channels
  ended : next = none → channels.status = some .completed → CountedSettled counted channels

theorem CountedSettled.mono {counted counted' : List (List ReviewItem)} {channels : Channels}
    (h : CountedSettled counted channels) (hsub : counted ⊆ counted') : CountedSettled counted' channels :=
  let ⟨items,hmem,hi⟩ := h
  ⟨items,hsub hmem,hi⟩

theorem Placed.mono {counted counted' : List (List ReviewItem)} {channels : Channels} {next : Option Node}
    (h : Placed counted channels next) (hsub : counted ⊆ counted') : Placed counted' channels next where
  phase := h.phase
  routed hn := let ⟨items,hmem,hi⟩ := h.routed hn; ⟨items,hsub hmem,hi⟩
  settled hn := (h.settled hn).mono hsub
  ended hn hs := (h.ended hn hs).mono hsub

theorem settled_of_counts {items : List ReviewItem} (hp : withStatus items .pendingReview = 0)
    (hn : withStatus items .needsMoreEvidence = 0) : Settled items := by
  intro item hitem
  have hzero : ∀ status, withStatus items status = 0 → item.status ≠ some status := by
    intro status h hs
    have := List.countP_eq_zero.mp h item hitem
    simp [hs] at this
  exact ⟨hzero _ hp,hzero _ hn⟩

theorem branch_settled {channels : Channels} {items : List ReviewItem} {next : Node}
    (hc : channels.reviewStatusCounts = some (countItems items)) (h : branch channels = .ok next)
    (hn : next = .finalizeNoCandidates ∨ next = .finalizeAutoResolved) : Settled items := by
  unfold branch at h
  rw [hc] at h
  simp only [Option.getD_some] at h
  have hcounts : (countItems items).pendingReview = 0 ∧ (countItems items).needsMoreEvidence = 0 := by
    split at h
    · next htotal =>
      unfold StatusCounts.total at htotal
      omega
    · split at h
      · cases h
        simp at hn
      · next hp =>
        split at h
        · cases h
          simp at hn
        · next hm => exact ⟨not_not.mp hp,not_not.mp hm⟩
  exact settled_of_counts hcounts.1 hcounts.2

theorem branch_ne_route {channels : Channels} : branch channels ≠ .ok .routeReviewBoundary := by
  unfold branch
  dsimp only
  repeat' split
  all_goals simp

theorem counts_ok {permissions : Text → List Text} {rows : Rows} {c : StatusCounts} (h : counts permissions rows = .ok c) :
    c = countItems rows.items ∧ ∀ item ∈ rows.items, item.status ≠ none := by
  unfold counts at h
  cases ho : ownerPermissions permissions rows with
  | error e =>
    rw [ho] at h
    cases h
  | ok allowed =>
    rw [ho] at h
    simp only [Except.bind] at h
    split at h
    · next hf =>
      cases h
      refine ⟨rfl,fun item hitem hnone => ?_⟩
      have := List.find?_eq_none.mp hf item hitem
      simp [hnone] at this
    · split at h <;> cases h

theorem placed_complete {counted : List (List ReviewItem)} {channels : Channels} {next : Node} {phase : Phase}
    {node : Node} (hphase : terminalPhase (some phase) = none)
    (hnext : next ≠ .routeReviewBoundary ∧ next ≠ .finalizeNoCandidates ∧ next ≠ .finalizeAutoResolved) :
    Placed counted (channels.complete phase node) (some next) where
  phase hp := by
    change (terminalPhase (some phase)).isSome at hp
    rw [hphase] at hp
    cases hp
  routed hn := absurd (Option.some.inj hn) hnext.1
  settled hn := hn.elim (fun h => absurd (Option.some.inj h) hnext.2.1) fun h => absurd (Option.some.inj h) hnext.2.2
  ended hn := by cases hn

theorem placed_output {counted : List (List ReviewItem)} {channels : Channels} {status : ThreadStatus} {phase : Phase}
    {node : Node} (h : status = .completed → CountedSettled counted channels) :
    Placed counted (output channels status phase node) none where
  phase _ := rfl
  routed hn := by cases hn
  settled hn := by simp at hn
  ended _ hs := h (Option.some.inj hs)

section nodes

variable {settings : Settings} {actor : DemoUser} {m : Moment} {s s' : Shared}

theorem raiseInGraph_ne_persist {origin : Origin} {thread : AgentWorkflowThread} {e : NodeError} {run : GraphRun}
    {channels : Channels} {next : Option Node} {ack : Bool} :
    raiseInGraph origin thread e ≠ .persist run channels next ack := by
  cases e <;> cases origin <;> simp [raiseInGraph]

/-- A step that goes on to persist has run its node over what the coordinator left. -/
theorem nodeStep_persist {run run' : GraphRun} {node : Node} {channels : Channels} {next : Option Node} {ack : Bool}
    (h : nodeStep settings actor m run node s = (.persist run' channels next ack,s')) :
    ∃ s₁, coordinate actor m s node = .ok s₁ ∧
      execute settings actor m s₁.rows run node = .ok (.writes channels next ack) ∧
      s' = if node.countsItems then { s₁ with counted := s₁.rows.items::s₁.counted } else s₁ := by
  unfold nodeStep at h
  cases hc : coordinate actor m s node with
  | error e =>
    rw [hc] at h
    exact absurd (congrArg Prod.fst h) raiseInGraph_ne_persist
  | ok s₁ =>
    rw [hc] at h
    cases he : execute settings actor m s₁.rows run node with
    | error e =>
      simp only [he] at h
      exact absurd (congrArg Prod.fst h) raiseInGraph_ne_persist
    | ok outcome =>
      simp only [he] at h
      cases outcome with
      | interrupts version => cases congrArg Prod.fst h
      | writes channels₁ next₁ ack₁ =>
        obtain ⟨hpc,hs⟩ := Prod.mk.inj h
        injection hpc with _ hch hn hack
        subst hch hn hack
        exact ⟨s₁,rfl,he,hs.symm⟩

theorem map_ok {ε α β : Type} {x : Except ε α} {f : α → β} {b : β} (h : x.map f = .ok b) : ∃ a, x = .ok a ∧ f a = b := by
  cases x with
  | error e => cases h
  | ok a => exact ⟨a,rfl,Except.ok.inj h⟩

theorem bind_ok {ε α β : Type} {x : Except ε α} {f : α → Except ε β} {b : β} (h : x.bind f = .ok b) :
    ∃ a, x = .ok a ∧ f a = .ok b := by
  cases x with
  | error e => cases h
  | ok a => exact ⟨a,rfl,h⟩

/-- A node that is persisted leaves channels that say no more than what was counted. -/
theorem nodeStep_placed {run : GraphRun} {node : Node} {channels : Channels} {next : Option Node} {ack : Bool}
    (hrun : Placed s.counted run.channels (some node))
    (h : nodeStep settings actor m run node s = (.persist run channels next ack,s')) :
    Placed s'.counted channels next := by
  obtain ⟨s₁,hc,he,rfl⟩ := nodeStep_persist h
  obtain ⟨items,rfl⟩ := coordinate_ok hc
  cases node with
  | validateInput =>
    obtain ⟨ch,hv,heq⟩ := map_ok he
    cases heq
    unfold validateInput at hv
    split at hv
    · cases hv
    · obtain ⟨thread,-,rfl⟩ := map_ok hv
      exact placed_complete rfl (by simp)
  | collectEvidenceRefs =>
    obtain ⟨ch,hv,heq⟩ := map_ok he
    cases heq
    obtain ⟨allowed,-,hv⟩ := bind_ok hv
    split at hv
    · cases hv
    · cases hv
      exact placed_complete rfl (by simp)
  | planAgentRuns =>
    obtain ⟨ch,hv,heq⟩ := map_ok he
    cases heq
    unfold planAgentRuns at hv
    split at hv
    · cases hv
    · cases hv
      exact placed_complete rfl (by simp)
  | draftReviewCandidatesTransaction =>
    obtain ⟨ch,hv,heq⟩ := map_ok he
    cases heq
    obtain ⟨c,-,rfl⟩ := map_ok hv
    exact placed_complete rfl (by simp)
  | runAutoReview =>
    cases he
    exact placed_complete rfl (by simp)
  | refreshReviewResolution =>
    obtain ⟨ch,hv,heq⟩ := map_ok he
    cases heq
    obtain ⟨c,hcounts,rfl⟩ := map_ok hv
    obtain ⟨rfl,hknown⟩ := counts_ok hcounts
    exact ⟨by simp [Channels.complete,terminalPhase],fun _ => ⟨items,List.mem_cons_self,rfl,hknown⟩,by simp,by simp⟩
  | routeReviewBoundary =>
    obtain ⟨next,hb,heq⟩ := map_ok he
    cases heq
    obtain ⟨items,hmem,hcounts,-⟩ := hrun.routed rfl
    refine ⟨by simp [route,Channels.complete,terminalPhase],?_,?_,by simp⟩
    · intro hn
      cases hn
      exact absurd hb branch_ne_route
    · intro hn
      exact ⟨items,hmem,hcounts,branch_settled hcounts hb (by simpa using hn)⟩
  | awaitHumanReview =>
    obtain ⟨thread,-,he⟩ := bind_ok he
    split at he
    · cases he
    · split at he
      · cases he
        exact placed_complete rfl (by simp)
      · cases he
  | finalizeNoCandidates =>
    cases he
    exact placed_output fun _ => hrun.settled (.inl rfl)
  | finalizeNeedsMoreEvidence =>
    cases he
    exact placed_output (by simp)
  | finalizeAutoResolved =>
    cases he
    exact placed_output fun _ => hrun.settled (.inr rfl)

end nodes

/-! ## Completed threads -/

/-- What a call carries of the channels. -/
def Pc.Placed (counted : List (List ReviewItem)) : Pc → Prop
  | .node run => Workflow.Placed counted run.channels run.next
  | .persist _ channels next _ => Workflow.Placed counted channels next
  | .confirm run => run.interrupted = none → Workflow.Placed counted run.channels none
  | .finish run target => target = .completed → CountedSettled counted run.channels
  | .fail _ _ status _ => ¬status.Final
  | _ => True

section completed

variable {settings : Settings} {actor : DemoUser} {m : Moment} {s s' : Shared} {pc pc' : Pc}

theorem Moves.counted (h : Moves settings actor m s pc pc' s') : s.counted ⊆ s'.counted := by
  cases h with
  | raises e hw hs => exact hs.counted
  | fails _ _ _ _ _ _ _ _ hs => exact hs.counted
  | pauses _ _ hs => exact hs.counted
  | works _ _ _ _ _ _ _ hs => exact hs.counted
  | _ => exact List.Subset.refl _

theorem Pc.Placed.mono {counted counted' : List (List ReviewItem)} (h : pc.Placed counted) (hsub : counted ⊆ counted') :
    pc.Placed counted' := by
  cases pc with
  | node run => exact Workflow.Placed.mono h hsub
  | persist run channels next ack => exact Workflow.Placed.mono h hsub
  | confirm run => exact fun hi => (h hi).mono hsub
  | finish run target => exact fun ht => (h ht).mono hsub
  | fail origin thread status code => exact h
  | _ => trivial

/-- The channels of the last checkpoint. -/
def Shared.Placed (s : Shared) : Prop := ∀ c, s.checkpoint = some c → Workflow.Placed s.counted c.channels c.next

/-- A call keeps the channels it carries and stores to what has been counted. -/
theorem Moves.placed (h : Moves settings actor m s pc pc' s') (hpc : pc.Placed s.counted) (hs : s.Placed) :
    pc'.Placed s'.counted ∧ s'.Placed := by
  have hkeep : ∀ {s' : Shared}, s.Keeps s' → s'.Placed := by
    intro s' hk c hc
    rw [hk.checkpoint] at hc
    exact (hs c hc).mono hk.counted
  cases h with
  | raises e hw hk => exact ⟨trivial,hkeep hk⟩
  | fails origin thread status code hrun hw hd hstatus hk => exact ⟨hstatus,hkeep hk⟩
  | inputs thread previous =>
    have hch : Workflow.Placed s.counted
        { (s.checkpoint.map (·.channels)).getD {} with workflowThreadId := some thread.threadId }
        (some .validateInput) := by
      cases hc : s.checkpoint with
      | none => exact ⟨by simp [terminalPhase],by simp,by simp,by simp⟩
      | some c => exact ⟨(hs c hc).phase,by simp,by simp,by simp⟩
    refine ⟨hch,fun c hc => ?_⟩
    cases hc
    exact hch
  | continues thread previous c hc => exact ⟨hs c hc,hs⟩
  | concludes run hn =>
    refine ⟨fun _ => ?_,hs⟩
    rw [←hn]
    exact hpc
  | pauses run version hk => exact ⟨trivial,hkeep hk⟩
  | works run node channels next ack hn hstep hk =>
    refine ⟨nodeStep_placed ?_ hstep,hkeep hk⟩
    rw [←hn]
    exact hpc
  | persists run channels next ack =>
    refine ⟨hpc,fun c hc => ?_⟩
    cases hc
    exact hpc
  | interrupts run version =>
    refine ⟨by simp [Pc.Placed],fun c hc => ?_⟩
    obtain ⟨d,hd,rfl⟩ := Option.map_eq_some_iff.mp hc
    have := hs d hd
    split <;> exact this
  | confirms run target ht =>
    refine ⟨fun hcompleted => ?_,hs⟩
    subst hcompleted
    rcases ht with ht | ⟨hi,ht⟩
    · cases ht
    · exact (hpc hi).ended rfl ht
  | probes probe hw hr hd hp h =>
    refine ⟨?_,hs⟩
    rcases h with rfl | ⟨human,rfl⟩ | rfl | ⟨target,rfl,-⟩ <;> trivial
  | rests => exact ⟨hpc,hs⟩
  | _ => exact ⟨trivial,hs⟩

theorem validateCheckpointState_status {channels : Channels} (h : validateCheckpointState channels = true) :
    channels.status = none := by
  simp only [validateCheckpointState,Bool.and_eq_true] at h
  simpa using h.1.1.1.1.1.1.1.1.1.1.1.1

theorem decide_probe {probe probe' : Probe} (h : (decide probe).probe? = some probe') : probe' = probe := by
  rcases decide_cases probe with hd | ⟨target,hd,-⟩
  · rw [hd] at h
    cases h
  · rw [hd] at h
    exact (Option.some.inj h).symm

/-- `status` never finds an outcome in a checkpoint: a terminal one has more keys than it accepts. -/
theorem snapshotStep_terminal (hs : s.Placed) {after : After} {thread : AgentWorkflowThread} {counts : StatusCounts}
    {probe : Probe} (h : (snapshotStep m after thread counts s).probe? = some probe) : probe.terminal = none := by
  unfold snapshotStep at h
  have hnothing : (decide ⟨after,thread,counts,false,none⟩).probe? = some probe → probe.terminal = none := by
    intro h
    rw [decide_probe h]
  cases hc : s.checkpoint with
  | none =>
    rw [hc] at h
    simp only at h
    repeat' split at h
    all_goals first | exact hnothing h | cases h
  | some c =>
    rw [hc] at h
    simp only at h
    split at h
    · exact hnothing h
    · split at h
      · cases h
      · split at h
        · exact hnothing h
        · split at h
          · exact hnothing h
          · next hvalid =>
            have hnone : (if c.interrupt.isSome = true then none else terminalPhase c.channels.phase) = none := by
              split
              · rfl
              · cases ht : terminalPhase c.channels.phase with
                | none => rfl
                | some status =>
                  have hsome := (hs c hc).phase (by rw [ht]; rfl)
                  rw [validateCheckpointState_status (by simpa using hvalid)] at hsome
                  cases hsome
            split at h
            · cases h
            · cases h
              exact hnone
            · cases h
              exact hnone
            · rw [decide_probe h]
              exact hnone

/-- The probe of a call carries no outcome. -/
theorem Moves.terminal (h : Moves settings actor m s pc pc' s') (hs : s.Placed)
    (hpc : ∀ probe, pc.probe? = some probe → probe.terminal = none) :
    ∀ probe, pc'.probe? = some probe → probe.terminal = none := by
  intro probe' hprobe
  cases h with
  | probes probe hw hr hd hp h =>
    rcases hp with hp | ⟨after,thread,counts,-,rfl⟩
    · have : probe' = probe := by
        rcases h with rfl | ⟨human,rfl⟩ | rfl | ⟨target,rfl,-⟩
        · cases hprobe
        · exact (Option.some.inj hprobe).symm
        · exact (Option.some.inj hprobe).symm
        · exact (Option.some.inj hprobe).symm
      rw [this]
      exact hpc probe hp
    · exact snapshotStep_terminal hs hprobe
  | rests => cases hprobe
  | _ => cases hprobe

/-- The status that a point commits. -/
def Pc.target : Pc → Option ThreadStatus
  | .initialWrite .. => some .checkpointPending
  | .finish _ target => some target
  | .fail _ _ status _ => some status
  | .reconcile _ target => some target
  | .resumeWrite _ => some .resuming
  | .cancelWrite _ => some .cancelled
  | _ => none

/-- A thread is completed by a run of the graph whose own count was settled. -/
theorem Pc.Placed.completes {counted : List (List ReviewItem)} (h : pc.Placed counted) (hc : pc.Checked)
    (hp : ∀ probe, pc.probe? = some probe → probe.terminal = none) (ht : pc.target = some .completed) :
    ∃ run, pc = .finish run .completed ∧ CountedSettled counted run.channels := by
  cases pc with
  | finish run target =>
    cases ht
    exact ⟨run,rfl,h rfl⟩
  | fail origin thread status code =>
    cases ht
    exact absurd (.inr (.inl rfl)) h
  | reconcile probe target =>
    cases ht
    rcases hc.2 with ht | ht
    · cases ht
    · rw [hp probe rfl] at ht
      cases ht
  | _ => cases ht

/-- The row changes by the commit of a status only. -/
theorem Moves.commits (h : Moves settings actor m s pc pc' s') :
    s'.rows.thread = s.rows.thread ∨ pc.target = some s'.rows.thread.status := by
  cases h with
  | opens | finishes | marks | reconciles | claims | cancelled => exact .inr rfl
  | raises e hw hk => exact .inl hk.thread
  | fails _ _ _ _ _ _ _ _ hk => exact .inl hk.thread
  | pauses _ _ hk => exact .inl hk.thread
  | works _ _ _ _ _ _ _ hk => exact .inl hk.thread
  | _ => exact .inl rfl

end completed

/-! ## Runs -/

/-- Calls and checkpoints say of the items only what was counted. -/
structure Honest (s : System) : Prop where
  frames : ∀ p frame, s.calls p = some frame → frame.pc.Placed s.shared.counted
  store : s.shared.Placed
  terminal : ∀ p frame, s.calls p = some frame → ∀ probe, frame.pc.probe? = some probe → probe.terminal = none

theorem Honest.next {settings : Settings} {s : System} (h : Honest s) (c : Command) : Honest (step settings s c) := by
  cases c with
  | begin p actor call =>
    simp only [step]
    split
    · refine ⟨fun q frame hq => ?_,h.store,fun q frame hq => ?_⟩
      · rcases update_calls hq with ⟨-,rfl⟩ | ⟨-,hq'⟩
        · cases call <;> trivial
        · exact h.frames q frame hq'
      · rcases update_calls hq with ⟨-,rfl⟩ | ⟨-,hq'⟩
        · cases call <;> simp [Call.entry,Pc.probe?]
        · exact h.terminal q frame hq'
    · exact h
  | step p m =>
    simp only [step]
    split
    · exact h
    · next frame hp =>
      have hm := stepCall_moves settings frame.actor m s.shared frame.pc
      obtain ⟨hpc,hstore⟩ := hm.placed (h.frames p frame hp) h.store
      refine ⟨fun q g hq => ?_,hstore,fun q g hq => ?_⟩
      · rcases update_calls hq with ⟨-,rfl⟩ | ⟨-,hq'⟩
        · exact hpc
        · exact (h.frames q g hq').mono hm.counted
      · rcases update_calls hq with ⟨-,rfl⟩ | ⟨-,hq'⟩
        · exact hm.terminal h.store (h.terminal p frame hp)
        · exact h.terminal q g hq'
  | crash p =>
    exact ⟨fun q frame hq => h.frames q frame (crash_calls hq).2,h.store,
      fun q frame hq => h.terminal q frame (crash_calls hq).2⟩
  | review items audits => exact ⟨h.frames,h.store,h.terminal⟩

def System.status (s : System) : ThreadStatus := s.shared.rows.thread.status

/-- Outcomes are final in the run: a final status stays; a cancel that was answered stays; every status is written over the
row it was decided on; no interrupt is acknowledged twice; and a thread is completed by a run of the graph whose count
left nothing to a human. -/
structure OutcomesFinal (settings : Settings) (s : System) (commands : List Command) : Prop where
  final : ∀ pre post, commands = pre++post → (run (step settings) s pre).status.Final →
    (run (step settings) s commands).status = (run (step settings) s pre).status
  cancelled : ∀ pre post, commands = pre++post → ∀ p frame view, (run (step settings) s pre).calls p = some frame →
    frame.call = .cancel → frame.pc = .done (.ok view) → (run (step settings) s commands).status = .cancelled
  decided : ∀ pre p m post, commands = pre++.step p m::post → ∀ frame, (run (step settings) s pre).calls p = some frame →
    frame.pc.writes = true → frame.pc.decidedOn = some ((run (step settings) s pre).status,
      (run (step settings) s pre).shared.rows.thread.stateVersion)
  acknowledged : (run (step settings) s commands).shared.acknowledged.Nodup
  completed : ∀ pre c post, commands = pre++c::post → (run (step settings) s pre).status ≠ .completed →
    (step settings (run (step settings) s pre) c).status = .completed → ∃ p m frame graphRun, c = .step p m ∧
      (run (step settings) s pre).calls p = some frame ∧ frame.pc = .finish graphRun .completed ∧
      CountedSettled (run (step settings) s pre).shared.counted graphRun.channels

/-- A final status is not written over. -/
theorem Coherent.final_step (settings : Settings) {s : System} (h : Coherent s) {c : Command} (hc : Uninterfered s c)
    (hfinal : s.status.Final) : (step settings s c).status = s.status := by
  cases c with
  | begin p actor call =>
    simp only [step]
    split <;> rfl
  | step p m =>
    simp only [step]
    split
    · rfl
    · next frame hp =>
      have hm := stepCall_moves settings frame.actor m s.shared frame.pc
      have hw : frame.pc.writes = false := by
        by_contra hw
        have hw : frame.pc.writes = true := by simpa using hw
        exact (Moves.writes_over hw (h.checked p frame hp) (h.grounded p frame hp (hc frame hp (.inl hw)))).1 hfinal
      exact congrArg AgentWorkflowThread.status (hm.thread_eq hw)
  | crash p => rfl
  | review items audits => rfl

theorem Coherent.final_run {settings : Settings} {s : System} (h : Coherent s) {commands : List Command}
    (hc : RunMeets (step settings) Uninterfered s commands) (hfinal : s.status.Final) :
    (run (step settings) s commands).status = s.status := by
  induction commands generalizing s with
  | nil => rfl
  | cons c commands ih =>
    have hstep := h.final_step settings hc.1 hfinal
    rw [run_cons,ih (h.next c hc.1) hc.2 (hstep ▸ hfinal),hstep]

theorem outcomes_final (settings : Settings) (thread : AgentWorkflowThread) (request : AgentWorkflowRequest)
    (evidencePermissions : List Text) (commands : List Command)
    (h : RunMeets (step settings) Uninterfered (initial thread request evidencePermissions) commands) :
    OutcomesFinal settings (initial thread request evidencePermissions) commands := by
  have hrun : ∀ cs, RunMeets (step settings) Uninterfered (initial thread request evidencePermissions) cs →
      Coherent (run (step settings) (initial thread request evidencePermissions) cs) := fun cs hcs =>
    run_invariant_of (fun s c hc hs => hs.next c hc) hcs (initial_coherent thread request evidencePermissions)
  have hhonest : ∀ cs, Honest (run (step settings) (initial thread request evidencePermissions) cs) := fun cs =>
    run_invariant (fun s c hs => hs.next c)
      ⟨by simp [initial],fun c hc => absurd hc (by simp [initial]),by simp [initial]⟩ cs
  have hafter : ∀ pre post, commands = pre++post →
      Coherent (run (step settings) (initial thread request evidencePermissions) pre) ∧
      ((run (step settings) (initial thread request evidencePermissions) pre).status.Final →
        (run (step settings) (initial thread request evidencePermissions) commands).status =
          (run (step settings) (initial thread request evidencePermissions) pre).status) := by
    rintro pre post rfl
    obtain ⟨hpre,hpost⟩ := RunMeets.append.mp h
    refine ⟨hrun pre hpre,fun hfinal => ?_⟩
    rw [run_append]
    exact (hrun pre hpre).final_run hpost hfinal
  constructor
  · exact fun pre post heq hfinal => (hafter pre post heq).2 hfinal
  · intro pre post heq p frame view hp hcall hpc
    obtain ⟨hco,hfinal⟩ := hafter pre post heq
    have hstatus := hco.cancelled p frame hp hcall (by rw [hpc]; rfl)
    rw [hfinal (.inl hstatus)]
    exact hstatus
  · rintro pre p m post rfl frame hp hw
    obtain ⟨hpre,hpost⟩ := RunMeets.append.mp h
    have hco := hrun pre hpre
    exact (Moves.writes_over hw (hco.checked p frame hp) (hco.grounded p frame hp (hpost.1 frame hp (.inl hw)))).2
  · exact (hrun commands h).once
  · rintro pre c post rfl hbefore hstep
    obtain ⟨hpre,-⟩ := RunMeets.append.mp h
    have hco := hrun pre hpre
    have hho := hhonest pre
    cases c with
    | begin p actor call =>
      simp only [step] at hstep
      split at hstep <;> exact absurd hstep hbefore
    | step p m =>
      simp only [step] at hstep
      split at hstep
      · exact absurd hstep hbefore
      · next frame hp =>
        have hm := stepCall_moves settings frame.actor m
          (run (step settings) (initial thread request evidencePermissions) pre).shared frame.pc
        rcases hm.commits with hkeep | htarget
        · exact absurd ((congrArg AgentWorkflowThread.status hkeep).symm.trans hstep) hbefore
        · obtain ⟨graphRun,hpc,hsettled⟩ := (hho.frames p frame hp).completes (hco.checked p frame hp)
            (hho.terminal p frame hp) (htarget.trans (congrArg some hstep))
          exact ⟨p,m,frame,graphRun,rfl,hp,hpc,hsettled⟩
    | crash p => exact absurd hstep hbefore
    | review items audits => exact absurd hstep hbefore

/-! ## A sample thread -/

def sampleThread : AgentWorkflowThread where
  threadId := text "thread"
  workflowName := companyMemoryReviewWorkflow
  graphVersion := graphVersionV21
  checkpointThreadId := text "v21"
  checkpointStore := text "memory"
  ownerSubjectId := text "owner"
  securityScopeId := text "default"
  inputHash := List.replicate 64 (ofChar 'a')
  evidenceVersionHash := List.replicate 64 (ofChar 'b')
  status := .created
  stateVersion := 7
  checkpointConfirmedAt := none
  cancelledAt := none
  cancelledBySubjectId := none
  createdAt := 0
  updatedAt := 0
  completedAt := none

def sampleRequest : AgentWorkflowRequest where
  agentNames := [text "history_agent"]
  autoReviewMode := some (text "enforce")
  autoReviewPolicyVersion := some (text "auto-review-policy:v1")
  autoReviewEnforcePercentage := some 10

def sampleSettings : Settings where
  agentRuntimeSecurityScopeId := text "default"
  agentRegistry := [text "history_agent"]

def sampleOwner : DemoUser where
  id := text "owner"
  role := text "developer"
  permissionLevels := [text "public",text "internal"]

/-- Extraction drafts one item, and auto review leaves it to a human. -/
def sampleMoment : Moment where
  now := 1
  ready := true
  checkpointStore := text "memory"
  registered := true
  saverFails := false
  permissionResolver := none
  coordinator := .ok [{ id := 1, status := some .pendingReview, permissionLevel := text "internal" }]

def sampleSteps (p n : Nat) : List Command := List.replicate n (.step p sampleMoment)

def sampleInitial : System := initial sampleThread sampleRequest [text "internal"]

/-- A start whose graph run has just been opened, and a cancel that is answered meanwhile. -/
def cancelMeanwhile : List Command :=
  .begin 0 sampleOwner .start::(sampleSteps 0 5++.begin 1 sampleOwner .cancel::sampleSteps 1 5)

def Frame.answered (frame : Frame) : Bool :=
  match frame.pc with
  | .done (.ok _) => true
  | _ => false

theorem Frame.answered_iff {frame : Frame} (h : frame.answered = true) : ∃ view, frame.pc = .done (.ok view) := by
  unfold Frame.answered at h
  split at h
  · next view hpc => exact ⟨view,hpc⟩
  · cases h

/-- The start goes on and writes the status of its interrupt over the cancelled row. -/
theorem cancel_undone : ¬OutcomesFinal sampleSettings sampleInitial (cancelMeanwhile++sampleSteps 0 18) := by
  intro h
  have hanswered : ((run (step sampleSettings) sampleInitial cancelMeanwhile).calls 1).any
      (fun frame => frame.call = .cancel && frame.answered) = true := by decide +kernel
  obtain ⟨frame,hp,hframe⟩ := Option.any_eq_true _ _ |>.mp hanswered
  rw [Bool.and_eq_true,decide_eq_true_eq] at hframe
  obtain ⟨view,hpc⟩ := Frame.answered_iff hframe.2
  have hcancelled := h.cancelled _ _ rfl 1 frame view hp hframe.1 hpc
  have hawaiting : (run (step sampleSettings) sampleInitial (cancelMeanwhile++sampleSteps 0 18)).status =
      .awaitingHumanReview := by decide +kernel
  rw [hawaiting] at hcancelled
  cases hcancelled

instance (s : System) (c : Command) : Decidable (Uninterfered s c) :=
  match c with
  | .step p _ => decidable_of_iff
      ((s.calls p).all fun frame => !(frame.pc.writes || frame.pc.persists) || s.fresh p) (by
        simp only [Uninterfered,Option.all_eq_true]
        simp [Bool.or_eq_true,imp_iff_not_or])
  | .begin .. => isTrue trivial
  | .crash _ => isTrue trivial
  | .review .. => isTrue trivial

theorem outcomes_final_sample : OutcomesFinal sampleSettings sampleInitial
    (.begin 0 sampleOwner .start::sampleSteps 0 27++.begin 0 sampleOwner .cancel::sampleSteps 0 5) :=
  outcomes_final _ _ _ _ _ (by decide +kernel)

end ParaWorks.Workflow
