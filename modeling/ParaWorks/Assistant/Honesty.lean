import ParaWorks.Assistant.Invocation

/-!
# Honest deliveries

What a reported delivery says about the committed rows.
-/

namespace ParaWorks.Assistant

open Lib

/-! ## Finalizers -/

/-- The message and its parent run are committed and linked, the parent final. -/
def Database.Committed (db : Database) (messageId runId : Int) : Prop :=
  (∃ m ∈ db.messages, m.id = messageId ∧ m.linkedAgentRunId = some runId) ∧
  ∃ run ∈ db.runs, run.id = runId ∧ run.runRecordPhase = .final

/-- The run is failed and final and has no message. -/
def Database.FailedWithoutMessage (db : Database) (runId : Int) : Prop :=
  (∃ run ∈ db.runs, run.id = runId ∧ run.status = .failed ∧ run.runRecordPhase = .final) ∧ db.linked runId = false

/-- What a finalizer commits and reports; `added` are the runs that it mints. -/
inductive Finalized (db : Database) (added : List AgentRun) : Database → AssistantDeliveryResult → Prop
  | unknown (r : AssistantDeliveryResult) (hstate : r.deliveryState = .commitUnknown) : Finalized db added db r
  | notPersisted (r : AssistantDeliveryResult) (hstate : r.deliveryState = .notPersisted) (hadded : added ≠ []) :
      Finalized db added db r
  | runFailure (r : AssistantDeliveryResult) (runId : Int) (hstate : r.deliveryState = .committedRunFailure)
      (hparent : r.parentAgentRunId = some runId) (hfailed : db.FailedWithoutMessage runId) : Finalized db added db r
  | appended (r : AssistantDeliveryResult) (parent : AgentRun) (message : AssistantMessage)
      (hparent : parent ∈ db.runs++added) (hfinal : parent.runRecordPhase = .final)
      (hunlinked : db.linked parent.id = false) (hlink : message.linkedAgentRunId = some parent.id)
      (hresult : r.deliveryState = .commitUnknown ∨
        (r.deliveryState = .committedSuccess ∨ r.deliveryState = .committedSafeFailure) ∧
        r.assistantMessageId = some message.id ∧ r.parentAgentRunId = some parent.id) :
      Finalized db added ⟨db.runs++added,db.messages++[message],db.conversations⟩ r

variable {env : FinalizerEnvironment} {db : Database} {target : AssistantProjectionTarget}
  {outcome : ApplicationOutcome}

theorem run_mem {parent : AgentRun} {id : Int} (h : db.run id = some parent) : parent ∈ db.runs ∧ parent.id = id := by
  have hid := List.find?_some h
  exact ⟨List.mem_of_find?_eq_some h,by simpa using hid⟩

theorem commit_finalized (fault : Option SessionFault) (outcome : ApplicationOutcome) (message : AssistantMessage)
    {added : List AgentRun} {parent : AgentRun} (hparent : parent ∈ db.runs++added) (hfinal : parent.runRecordPhase = .final)
    (hunlinked : db.linked parent.id = false) (hlink : message.linkedAgentRunId = some parent.id) :
    let delivered := commit fault db ⟨db.runs++added,db.messages++[message],db.conversations⟩
      ⟨message.id,parent.id,outcome⟩
    ∃ r, delivered.2 = some r ∧ Finalized db added delivered.1 r := by
  obtain ⟨unknown,hunknown,hstate⟩ := assistantUnknown_some
  have hdurable : Finalized db added ⟨db.runs++added,db.messages++[message],db.conversations⟩ unknown :=
    .appended unknown parent message hparent hfinal hunlinked hlink (.inl hstate)
  unfold commit
  cases fault with
  | none =>
    dsimp only
    cases hcommitted : assistantCommitted ⟨message.id,parent.id,outcome⟩ with
    | none => exact ⟨unknown,hunknown,hdurable⟩
    | some r =>
      refine ⟨r,rfl,.appended r parent message hparent hfinal hunlinked hlink (.inr ?_)⟩
      exact assistantCommitted_fields hcommitted
  | some fault =>
    cases fault with
    | commitLost => exact ⟨unknown,hunknown,.unknown unknown hstate⟩
    | beforeCommit => exact ⟨unknown,hunknown,hdurable⟩
    | commitDurable => exact ⟨unknown,hunknown,hdurable⟩
    | close => exact ⟨unknown,hunknown,hdurable⟩

/-- An appended failure message is linked to a failed final parent that had none. -/
theorem appendAssistantTerminalFailure_some {parent : AgentRun} {scope : String} {backend : Option String}
    {flushed : Database} {record : AssistantFinalizationRecord}
    (h : appendAssistantTerminalFailure db parent target outcome scope backend = some (flushed,record)) :
    parent.runRecordPhase = .final ∧ db.linked parent.id = false ∧
    flushed = { db with messages := db.messages++
      [⟨db.nextMessageId,.assistant,target.conversationId,some parent.id⟩] } ∧
    record = ⟨db.nextMessageId,parent.id,outcome⟩ := by
  unfold appendAssistantTerminalFailure at h
  split at h
  · next hallowed =>
    have hchecks := of_decide_eq_true hallowed
    cases h
    exact ⟨hchecks.2.2.2.1,hchecks.2.2.2.2.1,rfl,rfl⟩
  · exact absurd h (by simp)

theorem preDispatchFinalize_finalized (env : FinalizerEnvironment) (db : Database) (target : AssistantProjectionTarget)
    (outcome : ApplicationOutcome) :
    let delivered := preDispatchFinalize env db target outcome
    ∃ r, delivered.2 = some r ∧ Finalized db [preDispatchParent env db outcome] delivered.1 r := by
  obtain ⟨refused,hrefused,hstate⟩ := notPersisted_some
  unfold preDispatchFinalize
  dsimp only
  split
  · exact ⟨refused,hrefused,.notPersisted refused hstate (by simp)⟩
  · cases happend : appendAssistantTerminalFailure
        { db with runs := db.runs++[preDispatchParent env db outcome] } (preDispatchParent env db outcome) target
        outcome env.securityScope none with
    | none => exact ⟨refused,hrefused,.notPersisted refused hstate (by simp)⟩
    | some flushed =>
      obtain ⟨flushed,record⟩ := flushed
      obtain ⟨hfinal,hunlinked,rfl,rfl⟩ := appendAssistantTerminalFailure_some happend
      exact commit_finalized _ _ _ (List.mem_append_right _ (List.mem_singleton_self _)) hfinal hunlinked rfl

theorem recoverFailedParent_finalized (env : FinalizerEnvironment) (db : Database) (parentId : Int) (added : List AgentRun) :
    ∃ r, recoverFailedParent env db parentId = some r ∧ Finalized db added db r := by
  obtain ⟨unknown,hunknown,hstate⟩ := assistantUnknown_some
  unfold recoverFailedParent
  cases hrun : db.run parentId with
  | none => exact ⟨unknown,hunknown,.unknown unknown hstate⟩
  | some parent =>
    dsimp only
    split
    · next h =>
      cases hfailure : committedRunFailure parentId with
      | none => exact ⟨unknown,hunknown,.unknown unknown hstate⟩
      | some r =>
        obtain ⟨hmem,hid⟩ := run_mem hrun
        have hfields := AssistantDeliveryResult.new_fields hfailure
        refine ⟨r,rfl,.runFailure r parentId (by rw [hfields]) (by rw [hfields]) ⟨⟨parent,hmem,hid,h.2.1,h.2.2.1⟩,?_⟩⟩
        exact h.2.2.2
    · exact ⟨unknown,hunknown,.unknown unknown hstate⟩

theorem finalizeAssistantFailedParent_finalized (env : FinalizerEnvironment) (db : Database)
    (target : AssistantProjectionTarget) (parentId : Int) (outcome : ApplicationOutcome) (backend : Option String) :
    let delivered := finalizeAssistantFailedParent env db target parentId outcome backend
    ∃ r, delivered.2 = some r ∧ Finalized db [] delivered.1 r ∧
      (delivered.1 = db ∨ db.linked parentId = false) := by
  obtain ⟨unknown,hunknown,hstate⟩ := assistantUnknown_some
  obtain ⟨recovered,hrecovered,hfinalized⟩ := recoverFailedParent_finalized env db parentId []
  unfold finalizeAssistantFailedParent
  split
  · exact ⟨recovered,hrecovered,hfinalized,.inl rfl⟩
  · cases hrun : (db.run parentId).filter (failedParent · outcome) with
    | none =>
      dsimp only
      split
      · exact ⟨recovered,hrecovered,hfinalized,.inl rfl⟩
      · exact ⟨unknown,hunknown,.unknown unknown hstate,.inl rfl⟩
    | some parent =>
      dsimp only
      obtain ⟨hmem,hid⟩ := run_mem (Option.filter_eq_some_iff.mp hrun).1
      cases happend : appendAssistantTerminalFailure db parent target outcome env.securityScope backend with
      | none => exact ⟨recovered,hrecovered,hfinalized,.inl rfl⟩
      | some flushed =>
        obtain ⟨flushed,record⟩ := flushed
        obtain ⟨hfinal,hunlinked,rfl,rfl⟩ := appendAssistantTerminalFailure_some happend
        have hmem' : parent ∈ db.runs++[] := by simpa using hmem
        have := commit_finalized env.fault outcome
          ⟨db.nextMessageId,.assistant,target.conversationId,some parent.id⟩ hmem' hfinal hunlinked rfl
        rw [List.append_nil] at this
        obtain ⟨r,hr,hcommit⟩ := this
        exact ⟨r,hr,hcommit,.inr (hid ▸ hunlinked)⟩

theorem assistantFailedParentDelivery_finalized (env : FinalizerEnvironment) (db : Database)
    (target : AssistantProjectionTarget) (parentId : RunIdValue) (added : List AgentRun) :
    ∃ r, assistantFailedParentDelivery env db parentId target = some r ∧ Finalized db added db r := by
  obtain ⟨unknown,hunknown,hstate⟩ := assistantUnknown_some
  unfold assistantFailedParentDelivery
  cases parentId with
  | missing => exact ⟨unknown,hunknown,.unknown unknown hstate⟩
  | other => exact ⟨unknown,hunknown,.unknown unknown hstate⟩
  | int id =>
    dsimp only
    cases hrun : db.run id with
    | none => exact ⟨unknown,hunknown,.unknown unknown hstate⟩
    | some parent =>
      dsimp only
      split
      · next h =>
        cases hfailure : committedRunFailure id with
        | none => exact ⟨unknown,hunknown,.unknown unknown hstate⟩
        | some r =>
          obtain ⟨hmem,hid⟩ := run_mem hrun
          have hfields := AssistantDeliveryResult.new_fields hfailure
          obtain ⟨-,-,hstatus,-,hphase,-,hunlinked,-⟩ := h
          exact ⟨r,rfl,.runFailure r id (by rw [hfields]) (by rw [hfields]) ⟨⟨parent,hmem,hid,hstatus,hphase⟩,hunlinked⟩⟩
      · exact ⟨unknown,hunknown,.unknown unknown hstate⟩

/-! ## The request -/

/-- After `begin_admission` no failure is recorded and no early phase comes back. -/
def Invocation.Fenced (s : Invocation) : Prop :=
  s.admitted = true → s.execution.preclaimFailure = none ∧
    s.execution.phase ∈ [.admissionStarted,.graphFailed,.graphReturned,.requestExited]

theorem Invocation.Fenced.of_not_admitted {s : Invocation} (h : s.admitted = false) : s.Fenced :=
  fun hadmitted => absurd hadmitted (by simp [h])

theorem Invocation.Fenced.later {s : Invocation} (h : s.Fenced) {phase : Phase}
    (hphase : phase ∈ [Phase.admissionStarted,.graphFailed,.graphReturned,.requestExited]) :
    (s.setPhase phase).Fenced :=
  fun hadmitted => ⟨(h hadmitted).1,hphase⟩

theorem Invocation.Fenced.record {s : Invocation} (h : s.Fenced) (failure : PyException) :
    (s.record failure).Fenced := by
  intro hadmitted
  obtain ⟨hnone,hphase⟩ := h hadmitted
  have hlate : s.execution.phase ∉ [Phase.preflight,.factoryPreclaim,.graphPreclaim] := by
    intro hearly
    generalize s.execution.phase = phase at hphase hearly
    revert hphase hearly
    cases phase <;> decide
  have hsame : s.execution.recordPreclaimFailure failure = s.execution := if_neg hlate
  exact ⟨by rw [Invocation.record,hsame]; exact hnone,by rw [Invocation.record,hsame]; exact hphase⟩

theorem Invocation.Fenced.graphEffect {s : Invocation} (h : s.Fenced) (effect : GraphEffect) :
    (s.graphEffect effect).Fenced := by
  cases effect with
  | db effect => exact h
  | beginAdmission => exact fun _ => ⟨rfl,List.mem_cons_self⟩

theorem Invocation.Fenced.graphEffects {s : Invocation} (h : s.Fenced) (effects : List GraphEffect) :
    (effects.foldl Invocation.graphEffect s).Fenced := by
  induction effects generalizing s with
  | nil => exact h
  | cons effect effects ih => exact ih (h.graphEffect effect)

theorem graphBody_fenced {request : Request} {typed : Bool} {s : Invocation} (h : s.admitted = false) :
    (graphBody request typed s).1.Fenced := by
  unfold graphBody
  split
  · exact .of_not_admitted h
  · have hstart : (s.setPhase .graphPreclaim).Fenced := .of_not_admitted h
    have hgraph := hstart.graphEffects request.graph.effects
    dsimp only
    split
    · next failure _ => exact (hgraph.record failure).later (by decide)
    · exact hgraph.later (by decide)

theorem leaveRequest_fenced {request : Request} {body : Invocation × Option PyException × Option GraphReturn}
    (h : body.1.Fenced) : (leaveRequest request body).1.Fenced := by
  obtain ⟨s,pending,result⟩ := body
  unfold leaveRequest
  dsimp only
  have hcommit : (s.commit (request.services.exit pending).1).Fenced := h
  split
  · exact hcommit.record _
  · exact hcommit.later (by decide)
  · exact hcommit.later (by decide)

theorem invokeGraph_fenced {request : Request} {s : Invocation} (h : s.admitted = false) :
    (invokeGraph request s).1.Fenced := by
  unfold invokeGraph
  dsimp only
  split
  · exact .of_not_admitted h
  · exact .of_not_admitted h
  · split
    · exact .of_not_admitted h
    · exact .of_not_admitted h
    · split
      · exact .of_not_admitted h
      · split
        · exact .of_not_admitted h
        · exact leaveRequest_fenced (graphBody_fenced h)

/-- A recorded failure or the preflight phase shows that admission was not started. -/
theorem Invocation.Fenced.not_admitted {s : Invocation} (h : s.Fenced)
    (hearly : (∃ failure, s.execution.recorded failure = true) ∨ s.execution.phase = .preflight) :
    s.admitted = false := by
  by_contra hadmitted
  obtain ⟨hnone,hphase⟩ := h (by simpa using hadmitted)
  rcases hearly with ⟨failure,hrecorded⟩ | hpreflight
  · rw [AssistantExecutionDisposition.recorded,hnone] at hrecorded
    exact absurd hrecorded (by simp)
  · rw [hpreflight] at hphase
    exact absurd hphase (by decide)

/-! ## The invocation -/

/-- The state of an invocation before its request. -/
def unstarted (db : Database) : Invocation := ⟨db,⟨.unproven,none⟩,false⟩

/-- How an invocation ends: by a finalizer, or with a record that the graph returned. -/
inductive Delivered (request : Request) (db : Database) : Delivery → Prop
  | finalized (s : Invocation) (db' : Database) (r : AssistantDeliveryResult) (added : List AgentRun)
      (hadded : added = [] ∨ s.admitted = false ∧ ∃ run, added = [run]) (hfinalized : Finalized s.db added db' r)
      (hrequest : s = unstarted db ∨ s = (invokeGraph request (unstarted db)).1)
      (hparent : db' = s.db ∨ s.admitted = false ∨ ∃ output runId,
        (invokeGraph request (unstarted db)).2 = .ok (.mapping output) ∧ output.assistantFinalization = none ∧
        output.runId = .int runId ∧ s.db.linked runId = false) : Delivered request db ⟨s,db',some r⟩
  | returned (output : GraphOutput) (record : AssistantFinalizationRecord) (r : AssistantDeliveryResult)
      (houtput : (invokeGraph request (unstarted db)).2 = .ok (.mapping output))
      (hrecord : output.assistantFinalization = some record) (hresult : assistantCommitted record = some r) :
      Delivered request db ⟨(invokeGraph request (unstarted db)).1,(invokeGraph request (unstarted db)).1.db,some r⟩

theorem handleFailure_delivered {request : Request} {failure : PyException} :
    Delivered request db (handleFailure env target (invokeGraph request (unstarted db)).1 failure) := by
  have hfenced : (invokeGraph request (unstarted db)).1.Fenced := invokeGraph_fenced rfl
  generalize hs : (invokeGraph request (unstarted db)).1 = s at hfenced
  have hunknown : Delivered request db ⟨s,s.db,assistantUnknown⟩ := by
    obtain ⟨r,hr,hstate⟩ := assistantUnknown_some
    rw [hr]
    exact .finalized s s.db r [] (.inl rfl) (.unknown r hstate) (.inr hs.symm) (.inl rfl)
  unfold handleFailure
  split
  · next runId _ =>
    obtain ⟨r,hr,hfinalized⟩ := assistantFailedParentDelivery_finalized env s.db target runId []
    rw [hr]
    exact .finalized s s.db r [] (.inl rfl) hfinalized (.inr hs.symm) (.inl rfl)
  · split
    · exact hunknown
    · next outcome _ =>
      split
      · next hrecorded =>
        have hadmitted := hfenced.not_admitted (.inl ⟨failure,hrecorded⟩)
        obtain ⟨r,hr,hfinalized⟩ := preDispatchFinalize_finalized env s.db target outcome
        dsimp only
        rw [hr]
        exact .finalized s _ r _ (.inr ⟨hadmitted,_,rfl⟩) hfinalized (.inr hs.symm) (.inr (.inl hadmitted))
      · exact hunknown

theorem handleOutput_delivered {request : Request} {output : GraphOutput}
    (houtput : (invokeGraph request (unstarted db)).2 = .ok (.mapping output)) :
    Delivered request db (handleOutput env target (invokeGraph request (unstarted db)).1 output) := by
  have hfenced : (invokeGraph request (unstarted db)).1.Fenced := invokeGraph_fenced rfl
  unfold handleOutput
  split
  · next record hrecord =>
    split
    · next r hresult => exact .returned output record r houtput hrecord hresult
    · exact handleFailure_delivered
  · next hrecord =>
    split
    · next runId outcome hrun _ =>
      obtain ⟨r,hr,hfinalized,hlinked⟩ := finalizeAssistantFailedParent_finalized env
        (invokeGraph request (unstarted db)).1.db target runId outcome output.effectiveBackend
      dsimp only
      rw [hr]
      refine .finalized _ _ r [] (.inl rfl) hfinalized (.inr rfl) ?_
      exact hlinked.imp id fun hlinked => .inr ⟨output,runId,houtput,hrecord,hrun,hlinked⟩
    · split
      · next hpreflight =>
        have hadmitted := hfenced.not_admitted (.inr hpreflight.2.1)
        obtain ⟨r,hr,hfinalized⟩ := preDispatchFinalize_finalized env (invokeGraph request (unstarted db)).1.db target
          .budgetExceeded
        dsimp only
        rw [hr]
        exact .finalized _ _ r _ (.inr ⟨hadmitted,_,rfl⟩) hfinalized (.inr rfl) (.inr (.inl hadmitted))
      · obtain ⟨r,hr,hstate⟩ := assistantUnknown_some
        rw [hr]
        exact .finalized _ _ r [] (.inl rfl) (.unknown r hstate) (.inr rfl) (.inl rfl)

theorem invokeAssistant_delivered (env : FinalizerEnvironment) (target : AssistantProjectionTarget) (request : Request)
    (ingress : Bool) (db : Database) : Delivered request db (invokeAssistant env target request ingress db) := by
  unfold invokeAssistant
  dsimp only
  split
  · obtain ⟨r,hr,hstate⟩ := assistantUnknown_some
    rw [hr]
    exact .finalized (unstarted db) db r [] (.inl rfl) (.unknown r hstate) (.inl rfl) (.inl rfl)
  · have houtput : ∀ s returned, invokeGraph request (unstarted db) = (s,returned) →
        (invokeGraph request (unstarted db)).1 = s ∧ (invokeGraph request (unstarted db)).2 = returned := by
      intro s returned h
      rw [h]
      exact ⟨rfl,rfl⟩
    split
    · next s output h =>
      obtain ⟨rfl,hreturned⟩ := houtput _ _ h
      exact handleOutput_delivered hreturned
    · next s failure h =>
      obtain ⟨rfl,-⟩ := houtput _ _ h
      exact handleFailure_delivered
    · next s failure h =>
      obtain ⟨rfl,-⟩ := houtput _ _ h
      exact handleFailure_delivered

/-! ## Deliveries -/

/-- The runs that an invocation added. -/
def newRuns (db db' : Database) : List AgentRun := db'.runs.filter (·.id ∉ db.runs.map (·.id))

/-- The assistant messages that an invocation added. -/
def newMessages (db db' : Database) : List AssistantMessage :=
  db'.messages.filter fun m => m.role = .assistant ∧ m.id ∉ db.messages.map (·.id)

/-- The factory and the graph commit one run and its message, only after admission, and the graph returns what was
committed. -/
structure HonestRequest (request : Request) (db : Database) : Prop where
  admission : (invokeGraph request (unstarted db)).1.admitted = false → (invokeGraph request (unstarted db)).1.db = db
  run : (newRuns db (invokeGraph request (unstarted db)).1.db).length ≤ 1
  message : (newMessages db (invokeGraph request (unstarted db)).1.db).length ≤ 1
  record : ∀ output record, (invokeGraph request (unstarted db)).2 = .ok (.mapping output) →
    output.assistantFinalization = some record →
    (invokeGraph request (unstarted db)).1.db.Committed record.assistantMessageId record.parentAgentRunId
  runId : ∀ output runId, (invokeGraph request (unstarted db)).2 = .ok (.mapping output) →
    output.assistantFinalization = none → output.runId = .int runId →
    ∀ m ∈ newMessages db (invokeGraph request (unstarted db)).1.db, m.linkedAgentRunId = some runId

theorem newRuns_self : newRuns db db = [] := by
  apply List.filter_eq_nil_iff.mpr
  intro run hrun
  simpa using ⟨run,hrun,rfl⟩

theorem newMessages_self : newMessages db db = [] := by
  apply List.filter_eq_nil_iff.mpr
  intro m hm
  simpa using fun _ => ⟨m,hm,rfl⟩

theorem newRuns_append {db' : Database} {added : List AgentRun} {messages : List AssistantMessage}
    {conversations : List (Int × String)} :
    (newRuns db ⟨db'.runs++added,messages,conversations⟩).length ≤ (newRuns db db').length+added.length := by
  rw [newRuns,newRuns,List.filter_append,List.length_append]
  exact Nat.add_le_add_left (List.length_filter_le ..) _

theorem newMessages_append {db' : Database} {runs : List AgentRun} {message : AssistantMessage}
    {conversations : List (Int × String)} :
    (newMessages db ⟨runs,db'.messages++[message],conversations⟩).length ≤ (newMessages db db').length+1 := by
  rw [newMessages,newMessages,List.filter_append,List.length_append]
  exact Nat.add_le_add_left (List.length_filter_le _ [message]) _

/-- A run that the request's new messages are linked to, but that has no message: there are no new messages. -/
theorem no_newMessages {db' : Database} {runId : Int}
    (hlinked : ∀ m ∈ newMessages db db', m.linkedAgentRunId = some runId) (hnone : db'.linked runId = false) :
    newMessages db db' = [] := by
  by_contra hsome
  obtain ⟨m,hm⟩ := List.exists_mem_of_ne_nil _ hsome
  have hlink : db'.linked runId = true :=
    List.any_eq_true.mpr ⟨m,List.mem_of_mem_filter hm,by simpa using hlinked m hm⟩
  rw [hnone] at hlink
  exact absurd hlink (by simp)

/-- The call returns, mints a run only without admission and reports a run failure truthfully; an honest request is
delivered once and reported truthfully. -/
theorem invokeAssistant_honest (env : FinalizerEnvironment) (target : AssistantProjectionTarget) (request : Request)
    (ingress : Bool) (db : Database) :
    let d := invokeAssistant env target request ingress db
    ∃ r, d.result = some r ∧
      ((∃ run ∈ d.db.runs, run ∉ d.request.db.runs) → d.request.admitted = false) ∧
      (r.deliveryState = .committedRunFailure →
        ∃ runId, r.parentAgentRunId = some runId ∧ d.db.FailedWithoutMessage runId) ∧
      (HonestRequest request db →
        (newRuns db d.db).length ≤ 1 ∧ (newMessages db d.db).length ≤ 1 ∧
        (r.deliveryState = .committedSuccess ∨ r.deliveryState = .committedSafeFailure →
          ∃ messageId runId, r.assistantMessageId = some messageId ∧ r.parentAgentRunId = some runId ∧
            d.db.Committed messageId runId) ∧
        (r.deliveryState = .notPersisted → d.db = db)) := by
  intro d
  have hdelivered : Delivered request db d := invokeAssistant_delivered env target request ingress db
  clear_value d
  cases hdelivered with
  | returned output record r houtput hrecord hresult =>
    obtain ⟨hstate,hmessage,hrun⟩ := assistantCommitted_fields hresult
    refine ⟨r,rfl,?_,?_,?_⟩
    · rintro ⟨run,hnew,hold⟩
      exact absurd hnew hold
    · intro hfailure
      rw [hfailure] at hstate
      exact absurd hstate (by decide)
    · intro honest
      refine ⟨honest.run,honest.message,?_,?_⟩
      · exact fun _ => ⟨_,_,hmessage,hrun,honest.record output record houtput hrecord⟩
      · intro hnothing
        rw [hnothing] at hstate
        exact absurd hstate (by decide)
  | finalized s db' r added hadded hfinalized hrequest hparent =>
    have hbefore : HonestRequest request db → (s.admitted = false → s.db = db) ∧
        (newRuns db s.db).length ≤ 1 ∧ (newMessages db s.db).length ≤ 1 := by
      intro honest
      rcases hrequest with rfl | rfl
      · exact ⟨fun _ => rfl,by simp [unstarted,newRuns_self],by simp [unstarted,newMessages_self]⟩
      · exact ⟨honest.admission,honest.run,honest.message⟩
    refine ⟨r,rfl,?_,?_,?_⟩
    · rintro ⟨run,hnew,hold⟩
      rcases hadded with rfl | ⟨hadmitted,-⟩
      · cases hfinalized with
        | appended => exact absurd (by simpa using hnew) hold
        | unknown => exact absurd hnew hold
        | notPersisted => exact absurd hnew hold
        | runFailure => exact absurd hnew hold
      · exact hadmitted
    · intro hfailure
      cases hfinalized with
      | runFailure _ runId _ hrun hfailed => exact ⟨runId,hrun,hfailed⟩
      | unknown _ hstate => exact absurd (hstate.symm.trans hfailure) (by decide)
      | notPersisted _ hstate => exact absurd (hstate.symm.trans hfailure) (by decide)
      | appended _ _ _ _ _ _ _ hstate =>
        rw [hfailure] at hstate
        exact absurd hstate (by simp)
    · intro honest
      obtain ⟨hadmission,hruns,hmessages⟩ := hbefore honest
      cases hfinalized with
      | unknown _ hstate =>
        exact ⟨hruns,hmessages,fun h => absurd h (by simp [hstate]),fun h => absurd h (by simp [hstate])⟩
      | runFailure _ _ hstate =>
        exact ⟨hruns,hmessages,fun h => absurd h (by simp [hstate]),fun h => absurd h (by simp [hstate])⟩
      | notPersisted _ hstate hminted =>
        obtain ⟨hadmitted,-⟩ := hadded.resolve_left hminted
        exact ⟨hruns,hmessages,fun h => absurd h (by simp [hstate]),fun _ => hadmission hadmitted⟩
      | appended _ parent message hmem hfinal hunlinked hlink hstate =>
        have hdistinct : (⟨s.db.runs++added,s.db.messages++[message],s.db.conversations⟩ : Database) ≠ s.db := by
          intro heq
          have := congrArg (fun db : Database => db.messages.length) heq
          simp at this
        refine ⟨?_,?_,?_,?_⟩
        · apply newRuns_append.trans
          rcases hadded with rfl | ⟨hadmitted,run,rfl⟩
          · simpa using hruns
          · rw [hadmission hadmitted,newRuns_self]
            simp
        · have hnone : newMessages db s.db = [] := by
            rcases hparent.resolve_left hdistinct with hadmitted | ⟨output,runId,houtput,hrecord,hrun,hnolink⟩
            · rw [hadmission hadmitted]
              exact newMessages_self
            · rcases hrequest with rfl | rfl
              · exact newMessages_self
              · exact no_newMessages (honest.runId output runId houtput hrecord hrun) hnolink
          apply newMessages_append.trans
          rw [hnone]
          simp
        · intro hcommitted
          rcases hstate with hstate | ⟨-,hmessage,hrun⟩
          · exact absurd hcommitted (by simp [hstate])
          · exact ⟨_,_,hmessage,hrun,⟨message,List.mem_append_right _ (List.mem_singleton_self _),rfl,hlink⟩,
              parent,hmem,rfl,hfinal⟩
        · intro hnothing
          rw [hnothing] at hstate
          exact absurd hstate (by simp)

/-- A request that admits, commits a final run with its message and returns their record. -/
def committingRequest : Request where
  owner := .ok true
  ingress := .ok true
  unresolved := none
  services := ⟨[],.ok true,fun _ => ([],.pass)⟩
  graph := ⟨[.beginAdmission,
    .db (.run ⟨3,.complete,.final,true,true,some .supported,[none,none,none],none,none,none,[]⟩),
    .db (.message ⟨7,.assistant,1,some 3⟩)],
    .ok (.mapping ⟨some ⟨7,3,.supported⟩,some .supported,.int 3,some "pgvector"⟩)⟩

/-- Its success names the committed rows. -/
theorem committingRequest_reported : ∃ r,
    (invokeAssistant ⟨none,true,"keyword",""⟩ ⟨1,1,"u1"⟩ committingRequest true
      ⟨[],[⟨1,.user,1,none⟩],[(1,"u1")]⟩).result = some r ∧ r.deliveryState = .committedSuccess ∧
    ∃ messageId runId, r.assistantMessageId = some messageId ∧ r.parentAgentRunId = some runId ∧
      (invokeAssistant ⟨none,true,"keyword",""⟩ ⟨1,1,"u1"⟩ committingRequest true
        ⟨[],[⟨1,.user,1,none⟩],[(1,"u1")]⟩).db.Committed messageId runId := by
  obtain ⟨r,hr,-,-,hhonest⟩ := invokeAssistant_honest ⟨none,true,"keyword",""⟩ ⟨1,1,"u1"⟩ committingRequest true
    ⟨[],[⟨1,.user,1,none⟩],[(1,"u1")]⟩
  have honest : HonestRequest committingRequest ⟨[],[⟨1,.user,1,none⟩],[(1,"u1")]⟩ := by
    refine ⟨fun h => absurd h (by decide),by decide,by decide,?_,?_⟩
    · intro output record houtput hrecord
      obtain rfl := GraphReturn.mapping.inj (Except.ok.inj houtput)
      obtain rfl := Option.some.inj hrecord
      exact ⟨⟨_,List.mem_cons_of_mem _ List.mem_cons_self,rfl,rfl⟩,_,List.mem_cons_self,rfl,rfl⟩
    · intro output runId houtput hrecord
      obtain rfl := GraphReturn.mapping.inj (Except.ok.inj houtput)
      exact absurd hrecord (by simp)
  have hstate : r.deliveryState = .committedSuccess := by
    obtain rfl := Option.some.inj hr
    rfl
  exact ⟨r,hr,hstate,(hhonest honest).2.2.1 (.inl hstate)⟩

/-! ## A graph that is not honest -/

/-- The graph returns a record of rows that nobody committed. -/
def forgedRequest : Request where
  owner := .ok true
  ingress := .ok true
  unresolved := none
  services := ⟨[],.ok true,fun _ => ([],.pass)⟩
  graph := ⟨[.beginAdmission],.ok (.mapping ⟨some ⟨7,3,.supported⟩,some .supported,.int 3,some "pgvector"⟩)⟩

/-- A delivery reported as committed has its message and its final parent run among the committed rows. -/
def ReportsCommitted (env : FinalizerEnvironment) (target : AssistantProjectionTarget) (request : Request)
    (ingress : Bool) (db : Database) : Prop :=
  ∀ r, (invokeAssistant env target request ingress db).result = some r →
    r.deliveryState = .committedSuccess ∨ r.deliveryState = .committedSafeFailure →
    ∃ messageId runId, r.assistantMessageId = some messageId ∧ r.parentAgentRunId = some runId ∧
      (invokeAssistant env target request ingress db).db.Committed messageId runId

/-- A returned record is believed. -/
theorem forged_record_reported :
    ¬ReportsCommitted ⟨none,true,"keyword",""⟩ ⟨1,1,"u1"⟩ forgedRequest true
      ⟨[],[⟨1,.user,1,none⟩],[(1,"u1")]⟩ := by
  intro h
  obtain ⟨messageId,runId,-,-,⟨m,hm,-,hlink⟩,-⟩ := h ⟨⟨.supported,some 7,.assistantMessage,.committedSuccess,some 3,200⟩,rfl⟩ rfl
    (.inl rfl)
  have hmessages : (invokeAssistant ⟨none,true,"keyword",""⟩ ⟨1,1,"u1"⟩ forgedRequest true
      ⟨[],[⟨1,.user,1,none⟩],[(1,"u1")]⟩).db.messages = [⟨1,.user,1,none⟩] := rfl
  rw [hmessages,List.mem_singleton] at hm
  rw [hm] at hlink
  exact absurd hlink (by simp)

end ParaWorks.Assistant
