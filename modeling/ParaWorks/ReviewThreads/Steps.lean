import ParaWorks.ReviewThreads.Order

/-!
# Every step keeps the order

The moves of a call, one after another, under the invariant of `Order`.
-/

namespace ParaWorks.ReviewThreads

open Lib Answers

section decides

variable {m : Moment} {s t : System} (h : Orderly s) {p : Nat} {f : Frame} (hp : s.calls p = some f)

include h hp

/-- A decided compare-and-set that finds the row as it was read. -/
theorem Orderly.decides {pc' : Pc} {base thread : AgentWorkflowThread} {target : ThreadStatus}
    (hd : f.pc.decision = some (base,target)) (hu : unmoved s.shared.thread base = true)
    (hr : Rewritten s.shared.thread thread target)
    (ha : thread.checkpointThreadId = s.shared.thread.checkpointThreadId)
    (hw : f.pc.Won (s.shared.setThread thread) pc') (ht : Stepped s p f pc' (s.shared.setThread thread) t) :
    Orderly t := by
  have hv : s.shared.thread.stateVersion < thread.stateVersion := by
    rw [hr.version]
    exact Nat.lt_succ_self _
  have hok := h.ok p f hp
  have hlater : Later s.shared (s.shared.setThread thread) := ⟨.inr hv,ItemsLater.refl _⟩
  have plain : ∀ {pc' : Pc}, Stepped s p f pc' (s.shared.setThread thread) t → f.pc.idle = false →
      target.early = false → pc'.Ok (s.shared.setThread thread) → pc'.running = none → pc'.preparing = false →
      pc'.starting = false → pc'.claiming = none → Orderly t := by
    intro pc' ht hi he hok' hrun hprep hstart hc
    apply h.writes hp ht hv ha.symm (by rw [hr.status]; exact he) hok' hrun hprep hstart
    · intro a hca
      rw [hc] at hca
      cases hca
    · intro hi'
      rw [hi] at hi'
      cases hi'
  have hpromise : ∀ {status : ThreadStatus}, Promise s.shared.rows.items status → status.early = false := by
    intro status hs
    cases status <;> first | rfl | exact hs.elim
  cases hpc : f.pc with
  | ensureWrite result base' =>
    rw [hpc] at hd hw hok
    cases hd
    cases hw
    apply h.prepares hp ht (by rw [hpc]; rfl) rfl (.inr hv) ha.symm rfl hok.1
    · change (decide (thread.status = _) || decide (thread.status = _)) = true
      rw [hr.status]
      rfl
    · intro he
      change thread.status.early = true at he
      rw [hr.status] at he
      cases he
  | finishWrite purpose projection target' =>
    rw [hpc] at hd hw hok
    cases hd
    cases hw
    exact plain ht (by rw [hpc]; rfl) (hpromise hok.2.2) trivial rfl rfl rfl rfl
  | markWrite base' target' code =>
    rw [hpc] at hd hw hok
    cases hd
    cases hw
    refine plain ht (by rw [hpc]; rfl) ?_ trivial rfl rfl rfl rfl
    obtain ⟨rfl,-⟩ | ⟨rfl | rfl,-⟩ := hok.2 <;> rfl
  | restore claimed code =>
    rw [hpc] at hd hw
    cases hd
    cases hw
    exact plain ht (by rw [hpc]; rfl) rfl trivial rfl rfl rfl rfl
  | reconcile after projection resumable target' =>
    rw [hpc] at hd hw hok
    cases hd
    cases hw
    exact plain ht (by rw [hpc]; rfl) (hpromise hok.2.2) trivial rfl rfl rfl rfl
  | resumeReconcile projection target' =>
    rw [hpc] at hd hw hok
    cases hd
    cases hw
    exact plain ht (by rw [hpc]; rfl) (hpromise hok.2.2) trivial rfl rfl rfl rfl
  | failWrite projection =>
    rw [hpc] at hd hw
    cases hd
    cases hw
    exact plain ht (by rw [hpc]; rfl) rfl trivial rfl rfl rfl rfl
  | claim projection =>
    rw [hpc] at hd hw hok
    cases hd
    cases hw
    have hsame := unmoved_seen hok.1 hu
    have hok' : (Pc.resumeReread (s.shared.setThread thread).thread).Ok (s.shared.setThread thread) :=
      ⟨Seen.refl _,hr.status,hlater.items.noPending hok.2.2⟩
    apply h.writes hp ht hv ha.symm (by rw [hr.status]; rfl) hok' rfl rfl rfl
    · intro a hca
      rw [hpc,← hca]
      change some projection.thread.checkpointThreadId = some thread.checkpointThreadId
      rw [ha,hsame]
    · intro hi
      rw [hpc] at hi
      cases hi
  | cancelWrite projection =>
    rw [hpc] at hd hw
    cases hd
    cases hw
    apply h.writes hp ht hv ha.symm (by rw [hr.status]; rfl) trivial rfl rfl rfl
    · intro a hca
      cases hca
    · exact fun _ => ⟨hr.status,rfl⟩
  | _ =>
    rw [hpc] at hd
    cases hd

/-- A repair gives the thread a fresh attempt, which nobody has worked on. -/
theorem Orderly.rotates {after : After} {projection : Projection} {thread : AgentWorkflowThread}
    (hpc : f.pc = .rotate projection after) (hr : Rewritten s.shared.thread thread .checkpointPending)
    (ha : thread.checkpointThreadId = s.shared.thread.checkpointThreadId+1)
    (ht : Stepped s p f (.repairReread thread after) (s.shared.setThread thread) t) : Orderly t := by
  have hv : s.shared.thread.stateVersion < thread.stateVersion := by
    rw [hr.version]
    exact Nat.lt_succ_self _
  have hfresh : ∀ q g a, s.calls q = some g → g.pc.running = some a ∨ g.pc.claiming = some a →
      a ≤ s.shared.thread.checkpointThreadId := by
    intro q g a hq hg
    obtain hg | hg := hg
    · exact (h.running q g a hq hg).1
    · exact (h.claiming q g a hq hg).1
  apply h.next hp ht (.inr hv) (.inl (ItemsLater.refl _)) (by change _ ≤ thread.checkpointThreadId; omega)
  · exact ⟨Seen.refl _,hr.status⟩
  · exact fun a => .inl rfl
  · exact fun a c hc => .inl hc
  · exact fun a c hca => (h.claiming p f a hp hca).2 c
  · intro he
    change thread.status.early = true at he
    rw [hr.status] at he
    cases he
  · rintro (hq | hq) <;> cases hq
  · intro _ hi
    rw [hpc] at hi
    cases hi
  · intro a hra
    have hra : a = thread.checkpointThreadId := (Option.some.inj hra).symm
    refine ⟨Nat.le_of_eq hra,?_,?_⟩
    · intro c hc
      have := (h.checkpoints a c hc).1
      omega
    · intro q g _ hq
      refine ⟨fun hg => ?_,fun hg => ?_⟩
      · have := hfresh q g a hq (.inl hg)
        omega
      · have := hfresh q g a hq (.inr hg)
        omega
  · intro a hca
    cases hca
  · intro a node hd
    cases hd

/-- The creator of the thread begins to run the graph. -/
theorem Orderly.projects {result : ReviewDraftResult} (hpc : f.pc = .initialProjection result)
    (ht : Stepped s p f (.previous (.start result) s.shared.thread.checkpointThreadId) s.shared t) : Orderly t := by
  have hprep : f.pc.preparing = true := by rw [hpc]; rfl
  obtain ⟨hquiet,hidle⟩ := h.quiet p f hp (.inl hprep)
  have hnone := hquiet.unprepared hprep
  have hok := h.ok p f hp
  rw [hpc] at hok
  have hallows := hquiet.allows
  rw [hpc] at hallows
  apply h.next hp ht (.inl rfl) (.inl (ItemsLater.refl _)) (Nat.le_refl _) hok
  · exact fun a => .inl rfl
  · exact fun a c hc => .inl hc
  · exact fun a c hca => (h.claiming p f a hp hca).2 c
  · intro he
    simp only [Pc.allows,Bool.or_eq_true,decide_eq_true_eq] at hallows
    obtain hs | hs := hallows <;> rw [hs] at he <;> cases he
  · exact fun _ => ⟨.inl hprep,hallows,fun hx => (by cases hx),hquiet.early⟩
  · intro _ hi
    rw [hpc] at hi
    cases hi
  · intro a hra
    cases hra
    refine ⟨Nat.le_refl _,?_,?_⟩
    · intro c hc
      rw [hnone] at hc
      cases hc
    · intro q g hne hq
      have hplain := Pc.idle_plain (hidle q g hne hq)
      simp [hplain.2.2.1,hplain.2.2.2]
  · intro a hca
    cases hca
  · intro a node hd
    cases hd

/-- A resume that has found the interrupt claims its attempt. -/
theorem Orderly.claims {projection : Projection} {version : Nat}
    (hok : (Pc.claim projection).Ok s.shared)
    (hfound : probeCheckpoint projection (saved m s.shared projection.thread.checkpointThreadId) = .ok (.interrupted version))
    (ht : Stepped s p f (.claim projection) s.shared t) : Orderly t := by
  obtain ⟨c,hc,hne⟩ := probe_not_early hfound
  have hcp : s.shared.checkpoints projection.thread.checkpointThreadId = some c := by
    unfold saved at hc
    split at hc
    · cases hc
    · exact hc
  have hns := h.not_secluded_of_probe hp hfound
  apply h.next hp ht (.inl rfl) (.inl (ItemsLater.refl _)) (Nat.le_refl _) hok
  · exact fun a => .inl rfl
  · exact fun a c hc => .inl hc
  · exact fun a c hca => (h.claiming p f a hp hca).2 c
  · exact fun he => absurd (.inl he) hns
  · rintro (hq | hq) <;> cases hq
  · exact fun hs => absurd hs hns
  · intro a hra
    cases hra
  · intro a hca
    cases hca
    refine ⟨(h.checkpoints _ c hcp).1,?_,?_⟩
    · intro c' hc'
      rw [hcp] at hc'
      cases hc'
      exact hne
    · intro q g _ hq hg
      exact hne ((h.running q g _ hq hg).2.1 c hcp)
  · intro a node hd
    cases hd

end decides

/-! ## The draft of the creator -/

section drafting

variable {s t : System} (h : Orderly s) {p : Nat} {f : Frame} (hp : s.calls p = some f) {attempt : Nat}
  {point : DraftPc} (hpc : f.pc = .drafting (.start attempt) point)

include h hp hpc

theorem Orderly.draft_facts : f.pc.preparing = true ∧
    (s.shared.thread.status.early = true ∨ s.shared.thread.status = .cancelled) ∧
    (∀ lease ∈ point.leases, lease.priorStatus = .created) ∧ (point.open = true → s.shared.rows.items = []) := by
  have hprep : f.pc.preparing = true := by rw [hpc]; rfl
  have hallows := (h.quiet p f hp (.inl hprep)).1.allows
  have hok := h.ok p f hp
  rw [hpc] at hallows hok
  refine ⟨hprep,?_,hok.1,hok.2⟩
  simpa [Pc.allows] using hallows

/-- A step of the draft service that leaves the row as it is. -/
theorem Orderly.drafts {attempt' : Nat} {point' : DraftPc}
    (hl : ∀ lease ∈ point'.leases, ∃ lease' ∈ point.leases, lease.priorStatus = lease'.priorStatus)
    (ho : point'.open = true → point.open = true)
    (ht : Stepped s p f (.drafting (.start attempt') point') s.shared t) : Orderly t := by
  obtain ⟨hprep,hstatus,hleases,hitems⟩ := h.draft_facts hp hpc
  apply h.prepares hp ht hprep rfl (.inl rfl) rfl rfl
  · refine ⟨?_,fun hx => hitems (ho hx)⟩
    intro lease hlease
    obtain ⟨lease',hlease',heq⟩ := hl lease hlease
    rw [heq]
    exact hleases lease' hlease'
  · simpa [Pc.allows] using hstatus
  · exact fun he => he

/-- A step of the draft service that writes the row and goes on drafting. -/
theorem Orderly.leases {attempt' : Nat} {point' : DraftPc} {shared' : Shared} {target : ThreadStatus}
    (ht : Stepped s p f (.drafting (.start attempt') point') shared' t)
    (hr : Rewritten s.shared.thread shared'.thread target)
    (ha : shared'.thread.checkpointThreadId = s.shared.thread.checkpointThreadId)
    (hcps : shared'.checkpoints = s.shared.checkpoints)
    (hdraft : s.shared.thread.status.early = true) (htarget : target.early = true)
    (hl : ∀ lease ∈ point'.leases, lease.priorStatus = .created)
    (ho : point'.open = true → shared'.rows.items = []) : Orderly t := by
  obtain ⟨hprep,-,-,-⟩ := h.draft_facts hp hpc
  apply h.prepares hp ht hprep rfl (.inr ?_) ha.symm hcps ⟨hl,ho⟩
  · rw [hr.status]
    simp [Pc.allows,htarget]
  · exact fun _ => hdraft
  · rw [hr.version]
    exact Nat.lt_succ_self _

end drafting

theorem early_of_draftable {status : ThreadStatus} (hs : status.early = true ∨ status = .cancelled)
    (hd : status ≠ .cancelled) : status.early = true := hs.resolve_right hd

theorem late_of_live {status : ThreadStatus} (he : ¬status.early = true) (ht : TerminalThreadStatus status = false) :
    status.late = true := by
  cases status <;> simp_all [ThreadStatus.early,ThreadStatus.late,TerminalThreadStatus]

theorem endLease_rewritten (thread : AgentWorkflowThread) (status : ThreadStatus) (now : Nat) :
    Rewritten thread (endLease thread status now) status := ⟨rfl,rfl,rfl⟩

section call

variable {settings : Settings} {m : Moment} {s t : System} (h : Orderly s) {p : Nat} {f : Frame}
  (hp : s.calls p = some f)

include h hp

/-- The moves of the draft service for the creator of the thread. -/
theorem Orderly.step_draft {attempt : Nat} {point : DraftPc} {pc' : Pc} {shared' : Shared}
    (hpc : f.pc = .drafting (.start attempt) point)
    (hmove : Moves settings f.actor m s.shared (.drafting (.start attempt) point) pc' shared')
    (ht : Stepped s p f pc' shared' t) : Orderly t := by
  obtain ⟨hprep,hstatus,hleases,hitems⟩ := h.draft_facts hp hpc
  have hdrafting : ∀ {lease}, threadHasExactLease s.shared.thread lease = true → s.shared.thread.status.early = true := by
    intro lease hs
    rw [exactLease_status hs]
    rfl
  cases hmove with
  | ends result => exact h.rests hp ht trivial rfl rfl rfl rfl (.inl rfl)
  | marks target code hm => cases hm
  | restores claimed code hm => cases hm
  | decides base target hd => cases hd
  | loses hx hy =>
    obtain ⟨_,_,_,_,hy⟩ := hy
    cases hy
  | drafts _ attempt' _ point' hl ho => exact h.drafts hp hpc (fun lease hx => ⟨lease,hl hx,rfl⟩) ho ht
  | leases _ lease thread hs hl hr _ hs' =>
    have hearly : s.shared.thread.status.early = true := by
      apply early_of_draftable hstatus
      intro hc
      rw [hc] at hs
      cases hs
    have hthread : shared'.thread = thread := congrArg Rows.thread hs'.1
    apply h.leases hp hpc ht (by rw [hthread]; exact hr.1) (by rw [hthread]; exact hr.2) hs'.2 hearly rfl
    · intro lease' hlease'
      rw [List.mem_singleton.mp hlease',hl]
      unfold leaseRestoreStatus
      split
      · rfl
      · next hne =>
        cases hst : s.shared.thread.status <;> simp_all [ThreadStatus.early]
    · intro _
      rw [hs'.1]
      exact hitems rfl
  | renews _ lease results point' thread hs hl hr =>
    apply h.leases hp hpc ht hr.1 hr.2 rfl (hdrafting hs) rfl
    · intro lease' hlease'
      rw [hl lease' hlease']
      exact hleases lease List.mem_cons_self
    · exact fun _ => hitems rfl
  | unrenewed _ lease results point' hl =>
    exact h.drafts hp hpc (fun lease' hx => ⟨lease,List.mem_cons_self,hl lease' hx⟩) (fun _ => rfl) ht
  | releases _ lease claims trouble hs =>
    have hprior := hleases lease List.mem_cons_self
    apply h.leases hp hpc ht (endLease_rewritten _ _ _) rfl rfl (hdrafting hs) (by rw [hprior]; rfl)
    · exact fun lease' hx => hleases lease' (List.mem_cons_of_mem _ hx)
    · exact hitems
  | mismatches _ lease results levels hs =>
    have hprior := hleases lease List.mem_cons_self
    apply h.leases hp hpc ht (endLease_rewritten _ _ _) rfl rfl (hdrafting hs) (by rw [hprior]; rfl) hleases
    intro hx
    cases hx
  | persistsDraft _ lease results result hs hr =>
    apply h.prepares hp ht hprep rfl (.inr (Nat.lt_succ_self _)) rfl rfl ?_ rfl
    · intro he
      cases he
    · intro h0
      change (insertReviewItems s.shared results.flatten).rows.items = []
      simp [insertReviewItems,Shared.setItems,hitems rfl,hr h0]
  | drafted _ _ result ho =>
    apply h.prepares hp ht hprep rfl (.inl rfl) rfl rfl (fun _ => hitems ho)
    · obtain hs | hs := hstatus
      · simp [Pc.allows,hs]
      · simp [Pc.allows,hs]
    · exact fun he => he
  | exhausts _ _ code =>
    apply h.prepares hp ht hprep rfl (.inl rfl) rfl rfl (.inl rfl)
    · simpa [Pc.allows] using hstatus
    · exact fun he => he
  | asksAgain hx =>
    obtain ⟨_,hx⟩ | ⟨_,_,hx⟩ | ⟨_,_,hx⟩ := hx <;> cases hx
  | repairs projection after hx =>
    obtain hx | ⟨hx,-⟩ := hx <;> cases hx

end call

/-! ## Every move -/

section found

variable {m : Moment} {s : System} (h : Orderly s)

include h

/-- A terminal status that the probe has found is true of the items. -/
theorem Orderly.probed_promise {projection : Projection} {probe : Probe}
    (hf : probeCheckpoint projection (saved m s.shared projection.thread.checkpointThreadId) = .ok probe) :
    Promise s.shared.rows.items probe.target := by
  cases probe with
  | interrupted version => trivial
  | terminal target =>
    obtain ⟨c,hc,-⟩ := probe_not_early hf
    rw [hc] at hf
    obtain ⟨hstatus,htarget⟩ := probe_terminal hf
    have hcp : s.shared.checkpoints projection.thread.checkpointThreadId = some c := by
      unfold saved at hc
      split at hc
      · cases hc
      · exact hc
    have howed := (h.checkpoints _ c hcp).2.owed
    obtain rfl | rfl := htarget
    · exact howed.completed (.inr (.inr hstatus))
    · exact howed.needsMore (.inr hstatus)

/-- The input of a run over the checkpoint that the attempt has. -/
theorem Orderly.input_owed (attempt : Nat) (id : Text) :
    Owed s.shared.rows.items
      { ((saved m s.shared attempt).map (·.channels)).getD {} with workflowThreadId := some id }
      (some .validateInput) := by
  cases hs : saved m s.shared attempt with
  | none =>
    constructor
    · rintro (hn | hn | hn) <;> cases hn
    · rintro (hn | hn) <;> cases hn
    · intro hn
      cases hn
  | some c =>
    have hc : s.shared.checkpoints attempt = some c := by
      unfold saved at hs
      split at hs
      · cases hs
      · exact hs
    exact (h.checkpoints attempt c hc).2.owed.goes_on rfl (by simp)

end found

section moves

variable {settings : Settings} {m : Moment} {s t : System} (h : Orderly s) {p : Nat} {f : Frame}
  (hp : s.calls p = some f)

include h hp

/-- The row of a thread that its creator still prepares is not decided on by another call. -/
theorem Orderly.late_status (hi : f.pc.idle = false) (hprep : f.pc.preparing = false) :
    s.shared.thread.status.early = false := by
  by_contra he
  exact h.not_secluded hp hi hprep (.inl (by simpa using he))

/-- The mark of an entry is decided on the row that it reads. -/
theorem Orderly.reads_mark {target : ThreadStatus} {code : ErrorCode} (hpc : f.pc = .markRead target code)
    (hterm : TerminalThreadStatus s.shared.thread.status = false)
    (ht : Stepped s p f (.markWrite s.shared.thread target code) s.shared t) : Orderly t := by
  have hok := h.ok p f hp
  rw [hpc] at hok
  obtain rfl | htarget := hok
  · have hprep : f.pc.preparing = true := by rw [hpc]; rfl
    have hallows := (h.quiet p f hp (.inl hprep)).1.allows
    rw [hpc] at hallows
    have hearly : s.shared.thread.status.early = true := by
      apply early_of_draftable (by simpa [Pc.allows] using hallows)
      intro hc
      rw [hc] at hterm
      cases hterm
    apply h.prepares hp ht hprep rfl (.inl rfl) rfl rfl ⟨Seen.refl _,.inl ⟨rfl,hearly⟩⟩
    · simp [Pc.allows,hearly]
    · exact fun he => he
  · have hprep : (Pc.markRead target code).preparing = false := by obtain rfl | rfl := htarget <;> rfl
    have hearly := h.late_status hp (by rw [hpc]; rfl) (by rw [hpc]; exact hprep)
    have hlate := late_of_live (by rw [hearly]; exact Bool.false_ne_true) hterm
    apply h.rests hp ht ⟨Seen.refl _,.inr ⟨htarget,hlate⟩⟩ rfl rfl hprep rfl
    exact .inr (h.not_secluded hp (by rw [hpc]; rfl) (by rw [hpc]; exact hprep))

end moves

/-! ## The moves of a graph run -/

theorem Purpose.held (purpose : Purpose) : purpose.prepared.isSome = true ∨ purpose.prepared = none := by
  cases purpose.prepared with
  | none => exact .inr rfl
  | some result => exact .inl rfl

/-- What the result of a run stands for is true of the items. -/
theorem Owed.target {run : GraphRun} {items : List ReviewItem} (howed : Owed items run.channels run.next) (status : ThreadStatus)
    (ht : resultTarget run = some status) : Promise items status := by
  have hcompleted : resultTarget.completedOnly run = some status → Promise items status := by
    intro hs
    unfold resultTarget.completedOnly at hs
    split at hs
    · next hc =>
      cases hs
      exact howed.completed (.inr (.inr hc))
    · cases hs
  unfold resultTarget at ht
  split at ht
  · split at ht
    · next hm =>
      cases ht
      exact howed.needsMore (.inr hm)
    · exact hcompleted ht
  · split at ht
    · cases ht
      trivial
    · exact hcompleted ht

section runs

variable {settings : Settings} {m : Moment} {s t : System} (h : Orderly s) {p : Nat} {f : Frame}
  (hp : s.calls p = some f) {run : GraphRun}

include h hp

theorem Orderly.opens {purpose : Purpose} {attempt : Nat} {previous : Option Nat} (hpc : f.pc = .previous purpose attempt)
    (ht : Stepped s p f (.load purpose attempt previous) s.shared t) : Orderly t := by
  have hok := h.ok p f hp
  rw [hpc] at hok
  apply h.keeps_run hp ht _ hok rfl
  · rw [hpc]
    exact fun hs => hs
  · rw [hpc]
    exact fun a ha => ha
  · rw [hpc]
    exact fun a ha => ha
  · intro a node hd
    cases hd
  · rw [hpc]
    obtain hs | hs := purpose.held <;> simp [Pc.running,Pc.claiming,hs]

/-- The input of a run that prepares the attempt. -/
theorem Orderly.inputs {purpose : Purpose} {attempt : Nat} {previous : Option Nat} {channels : Channels}
    (hpc : f.pc = .load purpose attempt previous) (hprep : purpose.prepared.isSome = true)
    (howed : Owed s.shared.rows.items channels (some .validateInput))
    (ht : Stepped s p f (.node ⟨purpose,attempt,previous,s.shared.nextId,channels,some .validateInput,none,none⟩)
      (s.shared.put attempt channels (some .validateInput)) t) : Orderly t := by
  have hok := h.ok p f hp
  have hrun : f.pc.running = some attempt := by
    rw [hpc]
    exact if_pos hprep
  rw [hpc] at hok
  apply h.puts hp ht (.inl hrun) ⟨hok,howed,fun _ => rfl,.inl (Purpose.reaches_early hprep rfl)⟩ rfl
  · intro hs
    rw [hpc]
    simpa [Pc.starting] using hs
  · exact howed
  · rintro _ node ⟨⟩
    rfl
  · intro hc
    rw [(Pc.running_plain hrun).2.2] at hc
    cases hc
  · intro a ha
    rw [hrun]
    simpa [Pc.running,hprep] using ha
  · intro a ha
    simp [Pc.claiming,hprep] at ha
  · intro a node hd
    simp only [Pc.due,hprep,if_true,Option.map_some,Option.some.injEq,Prod.mk.injEq] at hd
    exact ⟨congrArg some hd.2,hd.1.symm⟩

/-- A resume goes on from the checkpoint of the attempt it has claimed. -/
theorem Orderly.continues {claimed : Projection} {attempt : Nat} {previous : Option Nat} {c : Checkpoint}
    (hpc : f.pc = .load (.resume claimed) attempt previous) (hc : saved m s.shared attempt = some c)
    (ht : Stepped s p f
      (.node ⟨.resume claimed,attempt,previous,c.id,c.channels,c.next,some claimed.thread.stateVersion,none⟩)
      s.shared t) : Orderly t := by
  have hok := h.ok p f hp
  have hclaim : f.pc.claiming = some attempt := by
    rw [hpc]
    rfl
  have hcp : s.shared.checkpoints attempt = some c := by
    unfold saved at hc
    split at hc
    · cases hc
    · exact hc
  have hlate := (h.claiming p f attempt hp hclaim).2 c hcp
  have hcok := (h.checkpoints attempt c hcp).2
  rw [hpc] at hok
  have hreaches : (Purpose.resume claimed).Reaches c.next ∨ (Purpose.resume claimed).prepared = none ∧
      c.next = some .awaitHumanReview ∧ (some claimed.thread.stateVersion).isSome = true := by
    cases hn : c.next with
    | none => exact .inl (Purpose.reaches_end _)
    | some node =>
      by_cases he : node.early = true
      · have hi : c.interrupt ≠ none := fun hi => hlate ⟨hi,node,hn,he⟩
        have hawait := hcok.interrupt hi
        rw [hn] at hawait
        exact .inr ⟨rfl,hawait,rfl⟩
      · exact .inl (Purpose.reaches_late rfl (by simpa using he))
  apply h.keeps_run hp ht (.inr (by rw [hclaim]; rfl)) ⟨hok,hcok.owed,(by simp [Purpose.prepared]),hreaches⟩ rfl
  · intro hs
    cases hs
  · intro a ha
    cases ha
  · intro a ha
    rw [hclaim]
    exact ha
  · intro a node hd
    cases hd

theorem Orderly.works {node : Node} {channels : Channels} {next : Option Node} (hpc : f.pc = .node run)
    (hn : run.next = some node) (hx : execute settings f.actor s.shared.rows run node = .ok (.writes channels next))
    (ht : Stepped s p f (.persist run channels next) s.shared t) : Orderly t := by
  have hok := h.ok p f hp
  rw [hpc] at hok
  obtain ⟨hpurpose,howed,hack,hreaches⟩ := hok
  rw [hn] at howed hreaches
  obtain ⟨howed',hreaches'⟩ := execute_owed hpurpose howed hack (hreaches.imp_right fun hr => ⟨hr.1,by simpa using hr.2.1,hr.2.2⟩) hx
  apply h.keeps_run hp ht _ ⟨hpurpose,howed',hreaches'⟩ rfl
  · intro hs
    rw [hpc]
    simpa [Pc.starting,hn] using hs
  · intro a ha
    rw [hpc]
    simpa [Pc.running,hn] using ha
  · intro a ha
    rw [hpc]
    exact ha
  · intro a node' hd
    cases hd
  · rw [hpc]
    obtain hs | hs := run.purpose.held <;> simp [Pc.running,Pc.claiming,hs,hn]

/-- The run comes to the human review: only a run that prepares the attempt interrupts there. -/
theorem Orderly.pauses {version : Nat} (hpc : f.pc = .node run) (hn : run.next = some .awaitHumanReview)
    (ha : run.acknowledgement = none) (ht : Stepped s p f (.interrupt run version) s.shared t) : Orderly t := by
  have hok := h.ok p f hp
  rw [hpc] at hok
  obtain ⟨hpurpose,howed,-,hreaches⟩ := hok
  have hprep : run.purpose.prepared.isSome = true := by
    obtain hs | hs := run.purpose.held
    · exact hs
    · obtain hr | hr := hreaches
      · have := (Purpose.reaches_unprepared hs).mp hr _ hn
        cases this
      · rw [ha] at hr
        cases hr.2.2
  apply h.keeps_run hp ht (.inl (by rw [hpc]; simp [Pc.running,hprep,hn])) ⟨hpurpose,howed,hprep,hn⟩ rfl
  · intro hs
    rw [hpc]
    simpa [Pc.starting,hn] using hs
  · intro a hx
    rw [hpc]
    simpa [Pc.running,hn] using hx
  · intro a hx
    simp [Pc.claiming,hprep] at hx
  · intro a node hd
    rw [hpc]
    exact hd

theorem Orderly.persists {channels : Channels} {next : Option Node} (hpc : f.pc = .persist run channels next)
    (ht : Stepped s p f
      (.node { run with current := s.shared.nextId, channels := channels, next := next, acknowledgement := none })
      (s.shared.put run.attempt channels next) t) : Orderly t := by
  have hok := h.ok p f hp
  rw [hpc] at hok
  obtain ⟨hpurpose,howed,hreaches⟩ := hok
  have hmine : f.pc.running = some run.attempt ∨ f.pc.claiming = some run.attempt := by
    rw [hpc]
    obtain hs | hs := run.purpose.held <;> simp [Pc.running,Pc.claiming,hs]
  apply h.puts hp ht hmine ⟨hpurpose,howed,fun _ => rfl,.inl hreaches⟩ rfl
  · intro hs
    rw [hpc]
    simp only [Pc.starting,Bool.and_eq_true] at hs
    exact hs.1
  · exact howed
  · intro hr
    rw [hpc] at hr
    apply (Purpose.reaches_prepared _).mp hreaches
    by_contra hs
    simp [Pc.running,hs] at hr
  · intro hc
    rw [hpc] at hc
    apply (Purpose.reaches_unprepared _).mp hreaches
    by_contra hs
    simp [Pc.claiming,Option.isSome_iff_ne_none.mpr hs] at hc
  · intro a ha
    rw [hpc]
    simp only [Pc.running] at ha ⊢
    split at ha
    · next hs => exact ⟨by rw [if_pos hs.1]; exact ha,hs.2⟩
    · cases ha
  · intro a ha
    rw [hpc]
    exact ha
  · intro a node hd
    simp only [Pc.due] at hd
    split at hd
    · obtain ⟨n,hn,heq⟩ := Option.map_eq_some_iff.mp hd
      cases heq
      exact ⟨hn,rfl⟩
    · cases hd

/-- The interrupt is stored with the checkpoint of the attempt, at which the human review is due. -/
theorem Orderly.interrupts {version : Nat} (hpc : f.pc = .interrupt run version)
    (ht : Stepped s p f (.confirm { run with interrupted := some version })
      (s.shared.modify run.attempt run.current fun c => { c with interrupt := some version }) t) : Orderly t := by
  have hok := h.ok p f hp
  rw [hpc] at hok
  obtain ⟨hpurpose,howed,hprep,hn⟩ := hok
  have hrun : f.pc.running = some run.attempt := by
    rw [hpc]
    exact if_pos hprep
  have hother : ∀ a, a ≠ run.attempt → (s.shared.modify run.attempt run.current
      fun c => { c with interrupt := some version }).checkpoints a = s.shared.checkpoints a :=
    fun a ha => Function.update_of_ne ha _ _
  have hlater : Later s.shared (s.shared.modify run.attempt run.current fun c => { c with interrupt := some version }) :=
    ⟨.inl rfl,ItemsLater.refl _⟩
  apply h.carries hp ht (.inl (by rw [hrun]; rfl)) rfl ⟨hpurpose.later hlater,howed⟩ rfl
  · intro hs
    cases hs
  · intro a
    by_cases ha : a = run.attempt
    · rw [ha]
      exact .inr (.inl hrun)
    · exact .inl (hother a ha)
  · intro a c hc
    by_cases ha : a = run.attempt
    · refine .inr ⟨.inl (by rw [hrun,ha]),?_⟩
      rw [ha] at hc
      change Function.update s.shared.checkpoints run.attempt _ run.attempt = some c at hc
      rw [Function.update_self] at hc
      obtain ⟨c',hc',heq⟩ := Option.map_eq_some_iff.mp hc
      have hnext : c'.next = some .awaitHumanReview := by
        apply h.due p f run.attempt .awaitHumanReview hp _ c' hc'
        rw [hpc]
        simp [Pc.due,hprep,hn]
      have hok' := (h.checkpoints run.attempt c' hc').2
      rw [← heq]
      split
      · exact ⟨hok'.owed,fun _ => hnext⟩
      · exact hok'
    · rw [hother a ha] at hc
      exact .inl hc
  · intro a c hc
    rw [(Pc.running_plain hrun).2.2] at hc
    cases hc
  · intro a ha
    cases ha
  · intro a ha
    cases ha
  · intro a node hd
    cases hd

end runs

section call

variable {settings : Settings} {m : Moment} {s t : System} (h : Orderly s) {p : Nat} {f : Frame}
  (hp : s.calls p = some f)

include h hp

/-- Every step of a call that reads back what it has written keeps the order. -/
theorem Orderly.step_call {pc' : Pc} {shared' : Shared} (hmove : Moves settings f.actor m s.shared f.pc pc' shared')
    (hu : f.pc.Undisturbed s.shared) (ht : Stepped s p f pc' shared' t) : Orderly t := by
  have hok := h.ok p f hp
  generalize hpc : f.pc = pc at hmove hok hu
  have hmove' := hmove
  cases hmove with
  | redrafts run point => exact hok.elim
  | ends result => exact h.rests hp ht trivial rfl rfl rfl rfl (.inl rfl)
  | endsInNode run result hn => exact h.leaves_node hp hpc hn ht trivial rfl rfl rfl rfl
  | marks target code hm htarget =>
    apply h.rests hp ht (.inr htarget) rfl rfl (by obtain rfl | rfl := htarget <;> rfl) rfl
    exact .inr (h.marks_not_secluded hp (by rw [hpc]; exact hm))
  | marksInNode run target code hn htarget =>
    exact h.leaves_node hp hpc hn ht (.inr htarget) rfl rfl (by obtain rfl | rfl := htarget <;> rfl) rfl
  | restores claimed code hc =>
    obtain ⟨hclaimed,hi,hprep⟩ := hok.resumed hc
    apply h.rests hp ht ⟨hclaimed.2.2,hclaimed.2.1⟩ rfl rfl rfl rfl
    exact .inr (h.not_secluded hp (by rw [hpc]; exact hi) (by rw [hpc]; exact hprep))
  | restoresInNode run claimed code hn hc =>
    obtain ⟨hclaimed,-,-⟩ := hok.resumed (congrArg some hc)
    exact h.leaves_node hp hpc hn ht ⟨hclaimed.2.2,hclaimed.2.1⟩ rfl rfl rfl rfl
  | restoresUnready written code =>
    obtain ⟨hseen,hstatus,-⟩ := hok
    have hsame : s.shared.thread.status = .resuming := by rw [hseen.same (hu written rfl).symm,hstatus]
    apply h.rests hp ht ⟨Seen.refl _,hsame⟩ rfl rfl rfl rfl
    exact .inr (h.not_secluded hp (by rw [hpc]; rfl) (by rw [hpc]; rfl))
  | decides base target hd hun hs hw =>
    obtain ⟨thread,rfl,hr,ha⟩ := hs
    rw [← hpc] at hd hw
    exact h.decides hp hd hun hr ha hw ht
  | rotates projection after thread hv hs hr => exact h.rotates hp hpc hr.1 hr.2 ht
  | loses hpc' _ =>
    cases hpc'
    exact h.rests hp ht trivial rfl rfl rfl rfl (.inl rfl)
  | drafts => exact h.step_draft hp hpc hmove' ht
  | leases => exact h.step_draft hp hpc hmove' ht
  | renews => exact h.step_draft hp hpc hmove' ht
  | unrenewed => exact h.step_draft hp hpc hmove' ht
  | releases => exact h.step_draft hp hpc hmove' ht
  | mismatches => exact h.step_draft hp hpc hmove' ht
  | persistsDraft => exact h.step_draft hp hpc hmove' ht
  | drafted => exact h.step_draft hp hpc hmove' ht
  | exhausts => exact h.step_draft hp hpc hmove' ht
  | ensures result hs =>
    have hprep : f.pc.preparing = true := by rw [hpc]; rfl
    have hallows := (h.quiet p f hp (.inl hprep)).1.allows
    rw [hpc] at hallows
    have hearly : s.shared.thread.status.early = true := by
      obtain hs | hs | hs := hs
      · rw [hs]
        rfl
      · rw [hs]
        rfl
      · rw [hs] at hallows
        cases hallows
    exact h.prepares hp ht hprep rfl (.inl rfl) rfl rfl ⟨hok,Seen.refl _,hearly⟩ hallows fun he => he
  | ensured result hs =>
    apply h.prepares hp ht (by rw [hpc]; rfl) rfl (.inl rfl) rfl rfl hok
    · simp [Pc.allows,hs]
    · exact fun he => he
  | projects result => exact h.projects hp hpc ht
  | opens purpose attempt previous => exact h.opens hp hpc ht
  | inputs purpose attempt previous hprep => exact h.inputs hp hpc hprep (h.input_owed _ _) ht
  | continues claimed attempt previous c hc => exact h.continues hp hpc hc ht
  | concludes run hn =>
    apply h.rests hp ht ⟨hok.1,hok.2.1⟩ rfl rfl rfl rfl
    exact .inr (h.not_secluded hp (by rw [hpc]; rfl) (by rw [hpc]; rfl))
  | works run node channels next hn hx => exact h.works hp hpc hn hx ht
  | pauses run version hn ha => exact h.pauses hp hpc hn ha ht
  | asks run hn hprep =>
    obtain ⟨-,-,-,hr | hr⟩ := hok
    · have := (Purpose.reaches_unprepared hprep).mp hr _ hn
      cases this
    · rw [hn] at hr
      cases hr.2.1
  | persists run channels next => exact h.persists hp hpc ht
  | interrupts run version => exact h.interrupts hp hpc ht
  | confirms run =>
    apply h.rests hp ht (fun status hs => hok.2.target status hs) rfl rfl rfl rfl
    exact .inr (h.not_secluded hp (by rw [hpc]; rfl) (by rw [hpc]; rfl))
  | finishes purpose target hs =>
    apply h.rests hp ht ⟨Seen.refl _,hs,hok target rfl⟩ rfl rfl rfl rfl
    exact .inr (h.not_secluded hp (by rw [hpc]; rfl) (by rw [hpc]; rfl))
  | readsForMark target code hterm => exact h.reads_mark hp hpc hterm ht
  | replays => exact h.rests hp ht trivial rfl rfl rfl rfl (.inl rfl)
  | readsStatus after => exact h.rests hp ht (Seen.refl _) rfl rfl rfl rfl (.inl rfl)
  | asksAgain _ => exact h.rests hp ht trivial rfl rfl rfl rfl (.inl rfl)
  | reconciles after projection version hs hf =>
    apply h.rests hp ht ⟨hok,hs.imp_right .inr,trivial⟩ rfl rfl rfl rfl
    exact .inr (h.not_secluded_of_probe hp hf)
  | reconcilesEnd after projection target hs hf =>
    apply h.rests hp ht ⟨hok,hs,h.probed_promise hf⟩ rfl rfl rfl rfl
    exact .inr (h.not_secluded_of_probe hp hf)
  | admits hs =>
    apply h.rests hp ht ⟨Seen.refl _,hs.imp_left fun hx => ⟨hx.1,noPending_iff.mpr hx.2⟩⟩ rfl rfl rfl rfl
    refine .inr fun hsec => ?_
    have hstatus := (h.secluded hp hsec).2.2
    obtain hs | hs := hs
    · rw [hs.1] at hstatus
      simp [ThreadStatus.early] at hstatus
    · rw [hs] at hstatus
      simp [ThreadStatus.early] at hstatus
  | repairs projection after hx =>
    obtain rfl | ⟨rfl,rfl⟩ := hx
    · apply h.rests hp ht hok.1 rfl rfl rfl rfl
      exact .inr (h.not_secluded hp (by rw [hpc]; rfl) (by rw [hpc]; rfl))
    · apply h.rests hp ht (Seen.refl _) rfl rfl rfl rfl
      exact .inr (h.not_secluded hp (by rw [hpc]; rfl) (by rw [hpc]; rfl))
  | breaks projection hs =>
    apply h.rests hp ht ⟨hok.1,(hok.2.resolve_right hs).1⟩ rfl rfl rfl rfl
    exact .inr (h.not_secluded hp (by rw [hpc]; rfl) (by rw [hpc]; rfl))
  | recovers projection probe hs hf =>
    apply h.rests hp ht ⟨hok.1,hs,h.probed_promise hf⟩ rfl rfl rfl rfl
    exact .inr (h.not_secluded_of_probe hp hf)
  | claims projection version hs hf =>
    have hw := hok.2.resolve_right hs
    exact h.claims hp ⟨hok.1,hw.1,hw.2⟩ hf ht
  | rereadsRepair written after hs =>
    have hsame := hok.1.same (hu written rfl).symm
    apply h.keeps_run hp ht (.inl (by rw [hpc]; rfl)) _ rfl
    · intro hx
      cases hx
    · intro a ha
      rw [hpc,← ha,hsame]
      rfl
    · intro a ha
      cases ha
    · intro a node hd
      cases hd
    · exact fun h0 => countItems_eq_zero hs h0
  | rereadsResume written =>
    obtain ⟨hseen,hstatus,hnone⟩ := hok
    have hsame := hseen.same (hu written rfl).symm
    have hresuming : s.shared.thread.status = .resuming := by rw [hsame,hstatus]
    apply h.keeps_run hp ht (.inr (by rw [hpc]; rfl)) ⟨hnone,hresuming,Seen.refl _⟩ rfl
    · intro hx
      cases hx
    · intro a ha
      cases ha
    · intro a ha
      rw [hpc,← ha,hsame]
      rfl
    · intro a node hd
      cases hd
  | cancels hc => exact h.rests hp ht ⟨Seen.refl _,hc⟩ rfl rfl rfl rfl (.inl rfl)

end call

/-! ## Runs -/

/-- Commands that leave the row alone: items, checkpoints and idle calls. -/
theorem Orderly.around {s t : System} (h : Orderly s) (hthread : t.shared.thread = s.shared.thread)
    (hitems : ItemsLater s.shared.rows.items t.shared.rows.items)
    (hcps : ∀ a c, t.shared.checkpoints a = some c → s.shared.checkpoints a = some c)
    (hcalls : ∀ q g, t.calls q = some g → s.calls q = some g ∨ g.pc.idle = true ∧ g.pc.Ok t.shared) : Orderly t := by
  have hlater : Later s.shared t.shared := ⟨.inl hthread,hitems⟩
  have hold : ∀ q g, t.calls q = some g → g.pc.idle = false → s.calls q = some g := by
    intro q g hq hi
    obtain hs | ⟨hx,-⟩ := hcalls q g hq
    · exact hs
    · rw [hi] at hx
      cases hx
  have hidle : ∀ q g, t.calls q = some g → (∀ g, s.calls q = some g → g.pc.idle = true) → g.pc.idle = true := by
    intro q g hq hs
    obtain hg | hg := hcalls q g hq
    · exact hs g hg
    · exact hg.1
  have hnone : ∀ a, s.shared.checkpoints a = none → t.shared.checkpoints a = none := by
    intro a ha
    cases hc : t.shared.checkpoints a with
    | none => rfl
    | some c =>
      rw [hcps a c hc] at ha
      cases ha
  have hplain : ∀ q g, t.calls q = some g → s.calls q ≠ some g →
      g.pc.preparing = false ∧ g.pc.starting = false ∧ g.pc.running = none ∧ g.pc.claiming = none := by
    intro q g hq hs
    exact Pc.idle_plain ((hcalls q g hq).resolve_left hs).1
  constructor
  · intro q g hq
    obtain hs | hs := hcalls q g hq
    · exact (h.ok q g hs).later hlater
    · exact hs.2
  · intro q g hq hg
    have hs : s.calls q = some g := by
      by_contra hn
      simp [hplain q g hq hn] at hg
    obtain ⟨hquiet,hidles⟩ := h.quiet q g hs hg
    refine ⟨⟨by rw [hthread]; exact hquiet.allows,fun hp a => hnone a (hquiet.unprepared hp a),
      fun a c hc => hquiet.early a c (hcps a c hc)⟩,?_⟩
    exact fun r k hr hk => hidle r k hk fun k' hk' => hidles r k' hr hk'
  · intro q g a hq hg
    have hs : s.calls q = some g := by
      by_contra hn
      simp [hplain q g hq hn] at hg
    obtain ⟨hle,hcp,hex⟩ := h.running q g a hs hg
    refine ⟨by rw [hthread]; exact hle,fun c hc => hcp c (hcps a c hc),?_⟩
    intro r k hr hk
    obtain hk' | hk' := hcalls r k hk
    · exact hex r k hr hk'
    · simp [Pc.idle_plain hk'.1]
  · intro q g a hq hg
    have hs : s.calls q = some g := by
      by_contra hn
      simp [hplain q g hq hn] at hg
    obtain ⟨hle,hcp⟩ := h.claiming q g a hs hg
    exact ⟨by rw [hthread]; exact hle,fun c hc => hcp c (hcps a c hc)⟩
  · intro a c hc
    obtain ⟨hle,hok⟩ := h.checkpoints a c (hcps a c hc)
    exact ⟨by rw [hthread]; exact hle,hok.owed.later hitems,hok.interrupt⟩
  · intro q g a node hq hg c hc
    have hs : s.calls q = some g := by
      by_contra hn
      rw [Pc.due_of_running (hplain q g hq hn).2.2.1] at hg
      cases hg
    exact h.due q g a node hs hg c (hcps a c hc)
  · intro he
    rw [hthread] at he
    obtain ⟨hnone',hall⟩ := h.early he
    refine ⟨fun a => hnone a (hnone' a),?_⟩
    intro q g hq
    obtain hs | hs := hcalls q g hq
    · exact hall q g hs
    · exact .inl hs.1

/-- A resolution settles pending items only. -/
theorem resolve_later (items : List ReviewItem) (id : Nat) (status : ReviewItemStatus) :
    ItemsLater items (items.map (resolveItem id status)) := by
  refine ⟨List.length_map _,fun hn => ?_⟩
  rw [List.map_map,List.map_inj_left]
  intro item hitem
  have hstatus : item.status ≠ some .pendingReview := by
    intro heq
    exact hn (List.mem_map.mpr ⟨item,hitem,heq⟩)
  simp [resolveItem,hstatus]

theorem relabel_later (items : List ReviewItem) (id : Nat) (level : Text) :
    ItemsLater items (items.map fun item => if item.id = id then { item with permissionLevel := level } else item) := by
  refine ⟨List.length_map _,fun _ => ?_⟩
  rw [List.map_map,List.map_inj_left]
  intro item hitem
  simp only [Function.comp_apply]
  split <;> rfl

/-- A resume and a repair read back the row as they have written it. -/
def Command.Undisturbed (s : System) : Command → Prop
  | .step p _ => ∀ f ∈ s.calls p, f.pc.Undisturbed s.shared
  | _ => True

instance (s : System) : ∀ c : Command, Decidable (c.Undisturbed s)
  | .step p _ => inferInstanceAs (Decidable (∀ f ∈ s.calls p, f.pc.Undisturbed s.shared))
  | .begin _ _ _ => isTrue trivial
  | .crash _ => isTrue trivial
  | .review _ _ => isTrue trivial
  | .relabel _ _ => isTrue trivial
  | .sync _ => isTrue trivial
  | .lose _ => isTrue trivial

theorem Call.entry_idle (call : Call) : call.entry.idle = true := by cases call <;> rfl

theorem Call.entry_ok (call : Call) (s : Shared) : call.entry.Ok s := by cases call <;> trivial

/-- Every command keeps the order. -/
theorem Orderly.step {settings : Settings} {s : System} (h : Orderly s) (c : Command) (hu : c.Undisturbed s) :
    Orderly (step settings s c) := by
  cases c with
  | begin p actor call =>
    simp only [ReviewThreads.step]
    split
    · refine h.around ?_ (ItemsLater.refl _) (fun a c hc => hc) ?_
      · rfl
      intro q g hq
      change Function.update s.calls p _ q = some g at hq
      by_cases hqp : q = p
      · rw [hqp,Function.update_self] at hq
        cases hq
        exact .inr ⟨call.entry_idle,call.entry_ok _⟩
      · rw [Function.update_of_ne hqp] at hq
        exact .inl hq
    · exact h
  | step p m =>
    cases hp : s.calls p with
    | none =>
      simp only [ReviewThreads.step,hp]
      exact h
    | some f =>
      apply h.step_call hp (@stepCall_moves settings f.actor m s.shared f.pc) (hu f hp)
      refine ⟨?_,?_,?_⟩ <;> simp only [ReviewThreads.step,hp]
      · exact ⟨_,Function.update_self _ _ _,rfl⟩
      · exact fun q hq => Function.update_of_ne hq _ _
  | crash p =>
    refine h.around ?_ (ItemsLater.refl _) (fun a c hc => hc) ?_
    · rfl
    intro q g hq
    change Function.update s.calls p none q = some g at hq
    by_cases hqp : q = p
    · rw [hqp,Function.update_self] at hq
      cases hq
    · rw [Function.update_of_ne hqp] at hq
      exact .inl hq
  | review id status => exact h.around rfl (resolve_later _ _ _) (fun a c hc => hc) fun q g hq => .inl hq
  | relabel id level => exact h.around rfl (relabel_later _ _ _) (fun a c hc => hc) fun q g hq => .inl hq
  | sync sources => exact h.around rfl (ItemsLater.refl _) (fun a c hc => hc) fun q g hq => .inl hq
  | lose attempt =>
    refine h.around ?_ (ItemsLater.refl _) ?_ fun q g hq => .inl hq
    · rfl
    intro a c hc
    change Function.update s.shared.checkpoints attempt none a = some c at hc
    by_cases ha : a = attempt
    · rw [ha,Function.update_self] at hc
      cases hc
    · rw [Function.update_of_ne ha] at hc
      exact hc

theorem Launch.orderly {settings : Settings} (launch : Launch settings) : Orderly launch.initial := by
  have hcall : ∀ q g, launch.initial.calls q = some g → q = 0 ∧ g.pc = .drafting (.start 0) .preview := by
    intro q g hq
    simp only [Launch.initial] at hq
    split at hq
    · next h0 =>
      cases hq
      exact ⟨h0,rfl⟩
    · cases hq
  have hnone : ∀ a, launch.initial.shared.checkpoints a = none := fun a => rfl
  constructor
  · intro q g hq
    rw [(hcall q g hq).2]
    exact ⟨fun lease hl => absurd hl List.not_mem_nil,fun _ => rfl⟩
  · intro q g hq _
    refine ⟨⟨?_,fun _ => hnone,fun a c hc => absurd hc (by simp [hnone a])⟩,?_⟩
    · rw [(hcall q g hq).2]
      rfl
    · intro r k hr hk
      exact absurd ((hcall r k hk).1.trans (hcall q g hq).1.symm) hr
  · intro q g a hq hg
    rw [(hcall q g hq).2] at hg
    cases hg
  · intro q g a hq hg
    rw [(hcall q g hq).2] at hg
    cases hg
  · intro a c hc
    rw [hnone a] at hc
    cases hc
  · intro q g a node hq hg
    rw [(hcall q g hq).2] at hg
    cases hg
  · intro _
    refine ⟨hnone,fun q g hq => .inr ?_⟩
    rw [(hcall q g hq).2]
    rfl

end ParaWorks.ReviewThreads
