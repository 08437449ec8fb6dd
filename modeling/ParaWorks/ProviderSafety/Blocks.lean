import ParaWorks.ProviderSafety.Phases

/-!
# Blocked families

A block stops its component at once, in both stores or by taking them apart, and only a reviewed reset or supersession of
the component can lift it.
-/

namespace ParaWorks.ProviderSafety

open Lib
open Ledger (RagPaidComponent Usd)
open Release (lowerHmac)

/-! ## The families of a body under a transition

A transition changes one family, the active one of its component, or makes a new family the active one; every other
family is left as it was. -/

/-- A record of each family is there once. -/
def Body.Distinct (b : Body) : Prop := (b.familyRecords.map (·.identity)).Nodup

/-- The record that a transition gives the active family of its component. -/
inductive Target (s : Service) (m : Mutation) (reference : Text) (b : Body) : FamilyRecord → FamilyRecord → Prop
  | changed {target record : FamilyRecord} (htarget : b.activeRecord m.component = some target)
    (hkind : m.supersession = false)
    (hrecord : mutatedRecord s m (some reference) (b.globalSafetyGeneration+1) target = some record) :
    Target s m reference b target record
  | succeeded {target : FamilyRecord} {p : AuthorizedProviderPolicySnapshot}
    (htarget : b.activeRecord m.component = some target) (hkind : m.supersession = true) (hsnapshot : m.snapshot = some p)
    (hcomponent : p.identity.component = m.component) (hnew : p.identity ∉ b.familyRecords.map (·.identity)) :
    Target s m reference b target (newRecord p (b.globalSafetyGeneration+1) reference)

section records

variable {s : Service} {m : Mutation} {reference : Text} {b body : Body} {target record : FamilyRecord}

theorem Body.record?_eq_some (hn : b.Distinct) {i : FamilyIdentity} {f : FamilyRecord} :
    b.record? i = some f ↔ f ∈ b.familyRecords ∧ f.identity = i :=
  find?_eq_some_iff hn

theorem Body.activeRecord_eq_some (hn : b.Distinct) {c : RagPaidComponent} {f : FamilyRecord} :
    b.activeRecord c = some f ↔ f ∈ b.familyRecords ∧ f.identity = b.activeFamilyByComponent.get c :=
  Body.record?_eq_some hn

theorem activeRecord_mem {c : RagPaidComponent} (h : b.activeRecord c = some target) :
    target ∈ b.familyRecords ∧ target.identity = b.activeFamilyByComponent.get c := by
  obtain ⟨hmem,hidentity⟩ := find?_spec h
  exact ⟨hmem,of_decide_eq_true hidentity⟩

/-- What a transition keeps of its record, and what it sets. -/
theorem mutatedRecord_spec {generation : Nat} {reference : Option Text}
    (h : mutatedRecord s m reference generation target = some record) :
    record.identity = target.identity ∧ record.state = m.newState ∧ record.stateVersion = target.stateVersion+1 ∧
      record.familySafetyGeneration = generation ∧ record.reviewedTransitionReferenceHmac = reference ∧
      (∀ blocker ∈ target.firstBlocker, record.firstBlocker = some blocker) ∧
      (m.blocker.isSome = true → record.firstBlocker.isSome = true) := by
  obtain ⟨policy,-,h⟩ := Option.bind_eq_some_iff.mp h
  obtain ⟨blocker,hblocker,h⟩ := Option.bind_eq_some_iff.mp h
  obtain rfl := Option.some.inj h
  unfold mutatedBlocker at hblocker
  refine ⟨rfl,rfl,rfl,rfl,rfl,?_,?_⟩
  · intro known hknown
    rw [Option.mem_def.mp hknown] at hblocker
    cases hm : m.blocker <;> rw [hm] at hblocker <;> exact (Option.some.inj hblocker).symm
  · intro hsome
    obtain ⟨⟨category,run,rest⟩,hm⟩ := Option.isSome_iff_exists.mp hsome
    rw [hm] at hblocker
    cases hf : target.firstBlocker with
    | none =>
      rw [hf] at hblocker
      obtain ⟨run',-,rfl⟩ := Option.map_eq_some_iff.mp hblocker
      rfl
    | some known =>
      rw [hf] at hblocker
      obtain rfl := Option.some.inj hblocker
      rfl

/-- The families after a transition: the target's record in place of the one it had, or beside the others. -/
structure Moved (s : Service) (m : Mutation) (reference : Text) (b body : Body) (target record : FamilyRecord) :
    Prop where
  target : Target s m reference b target record
  uuid : body.authorityUuid = b.authorityUuid
  environment : body.designatedEnvironmentId = b.designatedEnvironmentId
  generation : body.globalSafetyGeneration = b.globalSafetyGeneration+1
  active : body.activeFamilyByComponent = b.activeFamilyByComponent.set m.component record.identity
  mem : ∀ f, f ∈ body.familyRecords ↔ f = record ∨ f ∈ b.familyRecords ∧ f.identity ≠ record.identity

theorem ActiveFamilies.set_get (a : ActiveFamilies) (c : RagPaidComponent) : a.set c (a.get c) = a := by
  cases c <;> rfl

theorem ActiveFamilies.get_set (a : ActiveFamilies) (c c' : RagPaidComponent) (i : FamilyIdentity) :
    (a.set c i).get c' = if c' = c then i else a.get c' := by
  cases c <;> cases c' <;> rfl

theorem mutatedBody_moved (h : mutatedBody s m reference b = some body) :
    ∃ target record, Moved s m reference b body target record := by
  unfold mutatedBody at h
  obtain ⟨target,htarget,h⟩ := Option.bind_eq_some_iff.mp h
  obtain ⟨hmem,hidentity⟩ := activeRecord_mem htarget
  split_ifs at h with hkind
  · obtain ⟨p,hsnapshot,h⟩ := Option.bind_eq_some_iff.mp h
    split_ifs at h with hchecks
    obtain ⟨hcomponent,hnew⟩ := not_or.mp hchecks
    obtain rfl := Option.some.inj h
    refine ⟨target,newRecord p (b.globalSafetyGeneration+1) reference,.succeeded htarget hkind hsnapshot
      (not_not.mp hcomponent) hnew,rfl,rfl,rfl,rfl,fun f => ?_⟩
    dsimp only
    unfold sortRecords
    rw [List.mem_insertionSort,List.mem_append,List.mem_singleton]
    constructor
    · rintro (hf | rfl)
      · exact .inr ⟨hf,fun heq => hnew (List.mem_map.mpr ⟨f,hf,heq⟩)⟩
      · exact .inl rfl
    · rintro (rfl | ⟨hf,-⟩)
      · exact .inr rfl
      · exact .inl hf
  · obtain ⟨record,hrecord,h⟩ := Option.bind_eq_some_iff.mp h
    obtain rfl := Option.some.inj h
    have hsame := (mutatedRecord_spec hrecord).1
    refine ⟨target,record,.changed htarget (by simpa using hkind) hrecord,rfl,rfl,rfl,?_,fun f => ?_⟩
    · dsimp only
      rw [hsame,hidentity,ActiveFamilies.set_get]
    · dsimp only
      unfold changeRecord
      rw [mem_map_update (g := fun f : FamilyRecord => f.identity),hsame]
      constructor
      · rintro (⟨x,-,-,rfl⟩ | hf)
        · exact .inl rfl
        · exact .inr hf
      · rintro (rfl | hf)
        · exact .inl ⟨target,hmem,rfl,rfl⟩
        · exact .inr hf

end records

section moved

variable {s : Service} {m : Mutation} {reference : Text} {b body : Body} {target record : FamilyRecord}

theorem Moved.activeRecord (h : Moved s m reference b body target record) (hn : body.Distinct) :
    body.activeRecord m.component = some record := by
  rw [Body.activeRecord_eq_some hn,h.active,ActiveFamilies.get_set,if_pos rfl]
  exact ⟨(h.mem record).mpr (.inl rfl),rfl⟩

theorem Moved.component (h : Moved s m reference b body target record) (hb : b.Valid s) :
    record.identity.component = m.component := by
  cases h.target with
  | changed htarget _ hrecord =>
    rw [(mutatedRecord_spec hrecord).1,(activeRecord_mem htarget).2]
    exact hb.component m.component
  | succeeded _ _ _ hcomponent _ => exact hcomponent

/-- The active family of the other component is left as it was. -/
theorem Moved.other (h : Moved s m reference b body target record) (hb : b.Valid s) (hn : body.Distinct)
    {c : RagPaidComponent} (hc : c ≠ m.component) : body.activeRecord c = b.activeRecord c := by
  have hactive : body.activeFamilyByComponent.get c = b.activeFamilyByComponent.get c := by
    rw [h.active,ActiveFamilies.get_set,if_neg hc]
  apply Option.ext
  intro f
  rw [Body.activeRecord_eq_some hn,Body.activeRecord_eq_some hb.distinct,hactive,h.mem]
  constructor
  · rintro ⟨rfl | ⟨hf,-⟩,hidentity⟩
    · have hcomponent := h.component hb
      rw [hidentity,hb.component c] at hcomponent
      exact absurd hcomponent hc
    · exact ⟨hf,hidentity⟩
  · rintro ⟨hf,hidentity⟩
    refine ⟨.inr ⟨hf,fun heq => hc ?_⟩,hidentity⟩
    have hcomponent := h.component hb
    rw [← heq,hidentity,hb.component c] at hcomponent
    exact hcomponent

end moved

/-- What the stores agree on after a transition is the body that it planned. -/
theorem Plan.moved {s : Service} {m : Mutation} {w : World} (p : Plan s m w) :
    ∃ record, Moved s m p.reference p.latch.body p.envelope.body p.record record := by
  obtain ⟨target,record,h⟩ := mutatedBody_moved (mutatedEnvelope_body p.mutated)
  have htarget : p.latch.body.activeRecord m.component = some target := by
    cases h.target <;> assumption
  obtain rfl := Option.some.inj (p.active.symm.trans htarget)
  exact ⟨record,h⟩

/-! ## Families over a run -/

section runs

variable {s : Service} {w : World} {latch : Latch s}

/-- What every transition relates, a run relates: from where they agree, the stores come apart or agree on a related
body. -/
theorem run_bodies {R : Body → Body → Prop} (hrefl : ∀ b, R b b) (htrans : ∀ b c d, R b c → R c d → R b d)
    (hmoved : ∀ m reference b body target record, b.Valid s → body.Valid s →
      Moved s m reference b body target record → R b body)
    (h : Agreed s w latch) (calls : List Call) :
    Apart s (run (call s) w calls) ∨ ∃ latch', Agreed s (run (call s) w calls) latch' ∧ R latch.body latch'.body := by
  refine run_invariant (P := fun w' => Apart s w' ∨ ∃ latch', Agreed s w' latch' ∧ R latch.body latch'.body) ?_
    (.inr ⟨latch,h,hrefl _⟩) calls
  rintro w' c (hapart | ⟨latch',hagreed,hr⟩)
  · exact .inl (hapart.of_same (call_apart hapart c))
  · rcases call_agreed hagreed c with hsame | hapart | ⟨m,f,p,latch'',-,hagreed',henvelope⟩
    · exact .inr ⟨latch',hagreed.of_same hsame,hr⟩
    · exact .inl hapart
    · obtain ⟨record,hstep⟩ := p.moved
      rw [← henvelope] at hstep
      obtain rfl := hagreed.unique p.agreed
      refine .inr ⟨latch'',hagreed',htrans _ _ _ hr ?_⟩
      exact hmoved _ _ _ _ _ _ p.latch.valid.body latch''.valid.body hstep

/-- Every family is still there, under the version that it had or a later one, and with the first blocker that it had. -/
def Persists (b b' : Body) : Prop :=
  b'.authorityUuid = b.authorityUuid ∧ b.globalSafetyGeneration ≤ b'.globalSafetyGeneration ∧
    ∀ f ∈ b.familyRecords, ∃ f' ∈ b'.familyRecords, f'.identity = f.identity ∧ f.stateVersion ≤ f'.stateVersion ∧
      (f'.stateVersion = f.stateVersion → f' = f) ∧ ∀ blocker ∈ f.firstBlocker, f'.firstBlocker = some blocker

theorem Persists.refl (b : Body) : Persists b b :=
  ⟨rfl,le_refl _,fun f hf => ⟨f,hf,rfl,le_refl _,fun _ => rfl,fun _ h => h⟩⟩

theorem Persists.trans {b c d : Body} (h : Persists b c) (h' : Persists c d) : Persists b d := by
  obtain ⟨huuid,hgeneration,hrecords⟩ := h
  obtain ⟨huuid',hgeneration',hrecords'⟩ := h'
  refine ⟨huuid'.trans huuid,hgeneration.trans hgeneration',fun f hf => ?_⟩
  obtain ⟨f',hf',hidentity,hle,hversion,hblocker⟩ := hrecords f hf
  obtain ⟨f'',hf'',hidentity',hle',hversion',hblocker'⟩ := hrecords' f' hf'
  refine ⟨f'',hf'',hidentity'.trans hidentity,hle.trans hle',fun heq => ?_,fun blocker h => ?_⟩
  · have hmiddle : f' = f := hversion (by omega)
    have hlast : f'' = f' := hversion' (by omega)
    exact hlast.trans hmiddle
  · exact hblocker' blocker (hblocker blocker h)

theorem Moved.persists {m : Mutation} {reference : Text} {b body : Body} {target record : FamilyRecord} (hb : b.Valid s)
    (h : Moved s m reference b body target record) : Persists b body := by
  refine ⟨h.uuid,by rw [h.generation]; exact Nat.le_succ _,fun f hf => ?_⟩
  by_cases hidentity : f.identity = record.identity
  · have hrecord := (h.mem record).mpr (.inl rfl)
    cases h.target with
    | changed htarget _ hmutated =>
      obtain ⟨hsame,-,hversion,-,-,hblocker,-⟩ := mutatedRecord_spec hmutated
      -- the family of the record is the target's, which is there once
      obtain rfl : f = target :=
        List.inj_on_of_nodup_map hb.distinct hf (activeRecord_mem htarget).1 (hidentity.trans hsame)
      exact ⟨record,hrecord,hsame,by omega,by omega,hblocker⟩
    | succeeded _ _ _ _ hnew => exact absurd (List.mem_map.mpr ⟨f,hf,hidentity⟩) hnew
  · exact ⟨f,(h.mem f).mpr (.inr ⟨hf,hidentity⟩),rfl,le_refl _,fun _ => rfl,fun _ h => h⟩

/-- Over every run, no family of the latch disappears, none has its first blocker replaced or dropped, and one whose
state version is the same is the same altogether. -/
theorem families_persist (s : Service) (w : World) (calls : List Call) :
    match agreedLatch s w, agreedLatch s (run (call s) w calls) with
    | some latch, some latch' => Persists latch.body latch'.body
    | _, _ => True := by
  cases h : agreedLatch s w with
  | none => trivial
  | some latch =>
    cases h' : agreedLatch s (run (call s) w calls) with
    | none => trivial
    | some latch' =>
      have hagreed := agreedLatch_eq_some.mp h
      have hagreed' := agreedLatch_eq_some.mp h'
      rcases run_bodies Persists.refl (fun _ _ _ => Persists.trans)
        (fun _ _ _ _ _ _ hb _ hmoved => hmoved.persists hb) hagreed calls with hapart | ⟨last,hlast,hpersists⟩
      · exact absurd hagreed' (hapart.2.2 latch')
      · rw [hagreed'.unique hlast]
        exact hpersists

end runs

/-- Nothing is served for the component: the stores are apart, or they agree that its active family is blocked. -/
def Stopped (s : Service) (component : RagPaidComponent) (w : World) : Prop :=
  Apart s w ∨ ∃ (latch : Latch s) (record : FamilyRecord), Agreed s w latch ∧
    latch.body.activeRecord component = some record ∧ record.state ∈ [.blockedOverrun,.blockedRemediation]

/-- The calls that may make a blocked component ready again. -/
def Lifts (component : RagPaidComponent) (w : World) : Call → Prop
  | .reviewedReset i _ _ | .reviewedSupersession i _ _ _ =>
    ∃ command, w.commands[i]? = some command ∧ command.payload.context.component = component
  | _ => False

/-- A block that passes every check. -/
def Planned (s : Service) (b : BlockInput) (w : World) : Prop :=
  0 < b.agentRunId ∧ ∃ reference, incidentReference s b = some reference ∧ lowerHmac reference = true ∧
    Nonempty (Plan s (blockMutation b reference) w)

section stopped

variable {s : Service} {w : World} {component : RagPaidComponent}

theorem Stopped.of_same {w' : World} (hsame : Same w w') (h : Stopped s component w) : Stopped s component w' := by
  rcases h with hapart | ⟨latch,record,hagreed,hactive,hstate⟩
  · exact .inl (hapart.of_same hsame)
  · exact .inr ⟨latch,record,hagreed.of_same hsame,hactive,hstate⟩

theorem Stopped.requireReady (h : Stopped s component w) (policy : AuthorizedProviderPolicySnapshot) :
    requireReady s w component policy = none := by
  rcases h with hapart | ⟨latch,record,hagreed,hactive,hstate⟩
  · exact requireReady_none hapart.2.2
  · apply Option.eq_none_iff_forall_ne_some.mpr
    intro b hb
    obtain ⟨latch',family,hagreed',hactive',hready,-⟩ := requireReady_eq_some hb
    obtain rfl := hagreed.unique hagreed'
    obtain rfl := Option.some.inj (hactive.symm.trans hactive')
    rw [hready] at hstate
    revert hstate
    decide

/-- No other transition of the component is allowed in a blocked state. -/
theorem allowed_blocked {c : Call} {m : Mutation} {f : Failures} {state : SafetyState} (hrequest : Requested s w c m f)
    (hlifts : ¬Lifts m.component w c) (hstate : state ∈ [.blockedOverrun,.blockedRemediation]) : state ∉ m.allowed := by
  have hblocked : ∀ x : SafetyState, x ∈ [.blockedOverrun,.blockedRemediation] → x ∉ [SafetyState.ready] ∧
      x ∉ [SafetyState.rebindRequired] := by
    intro x
    cases x <;> decide
  cases c with
  | markRebindRequired i now f =>
    obtain ⟨command,-,rfl,-⟩ := hrequest
    exact (hblocked state hstate).1
  | reviewedRebind i snapshot now f =>
    obtain ⟨command,-,rfl,-⟩ := hrequest
    exact (hblocked state hstate).2
  | reviewedReset i now f =>
    obtain ⟨command,hcommand,rfl,-⟩ := hrequest
    exact absurd ⟨command,hcommand,rfl⟩ hlifts
  | reviewedSupersession i successor now f =>
    obtain ⟨command,hcommand,rfl,-⟩ := hrequest
    exact absurd ⟨command,hcommand,rfl⟩ hlifts
  | block b f =>
    obtain ⟨reference,-,-,-,rfl,-⟩ := hrequest
    exact (hblocked state hstate).1
  | _ => exact hrequest.elim

theorem call_stopped (h : Stopped s component w) {c : Call} (hlifts : ¬Lifts component w c) :
    Stopped s component (call s w c) := by
  rcases h with hapart | ⟨latch,record,hagreed,hactive,hstate⟩
  · exact .inl (hapart.of_same (call_apart hapart c))
  rcases call_agreed hagreed c with hsame | hapart | ⟨m,f,p,latch',hrequest,hagreed',henvelope⟩
  · exact .inr ⟨latch,record,hagreed.of_same hsame,hactive,hstate⟩
  · exact .inl hapart
  · obtain rfl := hagreed.unique p.agreed
    obtain ⟨new,hmoved⟩ := p.moved
    rw [← henvelope] at hmoved
    have hcomponent : component ≠ m.component := by
      rintro rfl
      obtain rfl := Option.some.inj (hactive.symm.trans p.active)
      exact allowed_blocked hrequest hlifts hstate p.allowed
    refine .inr ⟨latch',record,hagreed',?_,hstate⟩
    rw [← hactive]
    exact hmoved.other p.latch.valid.body latch'.valid.body.distinct hcomponent

theorem run_stopped (h : Stopped s component w) {calls : List Call}
    (hcalls : RunMeets (call s) (fun w c => ¬Lifts component w c) w calls) : Stopped s component (run (call s) w calls) :=
  run_invariant_of (P := Stopped s component) (fun _ _ hlifts hw => call_stopped hw hlifts) hcalls h

end stopped

section block

variable {s : Service} {w : World} {b : BlockInput} {f : Failures}

theorem blockedState_mem (category : BlockerCategory) :
    category.blockedState ∈ [SafetyState.blockedOverrun,.blockedRemediation] := by
  cases category <;> decide

/-- A block that was written stops its component. -/
theorem Effect.stopped {reference : Text} {p : Plan s (blockMutation b reference) w} {file : Option Text} {db : Database}
    {v : World} (h : Effect f p file db) (hfile : v.file = file) (hdb : v.db = db) :
    Same w v ∧ p.Lost f ∨ Stopped s b.component v := by
  rcases effect_phase h hfile hdb with hlost | hapart | ⟨latch,hagreed,henvelope⟩
  · exact .inl hlost
  · exact .inr (.inl hapart)
  · obtain ⟨record,hmoved⟩ := p.moved
    rw [← henvelope] at hmoved
    refine .inr (.inr ⟨latch,record,hagreed,hmoved.activeRecord latch.valid.body.distinct,?_⟩)
    cases hmoved.target with
    | changed _ _ hrecord =>
      rw [(mutatedRecord_spec hrecord).2.1]
      exact blockedState_mem b.category
    | succeeded _ hkind _ _ _ => cases hkind

theorem call_block : ¬Planned s b w ∧ Same w (call s w (.block b f)) ∨
    (∃ (reference : Text) (p : Plan s (blockMutation b reference) w), p.Lost f ∧ Same w (call s w (.block b f))) ∨
      Stopped s b.component (call s w (.block b f)) := by
  refine wp_finalState (m := block s b f) (P := fun w' => ¬Planned s b w ∧ Same w w' ∨
    (∃ (reference : Text) (p : Plan s (blockMutation b reference) w), p.Lost f ∧ Same w w') ∨ Stopped s b.component w')
    (wp_block ?_ ?_)
  · intro hrefused
    refine .inl ⟨?_,Same.refl w⟩
    rintro ⟨hrun,reference,hreference,hlower,-⟩
    exact hrefused reference hrun hreference hlower
  · intro reference w' _ hreference _ hmutated
    cases hmutated with
    | refused hplan _ =>
      refine .inl ⟨?_,rfl,rfl⟩
      rintro ⟨-,reference',hreference',-,⟨p⟩⟩
      obtain rfl := Option.some.inj (hreference.symm.trans hreference')
      exact hplan.false p
    | @done p file db heffect =>
      rcases heffect.stopped (v := { w with commands := spent _ w, file, db }) rfl rfl with ⟨hsame,hlost⟩ | hstopped
      · exact .inr (.inl ⟨reference,p,hlost,hsame⟩)
      · exact .inr (.inr hstopped)

/-- A block that passes its checks stops its component until a reviewed reset or supersession of it, whatever later calls
do and whichever of their writes fail; unless neither the file nor the rows of the block could be written at all. -/
theorem block_fails_closed (s : Service) (w : World) (b : BlockInput) (f : Failures) :
    ¬Planned s b w ∧ Same w (call s w (.block b f)) ∨
      (∃ (reference : Text) (p : Plan s (blockMutation b reference) w), p.Lost f ∧ Same w (call s w (.block b f))) ∨
        ∀ later, RunMeets (call s) (fun w c => ¬Lifts b.component w c) (call s w (.block b f)) later →
          ∀ policy, requireReady s (run (call s) (call s w (.block b f)) later) b.component policy = none := by
  have hcases := call_block (s := s) (w := w) (b := b) (f := f)
  rcases hcases with hrefused | hlost | hstopped
  · exact .inl hrefused
  · exact .inr (.inl hlost)
  · exact .inr (.inr fun later hlater policy => (run_stopped hstopped hlater).requireReady policy)

end block

end ParaWorks.ProviderSafety
