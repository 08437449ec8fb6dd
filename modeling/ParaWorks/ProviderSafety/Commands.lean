import ParaWorks.ProviderSafety.Blocks

/-!
# Reviewed commands

A command acts at most once, on the state that was reviewed and on no later one, and a reset or a supersession of a
component that was ever blocked was issued with the acknowledgement.
-/

namespace ParaWorks.ProviderSafety

open Lib
open Ledger (RagPaidComponent Usd)
open Release (lowerHmac)

/-- The command that a call is made with. -/
def Call.command? : Call → Option Nat
  | markRebindRequired i _ _ | reviewedRebind i _ _ _ | reviewedReset i _ _ | reviewedSupersession i _ _ _ => some i
  | _ => none

/-- What `issue` made sure of. -/
def Acknowledged (p : CommandPayload) : Prop :=
  p.context.hasHistoricalBlocker = true → p.operation ∈ [.reset,.supersession] → p.historicalBlockAcknowledged = true

section commands

variable {s : Service} {w : World}

theorem issue_eq_some {secret : ByteArray} {context : ReviewContext} {operation : ReviewedOperation}
    {successor : Option AuthorizedProviderPolicySnapshot} {actor reference : Text} {acknowledged : Bool} {command : Command}
    (h : issue s secret context operation successor actor reference acknowledged = some command) :
    command.payload.context = context ∧ command.consumed = false ∧ Acknowledged command.payload := by
  unfold issue at h
  split_ifs at h with hhmacs hacknowledged hsuccessor
  obtain ⟨hmac,-,rfl⟩ := Option.map_eq_some_iff.mp h
  refine ⟨rfl,rfl,fun hblocker hoperation => ?_⟩
  dsimp only at hblocker hoperation ⊢
  by_contra hnot
  refine hacknowledged ⟨hblocker,?_,by simpa using hnot⟩
  simpa using hoperation

/-- The commands that a call leaves: those it found, of which it may have spent one, and at most a new one. -/
structure Extended (w w' : World) : Prop where
  contexts : w.contexts <+: w'.contexts
  commands : ∀ (i : Nat) (command : Command), w.commands[i]? = some command →
    ∃ command', w'.commands[i]? = some command' ∧ command'.payload = command.payload ∧
      (command.consumed = true → command'.consumed = true)

theorem Extended.refl (w : World) : Extended w w := ⟨List.prefix_rfl,fun _ command h => ⟨command,h,rfl,id⟩⟩

theorem Extended.trans {w' w'' : World} (h : Extended w w') (h' : Extended w' w'') : Extended w w'' := by
  refine ⟨h.contexts.trans h'.contexts,fun i command hi => ?_⟩
  obtain ⟨command',hi',hpayload,hconsumed⟩ := h.commands i command hi
  obtain ⟨command'',hi'',hpayload',hconsumed'⟩ := h'.commands i command' hi'
  exact ⟨command'',hi'',hpayload'.trans hpayload,hconsumed' ∘ hconsumed⟩

theorem spent_extends {m : Mutation} {w' : World} (hcontexts : w'.contexts = w.contexts)
    (hcommands : w'.commands = w.commands ∨ w'.commands = spent m w) : Extended w w' := by
  refine ⟨by rw [hcontexts],fun i command hi => ?_⟩
  rcases hcommands with hsame | hspent
  · exact ⟨command,by rw [hsame]; exact hi,rfl,id⟩
  · rw [hspent]
    unfold spent
    cases m.command with
    | none => exact ⟨command,hi,rfl,id⟩
    | some used =>
      obtain ⟨index,operation⟩ := used
      dsimp only
      rw [List.getElem?_modify,hi]
      refine ⟨_,rfl,?_,?_⟩ <;> dsimp only <;> split
      · rfl
      · rfl
      · exact fun _ => rfl
      · exact id

theorem mutated_extends {m : Mutation} {f : Failures} {w' : World} (h : Mutated s m f w w') : Extended w w' := by
  cases h with
  | refused _ hcommands => exact spent_extends rfl hcommands
  | done p _ => exact spent_extends rfl (.inr rfl)

theorem call_extends (c : Call) : Extended w (call s w c) := by
  have hcases := call_cases (s := s) (w := w) c
  generalize call s w c = w' at hcases
  cases hcases with
  | kept => exact .refl w
  | attempted => exact ⟨List.prefix_rfl,fun _ command h => ⟨command,h,rfl,id⟩⟩
  | handedOut _ _ => exact ⟨List.prefix_append _ _,fun _ command h => ⟨command,h,rfl,id⟩⟩
  | issued _ _ =>
    refine ⟨List.prefix_rfl,fun i command h => ⟨command,?_,rfl,id⟩⟩
    rw [List.getElem?_append_left (List.getElem?_eq_some_iff.mp h).1]
    exact h
  | bootstrapped _ _ hdone => cases hdone <;> exact ⟨List.prefix_rfl,fun _ command h => ⟨command,h,rfl,id⟩⟩
  | recovered _ _ _ => exact ⟨List.prefix_rfl,fun _ command h => ⟨command,h,rfl,id⟩⟩
  | mutated _ hdone => exact mutated_extends hdone

theorem run_extends (calls : List Call) : Extended w (run (call s) w calls) :=
  run_invariant (P := Extended w) (fun _ c h => h.trans (call_extends c)) (.refl w) calls

/-- A call leaves the generation, or takes it on. -/
theorem call_generation {latch latch' : Latch s} (h : Agreed s w latch) {c : Call} (h' : Agreed s (call s w c) latch') :
    latch.body.globalSafetyGeneration ≤ latch'.body.globalSafetyGeneration := by
  rcases run_agreed h [c] with hsame | hapart | ⟨latch'',hagreed,hlt⟩
  · rw [(h.of_same hsame).unique h']
  · exact absurd h' (hapart.2.2 latch')
  · rw [h'.unique hagreed]
    exact hlt.le

theorem mem_commands_of_mutated {m : Mutation} {f : Failures} {w' : World} (h : Mutated s m f w w') {command : Command}
    (hmem : command ∈ w'.commands) : ∃ found ∈ w.commands, command.payload = found.payload := by
  have hcommands : w'.commands = w.commands ∨ w'.commands = spent m w := by
    cases h with
    | refused _ hcommands => exact hcommands
    | done p _ => exact .inr rfl
  rcases hcommands with hsame | hspent
  · exact ⟨command,hsame ▸ hmem,rfl⟩
  · rw [hspent] at hmem
    unfold spent at hmem
    cases hcommand : m.command with
    | none =>
      rw [hcommand] at hmem
      exact ⟨command,hmem,rfl⟩
    | some used =>
      rw [hcommand] at hmem
      obtain ⟨i,hi⟩ := List.getElem?_of_mem hmem
      rw [List.getElem?_modify] at hi
      obtain ⟨found,hfound,rfl⟩ := Option.map_eq_some_iff.mp hi
      refine ⟨found,List.mem_of_getElem? hfound,?_⟩
      split <;> rfl

end commands

/-! ## What holds of them -/

/-- What holds of the contexts that were handed out and the commands that were issued. -/
structure Reviewed (s : Service) (w : World) : Prop where
  phase : Unborn w ∧ w.contexts = [] ∨ Apart s w ∨ ∃ latch, Agreed s w latch
  contexts : ∀ latch, Agreed s w latch →
    ∀ context ∈ w.contexts, context.globalSafetyGeneration ≤ latch.body.globalSafetyGeneration
  commands : ∀ command ∈ w.commands, command.payload.context ∈ w.contexts ∧ Acknowledged command.payload

section reviewed

variable {s : Service} {w : World}

theorem Unborn.not_agreed {latch : Latch s} (h : Unborn w) : ¬Agreed s w latch := by
  intro hagreed
  have hauthority := hagreed.authority
  rw [h] at hauthority
  cases hauthority

/-- The contexts after a call: those before it, and at most one of the generation that both stores agree on. -/
theorem call_contexts (c : Call) :
    (call s w c).contexts = w.contexts ∨
      ∃ latch context, Agreed s w latch ∧ Agreed s (call s w c) latch ∧
        (call s w c).contexts = w.contexts++[context] ∧
        context.globalSafetyGeneration = latch.body.globalSafetyGeneration := by
  have hcases := call_cases (s := s) (w := w) c
  generalize call s w c = w' at hcases
  cases hcases with
  | @handedOut component latch record hagreed _ =>
    exact .inr ⟨latch,reviewContextFrom s latch.body component record,hagreed,hagreed,rfl,rfl⟩
  | bootstrapped _ _ hdone => cases hdone <;> exact .inl rfl
  | mutated _ hdone => cases hdone <;> exact .inl rfl
  | _ => exact .inl rfl

theorem call_commands (c : Call) {command : Command} (h : command ∈ (call s w c).commands) :
    (∃ found ∈ w.commands, command.payload = found.payload) ∨
      command.payload.context ∈ w.contexts ∧ Acknowledged command.payload := by
  have hcases := call_cases (s := s) (w := w) c
  generalize call s w c = w' at hcases h
  cases hcases with
  | issued hcontext hissue =>
    rcases List.mem_append.mp h with hmem | hmem
    · exact .inl ⟨command,hmem,rfl⟩
    · obtain rfl := List.mem_singleton.mp hmem
      obtain ⟨hsame,-,hacknowledged⟩ := issue_eq_some hissue
      exact .inr ⟨hsame ▸ hcontext,hacknowledged⟩
  | bootstrapped _ _ hdone => cases hdone <;> exact .inl ⟨command,h,rfl⟩
  | mutated _ hdone => exact .inl (mem_commands_of_mutated hdone h)
  | _ => exact .inl ⟨command,h,rfl⟩

theorem call_reviewed (h : Reviewed s w) (c : Call) : Reviewed s (call s w c) := by
  have hextends := call_extends (s := s) (w := w) c
  have hcontexts := call_contexts (s := s) (w := w) c
  refine ⟨?_,?_,?_⟩
  · rcases h.phase with ⟨hunborn,hnil⟩ | hapart | ⟨latch,hagreed⟩
    · rcases hcontexts with hsame | ⟨latch,_,hagreed,-⟩
      · rcases call_unborn hunborn c with hunborn' | hphase
        · exact .inl ⟨hunborn',hsame.trans hnil⟩
        · exact .inr hphase
      · exact absurd hagreed hunborn.not_agreed
    · exact .inr (.inl (hapart.of_same (call_apart hapart c)))
    · rcases call_agreed hagreed c with hsame | hapart | ⟨_,_,_,latch',-,hagreed',-⟩
      · exact .inr (.inr ⟨latch,hagreed.of_same hsame⟩)
      · exact .inr (.inl hapart)
      · exact .inr (.inr ⟨latch',hagreed'⟩)
  · intro latch' hagreed' context hcontext
    rcases h.phase with ⟨hunborn,hnil⟩ | hapart | ⟨latch,hagreed⟩
    · rcases hcontexts with hsame | ⟨latch,_,hagreed,-⟩
      · rw [hsame,hnil] at hcontext
        cases hcontext
      · exact absurd hagreed hunborn.not_agreed
    · exact absurd hagreed' ((hapart.of_same (call_apart hapart c)).2.2 latch')
    · have hle := call_generation hagreed hagreed'
      rcases hcontexts with hsame | ⟨latch'',_,-,hsecond,happend,hgeneration⟩
      · exact (h.contexts latch hagreed context (hsame ▸ hcontext)).trans hle
      · rw [happend] at hcontext
        rcases List.mem_append.mp hcontext with hold | hnew
        · exact (h.contexts latch hagreed context hold).trans hle
        · rw [List.mem_singleton.mp hnew,hgeneration,hsecond.unique hagreed']
  · intro command hcommand
    rcases call_commands c hcommand with ⟨found,hfound,hpayload⟩ | ⟨hcontext,hacknowledged⟩
    · rw [hpayload]
      obtain ⟨hcontext,hacknowledged⟩ := h.commands found hfound
      exact ⟨hextends.contexts.subset hcontext,hacknowledged⟩
    · exact ⟨hextends.contexts.subset hcontext,hacknowledged⟩

theorem run_reviewed (s : Service) (calls : List Call) : Reviewed s (run (call s) World.initial calls) := by
  refine run_invariant (P := Reviewed s) (fun _ c h => call_reviewed h c)
    ⟨.inl ⟨(rfl : World.initial.db = ⟨none,[],[]⟩),rfl⟩,?_,?_⟩ calls
  · intro latch _ context hcontext
    cases hcontext
  · intro command hcommand
    cases hcommand

/-- The transition of a reviewed call is of the component of its command, under the operation that was reviewed. -/
theorem requested_command {c : Call} {m : Mutation} {f : Failures} {i : Nat} (hrequest : Requested s w c m f)
    (hi : c.command? = some i) : ∃ operation, m.command = some (i,operation) := by
  cases c with
  | markRebindRequired j now f =>
    obtain ⟨command,-,rfl,-⟩ := hrequest
    exact ⟨.markRebindRequired,by rw [← Option.some.inj hi]; rfl⟩
  | reviewedRebind j snapshot now f =>
    obtain ⟨command,-,rfl,-⟩ := hrequest
    exact ⟨.rebind,by rw [← Option.some.inj hi]; rfl⟩
  | reviewedReset j now f =>
    obtain ⟨command,-,rfl,-⟩ := hrequest
    exact ⟨.reset,by rw [← Option.some.inj hi]; rfl⟩
  | reviewedSupersession j successor now f =>
    obtain ⟨command,-,rfl,-⟩ := hrequest
    exact ⟨.supersession,by rw [← Option.some.inj hi]; rfl⟩
  | block b f => cases hi
  | _ => exact hrequest.elim

/-- A reviewed call that changes a store found its command unspent, issued for the very state that it changes; and it
spends it. -/
theorem reviewed_changes {c : Call} {i : Nat} (hi : c.command? = some i) :
    Same w (call s w c) ∨ ∃ m f, ∃ p : Plan s m w, Requested s w c m f ∧
      ∃ command, w.commands[i]? = some command ∧ command.consumed = false ∧
        command.payload.context = reviewContextFrom s p.latch.body m.component p.record ∧
        m.command = some (i,command.payload.operation) ∧
        ∃ spent, (call s w c).commands[i]? = some spent ∧ spent.consumed = true := by
  have hcases := call_cases (s := s) (w := w) c
  generalize call s w c = w' at hcases
  cases hcases with
  | kept => exact .inl (Same.refl w)
  | attempted => exact .inl ⟨rfl,rfl⟩
  | handedOut _ _ => exact .inl ⟨rfl,rfl⟩
  | issued _ _ => exact .inl ⟨rfl,rfl⟩
  | bootstrapped hcall _ _ =>
    rw [hcall] at hi
    cases hi
  | recovered hcall _ _ =>
    rw [hcall] at hi
    cases hi
  | @mutated m f w' hrequest hdone =>
    obtain ⟨operation,hcommand⟩ := requested_command hrequest hi
    cases hdone with
    | refused _ _ => exact .inl ⟨rfl,rfl⟩
    | done p _ =>
      have hauthorized := p.authorized
      unfold Authorized at hauthorized
      rw [hcommand] at hauthorized
      obtain ⟨command,hfound,hfresh,-,hcontext,hoperation,-⟩ := hauthorized
      refine .inr ⟨m,f,p,hrequest,command,hfound,hfresh,hcontext,by rw [hcommand,hoperation],?_⟩
      dsimp only
      unfold spent
      rw [hcommand]
      dsimp only
      rw [List.getElem?_modify,hfound]
      exact ⟨_,rfl,by simp⟩

/-- What agrees after a change is of a later generation. -/
theorem changed_generation {latch : Latch s} (h : Agreed s w latch) {c : Call} (hchanged : ¬Same w (call s w c))
    {later : List Call} {latch' : Latch s} (h' : Agreed s (run (call s) (call s w c) later) latch') :
    latch.body.globalSafetyGeneration < latch'.body.globalSafetyGeneration := by
  rcases run_agreed h [c] with hsame | hapart | ⟨next,hnext,hlt⟩
  · exact absurd hsame hchanged
  · exact absurd h' ((Apart.of_same (run_apart hapart later) hapart).2.2 latch')
  · rcases run_agreed hnext later with hsame | hapart | ⟨last,hlast,hlt'⟩
    · rw [h'.unique (hnext.of_same hsame)]
      exact hlt
    · exact absurd h' (hapart.2.2 latch')
    · rw [h'.unique hlast]
      exact hlt.trans hlt'

/-- The command of a call cannot act in a world any more: it was spent, or it was issued for a context of `contexts`. -/
def Stale (contexts : List ReviewContext) (i : Nat) (w : World) (c : Call) : Prop :=
  c.command? = some i ∨
    ∃ (j : Nat) (command : Command), c.command? = some j ∧ w.commands[j]? = some command ∧
      command.payload.context ∈ contexts

/-- In every run, a reviewed call that changes a store found its command unspent, issued for the state that both stores
were in, and acknowledged if the component was ever blocked; and from then on neither that command nor any other whose
context was handed out before ever changes a store. -/
theorem reviewed_once (s : Service) (before : List Call) (c : Call) :
    match c.command? with
    | none => True
    | some i =>
      Same (run (call s) World.initial before) (call s (run (call s) World.initial before) c) ∨
        (∃ (latch : Latch s) (component : RagPaidComponent) (record : FamilyRecord) (command : Command),
          Agreed s (run (call s) World.initial before) latch ∧ latch.body.activeRecord component = some record ∧
            (run (call s) World.initial before).commands[i]? = some command ∧ command.consumed = false ∧
            command.payload.context = reviewContextFrom s latch.body component record ∧ Acknowledged command.payload) ∧
          ∀ later c', Stale (run (call s) World.initial before).contexts i
              (run (call s) World.initial (before++c::later)) c' →
            Same (run (call s) World.initial (before++c::later))
              (call s (run (call s) World.initial (before++c::later)) c') := by
  have hreviewed := run_reviewed s before
  simp only [run_append,run_cons]
  generalize run (call s) World.initial before = w at *
  cases hi : c.command? with
  | none => trivial
  | some i =>
    by_cases hchanged : Same w (call s w c)
    · exact .inl hchanged
    rcases reviewed_changes hi with hsame | ⟨m,f,p,-,command,hfound,hfresh,hcontext,-,used,hused,hspent⟩
    · exact .inl hsame
    refine .inr ⟨⟨p.latch,m.component,p.record,command,p.agreed,p.active,hfound,hfresh,hcontext,
      (hreviewed.commands command (List.mem_of_getElem? hfound)).2⟩,?_⟩
    rintro later c' (hindex | ⟨j,command',hindex,hfound',hold⟩)
    · rcases reviewed_changes hindex with hsame | ⟨m',f',p',-,command',hfound',hfresh',-⟩
      · exact hsame
      · obtain ⟨found,hlast,-,hconsumed⟩ := (run_extends (s := s) later).commands i used hused
        rw [Option.some.inj (hfound'.symm.trans hlast),hconsumed hspent] at hfresh'
        cases hfresh'
    · rcases reviewed_changes hindex with hsame | ⟨m',f',p',-,command'',hfound'',-,hcontext',-⟩
      · exact hsame
      · obtain rfl := Option.some.inj (hfound''.symm.trans hfound')
        have hle := hreviewed.contexts p.latch p.agreed _ hold
        have hlt := changed_generation p.agreed hchanged p'.agreed
        rw [hcontext'] at hle
        exact absurd hlt (Nat.not_lt.mpr hle)

end reviewed

end ParaWorks.ProviderSafety
