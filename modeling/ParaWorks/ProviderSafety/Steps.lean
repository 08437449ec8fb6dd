import ParaWorks.ProviderSafety.Service

/-!
# What one call does to the world

Each call is inverted once: what it checked, what it writes, and what it leaves of the two stores when a write of it
fails.
-/

namespace ParaWorks.ProviderSafety

open Lib
open Ledger (RagPaidComponent Usd)
open Release (lowerHmac)

/-- The file is read, and the database agrees with it. -/
def Agreed (s : Service) (w : World) (latch : Latch s) : Prop :=
  w.file.bind (readUnlocked s) = some latch ∧ matchDatabaseRows s latch w.db = true

/-- Both stores are as they were. -/
def Same (w w' : World) : Prop := w'.file = w.file ∧ w'.db = w.db

/-! ## The parts of a call -/

section parts

variable {s : Service} {w : World} {α : Type}

theorem wp_readMatched {k : Latch s → SafetyM α} {Q : α → World → Prop} {E : SafetyError → World → Prop}
    (hrefused : (∀ latch, ¬Agreed s w latch) → E .refused w)
    (hread : ∀ latch, Agreed s w latch → wp (k latch) Q E w) :
    wp (readMatched s >>= k) Q E w := by
  apply wp_seq
  unfold readMatched
  apply wp_seq_get
  apply wp_seq_lookup
  · intro hnone
    refine hrefused fun latch hagreed => ?_
    have hread := hagreed.1
    rw [hnone] at hread
    cases hread
  intro file hfile
  apply wp_seq_lookup
  · intro hnone
    refine hrefused fun latch hagreed => ?_
    have hread := hagreed.1
    rw [hfile,Option.bind_some,hnone] at hread
    cases hread
  intro latch hlatch
  have hfound : w.file.bind (readUnlocked s) = some latch := by rw [hfile]; exact hlatch
  apply wp_seq_check
  · intro hdrift
    refine hrefused fun latch' hagreed => ?_
    have hmatch := hagreed.2
    rw [← Option.some.inj (hfound.symm.trans hagreed.1),hdrift] at hmatch
    cases hmatch
  intro hmatch
  exact hread latch ⟨hfound,hmatch⟩

theorem wp_replaceFile {printed : Option Text} {failure : Failure} {Q : Unit → World → Prop}
    {E : SafetyError → World → Prop} (hnone : printed = none ∨ failure = .before → E .replaceFailed w)
    (hafter : ∀ file, printed = some file → failure = .after → E .replaceFailed { w with file := some file })
    (hwritten : ∀ file, printed = some file → failure = .none → Q () { w with file := some file }) :
    wp (replaceFile printed failure) Q E w := by
  unfold replaceFile
  apply wp_seq_lookup fun h => hnone (.inl h)
  intro file hfile
  apply wp_seq_check fun h => hnone (.inr (not_not.mp (of_decide_eq_false h)))
  intro hbefore
  apply wp_seq_modify
  apply (wp_require _ _ _ _ _).mpr
  constructor
  · intro h
    have hbefore := of_decide_eq_true hbefore
    have hafter := of_decide_eq_true h
    exact hwritten file hfile (by cases failure <;> first | rfl | contradiction)
  · exact fun h => hafter file hfile (not_not.mp (of_decide_eq_false h))

theorem wp_commitRows {rows : Option Database} {failure : Failure} {Q : Unit → World → Prop}
    {E : SafetyError → World → Prop} (hnone : rows = none ∨ failure = .before → E .transitionFailed w)
    (hafter : ∀ db, rows = some db → failure = .after → E .transitionFailed { w with db })
    (hcommitted : ∀ db, rows = some db → failure = .none → Q () { w with db }) :
    wp (commitRows rows failure) Q E w := by
  unfold commitRows
  apply wp_seq_lookup fun h => hnone (.inl h)
  intro db hdb
  apply wp_seq_check fun h => hnone (.inr (not_not.mp (of_decide_eq_false h)))
  intro hbefore
  apply wp_seq_modify
  apply (wp_require _ _ _ _ _).mpr
  constructor
  · intro h
    have hbefore := of_decide_eq_true hbefore
    have hafter := of_decide_eq_true h
    exact hcommitted db hdb (by cases failure <;> first | rfl | contradiction)
  · exact fun h => hafter db hdb (not_not.mp (of_decide_eq_false h))

end parts

/-! ## A transition -/

/-- What lets a transition through, and where its reference and its actor come from. -/
def Authorized (s : Service) (m : Mutation) (w : World) (b : Body) (record : FamilyRecord) (reference : Text)
    (actor : Option Text) : Prop :=
  match m.command with
  | none => record.reviewedTransitionReferenceHmac = some reference ∧ actor = m.actorSubjectHmac
  | some (index,operation) => ∃ command, w.commands[index]? = some command ∧ command.consumed = false ∧
      commandHmac s s.secret command.payload = some command.hmac ∧
      command.payload.context = reviewContextFrom s b m.component record ∧ command.payload.operation = operation ∧
      command.payload.successor = m.snapshot ∧ reference = command.payload.reviewedGateReferenceHmac ∧
      actor = some command.payload.actorSubjectHmac

/-- The commands when the one of a transition is spent. -/
def spent (m : Mutation) (w : World) : List Command :=
  match m.command with
  | none => w.commands
  | some (index,_) => w.commands.modify index fun command => { command with consumed := true }

/-- A transition that passed every check: what it read, and the envelope that it writes. -/
structure Plan (s : Service) (m : Mutation) (w : World) where
  latch : Latch s
  record : FamilyRecord
  reference : Text
  actor : Option Text
  envelope : Envelope
  agreed : Agreed s w latch
  active : latch.body.activeRecord m.component = some record
  authorized : Authorized s m w latch.body record reference actor
  allowed : record.state ∈ m.allowed
  mutated : mutatedEnvelope s m reference latch = some envelope

/-- The rows that the plan commits when its file could not be written. -/
def Plan.remediation {s : Service} {m : Mutation} {w : World} (p : Plan s m w) : Option Database :=
  remediationRows s m p.reference p.actor p.latch w.db

/-- What the writes of a transition leave in the two stores. -/
inductive Effect {s : Service} {m : Mutation} {w : World} (f : Failures) (p : Plan s m w) :
    Option Text → Database → Prop
  | unwritten (hfile : replaceUnlocked s p.envelope = none ∨ f.replace = .before)
    (hrows : m.blocker.isSome = true → p.record.state = .ready → p.remediation = none ∨ f.remediation = .before) :
    Effect f p w.file w.db
  | remediated {db : Database} (hfile : replaceUnlocked s p.envelope = none ∨ f.replace = .before)
    (hblock : m.blocker.isSome = true) (hready : p.record.state = .ready) (hrows : p.remediation = some db) :
    Effect f p w.file db
  | written {file : Text} (hfile : replaceUnlocked s p.envelope = some file) : Effect f p (some file) w.db
  | writtenRemediated {file : Text} {db : Database} (hfile : replaceUnlocked s p.envelope = some file)
    (hblock : m.blocker.isSome = true) (hready : p.record.state = .ready) (hrows : p.remediation = some db) :
    Effect f p (some file) db
  | committed {file : Text} {latch : Latch s} {db : Database} (hfile : replaceUnlocked s p.envelope = some file)
    (hread : readUnlocked s file = some latch)
    (hrows : commitTransition s (m.input p.reference p.actor) p.latch latch.body latch.envelopeDigest w.db = some db) :
    Effect f p (some file) db

/-- What a transition leaves of the world. -/
inductive Mutated (s : Service) (m : Mutation) (f : Failures) (w : World) : World → Prop
  | refused {commands : List Command} (hplan : IsEmpty (Plan s m w))
    (hcommands : commands = w.commands ∨ commands = spent m w) :
    Mutated s m f w { w with commands }
  | done (p : Plan s m w) {file : Option Text} {db : Database} (h : Effect f p file db) :
    Mutated s m f w { w with commands := spent m w, file, db }

section mutate

variable {s : Service} {m : Mutation} {w : World} {f : Failures}

theorem set_eq_modify {α : Type} {xs : List α} {i : Nat} {a : α} (h : xs[i]? = some a) (g : α → α) :
    xs.set i (g a) = xs.modify i g := by
  apply List.ext_getElem?
  intro j
  rw [List.getElem?_set,List.getElem?_modify]
  have hlt := (List.getElem?_eq_some_iff.mp h).1
  by_cases hj : i = j
  · subst hj
    have ha : xs[i] = a := (List.getElem?_eq_some_iff.mp h).2
    simp [hlt,ha]
  · simp [hj]

theorem wp_authorize {b : Body} {record : FamilyRecord} {α : Type} {k : Text × Option Text → SafetyM α}
    {Q : α → World → Prop} {E : SafetyError → World → Prop}
    (hrefused : (∀ reference actor, ¬Authorized s m w b record reference actor) → ∀ commands,
      commands = w.commands ∨ commands = spent m w → E .refused { w with commands })
    (hauthorized : ∀ reference actor, Authorized s m w b record reference actor →
      wp (k (reference,actor)) Q E { w with commands := spent m w }) :
    wp (authorize s m b record >>= k) Q E w := by
  apply wp_seq
  unfold authorize
  unfold Authorized spent at *
  cases hcommand : m.command with
  | none =>
    rw [hcommand] at hauthorized hrefused
    apply wp_seq_lookup
    · intro hnone
      refine hrefused (fun reference actor h => ?_) w.commands (.inl rfl)
      have href := h.1
      rw [hnone] at href
      cases href
    intro reference href
    exact hauthorized reference _ ⟨href,rfl⟩
  | some command =>
    obtain ⟨index,operation⟩ := command
    rw [hcommand] at hauthorized hrefused
    dsimp only at hrefused
    apply wp_seq
    unfold consume
    apply wp_seq_get
    apply wp_seq_lookup
    · intro hnone
      refine hrefused (fun reference actor h => ?_) w.commands (.inl rfl)
      obtain ⟨command,hfound,-⟩ := h
      rw [hnone] at hfound
      cases hfound
    intro found hfound
    apply wp_seq_check
    · intro hspent
      refine hrefused (fun reference actor h => ?_) w.commands (.inl rfl)
      obtain ⟨command,hfound',hfresh,-⟩ := h
      obtain rfl := Option.some.inj (hfound.symm.trans hfound')
      rw [hfresh] at hspent
      cases hspent
    intro hfresh
    apply wp_seq_set
    rw [set_eq_modify hfound fun c => { c with consumed := true }]
    apply wp_seq_lookup
    · intro hnone
      refine hrefused (fun reference actor h => ?_) _ (.inr rfl)
      obtain ⟨command,hfound',-,hhmac,-⟩ := h
      obtain rfl := Option.some.inj (hfound.symm.trans hfound')
      rw [hhmac] at hnone
      cases hnone
    intro expected hexpected
    apply wp_seq_check
    · intro hchecks
      refine hrefused (fun reference actor h => of_decide_eq_false hchecks ?_) _ (.inr rfl)
      obtain ⟨command,hfound',-,hhmac,hcontext,hoperation,hsuccessor,-⟩ := h
      obtain rfl := Option.some.inj (hfound.symm.trans hfound')
      exact ⟨Option.some.inj (hhmac.symm.trans hexpected),hcontext,hoperation,hsuccessor⟩
    intro hchecks
    obtain ⟨hhmac,hcontext,hoperation,hsuccessor⟩ := of_decide_eq_true hchecks
    exact hauthorized _ _ ⟨found,hfound,by simpa using hfresh,by rw [hexpected,hhmac],hcontext,hoperation,hsuccessor,
      rfl,rfl⟩

/-- The reference and the actor of a transition are those of its command or of its family. -/
theorem Authorized.unique {b : Body} {record : FamilyRecord} {reference reference' : Text} {actor actor' : Option Text}
    (h : Authorized s m w b record reference actor) (h' : Authorized s m w b record reference' actor') :
    reference' = reference ∧ actor' = actor := by
  unfold Authorized at h h'
  cases hcommand : m.command with
  | none =>
    rw [hcommand] at h h'
    exact ⟨Option.some.inj (h'.1.symm.trans h.1),h'.2.trans h.2.symm⟩
  | some command =>
    rw [hcommand] at h h'
    obtain ⟨found,hfound,-,-,-,-,-,rfl,rfl⟩ := h
    obtain ⟨found',hfound',-,-,-,-,-,rfl,rfl⟩ := h'
    obtain rfl := Option.some.inj (hfound.symm.trans hfound')
    exact ⟨rfl,rfl⟩

theorem wp_remediate {p : Plan s m w} {file : Option Text} {Q : Unit → World → Prop} {E : SafetyError → World → Prop}
    (hkept : ((m.blocker.isSome = true → p.record.state = .ready → p.remediation = none ∨ f.remediation = .before)) →
      Q () { w with commands := spent m w, file } ∧ E .transitionFailed { w with commands := spent m w, file })
    (hremediated : ∀ db, m.blocker.isSome = true → p.record.state = .ready → p.remediation = some db →
      Q () { w with commands := spent m w, file, db } ∧
        E .transitionFailed { w with commands := spent m w, file, db }) :
    wp (remediate s m p.reference p.actor p.latch f.remediation) Q E { w with commands := spent m w, file } := by
  unfold remediate
  apply (wp_ite _ _ _ _ _ _).mpr
  constructor
  · intro hblock
    unfold commitMinimalRemediation
    apply wp_seq_lookup
    · intro h
      rw [p.active] at h
      cases h
    intro found hfound
    obtain rfl := Option.some.inj (p.active.symm.trans hfound)
    apply (wp_ite _ _ _ _ _ _).mpr
    constructor
    · intro hready
      apply wp_seq_get
      apply wp_commitRows
      · exact fun h => (hkept fun _ _ => h).2
      · exact fun db hdb _ => (hremediated db hblock hready hdb).2
      · exact fun db hdb _ => (hremediated db hblock hready hdb).1
    · exact fun hready => (hkept fun _ h => absurd h hready).1
  · exact fun hblock => (hkept fun h _ => absurd h hblock).1

theorem wp_followFile {p : Plan s m w} {file : Text} (hfile : replaceUnlocked s p.envelope = some file) :
    wp (followFile s m p.reference p.actor p.latch f.commit)
      (fun _ w' => Mutated s m f w w' ∧
        ∃ (p : Plan s m w) (latch : Latch s), Agreed s w' latch ∧ latch.envelope = p.envelope)
      (fun _ w' => Mutated s m f w w') { w with commands := spent m w, file := some file } := by
  have hwritten : Mutated s m f w { w with commands := spent m w, file := some file } := .done p (.written hfile)
  unfold followFile
  apply wp_seq_get
  apply wp_seq_present
  · exact hwritten
  intro file' hfile'
  obtain rfl := Option.some.inj hfile'
  apply wp_seq_present
  · exact hwritten
  intro new hnew
  apply wp_seq
  apply wp_commitRows
  · exact fun _ => hwritten
  · exact fun db hdb _ => .done p (.committed hfile hnew hdb)
  · intro db hdb _
    have hdone : Mutated s m f w { w with commands := spent m w, file := some file, db } :=
      .done p (.committed hfile hnew hdb)
    apply wp_seq
    rw [← bind_pure (readMatched s)]
    apply wp_readMatched
    · exact fun _ => hdone
    · exact fun latch hlatch => ⟨hdone,p,latch,hlatch,readUnlocked_replace hfile hlatch.1⟩

/-- Returned: the stores agree on the envelope that was planned. Raised: as `Mutated` says. -/
theorem wp_mutate : wp (mutate s m f)
    (fun _ w' => Mutated s m f w w' ∧ ∃ (p : Plan s m w) (latch : Latch s), Agreed s w' latch ∧ latch.envelope = p.envelope)
    (fun _ w' => Mutated s m f w w') w := by
  have hunique : ∀ latch record reference actor, Agreed s w latch → latch.body.activeRecord m.component = some record →
      Authorized s m w latch.body record reference actor → ∀ q : Plan s m w,
      q.latch = latch ∧ q.record = record ∧ q.reference = reference := by
    intro latch record reference actor hagreed hrecord hauthorized q
    obtain rfl : q.latch = latch := Option.some.inj (q.agreed.1.symm.trans hagreed.1)
    obtain rfl := Option.some.inj (q.active.symm.trans hrecord)
    exact ⟨rfl,rfl,(hauthorized.unique q.authorized).1⟩
  unfold mutate
  apply wp_readMatched
  · exact fun hnone => .refused ⟨fun q => hnone q.latch q.agreed⟩ (.inl rfl)
  intro old hold
  apply wp_seq_lookup
  · intro hnone
    refine .refused ⟨fun q => ?_⟩ (.inl rfl)
    have hactive := q.active
    rw [Option.some.inj (q.agreed.1.symm.trans hold.1),hnone] at hactive
    cases hactive
  intro record hrecord
  apply wp_authorize
  · intro hnone commands hcommands
    refine .refused ⟨fun q => ?_⟩ hcommands
    obtain rfl : q.latch = old := Option.some.inj (q.agreed.1.symm.trans hold.1)
    obtain rfl := Option.some.inj (q.active.symm.trans hrecord)
    exact hnone _ _ q.authorized
  intro reference actor hauthorized
  apply wp_seq_check
  · intro hstate
    refine .refused ⟨fun q => of_decide_eq_false hstate ?_⟩ (.inr rfl)
    rw [← (hunique old record reference actor hold hrecord hauthorized q).2.1]
    exact q.allowed
  intro hallowed
  apply wp_seq_lookup
  · intro hnone
    refine .refused ⟨fun q => ?_⟩ (.inr rfl)
    obtain ⟨hlatch,-,href⟩ := hunique old record reference actor hold hrecord hauthorized q
    have hmutated := q.mutated
    rw [hlatch,href,hnone] at hmutated
    cases hmutated
  intro envelope henvelope
  let p : Plan s m w :=
    ⟨old,record,reference,actor,envelope,hold,hrecord,hauthorized,of_decide_eq_true hallowed,henvelope⟩
  apply wp_seq
  apply (wp_tryCatch _ _ _ _ _).mpr
  apply wp_replaceFile
  · intro h
    apply wp_seq
    apply wp_remediate (p := p)
    · exact fun hrows => ⟨.done p (.unwritten h hrows),.done p (.unwritten h hrows)⟩
    · exact fun db hblock hready hrows =>
        ⟨.done p (.remediated h hblock hready hrows),.done p (.remediated h hblock hready hrows)⟩
  · intro file hfile _
    apply wp_seq
    apply wp_remediate (p := p)
    · exact fun _ => ⟨.done p (.written hfile),.done p (.written hfile)⟩
    · exact fun db hblock hready hrows =>
        ⟨.done p (.writtenRemediated hfile hblock hready hrows),.done p (.writtenRemediated hfile hblock hready hrows)⟩
  · exact fun file hfile _ => wp_followFile (p := p) hfile

end mutate

/-! ## The bootstrap -/

/-- What a bootstrap leaves of a world without a file. -/
inductive Bootstrapped (s : Service) (p : Snapshots) (uuid reference : Text) (w : World) : World → Prop
  | written {envelope : Envelope} {file : Text}
    (hwrap : s.wrap (bootstrapBody s p uuid reference) p.query.fingerprintKeyVersion
      p.query.fingerprintKeyMaterialVerifier = some envelope)
    (hfile : replaceUnlocked s envelope = some file) : Bootstrapped s p uuid reference w { w with file := some file }
  | committed {envelope : Envelope} {file : Text} {latch : Latch s} {db : Database}
    (hwrap : s.wrap (bootstrapBody s p uuid reference) p.query.fingerprintKeyVersion
      p.query.fingerprintKeyMaterialVerifier = some envelope)
    (hfile : replaceUnlocked s envelope = some file) (hread : readUnlocked s file = some latch)
    (hrows : insertBootstrapRows s latch p reference w.db = some db) :
    Bootstrapped s p uuid reference w { w with file := some file, db }

section bootstrap

variable {s : Service} {p : Snapshots} {uuid reference : Text} {w : World} {f : Failures}

/-- What a bootstrap checks before it writes. -/
def BootstrapAllowed (p : Snapshots) (reference : Text) (w : World) : Prop :=
  validateSnapshots p = true ∧ lowerHmac reference = true ∧ w.file = none ∧ dbIsEmptyAndUnattempted w = true

theorem wp_bootstrap {P : World → Prop} (hkept : P w)
    (hdone : ∀ w', BootstrapAllowed p reference w → Bootstrapped s p uuid reference w w' → P w') :
    wp (bootstrap s p uuid reference f) (fun _ => P) (fun _ => P) w := by
  unfold bootstrap
  apply wp_seq_require
  · exact hkept
  intro hsnapshots
  apply wp_seq_require
  · exact hkept
  intro hreference
  apply wp_seq_get
  apply wp_seq_require
  · exact hkept
  intro hfile
  apply wp_seq_require
  · exact hkept
  intro hempty
  have hallowed : BootstrapAllowed p reference w := ⟨hsnapshots,hreference,Option.isNone_iff_eq_none.mp hfile,hempty⟩
  apply wp_seq_present
  · exact hkept
  intro envelope hwrap
  apply wp_seq
  apply wp_replaceFile
  · exact fun _ => hkept
  · exact fun file hfile _ => hdone _ hallowed (.written hwrap hfile)
  intro file hfile _
  have hwritten : P { w with file := some file } := hdone _ hallowed (.written hwrap hfile)
  apply wp_seq_get
  apply wp_seq_present
  · exact hwritten
  intro file' hfile'
  obtain rfl := Option.some.inj hfile'
  apply wp_seq_present
  · exact hwritten
  intro latch hread
  apply wp_seq
  apply wp_commitRows
  · exact fun _ => hwritten
  · exact fun db hrows _ => hdone _ hallowed (.committed hwrap hfile hread hrows)
  · intro db hrows _
    apply wp_seq_get
    have hcommitted : P { w with file := some file, db } := hdone _ hallowed (.committed hwrap hfile hread hrows)
    exact (wp_require _ _ _ _ _).mpr ⟨fun _ => hcommitted,fun _ => hcommitted⟩

/-- What a recovery checks before it writes. -/
structure Recoverable (s : Service) (p : Snapshots) (w : World) where
  latch : Latch s
  reference : Text
  snapshots : validateSnapshots p = true
  read : w.file.bind (readUnlocked s) = some latch
  generation : latch.body.globalSafetyGeneration = 0
  empty : dbIsEmptyAndUnattempted w = true
  external : matchExternalSnapshots s latch p = true
  shape : bootstrapReference latch.body = some reference

theorem wp_recover {P : World → Prop} (hkept : P w)
    (hdone : ∀ (r : Recoverable s p w) db, insertBootstrapRows s r.latch p r.reference w.db = some db → P { w with db }) :
    wp (recoverPartialBootstrap s p f) (fun _ => P) (fun _ => P) w := by
  unfold recoverPartialBootstrap
  apply wp_seq_require
  · exact hkept
  intro hsnapshots
  apply wp_seq_get
  apply wp_seq_present
  · exact hkept
  intro file hfile
  apply wp_seq_present
  · exact hkept
  intro latch hlatch
  apply wp_seq_require
  · exact hkept
  intro hgeneration
  apply wp_seq_require
  · exact hkept
  intro hempty
  apply wp_seq_require
  · exact hkept
  intro hexternal
  apply wp_seq_present
  · exact hkept
  intro reference hreference
  apply wp_seq_require
  · exact hkept
  intro _
  let r : Recoverable s p w :=
    ⟨latch,reference,hsnapshots,by rw [hfile]; exact hlatch,of_decide_eq_true hgeneration,hempty,hexternal,hreference⟩
  apply wp_seq
  apply wp_commitRows
  · exact fun _ => hkept
  · exact fun db hrows _ => hdone r db hrows
  · intro db hrows _
    have hcommitted : P { w with db } := hdone r db hrows
    apply wp_seq
    rw [← bind_pure (readMatched s)]
    apply wp_readMatched
    · exact fun _ => hcommitted
    · exact fun _ _ => hcommitted

end bootstrap

/-! ## Calls -/

/-- The transition that a call asks for. -/
def Requested (s : Service) (w : World) : Call → Mutation → Failures → Prop
  | .markRebindRequired i now f, m, g =>
    ∃ command, w.commands[i]? = some command ∧ m = markRebindRequired command.payload.context.component i now ∧ g = f
  | .reviewedRebind i snapshot now f, m, g =>
    ∃ command, w.commands[i]? = some command ∧ m = reviewedRebind command.payload.context.component i snapshot now ∧ g = f
  | .reviewedReset i now f, m, g =>
    ∃ command, w.commands[i]? = some command ∧ m = reviewedReset command.payload.context.component i now ∧ g = f
  | .reviewedSupersession i successor now f, m, g =>
    ∃ command, w.commands[i]? = some command ∧
      m = reviewedSupersession command.payload.context.component i successor now ∧ g = f
  | .block b f, m, g =>
    ∃ reference, 0 < b.agentRunId ∧ incidentReference s b = some reference ∧ lowerHmac reference = true ∧
      m = blockMutation b reference ∧ g = f
  | _, _, _ => False

/-- What a call leaves of the world. -/
inductive Outcome (s : Service) (w : World) (c : Call) : World → Prop
  | kept : Outcome s w c w
  | attempted : Outcome s w c { w with attempted := w.attempted+1 }
  | handedOut {component : RagPaidComponent} {latch : Latch s} {record : FamilyRecord} (hagreed : Agreed s w latch)
    (hrecord : latch.body.activeRecord component = some record) :
    Outcome s w c { w with contexts := w.contexts++[reviewContextFrom s latch.body component record] }
  | issued {secret : ByteArray} {context : ReviewContext} {operation : ReviewedOperation}
    {successor : Option AuthorizedProviderPolicySnapshot} {actor reference : Text} {acknowledged : Bool} {command : Command}
    (hcontext : context ∈ w.contexts)
    (hissue : issue s secret context operation successor actor reference acknowledged = some command) :
    Outcome s w c { w with commands := w.commands++[command] }
  | bootstrapped {p : Snapshots} {uuid reference : Text} {f : Failures} {w' : World}
    (hcall : c = .bootstrap p uuid reference f) (hallowed : BootstrapAllowed p reference w)
    (hdone : Bootstrapped s p uuid reference w w') : Outcome s w c w'
  | recovered {p : Snapshots} {f : Failures} (hcall : c = .recoverPartialBootstrap p f) (r : Recoverable s p w) {db : Database}
    (hrows : insertBootstrapRows s r.latch p r.reference w.db = some db) : Outcome s w c { w with db }
  | mutated {m : Mutation} {f : Failures} {w' : World} (hrequest : Requested s w c m f) (hdone : Mutated s m f w w') :
    Outcome s w c w'

section call

variable {s : Service} {w : World}

theorem wp_reviewed {index : Nat} {mutation : RagPaidComponent → Nat → Mutation} {f : Failures} {P : World → Prop}
    (hkept : P w)
    (hmutated : ∀ command w', w.commands[index]? = some command →
      Mutated s (mutation command.payload.context.component index) f w w' → P w') :
    wp (reviewed s index mutation f) (fun _ => P) (fun _ => P) w := by
  unfold reviewed
  apply wp_seq_get
  apply wp_seq_present
  · exact hkept
  intro bound hbound
  apply wp_seq_require
  · exact hkept
  intro _
  exact wp_mono wp_mutate (fun _ w' h => hmutated bound w' hbound h.1) fun _ w' h => hmutated bound w' hbound h

theorem wp_issueCommand {secret : ByteArray} {context : Nat} {operation : ReviewedOperation}
    {successor : Option AuthorizedProviderPolicySnapshot} {actor reference : Text} {acknowledged : Bool} {P : World → Prop}
    (hkept : P w)
    (hissued : ∀ found command, found ∈ w.contexts →
      issue s secret found operation successor actor reference acknowledged = some command →
      P { w with commands := w.commands++[command] }) :
    wp (issueCommand s secret context operation successor actor reference acknowledged) (fun _ => P) (fun _ => P) w := by
  unfold issueCommand
  apply wp_seq_get
  apply wp_seq_present
  · exact hkept
  intro found hfound
  apply wp_seq_present
  · exact hkept
  intro command hcommand
  exact hissued found command (List.mem_of_getElem? hfound) hcommand

theorem wp_reviewContext {component : RagPaidComponent} {P : World → Prop} (hkept : P w)
    (hcontext : ∀ latch record, Agreed s w latch → latch.body.activeRecord component = some record →
      P { w with contexts := w.contexts++[reviewContextFrom s latch.body component record] }) :
    wp (reviewContext s component) (fun _ => P) (fun _ => P) w := by
  unfold reviewContext
  apply wp_readMatched
  · exact fun _ => hkept
  intro latch hlatch
  apply wp_seq_present
  · exact hkept
  exact fun record hrecord => hcontext latch record hlatch hrecord

theorem wp_block {b : BlockInput} {f : Failures} {P : World → Prop}
    (hrefused : (∀ reference, 0 < b.agentRunId → incidentReference s b = some reference → lowerHmac reference ≠ true) → P w)
    (hmutated : ∀ reference w', 0 < b.agentRunId → incidentReference s b = some reference → lowerHmac reference = true →
      Mutated s (blockMutation b reference) f w w' → P w') :
    wp (block s b f) (fun _ => P) (fun _ => P) w := by
  unfold block
  apply wp_seq_check
  · exact fun hrun => hrefused fun _ h => absurd h (of_decide_eq_false hrun)
  intro hrun
  apply wp_seq_lookup
  · exact fun hnone => hrefused fun _ _ h => absurd (hnone.symm.trans h) (by simp)
  intro reference hreference
  apply wp_seq_check
  · intro hlower
    refine hrefused fun reference' _ h => ?_
    rw [← Option.some.inj (hreference.symm.trans h),hlower]
    exact Bool.false_ne_true
  intro hlower
  have hrun := of_decide_eq_true hrun
  exact wp_mono wp_mutate (fun _ w' h => hmutated reference w' hrun hreference hlower h.1)
    fun _ w' h => hmutated reference w' hrun hreference hlower h

theorem call_cases (c : Call) : Outcome s w c (call s w c) := by
  have hkept : Outcome s w c w := .kept
  apply wp_finalState
  cases c <;> simp only [Call.program]
  case bootstrap p uuid reference f =>
    exact wp_bootstrap (P := Outcome s w _) hkept fun w' hallowed hdone => .bootstrapped rfl hallowed hdone
  case recoverPartialBootstrap p f =>
    exact wp_recover (P := Outcome s w _) hkept fun r db hrows => .recovered rfl r hrows
  case reviewContext component =>
    exact wp_reviewContext (P := Outcome s w _) hkept fun latch record hagreed hrecord => .handedOut hagreed hrecord
  case issue secret context operation successor actor reference acknowledged =>
    exact wp_issueCommand (P := Outcome s w _) hkept fun found command hfound hissue => .issued hfound hissue
  case markRebindRequired i now f =>
    exact wp_reviewed (P := Outcome s w _) hkept fun command w' hcommand h => .mutated ⟨command,hcommand,rfl,rfl⟩ h
  case reviewedRebind i snapshot now f =>
    exact wp_reviewed (P := Outcome s w _) hkept fun command w' hcommand h => .mutated ⟨command,hcommand,rfl,rfl⟩ h
  case reviewedReset i now f =>
    exact wp_reviewed (P := Outcome s w _) hkept fun command w' hcommand h => .mutated ⟨command,hcommand,rfl,rfl⟩ h
  case reviewedSupersession i successor now f =>
    exact wp_reviewed (P := Outcome s w _) hkept fun command w' hcommand h => .mutated ⟨command,hcommand,rfl,rfl⟩ h
  case block b f =>
    exact wp_block (P := Outcome s w _) (fun _ => hkept) fun reference w' hrun hreference hlower h =>
      .mutated ⟨reference,hrun,hreference,hlower,rfl,rfl⟩ h
  case attempt => exact .attempted

end call

end ParaWorks.ProviderSafety
