import ParaWorks.Lib.Transition
import ParaWorks.ProviderSafety.Steps

/-!
# The two stores of provider safety over a run

The file goes first and the database follows it. Wherever a write is lost, the stores agree or stay apart: what no longer
agrees is never changed again and nothing is served from it.
-/

namespace ParaWorks.ProviderSafety

open Lib
open Ledger (RagPaidComponent Usd)
open Release (lowerHmac)

/-! ## What a match says -/

/-- What `_match_database_rows` found. -/
structure Matched (s : Service) (latch : Latch s) (db : Database) (authority : AuthorityRow) : Prop where
  found : db.authority = some authority
  generation : authority.globalSafetyGeneration = latch.body.globalSafetyGeneration
  digest : authority.envelopeDigest = latch.envelopeDigest
  uuid : authority.authorityUuid = latch.body.authorityUuid
  length : db.readiness.length = latch.body.familyRecords.length
  rows : ∀ row ∈ db.readiness, matchesRecord latch.body row = true
  distinct : ((db.readiness.filter (·.active)).map (·.snapshot.identity.component)).Nodup
  component : ∀ c, ∃ row ∈ db.readiness, row.active = true ∧ row.snapshot.identity.component = c

section matched

variable {s : Service} {latch : Latch s} {db : Database}

theorem mem_componentOrder (c : RagPaidComponent) : c ∈ Ledger.componentOrder := by cases c <;> decide

theorem matched_of_match (h : matchDatabaseRows s latch db = true) : ∃ authority, Matched s latch db authority := by
  unfold matchDatabaseRows at h
  cases hauthority : db.authority with
  | none =>
    rw [hauthority] at h
    cases h
  | some authority =>
    rw [hauthority] at h
    obtain ⟨huuid,-,hgeneration,hdigest,-,-,hlength,hrows,hdistinct,hcomponent⟩ := of_decide_eq_true h
    refine ⟨authority,hauthority,hgeneration,hdigest,huuid,hlength,List.all_eq_true.mp hrows,hdistinct,?_⟩
    intro c
    obtain ⟨row,hrow,hc⟩ := List.mem_map.mp (hcomponent c (mem_componentOrder c))
    obtain ⟨hmem,hactive⟩ := List.mem_filter.mp hrow
    exact ⟨row,hmem,hactive,hc⟩

end matched

/-! ## What a transition writes -/

section written

variable {s : Service} {m : Mutation} {reference : Text} {latch : Latch s} {e : Envelope}

theorem wrap_payload {body : Body} {version verifier : Text} (h : s.wrap body version verifier = some e) :
    e.signedPayload = ⟨body,verifier,version⟩ := by
  obtain ⟨signature,-,rfl⟩ := Option.map_eq_some_iff.mp h
  rfl

theorem mutatedEnvelope_body (h : mutatedEnvelope s m reference latch = some e) :
    mutatedBody s m reference latch.body = some e.body := by
  obtain ⟨body,hbody,hwrap⟩ := Option.bind_eq_some_iff.mp h
  rw [hbody,Envelope.body,wrap_payload hwrap]

theorem mutatedBody_generation {b body : Body} (h : mutatedBody s m reference b = some body) :
    body.globalSafetyGeneration = b.globalSafetyGeneration+1 := by
  unfold mutatedBody at h
  obtain ⟨target,-,h⟩ := Option.bind_eq_some_iff.mp h
  split_ifs at h
  · obtain ⟨p,-,h⟩ := Option.bind_eq_some_iff.mp h
    split_ifs at h
    obtain rfl := Option.some.inj h
    rfl
  · obtain ⟨record,-,h⟩ := Option.bind_eq_some_iff.mp h
    obtain rfl := Option.some.inj h
    rfl

theorem Plan.generation {w : World} (p : Plan s m w) :
    p.envelope.body.globalSafetyGeneration = p.latch.body.globalSafetyGeneration+1 :=
  mutatedBody_generation (mutatedEnvelope_body p.mutated)

theorem commitTransition_eq_some {t : TransitionInput} {new : Body} {digest : Text} {db db' : Database} :
    commitTransition s t latch new digest db = some db' ↔
      matchDatabaseRows s latch db = true ∧ ∃ authority oldRecord oldRow newRecord rows, db.authority = some authority ∧
        latch.body.activeRecord t.component = some oldRecord ∧
        db.readiness.find? (fun row => row.active ∧ row.snapshot.identity.component = t.component) = some oldRow ∧
        new.activeRecord t.component = some newRecord ∧
        (authority.globalSafetyGeneration = latch.body.globalSafetyGeneration ∧
          authority.envelopeDigest = latch.envelopeDigest) ∧
        transitionRows t oldRow oldRecord newRecord new.globalSafetyGeneration db = some rows ∧
        db' = db.transition t authority newRecord new.globalSafetyGeneration digest rows ∧ db'.Consistent := by
  unfold commitTransition
  constructor
  · intro h
    split_ifs at h with hmatch
    obtain ⟨authority,hauthority,h⟩ := Option.bind_eq_some_iff.mp h
    obtain ⟨oldRecord,holdRecord,h⟩ := Option.bind_eq_some_iff.mp h
    obtain ⟨oldRow,holdRow,h⟩ := Option.bind_eq_some_iff.mp h
    obtain ⟨newRecord,hnewRecord,h⟩ := Option.bind_eq_some_iff.mp h
    dsimp only at h
    split_ifs at h with hcas
    obtain ⟨rows,hrows,h⟩ := Option.bind_eq_some_iff.mp h
    split_ifs at h with hconsistent
    obtain rfl := Option.some.inj h
    exact ⟨hmatch,authority,oldRecord,oldRow,newRecord,rows,hauthority,holdRecord,holdRow,hnewRecord,hcas,hrows,rfl,
      hconsistent⟩
  · rintro ⟨hmatch,authority,oldRecord,oldRow,newRecord,rows,hauthority,holdRecord,holdRow,hnewRecord,hcas,hrows,rfl,
      hconsistent⟩
    rw [if_pos hmatch,hauthority,holdRecord,holdRow,hnewRecord]
    simp only [Option.bind_eq_bind,Option.bind_some]
    rw [if_pos hcas,hrows,Option.bind_some,if_pos hconsistent]

/-- The authority follows the body that was written, with its digest. -/
theorem commitTransition_authority {t : TransitionInput} {new : Body} {digest : Text} {db db' : Database}
    (h : commitTransition s t latch new digest db = some db') :
    ∃ authority, db'.authority = some authority ∧
      authority.globalSafetyGeneration = new.globalSafetyGeneration ∧ authority.envelopeDigest = digest := by
  obtain ⟨-,authority,_,_,_,_,-,-,-,-,-,-,rfl,-⟩ := commitTransition_eq_some.mp h
  exact ⟨_,rfl,rfl,rfl⟩

theorem remediatedBody_generation {b body : Body} (h : remediatedBody m reference b = some body) :
    body.globalSafetyGeneration = b.globalSafetyGeneration+1 := by
  obtain ⟨target,-,h⟩ := Option.bind_eq_some_iff.mp h
  obtain rfl := Option.some.inj h
  rfl

/-- A remediation takes the database alone to the next generation. -/
theorem Plan.remediation_authority {w : World} {p : Plan s m w} {db : Database} (h : p.remediation = some db) :
    ∃ authority, db.authority = some authority ∧
      authority.globalSafetyGeneration = p.latch.body.globalSafetyGeneration+1 := by
  obtain ⟨body,hbody,h⟩ := Option.bind_eq_some_iff.mp h
  obtain ⟨digest,-,h⟩ := Option.bind_eq_some_iff.mp h
  obtain ⟨authority,hauthority,hgeneration,-⟩ := commitTransition_authority h
  exact ⟨authority,hauthority,hgeneration.trans (remediatedBody_generation hbody)⟩

end written

/-! ## The phases -/

/-- The latch that both stores agree on. -/
def agreedLatch (s : Service) (w : World) : Option (Latch s) :=
  (w.file.bind (readUnlocked s)).filter fun latch => matchDatabaseRows s latch w.db

/-- Both stores hold an authority, and the database does not agree with the file. -/
def Apart (s : Service) (w : World) : Prop :=
  w.file.isSome = true ∧ w.db.authority.isSome = true ∧ ∀ latch, ¬Agreed s w latch

/-- There is no authority in the database yet. -/
def Unborn (w : World) : Prop := w.db = ⟨none,[],[]⟩

section phases

variable {s : Service} {w : World} {latch : Latch s}

theorem agreedLatch_eq_some : agreedLatch s w = some latch ↔ Agreed s w latch := by
  unfold agreedLatch Agreed
  rw [Option.filter_eq_some_iff]

theorem Agreed.matched (h : Agreed s w latch) : ∃ authority, Matched s latch w.db authority := matched_of_match h.2

theorem Agreed.authority (h : Agreed s w latch) : w.db.authority.isSome = true := by
  obtain ⟨authority,h⟩ := h.matched
  rw [h.found]
  rfl

theorem Agreed.file (h : Agreed s w latch) : w.file.isSome = true := by
  obtain ⟨file,hfile,-⟩ := Option.bind_eq_some_iff.mp h.1
  rw [hfile]
  rfl

theorem Agreed.unique {latch' : Latch s} (h : Agreed s w latch) (h' : Agreed s w latch') : latch = latch' :=
  Option.some.inj (h.1.symm.trans h'.1)

theorem not_agreed_of_empty (h : dbIsEmptyAndUnattempted w = true) : ¬Agreed s w latch := by
  intro hagreed
  obtain ⟨hauthority,-⟩ := of_decide_eq_true h
  have hsome := hagreed.authority
  rw [hauthority] at hsome
  cases hsome

/-- Neither the file nor the rows of a transition were written. -/
def Plan.Lost {m : Mutation} (p : Plan s m w) (f : Failures) : Prop :=
  (replaceUnlocked s p.envelope = none ∨ f.replace = .before) ∧
    (m.blocker.isSome = true → p.record.state = .ready → p.remediation = none ∨ f.remediation = .before)

/-- What the writes of a transition leave: the stores as they were, two that stay apart, or two that agree on the
envelope that was planned. -/
theorem effect_phase {m : Mutation} {f : Failures} {p : Plan s m w} {file : Option Text} {db : Database} {v : World}
    (h : Effect f p file db) (hfile : v.file = file) (hdb : v.db = db) :
    Same w v ∧ p.Lost f ∨ Apart s v ∨ ∃ latch, Agreed s v latch ∧ latch.envelope = p.envelope := by
  obtain ⟨authority,hold⟩ := p.agreed.matched
  have hnext := p.generation
  -- a file that was written reads as the envelope that was planned
  have hread : ∀ text latch, file = some text → replaceUnlocked s p.envelope = some text → Agreed s v latch →
      latch.envelope = p.envelope := by
    intro text latch htext hwrite hagreed
    obtain ⟨text',htext',hlatch⟩ := Option.bind_eq_some_iff.mp hagreed.1
    rw [hfile,htext] at htext'
    obtain rfl := Option.some.inj htext'
    exact readUnlocked_replace hwrite hlatch
  have hphase : v.file.isSome = true → v.db.authority.isSome = true →
      (∀ latch, Agreed s v latch → latch.envelope = p.envelope) →
      Apart s v ∨ ∃ latch, Agreed s v latch ∧ latch.envelope = p.envelope := by
    intro hsome hauthority hplanned
    by_cases hagreed : ∃ latch, Agreed s v latch
    · obtain ⟨latch,hlatch⟩ := hagreed
      exact .inr ⟨latch,hlatch,hplanned latch hlatch⟩
    · exact .inl ⟨hsome,hauthority,fun latch h => hagreed ⟨latch,h⟩⟩
  cases h with
  | unwritten hwrite hrows => exact .inl ⟨⟨hfile,hdb⟩,hwrite,hrows⟩
  | remediated _ _ _ hrows =>
    obtain ⟨authority',hauthority',hgeneration⟩ := Plan.remediation_authority hrows
    refine .inr (.inl ⟨by rw [hfile]; exact p.agreed.file,by rw [hdb,hauthority']; rfl,?_⟩)
    intro latch hagreed
    have hsame : latch = p.latch := by
      have h := hagreed.1
      rw [hfile,p.agreed.1] at h
      exact (Option.some.inj h).symm
    obtain ⟨authority'',hmatched⟩ := hagreed.matched
    have hfound := hmatched.found
    rw [hdb,hauthority'] at hfound
    have hsecond := hmatched.generation
    rw [← Option.some.inj hfound,hgeneration,hsame] at hsecond
    omega
  | @written text hwrite =>
    refine .inr (hphase (by rw [hfile]; rfl) (by rw [hdb]; exact p.agreed.authority) fun latch hagreed => ?_)
    exact hread text latch rfl hwrite hagreed
  | @writtenRemediated text db hwrite _ _ hrows =>
    obtain ⟨authority',hauthority',-⟩ := Plan.remediation_authority hrows
    refine .inr (hphase (by rw [hfile]; rfl) (by rw [hdb,hauthority']; rfl) fun latch hagreed => ?_)
    exact hread text latch rfl hwrite hagreed
  | @committed text latch' db hwrite _ hrows =>
    obtain ⟨authority',hauthority',-⟩ := commitTransition_authority hrows
    refine .inr (hphase (by rw [hfile]; rfl) (by rw [hdb,hauthority']; rfl) fun latch hagreed => ?_)
    exact hread text latch rfl hwrite hagreed

theorem Same.refl (w : World) : Same w w := ⟨rfl,rfl⟩

theorem Same.trans {w w' w'' : World} (h : Same w w') (h' : Same w' w'') : Same w w'' :=
  ⟨h'.1.trans h.1,h'.2.trans h.2⟩

theorem Agreed.of_same {w' : World} (hsame : Same w w') (h : Agreed s w latch) : Agreed s w' latch := by
  obtain ⟨hfile,hdb⟩ := hsame
  unfold Agreed
  rw [hfile,hdb]
  exact h

theorem Same.symm {w' : World} (h : Same w w') : Same w' w := ⟨h.1.symm,h.2.symm⟩

theorem Apart.of_same {w' : World} (hsame : Same w w') (h : Apart s w) : Apart s w' := by
  obtain ⟨hfile,hdb,hnot⟩ := h
  refine ⟨by rw [hsame.1]; exact hfile,by rw [hsame.2]; exact hdb,fun latch hagreed => ?_⟩
  exact hnot latch (hagreed.of_same hsame.symm)

theorem insertBootstrapRows_authority {p : Snapshots} {reference : Text} {db db' : Database}
    (h : insertBootstrapRows s latch p reference db = some db') : db'.authority.isSome = true := by
  unfold insertBootstrapRows at h
  dsimp only at h
  split_ifs at h
  obtain rfl := Option.some.inj h
  rfl

/-- A call of which both stores agree. -/
theorem call_agreed (h : Agreed s w latch) (c : Call) :
    Same w (call s w c) ∨ Apart s (call s w c) ∨
      ∃ m f, ∃ (p : Plan s m w) (latch' : Latch s), Requested s w c m f ∧ Agreed s (call s w c) latch' ∧
        latch'.envelope = p.envelope := by
  have hcases := call_cases (s := s) (w := w) c
  generalize call s w c = w' at hcases
  cases hcases with
  | kept => exact .inl (Same.refl w)
  | attempted => exact .inl ⟨rfl,rfl⟩
  | handedOut _ _ => exact .inl ⟨rfl,rfl⟩
  | issued _ _ => exact .inl ⟨rfl,rfl⟩
  | bootstrapped _ hallowed _ => exact absurd h (not_agreed_of_empty hallowed.2.2.2)
  | recovered _ r _ => exact absurd h (not_agreed_of_empty r.empty)
  | mutated hrequest hdone =>
    cases hdone with
    | refused _ _ => exact .inl ⟨rfl,rfl⟩
    | @done p file db heffect =>
      rcases effect_phase (v := { w with commands := spent _ w, file, db }) heffect rfl rfl with ⟨hsame,-⟩ | hapart | ⟨latch',hagreed,henvelope⟩
      · exact .inl hsame
      · exact .inr (.inl hapart)
      · exact .inr (.inr ⟨_,_,p,latch',hrequest,hagreed,henvelope⟩)

/-- Stores that do not agree are not touched. -/
theorem call_apart (h : Apart s w) (c : Call) : Same w (call s w c) := by
  have hcases := call_cases (s := s) (w := w) c
  generalize call s w c = w' at hcases
  have hempty : dbIsEmptyAndUnattempted w = true → False := by
    intro hempty
    obtain ⟨hauthority,-⟩ := of_decide_eq_true hempty
    have hsome := h.2.1
    rw [hauthority] at hsome
    cases hsome
  cases hcases with
  | kept => exact Same.refl w
  | attempted => exact ⟨rfl,rfl⟩
  | handedOut _ _ => exact ⟨rfl,rfl⟩
  | issued _ _ => exact ⟨rfl,rfl⟩
  | bootstrapped _ hallowed _ => exact (hempty hallowed.2.2.2).elim
  | recovered _ r _ => exact (hempty r.empty).elim
  | mutated _ hdone =>
    cases hdone with
    | refused _ _ => exact ⟨rfl,rfl⟩
    | done p _ => exact absurd p.agreed (h.2.2 p.latch)

theorem call_unborn (h : Unborn w) (c : Call) :
    Unborn (call s w c) ∨ Apart s (call s w c) ∨ ∃ latch, Agreed s (call s w c) latch := by
  have hcases := call_cases (s := s) (w := w) c
  generalize call s w c = w' at hcases
  have hphase : ∀ w' : World, w'.file.isSome = true → w'.db.authority.isSome = true →
      Apart s w' ∨ ∃ latch, Agreed s w' latch := by
    intro w' hfile hauthority
    by_cases hagreed : ∃ latch, Agreed s w' latch
    · exact .inr hagreed
    · exact .inl ⟨hfile,hauthority,fun latch h => hagreed ⟨latch,h⟩⟩
  cases hcases with
  | kept => exact .inl h
  | attempted => exact .inl h
  | handedOut _ _ => exact .inl h
  | issued _ _ => exact .inl h
  | bootstrapped _ _ hdone =>
    cases hdone with
    | written _ _ => exact .inl h
    | committed _ _ _ hrows => exact .inr (hphase _ rfl (insertBootstrapRows_authority hrows))
  | recovered _ r hrows =>
    obtain ⟨file,hfile,-⟩ := Option.bind_eq_some_iff.mp r.read
    exact .inr (hphase _ (by dsimp only; rw [hfile]; rfl) (insertBootstrapRows_authority hrows))
  | mutated _ hdone =>
    cases hdone with
    | refused _ _ => exact .inl h
    | done p _ =>
      have hauthority := p.agreed.authority
      rw [h] at hauthority
      cases hauthority

/-! ## Runs -/

theorem run_apart (h : Apart s w) (calls : List Call) : Same w (run (call s) w calls) :=
  (run_invariant (P := fun w' => Same w w' ∧ Apart s w')
    (fun _ c hw => ⟨hw.1.trans (call_apart hw.2 c),hw.2.of_same (call_apart hw.2 c)⟩) ⟨Same.refl w,h⟩ calls).1

/-- From where they agree, the stores stay as they are, fall apart, or agree on a later generation. -/
theorem run_agreed (h : Agreed s w latch) (calls : List Call) :
    Same w (run (call s) w calls) ∨ Apart s (run (call s) w calls) ∨
      ∃ latch', Agreed s (run (call s) w calls) latch' ∧
        latch.body.globalSafetyGeneration < latch'.body.globalSafetyGeneration := by
  refine run_invariant (P := fun w' => Same w w' ∨ Apart s w' ∨ ∃ latch', Agreed s w' latch' ∧
    latch.body.globalSafetyGeneration < latch'.body.globalSafetyGeneration) ?_ (.inl (Same.refl w)) calls
  have hstep : ∀ w' c latch', Agreed s w' latch' →
      Same w' (call s w' c) ∨ Apart s (call s w' c) ∨ ∃ latch'', Agreed s (call s w' c) latch'' ∧
        latch'.body.globalSafetyGeneration < latch''.body.globalSafetyGeneration := by
    intro w' c latch' hagreed
    rcases call_agreed hagreed c with hsame | hapart | ⟨m,f,p,latch'',-,hagreed',henvelope⟩
    · exact .inl hsame
    · exact .inr (.inl hapart)
    · refine .inr (.inr ⟨latch'',hagreed',?_⟩)
      rw [hagreed.unique p.agreed]
      unfold Latch.body
      rw [henvelope,p.generation]
      exact Nat.lt_succ_self _
  rintro w' c (hsame | hapart | ⟨latch',hagreed,hlt⟩)
  · rcases hstep w' c latch (h.of_same hsame) with hsame' | hapart | hlater
    · exact .inl (hsame.trans hsame')
    · exact .inr (.inl hapart)
    · exact .inr (.inr hlater)
  · exact .inr (.inl (hapart.of_same (call_apart hapart c)))
  · rcases hstep w' c latch' hagreed with hsame' | hapart | ⟨latch'',hagreed',hlt'⟩
    · exact .inr (.inr ⟨latch',hagreed.of_same hsame',hlt⟩)
    · exact .inr (.inl hapart)
    · exact .inr (.inr ⟨latch'',hagreed',hlt.trans hlt'⟩)

theorem run_phase (s : Service) (calls : List Call) :
    Unborn (run (call s) World.initial calls) ∨ Apart s (run (call s) World.initial calls) ∨
      ∃ latch, Agreed s (run (call s) World.initial calls) latch := by
  refine run_invariant (P := fun w => Unborn w ∨ Apart s w ∨ ∃ latch, Agreed s w latch) ?_
    (.inl (show Unborn World.initial from rfl)) calls
  rintro w c (hunborn | hapart | ⟨latch,hagreed⟩)
  · exact call_unborn hunborn c
  · exact .inr (.inl (hapart.of_same (call_apart hapart c)))
  · rcases call_agreed hagreed c with hsame | hapart | ⟨m,f,p,latch',-,hagreed',-⟩
    · exact .inr (.inr ⟨latch,hagreed.of_same hsame⟩)
    · exact .inr (.inl hapart)
    · exact .inr (.inr ⟨latch',hagreed'⟩)

end phases

/-! ## What is served -/

section serving

variable {s : Service} {w : World} {component : RagPaidComponent} {policy : AuthorizedProviderPolicySnapshot}

/-- What a binding was made from. -/
theorem requireReady_eq_some {b : Binding} (h : requireReady s w component policy = some b) :
    ∃ (latch : Latch s) (family : FamilyRecord), Agreed s w latch ∧ latch.body.activeRecord component = some family ∧
      family.state = .ready ∧ family.identity = policy.identity ∧
      family.authorizedPolicySnapshotHmac = policy.authorizedPolicySnapshotHmac ∧
      (∃ row ∈ w.db.readiness, row.active = true ∧ row.snapshot = policy) ∧
      b.globalSafetyGeneration = latch.body.globalSafetyGeneration ∧ b.envelopeDigest = latch.envelopeDigest ∧
      b.familyStateVersion = family.stateVersion ∧ b.familySafetyGeneration = family.familySafetyGeneration := by
  obtain ⟨file,hfile,h⟩ := Option.bind_eq_some_iff.mp h
  obtain ⟨latch,hlatch,h⟩ := Option.bind_eq_some_iff.mp h
  unfold binding at h
  split_ifs at h with hcomponent
  obtain ⟨family,hfamily,h⟩ := Option.bind_eq_some_iff.mp h
  split_ifs at h with hchecks
  obtain ⟨row,hrow,h⟩ := Option.bind_eq_some_iff.mp h
  split_ifs at h with hpolicy
  obtain ⟨identity,hidentity,h⟩ := Option.bind_eq_some_iff.mp h
  obtain rfl := Option.some.inj h
  simp only [not_or,not_not,Bool.not_eq_false] at hchecks hpolicy
  obtain ⟨hsame,hhmac,hready,hmatch⟩ := hchecks
  obtain ⟨hmem,hactive⟩ := find?_spec hrow
  have hactive := of_decide_eq_true hactive
  exact ⟨latch,family,⟨by rw [hfile]; exact hlatch,hmatch⟩,hfamily,hready,hsame.symm,hhmac,⟨row,hmem,hactive.1,hpolicy⟩,
    rfl,rfl,rfl,rfl⟩

theorem requireReady_none (h : ∀ latch, ¬Agreed s w latch) : requireReady s w component policy = none := by
  apply Option.eq_none_iff_forall_ne_some.mpr
  intro b hb
  obtain ⟨latch,-,hagreed,-⟩ := requireReady_eq_some hb
  exact h latch hagreed

/-- However the writes of a run fail, the stores agree, or nothing is served: there is no authority yet, or the stores
are apart, and then no later call changes either of them or makes them serve again. -/
theorem stores_fail_closed (s : Service) (before after : List Call) :
    (∃ latch, Agreed s (run (call s) World.initial before) latch) ∨
      (∀ component policy, requireReady s (run (call s) World.initial before) component policy = none) ∧
        (Unborn (run (call s) World.initial before) ∨
          Same (run (call s) World.initial before) (run (call s) World.initial (before++after)) ∧
            ∀ component policy, requireReady s (run (call s) World.initial (before++after)) component policy = none) := by
  rw [run_append]
  rcases run_phase s before with hunborn | hapart | hagreed
  · refine .inr ⟨fun component policy => requireReady_none fun latch h => ?_,.inl hunborn⟩
    have hauthority := h.authority
    rw [hunborn] at hauthority
    cases hauthority
  · have hsame := run_apart hapart after
    exact .inr ⟨fun component policy => requireReady_none hapart.2.2,
      .inr ⟨hsame,fun component policy => requireReady_none (hapart.of_same hsame).2.2⟩⟩
  · exact .inl hagreed

/-- A binding pins both stores: where two calls of one run bind to the same generation, neither store was changed between
them. -/
theorem binding_pins_stores (s : Service) (w : World) (between after : List Call) (c c' : RagPaidComponent)
    (p p' : AuthorizedProviderPolicySnapshot) :
    match requireReady s w c p, requireReady s (run (call s) w (between++after)) c' p' with
    | some b, some b' => b.globalSafetyGeneration = b'.globalSafetyGeneration → Same w (run (call s) w between)
    | _, _ => True := by
  cases hb : requireReady s w c p with
  | none => trivial
  | some b =>
    cases hb' : requireReady s (run (call s) w (between++after)) c' p' with
    | none => trivial
    | some b' =>
      intro heq
      obtain ⟨latch,_,hagreed,-,-,-,-,-,hgeneration,-⟩ := requireReady_eq_some hb
      obtain ⟨latch',_,hagreed',-,-,-,-,-,hgeneration',-⟩ := requireReady_eq_some hb'
      rw [run_append] at hagreed'
      rcases run_agreed hagreed between with hsame | hapart | ⟨middle,hmiddle,hlt⟩
      · exact hsame
      · exact absurd hagreed' ((hapart.of_same (run_apart hapart after)).2.2 latch')
      · rcases run_agreed hmiddle after with hsame' | hapart' | ⟨last,hlast,hlt'⟩
        · have hlast := hagreed'.unique (hmiddle.of_same hsame')
          rw [hlast] at hgeneration'
          omega
        · exact absurd hagreed' (hapart'.2.2 latch')
        · rw [hagreed'.unique hlast] at hgeneration'
          omega

end serving

/-! ## The bootstrap and its recovery

A bootstrap writes the file and then the rows. Where it is cut off between the two, the recovery leads to the very stores
that the bootstrap would have left. -/

section bootstrap

variable {s : Service} {p : Snapshots} {uuid reference : Text} {w : World} {latch : Latch s}

theorem validateSnapshots_spec (h : validateSnapshots p = true) :
    p.query.fingerprintKeyVersion = p.answer.fingerprintKeyVersion ∧
      p.query.fingerprintKeyMaterialVerifier = p.answer.fingerprintKeyMaterialVerifier ∧
      p.query.identity = bootstrapIdentity .queryEmbedding ∧ p.answer.identity = bootstrapIdentity .answerGeneration := by
  obtain ⟨hversion,hverifier,hquery,hanswer⟩ := of_decide_eq_true h
  exact ⟨hversion,hverifier,(of_decide_eq_true hquery).1,(of_decide_eq_true hanswer).1⟩

/-- The two records of a bootstrap, in one order or the other. -/
theorem sortRecords_pair (f g : FamilyRecord) : sortRecords [f,g] = [f,g] ∨ sortRecords [f,g] = [g,f] := by
  unfold sortRecords
  simp only [List.insertionSort_cons,List.insertionSort_nil,List.orderedInsert]
  split
  · exact .inl rfl
  · exact .inr rfl

theorem bootstrapReference_body (p : Snapshots) (uuid reference : Text) :
    bootstrapReference (bootstrapBody s p uuid reference) = some reference := by
  unfold bootstrapReference bootstrapBody
  dsimp only
  rcases sortRecords_pair (newRecord p.query 0 reference) (newRecord p.answer 0 reference) with h | h <;> rw [h] <;>
    simp [newRecord,FamilyRecord.point]

theorem matchExternal_body {e : Envelope} (hp : validateSnapshots p = true)
    (hwrap : s.wrap (bootstrapBody s p uuid reference) p.query.fingerprintKeyVersion
      p.query.fingerprintKeyMaterialVerifier = some e) (henvelope : latch.envelope = e) :
    matchExternalSnapshots s latch p = true := by
  obtain ⟨-,-,hquery,hanswer⟩ := validateSnapshots_spec hp
  have hpayload := wrap_payload hwrap
  have hne : p.answer.identity ≠ p.query.identity := by
    rw [hquery,hanswer]
    decide
  unfold matchExternalSnapshots Latch.body
  rw [henvelope,Envelope.body,hpayload]
  simp only [List.mem_cons,List.not_mem_nil,or_false,forall_eq_or_imp,forall_eq,true_and]
  apply decide_eq_true
  have hqueryActive : (bootstrapBody s p uuid reference).activeFamilyByComponent.get p.query.identity.component =
      p.query.identity := by
    rw [hquery]
    exact hquery
  have hanswerActive : (bootstrapBody s p uuid reference).activeFamilyByComponent.get p.answer.identity.component =
      p.answer.identity := by
    rw [hanswer]
    exact hanswer
  refine ⟨⟨hqueryActive,?_⟩,hanswerActive,?_⟩ <;> unfold Body.record? bootstrapBody <;> dsimp only <;>
    rcases sortRecords_pair (newRecord p.query 0 reference) (newRecord p.answer 0 reference) with h | h <;> rw [h] <;>
    simp [newRecord,hne,hne.symm]

/-- The text of the file that a bootstrap writes. -/
def bootstrapFile (s : Service) (p : Snapshots) (uuid reference : Text) : Option Text :=
  (s.wrap (bootstrapBody s p uuid reference) p.query.fingerprintKeyVersion p.query.fingerprintKeyMaterialVerifier).bind
    (replaceUnlocked s)

/-- The rows that a bootstrap inserts after it read its file. -/
def bootstrapRows (s : Service) (p : Snapshots) (reference file : Text) (db : Database) : Option Database :=
  (readUnlocked s file).bind fun latch => insertBootstrapRows s latch p reference db

theorem call_bootstrap {g : Failure} (hallowed : BootstrapAllowed p reference w) :
    call s w (.bootstrap p uuid reference ⟨.none,.none,g⟩) =
      match bootstrapFile s p uuid reference with
      | none => w
      | some file =>
        match bootstrapRows s p reference file w.db with
        | none => { w with file := some file }
        | some db => { w with file := some file, db } := by
  obtain ⟨hsnapshots,hlower,hfile,hempty⟩ := hallowed
  unfold call Call.program bootstrap replaceFile commitRows bootstrapFile
  simp only [bind_assoc,finalState_require_bind,finalState_get_bind,finalState_present_bind,finalState_modify_bind,
    finalState_require,Option.isNone_iff_eq_none]
  rw [if_pos hsnapshots,if_pos hlower,if_pos hfile,if_pos hempty]
  cases s.wrap (bootstrapBody s p uuid reference) p.query.fingerprintKeyVersion p.query.fingerprintKeyMaterialVerifier with
  | none => rfl
  | some e =>
    rw [Option.bind_some]
    cases hwrite : replaceUnlocked s e with
    | none => simp [hwrite]
    | some file =>
      unfold bootstrapRows
      cases hread : readUnlocked s file with
      | none => simp [hwrite,hread]
      | some latch => cases hrows : insertBootstrapRows s latch p reference w.db <;> simp [hwrite,hread,hrows]

/-- A bootstrap that is cut off between its writes leaves its file alone. -/
theorem call_bootstrap_cut {f g : Failure} (hf : f ≠ .before) (hallowed : BootstrapAllowed p reference w) :
    call s w (.bootstrap p uuid reference ⟨f,.before,g⟩) =
      match bootstrapFile s p uuid reference with
      | none => w
      | some file => { w with file := some file } := by
  obtain ⟨hsnapshots,hlower,hfile,hempty⟩ := hallowed
  unfold call Call.program bootstrap replaceFile commitRows bootstrapFile
  simp only [bind_assoc,finalState_require_bind,finalState_get_bind,finalState_present_bind,finalState_modify_bind,
    finalState_require,Option.isNone_iff_eq_none]
  rw [if_pos hsnapshots,if_pos hlower,if_pos hfile,if_pos hempty]
  cases s.wrap (bootstrapBody s p uuid reference) p.query.fingerprintKeyVersion p.query.fingerprintKeyMaterialVerifier with
  | none => rfl
  | some e =>
    rw [Option.bind_some]
    cases hwrite : replaceUnlocked s e with
    | none => simp [hwrite]
    | some file =>
      cases hread : readUnlocked s file with
      | none => simp [hwrite,hread,hf]
      | some latch => cases hrows : insertBootstrapRows s latch p reference w.db <;> simp [hwrite,hread,hrows,hf]

theorem call_bootstrap_refused {f : Failures} (hrefused : ¬BootstrapAllowed p reference w) :
    call s w (.bootstrap p uuid reference f) = w :=
  wp_finalState (m := bootstrap s p uuid reference f) (P := fun w' => w' = w)
    (wp_bootstrap rfl fun _ hallowed _ => absurd hallowed hrefused)

theorem finalState_readMatched : finalState (discard (readMatched s)) w = w := by
  refine wp_finalState (P := fun w' => w' = w) ?_
  apply wp_seq
  rw [← bind_pure (readMatched s)]
  exact wp_readMatched (fun _ => rfl) fun _ _ => rfl

/-- The recovery inserts the rows that the bootstrap would have inserted. -/
theorem call_recover {f g : Failure} {file : Text} (hallowed : BootstrapAllowed p reference w)
    (hfile : bootstrapFile s p uuid reference = some file) :
    call s { w with file := some file } (.recoverPartialBootstrap p ⟨f,.none,g⟩) =
      match bootstrapRows s p reference file w.db with
      | none => { w with file := some file }
      | some db => { w with file := some file, db } := by
  obtain ⟨hsnapshots,hlower,-,hempty⟩ := hallowed
  obtain ⟨e,hwrap,hwrite⟩ := Option.bind_eq_some_iff.mp hfile
  have hempty' : dbIsEmptyAndUnattempted { w with file := some file } = true := hempty
  unfold call Call.program recoverPartialBootstrap commitRows bootstrapRows
  simp only [bind_assoc,finalState_require_bind,finalState_get_bind,finalState_present_bind,finalState_modify_bind]
  rw [if_pos hsnapshots]
  cases hread : readUnlocked s file with
  | none => simp [hread]
  | some latch =>
    have henvelope := readUnlocked_replace hwrite hread
    have hbody : latch.body = bootstrapBody s p uuid reference := by
      unfold Latch.body Envelope.body
      rw [henvelope,wrap_payload hwrap]
    have hexternal := matchExternal_body hsnapshots hwrap henvelope
    have hgeneration : latch.body.globalSafetyGeneration = 0 := by rw [hbody]; rfl
    have hshape : bootstrapReference latch.body = some reference := by
      rw [hbody]
      exact bootstrapReference_body p uuid reference
    cases hrows : insertBootstrapRows s latch p reference w.db <;>
      simp [hread,hrows,hexternal,hgeneration,hshape,hempty',hlower,finalState_readMatched]

/-- A bootstrap that is cut off after its file was written and before its rows were, and then recovered with the same
snapshots, leaves the stores as the undisturbed bootstrap does. -/
theorem recovery_completes (s : Service) (p : Snapshots) (uuid reference : Text) (w : World) (f g h i : Failure)
    (hf : f ≠ .before) (hw : w.file = none) :
    Same (call s w (.bootstrap p uuid reference ⟨.none,.none,g⟩))
      (run (call s) w [.bootstrap p uuid reference ⟨f,.before,g⟩,.recoverPartialBootstrap p ⟨h,.none,i⟩]) := by
  rw [run_cons,run_cons,run_nil]
  have hunread : ∀ c : Failures, call s w (.recoverPartialBootstrap p c) = w := fun c =>
    wp_finalState (m := recoverPartialBootstrap s p c) (P := fun w' => w' = w) <| wp_recover rfl fun r _ _ => by
      have hread := r.read
      rw [hw] at hread
      cases hread
  by_cases hallowed : BootstrapAllowed p reference w
  · rw [call_bootstrap hallowed,call_bootstrap_cut hf hallowed]
    cases hfile : bootstrapFile s p uuid reference with
    | none =>
      dsimp only
      rw [hunread]
      exact Same.refl w
    | some file =>
      dsimp only
      rw [call_recover hallowed hfile]
      exact Same.refl _
  · rw [call_bootstrap_refused hallowed,call_bootstrap_refused hallowed,hunread]
    exact Same.refl w

/-! ## An example -/

def sampleHmac : Text := List.replicate 64 97

/-- A service whose digests are all the same. -/
def sampleService : Service where
  nfc := id
  limits := ⟨50,50,4300⟩
  secret := ⟨#[1]⟩
  hexdigest := fun _ _ => sampleHmac
  sha256 := fun _ => sampleHmac
  environment := text "staging"
  isUuid := fun _ => true
  isAware := fun _ => true

def sampleSnapshots : Snapshots where
  query := ⟨bootstrapIdentity .queryEmbedding,text "rag-query-embedding-config:v1",sampleHmac,
    text "rag-query-embedding-cost:v1",text "openai-cl100k-text-embedding-3-small:v1",text "k1",sampleHmac,sampleHmac⟩
  answer := ⟨bootstrapIdentity .answerGeneration,text "rag-answer-model-config:v1",sampleHmac,
    text "rag-answer-cost:v1",text "openai-o200k-rag-answer:v1",text "k1",sampleHmac,sampleHmac⟩

/-- The first bootstrap of all is allowed, and recovered when it is cut off. -/
theorem recovery_completes_initial : BootstrapAllowed sampleSnapshots sampleHmac World.initial ∧
    Same (call sampleService World.initial (.bootstrap sampleSnapshots (text "u") sampleHmac ⟨.none,.none,.none⟩))
      (run (call sampleService) World.initial
        [.bootstrap sampleSnapshots (text "u") sampleHmac ⟨.after,.before,.none⟩,
          .recoverPartialBootstrap sampleSnapshots ⟨.none,.none,.none⟩]) :=
  ⟨⟨by decide,by decide,rfl,by decide⟩,
    recovery_completes sampleService sampleSnapshots (text "u") sampleHmac World.initial .after .none .none .none (by decide)
      rfl⟩

end bootstrap

end ParaWorks.ProviderSafety
