import ParaWorks.Release.Recovery

/-!
# Runs of the release authority

What holds in every state that the four operations reach, each of them succeeding, refused or cut off.
-/

namespace ParaWorks.Release

open Lib

/-! ## The provider checkpoint

Which authorizations an append leaves started, and when its two checkpoints let it through. -/

section provider

variable {a : Authority} {s : ReleaseState} {current : Marker} {t : Tables} {input : AppendInput} {digest : Hmac}
  {row : Authorization}

/-! ## What an append leaves started -/

theorem validate_states {p : Payload} (h : validateTransitionPayload a p = some digest) :
    (p.authorizationStateBefore,p.authorizationStateAfter) ∈ allowedStates p.transitionKind p.outcome := by
  unfold validateTransitionPayload at h
  split at h
  · next hvalid => exact hvalid.2.2.2.1
  · cases h

/-- A kind that leaves an authorization started. -/
theorem started_after {kind : TransitionKind} {outcome : Option Outcome} {before : Option AuthorizationState}
    (h : (before,AuthorizationState.started) ∈ allowedStates kind outcome) :
    isDriftAbortKind kind = false ∧ kind ≠ .authorizationAbortComponent := by
  cases kind
  case authorizationAbortComponent =>
    simp only [allowedStates,List.mem_singleton,Prod.mk.injEq] at h
    split at h <;> cases h.2
  all_goals simp_all [allowedStates,isDriftAbortKind,isDriftKind]

theorem projection_states (h : projectionMatches s input = true) :
    (authorizationBefore s.rows input.payload).map (·.state) = input.payload.authorizationStateBefore ∧
    input.authorization.state = input.payload.authorizationStateAfter ∧
    isOf input.payload input.authorization = true ∧
    (∀ before, authorizationBefore s.rows input.payload = some before →
      before.providerSafetyEnvelopeDigest = input.authorization.providerSafetyEnvelopeDigest) ∧
    (providerAfter s input).envelopeDigest = input.payload.providerSafetyEnvelopeDigest ∧
    providerAccepts input.payload.transitionKind input.authorization.providerSafetyEnvelopeDigest s.provider
      (providerAfter s input) = true := by
  simp only [projectionMatches,Bool.and_eq_true,decide_eq_true_eq] at h
  obtain ⟨⟨⟨⟨⟨⟨hbefore,hafter⟩,hof⟩,-⟩,hsame⟩,hdigest⟩,haccepts⟩ := h
  refine ⟨hbefore,hafter,hof,fun before heq => ?_,hdigest,haccepts⟩
  rw [heq] at hsame
  simpa using hsame

/-- What an append leaves started has the digest of the provider that it leaves. -/
theorem Prepared.agrees (h : Prepared a s input current digest) :
    ¬Drifted input.authorization (providerAfter s input).envelopeDigest := by
  rintro ⟨hstarted,hne⟩
  obtain ⟨-,hafter,-,-,-,haccepts⟩ := projection_states h.projection
  have hstates := validate_states h.valid
  rw [← hafter,hstarted] at hstates
  obtain ⟨hdrift,hcomponent⟩ := started_after hstates
  simp only [isDriftAbortKind,decide_eq_false_iff_not] at hdrift
  push Not at hdrift
  obtain ⟨hcontrol,hcorpus,hcrash⟩ := hdrift
  simp only [providerAccepts,hcontrol,hcomponent,hcorpus,hcrash,Bool.false_eq_true,or_self,if_false,Bool.and_eq_true,
    decide_eq_true_eq] at haccepts
  exact hne haccepts.1.symm

theorem mem_mutate (h : row ∈ (mutate t input).authorizations) :
    row = input.authorization ∨ row ∈ t.authorizations ∧ isOf input.payload row = false := by
  unfold mutate at h
  dsimp only at h
  split at h
  · next hnone =>
    rcases List.mem_append.mp h with hmem | hmem
    · have hfind := Option.isNone_iff_eq_none.mp hnone
      rw [authorizationBefore,List.find?_eq_none] at hfind
      exact .inr ⟨hmem,by simpa using hfind row hmem⟩
    · exact .inl (List.mem_singleton.mp hmem)
  · obtain ⟨row',hmem,heq⟩ := List.mem_map.mp h
    split at heq
    · exact .inl heq.symm
    · next hof => exact .inr (heq ▸ ⟨hmem,by simpa using hof⟩)

/-- The others decide whether an append leaves a started authorization that has not the provider's digest. -/
theorem Prepared.undrifted (h : Prepared a s input current digest)
    (hothers : ∀ row ∈ s.rows.authorizations, isOf input.payload row = false →
      ¬Drifted row (providerAfter s input).envelopeDigest) :
    ∀ row ∈ (mutate s.rows input).authorizations, ¬Drifted row (providerAfter s input).envelopeDigest := by
  intro row hrow
  rcases mem_mutate hrow with rfl | ⟨hmem,hof⟩
  · exact h.agrees
  · exact hothers row hmem hof

theorem Prepared.checkpoint (h : Prepared a s input current digest)
    (hothers : ∀ row ∈ s.rows.authorizations, isOf input.payload row = false →
      ¬Drifted row (providerAfter s input).envelopeDigest) : checkpoint s input = true :=
  revalidateProvider_of_none (h.undrifted hothers)

/-! ## Provider incidents -/

/-- A provider incident that passes the checks is applied by an append that nothing cuts off, and finds no other
authorization started. -/
def IncidentCommits (a : Authority) (s : ReleaseState) (stop : Stop) (input : AppendInput) : Prop :=
  input.incident.isSome = true → (prepareAppend a s input).isOk = true → (stop = .none ∨ stop = .refused) ∧
    ∀ row ∈ s.rows.authorizations, row.state = .started → isOf input.payload row = true

theorem providerAfter_none (h : input.incident = none) : providerAfter s input = s.provider := by
  rw [providerAfter,h]

theorem IncidentCommits.of_prepared {stop : Stop} (h : IncidentCommits a s stop input)
    (hp : Prepared a s input current digest) (hincident : input.incident.isSome = true) :
    (stop = .none ∨ stop = .refused) ∧
      ∀ row ∈ s.rows.authorizations, row.state = .started → isOf input.payload row = true := by
  apply h hincident
  rw [prepareAppend_ok.mpr hp]
  rfl

theorem IncidentCommits.others {stop : Stop} (h : IncidentCommits a s stop input) (hp : Prepared a s input current digest)
    (hothers : ∀ row ∈ s.rows.authorizations, isOf input.payload row = false →
      ¬Drifted row s.provider.envelopeDigest) :
    ∀ row ∈ s.rows.authorizations, isOf input.payload row = false →
      ¬Drifted row (providerAfter s input).envelopeDigest := by
  intro row hrow hof
  cases hincident : input.incident with
  | none =>
    rw [providerAfter_none hincident]
    exact hothers row hrow hof
  | some incident =>
    rintro ⟨hstarted,-⟩
    have hsame := (h.of_prepared hp (by rw [hincident]; rfl)).2 row hrow hstarted
    rw [hsame] at hof
    cases hof

end provider

variable {a : Authority} {s s' : ReleaseState} {m m' : Marker} {stop : Stop} {input : AppendInput}
  {c : ReleaseCommand}

/-! ## The order of markers -/

/-- A later generation of the same epoch, or a later epoch. -/
def Before (m m' : Marker) : Prop :=
  m.ledgerEpoch < m'.ledgerEpoch ∨ m.ledgerEpoch = m'.ledgerEpoch ∧ m.generation < m'.generation

theorem Before.trans {m m' m'' : Marker} (h : Before m m') (h' : Before m' m'') : Before m m'' := by
  unfold Before at h h' ⊢
  omega

/-- A marker file is left alone, moved on within its ledger, or replaced by one of a ledger drawn now. -/
def Moves (s : ReleaseState) (drawn : List Text) (s' : ReleaseState) : Prop :=
  s'.marker = s.marker ∨ ∃ m', s'.marker = some m' ∧
    ((∃ m, s.marker = some m ∧ m.ledgerUuid = m'.ledgerUuid ∧ Before m m') ∨ m'.ledgerUuid ∈ drawn)

theorem publish_marker (s : ReleaseState) (stop : Stop) (m : Marker) (identityUuid : Text) :
    (publish a s stop m identityUuid).1.marker = s.marker ∨ (publish a s stop m identityUuid).1.marker = some m := by
  rcases publish_cases s stop m identityUuid with heq | ⟨heq,-⟩ | ⟨heq,-⟩
  · exact .inl (by rw [heq])
  · exact .inr (by rw [heq])
  · exact .inr (by rw [heq])

theorem Publishes.moves {P : Marker → Prop} {result : ReleaseState × Except ReleaseError Marker} {drawn : List Text}
    (h : Publishes a s stop P result)
    (hP : ∀ m, P m → (∃ prior, s.marker = some prior ∧ prior.ledgerUuid = m.ledgerUuid ∧ Before prior m) ∨
      m.ledgerUuid ∈ drawn) : Moves s drawn result.1 := by
  rcases h with ⟨heq,-⟩ | ⟨m,identityUuid,hm,-,rfl⟩
  · exact .inl (by rw [heq])
  · rcases publish_marker s stop m identityUuid with heq | heq
    · exact .inl heq
    · exact .inr ⟨m,heq,hP m hm⟩

theorem append_moves (h : Sound a s) (stop : Stop) (input : AppendInput) : Moves s [] (append a s stop input).1 := by
  by_cases hex : ∃ current digest, Prepared a s input current digest
  · obtain ⟨current,digest,hp⟩ := hex
    have hnext : Before current (nextMarker current input.payload digest) := by
      have hto := (hp.extends h).toGeneration
      refine .inr ⟨rfl,?_⟩
      change current.generation < input.payload.toGeneration
      omega
    rw [append_prepared hp h]
    split
    · exact .inl rfl
    split
    · exact .inl rfl
    split
    · exact .inl rfl
    split
    · exact .inr ⟨_,rfl,.inl ⟨current,hp.marker,rfl,hnext⟩⟩
    · exact .inr ⟨_,rfl,.inl ⟨current,hp.marker,rfl,hnext⟩⟩
  · push Not at hex
    exact .inl (by rw [(append_refused hex stop).1])

theorem perform_moves (h : Sound a s) (c : ReleaseCommand) : Moves s (drawnBy c) (perform a s c).1 := by
  cases c with
  | initializeLedger stop review ledgerUuid identityUuid =>
    apply (initializeLedger_publishes s).moves
    intro m hm
    exact .inr (List.mem_singleton.mpr hm.1)
  | append stop input => exact append_moves h stop input
  | rebootstrap stop review =>
    apply (rebootstrap_publishes h).moves
    intro m hm
    obtain ⟨prior,hprior,huuid,hlt⟩ := hm.1
    exact .inl ⟨prior,hprior,huuid,.inl hlt⟩
  | disasterInitialize stop review ledgerUuid identityUuid =>
    apply (disasterInitialize_publishes s).moves
    intro m hm
    exact .inr (List.mem_singleton.mpr hm.1)
  | changeProvider provider => exact .inl rfl

theorem Sound.perform (h : Sound a s) (c : ReleaseCommand) : Sound a (perform a s c).1 := by
  cases c with
  | initializeLedger stop review ledgerUuid identityUuid => exact (initializeLedger_publishes s).sound h
  | append stop input => exact h.append
  | rebootstrap stop review => exact (rebootstrap_publishes h).sound h
  | disasterInitialize stop review ledgerUuid identityUuid => exact (disasterInitialize_publishes s).sound h
  | changeProvider provider => exact h.of_eq rfl rfl

/-! ## Published markers -/

/-- The markers of one ledger are published in order; the file holds the last one. -/
structure Chronicle (s : ReleaseSystem) : Prop where
  newest : s.state.marker = s.published.getLast?
  drawn : ∀ m ∈ s.published, m.ledgerUuid ∈ s.uuids
  ordered : s.published.Pairwise fun m m' => m.ledgerUuid = m'.ledgerUuid → Before m m'

/-- The ledger UUIDs that an operation draws are new. -/
def Drawn (s : ReleaseSystem) (c : ReleaseCommand) : Prop := ∀ ledgerUuid ∈ drawnBy c, ledgerUuid ∉ s.uuids

/-- What a chronicle says of a marker that follows the last one. -/
theorem Chronicle.before {s : ReleaseSystem} (h : Chronicle s) (hmarker : s.state.marker = some m)
    (hnext : Before m m') : ∀ other ∈ s.published, other.ledgerUuid = m.ledgerUuid → Before other m' := by
  intro other hother huuid
  rw [h.newest] at hmarker
  obtain ⟨earlier,hpublished⟩ := List.getLast?_eq_some_iff.mp hmarker
  have hordered := h.ordered
  rw [hpublished] at hordered hother
  rcases List.mem_append.mp hother with hother | hother
  · have hbefore := (List.pairwise_append.mp hordered).2.2 other hother m (List.mem_singleton.mpr rfl)
    exact (hbefore huuid).trans hnext
  · obtain rfl := List.mem_singleton.mp hother
    exact hnext

theorem Chronicle.step {s : ReleaseSystem} (h : Chronicle s) (hs : Sound a s.state) (hc : Drawn s c) :
    Chronicle (step a s c) := by
  have hmoves := perform_moves hs c
  by_cases hsame : (perform a s.state c).1.marker = s.state.marker
  · have hpublished : (Release.step a s c).published = s.published := by
      simp [Release.step,publishedBy,hsame]
    refine ⟨?_,fun m hm => ?_,?_⟩
    · rw [hpublished]
      exact hsame.trans h.newest
    · rw [hpublished] at hm
      exact List.mem_append_right _ (h.drawn m hm)
    · rw [hpublished]
      exact h.ordered
  · obtain ⟨m',hm',hfrom⟩ := hmoves.resolve_left hsame
    have hpublished : (Release.step a s c).published = s.published++[m'] := by
      have hne : some m' ≠ s.state.marker := hm' ▸ hsame
      simp only [Release.step,publishedBy,hm',if_neg hne,Option.toList_some]
    refine ⟨?_,fun m hm => ?_,?_⟩
    · rw [hpublished,List.getLast?_concat]
      exact hm'
    · rw [hpublished] at hm
      rcases List.mem_append.mp hm with hm | hm
      · exact List.mem_append_right _ (h.drawn m hm)
      · obtain rfl := List.mem_singleton.mp hm
        rcases hfrom with ⟨prior,hprior,huuid,-⟩ | hnew
        · rw [h.newest] at hprior
          exact List.mem_append_right _ (huuid ▸ h.drawn prior (List.mem_of_getLast? hprior))
        · exact List.mem_append_left _ hnew
    · rw [hpublished,List.pairwise_append]
      refine ⟨h.ordered,List.pairwise_singleton _ _,fun other hother m hm huuid => ?_⟩
      obtain rfl := List.mem_singleton.mp hm
      rcases hfrom with ⟨prior,hprior,hsameLedger,hbefore⟩ | hnew
      · exact h.before hprior hbefore other hother (huuid.trans hsameLedger.symm)
      · exact absurd (huuid ▸ h.drawn other hother) (hc _ hnew)

/-! ## The invariant -/

structure Orderly (a : Authority) (s : ReleaseSystem) : Prop where
  sound : Sound a s.state
  barrier : s.state.latch = s.state.provider.envelopeDigest
  provider : ∀ row ∈ s.state.rows.authorizations, ¬Drifted row s.state.provider.envelopeDigest
  pending : s.state.rows.ledgers = [] → ∀ m, s.state.marker = some m → isPendingInitialMarker m = true
  chronicle : Chronicle s

theorem Orderly.initial (provider : Provider) : Orderly a (ReleaseSystem.initial provider) where
  sound := Sound.initial provider
  barrier := rfl
  provider := by simp [ReleaseSystem.initial,ReleaseState.rows,Tables.empty]
  pending := by simp [ReleaseSystem.initial]
  chronicle := ⟨rfl,by simp [ReleaseSystem.initial],List.Pairwise.nil⟩

/-- Nobody but the authority writes. -/
def Alone : ReleaseCommand → Prop
  | .changeProvider _ => False
  | _ => True

/-- No disaster initialization that passes its checks is cut off after its marker, and no provider incident is applied
without its commit. -/
def Uninterrupted (a : Authority) (s : ReleaseSystem) : ReleaseCommand → Prop
  | .disasterInitialize stop review _ _ => stop = .afterMarker → ¬Replaceable a s.state review
  | .append stop input => IncidentCommits a s.state stop input
  | _ => True

/-- What the bootstrap operations leave of the provider and of its authorizations. -/
theorem publish_provider (s : ReleaseState) (stop : Stop) (m : Marker) (identityUuid : Text) :
    (publish a s stop m identityUuid).1.latch = s.latch ∧ (publish a s stop m identityUuid).1.provider = s.provider ∧
      (publish a s stop m identityUuid).1.rows.authorizations = s.rows.authorizations := by
  rcases publish_cases s stop m identityUuid with heq | ⟨heq,-⟩ | ⟨heq,-⟩ <;> rw [heq] <;> exact ⟨rfl,rfl,rfl⟩

theorem Publishes.provider {P : Marker → Prop} {result : ReleaseState × Except ReleaseError Marker}
    (h : Publishes a s stop P result) : result.1.latch = s.latch ∧ result.1.provider = s.provider ∧
      result.1.rows.authorizations = s.rows.authorizations := by
  rcases h with ⟨heq,-⟩ | ⟨m,identityUuid,-,-,rfl⟩
  · rw [heq]
    exact ⟨rfl,rfl,rfl⟩
  · exact publish_provider s stop m identityUuid

/-- A marker published over an empty ledger has no row only when it was cut off. -/
theorem publish_unrecorded {identityUuid : Text} (h : Sound a s) (hm : Successor a s.rows m identityUuid)
    (hnone : (publish a s stop m identityUuid).1.rows.ledgers = []) : s.rows.ledgers = [] ∧
      ((publish a s stop m identityUuid).1.marker = s.marker ∨
        stop = .afterMarker ∧ (publish a s stop m identityUuid).1.marker = some m) := by
  rcases publish_cases s stop m identityUuid with heq | ⟨heq,hstop | ⟨-,hfail⟩⟩ | ⟨heq,-⟩
  · rw [heq] at hnone ⊢
    exact ⟨hnone,.inl rfl⟩
  · rw [heq] at hnone ⊢
    exact ⟨hnone,.inr ⟨hstop,rfl⟩⟩
  · rw [heq] at hnone
    change s.rows.ledgers = [] at hnone
    have hfree : InsertFree s.rows (ledgerRowOf a m identityUuid) := by simp [InsertFree,hnone]
    rcases hfail with hfail | hfail
    · exact absurd hfree hfail
    · exact absurd (hm.inspectLocked h.tables hfree) (hfail m)
  · rw [heq] at hnone
    simp [ReleaseState.rows] at hnone

theorem Publishes.pending {P : Marker → Prop} {result : ReleaseState × Except ReleaseError Marker}
    (h : Publishes a s stop P result) (hs : Sound a s)
    (hpending : s.rows.ledgers = [] → ∀ m, s.marker = some m → isPendingInitialMarker m = true)
    (hP : ∀ m, P m → s.rows.ledgers = [] → stop = .afterMarker → isPendingInitialMarker m = true)
    (hnone : result.1.rows.ledgers = []) : ∀ m, result.1.marker = some m → isPendingInitialMarker m = true := by
  rcases h with ⟨heq,-⟩ | ⟨m',identityUuid,hm',hsuccessor,rfl⟩
  · rw [heq] at hnone ⊢
    exact hpending hnone
  · intro m hm
    obtain ⟨hempty,hmarker | ⟨hstop,hmarker⟩⟩ := publish_unrecorded hs hsuccessor hnone
    · exact hpending hempty m (hmarker ▸ hm)
    · rw [hmarker] at hm
      obtain rfl := Option.some.inj hm
      exact hP m' hm' hempty hstop

theorem Orderly.publishes {s : ReleaseSystem} {P : Marker → Prop}
    {result : ReleaseState × Except ReleaseError Marker} (h : Orderly a s) (hp : Publishes a s.state stop P result)
    (hP : ∀ m, P m → s.state.rows.ledgers = [] → stop = .afterMarker → isPendingInitialMarker m = true) :
    result.1.latch = result.1.provider.envelopeDigest ∧
    (∀ row ∈ result.1.rows.authorizations, ¬Drifted row result.1.provider.envelopeDigest) ∧
      (result.1.rows.ledgers = [] → ∀ m, result.1.marker = some m → isPendingInitialMarker m = true) := by
  obtain ⟨hlatch,hprovider,hrows⟩ := hp.provider
  refine ⟨?_,?_,hp.pending h.sound h.pending hP⟩
  · rw [hlatch,hprovider]
    exact h.barrier
  · rw [hprovider,hrows]
    exact h.provider

theorem Orderly.append {s : ReleaseSystem} (h : Orderly a s) (hc : IncidentCommits a s.state stop input) :
    (Release.append a s.state stop input).1.latch = (Release.append a s.state stop input).1.provider.envelopeDigest ∧
    (∀ row ∈ (Release.append a s.state stop input).1.rows.authorizations,
      ¬Drifted row (Release.append a s.state stop input).1.provider.envelopeDigest) ∧
    ((Release.append a s.state stop input).1.rows.ledgers = [] →
      ∀ m, (Release.append a s.state stop input).1.marker = some m → isPendingInitialMarker m = true) := by
  by_cases hex : ∃ current digest, Prepared a s.state input current digest
  · obtain ⟨current,digest,hp⟩ := hex
    have hsound := h.sound
    obtain ⟨r,hr,-⟩ := hsound.on_row hp.marker hp.inspected
    have hne : s.state.rows.ledgers ≠ [] := List.ne_nil_of_mem hr
    have hothers := hc.others hp fun row hrow _ => h.provider row hrow
    have hlatched : input.incident = none → (latched s.state input).latch = s.state.provider.envelopeDigest := by
      intro hnone
      rw [latched,providerAfter_none hnone]
    have hincident : stop ≠ .none → stop ≠ .refused → input.incident = none := by
      intro hstop hstop'
      cases hsome : input.incident with
      | none => rfl
      | some incident => exact absurd (hc.of_prepared hp (by rw [hsome]; rfl)).1 (by simp [hstop,hstop'])
    rw [append_prepared hp hsound,hp.checkpoint hothers]
    split
    · exact ⟨h.barrier,h.provider,fun hnone => absurd hnone hne⟩
    next hrefused =>
    split
    · next hafter => exact ⟨hlatched (hincident (by simp [hafter]) hrefused),h.provider,fun hnone => absurd hnone hne⟩
    split
    · next hfalse => cases hfalse
    split
    · next hafter => exact ⟨hlatched (hincident (by simp [hafter]) hrefused),h.provider,fun hnone => absurd hnone hne⟩
    · refine ⟨rfl,hp.undrifted hothers,fun hnone => ?_⟩
      have hledgers : s.state.rows.ledgers = [] := by
        simpa [ReleaseState.rows,appended,recorded,mutate] using hnone
      exact absurd hledgers hne
  · push Not at hex
    rw [(append_refused hex stop).1]
    exact ⟨h.barrier,h.provider,h.pending⟩

theorem Orderly.step {s : ReleaseSystem} (h : Orderly a s) (hdrawn : Drawn s c) (halone : Alone c)
    (hc : Uninterrupted a s c) : Orderly a (step a s c) := by
  have hsound := h.sound.perform c
  have hchronicle := h.chronicle.step h.sound hdrawn (a := a)
  cases c with
  | initializeLedger stop review ledgerUuid identityUuid =>
    obtain ⟨hbarrier,hprovider,hpending⟩ := h.publishes (initializeLedger_publishes s.state) fun m hm _ _ => hm.2
    exact ⟨hsound,hbarrier,hprovider,hpending,hchronicle⟩
  | append stop input =>
    obtain ⟨hbarrier,hprovider,hpending⟩ := h.append hc
    exact ⟨hsound,hbarrier,hprovider,hpending,hchronicle⟩
  | rebootstrap stop review =>
    obtain ⟨hbarrier,hprovider,hpending⟩ := h.publishes (rebootstrap_publishes h.sound) fun m hm hnone _ => absurd hnone hm.2
    exact ⟨hsound,hbarrier,hprovider,hpending,hchronicle⟩
  | disasterInitialize stop review ledgerUuid identityUuid =>
    obtain ⟨hbarrier,hprovider,hpending⟩ := h.publishes (disasterInitialize_publishes s.state)
      fun m hm _ hstop => absurd hm.2 (hc hstop)
    exact ⟨hsound,hbarrier,hprovider,hpending,hchronicle⟩
  | changeProvider provider => exact halone.elim

/-! ## Upright states -/

/-- Something takes the state on: the authority inspects, or a new epoch or a new ledger can be published. -/
def Recovers (a : Authority) (s : ReleaseState) : Prop :=
  (∃ m, inspect a s = .ok m) ∨
  (∀ review, FreshReview s review → ∃ m, (rebootstrap a s .none review).2 = .ok m) ∨
  ∀ review ledgerUuid identityUuid, FreshReview s review →
    ∃ m, (disasterInitialize a s .none review ledgerUuid identityUuid).2 = .ok m

structure Upright (a : Authority) (s : ReleaseSystem) : Prop where
  inspects : ∀ m, inspect a s.state = .ok m ↔
    s.state.marker = some m ∧ OnNewestRow a s.state.rows m ∧ GaplessHistory a s.state.rows m
  appends : ∀ stop input m', (append a s.state stop input).2 = .ok m' → ∃ m, s.state.marker = some m ∧
    (append a s.state stop input).1.marker = some m' ∧ m'.ledgerUuid = m.ledgerUuid ∧ m'.ledgerEpoch = m.ledgerEpoch ∧
      m'.generation = m.generation+1
  chronicle : Chronicle s
  epochs : (s.state.rows.ledgers.map fun r => (r.ledgerUuid,r.ledgerEpoch)).Nodup
  nonces : (s.state.rows.ledgers.map (·.bootstrapReviewNonceHmac)).Nodup
  recovers : Recovers a s.state

/-- A successful append is committed one generation on. -/
theorem append_raises (h : Sound a s) (hok : (append a s stop input).2 = .ok m') : ∃ m, s.marker = some m ∧
    (append a s stop input).1.marker = some m' ∧ m'.ledgerUuid = m.ledgerUuid ∧ m'.ledgerEpoch = m.ledgerEpoch ∧
      m'.generation = m.generation+1 := by
  by_cases hex : ∃ current digest, Prepared a s input current digest
  · obtain ⟨current,digest,hp⟩ := hex
    have hto := (hp.extends h).toGeneration
    refine ⟨current,hp.marker,?_⟩
    rw [append_prepared hp h] at hok ⊢
    split at hok
    · cases hok
    next hrefused =>
    split at hok
    · cases hok
    next hafter =>
    split at hok
    · cases hok
    next hcheck =>
    split at hok
    · cases hok
    next hmarker =>
    obtain rfl := Except.ok.inj hok
    rw [if_neg hrefused,if_neg hafter,if_neg hcheck,if_neg hmarker]
    exact ⟨rfl,rfl,rfl,hto⟩
  · push Not at hex
    obtain ⟨-,e,he⟩ := append_refused hex stop
    rw [he] at hok
    cases hok

theorem Orderly.recovers {s : ReleaseSystem} (h : Orderly a s) : Recovers a s.state := by
  have hbarrier : barrierHeld s.state = true := decide_eq_true h.barrier
  by_cases hnone : s.state.rows.ledgers = []
  · apply Or.inr ∘ Or.inr
    intro review ledgerUuid identityUuid hreview
    exact disasterInitialize_ok h.sound hbarrier hnone (h.pending hnone) hreview
  · obtain ⟨m,hmarker⟩ := Option.ne_none_iff_exists'.mp fun hm => hnone (h.sound.unmarked hm)
    by_cases hrow : ∃ r ∈ s.state.rows.ledgers, r.marker = m
    · obtain ⟨r,hr,rfl⟩ := hrow
      refine .inl ⟨r.marker,inspect_ok.mpr ⟨hmarker,hbarrier,(h.sound.marked _ hmarker).1.parse,?_,h.provider⟩⟩
      rw [tables_of_mem hr]
      exact h.sound.tables.inspectLocked hr
    · push Not at hrow
      apply Or.inr ∘ Or.inl
      intro review hreview
      exact rebootstrap_ok h.sound hbarrier hmarker hnone hrow h.provider hreview

theorem Orderly.upright {s : ReleaseSystem} (h : Orderly a s) : Upright a s where
  inspects := fun m => h.sound.inspect_iff (decide_eq_true h.barrier) h.provider
  appends := fun stop input m' hok => append_raises h.sound hok
  chronicle := h.chronicle
  epochs := by
    apply List.Nodup.of_map Prod.snd
    rw [List.map_map]
    exact h.sound.tables.epochs
  nonces := h.sound.tables.nonces
  recovers := h.recovers

/-- Whatever is refused or cut off, the authority tells the truth and can be taken on, as long as no disaster
initialization stops between its marker and its commit and every provider incident is committed. -/
theorem release_stays_upright (a : Authority) (provider : Provider) (commands : List ReleaseCommand)
    (h : RunMeets (step a) (fun s c => Drawn s c ∧ Alone c ∧ Uninterrupted a s c) (ReleaseSystem.initial provider) commands) :
    Upright a (run (step a) (ReleaseSystem.initial provider) commands) := by
  apply Orderly.upright
  refine run_invariant_of (fun s c hc hs => ?_) h (Orderly.initial provider)
  exact hs.step hc.1 hc.2.1 hc.2.2

/-! ## Runs on given values -/

instance neZeroSamples : NeZero 16 := ⟨by decide⟩

def sampleHmac (n : Fin 16) : Hmac := ⟨List.replicate 64 (ofChar (Nat.digitChar n)),by revert n; decide +kernel⟩

def sampleAuthority : Authority where
  keyVersion := text "v1"
  keyVerifier := sampleHmac 1
  environmentHmac := sampleHmac 2
  hostHmac := sampleHmac 3
  databaseIdentity := ⟨text "validation",16384⟩
  databaseHmac := fun _ _ => sampleHmac 4
  databaseLocatorHmac := fun _ => sampleHmac 5
  fileDigest := fun m => if m.ledgerEpoch = 1 then sampleHmac 6 else sampleHmac 7
  transitionDigest := fun _ => sampleHmac 8
  matrixAccepts := fun _ => true

def sampleProvider : Provider := ⟨sampleHmac 9,true⟩

def sampleReview (n : Fin 16) : Review := ⟨sampleHmac n,sampleHmac n,sampleHmac n⟩

/-- The bootstrap of an authorization, the first transition of its epoch. -/
def sampleAppend : AppendInput where
  payload := ⟨.authorizationBootstrap,none,text "c",1,0,1,sampleHmac 13,none,.unused,sampleHmac 9,sampleHmac 4,[]⟩
  authorization := ⟨text "c",1,sampleHmac 13,.unused,sampleHmac 9⟩
  peers := []
  incident := none
  peersAccepted := true

/-- An initialization, an append and a new epoch that are all cut off after their markers. -/
theorem release_stays_upright_cut_off :
    Upright sampleAuthority (run (step sampleAuthority) (ReleaseSystem.initial sampleProvider)
      [.initializeLedger .afterMarker (sampleReview 10) (text "a") (text "b"),
        .disasterInitialize .none (sampleReview 11) (text "c") (text "d"),.append .afterMarker sampleAppend,
        .rebootstrap .afterMarker (sampleReview 12)]) := by
  apply release_stays_upright
  refine ⟨⟨?_,trivial,trivial⟩,⟨?_,trivial,?_⟩,⟨?_,trivial,?_⟩,⟨?_,trivial,trivial⟩,trivial⟩
  · simp [Drawn,drawnBy,ReleaseSystem.initial]
  · change ∀ ledgerUuid ∈ [text "c"], ledgerUuid ∉ [text "a"]
    decide
  · intro hstop
    cases hstop
  · simp [Drawn,drawnBy]
  · intro hincident
    cases hincident
  · simp [Drawn,drawnBy]

/-- Nothing takes on a disaster initialization that is cut off after its marker: the database holds no row to compare
with, and the marker is not one that another initialization may follow. -/
theorem disaster_marker_wedges (hmarker : s.marker = some m) (hsound : MarkerSound a m) (htables : s.tables = none)
    (hpending : isPendingInitialMarker m = false) (c : ReleaseCommand) (m' : Marker) :
    inspect a s ≠ .ok m' ∧ (perform a s c).2 ≠ some (.ok m') := by
  have hlocked : ∀ m' m'', inspectLocked a s.tables m' ≠ .ok m'' := by
    intro m' m'' h
    obtain ⟨-,t,row,hsome,-⟩ := inspectLocked_ok.mp h
    rw [htables] at hsome
    cases hsome
  constructor
  · intro h
    exact hlocked _ _ (inspect_ok.mp h).2.2.2.1
  · intro h
    cases c with
    | initializeLedger stop review ledgerUuid identityUuid => simp [perform,initializeLedger,hmarker] at h
    | append stop input =>
      have hrefused : ∀ current digest, ¬Prepared a s input current digest := fun _ _ hp => hlocked _ _ hp.inspected
      obtain ⟨-,e,he⟩ := append_refused hrefused stop
      simp [perform,he] at h
    | rebootstrap stop review =>
      have hrow : predecessorRow s.tables m = .error .schemaInconsistent := by
        simp [predecessorRow,ledgerRowOrNone,htables]
      simp only [perform,rebootstrap,hmarker,hsound.parse,hrow] at h
      split at h
      · simp at h
      · split at h <;> simp at h
    | disasterInitialize stop review ledgerUuid identityUuid =>
      have hrequires : s.marker.any (requiresRebootstrap a) = true := by
        have hok : (parse a m).isOk = true := by rw [hsound.parse]; rfl
        simp [hmarker,requiresRebootstrap,hok,hsound.locator,hpending]
      simp only [perform,disasterInitialize,hrequires] at h
      split at h
      · simp at h
      · split at h <;> simp at h
    | changeProvider provider => simp [perform] at h

/-- The run of one operation, a disaster initialization cut off after its marker: the authority refuses to inspect, and
refuses every operation. -/
theorem release_stays_upright_wedged :
    RunMeets (step sampleAuthority) (fun s c => Drawn s c ∧ Alone c) (ReleaseSystem.initial sampleProvider)
      [.disasterInitialize .afterMarker (sampleReview 10) (text "a") (text "b")] ∧
    ¬Upright sampleAuthority (run (step sampleAuthority) (ReleaseSystem.initial sampleProvider)
      [.disasterInitialize .afterMarker (sampleReview 10) (text "a") (text "b")]) ∧
    ∀ c m, inspect sampleAuthority (run (step sampleAuthority) (ReleaseSystem.initial sampleProvider)
        [.disasterInitialize .afterMarker (sampleReview 10) (text "a") (text "b")]).state ≠ .ok m ∧
      (perform sampleAuthority (run (step sampleAuthority) (ReleaseSystem.initial sampleProvider)
        [.disasterInitialize .afterMarker (sampleReview 10) (text "a") (text "b")]).state c).2 ≠ some (.ok m) := by
  have hwedged := disaster_marker_wedges (a := sampleAuthority)
    (s := (run (step sampleAuthority) (ReleaseSystem.initial sampleProvider)
      [.disasterInitialize .afterMarker (sampleReview 10) (text "a") (text "b")]).state)
    (m := newMarker sampleAuthority (text "a") 1 none (some (sampleHmac 10)) (sampleHmac 4) (sampleHmac 5) (sampleReview 10)
      .releaseLedgerDisasterInit) (by decide +kernel) ⟨rfl,rfl,rfl,rfl,rfl,rfl⟩ (by decide +kernel) (by decide +kernel)
  refine ⟨⟨⟨?_,trivial⟩,trivial⟩,fun hupright => ?_,hwedged⟩
  · simp [Drawn,drawnBy,ReleaseSystem.initial]
  · have hfresh : FreshReview (run (step sampleAuthority) (ReleaseSystem.initial sampleProvider)
        [.disasterInitialize .afterMarker (sampleReview 10) (text "a") (text "b")]).state (sampleReview 11) := by
      refine ⟨fun m hm => ?_,fun r hr => ?_,fun r hr => ?_⟩
      · have heq : newMarker sampleAuthority (text "a") 1 none (some (sampleHmac 10)) (sampleHmac 4) (sampleHmac 5)
            (sampleReview 10) .releaseLedgerDisasterInit = m := Option.some.inj hm
        rw [← heq]
        decide +kernel
      · cases hr
      · cases hr
    rcases hupright.recovers with ⟨m,hm⟩ | hrebootstrap | hdisaster
    · exact (hwedged (.rebootstrap .none (sampleReview 11)) m).1 hm
    · obtain ⟨m,hm⟩ := hrebootstrap _ hfresh
      exact (hwedged (.rebootstrap .none (sampleReview 11)) m).2 (congrArg some hm)
    · obtain ⟨m,hm⟩ := hdisaster _ (text "c") (text "d") hfresh
      exact (hwedged (.disasterInitialize .none (sampleReview 11) (text "c") (text "d")) m).2 (congrArg some hm)

end ParaWorks.Release
