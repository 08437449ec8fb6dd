import ParaWorks.Release.Runs

/-!
# Drifted authorizations

A started authorization whose approved envelope is not the provider's holds the whole authority up until it is ended,
and only an append of its own epoch can end it.
-/

namespace ParaWorks.Release

open Lib

variable {a : Authority} {s s' : ReleaseState} {m m' current : Marker} {stop : Stop} {input : AppendInput}
  {digest : Hmac} {row : Authorization} {c : ReleaseCommand}

/-! ## What has drifted -/

/-- The rows that the provider checkpoint finds. -/
def drifted (s : ReleaseState) : List Authorization :=
  s.rows.authorizations.filter fun row => row.state = .started && row.providerSafetyEnvelopeDigest ≠ s.provider.envelopeDigest

theorem mem_drifted : row ∈ drifted s ↔ row ∈ s.rows.authorizations ∧ Drifted row s.provider.envelopeDigest := by
  simp [drifted,Drifted,List.mem_filter]

theorem drifted_nil : drifted s = [] ↔ ∀ row ∈ s.rows.authorizations, ¬Drifted row s.provider.envelopeDigest := by
  rw [List.eq_nil_iff_forall_not_mem]
  exact forall_congr' fun row => by rw [mem_drifted,not_and]

def Authorization.key (row : Authorization) : Text × Nat × Hmac := (row.ledgerUuid,row.ledgerEpoch,row.approvalIdHmac)

theorem isOf_iff {p : Payload} : isOf p row = true ↔ row.key = (p.ledgerUuid,p.ledgerEpoch,p.approvalIdHmac) := by
  simp [isOf,Authorization.key,and_assoc]

/-- The primary key of the authorizations. -/
theorem mutate_keys {t : Tables} (h : (t.authorizations.map Authorization.key).Nodup)
    (hof : isOf input.payload input.authorization = true) :
    ((mutate t input).authorizations.map Authorization.key).Nodup := by
  unfold mutate
  dsimp only
  split
  · next hnone =>
    rw [List.map_append,List.nodup_append]
    refine ⟨h,by simp,fun key hkey key' hkey' heq => ?_⟩
    obtain ⟨row,hrow,rfl⟩ := List.mem_map.mp hkey
    obtain rfl : key' = input.authorization.key := by simpa using hkey'
    have hfind := Option.isNone_iff_eq_none.mp hnone
    rw [authorizationBefore,List.find?_eq_none] at hfind
    exact hfind row hrow (isOf_iff.mpr (heq.trans (isOf_iff.mp hof)))
  · have hmap : (t.authorizations.map fun row => if isOf input.payload row then input.authorization else row).map
        Authorization.key = t.authorizations.map Authorization.key := by
      rw [List.map_map]
      apply List.map_congr_left
      intro row hrow
      change Authorization.key (if _ then _ else _) = _
      split
      · next hrowof => exact (isOf_iff.mp hof).trans (isOf_iff.mp hrowof).symm
      · rfl
    rw [hmap]
    exact h

theorem authorizationBefore_eq {t : Tables} {p : Payload} (h : (t.authorizations.map Authorization.key).Nodup)
    (hrow : row ∈ t.authorizations) (hof : isOf p row = true) : authorizationBefore t p = some row := by
  cases hfind : t.authorizations.find? (isOf p) with
  | none =>
    rw [List.find?_eq_none] at hfind
    exact absurd hof (hfind row hrow)
  | some other =>
    obtain ⟨hmem,hother⟩ := find?_spec hfind
    have heq := List.inj_on_of_nodup_map h hmem hrow ((isOf_iff.mp hother).trans (isOf_iff.mp hof).symm)
    rw [authorizationBefore,hfind,heq]

/-! ## The checkpoint with a drift abort -/

theorem revalidateProvider_iff {drift : Option ProviderDriftAbort} :
    revalidateProvider s.rows.authorizations s.provider.envelopeDigest drift = true ↔ drifted s = [] ∨
      ∃ abort row, drift = some abort ∧ abort.predecessorDigest ≠ abort.currentDigest ∧
        abort.currentDigest = s.provider.envelopeDigest ∧ drifted s = [row] ∧
          (row.ledgerUuid,row.ledgerEpoch,row.approvalIdHmac,row.providerSafetyEnvelopeDigest) =
            (abort.ledgerUuid,abort.ledgerEpoch,abort.approvalIdHmac,abort.predecessorDigest) := by
  unfold revalidateProvider
  change (decide (drifted s = []) || _) = true ↔ _
  rw [Bool.or_eq_true,decide_eq_true_eq]
  apply or_congr_right
  cases drift with
  | none => simp
  | some abort =>
    simp only [Bool.and_eq_true,decide_eq_true_eq]
    change (_ ∧ (drifted s).map _ = _) ↔ _
    rw [List.map_eq_singleton_iff]
    constructor
    · rintro ⟨⟨hne,hcurrent⟩,row,hrow,hkey⟩
      exact ⟨abort,row,rfl,hne,hcurrent,hrow,hkey⟩
    · rintro ⟨abort',row,habort,hne,hcurrent,hrow,hkey⟩
      obtain rfl := Option.some.inj habort
      exact ⟨⟨hne,hcurrent⟩,row,hrow,hkey⟩

/-- An append of the authorization's own that may end it where its provider has drifted. -/
def OwnDriftAbort (row : Authorization) (input : AppendInput) : Prop :=
  isDriftAbortKind input.payload.transitionKind = true ∧ isOf input.payload row = true

/-- With an authorization drifted, a prepared append is its own drift abort. -/
theorem Prepared.ownDriftAbort (h : Prepared a s input current digest) (hne : drifted s ≠ []) :
    ∃ row, drifted s = [row] ∧ OwnDriftAbort row input := by
  obtain ⟨abort,row,habort,-,-,hrow,hkey⟩ := (revalidateProvider_iff.mp h.provider).resolve_left hne
  unfold providerDriftAbort at habort
  split at habort
  · next hkind =>
    obtain ⟨before,-,hsome⟩ := Option.bind_eq_some_iff.mp habort
    split at hsome
    · cases hsome
    · obtain rfl := Option.some.inj hsome
      simp only [Prod.mk.injEq] at hkey
      exact ⟨row,hrow,hkind.1,isOf_iff.mpr (by rw [Authorization.key,hkey.1,hkey.2.1,hkey.2.2.1])⟩
  · cases habort

/-- A drift abort carries no incident. -/
theorem Prepared.no_incident (h : Prepared a s input current digest)
    (hkind : isDriftAbortKind input.payload.transitionKind = true) : input.incident = none := by
  cases hincident : input.incident with
  | none => rfl
  | some incident =>
    have hcomponent := h.capability.mpr (by rw [hincident]; rfl)
    rw [hcomponent] at hkind
    cases hkind

/-- An append that ends the only drifted authorization leaves none. -/
theorem Prepared.ends (h : Prepared a s input current digest) (hrow : drifted s = [row])
    (habort : OwnDriftAbort row input) :
    ∀ row ∈ (mutate s.rows input).authorizations, ¬Drifted row (providerAfter s input).envelopeDigest := by
  apply h.undrifted
  intro other hother hof
  rw [providerAfter_none (h.no_incident habort.1)]
  intro hdrifted
  have hmem := mem_drifted.mpr ⟨hother,hdrifted⟩
  rw [hrow] at hmem
  obtain rfl := List.mem_singleton.mp hmem
  rw [habort.2] at hof
  cases hof

/-! ## What can still be ended -/

/-- An authorization of the marker's epoch. -/
def OfMarker (m : Marker) (row : Authorization) : Prop := row.ledgerUuid = m.ledgerUuid ∧ row.ledgerEpoch = m.ledgerEpoch

/-- What has drifted is one authorization of the marker's epoch, whose marker stands on its row. -/
def Endable (s : ReleaseState) : Prop :=
  drifted s = [] ∨ ∃ row m, drifted s = [row] ∧ s.marker = some m ∧ OfMarker m row ∧ ∃ r ∈ s.rows.ledgers, r.marker = m

/-- The provider changes only where every authorization that it leaves drifted can be ended, an append that ends one is
not cut off after its marker, and a provider incident is committed. -/
def KeepsEndable (a : Authority) (s : ReleaseSystem) : ReleaseCommand → Prop
  | .changeProvider provider => Endable { s.state with latch := provider.envelopeDigest, provider := provider }
  | .append stop input => IncidentCommits a s.state stop input ∧
      (stop = .afterMarker → (prepareAppend a s.state input).isOk = true → drifted s.state = [])
  | _ => True

structure Clear (a : Authority) (s : ReleaseState) : Prop where
  sound : Sound a s
  barrier : s.latch = s.provider.envelopeDigest
  keys : (s.rows.authorizations.map Authorization.key).Nodup
  endable : Endable s

theorem Clear.initial (provider : Provider) : Clear a (ReleaseSystem.initial provider).state :=
  ⟨Sound.initial provider,rfl,List.nodup_nil,.inl rfl⟩

/-- Nothing is published while an authorization has drifted. -/
theorem publish_drifted (identityUuid : Text) (h : drifted s ≠ []) :
    publish a s stop m identityUuid = (s,.error .incidentAuthorityDiffers) := by
  have hfalse : revalidateProvider s.rows.authorizations s.provider.envelopeDigest none = false := by
    rw [Bool.eq_false_iff]
    intro htrue
    exact h (drifted_nil.mpr (revalidateProvider_none.mp htrue))
  rw [publish,if_pos hfalse]

theorem Publishes.endable {P : Marker → Prop} {result : ReleaseState × Except ReleaseError Marker}
    (h : Publishes a s stop P result) (hs : Endable s) : Endable result.1 := by
  by_cases hdrifted : drifted s = []
  · obtain ⟨-,hprovider,hrows⟩ := h.provider
    left
    rw [drifted,hprovider,hrows]
    exact hdrifted
  · rcases h with ⟨heq,-⟩ | ⟨m,identityUuid,-,-,rfl⟩
    · rw [heq]
      exact hs
    · rw [publish_drifted identityUuid hdrifted]
      exact hs

theorem Clear.publishes {P : Marker → Prop} {result : ReleaseState × Except ReleaseError Marker}
    (h : Clear a s) (hp : Publishes a s stop P result) : Clear a result.1 := by
  obtain ⟨hlatch,hprovider,hrows⟩ := hp.provider
  refine ⟨hp.sound h.sound,?_,?_,hp.endable h.endable⟩
  · rw [hlatch,hprovider]
    exact h.barrier
  · rw [hrows]
    exact h.keys

theorem IncidentCommits.latched (h : IncidentCommits a s stop input) (hp : Prepared a s input current digest)
    (hstop : stop = .afterIncident ∨ stop = .afterMarker) : providerAfter s input = s.provider := by
  cases hincident : input.incident with
  | none => exact providerAfter_none hincident
  | some incident =>
    obtain ⟨hcuts,-⟩ := h.of_prepared hp (by rw [hincident]; rfl)
    rcases hstop with rfl | rfl <;> rcases hcuts with hcuts | hcuts <;> cases hcuts

/-- The latch file of an append that changes no provider. -/
theorem latched_eq (h : providerAfter s input = s.provider) (hbarrier : s.latch = s.provider.envelopeDigest) :
    latched s input = s := by
  rw [latched,h,← hbarrier]

theorem Prepared.others (hp : Prepared a s input current digest) (hc : IncidentCommits a s stop input) :
    ∀ row ∈ (mutate s.rows input).authorizations, ¬Drifted row (providerAfter s input).envelopeDigest := by
  by_cases hdrifted : drifted s = []
  · exact hp.undrifted (hc.others hp fun row hrow _ => drifted_nil.mp hdrifted row hrow)
  · obtain ⟨row,hrow,habort⟩ := hp.ownDriftAbort hdrifted
    exact hp.ends hrow habort

theorem Clear.append (h : Clear a s) (hc : IncidentCommits a s stop input)
    (hcut : stop = .afterMarker → (prepareAppend a s input).isOk = true → drifted s = []) :
    Clear a (Release.append a s stop input).1 := by
  have hsound : Sound a (Release.append a s stop input).1 := h.sound.append
  by_cases hex : ∃ current digest, Prepared a s input current digest
  · obtain ⟨current,digest,hp⟩ := hex
    have hothers := hp.others hc
    have hcheck : checkpoint s input = true := revalidateProvider_of_none hothers
    have hprepared : (prepareAppend a s input).isOk = true := by
      rw [prepareAppend_ok.mpr hp]
      rfl
    rw [append_prepared hp h.sound,hcheck] at hsound ⊢
    split
    · exact h
    next hrefused =>
    rw [if_neg hrefused] at hsound
    split
    · next hafter =>
      rw [latched_eq (hc.latched hp (.inl hafter)) h.barrier]
      exact h
    next hafter =>
    rw [if_neg hafter,if_neg Bool.noConfusion] at hsound
    rw [if_neg Bool.noConfusion]
    split
    · next hmarker =>
      rw [if_pos hmarker,latched_eq (hc.latched hp (.inr hmarker)) h.barrier] at hsound
      rw [latched_eq (hc.latched hp (.inr hmarker)) h.barrier]
      exact ⟨hsound,h.barrier,h.keys,.inl (hcut hmarker hprepared)⟩
    · next hmarker =>
      rw [if_neg hmarker] at hsound
      obtain ⟨-,-,hof,-⟩ := projection_states hp.projection
      exact ⟨hsound,rfl,mutate_keys h.keys hof,.inl (drifted_nil.mpr hothers)⟩
  · push Not at hex
    rw [(append_refused hex stop).1]
    exact h

theorem Clear.step {s : ReleaseSystem} (h : Clear a s.state) (hc : KeepsEndable a s c) : Clear a (step a s c).state := by
  cases c with
  | initializeLedger stop review ledgerUuid identityUuid => exact h.publishes (initializeLedger_publishes s.state)
  | append stop input => exact h.append hc.1 hc.2
  | rebootstrap stop review => exact h.publishes (rebootstrap_publishes h.sound)
  | disasterInitialize stop review ledgerUuid identityUuid => exact h.publishes (disasterInitialize_publishes s.state)
  | changeProvider provider => exact ⟨h.sound.of_eq rfl rfl,rfl,h.keys,hc⟩

/-! ## What an abandoned epoch leaves possible -/

/-- An append that is correctly signed for the marker and for its authorization. -/
structure Signed (a : Authority) (s : ReleaseState) (m : Marker) (input : AppendInput) (digest : Hmac) : Prop where
  valid : validateTransitionPayload a input.payload = some digest
  capability : input.payload.transitionKind = .authorizationAbortComponent ↔ input.incident.isSome = true
  incident : ∀ incident, input.incident = some incident →
    incident.newEnvelope.envelopeDigest = input.payload.providerSafetyEnvelopeDigest ∧
      incident.oldEnvelopeDigest = s.provider.envelopeDigest
  ledgerUuid : input.payload.ledgerUuid = m.ledgerUuid
  ledgerEpoch : input.payload.ledgerEpoch = m.ledgerEpoch
  identity : input.payload.validationDatabaseIdentityHmac = m.validationDatabaseIdentityHmac
  generation : input.payload.fromGeneration = m.generation
  projection : projectionMatches s input = true
  peers : input.peersAccepted = true
  next : (nextMarker m input.payload digest).wellFormed = true

/-- The state as one authorization of the marker's epoch sees it. -/
structure Unblocked (a : Authority) (s : ReleaseState) (m : Marker) : Prop where
  inspects : (∀ row ∈ s.rows.authorizations, OfMarker m row → ¬Drifted row s.provider.envelopeDigest) →
    OnNewestRow a s.rows m → inspect a s = .ok m
  rebootstraps : (∀ row ∈ s.rows.authorizations, OfMarker m row → ¬Drifted row s.provider.envelopeDigest) →
    ¬OnNewestRow a s.rows m → ∀ review, FreshReview s review → ∃ m', (rebootstrap a s .none review).2 = .ok m'
  appends : (∀ row ∈ s.rows.authorizations, OfMarker m row → ¬Drifted row s.provider.envelopeDigest) →
    OnNewestRow a s.rows m → ∀ input digest, Signed a s m input digest → IncidentCommits a s .none input →
      (append a s .none input).2 = .ok (nextMarker m input.payload digest)
  aborts : ∀ row ∈ s.rows.authorizations, OfMarker m row → Drifted row s.provider.envelopeDigest →
    ∀ input digest, Signed a s m input digest → OwnDriftAbort row input →
      (append a s .none input).2 = .ok (nextMarker m input.payload digest)
  onlyAborts : ∀ row ∈ s.rows.authorizations, OfMarker m row → Drifted row s.provider.envelopeDigest →
    ∀ m', inspect a s ≠ .ok m' ∧ ∀ c, (perform a s c).2 = some (.ok m') →
      ∃ stop input, c = .append stop input ∧ OwnDriftAbort row input

theorem Signed.prepared (h : Signed a s m input digest) (hs : Sound a s) (hmarker : s.marker = some m)
    (hbarrier : barrierHeld s = true) (hrow : OnNewestRow a s.rows m)
    (hprovider : revalidateProvider s.rows.authorizations s.provider.envelopeDigest
      (providerDriftAbort s.rows input.payload) = true) : Prepared a s input m digest := by
  obtain ⟨r,hr,rfl,-,-⟩ := hrow
  have hsound := (hs.marked _ hmarker).1
  have hinspect : inspectLocked a s.tables r.marker = .ok r.marker := by
    rw [tables_of_mem hr]
    exact hs.tables.inspectLocked hr
  exact ⟨h.valid,h.capability,h.incident,hmarker,hbarrier,hsound.parse,hinspect,h.ledgerUuid,h.ledgerEpoch,h.identity,
    h.generation,h.projection,h.peers,hprovider,parse_ok.mpr ⟨rfl,hsound.key,hsound.verifier,h.next⟩⟩

/-- A prepared append that leaves nothing drifted is committed. -/
theorem Prepared.commits (h : Prepared a s input current digest) (hs : Sound a s)
    (hothers : ∀ row ∈ (mutate s.rows input).authorizations, ¬Drifted row (providerAfter s input).envelopeDigest) :
    (append a s .none input).2 = .ok (nextMarker current input.payload digest) := by
  have hcheck : Release.checkpoint s input = true := revalidateProvider_of_none hothers
  rw [append_prepared h hs,hcheck]
  rfl

theorem Sound.onNewestRow_of_mem {r : LedgerRow} (h : Sound a s) (hmarker : s.marker = some r.marker)
    (hr : r ∈ s.rows.ledgers) : OnNewestRow a s.rows r.marker := by
  refine h.onNewestRow hmarker ?_
  rw [tables_of_mem hr]
  exact h.tables.inspectLocked hr

/-- The checkpoint accepts the drift abort of the only drifted authorization. -/
theorem Signed.revalidated (h : Signed a s m input digest) (hkeys : (s.rows.authorizations.map Authorization.key).Nodup)
    (hrow : drifted s = [row]) (habort : OwnDriftAbort row input) :
    revalidateProvider s.rows.authorizations s.provider.envelopeDigest (providerDriftAbort s.rows input.payload) = true := by
  obtain ⟨hmem,hstarted,hne⟩ := mem_drifted.mp (hrow ▸ List.mem_singleton.mpr rfl : row ∈ drifted s)
  obtain ⟨hbefore,-,-,-,hdigest,-⟩ := projection_states h.projection
  have hfind := authorizationBefore_eq hkeys hmem habort.2
  have hincident : input.incident = none := by
    cases hincident : input.incident with
    | none => rfl
    | some incident =>
      have hcomponent := h.capability.mpr (by rw [hincident]; rfl)
      have hkind := habort.1
      rw [hcomponent] at hkind
      cases hkind
  rw [providerAfter_none hincident] at hdigest
  rw [hfind,Option.map_some,hstarted] at hbefore
  have hkey := isOf_iff.mp habort.2
  simp only [Authorization.key,Prod.mk.injEq] at hkey
  refine revalidateProvider_iff.mpr (.inr ⟨⟨input.payload.transitionKind,input.payload.ledgerUuid,
    input.payload.ledgerEpoch,input.payload.approvalIdHmac,row.providerSafetyEnvelopeDigest,
    input.payload.providerSafetyEnvelopeDigest⟩,row,?_,hdigest ▸ hne,hdigest.symm,hrow,?_⟩)
  · rw [providerDriftAbort,if_pos ⟨habort.1,hbefore.symm⟩,hfind,Option.bind_some,if_neg (hdigest ▸ hne)]
  · rw [hkey.1,hkey.2.1,hkey.2.2]

/-- Where nothing that drifted is of the marker's epoch, nothing has. -/
theorem Clear.undrifted (h : Clear a s) (hmarker : s.marker = some m)
    (hcurrent : ∀ row ∈ s.rows.authorizations, OfMarker m row → ¬Drifted row s.provider.envelopeDigest) :
    drifted s = [] := by
  rcases h.endable with hnil | ⟨row,m',hrow,hm',hof,-⟩
  · exact hnil
  · obtain rfl := Option.some.inj (hmarker.symm.trans hm')
    obtain ⟨hmem,hdrifted⟩ := mem_drifted.mp (hrow ▸ List.mem_singleton.mpr rfl : row ∈ drifted s)
    exact absurd hdrifted (hcurrent row hmem hof)

/-- An operation that succeeds with an authorization drifted is the drift abort of it. -/
theorem perform_ownDriftAbort (h : Sound a s) (hrow : drifted s = [row]) (hok : (perform a s c).2 = some (.ok m')) :
    ∃ stop input, c = .append stop input ∧ OwnDriftAbort row input := by
  have hne : drifted s ≠ [] := by simp [hrow]
  have hpublishes : ∀ {stop P result}, Publishes a s stop P result → result.2 ≠ .ok m' := by
    intro stop P result hp hresult
    rcases hp with ⟨-,e,he⟩ | ⟨m,identityUuid,-,-,rfl⟩
    · rw [he] at hresult
      cases hresult
    · rw [publish_drifted identityUuid hne] at hresult
      cases hresult
  cases c with
  | initializeLedger stop review ledgerUuid identityUuid =>
    exact absurd (Option.some.inj hok) (hpublishes (initializeLedger_publishes s))
  | append stop input =>
    by_cases hex : ∃ current digest, Prepared a s input current digest
    · obtain ⟨current,digest,hp⟩ := hex
      obtain ⟨row',hrow',habort⟩ := hp.ownDriftAbort hne
      obtain rfl : row = row' := by simpa using hrow.symm.trans hrow'
      exact ⟨stop,input,rfl,habort⟩
    · push Not at hex
      obtain ⟨-,e,he⟩ := append_refused hex stop
      rw [perform,he] at hok
      cases hok
  | rebootstrap stop review => exact absurd (Option.some.inj hok) (hpublishes (rebootstrap_publishes h))
  | disasterInitialize stop review ledgerUuid identityUuid =>
    exact absurd (Option.some.inj hok) (hpublishes (disasterInitialize_publishes s))
  | changeProvider provider => cases hok

theorem Clear.unblocked (h : Clear a s) (hmarker : s.marker = some m) (hne : s.rows.ledgers ≠ []) : Unblocked a s m := by
  have hbarrier : barrierHeld s = true := decide_eq_true h.barrier
  have honly : ∀ row ∈ s.rows.authorizations, OfMarker m row → Drifted row s.provider.envelopeDigest →
      drifted s = [row] ∧ OnNewestRow a s.rows m := by
    intro row hrow _ hdrifted
    have hmem := mem_drifted.mpr ⟨hrow,hdrifted⟩
    rcases h.endable with hnil | ⟨row',m',hrow',hm',-,r,hr,rfl⟩
    · rw [hnil] at hmem
      cases hmem
    · rw [hrow'] at hmem
      obtain rfl := List.mem_singleton.mp hmem
      obtain rfl := Option.some.inj (hmarker.symm.trans hm')
      exact ⟨hrow',h.sound.onNewestRow_of_mem hmarker hr⟩
  refine ⟨fun hcurrent hnewest => ?_,fun hcurrent hnewest review hreview => ?_,fun hcurrent hnewest input digest hsigned hc => ?_,
    fun row hrow hof hdrifted input digest hsigned habort => ?_,fun row hrow hof hdrifted m' => ⟨fun hinspect => ?_,?_⟩⟩
  · have hprovider := drifted_nil.mp (h.undrifted hmarker hcurrent)
    obtain ⟨r,hr,rfl,-⟩ := hnewest
    refine inspect_ok.mpr ⟨hmarker,hbarrier,(h.sound.marked _ hmarker).1.parse,?_,hprovider⟩
    rw [tables_of_mem hr]
    exact h.sound.tables.inspectLocked hr
  · have hprovider := drifted_nil.mp (h.undrifted hmarker hcurrent)
    refine rebootstrap_ok h.sound hbarrier hmarker hne (fun r hr heq => hnewest ?_) hprovider hreview
    subst heq
    exact h.sound.onNewestRow_of_mem hmarker hr
  · have hprovider := drifted_nil.mp (h.undrifted hmarker hcurrent)
    have hp := hsigned.prepared h.sound hmarker hbarrier hnewest (revalidateProvider_of_none hprovider)
    exact hp.commits h.sound (hp.others hc)
  · obtain ⟨honlyRow,hnewest⟩ := honly row hrow hof hdrifted
    have hp := hsigned.prepared h.sound hmarker hbarrier hnewest (hsigned.revalidated h.keys honlyRow habort)
    exact hp.commits h.sound (hp.ends honlyRow habort)
  · exact (inspect_ok.mp hinspect).2.2.2.2 row hrow hdrifted
  · intro c hok
    exact perform_ownDriftAbort h.sound (honly row hrow hof hdrifted).1 hok

/-- Whatever epochs are abandoned, the marker's own is not blocked by them, as long as the provider changes only where
what it leaves drifted can still be ended. -/
theorem abandoned_epochs_block_nothing (a : Authority) (provider : Provider) (commands : List ReleaseCommand)
    (h : RunMeets (step a) (KeepsEndable a) (ReleaseSystem.initial provider) commands) (m : Marker)
    (hmarker : (run (step a) (ReleaseSystem.initial provider) commands).state.marker = some m)
    (hne : (run (step a) (ReleaseSystem.initial provider) commands).state.rows.ledgers ≠ []) :
    Unblocked a (run (step a) (ReleaseSystem.initial provider) commands).state m := by
  have hclear : Clear a (run (step a) (ReleaseSystem.initial provider) commands).state := by
    refine run_invariant_of (P := fun s : ReleaseSystem => Clear a s.state) (fun s c hc hs => ?_) h (Clear.initial provider)
    exact hs.step hc
  exact hclear.unblocked hmarker hne

/-! ## Runs on given values -/

/-- A transition of the sample authorization at a generation. -/
def sampleTransition (kind : TransitionKind) (generation : Nat) (before : Option AuthorizationState)
    (after : AuthorizationState) : AppendInput where
  payload := ⟨kind,none,text "c",1,generation,generation+1,sampleHmac 13,before,after,sampleHmac 9,sampleHmac 4,[]⟩
  authorization := ⟨text "c",1,sampleHmac 13,after,sampleHmac 9⟩
  peers := []
  incident := none
  peersAccepted := true

/-- A ledger with one started authorization. -/
def sampleStart : List ReleaseCommand :=
  [.initializeLedger .none (sampleReview 10) (text "c") (text "d"),
    .append .none (sampleTransition .authorizationBootstrap 0 none .unused),
    .append .none (sampleTransition .caseClaim 1 (some .unused) .started)]

/-- The provider changes under the started authorization of the current epoch. -/
theorem abandoned_epochs_block_nothing_started :
    ∃ m, (run (step sampleAuthority) (ReleaseSystem.initial sampleProvider)
        (sampleStart++[.changeProvider ⟨sampleHmac 14,true⟩])).state.marker = some m ∧
      Unblocked sampleAuthority (run (step sampleAuthority) (ReleaseSystem.initial sampleProvider)
        (sampleStart++[.changeProvider ⟨sampleHmac 14,true⟩])).state m := by
  obtain ⟨m,hm⟩ := Option.isSome_iff_exists.mp (show ((run (step sampleAuthority) (ReleaseSystem.initial sampleProvider)
    (sampleStart++[.changeProvider ⟨sampleHmac 14,true⟩])).state.marker.isSome = true) by decide +kernel)
  refine ⟨m,hm,abandoned_epochs_block_nothing sampleAuthority sampleProvider _ ?_ m hm (by decide +kernel)⟩
  refine ⟨trivial,⟨fun h => ?_,fun h => ?_⟩,⟨fun h => ?_,fun h => ?_⟩,?_,trivial⟩
  · cases h
  · cases h
  · cases h
  · cases h
  · exact .inr ⟨(sampleTransition .caseClaim 1 (some .unused) .started).authorization,
      nextMarker (newMarker sampleAuthority (text "c") 1 none none (sampleHmac 4) (sampleHmac 5) (sampleReview 10)
        .releaseLedgerInit) (sampleTransition .caseClaim 1 (some .unused) .started).payload (sampleHmac 8),
      by decide +kernel,by decide +kernel,⟨by decide +kernel,by decide +kernel⟩,by decide +kernel⟩

/-- An append cut off after its marker, a new epoch, and a change of the provider. -/
def sampleAbandoned : ReleaseSystem :=
  run (step sampleAuthority) (ReleaseSystem.initial sampleProvider)
    (sampleStart++[.append .afterMarker (sampleTransition .componentClaim 2 (some .started) .started),
      .rebootstrap .none (sampleReview 11),.changeProvider ⟨sampleHmac 14,true⟩])

/-- The started authorization of the first epoch, which no append can end, blocks the second. -/
theorem abandoned_epochs_block_nothing_abandoned :
    sampleAbandoned.state.marker.map (·.ledgerEpoch) = some 2 ∧
    (∀ row ∈ sampleAbandoned.state.rows.authorizations, row.ledgerEpoch = 1 ∧ row.state = .started) ∧
    inspect sampleAuthority sampleAbandoned.state = .error .incidentAuthorityDiffers ∧
    ∀ m, sampleAbandoned.state.marker = some m → ¬Unblocked sampleAuthority sampleAbandoned.state m := by
  have hepoch : sampleAbandoned.state.marker.map (·.ledgerEpoch) = some 2 := by decide +kernel
  have hrows : ∀ row ∈ sampleAbandoned.state.rows.authorizations, row.ledgerEpoch = 1 ∧ row.state = .started := by
    decide +kernel
  have hinspect : inspect sampleAuthority sampleAbandoned.state = .error .incidentAuthorityDiffers := by decide +kernel
  refine ⟨hepoch,hrows,hinspect,fun m hm hunblocked => ?_⟩
  have hsound : Sound sampleAuthority sampleAbandoned.state :=
    run_invariant (P := fun s : ReleaseSystem => Sound sampleAuthority s.state) (fun s c hs => hs.perform c)
      (Sound.initial sampleProvider) _
  have hlocked : ∀ m, sampleAbandoned.state.marker = some m →
      inspectLocked sampleAuthority sampleAbandoned.state.tables m = .ok m := by
    decide +kernel
  have hok := hunblocked.inspects (fun row hrow hof => ?_) (hsound.onNewestRow hm (hlocked m hm))
  · rw [hinspect] at hok
    cases hok
  · rw [hm] at hepoch
    have hsame : m.ledgerEpoch = 2 := by simpa using hepoch
    have hone := (hrows row hrow).1
    have htwo := hof.2
    omega

end ParaWorks.Release
