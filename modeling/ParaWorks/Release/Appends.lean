import ParaWorks.Release.Operations

/-!
# Appends on sound states

What `append` has checked when it writes, and that what it records is sound again.
-/

namespace ParaWorks.Release

open Lib

variable {a : Authority} {s : ReleaseState} {current : Marker} {t : Tables} {input : AppendInput} {stop : Stop}
  {digest : Hmac}

/-! ## Preparation -/

/-- What `append` has checked when it starts to write. -/
structure Prepared (a : Authority) (s : ReleaseState) (input : AppendInput) (current : Marker) (digest : Hmac) : Prop where
  valid : validateTransitionPayload a input.payload = some digest
  capability : input.payload.transitionKind = .authorizationAbortComponent ↔ input.incident.isSome = true
  incident : ∀ incident, input.incident = some incident →
    incident.newEnvelope.envelopeDigest = input.payload.providerSafetyEnvelopeDigest ∧
      incident.oldEnvelopeDigest = s.provider.envelopeDigest
  marker : s.marker = some current
  barrier : barrierHeld s = true
  parsed : parse a current = .ok current
  inspected : inspectLocked a s.tables current = .ok current
  ledgerUuid : input.payload.ledgerUuid = current.ledgerUuid
  ledgerEpoch : input.payload.ledgerEpoch = current.ledgerEpoch
  identity : input.payload.validationDatabaseIdentityHmac = current.validationDatabaseIdentityHmac
  generation : input.payload.fromGeneration = current.generation
  projection : projectionMatches s input = true
  peers : input.peersAccepted = true
  provider : revalidateProvider s.rows.authorizations s.provider.envelopeDigest
    (providerDriftAbort s.rows input.payload) = true
  next : parse a (nextMarker current input.payload digest) = .ok (nextMarker current input.payload digest)

theorem prepareAppend_ok : prepareAppend a s input = .ok (current,digest) ↔ Prepared a s input current digest := by
  constructor
  · intro h
    unfold prepareAppend at h
    dsimp only at h
    split at h
    · cases h
    next d hvalid =>
    split at h
    · cases h
    next hcapability =>
    split at h
    · cases h
    next hnew =>
    split at h
    · cases h
    next m hmarker =>
    split at h
    · cases h
    next hbarrier =>
    split at h
    · cases h
    next m' hparse =>
    split at h
    · cases h
    next m'' hinspect =>
    split at h
    · cases h
    next hcas =>
    split at h
    · cases h
    next hold =>
    split at h
    · cases h
    next hprojection =>
    split at h
    · cases h
    next hprovider =>
    cases hnext : parse a (nextMarker m'' input.payload d) with
    | error e =>
      rw [hnext] at h
      cases h
    | ok n =>
      rw [hnext] at h
      obtain ⟨rfl,rfl⟩ := Prod.mk.inj (Except.ok.inj h)
      obtain ⟨rfl,-⟩ := parse_ok.mp hparse
      obtain ⟨rfl,-⟩ := inspectLocked_ok.mp hinspect
      obtain ⟨rfl,-⟩ := parse_ok.mp hnext
      push Not at hcas hprojection
      obtain ⟨huuid,hepoch,hidentity,hgeneration⟩ := hcas
      refine ⟨hvalid,by simpa using hcapability,fun incident hincident => ?_,hmarker,by simpa using hbarrier,hparse,
        hinspect,huuid,hepoch,hidentity,hgeneration,by simpa using hprojection.1,by simpa using hprojection.2,
        by simpa using hprovider,hnext⟩
      simp only [hincident,Option.any_some,ne_eq,not_not,decide_not,Bool.not_eq_true',decide_eq_false_iff_not] at hnew hold
      exact ⟨hnew,hold⟩
  · intro h
    have hnew : input.incident.any (·.newEnvelope.envelopeDigest ≠ input.payload.providerSafetyEnvelopeDigest) = false := by
      cases hincident : input.incident with
      | none => rfl
      | some incident => simp [(h.incident incident hincident).1]
    have hold : input.incident.any (·.oldEnvelopeDigest ≠ s.provider.envelopeDigest) = false := by
      cases hincident : input.incident with
      | none => rfl
      | some incident => simp [(h.incident incident hincident).2]
    unfold prepareAppend
    simp only [h.valid,h.marker,h.barrier,h.parsed,h.inspected,hnew,hold,h.ledgerUuid,h.ledgerEpoch,h.identity,
      h.generation,h.projection,h.peers,h.provider,h.next]
    simp [h.capability]
    rfl

/-! ## The row of the marker -/

theorem isCurrentRow_iff (ht : TablesSound a t) {r row : LedgerRow} (hr : r ∈ t.ledgers) (heq : r.marker = current)
    (hrow : row ∈ t.ledgers) : isCurrentRow a current row = true ↔ row.ledgerEpoch = current.ledgerEpoch := by
  subst heq
  constructor
  · intro h
    simp only [isCurrentRow,Bool.and_eq_true,decide_eq_true_eq] at h
    exact h.1.1.1.2
  · intro h
    obtain rfl : row = r := List.inj_on_of_nodup_map ht.epochs hrow hr h
    have hdigest := (ht.rows row hr).digest
    simp [isCurrentRow,hdigest,LedgerRow.marker]

theorem countP_isCurrentRow (ht : TablesSound a t) {r : LedgerRow} (hr : r ∈ t.ledgers) (heq : r.marker = current) :
    t.ledgers.countP (isCurrentRow a current) = 1 := by
  have hcongr : t.ledgers.countP (isCurrentRow a current) = t.ledgers.countP (fun row => row.ledgerEpoch == r.ledgerEpoch) := by
    apply List.countP_congr
    intro row hrow
    rw [isCurrentRow_iff ht hr heq hrow,← heq,beq_iff_eq]
    rfl
  have hcount : (t.ledgers.map (·.ledgerEpoch)).count r.ledgerEpoch = 1 :=
    List.count_eq_one_of_mem ht.epochs (List.mem_map_of_mem hr)
  rw [hcongr,← hcount,List.count,List.countP_map]
  rfl

/-! ## A recorded transition -/

/-- The tables once the transition of a payload is recorded. -/
def recorded (a : Authority) (t : Tables) (current : Marker) (p : Payload) (digest : Hmac) : Tables :=
  { t with
    ledgers := t.ledgers.map fun row =>
      if row.ledgerEpoch = current.ledgerEpoch then row.advance a (nextMarker current p digest) else row
    transitions := t.transitions++
      [⟨current.ledgerUuid,current.ledgerEpoch,p.toGeneration,p.transitionKind,digest,p⟩] }

theorem recordTransition_ok (digest : Hmac) (ht : TablesSound a t) {r : LedgerRow} (hr : r ∈ t.ledgers) (heq : r.marker = current)
    {p : Payload} (hto : current.generation < p.toGeneration) :
    recordTransition a t current (nextMarker current p digest) p digest = .ok (recorded a t current p digest) := by
  have hfree : (t.transitions.any fun row => row.ledgerUuid = current.ledgerUuid && row.ledgerEpoch = current.ledgerEpoch &&
      row.generation = p.toGeneration) = false := by
    rw [List.any_eq_false]
    intro x hx h
    simp only [Bool.and_eq_true,decide_eq_true_eq] at h
    obtain ⟨r',hr',-,hepoch,hle⟩ := ht.recorded x hx
    have hsame : r'.ledgerEpoch = r.ledgerEpoch := by
      rw [hepoch,h.1.2,← heq]
      rfl
    obtain rfl : r' = r := List.inj_on_of_nodup_map ht.epochs hr' hr hsame
    have hgeneration : r'.generation = current.generation := by rw [← heq]; rfl
    omega
  have hmap : (t.ledgers.map fun row => if isCurrentRow a current row then row.advance a (nextMarker current p digest)
      else row) = t.ledgers.map fun row => if row.ledgerEpoch = current.ledgerEpoch then
        row.advance a (nextMarker current p digest) else row := by
    apply List.map_congr_left
    intro row hrow
    by_cases hepoch : row.ledgerEpoch = current.ledgerEpoch
    · rw [if_pos ((isCurrentRow_iff ht hr heq hrow).mpr hepoch),if_pos hepoch]
    · rw [if_neg fun h => hepoch ((isCurrentRow_iff ht hr heq hrow).mp h),if_neg hepoch]
  have hcount := countP_isCurrentRow ht hr heq
  unfold recordTransition recorded
  rw [hcount,hfree,hmap]
  simp

/-- The row of the recorded transition. -/
def recordedRow (current : Marker) (p : Payload) (digest : Hmac) : TransitionRow :=
  ⟨current.ledgerUuid,current.ledgerEpoch,p.toGeneration,p.transitionKind,digest,p⟩

theorem recorded_filter (p : Payload) (ledgerUuid : Text) (ledgerEpoch : Nat) :
    (recorded a t current p digest).transitions.filter (isOfEpoch ledgerUuid ledgerEpoch) =
      t.transitions.filter (isOfEpoch ledgerUuid ledgerEpoch)++
        if current.ledgerUuid = ledgerUuid ∧ current.ledgerEpoch = ledgerEpoch then [recordedRow current p digest]
        else [] := by
  change (t.transitions++[recordedRow current p digest]).filter _ = _
  rw [List.filter_append,List.filter_singleton]
  by_cases h : current.ledgerUuid = ledgerUuid ∧ current.ledgerEpoch = ledgerEpoch
  · simp [isOfEpoch,recordedRow,h]
  · have hkey : isOfEpoch ledgerUuid ledgerEpoch (recordedRow current p digest) = false := by
      apply Bool.eq_false_iff.mpr
      intro hkey
      simp only [isOfEpoch,Bool.and_eq_true,decide_eq_true_eq] at hkey
      exact h hkey
    rw [hkey,if_neg h]
    rfl

/-- A transition that `append` accepts on the row of the marker. -/
structure Extends (a : Authority) (t : Tables) (current : Marker) (p : Payload) (digest : Hmac) : Prop where
  row : ∃ r ∈ t.ledgers, r.marker = current
  valid : validateTransitionPayload a p = some digest
  ledgerUuid : p.ledgerUuid = current.ledgerUuid
  ledgerEpoch : p.ledgerEpoch = current.ledgerEpoch
  identity : p.validationDatabaseIdentityHmac = current.validationDatabaseIdentityHmac
  fromGeneration : p.fromGeneration = current.generation
  next : MarkerSound a (nextMarker current p digest)

variable {p : Payload}

theorem validate_toGeneration (h : validateTransitionPayload a p = some digest) :
    p.toGeneration = p.fromGeneration+1 := by
  unfold validateTransitionPayload at h
  split at h
  · next hvalid => exact hvalid.2.2.1
  · cases h

theorem Extends.toGeneration (h : Extends a t current p digest) : p.toGeneration = current.generation+1 := by
  rw [validate_toGeneration h.valid,h.fromGeneration]

/-- No transition of the marker's epoch is after the marker. -/
theorem Extends.generation_le (h : Extends a t current p digest) (ht : TablesSound a t) :
    ∀ x ∈ t.transitions, isOfEpoch current.ledgerUuid current.ledgerEpoch x = true → x.generation ≤ current.generation := by
  intro x hx hepoch
  simp only [isOfEpoch,Bool.and_eq_true,decide_eq_true_eq] at hepoch
  obtain ⟨r,hr,rfl⟩ := h.row
  obtain ⟨r',hr',-,hrepoch,hle⟩ := ht.recorded x hx
  obtain rfl : r' = r := List.inj_on_of_nodup_map ht.epochs hr' hr (hrepoch.trans hepoch.2)
  exact hle

theorem Extends.ordered (h : Extends a t current p digest) (ht : TablesSound a t) (ledgerUuid : Text)
    (ledgerEpoch : Nat) : ((recorded a t current p digest).transitions.filter (isOfEpoch ledgerUuid ledgerEpoch)).Pairwise
      fun x y => x.generation < y.generation := by
  rw [recorded_filter,List.pairwise_append]
  refine ⟨ht.ordered ledgerUuid ledgerEpoch,?_,fun x hx y hy => ?_⟩
  · split
    · exact List.pairwise_singleton _ _
    · exact List.Pairwise.nil
  · split at hy
    · next hkey =>
      obtain ⟨rfl,rfl⟩ := hkey
      obtain rfl := List.mem_singleton.mp hy
      obtain ⟨hmem,hepoch⟩ := List.mem_filter.mp hx
      have hle := h.generation_le ht x hmem hepoch
      have hto := h.toGeneration
      change x.generation < p.toGeneration
      omega
    · cases hy

theorem Extends.matches (h : Extends a t current p digest) :
    transitionMatches a current (current.generation+1) (recordedRow current p digest) = true := by
  simp [transitionMatches,recordedRow,h.toGeneration,h.fromGeneration,h.ledgerUuid,h.ledgerEpoch,h.identity,h.valid]

/-- The history of the marker's epoch has grown by the transition. -/
theorem Extends.verify (h : Extends a t current p digest) (ht : TablesSound a t) :
    verifyTransitionHistory a (recorded a t current p digest) (nextMarker current p digest) = true := by
  obtain ⟨r,hr,heq⟩ := h.row
  have hold := ht.histories r hr
  rw [heq] at hold
  have hnew : transitionsOf (recorded a t current p digest) current.ledgerUuid current.ledgerEpoch =
      transitionsOf t current.ledgerUuid current.ledgerEpoch++[recordedRow current p digest] := by
    have hordered := h.ordered ht current.ledgerUuid current.ledgerEpoch
    rw [Release.transitionsOf,List.Pairwise.insertionSort_eq (hordered.imp fun hlt => Nat.le_of_lt hlt),
      recorded_filter,if_pos ⟨rfl,rfl⟩,ht.transitionsOf]
  simp only [verifyTransitionHistory,Bool.and_eq_true,decide_eq_true_eq] at hold
  obtain ⟨⟨hlength,hmatches⟩,-⟩ := hold
  have hcongr : ∀ rows, historyMatches a (nextMarker current p digest) 1 rows = historyMatches a current 1 rows := by
    intro rows
    apply historyMatches_congr <;> rfl
  simp only [verifyTransitionHistory]
  change (decide ((transitionsOf _ current.ledgerUuid current.ledgerEpoch).length = p.toGeneration) && _ && _) = true
  rw [hcongr]
  change (_ && historyMatches a current 1 (transitionsOf _ current.ledgerUuid current.ledgerEpoch) &&
    (transitionsOf _ current.ledgerUuid current.ledgerEpoch).getLast?.all _) = true
  rw [hnew,historyMatches_append,hmatches,hlength,Nat.add_comm 1,h.matches,List.length_append,hlength,h.toGeneration]
  simp [recordedRow,nextMarker]

/-! ## Recorded tables -/

/-- The rows of the recorded tables: the moved one and the others. -/
theorem recorded_ledgers {row : LedgerRow} (hrow : row ∈ (recorded a t current p digest).ledgers) :
    (∃ r ∈ t.ledgers, r.ledgerEpoch = current.ledgerEpoch ∧ row = r.advance a (nextMarker current p digest)) ∨
      row ∈ t.ledgers ∧ row.ledgerEpoch ≠ current.ledgerEpoch := by
  obtain ⟨r,hr,heq⟩ := List.mem_map.mp hrow
  split at heq
  · next hepoch => exact .inl ⟨r,hr,hepoch,heq.symm⟩
  · next hepoch => exact .inr (heq ▸ ⟨hr,hepoch⟩)

/-- A column that the update does not write. -/
theorem recorded_column {β : Type} (g : LedgerRow → β) (hg : ∀ row next, g (row.advance a next) = g row) :
    (recorded a t current p digest).ledgers.map g = t.ledgers.map g := by
  simp only [recorded,List.map_map]
  apply List.map_congr_left
  intro row hrow
  change g (if _ then _ else _) = _
  split
  · exact hg row _
  · rfl

theorem marker_advance (p : Payload) (digest : Hmac) (ht : TablesSound a t) {r row : LedgerRow} (hr : r ∈ t.ledgers) (heq : r.marker = current)
    (hrow : row ∈ t.ledgers) (hepoch : row.ledgerEpoch = current.ledgerEpoch) :
    (row.advance a (nextMarker current p digest)).marker = nextMarker current p digest := by
  subst heq
  obtain rfl : row = r := List.inj_on_of_nodup_map ht.epochs hrow hr hepoch
  rfl

theorem Extends.tablesSound (h : Extends a t current p digest) (ht : TablesSound a t) :
    TablesSound a (recorded a t current p digest) where
  rows := by
    intro row hrow
    obtain ⟨r,hr,heq⟩ := h.row
    rcases recorded_ledgers hrow with ⟨r',hr',hepoch,rfl⟩ | ⟨hmem,-⟩
    · have hmarker := marker_advance p digest ht hr heq hr' hepoch
      refine ⟨hmarker ▸ h.next,?_,(ht.rows r' hr').identity,(ht.rows r' hr').oid⟩
      rw [hmarker]
      rfl
    · exact ht.rows row hmem
  sameLedger := by
    have hcolumn : ∀ row ∈ (recorded a t current p digest).ledgers, ∃ r ∈ t.ledgers,
        r.ledgerUuid = row.ledgerUuid ∧ r.validationDatabaseIdentityHmac = row.validationDatabaseIdentityHmac := by
      intro row hrow
      rcases recorded_ledgers hrow with ⟨r,hr,-,rfl⟩ | ⟨hmem,-⟩
      · exact ⟨r,hr,rfl,rfl⟩
      · exact ⟨row,hmem,rfl,rfl⟩
    intro row hrow row' hrow'
    obtain ⟨r,hr,huuid,hidentity⟩ := hcolumn row hrow
    obtain ⟨r',hr',huuid',hidentity'⟩ := hcolumn row' hrow'
    obtain ⟨hsame,hsame'⟩ := ht.sameLedger r hr r' hr'
    exact ⟨huuid.symm.trans (hsame.trans huuid'),hidentity.symm.trans (hsame'.trans hidentity')⟩
  epochs := by
    rw [recorded_column (·.ledgerEpoch) fun _ _ => rfl]
    exact ht.epochs
  nonces := by
    rw [recorded_column (·.bootstrapReviewNonceHmac) fun _ _ => rfl]
    exact ht.nonces
  histories := by
    intro row hrow
    obtain ⟨r,hr,heq⟩ := h.row
    rcases recorded_ledgers hrow with ⟨r',hr',hepoch,rfl⟩ | ⟨hmem,hepoch⟩
    · rw [marker_advance _ _ ht hr heq hr' hepoch]
      exact h.verify ht
    · have hother : transitionsOf (recorded a t current p digest) row.ledgerUuid row.ledgerEpoch =
          transitionsOf t row.ledgerUuid row.ledgerEpoch := by
        rw [Release.transitionsOf,recorded_filter,if_neg fun hkey => hepoch hkey.2.symm,List.append_nil]
        rfl
      have hold := ht.histories row hmem
      unfold verifyTransitionHistory at hold ⊢
      change transitionsOf _ row.ledgerUuid row.ledgerEpoch = _ at hother
      rw [show row.marker.ledgerUuid = row.ledgerUuid from rfl,show row.marker.ledgerEpoch = row.ledgerEpoch from rfl,
        hother]
      exact hold
  ordered := h.ordered ht
  recorded := by
    intro x hx
    obtain ⟨r,hr,heq⟩ := h.row
    have hmoved : ∀ row ∈ t.ledgers, ∃ row' ∈ (recorded a t current p digest).ledgers,
        row'.ledgerUuid = row.ledgerUuid ∧ row'.ledgerEpoch = row.ledgerEpoch ∧ row.generation ≤ row'.generation ∧
          (row.ledgerEpoch = current.ledgerEpoch → row'.generation = p.toGeneration) := by
      intro row hrow
      by_cases hepoch : row.ledgerEpoch = current.ledgerEpoch
      · obtain rfl : row = r := List.inj_on_of_nodup_map ht.epochs hrow hr (hepoch.trans (by rw [← heq]; rfl))
        refine ⟨row.advance a (nextMarker current p digest),List.mem_map.mpr ⟨row,hrow,if_pos hepoch⟩,rfl,rfl,?_,
          fun _ => rfl⟩
        have hto := h.toGeneration
        have hgeneration : row.generation = current.generation := by rw [← heq]; rfl
        change row.generation ≤ p.toGeneration
        omega
      · exact ⟨row,List.mem_map.mpr ⟨row,hrow,if_neg hepoch⟩,rfl,rfl,Nat.le_refl _,fun h => absurd h hepoch⟩
    change x ∈ t.transitions++[recordedRow current p digest] at hx
    rcases List.mem_append.mp hx with hx | hx
    · obtain ⟨row,hrow,huuid,hepoch,hle⟩ := ht.recorded x hx
      obtain ⟨row',hrow',huuid',hepoch',hle',-⟩ := hmoved row hrow
      exact ⟨row',hrow',huuid'.trans huuid,hepoch'.trans hepoch,Nat.le_trans hle hle'⟩
    · obtain rfl := List.mem_singleton.mp hx
      obtain ⟨row',hrow',huuid',hepoch',-,hto⟩ := hmoved r hr
      have hepoch : r.ledgerEpoch = current.ledgerEpoch := by rw [← heq]; rfl
      exact ⟨row',hrow',huuid'.trans (by rw [← heq]; rfl),hepoch'.trans hepoch,Nat.le_of_eq (hto hepoch).symm⟩
  bare := by
    intro hnil
    obtain ⟨r,hr,-⟩ := h.row
    have hledgers : t.ledgers = [] := by simpa [recorded] using hnil
    rw [hledgers] at hr
    cases hr

/-! ## The append itself -/

theorem TablesSound.mutate (ht : TablesSound a t) (hne : t.ledgers ≠ []) (input : AppendInput) :
    TablesSound a (mutate t input) :=
  ⟨ht.rows,ht.sameLedger,ht.epochs,ht.nonces,ht.histories,ht.ordered,ht.recorded,fun h => absurd h hne⟩

theorem Prepared.extends (h : Prepared a s input current digest) (hs : Sound a s) :
    Extends a (Release.mutate s.rows input) current input.payload digest := by
  have hmarker := (hs.marked current h.marker).1
  exact ⟨hs.on_row h.marker h.inspected,h.valid,h.ledgerUuid,h.ledgerEpoch,h.identity,h.generation,hmarker.key,
    hmarker.verifier,hmarker.environment,hmarker.host,hmarker.locator,(parse_ok.mp h.next).2.2.2⟩

theorem Prepared.tablesSound (h : Prepared a s input current digest) (hs : Sound a s) :
    TablesSound a (Release.mutate s.rows input) := by
  obtain ⟨r,hr,-⟩ := hs.on_row h.marker h.inspected
  exact hs.tables.mutate (List.ne_nil_of_mem hr) input

/-- What a committed append leaves. -/
def appended (a : Authority) (s : ReleaseState) (input : AppendInput) (current : Marker) (digest : Hmac) : ReleaseState where
  marker := some (nextMarker current input.payload digest)
  tables := some (recorded a (mutate s.rows input) current input.payload digest)
  latch := (providerAfter s input).envelopeDigest
  provider := providerAfter s input

/-- The provider checkpoint of an append before its marker replacement. -/
def checkpoint (s : ReleaseState) (input : AppendInput) : Bool :=
  revalidateProvider (mutate s.rows input).authorizations (providerAfter s input).envelopeDigest
    (providerDriftAbort s.rows input.payload)

theorem Extends.inspectLocked (h : Extends a t current p digest) (ht : TablesSound a t) :
    inspectLocked a (some (recorded a t current p digest)) (nextMarker current p digest) =
      .ok (nextMarker current p digest) := by
  obtain ⟨r,hr,heq⟩ := h.row
  have hepoch : r.ledgerEpoch = current.ledgerEpoch := by rw [← heq]; rfl
  have hrow : r.advance a (nextMarker current p digest) ∈ (recorded a t current p digest).ledgers :=
    List.mem_map.mpr ⟨r,hr,if_pos hepoch⟩
  have hinspect := (h.tablesSound ht).inspectLocked hrow
  rw [marker_advance _ _ ht hr heq hr hepoch] at hinspect
  exact hinspect

/-- A prepared append by the point where it is cut off. -/
theorem append_prepared (h : Prepared a s input current digest) (hs : Sound a s) (stop : Stop) :
    append a s stop input =
      if stop = .refused then (s,.error .stopped)
      else if stop = .afterIncident then (latched s input,.error .stopped)
      else if checkpoint s input = false then (latched s input,.error .incidentAuthorityDiffers)
      else if stop = .afterMarker then
        ({ latched s input with marker := some (nextMarker current input.payload digest) },.error .stopped)
      else (appended a s input current digest,.ok (nextMarker current input.payload digest)) := by
  have hextends := h.extends hs
  have htables := h.tablesSound hs
  obtain ⟨r,hr,heq⟩ := hextends.row
  have hto := hextends.toGeneration
  have hrecord := recordTransition_ok digest htables hr heq (p := input.payload) (by omega)
  unfold append
  rw [prepareAppend_ok.mpr h]
  dsimp only
  rw [hrecord]
  dsimp only
  rw [hextends.inspectLocked htables]
  rfl

theorem append_refused (h : ∀ current digest, ¬Prepared a s input current digest) (stop : Stop) :
    (append a s stop input).1 = s ∧ ∃ e, (append a s stop input).2 = .error e := by
  unfold append
  cases hprepare : prepareAppend a s input with
  | error e => exact ⟨rfl,e,rfl⟩
  | ok result => exact absurd (prepareAppend_ok.mp hprepare) (h result.1 result.2)

/-! ## Soundness -/

theorem Sound.appended (hs : Sound a s) (h : Prepared a s input current digest) :
    Sound a (appended a s input current digest) := by
  have hextends := h.extends hs
  have hsound := hextends.tablesSound (h.tablesSound hs)
  obtain ⟨r,hr,heq⟩ := hextends.row
  have hepoch : r.ledgerEpoch = current.ledgerEpoch := by rw [← heq]; rfl
  have hrow : r.advance a (nextMarker current input.payload digest) ∈
      (recorded a (Release.mutate s.rows input) current input.payload digest).ledgers :=
    List.mem_map.mpr ⟨r,hr,if_pos hepoch⟩
  have hmarker := marker_advance input.payload digest (h.tablesSound hs) hr heq hr hepoch
  refine ⟨hsound,fun m hm => ?_,fun hnone => ?_⟩
  · obtain rfl := Option.some.inj hm
    refine ⟨hextends.next,.inr ⟨fun row hmem => ?_,.inl ⟨_,hrow,hmarker⟩⟩⟩
    obtain ⟨huuid,hidentity⟩ := hsound.sameLedger row hmem _ hrow
    refine ⟨huuid.trans (by rw [← hmarker]; rfl),hidentity.trans (by rw [← hmarker]; rfl),?_⟩
    have hfollows := (hs.marked current h.marker).2
    have hle : ∀ row' ∈ s.rows.ledgers, row'.ledgerEpoch ≤ current.ledgerEpoch := by
      rcases hfollows with hnone | hfollows
      · rw [hnone]
        simp
      · exact fun row' hrow' => (hfollows.sameLedger row' hrow').2.2
    rcases recorded_ledgers hmem with ⟨row',hrow',-,rfl⟩ | ⟨hmem',-⟩
    · exact hle row' hrow'
    · exact hle row hmem'
  · cases hnone

/-- The marker of a prepared append, without its row. -/
theorem Sound.ahead (hs : Sound a s) (h : Prepared a s input current digest) :
    Sound a { latched s input with marker := some (nextMarker current input.payload digest) } := by
  have hextends := h.extends hs
  refine ⟨hs.tables,fun m hm => ?_,fun hnone => ?_⟩
  · obtain rfl := Option.some.inj hm
    refine ⟨hextends.next,?_⟩
    rcases (hs.marked current h.marker).2 with hnone | hfollows
    · exact .inl hnone
    · obtain ⟨r,hr,heq⟩ := hextends.row
      refine .inr ⟨hfollows.sameLedger,.inr (.inl ⟨r,hr,by rw [← heq]; rfl,?_⟩)⟩
      rw [show r.generation = current.generation by rw [← heq]; rfl]
      exact hextends.toGeneration
  · cases hnone

theorem Sound.append (hs : Sound a s) : Sound a (append a s stop input).1 := by
  by_cases hex : ∃ current digest, Prepared a s input current digest
  · obtain ⟨current,digest,h⟩ := hex
    rw [append_prepared h hs]
    split
    · exact hs
    split
    · exact hs.of_eq rfl rfl
    split
    · exact hs.of_eq rfl rfl
    split
    · exact hs.ahead h
    · exact hs.appended h
  · push Not at hex
    rw [(append_refused hex stop).1]
    exact hs

end ParaWorks.Release
