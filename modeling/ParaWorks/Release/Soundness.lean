import ParaWorks.Lib.Tables
import ParaWorks.Release.Append

/-!
# Sound release states

What every operation keeps of the tables and of the marker beside them, wherever it is cut off.
-/

namespace ParaWorks.Release

open Lib

/-! ## What the checks of the authority say

One lemma for each check and for the publication that the three bootstrap operations share. -/

section checks

variable {a : Authority} {s s' : ReleaseState} {m m' : Marker} {tables : Tables} {input : AppendInput} {stop : Stop}

/-! ## Provider checkpoint -/

/-- A started authorization whose approved envelope is not the given one. -/
def Drifted (row : Authorization) (digest : Hmac) : Prop :=
  row.state = .started ∧ row.providerSafetyEnvelopeDigest ≠ digest

theorem revalidateProvider_none {rows : List Authorization} {digest : Hmac} :
    revalidateProvider rows digest none = true ↔ ∀ row ∈ rows, ¬Drifted row digest := by
  simp [revalidateProvider,Drifted,List.filter_eq_nil_iff]

theorem revalidateProvider_of_none {rows : List Authorization} {digest : Hmac} {drift : Option ProviderDriftAbort}
    (h : ∀ row ∈ rows, ¬Drifted row digest) : revalidateProvider rows digest drift = true := by
  have hnone := revalidateProvider_none.mpr h
  simp only [revalidateProvider,Bool.or_false,decide_eq_true_eq] at hnone
  simp only [revalidateProvider,hnone,decide_true,Bool.true_or]

/-! ## Parsing -/

theorem parse_ok : parse a m = .ok m' ↔ m' = m ∧ m.fingerprintKeyVersion = a.keyVersion ∧
    m.fingerprintKeyMaterialVerifier = a.keyVerifier ∧ m.wellFormed = true := by
  unfold parse
  split
  · next h =>
    constructor
    · intro heq
      exact ⟨(Except.ok.inj heq).symm,h⟩
    · intro heq
      rw [heq.1]
  · next h =>
    constructor
    · intro heq
      cases heq
    · intro heq
      exact absurd heq.2 h

/-! ## Ledger rows -/

/-- The marker that a ledger row records. -/
def LedgerRow.marker (row : LedgerRow) : Marker where
  designatedEnvironmentIdHmac := row.designatedEnvironmentIdHmac
  designatedHostIdHmac := row.designatedHostIdHmac
  generation := row.generation
  lastTransitionDigest := row.lastTransitionDigest
  ledgerEpoch := row.ledgerEpoch
  ledgerUuid := row.ledgerUuid
  predecessorMarkerDigest := row.predecessorMarkerDigest
  rebootstrapReasonHmac := row.rebootstrapReasonHmac
  bootstrapReviewEnvelopeHmac := row.bootstrapReviewEnvelopeHmac
  bootstrapReviewNonceHmac := row.bootstrapReviewNonceHmac
  bootstrapOperation := row.bootstrapOperation
  validationDatabaseIdentityHmac := row.validationDatabaseIdentityHmac
  validationDatabaseLocatorHmac := row.validationDatabaseLocatorHmac
  fingerprintKeyVersion := row.fingerprintKeyVersion
  fingerprintKeyMaterialVerifier := row.fingerprintKeyMaterialVerifier

@[simp] theorem marker_ledgerRowOf (m : Marker) (identityUuid : Text) : (ledgerRowOf a m identityUuid).marker = m := rfl

/-- A marker of this authority, host and database. -/
structure MarkerSound (a : Authority) (m : Marker) : Prop where
  key : m.fingerprintKeyVersion = a.keyVersion
  verifier : m.fingerprintKeyMaterialVerifier = a.keyVerifier
  environment : m.designatedEnvironmentIdHmac = a.environmentHmac
  host : m.designatedHostIdHmac = a.hostHmac
  locator : m.validationDatabaseLocatorHmac = a.databaseLocatorHmac a.databaseIdentity
  wellFormed : m.wellFormed = true

theorem MarkerSound.parse (h : MarkerSound a m) : parse a m = .ok m := parse_ok.mpr ⟨rfl,h.key,h.verifier,h.wellFormed⟩

/-- A row that records a sound marker and this database. -/
structure RowSound (a : Authority) (row : LedgerRow) : Prop where
  marker : MarkerSound a row.marker
  digest : row.markerFileDigest = a.fileDigest row.marker
  identity : row.validationDatabaseIdentityHmac = a.databaseHmac a.databaseIdentity row.validationDatabaseIdentityUuid
  oid : row.validationDatabaseOid = a.databaseIdentity.databaseOid

theorem RowSound.rowMatches {row : LedgerRow} (h : RowSound a row) : rowMatches a row.marker row = true := by
  simp only [Release.rowMatches,Bool.and_eq_true,decide_eq_true_eq]
  exact ⟨⟨⟨⟨⟨⟨⟨⟨⟨⟨⟨⟨⟨⟨⟨⟨rfl,rfl⟩,h.digest⟩,rfl⟩,rfl⟩,rfl⟩,rfl⟩,rfl⟩,rfl⟩,rfl⟩,rfl⟩,rfl⟩,h.marker.environment⟩,
    h.marker.host⟩,h.identity⟩,h.marker.locator⟩,h.oid⟩

theorem rowMatches_generation {row : LedgerRow} (h : rowMatches a m row = true) : row.generation = m.generation := by
  simp only [rowMatches,Bool.and_eq_true,decide_eq_true_eq] at h
  exact h.1.1.1.1.1.1.1.1.1.1.1.1.1.1.1.1

theorem rowMatches_digest {row : LedgerRow} (h : rowMatches a m row = true) :
    row.lastTransitionDigest = m.lastTransitionDigest ∧ row.markerFileDigest = a.fileDigest m := by
  simp only [rowMatches,Bool.and_eq_true,decide_eq_true_eq] at h
  exact ⟨h.1.1.1.1.1.1.1.1.1.1.1.1.1.1.1.2,h.1.1.1.1.1.1.1.1.1.1.1.1.1.1.2⟩

/-! ## The locked inspection -/

theorem inspectLocked_ok {stored : Option Tables} : inspectLocked a stored m = .ok m' ↔ m' = m ∧
    ∃ tables row, stored = some tables ∧ tables.ledgers.find? (isRowOf m) = some row ∧ rowMatches a m row = true ∧
      verifyTransitionHistory a tables m = true := by
  cases stored with
  | none => simp [inspectLocked,ledgerRowOrNone]
  | some tables =>
    cases hrow : tables.ledgers.find? (isRowOf m) with
    | none => simp [inspectLocked,ledgerRowOrNone,hrow]
    | some row =>
      simp only [inspectLocked,ledgerRowOrNone,hrow,Option.getD_some]
      constructor
      · intro h
        split at h
        · cases h
        next hmatches =>
        split at h
        · cases h
        next hhistory =>
        exact ⟨(Except.ok.inj h).symm,tables,row,rfl,hrow,by simpa using hmatches,by simpa using hhistory⟩
      · rintro ⟨rfl,tables',row',htables,hrow',hmatches,hhistory⟩
        obtain rfl := Option.some.inj htables
        obtain rfl := Option.some.inj (hrow.symm.trans hrow')
        simp [hmatches,hhistory]

end checks

variable {a : Authority} {s s' : ReleaseState} {m m' : Marker} {t : Tables} {input : AppendInput} {stop : Stop}
  {review : Review} {identityUuid ledgerUuid : Text}

/-! ## The invariant -/

structure TablesSound (a : Authority) (t : Tables) : Prop where
  rows : ∀ r ∈ t.ledgers, RowSound a r
  sameLedger : ∀ r ∈ t.ledgers, ∀ r' ∈ t.ledgers,
    r.ledgerUuid = r'.ledgerUuid ∧ r.validationDatabaseIdentityHmac = r'.validationDatabaseIdentityHmac
  epochs : (t.ledgers.map (·.ledgerEpoch)).Nodup
  nonces : (t.ledgers.map (·.bootstrapReviewNonceHmac)).Nodup
  histories : ∀ r ∈ t.ledgers, verifyTransitionHistory a t r.marker = true
  ordered : ∀ ledgerUuid ledgerEpoch,
    (t.transitions.filter (isOfEpoch ledgerUuid ledgerEpoch)).Pairwise fun x y => x.generation < y.generation
  recorded : ∀ x ∈ t.transitions, ∃ r ∈ t.ledgers,
    r.ledgerUuid = x.ledgerUuid ∧ r.ledgerEpoch = x.ledgerEpoch ∧ x.generation ≤ r.generation
  bare : t.ledgers = [] → t = .empty

/-- Where a marker may stand beside the rows: on the newest one, one generation ahead of it, or at a later epoch. -/
structure Follows (t : Tables) (m : Marker) : Prop where
  sameLedger : ∀ r ∈ t.ledgers, r.ledgerUuid = m.ledgerUuid ∧
    r.validationDatabaseIdentityHmac = m.validationDatabaseIdentityHmac ∧ r.ledgerEpoch ≤ m.ledgerEpoch
  place : (∃ r ∈ t.ledgers, r.marker = m) ∨
    (∃ r ∈ t.ledgers, r.ledgerEpoch = m.ledgerEpoch ∧ m.generation = r.generation+1) ∨
      ∀ r ∈ t.ledgers, r.ledgerEpoch < m.ledgerEpoch

structure Sound (a : Authority) (s : ReleaseState) : Prop where
  tables : TablesSound a s.rows
  marked : ∀ m, s.marker = some m → MarkerSound a m ∧ (s.rows.ledgers = [] ∨ Follows s.rows m)
  unmarked : s.marker = none → s.rows.ledgers = []

theorem Sound.initial (provider : Provider) : Sound a (ReleaseSystem.initial provider).state where
  tables := ⟨by simp [ReleaseSystem.initial,ReleaseState.rows,Tables.empty],
    by simp [ReleaseSystem.initial,ReleaseState.rows,Tables.empty],List.nodup_nil,List.nodup_nil,
    by simp [ReleaseSystem.initial,ReleaseState.rows,Tables.empty],fun _ _ => List.Pairwise.nil,
    by simp [ReleaseSystem.initial,ReleaseState.rows,Tables.empty],fun _ => rfl⟩
  marked := by simp [ReleaseSystem.initial]
  unmarked := fun _ => rfl

/-- The provider's part of the state is not looked at. -/
theorem Sound.of_eq (h : Sound a s) (hmarker : s'.marker = s.marker) (htables : s'.tables = s.tables) : Sound a s' := by
  have hrows : s'.rows = s.rows := by rw [ReleaseState.rows,ReleaseState.rows,htables]
  exact ⟨hrows ▸ h.tables,fun m hm => hrows ▸ h.marked m (hmarker ▸ hm),fun hm => hrows ▸ h.unmarked (hmarker ▸ hm)⟩

theorem rows_of_tables (h : s.tables = some t) : s.rows = t := by
  rw [ReleaseState.rows,h]
  rfl

/-! ## Histories -/

theorem TablesSound.transitionsOf (h : TablesSound a t) (ledgerUuid : Text) (ledgerEpoch : Nat) :
    transitionsOf t ledgerUuid ledgerEpoch = t.transitions.filter (isOfEpoch ledgerUuid ledgerEpoch) := by
  apply List.Pairwise.insertionSort_eq
  exact (h.ordered ledgerUuid ledgerEpoch).imp fun hlt => Nat.le_of_lt hlt

theorem verify_nil (hnone : transitionsOf t m.ledgerUuid m.ledgerEpoch = []) (hgeneration : m.generation = 0) :
    verifyTransitionHistory a t m = true := by
  simp [verifyTransitionHistory,hnone,hgeneration,historyMatches]

/-- The rows of a history have the generations of its epoch in order. -/
theorem historyMatches_generations : ∀ {generation : Nat} {rows : List TransitionRow},
    historyMatches a m generation rows = true →
      rows.map (·.generation) = List.range' generation rows.length ∧
        ∀ row ∈ rows, transitionMatches a m row.generation row = true
  | _, [], _ => ⟨rfl,by simp⟩
  | generation, row::rows, h => by
    simp only [historyMatches,Bool.and_eq_true] at h
    obtain ⟨hrow,hrows⟩ := h
    obtain ⟨hmap,hall⟩ := historyMatches_generations hrows
    have hgeneration : row.generation = generation := by
      simp only [transitionMatches,Bool.and_eq_true,decide_eq_true_eq] at hrow
      exact hrow.1.1.1.1.1.1.1
    refine ⟨?_,fun other hother => ?_⟩
    · rw [List.map_cons,hmap,hgeneration,List.length_cons,List.range'_succ]
    · rcases List.mem_cons.mp hother with rfl | hother
      · rw [hgeneration]
        exact hrow
      · exact hall other hother

theorem historyMatches_append {row : TransitionRow} : ∀ {generation : Nat} {rows : List TransitionRow},
    historyMatches a m generation (rows++[row]) =
      (historyMatches a m generation rows && transitionMatches a m (generation+rows.length) row)
  | _, [] => by simp [historyMatches]
  | generation, first::rows => by
    rw [List.cons_append,historyMatches,historyMatches,historyMatches_append,Bool.and_assoc,List.length_cons,
      Nat.add_right_comm,Nat.add_assoc]

/-- The checks of a history read the identity of the ledger only. -/
theorem transitionMatches_congr {row : TransitionRow} {generation : Nat} (huuid : m'.ledgerUuid = m.ledgerUuid)
    (hepoch : m'.ledgerEpoch = m.ledgerEpoch)
    (hidentity : m'.validationDatabaseIdentityHmac = m.validationDatabaseIdentityHmac) :
    transitionMatches a m' generation row = transitionMatches a m generation row := by
  simp only [transitionMatches,huuid,hepoch,hidentity]

theorem historyMatches_congr (huuid : m'.ledgerUuid = m.ledgerUuid) (hepoch : m'.ledgerEpoch = m.ledgerEpoch)
    (hidentity : m'.validationDatabaseIdentityHmac = m.validationDatabaseIdentityHmac) :
    ∀ {generation : Nat} {rows : List TransitionRow},
      historyMatches a m' generation rows = historyMatches a m generation rows
  | _, [] => rfl
  | _, _::_ => by
    rw [historyMatches,historyMatches,transitionMatches_congr huuid hepoch hidentity,
      historyMatches_congr huuid hepoch hidentity]

/-! ## The row of a marker -/

theorem isRowOf_marker (row : LedgerRow) : isRowOf row.marker row = true := by simp [isRowOf,LedgerRow.marker]

theorem TablesSound.find_row (ht : TablesSound a t) {r : LedgerRow} (hr : r ∈ t.ledgers) :
    t.ledgers.find? (isRowOf r.marker) = some r := by
  cases hfind : t.ledgers.find? (isRowOf r.marker) with
  | none =>
    rw [List.find?_eq_none] at hfind
    exact absurd (isRowOf_marker r) (hfind r hr)
  | some row =>
    obtain ⟨hmem,hkey⟩ := find?_spec hfind
    simp only [isRowOf,Bool.and_eq_true,decide_eq_true_eq] at hkey
    rw [List.inj_on_of_nodup_map ht.epochs hmem hr hkey.2]

theorem TablesSound.inspectLocked (ht : TablesSound a t) {r : LedgerRow} (hr : r ∈ t.ledgers) :
    inspectLocked a (some t) r.marker = .ok r.marker :=
  inspectLocked_ok.mpr ⟨rfl,t,r,rfl,ht.find_row hr,(ht.rows r hr).rowMatches,ht.histories r hr⟩

/-- Where the locked inspection succeeds, the marker stands on a row. -/
theorem Sound.on_row (h : Sound a s) (hmarker : s.marker = some m) (hinspect : inspectLocked a s.tables m = .ok m) :
    ∃ r ∈ s.rows.ledgers, r.marker = m := by
  obtain ⟨-,t,row,htables,hrow,hmatches,-⟩ := inspectLocked_ok.mp hinspect
  have hrows := rows_of_tables htables
  obtain ⟨hmem,hkey⟩ := find?_spec hrow
  simp only [isRowOf,Bool.and_eq_true,decide_eq_true_eq] at hkey
  rw [← hrows] at hmem
  rcases (h.marked m hmarker).2 with hnone | hfollows
  · rw [hnone] at hmem
    cases hmem
  rcases hfollows.place with ⟨r,hr,heq⟩ | ⟨r,hr,hepoch,hahead⟩ | hlater
  · exact ⟨r,hr,heq⟩
  · obtain rfl : r = row := List.inj_on_of_nodup_map h.tables.epochs hr hmem (hepoch.trans hkey.2.symm)
    have hgeneration := rowMatches_generation hmatches
    omega
  · have hlt := hlater row hmem
    omega

/-! ## A new epoch -/

/-- A marker of generation zero at an epoch after every row. -/
structure Successor (a : Authority) (t : Tables) (m : Marker) (identityUuid : Text) : Prop where
  marker : MarkerSound a m
  generation : m.generation = 0
  identity : m.validationDatabaseIdentityHmac = a.databaseHmac a.databaseIdentity identityUuid
  later : ∀ r ∈ t.ledgers, r.ledgerUuid = m.ledgerUuid ∧
    r.validationDatabaseIdentityHmac = m.validationDatabaseIdentityHmac ∧ r.ledgerEpoch < m.ledgerEpoch

theorem Successor.follows (h : Successor a t m identityUuid) : Follows t m :=
  ⟨fun r hr => ⟨(h.later r hr).1,(h.later r hr).2.1,Nat.le_of_lt (h.later r hr).2.2⟩,
    .inr (.inr fun r hr => (h.later r hr).2.2)⟩

theorem Successor.transitionsOf (h : Successor a t m identityUuid) (ht : TablesSound a t) :
    transitionsOf t m.ledgerUuid m.ledgerEpoch = [] := by
  rw [ht.transitionsOf,List.filter_eq_nil_iff]
  intro x hx hepoch
  simp only [isOfEpoch,Bool.and_eq_true,decide_eq_true_eq] at hepoch
  obtain ⟨r,hr,-,hrepoch,-⟩ := ht.recorded x hx
  have hlt := (h.later r hr).2.2
  omega

theorem Successor.rowSound (h : Successor a t m identityUuid) : RowSound a (ledgerRowOf a m identityUuid) :=
  ⟨h.marker,rfl,h.identity,rfl⟩

/-- No row of the table has the key, the envelope or the nonce of another. -/
def InsertFree (t : Tables) (row : LedgerRow) : Prop :=
  ∀ other ∈ t.ledgers, ¬(other.ledgerUuid = row.ledgerUuid ∧ other.ledgerEpoch = row.ledgerEpoch) ∧
    other.bootstrapReviewEnvelopeHmac ≠ row.bootstrapReviewEnvelopeHmac ∧
      other.bootstrapReviewNonceHmac ≠ row.bootstrapReviewNonceHmac

theorem insertLedger_ok {row : LedgerRow} {t' : Tables} :
    insertLedger t row = .ok t' ↔ InsertFree t row ∧ t' = { t with ledgers := t.ledgers++[row] } := by
  have hany : (t.ledgers.any fun other => other.ledgerUuid = row.ledgerUuid && other.ledgerEpoch = row.ledgerEpoch ||
      other.bootstrapReviewEnvelopeHmac = row.bootstrapReviewEnvelopeHmac ||
      other.bootstrapReviewNonceHmac = row.bootstrapReviewNonceHmac) = true ↔ ¬InsertFree t row := by
    simp only [InsertFree,List.any_eq_true,Bool.or_eq_true,Bool.and_eq_true,decide_eq_true_eq]
    constructor
    · rintro ⟨other,hother,h⟩ hfree
      obtain ⟨hkey,henvelope,hnonce⟩ := hfree other hother
      rcases h with (h | h) | h
      · exact hkey h
      · exact henvelope h
      · exact hnonce h
    · intro h
      push Not at h
      obtain ⟨other,hother,h⟩ := h
      by_cases hkey : other.ledgerUuid = row.ledgerUuid ∧ other.ledgerEpoch = row.ledgerEpoch
      · exact ⟨other,hother,.inl (.inl hkey)⟩
      · by_cases henvelope : other.bootstrapReviewEnvelopeHmac = row.bootstrapReviewEnvelopeHmac
        · exact ⟨other,hother,.inl (.inr henvelope)⟩
        · exact ⟨other,hother,.inr (h (fun huuid hepoch => hkey ⟨huuid,hepoch⟩) henvelope)⟩
  unfold insertLedger
  by_cases hfree : InsertFree t row
  · rw [if_neg (fun h => hany.mp h hfree)]
    exact ⟨fun h => ⟨hfree,(Except.ok.inj h).symm⟩,fun h => by rw [h.2]⟩
  · rw [if_pos (hany.mpr hfree)]
    constructor
    · intro h
      cases h
    · intro h
      exact absurd h.1 hfree

theorem Successor.tablesSound (h : Successor a t m identityUuid) (ht : TablesSound a t)
    (hfree : InsertFree t (ledgerRowOf a m identityUuid)) :
    TablesSound a { t with ledgers := t.ledgers++[ledgerRowOf a m identityUuid] } where
  rows := by
    intro r hr
    rcases List.mem_append.mp hr with hr | hr
    · exact ht.rows r hr
    · obtain rfl := List.mem_singleton.mp hr
      exact h.rowSound
  sameLedger := by
    have hnew : ∀ r ∈ t.ledgers++[ledgerRowOf a m identityUuid],
        r.ledgerUuid = m.ledgerUuid ∧ r.validationDatabaseIdentityHmac = m.validationDatabaseIdentityHmac := by
      intro r hr
      rcases List.mem_append.mp hr with hr | hr
      · exact ⟨(h.later r hr).1,(h.later r hr).2.1⟩
      · obtain rfl := List.mem_singleton.mp hr
        exact ⟨rfl,rfl⟩
    intro r hr r' hr'
    exact ⟨(hnew r hr).1.trans (hnew r' hr').1.symm,(hnew r hr).2.trans (hnew r' hr').2.symm⟩
  epochs := by
    rw [List.map_append,List.nodup_append]
    refine ⟨ht.epochs,by simp,fun epoch hepoch epoch' hepoch' heq => ?_⟩
    obtain ⟨r,hr,rfl⟩ := List.mem_map.mp hepoch
    have hnew : epoch' = m.ledgerEpoch := by simpa [ledgerRowOf] using hepoch'
    have hlt := (h.later r hr).2.2
    omega
  nonces := by
    rw [List.map_append,List.nodup_append]
    refine ⟨ht.nonces,by simp,fun nonce hnonce nonce' hnonce' heq => ?_⟩
    obtain ⟨r,hr,rfl⟩ := List.mem_map.mp hnonce
    obtain rfl : nonce' = (ledgerRowOf a m identityUuid).bootstrapReviewNonceHmac := by simpa using hnonce'
    exact (hfree r hr).2.2 heq
  histories := by
    intro r hr
    rcases List.mem_append.mp hr with hr | hr
    · exact ht.histories r hr
    · obtain rfl := List.mem_singleton.mp hr
      exact verify_nil (h.transitionsOf ht) h.generation
  ordered := ht.ordered
  recorded := by
    intro x hx
    obtain ⟨r,hr,hrow⟩ := ht.recorded x hx
    exact ⟨r,List.mem_append_left _ hr,hrow⟩
  bare := by simp

theorem Successor.inspectLocked (h : Successor a t m identityUuid) (ht : TablesSound a t)
    (hfree : InsertFree t (ledgerRowOf a m identityUuid)) :
    inspectLocked a (some { t with ledgers := t.ledgers++[ledgerRowOf a m identityUuid] }) m = .ok m :=
  (h.tablesSound ht hfree).inspectLocked (r := ledgerRowOf a m identityUuid)
    (List.mem_append_right _ (List.mem_singleton.mpr rfl))

/-! ## Publication -/

/-- What a publication leaves: nothing, the marker alone, or the marker and its row. -/
theorem publish_cases (s : ReleaseState) (stop : Stop) (m : Marker) (identityUuid : Text) :
    (publish a s stop m identityUuid).1 = s ∨
    (publish a s stop m identityUuid).1 = { s with marker := some m } ∧
      (stop = .afterMarker ∨ stop = .none ∧ (¬InsertFree s.rows (ledgerRowOf a m identityUuid) ∨
        ∀ m', inspectLocked a (some { s.rows with ledgers := s.rows.ledgers++[ledgerRowOf a m identityUuid] }) m ≠ .ok m')) ∨
    (publish a s stop m identityUuid) = ({ s with
        marker := some m
        tables := some { s.rows with ledgers := s.rows.ledgers++[ledgerRowOf a m identityUuid] } },.ok m) ∧
      InsertFree s.rows (ledgerRowOf a m identityUuid) := by
  unfold publish
  split
  · exact .inl rfl
  split
  · exact .inl rfl
  next hrefused =>
  split
  · next hstop => exact .inr (.inl ⟨rfl,.inl hstop⟩)
  next hmarker =>
  have hstop : stop = .none := by
    cases stop
    · rfl
    · exact absurd (.inl rfl) hrefused
    · exact absurd (.inr rfl) hrefused
    · exact absurd rfl hmarker
  cases hinsert : insertLedger s.rows (ledgerRowOf a m identityUuid) with
  | error e =>
    refine .inr (.inl ⟨rfl,.inr ⟨hstop,.inl fun hfree => ?_⟩⟩)
    rw [insertLedger_ok.mpr ⟨hfree,rfl⟩] at hinsert
    cases hinsert
  | ok t =>
    obtain ⟨hfree,rfl⟩ := insertLedger_ok.mp hinsert
    dsimp only
    split
    · next hinspect =>
      refine .inr (.inl ⟨rfl,.inr ⟨hstop,.inr fun m' hm' => ?_⟩⟩)
      rw [hm'] at hinspect
      cases hinspect
    · next hinspect =>
      obtain ⟨rfl,-⟩ := inspectLocked_ok.mp hinspect
      exact .inr (.inr ⟨rfl,hfree⟩)

theorem Sound.publish (h : Sound a s) (hm : Successor a s.rows m identityUuid) :
    Sound a (publish a s stop m identityUuid).1 := by
  rcases publish_cases s stop m identityUuid with heq | ⟨heq,-⟩ | ⟨heq,hfree⟩
  · rw [heq]
    exact h
  · rw [heq]
    refine ⟨h.tables,fun m' hm' => ?_,fun hnone => ?_⟩
    · obtain rfl := Option.some.inj hm'
      exact ⟨hm.marker,.inr hm.follows⟩
    · cases hnone
  · rw [heq]
    refine ⟨hm.tablesSound h.tables hfree,fun m' hm' => ?_,fun hnone => ?_⟩
    · obtain rfl := Option.some.inj hm'
      refine ⟨hm.marker,.inr ⟨fun r hr => ?_,.inl ⟨_,List.mem_append_right _ (List.mem_singleton.mpr rfl),rfl⟩⟩⟩
      rcases List.mem_append.mp hr with hr | hr
      · exact hm.follows.sameLedger r hr
      · obtain rfl := List.mem_singleton.mp hr
        exact ⟨rfl,rfl,Nat.le_refl _⟩
    · cases hnone

/-- A publication that nothing cuts off commits. -/
theorem publish_commits (h : Sound a s) (hm : Successor a s.rows m identityUuid)
    (hfree : InsertFree s.rows (ledgerRowOf a m identityUuid))
    (hprovider : ∀ row ∈ s.rows.authorizations, ¬Drifted row s.provider.envelopeDigest) :
    publish a s .none m identityUuid = ({ s with
      marker := some m
      tables := some { s.rows with ledgers := s.rows.ledgers++[ledgerRowOf a m identityUuid] } },.ok m) := by
  unfold publish
  rw [revalidateProvider_of_none hprovider,insertLedger_ok.mpr ⟨hfree,rfl⟩]
  simp [hm.inspectLocked h.tables hfree]

end ParaWorks.Release
