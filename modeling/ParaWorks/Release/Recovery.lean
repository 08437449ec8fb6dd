import ParaWorks.Release.Appends

/-!
# Recovery

What `inspect` answers on a sound state, and which bootstrap operation takes a state on from which it refuses.
-/

namespace ParaWorks.Release

open Lib

variable {a : Authority} {s : ReleaseState} {m m' : Marker} {t : Tables} {review : Review}
  {identityUuid ledgerUuid : Text}

/-! ## Inspection -/

theorem inspect_ok : inspect a s = .ok m ↔ s.marker = some m ∧ barrierHeld s = true ∧ parse a m = .ok m ∧
    inspectLocked a s.tables m = .ok m ∧ ∀ row ∈ s.rows.authorizations, ¬Drifted row s.provider.envelopeDigest := by
  constructor
  · intro h
    unfold inspect at h
    split at h
    · cases h
    next m hmarker =>
    split at h
    · cases h
    next hbarrier =>
    split at h
    · cases h
    next hparse =>
    split at h
    · cases h
    next hinspect =>
    split at h
    · cases h
    next hprovider =>
    obtain rfl := Except.ok.inj h
    obtain ⟨rfl,-⟩ := parse_ok.mp hparse
    obtain ⟨rfl,-⟩ := inspectLocked_ok.mp hinspect
    exact ⟨hmarker,by simpa using hbarrier,hparse,hinspect,revalidateProvider_none.mp (by simpa using hprovider)⟩
  · rintro ⟨hmarker,hbarrier,hparse,hinspect,hprovider⟩
    simp [inspect,hmarker,hbarrier,hparse,hinspect,revalidateProvider_none.mpr hprovider]

/-- The stored transitions of the marker's epoch are its history: every generation up to the marker's once and in order,
each a valid payload of this ledger with its digest, and the last digest is the marker's. -/
structure GaplessHistory (a : Authority) (t : Tables) (m : Marker) : Prop where
  generations : (transitionsOf t m.ledgerUuid m.ledgerEpoch).map (·.generation) = List.range' 1 m.generation
  signed : ∀ row ∈ transitionsOf t m.ledgerUuid m.ledgerEpoch, row.payload.fromGeneration+1 = row.generation ∧
    row.payload.toGeneration = row.generation ∧ row.payload.ledgerUuid = m.ledgerUuid ∧
      row.payload.ledgerEpoch = m.ledgerEpoch ∧
        row.payload.validationDatabaseIdentityHmac = m.validationDatabaseIdentityHmac ∧
          validateTransitionPayload a row.payload = some row.transitionDigest
  last : ∀ row, (transitionsOf t m.ledgerUuid m.ledgerEpoch).getLast? = some row →
    m.lastTransitionDigest = some row.transitionDigest

theorem verify_gapless (h : verifyTransitionHistory a t m = true) : GaplessHistory a t m := by
  simp only [verifyTransitionHistory,Bool.and_eq_true,decide_eq_true_eq] at h
  obtain ⟨⟨hlength,hmatches⟩,hlast⟩ := h
  obtain ⟨hgenerations,hrows⟩ := historyMatches_generations hmatches
  refine ⟨hlength ▸ hgenerations,fun row hrow => ?_,fun row hrow => ?_⟩
  · have hrow := hrows row hrow
    simp only [transitionMatches,Bool.and_eq_true,decide_eq_true_eq] at hrow
    obtain ⟨⟨⟨⟨⟨⟨⟨-,hfrom⟩,hto⟩,huuid⟩,hepoch⟩,hidentity⟩,-⟩,hvalid⟩ := hrow
    exact ⟨hfrom,hto,huuid,hepoch,hidentity,hvalid⟩
  · rw [hrow] at hlast
    simpa [eq_comm] using hlast

/-- The marker is the newest committed ledger row. -/
def OnNewestRow (a : Authority) (t : Tables) (m : Marker) : Prop :=
  ∃ r ∈ t.ledgers, r.marker = m ∧ r.markerFileDigest = a.fileDigest m ∧
    ∀ r' ∈ t.ledgers, r'.ledgerUuid = m.ledgerUuid ∧ r'.ledgerEpoch ≤ m.ledgerEpoch

theorem Sound.onNewestRow (h : Sound a s) (hmarker : s.marker = some m)
    (hinspect : inspectLocked a s.tables m = .ok m) : OnNewestRow a s.rows m := by
  obtain ⟨r,hr,rfl⟩ := h.on_row hmarker hinspect
  refine ⟨r,hr,rfl,(h.tables.rows r hr).digest,fun r' hr' => ?_⟩
  rcases (h.marked _ hmarker).2 with hnone | hfollows
  · rw [hnone] at hr
    cases hr
  · obtain ⟨huuid,-,hle⟩ := hfollows.sameLedger r' hr'
    exact ⟨huuid,hle⟩

theorem tables_of_mem {r : LedgerRow} (hr : r ∈ s.rows.ledgers) : s.tables = some s.rows := by
  cases htables : s.tables with
  | none =>
    rw [ReleaseState.rows,htables] at hr
    cases hr
  | some t => rw [rows_of_tables htables]

/-- On a sound state whose started authorizations have the provider's digest, the inspection succeeds exactly on the
newest row, and then with its history. -/
theorem Sound.inspect_iff (h : Sound a s) (hbarrier : barrierHeld s = true)
    (hprovider : ∀ row ∈ s.rows.authorizations, ¬Drifted row s.provider.envelopeDigest) :
    inspect a s = .ok m ↔ s.marker = some m ∧ OnNewestRow a s.rows m ∧ GaplessHistory a s.rows m := by
  rw [inspect_ok]
  constructor
  · rintro ⟨hmarker,-,-,hinspect,-⟩
    refine ⟨hmarker,h.onNewestRow hmarker hinspect,?_⟩
    obtain ⟨-,t,row,htables,-,-,hverify⟩ := inspectLocked_ok.mp hinspect
    rw [rows_of_tables htables]
    exact verify_gapless hverify
  · rintro ⟨hmarker,⟨r,hr,rfl,-,-⟩,-⟩
    refine ⟨hmarker,hbarrier,(h.marked _ hmarker).1.parse,?_,hprovider⟩
    rw [tables_of_mem hr]
    exact h.tables.inspectLocked hr

/-! ## Fresh reviews -/

structure FreshReview (s : ReleaseState) (review : Review) : Prop where
  marker : ∀ m, s.marker = some m → m.bootstrapReviewNonceHmac ≠ review.nonceHmac
  nonce : ∀ r ∈ s.rows.ledgers, r.bootstrapReviewNonceHmac ≠ review.nonceHmac
  envelope : ∀ r ∈ s.rows.ledgers, r.bootstrapReviewEnvelopeHmac ≠ review.envelopeHmac

theorem FreshReview.nonceFresh (h : FreshReview s review) : nonceFresh a s review.nonceHmac = .ok () := by
  have hmarker : ¬(s.marker.any fun m => (parse a m).isOk && m.bootstrapReviewNonceHmac = review.nonceHmac) = true := by
    intro hany
    obtain ⟨m,hm,hnonce⟩ := (Option.any_eq_true _ _).mp hany
    simp only [Bool.and_eq_true,decide_eq_true_eq] at hnonce
    exact h.marker m hm hnonce.2
  have hrows : ¬(s.rows.ledgers.any (·.bootstrapReviewNonceHmac = review.nonceHmac)) = true := by
    intro hany
    obtain ⟨r,hr,hnonce⟩ := List.any_eq_true.mp hany
    exact h.nonce r hr (by simpa using hnonce)
  unfold Release.nonceFresh
  rw [if_neg hmarker,if_neg hrows]

theorem FreshReview.insertFree (h : FreshReview s review)
    (hkey : ∀ r ∈ s.rows.ledgers, r.ledgerEpoch ≠ m.ledgerEpoch)
    (henvelope : m.bootstrapReviewEnvelopeHmac = review.envelopeHmac)
    (hnonce : m.bootstrapReviewNonceHmac = review.nonceHmac) :
    InsertFree s.rows (ledgerRowOf a m identityUuid) := by
  intro r hr
  refine ⟨fun h => hkey r hr h.2,?_,?_⟩
  · change r.bootstrapReviewEnvelopeHmac ≠ m.bootstrapReviewEnvelopeHmac
    rw [henvelope]
    exact h.envelope r hr
  · change r.bootstrapReviewNonceHmac ≠ m.bootstrapReviewNonceHmac
    rw [hnonce]
    exact h.nonce r hr

/-! ## The operations that recover -/

theorem disasterInitialize_ok (h : Sound a s) (hbarrier : barrierHeld s = true) (hnone : s.rows.ledgers = [])
    (hmarker : ∀ m, s.marker = some m → isPendingInitialMarker m = true) (hreview : FreshReview s review) :
    ∃ m, (disasterInitialize a s .none review ledgerUuid identityUuid).2 = .ok m := by
  have hrows := h.tables.bare hnone
  have hrequires : s.marker.any (requiresRebootstrap a) = false := by
    cases hm : s.marker with
    | none => rfl
    | some m => simp [requiresRebootstrap,hmarker m hm]
  have hcommits := publish_commits h (disaster_successor review ledgerUuid identityUuid hrows)
    (by simp [InsertFree,hnone]) (by simp [hrows,Tables.empty])
  unfold disasterInitialize
  rw [hbarrier,fresh_rows.mpr hrows,hrequires,hreview.nonceFresh]
  dsimp only
  rw [if_neg Bool.noConfusion,if_neg Bool.noConfusion,if_neg Bool.noConfusion,hcommits]
  exact ⟨_,rfl⟩

/-- The row that a marker at a later epoch is compared with. -/
theorem predecessorRow_later (hfollows : Follows s.rows m) (hne : s.rows.ledgers ≠ [])
    (hlater : ∀ r ∈ s.rows.ledgers, r.ledgerEpoch < m.ledgerEpoch) :
    ∃ row ∈ s.rows.ledgers, predecessorRow s.tables m = .ok row := by
  obtain ⟨r,hr⟩ := List.exists_mem_of_ne_nil _ hne
  have htables := tables_of_mem hr
  have hfind : s.rows.ledgers.find? (isRowOf m) = none := by
    rw [List.find?_eq_none]
    intro row hrow hkey
    simp only [isRowOf,Bool.and_eq_true,decide_eq_true_eq] at hkey
    have hlt := hlater row hrow
    omega
  have hmem : r ∈ (s.rows.ledgers.filter fun row => row.ledgerUuid = m.ledgerUuid && row.ledgerEpoch < m.ledgerEpoch) :=
    List.mem_filter.mpr ⟨hr,by simpa using ⟨(hfollows.sameLedger r hr).1,hlater r hr⟩⟩
  have hsorted := (List.mem_insertionSort (fun x y : LedgerRow => y.ledgerEpoch ≤ x.ledgerEpoch)).mpr hmem
  obtain ⟨row,hrow⟩ := Option.isSome_iff_exists.mp (List.isSome_head?.mpr (List.ne_nil_of_mem hsorted))
  refine ⟨row,?_,?_⟩
  · have hrowmem := (List.mem_insertionSort _).mp (List.mem_of_mem_head? hrow)
    exact (List.mem_filter.mp hrowmem).1
  · unfold predecessorRow ledgerRowOrNone
    rw [htables]
    dsimp only [Option.getD_some]
    rw [hfind,hrow]

/-- A marker ahead of the rows is taken on by a new epoch. -/
theorem rebootstrap_ok (h : Sound a s) (hbarrier : barrierHeld s = true) (hmarker : s.marker = some m)
    (hne : s.rows.ledgers ≠ []) (hahead : ∀ r ∈ s.rows.ledgers, r.marker ≠ m)
    (hprovider : ∀ row ∈ s.rows.authorizations, ¬Drifted row s.provider.envelopeDigest)
    (hreview : FreshReview s review) : ∃ m', (rebootstrap a s .none review).2 = .ok m' := by
  obtain ⟨hsound,hnone | hfollows⟩ := h.marked m hmarker
  · exact absurd hnone hne
  have hrow : ∃ row ∈ s.rows.ledgers, predecessorRow s.tables m = .ok row ∧
      ¬(row.ledgerEpoch = m.ledgerEpoch ∧ row.generation = m.generation ∧
        row.lastTransitionDigest = m.lastTransitionDigest ∧ row.markerFileDigest = a.fileDigest m) := by
    rcases hfollows.place with ⟨r,hr,heq⟩ | ⟨r,hr,hepoch,hgeneration⟩ | hlater
    · exact absurd heq (hahead r hr)
    · refine ⟨r,hr,?_,fun hsame => ?_⟩
      · have hkey : isRowOf m = isRowOf r.marker := by
          funext row
          simp only [isRowOf,LedgerRow.marker,(hfollows.sameLedger r hr).1,hepoch]
        unfold predecessorRow ledgerRowOrNone
        rw [tables_of_mem hr]
        dsimp only
        rw [hkey,h.tables.find_row hr]
      · omega
    · obtain ⟨row,hrow,heq⟩ := predecessorRow_later hfollows hne hlater
      refine ⟨row,hrow,heq,fun hsame => ?_⟩
      have hlt := hlater row hrow
      omega
  obtain ⟨row,hrow,hpredecessor,hunhealthy⟩ := hrow
  have hidentity := (h.tables.rows row hrow).identity
  have hsame := (hfollows.sameLedger row hrow).2.1
  have hsuccessor := next_successor review h hmarker hidentity hsame.symm
  have hcommits := publish_commits h hsuccessor
    (hreview.insertFree (fun r hr => Nat.ne_of_lt (hsuccessor.later r hr).2.2) rfl rfl) hprovider
  unfold rebootstrap
  rw [hmarker]
  dsimp only
  rw [hbarrier,hsound.parse]
  dsimp only
  rw [hreview.nonceFresh,hpredecessor]
  dsimp only
  rw [if_neg Bool.noConfusion,if_neg (by push Not; exact ⟨hidentity,hsame.symm⟩),if_neg hunhealthy,hcommits]
  exact ⟨_,rfl⟩

end ParaWorks.Release
