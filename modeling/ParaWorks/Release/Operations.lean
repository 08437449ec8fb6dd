import ParaWorks.Release.Soundness

/-!
# Bootstrap operations on sound states

Each of the three keeps a release state sound, and what it needs to commit.
-/

namespace ParaWorks.Release

open Lib

variable {a : Authority} {s : ReleaseState} {m : Marker} {stop : Stop} {review : Review}
  {identityUuid ledgerUuid : Text}

/-! ## New ledgers -/

theorem fresh_rows : databaseIsFresh s.tables = true ↔ s.rows = .empty := by
  cases h : s.tables with
  | none => simp [databaseIsFresh,ReleaseState.rows,h]
  | some t => simp [databaseIsFresh,ReleaseState.rows,h]

theorem newMarker_init_sound (a : Authority) (ledgerUuid : Text) (identityHmac : Hmac) (review : Review) :
    MarkerSound a (newMarker a ledgerUuid 1 none none identityHmac (a.databaseLocatorHmac a.databaseIdentity) review
      .releaseLedgerInit) := ⟨rfl,rfl,rfl,rfl,rfl,rfl⟩

theorem newMarker_disaster_sound (a : Authority) (ledgerUuid : Text) (identityHmac reason : Hmac) (review : Review) :
    MarkerSound a (newMarker a ledgerUuid 1 none (some reason) identityHmac (a.databaseLocatorHmac a.databaseIdentity)
      review .releaseLedgerDisasterInit) := ⟨rfl,rfl,rfl,rfl,rfl,rfl⟩

theorem initial_successor (review : Review) (ledgerUuid identityUuid : Text) (hrows : s.rows = .empty) :
    Successor a s.rows (newMarker a ledgerUuid 1 none none (a.databaseHmac a.databaseIdentity identityUuid)
      (a.databaseLocatorHmac a.databaseIdentity) review .releaseLedgerInit) identityUuid :=
  ⟨newMarker_init_sound a ledgerUuid _ review,rfl,rfl,by simp [hrows,Tables.empty]⟩

theorem disaster_successor (review : Review) (ledgerUuid identityUuid : Text) (hrows : s.rows = .empty) :
    Successor a s.rows (newMarker a ledgerUuid 1 none (some review.reasonHmac)
      (a.databaseHmac a.databaseIdentity identityUuid) (a.databaseLocatorHmac a.databaseIdentity) review
      .releaseLedgerDisasterInit) identityUuid :=
  ⟨newMarker_disaster_sound a ledgerUuid _ _ review,rfl,rfl,by simp [hrows,Tables.empty]⟩

/-- An operation refuses, or publishes a marker of generation zero with `P`. -/
def Publishes (a : Authority) (s : ReleaseState) (stop : Stop) (P : Marker → Prop)
    (result : ReleaseState × Except ReleaseError Marker) : Prop :=
  (result.1 = s ∧ ∃ e, result.2 = .error e) ∨
    ∃ m identityUuid, P m ∧ Successor a s.rows m identityUuid ∧ result = publish a s stop m identityUuid

variable {P : Marker → Prop} {result : ReleaseState × Except ReleaseError Marker}

theorem Publishes.sound (h : Publishes a s stop P result) (hs : Sound a s) : Sound a result.1 := by
  rcases h with ⟨heq,-⟩ | ⟨m,identityUuid,-,hm,rfl⟩
  · rw [heq]
    exact hs
  · exact hs.publish hm

theorem initializeLedger_publishes (s : ReleaseState) :
    Publishes a s stop (fun m => m.ledgerUuid = ledgerUuid ∧ isPendingInitialMarker m = true)
      (initializeLedger a s stop review ledgerUuid identityUuid) := by
  unfold initializeLedger
  split
  · exact .inl ⟨rfl,_,rfl⟩
  split
  · exact .inl ⟨rfl,_,rfl⟩
  split
  · exact .inl ⟨rfl,_,rfl⟩
  next hfresh =>
  split
  · exact .inl ⟨rfl,_,rfl⟩
  refine .inr ⟨_,_,?_,initial_successor review ledgerUuid identityUuid (fresh_rows.mp (by simpa using hfresh)),rfl⟩
  exact ⟨rfl,rfl⟩

/-- The checks of a disaster initialization. -/
def Replaceable (a : Authority) (s : ReleaseState) (review : Review) : Prop :=
  databaseIsFresh s.tables = true ∧ s.marker.any (requiresRebootstrap a) = false ∧
    (nonceFresh a s review.nonceHmac).isOk = true

theorem disasterInitialize_publishes (s : ReleaseState) :
    Publishes a s stop (fun m => m.ledgerUuid = ledgerUuid ∧ Replaceable a s review)
      (disasterInitialize a s stop review ledgerUuid identityUuid) := by
  unfold disasterInitialize
  split
  · exact .inl ⟨rfl,_,rfl⟩
  split
  · exact .inl ⟨rfl,_,rfl⟩
  next hstale =>
  have hfresh : databaseIsFresh s.tables = true := by simpa using hstale
  split
  · exact .inl ⟨rfl,_,rfl⟩
  next hrequires =>
  split
  · exact .inl ⟨rfl,_,rfl⟩
  next hnonce =>
  refine .inr ⟨_,_,⟨?_,hfresh,by simpa using hrequires,?_⟩,
    disaster_successor review ledgerUuid identityUuid (fresh_rows.mp hfresh),rfl⟩
  · rfl
  · rw [hnonce]
    rfl

/-! ## The next epoch -/

theorem wellFormed_epoch (h : m.wellFormed = true) : 0 < m.ledgerEpoch := by
  simp only [Marker.wellFormed,Bool.and_eq_true,decide_eq_true_eq] at h
  exact h.1.1

theorem next_successor {row : LedgerRow} (review : Review) (h : Sound a s) (hmarker : s.marker = some m)
    (hrow : row.validationDatabaseIdentityHmac = a.databaseHmac a.databaseIdentity row.validationDatabaseIdentityUuid)
    (hidentity : m.validationDatabaseIdentityHmac = row.validationDatabaseIdentityHmac) :
    Successor a s.rows (newMarker a m.ledgerUuid (m.ledgerEpoch+1) (some (a.fileDigest m)) (some review.reasonHmac)
      m.validationDatabaseIdentityHmac m.validationDatabaseLocatorHmac review .releaseLedgerRebootstrap)
      row.validationDatabaseIdentityUuid := by
  obtain ⟨hsound,hfollows⟩ := h.marked m hmarker
  have hepoch := wellFormed_epoch hsound.wellFormed
  refine ⟨⟨rfl,rfl,rfl,rfl,hsound.locator,?_⟩,rfl,hidentity.trans hrow,fun r hr => ?_⟩
  · simp [Marker.wellFormed,newMarker]
    omega
  · rcases hfollows with hnone | hfollows
    · rw [hnone] at hr
      cases hr
    · obtain ⟨huuid,hsame,hle⟩ := hfollows.sameLedger r hr
      exact ⟨huuid,hsame,Nat.lt_succ_of_le hle⟩

theorem predecessorRow_mem {row : LedgerRow} (h : predecessorRow s.tables m = .ok row) : row ∈ s.rows.ledgers := by
  unfold predecessorRow ledgerRowOrNone at h
  cases htables : s.tables with
  | none =>
    rw [htables] at h
    cases h
  | some t =>
    rw [rows_of_tables htables]
    rw [htables] at h
    dsimp only [Option.getD_some] at h
    cases hfind : t.ledgers.find? (isRowOf m) with
    | some r =>
      rw [hfind] at h
      obtain rfl := Except.ok.inj h
      exact (find?_spec hfind).1
    | none =>
      rw [hfind] at h
      dsimp only at h
      split at h
      · cases h
      next hhead =>
      obtain rfl := Except.ok.inj h
      have hmem := (List.mem_insertionSort _).mp (List.mem_of_mem_head? hhead)
      exact (List.mem_filter.mp hmem).1

/-- The marker is a later epoch of the ledger of the one before it. -/
def Supersedes (s : ReleaseState) (m : Marker) : Prop :=
  ∃ prior, s.marker = some prior ∧ prior.ledgerUuid = m.ledgerUuid ∧ prior.ledgerEpoch < m.ledgerEpoch

theorem rebootstrap_publishes (h : Sound a s) :
    Publishes a s stop (fun m => Supersedes s m ∧ s.rows.ledgers ≠ []) (rebootstrap a s stop review) := by
  unfold rebootstrap
  cases hmarker : s.marker with
  | none => exact .inl ⟨rfl,_,rfl⟩
  | some m =>
    dsimp only
    split
    · exact .inl ⟨rfl,_,rfl⟩
    rw [(h.marked m hmarker).1.parse]
    dsimp only
    split
    · exact .inl ⟨rfl,_,rfl⟩
    split
    · exact .inl ⟨rfl,_,rfl⟩
    next hrow =>
    split
    · exact .inl ⟨rfl,_,rfl⟩
    next hidentity =>
    split
    · exact .inl ⟨rfl,_,rfl⟩
    push Not at hidentity
    refine .inr ⟨_,_,?_,next_successor review h hmarker hidentity.1 hidentity.2,rfl⟩
    exact ⟨⟨m,hmarker,rfl,Nat.lt_succ_self _⟩,List.ne_nil_of_mem (predecessorRow_mem hrow)⟩

end ParaWorks.Release
