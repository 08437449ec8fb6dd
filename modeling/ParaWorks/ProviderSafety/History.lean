import ParaWorks.Lib.Partial
import ParaWorks.ProviderSafety.Blocks

/-!
# The log of transitions

The log says what each family may do, apart from how the service does it. In every run the rows of the log are a legal
history from the bootstrap on, and replaying it gives the readiness rows.
-/

namespace ParaWorks.ProviderSafety

open Lib
open Ledger (RagPaidComponent Usd)
open Release (lowerHmac)

/-! ## Legal histories -/

/-- The states that a kind of transition leads between. -/
def TransitionKind.leads : TransitionKind → SafetyState → SafetyState → Bool
  | rebindRequired, .ready, .rebindRequired => true
  | rebind, .rebindRequired, .ready => true
  | reset, .blockedOverrun, .ready => true
  | reset, .blockedRemediation, .ready => true
  | blockOverrun, .ready, .blockedOverrun => true
  | blockRemediation, .ready, .blockedRemediation => true
  | _, _, _ => false

/-- A family starts as the successor of another, or goes on from the point where it was, by one version. -/
def FamilyChange.legal (kind : TransitionKind) (generation : Nat) (change : FamilyChange) : Bool :=
  match change.prior with
  | none => kind = .supersession ∧ change.new = ⟨.ready,1,generation⟩
  | some prior =>
    kind.leads prior.state change.new.state = true ∧ change.new.stateVersion = prior.stateVersion+1 ∧
      change.new.familySafetyGeneration = generation ∧ prior.familySafetyGeneration < generation

/-- The points of the families after one row of the log, none where the row does not follow. -/
def replayRow (known : Nat → Option FamilyPoint) (t : TransitionRow) : Option (Nat → Option FamilyPoint) :=
  match t.family with
  | none => if t.kind = .bootstrap then some known else none
  | some change =>
    if change.prior = known change.readinessId ∧ change.legal t.kind t.globalSafetyGeneration = true then
      some (Function.update known change.readinessId (some change.new))
    else none

/-- The two families of a bootstrap. -/
def bootstrapPoints (first second : Nat) (id : Nat) : Option FamilyPoint :=
  if id = first ∨ id = second then some ⟨.ready,1,0⟩ else none

/-- The log of a database: it has a row for each generation, the last with the digest of the authority, and from the two
families of the bootstrap it is a history that leads to the readiness rows. -/
structure Logged (db : Database) (authority : AuthorityRow) (known : Nat → Option FamilyPoint) : Prop where
  found : db.authority = some authority
  generations : db.transitions.map (·.globalSafetyGeneration) = List.range (authority.globalSafetyGeneration+1)
  digest : db.transitions.getLast?.map (·.envelopeDigest) = some authority.envelopeDigest
  replays : ∃ first second, db.transitions.foldlM replayRow (bootstrapPoints first second) = some known
  points : ∀ row ∈ db.readiness, known row.id = some row.point
  distinct : (db.readiness.map (·.id)).Nodup
  rows : ∀ id, (known id).isSome = true → id ∈ db.readiness.map (·.id)

section history

variable {s : Service} {db db' : Database} {known : Nat → Option FamilyPoint} {authority : AuthorityRow}

theorem foldlM_append_singleton {σ β : Type} {f : σ → β → Option σ} {a b : σ} {xs : List β} {x : β}
    (h : xs.foldlM f a = some b) : (xs++[x]).foldlM f a = f b x := by
  rw [List.foldlM_append,h]
  simp

theorem nextReadinessId_fresh (db : Database) : db.nextReadinessId ∉ db.readiness.map (·.id) := by
  intro h
  have hle := le_foldr_max h
  unfold Database.nextReadinessId at hle
  omega

/-- The rows of a database that matches a latch are where its records are. -/
theorem Matched.point {latch : Latch s} (h : Matched s latch db authority) {row : ReadinessRow} {record : FamilyRecord}
    {c : RagPaidComponent} (hrow : row ∈ db.readiness) (hactive : row.active = true)
    (hcomponent : row.snapshot.identity.component = c) (hrecord : latch.body.activeRecord c = some record) :
    row.point = record.point := by
  have hmatch := h.rows row hrow
  unfold matchesRecord at hmatch
  cases hfound : latch.body.record? row.snapshot.identity with
  | none =>
    rw [hfound] at hmatch
    cases hmatch
  | some found =>
    rw [hfound] at hmatch
    obtain ⟨hsame,-,hstate,hversion,hgeneration,-⟩ := of_decide_eq_true hmatch
    rw [hactive,hcomponent] at hsame
    have hidentity := of_decide_eq_true hsame.symm
    unfold Body.activeRecord at hrecord
    rw [hidentity,hfound] at hrecord
    obtain rfl := Option.some.inj hrecord
    unfold ReadinessRow.point FamilyRecord.point
    rw [hstate,hversion,hgeneration]

/-- What a transition that is logged asks of the records that it leads between. -/
def LegalRecords (t : TransitionInput) (old new : FamilyRecord) (generation : Nat) : Prop :=
  if t.supersession = true then t.kind = .supersession ∧ new.state = .ready ∧ new.stateVersion = 1
  else
    t.kind.leads old.state new.state = true ∧ new.stateVersion = old.stateVersion+1 ∧
      old.familySafetyGeneration < generation

theorem changeRow_ids {rows : List ReadinessRow} {id : Nat} {change : ReadinessRow → ReadinessRow}
    (hid : ∀ row, (change row).id = row.id) : (changeRow rows id change).map (·.id) = rows.map (·.id) :=
  map_map_update (g := fun row : ReadinessRow => row.id) hid

theorem mem_changeRow {rows : List ReadinessRow} {id : Nat} {change : ReadinessRow → ReadinessRow} {row : ReadinessRow} :
    row ∈ changeRow rows id change ↔
      (∃ old ∈ rows, old.id = id ∧ change old = row) ∨ row ∈ rows ∧ row.id ≠ id :=
  mem_map_update (g := fun row : ReadinessRow => row.id)

/-- One more row of a log that follows from where its family was. -/
theorem Logged.transition {t : TransitionInput} {record : FamilyRecord} {generation : Nat} {digest : Text}
    {rows : List ReadinessRow × Nat × Option FamilyPoint} (hlogged : Logged db authority known)
    (hnext : authority.globalSafetyGeneration+1 = generation) (hprior : rows.2.2 = known rows.2.1)
    (hlegal : (⟨rows.2.1,rows.2.2,⟨record.state,record.stateVersion,generation⟩⟩ : FamilyChange).legal t.kind
      generation = true)
    (hpoints : ∀ row ∈ rows.1, Function.update known rows.2.1
      (some ⟨record.state,record.stateVersion,generation⟩) row.id = some row.point)
    (hdistinct : (rows.1.map (·.id)).Nodup)
    (hids : ∀ id ∈ rows.2.1::db.readiness.map (·.id), id ∈ rows.1.map (·.id)) :
    ∃ authority' known', Logged (db.transition t authority record generation digest rows) authority' known' := by
  obtain ⟨first,second,hreplay⟩ := hlogged.replays
  refine ⟨_,_,rfl,?_,?_,⟨first,second,?_⟩,hpoints,hdistinct,?_⟩
  · unfold Database.transition
    dsimp only
    rw [List.map_append,hlogged.generations,← hnext,List.range_succ (n := authority.globalSafetyGeneration+1)]
    rfl
  · unfold Database.transition
    dsimp only
    rw [List.getLast?_append]
    rfl
  · unfold Database.transition
    dsimp only
    rw [foldlM_append_singleton hreplay]
    unfold replayRow
    exact if_pos ⟨hprior,hlegal⟩
  · intro id hsome
    refine hids id ?_
    by_cases hid : id = rows.2.1
    · exact hid ▸ List.mem_cons_self
    · rw [Function.update_of_ne hid] at hsome
      exact List.mem_cons_of_mem _ (hlogged.rows id hsome)

theorem Logged.superseded {t : TransitionInput} {oldRow : ReadinessRow} {record : FamilyRecord} {generation : Nat}
    {digest : Text} {snapshot : AuthorizedProviderPolicySnapshot} (hlogged : Logged db authority known)
    (hnext : authority.globalSafetyGeneration+1 = generation) (hkind : t.kind = .supersession)
    (hstate : record.state = .ready) (hversion : record.stateVersion = 1) :
    ∃ authority' known', Logged (db.transition t authority record generation digest
      (changeRow db.readiness oldRow.id ({ · with active := false })++
        [successorRow db.nextReadinessId snapshot generation t.reviewedReference],db.nextReadinessId,none))
      authority' known' := by
  have hfresh := nextReadinessId_fresh db
  have hold : ∀ row ∈ db.readiness, row.id ≠ db.nextReadinessId := fun row hrow heq =>
    hfresh (List.mem_map.mpr ⟨row,hrow,heq⟩)
  have hids : (changeRow db.readiness oldRow.id ({ · with active := false })).map (·.id) = db.readiness.map (·.id) :=
    changeRow_ids fun _ => rfl
  refine hlogged.transition hnext ?_ ?_ ?_ ?_ ?_
  · cases hid : known db.nextReadinessId with
    | none => rfl
    | some point => exact absurd (hlogged.rows _ (by rw [hid]; rfl)) hfresh
  · rw [hstate,hversion,hkind]
    unfold FamilyChange.legal
    simp
  · intro row hrow
    rcases List.mem_append.mp hrow with hrow | hrow
    · rcases mem_changeRow.mp hrow with ⟨x,hx,-,rfl⟩ | ⟨hrow,-⟩
      · rw [Function.update_of_ne (hold x hx)]
        exact hlogged.points x hx
      · rw [Function.update_of_ne (hold row hrow)]
        exact hlogged.points row hrow
    · rw [List.mem_singleton.mp hrow]
      unfold successorRow ReadinessRow.point
      rw [Function.update_self,hstate,hversion]
  · rw [List.map_append,hids]
    exact hlogged.distinct.append (List.nodup_singleton _) (by simpa [successorRow] using hfresh)
  · intro id hid
    rw [List.map_append,hids]
    rcases List.mem_cons.mp hid with rfl | hid
    · exact List.mem_append_right _ (by simp [successorRow])
    · exact List.mem_append_left _ hid

theorem Logged.advanced {t : TransitionInput} {oldRow : ReadinessRow} {oldRecord record : FamilyRecord} {generation : Nat}
    {digest : Text} (hlogged : Logged db authority known) (hnext : authority.globalSafetyGeneration+1 = generation)
    (hmem : oldRow ∈ db.readiness) (hpoint : oldRow.point = oldRecord.point)
    (hleads : t.kind.leads oldRecord.state record.state = true) (hversion : record.stateVersion = oldRecord.stateVersion+1)
    (hlt : oldRecord.familySafetyGeneration < generation) :
    ∃ authority' known', Logged (db.transition t authority record generation digest
      (changeRow db.readiness oldRow.id (updatedRow t record generation),oldRow.id,some oldRecord.point))
      authority' known' := by
  have hids : (changeRow db.readiness oldRow.id (updatedRow t record generation)).map (·.id) = db.readiness.map (·.id) :=
    changeRow_ids fun _ => rfl
  refine hlogged.transition hnext ?_ ?_ ?_ ?_ ?_
  · rw [hlogged.points oldRow hmem,hpoint]
  · unfold FamilyChange.legal FamilyRecord.point
    simp [hleads,hversion,hlt]
  · intro row hrow
    rcases mem_changeRow.mp hrow with ⟨x,hx,hid,rfl⟩ | ⟨hrow,hid⟩
    · unfold updatedRow ReadinessRow.point
      rw [hid,Function.update_self]
    · rw [Function.update_of_ne hid]
      exact hlogged.points row hrow
  · rw [hids]
    exact hlogged.distinct
  · intro id hid
    rw [hids]
    rcases List.mem_cons.mp hid with rfl | hid
    · exact List.mem_map_of_mem hmem
    · exact hid

theorem commit_logged {t : TransitionInput} {latch : Latch s} {new : Body} {digest : Text} (hlogged : Logged db authority known)
    (hgeneration : new.globalSafetyGeneration = latch.body.globalSafetyGeneration+1)
    (hlegal : ∀ oldRecord newRecord, latch.body.activeRecord t.component = some oldRecord →
      new.activeRecord t.component = some newRecord → LegalRecords t oldRecord newRecord new.globalSafetyGeneration)
    (h : commitTransition s t latch new digest db = some db') :
    ∃ authority' known', Logged db' authority' known' := by
  obtain ⟨hmatch,authority',oldRecord,oldRow,newRecord,rows,hauthority,holdRecord,holdRow,hnewRecord,-,hrows,rfl,-⟩ :=
    commitTransition_eq_some.mp h
  obtain ⟨authority'',hmatched⟩ := matched_of_match hmatch
  obtain rfl := Option.some.inj (hlogged.found.symm.trans hauthority)
  obtain rfl := Option.some.inj (hlogged.found.symm.trans hmatched.found)
  have hlegal := hlegal oldRecord newRecord holdRecord hnewRecord
  unfold LegalRecords at hlegal
  have hnext : authority.globalSafetyGeneration+1 = new.globalSafetyGeneration := by
    rw [hgeneration,hmatched.generation]
  unfold transitionRows at hrows
  split_ifs at hrows with hkind hcas
  · rw [if_pos hkind] at hlegal
    obtain ⟨hkind',hstate,hversion⟩ := hlegal
    obtain ⟨snapshot,-,rfl⟩ := Option.map_eq_some_iff.mp hrows
    exact hlogged.superseded hnext hkind' hstate hversion
  · rw [if_neg hkind] at hlegal
    obtain ⟨hleads,hversion,hlt⟩ := hlegal
    obtain rfl := Option.some.inj hrows
    obtain ⟨hmem,hactive⟩ := find?_spec holdRow
    obtain ⟨hactive,hcomponent⟩ := of_decide_eq_true hactive
    exact hlogged.advanced hnext hmem (hmatched.point hmem hactive hcomponent holdRecord) hleads hversion hlt

end history

/-! ## What the calls log -/

section logged

variable {s : Service} {w : World} {m : Mutation} {f : Failures} {c : Call}

theorem leads_rebindRequired : ∀ state ∈ [SafetyState.ready],
    TransitionKind.rebindRequired.leads state .rebindRequired = true := by decide

theorem leads_rebind : ∀ state ∈ [SafetyState.rebindRequired], TransitionKind.rebind.leads state .ready = true := by decide

theorem leads_reset : ∀ state ∈ [SafetyState.blockedOverrun,.blockedRemediation],
    TransitionKind.reset.leads state .ready = true := by decide

/-- The transition of a call leads from the states that it allows to the state that it sets, by its kind. -/
theorem requested_leads (hrequest : Requested s w c m f) :
    m.supersession = true ∧ m.kind = .supersession ∨
      m.supersession = false ∧ ∀ state ∈ m.allowed, m.kind.leads state m.newState = true := by
  cases c with
  | markRebindRequired i now f =>
    obtain ⟨command,-,rfl,-⟩ := hrequest
    exact .inr ⟨rfl,leads_rebindRequired⟩
  | reviewedRebind i snapshot now f =>
    obtain ⟨command,-,rfl,-⟩ := hrequest
    exact .inr ⟨rfl,leads_rebind⟩
  | reviewedReset i now f =>
    obtain ⟨command,-,rfl,-⟩ := hrequest
    exact .inr ⟨rfl,leads_reset⟩
  | reviewedSupersession i successor now f =>
    obtain ⟨command,-,rfl,-⟩ := hrequest
    exact .inl ⟨rfl,rfl⟩
  | block b f =>
    obtain ⟨reference,-,-,-,rfl,-⟩ := hrequest
    refine .inr ⟨rfl,fun state hstate => ?_⟩
    rw [List.mem_singleton.mp hstate]
    unfold blockMutation
    cases b.category <;> rfl
  | _ => exact hrequest.elim

theorem planned_legal (hrequest : Requested s w c m f) (p : Plan s m w) {latch : Latch s}
    (henvelope : latch.envelope = p.envelope) {oldRecord newRecord : FamilyRecord}
    (hold : p.latch.body.activeRecord m.component = some oldRecord)
    (hnew : latch.body.activeRecord m.component = some newRecord) :
    LegalRecords (m.input p.reference p.actor) oldRecord newRecord latch.body.globalSafetyGeneration := by
  obtain rfl := Option.some.inj (p.active.symm.trans hold)
  obtain ⟨record,hmoved⟩ := p.moved
  rw [← henvelope] at hmoved
  obtain rfl := Option.some.inj ((hmoved.activeRecord latch.valid.body.distinct).symm.trans hnew)
  have hle : p.record.familySafetyGeneration ≤ p.latch.body.globalSafetyGeneration :=
    (p.latch.valid.body.records p.record (activeRecord_mem p.active).1).familyGeneration
  have hgeneration : latch.body.globalSafetyGeneration = p.latch.body.globalSafetyGeneration+1 := hmoved.generation
  unfold LegalRecords Mutation.input
  dsimp only
  rcases requested_leads hrequest with ⟨hkind,hsupersession⟩ | ⟨hkind,hleads⟩
  · rw [if_pos hkind]
    cases hmoved.target with
    | changed _ hchanged _ =>
      rw [hkind] at hchanged
      cases hchanged
    | succeeded _ _ _ _ _ => exact ⟨hsupersession,rfl,rfl⟩
  · rw [if_neg (by rw [hkind]; exact Bool.false_ne_true)]
    cases hmoved.target with
    | changed _ _ hrecord =>
      obtain ⟨-,hstate,hversion,-⟩ := mutatedRecord_spec hrecord
      exact ⟨by rw [hstate]; exact hleads _ p.allowed,hversion,by omega⟩
    | succeeded _ hsucceeded _ _ _ =>
      rw [hkind] at hsucceeded
      cases hsucceeded

theorem find?_changeRecord {records : List FamilyRecord} {identity : FamilyIdentity} {record : FamilyRecord}
    (h : record.identity = identity) : (changeRecord records identity record).find? (fun f => f.identity = identity) =
      (records.find? fun f => f.identity = identity).map fun _ => record :=
  find?_map_update (g := fun f : FamilyRecord => f.identity) (f := fun _ => record) fun _ _ => h

theorem remediatedBody_active {reference : Text} {b body : Body} {target : FamilyRecord}
    (htarget : b.activeRecord m.component = some target) (h : remediatedBody m reference b = some body) :
    body.activeRecord m.component = some
      { target with
        familySafetyGeneration := b.globalSafetyGeneration+1
        reviewedTransitionReferenceHmac := some reference
        state := .blockedRemediation
        stateVersion := target.stateVersion+1 } := by
  obtain ⟨target',htarget',h⟩ := Option.bind_eq_some_iff.mp h
  obtain rfl := Option.some.inj (htarget.symm.trans htarget')
  obtain rfl := Option.some.inj h
  have hidentity := (activeRecord_mem htarget).2
  unfold Body.activeRecord Body.record? at *
  dsimp only
  rw [← hidentity] at htarget ⊢
  refine (find?_changeRecord ?_).trans ?_
  · rfl
  · rw [htarget]
    rfl

theorem remediation_logged {db : Database} {authority : AuthorityRow} {known : Nat → Option FamilyPoint}
    {p : Plan s m w} (hlogged : Logged w.db authority known) (hready : p.record.state = .ready)
    (h : p.remediation = some db) : ∃ authority' known', Logged db authority' known' := by
  obtain ⟨body,hbody,h⟩ := Option.bind_eq_some_iff.mp h
  obtain ⟨digest,-,h⟩ := Option.bind_eq_some_iff.mp h
  have hgeneration := remediatedBody_generation hbody
  refine commit_logged hlogged hgeneration ?_ h
  intro oldRecord newRecord hold hnew
  obtain rfl := Option.some.inj (p.active.symm.trans hold)
  obtain rfl := Option.some.inj ((remediatedBody_active p.active hbody).symm.trans hnew)
  have hle : p.record.familySafetyGeneration ≤ p.latch.body.globalSafetyGeneration :=
    (p.latch.valid.body.records p.record (activeRecord_mem p.active).1).familyGeneration
  refine ⟨?_,rfl,by omega⟩
  rw [hready]
  rfl

theorem effect_logged {db : Database} {file : Option Text} {authority : AuthorityRow} {known : Nat → Option FamilyPoint}
    (hrequest : Requested s w c m f) {p : Plan s m w} (hlogged : Logged w.db authority known)
    (h : Effect f p file db) : ∃ authority' known', Logged db authority' known' := by
  cases h with
  | unwritten _ _ => exact ⟨authority,known,hlogged⟩
  | written _ => exact ⟨authority,known,hlogged⟩
  | remediated _ _ hready hrows => exact remediation_logged hlogged hready hrows
  | writtenRemediated _ _ hready hrows => exact remediation_logged hlogged hready hrows
  | @committed text latch db hwrite hread hrows =>
    have henvelope := readUnlocked_replace hwrite hread
    have hgeneration : latch.body.globalSafetyGeneration = p.latch.body.globalSafetyGeneration+1 := by
      unfold Latch.body
      rw [henvelope]
      exact p.generation
    exact commit_logged hlogged hgeneration (fun _ _ hold hnew => planned_legal hrequest p henvelope hold hnew) hrows

theorem bootstrap_logged {latch : Latch s} {p : Snapshots} {reference : Text} {db : Database}
    (hempty : dbIsEmptyAndUnattempted w = true) (h : insertBootstrapRows s latch p reference w.db = some db) :
    ∃ authority known, Logged db authority known := by
  obtain ⟨-,hreadiness,htransitions,-⟩ := of_decide_eq_true hempty
  unfold insertBootstrapRows at h
  dsimp only at h
  split_ifs at h
  obtain rfl := Option.some.inj h
  have hfirst : w.db.nextReadinessId = 1 := by
    unfold Database.nextReadinessId
    rw [hreadiness]
    rfl
  refine ⟨_,bootstrapPoints 1 2,rfl,?_,?_,⟨1,2,?_⟩,?_,?_,?_⟩
  · rw [htransitions]
    rfl
  · rw [htransitions]
    rfl
  · rw [htransitions]
    rfl
  · rw [hreadiness,hfirst]
    intro row hrow
    rcases List.mem_cons.mp hrow with rfl | hrow
    · rfl
    · rw [List.mem_singleton.mp hrow]
      rfl
  · rw [hreadiness,hfirst]
    exact List.nodup_cons.mpr ⟨by simp [successorRow],List.nodup_singleton _⟩
  · rw [hreadiness,hfirst]
    intro id hsome
    unfold bootstrapPoints at hsome
    split_ifs at hsome with hid
    · rcases hid with rfl | rfl
      · exact List.mem_cons_self
      · exact List.mem_cons_of_mem _ List.mem_cons_self
    · cases hsome

theorem call_logged (h : Unborn w ∨ ∃ authority known, Logged w.db authority known) (c : Call) :
    Unborn (call s w c) ∨ ∃ authority known, Logged (call s w c).db authority known := by
  have hcases := call_cases (s := s) (w := w) c
  generalize call s w c = w' at hcases
  cases hcases with
  | bootstrapped _ hallowed hdone =>
    cases hdone with
    | written _ _ => exact h
    | committed _ _ _ hrows => exact .inr (bootstrap_logged hallowed.2.2.2 hrows)
  | recovered _ r hrows => exact .inr (bootstrap_logged r.empty hrows)
  | mutated hrequest hdone =>
    cases hdone with
    | refused _ _ => exact h
    | done p heffect =>
      rcases h with hunborn | ⟨authority,known,hlogged⟩
      · have hauthority := p.agreed.authority
        rw [hunborn] at hauthority
        cases hauthority
      · exact .inr (effect_logged hrequest hlogged heffect)
  | _ => exact h

/-- In every run, whichever writes fail, the log has one row for each generation up to the authority's, it is a legal
history from the bootstrap, and replaying it gives the readiness rows; and a binding is of the last row of the log. -/
theorem log_replays (s : Service) (calls : List Call) :
    Unborn (run (call s) World.initial calls) ∨
      ∃ authority known, Logged (run (call s) World.initial calls).db authority known ∧
        ∀ component policy b, requireReady s (run (call s) World.initial calls) component policy = some b →
          b.globalSafetyGeneration = authority.globalSafetyGeneration ∧ b.envelopeDigest = authority.envelopeDigest ∧
            ∃ row ∈ (run (call s) World.initial calls).db.readiness, row.active = true ∧ row.snapshot = policy ∧
              known row.id = some ⟨.ready,b.familyStateVersion,b.familySafetyGeneration⟩ := by
  have hlog : Unborn (run (call s) World.initial calls) ∨
      ∃ authority known, Logged (run (call s) World.initial calls).db authority known :=
    run_invariant (P := fun w => Unborn w ∨ ∃ authority known, Logged w.db authority known)
      (fun _ c h => call_logged h c) (.inl (show Unborn World.initial from rfl)) calls
  rcases hlog with hunborn | ⟨authority,known,hlogged⟩
  · exact .inl hunborn
  · refine .inr ⟨authority,known,hlogged,fun component policy b hb => ?_⟩
    obtain ⟨latch,family,hagreed,hactive,hready,hidentity,-,⟨row,hrow,hrowActive,hpolicy⟩,hgeneration,hdigest,hversion,
      hfamily⟩ := requireReady_eq_some hb
    obtain ⟨authority',hmatched⟩ := hagreed.matched
    obtain rfl := Option.some.inj (hlogged.found.symm.trans hmatched.found)
    refine ⟨hgeneration.trans hmatched.generation.symm,hdigest.trans hmatched.digest.symm,row,hrow,hrowActive,hpolicy,?_⟩
    have hcomponent : row.snapshot.identity.component = component := by
      rw [hpolicy,← hidentity,(activeRecord_mem hactive).2]
      exact latch.valid.body.component component
    rw [hlogged.points row hrow,hmatched.point hrow hrowActive hcomponent hactive,hversion,hfamily]
    unfold FamilyRecord.point
    rw [hready]

end logged

end ParaWorks.ProviderSafety
