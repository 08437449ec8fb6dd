import ParaWorks.Knowledge.Eligibility
import ParaWorks.Sources.Agreement

/-!
# Serving never broadens access

What the two eligibility answers read of a target and its links, and that the answer of serving
envelopes narrows the one of C.5 reads.
-/

namespace ParaWorks.Knowledge

open Lib Sources Rollout

variable {letters : CaseMap} {db : KnowledgeTables}

/-! ## What makes a link live -/

/-- The target is there, approved, of a known permission and without a tombstone. -/
def TargetOpen (db : KnowledgeTables) (knowledgeType : Text) (knowledgeId : Nat) : Prop :=
  ∃ type target, knowledgeModelForType knowledgeType = some type ∧ db.target type knowledgeId = some target ∧
    target.reviewStatus = .approved ∧ permissionRank target.permissionLevel ≠ none ∧
      db.tombstoned (canonicalKnowledgeDocumentId knowledgeType knowledgeId) = false

/-- The item behind the link is approved the way the link says. -/
structure Owned (db : KnowledgeTables) (link : TrustedKnowledgeApprovalLink) (item : ReviewItem) : Prop where
  found : db.item link.reviewItemId = some item
  approved : item.status = .approved
  resolved : item.resolutionSource = some link.resolutionSource
  linkKnown : permissionRank link.permissionLevel ≠ none
  itemKnown : permissionRank item.permissionLevel ≠ none

/-- What the item, the evidence and the audits say of a link, its target and its flag aside. -/
def Supported (letters : CaseMap) (db : KnowledgeTables) (link : TrustedKnowledgeApprovalLink) : Prop :=
  ∃ item, Owned db link item ∧ (db.currentEvidence letters link).valid = true ∧
    (link.resolutionSource = text "human" ∧ item.candidateContractVersion = some (text "c5-v1") ∨
      link.resolutionSource = text "auto_policy" ∧ db.isQuarantined item.id = false ∧
        db.validationComplete item = true ∧ supportedPermissions (db.currentEvidence letters link) = true)

theorem targetOpen_iff {knowledgeType : Text} {knowledgeId : Nat} {type : KnowledgeType} {target : Target}
    (hm : knowledgeModelForType knowledgeType = some type) (ht : db.target type knowledgeId = some target) :
    TargetOpen db knowledgeType knowledgeId ↔ target.reviewStatus = .approved ∧
      permissionRank target.permissionLevel ≠ none ∧
        db.tombstoned (canonicalKnowledgeDocumentId knowledgeType knowledgeId) = false := by
  constructor
  · rintro ⟨type',target',hm',ht',hopen⟩
    obtain rfl := Option.some.inj (hm.symm.trans hm')
    obtain rfl := Option.some.inj (ht.symm.trans ht')
    exact hopen
  · intro hopen
    exact ⟨type,target,hm,ht,hopen⟩

theorem owned_iff {link : TrustedKnowledgeApprovalLink} {item : ReviewItem}
    (hi : db.item link.reviewItemId = some item) {item' : ReviewItem} :
    Owned db link item' ↔ item' = item ∧ item.status = .approved ∧
      item.resolutionSource = some link.resolutionSource ∧ permissionRank link.permissionLevel ≠ none ∧
        permissionRank item.permissionLevel ≠ none := by
  constructor
  · intro h
    obtain rfl := Option.some.inj (hi.symm.trans h.found)
    exact ⟨rfl,h.approved,h.resolved,h.linkKnown,h.itemKnown⟩
  · rintro ⟨rfl,happroved,hresolved,hlink,hitem⟩
    exact ⟨hi,happroved,hresolved,hlink,hitem⟩

theorem approvalLinkIsLive_iff {link : TrustedKnowledgeApprovalLink} (h : link ∈ db.links) :
    db.approvalLinkIsLive letters link.id = true ↔
      link.active = true ∧ TargetOpen db link.knowledgeType link.knowledgeId ∧ Supported letters db link := by
  have hne : text "human" ≠ text "auto_policy" := by decide
  unfold KnowledgeTables.approvalLinkIsLive Supported
  simp only [db.link_of_mem h]
  cases hm : knowledgeModelForType link.knowledgeType with
  | none => simp [TargetOpen,hm]
  | some type =>
    cases ht : db.target type link.knowledgeId with
    | none => simp [TargetOpen,hm,ht]
    | some target =>
      cases hi : db.item link.reviewItemId with
      | none =>
        have hno : ∀ item, ¬Owned db link item := fun item ho => by cases hi.symm.trans ho.found
        simp [hno]
      | some item =>
        simp only [targetOpen_iff hm ht,owned_iff hi,and_assoc,exists_eq_left]
        split_ifs <;> simp_all <;> grind

/-! ## The permissions that count -/

/-- The source an evidence link names. -/
def KnowledgeTables.evidenceSource (db : KnowledgeTables) (child : TrustedKnowledgeEvidenceLink) : Option Source :=
  (parseInt child.canonicalSourceId).bind db.sourceByKey

section evidence

variable {children : List TrustedKnowledgeEvidenceLink} {permissions : List Text}

/-- Valid evidence has gathered the permission of every source it names. -/
theorem currentEvidenceFrom_valid (h : (db.currentEvidenceFrom letters children permissions).valid = true) :
    permissions ⊆ (db.currentEvidenceFrom letters children permissions).permissionLevels ∧
      ∀ child ∈ children, ∀ source, db.evidenceSource child = some source →
        source.permissionLevel ∈ (db.currentEvidenceFrom letters children permissions).permissionLevels := by
  induction children generalizing permissions with
  | nil => simp [KnowledgeTables.currentEvidenceFrom]
  | cons child children ih =>
    rw [KnowledgeTables.currentEvidenceFrom] at h ⊢
    cases hkey : parseInt child.canonicalSourceId with
    | none => simp [hkey] at h
    | some key =>
      cases hsource : db.sourceByKey key with
      | none => simp [hkey,hsource] at h
      | some source =>
        simp only [hkey,hsource] at h ⊢
        split at h
        · cases h
        next hrank =>
          split at h
          · cases h
          next hcurrent =>
            rw [if_neg hrank,if_neg hcurrent]
            obtain ⟨hsub,hrest⟩ := ih h
            refine ⟨fun p hp => hsub (List.mem_append_left _ hp),?_⟩
            intro child' hchild' source' hsource'
            rcases List.mem_cons.mp hchild' with rfl | hchild'
            · rw [KnowledgeTables.evidenceSource,hkey,Option.bind_some,hsource] at hsource'
              obtain rfl := Option.some.inj hsource'
              exact hsub (by simp)
            · exact hrest child' hchild' source' hsource'

end evidence

section links

variable {link : TrustedKnowledgeApprovalLink} {item : ReviewItem}

theorem currentEvidence_valid (h : (db.currentEvidence letters link).valid = true) :
    ∀ child ∈ db.childrenOf link, ∀ source, db.evidenceSource child = some source →
      source.permissionLevel ∈ (db.currentEvidence letters link).permissionLevels := by
  unfold KnowledgeTables.currentEvidence at h ⊢
  split at h
  · cases h
  · exact (currentEvidenceFrom_valid h).2

/-- What a link adds to the permissions: nothing unless an item owns it. -/
def linkPermissions (letters : CaseMap) (db : KnowledgeTables) (link : TrustedKnowledgeApprovalLink) : List Text :=
  match db.item link.reviewItemId with
  | none => []
  | some item =>
    if item.status ≠ .approved ∨ item.resolutionSource ≠ some link.resolutionSource ∨
        permissionRank link.permissionLevel = none ∨ permissionRank item.permissionLevel = none then []
    else [link.permissionLevel,item.permissionLevel]++(db.currentEvidence letters link).permissionLevels

theorem linkPermissions_owned (h : Owned db link item) : linkPermissions letters db link =
    [link.permissionLevel,item.permissionLevel]++(db.currentEvidence letters link).permissionLevels := by
  rw [linkPermissions,h.found]
  apply if_neg
  simp [h.approved,h.resolved,h.linkKnown,h.itemKnown]

theorem tallyLink_levels (tally : LinkTally) : (db.tallyLink letters tally link).permissionLevels =
    tally.permissionLevels++linkPermissions letters db link := by
  unfold KnowledgeTables.tallyLink linkPermissions
  cases db.item link.reviewItemId with
  | none =>
    dsimp only
    split <;> simp
  | some item =>
    dsimp only
    split_ifs <;> simp

theorem foldl_tallyLink_levels (links : List TrustedKnowledgeApprovalLink) (tally : LinkTally) :
    (links.foldl (db.tallyLink letters) tally).permissionLevels =
      tally.permissionLevels++links.flatMap (linkPermissions letters db) := by
  induction links generalizing tally with
  | nil => simp
  | cons link links ih => rw [List.foldl_cons,ih,tallyLink_levels,List.flatMap_cons,List.append_assoc]

end links

/-! ## The two answers -/

section answers

variable {knowledgeType : Text} {knowledgeId : Nat}

/-- The permissions that count on a target without a legacy base. -/
def countedPermissions (letters : CaseMap) (db : KnowledgeTables) (target : Target) (knowledgeType : Text)
    (knowledgeId : Nat) : List Text :=
  target.permissionLevel::(db.activeLinks knowledgeType knowledgeId).flatMap (linkPermissions letters db)

theorem legacyHumanEligibility_eligible {target : Target} (h : (db.legacyHumanEligibility target).eligible = true) :
    (db.legacyHumanEligibility target).effectivePermission = some target.permissionLevel := by
  unfold KnowledgeTables.legacyHumanEligibility at h ⊢
  split at h
  · rfl
  split at h
  · next hlegacy => rw [if_pos hlegacy]
  · cases h

/-- The target behind an eligible answer and the strictest permission that counts. -/
theorem forKnowledgeExact_eligible {answer : TrustedServingEligibility}
    (h : db.forKnowledgeExact letters knowledgeType knowledgeId = some answer) (he : answer.eligible = true) :
    TargetOpen db knowledgeType knowledgeId ∧ ∃ type target p, knowledgeModelForType knowledgeType = some type ∧
      db.target type knowledgeId = some target ∧ answer.effectivePermission = some p ∧
        strictestPermission (countedPermissions letters db target knowledgeType knowledgeId) = some p := by
  unfold KnowledgeTables.forKnowledgeExact at h
  simp only [knowledgeModelForType_canonical,KnowledgeTables.activeLinks_canonical,canonicalKnowledgeDocumentId_canonical] at h
  cases hm : knowledgeModelForType knowledgeType with
  | none => simp [hm] at h
  | some type =>
    cases ht : db.target type knowledgeId with
    | none =>
      simp only [hm,ht,Option.some.injEq] at h
      rw [← h] at he
      cases he
    | some target =>
      simp only [hm,ht] at h
      split at h
      · obtain rfl := Option.some.inj h
        cases he
      next hopen =>
        push Not at hopen
        obtain ⟨happroved,hknown,htomb⟩ := hopen
        refine ⟨⟨type,target,hm,ht,happroved,hknown,Bool.eq_false_iff.mpr htomb⟩,type,target,?_⟩
        unfold countedPermissions
        split at h
        next hnil =>
          obtain rfl := Option.some.inj h
          have hone : ∀ q ∈ [target.permissionLevel], permissionRank q ≠ none := by simpa
          obtain ⟨p,hp⟩ := strictestPermission_isSome (List.cons_ne_nil _ _) hone
          obtain rfl := List.mem_singleton.mp (strictestPermission_spec hp).1
          exact ⟨target.permissionLevel,rfl,ht,legacyHumanEligibility_eligible he,by rw [hnil]; exact hp⟩
        next hlinks =>
          split at h
          · cases h
          split at h
          · obtain ⟨p,hp,rfl⟩ := Option.map_eq_some_iff.mp h
            rw [foldl_tallyLink_levels] at hp
            exact ⟨p,rfl,ht,rfl,hp⟩
          · obtain rfl := Option.some.inj h
            cases he

/-- What `_for_knowledge` answers on an open target with active links. -/
theorem forKnowledgeExact_links {type : KnowledgeType} {target : Target} {links : List TrustedKnowledgeApprovalLink}
    {legacyBase : Bool} (hm : knowledgeModelForType knowledgeType = some type)
    (ht : db.target type knowledgeId = some target) (hopen : TargetOpen db knowledgeType knowledgeId)
    (hlinks : db.activeLinks knowledgeType knowledgeId = links) (hne : links ≠ [])
    (hbase : db.hasLegacyHumanBase knowledgeType knowledgeId = some legacyBase) {tally : LinkTally}
    (htally : links.foldl (db.tallyLink letters) ⟨[target.permissionLevel],legacyBase,[]⟩ = tally) :
    db.forKnowledgeExact letters knowledgeType knowledgeId =
      if tally.validHuman = true ∨ tally.autoResults ≠ [] ∧ tally.autoResults.all id = true then
        (strictestPermission tally.permissionLevels).map fun p => ⟨true,some p⟩
      else some ineligible := by
  obtain ⟨happroved,hknown,htomb⟩ := (targetOpen_iff hm ht).mp hopen
  unfold KnowledgeTables.forKnowledgeExact
  simp only [knowledgeModelForType_canonical,KnowledgeTables.activeLinks_canonical,
    canonicalKnowledgeDocumentId_canonical,hm,ht,hlinks,hbase,htally]
  rw [if_neg (by simp [happroved,hknown,htomb])]

/-- The envelope of a target with links and without legacy base. -/
theorem forServingEnvelopeExact_links {type : KnowledgeType} {target : Target} {p : Option Text} {links : List TrustedKnowledgeApprovalLink}
    {permissions : List Text} (hm : knowledgeModelForType (canonicalKnowledgeType knowledgeType) = some type)
    (ht : db.target type knowledgeId = some target)
    (hserved : db.forKnowledgeExact letters (canonicalKnowledgeType knowledgeType) knowledgeId = some ⟨true,p⟩)
    (hlegacy : db.hasLegacyHumanBase (canonicalKnowledgeType knowledgeType) knowledgeId = some false)
    (hlinks : db.activeLinks (canonicalKnowledgeType knowledgeType) knowledgeId = links) (hne : links ≠ [])
    (hpermissions : db.envelopePermissions letters links [target.permissionLevel] = some permissions) :
    db.forServingEnvelopeExact letters knowledgeType knowledgeId = strictestPermission permissions := by
  obtain ⟨link,rest,rfl⟩ := List.exists_cons_of_ne_nil hne
  unfold KnowledgeTables.forServingEnvelopeExact
  cases hnamed : target.sourceReviewItemId <;> simp [hm,hserved,ht,hlegacy,hlinks,hpermissions,hnamed]

theorem forKnowledge_eligible (h : (db.forKnowledge letters knowledgeType knowledgeId).eligible = true) :
    db.forKnowledgeExact letters knowledgeType knowledgeId =
      some (db.forKnowledge letters knowledgeType knowledgeId) := by
  unfold KnowledgeTables.forKnowledge at h ⊢
  cases hexact : db.forKnowledgeExact letters knowledgeType knowledgeId with
  | none => simp [hexact,ineligible] at h
  | some answer => rfl

/-- The loop of the envelope gathers the permissions that count, of links that are all live. -/
theorem envelopePermissions_spec {links : List TrustedKnowledgeApprovalLink} {permissions gathered : List Text}
    (hlinks : ∀ link ∈ links, link ∈ db.links)
    (h : db.envelopePermissions letters links permissions = some gathered) :
    (∀ link ∈ links, db.approvalLinkIsLive letters link.id = true) ∧
      gathered = permissions++links.flatMap (linkPermissions letters db) := by
  induction links generalizing permissions with
  | nil =>
    obtain rfl := Option.some.inj h
    simp
  | cons link links ih =>
    rw [List.forall_mem_cons] at hlinks
    rw [KnowledgeTables.envelopePermissions] at h
    split at h
    · cases h
    next hlive =>
      rw [Bool.not_eq_false] at hlive
      obtain ⟨-,-,item,howned,-⟩ := (approvalLinkIsLive_iff hlinks.1).mp hlive
      rw [howned.found] at h
      dsimp only at h
      split at h
      · cases h
      obtain ⟨hrest,rfl⟩ := ih hlinks.2 h
      rw [List.forall_mem_cons,List.flatMap_cons,linkPermissions_owned howned]
      exact ⟨⟨hlive,hrest⟩,by simp⟩

/-- The permission of the legacy item, where there is a legacy base, joins those that count. -/
theorem forServingEnvelopeExact_spec {p : Text}
    (h : db.forServingEnvelopeExact letters knowledgeType knowledgeId = some p) :
    (∃ base, db.forKnowledgeExact letters (canonicalKnowledgeType knowledgeType) knowledgeId = some base ∧
      base.eligible = true) ∧
    (∀ link ∈ db.activeLinks knowledgeType knowledgeId, db.approvalLinkIsLive letters link.id = true) ∧
    ∃ type target legacy, knowledgeModelForType knowledgeType = some type ∧ db.target type knowledgeId = some target ∧
      strictestPermission (countedPermissions letters db target knowledgeType knowledgeId++legacy) = some p := by
  unfold KnowledgeTables.forServingEnvelopeExact at h
  simp only [knowledgeModelForType_canonical,KnowledgeTables.activeLinks_canonical,Option.bind_eq_bind,Option.bind_eq_some_iff,
    Option.guard_eq_some'] at h
  obtain ⟨type,hm,base,hbase,target,ht,-,heligible,legacyBase,hlegacy,h⟩ := h
  refine ⟨⟨base,hbase,heligible⟩,?_⟩
  have hmem : ∀ link ∈ db.activeLinks knowledgeType knowledgeId, link ∈ db.links :=
    fun link hlink => (KnowledgeTables.mem_activeLinks.mp hlink).1
  unfold countedPermissions
  split at h
  next hnil =>
    obtain ⟨itemId,-,h⟩ := Option.bind_eq_some_iff.mp h
    obtain ⟨-,-,h⟩ := Option.bind_eq_some_iff.mp h
    obtain ⟨legacyPermission,-,h⟩ := Option.bind_eq_some_iff.mp h
    rw [hnil]
    exact ⟨by simp,type,target,[legacyPermission],hm,ht,h⟩
  next =>
    obtain ⟨permissions,hpermissions,h⟩ := Option.bind_eq_some_iff.mp h
    obtain ⟨hlive,rfl⟩ := envelopePermissions_spec hmem hpermissions
    refine ⟨hlive,type,target,?_⟩
    split at h
    · exact ⟨[],hm,ht,by simpa using h⟩
    split at h
    · obtain ⟨legacyPermission,-,h⟩ := Option.bind_eq_some_iff.mp h
      exact ⟨[legacyPermission],hm,ht,by simpa using h⟩
    · exact ⟨[],hm,ht,by simpa using h⟩

theorem forServingEnvelope_eligible
    (h : (db.forServingEnvelope letters knowledgeType knowledgeId).eligible = true) :
    ∃ p, (db.forServingEnvelope letters knowledgeType knowledgeId).effectivePermission = some p ∧
      db.forServingEnvelopeExact letters knowledgeType knowledgeId = some p := by
  unfold KnowledgeTables.forServingEnvelope at h ⊢
  split at h
  · cases h
  next p hp => exact ⟨p,rfl,hp⟩

/-! ## Withdrawn support -/

/-- No human link of the target is active, and every automatic one stands on a quarantined item. -/
def Withdrawn (db : KnowledgeTables) (knowledgeType : Text) (knowledgeId : Nat) : Prop :=
  ∀ link ∈ db.activeLinks knowledgeType knowledgeId, link.resolutionSource ≠ text "human" ∧
    (link.resolutionSource = text "auto_policy" → db.isQuarantined link.reviewItemId = true)

theorem tallyLink_withdrawn (letters : CaseMap) {link : TrustedKnowledgeApprovalLink} {tally : LinkTally}
    (hhuman : link.resolutionSource ≠ text "human")
    (hauto : link.resolutionSource = text "auto_policy" → db.isQuarantined link.reviewItemId = true)
    (hresults : ∀ b ∈ tally.autoResults, b = false) :
    (db.tallyLink letters tally link).validHuman = tally.validHuman ∧
      ∀ b ∈ (db.tallyLink letters tally link).autoResults, b = false := by
  have happend : ∀ b ∈ tally.autoResults++[false], b = false := by
    simpa [or_imp,forall_and] using hresults
  unfold KnowledgeTables.tallyLink
  cases hi : db.item link.reviewItemId with
  | none =>
    dsimp only
    split
    · exact ⟨rfl,happend⟩
    · exact ⟨rfl,hresults⟩
  | some item =>
    have hid : item.id = link.reviewItemId := by simpa using (find?_spec hi).2
    dsimp only
    rw [if_neg hhuman]
    split
    · split
      · exact ⟨rfl,happend⟩
      · exact ⟨rfl,hresults⟩
    split
    · exact ⟨rfl,happend⟩
    next hsource =>
      rw [if_pos (by rw [hid]; exact hauto (not_not.mp hsource))]
      exact ⟨rfl,hresults⟩

theorem foldl_tallyLink_withdrawn (letters : CaseMap) {links : List TrustedKnowledgeApprovalLink} {tally : LinkTally}
    (hlinks : ∀ link ∈ links, link.resolutionSource ≠ text "human" ∧
      (link.resolutionSource = text "auto_policy" → db.isQuarantined link.reviewItemId = true))
    (hresults : ∀ b ∈ tally.autoResults, b = false) :
    (links.foldl (db.tallyLink letters) tally).validHuman = tally.validHuman ∧
      ∀ b ∈ (links.foldl (db.tallyLink letters) tally).autoResults, b = false := by
  induction links generalizing tally with
  | nil => exact ⟨rfl,hresults⟩
  | cons link links ih =>
    rw [List.forall_mem_cons] at hlinks
    obtain ⟨hhuman,hresults'⟩ := tallyLink_withdrawn letters hlinks.1.1 hlinks.1.2 hresults
    rw [List.foldl_cons,← hhuman]
    exact ih hlinks.2 hresults'

theorem hasLegacyHumanBase_canonical {type : KnowledgeType} {target : Target}
    (hm : knowledgeModelForType knowledgeType = some type) (ht : db.target type knowledgeId = some target) :
    db.hasLegacyHumanBase (canonicalKnowledgeType knowledgeType) knowledgeId =
      some ((target.sourceReviewItemId.bind db.item).any (·.isLegacyHuman)) := by
  rw [KnowledgeTables.hasLegacyHumanBase,show modelForType (canonicalKnowledgeType knowledgeType) = some type from hm,
    Option.map_some,ht,Option.bind_some]

/-- A legacy base under a type's own name is one under its canonical name. -/
theorem hasLegacyHumanBase_eq_some {legacyBase : Bool}
    (h : db.hasLegacyHumanBase knowledgeType knowledgeId = some legacyBase) :
    db.hasLegacyHumanBase (canonicalKnowledgeType knowledgeType) knowledgeId = some legacyBase := by
  obtain ⟨type,hm,-⟩ := Option.map_eq_some_iff.mp h
  rwa [canonicalKnowledgeType_of_model hm]

/-- Without a legacy base, a target that names its review item is not served once its support is withdrawn. -/
theorem forKnowledge_withdrawn (letters : CaseMap) {type : KnowledgeType} {target : Target}
    (hm : knowledgeModelForType knowledgeType = some type) (ht : db.target type knowledgeId = some target)
    (hnamed : target.sourceReviewItemId ≠ none)
    (hlegacy : db.hasLegacyHumanBase (canonicalKnowledgeType knowledgeType) knowledgeId = some false)
    (hwithdrawn : Withdrawn db knowledgeType knowledgeId) :
    (db.forKnowledge letters knowledgeType knowledgeId).eligible = false := by
  unfold KnowledgeTables.forKnowledge KnowledgeTables.forKnowledgeExact
  simp only [knowledgeModelForType_canonical,KnowledgeTables.activeLinks_canonical,hm,ht]
  split
  · rfl
  split
  · obtain ⟨itemId,hitem⟩ := Option.ne_none_iff_exists'.mp hnamed
    rw [hasLegacyHumanBase_canonical hm ht,hitem,Option.bind_some] at hlegacy
    rw [Option.getD_some,KnowledgeTables.legacyHumanEligibility,hitem]
    dsimp only
    rw [Option.some.inj hlegacy]
    rfl
  split
  · rfl
  next legacyBase hbase =>
    obtain rfl := Option.some.inj (hlegacy.symm.trans (hasLegacyHumanBase_eq_some hbase))
    have hempty : ∀ b ∈ (⟨[target.permissionLevel],false,[]⟩ : LinkTally).autoResults, b = false := by simp
    obtain ⟨hhuman,hresults⟩ := foldl_tallyLink_withdrawn letters hwithdrawn hempty
    split
    · next htrue =>
      rw [hhuman] at htrue
      obtain ⟨hne,hall⟩ := htrue.resolve_left (by simp)
      obtain ⟨b,hb⟩ := List.exists_mem_of_ne_nil _ hne
      have hb' : b = true := List.all_eq_true.mp hall b hb
      cases (hresults b hb).symm.trans hb'
    · rfl

/-! ## Serving never broadens access -/

/-- The permission is at least as strict as those of the link, its item and the sources of its evidence. -/
def NarrowsLink (db : KnowledgeTables) (p : Text) (link : TrustedKnowledgeApprovalLink) (item : ReviewItem) : Prop :=
  AtLeastAsStrict p link.permissionLevel ∧ AtLeastAsStrict p item.permissionLevel ∧
    ∀ child ∈ db.childrenOf link, ∀ source, db.evidenceSource child = some source →
      AtLeastAsStrict p source.permissionLevel

theorem narrows_of_counted {target : Target} {levels : List Text} {p : Text}
    (h : strictestPermission levels = some p)
    (hsub : countedPermissions letters db target knowledgeType knowledgeId ⊆ levels) :
    AtLeastAsStrict p target.permissionLevel ∧
      ∀ link ∈ db.activeLinks knowledgeType knowledgeId, ∀ item, Owned db link item →
        (db.currentEvidence letters link).valid = true → NarrowsLink db p link item := by
  have hstrict := (strictestPermission_spec h).2
  refine ⟨hstrict _ (hsub List.mem_cons_self),fun link hlink item howned hvalid => ?_⟩
  have hlevels : ∀ q ∈ linkPermissions letters db link, AtLeastAsStrict p q := fun q hq =>
    hstrict q (hsub (List.mem_cons_of_mem _ (List.mem_flatMap.mpr ⟨link,hlink,hq⟩)))
  rw [linkPermissions_owned howned] at hlevels
  refine ⟨hlevels _ (by simp),hlevels _ (by simp),fun child hchild source hsource => ?_⟩
  apply hlevels
  exact List.mem_append_right _ (currentEvidence_valid hvalid child hchild source hsource)

theorem forKnowledge_narrows {type : KnowledgeType} {target : Target}
    (hm : knowledgeModelForType knowledgeType = some type) (ht : db.target type knowledgeId = some target)
    (h : (db.forKnowledge letters knowledgeType knowledgeId).eligible = true) :
    ∃ p, (db.forKnowledge letters knowledgeType knowledgeId).effectivePermission = some p ∧
      AtLeastAsStrict p target.permissionLevel ∧
      ∀ link ∈ db.activeLinks knowledgeType knowledgeId, ∀ item, Owned db link item →
        (db.currentEvidence letters link).valid = true → NarrowsLink db p link item := by
  obtain ⟨-,type',target',p,hm',ht',hp,hcounted⟩ := forKnowledgeExact_eligible (forKnowledge_eligible h) h
  obtain rfl := Option.some.inj (hm.symm.trans hm')
  obtain rfl := Option.some.inj (ht.symm.trans ht')
  exact ⟨p,hp,narrows_of_counted hcounted (List.Subset.refl _)⟩

/-- An eligible envelope: every active link is live and the C.5 answer is eligible on no stricter permission. -/
theorem forServingEnvelope_narrows (h : (db.forServingEnvelope letters knowledgeType knowledgeId).eligible = true) :
    (db.forKnowledge letters (canonicalKnowledgeType knowledgeType) knowledgeId).eligible = true ∧
      (∀ link ∈ db.activeLinks knowledgeType knowledgeId, db.approvalLinkIsLive letters link.id = true) ∧
      ∃ p q, (db.forServingEnvelope letters knowledgeType knowledgeId).effectivePermission = some p ∧
        (db.forKnowledge letters (canonicalKnowledgeType knowledgeType) knowledgeId).effectivePermission = some q ∧
        AtLeastAsStrict p q := by
  obtain ⟨p,hp,hexact⟩ := forServingEnvelope_eligible h
  obtain ⟨⟨base,hbase,heligible⟩,hlive,type,target,legacy,hm,ht,hcounted⟩ := forServingEnvelopeExact_spec hexact
  have hserved : db.forKnowledge letters (canonicalKnowledgeType knowledgeType) knowledgeId = base := by
    rw [KnowledgeTables.forKnowledge,hbase,Option.getD_some]
  obtain ⟨-,type',target',q,hm',ht',hq,hcounted'⟩ := forKnowledgeExact_eligible hbase heligible
  rw [knowledgeModelForType_canonical] at hm'
  obtain rfl := Option.some.inj (hm.symm.trans hm')
  obtain rfl := Option.some.inj (ht.symm.trans ht')
  rw [countedPermissions,KnowledgeTables.activeLinks_canonical] at hcounted'
  rw [hserved]
  exact ⟨heligible,hlive,p,q,hp,hq,strictestPermission_mono (List.subset_append_left _ _) hcounted' hcounted⟩

/-- An item behind a live link that is approved owns the link. -/
theorem owned_of_live {link : TrustedKnowledgeApprovalLink} {item : ReviewItem} (hlink : link ∈ db.links)
    (hlive : db.approvalLinkIsLive letters link.id = true) (hitem : db.item link.reviewItemId = some item) :
    Owned db link item := by
  obtain ⟨-,-,item',howned,-⟩ := (approvalLinkIsLive_iff hlink).mp hlive
  obtain rfl := Option.some.inj (hitem.symm.trans howned.found)
  exact howned

theorem forServingEnvelope_narrowsLinks {type : KnowledgeType} {target : Target}
    (hm : knowledgeModelForType knowledgeType = some type) (ht : db.target type knowledgeId = some target)
    (h : (db.forServingEnvelope letters knowledgeType knowledgeId).eligible = true) :
    ∃ p, (db.forServingEnvelope letters knowledgeType knowledgeId).effectivePermission = some p ∧
      AtLeastAsStrict p target.permissionLevel ∧
      ∀ link ∈ db.activeLinks knowledgeType knowledgeId, ∀ item, db.item link.reviewItemId = some item →
        (db.currentEvidence letters link).valid = true → NarrowsLink db p link item := by
  obtain ⟨p,hp,hexact⟩ := forServingEnvelope_eligible h
  obtain ⟨-,hlive,type',target',legacy,hm',ht',hcounted⟩ := forServingEnvelopeExact_spec hexact
  obtain rfl := Option.some.inj (hm.symm.trans hm')
  obtain rfl := Option.some.inj (ht.symm.trans ht')
  obtain ⟨htarget,hlinks⟩ := narrows_of_counted hcounted (List.subset_append_left _ _)
  refine ⟨p,hp,htarget,fun link hlink item hitem => ?_⟩
  have hmem := (KnowledgeTables.mem_activeLinks.mp hlink).1
  exact hlinks link hlink item (owned_of_live hmem (hlive link hlink) hitem)

/-- The envelope's answer implies the C.5 one, on a permission at least as strict and links that are all live; both
answers are at least as strict as the target and the links that count; and a target whose support is withdrawn has
neither. -/
theorem serving_never_broadens (letters : CaseMap) (db : KnowledgeTables) (knowledgeType : Text) (knowledgeId : Nat) :
    let served := db.forKnowledge letters knowledgeType knowledgeId
    let canonical := db.forKnowledge letters (canonicalKnowledgeType knowledgeType) knowledgeId
    let envelope := db.forServingEnvelope letters knowledgeType knowledgeId
    let links := db.activeLinks knowledgeType knowledgeId
    (envelope.eligible = true → canonical.eligible = true ∧
      (∀ link ∈ links, db.approvalLinkIsLive letters link.id = true) ∧
      ∃ p q, envelope.effectivePermission = some p ∧ canonical.effectivePermission = some q ∧ AtLeastAsStrict p q) ∧
    ∀ type target, knowledgeModelForType knowledgeType = some type → db.target type knowledgeId = some target →
      (served.eligible = true → ∃ p, served.effectivePermission = some p ∧ AtLeastAsStrict p target.permissionLevel ∧
        ∀ link ∈ links, ∀ item, Owned db link item → (db.currentEvidence letters link).valid = true →
          NarrowsLink db p link item) ∧
      (envelope.eligible = true → ∃ p, envelope.effectivePermission = some p ∧
        AtLeastAsStrict p target.permissionLevel ∧
        ∀ link ∈ links, ∀ item, db.item link.reviewItemId = some item →
          (db.currentEvidence letters link).valid = true → NarrowsLink db p link item) ∧
      (target.sourceReviewItemId ≠ none →
        db.hasLegacyHumanBase (canonicalKnowledgeType knowledgeType) knowledgeId = some false →
        Withdrawn db knowledgeType knowledgeId → served.eligible = false ∧ envelope.eligible = false) := by
  refine ⟨forServingEnvelope_narrows,fun type target hm ht => ?_⟩
  refine ⟨forKnowledge_narrows hm ht,forServingEnvelope_narrowsLinks hm ht,fun hnamed hlegacy hwithdrawn => ?_⟩
  refine ⟨forKnowledge_withdrawn letters hm ht hnamed hlegacy hwithdrawn,?_⟩
  by_contra henvelope
  have hserved := (forServingEnvelope_narrows (Bool.not_eq_false _ ▸ henvelope)).1
  have hwithdrawn' : Withdrawn db (canonicalKnowledgeType knowledgeType) knowledgeId := by
    simpa [Withdrawn] using hwithdrawn
  have hrefused := forKnowledge_withdrawn letters ((knowledgeModelForType_canonical knowledgeType).trans hm) ht hnamed
    (by rwa [canonicalKnowledgeType_idem]) hwithdrawn'
  cases hserved.symm.trans hrefused

end answers

/-! ## Three targets of one source -/

/-- The links of `sampleKnowledge` and the items behind them. -/
def sampleItem (id : Nat) (resolutionSource : Option Text) (permissionLevel : Text) : ReviewItem :=
  ⟨⟨id,.approved,permissionLevel,resolutionSource,none⟩,text "history_event",[],[],[],none,none,some (text "c5-v1"),none,
    if resolutionSource = some (text "auto_policy") then some 1 else none,none,none⟩

def sampleTarget (fields : TargetFields) : Target := ⟨fields,1,none,text "title",[],[],text "internal",.approved,some 1⟩

def sampleLink (id : Nat) (knowledgeType : Text) (reviewItemId : Nat) (resolutionSource permissionLevel : Text)
    (active : Bool) : TrustedKnowledgeApprovalLink :=
  ⟨id,knowledgeType,1,reviewItemId,text "scope",text "primary",resolutionSource,sampleSignature,permissionLevel,
    text "key",sampleSignature,active⟩

def sampleChild (linkId : Nat) : TrustedKnowledgeEvidenceLink :=
  ⟨linkId,linkId,text "gmail",text "1",sampleSignature,sampleSignature,text "key",sampleSignature⟩

/-- A decision with a human link; a history event with one more, whose item names no resolution; and a timeline event
whose human link was deactivated beside an automatic one. -/
def sampleKnowledge : KnowledgeTables where
  sources := sampleTables (text "gmail") (text "message/rfc822") (some 1)
  rollout := .empty
  items := [sampleItem 1 (some (text "human")) (text "internal"),sampleItem 2 none (text "restricted"),
    sampleItem 3 (some (text "auto_policy")) (text "internal")]
  validations := [⟨1,3,.completed,some .autoApprove⟩]
  targets := [sampleTarget (.decisionRecord []),sampleTarget (.historyEvent []),sampleTarget (.timelineEvent [])]
  links := [sampleLink 1 (text "decision_record") 1 (text "human") (text "internal") true,
    sampleLink 2 (text "history_event") 1 (text "human") (text "internal") true,
    sampleLink 3 (text "history_event") 2 (text "human") (text "restricted") true,
    sampleLink 4 (text "timeline_event") 1 (text "human") (text "internal") false,
    sampleLink 5 (text "timeline_event") 3 (text "auto_policy") (text "internal") true]
  evidenceLinks := [sampleChild 1,sampleChild 2,sampleChild 3,sampleChild 4,sampleChild 5]
  tombstones := []
  indexStates := []
  fingerprints := []
  projection := none
  linkIds := by decide

theorem sampleKnowledge_current : canonicalEvidenceVersionIsCurrent sampleLetters sampleKnowledge.sources
    (sampleSource (text "gmail")) sampleSignature = true := by
  rw [canonicalEvidenceVersionIsCurrent_iff (sample_shaped _) (.inl rfl)]
  have hexact : OtherwiseExact sampleLetters sampleKnowledge.sources (sampleSource (text "gmail")) sampleSignature :=
    sample_otherwise (by decide) (by decide) (.inr rfl)
  refine ⟨hexact,⟨Option.some_ne_none _,fun htype => absurd htype (by decide)⟩,?_⟩
  intro document _ version _ _ c hc
  rw [List.mem_singleton.mp (List.mem_of_mem_filter hc)]
  exact Option.some_ne_none _

section sample

variable {id reviewItemId : Nat} {knowledgeType resolutionSource permissionLevel : Text} {active : Bool}

theorem sampleKnowledge_children (hid : id ∈ [1,2,3,4,5]) :
    sampleKnowledge.childrenOf (sampleLink id knowledgeType reviewItemId resolutionSource permissionLevel active) =
      [sampleChild id] := by
  have hfilter : sampleKnowledge.evidenceLinks.filter (·.approvalLinkId = id) = [sampleChild id] := by
    simp only [List.mem_cons,List.not_mem_nil,or_false] at hid
    rcases hid with rfl | rfl | rfl | rfl | rfl <;> rfl
  change orderBy _ (sampleKnowledge.evidenceLinks.filter (·.approvalLinkId = id)) = _
  rw [hfilter]
  exact orderBy_of_sorted (List.pairwise_singleton _ _)

theorem sampleKnowledge_evidence (hid : id ∈ [1,2,3,4,5]) :
    sampleKnowledge.currentEvidence sampleLetters
      (sampleLink id knowledgeType reviewItemId resolutionSource permissionLevel active) =
        ⟨true,[text "internal"]⟩ := by
  have hparse : parseInt (sampleChild id).canonicalSourceId = some 1 := by
    change parseInt (text "1") = some 1
    decide
  have hsource : sampleKnowledge.sourceByKey 1 = some (sampleSource (text "gmail")) := rfl
  have hrank : permissionRank (sampleSource (text "gmail")).permissionLevel ≠ none := by decide
  have hkind : (sampleSource (text "gmail")).sourceType = (sampleChild id).canonicalSourceKind := rfl
  have hcurrent : canonicalEvidenceVersionIsCurrent sampleLetters sampleKnowledge.sources (sampleSource (text "gmail"))
      (sampleChild id).canonicalVersionOrSignature = true := sampleKnowledge_current
  rw [KnowledgeTables.currentEvidence,sampleKnowledge_children hid]
  simp only [KnowledgeTables.currentEvidenceFrom,hparse,hsource,hrank,hkind,hcurrent]
  rfl

end sample

/-- The active links of each target. -/
theorem sampleKnowledge_links :
    sampleKnowledge.activeLinks (text "decision_record") 1 =
      [sampleLink 1 (text "decision_record") 1 (text "human") (text "internal") true] ∧
    sampleKnowledge.activeLinks (text "history_event") 1 =
      [sampleLink 2 (text "history_event") 1 (text "human") (text "internal") true,
        sampleLink 3 (text "history_event") 2 (text "human") (text "restricted") true] ∧
    sampleKnowledge.activeLinks (text "timeline_event") 1 =
      [sampleLink 5 (text "timeline_event") 3 (text "auto_policy") (text "internal") true] := by
  refine ⟨?_,?_,?_⟩
  · exact orderBy_of_sorted (List.pairwise_singleton _ _)
  · exact orderBy_of_sorted (by decide)
  · exact orderBy_of_sorted (List.pairwise_singleton _ _)

/-- What `_for_knowledge` answers on a sample target. -/
theorem sampleKnowledge_served (type : KnowledgeType) {links : List TrustedKnowledgeApprovalLink} {tally : LinkTally}
    (htype : type ≠ .todo) (hlinks : sampleKnowledge.activeLinks type.name 1 = links) (hne : links ≠ [])
    (htally : links.foldl (sampleKnowledge.tallyLink sampleLetters) ⟨[text "internal"],false,[]⟩ = tally) :
    sampleKnowledge.forKnowledgeExact sampleLetters type.name 1 =
      if tally.validHuman = true ∨ tally.autoResults ≠ [] ∧ tally.autoResults.all id = true then
        (strictestPermission tally.permissionLevels).map fun p => ⟨true,some p⟩
      else some ineligible := by
  have hm : knowledgeModelForType type.name = some type := by simp [knowledgeModelForType]
  obtain ⟨fields,ht,hbase⟩ : ∃ fields, sampleKnowledge.target type 1 = some (sampleTarget fields) ∧
      sampleKnowledge.hasLegacyHumanBase type.name 1 = some false := by
    cases type with
    | decisionRecord => exact ⟨.decisionRecord [],rfl,by decide⟩
    | historyEvent => exact ⟨.historyEvent [],rfl,by decide⟩
    | timelineEvent => exact ⟨.timelineEvent [],rfl,by decide⟩
    | todo => exact absurd rfl htype
  have hopen : TargetOpen sampleKnowledge type.name 1 :=
    (targetOpen_iff hm ht).mpr ⟨rfl,by change permissionRank (text "internal") ≠ none; decide,rfl⟩
  exact forKnowledgeExact_links hm ht hopen hlinks hne hbase htally

theorem sampleKnowledge_history :
    sampleKnowledge.forKnowledge sampleLetters (text "history_event") 1 = ⟨true,some (text "internal")⟩ := by
  have htally : [sampleLink 2 (text "history_event") 1 (text "human") (text "internal") true,
      sampleLink 3 (text "history_event") 2 (text "human") (text "restricted") true].foldl
        (sampleKnowledge.tallyLink sampleLetters) ⟨[text "internal"],false,[]⟩ =
      ⟨List.replicate 4 (text "internal"),true,[]⟩ := by
    simp only [List.foldl_cons,KnowledgeTables.tallyLink,sampleKnowledge_evidence (show 2 ∈ [1,2,3,4,5] by decide)]
    rfl
  have hserved := sampleKnowledge_served .historyEvent (by decide) sampleKnowledge_links.2.1 (List.cons_ne_nil _ _) htally
  change (sampleKnowledge.forKnowledgeExact sampleLetters KnowledgeType.historyEvent.name 1).getD ineligible = _
  rw [hserved]
  decide

theorem sampleKnowledge_timeline :
    sampleKnowledge.forKnowledge sampleLetters (text "timeline_event") 1 = ⟨true,some (text "internal")⟩ := by
  have htally : [sampleLink 5 (text "timeline_event") 3 (text "auto_policy") (text "internal") true].foldl
        (sampleKnowledge.tallyLink sampleLetters) ⟨[text "internal"],false,[]⟩ =
      ⟨List.replicate 4 (text "internal"),false,[true]⟩ := by
    simp only [List.foldl_cons,KnowledgeTables.tallyLink,sampleKnowledge_evidence (show 5 ∈ [1,2,3,4,5] by decide)]
    rfl
  have hserved := sampleKnowledge_served .timelineEvent (by decide) sampleKnowledge_links.2.2 (List.cons_ne_nil _ _) htally
  change (sampleKnowledge.forKnowledgeExact sampleLetters KnowledgeType.timelineEvent.name 1).getD ineligible = _
  rw [hserved]
  decide

/-- The decision's own type serves it, its alias does not, and the envelope takes either. -/
theorem sampleKnowledge_decision :
    sampleKnowledge.forKnowledgeExact sampleLetters (text "decision_record") 1 = some ⟨true,some (text "internal")⟩ ∧
    sampleKnowledge.forKnowledge sampleLetters (text "decision") 1 = ineligible := by
  have htally : [sampleLink 1 (text "decision_record") 1 (text "human") (text "internal") true].foldl
        (sampleKnowledge.tallyLink sampleLetters) ⟨[text "internal"],false,[]⟩ =
      ⟨List.replicate 4 (text "internal"),true,[]⟩ := by
    simp only [List.foldl_cons,KnowledgeTables.tallyLink,sampleKnowledge_evidence (show 1 ∈ [1,2,3,4,5] by decide)]
    rfl
  have hserved := sampleKnowledge_served .decisionRecord (by decide) sampleKnowledge_links.1 (List.cons_ne_nil _ _) htally
  have hcanonical : canonicalKnowledgeType (text "decision") = text "decision_record" := by decide
  have hmodel : knowledgeModelForType (text "decision_record") = some .decisionRecord := by decide
  have htarget : sampleKnowledge.target .decisionRecord 1 = some (sampleTarget (.decisionRecord [])) := rfl
  have hbase : sampleKnowledge.hasLegacyHumanBase (text "decision") 1 = none := by decide
  refine ⟨hserved.trans (by decide),?_⟩
  unfold KnowledgeTables.forKnowledge KnowledgeTables.forKnowledgeExact
  simp only [hcanonical,hmodel,htarget,sampleKnowledge_links.1,hbase]
  rw [if_neg (by decide)]
  rfl

/-- The decision's link is live. -/
theorem sampleKnowledge_live :
    Owned sampleKnowledge (sampleLink 1 (text "decision_record") 1 (text "human") (text "internal") true)
      (sampleItem 1 (some (text "human")) (text "internal")) ∧
    sampleKnowledge.approvalLinkIsLive sampleLetters 1 = true := by
  have hevidence : sampleKnowledge.currentEvidence sampleLetters
      (sampleLink 1 (text "decision_record") 1 (text "human") (text "internal") true) = ⟨true,[text "internal"]⟩ :=
    sampleKnowledge_evidence (by decide)
  have hknown : permissionRank (text "internal") ≠ none := by decide
  have hmodel : knowledgeModelForType (text "decision_record") = some .decisionRecord := by decide
  have hopen : TargetOpen sampleKnowledge (text "decision_record") 1 :=
    (targetOpen_iff hmodel (show sampleKnowledge.target .decisionRecord 1 = some _ from rfl)).mpr ⟨rfl,hknown,rfl⟩
  have howned : Owned sampleKnowledge (sampleLink 1 (text "decision_record") 1 (text "human") (text "internal") true)
      (sampleItem 1 (some (text "human")) (text "internal")) := ⟨rfl,rfl,rfl,hknown,hknown⟩
  refine ⟨howned,?_⟩
  have hlink : sampleLink 1 (text "decision_record") 1 (text "human") (text "internal") true ∈ sampleKnowledge.links :=
    List.mem_cons_self
  apply (approvalLinkIsLive_iff hlink).mpr
  exact ⟨rfl,hopen,_,howned,by rw [hevidence],.inl ⟨rfl,rfl⟩⟩

theorem sampleKnowledge_permissions : sampleKnowledge.envelopePermissions sampleLetters
    [sampleLink 1 (text "decision_record") 1 (text "human") (text "internal") true] [text "internal"] =
      some [text "internal",text "internal",text "internal",text "internal"] := by
  obtain ⟨howned,hlive⟩ := sampleKnowledge_live
  have hevidence : sampleKnowledge.currentEvidence sampleLetters
      (sampleLink 1 (text "decision_record") 1 (text "human") (text "internal") true) = ⟨true,[text "internal"]⟩ :=
    sampleKnowledge_evidence (by decide)
  have hid : (sampleLink 1 (text "decision_record") 1 (text "human") (text "internal") true).id = 1 := rfl
  simp only [KnowledgeTables.envelopePermissions,hid,hlive,howned.found,hevidence]
  rfl

theorem sampleKnowledge_envelope :
    sampleKnowledge.forServingEnvelopeExact sampleLetters (text "decision") 1 = some (text "internal") := by
  have hcanonical : canonicalKnowledgeType (text "decision") = text "decision_record" := by decide
  have hmodel : knowledgeModelForType (text "decision_record") = some .decisionRecord := by decide
  have htarget : sampleKnowledge.target .decisionRecord 1 = some (sampleTarget (.decisionRecord [])) := rfl
  have hbase : sampleKnowledge.hasLegacyHumanBase (text "decision_record") 1 = some false := by decide
  have hstrictest : strictestPermission [text "internal",text "internal",text "internal",text "internal"] =
      some (text "internal") := by decide
  rw [← hcanonical] at hmodel hbase
  have hserved := sampleKnowledge_decision.1
  have hlinks := sampleKnowledge_links.1
  rw [← hcanonical] at hserved hlinks
  rw [forServingEnvelopeExact_links hmodel htarget hserved hbase hlinks (List.cons_ne_nil _ _)
    sampleKnowledge_permissions]
  exact hstrictest

/-- A link whose item is not resolved as the link says narrows nothing, and an automatic link keeps the timeline event
served after its human link is gone; the alias of a decision is refused where its envelope is not. -/
theorem serving_broadens_sample :
    (sampleKnowledge.forKnowledge sampleLetters (text "history_event") 1 = ⟨true,some (text "internal")⟩ ∧
      ∃ link ∈ sampleKnowledge.activeLinks (text "history_event") 1, ∃ item,
        sampleKnowledge.item link.reviewItemId = some item ∧ item.status = .approved ∧
        (sampleKnowledge.currentEvidence sampleLetters link).valid = true ∧
        ¬AtLeastAsStrict (text "internal") link.permissionLevel) ∧
    (sampleKnowledge.forKnowledge sampleLetters (text "timeline_event") 1 = ⟨true,some (text "internal")⟩ ∧
      (∃ target, sampleKnowledge.target .timelineEvent 1 = some target ∧ target.sourceReviewItemId ≠ none) ∧
      sampleKnowledge.hasLegacyHumanBase (text "timeline_event") 1 = some false ∧
      ∀ link ∈ sampleKnowledge.activeLinks (text "timeline_event") 1, link.resolutionSource ≠ text "human") ∧
    (sampleKnowledge.forServingEnvelope sampleLetters (text "decision") 1).eligible = true ∧
      (sampleKnowledge.forKnowledge sampleLetters (text "decision") 1).eligible = false := by
  obtain ⟨-,hhistory,htimeline⟩ := sampleKnowledge_links
  refine ⟨⟨sampleKnowledge_history,sampleLink 3 (text "history_event") 2 (text "human") (text "restricted") true,?_⟩,
    ⟨sampleKnowledge_timeline,⟨_,rfl,Option.some_ne_none _⟩,by decide,?_⟩,?_,?_⟩
  · refine ⟨by rw [hhistory]; simp,sampleItem 2 none (text "restricted"),rfl,rfl,?_,by decide⟩
    rw [sampleKnowledge_evidence (by decide)]
  · rw [htimeline]
    simp only [List.mem_singleton,forall_eq]
    decide
  · rw [KnowledgeTables.forServingEnvelope,sampleKnowledge_envelope]
  · rw [sampleKnowledge_decision.2]
    rfl

end ParaWorks.Knowledge
