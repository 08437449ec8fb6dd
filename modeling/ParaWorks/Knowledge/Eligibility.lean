import ParaWorks.Knowledge.Rows

/-!
# Trusted serving eligibility

The two answers on whether a knowledge row may be served: the one of C.5 reads, which one human link or
the automatic links together support, and the one of serving envelopes, which every active link must.
-/

namespace ParaWorks.Knowledge

open Lib Sources Rollout

/-! ## Permissions -/

/-- `_PERMISSION_RANK`. -/
def permissionRank (permission : Text) : Option Nat :=
  if permission = text "public" then some 0
  else if permission = text "internal" then some 1
  else if permission = text "restricted" then some 2
  else none

/-- `_strictest_permission`; none where it raises. -/
def strictestPermission (permissionLevels : List Text) : Option Text :=
  if permissionLevels.any fun p => permissionRank p = none then none
  else permissionLevels.argmax fun p => (permissionRank p).getD 0

/-- The first permission is at least as strict as the second. -/
def AtLeastAsStrict (p q : Text) : Prop := ∃ i ∈ permissionRank p, ∃ j ∈ permissionRank q, j ≤ i

instance (p q : Text) : Decidable (AtLeastAsStrict p q) :=
  inferInstanceAs (Decidable (∃ i ∈ permissionRank p, ∃ j ∈ permissionRank q, j ≤ i))

section permissions

variable {p q r : Text} {levels levels' : List Text}

theorem AtLeastAsStrict.refl (h : permissionRank p ≠ none) : AtLeastAsStrict p p := by
  obtain ⟨i,hi⟩ := Option.ne_none_iff_exists'.mp h
  exact ⟨i,hi,i,hi,le_rfl⟩

/-- The result is one of the levels, and they are all known. -/
theorem strictestPermission_spec (h : strictestPermission levels = some p) :
    p ∈ levels ∧ ∀ q ∈ levels, AtLeastAsStrict p q := by
  unfold strictestPermission at h
  split at h
  · cases h
  next hknown =>
    have hrank : ∀ q ∈ levels, ∃ i, permissionRank q = some i := by
      intro q hq
      apply Option.ne_none_iff_exists'.mp
      intro hq'
      exact hknown (List.any_eq_true.mpr ⟨q,hq,by simp [hq']⟩)
    have hp : p ∈ levels := List.argmax_mem h
    refine ⟨hp,fun q hq => ?_⟩
    obtain ⟨i,hi⟩ := hrank p hp
    obtain ⟨j,hj⟩ := hrank q hq
    have hle := List.le_of_mem_argmax hq h
    simp only [hi,hj,Option.getD_some] at hle
    exact ⟨i,hi,j,hj,hle⟩

theorem strictestPermission_isSome (hne : levels ≠ []) (hknown : ∀ q ∈ levels, permissionRank q ≠ none) :
    ∃ p, strictestPermission levels = some p := by
  have hany : levels.any (fun p => permissionRank p = none) = false := by
    simpa using hknown
  rw [strictestPermission,if_neg (by simp [hany])]
  apply Option.ne_none_iff_exists'.mp
  intro h
  exact hne (List.argmax_eq_none.mp h)

/-- More levels are stricter. -/
theorem strictestPermission_mono (hsub : levels ⊆ levels') (h : strictestPermission levels = some p)
    (h' : strictestPermission levels' = some q) : AtLeastAsStrict q p :=
  (strictestPermission_spec h').2 p (hsub (strictestPermission_spec h).1)

end permissions

/-! ## Evidence and quarantine -/

/-- An approval by a human before contract C.5. -/
def ReviewItem.isLegacyHuman (item : ReviewItem) : Bool :=
  item.status = .approved && (item.resolutionSource = none || item.resolutionSource = some (text "human")) &&
    item.candidateContractVersion ≠ some (text "c5-v1")

structure TrustedServingEligibility where
  eligible : Bool
  effectivePermission : Option Text
  deriving DecidableEq

def ineligible : TrustedServingEligibility := ⟨false,none⟩

structure EvidenceEligibility where
  valid : Bool
  permissionLevels : List Text

/-- The evidence permissions that automatic approvals support. -/
def supportedPermissions (evidence : EvidenceEligibility) : Bool :=
  evidence.permissionLevels.all fun p => p = text "public" || p = text "internal"

/-- `_CRITICAL_AUDIT_OUTCOMES`. -/
def criticalAuditOutcomes : List AuditOutcome :=
  [.incorrect,.permissionViolation,.sourceVersionViolation,.policyViolation]

/-- What `_for_knowledge` has gathered over the links. -/
structure LinkTally where
  permissionLevels : List Text
  validHuman : Bool
  autoResults : List Bool

namespace KnowledgeTables

variable (letters : CaseMap) (db : KnowledgeTables)

def currentEvidenceFrom : List TrustedKnowledgeEvidenceLink → List Text → EvidenceEligibility
  | [], permissions => ⟨true,permissions⟩
  | child::children, permissions =>
    match parseInt child.canonicalSourceId with
    | none => ⟨false,permissions⟩
    | some key =>
      match db.sourceByKey key with
      | none => ⟨false,permissions⟩
      | some source =>
        if permissionRank source.permissionLevel = none then ⟨false,permissions⟩
        else if source.sourceType ≠ child.canonicalSourceKind ∨
            canonicalEvidenceVersionIsCurrent letters db.sources source child.canonicalVersionOrSignature = false then
          ⟨false,permissions++[source.permissionLevel]⟩
        else currentEvidenceFrom children (permissions++[source.permissionLevel])

def currentEvidence (link : TrustedKnowledgeApprovalLink) : EvidenceEligibility :=
  match db.childrenOf link with
  | [] => ⟨false,[]⟩
  | children => db.currentEvidenceFrom letters children []

def isQuarantined (reviewItemId : Nat) : Bool :=
  (match db.rollout.auditOfItem reviewItemId with
    | none => false
    | some audit => audit.status = .remediationRequired || audit.outcome.any (· ∈ criticalAuditOutcomes)) ||
  match db.rollout.correctionOfItem reviewItemId with
    | none => false
    | some correction => correction.effectiveOutcome ∈ criticalAuditOutcomes

/-- The item's automatic validation completed in favour of the approval. -/
def validationComplete (item : ReviewItem) : Bool :=
  match item.autoValidationId.bind db.validation with
  | none => false
  | some validation =>
    validation.reviewItemId = item.id && validation.status = .completed &&
      (validation.policyDecision = some .autoApprove || validation.policyDecision = some .reuseTrusted)

/-! ## The two answers -/

def approvalLinkIsLive (approvalLinkId : Nat) : Bool :=
  match db.link approvalLinkId with
  | none => false
  | some link =>
    if link.active = false ∨ permissionRank link.permissionLevel = none then false
    else match knowledgeModelForType link.knowledgeType with
      | none => false
      | some type =>
        match db.target type link.knowledgeId, db.item link.reviewItemId with
        | some target, some item =>
          if target.reviewStatus ≠ .approved ∨ permissionRank target.permissionLevel = none ∨
              item.status ≠ .approved ∨ item.resolutionSource ≠ some link.resolutionSource ∨
              permissionRank item.permissionLevel = none ∨
              db.tombstoned (canonicalKnowledgeDocumentId link.knowledgeType link.knowledgeId) = true then false
          else
            let evidence := db.currentEvidence letters link
            if evidence.valid = false then false
            else if link.resolutionSource = text "human" then
              item.candidateContractVersion = some (text "c5-v1")
            else if link.resolutionSource ≠ text "auto_policy" ∨ db.isQuarantined item.id = true then false
            else db.validationComplete item && supportedPermissions evidence
        | _, _ => false

/-- `has_legacy_human_base`; none where it raises. -/
def hasLegacyHumanBase (knowledgeType : Text) (knowledgeId : Nat) : Option Bool :=
  (modelForType knowledgeType).map fun type =>
    ((db.target type knowledgeId).bind fun target => target.sourceReviewItemId.bind db.item).any (·.isLegacyHuman)

def legacyHumanEligibility (target : Target) : TrustedServingEligibility :=
  match target.sourceReviewItemId with
  | none => ⟨true,some target.permissionLevel⟩
  | some itemId =>
    if (db.item itemId).any (·.isLegacyHuman) then ⟨true,some target.permissionLevel⟩ else ineligible

def tallyLink (tally : LinkTally) (link : TrustedKnowledgeApprovalLink) : LinkTally :=
  let missed := if link.resolutionSource = text "auto_policy" then
    { tally with autoResults := tally.autoResults++[false] } else tally
  match db.item link.reviewItemId with
  | none => missed
  | some item =>
    if item.status ≠ .approved ∨ item.resolutionSource ≠ some link.resolutionSource ∨
        permissionRank link.permissionLevel = none ∨ permissionRank item.permissionLevel = none then missed
    else
      let evidence := db.currentEvidence letters link
      let permissionLevels :=
        tally.permissionLevels++[link.permissionLevel,item.permissionLevel]++evidence.permissionLevels
      if link.resolutionSource = text "human" then
        ⟨permissionLevels,
          tally.validHuman || item.candidateContractVersion = some (text "c5-v1") && evidence.valid,tally.autoResults⟩
      else if link.resolutionSource ≠ text "auto_policy" then
        ⟨permissionLevels,tally.validHuman,tally.autoResults++[false]⟩
      else if db.isQuarantined item.id then ⟨permissionLevels,tally.validHuman,tally.autoResults⟩
      else ⟨permissionLevels,tally.validHuman,
        tally.autoResults++[db.validationComplete item && evidence.valid && supportedPermissions evidence]⟩

/-- `_for_knowledge`; none where it raises. -/
def forKnowledgeExact (knowledgeType : Text) (knowledgeId : Nat) : Option TrustedServingEligibility :=
  let canonicalType := canonicalKnowledgeType knowledgeType
  match knowledgeModelForType canonicalType with
  | none => none
  | some type =>
    match db.target type knowledgeId with
    | none => some ineligible
    | some target =>
      if target.reviewStatus ≠ .approved ∨ permissionRank target.permissionLevel = none ∨
          db.tombstoned (canonicalKnowledgeDocumentId canonicalType knowledgeId) = true then some ineligible
      else match db.activeLinks canonicalType knowledgeId with
        | [] => some (db.legacyHumanEligibility target)
        | links =>
          match db.hasLegacyHumanBase knowledgeType knowledgeId with
          | none => none
          | some legacyBase =>
            let tally := links.foldl (db.tallyLink letters) ⟨[target.permissionLevel],legacyBase,[]⟩
            if tally.validHuman = true ∨ tally.autoResults ≠ [] ∧ tally.autoResults.all id = true then
              (strictestPermission tally.permissionLevels).map fun p => ⟨true,some p⟩
            else some ineligible

def forKnowledge (knowledgeType : Text) (knowledgeId : Nat) : TrustedServingEligibility :=
  (db.forKnowledgeExact letters knowledgeType knowledgeId).getD ineligible

/-- The permissions of the links when each is live, has its item and has valid evidence. -/
def envelopePermissions : List TrustedKnowledgeApprovalLink → List Text → Option (List Text)
  | [], permissions => some permissions
  | link::links, permissions =>
    if db.approvalLinkIsLive letters link.id = false then none
    else match db.item link.reviewItemId with
      | none => none
      | some item =>
        let evidence := db.currentEvidence letters link
        if evidence.valid = false then none
        else envelopePermissions links
          (permissions++[link.permissionLevel,item.permissionLevel]++evidence.permissionLevels)

/-- The permission of the item behind the legacy base: known, or the target is ineligible. -/
def legacyItemPermission (itemId : Nat) : Option Text :=
  ((db.item itemId).map (·.permissionLevel)).filter fun p => permissionRank p ≠ none

/-- `for_serving_envelope` up to its refusals, which all answer ineligible. -/
def forServingEnvelopeExact (knowledgeType : Text) (knowledgeId : Nat) : Option Text := do
  let canonicalType := canonicalKnowledgeType knowledgeType
  let type ← knowledgeModelForType canonicalType
  let base ← db.forKnowledgeExact letters canonicalType knowledgeId
  let target ← db.target type knowledgeId
  guard base.eligible
  let legacyBase ← db.hasLegacyHumanBase canonicalType knowledgeId
  match db.activeLinks canonicalType knowledgeId with
  | [] => do
    let itemId ← target.sourceReviewItemId
    guard legacyBase
    let legacyPermission ← db.legacyItemPermission itemId
    strictestPermission [target.permissionLevel,legacyPermission]
  | links => do
    let permissions ← db.envelopePermissions letters links [target.permissionLevel]
    match target.sourceReviewItemId with
    | none => strictestPermission permissions
    | some itemId =>
      if legacyBase then do
        let legacyPermission ← db.legacyItemPermission itemId
        strictestPermission (permissions++[legacyPermission])
      else strictestPermission permissions

def forServingEnvelope (knowledgeType : Text) (knowledgeId : Nat) : TrustedServingEligibility :=
  match db.forServingEnvelopeExact letters knowledgeType knowledgeId with
  | none => ineligible
  | some p => ⟨true,some p⟩

end KnowledgeTables

end ParaWorks.Knowledge
