import ParaWorks.Lib.Tables
import ParaWorks.Rollout.Contracts
import ParaWorks.Sources.Authority

/-!
# Trusted knowledge

The four knowledge tables, the review items that approved their rows, and the links that say on which
evidence.
-/

namespace ParaWorks.Knowledge

open Lib Sources Rollout

/-! ## Knowledge types -/

inductive KnowledgeType where
  | decisionRecord
  | historyEvent
  | timelineEvent
  | todo
  deriving DecidableEq

def KnowledgeType.name : KnowledgeType → Text
  | decisionRecord => text "decision_record"
  | historyEvent => text "history_event"
  | timelineEvent => text "timeline_event"
  | todo => text "todo"

def knowledgeTypes : List KnowledgeType := [.decisionRecord,.historyEvent,.timelineEvent,.todo]

/-- `_model_for_type`; none where it raises. -/
def modelForType (knowledgeType : Text) : Option KnowledgeType := knowledgeTypes.find? (·.name = knowledgeType)

def canonicalKnowledgeType (knowledgeType : Text) : Text :=
  if knowledgeType = text "decision" then text "decision_record" else knowledgeType

def knowledgeModelForType (knowledgeType : Text) : Option KnowledgeType :=
  modelForType (canonicalKnowledgeType knowledgeType)

def knowledgeTypeStorageAliases (knowledgeType : Text) : List Text :=
  if canonicalKnowledgeType knowledgeType = text "decision_record" then [text "decision",text "decision_record"]
  else [canonicalKnowledgeType knowledgeType]

def canonicalKnowledgeDocumentId (knowledgeType : Text) (knowledgeId : Nat) : Text :=
  canonicalKnowledgeType knowledgeType++text ":"++Json.renderInt knowledgeId

@[simp] theorem canonicalKnowledgeType_idem (t : Text) :
    canonicalKnowledgeType (canonicalKnowledgeType t) = canonicalKnowledgeType t := by
  by_cases h : t = text "decision"
  · rw [h]
    decide
  · simp [canonicalKnowledgeType,h]

@[simp] theorem canonicalKnowledgeType_name (type : KnowledgeType) : canonicalKnowledgeType type.name = type.name := by
  cases type <;> decide

@[simp] theorem modelForType_name (type : KnowledgeType) : modelForType type.name = some type := by
  cases type <;> decide

theorem name_of_modelForType {t : Text} {type : KnowledgeType} (h : modelForType t = some type) : type.name = t := by
  have hname := (find?_spec h).2
  simpa using hname

theorem canonicalKnowledgeType_of_model {t : Text} {type : KnowledgeType} (h : modelForType t = some type) :
    canonicalKnowledgeType t = t := by
  rw [← name_of_modelForType h,canonicalKnowledgeType_name]

@[simp] theorem knowledgeTypeStorageAliases_canonical (t : Text) :
    knowledgeTypeStorageAliases (canonicalKnowledgeType t) = knowledgeTypeStorageAliases t := by
  simp [knowledgeTypeStorageAliases]

@[simp] theorem knowledgeModelForType_canonical (t : Text) :
    knowledgeModelForType (canonicalKnowledgeType t) = knowledgeModelForType t := by
  simp [knowledgeModelForType]

@[simp] theorem canonicalKnowledgeDocumentId_canonical (t : Text) (id : Nat) :
    canonicalKnowledgeDocumentId (canonicalKnowledgeType t) id = canonicalKnowledgeDocumentId t id := by
  simp [canonicalKnowledgeDocumentId]

/-- The aliases of a type are the texts it is canonical for. -/
theorem mem_knowledgeTypeStorageAliases {t u : Text} (h : t ≠ text "decision") :
    u ∈ knowledgeTypeStorageAliases t ↔ canonicalKnowledgeType u = t := by
  have ht : canonicalKnowledgeType t = t := if_neg h
  rw [knowledgeTypeStorageAliases,ht]
  unfold canonicalKnowledgeType
  by_cases hu : u = text "decision"
  · by_cases hd : t = text "decision_record"
    · simp [hu,hd]
    · have hne : text "decision_record" ≠ t := fun h => hd h.symm
      have hne' : text "decision" ≠ t := fun h' => h h'.symm
      simp [hu,hd,hne,hne']
  · by_cases hd : t = text "decision_record"
    · simp [hu,hd]
    · simp [hu,hd]

/-! ## Rows -/

/-- The columns that tell the knowledge tables apart. -/
inductive TargetFields where
  | decisionRecord (decisionSummary : Text)
  | historyEvent (reason : Text)
  | timelineEvent (resultSummary : Text)
  | todo (assignee dueDate : Option Text) (priority priorityReason : Text)

def TargetFields.type : TargetFields → KnowledgeType
  | decisionRecord _ => .decisionRecord
  | historyEvent _ => .historyEvent
  | timelineEvent _ => .timelineEvent
  | todo .. => .todo

/-- A row of `DecisionRecord`, `HistoryEvent`, `TimelineEvent` or `Todo`. -/
structure Target where
  fields : TargetFields
  id : Nat
  projectKey : Option Text
  title : Text
  sourceLinks : List Text
  sourceSnippets : List Text
  permissionLevel : Text
  reviewStatus : ReviewStatus
  sourceReviewItemId : Option Nat

abbrev Target.type (target : Target) : KnowledgeType := target.fields.type

structure ReviewItem extends Rollout.ReviewItem where
  itemType : Text
  payload : List (Text × Json)
  sourceLinks : List Text
  sourceSnippets : List Text
  reviewerId : Option Text
  candidateKey : Option Text
  candidateContractVersion : Option Text
  resolutionPolicyVersion : Option Text
  autoValidationId : Option Nat
  revokeKnowledgeRemainedTrusted : Option Bool
  revokeDocumentCount : Option Nat

inductive ValidationStatus where
  | claimed
  | completed
  | failed
  deriving DecidableEq

inductive PolicyDecision where
  | autoApprove
  | humanReview
  | needsMoreEvidence
  | reuseTrusted
  deriving DecidableEq

structure AutoReviewValidation where
  id : Nat
  reviewItemId : Nat
  status : ValidationStatus
  policyDecision : Option PolicyDecision

structure TrustedKnowledgeApprovalLink where
  id : Nat
  knowledgeType : Text
  knowledgeId : Nat
  reviewItemId : Nat
  securityScopeId : Text
  promotionEffectKind : Text
  resolutionSource : Text
  claimFingerprint : Text
  permissionLevel : Text
  fingerprintKeyVersion : Text
  fingerprintKeyMaterialVerifier : Text
  active : Bool

structure TrustedKnowledgeEvidenceLink where
  id : Nat
  approvalLinkId : Nat
  canonicalSourceKind : Text
  canonicalSourceId : Text
  canonicalVersionOrSignature : Text
  evidenceHash : Text
  fingerprintKeyVersion : Text
  fingerprintKeyMaterialVerifier : Text
  deriving DecidableEq

structure VectorServingTombstone where
  documentId : Text
  sourceReviewItemId : Nat
  reasonCode : String

structure VectorIndexState where
  documentId : Text
  embeddingModel : Text

structure TrustedKnowledgeFingerprint where
  knowledgeType : Text
  knowledgeId : Nat
  securityScopeId : Option Text
  normalizedClaimFingerprint : Option Text
  permissionLevel : Text
  reviewStatus : ReviewStatus

structure ProjectionState where
  ready : Bool
  rebuildRequired : Bool

/-- The tables; `trusted_knowledge_approval_links.id` is a primary key. -/
structure KnowledgeTables where
  sources : SourceTables
  rollout : RolloutDb
  items : List ReviewItem
  validations : List AutoReviewValidation
  targets : List Target
  links : List TrustedKnowledgeApprovalLink
  evidenceLinks : List TrustedKnowledgeEvidenceLink
  tombstones : List VectorServingTombstone
  indexStates : List VectorIndexState
  fingerprints : List TrustedKnowledgeFingerprint
  projection : Option ProjectionState
  linkIds : (links.map (·.id)).Nodup

namespace KnowledgeTables

variable (db : KnowledgeTables)

def item (id : Nat) : Option ReviewItem := db.items.find? (·.id = id)

def validation (id : Nat) : Option AutoReviewValidation := db.validations.find? (·.id = id)

def target (type : KnowledgeType) (id : Nat) : Option Target := db.targets.find? fun t => t.type = type && t.id = id

def link (id : Nat) : Option TrustedKnowledgeApprovalLink := db.links.find? (·.id = id)

/-- A row of `sources` by a Python integer. -/
def sourceByKey (key : Int) : Option Source := db.sources.sources.find? fun s => (s.id : Int) = key

def childrenOf (link : TrustedKnowledgeApprovalLink) : List TrustedKnowledgeEvidenceLink :=
  orderBy (·.id) (db.evidenceLinks.filter (·.approvalLinkId = link.id))

def tombstoned (documentId : Text) : Bool := db.tombstones.any (·.documentId = documentId)

/-- The active approval links of a target under every alias of its type. -/
def activeLinks (knowledgeType : Text) (knowledgeId : Nat) : List TrustedKnowledgeApprovalLink :=
  orderBy (·.id) <| db.links.filter fun l =>
    l.knowledgeType ∈ knowledgeTypeStorageAliases knowledgeType && l.knowledgeId = knowledgeId && l.active

theorem link_of_mem {l : TrustedKnowledgeApprovalLink} (h : l ∈ db.links) : db.link l.id = some l :=
  find?_of_nodup db.linkIds h

@[simp] theorem activeLinks_canonical (t : Text) (id : Nat) :
    db.activeLinks (canonicalKnowledgeType t) id = db.activeLinks t id := by
  simp [activeLinks]

theorem mem_activeLinks {db : KnowledgeTables} {knowledgeType : Text} {knowledgeId : Nat}
    {l : TrustedKnowledgeApprovalLink} : l ∈ db.activeLinks knowledgeType knowledgeId ↔
      l ∈ db.links ∧ l.knowledgeType ∈ knowledgeTypeStorageAliases knowledgeType ∧ l.knowledgeId = knowledgeId ∧
        l.active = true := by
  simp [activeLinks,and_assoc]

end KnowledgeTables

end ParaWorks.Knowledge
