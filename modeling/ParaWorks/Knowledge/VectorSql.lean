import ParaWorks.Knowledge.Documents

/-!
# The eligibility condition of the vector store

The SQL condition under which `PgVectorStore` writes and searches a row: a chunk under its source, or a knowledge
row that one approval supports on its own.
-/

namespace ParaWorks.Knowledge

open Lib Sources Rollout

/-! ## Rows -/

/-- A row of `review_item_evidence_refs`. -/
structure WorkflowLink where
  reviewItemId : Nat
  workflowEvidenceRefId : Nat
  workflowThreadId : Text

/-- A row of `agent_workflow_evidence_refs`. -/
structure WorkflowEvidence where
  id : Nat
  workflowThreadId : Text
  permissionLevelSnapshot : Text

/-- The tables with the workflow evidence, and their keys. -/
structure VectorTables extends KnowledgeTables where
  workflowLinks : List WorkflowLink
  workflowEvidence : List WorkflowEvidence
  sourceIds : (sources.sources.map (·.id)).Nodup
  chunkIds : (sources.chunks.map (·.id)).Nodup
  itemIds : (items.map (·.id)).Nodup
  validationIds : (validations.map (·.id)).Nodup
  targetIds : (targets.map fun t => (t.type,t.id)).Nodup
  auditItems : (rollout.audits.map (·.reviewItemId)).Nodup
  correctionItems : (rollout.corrections.map (·.reviewItemId)).Nodup

structure VectorRow where
  documentId : Text
  permissionLevel : Text
  metadata : Metadata

def knownPermissions : List Text := [text "public",text "internal",text "restricted"]

/-- `CASE … ELSE 99 END`. -/
def sqlRank (permissionLevel : Text) : Nat := (permissionRank permissionLevel).getD 99

/-- `jsonb ? key`. -/
def jsonbHas (v : Json) (key : Text) : Bool :=
  match v with
  | .list items => items.any fun
    | .str t => t = key
    | _ => false
  | .dict entries => entries.any (·.1 = key)
  | .str t => t = key
  | _ => false

section conditions

variable (letters : CaseMap) (db : VectorTables) (row : VectorRow)

/-- The rank of the vector row is at least the rank of the level. -/
def coversSql (permissionLevel : Text) : Truth := .ofBool (sqlRank permissionLevel ≤ sqlRank row.permissionLevel)

def legacyRawAuthorization (source : Source) : Truth :=
  .exist db.items fun item => .all [
    .ofBool (item.status = .approved),
    .or (.isNull item.resolutionSource) (.eq item.resolutionSource (some (text "human"))),
    .ofBool (jsonbHas (((item.payload.find? (·.1 = text "source_ids")).map (·.2)).getD (.list [])) source.sourceId)]

def rawAuthorization (allowRagV2RawWrite : Bool) (source : Source) : Truth :=
  if allowRagV2RawWrite then
    .or (.all [
        .eq (row.metadata.text (text "index_policy_version")) (some (text "rag-v2-serving-index:v1")),
        .eq (row.metadata.text (text "serving_kind")) (some (text "raw_chunk")),
        .eq (row.metadata.text (text "support_mode")) (some (text "source_observation")),
        .isIn (some source.sourceType) [text "gmail",text "gmail_attachment",text "drive",text "calendar"]])
      (.and (.ne (some ((row.metadata.text (text "index_policy_version")).getD [])) (some (text "rag-v2-serving-index:v1")))
        (legacyRawAuthorization db source))
  else legacyRawAuthorization db source

def chunkBranch (allowRagV2RawWrite : Bool) : Truth :=
  .and (.ofBool ((text "chunk:").isPrefixOf row.documentId)) <|
    .exist db.sources.chunks fun chunk => .exist db.sources.sources fun source => .all [
      .eq (some source.id) (some chunk.sourceId),
      .eq (some row.documentId) (some (text "chunk:"++Json.renderInt chunk.id)),
      postgresExactSourceAuthoritySql letters .postgresql db.sources source none (some chunk.id),
      .ne (some source.sourceType) (some (text "slack")),
      .isIn (some source.permissionLevel) knownPermissions,
      .isIn (some chunk.permissionLevel) knownPermissions,
      rawAuthorization db row allowRagV2RawWrite source,
      .ofBool (max (sqlRank source.permissionLevel) (sqlRank chunk.permissionLevel) ≤ sqlRank row.permissionLevel)]

/-- The join of an evidence link with a source. -/
def evidenceSourceSql (child : TrustedKnowledgeEvidenceLink) (source : Source) : Truth :=
  .all [
    .eq (some (Json.renderInt source.id)) (some child.canonicalSourceId),
    .eq (some source.sourceType) (some child.canonicalSourceKind),
    postgresExactSourceAuthoritySql letters .postgresql db.sources source (some child.canonicalVersionOrSignature) none]

def evidenceJoin (child : TrustedKnowledgeEvidenceLink) : List Source :=
  db.sources.sources.filter fun source => evidenceSourceSql letters db child source = .holds

/-- One evidence link has a current source that the row covers. -/
def someEvidenceSql (link : TrustedKnowledgeApprovalLink) : Truth :=
  .exist db.evidenceLinks fun child => .exist (evidenceJoin letters db child) fun source => .all [
    .eq (some child.approvalLinkId) (some link.id),
    .isIn (some source.permissionLevel) knownPermissions,
    coversSql row source.permissionLevel,
    .or (.eq (some link.resolutionSource) (some (text "human")))
      (.isIn (some source.permissionLevel) [text "public",text "internal"])]

/-- One evidence link has no current source, or one the row may not show; a `LEFT JOIN` keeps a link without source. -/
def missingEvidenceSql (link : TrustedKnowledgeApprovalLink) : Truth :=
  .exist db.evidenceLinks fun child => .and (.eq (some child.approvalLinkId) (some link.id)) <|
    match evidenceJoin letters db child with
    | [] => .holds
    | sources => .exist sources fun source => .or (.or
        (.not (.isIn (some source.permissionLevel) knownPermissions))
        (.not (coversSql row source.permissionLevel)))
        (.and (.eq (some link.resolutionSource) (some (text "auto_policy")))
          (.eq (some source.permissionLevel) (some (text "restricted"))))

/-- A workflow snapshot of the item is unknown or stricter than the row. -/
def narrowerSnapshotSql (item : ReviewItem) : Truth :=
  .exist db.workflowLinks fun link => .exist db.workflowEvidence fun evidence => .all [
    .eq (some evidence.id) (some link.workflowEvidenceRefId),
    .eq (some evidence.workflowThreadId) (some link.workflowThreadId),
    .eq (some link.reviewItemId) (some item.id),
    .eq (some link.workflowThreadId) item.workflowThreadId,
    .or (.not (.isIn (some evidence.permissionLevelSnapshot) knownPermissions))
      (.not (coversSql row evidence.permissionLevelSnapshot))]

def automaticSql (item : ReviewItem) : Truth :=
  .all [
    .exist db.validations fun validation => .all [
      .eq (some validation.id) item.autoValidationId,
      .eq (some validation.reviewItemId) (some item.id),
      .ofBool (validation.status = .completed),
      .isIn validation.policyDecision [.autoApprove,.reuseTrusted]],
    .not (.exist db.rollout.audits fun audit => .and (.eq (some audit.reviewItemId) (some item.id))
      (.or (.ofBool (audit.status = .remediationRequired)) (.isIn audit.outcome criticalAuditOutcomes))),
    .not (.exist db.rollout.corrections fun correction => .and (.eq (some correction.reviewItemId) (some item.id))
      (.isIn (some correction.effectiveOutcome) criticalAuditOutcomes))]

def linkBranch (type : KnowledgeType) (target : Target) (link : TrustedKnowledgeApprovalLink) (item : ReviewItem) :
    Truth :=
  .all [
    .eq (some item.id) (some link.reviewItemId),
    .ofBool link.active,
    .isIn (some link.knowledgeType) (knowledgeTypeStorageAliases type.name),
    .eq (some link.knowledgeId) (some target.id),
    .ofBool (item.status = .approved),
    .eq item.resolutionSource (some link.resolutionSource),
    .isIn (some item.permissionLevel) knownPermissions,
    .isIn (some link.permissionLevel) knownPermissions,
    .ofBool (max (sqlRank item.permissionLevel) (sqlRank link.permissionLevel) ≤ sqlRank row.permissionLevel),
    .not (narrowerSnapshotSql db row item),
    .or (.and (.eq (some link.resolutionSource) (some (text "human")))
        (.eq item.candidateContractVersion (some (text "c5-v1"))))
      (.and (.eq (some link.resolutionSource) (some (text "auto_policy"))) (automaticSql db item)),
    someEvidenceSql letters db row link,
    .not (missingEvidenceSql letters db row link)]

def legacyBranch (target : Target) (item : ReviewItem) : Truth :=
  .all [
    .eq (some item.id) target.sourceReviewItemId,
    .ofBool (item.status = .approved),
    .or (.isNull item.resolutionSource) (.eq item.resolutionSource (some (text "human"))),
    .ofBool (item.candidateContractVersion ≠ some (text "c5-v1")),
    .isIn (some item.permissionLevel) knownPermissions,
    coversSql row item.permissionLevel]

/-- `_knowledge_target_branch`. -/
def knowledgeTargetBranch (type : KnowledgeType) : Truth :=
  .exist (db.targets.filter (·.type = type)) fun target => .all [
    .eq (some row.documentId) (some (type.name++text ":"++Json.renderInt target.id)),
    .ofBool (target.reviewStatus = .approved),
    .isIn (some target.permissionLevel) knownPermissions,
    coversSql row target.permissionLevel,
    .or (.exist db.links fun link => .exist db.items fun item => linkBranch letters db row type target link item)
      (.exist db.items fun item => legacyBranch row target item)]

/-- `_live_eligibility_sql` on one row. -/
def liveEligibilitySql (allowRagV2RawWrite : Bool) : Truth :=
  .or (chunkBranch letters db row allowRagV2RawWrite)
    ((knowledgeTypes.map (knowledgeTargetBranch letters db row)).foldr .or .fails)

end conditions

end ParaWorks.Knowledge
