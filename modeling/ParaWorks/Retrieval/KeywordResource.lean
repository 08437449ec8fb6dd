import ParaWorks.Knowledge.Rows
import ParaWorks.Retrieval.Contracts
import ParaWorks.Retrieval.KeywordPredicate

/-!
# The resource predicate of the keyword search

The predicate that the search renders to SQL, its bind values, and the classification of the same resources in
Python.
-/

namespace ParaWorks.Retrieval

open Lib Knowledge

/-! ## The predicate -/

def keywordAnd (children : List KeywordPredicate) : KeywordPredicate := .boolean .and children

def keywordOr (children : List KeywordPredicate) : KeywordPredicate := .boolean .or children

def keywordEq (left right : KeywordExpression) : KeywordPredicate := .comparison left .eq (some right)

def keywordText (t : Text) : KeywordExpression := .literal (some (.scalar (.str t)))

def keywordInt (n : Int) : KeywordExpression := .literal (some (.scalar (.int n)))

def keywordTexts (ts : List Text) : KeywordExpression := .literal (some (.tuple (ts.map fun t => some (.str t))))

def keywordCardinality (name : Text) : KeywordExpression := .function .cardinality [.parameter name]

def keywordSplitPart (expression : KeywordExpression) (index : Int) : KeywordExpression :=
  .function .splitPart [expression,keywordText (text ":"),keywordInt index]

def projectionDocumentId : KeywordExpression := .column (text "projection") (text "serving_document_id")

def projectionKind : KeywordExpression := .column (text "projection") (text "serving_kind")

def documentKind : KeywordExpression := keywordSplitPart projectionDocumentId 1

def documentRowId : KeywordExpression := .cast (keywordSplitPart projectionDocumentId 2) (text "bigint")

def keywordProjectBranch (kind table ruleName : Text) : KeywordPredicate :=
  keywordAnd [
    keywordEq documentKind (keywordText kind),
    .existence ⟨table,text "knowledge"⟩
      (keywordAnd [
        keywordEq (.column (text "knowledge") (text "id")) documentRowId,
        .rule ruleName (.comparison (.column (text "knowledge") (text "project_key")) .equalAny
          (some (.parameter (text "project_keys"))))])
      .exist]

def keywordApprovalTarget (activeRuleName : Text) : KeywordPredicate :=
  keywordAnd [
    keywordOr [
      keywordAnd [
        keywordEq documentKind (keywordText (text "decision_record")),
        .comparison (.column (text "approval") (text "knowledge_type")) .isIn
          (some (keywordTexts [text "decision",text "decision_record"]))],
      keywordAnd [
        .comparison documentKind .ne (some (keywordText (text "decision_record"))),
        keywordEq (.column (text "approval") (text "knowledge_type")) documentKind]],
    keywordEq (.column (text "approval") (text "knowledge_id")) documentRowId,
    .rule activeRuleName (.comparison (.column (text "approval") (text "active")) .isTrue none)]

def rawResourcePredicate : KeywordPredicate :=
  keywordAnd [
    keywordEq projectionKind (keywordText (text "raw_chunk")),
    .comparison (.parameter (text "project_keys")) .isNotNull none,
    .comparison (.parameter (text "source_ids")) .isNotNull none,
    keywordEq (keywordCardinality (text "project_keys")) (keywordInt 0),
    keywordOr [
      keywordEq (keywordCardinality (text "source_ids")) (keywordInt 0),
      .existence ⟨text "document_chunks",text "chunk"⟩
        (keywordAnd [
          keywordEq (.column (text "chunk") (text "id")) documentRowId,
          .rule (text "raw_source_membership") (.comparison (.column (text "chunk") (text "source_id")) .equalAny
            (some (.parameter (text "source_ids"))))])
        .exist]]

def trustedProjectPredicate : KeywordPredicate :=
  keywordAnd [
    .comparison (.parameter (text "project_keys")) .isNotNull none,
    keywordOr [
      keywordEq (keywordCardinality (text "project_keys")) (keywordInt 0),
      keywordProjectBranch (text "decision_record") (text "decision_records") (text "decision_project_membership"),
      keywordProjectBranch (text "history_event") (text "history_events") (text "history_project_membership"),
      keywordProjectBranch (text "timeline_event") (text "timeline_events") (text "timeline_project_membership"),
      keywordProjectBranch (text "todo") (text "todos") (text "todo_project_membership")]]

def childOfApproval : KeywordPredicate :=
  keywordEq (.column (text "child") (text "approval_link_id")) (.column (text "approval") (text "id"))

def explicitLinkPredicate : KeywordPredicate :=
  .rule (text "explicit_link_exists") <| .existence ⟨text "trusted_knowledge_approval_links",text "approval"⟩
    (keywordAnd [
      keywordApprovalTarget (text "explicit_active"),
      .rule (text "explicit_workspace") (keywordEq (.column (text "approval") (text "security_scope_id"))
        (.parameter (text "workspace_scope_id"))),
      .rule (text "explicit_resolution") (.comparison (.column (text "approval") (text "resolution_source")) .isIn
        (some (keywordTexts [text "human",text "auto_policy"]))),
      .existence ⟨text "trusted_knowledge_evidence_links",text "child"⟩ childOfApproval .exist,
      .rule (text "explicit_sources_not_null") (.comparison (.parameter (text "source_id_texts")) .isNotNull none),
      keywordOr [
        .rule (text "explicit_source_empty") (keywordEq (keywordCardinality (text "source_id_texts")) (keywordInt 0)),
        .rule (text "every_child_violation_absence") (.existence ⟨text "trusted_knowledge_evidence_links",text "child"⟩
          (keywordAnd [
            childOfApproval,
            .comparison (.column (text "child") (text "canonical_source_id")) .notEqualAll
              (some (.parameter (text "source_id_texts")))])
          .notExist)]])
    .exist

def legacyLinkPredicate : KeywordPredicate :=
  keywordAnd [
    .comparison (.parameter (text "source_id_texts")) .isNotNull none,
    keywordEq (keywordCardinality (text "source_id_texts")) (keywordInt 0),
    .rule (text "legacy_active_link_absence") (.existence ⟨text "trusted_knowledge_approval_links",text "approval"⟩
      (keywordApprovalTarget (text "legacy_active")) .notExist)]

def postgresKeywordResourcePredicate : KeywordPredicate :=
  .rule (text "root_resource_group") <| keywordOr [
    rawResourcePredicate,
    keywordAnd [
      keywordEq projectionKind (keywordText (text "trusted_knowledge")),
      trustedProjectPredicate,
      keywordOr [explicitLinkPredicate,legacyLinkPredicate]]]

/-! ## Bind values -/

/-- The bind values that the predicate reads, of `build_postgres_keyword_bind_values`; none where it raises. -/
def buildPostgresKeywordBindValues (scope : SecurityScope) : Option (List (Text × KeywordValue)) := do
  let projectKeys := scope.projectConstraints.map (removePrefix projectPrefix)
  let sourceIdTexts := scope.sourceConstraints.map (removePrefix sourcePrefix)
  let sourceIds ← sourceIdTexts.mapM parseInt
  return [
    (text "project_keys",.tuple (projectKeys.map fun t => some (.str t))),
    (text "source_ids",.tuple (sourceIds.map fun n => some (.int n))),
    (text "source_id_texts",.tuple (sourceIdTexts.map fun t => some (.str t))),
    (text "workspace_scope_id",.scalar (.str scope.workspaceScopeId))]

/-- `bind_values.get(name)`. -/
def bindValue (values : List (Text × KeywordValue)) (name : Text) : Option KeywordValue :=
  (values.find? (·.1 = name)).map (·.2)

/-! ## Rows -/

structure ChunkRow where
  id : Int
  sourceId : Option Int

structure KnowledgeRow where
  type : KnowledgeType
  id : Int
  projectKey : Option Text

structure ApprovalRow where
  id : Int
  knowledgeType : Option Text
  knowledgeId : Option Int
  active : Option Bool
  securityScopeId : Option Text
  resolutionSource : Option Text

structure EvidenceRow where
  approvalLinkId : Option Int
  canonicalSourceId : Option Text

/-- The rows that relate to a resource; the ids of chunks and of knowledge rows are primary keys. -/
structure ResourceRows where
  chunks : List ChunkRow
  knowledge : List KnowledgeRow
  approvals : List ApprovalRow
  evidence : List EvidenceRow
  chunkIds : (chunks.map (·.id)).Nodup
  knowledgeIds : (knowledge.map fun k => (k.type,k.id)).Nodup

def knowledgeTable : KnowledgeType → Text
  | .decisionRecord => text "decision_records"
  | .historyEvent => text "history_events"
  | .timelineEvent => text "timeline_events"
  | .todo => text "todos"

def ChunkRow.relationRow (row : ChunkRow) : PostgresKeywordRelationRow :=
  ⟨text "document_chunks",[(text "id",some (.int row.id)),(text "source_id",row.sourceId.map .int)]⟩

def KnowledgeRow.relationRow (row : KnowledgeRow) : PostgresKeywordRelationRow :=
  ⟨knowledgeTable row.type,[(text "id",some (.int row.id)),(text "project_key",row.projectKey.map .str)]⟩

def ApprovalRow.relationRow (row : ApprovalRow) : PostgresKeywordRelationRow :=
  ⟨text "trusted_knowledge_approval_links",[(text "id",some (.int row.id)),
    (text "knowledge_type",row.knowledgeType.map .str),(text "knowledge_id",row.knowledgeId.map .int),
    (text "active",row.active.map .bool),(text "security_scope_id",row.securityScopeId.map .str),
    (text "resolution_source",row.resolutionSource.map .str)]⟩

def EvidenceRow.relationRow (row : EvidenceRow) : PostgresKeywordRelationRow :=
  ⟨text "trusted_knowledge_evidence_links",[(text "approval_link_id",row.approvalLinkId.map .int),
    (text "canonical_source_id",row.canonicalSourceId.map .str)]⟩

def ResourceRows.relationRows (rows : ResourceRows) : List PostgresKeywordRelationRow :=
  rows.chunks.map (·.relationRow)++rows.knowledge.map (·.relationRow)++rows.approvals.map (·.relationRow)++
    rows.evidence.map (·.relationRow)

/-! ## The classification in Python -/

/-- `_observation_is_consistent`; that two carriers are the same object is taken as their equality. -/
def observationIsConsistent (observation : IndexableSourceObservation) : Bool :=
  let identity := observation.identity
  let evidence := observation.evidence
  let rawVersion := observation.rawVersion
  identity.servingKind = .rawChunk && evidence.servingKind = .rawChunk && evidence.supportMode = .sourceObservation &&
    identity.versionEnvelope = .raw rawVersion && evidence.versionEnvelope = .raw rawVersion &&
    (match evidence.provenance with
      | .rawChunk provenance => provenance.rawVersion = rawVersion
      | .trusted _ => false) &&
    (identity.servingDocumentId = evidence.servingDocumentId &&
      evidence.servingDocumentId = rawVersion.servingDocumentId) &&
    (identity.publicSourceId = evidence.publicSourceId && evidence.publicSourceId = rawVersion.publicSourceId) &&
    (identity.effectivePermission = evidence.effectivePermission &&
      evidence.effectivePermission = rawVersion.effectivePermission) &&
    (identity.modelContentHmac = evidence.modelContentHmac && evidence.modelContentHmac = rawVersion.modelContentHmac) &&
    (identity.canonicalCitationProjectionHmac = evidence.canonicalCitationProjectionHmac &&
      evidence.canonicalCitationProjectionHmac = rawVersion.canonicalCitationProjectionHmac) &&
    identity.servingVersionFingerprint = evidence.servingVersionFingerprint

/-- `CanonicalSourceObservationEligibilityService.classify_access`. -/
def classifyAccess (scope : SecurityScope) (observation : IndexableSourceObservation) : EvidenceAccessClassification :=
  let permission := knownPermission observation.identity.effectivePermission
  if observationIsConsistent observation = false then
    ⟨.ineligible,.invalidScope,if permission = none then .unknownPermission else .deniedKnown⟩
  else
    ⟨.eligible,
      if scope.projectConstraints ≠ [] then .invalidScope
      else if scope.resourceScopeMode = .allCurrentScope ∨
          sourcePrefix++Json.renderInt observation.rawVersion.sourceRowId ∈ scope.sourceConstraints then .inScope
      else .outOfScope,
      match permission with
      | none => .unknownPermission
      | some level => if level ∈ scope.allowedPermissionLevels then .visible else .deniedKnown⟩

/-- A row of the link snapshot: the link's id, scope, resolution and the sources of its children. -/
structure LinkSnapshot where
  id : Int
  securityScopeId : Option Text
  resolutionSource : Option Text
  childIds : List (Option Text)

/-- A nullable text in a format string. -/
def formatted (value : Option Text) : Text := value.getD (text "None")

/-- The keys of `_RESOLUTION_PRIORITY`. -/
def resolutionSources : List Text := [text "human",text "auto_policy"]

/-- `_classify_trusted_resource_snapshot`. -/
def classifyTrustedResourceSnapshot (scope : SecurityScope) (projectKey : Option Text) (provenance : TrustedProvenance)
    (linkSnapshot : List LinkSnapshot) : ResourceScope :=
  if scope.projectConstraints ≠ [] ∧
      projectKey.all (fun key => projectPrefix++key ∉ scope.projectConstraints) = true then .outOfScope
  else if provenance.isLegacy then if scope.sourceConstraints ≠ [] then .outOfScope else .inScope
  else if linkSnapshot.any (fun link =>
      link.securityScopeId = some scope.workspaceScopeId && link.resolutionSource.any (· ∈ resolutionSources) &&
        link.childIds ≠ [] && !(scope.sourceConstraints ≠ [] &&
          link.childIds.any fun sourceId => sourcePrefix++formatted sourceId ∉ scope.sourceConstraints)) then .inScope
  else .outOfScope

namespace ResourceRows

variable (rows : ResourceRows)

def projectKey (type : KnowledgeType) (id : Int) : Option Text :=
  (rows.knowledge.find? fun k => k.type = type && k.id = id).bind (·.projectKey)

/-- The active links of a knowledge row under every alias of its type. -/
def activeLinks (type : KnowledgeType) (id : Int) : List ApprovalRow :=
  rows.approvals.filter fun a => a.knowledgeType.any (· ∈ knowledgeTypeStorageAliases type.name) &&
    a.knowledgeId = some id && a.active = some true

/-- `_trusted_resource_link_snapshot`, up to its order. -/
def linkSnapshot (type : KnowledgeType) (id : Int) : List LinkSnapshot :=
  (rows.activeLinks type id).map fun link => ⟨link.id,link.securityScopeId,link.resolutionSource,
    (rows.evidence.filter (·.approvalLinkId = some link.id)).map (·.canonicalSourceId)⟩

end ResourceRows

/-- A candidate over the rows, in any order. -/
structure CandidateOf (rows : ResourceRows) (documentId kind : Text) (candidate : PostgresKeywordResourceCandidate) :
    Prop where
  documentId : candidate.servingDocumentId = documentId
  kind : candidate.servingKind = kind
  rows : ∀ r, r ∈ candidate.relationRows ↔ r ∈ rows.relationRows

/-- The value of the predicate on a candidate; none where building the bind values or evaluating it raises. -/
def resourcePredicateValue (scope : SecurityScope) (candidate : PostgresKeywordResourceCandidate) : Option Truth :=
  (buildPostgresKeywordBindValues scope).bind fun values =>
    evaluatePostgresKeywordPredicate candidate (bindValue values) postgresKeywordResourcePredicate fun _ => none

end ParaWorks.Retrieval
