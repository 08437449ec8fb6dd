import ParaWorks.Retrieval.KeywordResource
import ParaWorks.Retrieval.KeywordRules

/-!
# The keyword search and the classification of resources

The resource predicate is true of exactly the resources that Python classifies as in scope.
-/

namespace ParaWorks.Retrieval

open Lib Knowledge

/-! ## Reading the candidate -/

section readings

variable {candidate : PostgresKeywordResourceCandidate} {bindValues : Text → Option KeywordValue}
  {context : RelationContext} {kind : Text} {id : Nat}

theorem colon_notMem_renderInt (n : Nat) : ofChar ':' ∉ Json.renderInt n := by
  intro h
  have hdigits : ∀ c ∈ Json.digits n, Json.isDigit c = true := fun c hc => Json.isDigit_of_mem_digits hc
  have hrender : Json.renderInt n = Json.digits n := by simp [Json.renderInt]
  rw [hrender] at h
  cases hdigits _ h

/-- A document id of a kind without a colon splits into the kind and the printed row id. -/
theorem splitOn_documentId (hkind : ofChar ':' ∉ kind) :
    (kind++text ":"++Json.renderInt id).splitOn (ofChar ':') = [kind,Json.renderInt id] := by
  have hjoin : kind++text ":"++Json.renderInt id = [ofChar ':'].intercalate [kind,Json.renderInt id] := by
    simp [List.intercalate,text]
  rw [hjoin]
  apply List.splitOn_intercalate
  · simp [hkind,colon_notMem_renderInt]
  · simp

theorem reads_documentId : Reads candidate bindValues context projectionDocumentId .str
    (some candidate.servingDocumentId) := by
  unfold Reads projectionDocumentId
  rw [evaluateKeywordExpression,if_pos rfl]
  rfl

theorem reads_kind : Reads candidate bindValues context projectionKind .str (some candidate.servingKind) := by
  unfold Reads projectionKind
  rw [evaluateKeywordExpression,if_pos rfl]
  rfl

theorem evaluate_splitPart {index : Int} (hid : candidate.servingDocumentId = kind++text ":"++Json.renderInt id)
    (hkind : ofChar ':' ∉ kind) (hindex : 1 ≤ index) :
    evaluateKeywordExpression candidate bindValues (keywordSplitPart projectionDocumentId index) context =
      some (some (.scalar (.str ([kind,Json.renderInt id].getD (index-1).toNat [])))) := by
  have hread : evaluateKeywordExpression candidate bindValues projectionDocumentId context =
      some (some (.scalar (.str candidate.servingDocumentId))) := reads_documentId
  rw [← splitOn_documentId hkind,← hid]
  simp [keywordSplitPart,evaluateKeywordExpression,evaluateKeywordArguments,hread,keywordText,keywordInt,
    applyKeywordFunction,text,hindex]

theorem reads_documentKind (hid : candidate.servingDocumentId = kind++text ":"++Json.renderInt id)
    (hkind : ofChar ':' ∉ kind) : Reads candidate bindValues context documentKind .str (some kind) :=
  evaluate_splitPart hid hkind le_rfl

theorem reads_documentRowId (hid : candidate.servingDocumentId = kind++text ":"++Json.renderInt id)
    (hkind : ofChar ':' ∉ kind) : Reads candidate bindValues context documentRowId .int (some (id : Int)) := by
  have hpart : evaluateKeywordExpression candidate bindValues (keywordSplitPart projectionDocumentId 2) context = _ :=
    evaluate_splitPart hid hkind (by decide)
  unfold Reads documentRowId
  rw [evaluateKeywordExpression,hpart]
  simp [castKeyword,parseInt_renderInt]

theorem reads_text (t : Text) : Reads candidate bindValues context (keywordText t) .str (some t) := by
  unfold Reads keywordText
  rw [evaluateKeywordExpression]
  rfl

theorem reads_int (n : Int) : Reads candidate bindValues context (keywordInt n) .int (some n) := by
  unfold Reads keywordInt
  rw [evaluateKeywordExpression]
  rfl

theorem reads_texts (ts : List Text) : ReadsTuple candidate bindValues context (keywordTexts ts) .str ts := by
  unfold ReadsTuple keywordTexts
  rw [evaluateKeywordExpression]

theorem reads_column {β : Type} {f : β → KeywordScalar} {v : Option β} {table name : Text}
    {row : PostgresKeywordRelationRow} (htable : table ≠ text "projection") (hrow : context table = some row)
    (hvalue : keywordRelationValue row name = v.map f) : Reads candidate bindValues context (.column table name) f v := by
  unfold Reads
  rw [evaluateKeywordExpression,if_neg htable,hrow,Option.bind_some,hvalue,Option.map_map]
  rfl

end readings

/-! ## Bind values -/

/-- The bind values are those of a scope with these project keys and source ids. -/
structure Binds (scope : SecurityScope) (keys : List Text) (identifiers : List Int)
    (bindValues : Text → Option KeywordValue) : Prop where
  projects : scope.projectConstraints = keys.map (projectPrefix++·)
  sources : scope.sourceConstraints = identifiers.map (sourcePrefix++Json.renderInt ·)
  projectKeys : bindValues (text "project_keys") = some (.tuple (keys.map fun t => some (.str t)))
  sourceIds : bindValues (text "source_ids") = some (.tuple (identifiers.map fun n => some (.int n)))
  sourceIdTexts : bindValues (text "source_id_texts") =
    some (.tuple ((identifiers.map Json.renderInt).map fun t => some (.str t)))
  workspace : bindValues (text "workspace_scope_id") = some (.scalar (.str scope.workspaceScopeId))

theorem sourceConstraints_spec {values : List Text} {identifiers : List Int}
    (h : values.mapM sourceIdentifier = some identifiers) :
    values = identifiers.map (sourcePrefix++Json.renderInt ·) ∧
      (values.map (removePrefix sourcePrefix)).mapM parseInt = some identifiers := by
  induction values generalizing identifiers with
  | nil =>
    obtain rfl : [] = identifiers := by simpa using h
    exact ⟨rfl,rfl⟩
  | cons value values ih =>
    simp only [List.mapM_cons,Option.bind_eq_bind,Option.bind_eq_some_iff,Option.pure_def,Option.some.injEq] at h
    obtain ⟨n,hn,ns,hns,rfl⟩ := h
    obtain ⟨hvalue,hparse,-⟩ := sourceIdentifier_spec hn
    obtain ⟨hvalues,hparses⟩ := ih hns
    refine ⟨by rw [List.map_cons,← hvalue,← hvalues],?_⟩
    rw [List.map_cons,List.mapM_cons,hparse,hparses]
    rfl

theorem projectConstraints_spec {values : List Text} (h : ∀ value ∈ values, ∃ key, value = projectPrefix++key) :
    values = (values.map (removePrefix projectPrefix)).map (projectPrefix++·) := by
  rw [List.map_map]
  have hid : values.map id = values.map ((projectPrefix++·) ∘ removePrefix projectPrefix) := by
    apply List.map_congr_left
    intro value hvalue
    obtain ⟨key,rfl⟩ := h value hvalue
    simp [removePrefix_append]
  rwa [List.map_id] at hid

/-- A valid scope has its bind values. -/
theorem binds_of_valid {scope : SecurityScope} (h : scope.Valid) : ∃ values keys identifiers,
    buildPostgresKeywordBindValues scope = some values ∧ Binds scope keys identifiers (bindValue values) := by
  obtain ⟨identifiers,hidentifiers⟩ := h.sources
  obtain ⟨hsources,hparses⟩ := sourceConstraints_spec hidentifiers
  have htexts : scope.sourceConstraints.map (removePrefix sourcePrefix) = identifiers.map Json.renderInt := by
    rw [hsources,List.map_map]
    apply List.map_congr_left
    intro n _
    exact removePrefix_append _ _
  refine ⟨_,scope.projectConstraints.map (removePrefix projectPrefix),identifiers,
    by rw [buildPostgresKeywordBindValues,hparses]; rfl,?_⟩
  exact ⟨projectConstraints_spec h.projects,hsources,rfl,rfl,by rw [← htexts]; rfl,rfl⟩

/-! ## Evaluation on the rows of a resource -/

section evaluation

variable {scope : SecurityScope} {keys : List Text} {identifiers : List Int} {rows : ResourceRows}
  {candidate : PostgresKeywordResourceCandidate} {bindValues : Text → Option KeywordValue}
  {context : RelationContext} {kind servingKind : Text} {id : Nat}

theorem relation_chunks (hc : CandidateOf rows (kind++text ":"++Json.renderInt id) servingKind candidate)
    (r : PostgresKeywordRelationRow) : r ∈ candidate.relationRows ∧ r.relation = text "document_chunks" ↔
      ∃ c ∈ rows.chunks, r = c.relationRow := by
  rw [hc.rows]
  simp only [ResourceRows.relationRows,List.mem_append,List.mem_map]
  constructor
  · rintro ⟨((⟨c,hmem,rfl⟩ | ⟨k,-,rfl⟩) | ⟨a,-,rfl⟩) | ⟨e,-,rfl⟩,hrelation⟩
    · exact ⟨c,hmem,rfl⟩
    · cases htype : k.type <;> simp [KnowledgeRow.relationRow,knowledgeTable,htype] at hrelation <;>
        exact absurd hrelation (by decide)
    · exact absurd hrelation (by change text "trusted_knowledge_approval_links" ≠ _; decide)
    · exact absurd hrelation (by change text "trusted_knowledge_evidence_links" ≠ _; decide)
  · rintro ⟨c,hmem,rfl⟩
    exact ⟨.inl (.inl (.inl ⟨c,hmem,rfl⟩)),rfl⟩

theorem relation_knowledge (hc : CandidateOf rows (kind++text ":"++Json.renderInt id) servingKind candidate)
    (type : KnowledgeType) (r : PostgresKeywordRelationRow) :
    r ∈ candidate.relationRows ∧ r.relation = knowledgeTable type ↔
      ∃ k ∈ rows.knowledge.filter (·.type = type), r = k.relationRow := by
  have hchunks : text "document_chunks" ≠ knowledgeTable type := by cases type <;> decide
  have happrovals : text "trusted_knowledge_approval_links" ≠ knowledgeTable type := by cases type <;> decide
  have hevidence : text "trusted_knowledge_evidence_links" ≠ knowledgeTable type := by cases type <;> decide
  have hinjective : ∀ type', knowledgeTable type' = knowledgeTable type → type' = type := by
    intro type' h
    cases type' <;> cases type <;> first | rfl | exact absurd h (by decide)
  rw [hc.rows]
  simp only [ResourceRows.relationRows,List.mem_append,List.mem_map]
  constructor
  · rintro ⟨((⟨c,-,rfl⟩ | ⟨k,hmem,rfl⟩) | ⟨a,-,rfl⟩) | ⟨e,-,rfl⟩,hrelation⟩
    · exact absurd hrelation hchunks
    · exact ⟨k,List.mem_filter.mpr ⟨hmem,by simpa using hinjective _ hrelation⟩,rfl⟩
    · exact absurd hrelation happrovals
    · exact absurd hrelation hevidence
  · rintro ⟨k,hk,rfl⟩
    obtain ⟨hmem,htype⟩ := List.mem_filter.mp hk
    rw [decide_eq_true_eq] at htype
    exact ⟨.inl (.inl (.inr ⟨k,hmem,rfl⟩)),congrArg knowledgeTable htype⟩

theorem relation_approvals (hc : CandidateOf rows (kind++text ":"++Json.renderInt id) servingKind candidate)
    (r : PostgresKeywordRelationRow) : r ∈ candidate.relationRows ∧ r.relation = text "trusted_knowledge_approval_links" ↔
      ∃ a ∈ rows.approvals, r = a.relationRow := by
  rw [hc.rows]
  simp only [ResourceRows.relationRows,List.mem_append,List.mem_map]
  constructor
  · rintro ⟨((⟨c,-,rfl⟩ | ⟨k,-,rfl⟩) | ⟨a,hmem,rfl⟩) | ⟨e,-,rfl⟩,hrelation⟩
    · exact absurd hrelation (by change text "document_chunks" ≠ _; decide)
    · cases htype : k.type <;> simp [KnowledgeRow.relationRow,knowledgeTable,htype] at hrelation <;>
        exact absurd hrelation (by decide)
    · exact ⟨a,hmem,rfl⟩
    · exact absurd hrelation (by change text "trusted_knowledge_evidence_links" ≠ _; decide)
  · rintro ⟨a,hmem,rfl⟩
    exact ⟨.inl (.inr ⟨a,hmem,rfl⟩),rfl⟩

theorem relation_evidence (hc : CandidateOf rows (kind++text ":"++Json.renderInt id) servingKind candidate)
    (r : PostgresKeywordRelationRow) : r ∈ candidate.relationRows ∧ r.relation = text "trusted_knowledge_evidence_links" ↔
      ∃ e ∈ rows.evidence, r = e.relationRow := by
  rw [hc.rows]
  simp only [ResourceRows.relationRows,List.mem_append,List.mem_map]
  constructor
  · rintro ⟨((⟨c,-,rfl⟩ | ⟨k,-,rfl⟩) | ⟨a,-,rfl⟩) | ⟨e,hmem,rfl⟩,hrelation⟩
    · exact absurd hrelation (by change text "document_chunks" ≠ _; decide)
    · cases htype : k.type <;> simp [KnowledgeRow.relationRow,knowledgeTable,htype] at hrelation <;>
        exact absurd hrelation (by decide)
    · exact absurd hrelation (by change text "trusted_knowledge_approval_links" ≠ _; decide)
    · exact ⟨e,hmem,rfl⟩
  · rintro ⟨e,hmem,rfl⟩
    exact ⟨.inr ⟨e,hmem,rfl⟩,rfl⟩

theorem evaluates_empty {β : Type} {f : β → KeywordScalar} {ts : List β} {name : Text}
    (h : bindValues name = some (.tuple (ts.map fun b => some (f b)))) :
    Evaluates candidate bindValues context (keywordEq (keywordCardinality name) (keywordInt 0)) (ts = []) := by
  have hread : Reads candidate bindValues context (keywordCardinality name) .int (some (ts.length : Int)) := by
    unfold Reads keywordCardinality
    simp [evaluateKeywordExpression,evaluateKeywordArguments,h,applyKeywordFunction]
  refine (Evaluates.eq faithful_int hread (reads_int 0)).congr ?_
  have hzero : (∃ n : Int, some (ts.length : Int) = some n ∧ some 0 = some n) ↔ (ts.length : Int) = 0 := by
    simp [eq_comm]
  rw [hzero]
  simp

theorem readsTuple_parameter {β : Type} {f : β → KeywordScalar} {ts : List β} {name : Text}
    (h : bindValues name = some (.tuple (ts.map fun b => some (f b)))) :
    ReadsTuple candidate bindValues context (.parameter name) f ts := by
  unfold ReadsTuple
  rw [evaluateKeywordExpression,h]

theorem evaluates_bound {name : Text} {value : KeywordValue} (h : bindValues name = some value) :
    Evaluates candidate bindValues context (.comparison (.parameter name) .isNotNull none) True := by
  have hread : evaluateKeywordExpression candidate bindValues (.parameter name) context = some (some value) := by
    rw [evaluateKeywordExpression,h]
  exact (Evaluates.isNotNull hread).congr (by simp)

/-- A raw chunk without project constraints, in all sources or in one of the constraints. -/
theorem evaluates_raw (hb : Binds scope keys identifiers bindValues)
    (hc : CandidateOf rows (kind++text ":"++Json.renderInt id) servingKind candidate) (hkind : ofChar ':' ∉ kind) :
    Evaluates candidate bindValues context rawResourcePredicate (servingKind = text "raw_chunk" ∧ keys = [] ∧
      (identifiers = [] ∨ ∃ c ∈ rows.chunks, c.id = id ∧ ∃ n ∈ identifiers, c.sourceId = some n)) := by
  have hraw : Evaluates candidate bindValues context (keywordEq projectionKind (keywordText (text "raw_chunk")))
      (servingKind = text "raw_chunk") := by
    refine (Evaluates.eq faithful_str reads_kind (reads_text _)).congr ?_
    rw [hc.kind]
    simp [eq_comm]
  have hchunk : ∀ c ∈ rows.chunks, Evaluates candidate bindValues
      (Function.update context (text "chunk") (some c.relationRow))
      (keywordAnd [
        keywordEq (.column (text "chunk") (text "id")) documentRowId,
        .rule (text "raw_source_membership") (.comparison (.column (text "chunk") (text "source_id")) .equalAny
          (some (.parameter (text "source_ids"))))])
      (c.id = id ∧ ∃ n ∈ identifiers, c.sourceId = some n) := by
    intro c _
    have hrow : Function.update context (text "chunk") (some c.relationRow) (text "chunk") = some c.relationRow :=
      Function.update_self _ _ _
    have hid : Reads candidate bindValues (Function.update context (text "chunk") (some c.relationRow))
        (.column (text "chunk") (text "id")) .int (some c.id) := reads_column (by decide) hrow rfl
    have hsource : Reads candidate bindValues (Function.update context (text "chunk") (some c.relationRow))
        (.column (text "chunk") (text "source_id")) .int c.sourceId := reads_column (by decide) hrow rfl
    refine (Evaluates.and_cons (.eq faithful_int hid (reads_documentRowId hc.documentId hkind))
      (.and_cons (.rule (.equalAny faithful_int hsource (readsTuple_parameter hb.sourceIds))) .and_nil)).congr ?_
    simp [eq_comm]
  refine (Evaluates.and_cons hraw (.and_cons (evaluates_bound hb.projectKeys) (.and_cons (evaluates_bound hb.sourceIds)
    (.and_cons (evaluates_empty hb.projectKeys) (.and_cons (.or_cons (evaluates_empty hb.sourceIds)
      (.or_cons (.exist (relation_chunks hc) hchunk) .or_nil)) .and_nil))))).congr ?_
  simp

theorem evaluates_projectBranch (hb : Binds scope keys identifiers bindValues)
    (hc : CandidateOf rows (kind++text ":"++Json.renderInt id) servingKind candidate) (hkind : ofChar ':' ∉ kind)
    (type : KnowledgeType) (ruleName : Text) :
    Evaluates candidate bindValues context (keywordProjectBranch type.name (knowledgeTable type) ruleName)
      (kind = type.name ∧ ∃ k ∈ rows.knowledge.filter (·.type = type), k.id = id ∧ ∃ key ∈ keys,
        k.projectKey = some key) := by
  have hknowledge : ∀ k ∈ rows.knowledge.filter (·.type = type), Evaluates candidate bindValues
      (Function.update context (text "knowledge") (some k.relationRow))
      (keywordAnd [
        keywordEq (.column (text "knowledge") (text "id")) documentRowId,
        .rule ruleName (.comparison (.column (text "knowledge") (text "project_key")) .equalAny
          (some (.parameter (text "project_keys"))))])
      (k.id = id ∧ ∃ key ∈ keys, k.projectKey = some key) := by
    intro k _
    have hrow : Function.update context (text "knowledge") (some k.relationRow) (text "knowledge") =
        some k.relationRow := Function.update_self _ _ _
    have hid : Reads candidate bindValues (Function.update context (text "knowledge") (some k.relationRow))
        (.column (text "knowledge") (text "id")) .int (some k.id) := reads_column (by decide) hrow rfl
    have hproject : Reads candidate bindValues (Function.update context (text "knowledge") (some k.relationRow))
        (.column (text "knowledge") (text "project_key")) .str k.projectKey := reads_column (by decide) hrow rfl
    refine (Evaluates.and_cons (.eq faithful_int hid (reads_documentRowId hc.documentId hkind))
      (.and_cons (.rule (.equalAny faithful_str hproject (readsTuple_parameter hb.projectKeys))) .and_nil)).congr ?_
    simp [eq_comm]
  refine (Evaluates.and_cons (.eq faithful_str (reads_documentKind hc.documentId hkind) (reads_text _))
    (.and_cons (.exist (relation_knowledge hc type) hknowledge) .and_nil)).congr ?_
  simp [eq_comm]

/-- The project of the knowledge row is one of the constraints, if there are any. -/
theorem evaluates_trustedProject (hb : Binds scope keys identifiers bindValues)
    (hc : CandidateOf rows (kind++text ":"++Json.renderInt id) servingKind candidate) (hkind : ofChar ':' ∉ kind) :
    Evaluates candidate bindValues context trustedProjectPredicate (keys = [] ∨ ∃ type : KnowledgeType,
      kind = type.name ∧ ∃ k ∈ rows.knowledge.filter (·.type = type), k.id = id ∧ ∃ key ∈ keys,
        k.projectKey = some key) := by
  have hbranch : ∀ (type : KnowledgeType) ruleName, Evaluates candidate bindValues context
      (keywordProjectBranch type.name (knowledgeTable type) ruleName) _ :=
    fun type ruleName => evaluates_projectBranch hb hc hkind type ruleName
  refine (Evaluates.and_cons (evaluates_bound hb.projectKeys) (.and_cons (.or_cons (evaluates_empty hb.projectKeys)
    (.or_cons (hbranch .decisionRecord _) (.or_cons (hbranch .historyEvent _) (.or_cons (hbranch .timelineEvent _)
      (.or_cons (hbranch .todo _) .or_nil))))) .and_nil)).congr ?_
  rw [true_and,and_true,or_false]
  apply or_congr_right
  constructor
  · rintro (h | h | h | h)
    · exact ⟨_,h⟩
    · exact ⟨_,h⟩
    · exact ⟨_,h⟩
    · exact ⟨_,h⟩
  · rintro ⟨type,h⟩
    cases type with
    | decisionRecord => exact .inl h
    | historyEvent => exact .inr (.inl h)
    | timelineEvent => exact .inr (.inr (.inl h))
    | todo => exact .inr (.inr (.inr h))

/-- The link is an active one of the resource, under an alias of its kind. -/
def Approves (kind : Text) (id : Nat) (a : ApprovalRow) : Prop :=
  (kind = text "decision_record" ∧ (∃ t ∈ [text "decision",text "decision_record"], a.knowledgeType = some t) ∨
    kind ≠ text "decision_record" ∧ a.knowledgeType = some kind) ∧ a.knowledgeId = some (id : Int) ∧
      a.active = some true

theorem evaluates_approvalTarget {a : ApprovalRow}
    (hc : CandidateOf rows (kind++text ":"++Json.renderInt id) servingKind candidate) (hkind : ofChar ':' ∉ kind)
    (hrow : context (text "approval") = some a.relationRow) (ruleName : Text) :
    Evaluates candidate bindValues context (keywordApprovalTarget ruleName) (Approves kind id a) := by
  have htype : Reads candidate bindValues context (.column (text "approval") (text "knowledge_type")) .str
      a.knowledgeType := reads_column (by decide) hrow rfl
  have hid : Reads candidate bindValues context (.column (text "approval") (text "knowledge_id")) .int a.knowledgeId :=
    reads_column (by decide) hrow rfl
  have hactive : Reads candidate bindValues context (.column (text "approval") (text "active")) .bool a.active :=
    reads_column (by decide) hrow rfl
  have hdocument : Reads candidate bindValues context documentKind .str (some kind) :=
    reads_documentKind hc.documentId hkind
  refine (Evaluates.and_cons
    (.or_cons
      (.and_cons (.eq faithful_str hdocument (reads_text _)) (.and_cons (.isIn faithful_str htype (reads_texts _)) .and_nil))
      (.or_cons
        (.and_cons (.ne faithful_str hdocument (reads_text _)) (.and_cons (.eq faithful_str htype hdocument) .and_nil))
        .or_nil))
    (.and_cons (.eq faithful_int hid (reads_documentRowId hc.documentId hkind))
      (.and_cons (.rule (.isTrue hactive)) .and_nil))).congr ?_
  simp [Approves,eq_comm]

/-- The children of the link, all of them of a source in the constraints. -/
def ChildrenCovered (rows : ResourceRows) (identifiers : List Int) (a : ApprovalRow) : Prop :=
  (∃ e ∈ rows.evidence, e.approvalLinkId = some a.id) ∧ (identifiers = [] ∨ ¬∃ e ∈ rows.evidence,
    e.approvalLinkId = some a.id ∧ (identifiers.map Json.renderInt = [] ∨
      ∃ s, e.canonicalSourceId = some s ∧ s ∉ identifiers.map Json.renderInt))

theorem evaluates_explicitLink (hb : Binds scope keys identifiers bindValues)
    (hc : CandidateOf rows (kind++text ":"++Json.renderInt id) servingKind candidate) (hkind : ofChar ':' ∉ kind) :
    Evaluates candidate bindValues context explicitLinkPredicate (∃ a ∈ rows.approvals, Approves kind id a ∧
      a.securityScopeId = some scope.workspaceScopeId ∧ (∃ s ∈ resolutionSources, a.resolutionSource = some s) ∧
        ChildrenCovered rows identifiers a) := by
  refine .rule (.exist (relation_approvals hc) ?_)
  intro a _
  obtain ⟨inner,hinner⟩ : ∃ inner, Function.update context (text "approval") (some a.relationRow) = inner := ⟨_,rfl⟩
  have hrow : inner (text "approval") = some a.relationRow := by rw [← hinner,Function.update_self]
  rw [hinner]
  have hscope : Reads candidate bindValues inner (.column (text "approval") (text "security_scope_id")) .str
      a.securityScopeId := reads_column (by decide) hrow rfl
  have hresolution : Reads candidate bindValues inner (.column (text "approval") (text "resolution_source")) .str
      a.resolutionSource := reads_column (by decide) hrow rfl
  have hworkspace : Reads candidate bindValues inner (.parameter (text "workspace_scope_id")) .str
      (some scope.workspaceScopeId) := by
    unfold Reads
    rw [evaluateKeywordExpression,hb.workspace]
    rfl
  have hchild : ∀ e : EvidenceRow, Evaluates candidate bindValues
      (Function.update inner (text "child") (some e.relationRow)) childOfApproval (e.approvalLinkId = some a.id) := by
    intro e
    have happroval : Function.update inner (text "child") (some e.relationRow) (text "approval") = some a.relationRow := by
      rw [Function.update_of_ne (by decide),hrow]
    have hself : Function.update inner (text "child") (some e.relationRow) (text "child") = some e.relationRow :=
      Function.update_self _ _ _
    have hlink : Reads candidate bindValues (Function.update inner (text "child") (some e.relationRow))
        (.column (text "child") (text "approval_link_id")) .int e.approvalLinkId := reads_column (by decide) hself rfl
    have hid : Reads candidate bindValues (Function.update inner (text "child") (some e.relationRow))
        (.column (text "approval") (text "id")) .int (some a.id) := reads_column (by decide) happroval rfl
    refine (Evaluates.eq faithful_int hlink hid).congr ?_
    simp [eq_comm]
  have hviolation : ∀ e ∈ rows.evidence, Evaluates candidate bindValues
      (Function.update inner (text "child") (some e.relationRow))
      (keywordAnd [childOfApproval,.comparison (.column (text "child") (text "canonical_source_id")) .notEqualAll
        (some (.parameter (text "source_id_texts")))])
      (e.approvalLinkId = some a.id ∧ (identifiers.map Json.renderInt = [] ∨
        ∃ s, e.canonicalSourceId = some s ∧ s ∉ identifiers.map Json.renderInt)) := by
    intro e _
    have hself : Function.update inner (text "child") (some e.relationRow) (text "child") = some e.relationRow :=
      Function.update_self _ _ _
    have hsource : Reads candidate bindValues (Function.update inner (text "child") (some e.relationRow))
        (.column (text "child") (text "canonical_source_id")) .str e.canonicalSourceId :=
      reads_column (by decide) hself rfl
    refine (Evaluates.and_cons (hchild e) (.and_cons (.notEqualAll faithful_str hsource
      (readsTuple_parameter hb.sourceIdTexts)) .and_nil)).congr ?_
    rw [and_true]
  refine (Evaluates.and_cons (evaluates_approvalTarget hc hkind hrow _)
    (.and_cons (.rule (.eq faithful_str hscope hworkspace))
    (.and_cons (.rule (.isIn faithful_str hresolution (reads_texts _)))
    (.and_cons (.exist (relation_evidence hc) fun e _ => hchild e)
    (.and_cons (.rule (evaluates_bound hb.sourceIdTexts))
    (.and_cons (.or_cons (.rule (evaluates_empty hb.sourceIdTexts))
      (.or_cons (.rule (.notExist (relation_evidence hc) hviolation)) .or_nil)) .and_nil)))))).congr ?_
  simp [ChildrenCovered,resolutionSources,eq_comm]

theorem evaluates_legacyLink (hb : Binds scope keys identifiers bindValues)
    (hc : CandidateOf rows (kind++text ":"++Json.renderInt id) servingKind candidate) (hkind : ofChar ':' ∉ kind) :
    Evaluates candidate bindValues context legacyLinkPredicate
      (identifiers = [] ∧ ¬∃ a ∈ rows.approvals, Approves kind id a) := by
  have htarget : ∀ a ∈ rows.approvals, Evaluates candidate bindValues
      (Function.update context (text "approval") (some a.relationRow)) (keywordApprovalTarget (text "legacy_active"))
      (Approves kind id a) := by
    intro a _
    exact evaluates_approvalTarget hc hkind (Function.update_self _ _ _) _
  refine (Evaluates.and_cons (evaluates_bound hb.sourceIdTexts) (.and_cons (evaluates_empty hb.sourceIdTexts)
    (.and_cons (.rule (.notExist (relation_approvals hc) htarget)) .and_nil))).congr ?_
  rw [true_and,and_true,List.map_eq_nil_iff]

/-- When the predicate is true of a candidate over the rows. -/
theorem evaluates_resource (hb : Binds scope keys identifiers bindValues)
    (hc : CandidateOf rows (kind++text ":"++Json.renderInt id) servingKind candidate) (hkind : ofChar ':' ∉ kind) :
    Evaluates candidate bindValues context postgresKeywordResourcePredicate
      (servingKind = text "raw_chunk" ∧ keys = [] ∧
          (identifiers = [] ∨ ∃ c ∈ rows.chunks, c.id = id ∧ ∃ n ∈ identifiers, c.sourceId = some n) ∨
        servingKind = text "trusted_knowledge" ∧ (keys = [] ∨ ∃ type : KnowledgeType, kind = type.name ∧
            ∃ k ∈ rows.knowledge.filter (·.type = type), k.id = id ∧ ∃ key ∈ keys, k.projectKey = some key) ∧
          ((∃ a ∈ rows.approvals, Approves kind id a ∧ a.securityScopeId = some scope.workspaceScopeId ∧
              (∃ s ∈ resolutionSources, a.resolutionSource = some s) ∧ ChildrenCovered rows identifiers a) ∨
            identifiers = [] ∧ ¬∃ a ∈ rows.approvals, Approves kind id a)) := by
  have htrusted : Evaluates candidate bindValues context
      (keywordEq projectionKind (keywordText (text "trusted_knowledge"))) (servingKind = text "trusted_knowledge") := by
    refine (Evaluates.eq faithful_str reads_kind (reads_text _)).congr ?_
    rw [hc.kind]
    simp [eq_comm]
  refine (Evaluates.rule (.or_cons (evaluates_raw hb hc hkind) (.or_cons (.and_cons htrusted
    (.and_cons (evaluates_trustedProject hb hc hkind) (.and_cons (.or_cons (evaluates_explicitLink hb hc hkind)
      (.or_cons (evaluates_legacyLink hb hc hkind) .or_nil)) .and_nil))) .or_nil))).congr ?_
  rw [or_false,or_false,and_true]

end evaluation

/-! ## Agreement with the classification -/

theorem mem_sources {identifiers : List Int} {n : Int} :
    sourcePrefix++Json.renderInt n ∈ identifiers.map (sourcePrefix++Json.renderInt ·) ↔ n ∈ identifiers := by
  constructor
  · intro h
    obtain ⟨m,hm,heq⟩ := List.mem_map.mp h
    obtain rfl := renderInt_injective (List.append_cancel_left heq)
    exact hm
  · exact fun h => List.mem_map.mpr ⟨n,h,rfl⟩

/-- The observation of a chunk, read from its row and the row of its source. -/
structure ResourceRows.Observed (rows : ResourceRows) (id : Int) (observation : IndexableSourceObservation) : Prop where
  consistent : observationIsConsistent observation = true
  chunk : ∃ c ∈ rows.chunks, c.id = id ∧ c.sourceId = some observation.rawVersion.sourceRowId

theorem classifyAccess_inScope {scope : SecurityScope} {observation : IndexableSourceObservation}
    (hconsistent : observationIsConsistent observation = true) :
    (classifyAccess scope observation).resourceScope = .inScope ↔ scope.projectConstraints = [] ∧
      (scope.resourceScopeMode = .allCurrentScope ∨
        sourcePrefix++Json.renderInt observation.rawVersion.sourceRowId ∈ scope.sourceConstraints) := by
  unfold classifyAccess
  rw [if_neg (by simp [hconsistent])]
  dsimp only
  by_cases hprojects : scope.projectConstraints = []
  · rw [if_neg (not_not.mpr hprojects)]
    by_cases hsource : scope.resourceScopeMode = .allCurrentScope ∨
        sourcePrefix++Json.renderInt observation.rawVersion.sourceRowId ∈ scope.sourceConstraints
    · simp [hprojects,hsource]
    · simp [hsource]
  · simp [hprojects]

theorem approves_iff {type : KnowledgeType} {id : Nat} {a : ApprovalRow} : Approves type.name id a ↔
    a.knowledgeType.any (· ∈ knowledgeTypeStorageAliases type.name) = true ∧ a.knowledgeId = some (id : Int) ∧
      a.active = some true := by
  unfold Approves
  apply and_congr_left
  intro _
  have haliases : knowledgeTypeStorageAliases type.name = if type.name = text "decision_record" then
      [text "decision",text "decision_record"] else [type.name] := by cases type <;> decide
  rw [haliases]
  cases a.knowledgeType with
  | none => simp
  | some t =>
    by_cases hname : type.name = text "decision_record"
    · simp [hname]
    · simp [hname]

theorem mem_activeLinks {rows : ResourceRows} {type : KnowledgeType} {id : Nat} {a : ApprovalRow} :
    a ∈ rows.activeLinks type id ↔ a ∈ rows.approvals ∧ Approves type.name id a := by
  rw [ResourceRows.activeLinks,List.mem_filter,approves_iff]
  simp [and_assoc]

/-- The one knowledge row of an id has the project key that Python reads. -/
theorem projectKey_iff {rows : ResourceRows} {type : KnowledgeType} {id : Int} {keys : List Text} :
    (∃ k ∈ rows.knowledge.filter (·.type = type), k.id = id ∧ ∃ key ∈ keys, k.projectKey = some key) ↔
      ∃ key ∈ keys, rows.projectKey type id = some key := by
  constructor
  · rintro ⟨k,hk,hid,key,hkey,hproject⟩
    obtain ⟨hmem,htype⟩ := List.mem_filter.mp hk
    rw [decide_eq_true_eq] at htype
    have hfound : (rows.knowledge.find? fun k => k.type = type && k.id = id) = some k := by
      have h := find?_of_nodup rows.knowledgeIds hmem
      simpa [htype,hid] using h
    exact ⟨key,hkey,by rw [ResourceRows.projectKey,hfound,Option.bind_some,hproject]⟩
  · rintro ⟨key,hkey,hproject⟩
    obtain ⟨k,hfound,hk⟩ := Option.bind_eq_some_iff.mp hproject
    obtain ⟨hmem,hmatch⟩ := find?_spec hfound
    simp only [Bool.and_eq_true,decide_eq_true_eq] at hmatch
    exact ⟨k,List.mem_filter.mpr ⟨hmem,by simpa using hmatch.1⟩,hmatch.2,key,hkey,hk⟩

/-- A link of the snapshot that `_classify_trusted_resource_snapshot` accepts. -/
theorem childrenCovered_iff {rows : ResourceRows} {identifiers : List Int} {a : ApprovalRow}
    (hnonnull : ∀ e ∈ rows.evidence, e.canonicalSourceId ≠ none) : ChildrenCovered rows identifiers a ↔
      (rows.evidence.filter (·.approvalLinkId = some a.id)).map (·.canonicalSourceId) ≠ [] ∧
        (identifiers ≠ [] → ∀ sourceId ∈ (rows.evidence.filter (·.approvalLinkId = some a.id)).map (·.canonicalSourceId),
          sourcePrefix++formatted sourceId ∈ identifiers.map (sourcePrefix++Json.renderInt ·)) := by
  apply and_congr
  · simp [List.filter_eq_nil_iff]
  · by_cases hempty : identifiers = []
    · simp [hempty]
    · have hmapped : identifiers.map Json.renderInt ≠ [] := by simpa using hempty
      simp only [hempty,hmapped,false_or,ne_eq,not_false_eq_true,true_imp_iff,not_exists,not_and]
      constructor
      · intro h sourceId hsourceId
        obtain ⟨e,he,rfl⟩ := List.mem_map.mp hsourceId
        obtain ⟨hmem,hlink⟩ := List.mem_filter.mp he
        obtain ⟨s,hs⟩ := Option.ne_none_iff_exists'.mp (hnonnull e hmem)
        have hcovered : s ∈ identifiers.map Json.renderInt := not_not.mp (h e hmem (by simpa using hlink) s hs)
        obtain ⟨n,hn,rfl⟩ := List.mem_map.mp hcovered
        rw [hs]
        exact List.mem_map.mpr ⟨n,hn,rfl⟩
      · intro h e hmem hlink s hs hs'
        have hcovered := h e.canonicalSourceId (List.mem_map.mpr ⟨e,List.mem_filter.mpr ⟨hmem,by simpa using hlink⟩,rfl⟩)
        obtain ⟨n,hn,heq⟩ := List.mem_map.mp hcovered
        rw [hs] at heq
        exact hs' (List.mem_map.mpr ⟨n,hn,List.append_cancel_left heq⟩)

theorem linkAccepted_iff {scope : SecurityScope} {link : LinkSnapshot} :
    (link.securityScopeId = some scope.workspaceScopeId && link.resolutionSource.any (· ∈ resolutionSources) &&
      link.childIds ≠ [] && !(scope.sourceConstraints ≠ [] &&
        link.childIds.any fun sourceId => sourcePrefix++formatted sourceId ∉ scope.sourceConstraints)) = true ↔
      link.securityScopeId = some scope.workspaceScopeId ∧
        (∃ s ∈ resolutionSources, link.resolutionSource = some s) ∧ link.childIds ≠ [] ∧
          (scope.sourceConstraints ≠ [] → ∀ sourceId ∈ link.childIds,
            sourcePrefix++formatted sourceId ∈ scope.sourceConstraints) := by
  have hresolution : link.resolutionSource.any (· ∈ resolutionSources) = true ↔
      ∃ s ∈ resolutionSources, link.resolutionSource = some s := by
    cases link.resolutionSource with
    | none => simp
    | some s => simp
  simp only [Bool.and_eq_true,hresolution,and_assoc]
  simp [imp_iff_not_or]

theorem classifyTrusted_inScope {scope : SecurityScope} {projectKey : Option Text} {provenance : TrustedProvenance}
    {snapshot : List LinkSnapshot} :
    classifyTrustedResourceSnapshot scope projectKey provenance snapshot = .inScope ↔
      (scope.projectConstraints = [] ∨ ∃ key, projectKey = some key ∧ projectPrefix++key ∈ scope.projectConstraints) ∧
        if provenance.isLegacy = true then scope.sourceConstraints = []
        else ∃ link ∈ snapshot, link.securityScopeId = some scope.workspaceScopeId ∧
          (∃ s ∈ resolutionSources, link.resolutionSource = some s) ∧ link.childIds ≠ [] ∧
            (scope.sourceConstraints ≠ [] → ∀ sourceId ∈ link.childIds,
              sourcePrefix++formatted sourceId ∈ scope.sourceConstraints) := by
  unfold classifyTrustedResourceSnapshot
  by_cases hproject : scope.projectConstraints ≠ [] ∧
      projectKey.all (fun key => projectPrefix++key ∉ scope.projectConstraints) = true
  · rw [if_pos hproject]
    obtain ⟨hconstrained,hkey⟩ := hproject
    have hno : ¬∃ key, projectKey = some key ∧ projectPrefix++key ∈ scope.projectConstraints := by
      rintro ⟨key,rfl,hmem⟩
      simp [hmem] at hkey
    simp [hconstrained,hno]
  · rw [if_neg hproject]
    have hcovered : scope.projectConstraints = [] ∨
        ∃ key, projectKey = some key ∧ projectPrefix++key ∈ scope.projectConstraints := by
      by_cases hempty : scope.projectConstraints = []
      · exact .inl hempty
      · cases projectKey with
        | none => exact absurd ⟨hempty,rfl⟩ hproject
        | some key => exact .inr ⟨key,rfl,by simpa [hempty] using hproject⟩
    by_cases hlegacy : provenance.isLegacy = true
    · by_cases hsources : scope.sourceConstraints = []
      · simp [hcovered,hlegacy,hsources]
      · simp [hlegacy,hsources]
    · rw [if_neg hlegacy,if_neg hlegacy]
      have hlinks : ∀ b : Bool, (if b = true then ResourceScope.inScope else .outOfScope) = .inScope ↔ b = true := by
        intro b
        cases b <;> simp
      rw [hlinks,List.any_eq_true,and_iff_right hcovered]
      apply exists_congr
      intro link
      apply and_congr_right
      intro _
      exact linkAccepted_iff

section agreement

variable {nfc : Text → Text} {scope : SecurityScope} {rows : ResourceRows} {candidate : PostgresKeywordResourceCandidate}

/-- On a valid scope the value of the predicate is given by the rows of the resource. -/
theorem resourcePredicateValue_iff {kind servingKind : Text} {id : Nat} (hscope : scope.Valid)
    (hc : CandidateOf rows (kind++text ":"++Json.renderInt id) servingKind candidate) (hkind : ofChar ':' ∉ kind) :
    ∃ keys identifiers, scope.projectConstraints = keys.map (projectPrefix++·) ∧
      scope.sourceConstraints = identifiers.map (sourcePrefix++Json.renderInt ·) ∧
        (resourcePredicateValue scope candidate = some .holds ↔
          servingKind = text "raw_chunk" ∧ keys = [] ∧
              (identifiers = [] ∨ ∃ c ∈ rows.chunks, c.id = id ∧ ∃ n ∈ identifiers, c.sourceId = some n) ∨
            servingKind = text "trusted_knowledge" ∧ (keys = [] ∨ ∃ type : KnowledgeType, kind = type.name ∧
                ∃ k ∈ rows.knowledge.filter (·.type = type), k.id = id ∧ ∃ key ∈ keys, k.projectKey = some key) ∧
              ((∃ a ∈ rows.approvals, Approves kind id a ∧ a.securityScopeId = some scope.workspaceScopeId ∧
                  (∃ s ∈ resolutionSources, a.resolutionSource = some s) ∧ ChildrenCovered rows identifiers a) ∨
                identifiers = [] ∧ ¬∃ a ∈ rows.approvals, Approves kind id a)) := by
  obtain ⟨values,keys,identifiers,hvalues,hbinds⟩ := binds_of_valid hscope
  refine ⟨keys,identifiers,hbinds.projects,hbinds.sources,?_⟩
  rw [resourcePredicateValue,hvalues,Option.bind_some]
  exact (evaluates_resource hbinds hc hkind).iff

theorem raw_inScope {id : Nat} {observation : IndexableSourceObservation} (hscope : scope.Valid)
    (hobserved : rows.Observed id observation)
    (hc : CandidateOf rows (text "chunk"++text ":"++Json.renderInt id) (text "raw_chunk") candidate) :
    resourcePredicateValue scope candidate = some .holds ↔
      (classifyAccess scope observation).resourceScope = .inScope := by
  obtain ⟨keys,identifiers,hprojects,hsources,hvalue⟩ := resourcePredicateValue_iff hscope hc (by decide)
  have hkinds : text "raw_chunk" ≠ text "trusted_knowledge" := by decide
  obtain ⟨c,hmem,hid,hsource⟩ := hobserved.chunk
  have hchunk : (∃ c ∈ rows.chunks, c.id = id ∧ ∃ n ∈ identifiers, c.sourceId = some n) ↔
      observation.rawVersion.sourceRowId ∈ identifiers := by
    constructor
    · rintro ⟨c',hmem',hid',n,hn,hsource'⟩
      obtain rfl : c' = c := List.inj_on_of_nodup_map rows.chunkIds hmem' hmem (hid'.trans hid.symm)
      rw [hsource] at hsource'
      cases hsource'
      exact hn
    · exact fun hn => ⟨c,hmem,hid,_,hn,hsource⟩
  rw [hvalue,classifyAccess_inScope hobserved.consistent,hscope.mode,hprojects,hsources,mem_sources,hchunk]
  by_cases hkeys : keys = []
  · simp [hkeys,hkinds]
  · simp [hkeys,hkinds]

theorem trusted_inScope {type : KnowledgeType} {id : Nat} {provenance : TrustedProvenance} (hscope : scope.Valid)
    (hnonnull : ∀ e ∈ rows.evidence, e.canonicalSourceId ≠ none)
    (hlegacy : provenance.isLegacy = true ↔ rows.activeLinks type id = [])
    (hc : CandidateOf rows (type.name++text ":"++Json.renderInt id) (text "trusted_knowledge") candidate) :
    resourcePredicateValue scope candidate = some .holds ↔
      classifyTrustedResourceSnapshot scope (rows.projectKey type id) provenance (rows.linkSnapshot type id) =
        .inScope := by
  have hkind : ofChar ':' ∉ type.name := by cases type <;> decide
  obtain ⟨keys,identifiers,hprojects,hsources,hvalue⟩ := resourcePredicateValue_iff hscope hc hkind
  have hkinds : text "trusted_knowledge" ≠ text "raw_chunk" := by decide
  have hnames : ∀ type', type.name = KnowledgeType.name type' ↔ type' = type := by
    intro type'
    cases type <;> cases type' <;> decide
  have hproject : (∃ type' : KnowledgeType, type.name = type'.name ∧
      ∃ k ∈ rows.knowledge.filter (·.type = type'), k.id = id ∧ ∃ key ∈ keys, k.projectKey = some key) ↔
      ∃ key, rows.projectKey type id = some key ∧ projectPrefix++key ∈ scope.projectConstraints := by
    have hmem : ∀ key, projectPrefix++key ∈ scope.projectConstraints ↔ key ∈ keys := by
      intro key
      rw [hprojects,List.mem_map_of_injective (List.append_right_injective projectPrefix)]
    simp only [hnames,exists_eq_left,projectKey_iff,hmem]
    simp [and_comm]
  have hlinks : ∀ P : ApprovalRow → Prop, (∃ a ∈ rows.approvals, Approves type.name id a ∧ P a) ↔
      ∃ a ∈ rows.activeLinks type id, P a := by
    intro P
    simp [mem_activeLinks,and_assoc]
  have hempty : (¬∃ a ∈ rows.approvals, Approves type.name id a) ↔ rows.activeLinks type id = [] := by
    rw [List.eq_nil_iff_forall_not_mem]
    simp [mem_activeLinks]
  have hnoSources : scope.sourceConstraints = [] ↔ identifiers = [] := by rw [hsources,List.map_eq_nil_iff]
  have hnoProjects : scope.projectConstraints = [] ↔ keys = [] := by rw [hprojects,List.map_eq_nil_iff]
  rw [hvalue,classifyTrusted_inScope,hproject,hlinks,hempty,hnoProjects]
  simp only [hkinds,false_and,false_or,true_and]
  apply and_congr_right
  intro _
  by_cases hnone : rows.activeLinks type id = []
  · rw [if_pos (hlegacy.mpr hnone),hnoSources]
    simp [hnone]
  · rw [if_neg (fun h => hnone (hlegacy.mp h)),ResourceRows.linkSnapshot]
    have hconstrained : scope.sourceConstraints ≠ [] ↔ identifiers ≠ [] := not_congr hnoSources
    simp only [hnone,and_false,or_false,childrenCovered_iff hnonnull,hconstrained]
    simp only [List.mem_map,exists_exists_and_eq_and,hsources]

/-- The predicate is true of exactly the resources in scope, where the sources of evidence links are not null. -/
theorem postgresKeywordResourcePredicate_iff_inScope (nfc : Text → Text) (scope : SecurityScope) (rows : ResourceRows)
    (hscope : scope.postInit nfc = true) (hnonnull : ∀ e ∈ rows.evidence, e.canonicalSourceId ≠ none) :
    (∀ (id : Nat) (observation : IndexableSourceObservation) (candidate : PostgresKeywordResourceCandidate),
      rows.Observed id observation →
      CandidateOf rows (text "chunk"++text ":"++Json.renderInt id) (text "raw_chunk") candidate →
        (resourcePredicateValue scope candidate = some .holds ↔
          (classifyAccess scope observation).resourceScope = .inScope)) ∧
    (∀ (type : KnowledgeType) (id : Nat) (provenance : TrustedProvenance)
      (candidate : PostgresKeywordResourceCandidate),
      (provenance.isLegacy = true ↔ rows.activeLinks type id = []) →
      CandidateOf rows (type.name++text ":"++Json.renderInt id) (text "trusted_knowledge") candidate →
        (resourcePredicateValue scope candidate = some .holds ↔
          classifyTrustedResourceSnapshot scope (rows.projectKey type id) provenance (rows.linkSnapshot type id) =
            .inScope)) :=
  ⟨fun _ _ _ hobserved hc => raw_inScope (SecurityScope.valid hscope) hobserved hc,
    fun _ _ _ _ hlegacy hc => trusted_inScope (SecurityScope.valid hscope) hnonnull hlegacy hc⟩

end agreement

/-! ## A child without a source -/

def sourceScope : SecurityScope :=
  ⟨text "rag-security-scope:v1",text "reader",text "workspace",.constrained,[],[text "source_pk:7"],
    [text "internal"],text "demo-auth:v1",text "rag-permission-policy:v1"⟩

/-- A history event, approved by a human over one evidence link. -/
def approvedRows (canonicalSourceId : Option Text) : ResourceRows :=
  ⟨[],[⟨.historyEvent,1,none⟩],
    [⟨1,some (text "history_event"),some 1,some true,some (text "workspace"),some (text "human")⟩],
    [⟨some 1,canonicalSourceId⟩],by simp,by simp⟩

def approvedCandidate (canonicalSourceId : Option Text) : PostgresKeywordResourceCandidate :=
  ⟨text "history_event:1",text "trusted_knowledge",(approvedRows canonicalSourceId).relationRows⟩

def approvedProvenance : TrustedProvenance :=
  .explicit ⟨text "explicit_approval",1,1,text "workspace",text "new_trusted_fact",text "human",[],text "internal",
    text "v1",[],[],⟨1,7,text "slack",[],0⟩⟩

theorem approvedCandidate_of (canonicalSourceId : Option Text) : CandidateOf (approvedRows canonicalSourceId)
    (KnowledgeType.historyEvent.name++text ":"++Json.renderInt (1 : Nat)) (text "trusted_knowledge")
      (approvedCandidate canonicalSourceId) :=
  ⟨rfl,rfl,fun _ => Iff.rfl⟩

theorem postgresKeywordResourcePredicate_iff_inScope_approved :
    resourcePredicateValue sourceScope (approvedCandidate (some (text "7"))) = some .holds := by
  obtain ⟨-,htrusted⟩ := postgresKeywordResourcePredicate_iff_inScope id sourceScope (approvedRows (some (text "7")))
    (by decide) (by decide)
  exact (htrusted .historyEvent 1 approvedProvenance _ (by decide) (approvedCandidate_of _)).mpr (by decide)

/-- With a null source in the child the predicate is true of a resource that Python finds out of scope. -/
theorem postgresKeywordResourcePredicate_null_source : sourceScope.postInit id = true ∧
    (approvedProvenance.isLegacy = true ↔ (approvedRows none).activeLinks .historyEvent 1 = []) ∧
    CandidateOf (approvedRows none) (KnowledgeType.historyEvent.name++text ":"++Json.renderInt (1 : Nat))
      (text "trusted_knowledge") (approvedCandidate none) ∧
    resourcePredicateValue sourceScope (approvedCandidate none) = some .holds ∧
    classifyTrustedResourceSnapshot sourceScope ((approvedRows none).projectKey .historyEvent 1) approvedProvenance
      ((approvedRows none).linkSnapshot .historyEvent 1) = .outOfScope :=
  ⟨by decide,by decide,approvedCandidate_of none,by decide,by decide⟩

end ParaWorks.Retrieval
