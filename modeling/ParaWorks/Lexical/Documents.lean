import ParaWorks.Answers.Candidates
import ParaWorks.Generation.Preparation
import ParaWorks.Lib.JsonReader
import ParaWorks.Lib.Strings

/-!
# Serving documents

The documents that are built from the chunks and the knowledge rows which their resolvers let through, and the title
that is read back for each of them.
-/

namespace ParaWorks.Lexical

open Lib Retrieval Answers Generation Fingerprints

/-! ## Rows -/

inductive KnowledgeType where
  | decisionRecord
  | historyEvent
  | timelineEvent
  | todo
  deriving DecidableEq

def KnowledgeType.name : KnowledgeType → Text
  | decisionRecord => text "decision_record"
  | historyEvent => text "history_event"
  | timelineEvent => text "timeline_event"
  | todo => text "todo"

/-- In the order in which they are indexed. -/
def knowledgeTypes : List KnowledgeType := [.decisionRecord,.historyEvent,.timelineEvent,.todo]

structure DocumentChunk where
  id : Nat
  sourceId : Nat
  deriving DecidableEq

structure TitledRow where
  id : Nat
  title : Text
  deriving DecidableEq

/-- What a resolver has settled about a row before it signs it. -/
structure Resolved where
  publicSourceId : Text
  publicSourceType : Option Text
  modelContent : Text
  effectivePermission : Text
  sourceUrl : Text
  sourceSnippet : Text
  provenanceBranch : Text
  /-- `serving_version_payload`, of the two hmacs that it contains. -/
  versionPayload : Text → Text → Json

/-- The rows that are served, with what the resolvers find of each. -/
structure ServingState where
  chunks : List DocumentChunk
  sources : List TitledRow
  knowledge : KnowledgeType → List TitledRow
  resolveChunk : Nat → Option Resolved
  resolveTrusted : KnowledgeType → Nat → Option Resolved
  chunkIds : (chunks.map (·.id)).Nodup
  sourceIds : (sources.map (·.id)).Nodup
  knowledgeIds : ∀ t, ((knowledge t).map (·.id)).Nodup

/-! ## Documents -/

/-- The row that a document is made from. -/
inductive DocumentKey where
  | chunk (id : Nat)
  | knowledge (type : KnowledgeType) (id : Nat)
  deriving DecidableEq

def DocumentKey.kind : DocumentKey → Text
  | chunk _ => text "chunk"
  | knowledge t _ => t.name

def DocumentKey.rowId : DocumentKey → Nat
  | chunk id => id
  | knowledge _ id => id

/-- `f'{kind}:{id}'`. -/
def DocumentKey.documentId (key : DocumentKey) : Text := key.kind++ofChar ':'::Json.digits key.rowId

def DocumentKey.servingKind : DocumentKey → ServingKind
  | chunk _ => .rawChunk
  | knowledge _ _ => .trustedKnowledge

def DocumentKey.supportMode : DocumentKey → SupportMode
  | chunk _ => .sourceObservation
  | knowledge _ _ => .trustedFact

/-- `_fingerprint` of the serving contracts. -/
def servingFingerprint (signing : Signing) (schemaVersion : Text) (payload : Json) : Option Text :=
  (keyedFingerprint signing.nfc signing.hexdigest signing.limits signing.secret schemaVersion
    (text "rag-serving-evidence:v1") payload).toOption

section documents

variable (signing : Signing)

/-- `build_model_content_hmac`. -/
def modelContentHmac (kind : ServingKind) (content : Text) : Option Text := do
  let bytes ← exactUtf8Bytes content
  servingFingerprint signing (text "rag-model-content:v1")
    (.dict [(text "serving_kind",.str (kindText kind)),(text "model_content_bytes",bytes)])

/-- `build_serving_identity_hmac`. -/
def servingIdentityHmac (documentId : Text) (kind : ServingKind) : Option Text := do
  let bytes ← exactUtf8Bytes documentId
  servingFingerprint signing (text "rag-serving-identity:v1")
    (.dict [(text "serving_document_id_bytes",bytes),(text "serving_kind",.str (kindText kind))])

/-- `build_canonical_citation_projection_hmac`. -/
def citationProjectionHmac (r : Resolved) : Option Text := do
  let sourceId ← exactUtf8Bytes r.publicSourceId
  let sourceType ← match r.publicSourceType with
    | none => some .null
    | some t => exactUtf8Bytes t
  let url ← exactUtf8Bytes r.sourceUrl
  let snippet ← exactUtf8Bytes r.sourceSnippet
  servingFingerprint signing (text "rag-canonical-citation:v1")
    (.dict [(text "public_source_id_bytes",sourceId),(text "public_source_type_bytes",sourceType),
      (text "source_url_bytes",url),(text "source_snippet_bytes",snippet),
      (text "effective_permission",.str r.effectivePermission)])

/-- `build_serving_version_fingerprint`. -/
def servingVersionFingerprint (payload : Json) : Option Text :=
  servingFingerprint signing (text "rag-serving-version:v1") payload

def jsonOption : Option Text → Json
  | none => .null
  | some t => .str t

/-- `_rag_v2_vector_document` of what the resolver signs, none where the resolver gives up. -/
def vectorDocument (sourcePk : Option Nat) (key : DocumentKey) (r : Resolved) : Option VectorDocument := do
  let contentHmac ← modelContentHmac signing key.servingKind r.modelContent
  let citationHmac ← citationProjectionHmac signing r
  let versionFingerprint ← servingVersionFingerprint signing (r.versionPayload contentHmac citationHmac)
  let identityHmac ← servingIdentityHmac signing key.documentId key.servingKind
  let rowIds := match key with
    | .chunk id => [(text "chunk_id",.int id),(text "source_pk",sourcePk.elim .null fun n => .int n)]
    | .knowledge _ id => [(text "knowledge_id",.int id)]
  return ⟨key.documentId,r.modelContent,r.sourceUrl,r.sourceSnippet,r.effectivePermission,
    [(text "canonical_citation_projection_hmac",.str citationHmac),
      (text "index_policy_version",.str (text "rag-v2-serving-index:v1")),
      (text "model_content_hmac",.str contentHmac),
      (text "provenance_branch",.str r.provenanceBranch),
      (text "public_source_id",.str r.publicSourceId),
      (text "public_source_type",jsonOption r.publicSourceType),
      (text "serving_identity_hmac",.str identityHmac),
      (text "serving_kind",.str (kindText key.servingKind)),
      (text "serving_version_fingerprint",.str versionFingerprint),
      (text "support_mode",.str (supportText key.supportMode))]++rowIds⟩

/-- `resolve_for_index` of the row with its document, none where it is not served. -/
def documentOf (state : ServingState) : DocumentKey → Option VectorDocument
  | .chunk id => do
    let r ← state.resolveChunk id
    let chunk ← state.chunks.find? (·.id = id)
    let source ← state.sources.find? (·.id = chunk.sourceId)
    vectorDocument signing (some source.id) (.chunk id) r
  | .knowledge t id => do
    let r ← state.resolveTrusted t id
    vectorDocument signing none (.knowledge t id) r

/-- The rows in the order in which they are indexed. -/
def ServingState.keys (state : ServingState) : List DocumentKey :=
  (orderBy id (state.chunks.map (·.id))).map .chunk++
    knowledgeTypes.flatMap fun t => (orderBy id ((state.knowledge t).map (·.id))).map (.knowledge t)

/-- `build_rag_v2_index_documents`. -/
def documents (state : ServingState) : List VectorDocument := state.keys.filterMap (documentOf signing state)

end documents

/-! ## Titles -/

/-- The row that a document id names, none where it names none. -/
def parseDocumentId (documentId : Text) : Option (Text × Nat) :=
  match splitOnce (ofChar ':') documentId with
  | some (kind,digits) =>
    if digits = [] ∨ digits.all Json.isDigit = false ∨ Loaded.decimalValue digits = 0 then none
    else some (kind,Loaded.decimalValue digits)
  | none => none

/-- `_document_title`. -/
def documentTitle (state : ServingState) (documentId : Text) : Option Text := do
  let (kind,id) ← parseDocumentId documentId
  let title ←
    if kind = text "chunk" then
      ((state.chunks.find? (·.id = id)).bind fun chunk => state.sources.find? (·.id = chunk.sourceId)).map (·.title)
    else
      ((knowledgeTypes.find? (·.name = kind)).bind fun t => (state.knowledge t).find? (·.id = id)).map (·.title)
  if (0 : CodePoint) ∈ title then none else some title

end ParaWorks.Lexical
