import ParaWorks.Lib.Paging
import ParaWorks.Lib.Tables
import ParaWorks.Answers.Candidates

/-!
# The tables of the vector index

The serving documents, the stored vectors, the state row that a reindex run keeps for a document and a model, and the
generation row that all of them are checked against.
-/

namespace ParaWorks.VectorIndex

open Lib Sources Knowledge Answers

def ragIndexPolicyVersion : Text := text "rag-v2-serving-index:v1"

def ragCosinePolicyVersion : Text := text "pgvector-cosine-indexable:v1"

/-! ## Vectors -/

/-- A `float32`, by its bits. -/
structure Binary32 where
  bits : BitVec 32
  deriving DecidableEq

def Binary32.isFinite (x : Binary32) : Bool := x.bits.extractLsb' 23 8 ≠ 255#8

/-- Either zero. -/
def Binary32.isZero (x : Binary32) : Bool := x.bits.extractLsb' 0 31 = 0#31

abbrev Embedding := List Binary32

/-- `CosineIndexableVectorValidator.validate`, on coordinates that are rounded to `float32`. -/
def validate (vector : Embedding) (expectedDimensions : Nat) : Option Embedding :=
  if 0 < expectedDimensions ∧ vector.length = expectedDimensions ∧ vector.all (·.isFinite) ∧
      vector.any (fun x => !x.isZero) then some vector
  else none

def validateBatch (vectors : List Embedding) (expectedDimensions : Nat) : Option (List Embedding) :=
  vectors.mapM (validate · expectedDimensions)

/-! ## Settings and digests -/

structure Settings where
  embeddingModel : Text
  embeddingDimensions : Nat
  fingerprintKeyVersion : Text
  /-- `fingerprint_key_material_verifier` of the secret. -/
  keyMaterialVerifier : Text
  costPer1mTokens : Rat
  maxCostUsd : Option Rat

/-- What the HMAC of a state row signs. -/
structure StateFingerprint where
  documentId : Text
  embeddingModel : Text
  embeddingDimensions : Nat
  contentHash : Text
  canonicalDocumentSha256 : Text
  canonicalFloat32VectorSha256 : Text
  indexState : Text
  vectorIndexGeneration : Nat
  deriving DecidableEq

/-- The digests in hexadecimal. -/
structure Digests where
  /-- SHA-256 of `json.dumps` with the default separators. -/
  sha256Json : Json → Text
  /-- SHA-256 of `json.dumps` with compact separators. -/
  sha256CompactJson : Json → Text
  sha256Vector : Embedding → Text
  /-- `keyed_fingerprint` under the index secret. -/
  stateHmac : StateFingerprint → Text

/-! ## Documents -/

def payload (d : VectorDocument) (metadata : List (Text × Json)) : Json :=
  .dict [(text "document_id",.str d.documentId),(text "text",.str d.text),(text "source_url",.str d.sourceUrl),
    (text "source_snippet",.str d.sourceSnippet),(text "permission_level",.str d.permissionLevel),
    (text "metadata",.dict metadata)]

def computeVectorDocumentHash (digests : Digests) (d : VectorDocument) : Text :=
  digests.sha256Json (payload d d.metadata).sortKeys

/-- The metadata that a new identity of the same bytes changes. -/
def identityKeys : List Text :=
  [text "canonical_citation_projection_hmac",text "model_content_hmac",text "provenance_branch",
    text "serving_identity_hmac",text "serving_version_fingerprint"]

def computeRagV2DocumentHash (digests : Digests) (d : VectorDocument) : Text :=
  digests.sha256CompactJson (payload d (d.metadata.filter (·.1 ∉ identityKeys))).sortKeys

def contentHash (digests : Digests) (ragV2 : Bool) (d : VectorDocument) : Text :=
  if ragV2 then computeRagV2DocumentHash digests d else computeVectorDocumentHash digests d

/-- `==` on documents. -/
def sameDocument (d e : VectorDocument) : Bool := (payload d d.metadata).sortKeys = (payload e e.metadata).sortKeys

/-- What a resolver finds of one document, as far as the index reads it. -/
structure ServingEvidence where
  servingDocumentId : Text
  servingKind : Text
  publicSourceId : Text
  publicSourceType : Option Text
  supportMode : Text
  modelContent : Text
  title : Text
  effectivePermission : Text
  servingIdentityHmac : Text
  servingVersionFingerprint : Text
  modelContentHmac : Text
  canonicalCitationProjectionHmac : Text
  provenanceBranch : Text

/-- A resolved document with its citation; the resolvers leave none of these columns empty. -/
structure IndexableEvidence extends ServingEvidence where
  sourceUrl : Text
  sourceSnippet : Text
  typedRowId : Nat
  sourcePk : Option Nat
  servingKind_ne : servingKind ≠ []
  supportMode_ne : supportMode ≠ []
  servingIdentityHmac_ne : servingIdentityHmac ≠ []
  servingVersionFingerprint_ne : servingVersionFingerprint ≠ []
  modelContentHmac_ne : modelContentHmac ≠ []
  canonicalCitationProjectionHmac_ne : canonicalCitationProjectionHmac ≠ []

def jsonText : Option Text → Json
  | none => .null
  | some t => .str t

def ragV2Metadata (e : IndexableEvidence) : List (Text × Json) :=
  [(text "canonical_citation_projection_hmac",.str e.canonicalCitationProjectionHmac),
    (text "index_policy_version",.str ragIndexPolicyVersion),
    (text "model_content_hmac",.str e.modelContentHmac),
    (text "provenance_branch",.str e.provenanceBranch),
    (text "public_source_id",.str e.publicSourceId),
    (text "public_source_type",jsonText e.publicSourceType),
    (text "serving_identity_hmac",.str e.servingIdentityHmac),
    (text "serving_kind",.str e.servingKind),
    (text "serving_version_fingerprint",.str e.servingVersionFingerprint),
    (text "support_mode",.str e.supportMode)]++
  if e.servingKind = text "raw_chunk" then
    [(text "chunk_id",.int e.typedRowId),(text "source_pk",e.sourcePk.elim .null fun n => .int n)]
  else [(text "knowledge_id",.int e.typedRowId)]

def ragV2VectorDocument (e : IndexableEvidence) : VectorDocument :=
  ⟨e.servingDocumentId,e.modelContent,e.sourceUrl,e.sourceSnippet,e.effectivePermission,ragV2Metadata e⟩

/-! ## The corpus -/

structure ServingMutationLockPlan where
  documentIds : List Text
  sourceIds : List Nat
  workflowThreadIds : List Text
  reviewItemIds : List Nat
  approvalLinkIds : List Nat
  targets : List (Text × Nat)
  securityScopeIds : List Text
  deriving DecidableEq

/-- What the builders, the services and the SQL conditions make of the sources and the knowledge rows at one moment. -/
structure Corpus where
  /-- `build_rag_index_documents`. -/
  ragDocuments : List VectorDocument
  /-- What `build_rag_v2_index_documents` resolves. -/
  evidence : List IndexableEvidence
  forDocument : Text → TrustedServingEligibility
  /-- `_live_eligibility_sql` with raw RAG V2 writes allowed. -/
  liveEligibilitySql : VectorDocument → Bool
  buildServingLockPlan : List Text → ServingMutationLockPlan
  ragIds : (ragDocuments.map (·.documentId)).Nodup
  evidenceIds : (evidence.map (·.servingDocumentId)).Nodup

def Corpus.ragV2Documents (corpus : Corpus) : List VectorDocument := corpus.evidence.map ragV2VectorDocument

def Corpus.documents (corpus : Corpus) (ragV2 : Bool) : List VectorDocument :=
  if ragV2 then corpus.ragV2Documents else corpus.ragDocuments

/-- `canonical_documents.get(document_id)`. -/
def Corpus.canonical (corpus : Corpus) (ragV2 : Bool) (documentId : Text) : Option VectorDocument :=
  (corpus.documents ragV2).find? (·.documentId = documentId)

/-! ## Rows -/

/-- The singleton of `rag_serving_corpus_generations`. -/
structure RagServingCorpusGeneration where
  corpusGeneration : Nat
  vectorIndexGeneration : Nat
  embeddingModel : Text
  embeddingDimensions : Nat
  indexPolicyVersion : Text
  pgvectorCosinePolicyVersion : Text
  fingerprintKeyVersion : Text
  fingerprintKeyMaterialVerifier : Text
  updatedAt : Nat
  deriving DecidableEq

/-- The serving columns of a state row; a check of the table has all or none of them set. -/
structure ServingColumns where
  servingKind : Text
  supportMode : Text
  effectivePermission : Text
  servingIdentityHmac : Text
  servingVersionFingerprint : Text
  modelContentHmac : Text
  canonicalCitationProjectionHmac : Text
  indexPolicyVersion : Text
  pgvectorCosinePolicyVersion : Text
  cosineIndexable : Bool
  vectorIndexGeneration : Nat
  vectorIndexStateHmac : Text
  fingerprintKeyVersion : Text
  fingerprintKeyMaterialVerifier : Text
  deriving DecidableEq

structure VectorIndexState where
  documentId : Text
  embeddingModel : Text
  embeddingDimensions : Nat
  contentHash : Text
  status : Text
  serving : Option ServingColumns
  deriving DecidableEq

/-- What a state row is unique by. -/
def VectorIndexState.key (state : VectorIndexState) : Text × Text := (state.documentId,state.embeddingModel)

/-- A row of `rag_vector_documents`. -/
structure VectorRow where
  document : VectorDocument
  embedding : Embedding

def VectorRow.documentId (row : VectorRow) : Text := row.document.documentId

/-- `metadata_json->>key`. -/
def VectorRow.metadataText (row : VectorRow) (key : Text) : Option Text := Metadata.text (some row.document.metadata) key

/-- The tables that reindexing reads and writes, with their unique keys. -/
structure IndexTables where
  generation : Option RagServingCorpusGeneration
  states : List VectorIndexState
  vectors : List VectorRow
  /-- The document ids of `vector_serving_tombstones`. -/
  tombstones : List Text
  stateKeys : (states.map VectorIndexState.key).Nodup
  vectorIds : (vectors.map VectorRow.documentId).Nodup

structure Database where
  corpus : Corpus
  index : IndexTables

namespace IndexTables

variable (tables : IndexTables)

/-- `_get_index_state`. -/
def getIndexState (documentId embeddingModel : Text) : Option VectorIndexState :=
  tables.states.find? fun state => state.key = (documentId,embeddingModel)

def vector (documentId : Text) : Option VectorRow := tables.vectors.find? (·.documentId = documentId)

/-- The state row is added, or takes the place of the one with its key. -/
def putState (state : VectorIndexState) : IndexTables :=
  { tables with
    states := mergeRow VectorIndexState.key tables.states state
    stateKeys := mergeRow_keys tables.stateKeys }

/-- `ON CONFLICT (document_id) DO UPDATE`. -/
def putVector (row : VectorRow) : IndexTables :=
  { tables with
    vectors := mergeRow VectorRow.documentId tables.vectors row
    vectorIds := mergeRow_keys tables.vectorIds }

variable {tables} {state : VectorIndexState} {row : VectorRow} {documentId embeddingModel : Text}

theorem getIndexState_eq : tables.getIndexState documentId embeddingModel = some state ↔
    state ∈ tables.states ∧ state.documentId = documentId ∧ state.embeddingModel = embeddingModel := by
  rw [getIndexState,find?_eq_some_iff tables.stateKeys,VectorIndexState.key,Prod.mk.injEq]

theorem vector_eq : tables.vector documentId = some row ↔ row ∈ tables.vectors ∧ row.documentId = documentId :=
  find?_eq_some_iff tables.vectorIds

@[simp] theorem getIndexState_putState_self :
    (tables.putState state).getIndexState state.documentId state.embeddingModel = some state :=
  find?_mergeRow_self

theorem getIndexState_putState_ne (h : (documentId,embeddingModel) ≠ state.key) :
    (tables.putState state).getIndexState documentId embeddingModel = tables.getIndexState documentId embeddingModel :=
  find?_mergeRow_ne h

@[simp] theorem vector_putState : (tables.putState state).vector documentId = tables.vector documentId := rfl

@[simp] theorem vector_putVector_self : (tables.putVector row).vector row.documentId = some row := find?_mergeRow_self

theorem vector_putVector_ne (h : documentId ≠ row.documentId) :
    (tables.putVector row).vector documentId = tables.vector documentId :=
  find?_mergeRow_ne h

@[simp] theorem getIndexState_putVector :
    (tables.putVector row).getIndexState documentId embeddingModel = tables.getIndexState documentId embeddingModel :=
  rfl

end IndexTables

/-! ## Built documents -/

theorem canonical_of_mem {corpus : Corpus} {d : VectorDocument} (h : d ∈ corpus.ragV2Documents) :
    corpus.canonical true d.documentId = some d := by
  have hids : (corpus.ragV2Documents.map (·.documentId)).Nodup := by
    rw [Corpus.ragV2Documents,List.map_map]
    exact corpus.evidenceIds
  exact find?_of_nodup hids h

theorem validate_eq_some {vector canonical : Embedding} {expectedDimensions : Nat} :
    validate vector expectedDimensions = some canonical ↔ validate vector expectedDimensions ≠ none ∧ canonical = vector := by
  unfold validate
  split <;> simp [eq_comm]

theorem validate_length {vector : Embedding} {expectedDimensions : Nat} (h : validate vector expectedDimensions ≠ none) :
    vector.length = expectedDimensions := by
  unfold validate at h
  split at h
  · next hall => exact hall.2.1
  · exact absurd rfl h

end ParaWorks.VectorIndex
