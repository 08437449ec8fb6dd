import ParaWorks.Lexical.Documents
import ParaWorks.Lib.Paging

/-!
# The lexical projection

The table of lower-cased titles and texts that keyword search reads: how a refresh rewrites it, and which of its rows a
reader takes for current.
-/

namespace ParaWorks.Lexical

open Lib Retrieval Answers Generation

/-! ## The table -/

structure LexicalRow where
  servingDocumentId : Text
  corpusGeneration : Nat
  servingKind : Text
  supportMode : Text
  effectivePermission : Text
  servingIdentityHmac : Text
  servingVersionFingerprint : Text
  modelContentHmac : Text
  canonicalCitationProjectionHmac : Text
  titleLower : Text
  searchableLower : Text
  lexicalContractVersion : Text
  fingerprintKeyVersion : Text
  fingerprintKeyMaterialVerifier : Text
  createdAt : Nat
  updatedAt : Nat
  deriving DecidableEq

structure LexicalTables where
  /-- `corpus_generation` of the singleton. -/
  corpusGeneration : Option Nat
  rows : List LexicalRow
  documentIds : (rows.map (·.servingDocumentId)).Nodup

structure Settings where
  signing : Signing
  fingerprintKeyVersion : Text
  /-- `fingerprint_key_material_verifier` of the secret. -/
  keyMaterialVerifier : Text

/-- What Python and the database bring along. -/
structure Platform where
  /-- `str.lower`. -/
  lower : Text → Text
  /-- Whether a flush from the one table to the other passes the constraints. -/
  accepts : List LexicalRow → List LexicalRow → Bool
  /-- The collation of the database. -/
  collate : Text → Text → Bool

def lexicalContractVersion : Text := text "rag-keyword-lexical-compat:v1"

/-! ## Fields -/

structure ProjectionFields where
  servingKind : Text
  supportMode : Text
  servingIdentityHmac : Text
  servingVersionFingerprint : Text
  modelContentHmac : Text
  canonicalCitationProjectionHmac : Text
  deriving DecidableEq

/-- A metadata value that is a text and not empty. -/
def metadataText (d : VectorDocument) (key : Text) : Option Text :=
  match d.metadata.find? (·.1 = key) with
  | some (_,.str t) => if t = [] then none else some t
  | _ => none

/-- `_projection_hmac_fields`. -/
def projectionHmacFields (d : VectorDocument) : Option ProjectionFields := do
  return ⟨← metadataText d (text "serving_kind"),← metadataText d (text "support_mode"),
    ← metadataText d (text "serving_identity_hmac"),← metadataText d (text "serving_version_fingerprint"),
    ← metadataText d (text "model_content_hmac"),← metadataText d (text "canonical_citation_projection_hmac")⟩

section projection

variable (platform : Platform) (settings : Settings)

/-- `f'{title}\n{document.text}'.lower()`. -/
def searchable (title : Text) (d : VectorDocument) : Text := platform.lower (title++[10]++d.text)

/-! ## Refreshing -/

/-- The row of a document under a title, with its two times. -/
def writtenRow (generation : Nat) (d : VectorDocument) (title : Text) (fields : ProjectionFields)
    (createdAt updatedAt : Nat) : LexicalRow where
  servingDocumentId := d.documentId
  corpusGeneration := generation
  servingKind := fields.servingKind
  supportMode := fields.supportMode
  effectivePermission := d.permissionLevel
  servingIdentityHmac := fields.servingIdentityHmac
  servingVersionFingerprint := fields.servingVersionFingerprint
  modelContentHmac := fields.modelContentHmac
  canonicalCitationProjectionHmac := fields.canonicalCitationProjectionHmac
  titleLower := platform.lower title
  searchableLower := searchable platform title d
  lexicalContractVersion := lexicalContractVersion
  fingerprintKeyVersion := settings.fingerprintKeyVersion
  fingerprintKeyMaterialVerifier := settings.keyMaterialVerifier
  createdAt := createdAt
  updatedAt := updatedAt

/-- What a refresh does for one document: its row is written, or removed where it cannot be projected. -/
def projectDocument (state : ServingState) (generation now : Nat) (rows : List LexicalRow) (d : VectorDocument) :
    List LexicalRow :=
  match documentTitle state d.documentId,projectionHmacFields d with
  | some title,some fields =>
    let createdAt := ((rows.find? (·.servingDocumentId = d.documentId)).map (·.createdAt)).getD now
    mergeRow (·.servingDocumentId) rows (writtenRow platform settings generation d title fields createdAt now)
  | _,_ => rows.filter (·.servingDocumentId ≠ d.documentId)

/-- The rows after a refresh. -/
def refreshedRows (state : ServingState) (generation now : Nat) (rows : List LexicalRow) : List LexicalRow :=
  let ds := documents settings.signing state
  let kept := rows.filter (·.servingDocumentId ∈ ds.map (·.documentId))
  ds.foldl (projectDocument platform settings state generation now) kept

theorem projectDocument_nodup {state : ServingState} {generation now : Nat} {rows : List LexicalRow}
    (h : (rows.map (·.servingDocumentId)).Nodup) (d : VectorDocument) :
    ((projectDocument platform settings state generation now rows d).map (·.servingDocumentId)).Nodup := by
  unfold projectDocument
  split
  · exact mergeRow_keys h
  · exact h.sublist (List.filter_sublist.map _)

theorem refreshedRows_nodup {state : ServingState} {generation now : Nat} {rows : List LexicalRow}
    (h : (rows.map (·.servingDocumentId)).Nodup) :
    ((refreshedRows platform settings state generation now rows).map (·.servingDocumentId)).Nodup := by
  have hfold : ∀ (ds : List VectorDocument) (rows : List LexicalRow), (rows.map (·.servingDocumentId)).Nodup →
      ((ds.foldl (projectDocument platform settings state generation now) rows).map (·.servingDocumentId)).Nodup := by
    intro ds
    induction ds with
    | nil => exact fun _ h => h
    | cons d ds ih => exact fun rows h => ih _ (projectDocument_nodup platform settings h d)
  exact hfold _ _ (h.sublist (List.filter_sublist.map _))

/-- `refresh_rag_lexical_projections`, none where it raises. -/
def refreshRagLexicalProjections (state : ServingState) (generation now : Nat) (tables : LexicalTables) :
    Option LexicalTables :=
  if tables.corpusGeneration ≠ some generation then none
  else
    let rows := refreshedRows platform settings state generation now tables.rows
    if platform.accepts tables.rows rows then
      some ⟨tables.corpusGeneration,rows,refreshedRows_nodup platform settings tables.documentIds⟩
    else none

/-! ## Reading -/

/-- The row says of the document what a refresh would write. -/
def rowIsExact (state : ServingState) (row : LexicalRow) (d : VectorDocument) : Bool :=
  match documentTitle state d.documentId,projectionHmacFields d with
  | some title,some fields =>
    row.servingKind = fields.servingKind && row.supportMode = fields.supportMode &&
    row.effectivePermission = d.permissionLevel && row.servingIdentityHmac = fields.servingIdentityHmac &&
    row.servingVersionFingerprint = fields.servingVersionFingerprint &&
    row.modelContentHmac = fields.modelContentHmac &&
    row.canonicalCitationProjectionHmac = fields.canonicalCitationProjectionHmac &&
    row.titleLower = platform.lower title && row.searchableLower = searchable platform title d
  | _,_ => false

/-- The `WHERE` of the reader. -/
def rowIsSelected (generation : Nat) (row : LexicalRow) : Bool :=
  row.corpusGeneration = generation && row.lexicalContractVersion = lexicalContractVersion &&
    row.fingerprintKeyVersion = settings.fingerprintKeyVersion &&
    row.fingerprintKeyMaterialVerifier = settings.keyMaterialVerifier

/-- `current_rag_lexical_projections`. -/
def currentRagLexicalProjections (state : ServingState) (tables : LexicalTables) : List LexicalRow :=
  match tables.corpusGeneration with
  | none => []
  | some generation =>
    let selected := (tables.rows.filter (rowIsSelected settings generation)).mergeSort fun a b =>
      platform.collate a.servingDocumentId b.servingDocumentId
    selected.filter fun row =>
      ((documents settings.signing state).find? (·.documentId = row.servingDocumentId)).any
        (rowIsExact platform state row)

end projection

end ParaWorks.Lexical
