import ParaWorks.Lib.JsonPrinter
import ParaWorks.Lib.Sql

/-!
# The exact source authority

The one server-owned bundle of a source that may authorize serving, as the Python function resolves it
and as the SQL predicate states it.
-/

namespace ParaWorks.Sources

open Lib

/-! ## Rows -/

/-- `raw_metadata`: the entries of a JSON object, or null. -/
abbrev Metadata := Option (List (Text × Json))

/-- `(raw_metadata or {}).get(key)`, a missing key apart from JSON null. -/
def Metadata.get (m : Metadata) (key : Text) : Option Json :=
  ((m.getD []).find? (·.1 = key)).map (·.2)

structure Source where
  id : Nat
  sourceType : Text
  sourceId : Text
  permissionLevel : Text
  rawMetadata : Metadata
  serverContentSignatureSchema : Option Text
  serverContentSignature : Option Text

structure Document where
  id : Nat
  sourceId : Nat
  currentDocumentVersionId : Option Nat

structure DocumentVersion where
  id : Nat
  documentId : Nat
  version : Text

structure DocumentParserRun where
  id : Nat
  documentId : Nat
  documentVersionId : Nat
  sourceId : Nat
  parserName : Text
  parserStatus : Text
  parserStatusReason : Option Text
  mimeType : Text
  documentVersionLabel : Text
  revisionId : Option Text
  contentSignature : Text
  serverContentSignatureSchema : Option Text
  serverContentSignature : Option Text
  parserPolicyVersion : Option Text
  parserVersion : Option Text
  chunkPolicyVersion : Option Text
  chunkCount : Int

structure DocumentChunk where
  id : Nat
  versionId : Nat
  sourceId : Nat
  parserRunId : Option Nat
  chunkIndex : Int
  permissionLevel : Text

/-- The source tables; `document_versions.id` is a primary key. -/
structure SourceTables where
  sources : List Source
  documents : List Document
  versions : List DocumentVersion
  parserRuns : List DocumentParserRun
  chunks : List DocumentChunk
  versionIds : (versions.map (·.id)).Nodup

namespace SourceTables

variable (db : SourceTables)

def source (id : Nat) : Option Source := db.sources.find? (·.id = id)

def documentsOf (source : Source) : List Document := db.documents.filter (·.sourceId = source.id)

def runsOf (source : Source) (document : Document) (version : DocumentVersion) : List DocumentParserRun :=
  db.parserRuns.filter fun r => r.sourceId = source.id && r.documentId = document.id && r.documentVersionId = version.id

def chunksOf (version : DocumentVersion) : List DocumentChunk := db.chunks.filter (·.versionId = version.id)

end SourceTables

/-! ## Parser policy -/

def serverSourceContentSignatureSchema : Text := text "server-source-content:v1"

def serverParserPolicyVersion : Text := text "server-source-parser-policy:v1"

def serverParserVersion : Text := text "source-event-paragraph-parser:v1"

def serverChunkPolicyVersion : Text := text "paragraph-chunks:1200:v1"

/-- The keys of `_SEMANTIC_METADATA_KEYS`. -/
def sourceTypes : List Text :=
  [text "gmail",text "gmail_attachment",text "drive",text "calendar",text "slack"]

def serverAllowedMimeTypes : List Text :=
  [text "application/haansofthwp",text "application/pdf",text "application/vnd.google-apps.document",
    text "application/vnd.google-apps.presentation",text "application/vnd.google-apps.spreadsheet",
    text "application/vnd.hancom.hwpx",
    text "application/vnd.openxmlformats-officedocument.wordprocessingml.document",text "application/x-hwp",
    text "text/csv",text "text/markdown",text "text/plain"]

def octetStream : Text := text "application/octet-stream"

structure ServerParserPolicy where
  parserPolicyVersion : Text
  parserName : Text
  parserVersion : Text
  chunkPolicyVersion : Text
  mimeType : Text

/-- Lower-casing, of `str.lower` and of SQL `lower`. -/
structure CaseMap where
  lower : Text → Text
  lower_nil : lower [] = []

section policy

variable (letters : CaseMap)

/-- The normalized mime type, or none where the source raises. -/
def normalizedMimeType (sourceType : Text) (mimeType : Option Json) : Option Text :=
  if sourceType = text "gmail" then some (text "message/rfc822")
  else if sourceType = text "calendar" then some (text "text/calendar")
  else match mimeType with
    | none => some octetStream
    | some .null => some octetStream
    | some (.str t) =>
      let normalized := letters.lower (strip t)
      some (if normalized ∈ serverAllowedMimeTypes then normalized else octetStream)
    | some _ => none

def serverParserPolicyForSource (sourceType : Text) (mimeType : Option Json) : Option ServerParserPolicy :=
  if sourceType ∉ sourceTypes then none
  else (normalizedMimeType letters sourceType mimeType).map fun mime =>
    ⟨serverParserPolicyVersion,text "server_"++sourceType++text "_source_event",serverParserVersion,
      serverChunkPolicyVersion,mime⟩

def serverParserRunMatchesAuthority (source : Source) (run : DocumentParserRun) : Bool :=
  if source.serverContentSignatureSchema ≠ some serverSourceContentSignatureSchema ∨
      source.serverContentSignature = none then false
  else match serverParserPolicyForSource letters source.sourceType (source.rawMetadata.get (text "mime_type")) with
    | none => false
    | some expected =>
      run.serverContentSignatureSchema = some serverSourceContentSignatureSchema &&
        run.serverContentSignature = source.serverContentSignature &&
        some run.contentSignature = source.serverContentSignature &&
        run.parserPolicyVersion = some expected.parserPolicyVersion &&
        run.parserName = expected.parserName &&
        run.parserStatus = text "parsed" &&
        run.parserStatusReason = none &&
        run.parserVersion = some expected.parserVersion &&
        run.chunkPolicyVersion = some expected.chunkPolicyVersion &&
        run.mimeType = expected.mimeType

/-! ## The Python authority -/

def isLowerHex (c : CodePoint) : Bool := (48 ≤ c.val ∧ c.val ≤ 57) || (97 ≤ c.val ∧ c.val ≤ 102)

def LowerHex64 (t : Text) : Prop := t.length = 64 ∧ ∀ c ∈ t, isLowerHex c = true

instance (t : Text) : Decidable (LowerHex64 t) :=
  decidable_of_iff (t.length = 64 ∧ t.all isLowerHex = true) (by simp [LowerHex64])

def currentContentSignature (source : Source) : Option Text :=
  if source.serverContentSignatureSchema ≠ some serverSourceContentSignatureSchema then none
  else source.serverContentSignature.filter fun t => decide (LowerHex64 t)

structure ExactSourceAuthority where
  source : Source
  document : Document
  version : DocumentVersion
  parserRun : DocumentParserRun
  chunks : List DocumentChunk

/-- `ORDER BY chunk_index, id`. -/
def orderedChunks (chunks : List DocumentChunk) : List DocumentChunk :=
  chunks.mergeSort fun a b => a.chunkIndex < b.chunkIndex || a.chunkIndex = b.chunkIndex && a.id ≤ b.id

/-- The source's `slack_state` is `active`. -/
def slackActive (source : Source) : Bool :=
  match source.rawMetadata.get (text "slack_state") with
  | some (.str state) => state = text "active"
  | _ => false

def resolveExactSourceAuthority (db : SourceTables) (source : Source) : Option ExactSourceAuthority :=
  if source.sourceType = text "slack" ∧ slackActive source = false then none
  else if currentContentSignature source = none then none
  else match db.documentsOf source with
    | [document] =>
      match document.currentDocumentVersionId with
      | none => none
      | some versionId =>
        match db.versions.find? fun v => v.id = versionId && v.documentId = document.id with
        | none => none
        | some version =>
          match db.runsOf source document version with
          | [run] =>
            if run.documentVersionLabel ≠ version.version ∨ serverParserRunMatchesAuthority letters source run = false then
              none
            else
              let chunks := orderedChunks (db.chunksOf version)
              if chunks = [] ∨ run.chunkCount ≠ chunks.length ∨
                  chunks.map (·.chunkIndex) ≠ (List.range chunks.length).map Int.ofNat ∨
                  chunks.any (fun c => c.sourceId ≠ source.id || c.parserRunId ≠ some run.id) then none
              else some ⟨source,document,version,run,chunks⟩
          | _ => none
    | _ => none

def exactAuthorityContainsChunk (authority : ExactSourceAuthority) (chunk : DocumentChunk) : Bool :=
  authority.chunks.any (·.id = chunk.id)

def canonicalEvidenceVersionIsCurrent (db : SourceTables) (source : Source) (versionOrSignature : Text) : Bool :=
  match resolveExactSourceAuthority letters db source with
  | none => false
  | some authority =>
    some versionOrSignature = source.serverContentSignature ||
      match authority.parserRun.revisionId with
      | none => false
      | some revisionId => revisionId ≠ [] && versionOrSignature = revisionId

/-! ## The SQL predicate -/

inductive Dialect where
  | postgresql
  | sqlite
  deriving DecidableEq

/-- `raw_metadata->>key`. -/
def Metadata.text (m : Metadata) (key : Text) : Option Text :=
  match m.get key with
  | none => none
  | some .null => none
  | some (.str t) => some t
  | some v => some v.render

/-- `json_typeof(raw_metadata->key)` and `json_type(raw_metadata, '$.key')`. -/
def Metadata.typeof (dialect : Dialect) (m : Metadata) (key : Text) : Option String :=
  (m.get key).map fun v => match v, dialect with
    | .null, _ => "null"
    | .str _, .postgresql => "string"
    | .str _, .sqlite => "text"
    | .bool _, .postgresql => "boolean"
    | .bool b, .sqlite => if b then "true" else "false"
    | .int _, .postgresql => "number"
    | .int _, .sqlite => "integer"
    | .list _, _ => "array"
    | .dict _, _ => "object"

def stringJsonType : Dialect → String
  | .postgresql => "string"
  | .sqlite => "text"

/-- `trim`: blanks only. -/
def trim (t : Text) : Text := ((t.dropWhile (· = 32)).reverse.dropWhile (· = 32)).reverse

def expectedMime (source : Source) : Option Text :=
  if source.sourceType = Lib.text "gmail" then some (Lib.text "message/rfc822")
  else if source.sourceType = Lib.text "calendar" then some (Lib.text "text/calendar")
  else
    let mime := source.rawMetadata.text (Lib.text "mime_type")
    if letters.lower (trim (mime.getD [])) ∈ serverAllowedMimeTypes then mime.map fun t => letters.lower (trim t)
    else some octetStream

/-- The clauses on the documents, versions, parser runs and chunks of a source. -/
def exactBundleSql (db : SourceTables) (source : Source) (evidenceRef : Option Text) (requiredChunkId : Option Nat) :
    Truth :=
  Truth.exist db.documents fun document => Truth.exist db.versions fun version => Truth.exist db.parserRuns fun run =>
    .all <| [
      .eq (some version.id) document.currentDocumentVersionId,
      .eq (some version.documentId) (some document.id),
      .eq (some run.documentId) (some document.id),
      .eq (some run.documentVersionId) (some version.id),
      .eq (some run.sourceId) (some source.id),
      .eq (some document.sourceId) (some source.id),
      .eq (some (db.runsOf source document version).length) (some 1),
      .eq run.serverContentSignatureSchema (some serverSourceContentSignatureSchema),
      .eq run.serverContentSignature source.serverContentSignature,
      .eq (some run.contentSignature) source.serverContentSignature,
      .eq run.parserPolicyVersion (some serverParserPolicyVersion),
      .eq (some run.parserName) (some (Lib.text "server_"++source.sourceType++Lib.text "_source_event")),
      .eq (some run.parserStatus) (some (Lib.text "parsed")),
      .isNull run.parserStatusReason,
      .eq run.parserVersion (some serverParserVersion),
      .eq run.chunkPolicyVersion (some serverChunkPolicyVersion),
      .eq (some run.mimeType) (expectedMime letters source),
      .eq (some run.documentVersionLabel) (some version.version),
      .ofBool (0 < run.chunkCount),
      .eq (some ((db.chunksOf version).length : Int)) (some run.chunkCount),
      .not (.exist (db.chunksOf version) fun c =>
        .or (.ne (some c.sourceId) (some source.id)) (.ne c.parserRunId (some run.id))),
      .eq (some ((((db.chunksOf version).map (·.chunkIndex)).filter fun i => 0 ≤ i && i < run.chunkCount).dedup.length :
        Int)) (some run.chunkCount)]++
      (match evidenceRef with
        | none => []
        | some ref => [.or (.eq (some ref) source.serverContentSignature)
            (.all [.isNotNull run.revisionId,.ne run.revisionId (some []),.eq (some ref) run.revisionId])])++
      (match requiredChunkId with
        | none => []
        | some chunkId => [.exist db.chunks fun c => .all [
            .eq (some c.id) (some chunkId),
            .eq (some c.versionId) (some version.id),
            .eq (some c.sourceId) (some source.id),
            .eq c.parserRunId (some run.id)]])

/-- The condition `postgres_exact_source_authority_sql` builds, on one source. -/
def postgresExactSourceAuthoritySql (dialect : Dialect) (db : SourceTables) (source : Source)
    (evidenceRef : Option Text) (requiredChunkId : Option Nat) : Truth :=
  let mimeType := source.rawMetadata.typeof dialect (Lib.text "mime_type")
  .all [
    .eq source.serverContentSignatureSchema (some serverSourceContentSignatureSchema),
    .isNotNull source.serverContentSignature,
    .isIn (some source.sourceType) sourceTypes,
    .or (.ne (some source.sourceType) (some (Lib.text "slack")))
      (.eq (source.rawMetadata.text (Lib.text "slack_state")) (some (Lib.text "active"))),
    .or (.or (.not (.isIn (some source.sourceType) [Lib.text "gmail_attachment",Lib.text "drive"])) (.isNull mimeType))
      (.isIn mimeType ["null",stringJsonType dialect]),
    .eq (some (db.documentsOf source).length) (some 1),
    exactBundleSql letters db source evidenceRef requiredChunkId]

end policy

end ParaWorks.Sources
