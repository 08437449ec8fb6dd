import ParaWorks.Ingestion.Events

/-!
# Parsed documents

How the text of an event is cut into chunks, and the rows that a parsed document is stored in.
-/

namespace ParaWorks.Ingestion

open Lib Sources

/-! ## Chunks of a text -/

def defaultChunkMaxChars : Nat := 1200

def sourceSnippetMaxChars : Nat := 240

def blankLine : Text := [10,10]

/-- `t.split(blankLine)`, with what was read of the first part. -/
def splitBlankLines : Text → Text → List Text
  | [], part => [part.reverse]
  | [c], part => [(c::part).reverse]
  | c::d::t, part =>
    if c = 10 ∧ d = 10 then part.reverse::splitBlankLines t [] else splitBlankLines (d::t) (c::part)

def paragraphs (t : Text) : List Text :=
  ((splitBlankLines (newlines t) []).map strip).filter (· ≠ [])

/-- The line ends of `str.splitlines`. -/
def isLineEnd (c : CodePoint) : Bool :=
  (10 ≤ c.val ∧ c.val ≤ 13) || (28 ≤ c.val ∧ c.val ≤ 30) || c.val = 0x85 || c.val = 0x2028 || c.val = 0x2029

def looksLikeHeading (paragraph : Text) : Bool :=
  10 ∉ paragraph && paragraph.length ≤ 80 &&
    paragraph.getLast?.all fun c => c ∉ [ofChar '.', ofChar '?', ofChar '!', ofChar ':', ofChar ';']

def sectionPath (paragraph : Text) : Option Text :=
  let firstLine := strip (paragraph.takeWhile fun c => !isLineEnd c)
  if firstLine = [] then none else some (firstLine.take 120)

/-- Pieces of at most `n` code points. -/
def pieces (n : Nat) : Nat → Text → List Text
  | 0, _ => []
  | fuel+1, t => if t = [] then [] else t.take n::pieces n fuel (t.drop n)

def splitLongParagraph (paragraph : Text) (maxChars : Nat) : List Text :=
  (pieces maxChars paragraph.length paragraph).map strip

structure ChunkLoop where
  chunks : List (Text × Option Text)
  current : List Text
  currentSection : Option Text

/-- The current paragraphs become a chunk, if there are any. -/
def ChunkLoop.close (loop : ChunkLoop) (currentSection : Option Text) : ChunkLoop :=
  if loop.current = [] then loop
  else ⟨loop.chunks++[(join blankLine loop.current,loop.currentSection)],[],currentSection⟩

def chunkParagraph (maxChars : Nat) (loop : ChunkLoop) (paragraph : Text) : ChunkLoop :=
  let loop := if looksLikeHeading paragraph then loop.close none else loop
  let loop := if loop.currentSection = none then { loop with currentSection := sectionPath paragraph } else loop
  if (join blankLine (loop.current++[paragraph])).length ≤ maxChars then
    { loop with current := loop.current++[paragraph] }
  else
    let loop := loop.close (sectionPath paragraph)
    if paragraph.length ≤ maxChars then { loop with current := loop.current++[paragraph] }
    else
      { loop with
        chunks := loop.chunks++(splitLongParagraph paragraph maxChars).map (·,loop.currentSection)
        currentSection := none }

def snippet (t : Text) : Text := (join [32] (words t)).take sourceSnippetMaxChars

/-- `_parsed_chunks_from_text`: the text, snippet and section of each chunk. -/
def parsedChunksFromText (t : Text) (maxChars : Nat) : List (Text × Text × Option Text) :=
  if paragraphs t = [] then [([],[],none)]
  else
    let loop := ((paragraphs t).foldl (chunkParagraph maxChars) ⟨[],[],none⟩).close none
    loop.chunks.map fun chunk => (chunk.1,snippet chunk.1,chunk.2)

/-! ## Parsed documents -/

structure ParsedDocumentChunk where
  chunkIndex : Nat
  text : Text
  sourceSnippet : Text
  permissionLevel : Text
  contentHash : Text
  metadata : Entries

structure ParsedDocument where
  sourceId : Text
  sourceUrl : Text
  sourceSnippet : Text
  permissionLevel : Text
  mimeType : Text
  documentVersion : Text
  revisionId : Text
  contentSignature : Text
  parserName : Text
  parserStatus : Text
  parserStatusReason : Option Text
  chunks : List ParsedDocumentChunk

def optionalJson : Option Text → Json
  | none => .null
  | some t => .str t

section platform

variable (p : Platform)

/-- The metadata of a chunk of a parsed document. -/
def ParsedDocument.chunkMetadata (parsed : ParsedDocument) (index : Nat) (path : Option Text) : Entries :=
  [(text "source_id",.str parsed.sourceId),
    (text "source_url",.str parsed.sourceUrl),
    (text "permission_level",.str parsed.permissionLevel),
    (text "mime_type",.str parsed.mimeType),
    (text "document_version",.str parsed.documentVersion),
    (text "revision_id",.str parsed.revisionId),
    (text "content_signature",.str parsed.contentSignature),
    (text "parser_name",.str parsed.parserName),
    (text "parser_status",.str parsed.parserStatus),
    (text "parser_status_reason",optionalJson parsed.parserStatusReason),
    (text "chunk_index",.int index),
    (text "page_number",.null),
    (text "section_path",optionalJson path)]

def ParsedDocument.contentHash (parsed : ParsedDocument) (index : Nat) (chunkText : Text) (path : Option Text) :
    Option Text :=
  p.compactDigest (.dict [
    (text "source_id",.str parsed.sourceId),
    (text "source_url",.str parsed.sourceUrl),
    (text "permission_level",.str parsed.permissionLevel),
    (text "mime_type",.str parsed.mimeType),
    (text "document_version",.str parsed.documentVersion),
    (text "revision_id",.str parsed.revisionId),
    (text "content_signature",.str parsed.contentSignature),
    (text "parser_name",.str parsed.parserName),
    (text "chunk_index",.int index),
    (text "text",.str chunkText),
    (text "page_number",.null),
    (text "section_path",optionalJson path)])

/-- `ParsedDocument.__post_init__`: chunks need source evidence, and take what the document says of them. -/
def ParsedDocument.postInit (parsed : ParsedDocument) (texts : List (Text × Text × Option Text)) : Option ParsedDocument :=
  if parsed.sourceId = [] ∨ parsed.sourceUrl = [] ∨ parsed.sourceSnippet = [] then none
  else
    (texts.zipIdx.mapM fun chunk =>
      (parsed.contentHash p chunk.2 chunk.1.1 chunk.1.2.2).map fun contentHash =>
        (⟨chunk.2,chunk.1.1,chunk.1.2.1,parsed.permissionLevel,contentHash,
          parsed.chunkMetadata chunk.2 chunk.1.2.2⟩ : ParsedDocumentChunk)).map fun chunks =>
      { parsed with chunks := chunks }

/-- `_chunk_max_chars`. -/
def chunkMaxChars (metadata : Entries) : Nat :=
  let chosen : Option Int := match metadata.get (text "chunk_max_chars") with
    | some (.int n) => some n
    | some (.bool b) => some (if b then 1 else 0)
    | some (.str t) => parseInt t
    | _ => none
  match chosen with
  | none => defaultChunkMaxChars
  | some n => max n.toNat sourceSnippetMaxChars

/-- The server's signature and policy, with the canonical permission. -/
structure ServerParsing where
  signature : CanonicalSourceContentSignature
  policy : ServerParserPolicy
  permissionLevel : Text

def serverChunkMaxChars : Nat := 1200

/-- `parsed_document_from_source_event`; none where it raises. -/
def parsedDocumentFromSourceEvent (event : SourceEvent) (server : Option ServerParsing) : Option ParsedDocument :=
  let metadata := event.rawMetadata
  let documentVersion := strOr p metadata (text "document_version") (text "v1")
  let revisionId := strOr p metadata (text "revision_id") []
  match server with
  | none =>
    ParsedDocument.postInit p
      ⟨event.sourceId,event.sourceUrl,strOr p metadata (text "source_snippet") (snippet event.body),
        event.permissionLevel,strOr p metadata (text "mime_type") event.sourceType,documentVersion,revisionId,
        strOr p metadata (text "content_signature") (event.sourceId++text ":"++documentVersion),
        strOr p metadata (text "parser_name") (event.sourceType++text "_source_event"),
        strOr p metadata (text "parser_status") (text "parsed"),
        match metadata.get (text "parser_status_reason") with
          | none | some .null => none
          | some value => some (p.strOf value),[]⟩
      (parsedChunksFromText event.body (chunkMaxChars metadata))
  | some server =>
    ParsedDocument.postInit p
      ⟨event.sourceId,event.sourceUrl,snippet event.body,server.permissionLevel,server.policy.mimeType,
        documentVersion,revisionId,server.signature.signature,server.policy.parserName,text "parsed",none,[]⟩
      (parsedChunksFromText event.body serverChunkMaxChars)

end platform

/-! ## Rows -/

structure Source extends Sources.Source where
  sourceUrl : Text
  title : Text
  author : Option Text
  connectorContentSignature : Option Text
  /-- `created_at.isoformat()`. -/
  createdAt : Text

structure Document extends Sources.Document where
  title : Text
  currentVersion : Text

structure DocumentVersion extends Sources.DocumentVersion where
  body : Text

structure DocumentParserRun extends Sources.DocumentParserRun where
  metadata : Entries

structure DocumentChunk extends Sources.DocumentChunk where
  text : Text
  sourceSnippet : Text
  metadata : Entries

structure VectorIndexState where
  id : Nat
  documentId : Text
  embeddingModel : Text
  contentHash : Text
  status : Text
  servingKind : Option Text
  indexPolicyVersion : Option Text

/-- A row of the vector store. -/
structure VectorRow where
  documentId : Text
  permissionLevel : Text

/-- The tables that ingestion reads and writes; `pending` holds chunks that are added but not flushed. -/
structure IngestionState where
  sources : List Source
  documents : List Document
  versions : List DocumentVersion
  parserRuns : List DocumentParserRun
  chunks : List DocumentChunk
  pending : List DocumentChunk
  indexStates : List VectorIndexState
  vectors : List VectorRow
  corpusGeneration : Nat
  vectorIndexGeneration : Nat

namespace IngestionState

variable (db : IngestionState)

def flush : IngestionState := { db with chunks := db.chunks++db.pending, pending := [] }

def source (sourceId : Text) : Option Source := db.sources.find? (·.sourceId = sourceId)

def documentOf (source : Source) : Option Document := db.documents.find? (·.sourceId = source.id)

/-- All chunks, flushed or not. -/
def allChunks : List DocumentChunk := db.chunks++db.pending

end IngestionState

/-- An id above those in use. -/
def freshId (ids : List Nat) : Nat := ids.foldr max 0+1

/-! ## Storing a parsed document -/

/-- `_SERVER_PARSED_METADATA_AUTHORITY_KEYS`. -/
def serverParsedMetadataAuthorityKeys : List Text :=
  [text "chunk_max_chars",text "chunk_policy",text "chunk_policy_version",text "content_hash",
    text "content_signature",text "document_version",text "mime_type",text "page_number",text "parser_name",
    text "parser_policy_version",text "parser_status",text "parser_status_reason",text "parser_version",
    text "revision_id",text "section_path",text "source_snippet"]

/-- The document of the source under its new title and version, added if there is none. -/
def storedDocument (db : IngestionState) (source : Source) (title version : Text) : Document × List Document :=
  match db.documentOf source with
  | none =>
    let document : Document := ⟨⟨freshId (db.documents.map (·.id)),source.id,none⟩,title,version⟩
    (document,db.documents++[document])
  | some document =>
    let document := { document with title := title, currentVersion := version }
    (document,db.documents.map fun d => if d.id = document.id then document else d)

/-- The metadata that all chunks of a parsed document share. -/
def chunkBaseMetadata (parsed : ParsedDocument) (metadata : Entries) (server : Option ServerParsing) : Entries :=
  match server with
  | none => metadata
  | some _ => (metadata.without serverParsedMetadataAuthorityKeys).merge
      [(text "parser_name",.str parsed.parserName),
        (text "parser_status",.str parsed.parserStatus),
        (text "parser_status_reason",optionalJson parsed.parserStatusReason),
        (text "mime_type",.str parsed.mimeType),
        (text "document_version",.str parsed.documentVersion),
        (text "revision_id",.str parsed.revisionId),
        (text "content_signature",.str parsed.contentSignature)]

/-- `persist_parsed_document`: the chunks stay pending. -/
def persistParsedDocument (db : IngestionState) (source : Source) (title : Text) (parsed : ParsedDocument)
    (metadata : Entries) (server : Option ServerParsing) : IngestionState :=
  let (document,documents) := storedDocument db source title parsed.documentVersion
  let versionId := freshId (db.versions.map (·.id))
  let version : DocumentVersion :=
    ⟨⟨versionId,document.id,parsed.documentVersion⟩,join [10] (parsed.chunks.map (·.text))⟩
  let documents := match server with
    | none => documents
    | some _ => documents.map fun d =>
        if d.id = document.id then { d with currentDocumentVersionId := some versionId } else d
  let runId := freshId (db.parserRuns.map (·.id))
  let run : DocumentParserRun :=
    ⟨⟨runId,document.id,versionId,source.id,parsed.parserName,parsed.parserStatus,parsed.parserStatusReason,
        parsed.mimeType,parsed.documentVersion,some parsed.revisionId,parsed.contentSignature,
        server.map (·.signature.schema),server.map (·.signature.signature),
        server.map (·.policy.parserPolicyVersion),server.map (·.policy.parserVersion),
        server.map (·.policy.chunkPolicyVersion),parsed.chunks.length⟩,
      [(text "source_id",.str parsed.sourceId),(text "source_url",.str parsed.sourceUrl),
        (text "permission_level",.str parsed.permissionLevel),(text "source_snippet",.str parsed.sourceSnippet)]⟩
  let firstId := freshId (db.allChunks.map (·.id))
  let base := chunkBaseMetadata parsed metadata server
  let chunks := parsed.chunks.zipIdx.map fun chunk =>
    (⟨⟨firstId+chunk.2,versionId,source.id,server.map fun _ => runId,chunk.1.chunkIndex,chunk.1.permissionLevel⟩,
      chunk.1.text,chunk.1.sourceSnippet,
      (base.merge chunk.1.metadata).set (text "content_hash") (.str chunk.1.contentHash)⟩ : DocumentChunk)
  { db.flush with
    documents := documents
    versions := db.versions++[version]
    parserRuns := db.parserRuns++[run]
    pending := chunks }

end ParaWorks.Ingestion
