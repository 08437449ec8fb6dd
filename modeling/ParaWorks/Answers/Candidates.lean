import ParaWorks.Knowledge.Documents

/-!
# Evidence candidates

What a question retrieves, by keywords from the tables or from a vector store, the live permission it is
projected to, and the snapshot of what its serving depends on.
-/

namespace ParaWorks.Answers

open Lib Sources Rollout Knowledge

/-- The library functions that the candidates are computed with: letter case, `str`, the floating-point relevance of a
count of matched terms, and SHA-256. -/
structure Runtime where
  letters : CaseMap
  str : Json → Text
  relevance : Nat → Nat → Bool → Nat → Rat
  sha256 : Text → Text
  sha256_injective : Function.Injective sha256

/-! ## Tables -/

structure ChunkColumns where
  text : Text
  sourceSnippet : Text
  metadata : List (Text × Json)

structure SourceColumns where
  title : Text
  sourceUrl : Text
  author : Json
  createdAt : Text

/-- The tables with the columns that answers quote, by primary key. -/
structure ServingTables extends KnowledgeTables where
  chunkColumns : Nat → ChunkColumns
  sourceColumns : Nat → SourceColumns
  targetCreatedAt : KnowledgeType → Nat → Text

structure DemoUser where
  id : Text
  role : Text
  permissionLevels : List Text

def canAccessPermission (user : DemoUser) (permissionLevel : Text) : Bool := permissionLevel ∈ user.permissionLevels

/-! ## Candidates -/

/-- The entries `relevance_score`, `vector_score` and `matched_terms` that the source copies into the metadata are
fields. -/
structure RagEvidenceCandidate where
  sourceId : Text
  sourceUrl : Text
  text : Text
  sourceSnippet : Text
  author : Json
  timestamp : Text
  permissionLevel : Text
  metadata : List (Text × Json)
  relevanceScore : Rat
  matchedTerms : List Json

def entry (metadata : List (Text × Json)) (key : Text) : Option Json := (metadata.find? (·.1 = key)).map (·.2)

/-- `v or default`, as a text. -/
def Runtime.orText (runtime : Runtime) (v : Option Json) (default : Text) : Text :=
  match v with
  | none => default
  | some .null => default
  | some (.bool false) => default
  | some (.int 0) => default
  | some (.str []) => default
  | some (.list []) => default
  | some (.dict []) => default
  | some (.str t) => t
  | some v => runtime.str v

/-- `metadata.get('chunk_id')` when it is an integer, as a key and as an f-string prints it. -/
def chunkKey (metadata : List (Text × Json)) : Option (Int × Text) :=
  match entry metadata (text "chunk_id") with
  | some (.int n) => some (n,Json.renderInt n)
  | some (.bool b) => some (if b then (1,text "True") else (0,text "False"))
  | _ => none

def queryTerms (letters : CaseMap) (question : Text) : List Text :=
  ((Lib.words (replace (ofChar '.') 32 (replace (ofChar ',') 32 question))).filter fun t => 3 ≤ (strip t).length).map
    fun t => letters.lower (strip t)

def scoreRagCandidate (runtime : Runtime) (question body title : Text) : Rat × List Text :=
  let terms := queryTerms runtime.letters question
  let searchable := runtime.letters.lower (title++text "\n"++body)
  let matched := terms.filter fun t => contains t searchable
  if matched = [] then (0,[])
  else
    let exactPhrase := contains (runtime.letters.lower (strip question)) searchable
    let titleHits := matched.countP fun t => contains t (runtime.letters.lower title)
    (runtime.relevance matched.length terms.length exactPhrase titleHits,matched)

/-- `sorted(candidates, key=relevance_score, reverse=True)`. -/
def byRelevance (candidates : List RagEvidenceCandidate) : List RagEvidenceCandidate :=
  candidates.mergeSort fun a b => b.relevanceScore ≤ a.relevanceScore

def canonicalKnowledgeText (target : Target) : Text :=
  join (text "\n") <| match target.fields with
    | .decisionRecord decisionSummary => [target.title,decisionSummary]
    | .historyEvent reason => [target.title,reason]
    | .timelineEvent resultSummary => [target.title,resultSummary]
    | .todo _ _ priority priorityReason => [target.title,priority,priorityReason]

section retrieval

variable (runtime : Runtime) (db : ServingTables)

def chunkCandidate (question : Text) (chunk : DocumentChunk) (source : Source) (permissionLevel : Text) :
    RagEvidenceCandidate :=
  let columns := db.chunkColumns chunk.id
  let sourceColumns := db.sourceColumns source.id
  let score := scoreRagCandidate runtime question columns.text sourceColumns.title
  { sourceId := source.sourceId
    sourceUrl := sourceColumns.sourceUrl
    text := columns.text
    sourceSnippet := columns.sourceSnippet
    author := sourceColumns.author
    timestamp := runtime.orText (source.rawMetadata.get (text "ts")) sourceColumns.createdAt
    permissionLevel := permissionLevel
    metadata := [(text "chunk_id",.int chunk.id),(text "source_pk",.int source.id),
      (text "source_type",.str source.sourceType),
      (text "channel_name",(source.rawMetadata.get (text "channel_name")).getD .null),
      (text "author_name",(source.rawMetadata.get (text "author_name")).getD .null),
      (text "category",(entry columns.metadata (text "category")).getD .null),
      (text "topic_tag",(entry columns.metadata (text "topic_tag")).getD .null),
      (text "importance",(entry columns.metadata (text "importance")).getD .null),
      (text "scenario",(source.rawMetadata.get (text "scenario")).getD .null)]
    relevanceScore := score.1
    matchedTerms := score.2.map .str }

def retrieveMatchingChunks (question : Text) : List (DocumentChunk × Source) :=
  let terms := queryTerms runtime.letters question
  let rows := (orderBy (·.id) db.sources.chunks).filterMap fun chunk =>
    (db.sources.source chunk.sourceId).map fun source => (chunk,source)
  rows.filter fun row => terms.any fun t =>
    contains t (runtime.letters.lower ((db.chunkColumns row.1.id).text++text " "++(db.sourceColumns row.2.id).title))

def retrieveMatchingChunkCandidates (question : Text) : List RagEvidenceCandidate :=
  byRelevance <| (retrieveMatchingChunks runtime db question).filterMap fun row =>
    let serving := db.forDocument runtime.letters (text "chunk:"++Json.renderInt row.1.id)
    if serving.eligible then
      serving.effectivePermission.map fun p => chunkCandidate runtime db question row.1 row.2 p
    else none

/-- `_knowledge_candidate`. -/
def knowledgeCandidate (target : Target) (permissionLevel : Text) (score : Rat × List Text) : RagEvidenceCandidate :=
  let sourceId := target.type.name++text ":"++Json.renderInt target.id
  let body := canonicalKnowledgeText target
  { sourceId := sourceId
    sourceUrl := target.sourceLinks.headD (text "knowledge://"++sourceId)
    text := body
    sourceSnippet := target.sourceSnippets.headD (body.take 240)
    author := .null
    timestamp := db.targetCreatedAt target.type target.id
    permissionLevel := permissionLevel
    metadata := [(text "source_type",.str target.type.name),(text "title",.str target.title),
      (text "knowledge_id",.str sourceId)]
    relevanceScore := score.1
    matchedTerms := score.2.map .str }

/-- The candidates of one knowledge table. -/
def retrieveMatchingTargets (question : Text) (type : KnowledgeType) : List RagEvidenceCandidate :=
  (db.targets.filter fun t => t.type = type && t.reviewStatus = .approved).filterMap fun target =>
    let serving := db.forKnowledge runtime.letters type.name target.id
    let score := scoreRagCandidate runtime question (canonicalKnowledgeText target) target.title
    if serving.eligible ∧ score.2 ≠ [] then
      serving.effectivePermission.map fun p => knowledgeCandidate db target p score
    else none

def retrieveMatchingKnowledgeCandidates (question : Text) : List RagEvidenceCandidate :=
  if queryTerms runtime.letters question = [] then []
  else byRelevance (knowledgeTypes.flatMap (retrieveMatchingTargets runtime db question))

def retrieveMatchingEvidenceCandidates (question : Text) : List RagEvidenceCandidate :=
  byRelevance (retrieveMatchingChunkCandidates runtime db question++
    retrieveMatchingKnowledgeCandidates runtime db question)

end retrieval

/-! ## Vector matches -/

structure VectorDocument where
  documentId : Text
  text : Text
  sourceUrl : Text
  sourceSnippet : Text
  permissionLevel : Text
  metadata : List (Text × Json)

structure VectorMatch where
  document : VectorDocument
  score : Rat

/-- `list(v)`; none where it raises. -/
def listOf : Json → Option (List Json)
  | .list items => some items
  | .dict entries => some (entries.map fun e => .str e.1)
  | .str t => some (t.map fun c => .str [c])
  | _ => none

def candidateFromVectorMatch (runtime : Runtime) (m : VectorMatch) : Option RagEvidenceCandidate :=
  (listOf ((entry m.document.metadata (text "matched_terms")).getD (.list []))).map fun matchedTerms =>
    { sourceId := m.document.documentId
      sourceUrl := m.document.sourceUrl
      text := m.document.text
      sourceSnippet := m.document.sourceSnippet
      author := (entry m.document.metadata (text "author")).getD .null
      timestamp := runtime.orText (entry m.document.metadata (text "timestamp")) []
      permissionLevel := m.document.permissionLevel
      metadata := m.document.metadata
      relevanceScore := m.score
      matchedTerms := matchedTerms }

def candidatesFromVectorMatches (runtime : Runtime) (matches' : List VectorMatch) :
    Option (List RagEvidenceCandidate) :=
  matches'.mapM (candidateFromVectorMatch runtime)

/-! ## Snapshots and live candidates -/

inductive DependencyKind where
  | rawChunk
  | trustedKnowledge
  deriving DecidableEq

structure ServingDependencySnapshot where
  servingDocumentId : Text
  dependencyKind : DependencyKind
  servingContentHash : Text
  permissionLevel : Text
  documentChunkId : Option Nat := none
  documentVersionId : Option Nat := none
  sourceId : Option Nat := none
  parserRunId : Option Nat := none
  currentDocumentVersionId : Option Nat := none
  serverContentSignatureSchema : Option Text := none
  serverContentSignature : Option Text := none
  parserPolicyVersion : Option Text := none
  parserVersion : Option Text := none
  chunkPolicyVersion : Option Text := none
  knowledgeType : Option Text := none
  knowledgeId : Option Nat := none
  approvalLinkId : Option Nat := none
  legacyHumanBase : Bool := false
  legacySourceReviewItemId : Option Nat := none
  evidenceLinkIds : List Nat := []
  deriving DecidableEq

/-- The text whose hash stands for what is served. -/
def servingContent (sourceId body sourceUrl sourceSnippet permissionLevel : Text) : Text :=
  join (text "\n") [sourceId,body,sourceUrl,sourceSnippet,permissionLevel]

def RagEvidenceCandidate.content (c : RagEvidenceCandidate) : Text :=
  servingContent c.sourceId c.text c.sourceUrl c.sourceSnippet c.permissionLevel

def knowledgeServingContent (target : Target) (servingDocumentId permissionLevel : Text) : Text :=
  let body := canonicalKnowledgeText target
  servingContent servingDocumentId body (target.sourceLinks.headD (text "knowledge://"++servingDocumentId))
    (target.sourceSnippets.headD (body.take 240)) permissionLevel

section snapshots

variable (runtime : Runtime) (db : ServingTables)

/-- `ORDER BY resolution_source DESC, id`. -/
def dependencyLinks (knowledgeType : Text) (knowledgeId : Nat) : List TrustedKnowledgeApprovalLink :=
  (db.activeLinks knowledgeType knowledgeId).mergeSort fun a b => b.resolutionSource ≤ a.resolutionSource

def rawChunkSnapshot (candidate : RagEvidenceCandidate) (key : Int) : Option ServingDependencySnapshot := do
  let chunk ← db.chunkByKey key
  guard (chunk.parserRunId ≠ none)
  let source ← db.sources.source chunk.sourceId
  let authority ← resolveExactSourceAuthority runtime.letters db.sources source
  guard (exactAuthorityContainsChunk authority chunk)
  let columns := db.chunkColumns chunk.id
  let expected := servingContent source.sourceId columns.text (db.sourceColumns source.id).sourceUrl
    columns.sourceSnippet candidate.permissionLevel
  guard (runtime.sha256 candidate.content = runtime.sha256 expected)
  return {
    servingDocumentId := text "chunk:"++Json.renderInt chunk.id
    dependencyKind := .rawChunk
    servingContentHash := runtime.sha256 candidate.content
    permissionLevel := candidate.permissionLevel
    documentChunkId := some chunk.id
    documentVersionId := some authority.version.id
    sourceId := some source.id
    parserRunId := some authority.parserRun.id
    currentDocumentVersionId := authority.document.currentDocumentVersionId
    serverContentSignatureSchema := source.serverContentSignatureSchema
    serverContentSignature := source.serverContentSignature
    parserPolicyVersion := authority.parserRun.parserPolicyVersion
    parserVersion := authority.parserRun.parserVersion
    chunkPolicyVersion := authority.parserRun.chunkPolicyVersion }

/-- The snapshot of the first live link with evidence. -/
def linkSnapshot (base : ServingDependencySnapshot) :
    List TrustedKnowledgeApprovalLink → Option ServingDependencySnapshot
  | [] => none
  | link::links =>
    if db.approvalLinkIsLive runtime.letters link.id = true ∧ db.childrenOf link ≠ [] then
      some { base with
        knowledgeType := some link.knowledgeType
        approvalLinkId := some link.id
        evidenceLinkIds := (db.childrenOf link).map (·.id) }
    else linkSnapshot base links

def legacySnapshot (base : ServingDependencySnapshot) (target : Target) : Option ServingDependencySnapshot :=
  match target.sourceReviewItemId with
  | none => some { base with legacyHumanBase := true }
  | some itemId =>
    (if itemId = 0 then none else (db.item itemId).filter (·.isLegacyHuman)).map fun item =>
      { base with legacyHumanBase := true, legacySourceReviewItemId := some item.id }

def knowledgeSnapshot (candidate : RagEvidenceCandidate) : Option ServingDependencySnapshot := do
  let (knowledgeType,rawId) ← splitOnce (ofChar ':') candidate.sourceId
  let key ← parseInt rawId
  let type ← knowledgeModelForType knowledgeType
  let target ← db.targetByKey type key
  let expected := knowledgeServingContent target candidate.sourceId candidate.permissionLevel
  guard (runtime.sha256 candidate.content = runtime.sha256 expected)
  let base : ServingDependencySnapshot := {
    servingDocumentId := candidate.sourceId
    dependencyKind := .trustedKnowledge
    servingContentHash := runtime.sha256 candidate.content
    permissionLevel := candidate.permissionLevel
    knowledgeType := some knowledgeType
    knowledgeId := some target.id }
  match linkSnapshot runtime db base (dependencyLinks db knowledgeType target.id) with
  | some snapshot => some snapshot
  | none => legacySnapshot db base target

/-- `build_serving_dependency_snapshot`; none also where the knowledge type is unsupported and it raises. -/
def buildServingDependencySnapshot (candidate : RagEvidenceCandidate) : Option ServingDependencySnapshot :=
  match chunkKey candidate.metadata with
  | some (key,_) => rawChunkSnapshot runtime db candidate key
  | none => knowledgeSnapshot runtime db candidate

def RagEvidenceCandidate.documentId (candidate : RagEvidenceCandidate) : Text :=
  match chunkKey candidate.metadata with
  | some (_,printed) => Lib.text "chunk:"++printed
  | none => candidate.sourceId

/-- A candidate at the live permission of its document. -/
def liveServingCandidate (candidate : RagEvidenceCandidate) : Option RagEvidenceCandidate := do
  let result := db.forDocument runtime.letters candidate.documentId
  guard result.eligible
  let p ← result.effectivePermission
  let projected := { candidate with permissionLevel := p }
  guard (buildServingDependencySnapshot runtime db projected).isSome
  return projected

def filterLiveServingCandidates (candidates : List RagEvidenceCandidate) : List RagEvidenceCandidate :=
  candidates.filterMap (liveServingCandidate runtime db)

end snapshots

end ParaWorks.Answers
