import ParaWorks.Lib.JsonPrinter
import ParaWorks.Lib.Paging
import ParaWorks.Lib.Partial
import ParaWorks.Lib.Strings

/-!
# Pages of the graph projection

How a page of nodes and approved links is read from the canonical tables.
-/

namespace ParaWorks.Graph

open Lib

structure GraphNodeDependency where
  scopeId : Text
  documentId : Text
  version : Text
  permission : Text
  sourceId : Text
  canonicalRef : Text
  deriving DecidableEq

structure GraphEdgeDependency where
  scopeId : Text
  edgeId : Text
  relation : Text
  fromId : Text
  toId : Text
  version : Text
  permission : Option Text
  approvalId : Nat
  evidenceLinkId : Nat
  reviewItemId : Nat
  canonicalRef : Text
  deriving DecidableEq

structure GraphProjectionPage where
  scopeId : Text
  generation : Int
  startCursor : Nat
  cursor : Nat
  complete : Bool
  nodes : List GraphNodeDependency
  edges : List GraphEdgeDependency
  scannedCount : Nat
  sourceUpdatedAt : Text

/-- A row of the lexical projection; its document id is `{kind}:{identifier}`. -/
structure ProjectionRow where
  id : Nat
  corpusGeneration : Nat
  kind : Text
  identifier : Nat
  positive : 0 < id

theorem ProjectionRow.eq_iff (a b : ProjectionRow) : (a.id = b.id ∧ a.corpusGeneration = b.corpusGeneration ∧
    a.kind = b.kind ∧ a.identifier = b.identifier) ↔ a = b := by
  cases a
  cases b
  simp

instance : DecidableEq ProjectionRow := fun a b => decidable_of_iff _ (ProjectionRow.eq_iff a b)

def servingDocumentId (kind : Text) (identifier : Nat) : Text := kind++text ":"++Json.renderInt identifier

def ProjectionRow.documentId (row : ProjectionRow) : Text := servingDocumentId row.kind row.identifier

/-- What a node takes from the evidence of a document. -/
structure ServingEvidence where
  servingDocumentId : Text
  servingVersionFingerprint : Text
  effectivePermission : Text
  publicSourceId : Text
  /-- `asdict(evidence.version_envelope)`. -/
  versionEnvelope : Json

structure TrustedEvidenceLink where
  canonicalSourceId : Text
  trustedKnowledgeEvidenceLinkId : Nat
  /-- `asdict(child)`. -/
  fields : Json

structure ExplicitApprovalProvenance where
  approvalLinkId : Nat
  reviewItemId : Nat
  evidenceLinks : List TrustedEvidenceLink
  /-- `asdict(provenance)`. -/
  fields : Json

structure TrustedServingEnvelope where
  evidence : ServingEvidence
  explicitApproval : Option ExplicitApprovalProvenance

/-- A source with the chunks that its exact authority names. -/
structure SourceAuthority where
  sourceUrl : Text
  sourceType : Text
  /-- The id and the snippet of each chunk. -/
  chunks : List (Nat × Text)

/-- What the canonical tables and their resolvers answer in one transaction. -/
structure CanonicalDatabase where
  corpusGeneration : Nat
  updatedAt : Text
  projections : List ProjectionRow
  /-- The chunk is stored, and its source within bounds. -/
  chunkWithinBounds : Nat → Bool
  /-- `resolve_projection_for_scope_strict` of a chunk. -/
  rawProjection : Nat → Option ServingEvidence
  /-- `resolve_approved_slack_child_for_scope_strict`. -/
  approvedSlackChild : Nat → Option ServingEvidence
  trustedWithinBounds : Text → Nat → Bool
  /-- `resolve_for_scope_strict`. -/
  trustedEnvelope : Text → Nat → Option TrustedServingEnvelope
  /-- The source links and snippets of a review item. -/
  reviewItem : Nat → Option (List Text × List Text)
  /-- `resolve_exact_source_authority` of the source with this id. -/
  sourceAuthority : Text → Option SourceAuthority
  /-- The primary key of the lexical projection. -/
  projections_ids : (projections.map (·.id)).Nodup
  rawProjection_id : ∀ n e, rawProjection n = some e → e.servingDocumentId = servingDocumentId (text "chunk") n
  trustedEnvelope_id : ∀ kind n t, trustedEnvelope kind n = some t →
    t.evidence.servingDocumentId = servingDocumentId kind n

/-- `_json` and the hexadecimal SHA-256 of a text. -/
structure Encoding where
  json : Json → Text
  sha256 : Text → Text

def permissionRank (level : Text) : Option Nat :=
  if level = text "public" then some 0
  else if level = text "internal" then some 1
  else if level = text "restricted" then some 2
  else none

/-- `strictest_permission` of two levels; none where one is unknown. -/
def strictestPermission (a b : Text) : Option Text :=
  (permissionRank a).bind fun m => (permissionRank b).map fun n => if m < n then b else a

variable (encoding : Encoding) (db : CanonicalDatabase) (scopeId : Text)

/-- `_node`. -/
def graphNode (evidence : ServingEvidence) : GraphNodeDependency :=
  ⟨scopeId,evidence.servingDocumentId,evidence.servingVersionFingerprint,evidence.effectivePermission,
    evidence.publicSourceId,encoding.json evidence.versionEnvelope⟩

/-- `d[key] = value`. -/
def setItem {α : Type} (entries : List (Text × α)) (key : Text) (value : α) : List (Text × α) :=
  mergeRow (·.1) entries (key,value)

/-- The nodes and the edges of the page so far. -/
structure PageLoop where
  nodes : List (Text × GraphNodeDependency)
  edges : List GraphEdgeDependency

/-- The chunk of a source that an approval names, with the smallest id. -/
def matchingChunk (authority : SourceAuthority) (pairs : List (Text × Text)) : Option Nat :=
  ((authority.chunks.filter fun chunk => (authority.sourceUrl,chunk.2) ∈ pairs).map (·.1)).min?

/-- The node of an evidence link, none where the approval has no path. -/
def childNode (pairs : List (Text × Text)) (child : TrustedEvidenceLink) : Option (Nat × GraphNodeDependency) :=
  (db.sourceAuthority child.canonicalSourceId).bind fun authority =>
  if 100 < authority.chunks.length then none
  else (matchingChunk authority pairs).bind fun chunk =>
    let projection := match db.rawProjection chunk with
      | some evidence => some evidence
      | none => if authority.sourceType = text "slack" then db.approvedSlackChild chunk else none
    projection.map fun evidence => (chunk,graphNode encoding scopeId evidence)

def graphEdge (evidence : ServingEvidence) (provenance : ExplicitApprovalProvenance) (child : TrustedEvidenceLink)
    (chunk : Nat) (node : GraphNodeDependency) : GraphEdgeDependency :=
  let ref := encoding.json (.dict
    [(text "approval",provenance.fields),(text "child",child.fields),
      (text "from_version",.str evidence.servingVersionFingerprint),(text "to_version",.str node.version)])
  ⟨scopeId,
    text "supported_by:"++Json.renderInt provenance.approvalLinkId++text ":"++
      Json.renderInt child.trustedKnowledgeEvidenceLinkId++text ":"++Json.renderInt chunk,
    text "SUPPORTED_BY",evidence.servingDocumentId,node.documentId,encoding.sha256 ref,
    strictestPermission evidence.effectivePermission node.permission,provenance.approvalLinkId,
    child.trustedKnowledgeEvidenceLinkId,provenance.reviewItemId,ref⟩

/-- The nodes and edges of an approval; none where one of its links has no node. -/
def approvalPaths (evidence : ServingEvidence) (provenance : ExplicitApprovalProvenance) (pairs : List (Text × Text)) :
    Option PageLoop :=
  provenance.evidenceLinks.foldlM (fun (paths : PageLoop) child =>
    (childNode encoding db scopeId pairs child).map fun (chunk,node) =>
    ⟨setItem paths.nodes node.documentId node,
      paths.edges++[graphEdge encoding scopeId evidence provenance child chunk node]⟩) ⟨[],[]⟩

/-- The approval of a trusted document; none where its item is missing or its links and snippets do not pair. -/
def readApproval (loop : PageLoop) (evidence : ServingEvidence) (provenance : ExplicitApprovalProvenance) :
    Option PageLoop :=
  (db.reviewItem provenance.reviewItemId).bind fun item =>
  if item.1.length ≠ item.2.length then none
  else if 50 < provenance.evidenceLinks.length then some loop
  else match approvalPaths encoding db scopeId evidence provenance (item.1.zip item.2) with
    | none => some loop
    | some paths => some ⟨paths.nodes.foldl (fun nodes n => setItem nodes n.1 n.2) loop.nodes,loop.edges++paths.edges⟩

/-- The body of the loop over the rows; none where it raises. -/
def readRow (loop : PageLoop) (row : ProjectionRow) : Option PageLoop :=
  if row.kind = text "chunk" then
    if db.chunkWithinBounds row.identifier = false then some loop
    else match db.rawProjection row.identifier with
      | none => some loop
      | some evidence => some { loop with nodes := setItem loop.nodes row.documentId (graphNode encoding scopeId evidence) }
  else if db.trustedWithinBounds row.kind row.identifier = false then some loop
  else match db.trustedEnvelope row.kind row.identifier with
    | none => some loop
    | some envelope =>
      let loop := { loop with
        nodes := setItem loop.nodes row.documentId (graphNode encoding scopeId envelope.evidence) }
      match envelope.explicitApproval with
      | none => some loop
      | some provenance => readApproval encoding db scopeId loop envelope.evidence provenance

/-- The rows of the current generation by id. -/
def currentRows : List ProjectionRow :=
  (db.projections.filter (·.corpusGeneration = db.corpusGeneration)).insertionSort fun a b => a.id ≤ b.id

/-- `read_projection_page` without an identity window; none where it raises. `timely` says that the loop reaches a
row within its five seconds. -/
def readProjectionPage (timely : ProjectionRow → Bool) (cursor batchSize : Nat) : Option GraphProjectionPage :=
  if batchSize = 0 ∨ 100 < batchSize then none
  else
    let found := (after (·.id) cursor (currentRows db)).take (batchSize+1)
    let rows := found.take batchSize
    if rows.all timely = false then none
    else (rows.foldlM (readRow encoding db scopeId) ⟨[],[]⟩).map fun loop =>
    ⟨scopeId,db.corpusGeneration,cursor,nextCursor (·.id) cursor rows,found.length ≤ batchSize,
      (loop.nodes.insertionSort fun a b => a.1 ≤ b.1).map (·.2),
      loop.edges.insertionSort fun a b => a.edgeId ≤ b.edgeId,rows.length,db.updatedAt⟩

end ParaWorks.Graph
