import ParaWorks.Answers.Candidates
import ParaWorks.Ingestion.Events

/-!
# Evidence visibility

`ReviewEvidenceVisibilityService`: what an actor may see of a review item, from the sources that its approval links, its
workflow evidence or its payload name.
-/

namespace ParaWorks.Projects

open Lib Sources Knowledge
open Answers (DemoUser)
open Ingestion (Entries truthy)

/-! ## Tables -/

structure AgentWorkflowEvidenceRef where
  id : Nat
  workflowThreadId : Text
  canonicalTable : Text
  canonicalSourceType : Text
  canonicalRowId : Nat
  contentSignature : Text
  permissionLevelSnapshot : Text

structure ReviewItemEvidenceRef where
  reviewItemId : Nat
  workflowThreadId : Text
  workflowEvidenceRefId : Nat
  candidateSlotOrdinal : Nat

structure Project where
  id : Nat
  projectKey : Text
  name : Text
  summary : Text
  createdAt : Nat

structure SourceTimes where
  sourceUrl : Text
  createdAt : Nat

structure TargetTimes where
  confidenceScore : Rat
  createdAt : Nat
  completedAt : Option Nat
  completedBy : Option Text

/-- The tables with the columns that project memory quotes, by primary key; `created_at` and `completed_at` are
microseconds. -/
structure ProjectTables extends KnowledgeTables where
  projects : List Project
  workflowEvidenceRefs : List AgentWorkflowEvidenceRef
  itemEvidenceRefs : List ReviewItemEvidenceRef
  sourceTimes : Nat → SourceTimes
  targetTimes : KnowledgeType → Nat → TargetTimes
  itemCreatedAt : Nat → Nat

structure ReviewEvidenceProjection where
  evidenceAvailable : Bool
  evidenceStatus : Text
  effectivePermission : Text
  sourceIds : List Text
  sourceLinks : List Text
  sourceSnippets : List Text
  actionRequired : Bool

/-! ## Current sources -/

/-- The values a Python `for` loop goes over; none where it raises. -/
def iterated : Option Json → Option (List Json)
  | none => some []
  | some (.list items) => some items
  | some (.str t) => some (t.map fun c => .str [c])
  | some (.dict entries) => some (entries.map fun e => .str e.1)
  | some _ => none

/-- `payload.get('source_ids', ())`, the texts among them. -/
def externalIds (payload : Entries) : Option (List Text) :=
  (iterated (payload.get (text "source_ids"))).map fun values =>
    values.filterMap fun value => match value with
      | .str t => some t
      | _ => none

structure CurrentSources where
  sources : List Source
  complete : Bool
  permissionSnapshots : List Text

section service

variable (letters : CaseMap) (db : ProjectTables)

/-- `sources_by_id` in order of its keys. -/
def sourcesById (sources : List Source) : List Source :=
  db.sources.sources.filter (fun source => sources.any (·.id = source.id)) |> orderBy (·.id)

def evidenceRefsOf (item : ReviewItem) : List AgentWorkflowEvidenceRef :=
  let joined := db.itemEvidenceRefs.filter (·.reviewItemId = item.id) |> orderBy (·.candidateSlotOrdinal)
  joined.flatMap fun link => db.workflowEvidenceRefs.filter fun ref =>
    ref.id = link.workflowEvidenceRefId && ref.workflowThreadId = link.workflowThreadId

def refIsCurrent (ref : AgentWorkflowEvidenceRef) : Bool :=
  match db.sources.source ref.canonicalRowId with
  | none => false
  | some source =>
    ref.canonicalTable = text "sources" && source.sourceType = ref.canonicalSourceType &&
      source.serverContentSignatureSchema = some serverSourceContentSignatureSchema &&
      source.serverContentSignature = some ref.contentSignature

def childIsCurrent (child : TrustedKnowledgeEvidenceLink) : Bool :=
  match (parseInt child.canonicalSourceId).bind db.sourceByKey with
  | none => false
  | some source =>
    source.sourceType = child.canonicalSourceKind &&
      canonicalEvidenceVersionIsCurrent letters db.sources source child.canonicalVersionOrSignature

/-- `_resolve_current_sources`; none where it raises. -/
def resolveCurrentSources (item : ReviewItem) : Option CurrentSources :=
  let links := db.links.filter (·.reviewItemId = item.id)
  match orderBy (·.id) (db.evidenceLinks.filter fun child => links.any (·.id = child.approvalLinkId)) with
  | [] =>
    match evidenceRefsOf db item with
    | [] => (externalIds item.payload).map fun ids =>
        if ids = [] then ⟨[],false,[]⟩
        else
          let sources := orderBy (·.id) (db.sources.sources.filter (·.sourceId ∈ ids))
          ⟨sources,sources.length = ids.dedup.length,[]⟩
    | refs => some
        ⟨sourcesById db (refs.filterMap fun ref => db.sources.source ref.canonicalRowId),
          refs.all (refIsCurrent db),refs.map (·.permissionLevelSnapshot)⟩
  | children => some
      ⟨sourcesById db (children.filterMap fun child => (parseInt child.canonicalSourceId).bind db.sourceByKey),
        children.all (childIsCurrent letters db),links.map (·.permissionLevel)⟩

/-! ## The projection -/

/-- `_strictest_permission` of the review queue: unknown levels are passed over. -/
def strictestKnown (levels : List Text) : Text :=
  ((levels.filter fun level => permissionRank level ≠ none).argmax fun level => (permissionRank level).getD 0).getD
    (text "restricted")

def isKnown (level : Text) : Bool := permissionRank level ≠ none

/-- `project`; none where the item is not found, or concealed. -/
def project (reviewItemId : Nat) (actor : DemoUser) : Option ReviewEvidenceProjection :=
  match db.item reviewItemId with
  | none => none
  | some item =>
    if item.permissionLevel ∉ actor.permissionLevels then none
    else match resolveCurrentSources letters db item with
      | none => none
      | some ⟨sources,complete,permissionSnapshots⟩ =>
        let evidenceShaped := ((Entries.get item.payload (text "source_ids")).any truthy) || item.sourceLinks ≠ [] ||
          item.sourceSnippets ≠ []
        if sources = [] ∧ evidenceShaped = false ∧ item.candidateContractVersion ≠ some (text "c5-v1") then
          (externalIds item.payload).map fun ids =>
            ⟨true,text "legacy_available",item.permissionLevel,ids,item.sourceLinks,item.sourceSnippets,
              item.status = .pendingReview⟩
        else if sources.any (fun source => isKnown source.permissionLevel && source.permissionLevel ∉ actor.permissionLevels) then
          none
        else
          let evidenceAvailable := complete && sources ≠ [] && sources.all fun source => isKnown source.permissionLevel
          let actionRequired := (db.rollout.auditOfItem item.id).any fun audit =>
            audit.status = .pending || audit.status = .remediationRequired
          let effectivePermission := strictestKnown (item.permissionLevel::
            (sources.map (·.permissionLevel)).filter isKnown++permissionSnapshots.filter isKnown)
          if evidenceAvailable = false then
            some ⟨false,text "evidence_unavailable",effectivePermission,[],[],[],actionRequired⟩
          else some ⟨true,text "available",effectivePermission,sources.map (·.sourceId),item.sourceLinks,
            item.sourceSnippets,actionRequired⟩

end service

end ParaWorks.Projects
