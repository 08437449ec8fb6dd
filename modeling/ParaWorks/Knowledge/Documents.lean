import ParaWorks.Lib.Strings
import ParaWorks.Knowledge.Narrowing

/-!
# Eligibility of documents

A document id names a chunk of a source or a knowledge row; the one is served under the exact authority of
its source and an approved review item that names the source, the other under its approval links.
-/

namespace ParaWorks.Knowledge

open Lib Sources Rollout

/-- `payload.get('source_ids', ())`, iterated for its strings; none where the iteration raises. -/
def payloadSourceIds (payload : List (Text × Json)) : Option (List Text) :=
  match payload.find? (·.1 = text "source_ids") with
  | none => some []
  | some (_,.list items) => some (items.filterMap fun v => match v with
    | .str t => some t
    | _ => none)
  | some (_,.dict entries) => some (entries.map (·.1))
  | some (_,.str t) => some (t.map fun c => [c])
  | some _ => none

/-- Approved by a human, before or after the resolution source was recorded. -/
def ReviewItem.isHumanApproved (item : ReviewItem) : Bool :=
  item.status = .approved && (item.resolutionSource = none || item.resolutionSource = some (text "human"))

/-- Whether one of the payloads names the source, up to the first that does; none where reading one before it
raises. -/
def namesSource (sourceId : Text) : List ReviewItem → Option Bool
  | [] => some false
  | item::items => do
    let sourceIds ← payloadSourceIds item.payload
    if sourceId ∈ sourceIds then some true else namesSource sourceId items

namespace KnowledgeTables

variable (letters : CaseMap) (db : KnowledgeTables)

/-- A row of `document_chunks` by a Python integer. -/
def chunkByKey (key : Int) : Option DocumentChunk := db.sources.chunks.find? fun c => (c.id : Int) = key

/-- A knowledge row by a Python integer. -/
def targetByKey (type : KnowledgeType) (key : Int) : Option Target :=
  db.targets.find? fun t => t.type = type && (t.id : Int) = key

def humanApproved : List ReviewItem := db.items.filter (·.isHumanApproved)

/-- `_for_chunk`. -/
def forChunk (chunkId : Int) : TrustedServingEligibility :=
  match db.chunkByKey chunkId with
  | none => ineligible
  | some chunk =>
    match db.sources.source chunk.sourceId with
    | none => ineligible
    | some source =>
      if source.sourceType = text "slack" ∨ permissionRank source.permissionLevel = none ∨
          permissionRank chunk.permissionLevel = none then ineligible
      else if namesSource source.sourceId db.humanApproved ≠ some true then ineligible
      else if chunk.parserRunId = none then ineligible
      else match resolveExactSourceAuthority letters db.sources source with
        | none => ineligible
        | some authority =>
          if exactAuthorityContainsChunk authority chunk = false then ineligible
          else ⟨true,strictestPermission [source.permissionLevel,chunk.permissionLevel]⟩

/-- `for_document`; no knowledge row has a negative id. -/
def forDocument (documentId : Text) : TrustedServingEligibility :=
  match splitOnce (ofChar ':') documentId with
  | none => ineligible
  | some (knowledgeType,rawId) =>
    match parseInt rawId with
    | none => ineligible
    | some key =>
      if knowledgeType = text "chunk" then db.forChunk letters key
      else match key with
        | .ofNat knowledgeId => db.forKnowledge letters knowledgeType knowledgeId
        | .negSucc _ => ineligible

end KnowledgeTables

section answers

variable {letters : CaseMap} {db : KnowledgeTables}

theorem forDocument_knowledge {documentId knowledgeType rawId : Text} {knowledgeId : Nat}
    (hsplit : splitOnce (ofChar ':') documentId = some (knowledgeType,rawId))
    (hparse : parseInt rawId = some (knowledgeId : Int)) (htype : knowledgeType ≠ text "chunk") :
    db.forDocument letters documentId = db.forKnowledge letters knowledgeType knowledgeId := by
  unfold KnowledgeTables.forDocument
  simp only [hsplit,hparse]
  exact if_neg htype

section targets

variable {knowledgeType : Text} {knowledgeId : Nat} {type : KnowledgeType} {target : Target}

/-- An open target without active links is served on its legacy base. -/
theorem forKnowledge_legacy (hm : knowledgeModelForType knowledgeType = some type)
    (ht : db.target type knowledgeId = some target) (hopen : TargetOpen db knowledgeType knowledgeId)
    (hlinks : db.activeLinks knowledgeType knowledgeId = []) :
    db.forKnowledge letters knowledgeType knowledgeId = db.legacyHumanEligibility target := by
  obtain ⟨happroved,hknown,htomb⟩ := (targetOpen_iff hm ht).mp hopen
  unfold KnowledgeTables.forKnowledge KnowledgeTables.forKnowledgeExact
  simp only [knowledgeModelForType_canonical,KnowledgeTables.activeLinks_canonical,
    canonicalKnowledgeDocumentId_canonical,hm,ht,hlinks]
  rw [if_neg (by simp [happroved,hknown,htomb])]
  rfl

end targets

end answers

end ParaWorks.Knowledge
