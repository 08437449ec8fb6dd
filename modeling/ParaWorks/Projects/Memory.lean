import ParaWorks.Projects.EvidenceVisibility

/-!
# Project memory

`build_project_memory`: the approved records and evidence of every project, as a user may see them.
-/

namespace ParaWorks.Projects

open Lib Sources Knowledge
open Answers (DemoUser)
open Ingestion (Entries truthy)

/-! ## The runtime -/

/-- What a date function raises: `ValueError` is caught where the code tries it. -/
inductive DateError where
  | valueError
  | otherError
  deriving DecidableEq

/-- Letter case, `str`, `isdigit`, the iteration order of a set, and dates: `isoformat` of a stored time,
`fromisoformat(..).astimezone(UTC).isoformat()`, and `fromtimestamp(float(..), tz=UTC).isoformat()`. -/
structure Runtime where
  letters : CaseMap
  str : Json → Text
  isDigit : Text → Bool
  setOrder : List Text → List Text
  isoformat : Nat → Text
  fromIsoformat : Text → Except DateError Text
  fromTimestamp : Text → Except DateError Text

/-! ## Records -/

structure ProjectEvidence where
  id : Text
  sourceId : Text
  sourceType : Text
  title : Text
  sourceUrl : Text
  sourceSnippet : Text
  permissionLevel : Text
  timestamp : Text
  taskSummary : Text
  evidenceReason : Text
  deriving DecidableEq

structure ProjectTimelineItem where
  id : Text
  itemType : KnowledgeType
  title : Text
  summary : Text
  sourceLinks : List Text
  sourceSnippets : List Text
  confidenceScore : Rat
  permissionLevel : Text
  reviewStatus : Rollout.ReviewStatus
  createdAt : Text
  occurredAt : Text
  evidenceReason : Text
  projectKey : Option Text
  completedAt : Option Text
  completedBy : Option Text
  resolutionSource : Text
  deriving DecidableEq

structure ProjectMemory where
  projectKey : Text
  name : Text
  summary : Text
  sourceTypes : List Text
  evidenceCount : Nat
  permissionLevel : Text
  latestTimestamp : Text
  pendingReviewCount : Nat
  evidence : List ProjectEvidence
  timelineItems : List ProjectTimelineItem
  activityItems : List ProjectTimelineItem
  deriving DecidableEq

structure VisibleReviewItem where
  item : ReviewItem
  permissionLevel : Text
  sourceLinks : List Text
  sourceSnippets : List Text

/-- `sorted(.., key=lambda item: (time, id), reverse=True)`. -/
def newestFirst {α : Type} (time id : α → Text) (rows : List α) : List α :=
  rows.insertionSort fun x y => time y < time x ∨ time y = time x ∧ id y ≤ id x

/-! ## Texts -/

/-- `' '.join(t.split()).strip()`. -/
def collapsed (t : Text) : Text := join [32] (words t)

def sourceTypeLabel (sourceType : Text) : Text :=
  if sourceType = text "gmail" then text "Gmail"
  else if sourceType = text "gmail_attachment" then text "Gmail 첨부"
  else if sourceType = text "drive" then text "Drive"
  else if sourceType = text "calendar" then text "Calendar"
  else if sourceType = text "slack" then text "Slack"
  else text "Source"

/-- `SOURCE_TYPE_RANK.get(source_type, 99)`. -/
def sourceTypeRank (sourceType : Text) : Nat :=
  if sourceType = text "gmail" then 0
  else if sourceType = text "gmail_attachment" then 1
  else if sourceType = text "drive" then 2
  else if sourceType = text "calendar" then 3
  else if sourceType = text "slack" then 4
  else 99

/-- `_strictest_permission` over `PERMISSION_RANK.get(level, 1)`: the first of the strictest. -/
def strictestPermission : List Text → Text
  | [] => text "internal"
  | level::levels => levels.foldl (fun best level =>
      if (permissionRank best).getD 1 < (permissionRank level).getD 1 then level else best) level

section runtime

variable (r : Runtime)

def displayTitle (taskSummary sourceType : Text) : Text :=
  let cleaned := collapsed taskSummary
  let lowered := r.letters.lower cleaned
  if cleaned ≠ [] ∧ ¬(text "slack message in ").isPrefixOf lowered ∧ ¬(text "slack thread reply in ").isPrefixOf lowered then
    cleaned.take 120
  else sourceTypeLabel sourceType++text " evidence"

def sourceTypeFromLink (link : Text) : Text :=
  let lowered := r.letters.lower link
  if contains (text "slack") lowered then text "slack"
  else if contains (text "mail.google") lowered || contains (text "gmail") lowered then text "gmail"
  else if contains (text "drive.google") lowered || contains (text "docs.google") lowered then text "drive"
  else if contains (text "calendar.google") lowered || contains (text "calendar") lowered then text "calendar"
  else text "source"

def activitySignature (item : ProjectTimelineItem) : Text :=
  join (text "|") [
    r.letters.lower (strip (item.sourceLinks.headD [])),
    r.letters.lower (strip (collapsed (item.sourceSnippets.headD []))),
    r.letters.lower (strip (collapsed item.summary))]

/-- `str(a or b or ..)` of the entries under some keys, else a default. -/
def firstText (payload : Entries) (keys : List Text) (default : Text) : Text :=
  match (keys.filterMap payload.get).find? truthy with
  | none => default
  | some value => r.str value

/-! ## Occurrence times -/

/-- What follows the last `/p`. -/
def afterPermalink : Text → Option Text
  | [] => none
  | c::t =>
    match afterPermalink t with
    | some rest => some rest
    | none => if (text "/p").isPrefixOf (c::t) then some (t.drop 1) else none

/-- `_slack_ts_from_permalink`, as the text it reads as a number. -/
def slackTsFromPermalink (link : Text) : Option Text :=
  (afterPermalink link).bind fun rest =>
    let raw := rest.takeWhile (· ≠ 63)
    if raw.length < 11 ∨ r.isDigit raw = false then none
    else
      let micros := raw.drop 10
      some (raw.take 10++text "."++(micros++List.replicate (6-micros.length) 48).take 6)

/-- `None` where the code goes on after a `ValueError`. -/
def caught (time : Except DateError Text) : Except DateError (Option Text) :=
  match time with
  | .ok t => .ok (some t)
  | .error .valueError => .ok none
  | .error .otherError => .error .otherError

/-- The time in the metadata of a calendar event. -/
def eventStart (source : Source) : Except DateError (Option Text) :=
  if source.sourceType ≠ text "calendar" then .ok none
  else match ([text "event_start",text "start"].filterMap source.rawMetadata.get).find? truthy with
    | some (.str t) => if strip t = [] then .ok none else caught (r.fromIsoformat (t.flatMap fun c => if c = 90 then text "+00:00" else [c]))
    | _ => .ok none

/-- The `ts` in the metadata of a message. -/
def messageTime (source : Source) : Except DateError (Option Text) :=
  match source.rawMetadata.get (text "ts") with
  | some (.str t) => caught (r.fromTimestamp t)
  | _ => .ok none

variable (db : ProjectTables)

/-- `source_by_url.get(link)`: the last of the sources with the URL. -/
def sourceByUrl (link : Text) : Option Source :=
  if link = [] then none
  else (db.sources.sources.filter fun source => (db.sourceTimes source.id).sourceUrl = link).getLast?

def occurredAtFromSourceLinks (fallback : Nat) : List Text → Except DateError Text
  | [] => .ok (r.isoformat fallback)
  | link::links =>
    match sourceByUrl db link with
    | some source => do
      match ← eventStart r source with
      | some t => pure t
      | none =>
        match ← messageTime r source with
        | some t => pure t
        | none =>
          match slackTsFromPermalink r link with
          | some ts => r.fromTimestamp ts
          | none => pure (r.isoformat (db.sourceTimes source.id).createdAt)
    | none =>
      match slackTsFromPermalink r link with
      | some ts => r.fromTimestamp ts
      | none => occurredAtFromSourceLinks fallback links

/-! ## Approved records -/

variable (user : DemoUser)

/-- `_knowledge_permission`. -/
def knowledgePermission (target : Target) : Option Text :=
  let result := db.forKnowledge r.letters target.type.name target.id
  if result.eligible = false then none
  else result.effectivePermission.filter (· ∈ user.permissionLevels)

def trustedResolutionSource (target : Target) : Text :=
  let sources := (db.links.filter fun link => link.knowledgeType ∈ knowledgeTypeStorageAliases target.type.name &&
    link.knowledgeId = target.id && link.active).map (·.resolutionSource)
  if text "human" ∈ sources ∨ sources = [] then text "human"
  else if text "auto_policy" ∈ sources then text "auto_policy" else text "human"

def recordSummary : TargetFields → Text
  | .decisionRecord decisionSummary => decisionSummary
  | .historyEvent reason => reason
  | .timelineEvent resultSummary => resultSummary
  | .todo _ _ _ priorityReason => priorityReason

def recordReason : KnowledgeType → Text
  | .decisionRecord => text "승인된 의사결정 기록이 이 프로젝트와 연결되어 있습니다."
  | .historyEvent => text "승인된 히스토리 기록이 이 프로젝트와 연결되어 있습니다."
  | .timelineEvent => text "승인된 타임라인 항목이 이 프로젝트와 연결되어 있습니다."
  | .todo => text "승인된 할 일이 이 프로젝트와 연결되어 있습니다."

/-- The record of an eligible row of one of the four tables. -/
def memoryRecord (target : Target) (permission : Text) : Except DateError ProjectTimelineItem := do
  let times := db.targetTimes target.type target.id
  let occurredAt ← occurredAtFromSourceLinks r db times.createdAt target.sourceLinks
  pure {
    id := target.type.name++text ":"++Json.renderInt target.id
    itemType := target.type
    title := target.title
    summary := recordSummary target.fields
    sourceLinks := target.sourceLinks
    sourceSnippets := target.sourceSnippets
    confidenceScore := times.confidenceScore
    permissionLevel := permission
    reviewStatus := target.reviewStatus
    createdAt := r.isoformat times.createdAt
    occurredAt
    evidenceReason := recordReason target.type
    projectKey := target.projectKey
    completedAt := if target.type = .todo then times.completedAt.map r.isoformat else none
    completedBy := if target.type = .todo then times.completedBy else none
    resolutionSource := trustedResolutionSource db target }

/-- The approved rows of a table that the user may see, with the permission they are served at. -/
def visibleTargets (type : KnowledgeType) : List (Target × Text) :=
  (db.targets.filter fun target => target.type = type && target.reviewStatus = .approved).filterMap fun target =>
    (knowledgePermission r db user target).map fun permission => (target,permission)

/-- `_approved_memory_records`. -/
def approvedMemoryRecords : Except DateError (List ProjectTimelineItem) := do
  let records ← knowledgeTypes.mapM fun type =>
    (visibleTargets r db user type).mapM fun entry => memoryRecord r db entry.1 entry.2
  pure records.flatten

/-! ## Review items -/

/-- `_visible_review_items`. -/
def visibleReviewItems (items : List ReviewItem) : List VisibleReviewItem :=
  items.filterMap fun item => (project r.letters db item.id user).map fun projection =>
    ⟨item,projection.effectivePermission,projection.sourceLinks,projection.sourceSnippets⟩

def approvedAssignments : List ReviewItem :=
  (db.items.filter fun item => item.itemType = text "project_assignment" && item.status = .approved).insertionSort
    fun x y => db.itemCreatedAt y.id < db.itemCreatedAt x.id ∨ db.itemCreatedAt y.id = db.itemCreatedAt x.id ∧ y.id ≤ x.id

def approvedKnowledgeItems : List ReviewItem :=
  db.items.filter fun item => item.itemType ∈ knowledgeTypes.map (·.name) && item.status = .approved

/-- The item's payload names the project. -/
def namesProject (projectKey : Text) (payload : Entries) : Bool :=
  match payload.get (text "project_key") with
  | some (.str key) => key = projectKey
  | _ => false

/-- `_pending_assignment_counts`, of one project. -/
def pendingAssignmentCount (projectKey : Text) : Nat :=
  (visibleReviewItems r db user (db.items.filter (·.status = .pendingReview))).countP fun visible =>
    projectKey ≠ [] && namesProject projectKey visible.item.payload

def assignmentEvidence (visible : VisibleReviewItem) : ProjectEvidence :=
  let payload := visible.item.payload
  let sourceId := firstText r payload [text "source_id"] (text "review-item-"++Json.renderInt visible.item.id)
  let sourceType := firstText r payload [text "source_type"] (text "source")
  let taskSummary := firstText r payload [text "task_summary",text "summary",text "source_title"] []
  { id := firstText r payload [text "project_key"] (text "unknown")++text ":"++sourceId
    sourceId, sourceType
    title := displayTitle r taskSummary sourceType
    sourceUrl := visible.sourceLinks.headD []
    sourceSnippet := visible.sourceSnippets.headD []
    permissionLevel := visible.permissionLevel
    timestamp := firstText r payload [text "timestamp"] (r.isoformat (db.itemCreatedAt visible.item.id))
    taskSummary
    evidenceReason := firstText r payload [text "evidence_reason"] (text "승인된 프로젝트 연결 후보입니다.") }

end runtime

/-- The rows whose key comes first under it. -/
def firstOfKey {α : Type} (key : α → Text) : List α → List Text → List α
  | [], _ => []
  | row::rows, seen => if key row ∈ seen then firstOfKey key rows seen else row::firstOfKey key rows (key row::seen)

section build

variable (r : Runtime) (db : ProjectTables) (user : DemoUser)

/-- `_evidence_from_assignments`. -/
def evidenceFromAssignments (assignments : List VisibleReviewItem) : List ProjectEvidence :=
  newestFirst (·.timestamp) (·.id) (firstOfKey (·.id) (assignments.map (assignmentEvidence r db)) [])

/-! ## The records of a project -/

def projectLinks (items : List VisibleReviewItem) : List Text := items.flatMap (·.sourceLinks)

/-- The truthy source ids of the items, as texts. -/
def projectSourceIds (items : List VisibleReviewItem) : List Text :=
  items.filterMap fun visible => ((Entries.get visible.item.payload (text "source_id")).filter truthy).map r.str

/-- What `_memory_records_for_project` takes into a project. -/
def isRecordOf (projectKey : Text) (items : List VisibleReviewItem) (record : ProjectTimelineItem) : Bool :=
  record.projectKey = some projectKey || record.sourceLinks.any (· ∈ projectLinks items) ||
    (projectSourceIds r items).any fun sourceId => sourceId ≠ [] && contains sourceId (join [32] record.sourceLinks)

def memoryRecordsForProject (projectKey : Text) (items : List VisibleReviewItem) (records : List ProjectTimelineItem) :
    List ProjectTimelineItem := newestFirst (·.occurredAt) (·.id) (records.filter (isRecordOf r projectKey items))

def normalizedTodoTimelineTitle (title : Text) : Text :=
  let cleaned := strip title
  match [text "[할 일]",text "[할일]",text "할 일:",text "할일:"].find? (·.isPrefixOf cleaned) with
  | none => cleaned
  | some start => strip (cleaned.drop start.length)

def matchesTodo (item todo : ProjectTimelineItem) : Bool :=
  let links := item.sourceLinks.filter fun link => strip link ≠ []
  let todoLinks := todo.sourceLinks.filter fun link => strip link ≠ []
  todo.projectKey = item.projectKey && strip todo.title = normalizedTodoTimelineTitle item.title &&
    (links = [] || todoLinks = [] || links.any (· ∈ todoLinks))

/-- `_timeline_items_from_records`. -/
def timelineItemsFromRecords (records : List ProjectTimelineItem) : List ProjectTimelineItem :=
  let completed := records.filter fun item => item.itemType = .todo && item.completedAt.any (· ≠ [])
  (records.filter (·.itemType = .timelineEvent)).map fun item =>
    match completed.find? (matchesTodo item) with
    | none => item
    | some todo => { item with completedAt := todo.completedAt, completedBy := todo.completedBy }

/-- `_dedupe_activity_items`. -/
def dedupeActivityItems (records : List ProjectTimelineItem) : List ProjectTimelineItem :=
  let nonTimeline := (records.filter (·.itemType ≠ .timelineEvent)).map (activitySignature r)
  firstOfKey (fun item => item.itemType.name++text ":"++activitySignature r item)
    (records.filter fun item => item.itemType ≠ .timelineEvent || activitySignature r item ∉ nonTimeline) []

/-- `f'{item.project_key}:{link}'`. -/
def linkIdentity (item : ProjectTimelineItem) (link : Text) : Text := item.projectKey.getD (text "None")++text ":"++link

/-- `_evidence_from_activity_items`. -/
def evidenceFromActivityItems (items : List ProjectTimelineItem) : List ProjectEvidence :=
  newestFirst (·.timestamp) (·.id) <| firstOfKey (·.id)
    (items.flatMap fun item => item.sourceLinks.zipIdx.filterMap fun entry =>
      if strip entry.1 = [] then none
      else some {
        id := linkIdentity item entry.1
        sourceId := entry.1
        sourceType := sourceTypeFromLink r entry.1
        title := item.title
        sourceUrl := entry.1
        sourceSnippet := item.sourceSnippets.getD entry.2 []
        permissionLevel := item.permissionLevel
        timestamp := item.occurredAt
        taskSummary := item.summary
        evidenceReason := item.evidenceReason : ProjectEvidence }) []

/-- `_dedupe_project_evidence`. -/
def dedupeProjectEvidence (items : List ProjectEvidence) : List ProjectEvidence :=
  newestFirst (·.timestamp) (·.id) (firstOfKey (fun item => item.sourceUrl++text ":"++item.sourceSnippet) items [])

def projectSummary (base : Text) (evidence activity : Nat) : Text :=
  if evidence = 0 ∧ activity = 0 then base++text " 아직 승인된 프로젝트 근거가 없습니다."
  else base++text " 승인된 원본 근거 "++Json.renderInt evidence++text "건과 승인된 프로젝트 활동 "++Json.renderInt activity++
    text "건이 연결되어 있습니다."

/-- One project of `build_project_memory`. -/
def projectMemory (records : List ProjectTimelineItem) (row : Project) : ProjectMemory :=
  let assignments := visibleReviewItems r db user (approvedAssignments db)
  let linkItems := (assignments++visibleReviewItems r db user (approvedKnowledgeItems db)).filter
    fun visible => namesProject row.projectKey visible.item.payload
  let linked := memoryRecordsForProject r row.projectKey linkItems records
  let activity := dedupeActivityItems r linked
  let evidence := dedupeProjectEvidence (evidenceFromAssignments r db
      (assignments.filter fun visible => namesProject row.projectKey visible.item.payload)++
    evidenceFromActivityItems r activity)
  { projectKey := row.projectKey
    name := row.name
    summary := projectSummary row.summary evidence.length activity.length
    sourceTypes := (r.setOrder (evidence.map (·.sourceType))).insertionSort fun x y => sourceTypeRank x ≤ sourceTypeRank y
    evidenceCount := evidence.length
    permissionLevel := strictestPermission (evidence.map (·.permissionLevel)++activity.map (·.permissionLevel))
    latestTimestamp := (evidence.map (·.timestamp)++activity.map (·.occurredAt)).foldl max []
    pendingReviewCount := pendingAssignmentCount r db user row.projectKey
    evidence
    timelineItems := timelineItemsFromRecords linked
    activityItems := activity }

/-- `build_project_memory`; without a user there is nothing. -/
def buildProjectMemory : Option DemoUser → Except DateError (List ProjectMemory)
  | none => .ok []
  | some user => do
    let records ← approvedMemoryRecords r db user
    let rows := db.projects.insertionSort fun x y => y.createdAt < x.createdAt ∨ y.createdAt = x.createdAt ∧ y.id ≤ x.id
    pure (rows.map (projectMemory r db user records))

end build

end ParaWorks.Projects
