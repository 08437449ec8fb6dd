import ParaWorks.Projects.Agreement

/-!
# What a project shows

Which records the lists of a project hold, why each of them is there, and which are left out.
-/

namespace ParaWorks.Projects

open Lib Sources Knowledge
open Answers (DemoUser)
open Ingestion (Entries truthy)

variable {r : Runtime} {db db' : ProjectTables} {user : DemoUser} {projectKey : Text}
  {records : List ProjectTimelineItem} {record : ProjectTimelineItem}

/-! ## De-duplication -/

section firstOfKey

variable {α : Type} {key : α → Text} {row : α}

theorem mem_of_firstOfKey {rows : List α} {seen : List Text} (h : row ∈ firstOfKey key rows seen) : row ∈ rows := by
  induction rows generalizing seen with
  | nil => cases h
  | cons first rows ih =>
    unfold firstOfKey at h
    split at h
    · exact List.mem_cons_of_mem _ (ih h)
    · rcases List.mem_cons.mp h with rfl | h
      · exact List.mem_cons_self
      · exact List.mem_cons_of_mem _ (ih h)

/-- Every key that was not seen before is kept once. -/
theorem firstOfKey_covers (key : α → Text) {rows : List α} {seen : List Text} (hrow : row ∈ rows) (hseen : key row ∉ seen) :
    ∃ kept ∈ firstOfKey key rows seen, key kept = key row := by
  induction rows generalizing seen with
  | nil => cases hrow
  | cons first rows ih =>
    unfold firstOfKey
    by_cases hfirst : key first ∈ seen
    · rw [if_pos hfirst]
      rcases List.mem_cons.mp hrow with rfl | hrow
      · exact absurd hfirst hseen
      · exact ih hrow hseen
    · rw [if_neg hfirst]
      by_cases hsame : key row = key first
      · exact ⟨first,List.mem_cons_self,hsame.symm⟩
      · rcases List.mem_cons.mp hrow with rfl | hrow
        · exact absurd rfl hsame
        · obtain ⟨kept,hkept,heq⟩ := ih hrow fun h => (List.mem_cons.mp h).elim hsame hseen
          exact ⟨kept,List.mem_cons_of_mem _ hkept,heq⟩

end firstOfKey

theorem mem_newestFirst {α : Type} {time id : α → Text} {rows : List α} {row : α} :
    row ∈ newestFirst time id rows ↔ row ∈ rows := List.mem_insertionSort _

/-- The type is read off the identity of an activity. -/
theorem identity_inj {type type' : KnowledgeType} {signature signature' : Text}
    (h : type.name++text ":"++signature = type'.name++text ":"++signature') : type = type' ∧ signature = signature' := by
  have hcolon : ∀ type : KnowledgeType, 58 ∉ type.name := by
    intro type
    cases type <;> decide
  have hsplit : ∀ (type : KnowledgeType) (signature : Text),
      splitOnce 58 (type.name++text ":"++signature) = some (type.name,signature) := by
    intro type signature
    rw [List.append_assoc]
    exact splitOnce_append (hcolon type)
  have heq := (hsplit type signature).symm.trans (h ▸ hsplit type' signature')
  obtain ⟨hname,hsignature⟩ := Prod.mk.inj (Option.some.inj heq)
  refine ⟨?_,hsignature⟩
  have hmodel := modelForType_name type
  rw [hname,modelForType_name] at hmodel
  exact (Option.some.inj hmodel).symm

/-! ## The items and the records of a project -/

/-- The visible approved items that name the project. -/
def projectItems (r : Runtime) (db : ProjectTables) (user : DemoUser) (projectKey : Text) : List VisibleReviewItem :=
  (visibleReviewItems r db user (approvedAssignments db)++
    visibleReviewItems r db user (approvedKnowledgeItems db)).filter
      fun visible => namesProject projectKey visible.item.payload

theorem timelineItems_of_records (h : record ∈ timelineItemsFromRecords records) :
    ∃ item ∈ records, item.itemType = .timelineEvent ∧ record.id = item.id ∧ record.projectKey = item.projectKey ∧
      record.sourceLinks = item.sourceLinks := by
  obtain ⟨item,hitem,rfl⟩ := List.mem_map.mp h
  obtain ⟨hmem,htype⟩ := List.mem_filter.mp hitem
  refine ⟨item,hmem,of_decide_eq_true htype,?_⟩
  split <;> exact ⟨rfl,rfl,rfl⟩

theorem timelineItems_covers (hrecord : record ∈ records) (htype : record.itemType = .timelineEvent) :
    ∃ shown ∈ timelineItemsFromRecords records, shown.id = record.id := by
  refine ⟨_,List.mem_map.mpr ⟨record,List.mem_filter.mpr ⟨hrecord,by simp [htype]⟩,rfl⟩,?_⟩
  split <;> rfl

theorem mem_of_activity (h : record ∈ dedupeActivityItems r records) : record ∈ records :=
  (List.mem_filter.mp (mem_of_firstOfKey h)).1

/-- Of the other records, one with the type and the signature is shown. -/
theorem activity_covers (hrecord : record ∈ records) (htype : record.itemType ≠ .timelineEvent) :
    ∃ shown ∈ dedupeActivityItems r records, shown.itemType = record.itemType ∧
      activitySignature r shown = activitySignature r record := by
  have hmem : record ∈ records.filter fun item => item.itemType ≠ .timelineEvent ||
      activitySignature r item ∉ (records.filter (·.itemType ≠ .timelineEvent)).map (activitySignature r) :=
    List.mem_filter.mpr ⟨hrecord,by simp [htype]⟩
  obtain ⟨shown,hshown,hkey⟩ :=
    firstOfKey_covers (fun item => item.itemType.name++text ":"++activitySignature r item) hmem List.not_mem_nil
  exact ⟨shown,hshown,identity_inj hkey⟩

/-! ## Why a record is there -/

/-- The record and the item have a link in common, or the record links the source that the item names. -/
def SharesSource (r : Runtime) (db : ProjectTables) (visible : VisibleReviewItem) (record : ProjectTimelineItem) : Prop :=
  (∃ link ∈ record.sourceLinks, link ∈ visible.sourceLinks) ∨
    ∃ source ∈ db.sources.sources, source.sourceId ∈ projectSourceIds r [visible] ∧
      (db.sourceTimes source.id).sourceUrl ∈ record.sourceLinks

/-- The record carries the project's key, or shares a source with a visible approved item of the project. -/
def Attributed (r : Runtime) (db : ProjectTables) (user : DemoUser) (projectKey : Text) (record : ProjectTimelineItem) :
    Prop :=
  record.projectKey = some projectKey ∨ ∃ visible ∈ projectItems r db user projectKey, SharesSource r db visible record

/-- Where the links of a record contain the source id of an item of the project, the two share a source. -/
def IdsStandAlone (r : Runtime) (db : ProjectTables) (user : DemoUser) (projectKey : Text)
    (records : List ProjectTimelineItem) : Prop :=
  ∀ record ∈ records, ∀ visible ∈ projectItems r db user projectKey, ∀ sourceId ∈ projectSourceIds r [visible],
    sourceId ≠ [] → contains sourceId (join [32] record.sourceLinks) = true → SharesSource r db visible record

theorem projectSourceIds_mem {items : List VisibleReviewItem} {sourceId : Text} (h : sourceId ∈ projectSourceIds r items) :
    ∃ visible ∈ items, sourceId ∈ projectSourceIds r [visible] := by
  obtain ⟨visible,hvisible,heq⟩ := List.mem_filterMap.mp h
  exact ⟨visible,hvisible,List.mem_filterMap.mpr ⟨visible,List.mem_singleton.mpr rfl,heq⟩⟩

theorem attributed_of_isRecordOf (hids : IdsStandAlone r db user projectKey records) (hrecord : record ∈ records)
    (h : isRecordOf r projectKey (projectItems r db user projectKey) record = true) :
    Attributed r db user projectKey record := by
  simp only [isRecordOf,Bool.or_eq_true,decide_eq_true_eq,List.any_eq_true,Bool.and_eq_true] at h
  rcases h with (hkey | ⟨link,hlink,hshared⟩) | ⟨sourceId,hsourceId,hne,hcontains⟩
  · exact .inl hkey
  · obtain ⟨visible,hvisible,hmem⟩ := List.mem_flatMap.mp hshared
    exact .inr ⟨visible,hvisible,.inl ⟨link,hlink,hmem⟩⟩
  · obtain ⟨visible,hvisible,hmem⟩ := projectSourceIds_mem hsourceId
    exact .inr ⟨visible,hvisible,hids record hrecord visible hvisible sourceId hmem hne hcontains⟩

/-! ## One project -/

/-- Shown itself, or by an activity of the same type and signature. -/
def Shown (r : Runtime) (memory : ProjectMemory) (record : ProjectTimelineItem) : Prop :=
  (∃ shown ∈ memory.timelineItems++memory.activityItems, shown.id = record.id) ∨
    ∃ shown ∈ memory.activityItems, shown.itemType = record.itemType ∧
      activitySignature r shown = activitySignature r record

section project

variable {row : Project}

theorem projectMemory_records : ∀ record ∈ (projectMemory r db user records row).timelineItems++
    (projectMemory r db user records row).activityItems, ∃ item ∈ records,
      isRecordOf r row.projectKey (projectItems r db user row.projectKey) item = true ∧
        record.projectKey = item.projectKey ∧ record.sourceLinks = item.sourceLinks := by
  intro record hrecord
  have hlinked : ∀ item ∈ memoryRecordsForProject r row.projectKey (projectItems r db user row.projectKey) records,
      item ∈ records ∧ isRecordOf r row.projectKey (projectItems r db user row.projectKey) item = true := by
    intro item hitem
    exact List.mem_filter.mp (mem_newestFirst.mp hitem)
  rcases List.mem_append.mp hrecord with hrecord | hrecord
  · obtain ⟨item,hitem,-,-,hkey,hlinks⟩ := timelineItems_of_records hrecord
    exact ⟨item,(hlinked item hitem).1,(hlinked item hitem).2,hkey,hlinks⟩
  · have hmem := hlinked record (mem_of_activity hrecord)
    exact ⟨record,hmem.1,hmem.2,rfl,rfl⟩

/-- Every record in the lists of a project is attributed to it. -/
theorem projectMemory_attributed (hids : IdsStandAlone r db user row.projectKey records) :
    ∀ record ∈ (projectMemory r db user records row).timelineItems++(projectMemory r db user records row).activityItems,
      Attributed r db user row.projectKey record := by
  intro record hrecord
  obtain ⟨item,hitem,hof,hkey,hlinks⟩ := projectMemory_records record hrecord
  have hattributed := attributed_of_isRecordOf hids hitem hof
  simp only [Attributed,SharesSource,← hkey,← hlinks] at hattributed
  exact hattributed

theorem projectMemory_shows (hrecord : record ∈ records)
    (hof : isRecordOf r row.projectKey (projectItems r db user row.projectKey) record = true) :
    Shown r (projectMemory r db user records row) record := by
  have hlinked : record ∈ memoryRecordsForProject r row.projectKey (projectItems r db user row.projectKey) records :=
    mem_newestFirst.mpr (List.mem_filter.mpr ⟨hrecord,hof⟩)
  by_cases htype : record.itemType = .timelineEvent
  · obtain ⟨shown,hshown,hid⟩ := timelineItems_covers hlinked htype
    exact .inl ⟨shown,List.mem_append_left _ hshown,hid⟩
  · exact .inr (activity_covers hlinked htype)

end project

/-! ## Project memory -/

/-- Project memory is a function of what the user may see and of the sources that the visible records link; in every
project each record is attributed, and each record of the project is shown. -/
theorem project_memory_of_visible (r : Runtime) (db : ProjectTables) (user : DemoUser) :
    (∀ db', Agree r user db db' → AgreeOnLinked r user db db' →
      buildProjectMemory r db (some user) = buildProjectMemory r db' (some user)) ∧
    ∀ records memories, approvedMemoryRecords r db user = .ok records →
      buildProjectMemory r db (some user) = .ok memories → ∀ memory ∈ memories,
        (IdsStandAlone r db user memory.projectKey records →
          ∀ record ∈ memory.timelineItems++memory.activityItems, Attributed r db user memory.projectKey record) ∧
        ∀ record ∈ records, isRecordOf r memory.projectKey (projectItems r db user memory.projectKey) record = true →
          Shown r memory record := by
  refine ⟨fun db' h hlinked => buildProjectMemory_congr h hlinked,fun records memories hrecords hmemories memory hmemory => ?_⟩
  unfold buildProjectMemory at hmemories
  dsimp only at hmemories
  rw [hrecords] at hmemories
  obtain rfl := Except.ok.inj hmemories
  obtain ⟨row,-,rfl⟩ := List.mem_map.mp hmemory
  exact ⟨projectMemory_attributed,fun record hrecord hof => projectMemory_shows hrecord hof⟩

/-! ## Databases on given values -/

/-- Letters `A` to `Z`. -/
def asciiLetters : CaseMap where
  lower := fun t => t.map fun c => if 65 ≤ c.val ∧ c.val ≤ 90 then c+32 else c
  lower_nil := rfl

def sampleRuntime : Runtime where
  letters := asciiLetters
  str := fun v => match v with
    | .str t => t
    | v => v.render
  isDigit := fun t => t ≠ [] && t.all fun c => 48 ≤ c.val && c.val ≤ 57
  setOrder := List.dedup
  isoformat := fun n => Json.renderInt n
  fromIsoformat := fun _ => .error .valueError
  fromTimestamp := fun t => .ok t

def sampleUser : DemoUser := ⟨text "a",text "member",[text "public"]⟩

/-- An approved event of the project that the user may see. -/
def publicEvent (id : Nat) (reason link : String) : Target :=
  ⟨.historyEvent (text reason),id,some (text "p"),text "title",[text link],[],text "public",.approved,none⟩

def hiddenSource : Source := ⟨1,text "gmail",text "gmail:1",text "restricted",none,none,none⟩

/-- One project with its events; every source has the URL `u`. -/
def oneProject (sources : List Source) (events : List Target) : ProjectTables where
  sources := ⟨sources,[],[],[],[],List.nodup_nil⟩
  rollout := .empty
  items := []
  validations := []
  targets := events
  links := []
  evidenceLinks := []
  tombstones := []
  indexStates := []
  fingerprints := []
  projection := none
  linkIds := List.nodup_nil
  projects := [⟨1,text "p",text "Project",text "Summary",0⟩]
  workflowEvidenceRefs := []
  itemEvidenceRefs := []
  sourceTimes := fun id => ⟨text "u",id⟩
  targetTimes := fun _ _ => ⟨1,5,none,none⟩
  itemCreatedAt := fun _ => 0

/-- The two databases differ in a source that the user may not see. -/
theorem agree_oneProject {event : Target} (h : seesTarget sampleRuntime (oneProject [hiddenSource] [event]) sampleUser event = true)
    (h' : seesTarget sampleRuntime (oneProject [] [event]) sampleUser event = true)
    (hsame : knowledgePermission sampleRuntime (oneProject [hiddenSource] [event]) sampleUser event =
      knowledgePermission sampleRuntime (oneProject [] [event]) sampleUser event) :
    Agree sampleRuntime sampleUser (oneProject [hiddenSource] [event]) (oneProject [] [event]) where
  projects := rfl
  targets := by
    change [event].filter _ = [event].filter _
    rw [List.filter_singleton,List.filter_singleton,h,h']
  targetColumns := by
    intro target htarget _
    obtain rfl := List.mem_singleton.mp htarget
    exact ⟨hsame,rfl,rfl⟩
  items := rfl
  itemColumns := by
    intro item hitem
    cases hitem
  sources := rfl
  sourceColumns := by
    intro source hsource hlevel
    obtain rfl := List.mem_singleton.mp hsource
    exact absurd hlevel (by decide)

/-- A hidden source that no visible record links changes nothing. -/
theorem project_memory_of_visible_unlinked :
    buildProjectMemory sampleRuntime (oneProject [hiddenSource] [publicEvent 1 "why" "v"]) (some sampleUser) =
      buildProjectMemory sampleRuntime (oneProject [] [publicEvent 1 "why" "v"]) (some sampleUser) := by
  apply (project_memory_of_visible sampleRuntime (oneProject [hiddenSource] [publicEvent 1 "why" "v"]) sampleUser).1
  · exact agree_oneProject (by decide +kernel) (by decide +kernel) (by decide +kernel)
  · have hunlinked : isLinked sampleRuntime (oneProject [hiddenSource] [publicEvent 1 "why" "v"]) sampleUser hiddenSource =
        false := by decide +kernel
    refine ⟨?_,fun source hsource hlinked => ?_⟩
    · change [hiddenSource].filter _ = [].filter _
      rw [List.filter_singleton,hunlinked]
      rfl
    · obtain rfl := List.mem_singleton.mp hsource
      rw [hunlinked] at hlinked
      cases hlinked

/-- A hidden source dates a visible record that links its URL; and of two records whose summaries differ in case only
one is shown. -/
theorem project_memory_of_hidden :
    (Agree sampleRuntime sampleUser (oneProject [hiddenSource] [publicEvent 1 "why" "u"])
        (oneProject [] [publicEvent 1 "why" "u"]) ∧
      buildProjectMemory sampleRuntime (oneProject [hiddenSource] [publicEvent 1 "why" "u"]) (some sampleUser) ≠
        buildProjectMemory sampleRuntime (oneProject [] [publicEvent 1 "why" "u"]) (some sampleUser)) ∧
    ∃ record ∈ (approvedMemoryRecords sampleRuntime (oneProject [] [publicEvent 1 "why" "u",publicEvent 2 "Why" "u"])
        sampleUser).toOption.getD [],
      record.projectKey = some (text "p") ∧
      ∃ memory ∈ (buildProjectMemory sampleRuntime (oneProject [] [publicEvent 1 "why" "u",publicEvent 2 "Why" "u"])
          (some sampleUser)).toOption.getD [],
        memory.projectKey = text "p" ∧ ∀ shown ∈ memory.timelineItems++memory.activityItems,
          shown.id ≠ record.id ∧ shown.summary ≠ record.summary := by
  refine ⟨⟨agree_oneProject (by decide +kernel) (by decide +kernel) (by decide +kernel),by decide +kernel⟩,?_⟩
  decide +kernel

end ParaWorks.Projects
