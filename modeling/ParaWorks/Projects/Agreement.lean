import ParaWorks.Lib.Paging
import ParaWorks.Projects.Memory

/-!
# Two databases that show a user the same

Project memory in two databases that agree on what the user may see and on the sources that the visible records link.
-/

namespace ParaWorks.Projects

open Lib Sources Knowledge
open Answers (DemoUser)

variable {r : Runtime} {db db' : ProjectTables} {user : DemoUser}

/-! ## What a user sees -/

/-- `for_knowledge` declares the row eligible with a permission that the user holds. -/
def seesTarget (r : Runtime) (db : ProjectTables) (user : DemoUser) (target : Target) : Bool :=
  (knowledgePermission r db user target).isSome

/-- The evidence visibility service projects the item for the user. -/
def seesItem (r : Runtime) (db : ProjectTables) (user : DemoUser) (item : ReviewItem) : Bool :=
  (project r.letters db item.id user).isSome

/-- The databases agree on the projects and on all the rows that the user sees, with what the services say of them. -/
structure Agree (r : Runtime) (user : DemoUser) (db db' : ProjectTables) : Prop where
  projects : db.projects = db'.projects
  targets : db.targets.filter (seesTarget r db user) = db'.targets.filter (seesTarget r db' user)
  targetColumns : ∀ target ∈ db.targets, seesTarget r db user target = true →
    knowledgePermission r db user target = knowledgePermission r db' user target ∧
      db.targetTimes target.type target.id = db'.targetTimes target.type target.id ∧
        trustedResolutionSource db target = trustedResolutionSource db' target
  items : db.items.filter (seesItem r db user) = db'.items.filter (seesItem r db' user)
  itemColumns : ∀ item ∈ db.items, seesItem r db user item = true →
    project r.letters db item.id user = project r.letters db' item.id user ∧
      db.itemCreatedAt item.id = db'.itemCreatedAt item.id
  sources : db.sources.sources.filter (·.permissionLevel ∈ user.permissionLevels) =
    db'.sources.sources.filter (·.permissionLevel ∈ user.permissionLevels)
  sourceColumns : ∀ source ∈ db.sources.sources, source.permissionLevel ∈ user.permissionLevels →
    db.sourceTimes source.id = db'.sourceTimes source.id

/-- A row that the user sees links the source. -/
def isLinked (r : Runtime) (db : ProjectTables) (user : DemoUser) (source : Source) : Bool :=
  db.targets.any fun target => seesTarget r db user target && (db.sourceTimes source.id).sourceUrl ∈ target.sourceLinks

/-- The databases agree on the sources whose URL a visible row links. -/
structure AgreeOnLinked (r : Runtime) (user : DemoUser) (db db' : ProjectTables) : Prop where
  sources : db.sources.sources.filter (isLinked r db user) = db'.sources.sources.filter (isLinked r db' user)
  sourceColumns : ∀ source ∈ db.sources.sources, isLinked r db user source = true →
    db.sourceTimes source.id = db'.sourceTimes source.id

/-! ## Sources by URL -/

/-- The sources with a URL that a visible row links. -/
theorem AgreeOnLinked.sourcesByUrl (h : AgreeOnLinked r user db db') {target target' : Target} {link : Text}
    (htarget : target ∈ db.targets) (hsees : seesTarget r db user target = true) (hlink : link ∈ target.sourceLinks)
    (htarget' : target' ∈ db'.targets) (hsees' : seesTarget r db' user target' = true) (hlink' : link ∈ target'.sourceLinks) :
    db.sources.sources.filter (fun source => (db.sourceTimes source.id).sourceUrl = link) =
      db'.sources.sources.filter fun source => (db'.sourceTimes source.id).sourceUrl = link := by
  have hkept : ∀ (tables : ProjectTables) (t : Target), t ∈ tables.targets → seesTarget r tables user t = true →
      link ∈ t.sourceLinks → tables.sources.sources.filter (fun source => (tables.sourceTimes source.id).sourceUrl = link) =
        (tables.sources.sources.filter (isLinked r tables user)).filter
          fun source => (tables.sourceTimes source.id).sourceUrl = link := by
    intro tables t ht hs hl
    rw [List.filter_filter]
    apply List.filter_congr
    intro source _
    by_cases hurl : (tables.sourceTimes source.id).sourceUrl = link
    · have hlinked : isLinked r tables user source = true :=
        List.any_eq_true.mpr ⟨t,ht,by simpa [hs,hurl] using hl⟩
      simp [hurl,hlinked]
    · simp [hurl]
  rw [hkept db target htarget hsees hlink,hkept db' target' htarget' hsees' hlink',← h.sources]
  apply List.filter_congr
  intro source hsource
  obtain ⟨hmem,hlinked⟩ := List.mem_filter.mp hsource
  rw [h.sourceColumns source hmem hlinked]

theorem occurredAt_congr {links : List Text} (fallback : Nat)
    (h : ∀ link ∈ links, sourceByUrl db link = sourceByUrl db' link ∧
      ∀ source, sourceByUrl db link = some source → db.sourceTimes source.id = db'.sourceTimes source.id) :
    occurredAtFromSourceLinks r db fallback links = occurredAtFromSourceLinks r db' fallback links := by
  induction links with
  | nil => rfl
  | cons link links ih =>
    obtain ⟨hsame,htimes⟩ := h link List.mem_cons_self
    have hrest := ih fun other hother => h other (List.mem_cons_of_mem _ hother)
    unfold occurredAtFromSourceLinks
    rw [← hsame,hrest]
    cases hsource : sourceByUrl db link with
    | none => rfl
    | some source =>
      dsimp only
      rw [htimes source hsource]

/-! ## Records -/

theorem Agree.mem_target (h : Agree r user db db') {target : Target} (hmem : target ∈ db.targets)
    (hsees : seesTarget r db user target = true) : target ∈ db'.targets ∧ seesTarget r db' user target = true := by
  have hfilter : target ∈ db.targets.filter (seesTarget r db user) := List.mem_filter.mpr ⟨hmem,hsees⟩
  rw [h.targets] at hfilter
  exact List.mem_filter.mp hfilter

theorem memoryRecord_congr (h : Agree r user db db') (hlinked : AgreeOnLinked r user db db') {target : Target}
    (hmem : target ∈ db.targets) (hsees : seesTarget r db user target = true) (permission : Text) :
    memoryRecord r db target permission = memoryRecord r db' target permission := by
  obtain ⟨-,htimes,hresolution⟩ := h.targetColumns target hmem hsees
  obtain ⟨hmem',hsees'⟩ := h.mem_target hmem hsees
  have hoccurred : ∀ fallback, occurredAtFromSourceLinks r db fallback target.sourceLinks =
      occurredAtFromSourceLinks r db' fallback target.sourceLinks := by
    intro fallback
    apply occurredAt_congr
    intro link hlink
    have hsources := hlinked.sourcesByUrl hmem hsees hlink hmem' hsees' hlink
    refine ⟨by rw [sourceByUrl,sourceByUrl,hsources],fun source hsource => ?_⟩
    unfold sourceByUrl at hsource
    split at hsource
    · cases hsource
    · obtain ⟨hin,hurl⟩ := List.mem_filter.mp (List.mem_of_getLast? hsource)
      apply hlinked.sourceColumns source hin
      apply List.any_eq_true.mpr
      exact ⟨target,hmem,by simpa [hsees,of_decide_eq_true hurl] using hlink⟩
  unfold memoryRecord
  dsimp only
  rw [hoccurred,htimes,hresolution]

/-- The rows of a type that are seen, with their permissions. -/
theorem visibleTargets_eq (type : KnowledgeType) : visibleTargets r db user type =
    ((db.targets.filter (seesTarget r db user)).filter fun target =>
      target.type = type && target.reviewStatus = .approved).filterMap fun target =>
        (knowledgePermission r db user target).map fun permission => (target,permission) := by
  rw [List.filter_filter,visibleTargets,List.filterMap_filter,List.filterMap_filter]
  apply List.filterMap_congr
  intro target _
  unfold seesTarget
  cases knowledgePermission r db user target <;> simp

theorem visibleTargets_congr (h : Agree r user db db') (type : KnowledgeType) :
    visibleTargets r db user type = visibleTargets r db' user type := by
  rw [visibleTargets_eq,visibleTargets_eq,← h.targets]
  apply List.filterMap_congr
  intro target htarget
  obtain ⟨hmem,hsees⟩ := List.mem_filter.mp (List.mem_filter.mp htarget).1
  rw [(h.targetColumns target hmem hsees).1]

theorem mem_visibleTargets {type : KnowledgeType} {entry : Target × Text} (h : entry ∈ visibleTargets r db user type) :
    entry.1 ∈ db.targets ∧ seesTarget r db user entry.1 = true := by
  obtain ⟨target,htarget,heq⟩ := List.mem_filterMap.mp h
  obtain ⟨permission,hpermission,rfl⟩ := Option.map_eq_some_iff.mp heq
  exact ⟨(List.mem_filter.mp htarget).1,by rw [seesTarget,hpermission]; rfl⟩

theorem mapM_congr {α β : Type} {f g : α → Except DateError β} {rows : List α} (h : ∀ row ∈ rows, f row = g row) :
    rows.mapM f = rows.mapM g := by
  induction rows with
  | nil => rfl
  | cons row rows ih =>
    rw [List.forall_mem_cons] at h
    rw [List.mapM_cons,List.mapM_cons,h.1,ih h.2]

theorem approvedMemoryRecords_congr (h : Agree r user db db') (hlinked : AgreeOnLinked r user db db') :
    approvedMemoryRecords r db user = approvedMemoryRecords r db' user := by
  have htype : ∀ type, ((visibleTargets r db user type).mapM fun entry => memoryRecord r db entry.1 entry.2) =
      (visibleTargets r db' user type).mapM fun entry => memoryRecord r db' entry.1 entry.2 := by
    intro type
    rw [← visibleTargets_congr h]
    apply mapM_congr
    intro entry hentry
    obtain ⟨hmem,hsees⟩ := mem_visibleTargets hentry
    exact memoryRecord_congr h hlinked hmem hsees entry.2
  unfold approvedMemoryRecords
  rw [funext htype]

/-! ## Review items -/

/-- Only the items that are seen matter. -/
theorem visibleReviewItems_filter (items : List ReviewItem) :
    visibleReviewItems r db user (items.filter (seesItem r db user)) = visibleReviewItems r db user items := by
  rw [visibleReviewItems,visibleReviewItems,List.filterMap_filter]
  apply List.filterMap_congr
  intro item _
  unfold seesItem
  cases project r.letters db item.id user <;> simp

theorem Agree.mem_item (h : Agree r user db db') {item : ReviewItem} {p : ReviewItem → Bool}
    (hitem : item ∈ (db.items.filter (seesItem r db user)).filter p) :
    project r.letters db item.id user = project r.letters db' item.id user ∧
      db.itemCreatedAt item.id = db'.itemCreatedAt item.id := by
  obtain ⟨hmem,hsees⟩ := List.mem_filter.mp (List.mem_filter.mp hitem).1
  exact h.itemColumns item hmem hsees

/-- The visible items of a selection are the same in both databases. -/
theorem visibleReviewItems_congr (h : Agree r user db db') (p : ReviewItem → Bool) :
    visibleReviewItems r db user (db.items.filter p) = visibleReviewItems r db' user (db'.items.filter p) := by
  rw [← visibleReviewItems_filter,← visibleReviewItems_filter (db'.items.filter p),List.filter_comm,
    List.filter_comm (seesItem r db' user),← h.items]
  apply List.filterMap_congr
  intro item hitem
  rw [(h.mem_item hitem).1]

/-- Newest first, by the time and the id of an item. -/
def newerItem (db : ProjectTables) (x y : ReviewItem) : Prop :=
  db.itemCreatedAt y.id < db.itemCreatedAt x.id ∨ db.itemCreatedAt y.id = db.itemCreatedAt x.id ∧ y.id ≤ x.id

instance : DecidableRel (newerItem db) := fun _ _ => inferInstanceAs (Decidable (_ ∨ _))

instance : Std.Total (newerItem db) where
  total x y := by
    unfold newerItem
    omega

instance : IsTrans ReviewItem (newerItem db) where
  trans x y z := by
    unfold newerItem
    omega

theorem approvedAssignments_congr (h : Agree r user db db') :
    visibleReviewItems r db user (approvedAssignments db) = visibleReviewItems r db' user (approvedAssignments db') := by
  have hsorted : ∀ tables : ProjectTables, (approvedAssignments tables).filter (seesItem r tables user) =
      ((tables.items.filter (seesItem r tables user)).filter fun item =>
        item.itemType = text "project_assignment" && item.status = .approved).insertionSort (newerItem tables) := by
    intro tables
    change ((tables.items.filter _).insertionSort (newerItem tables)).filter _ = _
    rw [filter_insertionSort,List.filter_comm]
  rw [← visibleReviewItems_filter,← visibleReviewItems_filter (approvedAssignments db'),hsorted,hsorted,← h.items]
  have hsort := List.map_insertionSort (newerItem db) (newerItem db') id ((db.items.filter (seesItem r db user)).filter
    fun item => item.itemType = text "project_assignment" && item.status = .approved) fun x hx y hy => by
      unfold newerItem
      rw [id,id,(h.mem_item hx).2,(h.mem_item hy).2]
  rw [List.map_id,List.map_id] at hsort
  rw [hsort]
  apply List.filterMap_congr
  intro item hitem
  rw [List.mem_insertionSort] at hitem
  rw [(h.mem_item hitem).1]

theorem assignmentEvidence_congr (h : Agree r user db db') {visible : VisibleReviewItem} {items : List ReviewItem}
    (hvisible : visible ∈ visibleReviewItems r db user items) (hitems : ∀ item ∈ items, item ∈ db.items) :
    assignmentEvidence r db visible = assignmentEvidence r db' visible := by
  obtain ⟨item,hitem,heq⟩ := List.mem_filterMap.mp hvisible
  obtain ⟨projection,hprojection,rfl⟩ := Option.map_eq_some_iff.mp heq
  have hsees : seesItem r db user item = true := by rw [seesItem,hprojection]; rfl
  have hcreated := (h.itemColumns item (hitems item hitem) hsees).2
  unfold assignmentEvidence
  dsimp only
  rw [hcreated]

/-! ## Projects -/

theorem pendingAssignmentCount_congr (h : Agree r user db db') (projectKey : Text) :
    pendingAssignmentCount r db user projectKey = pendingAssignmentCount r db' user projectKey := by
  rw [pendingAssignmentCount,pendingAssignmentCount,visibleReviewItems_congr h]

theorem mem_approvedAssignments {item : ReviewItem} (h : item ∈ approvedAssignments db) : item ∈ db.items :=
  (List.mem_filter.mp ((List.mem_insertionSort _).mp h)).1

theorem projectMemory_congr (h : Agree r user db db') (records : List ProjectTimelineItem) (row : Project) :
    projectMemory r db user records row = projectMemory r db' user records row := by
  have hevidence : evidenceFromAssignments r db ((visibleReviewItems r db user (approvedAssignments db)).filter
        fun visible => namesProject row.projectKey visible.item.payload) =
      evidenceFromAssignments r db' ((visibleReviewItems r db user (approvedAssignments db)).filter
        fun visible => namesProject row.projectKey visible.item.payload) := by
    unfold evidenceFromAssignments
    congr 2
    apply List.map_congr_left
    intro visible hvisible
    exact assignmentEvidence_congr h (List.mem_filter.mp hvisible).1 fun item => mem_approvedAssignments
  unfold projectMemory
  dsimp only
  rw [hevidence,approvedAssignments_congr h,pendingAssignmentCount_congr h,approvedKnowledgeItems,approvedKnowledgeItems,
    visibleReviewItems_congr h]

theorem buildProjectMemory_congr (h : Agree r user db db') (hlinked : AgreeOnLinked r user db db') :
    buildProjectMemory r db (some user) = buildProjectMemory r db' (some user) := by
  unfold buildProjectMemory
  dsimp only
  rw [approvedMemoryRecords_congr h hlinked,h.projects]
  have hproject : ∀ records, projectMemory r db user records = projectMemory r db' user records :=
    fun records => funext (projectMemory_congr h records)
  simp only [hproject]

end ParaWorks.Projects
