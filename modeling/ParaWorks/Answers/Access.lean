import ParaWorks.Answers.Rag

/-!
# Access to the evidence of an answer

The keyword search checks the user's access to the live permission, the vector search the access to the stored
one. What the answer model is given is accessible exactly as far as the two do not differ, and what is recorded
always is.
-/

namespace ParaWorks.Answers

open Lib Sources Rollout Knowledge

section candidates

variable {runtime : Runtime} {db : ServingTables} {c d : RagEvidenceCandidate} {s : ServingDependencySnapshot}

/-- What is served now for the document of a candidate, at the permission of the candidate. -/
def currentContent (db : ServingTables) (c : RagEvidenceCandidate) : Option Text :=
  match chunkKey c.metadata with
  | some (key,_) => do
    let chunk ← db.chunkByKey key
    let source ← db.sources.source chunk.sourceId
    let columns := db.chunkColumns chunk.id
    return servingContent source.sourceId columns.text (db.sourceColumns source.id).sourceUrl columns.sourceSnippet
      c.permissionLevel
  | none => do
    let (knowledgeType,rawId) ← splitOnce (ofChar ':') c.sourceId
    let key ← parseInt rawId
    let type ← knowledgeModelForType knowledgeType
    let target ← db.targetByKey type key
    return knowledgeServingContent target c.sourceId c.permissionLevel

/-- A kept candidate is eligible at its permission and has a snapshot. -/
theorem liveServingCandidate_iff : liveServingCandidate runtime db c = some d ↔
    ∃ p, db.forDocument runtime.letters c.documentId = ⟨true,some p⟩ ∧ d = { c with permissionLevel := p } ∧
      (buildServingDependencySnapshot runtime db d).isSome = true := by
  simp only [liveServingCandidate,Option.bind_eq_bind,Option.bind_eq_some_iff,Option.guard_eq_some',Option.pure_def,
    Option.some.injEq,exists_const]
  constructor
  · rintro ⟨heligible,p,hp,hsnapshot,rfl⟩
    refine ⟨p,?_,rfl,hsnapshot⟩
    rw [← heligible,← hp]
  · rintro ⟨p,hlive,rfl,hsnapshot⟩
    rw [hlive]
    exact ⟨rfl,p,rfl,hsnapshot,rfl⟩

theorem rawChunkSnapshot_spec {key : Int} (h : rawChunkSnapshot runtime db c key = some s) :
    ∃ chunk source, db.chunkByKey key = some chunk ∧ db.sources.source chunk.sourceId = some source ∧
      c.content = servingContent source.sourceId (db.chunkColumns chunk.id).text (db.sourceColumns source.id).sourceUrl
        (db.chunkColumns chunk.id).sourceSnippet c.permissionLevel ∧
      s.servingDocumentId = text "chunk:"++Json.renderInt chunk.id ∧ s.permissionLevel = c.permissionLevel := by
  simp only [rawChunkSnapshot,Option.bind_eq_bind,Option.bind_eq_some_iff,Option.guard_eq_some',Option.pure_def,
    Option.some.injEq,exists_const] at h
  obtain ⟨chunk,hchunk,-,source,hsource,authority,-,-,hsame,rfl⟩ := h
  exact ⟨chunk,source,hchunk,hsource,runtime.sha256_injective hsame,rfl,rfl⟩

theorem linkSnapshot_spec {base : ServingDependencySnapshot} {links : List TrustedKnowledgeApprovalLink}
    (h : linkSnapshot runtime db base links = some s) :
    s.servingDocumentId = base.servingDocumentId ∧ s.permissionLevel = base.permissionLevel := by
  induction links with
  | nil => cases h
  | cons link links ih =>
    rw [linkSnapshot] at h
    split at h
    · obtain rfl := Option.some.inj h
      exact ⟨rfl,rfl⟩
    · exact ih h

theorem legacySnapshot_spec {base : ServingDependencySnapshot} {target : Target}
    (h : legacySnapshot db base target = some s) :
    s.servingDocumentId = base.servingDocumentId ∧ s.permissionLevel = base.permissionLevel := by
  unfold legacySnapshot at h
  split at h
  · obtain rfl := Option.some.inj h
    exact ⟨rfl,rfl⟩
  · obtain ⟨item,-,rfl⟩ := Option.map_eq_some_iff.mp h
    exact ⟨rfl,rfl⟩

theorem knowledgeSnapshot_spec (h : knowledgeSnapshot runtime db c = some s) :
    s.servingDocumentId = c.sourceId ∧ s.permissionLevel = c.permissionLevel ∧
      ∃ knowledgeType rawId, splitOnce (ofChar ':') c.sourceId = some (knowledgeType,rawId) ∧
        ∃ key, parseInt rawId = some key ∧ ∃ type, knowledgeModelForType knowledgeType = some type ∧
          ∃ target, db.targetByKey type key = some target ∧
            c.content = knowledgeServingContent target c.sourceId c.permissionLevel := by
  simp only [knowledgeSnapshot,Option.bind_eq_bind,Option.bind_eq_some_iff,Option.guard_eq_some',exists_const] at h
  obtain ⟨⟨knowledgeType,rawId⟩,hsplit,key,hkey,type,htype,target,htarget,hsame,hs⟩ := h
  have hbase : s.servingDocumentId = c.sourceId ∧ s.permissionLevel = c.permissionLevel := by
    split at hs
    next snapshot hlink =>
      obtain rfl := Option.some.inj hs
      exact linkSnapshot_spec hlink
    next => exact legacySnapshot_spec hs
  exact ⟨hbase.1,hbase.2,knowledgeType,rawId,hsplit,key,hkey,type,htype,target,htarget,
    runtime.sha256_injective hsame⟩

/-- A snapshot keeps the permission of its candidate, and its content is the current one. -/
theorem buildServingDependencySnapshot_spec (h : buildServingDependencySnapshot runtime db c = some s) :
    s.permissionLevel = c.permissionLevel ∧ currentContent db c = some c.content := by
  unfold buildServingDependencySnapshot at h
  unfold currentContent
  cases hkey : chunkKey c.metadata with
  | some found =>
    rw [hkey] at h
    obtain ⟨chunk,source,hchunk,hsource,hcontent,-,hpermission⟩ := rawChunkSnapshot_spec h
    exact ⟨hpermission,by simp [hchunk,hsource,hcontent]⟩
  | none =>
    rw [hkey] at h
    obtain ⟨-,hpermission,knowledgeType,rawId,hsplit,key,hparse,type,htype,target,htarget,hcontent⟩ :=
      knowledgeSnapshot_spec h
    exact ⟨hpermission,by simp [hsplit,hparse,htype,htarget,hcontent]⟩

theorem splitOnce_chunk (printed : Text) :
    splitOnce (ofChar ':') (text "chunk:"++printed) = some (text "chunk",printed) := by
  have h : text "chunk:"++printed = text "chunk"++ofChar ':'::printed := rfl
  rw [h]
  exact splitOnce_append (by decide)

/-- The snapshot of a document that is served names the document. -/
theorem servingDocumentId_eq (h : buildServingDependencySnapshot runtime db c = some s)
    (hserved : (db.forDocument runtime.letters c.documentId).eligible = true) : s.servingDocumentId = c.documentId := by
  unfold buildServingDependencySnapshot at h
  unfold RagEvidenceCandidate.documentId at hserved ⊢
  cases hkey : chunkKey c.metadata with
  | none =>
    rw [hkey] at h
    exact (knowledgeSnapshot_spec h).1
  | some found =>
    obtain ⟨key,printed⟩ := found
    rw [hkey] at h hserved
    obtain ⟨chunk,source,hchunk,-,-,hid,-⟩ := rawChunkSnapshot_spec h
    have hchunkId : (chunk.id : Int) = key := by simpa using (find?_spec hchunk).2
    unfold chunkKey at hkey
    split at hkey
    · obtain ⟨rfl,rfl⟩ := Prod.mk.inj (Option.some.inj hkey)
      rw [hid,hchunkId]
    next b hb =>
      -- a boolean prints as a word, which is no integer
      exfalso
      have hprinted : parseInt printed = none := by
        cases b
        · obtain ⟨-,rfl⟩ := Prod.mk.inj (Option.some.inj hkey)
          decide
        · obtain ⟨-,rfl⟩ := Prod.mk.inj (Option.some.inj hkey)
          decide
      simp [KnowledgeTables.forDocument,splitOnce_chunk,hprinted,ineligible] at hserved
    · cases hkey

end candidates

/-! ## Messages -/

def EvidenceMessage.candidate (m : EvidenceMessage) : RagEvidenceCandidate :=
  ⟨m.sourceId,m.sourceUrl,m.text,m.sourceSnippetOverride,m.author,m.timestamp,m.permissionLevel,m.metadata,
    m.relevanceScore,m.matchedTerms⟩

/-- The message is live at the current permission of its document, which the user may see. -/
structure Served (runtime : Runtime) (db : ServingTables) (user : DemoUser) (m : EvidenceMessage) : Prop where
  live : db.forDocument runtime.letters m.candidate.documentId = ⟨true,some m.permissionLevel⟩
  accessible : canAccessPermission user m.permissionLevel = true

/-- What the message quotes is what is served now, on the same links, evidence and parser run. -/
structure Unchanged (runtime : Runtime) (before after : ServingTables) (m : EvidenceMessage) : Prop where
  content : currentContent after m.candidate = some m.candidate.content
  dependencies : ∃ s, buildServingDependencySnapshot runtime before m.candidate = some s ∧
    buildServingDependencySnapshot runtime after m.candidate = some s

def CarriesEvidence (answer : RagAnswer) : Prop :=
  answer.sourceIds ≠ [] ∨ answer.sourceLinks ≠ [] ∨ answer.sourceSnippets ≠ [] ∨ answer.citations ≠ [] ∨
    answer.answer ≠ evidenceUnavailableText

/-- No row that the vector search returns is of a live, unchanged document whose permission the user may no longer
see. -/
def NoNarrowedRow (runtime : Runtime) (db : ServingTables) {user : DemoUser} (backend : Backend user) : Prop :=
  match backend with
  | .keyword => True
  | .pgvector first _ => ∀ result, first = some result → ∀ candidates,
      candidatesFromVectorMatches runtime result.rows = some candidates → ∀ c ∈ candidates, ∀ p,
        db.forDocument runtime.letters c.documentId = ⟨true,some p⟩ →
        buildServingDependencySnapshot runtime db { c with permissionLevel := p } ≠ none →
          canAccessPermission user p = true

section run

variable {runtime : Runtime} {before after : ServingTables} {user : DemoUser} {question : Text}
  {backend : Backend user} {model : Text → EvidencePacket → Option RagModelResponse}
  {candidates : List RagEvidenceCandidate} {hiddenMatchCount : Nat} {c : RagEvidenceCandidate}

theorem mem_snapshotted {dependency : RagEvidenceCandidate × ServingDependencySnapshot} :
    dependency ∈ snapshottedCandidates runtime before candidates ↔
      dependency.1 ∈ candidates ∧ buildServingDependencySnapshot runtime before dependency.1 = some dependency.2 := by
  obtain ⟨c,s⟩ := dependency
  simp only [snapshottedCandidates,List.mem_filterMap,Option.map_eq_some_iff,Prod.mk.injEq]
  constructor
  · rintro ⟨c',hc,s',hs,rfl,rfl⟩
    exact ⟨hc,hs⟩
  · rintro ⟨hc,hs⟩
    exact ⟨c,hc,s,hs,rfl,rfl⟩

/-- A visible candidate is live at its permission. -/
theorem visible_live (h : visibleCandidates runtime before question backend = some (candidates,hiddenMatchCount))
    (hc : c ∈ candidates) :
    before.forDocument runtime.letters c.documentId = ⟨true,some c.permissionLevel⟩ ∧
      (buildServingDependencySnapshot runtime before c).isSome = true := by
  have hfilter : ∃ found, c ∈ filterLiveServingCandidates runtime before found := by
    cases backend with
    | keyword =>
      obtain ⟨rfl,-⟩ := Prod.mk.inj (Option.some.inj h)
      exact ⟨_,List.mem_of_mem_filter hc⟩
    | pgvector first second =>
      simp only [visibleCandidates,Option.bind_eq_bind,Option.bind_eq_some_iff,Option.pure_def,Option.some.injEq,
        Prod.mk.injEq] at h
      obtain ⟨result,-,found,-,rfl,-⟩ := h
      exact ⟨found,hc⟩
  obtain ⟨found,hfound⟩ := hfilter
  obtain ⟨original,-,hlive⟩ := List.mem_filterMap.mp hfound
  obtain ⟨p,hp,rfl,hsnapshot⟩ := liveServingCandidate_iff.mp hlive
  exact ⟨hp,hsnapshot⟩

/-- A visible candidate is accessible when no row was narrowed. -/
theorem visible_accessible (hrows : NoNarrowedRow runtime before backend)
    (h : visibleCandidates runtime before question backend = some (candidates,hiddenMatchCount)) (hc : c ∈ candidates) :
    canAccessPermission user c.permissionLevel = true := by
  cases backend with
  | keyword =>
    obtain ⟨rfl,-⟩ := Prod.mk.inj (Option.some.inj h)
    simpa using (List.mem_filter.mp hc).2
  | pgvector first second =>
    simp only [visibleCandidates,Option.bind_eq_bind,Option.bind_eq_some_iff,Option.pure_def,Option.some.injEq,
      Prod.mk.injEq] at h
    obtain ⟨result,hfirst,found,hfound,rfl,-⟩ := h
    obtain ⟨original,horiginal,hlive⟩ := List.mem_filterMap.mp hc
    obtain ⟨p,hp,rfl,hsnapshot⟩ := liveServingCandidate_iff.mp hlive
    exact hrows result hfirst found hfound original horiginal p hp (by
      intro hnone
      simp [hnone] at hsnapshot)

/-- Every dependency of an answer that keeps its evidence was found live. -/
theorem dependencies_live {dependencies : List (RagEvidenceCandidate × ServingDependencySnapshot)}
    (h : servingDependenciesAreLive runtime user after (dependencies.map Prod.fst) (dependencies.map Prod.snd) = true)
    {dependency : RagEvidenceCandidate × ServingDependencySnapshot} (hd : dependency ∈ dependencies) :
    dependencyIsLive runtime user after dependency.1 dependency.2 = true := by
  have hne : dependencies.map Prod.snd ≠ [] := fun hnil =>
    List.ne_nil_of_mem hd (List.map_eq_nil_iff.mp hnil)
  have hzip : (dependencies.map Prod.fst).zip (dependencies.map Prod.snd) = dependencies :=
    (List.zip_of_prod rfl rfl).symm
  rw [servingDependenciesAreLive,if_neg hne,if_neg (by simp),hzip] at h
  exact List.all_eq_true.mp h dependency hd

theorem dependencyIsLive_iff {s : ServingDependencySnapshot} : dependencyIsLive runtime user after c s = true ↔
    after.forDocument runtime.letters s.servingDocumentId = ⟨true,some s.permissionLevel⟩ ∧
      canAccessPermission user s.permissionLevel = true ∧
      buildServingDependencySnapshot runtime after c = some s := by
  rcases hlive : after.forDocument runtime.letters s.servingDocumentId with ⟨eligible,effective⟩
  simp [dependencyIsLive,hlive,and_assoc]

/-- An answer that carries evidence was recorded with its dependencies found live. -/
theorem rereadAnswer_carries {dependencies : List (RagEvidenceCandidate × ServingDependencySnapshot)} {answer : RagAnswer}
    (h : CarriesEvidence (rereadAnswer runtime after question backend dependencies answer).1) :
    servingDependenciesAreLive runtime user after (dependencies.map Prod.fst) (dependencies.map Prod.snd) = true := by
  unfold rereadAnswer at h
  split at h
  next hlive _ => exact hlive
  next => simp [CarriesEvidence,evidenceUnavailableAnswer] at h

/-- What the packet holds is accessible exactly when no returned row has been narrowed beyond the user, and what is
recorded with evidence always is live, unchanged and accessible. -/
theorem answerQuestionWithRag_accessible_iff :
    (∀ run, answerQuestionWithRag runtime before after question backend model = some run →
      (∀ m ∈ run.packet.messages, Served runtime before user m) ∧
      ∀ answer row, run.recorded = some (answer,row) → CarriesEvidence answer →
        ∀ m ∈ run.packet.messages, Served runtime after user m ∧ Unchanged runtime before after m) ↔
      NoNarrowedRow runtime before backend := by
  constructor
  · intro h
    cases backend with
    | keyword => trivial
    | pgvector first second =>
      intro result hfirst found hfound c hc p hp hsnapshot
      obtain ⟨s,hs⟩ := Option.ne_none_iff_exists'.mp hsnapshot
      have hlive : liveServingCandidate runtime before c = some { c with permissionLevel := p } :=
        liveServingCandidate_iff.mpr ⟨p,hp,rfl,by simp [hs]⟩
      have hvisible : visibleCandidates runtime before question (.pgvector first second) =
          some (filterLiveServingCandidates runtime before found,result.hiddenMatchCount) := by
        simp [visibleCandidates,hfirst,hfound]
      have hmem : ({ c with permissionLevel := p },s) ∈
          snapshottedCandidates runtime before (filterLiveServingCandidates runtime before found) :=
        mem_snapshotted.mpr ⟨List.mem_filterMap.mpr ⟨c,hc,hlive⟩,hs⟩
      have hrun := h _ (by rw [answerQuestionWithRag,hvisible]; rfl)
      apply (hrun.1 (RagEvidenceCandidate.message { c with permissionLevel := p }) _).accessible
      exact List.mem_map.mpr ⟨_,List.mem_map.mpr ⟨_,hmem,rfl⟩,rfl⟩
  · intro hrows run hrun
    obtain ⟨⟨candidates,hiddenMatchCount⟩,hvisible,rfl⟩ := Option.map_eq_some_iff.mp hrun
    have hmessage : ∀ m ∈ (buildRagEvidencePacket ((snapshottedCandidates runtime before candidates).map Prod.fst)
        question user).messages, ∃ dependency ∈ snapshottedCandidates runtime before candidates,
          dependency.1.message = m := by
      intro m hm
      obtain ⟨c,hc,rfl⟩ := List.mem_map.mp hm
      obtain ⟨dependency,hd,rfl⟩ := List.mem_map.mp hc
      exact ⟨dependency,hd,rfl⟩
    constructor
    · intro m hm
      obtain ⟨dependency,hd,rfl⟩ := hmessage m hm
      have hc := (mem_snapshotted.mp hd).1
      exact ⟨(visible_live hvisible hc).1,visible_accessible hrows hvisible hc⟩
    · intro answer row hrecorded hcarries m hm
      obtain ⟨dependency,hd,rfl⟩ := hmessage m hm
      obtain ⟨original,-,hfinal⟩ := Option.map_eq_some_iff.mp hrecorded
      obtain ⟨rfl,-⟩ := Prod.mk.inj hfinal
      have hlive := dependencies_live (rereadAnswer_carries hcarries) hd
      obtain ⟨hc,hbefore⟩ := mem_snapshotted.mp hd
      obtain ⟨hserved,haccess,hafter⟩ := dependencyIsLive_iff.mp hlive
      have hvisibleLive := (visible_live hvisible hc).1
      have hid := servingDocumentId_eq hbefore (by rw [hvisibleLive])
      obtain ⟨hpermission,hcontent⟩ := buildServingDependencySnapshot_spec hafter
      rw [hid,hpermission] at hserved
      rw [hpermission] at haccess
      exact ⟨⟨hserved,haccess⟩,hcontent,dependency.2,hbefore,hafter⟩

end run

/-! ## A narrowed row -/

def sampleRuntime : Runtime where
  letters := sampleLetters
  str := fun _ => []
  relevance := fun _ _ _ _ => 0
  sha256 := id
  sha256_injective := Function.injective_id

/-- A restricted history event from before explicit provenance. -/
def narrowedTarget : Target :=
  ⟨.historyEvent (text "reason"),1,none,text "title",[],[],text "restricted",.approved,none⟩

def narrowedTables : ServingTables where
  sources := ⟨[],[],[],[],[],List.nodup_nil⟩
  rollout := .empty
  items := []
  validations := []
  targets := [narrowedTarget]
  links := []
  evidenceLinks := []
  tombstones := []
  indexStates := []
  fingerprints := []
  projection := none
  linkIds := List.nodup_nil
  chunkColumns := fun _ => ⟨[],[],[]⟩
  sourceColumns := fun _ => ⟨[],[],.null,[]⟩
  targetCreatedAt := fun _ _ => []

def viewer : DemoUser := ⟨text "employee-mina",text "reviewer",[text "public",text "internal"]⟩

/-- The row of the event, indexed while it was internal. -/
def narrowedRow : VectorMatch :=
  ⟨⟨text "history_event:1",text "title\nreason",text "knowledge://history_event:1",text "title\nreason",
    text "internal",[]⟩,1⟩

def narrowedBackend : Backend viewer := .pgvector (some ⟨[narrowedRow],0,by decide⟩) none

def narrowedCandidate (permissionLevel : Text) : RagEvidenceCandidate :=
  ⟨text "history_event:1",text "knowledge://history_event:1",text "title\nreason",text "title\nreason",.null,[],
    permissionLevel,[],1,[]⟩

theorem narrowedTables_live :
    narrowedTables.forDocument sampleRuntime.letters (text "history_event:1") = ⟨true,some (text "restricted")⟩ := by
  have hm : knowledgeModelForType KnowledgeType.historyEvent.name = some .historyEvent := by decide
  have ht : narrowedTables.target .historyEvent 1 = some narrowedTarget := rfl
  have hopen : TargetOpen narrowedTables.toKnowledgeTables KnowledgeType.historyEvent.name 1 :=
    (targetOpen_iff hm ht).mpr ⟨rfl,by decide,rfl⟩
  have hlinks : narrowedTables.activeLinks KnowledgeType.historyEvent.name 1 = [] := by
    rw [KnowledgeTables.activeLinks,orderBy_eq_nil]
    rfl
  have hsplit : splitOnce (ofChar ':') (text "history_event:1") = some (KnowledgeType.historyEvent.name,text "1") := by
    decide
  rw [forDocument_knowledge hsplit (show parseInt (text "1") = some ((1 : Nat) : Int) by decide) (by decide),
    forKnowledge_legacy hm ht hopen hlinks]
  rfl

theorem narrowedTables_snapshot :
    buildServingDependencySnapshot sampleRuntime narrowedTables (narrowedCandidate (text "restricted")) ≠ none := by
  have hsplit : splitOnce (ofChar ':') (text "history_event:1") = some (text "history_event",text "1") := by decide
  have hparse : parseInt (text "1") = some 1 := by decide
  have hm : knowledgeModelForType (text "history_event") = some .historyEvent := by decide
  have ht : narrowedTables.targetByKey .historyEvent 1 = some narrowedTarget := rfl
  have hcontent : (narrowedCandidate (text "restricted")).content =
      knowledgeServingContent narrowedTarget (text "history_event:1") (text "restricted") := by decide
  have hlinks : dependencyLinks narrowedTables (text "history_event") 1 = [] := by
    simp [dependencyLinks,KnowledgeTables.activeLinks,narrowedTables,orderBy]
  have hsource : (narrowedCandidate (text "restricted")).sourceId = text "history_event:1" := rfl
  have hid : narrowedTarget.id = 1 := rfl
  have hunnamed : narrowedTarget.sourceReviewItemId = none := rfl
  change knowledgeSnapshot sampleRuntime narrowedTables (narrowedCandidate (text "restricted")) ≠ none
  unfold knowledgeSnapshot
  have hpermission : (narrowedCandidate (text "restricted")).permissionLevel = text "restricted" := rfl
  simp only [hsource,hpermission,hsplit,hparse,hm,ht,hcontent,hid,hlinks,Option.bind_eq_bind,Option.bind_some,
    linkSnapshot,legacySnapshot,hunnamed]
  simp

/-- The row of a document that became restricted reaches the answer model of a user who may not see it. -/
theorem answerQuestionWithRag_inaccessible :
    ∃ run, answerQuestionWithRag sampleRuntime narrowedTables narrowedTables (text "status") narrowedBackend
        (fun _ _ => none) = some run ∧
      ∃ m ∈ run.packet.messages, canAccessPermission viewer m.permissionLevel = false := by
  have hcandidates : candidatesFromVectorMatches sampleRuntime [narrowedRow] =
      some [narrowedCandidate (text "internal")] := rfl
  have hlive : liveServingCandidate sampleRuntime narrowedTables (narrowedCandidate (text "internal")) =
      some (narrowedCandidate (text "restricted")) :=
    liveServingCandidate_iff.mpr ⟨_,narrowedTables_live,rfl,Option.isSome_iff_ne_none.mpr narrowedTables_snapshot⟩
  obtain ⟨s,hs⟩ := Option.ne_none_iff_exists'.mp narrowedTables_snapshot
  have hmem : (narrowedCandidate (text "restricted"),s) ∈ snapshottedCandidates sampleRuntime narrowedTables
      (filterLiveServingCandidates sampleRuntime narrowedTables [narrowedCandidate (text "internal")]) :=
    mem_snapshotted.mpr ⟨List.mem_filterMap.mpr ⟨_,List.mem_singleton_self _,hlive⟩,hs⟩
  have hvisible : visibleCandidates sampleRuntime narrowedTables (text "status") narrowedBackend =
      some (filterLiveServingCandidates sampleRuntime narrowedTables [narrowedCandidate (text "internal")],0) := by
    simp only [visibleCandidates,narrowedBackend,Option.bind_eq_bind,Option.bind_some,hcandidates,Option.pure_def]
  refine ⟨_,by rw [answerQuestionWithRag,hvisible]; rfl,(narrowedCandidate (text "restricted")).message,?_,by decide⟩
  exact List.mem_map.mpr ⟨_,List.mem_map.mpr ⟨_,hmem,rfl⟩,rfl⟩

end ParaWorks.Answers
