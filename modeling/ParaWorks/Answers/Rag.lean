import ParaWorks.Answers.Candidates

/-!
# Answering a question

The evidence packet that reaches the answer model, the re-read of everything it rests on after the model
returned, and the answer that is recorded.
-/

namespace ParaWorks.Answers

open Lib Sources Rollout Knowledge

/-! ## The packet -/

structure EvidenceMessage where
  sourceId : Text
  sourceUrl : Text
  text : Text
  author : Json
  timestamp : Text
  permissionLevel : Text
  metadata : List (Text × Json)
  relevanceScore : Rat
  matchedTerms : List Json
  sourceSnippetOverride : Text

def EvidenceMessage.sourceSnippet (m : EvidenceMessage) : Text :=
  if m.sourceSnippetOverride ≠ [] then m.sourceSnippetOverride else m.text.take 240

structure EvidencePacket where
  sourceType : Text
  sourceWindow : Text
  messages : List EvidenceMessage
  userId : Text
  role : Text

def EvidencePacket.strictestPermission (packet : EvidencePacket) : Text :=
  ((packet.messages.map (·.permissionLevel)).argmax fun p => (permissionRank p).getD 1).getD (text "internal")

def RagEvidenceCandidate.message (c : RagEvidenceCandidate) : EvidenceMessage :=
  ⟨c.sourceId,c.sourceUrl,c.text,c.author,c.timestamp,c.permissionLevel,c.metadata,c.relevanceScore,c.matchedTerms,
    c.sourceSnippet⟩

def buildRagEvidencePacket (candidates : List RagEvidenceCandidate) (question : Text) (user : DemoUser) :
    EvidencePacket :=
  ⟨text "rag",text "ask:"++question.take 80,candidates.map (·.message),user.id,user.role⟩

/-! ## The answer -/

structure RagModelResponse where
  answer : Text
  inputTokens : Nat
  outputTokens : Nat
  modelName : Option Text

structure Citation where
  sourceId : Text
  sourceUrl : Text
  sourceType : Json
  permissionLevel : Text
  sourceSnippet : Text
  relevanceScore : Rat
  matchedTerms : List Json

structure RagAnswer where
  question : Text
  answer : Text
  sourceIds : List Text
  sourceLinks : List Text
  sourceSnippets : List Text
  citations : List Citation
  permissionLevel : Option Text
  hiddenMatchCount : Nat
  permissionNotice : Option Text
  modelName : Text
  inputTokens : Nat
  outputTokens : Nat
  servingDependencies : List ServingDependencySnapshot

def hiddenNotice (hiddenMatchCount : Nat) : Option Text :=
  if hiddenMatchCount = 0 then none else some (text "Some sources may be hidden by permissions.")

def EvidenceMessage.citation (m : EvidenceMessage) : Citation :=
  ⟨m.sourceId,m.sourceUrl,(entry m.metadata (Lib.text "source_type")).getD .null,m.permissionLevel,m.sourceSnippet,
    m.relevanceScore,m.matchedTerms⟩

/-- `RagOrchestratorAgent.answer` around a model that may raise. -/
def agentAnswer (model : Text → EvidencePacket → Option RagModelResponse) (question : Text) (packet : EvidencePacket)
    (hiddenMatchCount : Nat) : Option RagAnswer :=
  (model question packet).map fun response =>
    { question := question
      answer := response.answer
      sourceIds := packet.messages.map (·.sourceId)
      sourceLinks := packet.messages.map (·.sourceUrl)
      sourceSnippets := packet.messages.map (·.sourceSnippet)
      citations := packet.messages.map (·.citation)
      permissionLevel := some packet.strictestPermission
      hiddenMatchCount := hiddenMatchCount
      permissionNotice := hiddenNotice hiddenMatchCount
      modelName := response.modelName.getD (text "fake-rag-orchestrator-model")
      inputTokens := response.inputTokens
      outputTokens := response.outputTokens
      servingDependencies := [] }

def evidenceUnavailableText : Text := text "이 답변의 근거를 더 이상 확인할 수 없습니다. 다시 생성해 주세요."

def evidenceUnavailableAnswer (answer : RagAnswer) : RagAnswer :=
  { answer with
    answer := evidenceUnavailableText
    sourceIds := []
    sourceLinks := []
    sourceSnippets := []
    citations := []
    permissionLevel := none
    hiddenMatchCount := 0
    permissionNotice := some (text "evidence_unavailable")
    servingDependencies := [] }

structure AgentRun where
  sourceWindow : Text
  permissionLevel : Text
  question : Text
  sourceCount : Nat
  hiddenMatchCount : Nat
  modelName : Text
  inputTokens : Nat
  outputTokens : Nat
  evidenceUnavailable : Bool

/-! ## The run -/

/-- What a vector store returns: rows whose stored permission the user may see. -/
structure VectorSearchResult (user : DemoUser) where
  rows : List VectorMatch
  hiddenMatchCount : Nat
  visible : ∀ m ∈ rows, canAccessPermission user m.document.permissionLevel = true

/-- The keyword search, or a vector store with the results of its two searches, either of which may raise. -/
inductive Backend (user : DemoUser) where
  | keyword
  | pgvector (first second : Option (VectorSearchResult user))

section run

variable (runtime : Runtime) {user : DemoUser}

def visibleCandidates (db : ServingTables) (question : Text) (backend : Backend user) :
    Option (List RagEvidenceCandidate × Nat) :=
  match backend with
  | .keyword =>
    let found := filterLiveServingCandidates runtime db (retrieveMatchingEvidenceCandidates runtime db question)
    let visible := found.filter fun c => canAccessPermission user c.permissionLevel
    some (visible,found.length-visible.length)
  | .pgvector first _ => do
    let result ← first
    let candidates ← candidatesFromVectorMatches runtime result.rows
    return (filterLiveServingCandidates runtime db candidates,result.hiddenMatchCount)

/-- The candidates with a snapshot, and their snapshots. -/
def snapshottedCandidates (db : ServingTables) (candidates : List RagEvidenceCandidate) :
    List (RagEvidenceCandidate × ServingDependencySnapshot) :=
  candidates.filterMap fun c => (buildServingDependencySnapshot runtime db c).map fun s => (c,s)

/-- One dependency is live, unchanged and accessible. -/
def dependencyIsLive (user : DemoUser) (db : ServingTables) (candidate : RagEvidenceCandidate)
    (snapshot : ServingDependencySnapshot) : Bool :=
  let live := db.forDocument runtime.letters snapshot.servingDocumentId
  live.eligible && live.effectivePermission = some snapshot.permissionLevel &&
    canAccessPermission user snapshot.permissionLevel &&
    buildServingDependencySnapshot runtime db candidate = some snapshot

def servingDependenciesAreLive (user : DemoUser) (db : ServingTables) (candidates : List RagEvidenceCandidate)
    (snapshots : List ServingDependencySnapshot) : Bool :=
  if snapshots = [] then candidates = []
  else if candidates.length ≠ snapshots.length then false
  else (candidates.zip snapshots).all fun d => dependencyIsLive runtime user db d.1 d.2

def recomputeLiveHiddenMatchCount (db : ServingTables) (question : Text) (backend : Backend user) : Option Nat :=
  match backend with
  | .keyword =>
    let live := filterLiveServingCandidates runtime db (retrieveMatchingEvidenceCandidates runtime db question)
    some (live.length-live.countP fun c => canAccessPermission user c.permissionLevel)
  | .pgvector _ second => second.map (·.hiddenMatchCount)

/-- What the answer model was given, and what was recorded unless it raised. -/
structure RagRun where
  packet : EvidencePacket
  recorded : Option (RagAnswer × AgentRun)

/-- The answer after the dependencies were read again, and whether its evidence was kept. -/
def rereadAnswer (db : ServingTables) (question : Text) (backend : Backend user)
    (dependencies : List (RagEvidenceCandidate × ServingDependencySnapshot)) (answer : RagAnswer) : RagAnswer × Bool :=
  match servingDependenciesAreLive runtime user db (dependencies.map Prod.fst) (dependencies.map Prod.snd),
      recomputeLiveHiddenMatchCount runtime db question backend with
  | true,some hidden => ({ answer with
      hiddenMatchCount := hidden
      permissionNotice := hiddenNotice hidden
      servingDependencies := dependencies.map Prod.snd },true)
  | _,_ => (evidenceUnavailableAnswer answer,false)

def agentRun (question : Text) (packet : EvidencePacket) (answer : RagAnswer) (kept : Bool) : AgentRun where
  sourceWindow := if kept then packet.sourceWindow else text "ask:evidence-unavailable"
  permissionLevel := answer.permissionLevel.getD (text "restricted")
  question := question
  sourceCount := answer.sourceLinks.length
  hiddenMatchCount := answer.hiddenMatchCount
  modelName := answer.modelName
  inputTokens := answer.inputTokens
  outputTokens := answer.outputTokens
  evidenceUnavailable := !kept

/-- `answer_question_with_rag`: retrieval reads the tables `before` the model runs, the second transaction reads them
`after`; none where retrieval raises. -/
def answerQuestionWithRag (before after : ServingTables) (question : Text) (backend : Backend user)
    (model : Text → EvidencePacket → Option RagModelResponse) : Option RagRun :=
  (visibleCandidates runtime before question backend).map fun (candidates,hiddenMatchCount) =>
    let dependencies := snapshottedCandidates runtime before candidates
    let packet := buildRagEvidencePacket (dependencies.map Prod.fst) question user
    ⟨packet,(agentAnswer model question packet hiddenMatchCount).map fun answer =>
      let reread := rereadAnswer runtime after question backend dependencies answer
      (reread.1,agentRun question packet reread.1 reread.2)⟩

end run

end ParaWorks.Answers
