import Mathlib.Data.List.Sort
import ParaWorks.Lib.Strings
import ParaWorks.Lib.TracedText

/-!
# The Slack agent graph

The prompts that the nodes of the graph send to their models. The texts are traced: a character of a message remembers the
place of the message in the list and its own place in the text.
-/

namespace ParaWorks.SlackAgent

open Lib

/-! ## Work signals

Whether a Slack message looks like work before any model sees it. -/

/-- What Python brings along: its tables of code points, and the clock of the machine. -/
structure Platform where
  /-- `str.lower`. -/
  lower : Text → Text
  lower_nil : lower [] = []
  /-- `str.upper`. -/
  upper : Text → Text
  /-- The code points beyond ASCII that `\w` matches. -/
  isWord : CodePoint → Bool
  /-- `str.isdigit` of a code point. -/
  isDigit : CodePoint → Bool
  /-- `datetime.fromtimestamp(seconds).strftime('%H:%M:%S')`, none where it raises. -/
  readableTime : Rat → Option Text

structure SlackWorkSignal where
  isReviewable : Bool
  reason : Text
  reasons : List Text
  score : Int

/-- `_LOW_CONTEXT_PHRASES`. -/
def lowContextPhrases : List Text :=
  ["부탁드립니다","부탁드려요","부탁해요","확인했습니다","확인했어요","확인 완료","감사합니다","고맙습니다","수고하셨습니다","넵","네","예","후","하...",
    "음"].map text

/-- `_WORK_OBJECT_KEYWORDS`. -/
def workObjectKeywords : List Text :=
  ["api","celery","evidence","ir","job","llm","mvp","pgvector","postgres","project","queue","rag",
    "redis","review queue","slack","status","worker","workers","계약","고객","비용","문서","파일","자료","제안서","정산",
    "견적","투자","유치","장애","버그","배포","일정","상한","프로젝트","회의","보고서","화면","기능","권한","데이터","동기화","검토사항"].map text

/-- `_WORK_ACTION_KEYWORDS`. -/
def workActionKeywords : List Text :=
  ["검토","작성","공유","배포","수정","승인","회신","준비","진행","완료","결정","정리","업데이트","전달","확인 요청","사용","테스트","분석","등록",
    "처리","complete","confirm","follow-up","keeps","publish","reject","remains","use","used","verify"].map text

/-- `_DUE_CONTEXT_KEYWORDS`. -/
def dueContextKeywords : List Text :=
  ["오늘","내일","이번 주","다음 주","금요일","목요일","수요일","화요일","월요일","까지","마감","기한","오전","오후"].map text

/-- `t.strip(chars)`. -/
def stripOf (chars t : Text) : Text := ((t.dropWhile (· ∈ chars)).reverse.dropWhile (· ∈ chars)).reverse

/-- `_is_low_context_phrase`. -/
def isLowContextPhrase (normalized : Text) : Bool :=
  let compact := stripOf (text " .,!?\n\t") normalized
  lowContextPhrases.any fun phrase => compact = phrase || (phrase++text ".").isPrefixOf compact

def normalizedText (platform : Platform) (t : Text) : Text := join (text " ") (words (platform.lower (strip t)))

/-- `classify_slack_work_signal`. -/
def classifySlackWorkSignal (platform : Platform) (t : Text) : SlackWorkSignal :=
  let normalized := normalizedText platform t
  if normalized = [] then ⟨false,text "empty",[],0⟩
  else
    let hasWorkObject := workObjectKeywords.any (contains · normalized)
    let hasWorkAction := workActionKeywords.any (contains · normalized)
    let hasDueContext := dueContextKeywords.any (contains · normalized)
    let hasLowContextPhrase := isLowContextPhrase normalized
    let reasons := (if hasWorkObject then [text "work_object"] else [])++
      (if hasWorkAction then [text "work_action"] else [])++(if hasDueContext then [text "due_context"] else [])
    let score : Int := reasons.length*20-(if hasLowContextPhrase then 20 else 0)
    if hasWorkObject && (hasWorkAction || hasDueContext) then ⟨true,text "work_signal",reasons,score⟩
    else if hasWorkAction && hasDueContext && 20 ≤ normalized.length then ⟨true,text "work_signal",reasons,score⟩
    else if hasLowContextPhrase then ⟨false,text "low_context_request",reasons,score⟩
    else if !hasWorkObject then ⟨false,text "no_work_object",reasons,score⟩
    else ⟨false,text "insufficient_work_signal",reasons,score⟩

/-- Nothing is not work. -/
theorem not_reviewable_nil (platform : Platform) : (classifySlackWorkSignal platform []).isReviewable = false := by
  have hnone : normalizedText platform [] = [] := by
    change join (text " ") (words (platform.lower [])) = []
    rw [platform.lower_nil]
    rfl
  rw [classifySlackWorkSignal,if_pos hnone]

/-! ## Masking -/

abbrev Traced := List (Glyph (Nat × Nat))

/-- What `\w` matches. -/
def isWordChar (platform : Platform) (c : CodePoint) : Bool :=
  if c.val < 128 then
    (48 ≤ c.val && c.val ≤ 57) || (65 ≤ c.val && c.val ≤ 90) || (97 ≤ c.val && c.val ≤ 122) || c.val = 95
  else platform.isWord c

/-- What `\d` matches. -/
def isDecimal (c : CodePoint) : Bool := (decimalValue c).isSome

def isChar (d : Char) (c : CodePoint) : Bool := c = ofChar d

/-- `\d{6}-\d{7}`. -/
def residentPattern : List Piece := [⟨isDecimal,6,some 6⟩,Piece.one (isChar '-'),⟨isDecimal,7,some 7⟩]

/-- `010-\d{3,4}-\d{4}`. -/
def phonePattern : List Piece :=
  [Piece.one (isChar '0'),Piece.one (isChar '1'),Piece.one (isChar '0'),Piece.one (isChar '-'),⟨isDecimal,3,some 4⟩,
    Piece.one (isChar '-'),⟨isDecimal,4,some 4⟩]

/-- `[\w\.-]`. -/
def isAddressChar (platform : Platform) (c : CodePoint) : Bool := isWordChar platform c || isChar '.' c || isChar '-' c

/-- `[\w\.-]+@[\w\.-]+\.\w+`. -/
def emailPattern (platform : Platform) : List Piece :=
  [Piece.many (isAddressChar platform) 1,Piece.one (isChar '@'),Piece.many (isAddressChar platform) 1,Piece.one (isChar '.'),
    Piece.many (isWordChar platform) 1]

/-- `mask_pii`. -/
def maskPii (platform : Platform) (t : Traced) : Traced :=
  substituteTraced residentPattern (text "[RESIDENT_ID_MASKED]") t
    |> substituteTraced phonePattern (text "[PHONE_MASKED]")
    |> substituteTraced (emailPattern platform) (text "[EMAIL_MASKED]")

/-! ## Messages -/

/-- A value of a message that is shown in a text. -/
inductive Field where
  | absent
  | null
  | text (t : Text)
  deriving DecidableEq

/-- `msg.get(key, default)` in a text. -/
def Field.shownOr (default : Text) : Field → Text
  | absent => default
  | null => Lib.text "None"
  | text t => t

/-- A numeric timestamp as it is shown and as `float` reads it. -/
structure Timestamp where
  shown : Text
  seconds : Rat

structure SlackMessage where
  userName : Field
  user : Field
  text : Option Text
  ts : Option Timestamp

namespace SlackMessage

/-- `float(msg.get('ts', 0))`. -/
def seconds (m : SlackMessage) : Rat := (m.ts.map (·.seconds)).getD 0

/-- `msg.get('ts', '0')`. -/
def tsText (m : SlackMessage) : Text := (m.ts.map (·.shown)).getD (Lib.text "0")

/-- `msg.get('text', '')`. -/
def body (m : SlackMessage) : Text := m.text.getD []

/-- `msg.get('user_name') or msg.get('user', 'Unknown')`. -/
def userDisplay (m : SlackMessage) : Text :=
  match m.userName with
  | .text (c::t) => c::t
  | _ => m.user.shownOr (Lib.text "Unknown")

/-- `msg.get('user_name', msg.get('user', 'Unknown'))`. -/
def compressedDisplay (m : SlackMessage) : Text := m.userName.shownOr (m.user.shownOr (Lib.text "Unknown"))

end SlackMessage

/-- A message with its place in the list. -/
abbrev Placed := SlackMessage × Nat

/-- The text of a message as it is copied. -/
def copied (place : Nat) (t : Text) : Traced := t.zipIdx.map fun (c,k) => ⟨c,some (place,k)⟩

/-- `sorted(messages, key=lambda x: float(x.get('ts', 0)))`. -/
def byTime (messages : List Placed) : List Placed := messages.insertionSort fun a b => a.1.seconds ≤ b.1.seconds

def lineHead (time user : Text) : Text := text "["++time++text "] "++user++text ": "

def lineTail (ts : Text) : Text := text " [TS: "++ts++text "]\n"

/-- `f'[{readable_time}] {user_display}: {text} [TS: {ts_val}]\n'`, none where the time cannot be shown. -/
def transcriptLine (platform : Platform) (display : SlackMessage → Text) (m : Placed) : Option Traced :=
  (platform.readableTime m.1.seconds).map fun time =>
    literal (lineHead time (display m.1))++(copied m.2 m.1.body++literal (lineTail m.1.tsText))

def transcript (platform : Platform) (display : SlackMessage → Text) (messages : List Placed) : Option Traced :=
  ((byTime messages).mapM (transcriptLine platform display)).map (·.flatten)

/-! ## Models -/

inductive Node where
  | classify
  | summarize
  | extract
  | gemini
  deriving DecidableEq

/-- A prompt: what is copied into it between two fixed texts. -/
structure Prompt where
  node : Node
  before : Text
  body : Traced
  after : Text

def Prompt.text (p : Prompt) : Traced := literal p.before++(p.body++literal p.after)

/-- A model answers with characters of its own and with characters of its prompt. -/
inductive Spoken where
  | own (c : CodePoint)
  | repeated (place : Nat)
  deriving DecidableEq

structure Usage where
  promptTokens : Option Int
  completionTokens : Option Int
  deriving DecidableEq

/-- The parts of an answer, and its usage where there is one. A count that is no integer is none. -/
structure Reply where
  content : List (List Spoken)
  usage : Option Usage

/-- What an answer to a prompt says. -/
def Reply.said (reply : Reply) (p : Prompt) : Traced :=
  reply.content.flatten.filterMap fun
    | .own c => some ⟨c,none⟩
    | .repeated place => p.text[place]?

def promptTokens (usage : Option Usage) : Int := (usage.bind (·.promptTokens)).getD 0

def completionTokens (usage : Option Usage) : Int := (usage.bind (·.completionTokens)).getD 0

/-! ## State -/

structure SlackAgentState where
  messages : List SlackMessage
  processedText : Traced
  isWorkRelated : Bool
  summary : Traced
  modelName : Text
  totalPromptTokens : Int
  totalCompletionTokens : Int

def initialState (messages : List SlackMessage) : SlackAgentState := ⟨messages,[],false,[],text "gpt-4o-mini",0,0⟩

/-- The prompts that a node sends, and the state that it leaves, none where it raises. -/
abbrev NodeResult := List Prompt × Option SlackAgentState

section nodes

variable (platform : Platform)

/-! ## Nodes -/

def truncationMarker : Text := text "\n...[COST_GUARD_TRUNCATED]..."

/-- What `preprocess_node` masks. -/
def guarded (maxInputChars : Nat) (combined : Traced) : Traced :=
  if maxInputChars < combined.length then combined.take maxInputChars++literal truncationMarker else combined

/-- `preprocess_node`. -/
def preprocessNode (maxInputChars : Nat) (state : SlackAgentState) : NodeResult :=
  ([],(transcript platform SlackMessage.userDisplay state.messages.zipIdx).map fun combined =>
    { state with processedText := maskPii platform (guarded maxInputChars combined), modelName := text "gpt-4o-mini" })

/-- The messages with a work signal. -/
def workSignalMessages (messages : List SlackMessage) : List Placed :=
  messages.zipIdx.filter fun m => (classifySlackWorkSignal platform m.1.body).isReviewable

/-- The numbers that the work filter answers, none where one cannot be read. -/
def parseIndices (t : Text) : Option (List Nat) :=
  let numbers := ((t.splitOn (ofChar ',')).map strip).filter fun n => n ≠ [] && n.all platform.isDigit
  numbers.mapM fun n => if 4300 < n.length then none else (parseInt n).map Int.toNat

/-- What an answer of the work filter comes to where there are so many messages. -/
inductive Screening where
  | nothing
  | chosen (indices : List Nat)
  | unreadable
  deriving DecidableEq

def screening (count : Nat) (answer : Text) : Screening :=
  let resText := platform.upper (strip answer)
  if contains (text "NONE") resText then .nothing
  else match parseIndices platform resText with
    | none => .unreadable
    | some indices => .chosen (indices.filter (· < count))

/-- `f'[{i}] {user_display}: {text[:200]}\n'`. -/
def simpleLine (m : Placed × Nat) : Traced :=
  literal (text "["++text (toString m.2)++text "] "++m.1.1.userDisplay++text ": ")++
    ((copied m.1.2 m.1.1.body).take 200++literal (text "\n"))

def classifyPrompt (work : List Placed) : Prompt where
  node := .classify
  before := text ("다음 슬랙 대화 목록 중 기업 지식으로 남길 가치가 있는 업무 관련 메시지의 번호(index)만 콤마로 구분해서 답하세요. "++
    "만약 업무 관련 내용이 전혀 없다면 'NONE'이라고 답하세요.\n\n")
  body := (work.zipIdx.map simpleLine).flatten
  after := []

/-- `classify_work_node`. -/
def classifyWorkNode (filter : Option Reply) (state : SlackAgentState) : NodeResult :=
  let work := workSignalMessages platform state.messages
  if work = [] then ([],some { state with isWorkRelated := false, processedText := [] })
  else
    let prompt := classifyPrompt work
    ([prompt],filter.map fun reply =>
      let counted := { state with
        totalPromptTokens := state.totalPromptTokens+promptTokens reply.usage
        totalCompletionTokens := state.totalCompletionTokens+completionTokens reply.usage }
      match screening platform work.length (codes (reply.said prompt)) with
      | .nothing => { counted with isWorkRelated := false }
      | .unreadable => { counted with isWorkRelated := true }
      | .chosen indices =>
        match transcript platform SlackMessage.compressedDisplay (indices.filterMap fun i => work[i]?) with
        | none => { counted with isWorkRelated := true }
        | some compressed => { counted with isWorkRelated := true, processedText := compressed })

def summarizePrompt (state : SlackAgentState) : Prompt where
  node := .summarize
  before := text ("다음 필터링된 업무 대화록을 주요 안건 위주로 요약하세요.\n"++
    "**중요 원칙**: 대화록에 등장하는 사용자 이름(예: [3기/AI] 김종우)은 절대 줄이거나 변경하지 말고 전체 형식을 그대로 유지하세요.\n"++
    "핵심 결정이나 발언이 있다면 '누가(전체 이름)' 말했는지 명시하고, [TS: ...] 정보는 지우지 말고 꼭 유지하세요:\n\n")
  body := state.processedText
  after := []

/-- `summarize_node`. -/
def summarizeNode (summarizer : Option Reply) (state : SlackAgentState) : NodeResult :=
  let prompt := summarizePrompt state
  ([prompt],summarizer.map fun reply => { state with
    summary := reply.said prompt
    modelName := text "gpt-5-mini"
    totalPromptTokens := state.totalPromptTokens+promptTokens reply.usage
    totalCompletionTokens := state.totalCompletionTokens+completionTokens reply.usage })

def extractPrompt (state : SlackAgentState) : Prompt where
  node := .extract
  before := text ("\n다음 요약본을 바탕으로 보존할 가치가 있는 기업 지식들을 추출하세요. \n\n**필수 준수 사항**:\n"++
    "1. 사용자 이름(예: [3기/AI] 김종우)은 절대로 변경하거나 성만 떼지 말고, 대화록에 있는 전체 이름 그대로 사용하세요.\n"++
    "2. source_snippets 배열에는 지식을 뒷받침하는 핵심 발언 원문을 그대로 채워 넣으세요. (이름을 붙이지 마세요)\n"++
    "3. source_ts_list 배열에는 해당 지식의 근거가 되는 메시지의 [TS: ...] 숫자값을 반드시 1개 이상 포함하세요. (매우 중요)\n"++
    "4. 지식 유형(item_type)은 반드시 'decision_record', 'todo', 'history_event' 중 하나만 사용하세요.\n"++
    "5. 중요도(importance)는 대화의 긴급성이나 영향력을 판단하여 'Low', 'Medium', 'High' 중 하나를 선택하세요.\n\n"++
    "카테고리 분류 기준:\n- Project (프로젝트): 명확한 기한과 목표가 있는 신규 기획/개발 건\n"++
    "- Operations (운영/유지보수): 상시 발생하는 서비스 운영 및 관리\n"++
    "- Administration (공통/지원): HR, 재무, 사내 IT 정책 등 지원 업무\n"++
    "- Ad-hoc (단발성 이슈): 특정 카테고리에 묶기 힘든 일회성 문제\n\n"++
    "특히 'todo' 유형은 대화 맥락에서 파악 가능한 '담당자(assignee)'와 '마감 기한(due_date)'을 반드시 포함하세요. \n"++
    "마감 기한은 YYYY-MM-DD 형식으로 변환하되, 연도가 없으면 현재 연도(2026년)를 기준으로 합니다.\n\n분석 대상 요약본:\n")
  body := state.summary
  after := text "\n"

def geminiPrompt (state : SlackAgentState) : Prompt where
  node := .gemini
  before := text "다음 텍스트에서 주요 결정 사항과 할 일을 추출해 JSON 리스트 형식으로만 답해줘. 사용자 이름은 전체 형식을 유지해줘: "
  body := state.summary
  after := []

/-- How the extraction goes: it raises, and the fallback too or not, it finds nothing, or it finds candidates. -/
inductive Extraction where
  | raises (fallbackRaises : Bool)
  | invalid
  | parsed
  deriving DecidableEq

/-- `extract_candidate_node`, without the candidates. -/
def extractCandidateNode (extraction : Extraction) (state : SlackAgentState) : NodeResult :=
  let prompt := extractPrompt state
  let counted (promptTokens completionTokens : Int) := { state with
    totalPromptTokens := state.totalPromptTokens+promptTokens
    totalCompletionTokens := state.totalCompletionTokens+completionTokens }
  match extraction with
  | .raises fallbackRaises => ([prompt,geminiPrompt state],if fallbackRaises then none else some (counted 100 100))
  | .invalid => ([prompt],some (counted 100 100))
  | .parsed => ([prompt],some (counted (prompt.text.length/4) 500))

end nodes

/-! ## The graph -/

/-- What the models of one run answer. -/
structure Replies where
  filter : Option Reply
  summarizer : Option Reply
  extraction : Extraction

/-- A node after what ran before it. -/
def NodeResult.andThen (result : NodeResult) (node : SlackAgentState → NodeResult) : NodeResult :=
  match result.2 with
  | none => result
  | some state => (result.1++(node state).1,(node state).2)

/-- The graph up to its extraction. -/
def runGraph (platform : Platform) (maxInputChars : Nat) (messages : List SlackMessage) (replies : Replies) : NodeResult :=
  let classified := ((preprocessNode platform maxInputChars (initialState messages)).andThen
    (classifyWorkNode platform replies.filter))
  if classified.2.elim false (·.isWorkRelated) then
    (classified.andThen (summarizeNode replies.summarizer)).andThen (extractCandidateNode replies.extraction)
  else classified

end ParaWorks.SlackAgent
