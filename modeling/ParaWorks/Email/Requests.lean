import ParaWorks.Email.Drafts
import ParaWorks.Lib.JsonPrinter
import ParaWorks.Lib.Strings

/-!
# What a message asks for

The tests on the latest message and the earlier ones by which `create_assistant_message` takes its path, and the contexts
it renders for the models. `lower` is `str.lower`.
-/

namespace ParaWorks.Email

open Lib

/-! ## Texts -/

/-- `text.find(needle)`. -/
def findIndex (needle : Text) : Text → Option Nat
  | [] => if needle = [] then some 0 else none
  | c::t => if needle.isPrefixOf (c::t) then some 0 else (findIndex needle t).map (·+1)

/-- `text.strip(set)`. -/
def stripSet (set t : Text) : Text :=
  ((t.dropWhile (· ∈ set)).reverse.dropWhile (· ∈ set)).reverse

/-- `text[-n:]` for a positive `n`. -/
def lastChars (n : Nat) (t : Text) : Text := t.drop (t.length-n)

def isLineBreak (c : CodePoint) : Bool :=
  (10 ≤ c.val && c.val ≤ 13) || (28 ≤ c.val && c.val ≤ 30) || c.val = 0x85 || c.val = 0x2028 || c.val = 0x2029

/-- `text.splitlines()`, with the line that is being read, reversed. -/
def splitLinesFrom : Text → Text → List Text
  | [], line => if line = [] then [] else [line.reverse]
  | [c], line => if isLineBreak c then [line.reverse] else [(c::line).reverse]
  | c::d::t, line =>
    if c.val = 13 ∧ d.val = 10 then line.reverse::splitLinesFrom t []
    else if isLineBreak c then line.reverse::splitLinesFrom (d::t) []
    else splitLinesFrom (d::t) (c::line)

def splitLines (t : Text) : List Text := splitLinesFrom t []

def newline : Text := [ofChar '\n']

section requests

variable (lower : Text → Text)

/-- One of the terms is in the message. -/
def hasTerm (terms : List Text) (message : Text) : Bool := terms.any fun term => contains (lower term) (lower message)

/-! ## Terms -/

def generateTerms : List Text :=
  ["작성","정리","요약","만들","써","준비","write","summarize","draft"].map text

def generateConnectors : List Text := ["해서","하고","하여","한 뒤","후에","후"].map text

def referenceTerms : List Text :=
  ["이 내용","위 내용","위의 내용","그 내용","이걸","그걸","방금","앞의","최근 답변","this content","above"].map text

def sendTerms : List Text := ["메일","이메일","보내","전송","발송","send","email"].map text

def revisionTerms : List Text :=
  ["내용","본문","메일 주소","이메일 주소","수신자","받는 사람","안 들어","안들어","빠졌","빠져","없잖","하나도","누락","수정",
    "잘못","틀렸","다시"].map text

def recipientUpdateTerms : List Text :=
  ["한테 보내","에게 보내","님한테 보내","님에게 보내","로 보내","to "].map text

def recipientProblemTerms : List Text := ["메일 주소","이메일 주소","수신자","받는 사람","주소"].map text

def wrongTerms : List Text := ["잘못","틀렸","아니","오류"].map text

def contactLookupTerms : List Text := ["이메일","메일 주소","메일주소","email","연락처","contact"].map text

def contactAskTerms : List Text := ["알려","찾아","확인","뭐","무엇","주소","조회"].map text

def emailActionTerms : List Text :=
  ["보내","전송","발송","작성","초안","써줘","send","draft","compose","forward","reply"].map text

def contactLookupFollowupTerms : List Text :=
  ["너가 알려","네가 알려","니가 알려","알려줘야지","찾아줘야지","너가 찾아","네가 찾아"].map text

/-! ## Earlier drafts and answers -/

structure PendingEmailDraft where
  recipients : List Text
  subject : Text
  body : Text
  messageId : Nat
  deriving DecidableEq

/-- The draft of one message when it is a pending one. -/
def pendingEmailDraft (message : AssistantMessage) : Option PendingEmailDraft :=
  if message.metadata.actionType ≠ some (text "email_draft") ∨
      message.metadata.status ≠ some (text "pending_approval") then none
  else message.metadata.emailDraft.bind fun draft =>
    let recipients := (draft.recipients.map strip).filter (· ≠ [])
    if recipients = [] ∨ strip draft.subject = [] ∨ strip draft.body = [] then none
    else some ⟨recipients,strip draft.subject,strip draft.body,message.columns.id⟩

/-- `find_latest_pending_email_draft`. -/
def findLatestPendingEmailDraft (messages : List AssistantMessage) : Option PendingEmailDraft :=
  messages.reverse.findSome? pendingEmailDraft

/-- The message is an answer that can be sent. -/
def sendableArtifact (message : AssistantMessage) : Bool :=
  message.columns.role = .assistant && message.metadata.status ≠ some (text "failed") &&
  message.metadata.actionType ≠ some (text "contact_lookup") &&
  message.metadata.actionType ≠ some (text "email_clarification") &&
  message.metadata.actionType ≠ some (text "email_draft") && strip message.columns.content ≠ []

/-- `find_latest_sendable_artifact`. -/
def findLatestSendableArtifact (messages : List AssistantMessage) : Option AssistantMessage :=
  messages.reverse.find? sendableArtifact

/-- `is_pending_draft_recipient_problem`. -/
def isPendingDraftRecipientProblem (messages : List AssistantMessage) (latest : Text) : Bool :=
  (findLatestPendingEmailDraft messages).isSome && hasTerm lower recipientProblemTerms latest &&
    hasTerm lower wrongTerms latest

/-! ## Sources of a draft -/

inductive SourceKind where
  | generatedRagAnswer
  | pendingEmailDraft
  | assistantAnswer
  deriving DecidableEq

def SourceKind.name : SourceKind → Text
  | .generatedRagAnswer => text "generated_rag_answer"
  | .pendingEmailDraft => text "pending_email_draft"
  | .assistantAnswer => text "assistant_answer"

/-- An `EmailSourceContext` that routes. -/
structure EmailSourceContext where
  kind : SourceKind
  content : Text
  sourceMessageId : Option Nat
  pendingDraft : Option PendingEmailDraft
  reason : Text
  deriving DecidableEq

def isReferenceEmailRequest (latest : Text) : Bool := hasTerm lower referenceTerms latest && hasTerm lower sendTerms latest

def pendingDraftReason (revision recipientUpdate : Bool) : Text :=
  if recipientUpdate then text "pending_draft_recipient_update"
  else if revision then text "pending_draft_revision"
  else text "pending_draft_reference"

def artifactReason (revision recipientUpdate : Bool) : Text :=
  if recipientUpdate then text "draft_recipient_update"
  else if revision then text "draft_revision"
  else text "referenced_assistant_answer"

/-- `build_email_source_context`; `none` does not route. -/
def buildEmailSourceContext (messages : List AssistantMessage) (latest : Text) : Option EmailSourceContext :=
  let pending := findLatestPendingEmailDraft messages
  let revision := pending.isSome && hasTerm lower revisionTerms latest
  let recipientUpdate := pending.isSome && hasTerm lower recipientUpdateTerms latest
  if isReferenceEmailRequest lower latest = false ∧ revision = false ∧ recipientUpdate = false then none
  else match findLatestSendableArtifact messages with
    | none => pending.map fun draft =>
      ⟨.pendingEmailDraft,draft.body,none,some draft,pendingDraftReason revision recipientUpdate⟩
    | some artifact =>
      some ⟨.assistantAnswer,strip artifact.columns.content,some artifact.columns.id,pending,
        artifactReason revision recipientUpdate⟩

def isGenerateAndSendRequest (latest : Text) : Bool :=
  hasTerm lower generateTerms latest && hasTerm lower sendTerms latest && hasTerm lower generateConnectors latest

/-- Where a connector cuts the question off. -/
def connectorCut (normalized connector : Text) : Option Nat :=
  (findIndex connector normalized).bind fun index =>
    if hasTerm lower sendTerms (normalized.drop (index+connector.length)) then some index else none

/-- `_complete_generation_question`. -/
def completeGenerationQuestion (question : Text) : Text :=
  let endsWith := fun suffixes : List String => suffixes.any fun s => (text s).isSuffixOf question
  if question = [] then []
  else if endsWith ["해줘","해주세요","줘","세요","?"] then question
  else if endsWith ["작성","정리","요약","준비"] then question++text "해줘"
  else if endsWith ["만들"] then question++text "어줘"
  else if endsWith ["써"] then question++text "줘"
  else question++text " 해줘"

/-- `_generated_source_question`. -/
def generatedSourceQuestion (latest : Text) : Text :=
  let normalized := strip latest
  let cutoff := (generateConnectors.filterMap (connectorCut lower normalized)).foldl min normalized.length
  completeGenerationQuestion (stripSet (text " .。!?\n\t") (normalized.take cutoff))

/-- `build_generated_email_source_request`: the question when it routes. -/
def buildGeneratedEmailSourceRequest (latest : Text) : Option Text :=
  if isGenerateAndSendRequest lower latest = false then none
  else
    let question := generatedSourceQuestion lower latest
    if question = [] then none else some question

/-! ## Contexts for the models -/

def MessageRole.name : MessageRole → Text
  | .user => text "user"
  | .assistant => text "assistant"

/-- A row of the conversation context. -/
structure ContextRow where
  role : MessageRole
  content : Text
  deriving DecidableEq

/-- `json.dumps` of one row with `ensure_ascii=False`. -/
def ContextRow.dumps (row : ContextRow) : Text :=
  text "\x7b\"role\": "++Json.quote row.role.name++text ", \"content\": "++Json.quote row.content++text "\x7d"

/-- `json.dumps` of the rows. -/
def dumpsRows (rows : List ContextRow) : Text := text "["++join (text ", ") (rows.map ContextRow.dumps)++text "]"

def rowOf (message : AssistantMessage) : ContextRow := ⟨message.columns.role,message.columns.content⟩

/-- The loop of `render_email_action_context` over the messages from the newest on. -/
def selectRows (maxChars : Nat) : List ContextRow → List ContextRow → List ContextRow
  | [], selected => selected
  | row::older, selected =>
    if maxChars < (dumpsRows (row::selected)).length then
      if selected ≠ [] then selected
      else selectRows maxChars older [{ row with content := lastChars (max 80 (maxChars/2)) row.content }]
    else selectRows maxChars older (row::selected)

/-- The rows of `render_email_action_context`. -/
def emailActionRows (maxChars : Nat) (messages : List AssistantMessage) : List ContextRow :=
  selectRows maxChars (((messages.drop (messages.length-12)).reverse).map rowOf) []

/-- `render_email_action_context`. -/
def renderEmailActionContext (maxChars : Nat) (messages : List AssistantMessage) : Text :=
  dumpsRows (emailActionRows maxChars messages)

def answerChunk (content : Text) : Text := text "Previous assistant answer:\n"++content

/-- The loop of `render_recent_assistant_context_for_email` over the messages from the newest on, with the chunks that
have been taken, the oldest first. -/
def recentChunks (maxChars : Nat) : List AssistantMessage → List Text → List Text
  | [], chunks => chunks
  | message::older, chunks =>
    let content := strip message.columns.content
    if message.columns.role ≠ .assistant ∨ content = [] then recentChunks maxChars older chunks
    else
      let chunks := answerChunk content::chunks
      if maxChars ≤ (join (text "\n\n") chunks).length ∨ 3 ≤ chunks.length then chunks
      else recentChunks maxChars older chunks

/-- `render_recent_assistant_context_for_email`. -/
def renderRecentAssistantContext (maxChars : Nat) (messages : List AssistantMessage) : Text :=
  lastChars maxChars (join (text "\n\n") (recentChunks maxChars messages.reverse []))

/-- `render_email_source_context`. -/
def renderEmailSourceContext (maxChars : Nat) (source : EmailSourceContext) : Text :=
  if source.content = [] then []
  else lastChars maxChars (join newline [text "Selected email body source:",text "kind: "++source.kind.name,
    text "reason: "++source.reason,[],source.content])

/-! ## Contact lookups -/

structure ContactLookupRequest where
  lookupQuery : Text
  reason : Text
  deriving DecidableEq

def isDirectContactLookup (message : Text) : Bool :=
  hasTerm lower contactLookupTerms message && hasTerm lower contactAskTerms message &&
    !hasTerm lower emailActionTerms message

def isContactLookupFollowup (message : Text) : Bool := hasTerm lower contactLookupFollowupTerms message

/-- `_recent_contact_lookup_query`: the newest direct lookup among the rows. -/
def recentContactLookupQuery (rows : List ContextRow) : Option Text :=
  ((rows.reverse.filter (·.role = .user)).map fun row => strip row.content).find? (isDirectContactLookup lower)

/-- `detect_contact_lookup_request`. -/
def detectContactLookupRequest (latest : Text) (rows : List ContextRow) : Option ContactLookupRequest :=
  let message := strip latest
  if isDirectContactLookup lower message then some ⟨message,text "direct_lookup"⟩
  else if isContactLookupFollowup lower message then
    (recentContactLookupQuery lower rows).bind fun query =>
      if query = [] then none else some ⟨query,text "followup_lookup"⟩
  else none

/-! ## Drafts and their source -/

/-- `_normalize_text`. -/
def normalizeText (value : Text) : Text := (words (lower value)).flatten

/-- `_source_is_already_included`. -/
def sourceIsAlreadyIncluded (body source : Text) : Bool :=
  (((splitLines source).map (normalizeText lower)).filter (12 ≤ ·.length)).take 5 |>.any
    fun marker => contains marker (normalizeText lower body)

/-- `ensure_draft_contains_source`. -/
def ensureDraftContainsSource (draft : EmailDraft) (context : EmailSourceContext) : EmailDraft :=
  let source := strip context.content
  if source = [] ∨ sourceIsAlreadyIncluded lower draft.body source then draft
  else
    let body := strip draft.body
    { draft with body := if body = [] then source else body++newline++newline++source }

/-- `_fallback_subject`. -/
def fallbackSubject (source : Text) : Text :=
  match ((splitLines source).map strip).find? (· ≠ []) with
  | none => text "공유드립니다"
  | some firstLine => firstLine.take 40++text " 공유드립니다"

/-- `fallback_draft_from_source` for recipients with these addresses. -/
def fallbackDraftFromSource (context : EmailSourceContext) (emails : List Text) : Option EmailDraft :=
  let recipients := (emails.map strip).filter (· ≠ [])
  if recipients = [] ∨ strip context.content = [] then none
  else some ⟨recipients,(context.pendingDraft.map (·.subject)).getD (fallbackSubject context.content),
    strip context.content⟩

end requests

end ParaWorks.Email
