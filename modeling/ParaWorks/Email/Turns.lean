import ParaWorks.Email.Recipients
import ParaWorks.Email.Requests

/-!
# Turns of a conversation

`create_assistant_message` for an assistant that is not owned by the second version: each path that it takes, what it
gives the composer and what it stores. Each stored message carries its origins, the dependencies of the evidence whose
text it may contain; the code does not read them.
-/

namespace ParaWorks.Email

open Lib

structure TracedMessage where
  message : AssistantMessage
  origins : List ServingDependency
  deriving DecidableEq

abbrev Conversation := List TracedMessage

/-! ## What the turn asks others -/

structure RagAnswer where
  answer : Text
  citations : List Citation
  sourceIds : List Text
  sourceLinks : List Text
  sourceSnippets : List Text
  agentName : Text
  promptVersion : Text
  servingDependencies : List ServingDependency

structure EmailIntentDecision where
  emailIntent : Bool
  intentType : Text
  confidenceScore : Nat
  requiresRagResult : Bool
  reason : Text
  deriving DecidableEq

inductive ComposerAction where
  | notEmail
  | emailDraft
  | needsClarification
  deriving DecidableEq

structure EmailActionDecision where
  actionType : ComposerAction
  recipients : List Text
  subject : Text
  body : Text
  clarificationQuestion : Text
  deriving DecidableEq

/-- `to_draft`. -/
def EmailActionDecision.toDraft (decision : EmailActionDecision) : Option EmailDraft :=
  if decision.actionType ≠ .emailDraft ∨ decision.recipients = [] ∨ strip decision.subject = [] ∨
      strip decision.body = [] then none
  else some ⟨(decision.recipients.map strip).filter (· ≠ []),strip decision.subject,strip decision.body⟩

structure ComposerInput where
  conversationContext : Text
  latestMessage : Text
  intent : EmailIntentDecision
  ragContext : Text
  resolvedRecipients : List ResolvedRecipient
  deriving DecidableEq

/-- One turn: the user's words, the settings, the state of the evidence and the answers of the resolver, the models and
the retrieval, which fails with `none`. -/
structure TurnEnvironment (Evidence : Type) where
  content : Text
  evidence : Evidence
  maxInputChars : Nat
  minConfidence : Nat
  vectorStore : Bool
  resolve : Text → Text → RecipientResolution
  decide : Text → Text → EmailIntentDecision
  compose : ComposerInput → EmailActionDecision
  answer : Text → Option RagAnswer
  /-- the dependencies are live and can be signed as they are stored -/
  signs : List ServingDependency → Bool

inductive Delivery where
  | message
  | rejected
  | failed
  deriving DecidableEq

/-- What a turn leaves, with the resolutions it asked for and what it gave the composer. -/
structure TurnResult where
  conversation : Conversation
  resolutions : List RecipientResolution
  composed : List ComposerInput
  delivery : Delivery
  deriving DecidableEq

def TurnResult.after (result : TurnResult) (resolution : RecipientResolution) (composed : List ComposerInput) :
    TurnResult :=
  { result with resolutions := resolution::result.resolutions, composed := composed++result.composed }

section turns

variable {Evidence : Type} (authority : EvidenceAuthority Evidence) (lower : Text → Text)
  (env : TurnEnvironment Evidence)

/-! ## Storing messages -/

def plainMetadata (actionType status agentName promptVersion : Option Text) : MessageMetadata :=
  ⟨actionType,status,agentName,promptVersion,none,false,none,none,none⟩

def userMessage (id : Nat) (content : Text) : AssistantMessage :=
  ⟨⟨id,.user,content,[],[],[],[],none,none,0,[]⟩,plainMetadata none none none none⟩

/-- The row of an assistant message with its dependencies; a message with dependencies is signed. -/
def assistantMessage (id : Nat) (content : Text) (citations : List Citation) (sourceIds sourceLinks sourceSnippets : List Text)
    (metadata : MessageMetadata) (dependencies : List ServingDependency) : AssistantMessage where
  columns :=
    { id := id
      role := .assistant
      content := strip content
      citations := citations
      sourceIds := sourceIds
      sourceLinks := sourceLinks
      sourceSnippets := sourceSnippets
      contentWriteMode := if dependencies = [] then none else some (text "legacy_trimmed")
      evidenceContractVersion :=
        some (if dependencies = [] then text "none-v1" else text "assistant-evidence:v1")
      servingDependencyCount := dependencies.length
      dependencies := dependencies }
  metadata := metadata

/-- `append_assistant_message`; `none` is its exception. -/
def appendAssistantMessage (conversation : Conversation) (content : Text) (answer : Option RagAnswer)
    (metadata : MessageMetadata) (dependencies origins : List ServingDependency) : Option Conversation :=
  let citations := (answer.map (·.citations)).getD []
  let sourceIds := (answer.map (·.sourceIds)).getD []
  let sourceLinks := (answer.map (·.sourceLinks)).getD []
  let sourceSnippets := (answer.map (·.sourceSnippets)).getD []
  if strip content = [] then none
  else if (metadata.evidenceDerived ∨ citations ≠ [] ∨ sourceIds ≠ [] ∨ sourceLinks ≠ [] ∨ sourceSnippets ≠ []) ∧
      dependencies = [] then none
  else if dependencies ≠ [] ∧ env.signs dependencies = false then none
  else some (conversation++[⟨assistantMessage (conversation.length+1) content citations sourceIds sourceLinks
    sourceSnippets metadata dependencies,origins⟩])

/-- The result of a path that stores a message; an exception leaves the conversation as it was. -/
def stored (conversation : Conversation) (appended : Option Conversation) : TurnResult :=
  match appended with
  | none => ⟨conversation,[],[],.failed⟩
  | some conversation => ⟨conversation,[],[],.message⟩

def assistantFailureContent : Text := text "답변 생성 중 문제가 발생했습니다. 잠시 후 다시 시도해 주세요."

/-- `append_failed_assistant_message` and the error that follows it. -/
def answerFailed (conversation : Conversation) : TurnResult :=
  { stored conversation (appendAssistantMessage env conversation assistantFailureContent none
    (plainMetadata none (some (text "failed")) none none) [] []) with delivery := .failed }

def clarificationMetadata (agentName : Text) : MessageMetadata :=
  plainMetadata (some (text "email_clarification")) (some (text "needs_input")) (some agentName)
    (some emailActionPromptVersion)

/-- `_append_recipient_clarification_message`. -/
def recipientClarification (conversation : Conversation) (resolution : Option RecipientResolution) : TurnResult :=
  stored conversation (appendAssistantMessage env conversation (recipientClarificationContent resolution) none
    (clarificationMetadata (text "recipient_resolver")) [] [])

/-- A clarification in the composer's words. -/
def composerClarification (conversation : Conversation) (question : Text) (origins : List ServingDependency) :
    TurnResult :=
  stored conversation (appendAssistantMessage env conversation question none
    (clarificationMetadata (text "email_draft_composer")) [] origins)

/-! ## Origins -/

/-- The messages whose rows the conversation context shows. -/
def contextMessages (prior : Conversation) : Conversation :=
  prior.drop (prior.length-(emailActionRows env.maxInputChars (prior.map (·.message))).length)

def shownAnswer (m : TracedMessage) : Bool :=
  m.message.columns.role = .assistant && strip m.message.columns.content ≠ []

/-- The answers that the recent context shows. -/
def recentMessages (prior : Conversation) : Conversation :=
  (prior.reverse.filter shownAnswer).take (recentChunks env.maxInputChars ((prior.map (·.message)).reverse) []).length

/-- The answer and the draft that a source context is built from. -/
def sourceMessages (prior : Conversation) : Conversation :=
  (prior.reverse.find? (sendableArtifact ·.message)).toList++
    (prior.reverse.find? fun m => (pendingEmailDraft m.message).isSome).toList

def originsOf (messages : Conversation) : List ServingDependency := messages.flatMap (·.origins)

/-! ## Drafts from a source -/

def sourceIntent (source : EmailSourceContext) : EmailIntentDecision := ⟨true,text "send",100,false,source.reason⟩

def sourceComposerInput (prior : Conversation) (source : EmailSourceContext) (recipients : List ResolvedRecipient) :
    ComposerInput where
  conversationContext := renderEmailActionContext env.maxInputChars (prior.map (·.message))
  latestMessage := strip env.content
  intent := sourceIntent source
  ragContext := renderEmailSourceContext env.maxInputChars source
  resolvedRecipients := recipients

/-- The draft that the composer's decision and the source give. -/
def sourceDraft (decision : EmailActionDecision) (source : EmailSourceContext) (recipients : List ResolvedRecipient) :
    Option EmailDraft :=
  match decision.toDraft with
  | some draft => some (ensureDraftContainsSource lower draft source)
  | none => fallbackDraftFromSource source (recipients.map (·.email))

/-- `_append_source_email_draft_message`; `none` when it stores nothing. -/
def appendSourceEmailDraftMessage (conversation prior : Conversation) (source : EmailSourceContext)
    (recipients : List ResolvedRecipient) (origins : List ServingDependency) : Option TurnResult :=
  let decision := env.compose (sourceComposerInput env prior source recipients)
  let origins := originsOf (contextMessages env prior)++origins
  match sourceDraft lower decision source recipients with
  | some draft =>
    some (stored conversation (appendAssistantMessage env conversation (assistantEmailDraftContent draft) none
      (emailDraftMetadata draft) [] origins))
  | none =>
    if decision.actionType = .needsClarification ∧ decision.clarificationQuestion ≠ [] then
      some (composerClarification env conversation decision.clarificationQuestion origins)
    else none

/-! ## The paths -/

def recentContextMessageLimit : Nat := 6

/-- `_compact_context_text`. -/
def compactContextText (value : Text) : Text :=
  let compacted := join (text " ") (words (strip value))
  if compacted.length ≤ 500 then compacted
  else ((compacted.take 499).reverse.dropWhile isSpace).reverse++text "…"

/-- `build_contextual_question` over the eligible messages, the newest being the question itself. -/
def buildContextualQuestion (prior : List AssistantMessage) (question : Text) : Text :=
  let recent := prior.drop (prior.length-recentContextMessageLimit)
  let lines := (recent.filterMap fun m =>
    let content := compactContextText m.columns.content
    if content = [] then none else some (m.columns.role.name++text ": "++content)).reverse.dedup.reverse
  join newline ((if recent = [] then [] else text "최근 대화:"::lines)++[text "현재 질문: "++strip question])

/-- `_render_rag_answer_for_email`. -/
def renderRagAnswerForEmail (answer : RagAnswer) : Text :=
  join newline ([text "RAG answer:",answer.answer,[],text "Source links:"]++
    (answer.sourceLinks.take 5).map (text "- "++·)++[[],text "Source snippets:"]++
    (answer.sourceSnippets.take 5).map (text "- "++·))

/-- The answer of the retrieval as the reply of the turn. -/
def answerTurn (conversation : Conversation) (question : Text) : TurnResult :=
  match env.answer question with
  | none => answerFailed env conversation
  | some answer =>
    let metadata := { plainMetadata none none (some answer.agentName) (some answer.promptVersion) with
      effectiveBackend := some (if env.vectorStore then text "pgvector" else text "deterministic_lexical") }
    match appendAssistantMessage env conversation answer.answer (some answer) metadata answer.servingDependencies
        answer.servingDependencies with
    | none => answerFailed env conversation
    | some conversation => ⟨conversation,[],[],.message⟩

def intentComposerInput (prior : Conversation) (intent : EmailIntentDecision) (ragContext : Text)
    (resolution : RecipientResolution) : ComposerInput where
  conversationContext := renderEmailActionContext env.maxInputChars (prior.map (·.message))
  latestMessage := strip env.content
  intent := intent
  ragContext := ragContext
  resolvedRecipients := resolution.resolvedRecipients

/-- The draft of a confident intent, from the recent answers or a fresh one. -/
def composedTurn (conversation prior : Conversation) (question : Text) (decision : EmailActionDecision)
    (fresh : Option RagAnswer) : TurnResult :=
  let dependencies := (fresh.map (·.servingDependencies)).getD []
  let origins := originsOf (contextMessages env prior)++
    match fresh with
    | none => originsOf (recentMessages env prior)
    | some answer => answer.servingDependencies
  match decision.toDraft with
  | some draft =>
    let metadata := emailDraftMetadata draft
    stored conversation (appendAssistantMessage env conversation (assistantEmailDraftContent draft) none
      (if fresh.isSome then
        { metadata with evidenceDerived := true, effectiveBackend := some (text "deterministic_lexical") }
      else metadata) dependencies origins)
  | none =>
    if decision.actionType = .needsClarification ∧ decision.clarificationQuestion ≠ [] then
      composerClarification env conversation decision.clarificationQuestion origins
    else answerTurn env conversation question

/-- From the intent gate on. -/
def intentTurn (conversation prior : Conversation) : TurnResult :=
  let context := renderEmailActionContext env.maxInputChars (prior.map (·.message))
  let intent := env.decide context (strip env.content)
  let question := buildContextualQuestion (prior.map (·.message)) (strip env.content)
  if intent.emailIntent ∧ env.minConfidence ≤ intent.confidenceScore then
    let resolution := env.resolve (strip env.content) context
    if intent.requiresRagResult then
      match env.answer question with
      | none => (answerFailed env conversation).after resolution []
      | some answer =>
        let input := intentComposerInput env prior intent (renderRagAnswerForEmail answer) resolution
        (composedTurn env conversation prior question (env.compose input) (some answer)).after resolution [input]
    else
      let input := intentComposerInput env prior intent
        (renderRecentAssistantContext env.maxInputChars (prior.map (·.message))) resolution
      (composedTurn env conversation prior question (env.compose input) none).after resolution [input]
  else answerTurn env conversation question

/-- `merge_resolved_recipients`. -/
def mergeResolvedRecipients (resolved : List ResolvedRecipient) (source : EmailSourceContext) : List ResolvedRecipient :=
  if resolved ≠ [] then resolved
  else if source.reason = text "pending_draft_recipient_update" ∨ source.reason = text "draft_recipient_update" then []
  else match source.pendingDraft with
    | none => []
    | some draft => draft.recipients.map fun r => ⟨r,r,[],[],text "pending_email_draft",100⟩

/-- From the referenced answers and drafts on. -/
def sourceTurn (conversation prior : Conversation) : TurnResult :=
  match buildEmailSourceContext lower (prior.map (·.message)) (strip env.content) with
  | none => intentTurn env conversation prior
  | some source =>
    let resolution := env.resolve (strip env.content)
      (renderEmailActionContext env.maxInputChars (prior.map (·.message)))
    let recipients := mergeResolvedRecipients resolution.resolvedRecipients source
    if recipients = [] then (recipientClarification env conversation (some resolution)).after resolution []
    else
      ((appendSourceEmailDraftMessage lower env conversation prior source recipients
        (originsOf (sourceMessages prior))).getD
        (intentTurn env conversation prior)).after resolution [sourceComposerInput env prior source recipients]

/-- From a request to answer a question and mail the answer on. -/
def generatedTurn (conversation prior : Conversation) : TurnResult :=
  match buildGeneratedEmailSourceRequest lower (strip env.content) with
  | none => sourceTurn lower env conversation prior
  | some question =>
    let resolution := env.resolve (strip env.content)
      (renderEmailActionContext env.maxInputChars (prior.map (·.message)))
    if resolution.status ≠ .resolved then
      (recipientClarification env conversation (some resolution)).after resolution []
    else match env.answer question with
      | none => (answerFailed env conversation).after resolution []
      | some answer =>
        let source : EmailSourceContext :=
          ⟨.generatedRagAnswer,answer.answer,none,none,text "generate_source_before_email"⟩
        ((appendSourceEmailDraftMessage lower env conversation prior source resolution.resolvedRecipients
          answer.servingDependencies).getD (sourceTurn lower env conversation prior)).after resolution
          [sourceComposerInput env prior source resolution.resolvedRecipients]

/-- The conversation with the user's message. -/
def asked (conversation : Conversation) : Conversation :=
  conversation++[⟨userMessage (conversation.length+1) (strip env.content),[]⟩]

/-- The eligible messages before the user's. -/
def priorMessages (conversation : Conversation) : Conversation :=
  ((asked env conversation).filter fun m => projectionIsLive authority env.evidence m.message).dropLast

/-- `create_assistant_message`. -/
def turn (conversation : Conversation) : TurnResult :=
  if strip env.content = [] then ⟨conversation,[],[],.rejected⟩
  else
    let prior := priorMessages authority env conversation
    let conversation := asked env conversation
    let messages := prior.map (·.message)
    if isPendingDraftRecipientProblem lower messages (strip env.content) then
      recipientClarification env conversation none
    else match detectContactLookupRequest lower (strip env.content) (emailActionRows env.maxInputChars messages) with
      | some lookup =>
        let resolution := env.resolve lookup.lookupQuery (renderEmailActionContext env.maxInputChars messages)
        (stored conversation (appendAssistantMessage env conversation (contactLookupResponseContent resolution) none
          (plainMetadata (some (text "contact_lookup")) (some resolution.status.name) (some (text "recipient_resolver"))
            none) [] [])).after resolution []
      | none => generatedTurn lower env conversation prior

end turns

end ParaWorks.Email
