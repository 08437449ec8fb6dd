import ParaWorks.Lib.Text

/-!
# Stored email drafts

The message row that holds a draft, the reading of its evidence, and the gate of `send_assistant_email_draft`.
-/

namespace ParaWorks.Email

open Lib

/-! ## Messages -/

structure EmailDraft where
  /-- `to` -/
  recipients : List Text
  subject : Text
  body : Text
  deriving DecidableEq

/-- The entries of `metadata_` that drafting and sending read or write. -/
structure MessageMetadata where
  actionType : Option Text
  status : Option Text
  agentName : Option Text
  promptVersion : Option Text
  effectiveBackend : Option Text
  evidenceDerived : Bool
  emailDraft : Option EmailDraft
  sentAt : Option Text
  gmailMessageId : Option Text
  deriving DecidableEq

/-- One row of `AssistantMessageEvidenceDependency`. -/
structure ServingDependency where
  servingDocumentId : Text
  servingContentHash : Text
  permissionLevel : Text
  deriving DecidableEq

structure Citation where
  sourceId : Text
  sourceUrl : Text
  sourceSnippet : Text
  deriving DecidableEq

inductive MessageRole where
  | user
  | assistant
  deriving DecidableEq

/-- The columns of a message but its metadata, with its dependencies. -/
structure MessageColumns where
  id : Nat
  role : MessageRole
  content : Text
  citations : List Citation
  sourceIds : List Text
  sourceLinks : List Text
  sourceSnippets : List Text
  contentWriteMode : Option Text
  evidenceContractVersion : Option Text
  servingDependencyCount : Nat
  dependencies : List ServingDependency
  deriving DecidableEq

structure AssistantMessage where
  columns : MessageColumns
  metadata : MessageMetadata
  deriving DecidableEq

def emailActionPromptVersion : Text := text "assistant-email-draft-composer:v1"

/-- `email_draft_metadata` with the composer's name. -/
def emailDraftMetadata (draft : EmailDraft) : MessageMetadata where
  actionType := some (text "email_draft")
  status := some (text "pending_approval")
  agentName := some (text "email_draft_composer")
  promptVersion := some emailActionPromptVersion
  effectiveBackend := none
  evidenceDerived := false
  emailDraft := some draft
  sentAt := none
  gmailMessageId := none

/-- `assistant_email_draft_content`. -/
def assistantEmailDraftContent (draft : EmailDraft) : Text :=
  text "메일 초안을 작성했습니다. 보내기 전에 내용을 확인해 주세요.\n\n수신자: "++
    (draft.recipients.intersperse (text ", ")).flatten++text "\n제목: "++draft.subject++text "\n\n"++draft.body++
    text "\n\n승인하면 연결된 Gmail 계정으로 전송합니다."

/-! ## Evidence -/

/-- What the signature of a message covers in its metadata: the origin and `action_payload`. -/
structure ProtectedMetadata where
  agentName : Option Text
  promptVersion : Option Text
  effectiveBackend : Option Text
  actionType : Option Text
  evidenceDerived : Bool
  emailDraft : Option EmailDraft
  deriving DecidableEq

def MessageMetadata.protectedFields (metadata : MessageMetadata) : ProtectedMetadata :=
  ⟨metadata.agentName,metadata.promptVersion,metadata.effectiveBackend,metadata.actionType,metadata.evidenceDerived,
    metadata.emailDraft⟩

/-- What the reader asks of the rest of the database, for one actor. -/
structure EvidenceAuthority (Evidence : Type) where
  /-- the document is served unchanged, with a permission that the actor holds -/
  dependencyIsLive : Evidence → ServingDependency → Bool
  /-- the keys and signatures over the columns and the protected entries hold -/
  authentic : Evidence → MessageColumns → ProtectedMetadata → Bool

section evidence

variable {Evidence : Type} (authority : EvidenceAuthority Evidence)

/-- The message carries the marks of evidence. -/
def AssistantMessage.evidenceShaped (message : AssistantMessage) : Bool :=
  message.columns.citations ≠ [] || message.columns.sourceIds ≠ [] || message.columns.sourceLinks ≠ [] ||
    message.columns.sourceSnippets ≠ [] || message.metadata.evidenceDerived

/-- A contract version of a message without evidence. -/
def noneContract (version : Option Text) : Bool := version = none || version = some (text "none-v1")

/-- `_message_evidence_is_live` and the check of a user row, for rows without a content write mode. -/
def unsignedIsLive (e : Evidence) (message : AssistantMessage) : Bool :=
  let columns := message.columns
  match columns.role with
  | .user =>
    !message.evidenceShaped && columns.servingDependencyCount = 0 && noneContract columns.evidenceContractVersion
  | .assistant =>
    if message.evidenceShaped = false ∧ columns.dependencies = [] then noneContract columns.evidenceContractVersion
    else columns.evidenceContractVersion = some (text "assistant-evidence:v1") &&
      columns.servingDependencyCount = columns.dependencies.length && columns.dependencies ≠ [] &&
      columns.dependencies.all (authority.dependencyIsLive e)

/-- `assistant_message_projection_is_live`. -/
def projectionIsLive (e : Evidence) (message : AssistantMessage) : Bool :=
  if message.columns.contentWriteMode.isSome then
    message.columns.role = .assistant &&
      authority.authentic e message.columns message.metadata.protectedFields &&
      message.columns.dependencies.all (authority.dependencyIsLive e)
  else unsignedIsLive authority e message

/-- The reader's verdict depends on the columns and the protected entries alone. -/
theorem projectionIsLive_congr (e : Evidence) {message message' : AssistantMessage}
    (hcolumns : message'.columns = message.columns)
    (hprotected : message'.metadata.protectedFields = message.metadata.protectedFields) :
    projectionIsLive authority e message' = projectionIsLive authority e message := by
  have hderived : message'.metadata.evidenceDerived = message.metadata.evidenceDerived :=
    congrArg ProtectedMetadata.evidenceDerived hprotected
  unfold projectionIsLive unsignedIsLive AssistantMessage.evidenceShaped
  rw [hcolumns,hprotected,hderived]

/-- `eligible_context_messages`. -/
def eligibleContextMessages (e : Evidence) (messages : List AssistantMessage) : List AssistantMessage :=
  messages.filter (projectionIsLive authority e)

/-! ## Sending -/

inductive SendRefusal where
  | evidenceUnavailable
  | notEmailDraft
  | notPending
  | gmail (error : Text)
  deriving DecidableEq

inductive SendGate where
  | refused (refusal : SendRefusal)
  | alreadySent
  | send (draft : EmailDraft)
  deriving DecidableEq

/-- The message is treated as backed by evidence. -/
def AssistantMessage.evidenceBacked (message : AssistantMessage) : Bool :=
  message.columns.contentWriteMode.isSome || message.columns.servingDependencyCount ≠ 0 ||
    message.columns.evidenceContractVersion = some (text "assistant-evidence:v1") || message.metadata.evidenceDerived

/-- `send_assistant_email_draft` before the call of Gmail. -/
def sendGate (e : Evidence) (message : AssistantMessage) : SendGate :=
  if message.evidenceBacked && !projectionIsLive authority e message then .refused .evidenceUnavailable
  else if message.metadata.actionType ≠ some (text "email_draft") then .refused .notEmailDraft
  else match message.metadata.emailDraft with
    | none => .refused .notEmailDraft
    | some draft =>
      if message.metadata.status = some (text "sent") then .alreadySent
      else if message.metadata.status ≠ some (text "pending_approval") then .refused .notPending
      else if message.metadata.evidenceDerived && !projectionIsLive authority e message then
        .refused .evidenceUnavailable
      else .send draft

/-- The metadata that a sent draft is stored with. -/
def MessageMetadata.sent (metadata : MessageMetadata) (sentAt gmailMessageId : Text) : MessageMetadata :=
  { metadata with status := some (text "sent"), sentAt := some sentAt, gmailMessageId := some gmailMessageId }

def AssistantMessage.sent (message : AssistantMessage) (sentAt gmailMessageId : Text) : AssistantMessage :=
  { message with metadata := message.metadata.sent sentAt gmailMessageId }

/-- Sending writes nothing that the signature covers. -/
theorem AssistantMessage.sent_protected (message : AssistantMessage) (sentAt gmailMessageId : Text) :
    (message.sent sentAt gmailMessageId).columns = message.columns ∧
      (message.sent sentAt gmailMessageId).metadata.protectedFields = message.metadata.protectedFields := ⟨rfl,rfl⟩

variable {authority} {e : Evidence} {message : AssistantMessage}

/-- Only a pending draft with live evidence passes the gate. -/
theorem sendGate_send {draft : EmailDraft} (h : sendGate authority e message = .send draft) :
    message.metadata.status = some (text "pending_approval") ∧ message.metadata.emailDraft = some draft ∧
      (message.evidenceBacked = true → projectionIsLive authority e message = true) := by
  unfold sendGate at h
  split at h
  · cases h
  next hlive =>
  split at h
  · cases h
  split at h
  · cases h
  next stored hdraft =>
  split at h
  · cases h
  split at h
  · cases h
  next hpending =>
  split at h
  · cases h
  · cases h
    exact ⟨not_not.mp hpending,hdraft,by simpa using hlive⟩

theorem sendGate_alreadySent (h : sendGate authority e message = .alreadySent) :
    message.metadata.status = some (text "sent") := by
  unfold sendGate at h
  split at h
  · cases h
  split at h
  · cases h
  split at h
  · cases h
  split at h
  · next hsent => exact hsent
  split at h
  · cases h
  split at h <;> cases h

end evidence

end ParaWorks.Email
