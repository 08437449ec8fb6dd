import ParaWorks.Generation.AnswerSchema
import ParaWorks.Generation.Prompt
import ParaWorks.Sources.Authority

/-!
# Preparing an answer call

The slots that are safe and fit the budget are rendered, priced and signed. The validator computes all of it again from
what it is handed.
-/

namespace ParaWorks.Generation

open Lib Retrieval Fingerprints Sources

/-! ## Amounts -/

/-- A `Decimal`, `special` where it is not finite. -/
inductive Decimal where
  | finite (negative : Bool) (coefficient : Nat) (exponent : Int)
  | special
  deriving DecidableEq

namespace Decimal

def value : Decimal → Option ℚ
  | .finite negative coefficient exponent => some ((if negative then -1 else 1)*coefficient*10^exponent)
  | .special => none

/-- Finite and not below zero. -/
def isAmount (d : Decimal) : Bool := d.value.any (0 ≤ ·)

/-- `==` with a finite number on the right. -/
def eq (d e : Decimal) : Bool := d.value.isSome && d.value = e.value

/-- `format(d, 'f')` of a finite number. -/
def format : Decimal → Text
  | .finite negative coefficient exponent =>
    let digits := Json.digits coefficient
    let sign := if negative then [ofChar '-'] else []
    if 0 ≤ exponent then sign++digits++(if coefficient = 0 then [] else List.replicate exponent.toNat (ofChar '0'))
    else
      let places := (-exponent).toNat
      let padded := List.replicate (places+1-digits.length) (ofChar '0')++digits
      sign++padded.take (padded.length-places)++ofChar '.'::padded.drop (padded.length-places)
  | .special => text "NaN"

end Decimal

/-! ## The policy -/

structure PreparedPaidCallBudget where
  component : Text
  estimatedInputTokens : Int
  maximumOutputTokens : Int
  reservedCostUsd : Decimal
  costPolicySnapshotHmac : Text
  estimatorInputHmac : Text
  deriving DecidableEq

structure AnswerGenerationCostInput where
  exactMessagesJson : ByteArray
  exactResponseSchemaJson : ByteArray
  modelConfigSnapshotHmac : Text

inductive PrepareError where
  | budgetExceeded
  | modelUnavailable
  deriving DecidableEq

/-- What signing takes from the platform and the settings. -/
structure Signing where
  nfc : Text → Text
  hexdigest : ByteArray → ByteArray → Text
  limits : Limits
  secret : ByteArray

/-- The schema and the policy version of each kind of artifact. -/
def artifactDomain (kind : Text) : Option (Text × Text) :=
  if kind = text "rendered_input" then some (text "rag-rendered-model-input-bytes:v1",text "rag-answer:v2")
  else if kind = text "prepared_input" then some (text "rag-prepared-answer-input:v1",text "rag-answer:v2")
  else if kind = text "prepared_invocation" then some (text "rag-prepared-answer-invocation:v1",text "rag-answer:v2")
  else if kind = text "block_text" then some (text "rag-answer-block-text-bytes:v1",text "rag-answer:v2")
  else if kind = text "block_result" then some (text "rag-answer-block-result:v1",text "rag-answer-block-confidence:v1")
  else if kind = text "audit_set" then some (text "rag-answer-block-audit-set:v1",text "rag-answer-block-confidence:v1")
  else if kind = text "assembled" then some (text "rag-assembled-answer-bytes:v1",text "rag-answer-block-joiner:v1")
  else none

/-- The bytes that `sign_answer_artifact` signs, none where it raises. -/
def Signing.artifactBytes (signing : Signing) (kind : Text) (payload : Json) : Option ByteArray := do
  let (schemaVersion,policyVersion) ← artifactDomain kind
  (keyedPayload signing.nfc signing.limits schemaVersion policyVersion payload).toOption

/-- `sign_answer_artifact`, none where it raises. -/
def Signing.signAnswerArtifact (signing : Signing) (kind : Text) (payload : Json) : Option Text := do
  let (schemaVersion,policyVersion) ← artifactDomain kind
  (keyedFingerprint signing.nfc signing.hexdigest signing.limits signing.secret schemaVersion policyVersion
    payload).toOption

/-- The model with its policy, as the constructor lets it through. `scan` is whether the scanner allows a text. -/
structure StructuredRagAnswerModel where
  format : Text → Text → List ChatMessage
  scan : Text → Bool
  signing : Signing
  prepareAnswerGeneration : AnswerGenerationCostInput → Except PrepareError PreparedPaidCallBudget
  modelConfigSnapshotHmac : Text
  policyHmac : Text
  authorizedPolicySnapshotHmac : Option Text
  configIsHex : LowerHex64 modelConfigSnapshotHmac
  policyIsHex : LowerHex64 policyHmac
  authorized : authorizedPolicySnapshotHmac = some policyHmac

/-! ## Budgets -/

def answerFrameTokenOverhead : Int := 528

/-- `_validate_budget`. -/
def budgetIsValid (policyHmac : Text) (b : PreparedPaidCallBudget) : Bool :=
  b.component = text "answer_generation" && answerFrameTokenOverhead ≤ b.estimatedInputTokens &&
    b.maximumOutputTokens = 512 && b.reservedCostUsd.isAmount && b.costPolicySnapshotHmac = policyHmac &&
    LowerHex64 b.estimatorInputHmac

/-- `_same_budget`. -/
def sameBudget (left right : PreparedPaidCallBudget) : Bool :=
  left.component = right.component && left.estimatedInputTokens = right.estimatedInputTokens &&
    left.maximumOutputTokens = right.maximumOutputTokens && left.reservedCostUsd.eq right.reservedCostUsd &&
    left.costPolicySnapshotHmac = right.costPolicySnapshotHmac && left.estimatorInputHmac = right.estimatorInputHmac

/-- `ANSWER_OUTPUT_SCHEMA_PROVIDER_FORMAT`. -/
def answerOutputSchema : Json :=
  let string := Json.dict [(text "type",.str (text "string"))]
  let ids := Json.dict [(text "type",.str (text "array")),(text "minItems",.int 1),(text "maxItems",.int 8),
    (text "items",.dict [(text "type",.str (text "string")),(text "enum",.list ((slotNames 8).map .str))])]
  let mode := Json.dict [(text "type",.str (text "string")),
    (text "enum",.list [.str (text "trusted_fact"),.str (text "source_observation")])]
  let block := Json.dict [(text "type",.str (text "object")),
    (text "properties",.dict [(text "text",string),(text "evidence_slot_ids",ids),(text "support_mode",mode)]),
    (text "required",.list (blockKeys.map .str)),(text "additionalProperties",.bool false)]
  let blocks := Json.dict [(text "type",.str (text "array")),(text "minItems",.int 0),(text "maxItems",.int 8),
    (text "items",block)]
  let reason := Json.dict [(text "type",.list [.str (text "string"),.str (text "null")])]
  .dict [(text "name",.str (text "rag_answer_blocks_v1")),(text "strict",.bool true),
    (text "schema",.dict [(text "type",.str (text "object")),
      (text "properties",.dict [(text "answer_blocks",blocks),(text "insufficient_evidence_reason",reason)]),
      (text "required",.list (payloadKeys.map .str)),(text "additionalProperties",.bool false)])]

/-- The messages with their place, counted from one. -/
def numbered (messages : List Message) : List (Nat × Message) := messages.zipIdx.map fun (message,i) => (i+1,message)

def messagesJson (messages : List Message) : Json :=
  .list ((numbered messages).map fun (ordinal,role,content) =>
    .dict [(text "content",.str content),(text "ordinal",.int ordinal),(text "role",.str role)])

section prepare

variable (m : StructuredRagAnswerModel)

/-- `_prepare_budget`. -/
def prepareBudget (messages : List Message) : Except PrepareError PreparedPaidCallBudget :=
  match utf8 (compactJson (messagesJson messages)),utf8 (compactJson answerOutputSchema) with
  | some messages,some schema => do
    let budget ← m.prepareAnswerGeneration ⟨messages,schema,m.modelConfigSnapshotHmac⟩
    if budgetIsValid m.policyHmac budget then return budget else throw .modelUnavailable
  | _,_ => throw .modelUnavailable

/-- What is signed of the messages, none where one of them is not plain text. -/
def renderedInput (messages : List Message) : Option Json := do
  let messages ← (numbered messages).mapM fun (ordinal,role,content) => do
    let bytes ← exactUtf8Bytes content
    return .dict [(text "content_bytes",bytes),(text "ordinal",.int (ordinal : Nat)),(text "role",.str role)]
  return .dict [(text "messages",.list messages),
    (text "model_config_identity",.str (text "rag-answer-model-config:v1")),
    (text "output_schema_identity",.str (text "rag-answer-blocks:v1"))]

/-- `_rendered_input_hmac`. -/
def renderedInputHmac (messages : List Message) : Option Text :=
  (renderedInput messages).bind (m.signing.signAnswerArtifact (text "rendered_input"))

/-! ## Prepared inputs -/

structure PreparedAnswerInput where
  messages : List Message
  evidenceSlots : List EvidenceSlot
  answerQuestionHmac : Text
  retrievalQueryHmac : Text
  renderedInputHmac : Text
  generationEstimatorInputHmac : Text
  encodedInputTokens : Int
  framedInputTokens : Int
  reservedCostUsd : Decimal
  modelConfigSnapshotHmac : Text
  providerPolicySnapshotHmac : Text
  preparedInputHmac : Text
  budget : PreparedPaidCallBudget
  deriving DecidableEq

def kindText : ServingKind → Text
  | .rawChunk => text "raw_chunk"
  | .trustedKnowledge => text "trusted_knowledge"

def slotAuthority (slot : EvidenceSlot) : Json :=
  .dict [
    (text "canonical_citation_projection_hmac",.str slot.evidence.canonicalCitationProjectionHmac),
    (text "effective_permission",.str slot.evidence.effectivePermission),
    (text "model_content_hmac",.str slot.evidence.modelContentHmac),
    (text "public_source_id",.str slot.evidence.publicSourceId),
    (text "public_source_type",(slot.evidence.publicSourceType.map Json.str).getD .null),
    (text "serving_document_id",.str slot.evidence.servingDocumentId),
    (text "serving_identity_hmac",.str slot.evidence.servingIdentityHmac),
    (text "serving_kind",.str (kindText slot.evidence.servingKind)),
    (text "serving_version_fingerprint",.str slot.evidence.servingVersionFingerprint),
    (text "slot_id",.str slot.slotId),
    (text "support_mode",.str (supportText slot.supportMode))]

/-- `_prepared_input_authority_payload`. -/
def authorityPayload (v : PreparedAnswerInput) : Json :=
  .dict [
    (text "answer_question_hmac",.str v.answerQuestionHmac),
    (text "encoded_input_tokens",.int v.encodedInputTokens),
    (text "evidence_slots",.list (v.evidenceSlots.map slotAuthority)),
    (text "framed_input_tokens",.int v.framedInputTokens),
    (text "generation_estimator_input_hmac",.str v.generationEstimatorInputHmac),
    (text "maximum_output_tokens",.int v.budget.maximumOutputTokens),
    (text "model_config_snapshot_hmac",.str v.modelConfigSnapshotHmac),
    (text "provider_policy_snapshot_hmac",.str v.providerPolicySnapshotHmac),
    (text "rendered_input_hmac",.str v.renderedInputHmac),
    (text "reserved_cost_usd",.str v.reservedCostUsd.format),
    (text "retrieval_query_hmac",.str v.retrievalQueryHmac)]

def preparedInputHmac (v : PreparedAnswerInput) : Option Text :=
  m.signing.signAnswerArtifact (text "prepared_input") (authorityPayload v)

/-- `_renumber_slots`. -/
def renumberSlots (slots : List EvidenceSlot) : List EvidenceSlot :=
  slots.zipIdx.map fun (slot,i) => { slot with slotId := slotName (i+1) }

/-- One slot of `_validate_slots`. -/
def slotIsValid (slot : EvidenceSlot) : Bool :=
  slot.evidence.supportMode = slot.supportMode &&
    [text "public",text "internal",text "restricted"].contains slot.evidence.effectivePermission &&
    slot.relevanceScore.isSome &&
    [slot.evidence.servingIdentityHmac,slot.evidence.servingVersionFingerprint,slot.evidence.modelContentHmac,
      slot.evidence.canonicalCitationProjectionHmac].all (LowerHex64 ·)

/-- `_validate_slots`. -/
def slotsAreValid (slots : List EvidenceSlot) : Bool :=
  1 ≤ slots.length && slots.length ≤ 8 && slots.map (·.slotId) = slotNames slots.length && slots.all slotIsValid

/-- `_scan_messages`. -/
def messagesAreSafe (messages : List Message) : Bool := messages.all fun message => m.scan message.2

/-- `_validate_prepared_input`, whether it returns. -/
def preparedInputIsValid (v : PreparedAnswerInput) : Bool :=
  messagesAreValid v.messages && slotsAreValid v.evidenceSlots &&
  [v.answerQuestionHmac,v.retrievalQueryHmac,v.renderedInputHmac,v.generationEstimatorInputHmac].all (LowerHex64 ·) &&
  0 ≤ v.encodedInputTokens && 0 ≤ v.framedInputTokens && v.reservedCostUsd.isAmount &&
  LowerHex64 v.modelConfigSnapshotHmac && v.modelConfigSnapshotHmac = m.modelConfigSnapshotHmac &&
  LowerHex64 v.providerPolicySnapshotHmac && v.providerPolicySnapshotHmac = m.policyHmac &&
  LowerHex64 v.preparedInputHmac && m.authorizedPolicySnapshotHmac = some m.policyHmac &&
  match questionFromMessages v.messages with
  | none => false
  | some question =>
    renderAnswerMessages m.format question v.evidenceSlots = some v.messages && m.scan question &&
    v.evidenceSlots.all (fun slot => m.scan slot.evidence.modelContent) && messagesAreSafe m v.messages &&
    renderedInputHmac m v.messages = some v.renderedInputHmac &&
    match prepareBudget m v.messages with
    | .error _ => false
    | .ok recomputed =>
      sameBudget v.budget recomputed && v.generationEstimatorInputHmac = recomputed.estimatorInputHmac &&
      v.encodedInputTokens = recomputed.estimatedInputTokens-answerFrameTokenOverhead &&
      v.framedInputTokens = recomputed.estimatedInputTokens && v.reservedCostUsd.eq recomputed.reservedCostUsd &&
      preparedInputHmac m v = some v.preparedInputHmac

end prepare

end ParaWorks.Generation
