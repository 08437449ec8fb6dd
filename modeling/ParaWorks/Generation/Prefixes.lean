import ParaWorks.Generation.Preparation

/-!
# The longest prefix that fits

What one round of the loop makes, and the prefix at which the loop stops.
-/

namespace ParaWorks.Generation

open Lib Retrieval Fingerprints Sources

/-! ## Renumbering -/

section round

variable {m : StructuredRagAnswerModel} {question answerQuestionHmac retrievalQueryHmac : Text}

/-- A prepared input as a round of the loop makes it from its slots. -/
structure Prepared (m : StructuredRagAnswerModel) (question answerQuestionHmac retrievalQueryHmac : Text)
    (working : List EvidenceSlot) (v : PreparedAnswerInput) : Prop where
  slots : v.evidenceSlots = renumberSlots working
  rendered : renderAnswerMessages m.format question v.evidenceSlots = some v.messages
  safe : messagesAreSafe m v.messages = true
  budget : prepareBudget m v.messages = .ok v.budget
  signed : renderedInputHmac m v.messages = some v.renderedInputHmac
  sealed : preparedInputHmac m v = some v.preparedInputHmac
  answerQuestion : v.answerQuestionHmac = answerQuestionHmac
  retrievalQuery : v.retrievalQueryHmac = retrievalQueryHmac
  estimator : v.generationEstimatorInputHmac = v.budget.estimatorInputHmac
  encoded : v.encodedInputTokens = v.budget.estimatedInputTokens-answerFrameTokenOverhead
  framed : v.framedInputTokens = v.budget.estimatedInputTokens
  reserved : v.reservedCostUsd = v.budget.reservedCostUsd
  config : v.modelConfigSnapshotHmac = m.modelConfigSnapshotHmac
  policy : v.providerPolicySnapshotHmac = m.policyHmac

end round

end ParaWorks.Generation
