import ParaWorks.Lib.Text

/-!
# Assistant deliveries

The results that an assistant invocation may report.
-/

namespace ParaWorks.Assistant

open Lib

/-- `AssistantApplicationOutcome`. -/
inductive ApplicationOutcome
  | supported
  | noMatch
  | hiddenOnly
  | safetyFilterEmpty
  | insufficientEvidence
  | evidenceUnavailable
  | retrieverNotConfigured
  | retrieverUnavailable
  | runtimeVersionUnavailable
  | modelUnavailable
  | providerSafetyUnavailable
  | providerResponseIdentityInvalid
  | providerUsageOverrun
  | providerEmbeddingPayloadInvalid
  | modelProviderFailed
  | structuredOutputInvalid
  | citationValidationFailed
  | unexpectedInternalError
  | budgetExceeded
  | persistenceFailed
  | commitUnknown
  | permissionDenied
  | ownerNotFound
  | invalidInput
  | inputSafetyBlocked
  | inputScannerUnavailable
  deriving DecidableEq

namespace ApplicationOutcome

/-- `_SUCCESS_OUTCOMES`. -/
def success : List ApplicationOutcome :=
  [supported,noMatch,hiddenOnly,safetyFilterEmpty,insufficientEvidence,evidenceUnavailable]

/-- `_SAFE_GENERATION_FAILURE_OUTCOMES`. -/
def safeGenerationFailure : List ApplicationOutcome :=
  [retrieverNotConfigured,retrieverUnavailable,runtimeVersionUnavailable,modelUnavailable,providerSafetyUnavailable,
    providerResponseIdentityInvalid,providerUsageOverrun,providerEmbeddingPayloadInvalid,modelProviderFailed,
    structuredOutputInvalid,citationValidationFailed,unexpectedInternalError]

/-- The outcomes of a terminal failure message. -/
def terminalFailure : List ApplicationOutcome := budgetExceeded::safeGenerationFailure

end ApplicationOutcome

inductive BodyKind
  | assistantMessage
  | budgetError
  | generationError
  | permissionError
  | ownerNotFound
  | validationError
  | persistenceError
  | reconciliationRequired
  deriving DecidableEq

inductive DeliveryState
  | committedSuccess
  | committedSafeFailure
  | committedRunFailure
  | notPersisted
  | commitUnknown
  deriving DecidableEq

/-- The fields of an `AssistantDeliveryResult` before its validation. -/
structure DeliveryFields where
  applicationOutcome : ApplicationOutcome
  assistantMessageId : Option Int
  bodyKind : BodyKind
  deliveryState : DeliveryState
  parentAgentRunId : Option Int
  publicStatus : Nat
  deriving DecidableEq

namespace DeliveryFields

open ApplicationOutcome

/-- `_is_legal`. -/
def isLegal (r : DeliveryFields) : Bool :=
  match r.deliveryState with
  | .committedSuccess => r.applicationOutcome ∈ success ∧ r.publicStatus = 200 ∧ r.bodyKind = .assistantMessage ∧
      r.assistantMessageId.isSome ∧ r.parentAgentRunId.isSome
  | .committedSafeFailure => r.assistantMessageId.isSome ∧ r.parentAgentRunId.isSome ∧
      (r.applicationOutcome = budgetExceeded ∧ r.publicStatus = 409 ∧ r.bodyKind = .budgetError ∨
        r.applicationOutcome ∈ safeGenerationFailure ∧ r.publicStatus = 502 ∧ r.bodyKind = .generationError)
  | .committedRunFailure => r.applicationOutcome = persistenceFailed ∧ r.publicStatus = 500 ∧
      r.bodyKind = .persistenceError ∧ r.assistantMessageId = none ∧ r.parentAgentRunId.isSome
  | .notPersisted => r.assistantMessageId = none ∧ r.parentAgentRunId = none ∧
      (r.applicationOutcome = permissionDenied ∧ r.publicStatus = 403 ∧ r.bodyKind = .permissionError ∨
        r.applicationOutcome = ownerNotFound ∧ r.publicStatus = 404 ∧ r.bodyKind = .ownerNotFound ∨
        r.applicationOutcome ∈ [invalidInput,inputSafetyBlocked] ∧ r.publicStatus = 422 ∧
          r.bodyKind = .validationError ∨
        r.applicationOutcome = runtimeVersionUnavailable ∧ r.publicStatus = 502 ∧ r.bodyKind = .generationError ∨
        r.applicationOutcome ∈ [inputScannerUnavailable,persistenceFailed] ∧ r.publicStatus = 500 ∧
          r.bodyKind = .persistenceError)
  | .commitUnknown => r.applicationOutcome = commitUnknown ∧ r.publicStatus = 500 ∧
      r.bodyKind = .reconciliationRequired ∧ r.assistantMessageId = none ∧ r.parentAgentRunId = none

def positiveId (id : Option Int) : Bool := id.all (0 < ·)

/-- `__post_init__` raises on other fields. -/
def valid (r : DeliveryFields) : Bool :=
  positiveId r.assistantMessageId && positiveId r.parentAgentRunId && r.isLegal

end DeliveryFields

/-- `AssistantDeliveryResult`. -/
structure AssistantDeliveryResult extends DeliveryFields where
  isValid : toDeliveryFields.valid = true

namespace AssistantDeliveryResult

/-- The constructor; none where it raises. -/
def new (r : DeliveryFields) : Option AssistantDeliveryResult :=
  if h : r.valid = true then some ⟨r,h⟩ else none

theorem new_fields {r : DeliveryFields} {result : AssistantDeliveryResult} (h : new r = some result) :
    result.toDeliveryFields = r := by
  unfold new at h
  split at h
  · rw [← Option.some.inj h]
  · exact absurd h (by simp)

theorem new_some {r : DeliveryFields} (h : r.valid = true) : ∃ result, new r = some result := by
  rw [new,dif_pos h]
  exact ⟨_,rfl⟩

end AssistantDeliveryResult

/-- What a finalizer appends: a message and its parent run. -/
structure AssistantFinalizationRecord where
  assistantMessageId : Int
  parentAgentRunId : Int
  applicationOutcome : ApplicationOutcome
  deriving DecidableEq

/-- `_assistant_unknown`. -/
def assistantUnknown : Option AssistantDeliveryResult :=
  AssistantDeliveryResult.new ⟨.commitUnknown,none,.reconciliationRequired,.commitUnknown,none,500⟩

/-- `_assistant_committed`; none where it raises. -/
def assistantCommitted (record : AssistantFinalizationRecord) : Option AssistantDeliveryResult :=
  let success := record.applicationOutcome ∈ ApplicationOutcome.success
  let budget := record.applicationOutcome = .budgetExceeded
  AssistantDeliveryResult.new ⟨record.applicationOutcome,some record.assistantMessageId,
    if success then .assistantMessage else if budget then .budgetError else .generationError,
    if success then .committedSuccess else .committedSafeFailure,
    some record.parentAgentRunId,if success then 200 else if budget then 409 else 502⟩

/-- The answer where nothing was committed. -/
def notPersisted : Option AssistantDeliveryResult :=
  AssistantDeliveryResult.new ⟨.persistenceFailed,none,.persistenceError,.notPersisted,none,500⟩

/-- The answer for a failed parent without a message. -/
def committedRunFailure (parentId : Int) : Option AssistantDeliveryResult :=
  AssistantDeliveryResult.new ⟨.persistenceFailed,none,.persistenceError,.committedRunFailure,some parentId,500⟩

theorem assistantUnknown_some : ∃ r, assistantUnknown = some r ∧ r.deliveryState = .commitUnknown :=
  ⟨_,rfl,rfl⟩

theorem notPersisted_some : ∃ r, notPersisted = some r ∧ r.deliveryState = .notPersisted :=
  ⟨_,rfl,rfl⟩

theorem committedRunFailure_some {parentId : Int} (h : 0 < parentId) :
    ∃ r, committedRunFailure parentId = some r ∧ r.deliveryState = .committedRunFailure ∧
      r.parentAgentRunId = some parentId := by
  obtain ⟨r,hr⟩ := AssistantDeliveryResult.new_some
    (r := ⟨.persistenceFailed,none,.persistenceError,.committedRunFailure,some parentId,500⟩)
    (by simp [DeliveryFields.valid,DeliveryFields.positiveId,DeliveryFields.isLegal,h])
  have := AssistantDeliveryResult.new_fields hr
  exact ⟨r,hr,by rw [this],by rw [this]⟩

/-- A committed record is reported under its own ids. -/
theorem assistantCommitted_fields {record : AssistantFinalizationRecord} {r : AssistantDeliveryResult}
    (h : assistantCommitted record = some r) :
    (r.deliveryState = .committedSuccess ∨ r.deliveryState = .committedSafeFailure) ∧
    r.assistantMessageId = some record.assistantMessageId ∧ r.parentAgentRunId = some record.parentAgentRunId := by
  have := AssistantDeliveryResult.new_fields h
  rw [this]
  refine ⟨?_,rfl,rfl⟩
  by_cases hsuccess : record.applicationOutcome ∈ ApplicationOutcome.success
  · simp [hsuccess]
  · simp [hsuccess]

end ParaWorks.Assistant
