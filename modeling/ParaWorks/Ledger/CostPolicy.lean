import ParaWorks.Ledger.Contracts

/-!
# The cost policy

Prices are micro-dollars per million tokens. Tokenizers and the JSON canonicalisation of answer
prompts are parameters; every bound the policy enforces is on the token counts they return.
-/

namespace ParaWorks.Ledger

def ragComponentCeilingUsd : Usd := 12000
def queryEmbeddingInputUsdPer1M : Nat := 20000
def answerInputUsdPer1M : Nat := 750000
def answerOutputUsdPer1M : Nat := 4500000
def maxQueryEmbeddingTokens : Nat := 8000
def maxAnswerSerializedChars : Nat := 12000
def maxAnswerInputTokens : Nat := 10000
def maxAnswerOutputTokens : Nat := 512
def answerReplyPrimingTokens : Nat := 16
def answerFramingSafetyTokens : Nat := 512

structure PreparedPaidCallBudget where
  component : RagPaidComponent
  estimatedInputTokens : Nat
  maximumOutputTokens : Nat
  reservedCostUsd : Usd
  costPolicySnapshotHmac : Hmac
  estimatorInputHmac : Hmac
deriving DecidableEq

/-- A ceiling for an answer whose prompt is not rendered yet; never a dispatch budget. -/
structure RagAnswerCeilingReservation where
  component : RagPaidComponent
  estimatedInputTokens : Nat
  maximumOutputTokens : Nat
  reservedCostUsd : Usd
  costPolicySnapshotHmac : Hmac
deriving DecidableEq

structure RagUnusedComponentReservation where
  component : RagPaidComponent
  costPolicySnapshotHmac : Hmac
  estimatedInputTokens : Nat
  maximumOutputTokens : Nat
  reservedCostUsd : Usd
deriving DecidableEq

inductive RagAdmissionBudget where
  | prepared (budget : PreparedPaidCallBudget)
  | ceiling (reservation : RagAnswerCeilingReservation)
  | unused (reservation : RagUnusedComponentReservation)
deriving DecidableEq

namespace RagAdmissionBudget

def component : RagAdmissionBudget → RagPaidComponent
  | prepared b => b.component
  | ceiling r => r.component
  | unused r => r.component

def estimatedInputTokens : RagAdmissionBudget → Nat
  | prepared b => b.estimatedInputTokens
  | ceiling r => r.estimatedInputTokens
  | unused r => r.estimatedInputTokens

def maximumOutputTokens : RagAdmissionBudget → Nat
  | prepared b => b.maximumOutputTokens
  | ceiling r => r.maximumOutputTokens
  | unused r => r.maximumOutputTokens

def reservedCostUsd : RagAdmissionBudget → Usd
  | prepared b => b.reservedCostUsd
  | ceiling r => r.reservedCostUsd
  | unused r => r.reservedCostUsd

def costPolicySnapshotHmac : RagAdmissionBudget → Hmac
  | prepared b => b.costPolicySnapshotHmac
  | ceiling r => r.costPolicySnapshotHmac
  | unused r => r.costPolicySnapshotHmac

def prepared? : RagAdmissionBudget → Option PreparedPaidCallBudget
  | prepared b => some b
  | _ => none

def ceiling? : RagAdmissionBudget → Option RagAnswerCeilingReservation
  | ceiling r => some r
  | _ => none

end RagAdmissionBudget

/-- Provider usage with exact totals in a signed 64-bit column. -/
structure StrictProviderUsage where
  inputTokens : Nat
  outputTokens : Nat
  totalTokens : Nat
  total : totalTokens = inputTokens + outputTokens
  bounded : totalTokens < 2^63
deriving DecidableEq

structure QueryEmbeddingCostInput where
  retrievalQueryUtf8 : ByteArray
  modelConfigSnapshotHmac : Hmac

structure AnswerGenerationCostInput where
  exactMessagesJson : ByteArray
  exactResponseSchemaJson : ByteArray
  modelConfigSnapshotHmac : Hmac

/-- One `RagCostPolicy` object: its snapshot digests, its signers and its tokenizers. -/
structure RagCostPolicy where
  policyHmac : RagPaidComponent → Hmac
  configHmac : RagPaidComponent → Hmac
  estimatorSigner : RagPaidComponent → String → Hmac
  countPrivateTokens : RagPaidComponent → String → Option Nat
  /-- canonical JSON of decoded messages and a verified schema, where both are accepted -/
  estimatorText : ByteArray → ByteArray → Option String

/-- The error code of a component's unavailable policy. -/
def unavailableCode : RagPaidComponent → String
  | .queryEmbedding => "retriever_not_configured"
  | .answerGeneration => "model_unavailable"

/-- `_rounded_cost`: the price of the tokens, rounded up to a micro-dollar. -/
def roundedCost (inputTokens outputTokens inputPrice outputPrice : Nat) : Usd :=
  (inputTokens*inputPrice+outputTokens*outputPrice+999999)/1000000

def inputPrice : RagPaidComponent → Nat
  | .queryEmbedding => queryEmbeddingInputUsdPer1M
  | .answerGeneration => answerInputUsdPer1M

def outputPrice : RagPaidComponent → Nat
  | .queryEmbedding => 0
  | .answerGeneration => answerOutputUsdPer1M

namespace RagCostPolicy

def prepareQueryEmbedding (policy : RagCostPolicy) (value : QueryEmbeddingCostInput) :
    Except LedgerError PreparedPaidCallBudget :=
  if value.modelConfigSnapshotHmac ≠ policy.configHmac .queryEmbedding then
    .error (.policyUnavailable "retriever_not_configured")
  else match String.fromUTF8? value.retrievalQueryUtf8 with
  | none => .error (.value "query embedding input must be strict UTF-8")
  | some text =>
  match policy.countPrivateTokens .queryEmbedding text with
  | none => .error (.policyUnavailable "retriever_not_configured")
  | some encodedTokens =>
  if encodedTokens > maxQueryEmbeddingTokens then .error .budgetExceeded else
  let reserved := roundedCost encodedTokens 0 queryEmbeddingInputUsdPer1M 0
  if reserved > ragComponentCeilingUsd then .error .budgetExceeded else
  .ok {
    component := .queryEmbedding
    estimatedInputTokens := encodedTokens
    maximumOutputTokens := 0
    reservedCostUsd := reserved
    costPolicySnapshotHmac := policy.policyHmac .queryEmbedding
    estimatorInputHmac := policy.estimatorSigner .queryEmbedding text }

def prepareAnswerGeneration (policy : RagCostPolicy) (value : AnswerGenerationCostInput) :
    Except LedgerError PreparedPaidCallBudget :=
  if value.modelConfigSnapshotHmac ≠ policy.configHmac .answerGeneration then
    .error (.policyUnavailable "model_unavailable")
  else match policy.estimatorText value.exactMessagesJson value.exactResponseSchemaJson with
  | none => .error (.policyUnavailable "model_unavailable")
  | some estimatorText =>
  if estimatorText.length > maxAnswerSerializedChars then .error .budgetExceeded else
  match policy.countPrivateTokens .answerGeneration estimatorText with
  | none => .error (.policyUnavailable "model_unavailable")
  | some encodedTokens =>
  let framedTokens := encodedTokens+answerReplyPrimingTokens+answerFramingSafetyTokens
  if framedTokens > maxAnswerInputTokens then .error .budgetExceeded else
  let reserved := roundedCost framedTokens maxAnswerOutputTokens answerInputUsdPer1M answerOutputUsdPer1M
  if reserved > ragComponentCeilingUsd then .error .budgetExceeded else
  .ok {
    component := .answerGeneration
    estimatedInputTokens := framedTokens
    maximumOutputTokens := maxAnswerOutputTokens
    reservedCostUsd := reserved
    costPolicySnapshotHmac := policy.policyHmac .answerGeneration
    estimatorInputHmac := policy.estimatorSigner .answerGeneration estimatorText }

/-- `charge_actual`: an embedding call may not report output tokens. -/
def chargeActual (component : RagPaidComponent) (usage : StrictProviderUsage) :
    Except LedgerError Usd :=
  match component with
  | .queryEmbedding =>
    if usage.outputTokens ≠ 0 then .error (.value "query embedding output usage must be zero")
    else .ok (roundedCost usage.inputTokens 0 queryEmbeddingInputUsdPer1M 0)
  | .answerGeneration =>
    .ok (roundedCost usage.inputTokens usage.outputTokens answerInputUsdPer1M answerOutputUsdPer1M)

def usageExceedsAuthorizedCap (component : RagPaidComponent) (usage : StrictProviderUsage) : Bool :=
  match component with
  | .queryEmbedding => usage.inputTokens > maxQueryEmbeddingTokens || usage.outputTokens ≠ 0
  | .answerGeneration =>
    usage.inputTokens > maxAnswerInputTokens || usage.outputTokens > maxAnswerOutputTokens

def reserveUnusedComponent (policy : RagCostPolicy) (component : RagPaidComponent) :
    RagUnusedComponentReservation where
  component := component
  costPolicySnapshotHmac := policy.policyHmac component
  estimatedInputTokens := 0
  maximumOutputTokens := 0
  reservedCostUsd := 0

def reserveAnswerGeneration (policy : RagCostPolicy) : RagAnswerCeilingReservation where
  component := .answerGeneration
  estimatedInputTokens := maxAnswerInputTokens
  maximumOutputTokens := maxAnswerOutputTokens
  reservedCostUsd :=
    roundedCost maxAnswerInputTokens maxAnswerOutputTokens answerInputUsdPer1M answerOutputUsdPer1M
  costPolicySnapshotHmac := policy.policyHmac .answerGeneration

/-- `validate_prepared_budget`. -/
def validPreparedBudget (policy : RagCostPolicy) (prepared : PreparedPaidCallBudget) : Bool :=
  prepared.costPolicySnapshotHmac = policy.policyHmac prepared.component &&
  (match prepared.component with
    | .queryEmbedding =>
      prepared.maximumOutputTokens = 0 && prepared.estimatedInputTokens ≤ maxQueryEmbeddingTokens
    | .answerGeneration =>
      prepared.estimatedInputTokens ≤ maxAnswerInputTokens &&
      prepared.maximumOutputTokens ≤ maxAnswerOutputTokens) &&
  prepared.reservedCostUsd = roundedCost prepared.estimatedInputTokens prepared.maximumOutputTokens
    (inputPrice prepared.component) (outputPrice prepared.component) &&
  prepared.reservedCostUsd ≤ ragComponentCeilingUsd

/-- Budgets that the policy itself issued. -/
inductive Produced (policy : RagCostPolicy) : RagAdmissionBudget → Prop where
  | queryEmbedding {value : QueryEmbeddingCostInput} {b : PreparedPaidCallBudget} :
      policy.prepareQueryEmbedding value = .ok b → Produced policy (.prepared b)
  | answerGeneration {value : AnswerGenerationCostInput} {b : PreparedPaidCallBudget} :
      policy.prepareAnswerGeneration value = .ok b → Produced policy (.prepared b)
  | ceiling : Produced policy (.ceiling policy.reserveAnswerGeneration)
  | unused (component : RagPaidComponent) :
      Produced policy (.unused (policy.reserveUnusedComponent component))

end RagCostPolicy

/-- What a component may reserve: 160 micro-dollars for an embedding, 9804 for an answer. -/
def componentCeiling : RagPaidComponent → Usd
  | .queryEmbedding => 160
  | .answerGeneration => 9804

theorem roundedCost_mono {i i' o o' : Nat} (pi po : Nat) (hi : i ≤ i') (ho : o ≤ o') :
    roundedCost i o pi po ≤ roundedCost i' o' pi po := by
  unfold roundedCost
  apply Nat.div_le_div_right
  have h₁ := Nat.mul_le_mul_right pi hi
  have h₂ := Nat.mul_le_mul_right po ho
  omega

theorem queryCost_le {tokens : Nat} (h : tokens ≤ maxQueryEmbeddingTokens) :
    roundedCost tokens 0 queryEmbeddingInputUsdPer1M 0 ≤ componentCeiling .queryEmbedding :=
  roundedCost_mono queryEmbeddingInputUsdPer1M 0 h (Nat.le_refl 0)

theorem answerCost_le {input output : Nat} (hi : input ≤ maxAnswerInputTokens)
    (ho : output ≤ maxAnswerOutputTokens) :
    roundedCost input output answerInputUsdPer1M answerOutputUsdPer1M ≤
      componentCeiling .answerGeneration :=
  roundedCost_mono answerInputUsdPer1M answerOutputUsdPer1M hi ho

namespace RagCostPolicy

theorem prepareQueryEmbedding_le {policy : RagCostPolicy} {value : QueryEmbeddingCostInput}
    {b : PreparedPaidCallBudget} (h : policy.prepareQueryEmbedding value = .ok b) :
    b.component = .queryEmbedding ∧ b.reservedCostUsd ≤ componentCeiling .queryEmbedding := by
  simp only [prepareQueryEmbedding] at h
  split_ifs at h
  cases ht : String.fromUTF8? value.retrievalQueryUtf8 with
  | none => simp only [ht] at h; nomatch h
  | some text =>
    cases hn : policy.countPrivateTokens .queryEmbedding text with
    | none => simp only [ht,hn] at h; nomatch h
    | some encodedTokens =>
      simp only [ht,hn] at h
      split_ifs at h with htokens
      cases h
      exact ⟨rfl,queryCost_le (Nat.le_of_not_lt htokens)⟩

theorem prepareAnswerGeneration_le {policy : RagCostPolicy} {value : AnswerGenerationCostInput}
    {b : PreparedPaidCallBudget} (h : policy.prepareAnswerGeneration value = .ok b) :
    b.component = .answerGeneration ∧ b.reservedCostUsd ≤ componentCeiling .answerGeneration := by
  simp only [prepareAnswerGeneration] at h
  split_ifs at h
  cases ht : policy.estimatorText value.exactMessagesJson value.exactResponseSchemaJson with
  | none => simp only [ht] at h; nomatch h
  | some estimatorText =>
    simp only [ht] at h
    split_ifs at h
    cases hn : policy.countPrivateTokens .answerGeneration estimatorText with
    | none => simp only [hn] at h; nomatch h
    | some encodedTokens =>
      simp only [hn] at h
      split_ifs at h with htokens
      cases h
      exact ⟨rfl,answerCost_le (Nat.le_of_not_lt htokens) (Nat.le_refl _)⟩

/-- Whatever the policy issued fits the ceiling of its component. -/
theorem Produced.reserved_le {policy : RagCostPolicy} {b : RagAdmissionBudget}
    (h : Produced policy b) : b.reservedCostUsd ≤ componentCeiling b.component := by
  cases h with
  | queryEmbedding hb =>
    obtain ⟨hc,hr⟩ := prepareQueryEmbedding_le hb
    simpa only [RagAdmissionBudget.reservedCostUsd,RagAdmissionBudget.component,hc] using hr
  | answerGeneration hb =>
    obtain ⟨hc,hr⟩ := prepareAnswerGeneration_le hb
    simpa only [RagAdmissionBudget.reservedCostUsd,RagAdmissionBudget.component,hc] using hr
  | ceiling => exact answerCost_le (Nat.le_refl _) (Nat.le_refl _)
  | unused component => exact Nat.zero_le _

end RagCostPolicy

end ParaWorks.Ledger
