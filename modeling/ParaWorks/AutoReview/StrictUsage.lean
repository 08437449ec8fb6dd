import ParaWorks.AutoReview.Validator
import ParaWorks.Lib.Partial

/-!
# What becomes of a strict usage

A response that carries strict usage is charged for it exactly when the rest of the response is accepted, or when the
usage happens to be the reserve.
-/

namespace ParaWorks.AutoReview

open Lib

/-! ## Rows after a call is closed -/

section rows

variable {t : Tables} {context : ValidationLockedContext} {call closed : AutoReviewValidationCall}

end rows

/-! ## Closing with a charge -/

section charges

variable {m : Moment} {t : Tables} {context : ValidationLockedContext} {call : AutoReviewValidationCall}
  {children : List AutoReviewValidation}

end charges

/-! ## The usage and its record -/

section recorded

variable {m : Moment} {t : Tables} {context : ValidationLockedContext} {call : AutoReviewValidationCall}
  {usage : StrictProviderUsage} {charge : Usd}

end recorded

section failing

variable {m : Moment} {t : Tables} {context : ValidationLockedContext} {call : AutoReviewValidationCall}
  {failure : ValidationBatchFailure} {usage : StrictProviderUsage}

end failing

/-! ## Completing -/

section completing

variable {config : StoreConfig} {m : Moment} {t : Tables} {context : ValidationLockedContext}
  {call : AutoReviewValidationCall} {children : List AutoReviewValidation} {completion : ValidationBatchCompletion}
  {workflowRequest : AgentWorkflowRequest} {usage : StrictProviderUsage}

end completing

/-! ## What a close needs -/

section needed

variable {config : StoreConfig} {m : Moment} {t t' : Tables} {context : ValidationLockedContext}
  {failure : ValidationBatchFailure} {completion : ValidationBatchCompletion}

end needed

/-! ## Recorded or not -/

section outcome

variable {config : StoreConfig} {env : Surroundings} {batch : PreparedValidationBatch}
  {context : ValidationLockedContext} {w : World} {usage : StrictProviderUsage}

instance keyTotal {α : Type} (key : α → Text) : Std.Total fun a b => keyLe (key a) (key b) :=
  ⟨fun a b => le_total (key a) (key b)⟩

instance keyTrans {α : Type} (key : α → Text) : IsTrans α fun a b => keyLe (key a) (key b) :=
  ⟨fun _ _ _ h h' => le_trans (α := Text) h h'⟩

end outcome

/-! ## A whole execution -/

/-- An attempt that `execute` claims, starts and sends, and a response whose raw message carries strict usage. -/
structure SentAttempt (config : StoreConfig) (env : Surroundings) (batch : PreparedValidationBatch) (w : World)
    (response : ProviderResponse) (usage : StrictProviderUsage) where
  claim : ValidationClaimResult
  leaseToken : Text
  tables : Tables
  grant : CommittedGrant
  started : World
  sent : World
  message : AIMessage
  claimed : claimOrReplay config env.claimAt batch.claim w.tables = .ok (claim,tables)
  disposition : claim.disposition = .claimed
  lease : claim.leaseToken = some leaseToken
  admitted : batch.admission.workflowThreadId = batch.claim.workflowThreadId ∧
    batch.admission.batchFingerprint = batch.claim.batchFingerprint
  start : markAttemptStarted config env.attemptAt
    { batch.admission with validationCallId := claim.validationCallId, leaseToken := leaseToken }
    (env.beforeAttempt { w with tables := tables }) = (.ok grant,started)
  logging : env.loggingSafe = true ∧ env.loggingSafeAtSend = true
  dispatch : dispatchPreparedValidation config env.dispatchAt batch.invocation grant (env.beforeDispatch started) =
    (.ok (),sent)
  answered : env.response = some response
  raw : response.raw = some message
  strict : parseMessage message = some usage

namespace SentAttempt

variable {config : StoreConfig} {env : Surroundings} {batch : PreparedValidationBatch} {w : World}
  {response : ProviderResponse} {usage : StrictProviderUsage} (a : SentAttempt config env batch w response usage)

def context : ValidationLockedContext := contextOf batch a.claim a.leaseToken

/-- The answer that the orchestrator gets. -/
def answer (_ : SentAttempt config env batch w response usage) :
    Option (List CandidateValidationResult × ValidationUsage) :=
  (parseProviderResult response batch.invocation).map fun p => (p.1.results,p.2)

end SentAttempt

section samples

end samples

end ParaWorks.AutoReview
