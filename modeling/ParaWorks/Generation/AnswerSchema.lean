import ParaWorks.Generation.Slots
import ParaWorks.Lib.Strings

/-!
# Answer blocks

`RagAnswerOutputValidator` over a payload of any shape, and the second reading of the same rules that classifies what it
has rejected.
-/

namespace ParaWorks.Generation

open Lib Retrieval

/-! ## Payloads -/

/-- What a provider's answer may hold. A value of any other type is `other`, and so is a key that is not a string
`none`. -/
inductive Payload where
  | none
  | str (t : Text)
  | list (items : List Payload)
  | dict (entries : List (Option Text × Payload))
  | other

/-- `payload[key]`, none where the key is not there. -/
def entryOf (entries : List (Option Text × Payload)) (key : Text) : Option Payload :=
  (entries.find? fun e => e.1 = some key).map (·.2)

/-- `_exact_key_set`. -/
def exactKeySet (entries : List (Option Text × Payload)) (expected : List Text) : Bool :=
  if entries.any (·.1.isNone) then false
  else entries.length = expected.length && expected.all (some · ∈ entries.map (·.1)) &&
    entries.all fun e => e.1.any (· ∈ expected)

/-- The values under the expected keys, for a dict that has exactly these keys. -/
def Payload.fields (expected : List Text) : Payload → Option (List Payload)
  | .dict entries => if exactKeySet entries expected then expected.mapM (entryOf entries) else Option.none
  | _ => Option.none

def payloadKeys : List Text := [text "answer_blocks",text "insufficient_evidence_reason"]

def blockKeys : List Text := [text "text",text "evidence_slot_ids",text "support_mode"]

/-- `_validate_bounded_text`, with the text it lets through. -/
def validateBoundedText (value : Payload) (maximum : Nat) : Option Text :=
  match value with
  | .str t =>
    if strip t = [] ∨ ¬(1 ≤ t.length ∧ t.length ≤ maximum) then Option.none
    else if t.any unsupportedScalar then Option.none
    else (utf8 t).map fun _ => t
  | _ => Option.none

def Payload.strOf : Payload → Option Text
  | .str t => some t
  | _ => Option.none

/-! ## Validation -/

structure ValidatedAnswerBlock where
  blockOrdinal : Nat
  text : Text
  evidenceSlotIds : List Text
  supportMode : SupportMode
  /-- in millionths -/
  confidenceScore : Nat
  uncertaintyReason : Option Text
  blockResultHmac : Text

structure ValidatedAnswerBlocks where
  blocks : List ValidatedAnswerBlock
  insufficientReason : Option Text
  selectedSlotIds : List Text
  assembledAnswer : Text
  assembledAnswerHmac : Option Text
  answerBlockAuditSetHmac : Option Text

def trustedConfidence : Nat := 950000

def observedConfidence : Nat := 700000

/-- `str(confidence)` of a score below one. -/
def confidenceText (score : Nat) : Text := text "0."++Json.digits score

def sourceObservationReason : Text := text "source_observation_not_promoted_to_trusted_knowledge"

/-- The mode that the cited modes call for. -/
def expectedMode (cited : List SupportMode) : SupportMode :=
  if cited.all (· = .trustedFact) then .trustedFact else .sourceObservation

def confidenceOf : SupportMode → Nat
  | .trustedFact => trustedConfidence
  | .sourceObservation => observedConfidence

def uncertaintyOf : SupportMode → Option Text
  | .trustedFact => none
  | .sourceObservation => some sourceObservationReason

structure Progress where
  validated : List ValidatedAnswerBlock
  selected : List Text
  totalText : Nat

/-- Adding the slots of a block that no block before it has cited. -/
def select (selected ids : List Text) : List Text :=
  ids.foldl (fun selected id => if id ∈ selected then selected else selected++[id]) selected

section validate

variable (signer : Text → Json → Option Text) (slots : List EvidenceSlot)

/-- `available[value]`. -/
def available (id : Text) : Option EvidenceSlot := slots.find? (·.slotId = id)

def blockResult (ordinal : Nat) (ids : List Text) (mode : SupportMode) (textHmac : Text) : Json :=
  .dict [
    (text "block_ordinal",.int ordinal),
    (text "confidence_score_decimal",.str (confidenceText (confidenceOf mode))),
    (text "evidence_slot_ids",.list (ids.map Json.str)),
    (text "support_mode",.str (supportText mode)),
    (text "text_hmac",.str textHmac),
    (text "uncertainty_reason",((uncertaintyOf mode).map Json.str).getD .null)]

/-- One block of the loop of `_validate`. -/
def validateBlock (progress : Progress) (raw : Payload) : Option Progress := do
  let [rawText,rawIds,rawMode] ← raw.fields blockKeys | none
  let t ← validateBoundedText rawText 1200
  if progress.totalText+t.length > 2400 then none
  else
    let .list items := rawIds | none
    if ¬(1 ≤ items.length ∧ items.length ≤ 8) then none
    else
      let ids ← items.mapM Payload.strOf
      if ¬ids.Nodup then none
      else
        let cited ← ids.mapM (available slots)
        let mode := expectedMode (cited.map (·.supportMode))
        let .str given := rawMode | none
        if given ≠ supportText mode then none
        else
          let ordinal := progress.validated.length
          let textHmac ← signer (text "block_text") (← exactUtf8Bytes t)
          let resultHmac ← signer (text "block_result") (blockResult ordinal ids mode textHmac)
          return ⟨progress.validated++[⟨ordinal,t,ids,mode,confidenceOf mode,uncertaintyOf mode,resultHmac⟩],
            select progress.selected ids,progress.totalText+t.length⟩

def auditSet (blocks : List ValidatedAnswerBlock) : Json :=
  .dict [(text "blocks",.list (blocks.map fun block =>
    .dict [(text "block_ordinal",.int block.blockOrdinal),(text "block_result_hmac",.str block.blockResultHmac)]))]

def blockJoiner : Text := [10,10]

/-- `RagAnswerOutputValidator.validate`, none where it raises. -/
def validate (payload : Payload) : Option ValidatedAnswerBlocks := do
  let [rawBlocks,reason] ← payload.fields payloadKeys | none
  let .list blocks := rawBlocks | none
  if blocks.length > 8 then none
  else if blocks = [] then
    let insufficient ← validateBoundedText reason 400
    return ⟨[],some insufficient,[],[],none,none⟩
  else
    let .none := reason | none
    if slots.length > 8 ∨ slots.map (·.slotId) ≠ slotNames slots.length then none
    else
      let progress ← blocks.foldlM (validateBlock signer slots) ⟨[],[],0⟩
      let assembled := join blockJoiner (progress.validated.map (·.text))
      let assembledHmac ← signer (text "assembled") (← exactUtf8Bytes assembled)
      let auditHmac ← signer (text "audit_set") (auditSet progress.validated)
      return ⟨progress.validated,none,progress.selected,assembled,some assembledHmac,some auditHmac⟩

end validate

/-! ## Classification -/

/-- One block of the loop of `_answer_structure_is_valid`, with the length of the texts so far. -/
def blockStructure (total : Nat) (raw : Payload) : Option Nat := do
  let [rawText,rawIds,rawMode] ← raw.fields blockKeys | none
  let t ← validateBoundedText rawText 1200
  let .list items := rawIds | none
  if total+t.length > 2400 ∨ ¬(1 ≤ items.length ∧ items.length ≤ 8) then none
  else
    let ids ← items.mapM Payload.strOf
    if ¬ids.Nodup then none
    else
      let .str given := rawMode | none
      if given = text "trusted_fact" ∨ given = text "source_observation" then some (total+t.length) else none

/-- `_answer_structure_is_valid`. -/
def answerStructureIsValid (payload : Payload) : Bool :=
  match payload.fields payloadKeys with
  | some [.list blocks,reason] =>
    if blocks.length > 8 then false
    else if blocks = [] then (validateBoundedText reason 400).isSome
    else match reason with
      | .none => (blocks.foldlM blockStructure 0).isSome
      | _ => false
  | _ => false

inductive FailureClassification where
  | structuredOutputInvalid
  | citationValidationFailed
  deriving DecidableEq

/-- `failure_classification`, none where it raises because the payload is valid. -/
def failureClassification (signer : Text → Json → Option Text) (slots : List EvidenceSlot) (payload : Payload) :
    Option FailureClassification :=
  if (validate signer slots payload).isNone then
    some (if answerStructureIsValid payload then .citationValidationFailed else .structuredOutputInvalid)
  else none

end ParaWorks.Generation
