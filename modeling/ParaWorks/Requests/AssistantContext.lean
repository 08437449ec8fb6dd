import ParaWorks.Generation.Preparation
import ParaWorks.Lib.Strings
import ParaWorks.Lib.Windows
import Mathlib.Data.List.Sort

/-!
# The text of an assistant request

The query that a question is looked up with: the question after the last turns of the user, each cut to one short line.
-/

namespace ParaWorks.Requests

open Lib Generation Fingerprints

/-! ## Messages -/

/-- A time with its microseconds: of the UTC instant where it has a time zone. -/
structure Timestamp where
  aware : Bool
  micros : Int
  deriving DecidableEq

structure AssistantContextMessage where
  messageId : Int
  createdAt : Timestamp
  role : Text
  content : Text
  deriving DecidableEq

inductive RequestTextError where
  | value (message : Text)
  /-- `RagInputSafetyError`. -/
  | inputSafetyBlocked
  /-- `RagInputScannerUnavailableError`. -/
  | inputScannerUnavailable
  /-- What the scanner itself raises over an earlier message. -/
  | scannerRaised
  | fingerprint (error : FingerprintError)
  deriving DecidableEq

/-- `StrictUnicodeScalarValidator.validate`. -/
def validate (t : Text) : Except RequestTextError Text :=
  if t.any unsupportedScalar then .error (.value (text "text contains an unsupported Unicode scalar")) else .ok t

/-- What is wrong with one message. -/
def messageError (m : AssistantContextMessage) : Option RequestTextError :=
  if m.messageId ≤ 0 then some (.value (text "assistant context message is invalid"))
  else if m.role ≠ text "user" ∧ m.role ≠ text "assistant" then
    some (.value (text "assistant context message is invalid"))
  else match validate m.content with
    | .error e => some e
    | .ok _ => none

/-- `(created_at, message_id)` in order. -/
def earlier (m n : AssistantContextMessage) : Bool :=
  m.createdAt.micros < n.createdAt.micros || (m.createdAt.micros = n.createdAt.micros && m.messageId ≤ n.messageId)

/-- Times with and without a zone cannot be compared. -/
def incomparable (messages : List AssistantContextMessage) : Bool :=
  messages.any fun m => messages.any fun n => m.createdAt.aware ≠ n.createdAt.aware

/-- The messages of the user in order, without a last one that is the question again. -/
def priorTurns (messages : List AssistantContextMessage) (question : Text) : List AssistantContextMessage :=
  let users := (messages.insertionSort (earlier · ·)).filter (·.role = text "user")
  if users.getLast?.any (strip ·.content = question) then users.dropLast else users

/-- The messages that the scanner allows, none where it raises. -/
def allowedMessages (scan : Text → Option Bool) : List AssistantContextMessage → Option (List AssistantContextMessage)
  | [] => some []
  | m::ms => do
    let allowed ← scan m.content
    let rest ← allowedMessages scan ms
    return if allowed then m::rest else rest

/-- `_validated_prior_user_messages`. -/
def validatedPriorUserMessages (scan : Text → Option Bool) (messages : List AssistantContextMessage) (question : Text) :
    Except RequestTextError (List AssistantContextMessage) :=
  match messages.findSome? messageError with
  | some e => .error e
  | none =>
    if incomparable messages then .error (.value (text "assistant context ordering is invalid"))
    else match allowedMessages scan (priorTurns messages question) with
      | some allowed => .ok allowed
      | none => .error .scannerRaised

/-! ## Lines -/

def rstrip (t : Text) : Text := (t.reverse.dropWhile isSpace).reverse

/-- `' '.join(content.strip().split())`, cut to 500 code points. -/
def compacted (content : Text) : Text :=
  let whole := join [ofChar ' '] (words (strip content))
  if 500 < whole.length then rstrip (whole.take 499)++[ofChar '…'] else whole

/-- The line of a message, none where it is blank. -/
def contextLine (m : AssistantContextMessage) : Option Text :=
  if words (strip m.content) = [] then none else some (text "user: "++compacted m.content)

/-- `_context_lines`. -/
def contextLines (messages : List AssistantContextMessage) : List Text :=
  lastN 6 (distinct (messages.filterMap contextLine))

def newline : CodePoint := 10

/-- The query of these lines and the question. -/
def contextualQuery (question : Text) (lines : List Text) : Text :=
  join [newline] ((if lines = [] then [] else [text "최근 대화:"])++lines++[text "현재 질문: "++question])

def queryFits (question : Text) (lines : List Text) : Bool := (contextualQuery question lines).length ≤ 8000

/-- `_bounded_contextual_query`. -/
def boundedContextualQuery (lines : List Text) (question : Text) : Except RequestTextError Text :=
  match longestFitting (queryFits question) lines with
  | some kept => .ok (contextualQuery question kept)
  | none => .error (.value (text "assistant contextual query is too long"))

/-! ## The request -/

structure PreparedRagRequestText where
  callerText : Text
  normalizedCurrentUserText : Text
  retrievalQueryText : Text
  answerQuestionText : Text
  queryContextVersion : Text
  currentTextHmac : Text
  retrievalQueryHmac : Text
  answerQuestionHmac : Text

section request

variable (signing : Signing) (scan : Text → Option Bool)

def fingerprint (schemaVersion policyVersion : Text) (value : Json) : Except RequestTextError Text :=
  (keyedFingerprint signing.nfc signing.hexdigest signing.limits signing.secret schemaVersion policyVersion
    value).mapError .fingerprint

/-- `exact_utf8_bytes`. -/
def utf8Json (t : Text) : Except RequestTextError Json :=
  match exactUtf8Bytes t with
  | some j => .ok j
  | none => .error (.value (text "text contains an unsupported Unicode scalar"))

/-- `_normalized_copy`. -/
def normalizedCopy (t : Text) : Text := join [ofChar ' '] (words (signing.nfc t))

/-- `_scan_value`. -/
def scanValue (t : Text) : Except RequestTextError Unit :=
  match scan t with
  | none => .error .inputScannerUnavailable
  | some allowed => if allowed then .ok () else .error .inputSafetyBlocked

/-- `_prepared`. -/
def prepared (callerText normalized retrievalQuery answerQuestion queryContextVersion : Text) :
    Except RequestTextError PreparedRagRequestText := do
  let currentTextHmac ← fingerprint signing (text "rag-current-text-normalized:v1") queryContextVersion
    (.dict [(text "normalized_text",.str normalized)])
  let retrievalBytes ← utf8Json retrievalQuery
  let retrievalQueryHmac ← fingerprint signing (text "rag-retrieval-query-bytes:v1") queryContextVersion retrievalBytes
  let answerBytes ← utf8Json answerQuestion
  let answerQuestionHmac ← fingerprint signing (text "rag-answer-question-bytes:v1") queryContextVersion
    (.dict [(text "answer_question_bytes",answerBytes)])
  return ⟨callerText,normalized,retrievalQuery,answerQuestion,queryContextVersion,currentTextHmac,retrievalQueryHmac,
    answerQuestionHmac⟩

def prepareAssistantRequestText (currentText : Text) (priorMessages : List AssistantContextMessage) :
    Except RequestTextError PreparedRagRequestText := do
  let callerText ← validate currentText
  let normalized := normalizedCopy signing callerText
  scanValue scan callerText
  scanValue scan normalized
  let answerQuestion := strip callerText
  if answerQuestion = [] then throw (.value (text "assistant message content is invalid"))
  let priorUserMessages ← validatedPriorUserMessages scan priorMessages answerQuestion
  let retrievalQuery ← boundedContextualQuery (contextLines priorUserMessages) answerQuestion
  scanValue scan retrievalQuery
  prepared signing callerText normalized retrievalQuery answerQuestion (text "assistant-context:v1")

end request

/-! ## Lines and queries -/

theorem wordsFrom_noSpace {t word w : Text} (hword : ∀ c ∈ word, isSpace c = false) (hw : w ∈ wordsFrom t word) :
    ∀ c ∈ w, isSpace c = false := by
  induction t generalizing word with
  | nil =>
    unfold wordsFrom at hw
    split_ifs at hw
    · cases hw
    · rw [List.mem_singleton.mp hw]
      exact fun c hc => hword c (List.mem_reverse.mp hc)
  | cons d t ih =>
    unfold wordsFrom at hw
    split_ifs at hw with hd hempty
    · exact ih (by simp) hw
    · rcases List.mem_cons.mp hw with rfl | hw
      · exact fun c hc => hword c (List.mem_reverse.mp hc)
      · exact ih (by simp) hw
    · refine ih ?_ hw
      intro c hc
      rcases List.mem_cons.mp hc with rfl | hc
      · simpa using hd
      · exact hword c hc

theorem words_noSpace {t w : Text} (hw : w ∈ words t) : ∀ c ∈ w, isSpace c = false :=
  wordsFrom_noSpace (by simp) hw

theorem join_append_singleton (sep : Text) (parts : List Text) (last : Text) :
    join sep (parts++[last]) = parts.flatMap (·++sep)++last := by
  induction parts with
  | nil => simp [join]
  | cons part parts ih =>
    have hcons : join sep (part::(parts++[last])) = part++(sep++join sep (parts++[last])) := by
      cases parts <;> simp [join]
    rw [List.cons_append,hcons,ih,List.flatMap_cons]
    simp

theorem mem_join {sep : Text} {parts : List Text} {c : CodePoint} (h : c ∈ join sep parts) :
    c ∈ sep ∨ ∃ part ∈ parts, c ∈ part := by
  rcases List.eq_nil_or_concat parts with rfl | ⟨front,last,rfl⟩
  · cases h
  · rw [List.concat_eq_append,join_append_singleton,List.mem_append,List.mem_flatMap] at h
    rcases h with ⟨part,hpart,h⟩ | h
    · rcases List.mem_append.mp h with h | h
      · exact Or.inr ⟨part,by simp [hpart],h⟩
      · exact Or.inl h
    · exact Or.inr ⟨last,by simp,h⟩

/-- A line has no line break in it. -/
theorem newline_not_mem_compacted (content : Text) : newline ∉ compacted content := by
  have hwhole : newline ∉ join [ofChar ' '] (words (strip content)) := by
    intro h
    rcases mem_join h with h | ⟨w,hw,h⟩
    · exact absurd h (by decide)
    · exact absurd (words_noSpace hw _ h) (by decide)
  unfold compacted
  dsimp only
  split_ifs
  · rw [List.mem_append,not_or]
    refine ⟨?_,by decide⟩
    intro h
    rw [rstrip,List.mem_reverse] at h
    exact hwhole (List.take_subset _ _ (List.mem_reverse.mp ((List.dropWhile_suffix _).subset h)))
  · exact hwhole

theorem newline_not_mem_contextLine {m : AssistantContextMessage} {line : Text} (h : contextLine m = some line) :
    newline ∉ line := by
  unfold contextLine at h
  split_ifs at h
  obtain rfl := Option.some.inj h
  rw [List.mem_append,not_or]
  exact ⟨by decide,newline_not_mem_compacted m.content⟩

/-- Lines that each end at the first line break are told apart. -/
theorem flatMap_newline_inj {ps qs : List Text} (hp : ∀ p ∈ ps, newline ∉ p) (hq : ∀ q ∈ qs, newline ∉ q)
    (h : ps.flatMap (·++[newline]) = qs.flatMap (·++[newline])) : ps = qs := by
  induction ps generalizing qs with
  | nil =>
    cases qs with
    | nil => rfl
    | cons q qs => simp at h
  | cons p ps ih =>
    cases qs with
    | nil => simp at h
    | cons q qs =>
      rw [List.forall_mem_cons] at hp hq
      simp only [List.flatMap_cons,List.append_assoc,List.singleton_append] at h
      have hsplit := congrArg (splitOnce newline) h
      rw [splitOnce_append hp.1,splitOnce_append hq.1,Option.some.injEq,Prod.mk.injEq] at hsplit
      rw [hsplit.1,ih hp.2 hq.2 hsplit.2]

theorem contextualQuery_eq (question : Text) (lines : List Text) : contextualQuery question lines =
    ((if lines = [] then [] else [text "최근 대화:"])++lines).flatMap (·++[newline])++(text "현재 질문: "++question) :=
  join_append_singleton _ _ _

/-- The lines are read off the query. -/
theorem contextualQuery_inj {question : Text} {ls ks : List Text} (hl : ∀ l ∈ ls, newline ∉ l)
    (hk : ∀ k ∈ ks, newline ∉ k) (h : contextualQuery question ls = contextualQuery question ks) : ls = ks := by
  rw [contextualQuery_eq,contextualQuery_eq] at h
  have hheader : newline ∉ text "최근 대화:" := by decide
  have hnone : ∀ ls : List Text, (∀ l ∈ ls, newline ∉ l) →
      ∀ l ∈ (if ls = [] then [] else [text "최근 대화:"])++ls, newline ∉ l := by
    intro ls hls l hl
    rcases List.mem_append.mp hl with hl | hl
    · split_ifs at hl
      · cases hl
      · rw [List.mem_singleton.mp hl]
        exact hheader
    · exact hls l hl
  have hparts := flatMap_newline_inj (hnone ls hl) (hnone ks hk) (List.append_cancel_right h)
  cases ls <;> cases ks <;> simp_all

theorem length_contextualQuery_mono {question : Text} {ls ks : List Text} (h : ls <:+ ks) :
    (contextualQuery question ls).length ≤ (contextualQuery question ks).length := by
  obtain ⟨front,rfl⟩ := h
  rw [contextualQuery_eq,contextualQuery_eq]
  cases ls with
  | nil =>
    simp only [List.flatMap_append,List.length_append,if_true,List.nil_append,List.append_nil,List.flatMap_nil]
    omega
  | cons l ls =>
    have hne : front++l::ls ≠ [] := by simp
    rw [if_neg hne,if_neg (List.cons_ne_nil l ls)]
    simp only [List.flatMap_append,List.length_append]
    omega

end ParaWorks.Requests
