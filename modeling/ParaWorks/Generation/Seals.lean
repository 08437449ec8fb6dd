import ParaWorks.Generation.Prefixes

/-!
# Seals

What comes out of the preparation is accepted by the validator, and nothing in it can be changed alone.
-/

namespace ParaWorks.Generation

open Lib Retrieval Fingerprints Sources

/-! ## Signing -/

/-- `hexdigest` gives 64 hexadecimal digits. -/
def HexDigests (signing : Signing) : Prop := ∀ bytes, LowerHex64 (signing.hexdigest signing.secret bytes)

def Ascii (t : Text) : Prop := ∀ c ∈ t, c.val < 128

/-- NFC changes no ASCII text. -/
def KeepsAscii (signing : Signing) : Prop := ∀ t, Ascii t → signing.nfc t = t

theorem ascii_of_lowerHex {t : Text} (h : LowerHex64 t) : Ascii t := by
  intro c hc
  have hhex := h.2 c hc
  simp only [isLowerHex,Bool.or_eq_true,decide_eq_true_iff] at hhex
  omega

theorem hexBytes_ascii (bytes : List UInt8) : Ascii (hexBytes bytes) := by
  have hdigit : ∀ n < 16, (Json.hexDigit n).val < 128 := by decide
  intro c hc
  obtain ⟨b,_,hc⟩ := List.mem_flatMap.mp hc
  have hb := b.toNat_lt
  rcases List.mem_cons.mp hc with rfl | hc
  · exact hdigit _ (by omega)
  · rw [List.mem_singleton.mp hc]
    exact hdigit _ (by omega)

theorem hexBytes_injective : Function.Injective hexBytes := by
  have hdigit : ∀ n < 16, ∀ k < 16, Json.hexDigit n = Json.hexDigit k → n = k := by decide
  intro bs
  induction bs with
  | nil =>
    intro cs h
    cases cs with
    | nil => rfl
    | cons c cs => cases h
  | cons b bs ih =>
    intro cs h
    cases cs with
    | nil => cases h
    | cons c cs =>
      simp only [hexBytes,List.flatMap_cons,List.cons_append,List.nil_append,List.cons.injEq] at h
      have hb := b.toNat_lt
      have hc := c.toNat_lt
      have hhigh := hdigit _ (by omega) _ (by omega) h.1
      have hlow := hdigit _ (by omega) _ (by omega) h.2.1
      have hbc : b = c := UInt8.toNat_inj.mp (by omega)
      rw [hbc,ih h.2.2]

/-! ## Acceptance -/

section seals

variable {m : StructuredRagAnswerModel}

theorem artifactBytes_of_sign {signing : Signing} {kind hmac : Text} {payload : Json}
    (h : signing.signAnswerArtifact kind payload = some hmac) :
    ∃ bytes, signing.artifactBytes kind payload = some bytes ∧ hmac = signing.hexdigest signing.secret bytes := by
  unfold Signing.signAnswerArtifact at h
  obtain ⟨⟨schemaVersion,policyVersion⟩,hdomain,h⟩ := Option.bind_eq_some_iff.mp h
  obtain ⟨bytes,hbytes,hhmac⟩ := keyedFingerprint_ok (ok_of_toOption h)
  refine ⟨bytes,?_,hhmac⟩
  simp [Signing.artifactBytes,hdomain,hbytes,Except.toOption]

theorem signed_isHex {signing : Signing} (hex : HexDigests signing) {kind hmac : Text} {payload : Json}
    (h : signing.signAnswerArtifact kind payload = some hmac) : LowerHex64 hmac := by
  obtain ⟨bytes,_,rfl⟩ := artifactBytes_of_sign h
  exact hex bytes

theorem prepareBudget_valid {messages : List Message} {budget : PreparedPaidCallBudget}
    (h : prepareBudget m messages = .ok budget) : budgetIsValid m.policyHmac budget = true := by
  unfold prepareBudget at h
  split at h
  · obtain ⟨priced,_,h⟩ := bind_eq_ok.mp h
    split_ifs at h with hvalid
    obtain rfl := Except.ok.inj h
    exact hvalid
  · cases h

theorem sameBudget_self {b : PreparedPaidCallBudget} (h : b.reservedCostUsd.isAmount = true) :
    sameBudget b b = true := by
  have hsome : b.reservedCostUsd.value.isSome = true := by
    unfold Decimal.isAmount at h
    cases hv : b.reservedCostUsd.value <;> simp_all
  simp [sameBudget,Decimal.eq,hsome]

theorem isAmount_eq {d : Decimal} (h : d.isAmount = true) : d.eq d = true := by
  unfold Decimal.isAmount at h
  cases hv : d.value with
  | none => simp [hv] at h
  | some q => simp [Decimal.eq,hv]

theorem questionFromMessages_render {format : Text → Text → List ChatMessage} (verbatim : Verbatim format)
    {question : Text} {slots : List EvidenceSlot} {messages : List Message}
    (h : renderAnswerMessages format question slots = some messages) :
    messages = [(text "system",systemContent),(text "user",userContent question slots)] := by
  rw [renderAnswerMessages,verbatim,Option.some.injEq] at h
  exact h.symm

/-- What the validator looks at before it recomputes anything. -/
structure WellShaped (m : StructuredRagAnswerModel) (v : PreparedAnswerInput) : Prop where
  messages : messagesAreValid v.messages = true
  slots : slotsAreValid v.evidenceSlots = true
  answerQuestion : LowerHex64 v.answerQuestionHmac
  retrievalQuery : LowerHex64 v.retrievalQueryHmac
  rendered : LowerHex64 v.renderedInputHmac
  estimator : LowerHex64 v.generationEstimatorInputHmac
  encoded : 0 ≤ v.encodedInputTokens
  framed : 0 ≤ v.framedInputTokens
  reserved : v.reservedCostUsd.isAmount = true
  config : v.modelConfigSnapshotHmac = m.modelConfigSnapshotHmac
  policy : v.providerPolicySnapshotHmac = m.policyHmac
  prepared : LowerHex64 v.preparedInputHmac

/-- What the validator computes again. -/
structure Recomputed (m : StructuredRagAnswerModel) (v : PreparedAnswerInput) (question : Text)
    (budget : PreparedPaidCallBudget) : Prop where
  asked : questionFromMessages v.messages = some question
  rendered : renderAnswerMessages m.format question v.evidenceSlots = some v.messages
  safeQuestion : m.scan question = true
  safeSlots : v.evidenceSlots.all (fun slot => m.scan slot.evidence.modelContent) = true
  safeMessages : messagesAreSafe m v.messages = true
  signed : renderedInputHmac m v.messages = some v.renderedInputHmac
  priced : prepareBudget m v.messages = .ok budget
  same : sameBudget v.budget budget = true
  estimator : v.generationEstimatorInputHmac = budget.estimatorInputHmac
  encoded : v.encodedInputTokens = budget.estimatedInputTokens-answerFrameTokenOverhead
  framed : v.framedInputTokens = budget.estimatedInputTokens
  reserved : v.reservedCostUsd.eq budget.reservedCostUsd = true
  sealed : preparedInputHmac m v = some v.preparedInputHmac

theorem preparedInputIsValid_iff {v : PreparedAnswerInput} :
    preparedInputIsValid m v = true ↔ WellShaped m v ∧ ∃ question budget, Recomputed m v question budget := by
  unfold preparedInputIsValid
  constructor
  · intro h
    cases hq : questionFromMessages v.messages with
    | none => simp [hq] at h
    | some question =>
      cases hb : prepareBudget m v.messages with
      | error e => simp [hq,hb] at h
      | ok budget =>
        simp only [hq,hb,Bool.and_eq_true,decide_eq_true_iff,List.all_cons,List.all_nil,and_true] at h
        obtain ⟨⟨⟨⟨⟨⟨⟨⟨⟨⟨⟨⟨hm,hs⟩,ha,hr,hri,hg⟩,he⟩,hf⟩,hres⟩,_⟩,hc⟩,_⟩,hp⟩,hph⟩,_⟩,
          ⟨⟨⟨⟨hren,hsq⟩,hss⟩,hsm⟩,hsig⟩,⟨⟨⟨⟨hsb,hest⟩,henc⟩,hfr⟩,hreq⟩,hseal⟩ := h
        exact ⟨⟨hm,hs,ha,hr,hri,hg,he,hf,hres,hc,hp,hph⟩,question,budget,
          ⟨hq,hren,hsq,hss,hsm,hsig,hb,hsb,hest,henc,hfr,hreq,hseal⟩⟩
  · rintro ⟨hw,question,budget,hr⟩
    have hconfig : LowerHex64 v.modelConfigSnapshotHmac := hw.config ▸ m.configIsHex
    have hpolicy : LowerHex64 v.providerPolicySnapshotHmac := hw.policy ▸ m.policyIsHex
    simp only [hr.asked,hr.priced,Bool.and_eq_true,decide_eq_true_iff,List.all_cons,List.all_nil,and_true]
    exact ⟨⟨⟨⟨⟨⟨⟨⟨⟨⟨⟨⟨hw.messages,hw.slots⟩,hw.answerQuestion,hw.retrievalQuery,hw.rendered,hw.estimator⟩,hw.encoded⟩,
      hw.framed⟩,hw.reserved⟩,hconfig⟩,hw.config⟩,hpolicy⟩,hw.policy⟩,hw.prepared⟩,m.authorized⟩,
      ⟨⟨⟨⟨hr.rendered,hr.safeQuestion⟩,hr.safeSlots⟩,hr.safeMessages⟩,hr.signed⟩,
      ⟨⟨⟨⟨hr.same,hr.estimator⟩,hr.encoded⟩,hr.framed⟩,hr.reserved⟩,hr.sealed⟩

/-- The validator finds what the preparation put there. -/
theorem Prepared.accepted {question answerQuestionHmac retrievalQueryHmac : Text} {working : List EvidenceSlot}
    {v : PreparedAnswerInput} (h : Prepared m question answerQuestionHmac retrievalQueryHmac working v)
    (verbatim : Verbatim m.format) (hex : HexDigests m.signing) (hanswer : LowerHex64 answerQuestionHmac)
    (hretrieval : LowerHex64 retrievalQueryHmac) (hquestion : m.scan question = true)
    (hslots : slotsAreValid v.evidenceSlots = true)
    (hsafe : ∀ slot ∈ v.evidenceSlots, m.scan slot.evidence.modelContent = true) :
    preparedInputIsValid m v = true := by
  have hmessages := questionFromMessages_render verbatim h.rendered
  have hbudget := prepareBudget_valid h.budget
  simp only [budgetIsValid,Bool.and_eq_true,decide_eq_true_iff] at hbudget
  obtain ⟨⟨⟨⟨⟨_,hestimated⟩,_⟩,hamount⟩,_⟩,hestimator⟩ := hbudget
  have hover : answerFrameTokenOverhead = 528 := rfl
  rw [preparedInputIsValid_iff]
  refine ⟨⟨?_,hslots,h.answerQuestion ▸ hanswer,h.retrievalQuery ▸ hretrieval,?_,h.estimator ▸ hestimator,?_,?_,
    h.reserved ▸ hamount,h.config,h.policy,signed_isHex hex h.sealed⟩,question,v.budget,
    ⟨?_,h.rendered,hquestion,List.all_eq_true.mpr hsafe,h.safe,h.signed,h.budget,sameBudget_self hamount,h.estimator,
      h.encoded,h.framed,?_,h.sealed⟩⟩
  · rw [hmessages]
    rfl
  · obtain ⟨payload,_,hsigned⟩ := Option.bind_eq_some_iff.mp h.signed
    exact signed_isHex hex hsigned
  · rw [h.encoded]
    omega
  · rw [h.framed]
    omega
  · rw [hmessages]
    exact questionFromMessages_user _ _ _
  · rw [h.reserved]
    exact isAmount_eq hamount

/-! ## Tampering -/

/-- The bytes behind the signatures of a prepared input. -/
def signedBytes (m : StructuredRagAnswerModel) (v : PreparedAnswerInput) : Set ByteArray :=
  {bytes | (renderedInput v.messages).bind (m.signing.artifactBytes (text "rendered_input")) = some bytes ∨
    m.signing.artifactBytes (text "prepared_input") (authorityPayload v) = some bytes}

/-- No signature stands for two different byte strings that were signed for the one input or the other. -/
def NoForgery (m : StructuredRagAnswerModel) (v v' : PreparedAnswerInput) : Prop :=
  Set.InjOn (m.signing.hexdigest m.signing.secret) (signedBytes m v ∪ signedBytes m v')

/-- What the model is shown of each slot is its content. -/
def contents (slots : List EvidenceSlot) : List Text := slots.map (·.evidence.modelContent)

/-- One part of a prepared input is changed. An amount counts as changed when its value is. -/
inductive Tampers : PreparedAnswerInput → PreparedAnswerInput → Prop
  | messages (v : PreparedAnswerInput) (messages : List Message) : messages ≠ v.messages →
      Tampers v { v with messages := messages }
  | contents (v : PreparedAnswerInput) (slots : List EvidenceSlot) : contents slots ≠ contents v.evidenceSlots →
      Tampers v { v with evidenceSlots := slots }
  | answerQuestionHmac (v : PreparedAnswerInput) (hmac : Text) : hmac ≠ v.answerQuestionHmac →
      Tampers v { v with answerQuestionHmac := hmac }
  | retrievalQueryHmac (v : PreparedAnswerInput) (hmac : Text) : hmac ≠ v.retrievalQueryHmac →
      Tampers v { v with retrievalQueryHmac := hmac }
  | renderedInputHmac (v : PreparedAnswerInput) (hmac : Text) : hmac ≠ v.renderedInputHmac →
      Tampers v { v with renderedInputHmac := hmac }
  | generationEstimatorInputHmac (v : PreparedAnswerInput) (hmac : Text) : hmac ≠ v.generationEstimatorInputHmac →
      Tampers v { v with generationEstimatorInputHmac := hmac }
  | encodedInputTokens (v : PreparedAnswerInput) (n : Int) : n ≠ v.encodedInputTokens →
      Tampers v { v with encodedInputTokens := n }
  | framedInputTokens (v : PreparedAnswerInput) (n : Int) : n ≠ v.framedInputTokens →
      Tampers v { v with framedInputTokens := n }
  | reservedCostUsd (v : PreparedAnswerInput) (d : Decimal) : d.value ≠ v.reservedCostUsd.value →
      Tampers v { v with reservedCostUsd := d }
  | modelConfigSnapshotHmac (v : PreparedAnswerInput) (hmac : Text) : hmac ≠ v.modelConfigSnapshotHmac →
      Tampers v { v with modelConfigSnapshotHmac := hmac }
  | providerPolicySnapshotHmac (v : PreparedAnswerInput) (hmac : Text) : hmac ≠ v.providerPolicySnapshotHmac →
      Tampers v { v with providerPolicySnapshotHmac := hmac }
  | preparedInputHmac (v : PreparedAnswerInput) (hmac : Text) : hmac ≠ v.preparedInputHmac →
      Tampers v { v with preparedInputHmac := hmac }
  | budget (v : PreparedAnswerInput) (b : PreparedPaidCallBudget) :
      b.estimatedInputTokens ≠ v.budget.estimatedInputTokens ∨ b.maximumOutputTokens ≠ v.budget.maximumOutputTokens ∨
        b.reservedCostUsd.value ≠ v.budget.reservedCostUsd.value ∨
        b.costPolicySnapshotHmac ≠ v.budget.costPolicySnapshotHmac ∨
        b.estimatorInputHmac ≠ v.budget.estimatorInputHmac → Tampers v { v with budget := b }

theorem artifactBytes_same {signing : Signing} {kind : Text} {a b : Json} {bytes : ByteArray}
    (ha : signing.artifactBytes kind a = some bytes) (hb : signing.artifactBytes kind b = some bytes) :
    (a.mapText signing.nfc).Every Json.KeysNodup ∧ (a.mapText signing.nfc).Same (b.mapText signing.nfc) := by
  unfold Signing.artifactBytes at ha hb
  obtain ⟨⟨schemaVersion,policyVersion⟩,hdomain,ha⟩ := Option.bind_eq_some_iff.mp ha
  rw [hdomain,Option.bind_eq_bind,Option.bind_some] at hb
  have hkeyed := ok_of_toOption ha
  exact ⟨keyedPayload_every hkeyed,(keyedPayload_inj hkeyed (ok_of_toOption hb)).2.2⟩

/-- Signatures of two inputs that agree are signatures of the same value. -/
theorem sealed_same {v v' : PreparedAnswerInput} (forgery : NoForgery m v v')
    (h : preparedInputHmac m v = some v.preparedInputHmac) (h' : preparedInputHmac m v' = some v.preparedInputHmac) :
    ((authorityPayload v).mapText m.signing.nfc).Every Json.KeysNodup ∧
      ((authorityPayload v).mapText m.signing.nfc).Same ((authorityPayload v').mapText m.signing.nfc) := by
  obtain ⟨bytes,hbytes,hhmac⟩ := artifactBytes_of_sign h
  obtain ⟨bytes',hbytes',hhmac'⟩ := artifactBytes_of_sign h'
  obtain rfl := forgery (Or.inl (Or.inr hbytes)) (Or.inr (Or.inr hbytes')) (hhmac.symm.trans hhmac')
  exact artifactBytes_same hbytes hbytes'

/-- The two hmacs of the request are read off what is signed. -/
theorem request_of_same {v v' : PreparedAnswerInput} (ascii : KeepsAscii m.signing)
    (hkeys : ((authorityPayload v).mapText m.signing.nfc).Every Json.KeysNodup)
    (hsame : ((authorityPayload v).mapText m.signing.nfc).Same ((authorityPayload v').mapText m.signing.nfc))
    (ha : LowerHex64 v.answerQuestionHmac) (ha' : LowerHex64 v'.answerQuestionHmac)
    (hr : LowerHex64 v.retrievalQueryHmac) (hr' : LowerHex64 v'.retrievalQueryHmac) :
    v.answerQuestionHmac = v'.answerQuestionHmac ∧ v.retrievalQueryHmac = v'.retrievalQueryHmac := by
  have hnodup := hkeys _ (.refl _)
  simp only [authorityPayload,Json.mapText,Json.mapEntries] at hsame hnodup
  have hvalues := hsame.values hnodup rfl
  simp only [List.map_cons,List.forall₂_cons] at hvalues
  obtain ⟨hanswer,-,-,-,-,-,-,-,-,-,hretrieval,-⟩ := hvalues
  have hanswer := hanswer.str_inj
  have hretrieval := hretrieval.str_inj
  rw [ascii _ (ascii_of_lowerHex ha),ascii _ (ascii_of_lowerHex ha')] at hanswer
  rw [ascii _ (ascii_of_lowerHex hr),ascii _ (ascii_of_lowerHex hr')] at hretrieval
  exact ⟨hanswer,hretrieval⟩

theorem content_of_same {signing : Signing} (ascii : KeepsAscii signing) {t t' : Text} {j j' : Json}
    (h : exactUtf8Bytes t = some j) (h' : exactUtf8Bytes t' = some j')
    (hkeys : (j.mapText signing.nfc).Every Json.KeysNodup)
    (hsame : (j.mapText signing.nfc).Same (j'.mapText signing.nfc)) : t = t' := by
  obtain ⟨bytes,hbytes,rfl⟩ := Option.map_eq_some_iff.mp h
  obtain ⟨bytes',hbytes',rfl⟩ := Option.map_eq_some_iff.mp h'
  have hnodup := hkeys _ (.refl _)
  simp only [Json.mapText,Json.mapEntries] at hsame hnodup
  have hvalues := hsame.values hnodup rfl
  simp only [List.map_cons,List.forall₂_cons] at hvalues
  have hhex := hvalues.2.1.str_inj
  rw [ascii _ (hexBytes_ascii _),ascii _ (hexBytes_ascii _)] at hhex
  obtain rfl := hexBytes_injective hhex
  unfold strictUnicodeScalars at hbytes hbytes'
  split_ifs at hbytes hbytes'
  exact utf8Bytes_injective hbytes hbytes'

theorem messages_of_valid {messages : List Message} (h : messagesAreValid messages = true) :
    ∃ system user, messages = [(text "system",system),(text "user",user)] := by
  simp only [messagesAreValid,decide_eq_true_iff] at h
  match messages,h with
  | [(_,system),(_,user)],h =>
    simp only [List.map_cons,List.map_nil,List.cons.injEq,and_true] at h
    exact ⟨system,user,by rw [h.1,h.2]⟩

/-- What is signed of two messages. -/
theorem renderedInput_pair {system user : Text} {payload : Json}
    (h : renderedInput [(text "system",system),(text "user",user)] = some payload) :
    ∃ first second, exactUtf8Bytes system = some first ∧ exactUtf8Bytes user = some second ∧
      payload = .dict [(text "messages",.list [
          .dict [(text "content_bytes",first),(text "ordinal",.int 1),(text "role",.str (text "system"))],
          .dict [(text "content_bytes",second),(text "ordinal",.int 2),(text "role",.str (text "user"))]]),
        (text "model_config_identity",.str (text "rag-answer-model-config:v1")),
        (text "output_schema_identity",.str (text "rag-answer-blocks:v1"))] := by
  cases hs : exactUtf8Bytes system with
  | none => simp [renderedInput,numbered,hs] at h
  | some first =>
    cases hu : exactUtf8Bytes user with
    | none => simp [renderedInput,numbered,hs,hu] at h
    | some second =>
      simp [renderedInput,numbered,hs,hu] at h
      exact ⟨first,second,rfl,rfl,h.symm⟩

/-- The messages are read off their signature. -/
theorem messages_of_signed {v v' : PreparedAnswerInput} (forgery : NoForgery m v v') (ascii : KeepsAscii m.signing)
    (hv : messagesAreValid v.messages = true) (hv' : messagesAreValid v'.messages = true)
    (h : renderedInputHmac m v.messages = some v.renderedInputHmac)
    (h' : renderedInputHmac m v'.messages = some v.renderedInputHmac) : v.messages = v'.messages := by
  obtain ⟨payload,hpayload,hsigned⟩ := Option.bind_eq_some_iff.mp h
  obtain ⟨payload',hpayload',hsigned'⟩ := Option.bind_eq_some_iff.mp h'
  obtain ⟨bytes,hbytes,hhmac⟩ := artifactBytes_of_sign hsigned
  obtain ⟨bytes',hbytes',hhmac'⟩ := artifactBytes_of_sign hsigned'
  have hmem : bytes ∈ signedBytes m v := Or.inl (by rw [hpayload]; exact hbytes)
  have hmem' : bytes' ∈ signedBytes m v' := Or.inl (by rw [hpayload']; exact hbytes')
  obtain rfl := forgery (Or.inl hmem) (Or.inr hmem') (hhmac.symm.trans hhmac')
  obtain ⟨hkeys,hsame⟩ := artifactBytes_same hbytes hbytes'
  obtain ⟨system,user,hm⟩ := messages_of_valid hv
  obtain ⟨system',user',hm'⟩ := messages_of_valid hv'
  rw [hm] at hpayload
  rw [hm'] at hpayload'
  obtain ⟨first,second,hfirst,hsecond,rfl⟩ := renderedInput_pair hpayload
  obtain ⟨first',second',hfirst',hsecond',rfl⟩ := renderedInput_pair hpayload'
  simp only [Json.mapText,Json.mapEntries,Json.mapItems] at hkeys hsame
  have hvalues := hsame.values (hkeys _ (.refl _)) rfl
  simp only [List.map_cons,List.forall₂_cons] at hvalues
  obtain ⟨hitems,-⟩ := hvalues
  simp only [Json.every_dict,Json.every_list,List.forall_mem_cons] at hkeys
  obtain ⟨-,⟨-,hkeys,hkeys',-⟩,-⟩ := hkeys
  cases hitems with
  | list hitems =>
    simp only [List.forall₂_cons] at hitems
    have hcontents := hitems.1.values hkeys.1 rfl
    have hcontents' := hitems.2.1.values hkeys'.1 rfl
    simp only [List.map_cons,List.forall₂_cons] at hcontents hcontents'
    rw [hm,hm',content_of_same ascii hfirst hfirst' hkeys.2.1 hcontents.1,
      content_of_same ascii hsecond hsecond' hkeys'.2.1 hcontents'.1]

theorem eq_value {d e : Decimal} (h : d.eq e = true) : d.value = e.value := by
  simp only [Decimal.eq,Bool.and_eq_true,decide_eq_true_iff] at h
  exact h.2

theorem sameBudget_numbers {b c : PreparedPaidCallBudget} (h : sameBudget b c = true) :
    b.estimatedInputTokens = c.estimatedInputTokens ∧ b.maximumOutputTokens = c.maximumOutputTokens ∧
      b.reservedCostUsd.value = c.reservedCostUsd.value ∧ b.costPolicySnapshotHmac = c.costPolicySnapshotHmac ∧
      b.estimatorInputHmac = c.estimatorInputHmac := by
  simp only [sameBudget,Bool.and_eq_true,decide_eq_true_iff] at h
  obtain ⟨⟨⟨⟨⟨_,htokens⟩,hmaximum⟩,hcost⟩,hpolicy⟩,hestimator⟩ := h
  exact ⟨htokens,hmaximum,eq_value hcost,hpolicy,hestimator⟩

/-- The contents are read off the messages. -/
theorem contents_of_messages (verbatim : Verbatim m.format) {question question' : Text}
    {slots slots' : List EvidenceSlot} {messages : List Message}
    (h : renderAnswerMessages m.format question slots = some messages)
    (h' : renderAnswerMessages m.format question' slots' = some messages) : contents slots = contents slots' := by
  have hmessages := (questionFromMessages_render verbatim h).symm.trans (questionFromMessages_render verbatim h')
  simp only [List.cons.injEq,Prod.mk.injEq,true_and,and_true] at hmessages
  have hshown := congrArg (List.map fun s : Text × SupportMode × Text => s.2.2) (userContent_inj hmessages).2
  simpa [contents,shown,Function.comp_def] using hshown

/-- An input that was changed in one part is not accepted. -/
theorem Tampers.rejected {v v' : PreparedAnswerInput} (tampers : Tampers v v') (verbatim : Verbatim m.format)
    (ascii : KeepsAscii m.signing) (forgery : NoForgery m v v') (h : preparedInputIsValid m v = true) :
    preparedInputIsValid m v' = false := by
  rw [← Bool.not_eq_true]
  intro h'
  obtain ⟨hw,question,budget,hr⟩ := preparedInputIsValid_iff.mp h
  obtain ⟨hw',question',budget',hr'⟩ := preparedInputIsValid_iff.mp h'
  have hbudget : v.messages = v'.messages → budget = budget' := by
    intro hm
    have hpriced := hr.priced
    rw [hm,hr'.priced] at hpriced
    exact (Except.ok.inj hpriced).symm
  cases tampers with
  | messages messages hne => exact hne (messages_of_signed forgery ascii hw.messages hw'.messages hr.signed hr'.signed).symm
  | contents slots hne => exact hne (contents_of_messages verbatim hr'.rendered hr.rendered)
  | answerQuestionHmac hmac hne =>
    obtain ⟨hkeys,hsame⟩ := sealed_same forgery hr.sealed hr'.sealed
    exact hne (request_of_same ascii hkeys hsame hw.answerQuestion hw'.answerQuestion hw.retrievalQuery
      hw'.retrievalQuery).1.symm
  | retrievalQueryHmac hmac hne =>
    obtain ⟨hkeys,hsame⟩ := sealed_same forgery hr.sealed hr'.sealed
    exact hne (request_of_same ascii hkeys hsame hw.answerQuestion hw'.answerQuestion hw.retrievalQuery
      hw'.retrievalQuery).2.symm
  | renderedInputHmac hmac hne => exact hne (Option.some.inj (hr'.signed.symm.trans hr.signed))
  | generationEstimatorInputHmac hmac hne =>
    apply hne
    rw [hr.estimator,hbudget rfl]
    exact hr'.estimator
  | encodedInputTokens n hne =>
    apply hne
    rw [hr.encoded,hbudget rfl]
    exact hr'.encoded
  | framedInputTokens n hne =>
    apply hne
    rw [hr.framed,hbudget rfl]
    exact hr'.framed
  | reservedCostUsd d hne =>
    apply hne
    rw [eq_value hr.reserved,hbudget rfl]
    exact eq_value hr'.reserved
  | modelConfigSnapshotHmac hmac hne => exact hne (hw'.config.trans hw.config.symm)
  | providerPolicySnapshotHmac hmac hne => exact hne (hw'.policy.trans hw.policy.symm)
  | preparedInputHmac hmac hne => exact hne (Option.some.inj (hr'.sealed.symm.trans hr.sealed))
  | budget b hne =>
    obtain ⟨htokens,hmaximum,hcost,hpolicy,hestimator⟩ := sameBudget_numbers hr.same
    obtain ⟨htokens',hmaximum',hcost',hpolicy',hestimator'⟩ := sameBudget_numbers hr'.same
    rw [htokens,hmaximum,hcost,hpolicy,hestimator,hbudget rfl] at hne
    rcases hne with hne | hne | hne | hne | hne
    · exact hne htokens'
    · exact hne hmaximum'
    · exact hne hcost'
    · exact hne hpolicy'
    · exact hne hestimator'

/-! ## Preparation -/

/-- The slots that the scanner lets through. -/
def approved (m : StructuredRagAnswerModel) (slots : List EvidenceSlot) : List EvidenceSlot :=
  slots.filter fun slot => m.scan slot.evidence.modelContent

variable {question answerQuestionHmac retrievalQueryHmac : Text} {slots : List EvidenceSlot}

end seals

/-! ## A sample -/

def zeros : Text := List.replicate 64 (ofChar '0')

theorem zeros_isHex : LowerHex64 zeros := by
  refine ⟨List.length_replicate,?_⟩
  intro c hc
  rw [List.eq_of_mem_replicate hc]
  rfl

/-- A policy that has room for everything, and a digest that says nothing. -/
def roomyModel : StructuredRagAnswerModel where
  format system human := [.system (some system),.human (some human)]
  scan _ := true
  signing := ⟨id,fun _ _ => zeros,⟨1000,1000,4300⟩,⟨#[1]⟩⟩
  prepareAnswerGeneration _ := .ok ⟨text "answer_generation",600,512,.finite false 1 (-3),zeros,zeros⟩
  modelConfigSnapshotHmac := zeros
  policyHmac := zeros
  authorizedPolicySnapshotHmac := some zeros
  configIsHex := zeros_isHex
  policyIsHex := zeros_isHex
  authorized := rfl

end ParaWorks.Generation
