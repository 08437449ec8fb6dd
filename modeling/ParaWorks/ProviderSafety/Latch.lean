import ParaWorks.Fingerprints
import ParaWorks.Ledger.Contracts
import ParaWorks.Lib.JsonCodec
import ParaWorks.Release.Authority

/-!
# The latch file of provider safety

The signed envelope that names the active provider family of each paid component and the state of every family. It is
kept in a file of canonical JSON, which the service reads back with every check after each write.
-/

namespace ParaWorks.ProviderSafety

open Lib
open Ledger (RagPaidComponent)
open Release (lowerHmac)

/-! ## Values -/

/-- `ProviderSafetyState` -/
inductive SafetyState where
  | ready
  | rebindRequired
  | blockedOverrun
  | blockedRemediation
  deriving DecidableEq

inductive BlockerCategory where
  | providerUsageOverrun
  | providerResponseIdentityInvalid
  | providerEmbeddingPayloadInvalid
  | providerSafetyUnavailable
  deriving DecidableEq

def componentName : RagPaidComponent → Text
  | .queryEmbedding => text "query_embedding"
  | .answerGeneration => text "answer_generation"

def SafetyState.name : SafetyState → Text
  | ready => text "ready"
  | rebindRequired => text "rebind_required"
  | blockedOverrun => text "blocked_overrun"
  | blockedRemediation => text "blocked_remediation"

def BlockerCategory.name : BlockerCategory → Text
  | providerUsageOverrun => text "provider_usage_overrun"
  | providerResponseIdentityInvalid => text "provider_response_identity_invalid"
  | providerEmbeddingPayloadInvalid => text "provider_embedding_payload_invalid"
  | providerSafetyUnavailable => text "provider_safety_unavailable"

structure FamilyIdentity where
  component : RagPaidComponent
  model : Text
  provider : Text
  reasoningOrConfigIdentity : Text
  deriving DecidableEq

/-- `_identity_tuple` -/
def FamilyIdentity.tuple (i : FamilyIdentity) : List Text :=
  [componentName i.component,i.model,i.provider,i.reasoningOrConfigIdentity]

/-- The run that first blocked a family. -/
structure FirstBlocker where
  agentRunHmac : Text
  category : BlockerCategory
  observedAt : Text
  deriving DecidableEq

structure FamilyRecord where
  identity : FamilyIdentity
  authorizedPolicySnapshotHmac : Text
  familySafetyGeneration : Nat
  firstBlocker : Option FirstBlocker
  reviewedTransitionReferenceHmac : Option Text
  state : SafetyState
  stateVersion : Nat
  deriving DecidableEq

/-- `active_family_by_component` -/
structure ActiveFamilies where
  answerGeneration : FamilyIdentity
  queryEmbedding : FamilyIdentity
  deriving DecidableEq

def ActiveFamilies.get (active : ActiveFamilies) : RagPaidComponent → FamilyIdentity
  | .answerGeneration => active.answerGeneration
  | .queryEmbedding => active.queryEmbedding

def ActiveFamilies.set (active : ActiveFamilies) (component : RagPaidComponent) (identity : FamilyIdentity) :
    ActiveFamilies :=
  match component with
  | .answerGeneration => { active with answerGeneration := identity }
  | .queryEmbedding => { active with queryEmbedding := identity }

structure Body where
  activeFamilyByComponent : ActiveFamilies
  authorityUuid : Text
  designatedEnvironmentId : Text
  familyRecords : List FamilyRecord
  globalSafetyGeneration : Nat
  deriving DecidableEq

structure SignedPayload where
  body : Body
  fingerprintKeyMaterialVerifier : Text
  fingerprintKeyVersion : Text
  deriving DecidableEq

structure Envelope where
  hmacSha256 : Text
  signedPayload : SignedPayload
  deriving DecidableEq

abbrev Envelope.body (e : Envelope) : Body := e.signedPayload.body

/-! ## The JSON form -/

theorem componentName_injective : Function.Injective componentName := by
  intro a b h
  cases a <;> cases b <;> first | rfl | exact absurd h (by decide)

theorem stateName_injective : Function.Injective SafetyState.name := by
  intro a b h
  cases a <;> cases b <;> first | rfl | exact absurd h (by decide)

theorem categoryName_injective : Function.Injective BlockerCategory.name := by
  intro a b h
  cases a <;> cases b <;> first | rfl | exact absurd h (by decide)

def componentCodec : Codec RagPaidComponent :=
  .word [.queryEmbedding,.answerGeneration] componentName (fun c => by cases c <;> simp) componentName_injective

def stateCodec : Codec SafetyState :=
  .word [.ready,.rebindRequired,.blockedOverrun,.blockedRemediation] SafetyState.name (fun s => by cases s <;> simp)
    stateName_injective

def categoryCodec : Codec BlockerCategory :=
  .word [.providerUsageOverrun,.providerResponseIdentityInvalid,.providerEmbeddingPayloadInvalid,
    .providerSafetyUnavailable] BlockerCategory.name (fun c => by cases c <;> simp) categoryName_injective

def optionalText : Codec (Option Text) := Codec.text.nullable rfl

def optionalCategory : Codec (Option BlockerCategory) := categoryCodec.nullable rfl

def identityKeys : List Text := [text "component",text "model",text "provider",text "reasoning_or_config_identity"]

def recordKeys : List Text :=
  [text "authorized_policy_snapshot_hmac",text "component",text "family_safety_generation",
    text "first_blocker_agent_run_hmac",text "first_blocker_category",text "first_blocker_observed_at",text "model",
    text "provider",text "reasoning_or_config_identity",text "reviewed_transition_reference_hmac",text "state",
    text "state_version"]

def bodyKeys : List Text :=
  [text "active_family_by_component",text "authority_uuid",text "designated_environment_id",text "family_records",
    text "global_safety_generation",text "latch_schema_version"]

def signedKeys : List Text := [text "body",text "fingerprint_key_material_verifier",text "fingerprint_key_version"]

def envelopeKeys : List Text := [text "hmac_sha256",text "signed_payload"]

def activeKeys : List Text := [text "answer_generation",text "query_embedding"]

theorem identityKeys_sorted : identityKeys.Pairwise (· < ·) := by decide

theorem recordKeys_sorted : recordKeys.Pairwise (· < ·) := by decide +kernel

theorem bodyKeys_sorted : bodyKeys.Pairwise (· < ·) := by decide +kernel

theorem signedKeys_sorted : signedKeys.Pairwise (· < ·) := by decide

theorem envelopeKeys_sorted : envelopeKeys.Pairwise (· < ·) := by decide

theorem activeKeys_sorted : activeKeys.Pairwise (· < ·) := by decide

def identityCodec : Codec FamilyIdentity :=
  (Codec.object identityKeys identityKeys_sorted
    (.cons componentCodec <| .cons .text <| .cons .text <| .cons .text .nil) rfl).refine
    (fun (c,m,p,r,_) => some ⟨c,m,p,r⟩) (fun i => (i.component,i.model,i.provider,i.reasoningOrConfigIdentity,()))
    (fun _ => rfl) fun _ _ h => by obtain rfl := Option.some.inj h; rfl

/-- The three fields of a blocker, which are there together or not at all. -/
def blockerOf : Option Text → Option BlockerCategory → Option Text → Option (Option FirstBlocker)
  | none, none, none => some none
  | some run, some category, some observedAt => some (some ⟨run,category,observedAt⟩)
  | _, _, _ => none

def recordCodec : Codec FamilyRecord :=
  (Codec.object recordKeys recordKeys_sorted
    (.cons .text <| .cons componentCodec <| .cons .nat <| .cons optionalText <| .cons optionalCategory <|
      .cons optionalText <| .cons .text <| .cons .text <| .cons .text <| .cons optionalText <| .cons stateCodec <|
      .cons .nat .nil) rfl).refine
    (fun (policy,c,generation,run,category,observedAt,m,p,r,reference,state,version,_) =>
      (blockerOf run category observedAt).map fun blocker =>
        ⟨⟨c,m,p,r⟩,policy,generation,blocker,reference,state,version⟩)
    (fun f => (f.authorizedPolicySnapshotHmac,f.identity.component,f.familySafetyGeneration,
      f.firstBlocker.map (·.agentRunHmac),f.firstBlocker.map (·.category),f.firstBlocker.map (·.observedAt),
      f.identity.model,f.identity.provider,f.identity.reasoningOrConfigIdentity,f.reviewedTransitionReferenceHmac,f.state,
      f.stateVersion,()))
    (fun f => by
      obtain ⟨identity,policy,generation,blocker,reference,state,version⟩ := f
      cases blocker <;> rfl)
    (fun a f h => by
      obtain ⟨policy,c,generation,run,category,observedAt,m,p,r,reference,state,version,u⟩ := a
      obtain ⟨blocker,hblocker,rfl⟩ := Option.map_eq_some_iff.mp h
      cases run <;> cases category <;> cases observedAt <;> cases hblocker <;> rfl)

def activeCodec : Codec ActiveFamilies :=
  (Codec.object activeKeys activeKeys_sorted (.cons identityCodec <| .cons identityCodec .nil) rfl).refine
    (fun (answer,query,_) => some ⟨answer,query⟩) (fun a => (a.answerGeneration,a.queryEmbedding,()))
    (fun _ => rfl) fun _ _ h => by obtain rfl := Option.some.inj h; rfl

def latchSchemaVersion : Text := text "rag-provider-safety-latch-body:v1"

def bodyCodec : Codec Body :=
  (Codec.object bodyKeys bodyKeys_sorted
    (.cons activeCodec <| .cons .text <| .cons .text <| .cons recordCodec.list <| .cons .nat <| .cons .text .nil)
    rfl).refine
    (fun (active,uuid,environment,records,generation,schema,_) =>
      if schema = latchSchemaVersion then some ⟨active,uuid,environment,records,generation⟩ else none)
    (fun b => (b.activeFamilyByComponent,b.authorityUuid,b.designatedEnvironmentId,b.familyRecords,
      b.globalSafetyGeneration,latchSchemaVersion,()))
    (fun _ => if_pos rfl)
    (fun a b h => by
      obtain ⟨active,uuid,environment,records,generation,schema,u⟩ := a
      dsimp only at h
      split_ifs at h with hschema
      obtain rfl := Option.some.inj h
      rw [hschema])

def signedCodec : Codec SignedPayload :=
  (Codec.object signedKeys signedKeys_sorted (.cons bodyCodec <| .cons .text <| .cons .text .nil) rfl).refine
    (fun (body,verifier,version,_) => some ⟨body,verifier,version⟩)
    (fun p => (p.body,p.fingerprintKeyMaterialVerifier,p.fingerprintKeyVersion,()))
    (fun _ => rfl) fun _ _ h => by obtain rfl := Option.some.inj h; rfl

def envelopeCodec : Codec Envelope :=
  (Codec.object envelopeKeys envelopeKeys_sorted (.cons .text <| .cons signedCodec .nil) rfl).refine
    (fun (signature,signed,_) => some ⟨signature,signed⟩) (fun e => (e.hmacSha256,e.signedPayload,()))
    (fun _ => rfl) fun _ _ h => by obtain rfl := Option.some.inj h; rfl

/-! ## The service's authority -/

/-- What a `RagProviderSafetyService` is made with, and the parts of the interpreter that it relies on: the Unicode
database, the limits, the two digests, and the readers of a UUID and of an ISO timestamp with an offset. -/
structure Service where
  nfc : Text → Text
  limits : Fingerprints.Limits
  secret : ByteArray
  hexdigest : ByteArray → ByteArray → Text
  sha256 : ByteArray → Text
  environment : Text
  isUuid : Text → Bool
  isAware : Text → Bool

/-- `rag_identity_hmac` with the service's secret -/
def Service.identityHmac (s : Service) (schemaVersion policyVersion : Text) (value : Json) : Option Text :=
  (Fingerprints.keyedFingerprint s.nfc s.hexdigest s.limits s.secret schemaVersion policyVersion value).toOption

/-- `_signature` -/
def Service.signature (s : Service) (signed : SignedPayload) : Option Text :=
  s.identityHmac (text "rag-provider-safety-latch-envelope:v1") (text "rag-provider-safety-latch-body:v1")
    (signedCodec.encode signed)

/-- `_file_digest_bytes` of a file's bytes -/
def Service.fileDigest (s : Service) (raw : ByteArray) : Text :=
  s.sha256 ("paraworks:provider-safety-envelope-file:v1\x00".toUTF8++raw)

/-- `_wrap` -/
def Service.wrap (s : Service) (body : Body) (keyVersion keyVerifier : Text) : Option Envelope :=
  (s.signature ⟨body,keyVerifier,keyVersion⟩).map (⟨·,⟨body,keyVerifier,keyVersion⟩⟩)

/-- What `_validate_envelope` requires of a family record. -/
structure FamilyRecord.Valid (s : Service) (generation : Nat) (f : FamilyRecord) : Prop where
  model : strip f.identity.model ≠ []
  provider : strip f.identity.provider ≠ []
  config : strip f.identity.reasoningOrConfigIdentity ≠ []
  version : 1 ≤ f.stateVersion
  familyGeneration : f.familySafetyGeneration ≤ generation
  policy : lowerHmac f.authorizedPolicySnapshotHmac = true
  reference : ∀ reference ∈ f.reviewedTransitionReferenceHmac, lowerHmac reference = true
  blocker : ∀ blocker ∈ f.firstBlocker, lowerHmac blocker.agentRunHmac = true ∧ s.isAware blocker.observedAt = true

instance FamilyRecord.Valid.decidable (s : Service) (generation : Nat) (f : FamilyRecord) : Decidable (f.Valid s generation) :=
  decidable_of_iff
    (strip f.identity.model ≠ [] ∧ strip f.identity.provider ≠ [] ∧ strip f.identity.reasoningOrConfigIdentity ≠ [] ∧
      1 ≤ f.stateVersion ∧ f.familySafetyGeneration ≤ generation ∧ lowerHmac f.authorizedPolicySnapshotHmac = true ∧
      (∀ reference ∈ f.reviewedTransitionReferenceHmac, lowerHmac reference = true) ∧
      ∀ blocker ∈ f.firstBlocker, lowerHmac blocker.agentRunHmac = true ∧ s.isAware blocker.observedAt = true)
    ⟨fun ⟨hm,hp,hc,hv,hg,ha,hr,hb⟩ => ⟨hm,hp,hc,hv,hg,ha,hr,hb⟩,
      fun ⟨hm,hp,hc,hv,hg,ha,hr,hb⟩ => ⟨hm,hp,hc,hv,hg,ha,hr,hb⟩⟩

/-- What `_validate_envelope` requires of a body: at least two families, in order and each once, and for each component an
active one among them. -/
structure Body.Valid (s : Service) (b : Body) : Prop where
  environment : b.designatedEnvironmentId = s.environment
  uuid : s.isUuid b.authorityUuid = true
  two : 2 ≤ b.familyRecords.length
  records : ∀ f ∈ b.familyRecords, f.Valid s b.globalSafetyGeneration
  distinct : (b.familyRecords.map (·.identity)).Nodup
  ordered : (b.familyRecords.map (·.identity.tuple)).Pairwise (· ≤ ·)
  component : ∀ c, (b.activeFamilyByComponent.get c).component = c
  active : ∀ c, b.activeFamilyByComponent.get c ∈ b.familyRecords.map (·.identity)

instance Body.Valid.decidable (s : Service) (b : Body) : Decidable (b.Valid s) :=
  decidable_of_iff
    (b.designatedEnvironmentId = s.environment ∧ s.isUuid b.authorityUuid = true ∧ 2 ≤ b.familyRecords.length ∧
      (∀ f ∈ b.familyRecords, f.Valid s b.globalSafetyGeneration) ∧ (b.familyRecords.map (·.identity)).Nodup ∧
      (b.familyRecords.map (·.identity.tuple)).Pairwise (· ≤ ·) ∧
      ∀ c ∈ Ledger.componentOrder, (b.activeFamilyByComponent.get c).component = c ∧
        b.activeFamilyByComponent.get c ∈ b.familyRecords.map (·.identity))
    ⟨fun ⟨he,hu,ht,hr,hd,ho,ha⟩ =>
        ⟨he,hu,ht,hr,hd,ho,fun c => (ha c (by cases c <;> decide)).1,fun c => (ha c (by cases c <;> decide)).2⟩,
      fun ⟨he,hu,ht,hr,hd,ho,hc,ha⟩ => ⟨he,hu,ht,hr,hd,ho,fun c _ => ⟨hc c,ha c⟩⟩⟩

/-- What `_validate_envelope` requires. -/
structure Envelope.Valid (s : Service) (e : Envelope) : Prop where
  signature : s.signature e.signedPayload = some e.hmacSha256
  keyVersion : strip e.signedPayload.fingerprintKeyVersion ≠ []
  keyVerifier : lowerHmac e.signedPayload.fingerprintKeyMaterialVerifier = true
  body : e.body.Valid s

instance Envelope.Valid.decidable (s : Service) (e : Envelope) : Decidable (e.Valid s) :=
  decidable_of_iff
    (s.signature e.signedPayload = some e.hmacSha256 ∧ strip e.signedPayload.fingerprintKeyVersion ≠ [] ∧
      lowerHmac e.signedPayload.fingerprintKeyMaterialVerifier = true ∧ e.body.Valid s)
    ⟨fun ⟨hs,hv,hk,hb⟩ => ⟨hs,hv,hk,hb⟩,fun ⟨hs,hv,hk,hb⟩ => ⟨hs,hv,hk,hb⟩⟩

/-- A file that was read with every check. -/
structure Latch (s : Service) where
  envelope : Envelope
  valid : envelope.Valid s
  envelopeDigest : Text

abbrev Latch.body {s : Service} (latch : Latch s) : Body := latch.envelope.body

/-- `_read_unlocked`, none where it raises. The file is its text, which the service holds in UTF-8. -/
def readUnlocked (s : Service) (file : Text) : Option (Latch s) := do
  let raw ← utf8 file
  let parsed ← (← Loaded.loads file).toJson
  let canonical ← (Fingerprints.canonicalJsonBytes s.nfc s.limits parsed).toOption
  if canonical = raw then
    let envelope ← envelopeCodec.decode parsed
    if h : envelope.Valid s then some ⟨envelope,h,s.fileDigest raw⟩ else none
  else none

/-- The text that `_replace_unlocked` writes, none where it raises before it has one. -/
def replaceUnlocked (s : Service) (e : Envelope) : Option Text := do
  let printed ← (Json.dumps s.limits.maxStrDigits (envelopeCodec.encode e).sortKeys s.limits.encoderFrames).toOption
  let _ ← utf8 printed
  some printed

/-! ## Reading what was written -/

/-- The canonical printer prints the envelope as it was written. -/
def Settled (s : Service) (e : Envelope) : Prop :=
  ((envelopeCodec.encode e).mapText s.nfc).sortKeys = envelopeCodec.encode e ∧
    Fingerprints.Canonical s.nfc s.limits (envelopeCodec.encode e)

section format

variable {s : Service} {e : Envelope} {file : Text} {latch : Latch s}

theorem encode_sorted (e : Envelope) : (envelopeCodec.encode e).Every Json.KeysSorted := envelopeCodec.sorted e

theorem toOption_eq_some {ε α : Type} {x : Except ε α} {a : α} : x.toOption = some a ↔ x = .ok a := by
  cases x <;> simp [Except.toOption]

theorem replaceUnlocked_eq_some : replaceUnlocked s e = some file ↔
    Json.Printable s.limits.maxStrDigits s.limits.encoderFrames (envelopeCodec.encode e) ∧
      file = (envelopeCodec.encode e).render ∧ (utf8 file).isSome = true := by
  unfold replaceUnlocked
  simp only [Option.bind_eq_bind,Option.bind_eq_some_iff,toOption_eq_some,Json.dumps_ok,
    Json.sortKeys_of_sorted (encode_sorted e),Option.some.injEq]
  constructor
  · rintro ⟨_,⟨hprintable,rfl⟩,raw,hraw,rfl⟩
    exact ⟨hprintable,rfl,by rw [hraw]; rfl⟩
  · rintro ⟨hprintable,rfl,hutf⟩
    obtain ⟨raw,hraw⟩ := Option.isSome_iff_exists.mp hutf
    exact ⟨_,⟨hprintable,rfl⟩,raw,hraw,rfl⟩

/-- A text that is read is the printed form of one value whose keys are sorted. -/
theorem readUnlocked_eq_some : readUnlocked s file = some latch ↔
    file = (envelopeCodec.encode latch.envelope).render ∧ Settled s latch.envelope ∧
      ∃ raw, utf8 file = some raw ∧ latch.envelopeDigest = s.fileDigest raw := by
  constructor
  · intro h
    unfold readUnlocked at h
    simp only [Option.bind_eq_bind,Option.bind_eq_some_iff,toOption_eq_some] at h
    obtain ⟨raw,hraw,loaded,hloaded,parsed,hparsed,canonical,hcanonical,h⟩ := h
    split_ifs at h with hsame
    obtain ⟨envelope,henvelope,h⟩ := Option.bind_eq_some_iff.mp h
    split_ifs at h with hvalid
    obtain rfl := Option.some.inj h
    subst hsame
    obtain ⟨hcan,hutf⟩ := Fingerprints.canonicalJsonBytes_ok.mp hcanonical
    have hfile := utf8_injective hraw hutf
    have hsorted := Json.every_keysSorted_sortKeys hcan.1.2
    rw [hfile,Loaded.loads_render (Json.every_keysNodup hsorted)] at hloaded
    obtain rfl := Option.some.inj hloaded
    rw [Loaded.toJson_ofJson] at hparsed
    have hparsed := Option.some.inj hparsed
    have hencode : envelopeCodec.encode envelope = parsed :=
      envelopeCodec.encode_decode parsed envelope (hparsed ▸ hsorted) henvelope
    rw [hparsed] at hfile
    refine ⟨hencode ▸ hfile,⟨?_,?_⟩,canonical,hraw,rfl⟩
    · rw [hencode]
      exact hparsed
    · rw [hencode]
      exact hcan
  · rintro ⟨hfile,⟨hsettled,hcan⟩,raw,hraw,hdigest⟩
    obtain ⟨envelope,hvalid,digest⟩ := latch
    dsimp only at *
    have hnodup := Json.every_keysNodup (encode_sorted envelope)
    have hbytes : Fingerprints.canonicalJsonBytes s.nfc s.limits (envelopeCodec.encode envelope) = .ok raw :=
      Fingerprints.canonicalJsonBytes_ok.mpr ⟨hcan,by rw [hsettled,← hfile,hraw]⟩
    unfold readUnlocked
    simp only [Option.bind_eq_bind]
    rw [hraw,Option.bind_some,hfile,Loaded.loads_render hnodup,Option.bind_some,Loaded.toJson_ofJson,Option.bind_some,
      hbytes]
    simp only [Except.toOption,Option.bind_some,if_true,envelopeCodec.decode_encode]
    rw [dif_pos hvalid,hdigest]

/-- What is read after a write is what was written. -/
theorem readUnlocked_replace (hwrite : replaceUnlocked s e = some file) (hread : readUnlocked s file = some latch) :
    latch.envelope = e := by
  obtain ⟨-,hfile,-⟩ := replaceUnlocked_eq_some.mp hwrite
  obtain ⟨hfile',-,-⟩ := readUnlocked_eq_some.mp hread
  have hencode := Json.render_injective (hfile'.symm.trans hfile)
  have hdecode := envelopeCodec.decode_encode latch.envelope
  rw [hencode,envelopeCodec.decode_encode] at hdecode
  exact (Option.some.inj hdecode).symm

/-- Reading inverts writing: a text reads as an envelope exactly when it is the text that is written for it, the envelope
is valid, and its texts and its size are what the canonical printer leaves as they are. -/
theorem latch_file_exact (s : Service) (file : Text) (e : Envelope) :
    (∃ latch, readUnlocked s file = some latch ∧ latch.envelope = e) ↔
      replaceUnlocked s e = some file ∧ e.Valid s ∧ Settled s e := by
  constructor
  · rintro ⟨latch,hread,rfl⟩
    obtain ⟨hfile,hsettled,raw,hraw,-⟩ := readUnlocked_eq_some.mp hread
    refine ⟨replaceUnlocked_eq_some.mpr ⟨?_,hfile,by rw [hraw]; rfl⟩,latch.valid,hsettled⟩
    have hsame := Json.same_sortKeys ((envelopeCodec.encode latch.envelope).mapText s.nfc)
    rw [hsettled.1] at hsame
    exact hsame.printable_iff.mp hsettled.2.2
  · rintro ⟨hwrite,hvalid,hsettled⟩
    obtain ⟨-,hfile,hutf⟩ := replaceUnlocked_eq_some.mp hwrite
    obtain ⟨raw,hraw⟩ := Option.isSome_iff_exists.mp hutf
    exact ⟨⟨e,hvalid,s.fileDigest raw⟩,readUnlocked_eq_some.mpr ⟨hfile,hsettled,raw,hraw,rfl⟩,rfl⟩

end format

end ParaWorks.ProviderSafety
