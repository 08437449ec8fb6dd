import ParaWorks.Lib.JsonPrinter

/-!
# Canonical JSON and keyed fingerprints

The bytes that every keyed fingerprint signs: normalisation of strings and keys to NFC, printing with
sorted keys and UTF-8. The Unicode database and the interpreter's limits are parameters.
-/

namespace ParaWorks.Fingerprints

open Lib

/-- The recursion levels left at the call and the digit limit of integer conversion. -/
structure Limits where
  normalizeFrames : Nat
  encoderFrames : Nat
  maxStrDigits : Nat

inductive FingerprintError
  | duplicateNormalizedKeys
  | nestingTooDeep
  | intTooLong
  | surrogatesNotAllowed
  | secretAndVersionsRequired
  deriving DecidableEq

def FingerprintError.ofDump : Json.DumpError → FingerprintError
  | .nestingTooDeep => .nestingTooDeep
  | .intTooLong => .intTooLong

variable (nfc : Text → Text)

mutual
/-- `_normalize_json_value`; a list takes a second frame for its comprehension. -/
def normalizeJsonValue : Json → Nat → Except FingerprintError Json
  | .list items, frames+2 => do
    let normalized ← normalizeItems items frames
    return .list normalized
  | .dict entries, frames+1 => do
    let normalized ← normalizeEntries entries [] frames
    return .dict normalized
  | .null, _+1 => .ok .null
  | .bool b, _+1 => .ok (.bool b)
  | .int n, _+1 => .ok (.int n)
  | .str t, _+1 => .ok (.str (nfc t))
  | _, _ => .error .nestingTooDeep

def normalizeItems : List Json → Nat → Except FingerprintError (List Json)
  | [], _ => .ok []
  | v::items, frames => do
    let first ← normalizeJsonValue v frames
    let rest ← normalizeItems items frames
    return first::rest

def normalizeEntries : List (Text × Json) → List Text → Nat → Except FingerprintError (List (Text × Json))
  | [], _, _ => .ok []
  | (key,item)::entries, seen, frames =>
    if nfc key ∈ seen then .error .duplicateNormalizedKeys
    else do
      let first ← normalizeJsonValue item frames
      let rest ← normalizeEntries entries (nfc key::seen) frames
      return (nfc key,first)::rest
end

def canonicalJsonBytes (limits : Limits) (value : Json) : Except FingerprintError ByteArray := do
  let normalized ← normalizeJsonValue nfc value limits.normalizeFrames
  let printed ← (Json.dumps limits.maxStrDigits normalized.sortKeys limits.encoderFrames).mapError .ofDump
  match utf8 printed with
  | some bytes => return bytes
  | none => throw .surrogatesNotAllowed

/-- The bytes that `keyed_fingerprint` signs. -/
def keyedPayload (limits : Limits) (schemaVersion policyVersion : Text) (value : Json) :
    Except FingerprintError ByteArray :=
  canonicalJsonBytes nfc limits (.dict [
    (text "domain",.str (text "paraworks:keyed-fingerprint:v1")),
    (text "policy_version",.str policyVersion),
    (text "schema_version",.str schemaVersion),
    (text "value",value)])

def keyedFingerprint (hexdigest : ByteArray → ByteArray → Text) (limits : Limits) (secret : ByteArray)
    (schemaVersion policyVersion : Text) (value : Json) : Except FingerprintError Text := do
  if secret.isEmpty || (strip schemaVersion).isEmpty || (strip policyVersion).isEmpty then
    throw .secretAndVersionsRequired
  let payload ← keyedPayload nfc limits schemaVersion policyVersion value
  return hexdigest secret payload

/-- The value is shallow enough and its keys stay distinct under NFC. -/
def Normalizable (frames : Nat) (v : Json) : Prop :=
  v.depth 1 2 1 ≤ frames ∧ (v.mapText nfc).Every Json.KeysNodup

section normalize

variable {nfc} {frames : Nat}

theorem normalizable_list {items : List Json} :
    Normalizable nfc (frames+2) (.list items) ↔ ∀ v ∈ items, Normalizable nfc frames v := by
  simp [Normalizable,Json.depth_list_le,Json.mapText,Json.mapItems_eq,Json.every_list,Json.KeysNodup,forall_and]

theorem normalizable_dict {entries : List (Text × Json)} :
    Normalizable nfc (frames+1) (.dict entries) ↔
      (entries.map fun e => nfc e.1).Nodup ∧ ∀ e ∈ entries, Normalizable nfc frames e.2 := by
  simp only [Normalizable,Json.depth_dict_le,Json.mapText,Json.mapEntries_eq,Json.every_dict,Json.KeysNodup,
    List.map_map,Function.comp_def,List.forall_mem_map,forall_and,Nat.add_sub_cancel,Nat.le_add_left,true_and]
  exact and_left_comm

theorem normalizeItems_ok {items ws : List Json}
    (ih : ∀ v ∈ items, ∀ w, normalizeJsonValue nfc v frames = .ok w ↔
      Normalizable nfc frames v ∧ v.mapText nfc = w) :
    normalizeItems nfc items frames = .ok ws ↔
      (∀ v ∈ items, Normalizable nfc frames v) ∧ Json.mapItems nfc items = ws := by
  induction items generalizing ws with
  | nil => simp [normalizeItems,Json.mapItems]
  | cons v items ihs =>
    rw [List.forall_mem_cons] at ih
    simp only [normalizeItems,bind_eq_ok,ih.1,ihs ih.2,pure,Except.pure,Except.ok.injEq,Json.mapItems,
      List.forall_mem_cons]
    exact exists_pair_iff

theorem normalizeEntries_ok {entries ws : List (Text × Json)} {seen : List Text}
    (ih : ∀ e ∈ entries, ∀ w, normalizeJsonValue nfc e.2 frames = .ok w ↔
      Normalizable nfc frames e.2 ∧ e.2.mapText nfc = w) :
    normalizeEntries nfc entries seen frames = .ok ws ↔
      ((entries.map fun e => nfc e.1).Nodup ∧ (∀ e ∈ entries, nfc e.1 ∉ seen) ∧
        ∀ e ∈ entries, Normalizable nfc frames e.2) ∧ Json.mapEntries nfc entries = ws := by
  induction entries generalizing ws seen with
  | nil => simp [normalizeEntries,Json.mapEntries]
  | cons e entries ihs =>
    rw [List.forall_mem_cons] at ih
    rw [normalizeEntries]
    split
    · next h => simp [h]
    · next h =>
      have hcons : (∀ d ∈ entries, nfc d.1 ∉ nfc e.1::seen) ↔
          nfc e.1 ∉ entries.map (fun d => nfc d.1) ∧ ∀ d ∈ entries, nfc d.1 ∉ seen := by
        simp only [List.mem_cons,not_or,List.mem_map,not_exists,not_and,forall_and]
      simp only [bind_eq_ok,ih.1,ihs ih.2,pure,Except.pure,Except.ok.injEq,Json.mapEntries,
        List.forall_mem_cons,List.map_cons,List.nodup_cons,hcons]
      rw [exists_pair_iff (f := fun w ws => (nfc e.1,w)::ws)]
      refine and_congr ⟨?_,?_⟩ Iff.rfl
      · rintro ⟨hv,hn,⟨he,hs⟩,hi⟩
        exact ⟨⟨he,hn⟩,⟨h,hs⟩,hv,hi⟩
      · rintro ⟨⟨he,hn⟩,⟨-,hs⟩,hv,hi⟩
        exact ⟨hv,hn,⟨he,hs⟩,hi⟩

/-- `_normalize_json_value` succeeds exactly on shallow values whose keys stay distinct. -/
theorem normalizeJsonValue_ok {v w : Json} :
    normalizeJsonValue nfc v frames = .ok w ↔ Normalizable nfc frames v ∧ v.mapText nfc = w := by
  induction v generalizing frames w with
  | null => cases frames <;> simp [normalizeJsonValue,Normalizable,Json.mapText,Json.depth,Json.KeysNodup]
  | bool b => cases frames <;> simp [normalizeJsonValue,Normalizable,Json.mapText,Json.depth,Json.KeysNodup]
  | int n => cases frames <;> simp [normalizeJsonValue,Normalizable,Json.mapText,Json.depth,Json.KeysNodup]
  | str t => cases frames <;> simp [normalizeJsonValue,Normalizable,Json.mapText,Json.depth,Json.KeysNodup]
  | list items ih =>
    rcases frames with _ | _ | frames
    · simp [normalizeJsonValue,Normalizable,Json.depth]
    · simp [normalizeJsonValue,Normalizable,Json.depth_list_le]
    · simp only [normalizeJsonValue,bind_eq_ok,normalizeItems_ok fun v hv _ => ih v hv,normalizable_list,
        Json.mapText,pure,Except.pure,Except.ok.injEq,and_assoc,exists_and_left,exists_eq_left']
  | dict entries ih =>
    cases frames with
    | zero => simp [normalizeJsonValue,Normalizable,Json.depth]
    | succ frames =>
      simp only [normalizeJsonValue,bind_eq_ok,normalizeEntries_ok fun e he _ => ih e he,normalizable_dict,
        Json.mapText,pure,Except.pure,Except.ok.injEq,and_assoc,exists_and_left,exists_eq_left',
        List.not_mem_nil,not_false_iff,implies_true,true_and]

end normalize

section canonical

variable {nfc} {limits : Limits} {a b : Json} {bytes : ByteArray}

/-- The value is within every limit and its keys stay distinct under NFC. -/
def Canonical (nfc : Text → Text) (limits : Limits) (v : Json) : Prop :=
  Normalizable nfc limits.normalizeFrames v ∧
    Json.Printable limits.maxStrDigits limits.encoderFrames (v.mapText nfc)

theorem canonical_congr (h : a.Same b) : Canonical nfc limits a ↔ Canonical nfc limits b :=
  and_congr (and_congr h.depth_le_iff (h.mapText.every_iff fun _ _ => Json.Same.keysNodup_iff))
    h.mapText.printable_iff

theorem canonicalJsonBytes_ok : canonicalJsonBytes nfc limits a = .ok bytes ↔
    Canonical nfc limits a ∧ utf8 (a.mapText nfc).sortKeys.render = some bytes := by
  have herr : ∀ (x : Except Json.DumpError Text) t, x.mapError FingerprintError.ofDump = .ok t ↔ x = .ok t := by
    intro x t
    cases x <;> simp [Except.mapError]
  have hutf : ∀ t, (match utf8 t with | some bs => pure bs | none => throw .surrogatesNotAllowed :
      Except FingerprintError ByteArray) = .ok bytes ↔ utf8 t = some bytes := by
    intro t
    cases utf8 t <;> simp [pure,Except.pure,throw,throwThe,MonadExceptOf.throw]
  simp only [canonicalJsonBytes,bind_eq_ok,normalizeJsonValue_ok,herr,Json.dumps_ok,hutf,Canonical]
  constructor
  · rintro ⟨_,⟨hn,rfl⟩,_,⟨hp,rfl⟩,hb⟩
    exact ⟨⟨hn,(Json.same_sortKeys _).printable_iff.mpr hp⟩,hb⟩
  · rintro ⟨⟨hn,hp⟩,hb⟩
    exact ⟨_,⟨hn,rfl⟩,_,⟨(Json.same_sortKeys _).printable_iff.mp hp,rfl⟩,hb⟩

/-- Equal bytes, equal values up to NFC and the order of entries. -/
theorem canonicalJsonBytes_eq_iff {limits' : Limits} {bytes' : ByteArray}
    (ha : canonicalJsonBytes nfc limits a = .ok bytes) (hb : canonicalJsonBytes nfc limits' b = .ok bytes') :
    bytes = bytes' ↔ (a.mapText nfc).Same (b.mapText nfc) := by
  rw [canonicalJsonBytes_ok] at ha hb
  constructor
  · rintro rfl
    exact Json.same_of_sortKeys_eq (Json.render_injective (utf8_injective ha.2 hb.2))
  · intro h
    rw [h.sortKeys_eq ha.1.1.2,hb.2] at ha
    exact (Option.some.inj ha.2).symm

theorem canonicalJsonBytes_congr (h : a.Same b) :
    canonicalJsonBytes nfc limits a = .ok bytes ↔ canonicalJsonBytes nfc limits b = .ok bytes := by
  rw [canonicalJsonBytes_ok,canonicalJsonBytes_ok,canonical_congr h]
  refine and_congr_right fun hb => ?_
  rw [h.mapText.sortKeys_eq ((canonical_congr h).mpr hb).1.2]

end canonical

section payload

variable {nfc} {limits : Limits} {schema policy schema' policy' : Text} {a b : Json} {bytes : ByteArray}

theorem keyedPayload_congr (h : a.Same b) : keyedPayload nfc limits schema policy a = .ok bytes ↔
    keyedPayload nfc limits schema policy b = .ok bytes := by
  refine canonicalJsonBytes_congr (Json.same_dict (.refl _) ?_)
  exact .cons ⟨rfl,.refl _⟩ (.cons ⟨rfl,.refl _⟩ (.cons ⟨rfl,.refl _⟩ (.cons ⟨rfl,h⟩ .nil)))

theorem keyedFingerprint_congr {hexdigest : ByteArray → ByteArray → Text} {secret : ByteArray} {digest : Text}
    (h : a.Same b) : keyedFingerprint nfc hexdigest limits secret schema policy a = .ok digest ↔
      keyedFingerprint nfc hexdigest limits secret schema policy b = .ok digest := by
  unfold keyedFingerprint
  split
  · rfl
  · simp only [bind_eq_ok,keyedPayload_congr h]

theorem keyedFingerprint_ok {hexdigest : ByteArray → ByteArray → Text} {secret : ByteArray} {digest : Text}
    (h : keyedFingerprint nfc hexdigest limits secret schema policy a = .ok digest) :
    ∃ bytes, keyedPayload nfc limits schema policy a = .ok bytes ∧ digest = hexdigest secret bytes := by
  unfold keyedFingerprint at h
  split at h
  · cases h
  · obtain ⟨bytes,hbytes,hdigest⟩ := bind_eq_ok.mp h
    exact ⟨bytes,hbytes,(Except.ok.inj hdigest).symm⟩

theorem keyedPayload_inj {limits' : Limits} (ha : keyedPayload nfc limits schema policy a = .ok bytes)
    (hb : keyedPayload nfc limits' schema' policy' b = .ok bytes) :
    nfc schema = nfc schema' ∧ nfc policy = nfc policy' ∧ (a.mapText nfc).Same (b.mapText nfc) := by
  have hsame := (canonicalJsonBytes_eq_iff ha hb).mp rfl
  have hkeys := (canonicalJsonBytes_ok.mp ha).1.1.2 _ (.refl _)
  have hvalues := hsame.values hkeys rfl
  simp only [Json.mapEntries,List.map_cons,List.forall₂_cons,Json.mapText] at hvalues
  obtain ⟨-,hpolicy,hschema,hvalue,-⟩ := hvalues
  exact ⟨hschema.str_inj,hpolicy.str_inj,hvalue⟩

/-- The keys of what was signed are distinct under NFC. -/
theorem keyedPayload_every (ha : keyedPayload nfc limits schema policy a = .ok bytes) :
    (a.mapText nfc).Every Json.KeysNodup := by
  intro w hw
  refine (canonicalJsonBytes_ok.mp ha).1.1.2 w (.entry (e := (nfc (text "value"),a.mapText nfc)) ?_ hw)
  simp [Json.mapEntries]

/-- Keys that collide under NFC anywhere in the value make it fail. -/
theorem canonicalJsonBytes_collision {v : Json} {entries : List (Text × Json)}
    (hw : Json.Within (.dict entries) v) (hk : ¬(entries.map fun e => nfc e.1).Nodup) :
    canonicalJsonBytes nfc limits v ≠ .ok bytes := by
  intro h
  have hnodup := (canonicalJsonBytes_ok.mp h).1.1.2 _ hw.mapText
  simp only [Json.mapText,Json.mapEntries_eq,Json.KeysNodup,List.map_map,Function.comp_def] at hnodup
  exact hk hnodup

end payload

theorem ok_of_toOption {ε α : Type} {x : Except ε α} {a : α} (h : x.toOption = some a) : x = .ok a := by
  cases x <;> simp_all [Except.toOption]

/-- Composing `e` with a following acute accent, the one composition a text of these characters needs. -/
def composeAcute : Text → Text
  | 0x65::0x301::t => 0xe9::composeAcute t
  | c::t => c::composeAcute t
  | [] => []

/-- Versions that NFC identifies share their signed bytes. -/
theorem schema_versions_share_payload :
    ([0xe9] : Text) ≠ [0x65,0x301] ∧
      ∃ bytes, keyedPayload composeAcute ⟨1000,1000,4300⟩ [0xe9] (text "v1") .null = .ok bytes ∧
        keyedPayload composeAcute ⟨1000,1000,4300⟩ [0x65,0x301] (text "v1") .null = .ok bytes := by
  refine ⟨by decide,?_⟩
  have heq : keyedPayload composeAcute ⟨1000,1000,4300⟩ [0x65,0x301] (text "v1") .null =
      keyedPayload composeAcute ⟨1000,1000,4300⟩ [0xe9] (text "v1") .null := rfl
  have hok : (keyedPayload composeAcute ⟨1000,1000,4300⟩ [0xe9] (text "v1") .null).toOption.isSome := by
    decide +kernel
  obtain ⟨bytes,hbytes⟩ := Option.isSome_iff_exists.mp hok
  rw [heq]
  exact ⟨bytes,ok_of_toOption hbytes,ok_of_toOption hbytes⟩

/-- Canonical bytes decide equality up to NFC and key order; a reordering changes neither payload nor
fingerprint, payloads agree on NFC versions and value, and colliding keys fail. -/
theorem canonical_encoding_faithful :
    (∀ (limits limits' : Limits) (a b : Json) (bytes bytes' : ByteArray),
      canonicalJsonBytes nfc limits a = .ok bytes → canonicalJsonBytes nfc limits' b = .ok bytes' →
      (bytes = bytes' ↔ (a.mapText nfc).Same (b.mapText nfc))) ∧
    (∀ (limits : Limits) (schema policy : Text) (a b : Json), a.Same b →
      (∀ bytes, keyedPayload nfc limits schema policy a = .ok bytes ↔
        keyedPayload nfc limits schema policy b = .ok bytes) ∧
      ∀ hexdigest secret digest, keyedFingerprint nfc hexdigest limits secret schema policy a = .ok digest ↔
        keyedFingerprint nfc hexdigest limits secret schema policy b = .ok digest) ∧
    (∀ (limits limits' : Limits) (schema policy schema' policy' : Text) (a b : Json) (bytes : ByteArray),
      keyedPayload nfc limits schema policy a = .ok bytes →
      keyedPayload nfc limits' schema' policy' b = .ok bytes →
      nfc schema = nfc schema' ∧ nfc policy = nfc policy' ∧ (a.mapText nfc).Same (b.mapText nfc)) ∧
    ∀ (limits : Limits) (v : Json) (entries : List (Text × Json)), Json.Within (.dict entries) v →
      ¬(entries.map fun e => nfc e.1).Nodup → ∀ bytes, canonicalJsonBytes nfc limits v ≠ .ok bytes := by
  refine ⟨fun _ _ _ _ _ _ ha hb => canonicalJsonBytes_eq_iff ha hb,?_,?_,?_⟩
  · exact fun _ _ _ _ _ h => ⟨fun _ => keyedPayload_congr h,fun _ _ _ => keyedFingerprint_congr h⟩
  · exact fun _ _ _ _ _ _ _ _ _ ha hb => keyedPayload_inj ha hb
  · exact fun _ _ _ hw hk _ => canonicalJsonBytes_collision hw hk

theorem canonical_encoding_faithful_object :
    (∃ bytes, canonicalJsonBytes composeAcute ⟨1000,1000,4300⟩
        (.dict [(text "b",.int (-12)),(text "a",.bool true)]) = .ok bytes) ∧
      (Json.dict [(text "b",.int (-12)),(text "a",.bool true)]).Same
        (.dict [(text "a",.bool true),(text "b",.int (-12))]) ∧
      ∀ bytes, canonicalJsonBytes composeAcute ⟨1000,1000,4300⟩
        (.list [.dict [([0xe9],.null),([0x65,0x301],.null)]]) ≠ .ok bytes := by
  have hok : (canonicalJsonBytes composeAcute ⟨1000,1000,4300⟩
      (.dict [(text "b",.int (-12)),(text "a",.bool true)])).toOption.isSome := by decide +kernel
  obtain ⟨bytes,hbytes⟩ := Option.isSome_iff_exists.mp hok
  have ha := ok_of_toOption hbytes
  have hb : canonicalJsonBytes composeAcute ⟨1000,1000,4300⟩
      (.dict [(text "a",.bool true),(text "b",.int (-12))]) = .ok bytes := ha
  obtain ⟨heq,-,-,hcollide⟩ := canonical_encoding_faithful composeAcute
  refine ⟨⟨bytes,ha⟩,(heq _ _ _ _ _ _ ha hb).mp rfl,hcollide _ _ _ (.item List.mem_cons_self (.refl _)) ?_⟩
  decide

end ParaWorks.Fingerprints
