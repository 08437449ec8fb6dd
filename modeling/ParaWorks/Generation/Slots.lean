import ParaWorks.Fingerprints
import ParaWorks.Retrieval.Contracts

/-!
# Evidence slots

The evidence that an answer may cite, numbered `E1` and on, and the exact bytes of a text as the answer model signs them.
-/

namespace ParaWorks.Generation

open Lib Retrieval

/-- The score of a slot is `none` where it is not finite. -/
structure EvidenceSlot where
  slotId : Text
  supportMode : SupportMode
  evidence : ServingEvidence
  relevanceScore : Option ℚ
  matchedTerms : List Text
  deriving DecidableEq

def supportText : SupportMode → Text
  | .trustedFact => text "trusted_fact"
  | .sourceObservation => text "source_observation"

theorem supportText_injective : Function.Injective supportText := by
  intro a b h
  cases a <;> cases b <;> first | rfl | exact absurd h (by decide)

/-- `f'E{index}'`. -/
def slotName (index : Nat) : Text := ofChar 'E'::Json.digits index

theorem slotName_injective : Function.Injective slotName := by
  intro a b h
  have hd : Json.digits a = Json.digits b := (List.cons.inj h).2
  exact Json.digits_inj hd

/-- `tuple(f'E{i}' for i in range(1, n + 1))`. -/
def slotNames (n : Nat) : List Text := (List.range n).map fun i => slotName (i+1)

theorem slotNames_nodup (n : Nat) : (slotNames n).Nodup :=
  List.nodup_range.map fun _ _ h => Nat.succ_injective (slotName_injective h)

/-- A tuple of slots as the answer model takes it. -/
structure NumberedSlots where
  slots : List EvidenceSlot
  few : slots.length ≤ 8
  numbered : slots.map (·.slotId) = slotNames slots.length

theorem NumberedSlots.nodup (n : NumberedSlots) : (n.slots.map (·.slotId)).Nodup := by
  rw [n.numbered]
  exact slotNames_nodup _

/-- An observation read from one chunk, with empty texts for what no one here looks at. -/
def observedEvidence (content : Text) : ServingEvidence :=
  let version : RawServingVersionEnvelope := ⟨[],1,[],1,1,1,1,1,none,[],[],[],[],[],[],[],text "restricted"⟩
  ⟨[],.rawChunk,[],none,.sourceObservation,content,[],text "restricted",[],[],[],[],.raw version,
    .rawChunk ⟨[],version⟩⟩

def observedSlot (index : Nat) (content : Text) : EvidenceSlot :=
  ⟨slotName index,.sourceObservation,observedEvidence content,some 1,[]⟩

/-! ## Exact bytes -/

def unsupportedScalar (c : CodePoint) : Bool := c.val = 0 || (0xd800 ≤ c.val && c.val ≤ 0xdfff)

/-- The bytes of `utf8`, one after another. -/
def utf8Bytes (t : Text) : Option (List UInt8) := (t.mapM scalar).map (·.flatMap String.utf8EncodeChar)

theorem utf8_eq (t : Text) : utf8 t = (utf8Bytes t).map List.toByteArray := by
  unfold utf8 utf8Bytes
  cases t.mapM scalar with
  | none => rfl
  | some cs =>
    simp only [Option.map_some,String.toUTF8_eq_toByteArray,String.toByteArray_ofList]
    rfl

theorem utf8Bytes_injective {t u : Text} {bytes : List UInt8} (ht : utf8Bytes t = some bytes)
    (hu : utf8Bytes u = some bytes) : t = u := by
  have ht' : utf8 t = some bytes.toByteArray := by rw [utf8_eq,ht]; rfl
  have hu' : utf8 u = some bytes.toByteArray := by rw [utf8_eq,hu]; rfl
  exact utf8_injective ht' hu'

/-- `StrictUnicodeScalarValidator.validate(t).encode('utf-8')`, none where it raises. -/
def strictUnicodeScalars (t : Text) : Option (List UInt8) := if t.any unsupportedScalar then none else utf8Bytes t

def hexBytes (bytes : List UInt8) : Text :=
  bytes.flatMap fun b => [Json.hexDigit (b.toNat/16),Json.hexDigit (b.toNat%16)]

def exactUtf8Bytes (t : Text) : Option Json :=
  (strictUnicodeScalars t).map fun bytes =>
    .dict [(text "byte_length",.int bytes.length),(text "utf8_hex",.str (hexBytes bytes))]

theorem scalar_isSome {c : CodePoint} (h : unsupportedScalar c = false) : ∃ d, scalar c = some d := by
  simp only [unsupportedScalar,Bool.or_eq_false_iff,Bool.and_eq_false_iff,decide_eq_false_iff_not] at h
  have hvalid : c.val.isValidChar := by
    have hc := c.isLt
    unfold Nat.isValidChar
    omega
  exact ⟨_,dif_pos hvalid⟩

/-- A text of scalar values is encoded. -/
theorem utf8_isSome {t : Text} (h : t.any unsupportedScalar = false) : (utf8 t).isSome = true := by
  have hmap : ∃ cs, t.mapM scalar = some cs := by
    induction t with
    | nil => exact ⟨[],rfl⟩
    | cons c t ih =>
      rw [List.any_cons,Bool.or_eq_false_iff] at h
      obtain ⟨d,hd⟩ := scalar_isSome h.1
      obtain ⟨ds,hds⟩ := ih h.2
      exact ⟨d::ds,by simp [List.mapM_cons,hd,hds]⟩
  obtain ⟨cs,hcs⟩ := hmap
  simp [utf8,hcs]

theorem exists_exactUtf8Bytes {t : Text} (h : t.any unsupportedScalar = false) : ∃ j, exactUtf8Bytes t = some j := by
  have hsome := utf8_isSome h
  rw [utf8_eq,Option.isSome_map] at hsome
  obtain ⟨bytes,hbytes⟩ := Option.isSome_iff_exists.mp hsome
  simp [exactUtf8Bytes,strictUnicodeScalars,h,hbytes]

end ParaWorks.Generation
