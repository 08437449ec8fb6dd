import ParaWorks.Generation.AnswerSchema
import ParaWorks.Lib.Partial

/-!
# The two readings of an answer agree

Both loops read the same raw blocks. What separates them is what a block cites.
-/

namespace ParaWorks.Generation

open Lib Retrieval

/-! ## Raw blocks -/

/-- A block of the right shape. -/
structure RawBlock where
  text : Text
  ids : List Text
  mode : Text

def readBlock (raw : Payload) : Option RawBlock := do
  let [rawText,rawIds,rawMode] ← raw.fields blockKeys | none
  let t ← validateBoundedText rawText 1200
  let .list items := rawIds | none
  if ¬(1 ≤ items.length ∧ items.length ≤ 8) then none
  else
    let ids ← items.mapM Payload.strOf
    if ¬ids.Nodup then none
    else
      let .str given := rawMode | none
      return ⟨t,ids,given⟩

/-- The blocks under `answer_blocks`. -/
def Payload.answerBlocks : Payload → Option (List Payload)
  | .dict entries =>
    match entryOf entries (text "answer_blocks") with
    | some (.list blocks) => some blocks
    | _ => Option.none
  | _ => Option.none

/-- The mode of a block is one of the two. -/
def RawBlock.moded (b : RawBlock) : Prop := b.mode = Lib.text "trusted_fact" ∨ b.mode = Lib.text "source_observation"

instance (b : RawBlock) : Decidable b.moded := inferInstanceAs (Decidable (_ ∨ _))

theorem blockStructure_eq (total : Nat) (raw : Payload) : blockStructure total raw = (readBlock raw).bind fun b =>
    if total+b.text.length > 2400 ∨ ¬b.moded then none else some (total+b.text.length) := by
  unfold blockStructure readBlock
  cases hf : raw.fields blockKeys with
  | none => rfl
  | some values =>
    rcases values with _ | ⟨rawText,_ | ⟨rawIds,_ | ⟨rawMode,_ | ⟨x,rest⟩⟩⟩⟩
    · rfl
    · rfl
    · rfl
    · simp only [Option.bind_eq_bind,Option.bind_some]
      cases ht : validateBoundedText rawText 1200 with
      | none => rfl
      | some t =>
        cases rawIds with
        | list items =>
          by_cases hlen : 1 ≤ items.length ∧ items.length ≤ 8
          · cases hids : items.mapM Payload.strOf with
            | none => simp [hlen,hids]
            | some ids =>
              by_cases hn : ids.Nodup
              · by_cases htotal : 2400 < total+t.length <;> cases rawMode <;>
                  simp [hlen,hids,hn,htotal,RawBlock.moded,-not_or]
              · simp [hlen,hids,hn]
          · simp [hlen]
        | _ => rfl
    · rfl

section loop

variable (signer : Text → Json → Option Text) (slots : List EvidenceSlot)

/-- The rest of a step for a block with its mode. -/
def extend (progress : Progress) (b : RawBlock) (mode : SupportMode) : Option Progress := do
  let ordinal := progress.validated.length
  let textHmac ← signer (text "block_text") (← exactUtf8Bytes b.text)
  let resultHmac ← signer (text "block_result") (blockResult ordinal b.ids mode textHmac)
  return ⟨progress.validated++[⟨ordinal,b.text,b.ids,mode,confidenceOf mode,uncertaintyOf mode,resultHmac⟩],
    select progress.selected b.ids,progress.totalText+b.text.length⟩

theorem validateBlock_eq (progress : Progress) (raw : Payload) :
    validateBlock signer slots progress raw = (readBlock raw).bind fun b =>
      if progress.totalText+b.text.length > 2400 then none
      else (b.ids.mapM (available slots)).bind fun cited =>
        if b.mode ≠ supportText (expectedMode (cited.map (·.supportMode))) then none
        else extend signer progress b (expectedMode (cited.map (·.supportMode))) := by
  unfold validateBlock readBlock
  cases hf : raw.fields blockKeys with
  | none => rfl
  | some values =>
    rcases values with _ | ⟨rawText,_ | ⟨rawIds,_ | ⟨rawMode,_ | ⟨x,rest⟩⟩⟩⟩
    · rfl
    · rfl
    · rfl
    · simp only [Option.bind_eq_bind,Option.bind_some]
      cases ht : validateBoundedText rawText 1200 with
      | none => rfl
      | some t =>
        cases rawIds with
        | list items =>
          by_cases hlen : 1 ≤ items.length ∧ items.length ≤ 8
          · cases hids : items.mapM Payload.strOf with
            | none => simp [hlen,hids]
            | some ids =>
              by_cases hn : ids.Nodup
              · cases hcited : ids.mapM (available slots) <;> cases rawMode <;>
                  simp [hlen,hids,hn,hcited,extend]
              · simp [hlen,hids,hn]
          · simp [hlen]
        | _ => simp
    · rfl

end loop

/-! ## Citations -/

def Payload.entry (key : Text) : Payload → Option Payload
  | .dict entries => entryOf entries key
  | _ => Option.none

/-- The slot ids that a block names. -/
def citedIds (raw : Payload) : List Text :=
  match raw.entry (text "evidence_slot_ids") with
  | some (.list items) => items.filterMap Payload.strOf
  | _ => []

def givenMode (raw : Payload) : Option Text := (raw.entry (text "support_mode")).bind Payload.strOf

/-- A block that cites slots that are there, and claims a trusted fact exactly when all of them are. -/
def Grounded (slots : List EvidenceSlot) (raw : Payload) : Prop :=
  (∀ id ∈ citedIds raw, id ∈ slots.map (·.slotId)) ∧
    (givenMode raw = some (text "trusted_fact") ↔
      ∀ slot ∈ slots, slot.slotId ∈ citedIds raw → slot.supportMode = .trustedFact)

instance (slots : List EvidenceSlot) (raw : Payload) : Decidable (Grounded slots raw) :=
  inferInstanceAs (Decidable (_ ∧ _))

theorem filterMap_of_mapM {α β : Type} {f : α → Option β} {xs : List α} {ys : List β} (h : xs.mapM f = some ys) :
    xs.filterMap f = ys := by
  have hall := mapM_eq_some_iff.mp h
  induction hall with
  | nil => rfl
  | cons hx hrest ih => rw [List.filterMap_cons_some hx,ih (mapM_eq_some_iff.mpr hrest)]

theorem fields_block {raw : Payload} {a b c : Payload} (h : raw.fields blockKeys = some [a,b,c]) :
    raw.entry (text "text") = some a ∧ raw.entry (text "evidence_slot_ids") = some b ∧
      raw.entry (text "support_mode") = some c := by
  cases raw with
  | dict entries =>
    simp only [Payload.fields] at h
    split at h
    · have hall := mapM_eq_some_iff.mp h
      simp only [blockKeys,List.forall₂_cons] at hall
      exact ⟨hall.1,hall.2.1,hall.2.2.1⟩
    · cases h
  | _ => cases h

theorem validateBoundedText_spec {value : Payload} {maximum : Nat} {t : Text}
    (h : validateBoundedText value maximum = some t) : value = .str t ∧ t.any unsupportedScalar = false := by
  cases value with
  | str u =>
    simp only [validateBoundedText] at h
    split_ifs at h with hlen hbad
    obtain ⟨bytes,_,rfl⟩ := Option.map_eq_some_iff.mp h
    exact ⟨rfl,by simpa using hbad⟩
  | _ => cases h

/-- What is known of a block that was read. -/
theorem readBlock_spec {raw : Payload} {b : RawBlock} (h : readBlock raw = some b) :
    b.text.any unsupportedScalar = false ∧ citedIds raw = b.ids ∧ givenMode raw = some b.mode := by
  unfold readBlock at h
  obtain ⟨values,hf,h⟩ := Option.bind_eq_some_iff.mp h
  rcases values with _ | ⟨rawText,_ | ⟨rawIds,_ | ⟨rawMode,_ | ⟨x,rest⟩⟩⟩⟩
  · cases h
  · cases h
  · cases h
  · obtain ⟨htext,hids,hmode⟩ := fields_block hf
    obtain ⟨t,ht,h⟩ := Option.bind_eq_some_iff.mp h
    cases rawIds with
    | list items =>
      simp only at h
      split_ifs at h with hlen
      obtain ⟨ids,hi,h⟩ := Option.bind_eq_some_iff.mp h
      split_ifs at h with hn
      cases rawMode with
      | str given =>
        obtain rfl := Option.some.inj h
        refine ⟨(validateBoundedText_spec ht).2,?_,?_⟩
        · simp [citedIds,hids,filterMap_of_mapM hi]
        · simp [givenMode,hmode,Payload.strOf]
      | _ => cases h
    | _ => cases h
  · cases h

/-! ## One step of the two loops -/

/-- The signer answers for every artifact. -/
def Signs (signer : Text → Json → Option Text) : Prop := ∀ kind payload, ∃ hmac, signer kind payload = some hmac

theorem available_eq_some {n : NumberedSlots} {id : Text} {slot : EvidenceSlot} :
    available n.slots id = some slot ↔ slot ∈ n.slots ∧ slot.slotId = id := by
  unfold available
  constructor
  · intro h
    exact ⟨List.mem_of_find?_eq_some h,by simpa using List.find?_some h⟩
  · intro ⟨hmem,hid⟩
    cases hf : n.slots.find? (·.slotId = id) with
    | none => exact absurd hid (by simpa using List.find?_eq_none.mp hf slot hmem)
    | some other =>
      have hother : other.slotId = id := by simpa using List.find?_some hf
      rw [List.inj_on_of_nodup_map n.nodup (List.mem_of_find?_eq_some hf) hmem (hother.trans hid.symm)]

theorem expectedMode_trusted (modes : List SupportMode) :
    expectedMode modes = .trustedFact ↔ ∀ m ∈ modes, m = .trustedFact := by
  simp [expectedMode]

/-- The mode called for is read off the slots that are cited. -/
theorem expectedMode_cited {n : NumberedSlots} {ids : List Text} {cited : List EvidenceSlot}
    (h : ids.mapM (available n.slots) = some cited) : expectedMode (cited.map (·.supportMode)) = .trustedFact ↔
      ∀ slot ∈ n.slots, slot.slotId ∈ ids → slot.supportMode = .trustedFact := by
  have hmem : ∀ slot, slot ∈ cited ↔ slot ∈ n.slots ∧ slot.slotId ∈ ids := by
    have hall := mapM_eq_some_iff.mp h
    intro slot
    induction hall with
    | nil => simp
    | cons hx hrest ih =>
      rw [available_eq_some] at hx
      rw [List.mem_cons,List.mem_cons,ih (mapM_eq_some_iff.mpr hrest)]
      constructor
      · rintro (rfl | hslot)
        · exact ⟨hx.1,Or.inl hx.2⟩
        · exact ⟨hslot.1,Or.inr hslot.2⟩
      · rintro ⟨hslot,hid | hid⟩
        · exact Or.inl (List.inj_on_of_nodup_map n.nodup hslot hx.1 (hid.trans hx.2.symm))
        · exact Or.inr ⟨hslot,hid⟩
  rw [expectedMode_trusted]
  simp only [List.forall_mem_map,hmem]
  exact ⟨fun h slot hslot hid => h slot ⟨hslot,hid⟩,fun h slot hslot => h slot hslot.1 hslot.2⟩

theorem exists_cited {n : NumberedSlots} {ids : List Text} (h : ∀ id ∈ ids, id ∈ n.slots.map (·.slotId)) :
    ∃ cited, ids.mapM (available n.slots) = some cited := by
  apply exists_mapM_eq_some
  intro id hid
  obtain ⟨slot,hslot,rfl⟩ := List.mem_map.mp (h id hid)
  exact ⟨slot,available_eq_some.mpr ⟨hslot,rfl⟩⟩

theorem of_cited {n : NumberedSlots} {ids : List Text} {cited : List EvidenceSlot}
    (h : ids.mapM (available n.slots) = some cited) : ∀ id ∈ ids, id ∈ n.slots.map (·.slotId) := by
  intro id hid
  obtain ⟨slot,_,hslot⟩ := forall₂_mem_left (mapM_eq_some_iff.mp h) hid
  rw [available_eq_some] at hslot
  exact List.mem_map.mpr ⟨slot,hslot⟩

/-- For a block that was read, being grounded is a matter of its ids and its mode. -/
theorem grounded_iff {n : NumberedSlots} {raw : Payload} {b : RawBlock} (h : readBlock raw = some b) :
    (b.moded ∧ Grounded n.slots raw) ↔ ∃ cited, b.ids.mapM (available n.slots) = some cited ∧
      b.mode = supportText (expectedMode (cited.map (·.supportMode))) := by
  obtain ⟨_,hids,hmode⟩ := readBlock_spec h
  unfold Grounded
  rw [hids,hmode,Option.some.injEq]
  constructor
  · rintro ⟨hmoded,hcited,htrusted⟩
    obtain ⟨cited,hc⟩ := exists_cited hcited
    refine ⟨cited,hc,?_⟩
    rw [← expectedMode_cited hc] at htrusted
    cases he : expectedMode (cited.map (·.supportMode)) with
    | trustedFact => exact htrusted.mpr he
    | sourceObservation =>
      apply hmoded.resolve_left
      intro ht
      rw [htrusted.mp ht] at he
      cases he
  · rintro ⟨cited,hc,hm⟩
    rw [hm,← expectedMode_cited hc]
    refine ⟨?_,of_cited hc,?_⟩
    · unfold RawBlock.moded
      rw [hm]
      cases expectedMode (cited.map (·.supportMode)) <;> simp [supportText]
    · constructor
      · intro ht
        exact supportText_injective ht
      · intro ht
        rw [ht]
        rfl

theorem extend_total {signer : Text → Json → Option Text} (signs : Signs signer) (progress : Progress) {b : RawBlock}
    (h : b.text.any unsupportedScalar = false) (mode : SupportMode) :
    (extend signer progress b mode).map (·.totalText) = some (progress.totalText+b.text.length) := by
  obtain ⟨bytes,hbytes⟩ := exists_exactUtf8Bytes h
  obtain ⟨textHmac,htext⟩ := signs (text "block_text") bytes
  obtain ⟨resultHmac,hresult⟩ := signs (text "block_result") (blockResult progress.validated.length b.ids mode textHmac)
  simp [extend,hbytes,htext,hresult]

/-- Where a block is grounded the validator does what the classifier does, and nothing else passes. -/
theorem validateBlock_step {signer : Text → Json → Option Text} (signs : Signs signer) (n : NumberedSlots)
    (progress : Progress) (raw : Payload) : (validateBlock signer n.slots progress raw).map (·.totalText) =
      if Grounded n.slots raw then blockStructure progress.totalText raw else none := by
  rw [validateBlock_eq,blockStructure_eq]
  cases hread : readBlock raw with
  | none => simp
  | some b =>
    simp only [Option.bind_some]
    have hiff := grounded_iff (n := n) hread
    by_cases htotal : progress.totalText+b.text.length > 2400
    · simp [htotal]
    · by_cases hall : b.moded ∧ Grounded n.slots raw
      · obtain ⟨cited,hc,hm⟩ := hiff.mp hall
        rw [if_neg htotal,hc,Option.bind_some,if_neg (not_not.mpr hm),if_pos hall.2,if_neg (by simp [htotal,hall.1])]
        exact extend_total signs progress (readBlock_spec hread).1 _
      · have hleft : (b.ids.mapM (available n.slots)).bind (fun cited =>
            if b.mode ≠ supportText (expectedMode (cited.map (·.supportMode))) then none
            else extend signer progress b (expectedMode (cited.map (·.supportMode)))) = none := by
          apply Option.bind_eq_none_iff.mpr
          intro cited hc
          exact if_pos fun hm => hall (hiff.mpr ⟨cited,hc,hm⟩)
        rw [if_neg htotal,hleft]
        by_cases hg : Grounded n.slots raw
        · simp [hg,show ¬b.moded from fun hm => hall ⟨hm,hg⟩]
        · simp [hg]

end ParaWorks.Generation
