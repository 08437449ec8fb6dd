import ParaWorks.Generation.Validation

/-!
# Verdicts on an answer

What the loop over the blocks leaves behind, and the validator, the classifier and the labels of a rejection side by side.
-/

namespace ParaWorks.Generation

open Lib Retrieval

/-! ## The run over the blocks -/

/-- A validated block as the payload has it. -/
def ValidatedAnswerBlock.raw (block : ValidatedAnswerBlock) : RawBlock :=
  ⟨block.text,block.evidenceSlotIds,supportText block.supportMode⟩

def allTrusted (slots : List EvidenceSlot) (ids : List Text) : Prop :=
  ∀ slot ∈ slots, slot.slotId ∈ ids → slot.supportMode = .trustedFact

structure Backed (n : NumberedSlots) (block : ValidatedAnswerBlock) : Prop where
  confidence : block.confidenceScore = confidenceOf block.supportMode
  uncertainty : block.uncertaintyReason = uncertaintyOf block.supportMode
  mode : block.supportMode = .trustedFact ↔ allTrusted n.slots block.evidenceSlotIds

/-- What the loop adds for the blocks `raws`. -/
structure Adds (n : NumberedSlots) (p p' : Progress) (raws : List Payload) (new : List ValidatedAnswerBlock) : Prop where
  validated : p'.validated = p.validated++new
  read : raws.mapM readBlock = some (new.map (·.raw))
  ordinals : new.map (·.blockOrdinal) = List.range' p.validated.length new.length
  selected : p'.selected = select p.selected (new.flatMap (·.evidenceSlotIds))
  backed : ∀ block ∈ new, Backed n block

theorem select_append (selected ids ids' : List Text) :
    select (select selected ids) ids' = select selected (ids++ids') := by
  simp only [select,List.foldl_append]

/-- The first citation of each slot, in order. -/
theorem select_eq (selected ids : List Text) :
    select selected ids = selected++(ids.filter (· ∉ selected)).eraseDups := by
  induction ids generalizing selected with
  | nil => simp [select]
  | cons id ids ih =>
    change select (if id ∈ selected then selected else selected++[id]) ids = _
    rw [ih]
    by_cases hid : id ∈ selected
    · simp [hid]
    · have hf : ids.filter (· ∉ selected++[id]) = (ids.filter (· ∉ selected)).filter fun other => !other == id := by
        rw [List.filter_filter]
        apply List.filter_congr
        intro other _
        by_cases ho : other ∈ selected <;> by_cases hoid : other = id <;> simp [ho,hoid]
      rw [if_neg hid,List.filter_cons_of_pos (by simpa using hid),List.eraseDups_cons,List.append_assoc,hf]
      rfl

theorem extend_adds {signer : Text → Json → Option Text} {n : NumberedSlots} {p p' : Progress} {raw : Payload}
    {b : RawBlock} {mode : SupportMode} (hread : readBlock raw = some b) (hb : b.mode = supportText mode)
    (hmode : mode = .trustedFact ↔ allTrusted n.slots b.ids) (h : extend signer p b mode = some p') :
    ∃ block, Adds n p p' [raw] [block] := by
  unfold extend at h
  obtain ⟨bytes,_,h⟩ := Option.bind_eq_some_iff.mp h
  obtain ⟨textHmac,_,h⟩ := Option.bind_eq_some_iff.mp h
  obtain ⟨resultHmac,_,h⟩ := Option.bind_eq_some_iff.mp h
  obtain rfl := Option.some.inj h
  refine ⟨_,rfl,?_,rfl,?_,?_⟩
  · rw [mapM_cons_option,hread]
    simp [ValidatedAnswerBlock.raw,← hb]
  · simp
  · rw [List.forall_mem_singleton]
    exact ⟨rfl,rfl,hmode⟩

theorem validateBlock_adds {signer : Text → Json → Option Text} {n : NumberedSlots} {p p' : Progress} {raw : Payload}
    (h : validateBlock signer n.slots p raw = some p') : ∃ block, Adds n p p' [raw] [block] := by
  rw [validateBlock_eq] at h
  obtain ⟨b,hread,h⟩ := Option.bind_eq_some_iff.mp h
  split_ifs at h with htotal
  obtain ⟨cited,hc,h⟩ := Option.bind_eq_some_iff.mp h
  split_ifs at h with hm
  exact extend_adds hread (not_not.mp hm) (expectedMode_cited hc) h

theorem Adds.trans {n : NumberedSlots} {p p' p'' : Progress} {raws raws' : List Payload}
    {new new' : List ValidatedAnswerBlock} (h : Adds n p p' raws new) (h' : Adds n p' p'' raws' new') :
    Adds n p p'' (raws++raws') (new++new') where
  validated := by rw [h'.validated,h.validated,List.append_assoc]
  read := by rw [mapM_append_option,h.read,h'.read,List.map_append]; rfl
  ordinals := by
    rw [List.map_append,h.ordinals,h'.ordinals,h.validated,List.length_append,List.length_append,List.range'_append_1]
  selected := by rw [h'.selected,h.selected,select_append,List.flatMap_append]
  backed block hblock := (List.mem_append.mp hblock).elim (h.backed block) (h'.backed block)

/-- The run over all blocks. -/
theorem validateBlock_run {signer : Text → Json → Option Text} {n : NumberedSlots} {p p' : Progress}
    {raws : List Payload} (h : raws.foldlM (validateBlock signer n.slots) p = some p') :
    ∃ new, Adds n p p' raws new := by
  induction raws generalizing p with
  | nil =>
    obtain rfl : p = p' := by simpa using h
    exact ⟨[],by simp,rfl,rfl,rfl,by simp⟩
  | cons raw raws ih =>
    rw [foldlM_cons_option] at h
    obtain ⟨q,hq,h⟩ := Option.bind_eq_some_iff.mp h
    obtain ⟨block,hblock⟩ := validateBlock_adds hq
    obtain ⟨new,hnew⟩ := ih h
    exact ⟨_,hblock.trans hnew⟩

/-! ## The end of the validator -/

/-- What is made of the blocks when the loop is over. -/
def finish (signer : Text → Json → Option Text) (progress : Progress) : Option ValidatedAnswerBlocks := do
  let assembled := join blockJoiner (progress.validated.map (·.text))
  let assembledHmac ← signer (text "assembled") (← exactUtf8Bytes assembled)
  let auditHmac ← signer (text "audit_set") (auditSet progress.validated)
  return ⟨progress.validated,none,progress.selected,assembled,some assembledHmac,some auditHmac⟩

theorem fields_payload {payload : Payload} {a b : Payload} (h : payload.fields payloadKeys = some [a,b]) :
    payload.entry (text "answer_blocks") = some a ∧ payload.entry (text "insufficient_evidence_reason") = some b := by
  cases payload with
  | dict entries =>
    simp only [Payload.fields] at h
    split at h
    · have hall := mapM_eq_some_iff.mp h
      simp only [payloadKeys,List.forall₂_cons] at hall
      exact ⟨hall.1,hall.2.1⟩
    · cases h
  | _ => cases h

theorem answerBlocks_entry {payload : Payload} {blocks : List Payload} (h : payload.answerBlocks = some blocks) :
    payload.entry (text "answer_blocks") = some (.list blocks) := by
  cases payload with
  | dict entries =>
    simp only [Payload.answerBlocks] at h
    split at h
    · next hentry =>
      obtain rfl := Option.some.inj h
      exact hentry
    · cases h
  | _ => cases h

/-- Both readings come down to their loops where the frame is right, and fail otherwise. -/
theorem framed_cases {payload : Payload} {blocks : List Payload} (h : payload.answerBlocks = some blocks)
    (hb : blocks ≠ []) (signer : Text → Json → Option Text) (n : NumberedSlots) :
    (validate signer n.slots payload = ((blocks.foldlM (validateBlock signer n.slots) ⟨[],[],0⟩).bind (finish signer)) ∧
      answerStructureIsValid payload = (blocks.foldlM blockStructure 0).isSome) ∨
    (validate signer n.slots payload = none ∧ answerStructureIsValid payload = false) := by
  unfold validate answerStructureIsValid
  cases hf : payload.fields payloadKeys with
  | none => exact Or.inr ⟨rfl,rfl⟩
  | some values =>
    rcases values with _ | ⟨rawBlocks,_ | ⟨reason,_ | ⟨x,rest⟩⟩⟩
    · exact Or.inr ⟨rfl,rfl⟩
    · exact Or.inr ⟨rfl,by cases rawBlocks <;> rfl⟩
    · have hentry := answerBlocks_entry h
      rw [(fields_payload hf).1] at hentry
      obtain rfl := Option.some.inj hentry
      by_cases hlen : blocks.length > 8
      · exact Or.inr ⟨by simp [hlen],by simp [hlen]⟩
      · have hslots : ¬(n.slots.length > 8 ∨ n.slots.map (·.slotId) ≠ slotNames n.slots.length) := by
          rw [not_or,not_not]
          exact ⟨by have := n.few; omega,n.numbered⟩
        cases reason with
        | none =>
          left
          simp only [Option.bind_eq_bind,Option.bind_some,if_neg hlen,if_neg hb,if_neg hslots]
          exact ⟨rfl,trivial⟩
        | _ => exact Or.inr ⟨by simp [hlen,hb],by simp [hlen,hb]⟩
    · exact Or.inr ⟨rfl,by cases rawBlocks <;> rfl⟩

theorem join_plain {sep : Text} {parts : List Text} (hsep : sep.any unsupportedScalar = false)
    (hparts : ∀ t ∈ parts, t.any unsupportedScalar = false) : (join sep parts).any unsupportedScalar = false := by
  induction parts with
  | nil => rfl
  | cons t parts ih =>
    rw [List.forall_mem_cons] at hparts
    cases parts with
    | nil => simpa [join] using hparts.1
    | cons t' parts =>
      have hjoin : join sep (t::t'::parts) = t++sep++join sep (t'::parts) := by simp [join]
      rw [hjoin,List.any_append,List.any_append,hparts.1,hsep,ih hparts.2]
      rfl

theorem finish_some {signer : Text → Json → Option Text} (signs : Signs signer) {n : NumberedSlots} {p : Progress}
    {raws : List Payload} {new : List ValidatedAnswerBlock} (h : Adds n ⟨[],[],0⟩ p raws new) :
    ∃ result, finish signer p = some result := by
  have hplain : ∀ t ∈ p.validated.map (·.text), t.any unsupportedScalar = false := by
    rw [h.validated,List.nil_append,List.forall_mem_map]
    intro block hblock
    obtain ⟨raw,_,hread⟩ := forall₂_mem_right (mapM_eq_some_iff.mp h.read) (List.mem_map_of_mem hblock)
    exact (readBlock_spec hread).1
  obtain ⟨bytes,hbytes⟩ := exists_exactUtf8Bytes (join_plain (show blockJoiner.any _ = false from rfl) hplain)
  obtain ⟨assembledHmac,hassembled⟩ := signs (text "assembled") bytes
  obtain ⟨auditHmac,haudit⟩ := signs (text "audit_set") (auditSet p.validated)
  exact ⟨_,by simp only [finish,hbytes,hassembled,haudit,Option.bind_eq_bind,Option.bind_some]; rfl⟩

/-! ## Verdicts -/

/-- An answer that is the payload's, cited from the slots and no surer of itself than they are. -/
structure Faithful (n : NumberedSlots) (blocks : List Payload) (result : ValidatedAnswerBlocks) : Prop where
  read : blocks.mapM readBlock = some (result.blocks.map (·.raw))
  ordinals : result.blocks.map (·.blockOrdinal) = List.range result.blocks.length
  selected : result.selectedSlotIds = (result.blocks.flatMap (·.evidenceSlotIds)).eraseDups
  assembled : result.assembledAnswer = join blockJoiner (result.blocks.map (·.text))
  sure : ∀ block ∈ result.blocks, block.confidenceScore = trustedConfidence ∨ block.uncertaintyReason = none →
    allTrusted n.slots block.evidenceSlotIds

theorem Backed.sure {n : NumberedSlots} {block : ValidatedAnswerBlock} (h : Backed n block)
    (hsure : block.confidenceScore = trustedConfidence ∨ block.uncertaintyReason = none) :
    allTrusted n.slots block.evidenceSlotIds := by
  rw [← h.mode]
  rw [h.confidence,h.uncertainty] at hsure
  cases hm : block.supportMode with
  | trustedFact => rfl
  | sourceObservation =>
    rw [hm] at hsure
    rcases hsure with hc | hu
    · exact absurd hc (by decide)
    · cases hu

theorem finish_faithful {signer : Text → Json → Option Text} {n : NumberedSlots} {p : Progress} {raws : List Payload}
    {new : List ValidatedAnswerBlock} (h : Adds n ⟨[],[],0⟩ p raws new) {result : ValidatedAnswerBlocks}
    (hresult : finish signer p = some result) : Faithful n raws result := by
  unfold finish at hresult
  obtain ⟨bytes,_,hresult⟩ := Option.bind_eq_some_iff.mp hresult
  obtain ⟨assembledHmac,_,hresult⟩ := Option.bind_eq_some_iff.mp hresult
  obtain ⟨auditHmac,_,hresult⟩ := Option.bind_eq_some_iff.mp hresult
  obtain rfl := Option.some.inj hresult
  have hv : p.validated = new := by simpa using h.validated
  refine ⟨?_,?_,?_,rfl,?_⟩
  · rw [h.read,← hv]
  · change p.validated.map (·.blockOrdinal) = List.range p.validated.length
    rw [hv,h.ordinals,List.range_eq_range']
    rfl
  · change p.selected = (p.validated.flatMap (·.evidenceSlotIds)).eraseDups
    rw [h.selected,select_eq,hv]
    simp
  · change ∀ block ∈ p.validated, _
    rw [hv]
    exact fun block hblock => (h.backed block hblock).sure

/-- The validator accepts what the classifier finds well-formed and the slots bear out. -/
theorem validate_isSome {signer : Text → Json → Option Text} (signs : Signs signer) (n : NumberedSlots)
    {payload : Payload} {blocks : List Payload} (h : payload.answerBlocks = some blocks) (hb : blocks ≠ []) :
    (validate signer n.slots payload).isSome = true ↔
      answerStructureIsValid payload = true ∧ ∀ raw ∈ blocks, Grounded n.slots raw := by
  rcases framed_cases h hb signer n with ⟨hv,hs⟩ | ⟨hv,hs⟩
  · have hsim := foldlM_sim Progress.totalText (validateBlock_step signs n) ⟨[],[],0⟩ blocks
    have hfinish : (validate signer n.slots payload).isSome =
        ((blocks.foldlM (validateBlock signer n.slots) ⟨[],[],0⟩).map Progress.totalText).isSome := by
      rw [hv]
      cases hfold : blocks.foldlM (validateBlock signer n.slots) ⟨[],[],0⟩ with
      | none => rfl
      | some p =>
        obtain ⟨new,hnew⟩ := validateBlock_run hfold
        obtain ⟨result,hresult⟩ := finish_some signs hnew
        simp [hresult]
    rw [hfinish,hsim,hs]
    split_ifs with hg
    · exact ⟨fun hsome => ⟨hsome,hg⟩,fun hsome => hsome.1⟩
    · simp [hg]
  · simp [hv,hs]

theorem validate_faithful {signer : Text → Json → Option Text} {n : NumberedSlots} {payload : Payload}
    {blocks : List Payload} (h : payload.answerBlocks = some blocks) (hb : blocks ≠ []) {result : ValidatedAnswerBlocks}
    (hresult : validate signer n.slots payload = some result) : Faithful n blocks result := by
  rcases framed_cases h hb signer n with ⟨hv,_⟩ | ⟨hv,_⟩
  · rw [hv] at hresult
    obtain ⟨p,hp,hresult⟩ := Option.bind_eq_some_iff.mp hresult
    obtain ⟨new,hnew⟩ := validateBlock_run hp
    exact finish_faithful hnew hresult
  · rw [hv] at hresult
    cases hresult

/-- The two readings of an answer agree, and a rejection is labelled by the second one. -/
theorem readings_agree (signer : Text → Json → Option Text) (signs : Signs signer) (n : NumberedSlots)
    (payload : Payload) :
    (∀ blocks, payload.answerBlocks = some blocks → blocks ≠ [] →
      ((validate signer n.slots payload).isSome = true ↔
        answerStructureIsValid payload = true ∧ ∀ raw ∈ blocks, Grounded n.slots raw) ∧
      ∀ result, validate signer n.slots payload = some result → Faithful n blocks result) ∧
    (failureClassification signer n.slots payload = some .citationValidationFailed ↔
      validate signer n.slots payload = none ∧ answerStructureIsValid payload = true) ∧
    (failureClassification signer n.slots payload = some .structuredOutputInvalid ↔
      validate signer n.slots payload = none ∧ answerStructureIsValid payload = false) := by
  refine ⟨fun blocks h hb => ⟨validate_isSome signs n h hb,fun result hr => validate_faithful h hb hr⟩,?_,?_⟩
  all_goals
    unfold failureClassification
    cases validate signer n.slots payload <;> cases answerStructureIsValid payload <;> simp

/-- A block citing the only slot there is, with the mode given. -/
def citingBlock (mode : Text) : Payload :=
  .dict [(some (text "text"),.str (text "Friday")),(some (text "evidence_slot_ids"),.list [.str (text "E1")]),
    (some (text "support_mode"),.str mode)]

def citingAnswer (mode : Text) : Payload :=
  .dict [(some (text "answer_blocks"),.list [citingBlock mode]),(some (text "insufficient_evidence_reason"),.none)]

theorem readings_agree_sample :
    (validate (fun kind _ => some kind) [observedSlot 1 []] (citingAnswer (text "source_observation"))).isSome = true ∧
      failureClassification (fun kind _ => some kind) [observedSlot 1 []] (citingAnswer (text "trusted_fact")) =
        some .citationValidationFailed := by
  have h := readings_agree (fun kind _ => some kind) (fun kind _ => ⟨kind,rfl⟩) ⟨[observedSlot 1 []],by decide,by decide⟩
  refine ⟨((h (citingAnswer (text "source_observation"))).1 _ rfl (by simp)).1.mpr ⟨by decide +kernel,by decide +kernel⟩,
    (h (citingAnswer (text "trusted_fact"))).2.1.mpr ⟨?_,by decide +kernel⟩⟩
  have hnot := ((h (citingAnswer (text "trusted_fact"))).1 _ rfl (by simp)).1.not.mpr fun hall => absurd hall.2 (by
    decide +kernel)
  exact Option.not_isSome_iff_eq_none.mp hnot

end ParaWorks.Generation
