import ParaWorks.Ledger.CostPolicy
import ParaWorks.ProviderUsage.Objects

/-!
# Strict usage parsers

`StrictChatUsageParser` and `StrictEmbeddingUsageParser` over the objects of a provider response. What they accept is said
without them: a number of tokens has its own places, every place that is there gives the same number, and there is no other
place.
-/

namespace ParaWorks.ProviderUsage

open Lib
open Ledger (StrictProviderUsage)

/-! ## Parsers -/

/-- `_required_exact_token` -/
def requiredExactToken (heap : Heap) (values : Entries) (key : Text) : Option Nat :=
  match (values.lookup key).map heap with
  | some (.int n) => if n < 0 then none else some n.toNat
  | _ => none

/-- `_required_synonym_token` -/
def requiredSynonymToken (heap : Heap) (values : Entries) (primaryKey secondaryKey : Text) : Option Nat :=
  match [primaryKey,secondaryKey].filter fun key => (values.lookup key).isSome with
  | [] => none
  | [only] => requiredExactToken heap values only
  | selected::other::_ =>
    (requiredExactToken heap values selected).bind fun n =>
      (requiredExactToken heap values other).bind fun m => if m ≠ n then none else some n

/-- `_strict_usage` -/
def strictUsage (inputTokens outputTokens totalTokens : Nat) : Option StrictProviderUsage :=
  if htotal : totalTokens = inputTokens+outputTokens then
    if hbounded : totalTokens < 2^63 then some ⟨inputTokens,outputTokens,totalTokens,htotal,hbounded⟩ else none
  else none

/-- A chat message. An attribute that it lacks is `None` for the usage and an empty mapping for the response. -/
structure AIMessage where
  usageMetadata : Option Address
  responseMetadata : Option Address

/-- The primary part of `_parse_message`. -/
def primaryUsage (heap : Heap) (message : AIMessage) : Option StrictProviderUsage := do
  let primary ← mappingSnapshot (← message.usageMetadata.map heap)
  if primary.any (·.1 ∈ [text "prompt_tokens",text "completion_tokens"]++usageWrapperNames) then none
  else if validateNonAuthoritativeDetails heap primary
      [text "input_tokens",text "output_tokens",text "total_tokens"] = false then none
  else
    let inputTokens ← requiredExactToken heap primary (text "input_tokens")
    let outputTokens ← requiredExactToken heap primary (text "output_tokens")
    let totalTokens ← requiredExactToken heap primary (text "total_tokens")
    strictUsage inputTokens outputTokens totalTokens

/-- The usage of one wrapper of the response. -/
def aliasUsage (heap : Heap) (object : Object) : Option StrictProviderUsage := do
  let aliasValues ← mappingSnapshot object
  if aliasValues.any (·.1 ∈ usageWrapperNames) then none
  else if validateNonAuthoritativeDetails heap aliasValues tokenFieldNames = false then none
  else
    let aliasInput ← requiredSynonymToken heap aliasValues (text "input_tokens") (text "prompt_tokens")
    let aliasOutput ← requiredSynonymToken heap aliasValues (text "output_tokens") (text "completion_tokens")
    let aliasTotal ← requiredExactToken heap aliasValues (text "total_tokens")
    strictUsage aliasInput aliasOutput aliasTotal

/-- `StrictChatUsageParser.parse_message`; none is its `ValueError`. -/
def parseMessage (heap : Heap) (message : AIMessage) : Option StrictProviderUsage := do
  let usage ← primaryUsage heap message
  let response ← mappingSnapshot ((message.responseMetadata.map heap).getD (.mapping (some []) none))
  if response.any (·.1 ∈ tokenFieldNames) then none
  else if validateNonAuthoritativeDetails heap response usageWrapperNames = false then none
  else if usageWrapperNames.all fun key =>
      (response.lookup key).all fun a => aliasUsage heap (heap a) = some usage then some usage
  else none

/-- `StrictEmbeddingUsageParser.parse_usage`; none is its `ValueError`. -/
def parseUsage (heap : Heap) (usage : Object) : Option StrictProviderUsage := do
  let metadata ← mappingSnapshot usage
  if metadata.any (·.1 ∈ usageWrapperNames) then none
  else if validateNonAuthoritativeDetails heap metadata tokenFieldNames = false then none
  else
    let promptTokens ← requiredExactToken heap metadata (text "prompt_tokens")
    if (metadata.lookup (text "input_tokens")).isSome = true ∧
        requiredExactToken heap metadata (text "input_tokens") ≠ some promptTokens then none
    else if [text "output_tokens",text "completion_tokens"].any fun key =>
        (metadata.lookup key).isSome ∧ requiredExactToken heap metadata key ≠ some 0 then none
    else
      let totalTokens ← requiredExactToken heap metadata (text "total_tokens")
      strictUsage promptTokens 0 totalTokens

/-! ## What they accept -/

/-- Every place among these keys that is there gives the number. -/
def Agree (heap : Heap) (values : Entries) (keys : List Text) (n : Nat) : Prop :=
  ∀ key ∈ keys, ∀ a, (key,a) ∈ values → heap a = .int n

/-- One of these places is there, and every one that is there gives the number. -/
def Give (heap : Heap) (values : Entries) (keys : List Text) (n : Nat) : Prop :=
  (∃ key ∈ keys, ∃ a, (key,a) ∈ values) ∧ Agree heap values keys n

/-- The usage metadata gives these three numbers, under its own names only. -/
structure PrimaryAuthority (heap : Heap) (values : Entries) (usage : StrictProviderUsage) : Prop where
  input : Give heap values [text "input_tokens"] usage.inputTokens
  output : Give heap values [text "output_tokens"] usage.outputTokens
  total : Give heap values [text "total_tokens"] usage.totalTokens
  unaliased : ∀ e ∈ values, e.1 ∉ [text "prompt_tokens",text "completion_tokens"]++usageWrapperNames
  plain : PlainDetails heap (details values [text "input_tokens",text "output_tokens",text "total_tokens"])

/-- A wrapper gives these three numbers under every synonym that it contains. -/
structure WrapperAuthority (heap : Heap) (values : Entries) (usage : StrictProviderUsage) : Prop where
  input : Give heap values [text "input_tokens",text "prompt_tokens"] usage.inputTokens
  output : Give heap values [text "output_tokens",text "completion_tokens"] usage.outputTokens
  total : Give heap values [text "total_tokens"] usage.totalTokens
  unwrapped : ∀ e ∈ values, e.1 ∉ usageWrapperNames
  plain : PlainDetails heap (details values tokenFieldNames)

/-- The response metadata gives no number itself, and each of its wrappers the same numbers. -/
structure ResponseAuthority (heap : Heap) (values : Entries) (usage : StrictProviderUsage) : Prop where
  tokenless : ∀ e ∈ values, e.1 ∉ tokenFieldNames
  plain : PlainDetails heap (details values usageWrapperNames)
  wrappers : ∀ key ∈ usageWrapperNames, ∀ a, (key,a) ∈ values →
    ∃ aliasValues, mappingSnapshot (heap a) = some aliasValues ∧ WrapperAuthority heap aliasValues usage

/-- A message is an authority for a usage. -/
structure ChatAuthority (heap : Heap) (message : AIMessage) (usage : StrictProviderUsage) : Prop where
  primary : ∃ a values, message.usageMetadata = some a ∧ mappingSnapshot (heap a) = some values ∧
    PrimaryAuthority heap values usage
  response : ∀ a, message.responseMetadata = some a →
    ∃ values, mappingSnapshot (heap a) = some values ∧ ResponseAuthority heap values usage

/-- The usage of an embedding: its prompt tokens, and no output. -/
structure EmbeddingAuthority (heap : Heap) (values : Entries) (usage : StrictProviderUsage) : Prop where
  prompt : Give heap values [text "prompt_tokens"] usage.inputTokens
  input : Agree heap values [text "input_tokens"] usage.inputTokens
  output : Agree heap values [text "output_tokens",text "completion_tokens"] 0
  none : usage.outputTokens = 0
  total : Give heap values [text "total_tokens"] usage.totalTokens
  unwrapped : ∀ e ∈ values, e.1 ∉ usageWrapperNames
  plain : PlainDetails heap (details values tokenFieldNames)

section accepted

variable {heap : Heap} {values : Entries} {usage : StrictProviderUsage} {key : Text} {a : Address} {n : Nat}

theorem mappingSnapshot_nodup {object : Object} (h : mappingSnapshot object = some values) :
    (values.map (·.1)).Nodup := by
  have hitems : ∀ {reading : Option Items}, validatedItems reading = some values → (values.map (·.1)).Nodup := by
    intro reading h
    obtain ⟨items,-,hread⟩ := Option.bind_eq_some_iff.mp h
    split_ifs at hread with hguard
    have hkeys : items.map (·.1) = values.map fun e => some e.1 := by
      refine (forall₂_map_eq (mapM_eq_some_iff.mp hread) ?_).symm
      intro item e he
      obtain ⟨name,hname,rfl⟩ := Option.map_eq_some_iff.mp he
      exact hname.symm
    have hnodup : ((values.map (·.1)).map some).Nodup := by
      rw [List.map_map]
      exact hkeys ▸ hguard.2
    exact hnodup.of_map _
  cases object with
  | mapping items again =>
    cases again with
    | none => exact hitems h
    | some again =>
      obtain ⟨first,hfirst,h⟩ := Option.bind_eq_some_iff.mp h
      obtain ⟨second,-,h⟩ := Option.bind_eq_some_iff.mp h
      split_ifs at h
      obtain rfl := Option.some.inj h
      exact hitems hfirst
  | _ => cases h

theorem lookup_eq_some_iff (hnodup : (values.map (·.1)).Nodup) : values.lookup key = some a ↔ (key,a) ∈ values := by
  induction values with
  | nil => simp
  | cons e values ih =>
    obtain ⟨name,b⟩ := e
    rw [List.map_cons,List.nodup_cons] at hnodup
    rw [List.lookup_cons,List.mem_cons,Prod.mk.injEq]
    by_cases hname : key = name
    · subst hname
      have hout : (key,a) ∉ values := fun hmem => hnodup.1 (List.mem_map.mpr ⟨_,hmem,rfl⟩)
      simp [hout,eq_comm]
    · rw [beq_false_of_ne hname]
      simpa [hname] using ih hnodup.2

theorem lookup_isSome_iff (hnodup : (values.map (·.1)).Nodup) :
    (values.lookup key).isSome = true ↔ ∃ a, (key,a) ∈ values := by
  rw [Option.isSome_iff_exists]
  exact exists_congr fun a => lookup_eq_some_iff hnodup

theorem requiredExactToken_iff (hnodup : (values.map (·.1)).Nodup) :
    requiredExactToken heap values key = some n ↔ ∃ a, (key,a) ∈ values ∧ heap a = .int n := by
  unfold requiredExactToken
  cases hlookup : values.lookup key with
  | none =>
    have hout : ∀ a, (key,a) ∉ values := fun a hmem => by simp [(lookup_eq_some_iff hnodup).mpr hmem] at hlookup
    simp [hout]
  | some a =>
    have hmem : ∀ b, (key,b) ∈ values ↔ b = a := fun b => by
      rw [← lookup_eq_some_iff hnodup,hlookup,Option.some.injEq,eq_comm]
    simp only [hmem,exists_eq_left,Option.map_some]
    cases heap a with
    | int m =>
      dsimp only
      split_ifs with hneg
      · simp only [Object.int.injEq,false_iff]
        omega
      · simp only [Option.some.injEq,Object.int.injEq]
        omega
    | _ => simp

theorem give_single_iff (hnodup : (values.map (·.1)).Nodup) :
    Give heap values [key] n ↔ ∃ a, (key,a) ∈ values ∧ heap a = .int n := by
  unfold Give Agree
  simp only [List.mem_singleton,exists_eq_left,forall_eq]
  constructor
  · rintro ⟨⟨a,hmem⟩,hall⟩
    exact ⟨a,hmem,hall a hmem⟩
  · rintro ⟨a,hmem,ha⟩
    refine ⟨⟨a,hmem⟩,fun b hb => ?_⟩
    rw [← lookup_eq_some_iff hnodup] at hmem hb
    obtain rfl := Option.some.inj (hmem.symm.trans hb)
    exact ha

theorem requiredExactToken_give (hnodup : (values.map (·.1)).Nodup) :
    requiredExactToken heap values key = some n ↔ Give heap values [key] n := by
  rw [requiredExactToken_iff hnodup,give_single_iff hnodup]

/-- A place that may be missing: nothing contradicts the number. -/
theorem agree_single_iff (hnodup : (values.map (·.1)).Nodup) : Agree heap values [key] n ↔
    ¬((values.lookup key).isSome = true ∧ requiredExactToken heap values key ≠ some n) := by
  rw [lookup_isSome_iff hnodup,Ne,requiredExactToken_give hnodup,Give]
  simp only [List.mem_singleton,exists_eq_left]
  by_cases hthere : ∃ a, (key,a) ∈ values
  · simp [hthere]
  · simp only [hthere,false_and,not_false_eq_true,iff_true]
    intro k hk a ha
    obtain rfl := List.mem_singleton.mp hk
    exact absurd ⟨a,ha⟩ hthere

theorem agree_cons {keys : List Text} : Agree heap values (key::keys) n ↔ Agree heap values [key] n ∧ Agree heap values keys n := by
  simp [Agree]

theorem requiredSynonymToken_give {primaryKey secondaryKey : Text} (hnodup : (values.map (·.1)).Nodup) :
    requiredSynonymToken heap values primaryKey secondaryKey = some n ↔ Give heap values [primaryKey,secondaryKey] n := by
  have habsent : ∀ {k : Text}, ¬(values.lookup k).isSome = true → ∀ a, (k,a) ∉ values := fun hk a hmem =>
    hk ((lookup_isSome_iff hnodup).mpr ⟨a,hmem⟩)
  have hpair : Give heap values [primaryKey,secondaryKey] n ↔
      ((∃ a, (primaryKey,a) ∈ values) ∨ ∃ a, (secondaryKey,a) ∈ values) ∧
        Agree heap values [primaryKey] n ∧ Agree heap values [secondaryKey] n := by
    rw [Give,agree_cons]
    simp
  rw [hpair,requiredSynonymToken]
  by_cases hp : (values.lookup primaryKey).isSome = true <;> by_cases hs : (values.lookup secondaryKey).isSome = true
  · have hp' := (lookup_isSome_iff hnodup).mp hp
    have hs' := (lookup_isSome_iff hnodup).mp hs
    simp only [List.filter_cons,hp,hs,if_true,List.filter_nil,Option.bind_eq_some_iff]
    simp only [requiredExactToken_give hnodup,Give,List.mem_singleton,exists_eq_left]
    constructor
    · rintro ⟨m,⟨-,hm⟩,k,⟨-,hk⟩,hsame⟩
      split_ifs at hsame with hne
      obtain rfl := Option.some.inj hsame
      obtain rfl := not_ne_iff.mp hne
      exact ⟨.inl hp',hm,hk⟩
    · rintro ⟨-,hm,hk⟩
      exact ⟨n,⟨hp',hm⟩,n,⟨hs',hk⟩,if_neg (not_ne_iff.mpr rfl)⟩
  · have hp' := (lookup_isSome_iff hnodup).mp hp
    have hs' := habsent hs
    simp [hp,hs,requiredExactToken_give hnodup,Give,hp',hs',Agree]
  · have hp' := habsent hp
    have hs' := (lookup_isSome_iff hnodup).mp hs
    simp [hp,hs,requiredExactToken_give hnodup,Give,hp',hs',Agree]
  · have hp' := habsent hp
    have hs' := habsent hs
    simp [hp,hs,hp',hs']

theorem strictUsage_iff {inputTokens outputTokens totalTokens : Nat} :
    strictUsage inputTokens outputTokens totalTokens = some usage ↔
      inputTokens = usage.inputTokens ∧ outputTokens = usage.outputTokens ∧ totalTokens = usage.totalTokens := by
  unfold strictUsage
  constructor
  · intro h
    split_ifs at h
    obtain rfl := Option.some.inj h
    exact ⟨rfl,rfl,rfl⟩
  · rintro ⟨rfl,rfl,rfl⟩
    rw [dif_pos usage.total,dif_pos usage.bounded]

theorem any_false_iff {names : List Text} : ¬(values.any (·.1 ∈ names)) = true ↔ ∀ e ∈ values, e.1 ∉ names := by
  simp

theorem ite_none_eq_some {α : Type} {p : Prop} [Decidable p] {x : Option α} {y : α} :
    (if p then none else x) = some y ↔ ¬p ∧ x = some y := by
  split_ifs with h <;> simp [h]

theorem primaryUsage_iff {message : AIMessage} : primaryUsage heap message = some usage ↔
    ∃ a values, message.usageMetadata = some a ∧ mappingSnapshot (heap a) = some values ∧
      PrimaryAuthority heap values usage := by
  unfold primaryUsage
  simp only [Option.bind_eq_bind,Option.bind_eq_some_iff,Option.map_eq_some_iff,ite_none_eq_some,any_false_iff,
    Bool.not_eq_false,validateNonAuthoritativeDetails_iff,strictUsage_iff]
  constructor
  · rintro ⟨_,⟨a,ha,rfl⟩,values,hvalues,hunaliased,hplain,i,hi,o,ho,t,ht,rfl,rfl,rfl⟩
    have hnodup := mappingSnapshot_nodup hvalues
    exact ⟨a,values,ha,hvalues,(requiredExactToken_give hnodup).mp hi,(requiredExactToken_give hnodup).mp ho,
      (requiredExactToken_give hnodup).mp ht,hunaliased,hplain⟩
  · rintro ⟨a,values,ha,hvalues,hi,ho,ht,hunaliased,hplain⟩
    have hnodup := mappingSnapshot_nodup hvalues
    exact ⟨_,⟨a,ha,rfl⟩,values,hvalues,hunaliased,hplain,_,(requiredExactToken_give hnodup).mpr hi,
      _,(requiredExactToken_give hnodup).mpr ho,_,(requiredExactToken_give hnodup).mpr ht,rfl,rfl,rfl⟩

theorem aliasUsage_iff {object : Object} : aliasUsage heap object = some usage ↔
    ∃ aliasValues, mappingSnapshot object = some aliasValues ∧ WrapperAuthority heap aliasValues usage := by
  unfold aliasUsage
  simp only [Option.bind_eq_bind,Option.bind_eq_some_iff,ite_none_eq_some,any_false_iff,
    Bool.not_eq_false,validateNonAuthoritativeDetails_iff,strictUsage_iff]
  refine exists_congr fun aliasValues => and_congr_right fun halias => ?_
  have hnodup := mappingSnapshot_nodup halias
  constructor
  · rintro ⟨hunwrapped,hplain,i,hi,o,ho,t,ht,rfl,rfl,rfl⟩
    exact ⟨(requiredSynonymToken_give hnodup).mp hi,(requiredSynonymToken_give hnodup).mp ho,
      (requiredExactToken_give hnodup).mp ht,hunwrapped,hplain⟩
  · rintro ⟨hi,ho,ht,hunwrapped,hplain⟩
    exact ⟨hunwrapped,hplain,_,(requiredSynonymToken_give hnodup).mpr hi,_,(requiredSynonymToken_give hnodup).mpr ho,
      _,(requiredExactToken_give hnodup).mpr ht,rfl,rfl,rfl⟩

theorem responseAuthority_iff (hnodup : (values.map (·.1)).Nodup) : ResponseAuthority heap values usage ↔
    (∀ e ∈ values, e.1 ∉ tokenFieldNames) ∧ PlainDetails heap (details values usageWrapperNames) ∧
      (usageWrapperNames.all fun key =>
        (values.lookup key).all fun a => aliasUsage heap (heap a) = some usage) = true := by
  have hall : (usageWrapperNames.all fun key =>
      (values.lookup key).all fun a => aliasUsage heap (heap a) = some usage) = true ↔
        ∀ key ∈ usageWrapperNames, ∀ a, (key,a) ∈ values →
          ∃ aliasValues, mappingSnapshot (heap a) = some aliasValues ∧ WrapperAuthority heap aliasValues usage := by
    rw [List.all_eq_true]
    refine forall₂_congr fun key _ => ?_
    rw [Option.all_eq_true]
    refine forall_congr' fun a => ?_
    rw [lookup_eq_some_iff hnodup,decide_eq_true_iff,aliasUsage_iff]
  rw [hall]
  exact ⟨fun h => ⟨h.tokenless,h.plain,h.wrappers⟩,fun h => ⟨h.1,h.2.1,h.2.2⟩⟩

theorem parseMessage_iff {message : AIMessage} :
    parseMessage heap message = some usage ↔ ChatAuthority heap message usage := by
  have hempty : ResponseAuthority heap [] usage :=
    ⟨by simp,⟨by simp [details],by simp [details]⟩,by simp⟩
  unfold parseMessage
  simp only [Option.bind_eq_bind,Option.bind_eq_some_iff,ite_none_eq_some,any_false_iff,
    Bool.not_eq_false,validateNonAuthoritativeDetails_iff]
  constructor
  · rintro ⟨found,hprimary,values,hvalues,htokenless,hplain,h⟩
    split_ifs at h with hwrappers
    obtain rfl := Option.some.inj h
    refine ⟨primaryUsage_iff.mp hprimary,fun a ha => ⟨values,?_,?_⟩⟩
    · simpa [ha] using hvalues
    · exact (responseAuthority_iff (mappingSnapshot_nodup hvalues)).mpr ⟨htokenless,hplain,hwrappers⟩
  · rintro ⟨hprimary,hresponse⟩
    obtain ⟨values,hvalues,hauthority⟩ : ∃ values,
        mappingSnapshot ((message.responseMetadata.map heap).getD (.mapping (some []) none)) = some values ∧
          ResponseAuthority heap values usage := by
      cases hmetadata : message.responseMetadata with
      | none => exact ⟨[],rfl,hempty⟩
      | some a => exact hresponse a hmetadata
    obtain ⟨htokenless,hplain,hwrappers⟩ := (responseAuthority_iff (mappingSnapshot_nodup hvalues)).mp hauthority
    exact ⟨usage,primaryUsage_iff.mpr hprimary,values,hvalues,htokenless,hplain,if_pos hwrappers⟩

theorem parseUsage_iff {object : Object} : parseUsage heap object = some usage ↔
    ∃ values, mappingSnapshot object = some values ∧ EmbeddingAuthority heap values usage := by
  unfold parseUsage
  simp only [Option.bind_eq_bind,Option.bind_eq_some_iff,ite_none_eq_some,any_false_iff,
    Bool.not_eq_false,validateNonAuthoritativeDetails_iff,strictUsage_iff]
  refine exists_congr fun values => and_congr_right fun hvalues => ?_
  have hnodup := mappingSnapshot_nodup hvalues
  have houtput : ¬([text "output_tokens",text "completion_tokens"].any fun key =>
      (values.lookup key).isSome ∧ requiredExactToken heap values key ≠ some 0) = true ↔
        Agree heap values [text "output_tokens",text "completion_tokens"] 0 := by
    rw [agree_cons,agree_single_iff hnodup,agree_single_iff hnodup]
    simp
  rw [houtput]
  constructor
  · rintro ⟨hunwrapped,hplain,i,hi,hinput,hout,t,ht,rfl,hnone,rfl⟩
    exact ⟨(requiredExactToken_give hnodup).mp hi,(agree_single_iff hnodup).mpr hinput,hout,hnone.symm,
      (requiredExactToken_give hnodup).mp ht,hunwrapped,hplain⟩
  · rintro ⟨hi,hinput,hout,hnone,ht,hunwrapped,hplain⟩
    exact ⟨hunwrapped,hplain,_,(requiredExactToken_give hnodup).mpr hi,(agree_single_iff hnodup).mp hinput,hout,
      _,(requiredExactToken_give hnodup).mpr ht,rfl,hnone.symm,rfl⟩

/-- What the parsers accept: the response's own numbers where they are said, and said nowhere else. -/
theorem strictParsers_exact (heap : Heap) (message : AIMessage) (object : Object) (usage : StrictProviderUsage) :
    (parseMessage heap message = some usage ↔ ChatAuthority heap message usage) ∧
      (parseUsage heap object = some usage ↔
        ∃ values, mappingSnapshot object = some values ∧ EmbeddingAuthority heap values usage) :=
  ⟨parseMessage_iff,parseUsage_iff⟩

end accepted

end ParaWorks.ProviderUsage
