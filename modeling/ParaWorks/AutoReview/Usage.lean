import ParaWorks.Lib.Text

/-!
# Strict chat usage

`StrictChatUsageParser` over the values a provider message carries. Only the authoritative token fields count, and a
second authority beside them must agree.
-/

namespace ParaWorks.AutoReview

open Lib

/-- A Python value as the parser sees it. The key of an entry is `none` when it is not a `str`; a mapping is not stable
when a second reading of its items differs from the first. -/
inductive Value where
  | int (n : Int)
  | items (values : List Value)
  | mapping (stable : Bool) (entries : List (Option Text × Value))
  | sequence
  | other

structure StrictProviderUsage where
  inputTokens : Nat
  outputTokens : Nat
  deriving DecidableEq

def tokenFieldNames : List Text :=
  ["input_tokens","prompt_tokens","output_tokens","completion_tokens","total_tokens"].map text

def usageWrapperNames : List Text := ["token_usage","usage"].map text

def maxDetailDepth : Nat := 32

def maxDetailNodes : Nat := 4096

def signedBigintMax : Nat := 9223372036854775807

abbrev Entries := List (Text × Value)

def Entries.value? (entries : Entries) (key : Text) : Option Value := (entries.find? (·.1 = key)).map (·.2)

def Entries.has (entries : Entries) (key : Text) : Bool := entries.any (·.1 = key)

/-- `_mapping_snapshot`. -/
def mappingSnapshot : Value → Option Entries
  | .mapping stable entries =>
    if entries.length > maxDetailNodes then none
    else
      let keys : List (Option Text) := entries.map (·.1)
      if none ∈ keys ∨ ¬keys.Nodup ∨ stable = false then none
      else some (entries.filterMap fun e => e.1.map (·,e.2))
  | _ => none

/-- `_reject_nested_authority` with so many levels left: the nodes that remain after the value, or `none`. -/
def rejectNestedAuthority : Nat → Value → Nat → Option Nat
  | 0, _, _ => none
  | _+1, _, 0 => none
  | levels+1, value, remaining+1 =>
    match value with
    | .mapping stable entries =>
      match mappingSnapshot (.mapping stable entries) with
      | none => none
      | some nested =>
        if nested.any fun e => e.1 ∈ tokenFieldNames ∨ e.1 ∈ usageWrapperNames then none
        else nested.foldlM (fun left e => rejectNestedAuthority levels e.2 left) remaining
    | .items values =>
      if values.length > remaining then none
      else values.foldlM (fun left v => rejectNestedAuthority levels v left) remaining
    | .sequence => none
    | .int _ => some remaining
    | .other => some remaining

/-- `_validate_non_authoritative_details`. -/
def validateNonAuthoritativeDetails (values : Entries) (allowed : List Text) : Bool :=
  ((values.filter (·.1 ∉ allowed)).foldlM
    (fun left e => rejectNestedAuthority (maxDetailDepth+1) e.2 left) maxDetailNodes).isSome

def requiredExactToken (values : Entries) (key : Text) : Option Nat :=
  match values.value? key with
  | some (.int n) => if n < 0 then none else some n.toNat
  | _ => none

def requiredSynonymToken (values : Entries) (primary secondary : Text) : Option Nat :=
  if values.has primary then
    (requiredExactToken values primary).bind fun selected =>
      if values.has secondary ∧ requiredExactToken values secondary ≠ some selected then none else some selected
  else requiredExactToken values secondary

/-- `_strict_usage`. -/
def strictUsage (inputTokens outputTokens totalTokens : Nat) : Option StrictProviderUsage :=
  if totalTokens ≠ inputTokens+outputTokens then none
  else if totalTokens > signedBigintMax then none
  else some ⟨inputTokens,outputTokens⟩

/-- The usage of one of the two wrappers of the response metadata. -/
def aliasUsage (value : Value) : Option StrictProviderUsage := do
  let entries ← mappingSnapshot value
  if entries.any (·.1 ∈ usageWrapperNames) then none
  else if validateNonAuthoritativeDetails entries tokenFieldNames = false then none
  else
    let input ← requiredSynonymToken entries (text "input_tokens") (text "prompt_tokens")
    let output ← requiredSynonymToken entries (text "output_tokens") (text "completion_tokens")
    let total ← requiredExactToken entries (text "total_tokens")
    strictUsage input output total

/-- A chat message; metadata that is not set is `None` for the usage and an empty mapping for the response. -/
structure AIMessage where
  usageMetadata : Value
  responseMetadata : Value

def primaryUsage (message : AIMessage) : Option StrictProviderUsage := do
  let primary ← mappingSnapshot message.usageMetadata
  if primary.any fun e => e.1 = text "prompt_tokens" ∨ e.1 = text "completion_tokens" ∨ e.1 ∈ usageWrapperNames then none
  else if validateNonAuthoritativeDetails primary
      [text "input_tokens",text "output_tokens",text "total_tokens"] = false then none
  else
    let input ← requiredExactToken primary (text "input_tokens")
    let output ← requiredExactToken primary (text "output_tokens")
    let total ← requiredExactToken primary (text "total_tokens")
    strictUsage input output total

/-- `StrictChatUsageParser.parse_message`; `none` is its `ValueError`. -/
def parseMessage (message : AIMessage) : Option StrictProviderUsage := do
  let usage ← primaryUsage message
  let response ← mappingSnapshot message.responseMetadata
  if response.any (·.1 ∈ tokenFieldNames) then none
  else if validateNonAuthoritativeDetails response usageWrapperNames = false then none
  else if usageWrapperNames.all fun key => (response.value? key).all fun value => aliasUsage value = some usage then
    some usage
  else none

end ParaWorks.AutoReview
