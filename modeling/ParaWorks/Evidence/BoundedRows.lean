import ParaWorks.Lib.Bisection
import ParaWorks.Lib.JsonPrinter

/-!
# Bounded evidence rows

The messages of an evidence packet as rows of texts for a prompt, in one window of characters that all rows share. A row
starts with its mandatory fields; each other field gets what is left of the window at its turn.
-/

namespace ParaWorks.Evidence

open Lib

/-! ## Packets -/

/-- A field of a message or of its metadata; a float comes with its `str`. -/
inductive Value
  | none
  | str (t : Text)
  | bool (b : Bool)
  | int (n : Int)
  | float (printed : Text)
  | list (items : List Value)
  | other

structure EvidenceMessage where
  sourceId : Value
  sourceUrl : Value
  text : Text
  author : Value
  timestamp : Value
  permissionLevel : Value
  metadata : List (Text × Value)
  sourceSnippetOverride : Option Text

def EvidenceMessage.sourceSnippet (message : EvidenceMessage) : Text :=
  match message.sourceSnippetOverride with
  | some (c::t) => c::t
  | _ => message.text.take 240

structure EvidencePacket where
  sourceType : Value
  messages : List EvidenceMessage

/-- `_APPROVED_METADATA_FIELDS` -/
def approvedMetadataFields : List (Text × List Text) :=
  [(text "source_type",[text "source_type"]),
    (text "chunk_id",[text "chunk_id"]),
    (text "parser_run_id",[text "parser_run_id"]),
    (text "parser_name",[text "parser_name"]),
    (text "parser_status",[text "parser_status"]),
    (text "parser_status_reason",[text "parser_status_reason"]),
    (text "uncertainty_reason",[text "uncertainty_reason"]),
    (text "mime_type",[text "mime_type"]),
    (text "document_version",[text "document_version",text "document_version_label"]),
    (text "revision_id",[text "revision_id"]),
    (text "content_signature",[text "content_signature"]),
    (text "content_hash",[text "content_hash"]),
    (text "section_path",[text "section_path"]),
    (text "page_number",[text "page_number"]),
    (text "fallback_body",[text "fallback_body"]),
    (text "calendar_id",[text "calendar_id"]),
    (text "calendar_name",[text "calendar_summary",text "calendar_name"]),
    (text "calendar_start",[text "event_start",text "start"]),
    (text "calendar_end",[text "event_end",text "end"]),
    (text "calendar_location",[text "location"]),
    (text "calendar_organizer",[text "organizer_email"]),
    (text "calendar_attendee_domains",[text "attendee_domains"]),
    (text "event_context_key",[text "event_context_key"]),
    (text "event_status",[text "event_status"])]

/-! ## Canonical values -/

/-- `str(n)`, none for an integer of too many digits. -/
def printInt (limit : Nat) (n : Int) : Option Text :=
  if (Json.digits n).length ≤ limit then some (Json.renderInt n) else none

/-- An item of a list: other lists and values are passed over. -/
def canonicalItem (limit : Nat) : Value → Option Text
  | .str t => some t
  | .bool b => some (if b then text "true" else text "false")
  | .int n => printInt limit n
  | .float printed => some printed
  | _ => some []

/-- `_canonical_value`, none where it raises. -/
def canonicalValue (limit : Nat) : Value → Option Text
  | .list items => do
    let items ← items.mapM (canonicalItem limit)
    return List.intercalate (text ",") (items.filter (· ≠ []))
  | v => canonicalItem limit v

/-- `_first_metadata_value` -/
def firstMetadataValue (metadata : List (Text × Value)) : List Text → Value
  | [] => .none
  | name::names =>
    match metadata.lookup name with
    | none | some .none => firstMetadataValue metadata names
    | some v => v

/-! ## Rows -/

/-- The fields of a row in order, each with its text. -/
abbrev Row := List (Text × Text)

def dumpEntry (e : Text × Text) : Text := Json.quote e.1++text ": "++Json.quote e.2

def dumpRow (row : Row) : Text := text "\x7b"++List.intercalate (text ", ") (row.map dumpEntry)++text "\x7d"

/-- `json.dumps(rows, ensure_ascii=False)`. -/
def dumpRows (rows : List Row) : Text := text "["++List.intercalate (text ", ") (rows.map dumpRow)++text "]"

/-- `_fits_serialized_budget` -/
def fitsSerializedBudget (maxChars : Nat) (rows : List Row) : Bool := (dumpRows rows).length ≤ maxChars

/-- The last row with one more field. -/
def withField (before : List Row) (row : Row) (field value : Text) : List Row := before++[row++[(field,value)]]

/-- `_longest_fitting_prefix` -/
def longestFittingPrefix (maxChars : Nat) (before : List Row) (row : Row) (field value : Text) : Text :=
  if fitsSerializedBudget maxChars (withField before row field value) then value
  else
    let fits := fun length => fitsSerializedBudget maxChars (withField before row field (value.take length))
    value.take (bisect fits (value.length+1) 1 value.length 0)

/-- One turn of the loop over the values of a message. -/
def placeField (maxChars : Nat) (before : List Row) (row : Row) (field value : Text) : Row :=
  if value = [] then row
  else
    let bounded := longestFittingPrefix maxChars before row field value
    if bounded = [] then row else row++[(field,bounded)]

def placeFields (limit maxChars : Nat) (before : List Row) : Row → List (Text × Value) → Option Row
  | row, [] => some row
  | row, (field,raw)::values => do
    let value ← canonicalValue limit raw
    placeFields limit maxChars before (placeField maxChars before row field value) values

def mandatoryRow (limit : Nat) (message : EvidenceMessage) : Option Row := do
  let sourceId ← canonicalValue limit message.sourceId
  let sourceUrl ← canonicalValue limit message.sourceUrl
  let permissionLevel ← canonicalValue limit message.permissionLevel
  return [(text "source_id",sourceId),(text "source_url",sourceUrl),(text "permission_level",permissionLevel)]

/-- The metadata field of a row; the packet's type stands in for a missing `source_type`. -/
def metadataValue (sourceType : Value) (message : EvidenceMessage) (outputName : Text) (sourceNames : List Text) : Value :=
  match firstMetadataValue message.metadata sourceNames with
  | .none => if outputName = text "source_type" then sourceType else .none
  | v => v

/-- The values of a message in the order of their turns. -/
def rowValues (sourceType : Value) (message : EvidenceMessage) : List (Text × Value) :=
  [(text "timestamp",message.timestamp),(text "author",message.author),
      (text "source_snippet",.str message.sourceSnippet)]++
    approvedMetadataFields.map (fun f => (f.1,metadataValue sourceType message f.1 f.2))++
    [(text "text",.str message.text)]

section window

variable {maxChars : Nat} {before : List Row} {row : Row} {field value : Text}

/-- `bounded` is the longest prefix of the value that fits, or nothing where no character fits. -/
def LongestFitting (maxChars : Nat) (before : List Row) (row : Row) (field value bounded : Text) : Prop :=
  bounded <+: value ∧
    (bounded = [] ∨ fitsSerializedBudget maxChars (withField before row field bounded) = true) ∧
    ∀ t, t <+: value → t ≠ [] → fitsSerializedBudget maxChars (withField before row field t) = true → t <+: bounded

theorem LongestFitting.unique {a b : Text} (ha : LongestFitting maxChars before row field value a)
    (hb : LongestFitting maxChars before row field value b) : a = b := by
  have hstart : ∀ {a b : Text}, LongestFitting maxChars before row field value a →
      LongestFitting maxChars before row field value b → a <+: b := by
    rintro a b ⟨hvalue,hfits,_⟩ ⟨_,_,hlongest⟩
    by_cases hempty : a = []
    · exact hempty ▸ List.nil_prefix
    · exact hlongest a hvalue hempty (hfits.resolve_left hempty)
  exact (hstart ha hb).eq_of_length_le (hstart hb ha).length_le

end window

/-! ## The fields of a row -/

section fields

variable {limit maxChars : Nat} {before : List Row} {row out reached : Row} {values front back : List (Text × Value)}
  {field value : Text} {raw : Value} {sourceType : Value} {message : EvidenceMessage}

theorem placeFields_nil : placeFields limit maxChars before row [] = some row := rfl

end fields

/-! ## The rows of a packet -/

section packets

variable {limit maxChars : Nat} {reached rows : List Row} {messages : List EvidenceMessage} {sourceType : Value}
  {message : EvidenceMessage}

/-- No integer among the values of the message has too many digits to print. -/
def Printable (limit : Nat) (sourceType : Value) (message : EvidenceMessage) : Prop :=
  (mandatoryRow limit message).isSome = true ∧ ∀ v ∈ rowValues sourceType message, (canonicalValue limit v.2).isSome = true

end packets

end ParaWorks.Evidence
