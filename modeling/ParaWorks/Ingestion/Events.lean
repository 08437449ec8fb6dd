import ParaWorks.Lib.Strings
import ParaWorks.Sources.Authority

/-!
# Source events

What a connector reports about a source, the server's signature of its content, and what changed since the source
was stored.
-/

namespace ParaWorks.Ingestion

open Lib Sources

/-- The entries of a Python dict with text keys. -/
abbrev Entries := List (Text × Json)

namespace Entries

def get (entries : Entries) (key : Text) : Option Json := (entries.find? (·.1 = key)).map (·.2)

/-- `entries[key] = value`. -/
def set (entries : Entries) (key : Text) (value : Json) : Entries :=
  if entries.any (·.1 = key) then entries.map fun e => if e.1 = key then (key,value) else e
  else entries++[(key,value)]

/-- `{**entries, **more}`. -/
def merge (entries more : Entries) : Entries := more.foldl (fun entries e => entries.set e.1 e.2) entries

def without (entries : Entries) (keys : List Text) : Entries := entries.filter (·.1 ∉ keys)

end Entries

/-- `bool(value)`. -/
def truthy : Json → Bool
  | .null => false
  | .bool b => b
  | .int n => n ≠ 0
  | .str t => t ≠ []
  | .list items => !items.isEmpty
  | .dict entries => !entries.isEmpty

structure SourceEvent where
  sourceType : Text
  sourceId : Text
  sourceUrl : Text
  title : Text
  body : Text
  author : Option Text
  participants : List Text
  permissionLevel : Text
  rawMetadata : Entries
  semanticTimestampRaw : Option Text

/-- What the runtime computes: letters, dates and digests, none where it raises. -/
structure Platform where
  letters : CaseMap
  lower_level : ∀ t ∈ [text "public",text "internal",text "restricted"], letters.lower t = t
  lower_lower : ∀ t, letters.lower (strip (letters.lower (strip t))) = letters.lower (strip t)
  nfc : Text → Text
  /-- `str` of a value that is not a text. -/
  str : Json → Text
  /-- The UTC instant of seconds and microseconds. -/
  fromTimestamp : Int → Int → Option Text
  fromMillis : Int → Option Text
  /-- The UTC instant of an ISO text with an offset. -/
  fromIso : Text → Option Text
  /-- `date.fromisoformat` accepts the text and prints it back. -/
  dateExact : Text → Bool
  /-- SHA-256 of the UTF-8 text. -/
  textDigest : Text → Option Text
  /-- SHA-256 of the compact print with sorted keys. -/
  compactDigest : Json → Option Text
  /-- SHA-256 of the print with sorted keys and blanks. -/
  plainDigest : Json → Option Text

section platform

variable (p : Platform)

/-- `str(value)`. -/
def Platform.strOf : Json → Text
  | .str t => t
  | value => p.str value

/-- `str(entries.get(key) or default)`. -/
def strOr (entries : Entries) (key default : Text) : Text :=
  match entries.get key with
  | none => default
  | some value => if truthy value then p.strOf value else default

/-! ## Permissions -/

/-- `normalize_source_permission`, none where it raises. -/
def normalizeSourcePermission (value : Text) : Option Text :=
  if strip value = [] then none else some (p.letters.lower (strip value))

/-- `_PERMISSION_RANK.get(value, 3)`. -/
def permissionRank (value : Text) : Nat :=
  if value = text "public" then 0
  else if value = text "internal" then 1
  else if value = text "restricted" then 2
  else 3

/-- How strict a stored level is, as the code compares levels. -/
def strictness (value : Text) : Nat := permissionRank (p.letters.lower (strip value))

/-- `max((a, b), key=rank)`: the first of two that are equally strict. -/
def strictest (a b : Text) : Text := if permissionRank a < permissionRank b then b else a

/-! ## The content signature -/

/-- Line ends as single line feeds. -/
def newlines : Text → Text
  | [] => []
  | c::t =>
    if c = 13 then
      match t with
      | [] => [10]
      | d::r => if d = 10 then 10::newlines r else 10::newlines (d::r)
    else c::newlines t

def normalizeText (t : Text) : Text := p.nfc (newlines t)

def optionalText : Option Json → Option Json
  | none | some .null => some .null
  | some (.str t) => some (.str (normalizeText p t))
  | some _ => none

/-- The distinct texts, sorted; code points sort as their UTF-8 bytes. -/
def participantTexts (items : List Text) : Json :=
  .list (((items.map (normalizeText p)).dedup.insertionSort (· ≤ ·)).map Json.str)

def textItem : Json → Option Text
  | .str t => some t
  | _ => none

def participantList : Option Json → Option Json
  | some (.list items) => (items.mapM textItem).map (participantTexts p)
  | _ => none

/-- `_CALENDAR_DATE`. -/
def dateShape (t : Text) : Bool :=
  t.length = 10 && (t.zipIdx.all fun e =>
    if e.2 = 4 ∨ e.2 = 7 then e.1 = ofChar '-' else (decimalValue e.1).isSome)

/-- The kind and value of a calendar time. -/
def calendarTime (value : Text) : Option (Text × Text) :=
  if value = [] ∨ value ≠ strip value then none
  else if dateShape value then if p.dateExact value then some (text "date",value) else none
  else (p.fromIso value).map (text "instant",·)

def calendarJson (time : Text × Text) : Json :=
  .dict [(text "kind",.str time.1),(text "value",.str time.2)]

/-- Seconds and six decimal places. -/
def slackTimestamp (raw : Text) : Option (Int × Int) :=
  match splitOnce (ofChar '.') raw with
  | none => none
  | some (seconds,micros) =>
    if seconds ≠ [] && seconds.all Json.isDigit && micros.length = 6 && micros.all Json.isDigit then
      match parseInt seconds, parseInt micros with
      | some s, some m => some (s,m)
      | _, _ => none
    else none

def semanticTimestamp (event : SourceEvent) : Option Json :=
  match event.semanticTimestampRaw with
  | none => none
  | some raw =>
    if event.sourceType = text "calendar" then (calendarTime p raw).map calendarJson
    else if raw = [] ∨ raw ≠ strip raw then none
    else if event.sourceType = text "slack" then
      (slackTimestamp raw).bind fun time => (p.fromTimestamp time.1 time.2).map Json.str
    else if event.sourceType = text "gmail" ∨ event.sourceType = text "gmail_attachment" then
      if raw.all Json.isDigit then (parseInt raw).bind fun millis => (p.fromMillis millis).map Json.str else none
    else (p.fromIso raw).map Json.str

def semanticMetadataKeys (sourceType : Text) : List Text :=
  if sourceType = text "slack" then
    [text "workspace_id",text "workspace_url",text "channel_id",text "thread_ts",text "slack_state"]
  else if sourceType = text "gmail_attachment" then [text "filename",text "mime_type"]
  else if sourceType = text "drive" then [text "mime_type"]
  else if sourceType = text "calendar" then
    [text "attendee_domains",text "end",text "event_status",text "location",text "organizer_email",text "start"]
  else []

/-- The value of a semantic key in the signed payload. -/
def semanticValue (event : SourceEvent) (key : Text) : Option Json :=
  let value := event.rawMetadata.get key
  if key = text "attendee_domains" then participantList p value
  else if event.sourceType = text "calendar" ∧ (key = text "start" ∨ key = text "end") then
    match value with
    | some (.str t) => (calendarTime p t).map calendarJson
    | none | some .null => if key = text "end" then some .null else none
    | some _ => none
  else optionalText p value

/-- The start of a calendar event is its semantic timestamp. -/
def calendarStartExact (event : SourceEvent) : Bool :=
  match event.rawMetadata.get (text "start"), event.semanticTimestampRaw with
  | some (.str start), some raw => calendarTime p start = calendarTime p raw
  | _, _ => false

structure CanonicalSourceContentSignature where
  schema : Text
  signature : Text

def canonicalSourceContentSignature (event : SourceEvent) : Option CanonicalSourceContentSignature :=
  if event.sourceType ∉ sourceTypes then none
  else
    (semanticTimestamp p event).bind fun timestamp =>
    ((semanticMetadataKeys event.sourceType).mapM fun key => (semanticValue p event key).map (key,·)).bind fun semantic =>
    if event.sourceType = text "calendar" ∧ calendarStartExact p event = false then none
    else
      (p.compactDigest (.dict ([
        (text "schema",.str serverSourceContentSignatureSchema),
        (text "source_type",.str event.sourceType),
        (text "title",.str (normalizeText p event.title)),
        (text "body",.str (normalizeText p event.body)),
        (text "author",(event.author.map fun t => Json.str (normalizeText p t)).getD .null),
        (text "participants",participantTexts p event.participants),
        (text "semantic_timestamp",timestamp)]++semantic))).map (⟨serverSourceContentSignatureSchema,·⟩)

def serverParserPolicyForEvent (event : SourceEvent) : Option ServerParserPolicy :=
  serverParserPolicyForSource p.letters event.sourceType (event.rawMetadata.get (text "mime_type"))

/-- The connector's own signature: a text that is not empty. -/
def connectorContentSignature (event : SourceEvent) : Option Text :=
  match event.rawMetadata.get (text "content_signature") with
  | some (.str t) => if t ≠ [] then some t else none
  | _ => none

/-! ## Classification -/

structure SourceStateChangeClassification where
  contentChanged : Bool
  permissionChanged : Bool
  parserPolicyChanged : Bool
  primaryCode : Text

def sourceStatePrimaryCode (contentChanged permissionChanged parserPolicyChanged : Bool) : Text :=
  if contentChanged then text "content_changed"
  else if permissionChanged then text "permission_changed"
  else if parserPolicyChanged then text "parser_policy_changed"
  else text "unchanged"

def parserPolicyDiffers (source : Sources.Source) (policy : ServerParserPolicy) (run : Sources.DocumentParserRun) : Bool :=
  run.serverContentSignatureSchema ≠ source.serverContentSignatureSchema ||
    run.serverContentSignature ≠ source.serverContentSignature ||
    run.parserPolicyVersion ≠ some policy.parserPolicyVersion ||
    run.parserName ≠ policy.parserName ||
    run.parserVersion ≠ some policy.parserVersion ||
    run.chunkPolicyVersion ≠ some policy.chunkPolicyVersion ||
    run.mimeType ≠ policy.mimeType

/-- `classify_source_state_change`; none where a permission is blank. -/
def classifySourceStateChange (source : Option Sources.Source) (event : SourceEvent)
    (currentParserRun : Option Sources.DocumentParserRun) (computed : CanonicalSourceContentSignature)
    (policy : ServerParserPolicy) : Option SourceStateChangeClassification :=
  (normalizeSourcePermission p event.permissionLevel).bind fun incoming =>
  match source with
  | none => some ⟨true,false,false,sourceStatePrimaryCode true false false⟩
  | some source => (normalizeSourcePermission p source.permissionLevel).map fun stored =>
    let contentChanged := source.serverContentSignatureSchema ≠ some computed.schema ||
      source.serverContentSignature ≠ some computed.signature
    let permissionChanged : Bool := stored ≠ incoming
    let parserPolicyChanged := currentParserRun.all (parserPolicyDiffers source policy)
    ⟨contentChanged,permissionChanged,parserPolicyChanged,
      sourceStatePrimaryCode contentChanged permissionChanged parserPolicyChanged⟩

end platform

end ParaWorks.Ingestion
