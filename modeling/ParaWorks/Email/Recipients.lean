import ParaWorks.Lib.JsonPrinter
import ParaWorks.Lib.Patterns
import ParaWorks.Lib.Strings

/-!
# Recipients

`resolve_email_recipients`: the candidates of the conversation, the users and the newest sources, merged by address and
scored against the latest message. Confidences are hundredths.
-/

namespace ParaWorks.Email

open Lib

/-- What the language knows of letters and values: `str.lower`, `\w`, and `str` of a list or an object. -/
structure Platform where
  lower : Text → Text
  isWord : CodePoint → Bool
  reprOf : Json → Text

/-! ## Candidates -/

inductive CandidateSource where
  | conversation
  | authUser
  | demoAuth
  | source
  | latestMessage
  deriving DecidableEq

/-- The place in `_preferred_source_type`. -/
def CandidateSource.rank : CandidateSource → Nat
  | .conversation => 0
  | .authUser => 1
  | .demoAuth => 2
  | .source => 3
  | .latestMessage => 4

def preferredSourceType (left right : CandidateSource) : CandidateSource := if right.rank < left.rank then right else left

structure RecipientCandidate where
  email : Text
  displayName : Text
  title : Text
  department : Text
  sourceType : CandidateSource
  confidenceScore : Nat
  aliases : List Text
  deriving DecidableEq

inductive ResolutionStatus where
  | resolved
  | ambiguous
  | notFound
  deriving DecidableEq

def ResolutionStatus.name : ResolutionStatus → Text
  | .resolved => text "resolved"
  | .ambiguous => text "ambiguous"
  | .notFound => text "not_found"

structure RecipientResolution where
  status : ResolutionStatus
  candidates : List RecipientCandidate
  reason : Text
  deriving DecidableEq

/-- `to_prompt_dict`. -/
structure ResolvedRecipient where
  email : Text
  displayName : Text
  title : Text
  department : Text
  sourceType : Text
  confidenceScore : Nat
  deriving DecidableEq

def CandidateSource.name : CandidateSource → Text
  | .conversation => text "conversation"
  | .authUser => text "auth_user"
  | .demoAuth => text "demo_auth"
  | .source => text "source"
  | .latestMessage => text "latest_message"

def RecipientCandidate.toPromptDict (c : RecipientCandidate) : ResolvedRecipient :=
  ⟨c.email,c.displayName,c.title,c.department,c.sourceType.name,c.confidenceScore⟩

def RecipientResolution.resolvedRecipients (resolution : RecipientResolution) : List ResolvedRecipient :=
  if resolution.status = .resolved then resolution.candidates.map (·.toPromptDict) else []

def resolveThreshold : Nat := 72

def honorificSuffixes : List Text := ["선생님","대표님","님","씨"].map text

def groupHints : List Text := ["전체","팀","부서","그룹"].map text

section resolver

variable (platform : Platform)

/-! ## Names and addresses -/

/-- What follows the last code point of the class. -/
def afterLast (stop : CodePoint → Bool) (t : Text) : Text := (t.reverse.takeWhile fun c => !stop c).reverse

def stripMarks (t : Text) : Text :=
  let marks := text " \"<>()[]\x7b\x7d"
  ((t.dropWhile (· ∈ marks)).reverse.dropWhile (· ∈ marks)).reverse

def dropHonorific (name suffix : Text) : Text :=
  if suffix.isSuffixOf name then name.take (name.length-suffix.length) else name

/-- `_clean_name`. -/
def cleanName (value : Text) : Text :=
  let name := strip (afterLast (fun c => c = ofChar '\n' || c = ofChar ',' || c = ofChar ';') (strip value))
  let name := if ofChar ':' ∈ name then strip (afterLast (· = ofChar ':') name) else name
  strip (honorificSuffixes.foldl dropHonorific (stripMarks name))

def isHangul (c : CodePoint) : Bool := 0xac00 ≤ c.val && c.val ≤ 0xd7a3

def isAsciiDigit (c : CodePoint) : Bool := 48 ≤ c.val && c.val ≤ 57

def isAsciiLower (c : CodePoint) : Bool := 97 ≤ c.val && c.val ≤ 122

def isAsciiLetter (c : CodePoint) : Bool := isAsciiLower c || (65 ≤ c.val && c.val ≤ 90)

/-- `_normalize`. -/
def normalize (value : Text) : Text :=
  (platform.lower (cleanName value)).filter fun c => isAsciiDigit c || isAsciiLower c || isHangul c || c = ofChar '@'

/-- `EMAIL_PATTERN`. -/
def emailPattern : List Piece :=
  [.many (fun c => platform.isWord c || c ∈ text ".+-") 1,.one (· = ofChar '@'),
    .many (fun c => platform.isWord c || c ∈ text ".-") 1,.one (· = ofChar '.'),.many isAsciiLetter 2]

def isNameChar (c : CodePoint) : Bool :=
  isHangul c || isAsciiLetter c || isAsciiDigit c || c ∈ text " ._·:-"

/-- `CONTACT_PAIR_PATTERN`. -/
def contactPairPattern : List Piece :=
  ⟨isNameChar,1,some 80⟩::.many (fun c => isSpace c || c ∈ text "(<（") 1::
    emailPattern platform++[⟨fun c => c ∈ text ">)）",0,some 1⟩]

/-- `_email_addresses`. -/
def emailAddresses (value : Text) : List Text :=
  (findIter (emailPattern platform) value).map fun found => platform.lower found.flatten

/-- The name and the address of a match. -/
def contactPair : List Text → Option (Text × Text)
  | name::_::rest =>
    let cleaned := cleanName name
    if cleaned = [] then none else some (cleaned,platform.lower (rest.take 5).flatten)
  | _ => none

/-- `_contact_pairs`. -/
def contactPairs (value : Text) : List (Text × Text) :=
  (findIter (contactPairPattern platform) value).filterMap (contactPair platform)

/-- `_candidate`. -/
def candidate (email displayName title department : Text) (sourceType : CandidateSource) (confidence : Nat)
    (extraAliases : List Text) : RecipientCandidate :=
  let normalizedEmail := platform.lower (strip email)
  let name := cleanName displayName
  { email := normalizedEmail
    displayName := if name = [] then normalizedEmail else name
    title := strip title
    department := strip department
    sourceType := sourceType
    confidenceScore := confidence
    aliases := ([name,normalizedEmail,normalizedEmail.takeWhile (· ≠ ofChar '@'),title,department]++extraAliases).filter
      (· ≠ []) }

/-! ## Collecting -/

structure AuthUser where
  email : Text
  displayName : Text
  title : Text
  department : Text
  active : Bool
  deriving DecidableEq

structure DemoUser where
  email : Text
  name : Text
  title : Text
  department : Text
  aliases : List Text
  deriving DecidableEq

/-- The columns of a source that are read for contacts, its permission level apart. -/
structure ContactSource where
  id : Nat
  sourceType : Text
  createdAt : Nat
  permissionLevel : Text
  author : Option Text
  title : Text
  rawMetadata : List (Text × Json)

structure ContactTables where
  authUsers : List AuthUser
  sources : List ContactSource

def metadataValue (source : ContactSource) (key : String) : Option Json :=
  (source.rawMetadata.find? (·.1 = text key)).map (·.2)

/-- `bool(value)`. -/
def truthy : Json → Bool
  | .null => false
  | .bool b => b
  | .int n => n ≠ 0
  | .str t => t ≠ []
  | .list items => !items.isEmpty
  | .dict entries => !entries.isEmpty

/-- `str(value)`. -/
def strOf : Json → Text
  | .null => text "None"
  | .bool true => text "True"
  | .bool false => text "False"
  | .int n => Json.renderInt n
  | .str t => t
  | v => platform.reprOf v

/-- `_string_values`. -/
def stringValues : Option Json → List Text
  | none => []
  | some .null => []
  | some (.str t) => [t]
  | some (.list items) => (items.filter truthy).map (strOf platform)
  | some v => [strOf platform v]

/-- `str(metadata.get(key) or '')`. -/
def metadataText (source : ContactSource) (key : String) : Text :=
  match metadataValue source key with
  | none => []
  | some v => if truthy v then strOf platform v else []

/-- `_source_contact_texts`. -/
def sourceContactTexts (source : ContactSource) : List Text :=
  let values := [source.author.getD [],source.title]++
    ["author_name","owner_name","owner_email","last_modifying_user_email","organizer_email","creator_email"].map
      (metadataText platform source)++
    ["participants","attendees","to","cc","from"].flatMap fun key => stringValues platform (metadataValue source key)
  values.filter (· ≠ [])

/-- The candidates that one text names. -/
def textCandidates (value : Text) : List RecipientCandidate :=
  ((contactPairs platform value).map fun p => candidate platform p.2 p.1 [] [] .source 78 [])++
  (emailAddresses platform value).map fun email => candidate platform email email [] [] .source 62 []

def contactSourceTypes : List Text := ["gmail","gmail_attachment","drive","calendar"].map text

/-- The newest rows first: `created_at DESC, id DESC`. -/
def newerFirst (a b : ContactSource) : Prop := b.createdAt < a.createdAt ∨ b.createdAt = a.createdAt ∧ b.id ≤ a.id

instance (a b : ContactSource) : Decidable (newerFirst a b) :=
  inferInstanceAs (Decidable (b.createdAt < a.createdAt ∨ b.createdAt = a.createdAt ∧ b.id ≤ a.id))

/-- The rows that `_source_candidates` selects. -/
def contactRows (tables : ContactTables) : List ContactSource :=
  ((tables.sources.filter (·.sourceType ∈ contactSourceTypes)).insertionSort newerFirst).take 500

/-- `_source_candidates`. -/
def sourceCandidates (tables : ContactTables) : List RecipientCandidate :=
  (contactRows tables).flatMap fun source => (sourceContactTexts platform source).flatMap (textCandidates platform)

def conversationCandidates (conversationContext : Text) : List RecipientCandidate :=
  (contactPairs platform conversationContext).map fun p => candidate platform p.2 p.1 [] [] .conversation 100 []

def authUserCandidates (users : List AuthUser) : List RecipientCandidate :=
  (users.filter (·.active)).map fun u => candidate platform u.email u.displayName u.title u.department .authUser 90 []

def demoUserCandidates (users : List DemoUser) : List RecipientCandidate :=
  users.map fun u => candidate platform u.email u.name u.title u.department .demoAuth 78 u.aliases

/-- An existing candidate with what an incoming one adds. -/
def absorb (existing incoming : RecipientCandidate) : RecipientCandidate :=
  { existing with
    displayName := if existing.displayName = [] ∨ existing.displayName = existing.email then incoming.displayName
      else existing.displayName
    title := if existing.title = [] then incoming.title else existing.title
    department := if existing.department = [] then incoming.department else existing.department
    sourceType := preferredSourceType existing.sourceType incoming.sourceType
    confidenceScore := max existing.confidenceScore incoming.confidenceScore
    aliases := existing.aliases++incoming.aliases }

/-- `_merge_candidate` into the candidates in the order of their first appearance. -/
def mergeCandidate (candidates : List RecipientCandidate) (incoming : RecipientCandidate) : List RecipientCandidate :=
  if candidates.any (·.email = incoming.email) then
    candidates.map fun c => if c.email = incoming.email then absorb c incoming else c
  else candidates++[incoming]

/-- `_collect_candidates`. -/
def collectCandidates (demoUsers : List DemoUser) (tables : ContactTables) (conversationContext : Text) :
    List RecipientCandidate :=
  (conversationCandidates platform conversationContext++authUserCandidates platform tables.authUsers++
    demoUserCandidates platform demoUsers++sourceCandidates platform tables).foldl mergeCandidate []

/-! ## Choosing -/

/-- The candidates of each department that the message names, in the order of their first appearance. -/
def departmentsOf (normalizedMessage : Text) (candidates : List RecipientCandidate) :
    List (Text × List RecipientCandidate) :=
  candidates.foldl (fun departments c =>
    let key := normalize platform c.department
    if key = [] ∨ contains key normalizedMessage = false then departments
    else if departments.any (·.1 = key) then
      departments.map fun d => if d.1 = key then (d.1,d.2++[c]) else d
    else departments++[(key,[c])]) []

/-- The first of the longest. -/
def longestGroup (groups : List (List RecipientCandidate)) : List RecipientCandidate :=
  groups.foldl (fun best group => if best.length < group.length then group else best) []

/-- `_dedupe_candidates`. -/
def dedupeCandidates (candidates : List RecipientCandidate) : List RecipientCandidate :=
  (candidates.insertionSort fun a b => a.email ≤ b.email).foldl
    (fun kept c => if kept.any (·.email = c.email) then kept else kept++[c]) []

/-- `_resolve_group_candidates`. -/
def resolveGroupCandidates (candidates : List RecipientCandidate) (latestMessage : Text) : List RecipientCandidate :=
  let normalizedMessage := normalize platform latestMessage
  if groupHints.all fun hint => !contains (normalize platform hint) normalizedMessage then []
  else dedupeCandidates (longestGroup ((departmentsOf platform normalizedMessage candidates).map (·.2)))

/-- A candidate that the message names, with its score. -/
def scored (normalizedMessage : Text) (c : RecipientCandidate) : Option RecipientCandidate :=
  let aliasMatched := (c.aliases.filter fun a => 2 ≤ (normalize platform a).length).any
    fun a => contains (normalize platform a) normalizedMessage
  let titleMatched := c.title ≠ [] && contains (normalize platform c.title) normalizedMessage
  let score := c.confidenceScore+(if aliasMatched then 20 else 0)+(if titleMatched then 8 else 0)
  if (aliasMatched || titleMatched) && resolveThreshold ≤ score then
    some { c with confidenceScore := min score 100 }
  else none

def bestFirst (a b : RecipientCandidate) : Prop :=
  b.confidenceScore < a.confidenceScore ∨ b.confidenceScore = a.confidenceScore ∧ a.email ≤ b.email

instance (a b : RecipientCandidate) : Decidable (bestFirst a b) :=
  inferInstanceAs (Decidable (b.confidenceScore < a.confidenceScore ∨
    b.confidenceScore = a.confidenceScore ∧ a.email ≤ b.email))

/-- `_score_candidates`. -/
def scoreCandidates (candidates : List RecipientCandidate) (latestMessage : Text) : List RecipientCandidate :=
  (candidates.filterMap (scored platform (normalize platform latestMessage))).insertionSort bestFirst

/-- The choice among the scored candidates. -/
def chooseScored (scored : List RecipientCandidate) : RecipientResolution :=
  match scored with
  | [] => ⟨.notFound,[],text "no_matching_contact"⟩
  | best::_ =>
    match scored.filter fun c => resolveThreshold ≤ c.confidenceScore && c.confidenceScore = best.confidenceScore with
    | [] => ⟨.notFound,scored.take 3,text "below_confidence_threshold"⟩
    | [only] => ⟨.resolved,[only],text "single_match"⟩
    | several => ⟨.ambiguous,several,text "multiple_equal_matches"⟩

/-- `resolve_email_recipients` over the collected candidates. -/
def resolveAmong (candidates : List RecipientCandidate) (latestMessage : Text) : RecipientResolution :=
  let directEmails := emailAddresses platform latestMessage
  if directEmails ≠ [] then
    ⟨.resolved,directEmails.map fun email => candidate platform email email [] [] .latestMessage 100 [],
      text "direct_email"⟩
  else
    let group := resolveGroupCandidates platform candidates latestMessage
    if group ≠ [] then ⟨.resolved,group,text "department_group"⟩
    else chooseScored (scoreCandidates platform candidates latestMessage)

/-- `resolve_email_recipients`. -/
def resolveEmailRecipients (demoUsers : List DemoUser) (tables : ContactTables) (latestMessage conversationContext : Text) :
    RecipientResolution :=
  resolveAmong platform (collectCandidates platform demoUsers tables conversationContext) latestMessage

end resolver

/-! ## Replies -/

def candidateLine (c : RecipientCandidate) : Text :=
  if c.displayName = c.email then text "- "++c.email else text "- "++c.displayName++text ": "++c.email

/-- `contact_lookup_response_content`. -/
def contactLookupResponseContent (resolution : RecipientResolution) : Text :=
  let lines := fun candidates : List RecipientCandidate => join [ofChar '\n'] (candidates.map candidateLine)
  match resolution.status with
  | .resolved =>
    match resolution.candidates with
    | [c] =>
      if c.displayName ≠ c.email ∧ c.displayName ≠ [] then
        c.displayName++text "님의 이메일 주소는 "++c.email++text "입니다."
      else text "확인된 이메일 주소는 "++c.email++text "입니다."
    | candidates => text "확인된 이메일 주소는 다음과 같습니다.\n"++lines candidates
  | .ambiguous => text "동명이인이 있어 어느 연락처인지 확정하기 어렵습니다.\n"++lines (resolution.candidates.take 5)
  | .notFound =>
    if resolution.candidates ≠ [] then
      text "정확히 일치하는 연락처를 찾지 못했습니다. 가까운 후보는 다음과 같습니다.\n"++lines (resolution.candidates.take 3)
    else text "현재 확인 가능한 연락처에서 해당 이메일 주소를 찾지 못했습니다."

/-- `_recipient_clarification_content`; `none` is the correction of a draft. -/
def recipientClarificationContent (resolution : Option RecipientResolution) : Text :=
  match resolution with
  | none => text "수신자를 누구로 수정할까요? 이름이나 이메일 주소를 알려주세요."
  | some resolution =>
    if resolution.status = .ambiguous ∧ resolution.candidates ≠ [] then
      text "수신자를 하나로 확정하기 어렵습니다. 누구에게 보낼지 선택해 주세요.\n"++
        join [ofChar '\n'] ((resolution.candidates.take 5).map fun c => text "- "++c.displayName++text ": "++c.email)
    else text "수신자를 확정할 수 없습니다. 받을 사람의 정확한 이름이나 이메일 주소를 알려주세요."

end ParaWorks.Email
