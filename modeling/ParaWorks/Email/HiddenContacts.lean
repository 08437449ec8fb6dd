import ParaWorks.Email.Gating
import ParaWorks.Lib.Paging

/-!
# Contacts of hidden sources

A turn in two databases that differ only in sources whose permission level the user does not hold. The contacts are read
from the newest sources of every level, so the turn can depend on the hidden ones.
-/

namespace ParaWorks.Email

open Lib

/-! ## Two databases -/

/-- What is left of the tables at the permission levels. -/
def ContactTables.visible (levels : List Text) (tables : ContactTables) : ContactTables :=
  { tables with sources := tables.sources.filter (·.permissionLevel ∈ levels) }

/-- Tables that differ only in sources at other permission levels. -/
def SameVisible (levels : List Text) (tables tables' : ContactTables) : Prop :=
  tables.visible levels = tables'.visible levels

/-- The newest contact sources, as many as are read, all have one of the levels. -/
def NewestVisible (levels : List Text) (tables : ContactTables) : Prop :=
  ∀ source ∈ contactRows tables, source.permissionLevel ∈ levels

instance : Std.Total newerFirst where
  total a b := by
    unfold newerFirst
    omega

instance : IsTrans ContactSource newerFirst where
  trans a b c := by
    unfold newerFirst
    omega

theorem contactRows_visible {levels : List Text} {tables : ContactTables} (h : NewestVisible levels tables) :
    contactRows (tables.visible levels) = contactRows tables := by
  unfold NewestVisible at h
  unfold contactRows ContactTables.visible at *
  rw [List.filter_comm,← filter_insertionSort]
  apply take_filter_of_all
  intro source hsource
  exact decide_eq_true (h source hsource)

theorem SameVisible.authUsers {levels : List Text} {tables tables' : ContactTables} (h : SameVisible levels tables tables') :
    tables.authUsers = tables'.authUsers :=
  congrArg (·.authUsers) (show tables.visible levels = tables'.visible levels from h)

/-- Where no hidden source is among the newest the same rows are read. -/
theorem SameVisible.contactRows {levels : List Text} {tables tables' : ContactTables}
    (h : SameVisible levels tables tables') (hnewest : NewestVisible levels tables)
    (hnewest' : NewestVisible levels tables') : contactRows tables = contactRows tables' := by
  rw [← contactRows_visible hnewest,← contactRows_visible hnewest']
  exact congrArg Email.contactRows h

section resolver

variable {platform : Platform} {levels : List Text} {tables tables' : ContactTables}

/-- An address in the message is taken without any candidate. -/
theorem resolveAmong_direct {message : Text} (h : emailAddresses platform message ≠ [])
    (candidates candidates' : List RecipientCandidate) :
    resolveAmong platform candidates message = resolveAmong platform candidates' message := by
  unfold resolveAmong
  dsimp only
  rw [if_pos h,if_pos h]

theorem collectCandidates_visible (h : SameVisible levels tables tables') (hnewest : NewestVisible levels tables)
    (hnewest' : NewestVisible levels tables') (demoUsers : List DemoUser) (context : Text) :
    collectCandidates platform demoUsers tables context = collectCandidates platform demoUsers tables' context := by
  unfold collectCandidates sourceCandidates
  rw [h.authUsers,h.contactRows hnewest hnewest']

/-- The message names an address, or no hidden source is among the newest of either database. -/
def HiddenUnread (platform : Platform) (levels : List Text) (tables tables' : ContactTables) (message : Text) : Prop :=
  emailAddresses platform message ≠ [] ∨ NewestVisible levels tables ∧ NewestVisible levels tables'

theorem resolveEmailRecipients_visible {message : Text} (h : SameVisible levels tables tables')
    (hunread : HiddenUnread platform levels tables tables' message) (demoUsers : List DemoUser) :
    resolveEmailRecipients platform demoUsers tables message =
      resolveEmailRecipients platform demoUsers tables' message := by
  funext context
  rcases hunread with hdirect | ⟨hnewest,hnewest'⟩
  · exact resolveAmong_direct hdirect _ _
  · unfold resolveEmailRecipients
    rw [collectCandidates_visible h hnewest hnewest']

end resolver

/-! ## Turns -/

section turns

variable {Evidence : Type} (authority : EvidenceAuthority Evidence) (lower : Text → Text)
  (env : TurnEnvironment Evidence) (resolve resolve' : Text → Text → RecipientResolution)

def TurnEnvironment.withResolver : TurnEnvironment Evidence := { env with resolve := resolve }

/-- The decision of the intent gate on the earlier messages is a confident one. -/
def confidentIntent (prior : Conversation) : Bool :=
  let intent := env.decide (renderEmailActionContext env.maxInputChars (prior.map (·.message))) (strip env.content)
  intent.emailIntent && env.minConfidence ≤ intent.confidenceScore

/-- What the turn asks the resolver for. -/
def contactQuery (conversation : Conversation) : Option Text :=
  let prior := priorMessages authority env conversation
  let messages := prior.map (·.message)
  if strip env.content = [] ∨ isPendingDraftRecipientProblem lower messages (strip env.content) then none
  else match detectContactLookupRequest lower (strip env.content) (emailActionRows env.maxInputChars messages) with
    | some lookup => some lookup.lookupQuery
    | none =>
      if (buildGeneratedEmailSourceRequest lower (strip env.content)).isSome ||
          (buildEmailSourceContext lower messages (strip env.content)).isSome || confidentIntent env prior then
        some (strip env.content)
      else none

variable {authority lower env resolve resolve'}

/-- The reply to a contact lookup. -/
def lookupTurn (env : TurnEnvironment Evidence) (conversation : Conversation) (resolution : RecipientResolution) :
    TurnResult :=
  (stored conversation (appendAssistantMessage env conversation (contactLookupResponseContent resolution) none
    (plainMetadata (some (text "contact_lookup")) (some resolution.status.name) (some (text "recipient_resolver"))
      none) [] [])).after resolution []

theorem turn_rejected (env : TurnEnvironment Evidence) (h : strip env.content = []) (conversation : Conversation) :
    turn authority lower env conversation = ⟨conversation,[],[],.rejected⟩ := if_pos h

theorem turn_correction (env : TurnEnvironment Evidence) {conversation : Conversation} (hcontent : strip env.content ≠ [])
    (h : isPendingDraftRecipientProblem lower ((priorMessages authority env conversation).map (·.message))
      (strip env.content) = true) :
    turn authority lower env conversation = recipientClarification env (asked env conversation) none := by
  unfold turn
  rw [if_neg hcontent]
  exact if_pos h

theorem turn_lookup (env : TurnEnvironment Evidence) {conversation : Conversation} {lookup : ContactLookupRequest}
    (hcontent : strip env.content ≠ [])
    (hproblem : ¬isPendingDraftRecipientProblem lower ((priorMessages authority env conversation).map (·.message))
      (strip env.content) = true)
    (h : detectContactLookupRequest lower (strip env.content) (emailActionRows env.maxInputChars
      ((priorMessages authority env conversation).map (·.message))) = some lookup) :
    turn authority lower env conversation = lookupTurn env (asked env conversation)
      (env.resolve lookup.lookupQuery (renderEmailActionContext env.maxInputChars
        ((priorMessages authority env conversation).map (·.message)))) := by
  unfold turn
  dsimp only
  rw [if_neg hcontent,if_neg hproblem,h]
  rfl

theorem turn_generated (env : TurnEnvironment Evidence) {conversation : Conversation} (hcontent : strip env.content ≠ [])
    (hproblem : ¬isPendingDraftRecipientProblem lower ((priorMessages authority env conversation).map (·.message))
      (strip env.content) = true)
    (h : detectContactLookupRequest lower (strip env.content) (emailActionRows env.maxInputChars
      ((priorMessages authority env conversation).map (·.message))) = none) :
    turn authority lower env conversation =
      generatedTurn lower env (asked env conversation) (priorMessages authority env conversation) := by
  unfold turn
  dsimp only
  rw [if_neg hcontent,if_neg hproblem,h]

/-- The paths after the contact lookup ask for the message only. -/
theorem generatedTurn_resolver (conversation prior : Conversation) :
    generatedTurn lower (env.withResolver resolve) conversation prior =
      generatedTurn lower (env.withResolver fun _ => resolve (strip env.content)) conversation prior := rfl

theorem intentTurn_unasked (env : TurnEnvironment Evidence) {prior : Conversation} (h : confidentIntent env prior = false) (conversation : Conversation) :
    intentTurn env conversation prior =
      answerTurn env conversation (buildContextualQuestion (prior.map (·.message)) (strip env.content)) := by
  unfold intentTurn
  apply if_neg
  intro ⟨hintent,hscore⟩
  have hconfident : confidentIntent env prior = true := by
    unfold confidentIntent
    simpa using ⟨hintent,hscore⟩
  rw [hconfident] at h
  cases h

/-- Without a request to answer, a source or a confident intent the turn is an answer. -/
theorem generatedTurn_unasked (env : TurnEnvironment Evidence) {prior : Conversation}
    (hconfident : confidentIntent env prior = false)
    (hgenerated : buildGeneratedEmailSourceRequest lower (strip env.content) = none)
    (hsource : buildEmailSourceContext lower (prior.map (·.message)) (strip env.content) = none)
    (conversation : Conversation) :
    generatedTurn lower env conversation prior =
      answerTurn env conversation (buildContextualQuestion (prior.map (·.message)) (strip env.content)) := by
  rw [← intentTurn_unasked env hconfident]
  simp [generatedTurn,sourceTurn,hgenerated,hsource]

/-- Resolvers that agree on what the turn asks for give the same turn. -/
theorem turn_congr {conversation : Conversation}
    (h : ∀ query, contactQuery authority lower env conversation = some query → resolve query = resolve' query) :
    turn authority lower (env.withResolver resolve) conversation =
      turn authority lower (env.withResolver resolve') conversation := by
  unfold contactQuery at h
  dsimp only at h
  by_cases hcontent : strip env.content = []
  · rw [turn_rejected (env.withResolver resolve) hcontent,turn_rejected (env.withResolver resolve') hcontent]
  by_cases hproblem : isPendingDraftRecipientProblem lower
      ((priorMessages authority env conversation).map (·.message)) (strip env.content) = true
  · rw [turn_correction (env.withResolver resolve) hcontent hproblem,
      turn_correction (env.withResolver resolve') hcontent hproblem]
    rfl
  rw [if_neg (not_or.mpr ⟨hcontent,hproblem⟩)] at h
  cases hlookup : detectContactLookupRequest lower (strip env.content)
      (emailActionRows env.maxInputChars ((priorMessages authority env conversation).map (·.message))) with
  | some lookup =>
    rw [hlookup] at h
    rw [turn_lookup (env.withResolver resolve) hcontent hproblem hlookup,
      turn_lookup (env.withResolver resolve') hcontent hproblem hlookup]
    change lookupTurn (env.withResolver resolve) _ (resolve lookup.lookupQuery _) =
      lookupTurn _ _ (resolve' lookup.lookupQuery _)
    rw [h _ rfl]
    rfl
  | none =>
    rw [hlookup] at h
    dsimp only at h
    rw [turn_generated (env.withResolver resolve) hcontent hproblem hlookup,
      turn_generated (env.withResolver resolve') hcontent hproblem hlookup]
    by_cases hasks : ((buildGeneratedEmailSourceRequest lower (strip env.content)).isSome ||
        (buildEmailSourceContext lower ((priorMessages authority env conversation).map (·.message))
          (strip env.content)).isSome || confidentIntent env (priorMessages authority env conversation)) = true
    · rw [generatedTurn_resolver,@generatedTurn_resolver _ _ _ resolve',h _ (if_pos hasks)]
      rfl
    · simp only [Bool.or_eq_true,not_or,Bool.not_eq_true,Option.isSome_eq_false_iff,
        Option.isNone_iff_eq_none] at hasks
      obtain ⟨⟨hgenerated,hsource⟩,hconfident⟩ := hasks
      change generatedTurn lower (env.withResolver resolve) _ (priorMessages authority env conversation) =
        generatedTurn lower (env.withResolver resolve') _ (priorMessages authority env conversation)
      rw [generatedTurn_unasked (env.withResolver resolve) hconfident hgenerated hsource,
        generatedTurn_unasked (env.withResolver resolve') hconfident hgenerated hsource]
      rfl

/-! ## Hidden contacts -/

variable (platform : Platform) (demoUsers : List DemoUser)

/-- The turn with the contacts of the tables. -/
def turnOver (authority : EvidenceAuthority Evidence) (env : TurnEnvironment Evidence) (conversation : Conversation)
    (tables : ContactTables) : TurnResult :=
  turn authority platform.lower (env.withResolver (resolveEmailRecipients platform demoUsers tables)) conversation

/-- Sources at levels that the user does not hold leave a turn as it is when whatever it asks the resolver for names an
address, or none of them is among the newest contact sources. -/
theorem hidden_contacts_silent (authority : EvidenceAuthority Evidence) (env : TurnEnvironment Evidence)
    (conversation : Conversation) {levels : List Text} {tables tables' : ContactTables}
    (h : SameVisible levels tables tables')
    (hunread : ∀ query, contactQuery authority platform.lower env conversation = some query →
      HiddenUnread platform levels tables tables' query) :
    turnOver platform demoUsers authority env conversation tables =
      turnOver platform demoUsers authority env conversation tables' := by
  apply turn_congr
  intro query hquery
  exact resolveEmailRecipients_visible h (hunread query hquery) demoUsers

end turns

/-! ## An address of a hidden source, and one that is given -/

section samples

def plainPlatform : Platform := ⟨id,fun c => isHangul c || isAsciiLetter c || isAsciiDigit c,fun _ => []⟩

def noContacts : ContactTables := ⟨[],[]⟩

def restrictedMail : ContactSource :=
  ⟨1,text "gmail",1,text "restricted",some (text "kim <kim@secret.com>"),text "Plan",[]⟩

def hiddenContact : ContactTables := ⟨[],[restrictedMail]⟩

def lookupSample : TurnEnvironment Unit := plainTurn "kim 이메일 알려줘" noIntent noDraft

def addressSample : TurnEnvironment Unit := plainTurn "mail kim@example.com the plan" freshIntent composedDraft

theorem hiddenContact_sameVisible : SameVisible [text "internal"] noContacts hiddenContact := by
  unfold SameVisible ContactTables.visible noContacts hiddenContact
  have hhidden : [restrictedMail].filter (·.permissionLevel ∈ [text "internal"]) = [] := by decide +kernel
  rw [hhidden]
  rfl

theorem hidden_contacts_silent_address :
    turnOver plainPlatform [] permissive addressSample [] noContacts =
      turnOver plainPlatform [] permissive addressSample [] hiddenContact := by
  apply hidden_contacts_silent plainPlatform [] permissive addressSample [] hiddenContact_sameVisible
  intro query hquery
  have hasked : contactQuery permissive plainPlatform.lower addressSample [] =
      some (text "mail kim@example.com the plan") := by decide +kernel
  obtain rfl := Option.some.inj (hasked.symm.trans hquery)
  apply Or.inl
  decide +kernel

/-- The address of a source that the user may not see is the answer to a lookup. -/
theorem hidden_contact_shown : ¬∀ (env : TurnEnvironment Unit) (conversation : Conversation) (levels : List Text)
    (tables tables' : ContactTables), SameVisible levels tables tables' →
      turnOver plainPlatform [] permissive env conversation tables =
        turnOver plainPlatform [] permissive env conversation tables' := by
  intro h
  have hsame := h lookupSample [] [text "internal"] noContacts hiddenContact hiddenContact_sameVisible
  have hdiffer : turnOver plainPlatform [] permissive lookupSample [] noContacts ≠
      turnOver plainPlatform [] permissive lookupSample [] hiddenContact := by decide +kernel
  exact hdiffer hsame

end samples

end ParaWorks.Email
