import ParaWorks.Email.Drafts
import ParaWorks.Lib.Transition
import Mathlib

/-!
# Sending an approved draft

Any number of `send_assistant_email_draft` requests for one draft. Each reads the row, calls Gmail, writes the metadata
back as a whole and commits, and may die between any two of these steps.
-/

namespace ParaWorks.Email

open Lib

/-- Gmail names each message that it accepts. -/
abbrev MailId := { id : Text // id ≠ [] }

structure AcceptedMail where
  request : Nat
  id : MailId
  draft : EmailDraft
  deriving DecidableEq

inductive GmailOutcome where
  | refused (error : Text)
  | accepted (id : MailId)
  /-- accepted, and the response is lost: `httpx.RequestError`, which the sender reports as a failed send -/
  | lost (id : MailId)
  deriving DecidableEq

/-- Where a request stands. -/
inductive Phase where
  | idle
  | reading (snapshot : AssistantMessage) (draft : EmailDraft)
  | accepted (snapshot : AssistantMessage) (id : MailId)
  | written (next : AssistantMessage) (id : MailId)
  | refused (refusal : SendRefusal)
  /-- answered as sent, with the id when the request itself sent the message -/
  | answered (id : Option MailId)
  | crashed
  deriving DecidableEq

/-- The request has a message accepted and not yet recorded. -/
def Phase.unrecorded : Phase → Bool
  | .accepted _ _ => true
  | .written _ _ => true
  | _ => false

structure System (Evidence : Type) where
  /-- the committed row of the draft -/
  row : AssistantMessage
  evidence : Evidence
  phase : Nat → Phase
  /-- what Gmail has accepted, the newest first -/
  gmail : List AcceptedMail

inductive Event (Evidence : Type) where
  | read (request : Nat)
  | callGmail (request : Nat) (outcome : GmailOutcome)
  | write (request : Nat) (sentAt : Text)
  | commit (request : Nat)
  | crash (request : Nat)
  /-- the rest of the database changes -/
  | change (evidence : Evidence)

section sending

variable {Evidence : Type} (authority : EvidenceAuthority Evidence)

def System.setPhase (s : System Evidence) (request : Nat) (phase : Phase) : System Evidence :=
  { s with phase := Function.update s.phase request phase }

def System.initial (row : AssistantMessage) (evidence : Evidence) : System Evidence :=
  ⟨row,evidence,fun _ => .idle,[]⟩

/-- Where a request stands once it has read the row. -/
def readPhase (e : Evidence) (row : AssistantMessage) : Phase :=
  match sendGate authority e row with
  | .refused refusal => .refused refusal
  | .alreadySent => .answered none
  | .send draft => .reading row draft

def callPhase (snapshot : AssistantMessage) : GmailOutcome → Phase
  | .refused error => .refused (.gmail error)
  | .accepted id => .accepted snapshot id
  | .lost _ => .refused (.gmail (text "gmail_api_send_unreachable"))

/-- What Gmail has accepted after a call. -/
def mailbox (request : Nat) (draft : EmailDraft) (gmail : List AcceptedMail) : GmailOutcome → List AcceptedMail
  | .refused _ => gmail
  | .accepted id => ⟨request,id,draft⟩::gmail
  | .lost id => ⟨request,id,draft⟩::gmail

/-- One step; a step that the request is not at changes nothing. -/
def sendStep (s : System Evidence) : Event Evidence → System Evidence
  | .read r =>
    match s.phase r with
    | .idle => s.setPhase r (readPhase authority s.evidence s.row)
    | _ => s
  | .callGmail r outcome =>
    match s.phase r with
    | .reading snapshot draft =>
      { s.setPhase r (callPhase snapshot outcome) with gmail := mailbox r draft s.gmail outcome }
    | _ => s
  | .write r sentAt =>
    match s.phase r with
    | .accepted snapshot id => s.setPhase r (.written (snapshot.sent sentAt id) id)
    | _ => s
  | .commit r =>
    match s.phase r with
    | .written next id => { s.setPhase r (.answered (some id)) with row := next }
    | _ => s
  | .crash r => s.setPhase r .crashed
  | .change e => { s with evidence := e }

/-! ## At most once and truthfully -/

/-- What is promised of every state: `initial` is the draft as it was approved. -/
structure SentOnce (initial : AssistantMessage) (s : System Evidence) : Prop where
  once : s.gmail.length ≤ 1
  truthful : s.row.metadata.status = some (text "sent") →
    ∃ mail ∈ s.gmail, s.row.metadata.gmailMessageId = some mail.id.val
  answered : ∀ r id, s.phase r = .answered id → s.gmail ≠ []
  /-- what a request has recorded stands -/
  kept : ∀ r id, s.phase r = .answered (some id) →
    s.row.metadata.status = some (text "sent") ∧ s.row.metadata.gmailMessageId = some id.val
  /-- without an accepted message the row is as it was -/
  untouched : s.gmail = [] → s.row = initial
  columns : s.row.columns = initial.columns
  protectedFields : s.row.metadata.protectedFields = initial.metadata.protectedFields
  /-- the draft reads back as it would have before -/
  available : ∀ e, projectionIsLive authority e s.row = projectionIsLive authority e initial

/-- Gmail accepts a message only for a request whose row is still as it read it, with no other message waiting to be
recorded, and an accepted message is heard of and recorded. -/
def Exclusive (s : System Evidence) : Event Evidence → Prop
  | .callGmail r (.accepted _) =>
    ∀ snapshot draft, s.phase r = .reading snapshot draft → snapshot = s.row ∧ ∀ r', (s.phase r').unrecorded = false
  | .callGmail r (.lost _) => ∀ snapshot draft, s.phase r ≠ .reading snapshot draft
  | .crash r => (s.phase r).unrecorded = false
  | _ => True

/-- The request has neither sent nor been answered as sent. -/
def Phase.quiet : Phase → Bool
  | .accepted _ _ => false
  | .written _ _ => false
  | .answered _ => false
  | _ => true

/-- How far the draft has come. -/
inductive Progress (initial : AssistantMessage) (s : System Evidence) : Prop
  | pending : s.gmail = [] → s.row = initial → (∀ r, (s.phase r).quiet = true) → Progress initial s
  | accepted (mail : AcceptedMail) : s.gmail = [mail] → s.row = initial →
      (∀ r, r ≠ mail.request → (s.phase r).quiet = true) →
      (s.phase mail.request = .accepted initial mail.id ∨
        ∃ sentAt, s.phase mail.request = .written (initial.sent sentAt mail.id) mail.id) → Progress initial s
  | recorded (mail : AcceptedMail) (sentAt : Text) : s.gmail = [mail] → s.row = initial.sent sentAt mail.id →
      (∀ r, (s.phase r).unrecorded = false) → (∀ r id, s.phase r = .answered (some id) → id = mail.id) → Progress initial s

/-- Requests that have read the row read the approved draft. -/
structure SendInvariant (initial : AssistantMessage) (s : System Evidence) : Prop where
  snapshots : ∀ r snapshot draft, s.phase r = .reading snapshot draft → snapshot = initial
  progress : Progress initial s

variable {authority} {initial : AssistantMessage} {s : System Evidence}

@[simp] theorem System.setPhase_self (s : System Evidence) (r : Nat) (p : Phase) : (s.setPhase r p).phase r = p := by
  simp [System.setPhase]

theorem System.setPhase_other (s : System Evidence) {r r' : Nat} (p : Phase) (h : r' ≠ r) :
    (s.setPhase r p).phase r' = s.phase r' := by
  simp [System.setPhase,h]

theorem Phase.unrecorded_of_quiet {p : Phase} (h : p.quiet = true) : p.unrecorded = false := by
  cases p <;> first | rfl | cases h

theorem SentOnce.of_invariant (hpending : initial.metadata.status ≠ some (text "sent")) (h : SendInvariant initial s) :
    SentOnce authority initial s := by
  have protectedRow : s.row.columns = initial.columns ∧
      s.row.metadata.protectedFields = initial.metadata.protectedFields := by
    cases h.progress with
    | pending _ hrow => rw [hrow]; exact ⟨rfl,rfl⟩
    | accepted _ _ hrow => rw [hrow]; exact ⟨rfl,rfl⟩
    | recorded mail sentAt _ hrow => rw [hrow]; exact initial.sent_protected sentAt mail.id
  have available := fun e => projectionIsLive_congr authority e protectedRow.1 protectedRow.2
  cases h.progress with
  | pending hgmail hrow hquiet =>
    have noAnswer : ∀ r id, s.phase r ≠ .answered id := by
      intro r id hr
      have := hquiet r
      rw [hr] at this
      cases this
    exact ⟨by simp [hgmail],fun hs => absurd (hrow ▸ hs) hpending,fun r id hr => absurd hr (noAnswer r id),
      fun r id hr => absurd hr (noAnswer r _),fun _ => hrow,protectedRow.1,protectedRow.2,available⟩
  | accepted mail hgmail hrow hquiet hown =>
    have noAnswer : ∀ r id, s.phase r ≠ .answered id := by
      intro r id hr
      by_cases hmail : r = mail.request
      · rw [hmail] at hr
        obtain hown | ⟨sentAt,hown⟩ := hown
        · rw [hr] at hown; cases hown
        · rw [hr] at hown; cases hown
      · have := hquiet r hmail
        rw [hr] at this
        cases this
    exact ⟨by simp [hgmail],fun hs => absurd (hrow ▸ hs) hpending,fun r id hr => absurd hr (noAnswer r id),
      fun r id hr => absurd hr (noAnswer r _),fun _ => hrow,protectedRow.1,protectedRow.2,available⟩
  | recorded mail sentAt hgmail hrow _ hanswers =>
    have hsent : s.row.metadata.gmailMessageId = some mail.id.val := by rw [hrow]; rfl
    have hstatus : s.row.metadata.status = some (text "sent") := by rw [hrow]; rfl
    refine ⟨by simp [hgmail],fun _ => ⟨mail,by simp [hgmail],hsent⟩,fun _ _ _ => by simp [hgmail],?_,
      fun hnone => by simp [hgmail] at hnone,protectedRow.1,protectedRow.2,available⟩
    intro r id hr
    rw [hanswers r id hr]
    exact ⟨hstatus,hsent⟩

/-! ## Steps -/

theorem readPhase_reading {e : Evidence} {row snapshot : AssistantMessage} {draft : EmailDraft}
    (h : readPhase authority e row = .reading snapshot draft) :
    snapshot = row ∧ row.metadata.status = some (text "pending_approval") := by
  unfold readPhase at h
  split at h
  · cases h
  · cases h
  · next hgate =>
    cases h
    exact ⟨rfl,(sendGate_send hgate).1⟩

theorem readPhase_answered {e : Evidence} {row : AssistantMessage} {id : Option MailId}
    (h : readPhase authority e row = .answered id) : id = none ∧ row.metadata.status = some (text "sent") := by
  unfold readPhase at h
  split at h
  · cases h
  · next hgate =>
    cases h
    exact ⟨rfl,sendGate_alreadySent hgate⟩
  · cases h

theorem readPhase_unrecorded (e : Evidence) (row : AssistantMessage) :
    (readPhase authority e row).unrecorded = false := by
  unfold readPhase
  split <;> rfl

theorem readPhase_quiet {e : Evidence} {row : AssistantMessage} (h : row.metadata.status ≠ some (text "sent")) :
    (readPhase authority e row).quiet = true := by
  cases hp : readPhase authority e row with
  | answered id => exact absurd (readPhase_answered hp).2 h
  | accepted snapshot id =>
    have hu := @readPhase_unrecorded _ authority e row
    rw [hp] at hu
    cases hu
  | written next id =>
    have hu := @readPhase_unrecorded _ authority e row
    rw [hp] at hu
    cases hu
  | idle => rfl
  | reading snapshot draft => rfl
  | refused refusal => rfl
  | crashed => rfl

/-- A request that neither has sent nor sends moves on. -/
theorem SendInvariant.moved (h : SendInvariant initial s) {r : Nat} {p : Phase} (hfrom : (s.phase r).unrecorded = false)
    (hquiet : s.row = initial → p.quiet = true) (hto : p.unrecorded = false)
    (hanswer : ∀ id, p ≠ .answered (some id))
    (hread : ∀ snapshot draft, p = .reading snapshot draft → snapshot = initial) :
    SendInvariant initial (s.setPhase r p) := by
  constructor
  · intro r' snapshot draft hr
    by_cases hr' : r' = r
    · rw [hr',System.setPhase_self] at hr
      exact hread snapshot draft hr
    · rw [System.setPhase_other s p hr'] at hr
      exact h.snapshots r' snapshot draft hr
  · cases h.progress with
    | pending hgmail hrow hall =>
      refine .pending hgmail hrow ?_
      intro r'
      by_cases hr' : r' = r
      · rw [hr',System.setPhase_self]
        exact hquiet hrow
      · rw [System.setPhase_other s p hr']
        exact hall r'
    | accepted mail hgmail hrow hall hown =>
      have hother : mail.request ≠ r := by
        rintro rfl
        obtain hown | ⟨sentAt,hown⟩ := hown
        · rw [hown] at hfrom; cases hfrom
        · rw [hown] at hfrom; cases hfrom
      refine .accepted mail hgmail hrow ?_ ?_
      · intro r' hne
        by_cases hr' : r' = r
        · rw [hr',System.setPhase_self]
          exact hquiet hrow
        · rw [System.setPhase_other s p hr']
          exact hall r' hne
      · rw [System.setPhase_other s p hother]
        exact hown
    | recorded mail sentAt hgmail hrow hall hanswers =>
      refine .recorded mail sentAt hgmail hrow ?_ ?_
      · intro r'
        by_cases hr' : r' = r
        · rw [hr',System.setPhase_self]
          exact hto
        · rw [System.setPhase_other s p hr']
          exact hall r'
      · intro r' id hr
        by_cases hr' : r' = r
        · rw [hr',System.setPhase_self] at hr
          exact absurd hr (hanswer id)
        · rw [System.setPhase_other s p hr'] at hr
          exact hanswers r' id hr

theorem SendInvariant.read (h : SendInvariant initial s) (hpending : initial.metadata.status ≠ some (text "sent"))
    {r : Nat} (hr : s.phase r = .idle) :
    SendInvariant initial (s.setPhase r (readPhase authority s.evidence s.row)) := by
  apply h.moved
  · rw [hr]
    rfl
  · intro hrow
    apply readPhase_quiet
    rw [hrow]
    exact hpending
  · exact readPhase_unrecorded s.evidence s.row
  · intro id hp
    cases (readPhase_answered hp).1
  · intro snapshot draft hp
    obtain ⟨hsnapshot,hstatus⟩ := readPhase_reading hp
    cases h.progress with
    | pending _ hrow _ => exact hsnapshot.trans hrow
    | accepted _ _ hrow _ _ => exact hsnapshot.trans hrow
    | recorded mail sentAt _ hrow _ _ =>
      rw [hrow] at hstatus
      have hne : some (text "sent") ≠ some (text "pending_approval") := by decide
      exact absurd hstatus hne

/-- Gmail accepts the one message. -/
theorem SendInvariant.accept (h : SendInvariant initial s) {r : Nat} {snapshot : AssistantMessage} {draft : EmailDraft}
    (hr : s.phase r = .reading snapshot draft) (hrow : snapshot = s.row)
    (hexclusive : ∀ r', (s.phase r').unrecorded = false) (hpending : initial.metadata.status ≠ some (text "sent"))
    (id : MailId) :
    SendInvariant initial { s.setPhase r (.accepted snapshot id) with gmail := ⟨r,id,draft⟩::s.gmail } := by
  have hsnapshot := h.snapshots r snapshot draft hr
  constructor
  · intro r' snapshot' draft' hr'
    by_cases hne : r' = r
    · rw [hne] at hr'
      change (s.setPhase r _).phase r = _ at hr'
      rw [System.setPhase_self] at hr'
      cases hr'
    · change (s.setPhase r _).phase r' = _ at hr'
      rw [System.setPhase_other s _ hne] at hr'
      exact h.snapshots r' snapshot' draft' hr'
  · cases h.progress with
    | pending hgmail hrow' hall =>
      refine .accepted ⟨r,id,draft⟩ (by rw [hgmail]) hrow' ?_ ?_
      · intro r' hne
        change ((s.setPhase r _).phase r').quiet = true
        rw [System.setPhase_other s _ hne]
        exact hall r'
      · left
        change (s.setPhase r _).phase r = _
        rw [System.setPhase_self,hsnapshot]
    | accepted mail _ _ _ hown =>
      obtain hown | ⟨sentAt,hown⟩ := hown
      · have hfree := hexclusive mail.request
        rw [hown] at hfree
        cases hfree
      · have hfree := hexclusive mail.request
        rw [hown] at hfree
        cases hfree
    | recorded mail sentAt _ hrecorded _ _ =>
      apply absurd _ hpending
      rw [← hsnapshot,hrow,hrecorded]
      rfl

theorem SendInvariant.write (h : SendInvariant initial s) {r : Nat} {snapshot : AssistantMessage} {id : MailId}
    (hr : s.phase r = .accepted snapshot id) (sentAt : Text) :
    SendInvariant initial (s.setPhase r (.written (snapshot.sent sentAt id) id)) := by
  constructor
  · intro r' snapshot' draft' hr'
    by_cases hne : r' = r
    · rw [hne,System.setPhase_self] at hr'
      cases hr'
    · rw [System.setPhase_other s _ hne] at hr'
      exact h.snapshots r' snapshot' draft' hr'
  · cases h.progress with
    | pending _ _ hall =>
      have hquiet := hall r
      rw [hr] at hquiet
      cases hquiet
    | accepted mail hgmail hrow hall hown =>
      have hmail : r = mail.request := by
        by_contra hne
        have hquiet := hall r hne
        rw [hr] at hquiet
        cases hquiet
      subst hmail
      obtain hown | ⟨sentAt',hown⟩ := hown
      · rw [hr] at hown
        cases hown
        refine .accepted mail hgmail hrow ?_ (Or.inr ⟨sentAt,System.setPhase_self s _ _⟩)
        intro r' hne
        rw [System.setPhase_other s _ hne]
        exact hall r' hne
      · rw [hr] at hown
        cases hown
    | recorded mail sentAt' _ _ hall _ =>
      have hfree := hall r
      rw [hr] at hfree
      cases hfree

theorem SendInvariant.commit (h : SendInvariant initial s) {r : Nat} {next : AssistantMessage} {id : MailId}
    (hr : s.phase r = .written next id) :
    SendInvariant initial { s.setPhase r (.answered (some id)) with row := next } := by
  constructor
  · intro r' snapshot' draft' hr'
    change (s.setPhase r _).phase r' = _ at hr'
    by_cases hne : r' = r
    · rw [hne,System.setPhase_self] at hr'
      cases hr'
    · rw [System.setPhase_other s _ hne] at hr'
      exact h.snapshots r' snapshot' draft' hr'
  · cases h.progress with
    | pending _ _ hall =>
      have hquiet := hall r
      rw [hr] at hquiet
      cases hquiet
    | accepted mail hgmail _ hall hown =>
      have hmail : r = mail.request := by
        by_contra hne
        have hquiet := hall r hne
        rw [hr] at hquiet
        cases hquiet
      subst hmail
      obtain hown | ⟨sentAt,hown⟩ := hown
      · rw [hr] at hown
        cases hown
      · rw [hr] at hown
        cases hown
        refine .recorded mail sentAt hgmail rfl ?_ ?_
        · intro r'
          change ((s.setPhase _ _).phase r').unrecorded = false
          by_cases hne : r' = mail.request
          · rw [hne,System.setPhase_self]
            rfl
          · rw [System.setPhase_other s _ hne]
            exact Phase.unrecorded_of_quiet (hall r' hne)
        · intro r' id' hr'
          change (s.setPhase _ _).phase r' = _ at hr'
          by_cases hne : r' = mail.request
          · rw [hne,System.setPhase_self] at hr'
            cases hr'
            rfl
          · rw [System.setPhase_other s _ hne] at hr'
            have hquiet := hall r' hne
            rw [hr'] at hquiet
            cases hquiet
    | recorded mail sentAt _ _ hall _ =>
      have hfree := hall r
      rw [hr] at hfree
      cases hfree

theorem sendInvariant_initial (initial : AssistantMessage) (e : Evidence) :
    SendInvariant initial (System.initial initial e) := by
  constructor
  · intro r snapshot draft hr
    cases hr
  · exact .pending rfl rfl fun _ => rfl

/-- Every exclusive step keeps the invariant. -/
theorem sendStep_invariant (hpending : initial.metadata.status ≠ some (text "sent")) (event : Event Evidence)
    (hok : Exclusive s event) (h : SendInvariant initial s) : SendInvariant initial (sendStep authority s event) := by
  cases event with
  | read r =>
    dsimp only [sendStep]
    split
    · next hr => exact h.read hpending hr
    · exact h
  | callGmail r outcome =>
    dsimp only [sendStep]
    split
    · next snapshot draft hr =>
      cases outcome with
      | refused error =>
        apply h.moved
        · rw [hr]
          rfl
        · intro _
          rfl
        · rfl
        · intro id hp
          cases hp
        · intro snapshot draft hp
          cases hp
      | accepted id =>
        obtain ⟨hrow,hfree⟩ := hok snapshot draft hr
        exact h.accept hr hrow hfree hpending id
      | lost id => exact absurd hr (hok snapshot draft)
    · exact h
  | write r sentAt =>
    dsimp only [sendStep]
    split
    · next snapshot id hr => exact h.write hr sentAt
    · exact h
  | commit r =>
    dsimp only [sendStep]
    split
    · next next id hr => exact h.commit hr
    · exact h
  | crash r =>
    apply h.moved hok
    · intro _
      rfl
    · rfl
    · intro id hp
      cases hp
    · intro snapshot draft hp
      cases hp
  | change e =>
    refine ⟨h.snapshots,?_⟩
    cases h.progress with
    | pending hgmail hrow hall => exact .pending hgmail hrow hall
    | accepted mail hgmail hrow hall hown => exact .accepted mail hgmail hrow hall hown
    | recorded mail sentAt hgmail hrow hall hanswers => exact .recorded mail sentAt hgmail hrow hall hanswers

/-- A row changes by a commit alone. -/
theorem sendStep_row (event : Event Evidence) (h : ∀ r, event ≠ .commit r) : (sendStep authority s event).row = s.row := by
  cases event with
  | commit r => exact absurd rfl (h r)
  | read r => dsimp only [sendStep]; split <;> rfl
  | callGmail r outcome => dsimp only [sendStep]; split <;> rfl
  | write r sentAt => dsimp only [sendStep]; split <;> rfl
  | crash r => rfl
  | change e => rfl

variable (authority)

/-- In a run of exclusive steps the draft goes out at most once and is recorded truthfully, and a refused call leaves the
row as it was. -/
theorem draft_sent_once (initial : AssistantMessage) (e : Evidence) (events : List (Event Evidence))
    (hpending : initial.metadata.status ≠ some (text "sent"))
    (hok : RunMeets (sendStep authority) Exclusive (System.initial initial e) events) :
    SentOnce authority initial (run (sendStep authority) (System.initial initial e) events) ∧
      ∀ r error, (sendStep authority (run (sendStep authority) (System.initial initial e) events)
        (.callGmail r (.refused error))).row = (run (sendStep authority) (System.initial initial e) events).row := by
  constructor
  · apply SentOnce.of_invariant hpending
    exact run_invariant_of (fun _ event hstep => sendStep_invariant hpending event hstep) hok
      (sendInvariant_initial initial e)
  · intro r error
    apply sendStep_row
    intro r' hr
    cases hr

end sending

/-! ## Two requests for one draft -/

def openEvidence : EvidenceAuthority Unit := ⟨fun _ _ => true,fun _ _ _ => true⟩

def approvedDraft : EmailDraft := ⟨[text "kim@example.com"],text "subject",text "body"⟩

def approvedMessage : AssistantMessage where
  columns := ⟨1,.assistant,assistantEmailDraftContent approvedDraft,[],[],[],[],none,some (text "none-v1"),0,[]⟩
  metadata := emailDraftMetadata approvedDraft

def firstMail : MailId := ⟨text "m1",by decide⟩

def secondMail : MailId := ⟨text "m2",by decide⟩

theorem draft_sent_once_single : SentOnce openEvidence approvedMessage
    (run (sendStep openEvidence) (System.initial approvedMessage ())
      [.read 0,.callGmail 0 (.accepted firstMail),.write 0 (text "now"),.commit 0,.read 1]) :=
  (draft_sent_once openEvidence approvedMessage ()
    [.read 0,.callGmail 0 (.accepted firstMail),.write 0 (text "now"),.commit 0,.read 1] (by decide) (by
      refine ⟨trivial,?_,trivial,trivial,trivial,trivial⟩
      intro snapshot draft hr
      have hfirst : (sendStep openEvidence (System.initial approvedMessage ()) (.read 0)).phase =
          Function.update (fun _ => Phase.idle) 0 (.reading approvedMessage approvedDraft) := by
        have hphase : readPhase openEvidence () approvedMessage = .reading approvedMessage approvedDraft := by
          decide +kernel
        change Function.update (fun _ => Phase.idle) 0 (readPhase openEvidence () approvedMessage) = _
        rw [hphase]
      rw [hfirst] at hr ⊢
      constructor
      · simp at hr
        exact hr.1.symm
      · intro r'
        by_cases hr' : r' = 0
        · simp [hr',Phase.unrecorded]
        · simp [hr',Phase.unrecorded])).1

/-- Two requests read the pending draft before either has recorded its message: both messages are accepted. -/
theorem draft_sent_twice : ¬∀ events : List (Event Unit), SentOnce openEvidence approvedMessage
    (run (sendStep openEvidence) (System.initial approvedMessage ()) events) := by
  intro h
  have honce := (h [.read 0,.read 1,.callGmail 0 (.accepted firstMail),.callGmail 1 (.accepted secondMail)]).once
  have htwice : (run (sendStep openEvidence) (System.initial approvedMessage ())
      [.read 0,.read 1,.callGmail 0 (.accepted firstMail),.callGmail 1 (.accepted secondMail)]).gmail.length = 2 := by
    decide +kernel
  rw [htwice] at honce
  omega

end ParaWorks.Email
