import ParaWorks.Lib.Json
import ParaWorks.Lib.Partial
import ParaWorks.Lib.Tables

/-!
# Live reconciliation

The review counts of a V2.1 checkpoint against those of the thread's rows. The transitions that a review item can take
after the checkpoint, and the check of the service that wants to recover them from the two counts.
-/

namespace ParaWorks.ReviewV21

open Lib

/-! ## Rows -/

inductive ReviewStatus where
  | pendingReview
  | approved
  | rejected
  | needsMoreEvidence
  | revoked
  deriving DecidableEq

inductive ResolutionSource where
  | human
  | autoPolicy
  deriving DecidableEq

/-- A `ReviewItem` of the thread. -/
structure ReviewItem where
  id : Nat
  status : ReviewStatus
  resolutionSource : Option ResolutionSource
  autoValidationId : Option Nat
  reviewerId : Option Text
  reviewedAt : Option Nat
  revokedAt : Option Nat

structure AuditLog where
  actorId : Text
  action : Text
  targetType : Text
  targetId : Text
  status : Text

structure Rows where
  items : List ReviewItem
  audits : List AuditLog

/-- `review_status_counts` -/
structure Counts where
  pendingReview : Nat
  approved : Nat
  rejected : Nat
  needsMoreEvidence : Nat
  revoked : Nat
  deriving DecidableEq

def Counts.total (c : Counts) : Nat := c.pendingReview+c.approved+c.rejected+c.needsMoreEvidence+c.revoked

def Counts.get (c : Counts) : ReviewStatus → Nat
  | .pendingReview => c.pendingReview
  | .approved => c.approved
  | .rejected => c.rejected
  | .needsMoreEvidence => c.needsMoreEvidence
  | .revoked => c.revoked

def Rows.count (rows : Rows) (status : ReviewStatus) : Nat := rows.items.countP fun row => row.status = status

/-- The counts of `_projection`. -/
def Rows.counts (rows : Rows) : Counts :=
  ⟨rows.count .pendingReview,rows.count .approved,rows.count .rejected,rows.count .needsMoreEvidence,rows.count .revoked⟩

/-! ## Transitions -/

inductive ReviewAction where
  | approve
  | reject
  | needsMoreEvidence
  deriving DecidableEq

def ReviewAction.status : ReviewAction → ReviewStatus
  | approve => .approved
  | reject => .rejected
  | needsMoreEvidence => .needsMoreEvidence

def ReviewAction.audit : ReviewAction → Text
  | approve => text "review.approve"
  | reject => text "review.reject"
  | needsMoreEvidence => text "review.request_more_evidence"

def systemAutoReviewActorId : Text := text "system:auto-review"

/-- A transition of one item: by a human, by `mark_evidence_stale`, or by a revocation. -/
inductive Transition where
  | human (action : ReviewAction) (id : Nat) (reviewer : Text) (now : Nat)
  | evidenceStale (id : Nat) (now : Nat)
  | revoke (id : Nat) (now : Nat)

def Transition.isRevocation : Transition → Bool
  | revoke _ _ => true
  | _ => false

/-- The rows after a change of one item, where it may take it. -/
def changeItem (id : Nat) (allowed : ReviewItem → Bool) (change : ReviewItem → ReviewItem) (items : List ReviewItem) :
    Option (List ReviewItem) :=
  if items.any fun row => row.id = id ∧ allowed row = true then
    some (items.map fun row => if row.id = id then change row else row)
  else none

/-- What `_transition_item` writes for a human. -/
def resolved (action : ReviewAction) (reviewer : Text) (now : Nat) (row : ReviewItem) : ReviewItem :=
  { row with
    status := action.status
    reviewerId := some reviewer
    reviewedAt := some now
    resolutionSource := some .human
    autoValidationId := none }

/-- The row of `_record_transition_audit`, whose target is the item's thread. -/
def transitionAudit (threadId : Text) (action : ReviewAction) (reviewer : Text) : AuditLog :=
  ⟨reviewer,action.audit,text "review_workflow",threadId,text "success"⟩

def markedStale (now : Nat) (row : ReviewItem) : ReviewItem :=
  { row with
    status := .needsMoreEvidence
    reviewerId := some systemAutoReviewActorId
    reviewedAt := some now
    resolutionSource := some .autoPolicy
    autoValidationId := none }

def revokedRow (now : Nat) (row : ReviewItem) : ReviewItem := { row with status := .revoked, revokedAt := some now }

def isPending (row : ReviewItem) : Bool := row.status = .pendingReview

/-- What `_validate_complete_auto_item` needs of the item. -/
def isCompleteAuto (row : ReviewItem) : Bool :=
  row.status = .approved ∧ row.resolutionSource = some .autoPolicy ∧ row.autoValidationId.isSome = true

/-- One transition of a thread's item, none where it is refused. -/
def applyTransition (threadId : Text) (rows : Rows) : Transition → Option Rows
  | .human action id reviewer now =>
    (changeItem id isPending (resolved action reviewer now) rows.items).map
      (⟨·,rows.audits++[transitionAudit threadId action reviewer]⟩)
  | .evidenceStale id now => (changeItem id isPending (markedStale now) rows.items).map (⟨·,rows.audits⟩)
  | .revoke id now => (changeItem id isCompleteAuto (revokedRow now) rows.items).map (⟨·,rows.audits⟩)

/-! ## The check -/

/-- `_verify_revoked_rows` -/
def verifyRevokedRows (rows : Rows) : Bool :=
  let revoked := rows.items.filter fun row => row.status = .revoked
  !revoked.isEmpty && revoked.all fun row =>
    row.resolutionSource = some .autoPolicy ∧ row.autoValidationId.isSome = true ∧ row.revokedAt.isSome = true

/-- The action that `_verify_human_resolution_rows` expects of a row with this status. -/
def expectedAudit : ReviewStatus → Option Text
  | .approved => some (text "review.approve")
  | .rejected => some (text "review.reject")
  | .needsMoreEvidence => some (text "review.request_more_evidence")
  | _ => none

/-- `str` of an identity -/
def idText (id : Nat) : Text := Json.digits id

def audited (rows : Rows) (row : ReviewItem) : Bool :=
  rows.audits.any fun audit =>
    audit.targetType = text "review_item" ∧ audit.targetId = idText row.id ∧ some audit.action = expectedAudit row.status ∧
      audit.status = text "success" ∧ some audit.actorId = row.reviewerId

/-- `_verify_human_resolution_rows` -/
def verifyHumanResolutionRows (rows : Rows) : Bool :=
  let human := rows.items.filter fun row =>
    row.resolutionSource = some .human ∧ (expectedAudit row.status).isSome = true
  human.all (fun row => row.reviewedAt.isSome && audited rows row) && !human.isEmpty

/-- `_validate_live_reconciliation`: whether it returns. -/
def validateLiveReconciliation (rows : Rows) (checkpoint live : Counts) (interrupted : Bool) : Bool :=
  if checkpoint = live then true
  else if checkpoint.total ≠ live.total then false
  else
    let approvedToRevoked : Int := live.revoked-checkpoint.revoked
    if approvedToRevoked < 0 ∨ (checkpoint.approved : Int)-live.approved < approvedToRevoked then false
    else
      let adjustedApproved : Int := checkpoint.approved-approvedToRevoked
      let adjustedRevoked : Int := checkpoint.revoked+approvedToRevoked
      if approvedToRevoked ≠ 0 ∧ verifyRevokedRows rows = false then false
      else if interrupted = false then
        checkpoint.pendingReview = live.pendingReview ∧ adjustedApproved = live.approved ∧
          checkpoint.rejected = live.rejected ∧ checkpoint.needsMoreEvidence = live.needsMoreEvidence ∧
          adjustedRevoked = live.revoked
      else
        let pendingDelta : Int := checkpoint.pendingReview-live.pendingReview
        if pendingDelta < 0 then false
        else
          let deltas : List Int := [live.approved-adjustedApproved,live.rejected-checkpoint.rejected,
            live.needsMoreEvidence-checkpoint.needsMoreEvidence]
          if deltas.any (· < 0) ∨ deltas.sum ≠ pendingDelta then false
          else if pendingDelta ≠ 0 then verifyHumanResolutionRows rows
          else true

/-! ## Legitimate histories -/

/-- Rows of a thread as the service writes them. The audit of a resolution has the thread for its target, never the item;
a revoked item was approved by the policy. -/
structure Legitimate (rows : Rows) : Prop where
  ids : (rows.items.map fun row => row.id).Nodup
  revoked : ∀ row ∈ rows.items, row.status = .revoked →
    row.resolutionSource = some .autoPolicy ∧ row.autoValidationId.isSome = true ∧ row.revokedAt.isSome = true
  unaudited : ∀ audit ∈ rows.audits, audit.targetType = text "review_item" → ∀ action : ReviewAction,
    audit.action ≠ action.audit

/-- The status that a transition takes an item from, and the one that it takes it to. -/
def Transition.move : Transition → ReviewStatus × ReviewStatus
  | human action _ _ _ => (.pendingReview,action.status)
  | evidenceStale _ _ => (.pendingReview,.needsMoreEvidence)
  | revoke _ _ => (.approved,.revoked)

/-- Counts that transitions of a thread can lead to; where the checkpoint is not interrupted, revocations only. -/
def Reachable (interrupted : Bool) (checkpoint live : Counts) : Prop :=
  ∃ (threadId : Text) (rows rows' : Rows) (transitions : List Transition), Legitimate rows ∧
    transitions.foldlM (applyTransition threadId) rows = some rows' ∧
    (interrupted = false → ∀ t ∈ transitions, t.isRevocation = true) ∧ rows.counts = checkpoint ∧ rows'.counts = live

section steps

variable {threadId : Text} {rows rows' live : Rows} {items items' : List ReviewItem} {transitions : List Transition}
  {id : Nat} {allowed : ReviewItem → Bool} {change : ReviewItem → ReviewItem}

theorem changeItem_eq_some (h : changeItem id allowed change items = some items') :
    ∃ row ∈ items, row.id = id ∧ allowed row = true ∧
      items' = items.map fun other => if other.id = row.id then change other else other := by
  unfold changeItem at h
  split_ifs at h with hany
  obtain ⟨row,hrow,hcond⟩ := List.any_eq_true.mp hany
  obtain ⟨rfl,hallowed⟩ := of_decide_eq_true hcond
  exact ⟨row,hrow,rfl,hallowed,(Option.some.inj h).symm⟩

theorem exists_changeItem (change : ReviewItem → ReviewItem) {row : ReviewItem} (hrow : row ∈ items) (hallowed : allowed row = true) :
    ∃ items', changeItem row.id allowed change items = some items' :=
  ⟨_,if_pos (List.any_eq_true.mpr ⟨row,hrow,decide_eq_true ⟨rfl,hallowed⟩⟩)⟩

/-- What a transition does: one item leaves the status before it for the status after it, and an audit of it has the thread
for its target. -/
theorem applyTransition_eq_some {t : Transition} (h : applyTransition threadId rows t = some rows') :
    ∃ (row : ReviewItem) (change : ReviewItem → ReviewItem), row ∈ rows.items ∧ row.status = t.move.1 ∧
      (∀ other, (change other).id = other.id ∧ (change other).status = t.move.2) ∧
      (t.isRevocation = true → row.resolutionSource = some .autoPolicy ∧ row.autoValidationId.isSome = true ∧
        (change row).resolutionSource = row.resolutionSource ∧ (change row).autoValidationId = row.autoValidationId ∧
        (change row).revokedAt.isSome = true) ∧
      rows'.items = (rows.items.map fun other => if other.id = row.id then change other else other) ∧
      ∀ audit ∈ rows'.audits, audit ∈ rows.audits ∨ audit.targetType = text "review_workflow" := by
  cases t with
  | human action id reviewer now =>
    obtain ⟨items',hitems,rfl⟩ := Option.map_eq_some_iff.mp h
    obtain ⟨row,hrow,-,hpending,rfl⟩ := changeItem_eq_some hitems
    refine ⟨row,resolved action reviewer now,hrow,of_decide_eq_true hpending,fun _ => ⟨rfl,rfl⟩,(fun hr => by cases hr),rfl,?_⟩
    intro audit haudit
    obtain hold | hnew := List.mem_append.mp haudit
    · exact .inl hold
    · rw [List.mem_singleton.mp hnew]
      exact .inr rfl
  | evidenceStale id now =>
    obtain ⟨items',hitems,rfl⟩ := Option.map_eq_some_iff.mp h
    obtain ⟨row,hrow,-,hpending,rfl⟩ := changeItem_eq_some hitems
    exact ⟨row,markedStale now,hrow,of_decide_eq_true hpending,fun _ => ⟨rfl,rfl⟩,(fun hr => by cases hr),rfl,
      fun _ haudit => .inl haudit⟩
  | revoke id now =>
    obtain ⟨items',hitems,rfl⟩ := Option.map_eq_some_iff.mp h
    obtain ⟨row,hrow,-,hauto,rfl⟩ := changeItem_eq_some hitems
    obtain ⟨happroved,hsource,hvalidation⟩ := of_decide_eq_true hauto
    exact ⟨row,revokedRow now,hrow,happroved,fun _ => ⟨rfl,rfl⟩,fun _ => ⟨hsource,hvalidation,rfl,rfl,rfl⟩,rfl,
      fun _ haudit => .inl haudit⟩

theorem move_revoked {t : Transition} (h : t.move.2 = .revoked) : t.isRevocation = true := by
  cases t with
  | human action id reviewer now => cases action <;> cases h
  | evidenceStale id now => cases h
  | revoke id now => rfl

theorem Legitimate.step {t : Transition} (hrows : Legitimate rows) (h : applyTransition threadId rows t = some rows') :
    Legitimate rows' := by
  obtain ⟨row,change,hrow,-,hchange,hauto,hitems,haudits⟩ := applyTransition_eq_some h
  refine ⟨?_,?_,?_⟩
  · rw [hitems,map_map_update fun other => (hchange other).1]
    exact hrows.ids
  · intro other hother hstatus
    rw [hitems,mem_map_update] at hother
    obtain ⟨old,hold,hid,rfl⟩ | ⟨hother,-⟩ := hother
    · have hsame : old = row := List.inj_on_of_nodup_map hrows.ids hold hrow hid
      subst hsame
      have hrevocation := move_revoked ((hchange old).2.symm.trans hstatus)
      obtain ⟨hsource,hvalidation,hsource',hvalidation',hrevoked⟩ := hauto hrevocation
      exact ⟨hsource'.trans hsource,hvalidation' ▸ hvalidation,hrevoked⟩
    · exact hrows.revoked other hother hstatus
  · intro audit haudit htarget
    obtain hold | hnew := haudits audit haudit
    · exact hrows.unaudited audit hold htarget
    · exact absurd (htarget.symm.trans hnew) (by decide)

theorem count_step {t : Transition} (hrows : Legitimate rows) (h : applyTransition threadId rows t = some rows')
    (status : ReviewStatus) : rows'.count status+(if t.move.1 = status then 1 else 0) =
      rows.count status+if t.move.2 = status then 1 else 0 := by
  obtain ⟨row,change,hrow,hbefore,hchange,-,hitems,-⟩ := applyTransition_eq_some h
  have hcount := countP_update hrows.ids hrow change fun other => decide (other.status = status)
  unfold Rows.count
  rw [hitems,← hbefore,← (hchange row).2]
  simpa using hcount

/-- What a run of transitions keeps, and what it does to the counts. -/
theorem transitions_spec (hrows : Legitimate rows) (h : transitions.foldlM (applyTransition threadId) rows = some live) :
    Legitimate live ∧ ∀ status, live.count status+transitions.countP (fun t => t.move.1 = status) =
      rows.count status+transitions.countP fun t => t.move.2 = status := by
  induction transitions generalizing rows with
  | nil =>
    obtain rfl := Option.some.inj h
    exact ⟨hrows,fun _ => rfl⟩
  | cons t transitions ih =>
    rw [foldlM_cons_option] at h
    obtain ⟨next,hnext,h⟩ := Option.bind_eq_some_iff.mp h
    obtain ⟨hlive,hcounts⟩ := ih (hrows.step hnext) h
    refine ⟨hlive,fun status => ?_⟩
    have hstep := count_step hrows hnext status
    have hrest := hcounts status
    rw [List.countP_cons,List.countP_cons]
    simp only [decide_eq_true_eq]
    omega

theorem verifyRevokedRows_legitimate (hrows : Legitimate rows) (h : 0 < rows.count .revoked) :
    verifyRevokedRows rows = true := by
  obtain ⟨row,hrow,hstatus⟩ := List.countP_pos_iff.mp h
  unfold verifyRevokedRows
  rw [Bool.and_eq_true,List.all_eq_true]
  constructor
  · have hmem : row ∈ rows.items.filter fun row => row.status = .revoked := List.mem_filter.mpr ⟨hrow,hstatus⟩
    simpa using List.ne_nil_of_mem hmem
  · intro other hother
    obtain ⟨hother,hstatus⟩ := List.mem_filter.mp hother
    exact decide_eq_true (hrows.revoked other hother (of_decide_eq_true hstatus))

theorem expectedAudit_eq_some {status : ReviewStatus} {action : Text} (h : some action = expectedAudit status) :
    ∃ a : ReviewAction, action = a.audit := by
  cases status with
  | approved => exact ⟨.approve,Option.some.inj h⟩
  | rejected => exact ⟨.reject,Option.some.inj h⟩
  | needsMoreEvidence => exact ⟨.needsMoreEvidence,Option.some.inj h⟩
  | pendingReview => cases h
  | revoked => cases h

/-- No row of a thread has the audit that the check looks for. -/
theorem verifyHumanResolutionRows_legitimate (hrows : Legitimate rows) : verifyHumanResolutionRows rows = false := by
  have hnone : ∀ row, audited rows row = false := by
    intro row
    unfold audited
    rw [List.any_eq_false]
    intro audit haudit hcond
    obtain ⟨htarget,-,haction,-⟩ := of_decide_eq_true hcond
    obtain ⟨a,ha⟩ := expectedAudit_eq_some haction
    exact hrows.unaudited audit haudit htarget a ha
  unfold verifyHumanResolutionRows
  cases rows.items.filter fun row => decide (row.resolutionSource = some .human ∧ (expectedAudit row.status).isSome = true) with
  | nil => rfl
  | cons row rest => simp [hnone]

/-- The check accepts no history in which a pending item was resolved. -/
theorem validateLiveReconciliation_pending {checkpoint counts : Counts} (hhuman : verifyHumanResolutionRows rows = false)
    (h : validateLiveReconciliation rows checkpoint counts true = true) :
    checkpoint.pendingReview = counts.pendingReview := by
  unfold validateLiveReconciliation at h
  dsimp only at h
  split_ifs at h with hsame _ _ _ hfalse _ _ hdelta
  · rw [hsame]
  · cases hfalse
  · exact absurd h (by rw [hhuman]; decide)
  · have hzero := not_ne_iff.mp hdelta
    omega

theorem countP_pending_eq_zero : transitions.countP (fun t => t.move.1 = .pendingReview) = 0 ↔
    ∀ t ∈ transitions, t.isRevocation = true := by
  rw [List.countP_eq_zero]
  refine forall₂_congr fun t _ => ?_
  cases t <;> simp [Transition.move,Transition.isRevocation]

/-- After revocations the check finds what it looks for. -/
theorem validateLiveReconciliation_revocations {checkpoint counts : Counts} {interrupted : Bool} {n : Nat}
    (hrevoked : 0 < n → verifyRevokedRows rows = true) (hpending : counts.pendingReview = checkpoint.pendingReview)
    (happroved : counts.approved+n = checkpoint.approved) (hrejected : counts.rejected = checkpoint.rejected)
    (hmore : counts.needsMoreEvidence = checkpoint.needsMoreEvidence)
    (hcount : counts.revoked = checkpoint.revoked+n) :
    validateLiveReconciliation rows checkpoint counts interrupted = true := by
  have htotal : checkpoint.total = counts.total := by
    unfold Counts.total
    omega
  have hfound : ¬((counts.revoked : Int)-checkpoint.revoked ≠ 0 ∧ verifyRevokedRows rows = false) := by
    rintro ⟨hne,hfalse⟩
    rw [hrevoked (by omega)] at hfalse
    cases hfalse
  unfold validateLiveReconciliation
  by_cases hsame : checkpoint = counts
  · rw [if_pos hsame]
  · rw [if_neg hsame,if_neg (not_ne_iff.mpr htotal)]
    dsimp only
    rw [if_neg (by omega),if_neg hfound]
    split_ifs with hinterrupted hdelta hdeltas hzero
    · exact decide_eq_true (by omega)
    · omega
    · simp only [List.any_cons,List.any_nil,List.sum_cons,List.sum_nil,Bool.or_eq_true,decide_eq_true_eq,
        Bool.false_eq_true,or_false,ne_eq] at hdeltas
      omega
    · omega
    · rfl

theorem countP_revocations (hall : ∀ t ∈ transitions, t.isRevocation = true) (p : ReviewStatus × ReviewStatus → Bool) :
    transitions.countP (fun t => p t.move) = if p (.approved,.revoked) = true then transitions.length else 0 := by
  have hmove : ∀ t ∈ transitions, t.move = (.approved,.revoked) := by
    intro t ht
    cases t with
    | revoke id now => rfl
    | human action id reviewer now => cases hall _ ht
    | evidenceStale id now => cases hall _ ht
  split_ifs with hp
  · rw [List.countP_eq_length]
    intro t ht
    rw [hmove t ht]
    exact hp
  · rw [List.countP_eq_zero]
    intro t ht
    rw [hmove t ht]
    exact hp

/-- The check returns after a legitimate history exactly where it is not interrupted, or nothing was resolved. -/
theorem validateLiveReconciliation_legitimate {interrupted : Bool} (hrows : Legitimate rows)
    (h : transitions.foldlM (applyTransition threadId) rows = some live)
    (hfinal : interrupted = false → ∀ t ∈ transitions, t.isRevocation = true) :
    validateLiveReconciliation live rows.counts live.counts interrupted = true ↔
      ∀ t ∈ transitions, t.isRevocation = true := by
  obtain ⟨hlive,hcounts⟩ := transitions_spec hrows h
  constructor
  · intro hvalid
    cases interrupted with
    | false => exact hfinal rfl
    | true =>
      have hpending := validateLiveReconciliation_pending (verifyHumanResolutionRows_legitimate hlive) hvalid
      have hcount := hcounts .pendingReview
      rw [← countP_pending_eq_zero]
      have hafter : transitions.countP (fun t => t.move.2 = .pendingReview) = 0 := by
        rw [List.countP_eq_zero]
        intro t _
        cases t with
        | human action id reviewer now => cases action <;> simp [Transition.move,ReviewAction.status]
        | _ => simp [Transition.move]
      change rows.count .pendingReview = live.count .pendingReview at hpending
      omega
  · intro hall
    have hmoved : ∀ status, live.count status+(if .approved = status then transitions.length else 0) =
        rows.count status+if .revoked = status then transitions.length else 0 := by
      intro status
      have hcount := hcounts status
      rw [countP_revocations hall fun move => move.1 = status,countP_revocations hall fun move => move.2 = status] at hcount
      simpa using hcount
    have hrevoked : live.count .revoked = rows.count .revoked+transitions.length := hmoved .revoked
    refine validateLiveReconciliation_revocations (n := transitions.length) ?_ ?_ ?_ ?_ ?_ ?_
    · intro hpos
      exact verifyRevokedRows_legitimate hlive (by omega)
    · exact hmoved .pendingReview
    · exact hmoved .approved
    · exact hmoved .rejected
    · exact hmoved .needsMoreEvidence
    · exact hrevoked

/-! ## Reachable counts -/

/-- The counts that the check accepts: so many revocations, rejections and requests for evidence. -/
theorem validateLiveReconciliation_moves {checkpoint counts : Counts} {interrupted : Bool}
    (h : validateLiveReconciliation rows checkpoint counts interrupted = true) :
    ∃ revocations rejections requests, counts.pendingReview+rejections+requests = checkpoint.pendingReview ∧
      counts.approved+revocations = checkpoint.approved ∧ counts.rejected = checkpoint.rejected+rejections ∧
      counts.needsMoreEvidence = checkpoint.needsMoreEvidence+requests ∧
      counts.revoked = checkpoint.revoked+revocations ∧ (interrupted = false → rejections = 0 ∧ requests = 0) := by
  refine ⟨counts.revoked-checkpoint.revoked,counts.rejected-checkpoint.rejected,
    counts.needsMoreEvidence-checkpoint.needsMoreEvidence,?_⟩
  unfold validateLiveReconciliation at h
  by_cases hsame : checkpoint = counts
  · subst hsame
    simp
  · rw [if_neg hsame] at h
    dsimp only at h
    split_ifs at h with htotal happroved hrows hinterrupted hdelta hdeltas hzero
    · have hfinal := of_decide_eq_true h
      exact ⟨by omega,by omega,by omega,by omega,by omega,fun _ => by omega⟩
    all_goals
      simp only [List.any_cons,List.any_nil,List.sum_cons,List.sum_nil,Bool.or_eq_true,decide_eq_true_eq,
        Bool.false_eq_true,or_false,ne_eq] at hdeltas
      exact ⟨by omega,by omega,by omega,by omega,by omega,fun hfalse => absurd hfalse hinterrupted⟩

/-- An item with a status, as the transitions leave it. -/
def sampleItem (status : ReviewStatus) (id : Nat) : ReviewItem :=
  match status with
  | .pendingReview => ⟨id,status,none,none,none,none,none⟩
  | .approved => ⟨id,status,some .autoPolicy,some id,some systemAutoReviewActorId,some 0,none⟩
  | .revoked => ⟨id,status,some .autoPolicy,some id,some systemAutoReviewActorId,some 0,some 0⟩
  | _ => ⟨id,status,some .human,none,some [],some 0,none⟩

theorem sampleItem_status (status : ReviewStatus) (id : Nat) : (sampleItem status id).status = status := by
  cases status <;> rfl

theorem sampleItem_id (status : ReviewStatus) (id : Nat) : (sampleItem status id).id = id := by
  cases status <;> rfl

def sampleRows (statuses : List ReviewStatus) : Rows :=
  ⟨statuses.zipIdx.map fun e => sampleItem e.1 e.2,[]⟩

theorem sampleRows_count (statuses : List ReviewStatus) (status : ReviewStatus) :
    (sampleRows statuses).count status = statuses.countP (· = status) := by
  unfold Rows.count sampleRows
  rw [List.countP_map]
  have hfirst : statuses.countP (· = status) = (statuses.zipIdx.map (·.1)).countP (· = status) := by
    rw [List.zipIdx_map_fst]
  rw [hfirst,List.countP_map]
  refine List.countP_congr fun e _ => ?_
  simp only [Function.comp,sampleItem_status]

theorem sampleRows_legitimate (statuses : List ReviewStatus) : Legitimate (sampleRows statuses) := by
  refine ⟨?_,?_,fun audit haudit => absurd haudit List.not_mem_nil⟩
  · have hids : (sampleRows statuses).items.map (fun row => row.id) = List.range' 0 statuses.length := by
      unfold sampleRows
      rw [List.map_map,← List.zipIdx_map_snd 0 statuses]
      exact List.map_congr_left fun e _ => sampleItem_id e.1 e.2
    rw [hids]
    exact List.nodup_range'
  · intro row hrow hstatus
    obtain ⟨e,-,rfl⟩ := List.mem_map.mp hrow
    rw [sampleItem_status] at hstatus
    rw [hstatus]
    exact ⟨rfl,rfl,rfl⟩

/-- Every approved item was approved by the policy. -/
def PolicyApproved (rows : Rows) : Prop := ∀ row ∈ rows.items, row.status = .approved → isCompleteAuto row = true

theorem sampleRows_policyApproved (statuses : List ReviewStatus) : PolicyApproved (sampleRows statuses) := by
  intro row hrow hstatus
  obtain ⟨e,-,rfl⟩ := List.mem_map.mp hrow
  rw [sampleItem_status] at hstatus
  rw [hstatus]
  rfl

theorem PolicyApproved.step {t : Transition} (hrows : PolicyApproved rows)
    (h : applyTransition threadId rows t = some rows') (ht : t.move.2 ≠ .approved) : PolicyApproved rows' := by
  obtain ⟨row,change,-,-,hchange,-,hitems,-⟩ := applyTransition_eq_some h
  intro other hother hstatus
  rw [hitems,mem_map_update] at hother
  obtain ⟨old,-,-,rfl⟩ | ⟨hother,-⟩ := hother
  · exact absurd ((hchange old).2.symm.trans hstatus) ht
  · exact hrows other hother hstatus

/-- The moves that the check can recover. -/
def recovered : List (ReviewStatus × ReviewStatus) :=
  [(.approved,.revoked),(.pendingReview,.rejected),(.pendingReview,.needsMoreEvidence)]

theorem exists_step (threadId : Text) (hrows : PolicyApproved rows) {move : ReviewStatus × ReviewStatus} (hmove : move ∈ recovered)
    (hcount : 0 < rows.count move.1) :
    ∃ t rows', t.move = move ∧ applyTransition threadId rows t = some rows' := by
  obtain ⟨row,hrow,hstatus⟩ := List.countP_pos_iff.mp hcount
  have hstatus := of_decide_eq_true hstatus
  simp only [recovered,List.mem_cons,List.not_mem_nil,or_false] at hmove
  obtain rfl | rfl | rfl := hmove
  · obtain ⟨items',hitems⟩ := exists_changeItem (revokedRow 0) hrow (hrows row hrow hstatus)
    exact ⟨.revoke row.id 0,⟨items',rows.audits⟩,rfl,by rw [applyTransition,hitems]; rfl⟩
  · obtain ⟨items',hitems⟩ := exists_changeItem (resolved .reject [] 0) hrow
      (show isPending row = true from decide_eq_true hstatus)
    exact ⟨.human .reject row.id [] 0,⟨items',_⟩,rfl,by rw [applyTransition,hitems]; rfl⟩
  · obtain ⟨items',hitems⟩ := exists_changeItem (resolved .needsMoreEvidence [] 0) hrow
      (show isPending row = true from decide_eq_true hstatus)
    exact ⟨.human .needsMoreEvidence row.id [] 0,⟨items',_⟩,rfl,by rw [applyTransition,hitems]; rfl⟩

theorem exists_transitions (threadId : Text) {moves : List (ReviewStatus × ReviewStatus)} (hlegitimate : Legitimate rows)
    (hrows : PolicyApproved rows) (hmoves : ∀ move ∈ moves, move ∈ recovered)
    (hcounts : ∀ status, moves.countP (·.1 = status) ≤ rows.count status) :
    ∃ (transitions : List Transition) (live : Rows), transitions.map Transition.move = moves ∧
      transitions.foldlM (applyTransition threadId) rows = some live := by
  induction moves generalizing rows with
  | nil => exact ⟨[],rows,rfl,rfl⟩
  | cons move moves ih =>
    obtain ⟨hmove,hrest⟩ := List.forall_mem_cons.mp hmoves
    have hpos : 0 < rows.count move.1 := by
      have hfirst := hcounts move.1
      rw [List.countP_cons,if_pos (by simp)] at hfirst
      omega
    obtain ⟨t,rows',rfl,happlied⟩ := exists_step threadId hrows hmove hpos
    have hnot : t.move.2 ≠ .approved := by
      simp only [recovered,List.mem_cons,List.not_mem_nil,or_false] at hmove
      obtain hmove | hmove | hmove := hmove <;> rw [hmove] <;> decide
    obtain ⟨transitions,live,hmap,hrun⟩ := ih (hlegitimate.step happlied) (hrows.step happlied hnot) hrest fun status => by
      have hstep := count_step hlegitimate happlied status
      have hall := hcounts status
      rw [List.countP_cons] at hall
      simp only [decide_eq_true_eq] at hall
      omega
    refine ⟨t::transitions,live,by rw [List.map_cons,hmap],?_⟩
    rw [foldlM_cons_option,happlied]
    exact hrun

def statusesOf (c : Counts) : List ReviewStatus :=
  List.replicate c.pendingReview .pendingReview++List.replicate c.approved .approved++
    List.replicate c.rejected .rejected++List.replicate c.needsMoreEvidence .needsMoreEvidence++
    List.replicate c.revoked .revoked

theorem counts_get (rows : Rows) (status : ReviewStatus) : rows.counts.get status = rows.count status := by
  cases status <;> rfl

theorem counts_eq_iff {c d : Counts} : c = d ↔ ∀ status, c.get status = d.get status := by
  constructor
  · rintro rfl status
    rfl
  · intro h
    obtain ⟨p,a,r,n,v⟩ := c
    have hpending := h .pendingReview
    have happroved := h .approved
    have hrejected := h .rejected
    have hmore := h .needsMoreEvidence
    have hrevoked := h .revoked
    cases d
    simp only [Counts.get] at *
    simp only [Counts.mk.injEq]
    exact ⟨hpending,happroved,hrejected,hmore,hrevoked⟩

theorem sampleRows_get (c : Counts) (status : ReviewStatus) :
    (sampleRows (statusesOf c)).count status = c.get status := by
  rw [sampleRows_count]
  simp only [statusesOf,List.countP_append,List.countP_replicate]
  cases status <;> simp [Counts.get]

theorem countP_map_move {p : ReviewStatus × ReviewStatus → Bool} :
    transitions.countP (fun t => p t.move) = (transitions.map Transition.move).countP p := by
  rw [List.countP_map]
  rfl

/-- What the check accepts can be reached. -/
theorem validateLiveReconciliation_reachable {checkpoint counts : Counts} {interrupted : Bool}
    (h : validateLiveReconciliation rows checkpoint counts interrupted = true) :
    Reachable interrupted checkpoint counts := by
  obtain ⟨revocations,rejections,requests,hpending,happroved,hrejected,hmore,hrevoked,hfinal⟩ :=
    validateLiveReconciliation_moves h
  have hmoves : ∀ move ∈ List.replicate revocations (ReviewStatus.approved,ReviewStatus.revoked)++
      List.replicate rejections (.pendingReview,.rejected)++
      List.replicate requests (.pendingReview,.needsMoreEvidence), move ∈ recovered := by
    intro move hmove
    simp only [List.mem_append,List.mem_replicate] at hmove
    obtain (⟨-,rfl⟩ | ⟨-,rfl⟩) | ⟨-,rfl⟩ := hmove <;> decide
  have hlegitimate := sampleRows_legitimate (statusesOf checkpoint)
  obtain ⟨transitions,live,hmap,hrun⟩ := exists_transitions [] hlegitimate
    (sampleRows_policyApproved (statusesOf checkpoint)) hmoves fun status => by
      rw [sampleRows_get]
      cases status <;> simp [List.countP_append,List.countP_replicate,Counts.get] <;> omega
  refine ⟨[],sampleRows (statusesOf checkpoint),live,transitions,hlegitimate,hrun,?_,?_,?_⟩
  · intro hinterrupted t ht
    obtain ⟨rfl,rfl⟩ := hfinal hinterrupted
    have hmove : t.move ∈ transitions.map Transition.move := List.mem_map_of_mem ht
    rw [hmap] at hmove
    simp only [List.replicate_zero,List.append_nil,List.mem_replicate] at hmove
    exact move_revoked (by rw [hmove.2])
  · rw [counts_eq_iff]
    intro status
    rw [counts_get,sampleRows_get]
  · rw [counts_eq_iff]
    intro status
    have hcount := (transitions_spec hlegitimate hrun).2 status
    rw [sampleRows_get,countP_map_move (p := fun move => move.1 = status),
      countP_map_move (p := fun move => move.2 = status),hmap] at hcount
    rw [counts_get]
    cases status <;> simp [List.countP_append,List.countP_replicate,Counts.get] at hcount ⊢ <;> omega

/-- The check returns after a legitimate history exactly where no pending item was resolved, and only for counts that a
legitimate history leads to. -/
theorem validateLiveReconciliation_exact (threadId : Text) (rows live : Rows) (transitions : List Transition)
    (interrupted : Bool) (hrows : Legitimate rows)
    (hrun : transitions.foldlM (applyTransition threadId) rows = some live)
    (hfinal : interrupted = false → ∀ t ∈ transitions, t.isRevocation = true) :
    (validateLiveReconciliation live rows.counts live.counts interrupted = true ↔
      ∀ t ∈ transitions, t.isRevocation = true) ∧
    ∀ (others : Rows) (checkpoint counts : Counts),
      validateLiveReconciliation others checkpoint counts interrupted = true → Reachable interrupted checkpoint counts :=
  ⟨validateLiveReconciliation_legitimate hrows hrun hfinal,fun _ _ _ => validateLiveReconciliation_reachable⟩

/-- A policy approval that is revoked while a second item waits. -/
theorem validateLiveReconciliation_exact_sample :
    validateLiveReconciliation ⟨[revokedRow 5 (sampleItem .approved 0),sampleItem .pendingReview 1],[]⟩
      (sampleRows [.approved,.pendingReview]).counts ⟨1,0,0,0,1⟩ true = true :=
  (validateLiveReconciliation_exact (text "thread") (sampleRows [.approved,.pendingReview])
    ⟨[revokedRow 5 (sampleItem .approved 0),sampleItem .pendingReview 1],[]⟩ [.revoke 0 5] true
    (sampleRows_legitimate _) rfl (fun _ => by decide)).1.mpr (by decide)

/-- A single pending item is approved by a human: the check of the waiting thread raises. -/
theorem approval_not_reconciled : ∃ live,
    [Transition.human .approve 0 (text "owner") 5].foldlM (applyTransition (text "thread"))
        (sampleRows [.pendingReview]) = some live ∧
      Legitimate (sampleRows [.pendingReview]) ∧
      validateLiveReconciliation live (sampleRows [.pendingReview]).counts live.counts true = false :=
  ⟨_,rfl,sampleRows_legitimate _,by decide⟩

end steps

end ParaWorks.ReviewV21
