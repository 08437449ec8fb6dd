import ParaWorks.Sessions.RefreshTokens

/-!
# Linear families

A family forks, or survives its logout, only where a transaction commits over another one that committed since it read.
-/

namespace ParaWorks.Sessions

open Lib

variable {hash : Text → Text} {ttl : Nat} {s : SessionState} {record : RefreshToken} {i now userId : Nat}
  {token familyId tokenHash : Text} {tokens tokens' : List RefreshToken}

/-! ## Rows -/

theorem lt_freshTokenId {t : RefreshToken} (h : t ∈ tokens) : t.id < freshTokenId tokens := by
  unfold freshTokenId
  induction tokens with
  | nil => cases h
  | cons u tokens ih =>
    rw [List.map_cons,List.foldr_cons]
    rcases List.mem_cons.mp h with rfl | h
    · omega
    · have hlt := ih h
      omega

theorem hashIsFree_iff : hashIsFree tokens tokenHash = true ↔ ∀ t ∈ tokens, t.tokenHash ≠ tokenHash := by
  simp [hashIsFree]

/-- Rows keep their keys, and stay revoked. -/
def RowsKept (tokens tokens' : List RefreshToken) : Prop :=
  ∀ t ∈ tokens, ∃ t' ∈ tokens', t'.id = t.id ∧ t'.tokenHash = t.tokenHash ∧ t'.familyId = t.familyId ∧
    (t.revokedAt ≠ none → t'.revokedAt ≠ none)

/-- What a request remembers is stored. -/
def Request.Known (tokens : List RefreshToken) : Request → Prop
  | .rotating record _ | .rotated record _ =>
    ∃ t ∈ tokens, t.id = record.id ∧ t.tokenHash = record.tokenHash ∧ t.familyId = record.familyId
  | .loggingOut record => ∃ t ∈ tokens, t.familyId = record.familyId
  | .revoking familyId _ _ => ∃ t ∈ tokens, t.familyId = familyId

theorem Request.Known.mono {request : Request} (h : request.Known tokens) (hkept : RowsKept tokens tokens') :
    request.Known tokens' := by
  cases request with
  | rotating record now | rotated record now =>
    obtain ⟨t,ht,hid,hhash,hfamily⟩ := h
    obtain ⟨t',ht',hid',hhash',hfamily',-⟩ := hkept t ht
    exact ⟨t',ht',hid'.trans hid,hhash'.trans hhash,hfamily'.trans hfamily⟩
  | loggingOut record | revoking familyId ids now =>
    obtain ⟨t,ht,hfamily⟩ := h
    obtain ⟨t',ht',-,-,hfamily',-⟩ := hkept t ht
    exact ⟨t',ht',hfamily'.trans hfamily⟩

/-! ## The invariant -/

structure Kept (s : SessionState) : Prop where
  ids : (s.tokens.map (·.id)).Nodup
  hashes : (s.tokens.map (·.tokenHash)).Nodup
  oneUnrevoked : ∀ t ∈ s.tokens, ∀ u ∈ s.tokens, t.familyId = u.familyId → t.revokedAt = none → u.revokedAt = none → t = u
  exchanged : ∀ tokenHash familyId, .exchanged tokenHash familyId ∈ s.history →
    ∃ t ∈ s.tokens, t.tokenHash = tokenHash ∧ t.revokedAt ≠ none
  loggedOut : ∀ familyId, .loggedOut familyId ∈ s.history →
    (∃ t ∈ s.tokens, t.familyId = familyId) ∧ ∀ t ∈ s.tokens, t.familyId = familyId → t.revokedAt ≠ none
  once : (s.history.filterMap exchangedHash).Nodup
  final : s.history.Pairwise fun earlier later =>
    ∀ familyId tokenHash, earlier = .loggedOut familyId → later ≠ .exchanged tokenHash familyId
  requests : ∀ i request, s.requests i = some request → request.Known s.tokens

theorem Kept.initial (users : List AuthUser) : Kept (.initial users) :=
  ⟨List.nodup_nil,List.nodup_nil,by simp [SessionState.initial],by simp [SessionState.initial],
    by simp [SessionState.initial],List.nodup_nil,List.Pairwise.nil,by simp [SessionState.initial]⟩

theorem Kept.setRequest (h : Kept s) {request : Option Request} (hknown : ∀ r, request = some r → r.Known s.tokens) :
    Kept (s.setRequest i request) := by
  refine { h with requests := fun j r hr => ?_ }
  change (if j = i then request else s.requests j) = some r at hr
  split at hr
  · exact hknown r hr
  · exact h.requests j r hr

theorem length_le_one {rows : List RefreshToken} (hnodup : rows.Nodup) (h : ∀ t ∈ rows, ∀ u ∈ rows, t = u) :
    rows.length ≤ 1 := by
  cases rows with
  | nil => simp
  | cons t rest =>
    cases rest with
    | nil => simp
    | cons u rest =>
      have heq := h t (by simp) u (by simp)
      simp [heq] at hnodup

theorem Kept.linear (h : Kept s) : FamiliesLinear s := by
  refine ⟨h.once,fun familyId now => ?_,h.final⟩
  apply length_le_one ((List.Nodup.of_map _ h.ids).filter _)
  intro t ht u hu
  simp only [List.mem_filter,Bool.and_eq_true,decide_eq_true_eq,Option.isNone_iff_eq_none] at ht hu
  exact h.oneUnrevoked t ht.1 u hu.1 (ht.2.1.1.trans hu.2.1.1.symm) ht.2.1.2 hu.2.1.2

/-! ## New rows -/

theorem rowsKept_append (new : RefreshToken) : RowsKept tokens (tokens++[new]) :=
  fun t ht => ⟨t,List.mem_append_left _ ht,rfl,rfl,rfl,id⟩

theorem mem_snoc {t new : RefreshToken} (h : t ∈ tokens++[new]) : t ∈ tokens ∨ t = new := by
  simpa using h

/-- A row of a family without an unrevoked token. -/
theorem Kept.addRow (h : Kept s) {new : RefreshToken} (hid : new.id = freshTokenId s.tokens)
    (hfree : ∀ t ∈ s.tokens, t.tokenHash ≠ new.tokenHash)
    (hnone : ∀ t ∈ s.tokens, t.familyId = new.familyId → t.revokedAt ≠ none)
    (hopen : .loggedOut new.familyId ∉ s.history) : Kept { s with tokens := s.tokens++[new] } where
  ids := by
    rw [List.map_append,List.nodup_append]
    refine ⟨h.ids,by simp,fun id hmem id' hmem' heq => ?_⟩
    obtain ⟨t,ht,rfl⟩ := List.mem_map.mp hmem
    have hlt := lt_freshTokenId ht
    have hnew : id' = new.id := by simpa using hmem'
    omega
  hashes := by
    rw [List.map_append,List.nodup_append]
    refine ⟨h.hashes,by simp,fun key hmem key' hmem' heq => ?_⟩
    obtain ⟨t,ht,rfl⟩ := List.mem_map.mp hmem
    have hnew : key' = new.tokenHash := by simpa using hmem'
    exact hfree t ht (heq.trans hnew)
  oneUnrevoked := by
    intro t htmem u humem hfamily ht' hu'
    rcases mem_snoc htmem with ht | ht
    · rcases mem_snoc humem with hu | hu
      · exact h.oneUnrevoked t ht u hu hfamily ht' hu'
      · exact absurd ht' (hnone t ht (by rw [hfamily,hu]))
    · rcases mem_snoc humem with hu | hu
      · exact absurd hu' (hnone u hu (by rw [← hfamily,ht]))
      · exact ht.trans hu.symm
  exchanged := by
    intro tokenHash familyId hmem
    obtain ⟨t,ht,hrow⟩ := h.exchanged tokenHash familyId hmem
    exact ⟨t,List.mem_append_left _ ht,hrow⟩
  loggedOut := by
    intro familyId hmem
    obtain ⟨⟨t,ht,hfamily⟩,hall⟩ := h.loggedOut familyId hmem
    refine ⟨⟨t,List.mem_append_left _ ht,hfamily⟩,fun u hu hufamily => ?_⟩
    rcases mem_snoc hu with hu | rfl
    · exact hall u hu hufamily
    · exact absurd (hufamily ▸ hmem) hopen
  once := h.once
  final := h.final
  requests := fun j request hr => (h.requests j request hr).mono (rowsKept_append new)

theorem login_kept (h : Kept s) (hdrawn : ∀ t ∈ s.tokens, t.familyId ≠ familyId) :
    Kept (login hash ttl s userId token familyId now) := by
  unfold login
  split
  · next hfree =>
    refine h.addRow rfl (hashIsFree_iff.mp hfree) (fun t ht hfamily => absurd hfamily (hdrawn t ht)) fun hmem => ?_
    obtain ⟨⟨t,ht,hfamily⟩,-⟩ := h.loggedOut familyId hmem
    exact hdrawn t ht hfamily
  · exact h

/-! ## Revoked rows -/

/-- Some rows are revoked. -/
theorem Kept.revoke (h : Kept s) {f : RefreshToken → RefreshToken}
    (hf : ∀ t, (f t).id = t.id ∧ (f t).tokenHash = t.tokenHash ∧ (f t).familyId = t.familyId ∧
      (f t = t ∨ (f t).revokedAt ≠ none)) : Kept { s with tokens := s.tokens.map f } := by
  have hkept : RowsKept s.tokens (s.tokens.map f) := by
    intro t ht
    obtain ⟨hid,hhash,hfamily,hrow⟩ := hf t
    refine ⟨f t,List.mem_map_of_mem ht,hid,hhash,hfamily,fun hrevoked => ?_⟩
    rcases hrow with heq | hrow
    · rwa [heq]
    · exact hrow
  refine ⟨?_,?_,?_,?_,?_,h.once,h.final,fun j request hr => (h.requests j request hr).mono hkept⟩
  · have hids : (s.tokens.map f).map (·.id) = s.tokens.map (·.id) := by
      rw [List.map_map]
      exact List.map_congr_left fun t _ => (hf t).1
    rw [hids]
    exact h.ids
  · have hhashes : (s.tokens.map f).map (·.tokenHash) = s.tokens.map (·.tokenHash) := by
      rw [List.map_map]
      exact List.map_congr_left fun t _ => (hf t).2.1
    rw [hhashes]
    exact h.hashes
  · intro t' ht' u' hu' hfamily htnone hunone
    obtain ⟨t,ht,rfl⟩ := List.mem_map.mp ht'
    obtain ⟨u,hu,rfl⟩ := List.mem_map.mp hu'
    have hteq := (hf t).2.2.2.resolve_right (not_not.mpr htnone)
    have hueq := (hf u).2.2.2.resolve_right (not_not.mpr hunone)
    rw [hteq] at htnone hfamily ⊢
    rw [hueq] at hunone hfamily ⊢
    exact h.oneUnrevoked t ht u hu hfamily htnone hunone
  · intro tokenHash familyId hmem
    obtain ⟨t,ht,hhash,hrevoked⟩ := h.exchanged tokenHash familyId hmem
    obtain ⟨t',ht',-,hhash',-,hrevoked'⟩ := hkept t ht
    exact ⟨t',ht',hhash'.trans hhash,hrevoked' hrevoked⟩
  · intro familyId hmem
    obtain ⟨⟨t,ht,hfamily⟩,hall⟩ := h.loggedOut familyId hmem
    obtain ⟨t',ht',-,-,hfamily',-⟩ := hkept t ht
    refine ⟨⟨t',ht',hfamily'.trans hfamily⟩,fun u' hu' hu'family => ?_⟩
    obtain ⟨u,hu,rfl⟩ := List.mem_map.mp hu'
    have hurevoked := hall u hu ((hf u).2.2.1.symm.trans hu'family)
    rcases (hf u).2.2.2 with heq | hrow
    · rwa [heq]
    · exact hrow

theorem final_snoc {history : List SessionEvent} {e : SessionEvent}
    (h : history.Pairwise fun earlier later =>
      ∀ familyId tokenHash, earlier = .loggedOut familyId → later ≠ .exchanged tokenHash familyId)
    (hlast : ∀ familyId tokenHash, .loggedOut familyId ∈ history → e ≠ .exchanged tokenHash familyId) :
    (history++[e]).Pairwise fun earlier later =>
      ∀ familyId tokenHash, earlier = .loggedOut familyId → later ≠ .exchanged tokenHash familyId := by
  rw [List.pairwise_append]
  refine ⟨h,List.pairwise_singleton _ _,fun a ha b hb familyId tokenHash heq => ?_⟩
  obtain rfl := List.mem_singleton.mp hb
  exact hlast familyId tokenHash (heq ▸ ha)

/-- A logout whose reads missed no token of the family. -/
theorem commitLogout_kept {ids : List Nat} (h : Kept s) (hrequest : s.requests i = some (.revoking familyId ids now))
    (hall : ∀ t ∈ s.tokens, t.familyId = familyId → t.revokedAt = none → t.id ∈ ids) :
    Kept (commitLogout s i familyId ids now) := by
  have hidle : Kept (s.setRequest i none) := h.setRequest (by simp)
  have hf : ∀ t : RefreshToken, (if t.id ∈ ids then { t with revokedAt := some now } else t).id = t.id ∧
      (if t.id ∈ ids then { t with revokedAt := some now } else t).tokenHash = t.tokenHash ∧
      (if t.id ∈ ids then { t with revokedAt := some now } else t).familyId = t.familyId ∧
      ((if t.id ∈ ids then { t with revokedAt := some now } else t) = t ∨
        (if t.id ∈ ids then { t with revokedAt := some now } else t).revokedAt ≠ none) := by
    intro t
    by_cases hread : t.id ∈ ids
    · simp [hread]
    · simp [hread]
  have hrevoked := hidle.revoke hf
  refine { hrevoked with exchanged := ?_, loggedOut := ?_, once := ?_, final := ?_ }
  · intro tokenHash familyId' hmem
    have hold : .exchanged tokenHash familyId' ∈ s.history := by simpa [commitLogout] using hmem
    exact hrevoked.exchanged tokenHash familyId' hold
  · intro familyId' hmem
    rcases List.mem_append.mp hmem with hmem | hmem
    · exact hrevoked.loggedOut familyId' hmem
    · obtain rfl : familyId' = familyId := by simpa using hmem
      obtain ⟨t,ht,hfamily⟩ := h.requests i _ hrequest
      refine ⟨⟨_,List.mem_map_of_mem ht,?_⟩,fun u' hu' hu'family => ?_⟩
      · split
        · exact hfamily
        · exact hfamily
      · obtain ⟨u,hu,rfl⟩ := List.mem_map.mp hu'
        by_cases hread : u.id ∈ ids
        · simp [hread]
        · simp only [if_neg hread] at hu'family ⊢
          exact fun hnone => hread (hall u hu hu'family hnone)
  · change ((s.history++[_]).filterMap exchangedHash).Nodup
    rw [List.filterMap_append]
    change (s.history.filterMap exchangedHash++[]).Nodup
    rw [List.append_nil]
    exact h.once
  · exact final_snoc h.final (by simp)

/-- A rotation whose token is still unrevoked. -/
theorem commitRefresh_kept (h : Kept s) (hrequest : s.requests i = some (.rotated record now))
    (hlive : ∀ t ∈ s.tokens, t.id = record.id → t.revokedAt = none) : Kept (commitRefresh hash ttl s i record now token) := by
  unfold commitRefresh
  split
  swap
  · exact h.setRequest (by simp)
  next hfree =>
  obtain ⟨t₀,ht₀,hid₀,hhash₀,hfamily₀⟩ := h.requests i _ hrequest
  have hnone₀ := hlive t₀ ht₀ hid₀
  have hopen : .loggedOut record.familyId ∉ s.history := fun hmem =>
    (h.loggedOut record.familyId hmem).2 t₀ ht₀ hfamily₀ hnone₀
  have hfresh : record.tokenHash ∉ s.history.filterMap exchangedHash := by
    intro hmem
    obtain ⟨e,he,hevent⟩ := List.mem_filterMap.mp hmem
    cases e with
    | loggedOut familyId => cases hevent
    | exchanged tokenHash familyId =>
      obtain rfl := Option.some.inj hevent
      obtain ⟨t,ht,hhash,hrevoked⟩ := h.exchanged _ familyId he
      obtain rfl : t = t₀ := List.inj_on_of_nodup_map h.hashes ht ht₀ (hhash.trans hhash₀.symm)
      exact hrevoked hnone₀
  dsimp only
  let f : RefreshToken → RefreshToken := fun t => if t.id = record.id then
    { t with revokedAt := some now, lastUsedAt := some now, replacedByTokenId := some (freshTokenId s.tokens) } else t
  have hf : ∀ t, (f t).id = t.id ∧ (f t).tokenHash = t.tokenHash ∧ (f t).familyId = t.familyId ∧
      (f t = t ∨ (f t).revokedAt ≠ none) := by
    intro t
    by_cases ht : t.id = record.id
    · simp [f,ht]
    · simp [f,ht]
  have hrevoked : Kept { s.setRequest i none with tokens := s.tokens.map f } := (h.setRequest (by simp)).revoke hf
  have hids : freshTokenId (s.tokens.map f) = freshTokenId s.tokens := by
    unfold freshTokenId
    rw [List.map_map]
    congr 2
    exact List.map_congr_left fun t _ => (hf t).1
  let new : RefreshToken := ⟨freshTokenId s.tokens,record.userId,hash token,record.familyId,now+ttl,none,none,none⟩
  have hid : new.id = freshTokenId (s.tokens.map f) := hids.symm
  have hadded := hrevoked.addRow hid (by
      intro t' ht'
      obtain ⟨t,ht,rfl⟩ := List.mem_map.mp ht'
      rw [(hf t).2.1]
      exact hashIsFree_iff.mp hfree t ht) (by
      intro t' ht' hfamily
      obtain ⟨t,ht,rfl⟩ := List.mem_map.mp ht'
      intro hnone
      -- the token that was read was the only one of its family that was not revoked
      have hsame : t = t₀ := by
        have hkept := (hf t).2.2.2.resolve_right (not_not.mpr hnone)
        rw [hkept] at hnone hfamily
        exact h.oneUnrevoked t ht t₀ ht₀ (hfamily.trans hfamily₀.symm) hnone hnone₀
      simp [f,hsame,hid₀] at hnone) hopen
  refine { hadded with exchanged := ?_, loggedOut := ?_, once := ?_, final := ?_ }
  · intro tokenHash familyId hmem
    rcases List.mem_append.mp hmem with hmem | hmem
    · exact hadded.exchanged tokenHash familyId hmem
    · obtain ⟨rfl,rfl⟩ : tokenHash = record.tokenHash ∧ familyId = record.familyId := by simpa using hmem
      refine ⟨f t₀,List.mem_append_left _ (List.mem_map_of_mem ht₀),(hf t₀).2.1.trans hhash₀,?_⟩
      simp [f,hid₀]
  · intro familyId hmem
    rcases List.mem_append.mp hmem with hmem | hmem
    · exact hadded.loggedOut familyId hmem
    · simp at hmem
  · change ((s.history++[_]).filterMap exchangedHash).Nodup
    rw [List.filterMap_append,List.nodup_append]
    refine ⟨h.once,by simp [exchangedHash],fun a ha b hb heq => hfresh ?_⟩
    obtain rfl : b = record.tokenHash := by simpa [exchangedHash] using hb
    exact heq ▸ ha
  · apply final_snoc h.final
    rintro familyId tokenHash hmem heq
    obtain ⟨-,rfl⟩ := SessionEvent.exchanged.inj heq
    exact hopen hmem

/-! ## Runs -/

theorem readToken_kept (h : Kept s) : Kept (readToken hash s i token now) := by
  unfold readToken
  cases hfind : s.tokens.find? fun t => t.tokenHash = hash token && t.revokedAt.isNone with
  | none => exact h
  | some record =>
    dsimp only
    split
    · exact h
    · apply h.setRequest
      intro r hr
      obtain rfl := Option.some.inj hr
      exact ⟨record,(find?_spec hfind).1,rfl,rfl,rfl⟩

theorem readUser_kept (h : Kept s) (hrequest : s.requests i = some (.rotating record now)) :
    Kept (readUser s i record now) := by
  unfold readUser
  split
  · exact h.setRequest (by simp)
  · apply h.setRequest
    intro r hr
    split at hr
    · obtain rfl := Option.some.inj hr
      have hknown := h.requests i _ hrequest
      exact hknown
    · cases hr

theorem readLogoutToken_kept (h : Kept s) : Kept (readLogoutToken hash s i token) := by
  unfold readLogoutToken
  cases hfind : s.tokens.find? (·.tokenHash = hash token) with
  | none => exact h
  | some record =>
    apply h.setRequest
    intro r hr
    obtain rfl := Option.some.inj hr
    exact ⟨record,(find?_spec hfind).1,rfl⟩

theorem readFamily_kept (h : Kept s) (hrequest : s.requests i = some (.loggingOut record)) :
    Kept (readFamily s i record now) := by
  apply h.setRequest
  intro r hr
  obtain rfl := Option.some.inj hr
  have hknown := h.requests i _ hrequest
  exact hknown

theorem step_kept (c : SessionCommand) (h : Kept s) (hdrawn : FamilyDrawn s c) (hundisturbed : Undisturbed s c) :
    Kept (step hash ttl s c) := by
  cases c with
  | login userId token familyId now => exact login_kept h hdrawn
  | refresh i token now =>
    simp only [step]
    split
    · exact readToken_kept h
    · exact h
  | readUser i =>
    simp only [step]
    split
    · next hrequest => exact readUser_kept h hrequest
    · exact h
  | commitRefresh i token =>
    simp only [step]
    split
    · next hrequest => exact commitRefresh_kept h hrequest (hundisturbed _ _ hrequest)
    · exact h
  | logout i token =>
    simp only [step]
    split
    · split
      · exact h
      · exact readLogoutToken_kept h
    · exact h
  | readFamily i now =>
    simp only [step]
    split
    · next hrequest => exact readFamily_kept h hrequest
    · exact h
  | commitLogout i =>
    simp only [step]
    split
    · next hrequest => exact commitLogout_kept h hrequest (hundisturbed _ _ _ hrequest)
    · exact h
  | abort i => exact h.setRequest (by simp)
  | setStatus userId status => exact { h with }

/-- Families are linear and logouts final in every run in which no transaction is disturbed. -/
theorem families_stay_linear (hash : Text → Text) (ttl : Nat) (users : List AuthUser) (cs : List SessionCommand)
    (hdrawn : RunMeets (step hash ttl) FamilyDrawn (.initial users) cs)
    (hundisturbed : RunMeets (step hash ttl) Undisturbed (.initial users) cs) :
    FamiliesLinear (run (step hash ttl) (.initial users) cs) := by
  have hboth : RunMeets (step hash ttl) (fun s c => FamilyDrawn s c ∧ Undisturbed s c) (.initial users) cs := by
    generalize SessionState.initial users = s at hdrawn hundisturbed ⊢
    induction cs generalizing s with
    | nil => trivial
    | cons c cs ih => exact ⟨⟨hdrawn.1,hundisturbed.1⟩,ih _ hdrawn.2 hundisturbed.2⟩
  exact (run_invariant_of (fun s c hc h => step_kept c h hc.1 hc.2) hboth (Kept.initial users)).linear

/-- A login, a refresh and a logout, one after another. -/
def quietSession : List SessionCommand :=
  [.login 1 (text "a") (text "f") 0,.refresh 0 (some (text "a")) 1,.readUser 0,.commitRefresh 0 (text "b"),
    .logout 0 (some (text "b")),.readFamily 0 2,.commitLogout 0]

/-- Two requests that both read the token of a login before one of them commits. -/
def twoRefreshes : List SessionCommand :=
  [.login 1 (text "a") (text "f") 0,.refresh 0 (some (text "a")) 1,.refresh 1 (some (text "a")) 1,.readUser 0,.readUser 1,
    .commitRefresh 0 (text "b"),.commitRefresh 1 (text "c")]

def activeUsers : List AuthUser := [⟨1,text "active"⟩]

theorem families_stay_linear_quiet :
    FamiliesLinear (run (step id 10) (.initial activeUsers) quietSession) := by
  apply families_stay_linear id 10 activeUsers quietSession
  · refine ⟨?_,trivial,trivial,trivial,trivial,trivial,trivial,trivial⟩
    intro t ht
    cases ht
  · refine ⟨trivial,trivial,trivial,?_,trivial,trivial,?_,trivial⟩
    · intro record now hrequest
      have hread : some (Request.rotated ⟨1,1,text "a",text "f",10,none,none,none⟩ 1) = some (Request.rotated record now) :=
        hrequest
      injection hread with hread
      injection hread with hrecord
      subst hrecord
      decide +kernel
    · intro familyId ids now hrequest
      have hread : some (Request.revoking (text "f") [2] 2) = some (Request.revoking familyId ids now) := hrequest
      injection hread with hread
      injection hread with hfamily hids
      subst hfamily hids
      decide +kernel

/-- Both of them exchange the token, and the family has two live tokens. -/
theorem families_stay_linear_forked :
    ¬FamiliesLinear (run (step id 10) (.initial activeUsers) twoRefreshes) ∧
      RunMeets (step id 10) FamilyDrawn (.initial activeUsers) twoRefreshes := by
  constructor
  · intro h
    have hlength := h.oneLive (text "f") 1
    revert hlength
    decide +kernel
  · refine ⟨?_,trivial,trivial,trivial,trivial,trivial,trivial,trivial⟩
    intro t ht
    cases ht

end ParaWorks.Sessions
