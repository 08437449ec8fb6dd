import ParaWorks.Lib.Tables
import ParaWorks.Lib.Text
import ParaWorks.Lib.Transition

/-!
# Refresh tokens

Login, refresh and logout as transactions under read-committed isolation: each read sees what is committed then, and the
writes of a request reach the table with its commit. `hash` is the digest of a token.
-/

namespace ParaWorks.Sessions

open Lib

/-! ## Rows and requests -/

structure RefreshToken where
  id : Nat
  userId : Nat
  tokenHash : Text
  familyId : Text
  expiresAt : Nat
  revokedAt : Option Nat
  replacedByTokenId : Option Nat
  lastUsedAt : Option Nat

structure AuthUser where
  id : Nat
  status : Text

/-- Where a request stands between two of its statements. -/
inductive Request
  /-- `rotate_refresh_token` has read the token. -/
  | rotating (record : RefreshToken) (now : Nat)
  /-- It has read the user too, and only its commit is left. -/
  | rotated (record : RefreshToken) (now : Nat)
  /-- `revoke_refresh_token_family` has read the token. -/
  | loggingOut (record : RefreshToken)
  /-- It has read the tokens of the family that are not revoked, and only its commit is left. -/
  | revoking (familyId : Text) (ids : List Nat) (now : Nat)

inductive SessionEvent
  | exchanged (tokenHash familyId : Text)
  | loggedOut (familyId : Text)
  deriving DecidableEq

/-- The committed tables, the requests under way, and what has been committed so far. -/
structure SessionState where
  tokens : List RefreshToken
  users : List AuthUser
  requests : Nat → Option Request
  history : List SessionEvent

def SessionState.initial (users : List AuthUser) : SessionState := ⟨[],users,fun _ => none,[]⟩

def SessionState.setRequest (s : SessionState) (i : Nat) (request : Option Request) : SessionState :=
  { s with requests := fun j => if j = i then request else s.requests j }

inductive SessionCommand
  | login (userId : Nat) (token familyId : Text) (now : Nat)
  | refresh (i : Nat) (token : Option Text) (now : Nat)
  | readUser (i : Nat)
  | commitRefresh (i : Nat) (token : Text)
  | logout (i : Nat) (token : Option Text)
  | readFamily (i now : Nat)
  | commitLogout (i : Nat)
  | abort (i : Nat)
  | setStatus (userId : Nat) (status : Text)

/-! ## Steps -/

section steps

variable (hash : Text → Text) (ttl : Nat)

def freshTokenId (tokens : List RefreshToken) : Nat := (tokens.map (·.id)).foldr max 0+1

/-- The unique constraint on `token_hash` holds for a new row. -/
def hashIsFree (tokens : List RefreshToken) (tokenHash : Text) : Bool := !tokens.any (·.tokenHash = tokenHash)

/-- `issue_auth_cookies`, with its commit. -/
def login (s : SessionState) (userId : Nat) (token familyId : Text) (now : Nat) : SessionState :=
  if hashIsFree s.tokens (hash token) then
    { s with tokens := s.tokens++[⟨freshTokenId s.tokens,userId,hash token,familyId,now+ttl,none,none,none⟩] }
  else s

/-- The first read of `rotate_refresh_token`. -/
def readToken (s : SessionState) (i : Nat) (token : Text) (now : Nat) : SessionState :=
  match s.tokens.find? fun t => t.tokenHash = hash token && t.revokedAt.isNone with
  | none => s
  | some record => if record.expiresAt ≤ now then s else s.setRequest i (some (.rotating record now))

def readUser (s : SessionState) (i : Nat) (record : RefreshToken) (now : Nat) : SessionState :=
  match s.users.find? (·.id = record.userId) with
  | none => s.setRequest i none
  | some user => s.setRequest i (if user.status = text "active" then some (.rotated record now) else none)

/-- The insert of the replacement and the update of the token that was read. -/
def commitRefresh (s : SessionState) (i : Nat) (record : RefreshToken) (now : Nat) (token : Text) : SessionState :=
  if hashIsFree s.tokens (hash token) then
    let replacement : RefreshToken :=
      ⟨freshTokenId s.tokens,record.userId,hash token,record.familyId,now+ttl,none,none,none⟩
    { s.setRequest i none with
      tokens := (s.tokens.map fun t => if t.id = record.id then
        { t with revokedAt := some now, lastUsedAt := some now, replacedByTokenId := some replacement.id } else t)++
          [replacement]
      history := s.history++[.exchanged record.tokenHash record.familyId] }
  else s.setRequest i none

/-- The first read of `revoke_refresh_token_family`. -/
def readLogoutToken (s : SessionState) (i : Nat) (token : Text) : SessionState :=
  match s.tokens.find? (·.tokenHash = hash token) with
  | none => s
  | some record => s.setRequest i (some (.loggingOut record))

def readFamily (s : SessionState) (i : Nat) (record : RefreshToken) (now : Nat) : SessionState :=
  s.setRequest i (some (.revoking record.familyId
    ((s.tokens.filter fun t => t.familyId = record.familyId && t.revokedAt.isNone).map (·.id)) now))

def commitLogout (s : SessionState) (i : Nat) (familyId : Text) (ids : List Nat) (now : Nat) : SessionState :=
  { s.setRequest i none with
    tokens := s.tokens.map fun t => if t.id ∈ ids then { t with revokedAt := some now } else t
    history := s.history++[.loggedOut familyId] }

/-- A command that does not fit where its request stands does nothing. -/
def step (s : SessionState) : SessionCommand → SessionState
  | .login userId token familyId now => login hash ttl s userId token familyId now
  | .refresh i token now =>
    match s.requests i, token with
    | none, some token => readToken hash s i token now
    | _, _ => s
  | .readUser i =>
    match s.requests i with
    | some (.rotating record now) => readUser s i record now
    | _ => s
  | .commitRefresh i token =>
    match s.requests i with
    | some (.rotated record now) => commitRefresh hash ttl s i record now token
    | _ => s
  | .logout i token =>
    match s.requests i, token with
    | none, some token => if token = [] then s else readLogoutToken hash s i token
    | _, _ => s
  | .readFamily i now =>
    match s.requests i with
    | some (.loggingOut record) => readFamily s i record now
    | _ => s
  | .commitLogout i =>
    match s.requests i with
    | some (.revoking familyId ids now) => commitLogout s i familyId ids now
    | _ => s
  | .abort i => s.setRequest i none
  | .setStatus userId status =>
    { s with users := s.users.map fun u => if u.id = userId then { u with status := status } else u }

end steps

/-! ## What is expected of every state -/

def exchangedHash : SessionEvent → Option Text
  | .exchanged tokenHash _ => some tokenHash
  | .loggedOut _ => none

structure FamiliesLinear (s : SessionState) : Prop where
  /-- Each token is exchanged at most once. -/
  exchangedOnce : (s.history.filterMap exchangedHash).Nodup
  /-- Each family has at most one token that is neither revoked nor expired. -/
  oneLive : ∀ familyId now, (s.tokens.filter fun t =>
    t.familyId = familyId && t.revokedAt.isNone && now < t.expiresAt).length ≤ 1
  /-- After a logout no token of its family is exchanged. -/
  logoutFinal : s.history.Pairwise fun earlier later =>
    ∀ familyId tokenHash, earlier = .loggedOut familyId → later ≠ .exchanged tokenHash familyId

/-- A login draws a new family. -/
def FamilyDrawn (s : SessionState) : SessionCommand → Prop
  | .login _ _ familyId _ => ∀ t ∈ s.tokens, t.familyId ≠ familyId
  | _ => True

/-- No transaction commits over another one that committed since it read: a rotation finds its token still unrevoked, and
a logout every token of the family among those it read. -/
def Undisturbed (s : SessionState) : SessionCommand → Prop
  | .commitRefresh i _ => ∀ record now, s.requests i = some (.rotated record now) →
    ∀ t ∈ s.tokens, t.id = record.id → t.revokedAt = none
  | .commitLogout i => ∀ familyId ids now, s.requests i = some (.revoking familyId ids now) →
    ∀ t ∈ s.tokens, t.familyId = familyId → t.revokedAt = none → t.id ∈ ids
  | _ => True

end ParaWorks.Sessions
