import ParaWorks.Lib.Base64
import ParaWorks.Lib.Floats
import ParaWorks.Lib.LenientJson
import ParaWorks.Lib.Strings
import ParaWorks.Sessions.RefreshTokens

/-!
# Session tokens

A payload and its signature with a dot between them, as they are issued to a user and as they come back in a cookie, and
the token that a request repeats in a header.
-/

namespace ParaWorks.Sessions

open Lib Base64

/-- What an operation raises. The error of an encoder is a `ValueError` too. -/
inductive Raised
  | valueError
  | unicodeEncodeError
  | keyError
  | typeError
  | attributeError
  | overflowError
  deriving DecidableEq

/-- The settings, and what Python brings along. -/
structure TokenPlatform where
  /-- `auth_session_secret.encode('utf-8')`. -/
  secret : ByteArray
  /-- `auth_session_ttl_seconds`. -/
  ttlSeconds : Int
  /-- `hmac.new(secret, message, hashlib.sha256).digest()`. -/
  digest : ByteArray → List UInt8 → List UInt8
  maxStrDigits : Nat
  /-- `int` of the float with this literal. -/
  truncFloat : Text → Except Raised Int

def isAscii (t : Text) : Bool := t.all (·.val < 128)

/-- `hmac.compare_digest` of two strings. -/
def compareDigest (a b : Text) : Except Raised Bool :=
  if isAscii a && isAscii b then .ok (a = b) else .error .typeError

section tokens

variable (p : TokenPlatform)

/-- `_sign`. -/
def sign (encodedPayload : Text) : Except Raised Text :=
  if isAscii encodedPayload then
    .ok (rstripPadding (urlsafeB64Encode (p.digest p.secret (encodedPayload.map fun c => UInt8.ofNat c.val))))
  else .error .unicodeEncodeError

/-! ## Issuing -/

/-- The microseconds of the last and of the first `datetime`. -/
def lastMicros : Int := 253402300799999999

def firstMicros : Int := -62135596800000000

/-- The second at which a token ends that is issued now. -/
def expirySecond (now : Int) : Int := timestampSeconds (now+p.ttlSeconds*1000000)

def sessionPayload (userId expiry : Int) : Json := .dict [(text "sub",.int userId),(text "exp",.int expiry)]

/-- `create_session_token`. -/
def createSessionToken (userId now : Int) : Except Raised Text := do
  let expiry := now+p.ttlSeconds*1000000
  if expiry < firstMicros ∨ lastMicros < expiry then throw .overflowError
  let printed ← (Json.dumps p.maxStrDigits (sessionPayload userId (expirySecond p now)) 2).mapError fun _ => .valueError
  match utf8 printed with
  | none => throw .unicodeEncodeError
  | some payloadBytes =>
    let encodedPayload := rstripPadding (urlsafeB64Encode payloadBytes.data.toList)
    let signature ← sign p encodedPayload
    return encodedPayload++ofChar '.'::signature

/-! ## Verifying -/

/-- The payload of a token, none where a step of reading it raises a `ValueError`. -/
def readPayload (encodedPayload : Text) : Option Loaded := do
  let bytes ← urlsafeB64Decode (encodedPayload++padding encodedPayload)
  let printed ← decodeUtf8 ⟨bytes.toArray⟩
  Loaded.loadsAny p.maxStrDigits printed

/-- `int(value)`. -/
def intOf : Loaded → Except Raised Int
  | .int n => .ok n
  | .bool b => .ok (if b then 1 else 0)
  | .float literal => p.truncFloat literal
  | .str t => match parseInt t with
    | some n => .ok n
    | none => .error .valueError
  | _ => .error .typeError

/-- `int(payload.get('exp', 0))`. -/
def expiryOf : Loaded → Except Raised Int
  | .dict entries => match Loaded.lookup entries (text "exp") with
    | some v => intOf p v
    | none => .ok 0
  | _ => .error .attributeError

/-- `int(payload['sub'])`. -/
def subjectOf : Loaded → Except Raised Int
  | .dict entries => match Loaded.lookup entries (text "sub") with
    | some v => intOf p v
    | none => .error .keyError
  | _ => .error .typeError

/-- The user that a payload names, none once it has ended or where it names no user. -/
def acceptPayload (payload : Loaded) (now : Int) : Except Raised (Option Int) := do
  let expiry ← expiryOf p payload
  if expiry ≤ timestampSeconds now then return none
  match subjectOf p payload with
  | .ok userId => return some userId
  | .error .keyError | .error .typeError | .error .valueError => return none
  | .error e => throw e

/-- `verify_session_token`. -/
def verifySessionToken (token : Text) (now : Int) : Except Raised (Option Int) :=
  match splitOnce (ofChar '.') token with
  | none => .ok none
  | some (encodedPayload,signature) => do
    let expected ← sign p encodedPayload
    let same ← compareDigest signature expected
    if !same then return none
    match readPayload p encodedPayload with
    | none => return none
    | some payload => acceptPayload p payload now

/-- `authenticate_session_cookie`. -/
def authenticateSessionCookie (users : List AuthUser) (sessionToken : Option Text) (now : Int) :
    Except Raised (Option AuthUser) :=
  match sessionToken with
  | none => .ok none
  | some token =>
    if token = [] then .ok none
    else do
      let userId ← verifySessionToken p token now
      return userId.bind fun userId => (users.find? fun u => (u.id : Int) = userId).filter (·.status = text "active")

end tokens

/-! ## Repeating a token -/

structure CsrfRequest where
  method : Text
  cookieToken : Option Text
  headerToken : Option Text

def safeMethods : List Text := [text "GET",text "HEAD",text "OPTIONS",text "TRACE"]

/-- `verify_csrf_token`. -/
def verifyCsrfToken (request : CsrfRequest) : Except Raised Bool :=
  if request.method ∈ safeMethods then .ok true
  else match request.cookieToken,request.headerToken with
    | some cookieToken,some headerToken =>
      if cookieToken = [] ∨ headerToken = [] then .ok false else compareDigest cookieToken headerToken
    | _,_ => .ok false

end ParaWorks.Sessions
