import ParaWorks.Sessions.Tokens

/-!
# Which tokens are let in

An issued token lets its user in until it ends, and no other text does; what a text with other characters than ASCII
makes of it.
-/

namespace ParaWorks.Sessions

open Lib Base64

variable {p : TokenPlatform}

/-! ## Issued tokens -/

theorem isAscii_iff {t : Text} : isAscii t = true ↔ ∀ c ∈ t, c.val < 128 := by simp [isAscii]

theorem mem_encoding {bytes : List UInt8} {c : CodePoint} (h : c ∈ rstripPadding (urlsafeB64Encode bytes)) :
    c ≠ ofChar '.' ∧ c.val < 128 := by
  rw [rstripPadding_encode] at h
  obtain ⟨n,hn,rfl⟩ := List.mem_map.mp h
  exact (urlsafeChar_spec n (sextets_lt bytes n hn)).2.2

theorem encoding_isAscii (bytes : List UInt8) : isAscii (rstripPadding (urlsafeB64Encode bytes)) = true :=
  isAscii_iff.mpr fun _ hc => (mem_encoding hc).2

theorem dot_not_mem_encoding (bytes : List UInt8) : ofChar '.' ∉ rstripPadding (urlsafeB64Encode bytes) :=
  fun h => (mem_encoding h).1 rfl

theorem sign_ok {encodedPayload signature : Text} (h : sign p encodedPayload = .ok signature) :
    isAscii encodedPayload = true ∧ isAscii signature = true := by
  unfold sign at h
  split_ifs at h with hascii
  rw [← Except.ok.inj h]
  exact ⟨hascii,encoding_isAscii _⟩

theorem readPayload_encode {printed : Text} {bytes : ByteArray} (h : utf8 printed = some bytes) :
    readPayload p (rstripPadding (urlsafeB64Encode bytes.data.toList)) = Loaded.loadsAny p.maxStrDigits printed := by
  have hbytes : (⟨bytes.data.toList.toArray⟩ : ByteArray) = bytes := by rw [Array.toArray_toList]
  rw [readPayload,rstripPadding_encode,decode_encode]
  simp only [Option.bind_eq_bind,Option.bind_some,hbytes,decodeUtf8_utf8 h]

/-- The parts of an issued token, and what is read back from it. -/
structure Parts (p : TokenPlatform) (userId now : Int) (token encodedPayload signature : Text) : Prop where
  token : token = encodedPayload++ofChar '.'::signature
  noDot : ofChar '.' ∉ encodedPayload
  signed : sign p encodedPayload = .ok signature
  payload : readPayload p encodedPayload =
    some (.dict [(text "sub",.int userId),(text "exp",.int (expirySecond p now))])

theorem createSessionToken_ok {userId now : Int} {token : Text} (h : createSessionToken p userId now = .ok token) :
    ∃ encodedPayload signature, Parts p userId now token encodedPayload signature := by
  unfold createSessionToken at h
  dsimp only at h
  split_ifs at h
  · cases h
  obtain ⟨printed,hprinted,h⟩ := bind_eq_ok.mp h
  have hdumps : Json.dumps p.maxStrDigits (sessionPayload userId (expirySecond p now)) 2 = .ok printed := by
    cases hd : Json.dumps p.maxStrDigits (sessionPayload userId (expirySecond p now)) 2 with
    | ok t =>
      rw [hd] at hprinted
      exact congrArg Except.ok (Except.ok.inj hprinted)
    | error e =>
      rw [hd] at hprinted
      cases hprinted
  obtain ⟨hprintable,rfl⟩ := Json.dumps_ok.mp hdumps
  split at h
  · cases h
  · next bytes hbytes =>
    obtain ⟨signature,hsign,h⟩ := bind_eq_ok.mp h
    obtain rfl := Except.ok.inj h
    refine ⟨_,_,rfl,dot_not_mem_encoding _,hsign,?_⟩
    rw [readPayload_encode hbytes]
    have hfit := Json.printable_dict.mp hprintable
    simp only [List.forall_mem_cons,Json.Printable,Json.every_int,Json.DigitsFit] at hfit
    exact Loaded.loadsAny_pair _ _ hfit.1.2 hfit.2.1.2

theorem Parts.split {userId now : Int} {token encodedPayload signature : Text}
    (h : Parts p userId now token encodedPayload signature) :
    splitOnce (ofChar '.') token = some (encodedPayload,signature) := by
  rw [h.token]
  exact splitOnce_append h.noDot

theorem acceptPayload_issued (userId expiry now : Int) :
    acceptPayload p (.dict [(text "sub",.int userId),(text "exp",.int expiry)]) now =
      .ok (if expiry ≤ timestampSeconds now then none else some userId) := by
  have hexp : expiryOf p (.dict [(text "sub",.int userId),(text "exp",.int expiry)]) = .ok expiry := rfl
  have hsub : subjectOf p (.dict [(text "sub",.int userId),(text "exp",.int expiry)]) = .ok userId := rfl
  unfold acceptPayload
  rw [hexp,hsub]
  change (if expiry ≤ timestampSeconds now then Except.ok none else Except.ok (some userId)) = _
  split_ifs <;> rfl

theorem verifySessionToken_split {token encodedPayload signature expected : Text} {now : Int}
    (hsplit : splitOnce (ofChar '.') token = some (encodedPayload,signature))
    (hsign : sign p encodedPayload = .ok expected) (hascii : isAscii signature = true) :
    verifySessionToken p token now = if signature = expected then
      match readPayload p encodedPayload with
      | none => .ok none
      | some payload => acceptPayload p payload now
    else .ok none := by
  have hsame : compareDigest signature expected = .ok (decide (signature = expected)) := by
    rw [compareDigest,hascii,(sign_ok hsign).2]
    rfl
  rw [verifySessionToken,hsplit]
  dsimp only
  rw [hsign]
  change (compareDigest signature expected).bind _ = _
  rw [hsame]
  by_cases h : signature = expected
  · simp only [h,decide_true]
    rfl
  · simp only [h,decide_false,if_false]
    rfl

/-- An issued token is good while the second of the clock is before its last. -/
theorem verify_issued {userId issuedAt now : Int} {token encodedPayload signature : Text}
    (h : Parts p userId issuedAt token encodedPayload signature) :
    verifySessionToken p token now =
      .ok (if expirySecond p issuedAt ≤ timestampSeconds now then none else some userId) := by
  rw [verifySessionToken_split h.split h.signed (sign_ok h.signed).2,if_pos rfl,h.payload]
  exact acceptPayload_issued userId _ now

/-! ## Other texts -/

/-- The token was issued to someone. -/
def Issued (p : TokenPlatform) (issued : List (Int × Int)) (token : Text) : Prop :=
  ∃ i ∈ issued, createSessionToken p i.1 i.2 = .ok token

/-- No one has made up the signature of a payload: a token with the right one was issued. -/
def Unforgeable (p : TokenPlatform) (issued : List (Int × Int)) (token : Text) : Prop :=
  ∀ encodedPayload signature, splitOnce (ofChar '.') token = some (encodedPayload,signature) →
    sign p encodedPayload = .ok signature → Issued p issued token

/-- An issued token lets its user in before its last second, and any other text lets no one in. -/
structure TokenDecided (p : TokenPlatform) (issued : List (Int × Int)) (token : Text) (now : Int) : Prop where
  accepted : ∀ i ∈ issued, createSessionToken p i.1 i.2 = .ok token → verifySessionToken p token now =
    .ok (if now < expirySecond p i.2*1000000 then some i.1 else none)
  other : ¬Issued p issued token → verifySessionToken p token now = .ok none

/-- Both parts are ASCII, and the second of the clock as a float is on the side of the end that the clock is on. -/
structure TokenHandled (p : TokenPlatform) (issued : List (Int × Int)) (token : Text) (now : Int) : Prop where
  ascii : ∀ encodedPayload signature, splitOnce (ofChar '.') token = some (encodedPayload,signature) →
    isAscii encodedPayload = true ∧ isAscii signature = true
  clock : ∀ i ∈ issued, createSessionToken p i.1 i.2 = .ok token →
    (expirySecond p i.2 ≤ timestampSeconds now ↔ expirySecond p i.2*1000000 ≤ now)

section checks

variable {issued : List (Int × Int)} {token : Text} {now : Int}

theorem verify_not_ascii {encodedPayload signature : Text}
    (hsplit : splitOnce (ofChar '.') token = some (encodedPayload,signature))
    (hascii : ¬(isAscii encodedPayload = true ∧ isAscii signature = true)) (answer : Option Int) :
    verifySessionToken p token now ≠ .ok answer := by
  intro h
  rw [verifySessionToken,hsplit] at h
  obtain ⟨expected,hsign,h⟩ := bind_eq_ok.mp h
  obtain ⟨same,hsame,h⟩ := bind_eq_ok.mp h
  apply hascii
  refine ⟨(sign_ok hsign).1,?_⟩
  unfold compareDigest at hsame
  split_ifs at hsame with hboth
  exact (Bool.and_eq_true_iff.mp hboth).1

theorem verify_other (unforgeable : Unforgeable p issued token) (hother : ¬Issued p issued token)
    (hascii : ∀ encodedPayload signature, splitOnce (ofChar '.') token = some (encodedPayload,signature) →
      isAscii encodedPayload = true ∧ isAscii signature = true) : verifySessionToken p token now = .ok none := by
  cases hsplit : splitOnce (ofChar '.') token with
  | none => simp [verifySessionToken,hsplit]
  | some parts =>
    obtain ⟨encodedPayload,signature⟩ := parts
    obtain ⟨hencoded,hsignature⟩ := hascii _ _ hsplit
    obtain ⟨expected,hsign⟩ : ∃ expected, sign p encodedPayload = .ok expected := ⟨_,if_pos hencoded⟩
    rw [verifySessionToken_split hsplit hsign hsignature]
    apply if_neg
    rintro rfl
    exact hother (unforgeable _ _ hsplit hsign)

/-- A token is decided as it should be exactly when it is ASCII and the clock is not rounded over its end. -/
theorem tokenDecided_iff (unforgeable : Unforgeable p issued token) :
    TokenDecided p issued token now ↔ TokenHandled p issued token now := by
  constructor
  · intro h
    refine ⟨?_,?_⟩
    · intro encodedPayload signature hsplit
      by_contra hascii
      by_cases hissued : Issued p issued token
      · obtain ⟨i,hi,hcreate⟩ := hissued
        exact verify_not_ascii hsplit hascii _ (h.accepted i hi hcreate)
      · exact verify_not_ascii hsplit hascii _ (h.other hissued)
    · intro i hi hcreate
      obtain ⟨_,_,hparts⟩ := createSessionToken_ok hcreate
      have hverify := h.accepted i hi hcreate
      rw [verify_issued hparts,Except.ok.injEq] at hverify
      by_cases hended : expirySecond p i.2 ≤ timestampSeconds now <;>
        by_cases hbefore : now < expirySecond p i.2*1000000
      · rw [if_pos hended,if_pos hbefore] at hverify
        cases hverify
      · exact ⟨fun _ => not_lt.mp hbefore,fun _ => hended⟩
      · exact ⟨fun h => absurd h hended,fun h => absurd hbefore (not_lt.mpr h)⟩
      · rw [if_neg hended,if_neg hbefore] at hverify
        cases hverify
  · intro h
    refine ⟨?_,fun hother => verify_other unforgeable hother h.ascii⟩
    intro i hi hcreate
    obtain ⟨_,_,hparts⟩ := createSessionToken_ok hcreate
    have hclock := h.clock i hi hcreate
    rw [verify_issued hparts,Except.ok.injEq]
    split_ifs <;> first | rfl | omega

/-- Between 1970 and 2514 no clock is rounded over the end of a token. -/
theorem clock_of_present {expiry : Int} (h : 0 ≤ now) (hlt : now < 2^34*1000000) :
    expiry ≤ timestampSeconds now ↔ expiry*1000000 ≤ now := by
  rw [timestampSeconds_eq h hlt]
  omega

/-! ## Repeated tokens -/

/-- The request is let through unread, or lacks a token, or both of its tokens are ASCII. -/
def CsrfHandled (request : CsrfRequest) : Prop :=
  request.method ∈ safeMethods ∨ ∀ cookieToken ∈ request.cookieToken, ∀ headerToken ∈ request.headerToken,
    cookieToken = [] ∨ headerToken = [] ∨ (isAscii cookieToken = true ∧ isAscii headerToken = true)

theorem verifyCsrfToken_ok_iff (request : CsrfRequest) :
    (∃ b, verifyCsrfToken request = .ok b) ↔ CsrfHandled request := by
  unfold verifyCsrfToken CsrfHandled
  split_ifs with hmethod
  · simp [hmethod]
  · cases request.cookieToken with
    | none => simp
    | some cookieToken =>
      cases request.headerToken with
      | none => simp
      | some headerToken =>
        simp only [Option.mem_def,Option.some.injEq,forall_eq',hmethod,false_or]
        split_ifs with hempty
        · simp only [Except.ok.injEq,exists_eq',true_iff]
          rcases hempty with h | h
          · exact Or.inl h
          · exact Or.inr (Or.inl h)
        · rw [not_or] at hempty
          simp only [hempty.1,hempty.2,false_or,compareDigest]
          split_ifs with hboth
          · simpa using hboth
          · simpa using hboth

/-- Session tokens and repeated tokens are decided without an error exactly where they are ASCII. -/
theorem tokens_decided_iff (unforgeable : Unforgeable p issued token) (request : CsrfRequest) :
    (TokenDecided p issued token now ↔ TokenHandled p issued token now) ∧
      ((∃ b, verifyCsrfToken request = .ok b) ↔ CsrfHandled request) :=
  ⟨tokenDecided_iff unforgeable,verifyCsrfToken_ok_iff request⟩

end checks

/-! ## Samples -/

/-- A secret under which every signature is the same. -/
def constantPlatform : TokenPlatform where
  secret := ⟨#[1]⟩
  ttlSeconds := 60
  digest _ _ := [0]
  maxStrDigits := 4300
  truncFloat _ := .error .valueError

/-- The token of user 7 of the first second. -/
def firstToken : Text := (createSessionToken constantPlatform 7 0).toOption.getD []

theorem firstToken_created : createSessionToken constantPlatform 7 0 = .ok firstToken := by
  have hok : (createSessionToken constantPlatform 7 0).toOption.isSome = true := by decide +kernel
  unfold firstToken
  cases h : createSessionToken constantPlatform 7 0 with
  | ok token => rfl
  | error e =>
    rw [h] at hok
    cases hok

def postRequest (cookieToken headerToken : String) : CsrfRequest :=
  ⟨text "POST",some (text cookieToken),some (text headerToken)⟩

theorem tokens_decided_iff_sample :
    (TokenDecided constantPlatform [(7,0)] firstToken 59000000 ↔
      TokenHandled constantPlatform [(7,0)] firstToken 59000000) ∧
    ((∃ b, verifyCsrfToken (postRequest "a" "a") = .ok b) ↔ CsrfHandled (postRequest "a" "a")) :=
  tokens_decided_iff (fun _ _ _ _ => ⟨(7,0),List.mem_singleton.mpr rfl,firstToken_created⟩) _

/-- A character that is not ASCII raises in each of the two parts, and in a token that is repeated. -/
theorem tokens_raise : Unforgeable constantPlatform [] (text "é.x") ∧
    verifySessionToken constantPlatform (text "é.x") 0 = .error .unicodeEncodeError ∧
    verifySessionToken constantPlatform (text "x.é") 0 = .error .typeError ∧
    ¬TokenDecided constantPlatform [] (text "é.x") 0 ∧
    ¬∃ b, verifyCsrfToken (postRequest "é" "é") = .ok b := by
  have hverify : verifySessionToken constantPlatform (text "é.x") 0 = .error .unicodeEncodeError := by decide +kernel
  refine ⟨?_,hverify,by decide +kernel,?_,?_⟩
  · intro encodedPayload signature hsplit hsign
    have hparts : splitOnce (ofChar '.') (text "é.x") = some (text "é",text "x") := by decide +kernel
    rw [hparts,Option.some.injEq,Prod.mk.injEq] at hsplit
    rw [← hsplit.1] at hsign
    exact absurd (sign_ok hsign).1 (by decide +kernel)
  · intro h
    have hnone := h.other fun ⟨_,hi,_⟩ => List.not_mem_nil hi
    rw [hverify] at hnone
    cases hnone
  · rintro ⟨b,hb⟩
    have hcsrf : verifyCsrfToken (postRequest "é" "é") = .error .typeError := by decide +kernel
    rw [hcsrf] at hb
    cases hb

end ParaWorks.Sessions
