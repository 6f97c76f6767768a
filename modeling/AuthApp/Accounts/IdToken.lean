import AuthApp.Accounts.Verified

/-!
# Accounts — the id_token

What `validateIdToken` accepts, against the token it is meant to accept: three parts, claims that
name the flow and the client, and an expiry that is still to come.  The expiry is read when it is
there, and only the second part of the token is looked at.

* `validateIdToken_eq_ok_iff`: what the code accepts.
* `validated_iff`: when that is what it is meant to accept.
* `exchangeCode_eq_ok_iff`: the identity of an exchange is that of its userinfo response.
* `stranger_paired`: an id_token about one subject, and the identity of another.
-/

namespace AuthApp.Accounts.OidcProvider

variable {ι : Type} {E : OidcPorts ι} {config : OidcConfig} {idToken expectedNonce : String}
  {now : Int}

/-! ### What an id_token says -/

/-- The tree in the second part of the token. -/
def payload (E : OidcPorts ι) (idToken : String) : Option Json := do
  let part ← (idToken.toList.splitOn '.')[1]?
  let bytes ← (E.base64Decode (.ofList part)).toOption
  E.parseSlice bytes

def claimsOf (E : OidcPorts ι) (idToken : String) : Option IdTokenClaims :=
  (payload E idToken).bind IdTokenClaims.decode

/-- The subject the token is about. -/
def subjectOf (E : OidcPorts ι) (idToken : String) : Option String := do
  match ← payload E idToken with
  | .object fields => (← Json.field? "sub" fields).bind Json.string?
  | _ => none

/-- The token is a JWT: a header, a payload and a signature. -/
def ThreeParts (idToken : String) : Prop := (idToken.toList.splitOn '.').length = 3

/-- The claims are made for this flow, by this issuer, and for this client. -/
structure MadeFor (config : OidcConfig) (expectedNonce : String) (claims : IdTokenClaims) :
    Prop where
  nonce : claims.nonce = some expectedNonce
  iss : claims.iss = config.issuer
  aud : claims.aud.contains config.clientId = true

/-- The token is a JWT, is made for this flow and this client, and expires later than now. -/
def ValidIdToken (E : OidcPorts ι) (config : OidcConfig) (idToken expectedNonce : String)
    (now : Int) : Prop :=
  ThreeParts idToken ∧ ∃ claims, claimsOf E idToken = some claims ∧
    MadeFor config expectedNonce claims ∧
      ∃ exp, claims.exp = some exp ∧ now < exp * nanosPerSec

/-! ### What is accepted -/

/-- The second that an expiry is compared with. -/
def nowSecs (now : Int) : Int := (toEpoch now).getD 0

/-- A token is accepted when its claims are made for the flow and any expiry it has is to come. -/
theorem validateIdToken_eq_ok_iff :
    validateIdToken E config idToken expectedNonce now = .ok () ↔
      ∃ claims, claimsOf E idToken = some claims ∧ MadeFor config expectedNonce claims ∧
        ∀ exp, claims.exp = some exp → nowSecs now < exp := by
  rw [validateIdToken, claimsOf, payload]
  cases (idToken.toList.splitOn '.')[1]? with
  | none => simp
  | some part =>
      dsimp only [Option.bind_eq_bind, Option.bind_some]
      cases E.base64Decode (.ofList part) with
      | error e => simp [Except.toOption]
      | ok bytes =>
          simp only [Except.toOption, Option.bind_some, fromSlice]
          cases (E.parseSlice bytes).bind IdTokenClaims.decode with
          | none => simp
          | some claims =>
              simp only [Option.some.injEq, exists_eq_left']
              by_cases hnonce : claims.nonce = some expectedNonce
              · by_cases hiss : claims.iss = config.issuer
                · by_cases haud : claims.aud.contains config.clientId = true
                  · rw [if_neg (not_not.mpr hnonce), if_neg (not_not.mpr hiss), if_pos haud,
                      and_iff_right (MadeFor.mk hnonce hiss haud)]
                    cases claims.exp with
                    | none => exact iff_of_true rfl (fun exp heq => by cases heq)
                    | some exp => simp [nowSecs]
                  · rw [if_neg (not_not.mpr hnonce), if_neg (not_not.mpr hiss), if_neg haud]
                    exact iff_of_false (fun heq => by cases heq) fun hfor => haud hfor.1.aud
                · rw [if_neg (not_not.mpr hnonce), if_pos hiss]
                  exact iff_of_false (fun heq => by cases heq) fun hfor => hiss hfor.1.iss
              · rw [if_pos hnonce]
                exact iff_of_false (fun heq => by cases heq) fun hfor => hnonce hfor.1.nonce

/-- The comparison in whole seconds is the one of the instants, unless the clock is before 1970
and the expiry between it and 1970. -/
theorem nowSecs_lt_iff {exp : Int} : (nowSecs now < exp ↔ now < exp * nanosPerSec) ↔
    0 ≤ now ∨ 0 < exp ∨ exp * nanosPerSec ≤ now := by
  rw [nowSecs, toEpoch]
  by_cases hnow : 0 ≤ now
  · rw [if_pos hnow, Option.getD_some]
    refine iff_of_true ?_ (.inl hnow)
    simp only [nanosPerSec]
    omega
  · rw [if_neg hnow, Option.getD_none]
    simp only [nanosPerSec]
    omega

theorem validIdToken_iff {claims : IdTokenClaims} (h : claimsOf E idToken = some claims) :
    ValidIdToken E config idToken expectedNonce now ↔ ThreeParts idToken ∧
      MadeFor config expectedNonce claims ∧
        ∃ exp, claims.exp = some exp ∧ now < exp * nanosPerSec := by
  simp only [ValidIdToken, h, Option.some.injEq, exists_eq_left']

/-- **The id_token.** A token is accepted exactly when it is valid, if and only if its claims,
where they are made for the flow, have an expiry, and it has three parts or has expired, and the
clock is not before 1970 in a way that tells. -/
theorem validated_iff (E : OidcPorts ι) (config : OidcConfig) (idToken expectedNonce : String)
    (now : Int) :
    (validateIdToken E config idToken expectedNonce now = .ok () ↔
        ValidIdToken E config idToken expectedNonce now) ↔
      ∀ claims, claimsOf E idToken = some claims → MadeFor config expectedNonce claims →
        ∃ exp, claims.exp = some exp ∧ (ThreeParts idToken ∨ exp ≤ nowSecs now) ∧
          (ThreeParts idToken → 0 ≤ now ∨ 0 < exp ∨ exp * nanosPerSec ≤ now) := by
  rw [validateIdToken_eq_ok_iff]
  cases hclaims : claimsOf E idToken with
  | none => simp [ValidIdToken, hclaims]
  | some claims =>
      simp only [validIdToken_iff hclaims, Option.some.injEq, exists_eq_left', forall_eq']
      by_cases hfor : MadeFor config expectedNonce claims
      · cases claims.exp with
        | none => simp [hfor]
        | some exp =>
            simp only [hfor, true_and, forall_const, Option.some.injEq, forall_eq', exists_eq_left']
            by_cases hthree : ThreeParts idToken
            · simpa [hthree] using nowSecs_lt_iff
            · simp [hthree]
      · simp [hfor]

/-! ### Whose identity -/

theorem redeem_eq_ok_iff {request : ExchangeRequest} {world world' : ι} {token : TokenResponse} :
    redeem E config request world = (.ok token, world') ↔
      ∃ response, E.postForm config.tokenEndpoint (form config request) none world =
          (.ok response, world') ∧ response.isSuccess = true ∧
        (E.parseStr response.body).bind TokenResponse.decode = some token := by
  rw [redeem]
  rcases E.postForm config.tokenEndpoint (form config request) none world with ⟨e | response, w⟩
  · simp
  · simp only [Prod.mk.injEq, Except.ok.injEq, and_assoc, exists_eq_left', fromStr]
    cases response.isSuccess with
    | false => simp
    | true =>
        cases (E.parseStr response.body).bind TokenResponse.decode with
        | none => simp
        | some token' => simp [and_comm]

theorem fetchUserinfo_eq_ok_iff {request : ExchangeRequest} {world world' : ι} {body : String} :
    fetchUserinfo E config request world = (.ok body, world') ↔
      ∃ token world₁ response, redeem E config request world = (.ok token, world₁) ∧
        validateIdToken E config token.idToken request.expectedNonce (E.systemTime world₁) =
          .ok () ∧
        E.getBearer config.userinfoEndpoint token.accessToken world₁ = (.ok response, world') ∧
        response.isSuccess = true ∧ response.body = body := by
  rw [fetchUserinfo]
  rcases redeem E config request world with ⟨e | token, w⟩
  · simp
  · simp only [Prod.mk.injEq, Except.ok.injEq, and_assoc, exists_eq_left', exists_and_left]
    cases validateIdToken E config token.idToken request.expectedNonce (E.systemTime w) with
    | error e => simp
    | ok u =>
        rcases E.getBearer config.userinfoEndpoint token.accessToken w with ⟨e | response, w'⟩
        · simp
        · simp only [Prod.mk.injEq, Except.ok.injEq, true_and, and_assoc, exists_eq_left']
          cases response.isSuccess with
          | false => simp
          | true => simp [and_comm]

/-- The identity is read off the userinfo that was fetched. -/
theorem exchangeCode_of_fetched {request : ExchangeRequest} {world world' : ι} {body : String}
    {info : UserInfo} (hfetch : fetchUserinfo E config request world = (.ok body, world'))
    (hinfo : (E.parseStr body).bind UserInfo.decode = some info) :
    exchangeCode E config request world =
      (.ok ⟨config.providerId, info.sub, info.email⟩, world') := by
  rw [exchangeCode, hfetch]
  dsimp only [fromStr]
  rw [hinfo]

/-- **The identity.** An exchange comes to an identity exactly when the token endpoint answers an
id_token that is accepted, and the userinfo endpoint answers the access token that came with it;
the subject and the email are those of that last answer. -/
theorem exchangeCode_eq_ok_iff (E : OidcPorts ι) (config : OidcConfig) (request : ExchangeRequest)
    (world world' : ι) (identity : OAuthIdentity) :
    exchangeCode E config request world = (.ok identity, world') ↔
      ∃ token world₁ response info, redeem E config request world = (.ok token, world₁) ∧
        validateIdToken E config token.idToken request.expectedNonce (E.systemTime world₁) =
          .ok () ∧
        E.getBearer config.userinfoEndpoint token.accessToken world₁ = (.ok response, world') ∧
        response.isSuccess = true ∧
        (E.parseStr response.body).bind UserInfo.decode = some info ∧
        identity = ⟨config.providerId, info.sub, info.email⟩ := by
  constructor
  · intro h
    rw [exchangeCode] at h
    rcases hrun : fetchUserinfo E config request world with ⟨e | body, w⟩
    · rw [hrun] at h
      cases h
    · rw [hrun] at h
      dsimp only [fromStr] at h
      cases hinfo : (E.parseStr body).bind UserInfo.decode with
      | none => rw [hinfo] at h; cases h
      | some info =>
          rw [hinfo] at h
          cases h
          obtain ⟨token, w₁, response, hredeem, hvalid, hget, hsuccess, rfl⟩ :=
            fetchUserinfo_eq_ok_iff.mp hrun
          exact ⟨token, w₁, response, info, hredeem, hvalid, hget, hsuccess, hinfo, rfl⟩
  · rintro ⟨token, w₁, response, info, hredeem, hvalid, hget, hsuccess, hinfo, rfl⟩
    have hfetch := fetchUserinfo_eq_ok_iff.mpr
      ⟨token, w₁, response, hredeem, hvalid, hget, hsuccess, rfl⟩
    exact exchangeCode_of_fetched hfetch hinfo

end AuthApp.Accounts.OidcProvider

/-! ### Two tokens -/

namespace AuthApp.Accounts
open OidcProvider

theorem claimsOf_google : claimsOf googlePorts idToken =
    some ⟨"https://accounts.example.com", .one "client-123", some "n", none⟩ := by
  have hbytes : googlePorts.base64Decode claimsPayload = .ok claimsBytes := by simp [googlePorts]
  have hjson : googlePorts.parseSlice claimsBytes = some claimsJson := by simp [googlePorts]
  rw [claimsOf, payload, payload_idToken, Option.bind_eq_bind, Option.bind_some,
    String.ofList_toList, hbytes]
  exact congrArg (Option.bind · IdTokenClaims.decode) hjson

/-- A token without an expiry is accepted, and is not valid. -/
theorem noExpiry_accepted :
    validateIdToken googlePorts googleConfig idToken "n" 0 = .ok () ∧
      ¬ ValidIdToken googlePorts googleConfig idToken "n" 0 := by
  refine ⟨validateIdToken_eq_ok_iff.mpr ⟨_, claimsOf_google, ⟨rfl, rfl, by decide⟩, ?_⟩, ?_⟩
  · intro exp heq
    cases heq
  · intro h
    obtain ⟨-, -, exp, heq, -⟩ := (validIdToken_iff claimsOf_google).mp h
    cases heq

def alicePayload : String :=
  "eyJpc3MiOiJodHRwczovL2FjY291bnRzLmV4YW1wbGUuY29tIiwiYXVkIjoiY2xpZW50LTEyMyIsIm5vbmNlIjoibiIs" ++
    "ImV4cCI6OTk5OTk5OTk5OSwic3ViIjoiYWxpY2UifQ"

def aliceBytes : ByteArray :=
  ("\x7b\"iss\":\"https://accounts.example.com\",\"aud\":\"client-123\",\"nonce\":\"n\"," ++
    "\"exp\":9999999999,\"sub\":\"alice\"\x7d").toUTF8

def aliceJson : Json := .object
  [("iss", .string "https://accounts.example.com"), ("aud", .string "client-123"),
    ("nonce", .string "n"), ("exp", .int 9999999999), ("sub", .string "alice")]

def aliceToken : String := "eyJhbGciOiJub25lIn0." ++ alicePayload ++ ".sig"

/-- The access token that comes with it is of another user. -/
def aliceTokenBody : String :=
  "\x7b\"access_token\":\"mallory-at\",\"id_token\":\"" ++ aliceToken ++ "\"\x7d"

def aliceTokenJson : Json := .object
  [("access_token", .string "mallory-at"), ("id_token", .string aliceToken)]

def malloryBody : String := "\x7b\"sub\":\"mallory\",\"email\":\"mallory@example.com\"\x7d"

def malloryJson : Json := .object
  [("sub", .string "mallory"), ("email", .string "mallory@example.com")]

def alicePorts : OidcPorts Unit where
  postForm _ _ _ world := (.ok ⟨200, aliceTokenBody⟩, world)
  getBearer _ _ world := (.ok ⟨200, malloryBody⟩, world)
  systemTime _ := 0
  base64Decode s := if s = alicePayload then .ok aliceBytes else .error "Invalid padding"
  parseStr s :=
    if s = malloryBody then some malloryJson
    else if s = aliceTokenBody then some aliceTokenJson
    else none
  parseSlice bytes := if bytes.data = aliceBytes.data then some aliceJson else none
  strError _ _ := "expected value at line 1 column 1"
  sliceError _ _ := "expected value at line 1 column 1"

theorem payload_alice : payload alicePorts aliceToken = some aliceJson := by
  have hpayload : (aliceToken.toList.splitOn '.')[1]? = some alicePayload.toList :=
    middle_part toList_header (by decide +kernel) (by decide +kernel)
  have hbytes : alicePorts.base64Decode alicePayload = .ok aliceBytes := by simp [alicePorts]
  rw [payload, hpayload, Option.bind_eq_bind, Option.bind_some, String.ofList_toList, hbytes]
  simp [alicePorts, Except.toOption]

/-- An id_token about one subject is accepted, and the identity is another's. -/
theorem stranger_paired :
    redeem alicePorts googleConfig ⟨"c", "v", "https://admin.example.com", "n"⟩ () =
        (.ok ⟨"mallory-at", aliceToken⟩, ()) ∧
      validateIdToken alicePorts googleConfig aliceToken "n" 0 = .ok () ∧
      subjectOf alicePorts aliceToken = some "alice" ∧
      exchangeCode alicePorts googleConfig ⟨"c", "v", "https://admin.example.com", "n"⟩ () =
        (.ok ⟨google, "mallory", "mallory@example.com"⟩, ()) := by
  have hne : aliceTokenBody ≠ malloryBody := by decide +kernel
  have hredeem : redeem alicePorts googleConfig ⟨"c", "v", "https://admin.example.com", "n"⟩ () =
      (.ok ⟨"mallory-at", aliceToken⟩, ()) :=
    redeem_eq_ok_iff.mpr ⟨⟨200, aliceTokenBody⟩, rfl, by decide, by simp [alicePorts, hne]; rfl⟩
  have hvalid : validateIdToken alicePorts googleConfig aliceToken "n" 0 = .ok () := by
    refine validateIdToken_eq_ok_iff.mpr ⟨⟨"https://accounts.example.com", .one "client-123",
      some "n", some 9999999999⟩, ?_, ⟨rfl, rfl, by decide⟩, ?_⟩
    · rw [claimsOf, payload_alice]
      rfl
    · intro exp heq
      cases heq
      decide
  have hsubject : subjectOf alicePorts aliceToken = some "alice" := by
    rw [subjectOf, payload_alice]
    rfl
  have hinfo : (alicePorts.parseStr malloryBody).bind UserInfo.decode =
      some ⟨"mallory", "mallory@example.com"⟩ := by
    rw [show alicePorts.parseStr malloryBody = some malloryJson by simp [alicePorts]]
    rfl
  have hfetch := fetchUserinfo_eq_ok_iff.mpr
    ⟨_, _, ⟨200, malloryBody⟩, hredeem, hvalid, rfl, by decide, rfl⟩
  exact ⟨hredeem, hvalid, hsubject, exchangeCode_of_fetched hfetch hinfo⟩

end AuthApp.Accounts
