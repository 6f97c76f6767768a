import AuthApp.Accounts.Oauth
import AuthApp.Accounts.Wire

/-!
# Accounts — the OIDC adapter

`OidcProvider::exchange_code`: the code is redeemed at the token endpoint, the claims of the
id_token are validated, and the identity is what the userinfo endpoint answers.

The transport, the wall clock and the crates that decode base64 and JSON are parameters.  What a
derived `Deserialize` makes of a JSON tree is `decode`.
-/

namespace AuthApp.Accounts

/-! ### What is read of a response -/

/-- A structure of two strings: an object with both fields, or an array of the two. -/
def decodePair (first second : String) : Json → Option (String × String)
  | .object fields => do
      let a ← Json.field? first fields
      let b ← Json.field? second fields
      return (← a.bind Json.string?, ← b.bind Json.string?)
  | .array [a, b] => do return (← a.string?, ← b.string?)
  | _ => none

structure TokenResponse where
  accessToken : String
  idToken : String
  deriving DecidableEq, Repr

def TokenResponse.decode (j : Json) : Option TokenResponse :=
  (decodePair "access_token" "id_token" j).map fun p => ⟨p.1, p.2⟩

/-- What is read of a userinfo response. -/
structure UserInfo where
  sub : String
  email : String
  deriving DecidableEq, Repr

def UserInfo.decode (j : Json) : Option UserInfo :=
  (decodePair "sub" "email" j).map fun p => ⟨p.1, p.2⟩

/-- `aud` may be a single string or an array of strings. -/
inductive Audience where
  | one (s : String)
  | many (v : List String)
  | none
  deriving DecidableEq, Repr

namespace Audience

def contains : Audience → String → Bool
  | .one s, value => s == value
  | .many v, value => v.any fun s => s == value
  | .none, _ => false

def decode : Json → Option Audience
  | .string s => some (.one s)
  | .array items => (items.mapM Json.string?).map .many
  | .null => some .none
  | _ => Option.none

end Audience

structure IdTokenClaims where
  iss : String
  aud : Audience
  nonce : Option String
  exp : Option Int
  deriving DecidableEq, Repr

namespace IdTokenClaims

/-- The claims, from the values that are given; all but the issuer have a default. -/
def ofValues (iss aud nonce exp : Option Json) : Option IdTokenClaims := do
  let iss ← iss.bind Json.string?
  let aud ← (aud.map Audience.decode).getD (some .none)
  let nonce ← (nonce.map (Json.optional Json.string?)).getD (some none)
  let exp ← (exp.map (Json.optional Json.i64?)).getD (some none)
  return ⟨iss, aud, nonce, exp⟩

def decode : Json → Option IdTokenClaims
  | .object fields => do
      let iss ← Json.field? "iss" fields
      let aud ← Json.field? "aud" fields
      let nonce ← Json.field? "nonce" fields
      let exp ← Json.field? "exp" fields
      ofValues iss aud nonce exp
  | .array items =>
      if items.length ≤ 4 then ofValues items[0]? items[1]? items[2]? items[3]? else none
  | _ => none

end IdTokenClaims

/-! ### What the adapter is built on -/

/-- The `HttpClient` port, the wall clock, and the decoders of the `base64` and `serde_json`
crates; `ι` is the state of the world outside. -/
structure OidcPorts (ι : Type) where
  postForm : String → List (String × String) → Option String → ι → Except HttpError HttpResponse × ι
  getBearer : String → String → ι → Except HttpError HttpResponse × ι
  /-- `SystemTime::now`, in nanoseconds since the epoch. -/
  systemTime : ι → Int
  /-- Base64 for URLs, without padding. -/
  base64Decode : String → Except String ByteArray
  parseStr : String → Option Json
  parseSlice : ByteArray → Option Json
  /-- What `serde_json` says of a text that is not of the type with the given name. -/
  strError : String → String → String
  sliceError : String → ByteArray → String

/-- The configuration of one provider. -/
structure OidcConfig where
  providerId : ProviderId
  clientId : String
  clientSecret : String
  tokenEndpoint : String
  userinfoEndpoint : String
  issuer : String
  deriving DecidableEq

namespace OidcProvider
variable {ι : Type} (E : OidcPorts ι) (config : OidcConfig)

/-! ### The exchange -/

/-- `serde_json::from_str`, for a type that is read off a tree by `decode`. -/
def fromStr {α : Type} (target : String) (decode : Json → Option α) (body : String) :
    Except String α :=
  match (E.parseStr body).bind decode with
  | some a => .ok a
  | none => .error (E.strError target body)

/-- `serde_json::from_slice`. -/
def fromSlice {α : Type} (target : String) (decode : Json → Option α) (bytes : ByteArray) :
    Except String α :=
  match (E.parseSlice bytes).bind decode with
  | some a => .ok a
  | none => .error (E.sliceError target bytes)

/-- Decode the payload of the id_token, and validate `nonce`, `iss`, `aud` and `exp`. -/
def validateIdToken (idToken expectedNonce : String) (now : Int) : Except OAuthError Unit :=
  match (idToken.toList.splitOn '.')[1]? with
  | none => .error (.exchangeRejected "id_token is not a JWT")
  | some payload =>
      match E.base64Decode (.ofList payload) with
      | .error e => .error (.exchangeRejected ("id_token payload: " ++ e))
      | .ok bytes =>
          match fromSlice E "IdTokenClaims" IdTokenClaims.decode bytes with
          | .error e => .error (.exchangeRejected ("id_token claims: " ++ e))
          | .ok claims =>
              if claims.nonce ≠ some expectedNonce then
                .error (.exchangeRejected "id_token nonce mismatch")
              else if claims.iss ≠ config.issuer then
                .error (.exchangeRejected "id_token issuer mismatch")
              else if claims.aud.contains config.clientId then
                match claims.exp with
                | none => .ok ()
                | some exp =>
                    if exp ≤ (toEpoch now).getD 0 then
                      .error (.exchangeRejected "id_token has expired")
                    else .ok ()
              else .error (.exchangeRejected "id_token audience mismatch")

/-- The form that redeems a code. -/
def form (request : ExchangeRequest) : List (String × String) :=
  [("grant_type", "authorization_code"),
    ("code", request.code),
    ("redirect_uri", request.redirectUri),
    ("client_id", config.clientId),
    ("client_secret", config.clientSecret),
    ("code_verifier", request.codeVerifier)]

/-- Redeem the code, with the PKCE verifier, at the token endpoint. -/
def redeem (request : ExchangeRequest) (world : ι) : Except OAuthError TokenResponse × ι :=
  match E.postForm config.tokenEndpoint (form config request) none world with
  | (.error e, world) => (.error (.provider e.display), world)
  | (.ok response, world) =>
      if response.isSuccess then
        match fromStr E "TokenResponse" TokenResponse.decode response.body with
        | .error e => (.error (.provider ("token response: " ++ e)), world)
        | .ok token => (.ok token, world)
      else
        (.error (.exchangeRejected ("token endpoint returned " ++ toString response.status)), world)

/-- The body that the userinfo endpoint answers a code with, once its id_token is validated. -/
def fetchUserinfo (request : ExchangeRequest) (world : ι) : Except OAuthError String × ι :=
  match redeem E config request world with
  | (.error e, world) => (.error e, world)
  | (.ok token, world) =>
      match validateIdToken E config token.idToken request.expectedNonce (E.systemTime world) with
      | .error e => (.error e, world)
      | .ok () =>
          match E.getBearer config.userinfoEndpoint token.accessToken world with
          | (.error e, world) => (.error (.provider e.display), world)
          | (.ok response, world) =>
              if response.isSuccess then (.ok response.body, world)
              else
                (.error (.provider ("userinfo endpoint returned " ++ toString response.status)),
                  world)

/-- Exchange a code for the identity that the userinfo endpoint reports. -/
def exchangeCode (request : ExchangeRequest) (world : ι) : Except OAuthError OAuthIdentity × ι :=
  match fetchUserinfo E config request world with
  | (.error e, world) => (.error e, world)
  | (.ok body, world) =>
      match fromStr E "UserInfo" UserInfo.decode body with
      | .error e => (.error (.provider ("userinfo response: " ++ e)), world)
      | .ok info => (.ok ⟨config.providerId, info.sub, info.email⟩, world)

/-- The provider that is registered under an id: of two with one id, the later. -/
def named (configs : List OidcConfig) (id : ProviderId) : Option OidcConfig :=
  configs.reverse.find? fun config => config.providerId = id

/-- The registry of the configured providers. -/
def registry (configs : List OidcConfig) : OAuthProviders ι where
  registered id := (named configs id).isSome
  exchangeCode id request world :=
    match named configs id with
    | some config => exchangeCode E config request world
    | none => (.error (.config ("unknown provider " ++ id.name)), world)

end OidcProvider

end AuthApp.Accounts
