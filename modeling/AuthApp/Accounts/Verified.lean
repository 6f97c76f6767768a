import AuthApp.Accounts.Callback
import AuthApp.Accounts.Oidc
import AuthApp.Text.Separated

/-!
# Accounts — verified emails

The adapter reads the subject and the email of a userinfo response, and no more of it, so an email
that the provider has not verified opens an account as a verified one does.

* `Answered.run_eq`: a callback whose exchange is answered a userinfo body signs that identity in.
* `guarded_iff`: the responses that open nothing.
* `unverified_links`: a response that says the email is not verified, and is linked.
-/

namespace AuthApp.Accounts
open Interleave

variable {ι : Type}

/-- The claim `email_verified`, given and true. -/
def Json.AssertsVerified (j : Json) : Prop :=
  ∃ fields, j = .object fields ∧ ("email_verified", .bool true) ∈ fields

/-- The sign-in service over OIDC providers. -/
def oidcAuth (E : OidcPorts ι) (hasher : PasswordHasher) (configs : List OidcConfig) :
    AuthPorts ι := ⟨hasher, OidcProvider.registry E configs⟩

/-- A callback, alone and with storage healthy. -/
def AuthDb.complete (P : AuthPorts ι) (db : AuthDb ι) (state code : String) :
    Except OAuthError OAuthAuthenticatedAdmin × AuthDb ι :=
  (OAuthLoginService.complete P.providers state code).run (AuthDb.serve P) db

/-- The callback's exchange, with a provider of this configuration, gets the userinfo `body`. -/
def Answered (E : OidcPorts ι) (configs : List OidcConfig) (db : AuthDb ι) (state code : String)
    (config : OidcConfig) (body : String) : Prop :=
  ∃ pending, (db.consume state).1 = .ok (some pending) ∧
    expired db.clock pending.createdAt = false ∧
      OidcProvider.named configs pending.provider = some config ∧
        (OidcProvider.fetchUserinfo E config ⟨code, pending.codeVerifier, pending.redirectUri,
          pending.nonce⟩ db.providers).1 = .ok body

/-- A userinfo body that does not assert that the email is verified creates no link, and signs in
only an administrator that its subject is linked to. -/
def Guarded (E : OidcPorts ι) (hasher : PasswordHasher) (configs : List OidcConfig)
    (db : AuthDb ι) (state code : String) : Prop :=
  ∀ config body, Answered E configs db state code config body →
    (∀ j, E.parseStr body = some j → ¬ j.AssertsVerified) →
      (db.complete (oidcAuth E hasher configs) state code).2.identities = db.identities ∧
        ∀ out, (db.complete (oidcAuth E hasher configs) state code).1 = .ok out →
          ∃ info, (E.parseStr body).bind UserInfo.decode = some info ∧
            db.linked config.providerId info.sub = some out.id

/-! ### What a response opens -/

section
variable {E : OidcPorts ι} {hasher : PasswordHasher} {configs : List OidcConfig} {db : AuthDb ι}
  {state code body : String} {config : OidcConfig}

/-- The callback signs in the identity of the body, if the body is one. -/
theorem Answered.run_eq (h : Answered E configs db state code config body)
    (hasher : PasswordHasher) :
    ∃ db', db'.admins = db.admins ∧ db'.identities = db.identities ∧
      db.complete (oidcAuth E hasher configs) state code =
        match (E.parseStr body).bind UserInfo.decode with
        | none => (.error (.provider ("userinfo response: " ++ E.strError "UserInfo" body)), db')
        | some info => db'.signIn ⟨config.providerId, info.sub, info.email⟩ := by
  obtain ⟨pending, hconsume, hexpired, hnamed, hfetch⟩ := h
  have hkeeps := db.consume_snd state
  rw [AuthDb.complete, complete_run]
  generalize db.consume state = r at hconsume hkeeps ⊢
  obtain ⟨answer, db₁⟩ := r
  obtain rfl : answer = .ok (some pending) := hconsume
  obtain rfl : db₁ = _ := hkeeps
  dsimp only
  have hregistered : (oidcAuth E hasher configs).providers.registered pending.provider = true := by
    simp [oidcAuth, OidcProvider.registry, hnamed]
  rw [if_neg (by simp [hexpired]), if_pos hregistered]
  simp only [oidcAuth, OidcProvider.registry, hnamed, OidcProvider.exchangeCode]
  generalize OidcProvider.fetchUserinfo E config ⟨code, pending.codeVerifier, pending.redirectUri,
    pending.nonce⟩ db.providers = fetched at hfetch ⊢
  obtain ⟨answer, world⟩ := fetched
  obtain rfl : answer = .ok body := hfetch
  refine ⟨{ db with pending := db.pending.delete state, providers := world }, rfl, rfl, ?_⟩
  dsimp only [OidcProvider.fromStr]
  cases (E.parseStr body).bind UserInfo.decode <;> rfl

/-- **Verified emails.** A callback is guarded exactly when each response that does not assert
that its email is verified is for a subject that is linked already, or has an email that names no
administrator. -/
theorem guarded_iff :
    Guarded E hasher configs db state code ↔
      ∀ config body info, Answered E configs db state code config body →
        (∀ j, E.parseStr body = some j → ¬ j.AssertsVerified) →
          (E.parseStr body).bind UserInfo.decode = some info →
            (∃ id, db.linked config.providerId info.sub = some id) ∨
              ∃ e, db.accountOf info.email = .error e := by
  constructor
  · intro hguarded config body info hanswered hunverified hinfo
    obtain ⟨hkept, hlinked⟩ := hguarded config body hanswered hunverified
    obtain ⟨db', hadm, hids, hrun⟩ := hanswered.run_eq hasher
    rw [hinfo] at hrun
    rw [hrun] at hkept hlinked
    rw [← AuthDb.linked_congr hids, ← AuthDb.accountOf_congr hadm]
    refine (signIn_keeps_iff ⟨config.providerId, info.sub, info.email⟩).mp
      ⟨hkept.trans hids.symm, fun out hout => ?_⟩
    obtain ⟨info', hinfo', hid⟩ := hlinked out hout
    obtain rfl := Option.some.inj (hinfo.symm.trans hinfo')
    exact (AuthDb.linked_congr hids _ _).trans hid
  · intro hcond config body hanswered hunverified
    obtain ⟨db', hadm, hids, hrun⟩ := hanswered.run_eq hasher
    rw [hrun]
    cases hinfo : (E.parseStr body).bind UserInfo.decode with
    | none => exact ⟨hids, fun out hout => by cases hout⟩
    | some info =>
        have hkeeps := hcond config body info hanswered hunverified hinfo
        rw [← AuthDb.linked_congr hids, ← AuthDb.accountOf_congr hadm] at hkeeps
        obtain ⟨hkept, hlinked⟩ :=
          (signIn_keeps_iff ⟨config.providerId, info.sub, info.email⟩).mpr hkeeps
        exact ⟨hkept.trans hids, fun out hout =>
          ⟨info, rfl, (AuthDb.linked_congr hids _ _).symm.trans (hlinked out hout)⟩⟩

end

/-! ### An address its owner has not proved -/

def googleConfig : OidcConfig where
  providerId := google
  clientId := "client-123"
  clientSecret := "secret-xyz"
  tokenEndpoint := "https://accounts.example.com/token"
  userinfoEndpoint := "https://accounts.example.com/userinfo"
  issuer := "https://accounts.example.com"

def claimsPayload : String :=
  "eyJpc3MiOiJodHRwczovL2FjY291bnRzLmV4YW1wbGUuY29tIiwiYXVkIjoiY2xpZW50LTEyMyIsIm5vbmNlIjoibiJ9"

/-- The bytes of the claims. -/
def claimsBytes : ByteArray :=
  "\x7b\"iss\":\"https://accounts.example.com\",\"aud\":\"client-123\",\"nonce\":\"n\"\x7d".toUTF8

def claimsJson : Json := .object
  [("iss", .string "https://accounts.example.com"), ("aud", .string "client-123"),
    ("nonce", .string "n")]

def idToken : String := "eyJhbGciOiJub25lIn0." ++ claimsPayload ++ ".sig"

def tokenBody : String := "\x7b\"access_token\":\"at\",\"id_token\":\"" ++ idToken ++ "\"\x7d"

def tokenJson : Json := .object [("access_token", .string "at"), ("id_token", .string idToken)]

/-- The provider says that the address is not verified. -/
def unverifiedBody : String :=
  "\x7b\"sub\":\"7\",\"email\":\"root@example.com\",\"email_verified\":false\x7d"

def unverifiedJson : Json := .object
  [("sub", .string "7"), ("email", .string adminEmail.address), ("email_verified", .bool false)]

/-- A provider that answers one code. -/
def googlePorts : OidcPorts Unit where
  postForm _ _ _ world := (.ok ⟨200, tokenBody⟩, world)
  getBearer _ _ world := (.ok ⟨200, unverifiedBody⟩, world)
  systemTime _ := 0
  base64Decode s := if s = claimsPayload then .ok claimsBytes else .error "Invalid padding"
  parseStr s :=
    if s = unverifiedBody then some unverifiedJson
    else if s = tokenBody then some tokenJson
    else none
  parseSlice bytes := if bytes.data = claimsBytes.data then some claimsJson else none
  strError _ _ := "expected value at line 1 column 1"
  sliceError _ _ := "expected value at line 1 column 1"

/-- One administrator, no link, and a flow that was begun. -/
def rootDb : AuthDb Unit where
  admins := ⟨⟨[adminRow], List.nodup_singleton _⟩, by
    intro r hr s hs _ _ _
    obtain rfl := List.mem_singleton.mp hr
    obtain rfl := List.mem_singleton.mp hs
    rfl⟩
  ipLockouts := .empty
  pending := ⟨[⟨"st", google.name, "n", "v", "https://admin.example.com", 0⟩],
    List.nodup_singleton _⟩
  identities := .empty
  providers := ()
  clock := 0

/-- The second part of a token, between a header that ends in a dot and a signature that begins
with one. -/
theorem middle_part {header middle : String} {front : List Char}
    (hheader : header.toList = front ++ ['.']) (hfront : '.' ∉ front)
    (hmiddle : '.' ∉ middle.toList) :
    ((header ++ middle ++ ".sig").toList.splitOn '.')[1]? = some middle.toList := by
  have hsignature : ".sig".toList = '.' :: "sig".toList := by decide +kernel
  rw [String.toList_append, String.toList_append, hheader, hsignature, List.append_assoc,
    List.append_assoc, List.singleton_append]
  exact Separated.getElem?_one_splitOn hfront hmiddle _

theorem toList_header : "eyJhbGciOiJub25lIn0.".toList = "eyJhbGciOiJub25lIn0".toList ++ ['.'] := by
  decide +kernel

theorem payload_idToken : (idToken.toList.splitOn '.')[1]? = some claimsPayload.toList :=
  middle_part toList_header (by decide +kernel) (by decide +kernel)

/-- The id_token passes for the flow's nonce. -/
theorem validateIdToken_google :
    OidcProvider.validateIdToken googlePorts googleConfig idToken "n" 0 = .ok () := by
  have hbytes : googlePorts.base64Decode claimsPayload = .ok claimsBytes := by simp [googlePorts]
  have hjson : googlePorts.parseSlice claimsBytes = some claimsJson := by simp [googlePorts]
  have hclaims : IdTokenClaims.decode claimsJson =
      some ⟨"https://accounts.example.com", .one "client-123", some "n", none⟩ := rfl
  rw [OidcProvider.validateIdToken, payload_idToken]
  dsimp only
  rw [String.ofList_toList, hbytes]
  dsimp only
  rw [OidcProvider.fromSlice, hjson, Option.bind_some, hclaims]
  rfl

theorem fetchUserinfo_google :
    OidcProvider.fetchUserinfo googlePorts googleConfig
      ⟨"c", "v", "https://admin.example.com", "n"⟩ () = (.ok unverifiedBody, ()) := by
  have hne : tokenBody ≠ unverifiedBody := by decide +kernel
  have hjson : googlePorts.parseStr tokenBody = some tokenJson := by simp [googlePorts, hne]
  have htoken : TokenResponse.decode tokenJson = some ⟨"at", idToken⟩ := rfl
  have hredeem : OidcProvider.redeem googlePorts googleConfig
      ⟨"c", "v", "https://admin.example.com", "n"⟩ () = (.ok ⟨"at", idToken⟩, ()) := by
    rw [OidcProvider.redeem]
    change (if (HttpResponse.mk 200 tokenBody).isSuccess then _ else _) = _
    rw [if_pos (by decide), OidcProvider.fromStr, hjson, Option.bind_some, htoken]
  rw [OidcProvider.fetchUserinfo, hredeem]
  dsimp only
  rw [show googlePorts.systemTime () = 0 from rfl, validateIdToken_google]
  rfl

/-- The callback links the stranger to the administrator, and signs it in. -/
theorem unverified_links :
    Answered googlePorts [googleConfig] rootDb "st" "c" googleConfig unverifiedBody ∧
      googlePorts.parseStr unverifiedBody = some unverifiedJson ∧ ¬ unverifiedJson.AssertsVerified ∧
        (rootDb.complete (oidcAuth googlePorts plainHasher [googleConfig]) "st" "c").1 =
            .ok ⟨adminRow.id, adminRole⟩ ∧
          ¬ Guarded googlePorts plainHasher [googleConfig] rootDb "st" "c" := by
  have hjson : googlePorts.parseStr unverifiedBody = some unverifiedJson := by simp [googlePorts]
  have hunverified : ¬ unverifiedJson.AssertsVerified := by
    rintro ⟨fields, hfields, hmem⟩
    cases hfields
    simp at hmem
  have hinfo : (googlePorts.parseStr unverifiedBody).bind UserInfo.decode =
      some ⟨"7", adminEmail.address⟩ := by
    rw [hjson]
    rfl
  have hanswered : Answered googlePorts [googleConfig] rootDb "st" "c" googleConfig
      unverifiedBody := by
    refine ⟨⟨"st", google, "n", "v", "https://admin.example.com", 0⟩, ?_, by decide, rfl, ?_⟩
    · change (rowToPending ⟨"st", google.name, "n", "v", "https://admin.example.com", 0⟩).map
        some = _
      rw [rowToPending, ProviderId.parse_name]
      rfl
    · exact congrArg Prod.fst fetchUserinfo_google
  have hrow : rootDb.admins.findByEmail adminEmail = some adminRow := by decide
  have hacc : rootDb.accountOf adminEmail.address = .ok ⟨adminRow.id, adminEmail, ⟨"h2"⟩,
      adminRow.lockout, adminRole, none⟩ :=
    Callback.accountOf_email.mpr
      ⟨adminEmail, adminRow, adminRole, adminEmail.parse_address, hrow, adminRole.parse_name, rfl⟩
  obtain ⟨db', hadm, hids, hrun⟩ := hanswered.run_eq plainHasher
  rw [hinfo] at hrun
  change _ = db'.signIn ⟨google, "7", adminEmail.address⟩ at hrun
  have hlinked : db'.linked google "7" = none := by
    rw [AuthDb.linked, hids]
    rfl
  obtain ⟨hok, hlink⟩ := signIn_links ⟨google, "7", adminEmail.address⟩ hlinked
    ((AuthDb.accountOf_congr hadm _).trans hacc)
  refine ⟨hanswered, hjson, hunverified, ?_, fun hguarded => ?_⟩
  · rw [hrun]
    exact hok
  · obtain ⟨hkept, -⟩ := hguarded googleConfig unverifiedBody hanswered fun j hj => by
      rw [hjson] at hj
      cases hj
      exact hunverified
    rw [← hrun, AuthDb.linked, hkept] at hlink
    cases hlink

end AuthApp.Accounts
