import AuthApp.Accounts.Account

/-!
# Accounts — external identities

What signing in through an identity provider passes around: the provider's id, the pending
authorization a callback is matched against, and the identity a code is exchanged for.
-/

namespace AuthApp.Accounts

inductive OAuthError where
  | config (msg : String)
  | invalidState
  | exchangeRejected (msg : String)
  | noLinkedAccount
  | provider (msg : String)
  | internal (msg : String)
  deriving DecidableEq, Repr

def OAuthError.display : OAuthError → String
  | .config m => "oauth configuration error: " ++ m
  | .invalidState => "oauth state is invalid, expired, or already used"
  | .exchangeRejected m => "oauth code exchange rejected: " ++ m
  | .noLinkedAccount => "no local admin is linked to this identity"
  | .provider m => "oauth provider error: " ++ m
  | .internal m => "internal error: " ++ m

/-- A provider's normalized id. -/
structure ProviderId extends NormalName
  deriving DecidableEq

def ProviderId.parse (raw : String) : Except OAuthError ProviderId :=
  match NormalName.of? raw with
  | none => .error (.config "provider id must not be empty")
  | some name => .ok ⟨name⟩

/-- A provider id survives its trip through a TEXT column. -/
theorem ProviderId.parse_name (p : ProviderId) : ProviderId.parse p.name = .ok p := by
  rw [parse, NormalName.of?_name]

/-- What a callback needs to finish the flow its one-time `state` names. -/
structure PendingAuthorization where
  state : String
  provider : ProviderId
  nonce : String
  codeVerifier : String
  redirectUri : String
  createdAt : Int
  deriving DecidableEq

structure ExchangeRequest where
  code : String
  codeVerifier : String
  redirectUri : String
  expectedNonce : String
  deriving DecidableEq, Repr

/-- The external identity a code resolves to. -/
structure OAuthIdentity where
  provider : ProviderId
  subject : String
  email : String
  deriving DecidableEq

/-- The providers that are configured, and what an exchange with one of them answers; `ι` is the
state of the world on their side. -/
structure OAuthProviders (ι : Type) where
  registered : ProviderId → Bool
  exchangeCode : ProviderId → ExchangeRequest → ι → Except OAuthError OAuthIdentity × ι

end AuthApp.Accounts
