import AuthApp.Accounts.Answered
import AuthApp.Http.Oauth
import AuthApp.Http.RateLimit

/-!
# Http — signing in with a password

`POST /auth/login`, next to the callback of a provider: the other route that issues a session.  The
password login is recorded before its session is started, and the callback after.
-/

namespace AuthApp.Http
open Interleave Accounts Sessions Audit

/-- The calls of the two handlers, and those of the rate limiter. -/
abbrev signInSig : Sig := limitSig.sum httpSig

structure LoginBody where
  email : String
  password : String
  deriving DecidableEq, Repr

structure LoginOk where
  adminId : String
  deriving DecidableEq, Repr

/-- The fields that make a body malformed. -/
def LoginBody.invalid (body : LoginBody) : List (String × String) :=
  (match Email.parse (.ofList (trim body.email.toList)) with
    | .error _ => [("email", "must be a valid email address")]
    | .ok _ => []) ++
  (if body.password = "" then [("password", "must not be empty")] else [])

/-- `too_many_attempts`, before `Retry-After` is set. -/
def tooManyAttempts : Response :=
  ApiError.new 429 "too_many_attempts" "Too many attempts. Please try again later."

def invalidCredentials : Response :=
  ApiError.new 401 "invalid_credentials" "Invalid email or password."

/-- Count a request against each key in turn, up to one that has had too many. -/
def checkKeys (now : Int) : List String → Prog limitSig (Except RateLimitExceeded Unit)
  | [] => return .ok ()
  | key :: keys => do
      match ← Prog.perform (S := limitSig) (.check key now) with
      | .error exceeded => return .error exceeded
      | .ok () => checkKeys now keys

/-- The event of a login.  A failure of the audit trail is dropped. -/
def recordAttempt (body : LoginBody) (request : Request) (now : Int) (eventType : AuditEventType)
    (adminId : Option AdminId) : Prog httpSig (Except RepositoryError Unit) :=
  ((AuditService.record
    { eventType
      adminId
      emailAttempted := some (normalize body.email)
      ip := request.clientIp
      userAgent := request.userAgent
      occurredAt := now }).inr (S := sessionSig)).inr (S := flowSig)

/-- What is made of the outcome of the credential check. -/
def answerLogin (policy : SessionPolicy) (body : LoginBody) (request : Request) (now : Int) :
    Except LoginError AuthenticatedAdmin → Prog httpSig (JsonResponse LoginOk)
  | .ok authenticated => do
      let _ ← recordAttempt body request now .loginSucceeded (some authenticated.id)
      match ← ((SessionService.start policy authenticated.id authenticated.role).inl
          (T := auditSig)).inr (S := flowSig) with
      | .ok issued =>
          return {
            status := 200
            error := none
            location := none
            setCookies := attachSessionCookies issued
            body := some ⟨authenticated.id.raw⟩ }
      | .error _ => return { ApiError.internal with }
  | .error .invalidCredentials => do
      let _ ← recordAttempt body request now .loginFailed none
      return { invalidCredentials with }
  | .error (.tooManyAttempts retryAfter) => do
      let _ ← recordAttempt body request now .lockedOut none
      return { tooManyAttempts with retryAfter }
  | .error (.internal _) => return { ApiError.internal with }

/-- Validate the body, count the request, check the credentials. -/
def loginHandler (lockout : LockoutPolicy) (hasher : PasswordHasher) (policy : SessionPolicy)
    (body : LoginBody) (request : Request) : Prog signInSig (JsonResponse LoginOk) :=
  if body.invalid ≠ [] then return ApiError.validation body.invalid
  else do
    let now ← Prog.perform (S := signInSig) (.inr (.inl (.inl .now)))
    match ← (checkKeys now ["ip:" ++ request.clientIp, "acct:" ++ normalize body.email]).inl with
    | .error exceeded =>
        return { tooManyAttempts with retryAfter := some (asSecs exceeded.retryAfter) }
    | .ok () =>
        let result ← ((LoginService.login lockout hasher
          ⟨body.email, body.password, request.clientIp⟩).inl.inl : Prog httpSig _).inr
        (answerLogin policy body request now result).inr

end AuthApp.Http
