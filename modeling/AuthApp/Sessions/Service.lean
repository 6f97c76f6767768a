import AuthApp.Sessions.Store

/-!
# Sessions — the service

`SessionService`, as programs over the calls of the session context, and the points that
`authenticate` can reach.

* `authenticate_trace`: every point of an authentication, by the answers it has had.
-/

namespace AuthApp.Sessions
open Interleave Accounts

/-- A session as it is handed out once, when it is issued. -/
structure IssuedSession where
  token : SessionToken
  csrfToken : CsrfToken
  absoluteExpiresAt : Int
  deriving DecidableEq, Repr

structure AuthenticatedSession where
  adminId : AdminId
  role : Role
  csrfToken : CsrfToken
  deriving DecidableEq

inductive SessionError where
  | notFound
  | expired
  | csrfMismatch
  | internal (msg : String)
  deriving DecidableEq, Repr

/-- What an authenticated session says of a stored one. -/
def Session.authenticated (session : Session) : AuthenticatedSession :=
  ⟨session.adminId, session.role, session.csrfToken⟩

namespace SessionService
variable (policy : SessionPolicy)

/-- Issue a session for an admin who has just logged in. -/
def start (adminId : AdminId) (role : Role) :
    Prog sessionSig (Except SessionError IssuedSession) := do
  let now ← Prog.perform (S := sessionSig) .now
  let token ← Prog.perform (S := sessionSig) .generateSessionToken
  let csrfToken ← Prog.perform (S := sessionSig) .generateCsrfToken
  let absoluteExpiresAt := now + policy.absoluteTimeout
  match ← Prog.perform (S := sessionSig) (.insert
      { token, adminId, role, csrfToken, createdAt := now, absoluteExpiresAt,
        lastSeenAt := now }) with
  | .error e => return .error (.internal e.display)
  | .ok () => return .ok ⟨token, csrfToken, absoluteExpiresAt⟩

/-- What is done with a session that was found. -/
def useSession (token : SessionToken) (now : Int) (session : Session) :
    Prog sessionSig (Except SessionError AuthenticatedSession) := do
  if policy.isExpired session now then
    -- the verdict stands whatever the cleanup answers
    let _ ← Prog.perform (S := sessionSig) (.delete token)
    return .error .expired
  else
    match ← Prog.perform (S := sessionSig) (.touch token now) with
    | .error e => return .error (.internal e.display)
    | .ok () => return .ok session.authenticated

/-- Authenticate the token of a request. -/
def authenticate (token : SessionToken) :
    Prog sessionSig (Except SessionError AuthenticatedSession) := do
  let now ← Prog.perform (S := sessionSig) .now
  match ← Prog.perform (S := sessionSig) (.find token) with
  | .error e => return .error (.internal e.display)
  | .ok none => return .error .notFound
  | .ok (some session) => useSession policy token now session

/-- Revoke a session. -/
def revoke (token : SessionToken) : Prog sessionSig (Except SessionError Unit) := do
  match ← Prog.perform (S := sessionSig) (.delete token) with
  | .error e => return .error (.internal e.display)
  | .ok () => return .ok ()

/-- Replace a session by a fresh one for the same admin. -/
def rotate (oldToken : SessionToken) : Prog sessionSig (Except SessionError IssuedSession) := do
  match ← authenticate policy oldToken with
  | .error e => return .error e
  | .ok authenticated =>
      match ← Prog.perform (S := sessionSig) (.delete oldToken) with
      | .error e => return .error (.internal e.display)
      | .ok () => start policy authenticated.adminId authenticated.role

end SessionService

/-! ### What an authentication does, call by call -/

/-- The points of `SessionService::authenticate`. -/
inductive AuthenticateTrace (policy : SessionPolicy) (token : SessionToken) :
    List (Reply sessionSig) → Head sessionSig (Except SessionError AuthenticatedSession) →
      Prop where
  | start : AuthenticateTrace policy token [] (.call .now)
  | lookup (now : Int) : AuthenticateTrace policy token [⟨.now, now⟩] (.call (.find token))
  | lookupFails (now : Int) (e : RepositoryError) : AuthenticateTrace policy token
      [⟨.now, now⟩, ⟨.find token, .error e⟩] (.ret (.error (.internal e.display)))
  | unknown (now : Int) : AuthenticateTrace policy token
      [⟨.now, now⟩, ⟨.find token, .ok none⟩] (.ret (.error .notFound))
  | expired (now : Int) (session : Session) (h : policy.isExpired session now = true) :
      AuthenticateTrace policy token
        [⟨.now, now⟩, ⟨.find token, .ok (some session)⟩] (.call (.delete token))
  | expiredDone (now : Int) (session : Session) (h : policy.isExpired session now = true)
      (ans : Except RepositoryError Unit) :
      AuthenticateTrace policy token
        [⟨.now, now⟩, ⟨.find token, .ok (some session)⟩, ⟨.delete token, ans⟩]
        (.ret (.error .expired))
  | live (now : Int) (session : Session) (h : policy.isExpired session now = false) :
      AuthenticateTrace policy token
        [⟨.now, now⟩, ⟨.find token, .ok (some session)⟩] (.call (.touch token now))
  | liveFails (now : Int) (session : Session) (h : policy.isExpired session now = false)
      (e : RepositoryError) :
      AuthenticateTrace policy token
        [⟨.now, now⟩, ⟨.find token, .ok (some session)⟩, ⟨.touch token now, .error e⟩]
        (.ret (.error (.internal e.display)))
  | liveDone (now : Int) (session : Session) (h : policy.isExpired session now = false) :
      AuthenticateTrace policy token
        [⟨.now, now⟩, ⟨.find token, .ok (some session)⟩, ⟨.touch token now, .ok ()⟩]
        (.ret (.ok session.authenticated))

theorem authenticate_trace (policy : SessionPolicy) (token : SessionToken) :
    Prog.Always (fun past p => AuthenticateTrace policy token past p.head) []
      (SessionService.authenticate policy token) := by
  refine ⟨.start, fun now => ⟨.lookup now, ?_⟩⟩
  rintro (e | _ | session)
  · exact .lookupFails now e
  · exact .unknown now
  simp only [Prog.bind_ret, SessionService.useSession]
  cases hx : policy.isExpired session now with
  | true => exact ⟨.expired now session hx, fun ans => .expiredDone now session hx ans⟩
  | false =>
      refine ⟨.live now session hx, ?_⟩
      rintro (e | ⟨⟩)
      · exact .liveFails now session hx e
      · exact .liveDone now session hx

end AuthApp.Sessions
