import AuthApp.Domain.Text
import AuthApp.Interleave.Sum
import AuthApp.Sessions.Csrf

/-!
# Http — the boundary

The requests and the responses of the delivery layer, as far as its handlers look at them; the
cookies of a session, and the middleware that authenticates them.
-/

namespace AuthApp.Http
open Interleave Accounts Sessions

/-! ### Requests -/

inductive Method where
  | get
  | head
  | options
  | post
  | other (name : String)
  deriving DecidableEq, Repr

/-- Every method but the three that only read. -/
def Method.isMutating : Method → Bool
  | .get => false
  | .head => false
  | .options => false
  | .post => true
  | .other _ => true

/-- A request, by the cookie and the headers the handlers read.  A header whose value is no text
is as good as absent. -/
structure Request where
  method : Method
  sessionCookie : Option String
  csrfHeader : Option String
  userAgent : Option String
  xForwardedFor : Option String
  xRealIp : Option String
  /-- The address of the connection, where the server has it. -/
  peer : Option String
  deriving DecidableEq, Repr

/-- The text without the white space around it, unless nothing is left. -/
def nonemptyTrim (s : List Char) : Option String :=
  if trim s = [] then none else some (.ofList (trim s))

/-- The client-most address of `X-Forwarded-For`, else `X-Real-IP`. -/
def forwardedIp (request : Request) : Option String :=
  match request.xForwardedFor.bind fun xff => nonemptyTrim (xff.toList.takeWhile (· ≠ ',')) with
  | some ip => some ip
  | none => request.xRealIp.bind fun ip => nonemptyTrim ip.toList

def Request.clientIp (request : Request) : String :=
  match forwardedIp request with
  | some ip => ip
  | none => request.peer.getD "unknown"

/-! ### Responses -/

/-- The attributes the handlers give a cookie, each `SameSite=Strict`. -/
structure Cookie where
  name : String
  value : String
  httpOnly : Bool
  secure : Bool
  path : String
  expires : Int
  deriving DecidableEq, Repr

structure ErrorBody where
  code : String
  message : String
  deriving DecidableEq, Repr

structure Response where
  status : Nat
  error : Option ErrorBody
  location : Option String
  setCookies : List Cookie
  deriving DecidableEq, Repr

/-- A response that carries more than an error: a body of its own, the fields a validation names,
or the seconds of `Retry-After`. -/
structure JsonResponse (β : Type) extends Response where
  body : Option β := none
  fields : List (String × String) := []
  retryAfter : Option Nat := none
  deriving DecidableEq

namespace ApiError

def unauthorized : Response :=
  ⟨401, some ⟨"unauthorized", "Authentication is required."⟩, none, []⟩

def forbidden (code message : String) : Response := ⟨403, some ⟨code, message⟩, none, []⟩

def notFound (message : String) : Response := ⟨404, some ⟨"not_found", message⟩, none, []⟩

/-- What failed is logged, and not sent. -/
def internal : Response :=
  ⟨500, some ⟨"internal_error", "An internal error occurred."⟩, none, []⟩

/-- `ApiError::new`. -/
def new (status : Nat) (code message : String) : Response :=
  ⟨status, some ⟨code, message⟩, none, []⟩

def conflict (code message : String) : Response := new 409 code message

def badGateway (code message : String) : Response := new 502 code message

/-- The fields are those of a `BTreeMap`, in the order of their names. -/
def validation {β : Type} (fields : List (String × String)) : JsonResponse β where
  status := 422
  error := some ⟨"validation_failed", "The request failed validation."⟩
  location := none
  setCookies := []
  fields

end ApiError

/-- `Redirect::to`. -/
def redirectTo (location : String) : Response := ⟨303, none, some location, []⟩

def sessionCookieName : String := "session"

def csrfCookieName : String := "csrf"

/-- The two cookies of a session: only the second can be read by a script. -/
def attachSessionCookies (issued : IssuedSession) : List Cookie :=
  [⟨sessionCookieName, issued.token.raw, true, true, "/", issued.absoluteExpiresAt⟩,
    ⟨csrfCookieName, issued.csrfToken.raw, false, true, "/", issued.absoluteExpiresAt⟩]

/-- The same two, empty and long expired. -/
def clearSessionCookies : List Cookie :=
  [⟨sessionCookieName, "", true, true, "/", 0⟩, ⟨csrfCookieName, "", false, true, "/", 0⟩]

/-! ### The session middleware -/

/-- The identity that a protected handler is given. -/
structure CurrentSession where
  adminId : String
  role : Role
  token : SessionToken
  deriving DecidableEq

def forbiddenCsrf : Response :=
  ApiError.forbidden "csrf_mismatch" "The CSRF token is missing or does not match."

/-- Authenticate the session cookie and, for a mutating method, check the CSRF header. -/
def requireSession {T : Sig} (policy : SessionPolicy) (request : Request)
    (next : CurrentSession → Prog (sessionSig.sum T) Response) :
    Prog (sessionSig.sum T) Response :=
  match request.sessionCookie with
  | none => return ApiError.unauthorized
  | some raw => do
      let token : SessionToken := ⟨raw⟩
      match ← (SessionService.authenticate policy token).inl (T := T) with
      | .error _ => return ApiError.unauthorized
      | .ok authenticated =>
          match request.method.isMutating,
              SessionService.verifyCsrf authenticated request.csrfHeader with
          | true, .error _ => return forbiddenCsrf
          | _, _ => next ⟨authenticated.adminId.raw, authenticated.role, token⟩

end AuthApp.Http
