import AuthApp.Interleave.Fate
import AuthApp.Interleave.Pool
import AuthApp.Sessions.Service

/-!
# Sessions — the whole context

Every request the session context serves, and the tokens it hands out.  A source of tokens that
never repeats is a stream of them without repetitions.
-/

namespace AuthApp.Sessions
open Interleave Accounts

/-! ### Rotation, in two halves -/

/-- What a rotation does once the old token is authenticated. -/
def SessionService.replace (policy : SessionPolicy) (oldToken : SessionToken) :
    Except SessionError AuthenticatedSession → Prog sessionSig (Except SessionError IssuedSession)
  | .error e => return .error e
  | .ok authenticated => do
      match ← Prog.perform (S := sessionSig) (.delete oldToken) with
      | .error e => return .error (.internal e.display)
      | .ok () => SessionService.start policy authenticated.adminId authenticated.role

theorem SessionService.rotate_eq (policy : SessionPolicy) (oldToken : SessionToken) :
    SessionService.rotate policy oldToken =
      SessionService.authenticate policy oldToken >>= SessionService.replace policy oldToken := by
  refine congrArg (SessionService.authenticate policy oldToken >>= ·) (funext fun r => ?_)
  cases r <;> rfl

/-! ### Requests -/

inductive SessionRequest where
  | start (adminId : AdminId) (role : Role)
  | authenticate (token : SessionToken)
  | rotate (oldToken : SessionToken)
  | revoke (token : SessionToken)
  deriving DecidableEq

inductive SessionResponse where
  | issued (r : Except SessionError IssuedSession)
  | authenticated (r : Except SessionError AuthenticatedSession)
  | revoked (r : Except SessionError Unit)

/-- The program behind each request. -/
def SessionRequest.code (policy : SessionPolicy) :
    SessionRequest → Prog sessionSig SessionResponse
  | .start adminId role => (SessionService.start policy adminId role).map .issued
  | .authenticate token => (SessionService.authenticate policy token).map .authenticated
  | .rotate oldToken => (SessionService.rotate policy oldToken).map .issued
  | .revoke token => (SessionService.revoke token).map .revoked

/-! ### Tokens and failures -/

/-- The tokens a generator draws, in order: no session token is drawn twice. -/
structure TokenStream where
  session : Nat → SessionToken
  csrf : Nat → CsrfToken
  fresh : Function.Injective session

/-- The generator that has drawn the first `n.1` session tokens and the first `n.2` CSRF tokens of
a stream. -/
def TokenStream.generator (G : TokenStream) : SessionTokenGenerator (Nat × Nat) where
  generateSessionToken n := (G.session n.1, n.1 + 1, n.2)
  generateCsrfToken n := (G.csrf n.2, n.1, n.2 + 1)

/-- The error a failing call answers.  The clock and the generator have none. -/
def SessionOp.fault (msg : String) : (op : SessionOp) → Option op.Ans
  | .insert _ => some (.error (.backend msg))
  | .find _ => some (.error (.backend msg))
  | .touch .. => some (.error (.backend msg))
  | .delete _ => some (.error (.backend msg))
  | .generateSessionToken => none
  | .generateCsrfToken => none
  | .now => none

/-- A call under a fate. -/
def SessionDb.exec {τ : Type} (G : SessionTokenGenerator τ) (fate : Fate) :
    Exec sessionSig (SessionDb τ) :=
  Fate.under (S := sessionSig) SessionOp.fault (SessionDb.serve G) fate

/-- A session that was answered is stored. -/
theorem SessionDb.find_of_answer {τ : Type} {G : SessionTokenGenerator τ} {fate : Fate}
    {token : SessionToken} {session : Session} {db after : SessionDb τ}
    (h : SessionDb.exec G fate (.find token) db = (.ok (some session), after)) :
    db.find token = .ok (some session) := by
  cases fate with
  | served => exact congrArg Prod.fst h
  | refused msg => cases h
  | unacknowledged msg => cases h

/-! ### A small world -/

/-- Tokens of growing length. -/
def unaryTokens : TokenStream where
  session n := ⟨.ofList (List.replicate n 's')⟩
  csrf n := ⟨.ofList (List.replicate n 'c')⟩
  fresh n m h := by
    have hlist := String.ofList_injective (SessionToken.mk.inj h)
    simpa using congrArg List.length hlist

/-- One administrator, and no session. -/
def noSessions : SessionDb (Nat × Nat) := ⟨.empty, [⟨"admin-1"⟩], (0, 0), 0⟩

end AuthApp.Sessions
