import AuthApp.Accounts.Lockout
import AuthApp.Accounts.Store
import AuthApp.Interleave.Rules

/-!
# Accounts — logging in

`LoginService::login`, as a program over the calls of the accounts context, and the points it can
reach.

* `login_trace`: every point of a login, by the answers it has had.
-/

namespace AuthApp.Accounts
open Interleave

structure LoginRequest where
  email : String
  password : String
  clientIp : String
  deriving DecidableEq, Repr

inductive LoginError where
  | invalidCredentials
  | tooManyAttempts (retryAfterSecs : Option Nat)
  | internal (msg : String)
  deriving DecidableEq, Repr

structure AuthenticatedAdmin where
  id : AdminId
  role : Role
  deriving DecidableEq

namespace LoginService
variable (policy : LockoutPolicy)

/-- The rejection that carries the time left of a lock. -/
def tooManyAttempts (state : LockoutState) (now : Int) : LoginError :=
  .tooManyAttempts ((LockoutPolicy.retryAfter state now).map asSecs)

def recordIpFailure (ip : String) (prior : LockoutState) (now : Int) :
    Prog authSig (Except LoginError Unit) := do
  match ← Prog.perform (S := authSig) (.putIp ip (policy.registerFailure prior now)) with
  | .error e => return .error (.internal e.display)
  | .ok () => return .ok ()

def resetAccount (id : AdminId) : Prog authSig (Except LoginError Unit) := do
  match ← Prog.perform (S := authSig) (.updateLockout id .clear) with
  | .error e => return .error (.internal e.display)
  | .ok () => return .ok ()

def resetIp (ip : String) : Prog authSig (Except LoginError Unit) := do
  match ← Prog.perform (S := authSig) (.putIp ip .clear) with
  | .error e => return .error (.internal e.display)
  | .ok () => return .ok ()

/-- An email that does not parse matches no account. -/
def findAccount (email : String) : Prog authSig (Except RepositoryError (Option AdminAccount)) :=
  match Email.parse email with
  | .ok email => Prog.perform (S := authSig) (.findByEmail email)
  | .error _ => return .ok none

/-- The password is checked; the counters are moved. -/
def settle (ip : String) (ipState : LockoutState) (now : Int) (verified : Bool) :
    Option AdminAccount → Prog authSig (Except LoginError AuthenticatedAdmin)
  | some account => do
      -- a locked account is rejected even with the right password
      if LockoutPolicy.isLocked account.lockout now then
        match ← recordIpFailure policy ip ipState now with
        | .error e => return .error e
        | .ok () => return .error (tooManyAttempts account.lockout now)
      else if verified then
        match ← resetAccount account.id with
        | .error e => return .error e
        | .ok () =>
            match ← resetIp ip with
            | .error e => return .error e
            | .ok () => return .ok ⟨account.id, account.role⟩
      else
        match ← Prog.perform (S := authSig)
            (.updateLockout account.id (policy.registerFailure account.lockout now)) with
        | .error e => return .error (.internal e.display)
        | .ok () =>
            match ← recordIpFailure policy ip ipState now with
            | .error e => return .error e
            | .ok () => return .error .invalidCredentials
  | none => do
      match ← recordIpFailure policy ip ipState now with
      | .error e => return .error e
      | .ok () => return .error .invalidCredentials

/-- One verification, against the account's hash or the reference hash, whichever there is. -/
def check (hasher : PasswordHasher) (request : LoginRequest) (ipState : LockoutState) (now : Int)
    (account : Option AdminAccount) : Prog authSig (Except LoginError AuthenticatedAdmin) := do
  let hash := (account.map AdminAccount.passwordHash).getD hasher.referenceHash
  match ← Prog.perform (S := authSig) (.verify request.password hash) with
  | .error e => return .error (.internal e.display)
  | .ok verified => settle policy request.clientIp ipState now verified account

/-- Attempt a login. -/
def login (hasher : PasswordHasher) (request : LoginRequest) :
    Prog authSig (Except LoginError AuthenticatedAdmin) := do
  let now ← Prog.perform (S := authSig) .now
  match ← Prog.perform (S := authSig) (.getIp request.clientIp) with
  | .error e => return .error (.internal e.display)
  | .ok ipState =>
      if LockoutPolicy.isLocked ipState now then return .error (tooManyAttempts ipState now)
      else
        match ← findAccount request.email with
        | .error e => return .error (.internal e.display)
        | .ok account => check policy hasher request ipState now account

end LoginService

/-! ### What a login does, call by call -/

/-- What the lookup of a submitted email called, and the account it came to. -/
inductive Looked (email : String) : List (Reply authSig) → Option AdminAccount → Prop where
  | parsed (e : Email) (h : Email.parse email = .ok e) (account : Option AdminAccount) :
      Looked email [⟨.findByEmail e, .ok account⟩] account
  | unparsed (err : EmailError) (h : Email.parse email = .error err) : Looked email [] none

/-- The points of `settle`. -/
inductive SettleTrace (policy : LockoutPolicy) (ip : String) (ipState : LockoutState) (now : Int)
    (verified : Bool) : Option AdminAccount → List (Reply authSig) →
      Head authSig (Except LoginError AuthenticatedAdmin) → Prop where
  | unknown : SettleTrace policy ip ipState now verified none []
      (.call (.putIp ip (policy.registerFailure ipState now)))
  | unknownFails (e : RepositoryError) : SettleTrace policy ip ipState now verified none
      [⟨.putIp ip (policy.registerFailure ipState now), .error e⟩]
      (.ret (.error (.internal e.display)))
  | unknownDone : SettleTrace policy ip ipState now verified none
      [⟨.putIp ip (policy.registerFailure ipState now), .ok ()⟩]
      (.ret (.error .invalidCredentials))
  | locked (account : AdminAccount) (h : LockoutPolicy.isLocked account.lockout now = true) :
      SettleTrace policy ip ipState now verified (some account) []
        (.call (.putIp ip (policy.registerFailure ipState now)))
  | lockedFails (account : AdminAccount) (e : RepositoryError) :
      SettleTrace policy ip ipState now verified (some account)
        [⟨.putIp ip (policy.registerFailure ipState now), .error e⟩]
        (.ret (.error (.internal e.display)))
  | lockedDone (account : AdminAccount) :
      SettleTrace policy ip ipState now verified (some account)
        [⟨.putIp ip (policy.registerFailure ipState now), .ok ()⟩]
        (.ret (.error (LoginService.tooManyAttempts account.lockout now)))
  | right (account : AdminAccount) (hv : verified = true) :
      SettleTrace policy ip ipState now verified (some account) []
        (.call (.updateLockout account.id .clear))
  | rightFails (account : AdminAccount) (hv : verified = true) (e : RepositoryError) :
      SettleTrace policy ip ipState now verified (some account)
        [⟨.updateLockout account.id .clear, .error e⟩] (.ret (.error (.internal e.display)))
  | rightIp (account : AdminAccount) (hv : verified = true) :
      SettleTrace policy ip ipState now verified (some account)
        [⟨.updateLockout account.id .clear, .ok ()⟩] (.call (.putIp ip .clear))
  | rightIpFails (account : AdminAccount) (hv : verified = true) (e : RepositoryError) :
      SettleTrace policy ip ipState now verified (some account)
        [⟨.updateLockout account.id .clear, .ok ()⟩, ⟨.putIp ip .clear, .error e⟩]
        (.ret (.error (.internal e.display)))
  | rightDone (account : AdminAccount) (hv : verified = true) :
      SettleTrace policy ip ipState now verified (some account)
        [⟨.updateLockout account.id .clear, .ok ()⟩, ⟨.putIp ip .clear, .ok ()⟩]
        (.ret (.ok ⟨account.id, account.role⟩))
  | wrong (account : AdminAccount) (h : LockoutPolicy.isLocked account.lockout now = false) :
      SettleTrace policy ip ipState now verified (some account) []
        (.call (.updateLockout account.id (policy.registerFailure account.lockout now)))
  | wrongFails (account : AdminAccount) (e : RepositoryError) :
      SettleTrace policy ip ipState now verified (some account)
        [⟨.updateLockout account.id (policy.registerFailure account.lockout now), .error e⟩]
        (.ret (.error (.internal e.display)))
  | wrongIp (account : AdminAccount) :
      SettleTrace policy ip ipState now verified (some account)
        [⟨.updateLockout account.id (policy.registerFailure account.lockout now), .ok ()⟩]
        (.call (.putIp ip (policy.registerFailure ipState now)))
  | wrongIpFails (account : AdminAccount) (e : RepositoryError) :
      SettleTrace policy ip ipState now verified (some account)
        [⟨.updateLockout account.id (policy.registerFailure account.lockout now), .ok ()⟩,
          ⟨.putIp ip (policy.registerFailure ipState now), .error e⟩]
        (.ret (.error (.internal e.display)))
  | wrongDone (account : AdminAccount) :
      SettleTrace policy ip ipState now verified (some account)
        [⟨.updateLockout account.id (policy.registerFailure account.lockout now), .ok ()⟩,
          ⟨.putIp ip (policy.registerFailure ipState now), .ok ()⟩]
        (.ret (.error .invalidCredentials))

theorem settle_trace (policy : LockoutPolicy) (ip : String) (ipState : LockoutState) (now : Int)
    (verified : Bool) (account : Option AdminAccount) (past : List (Reply authSig)) :
    Prog.Always (fun past' p => ∃ rest, past' = past ++ rest ∧
        SettleTrace policy ip ipState now verified account rest p.head) past
      (LoginService.settle policy ip ipState now verified account) := by
  cases account with
  | none =>
      refine ⟨⟨[], (List.append_nil _).symm, .unknown⟩, ?_⟩
      rintro (e | ⟨⟩)
      · exact ⟨_, rfl, .unknownFails e⟩
      · exact ⟨_, rfl, .unknownDone⟩
  | some account =>
      rw [LoginService.settle]
      by_cases hl : LockoutPolicy.isLocked account.lockout now
      · rw [if_pos hl]
        refine ⟨⟨[], (List.append_nil _).symm, .locked account hl⟩, ?_⟩
        rintro (e | ⟨⟩)
        · exact ⟨_, rfl, .lockedFails account e⟩
        · exact ⟨_, rfl, .lockedDone account⟩
      rw [if_neg hl]
      cases hv : verified with
      | true =>
          refine ⟨⟨[], (List.append_nil _).symm, .right account rfl⟩, ?_⟩
          rintro (e | ⟨⟩)
          · exact ⟨_, rfl, .rightFails account rfl e⟩
          refine ⟨⟨_, rfl, .rightIp account rfl⟩, ?_⟩
          rintro (e | ⟨⟩)
          · exact ⟨_, List.append_assoc .., .rightIpFails account rfl e⟩
          · exact ⟨_, List.append_assoc .., .rightDone account rfl⟩
      | false =>
          refine ⟨⟨[], (List.append_nil _).symm, .wrong account (by simpa using hl)⟩, ?_⟩
          rintro (e | ⟨⟩)
          · exact ⟨_, rfl, .wrongFails account e⟩
          refine ⟨⟨_, rfl, .wrongIp account⟩, ?_⟩
          rintro (e | ⟨⟩)
          · exact ⟨_, List.append_assoc .., .wrongIpFails account e⟩
          · exact ⟨_, List.append_assoc .., .wrongDone account⟩

/-- The points of `LoginService::login`. -/
inductive LoginTrace (policy : LockoutPolicy) (hasher : PasswordHasher) (request : LoginRequest) :
    List (Reply authSig) → Head authSig (Except LoginError AuthenticatedAdmin) → Prop where
  | start : LoginTrace policy hasher request [] (.call .now)
  | address (now : Int) :
      LoginTrace policy hasher request [⟨.now, now⟩] (.call (.getIp request.clientIp))
  | addressFails (now : Int) (e : RepositoryError) :
      LoginTrace policy hasher request [⟨.now, now⟩, ⟨.getIp request.clientIp, .error e⟩]
        (.ret (.error (.internal e.display)))
  | addressLocked (now : Int) (ipState : LockoutState)
      (h : LockoutPolicy.isLocked ipState now = true) :
      LoginTrace policy hasher request [⟨.now, now⟩, ⟨.getIp request.clientIp, .ok ipState⟩]
        (.ret (.error (LoginService.tooManyAttempts ipState now)))
  | lookup (now : Int) (ipState : LockoutState) (email : Email)
      (h : Email.parse request.email = .ok email) :
      LoginTrace policy hasher request [⟨.now, now⟩, ⟨.getIp request.clientIp, .ok ipState⟩]
        (.call (.findByEmail email))
  | lookupFails (now : Int) (ipState : LockoutState) (email : Email) (e : RepositoryError) :
      LoginTrace policy hasher request
        [⟨.now, now⟩, ⟨.getIp request.clientIp, .ok ipState⟩, ⟨.findByEmail email, .error e⟩]
        (.ret (.error (.internal e.display)))
  | check (now : Int) (ipState : LockoutState) (looked : List (Reply authSig))
      (account : Option AdminAccount) (h : Looked request.email looked account) :
      LoginTrace policy hasher request
        ([⟨.now, now⟩, ⟨.getIp request.clientIp, .ok ipState⟩] ++ looked)
        (.call (.verify request.password
          ((account.map AdminAccount.passwordHash).getD hasher.referenceHash)))
  | checkFails (now : Int) (ipState : LockoutState) (looked : List (Reply authSig))
      (account : Option AdminAccount) (h : Looked request.email looked account)
      (e : PasswordHashError) :
      LoginTrace policy hasher request
        ([⟨.now, now⟩, ⟨.getIp request.clientIp, .ok ipState⟩] ++ looked ++
          [⟨.verify request.password
            ((account.map AdminAccount.passwordHash).getD hasher.referenceHash), .error e⟩])
        (.ret (.error (.internal e.display)))
  | settle (now : Int) (ipState : LockoutState) (looked : List (Reply authSig))
      (account : Option AdminAccount) (verified : Bool) (rest : List (Reply authSig))
      (head : Head authSig (Except LoginError AuthenticatedAdmin))
      (h : Looked request.email looked account)
      (hs : SettleTrace policy request.clientIp ipState now verified account rest head) :
      LoginTrace policy hasher request
        ([⟨.now, now⟩, ⟨.getIp request.clientIp, .ok ipState⟩] ++ looked ++
          [⟨.verify request.password
            ((account.map AdminAccount.passwordHash).getD hasher.referenceHash), .ok verified⟩] ++
          rest)
        head

/-- The verification, and what follows it. -/
theorem check_trace (policy : LockoutPolicy) (hasher : PasswordHasher) (request : LoginRequest)
    (now : Int) (ipState : LockoutState) {looked : List (Reply authSig)}
    {account : Option AdminAccount} (h : Looked request.email looked account) :
    Prog.Always (fun past p => LoginTrace policy hasher request past p.head)
      ([⟨.now, now⟩, ⟨.getIp request.clientIp, .ok ipState⟩] ++ looked)
      (LoginService.check policy hasher request ipState now account) := by
  refine ⟨.check now ipState looked account h, ?_⟩
  rintro (e | verified)
  · exact .checkFails now ipState looked account h e
  · refine (settle_trace policy request.clientIp ipState now verified account _).mono ?_
    rintro past p ⟨rest, rfl, hs⟩
    exact .settle now ipState looked account verified rest p.head h hs

theorem login_trace (policy : LockoutPolicy) (hasher : PasswordHasher) (request : LoginRequest) :
    Prog.Always (fun past p => LoginTrace policy hasher request past p.head) []
      (LoginService.login policy hasher request) := by
  refine ⟨.start, fun now => ⟨.address now, ?_⟩⟩
  rintro (e | ipState)
  · exact .addressFails now e
  by_cases hl : LockoutPolicy.isLocked ipState now
  · simp only [Prog.bind_ret, if_pos hl]
    exact .addressLocked now ipState hl
  simp only [Prog.bind_ret, if_neg hl]
  rw [LoginService.findAccount]
  cases hp : Email.parse request.email with
  | error err => exact check_trace policy hasher request now ipState (.unparsed err hp)
  | ok email =>
      refine ⟨.lookup now ipState email hp, ?_⟩
      rintro (e | account)
      · exact .lookupFails now ipState email e
      · exact check_trace policy hasher request now ipState (.parsed email hp account)

end AuthApp.Accounts
