import AuthApp.Accounts.Login

/-!
# Accounts — one login

A login that runs alone, over stores that answer, is a function of the state.  `LoginStores` is
what a login needs of its stores, and `LoginStores.login` the function; the Postgres stores are
one case, of which `judge` says what is answered and which counters move.

* `LoginStores.Served.run_login`: the program of a login computes the function.
* `attempt_eq`: the login over the Postgres stores, computed.
-/

namespace AuthApp.Accounts
open Interleave

variable {ι σ : Type}

/-! ### Stores that answer -/

/-- What a login reads and writes, as functions of a state. -/
structure LoginStores (σ : Type) where
  clock : σ → Int
  getIp : σ → String → LockoutState
  putIp : σ → String → LockoutState → σ
  findByEmail : σ → Email → Except RepositoryError (Option AdminAccount)
  updateLockout : σ → AdminId → LockoutState → σ

namespace LoginStores
variable (S : LoginStores σ) (policy : LockoutPolicy)

/-- The calls of a login are answered from the stores, and passwords by the hasher. -/
structure Served (hasher : PasswordHasher) (exec : Exec authSig σ) : Prop where
  now : ∀ s, exec .now s = (S.clock s, s)
  getIp : ∀ ip s, exec (.getIp ip) s = (.ok (S.getIp s ip), s)
  putIp : ∀ ip state s, exec (.putIp ip state) s = (.ok (), S.putIp s ip state)
  findByEmail : ∀ email s, exec (.findByEmail email) s = (S.findByEmail s email, s)
  verify : ∀ plaintext hash s, exec (.verify plaintext hash) s = (hasher.verify plaintext hash, s)
  updateLockout : ∀ id state s,
    exec (.updateLockout id state) s = (.ok (), S.updateLockout s id state)

/-- The account a submitted email names. -/
def lookup (s : σ) (email : String) : Except RepositoryError (Option AdminAccount) :=
  match Email.parse email with
  | .ok email => S.findByEmail s email
  | .error _ => .ok none

/-- What a login that is not refused for its address comes to, once the password is checked; the
address is charged what it had failed before. -/
def settle (ip : String) (ipState : LockoutState) (now : Int) (s : σ) :
    Option AdminAccount → Bool → Except LoginError AuthenticatedAdmin × σ
  | none, _ => (.error .invalidCredentials, S.putIp s ip (policy.registerFailure ipState now))
  | some account, verified =>
      if LockoutPolicy.isLocked account.lockout now then
        (.error (LoginService.tooManyAttempts account.lockout now),
          S.putIp s ip (policy.registerFailure ipState now))
      else if verified then
        (.ok ⟨account.id, account.role⟩, S.putIp (S.updateLockout s account.id .clear) ip .clear)
      else
        (.error .invalidCredentials,
          S.putIp (S.updateLockout s account.id (policy.registerFailure account.lockout now)) ip
            (policy.registerFailure ipState now))

/-- A login. -/
def login (hasher : PasswordHasher) (request : LoginRequest) (s : σ) :
    Except LoginError AuthenticatedAdmin × σ :=
  if LockoutPolicy.isLocked (S.getIp s request.clientIp) (S.clock s) then
    (.error (LoginService.tooManyAttempts (S.getIp s request.clientIp) (S.clock s)), s)
  else
    match S.lookup s request.email with
    | .error e => (.error (.internal e.display), s)
    | .ok account =>
        match hasher.verify request.password
            ((account.map AdminAccount.passwordHash).getD hasher.referenceHash) with
        | .error e => (.error (.internal e.display), s)
        | .ok verified =>
            S.settle policy request.clientIp (S.getIp s request.clientIp) (S.clock s) s account
              verified

/-- A login that finds its address unlocked and its password checked. -/
theorem login_of_verified {hasher : PasswordHasher} {request : LoginRequest} {s : σ}
    {account : Option AdminAccount} {verified : Bool}
    (hip : LockoutPolicy.isLocked (S.getIp s request.clientIp) (S.clock s) = false)
    (ha : S.lookup s request.email = .ok account)
    (hv : hasher.verify request.password
      ((account.map AdminAccount.passwordHash).getD hasher.referenceHash) = .ok verified) :
    S.login policy hasher request s =
      S.settle policy request.clientIp (S.getIp s request.clientIp) (S.clock s) s account
        verified := by
  rw [login, hip, if_neg Bool.false_ne_true, ha]
  dsimp only
  rw [hv]

namespace Served
variable {S policy} {hasher : PasswordHasher} {exec : Exec authSig σ} (h : S.Served hasher exec)
include h

theorem run_recordIpFailure (ip : String) (prior : LockoutState) (now : Int) (s : σ) :
    (LoginService.recordIpFailure policy ip prior now).run exec s =
      (.ok (), S.putIp s ip (policy.registerFailure prior now)) := by
  change Prog.run (S := authSig) _ (.call (.putIp ip _) _) s = _
  rw [Prog.run_call, h.putIp]
  rfl

theorem run_settle (ip : String) (ipState : LockoutState) (now : Int) (verified : Bool)
    (account : Option AdminAccount) (s : σ) :
    (LoginService.settle policy ip ipState now verified account).run exec s =
      S.settle policy ip ipState now s account verified := by
  cases account with
  | none =>
      rw [LoginService.settle, Prog.run_bind, h.run_recordIpFailure]
      rfl
  | some account =>
      rw [LoginService.settle, settle]
      by_cases hl : LockoutPolicy.isLocked account.lockout now
      · rw [if_pos hl, if_pos hl, Prog.run_bind, h.run_recordIpFailure]
        rfl
      rw [if_neg hl, if_neg hl]
      cases verified with
      | true =>
          change Prog.run (S := authSig) _ (.call (.updateLockout account.id .clear) _) s = _
          rw [Prog.run_call, h.updateLockout]
          change Prog.run (S := authSig) _ (.call (.putIp ip .clear) _) _ = _
          rw [Prog.run_call, h.putIp]
          rfl
      | false =>
          change Prog.run (S := authSig) _ (.call (.updateLockout account.id _) _) s = _
          rw [Prog.run_call, h.updateLockout]
          change Prog.run exec (LoginService.recordIpFailure policy ip ipState now >>= _) _ = _
          rw [Prog.run_bind, h.run_recordIpFailure]
          rfl

theorem run_findAccount (email : String) (s : σ) :
    (LoginService.findAccount email).run exec s = (S.lookup s email, s) := by
  rw [LoginService.findAccount, lookup]
  cases Email.parse email with
  | error e => rfl
  | ok email => exact h.findByEmail email s

theorem run_check (request : LoginRequest) (ipState : LockoutState) (now : Int)
    (account : Option AdminAccount) (s : σ) :
    (LoginService.check policy hasher request ipState now account).run exec s =
      match hasher.verify request.password
          ((account.map AdminAccount.passwordHash).getD hasher.referenceHash) with
      | .error e => (.error (.internal e.display), s)
      | .ok verified => S.settle policy request.clientIp ipState now s account verified := by
  change Prog.run (S := authSig) _ (.call (.verify request.password _) _) s = _
  rw [Prog.run_call, h.verify]
  cases hasher.verify request.password
      ((account.map AdminAccount.passwordHash).getD hasher.referenceHash) with
  | error e => rfl
  | ok verified => exact h.run_settle request.clientIp ipState now verified account s

/-- The program of a login, run alone over stores that answer. -/
theorem run_login (request : LoginRequest) (s : σ) :
    (LoginService.login policy hasher request).run exec s = S.login policy hasher request s := by
  rw [LoginService.login, login]
  change Prog.run (S := authSig) _ (.call .now _) s = _
  rw [Prog.run_call, h.now]
  change Prog.run (S := authSig) _ (.call (.getIp request.clientIp) _) s = _
  rw [Prog.run_call, h.getIp]
  dsimp only
  rw [Prog.bind_ret]
  dsimp only
  by_cases hip : LockoutPolicy.isLocked (S.getIp s request.clientIp) (S.clock s)
  · rw [if_pos hip, if_pos hip]
    rfl
  rw [if_neg hip, if_neg hip, Prog.run_bind, h.run_findAccount]
  dsimp only
  cases S.lookup s request.email with
  | error e => rfl
  | ok account => exact h.run_check request _ _ account s

end Served

end LoginStores

/-! ### The Postgres stores -/

/-- The login, alone and with storage healthy. -/
def attempt (P : AuthPorts ι) (policy : LockoutPolicy) (request : LoginRequest) (db : AuthDb ι) :
    Except LoginError AuthenticatedAdmin × AuthDb ι :=
  (LoginService.login policy P.hasher request).run (AuthDb.serve P) db

/-- The account a submitted email names. -/
def AuthDb.lookup (db : AuthDb ι) (email : String) :
    Except RepositoryError (Option AdminAccount) :=
  match Email.parse email with
  | .ok email => db.findByEmail email
  | .error _ => .ok none

/-- The address of the request has failed once more. -/
def AuthDb.ipFailure (db : AuthDb ι) (policy : LockoutPolicy) (ip : String) : AuthDb ι :=
  db.putIp ip (policy.registerFailure (db.getIp ip) db.clock)

/-- What a login that is not refused for its address comes to, once the password is checked. -/
def judge (policy : LockoutPolicy) (ip : String) (db : AuthDb ι) :
    Option AdminAccount → Bool → Except LoginError AuthenticatedAdmin × AuthDb ι
  | none, _ => (.error .invalidCredentials, db.ipFailure policy ip)
  | some account, verified =>
      if LockoutPolicy.isLocked account.lockout db.clock then
        (.error (LoginService.tooManyAttempts account.lockout db.clock), db.ipFailure policy ip)
      else if verified then
        (.ok ⟨account.id, account.role⟩, (db.updateLockout account.id .clear).putIp ip .clear)
      else
        (.error .invalidCredentials,
          (db.updateLockout account.id (policy.registerFailure account.lockout db.clock)).ipFailure
            policy ip)

/-- The Postgres stores. -/
def AuthDb.stores : LoginStores (AuthDb ι) where
  clock := AuthDb.clock
  getIp := AuthDb.getIp
  putIp := AuthDb.putIp
  findByEmail := AuthDb.findByEmail
  updateLockout := AuthDb.updateLockout

theorem AuthDb.served (P : AuthPorts ι) :
    (AuthDb.stores : LoginStores (AuthDb ι)).Served P.hasher (AuthDb.serve P) where
  now _ := rfl
  getIp _ _ := rfl
  putIp _ _ _ := rfl
  findByEmail _ _ := rfl
  verify _ _ _ := rfl
  updateLockout _ _ _ := rfl

section
variable {P : AuthPorts ι} {policy : LockoutPolicy} {request : LoginRequest} {db : AuthDb ι}

theorem settle_stores (ip : String) (account : Option AdminAccount) (verified : Bool) :
    AuthDb.stores.settle policy ip (db.getIp ip) db.clock db account verified =
      judge policy ip db account verified := by
  cases account <;> rfl

theorem lookup_stores (email : String) : AuthDb.stores.lookup db email = db.lookup email := by
  rw [LoginStores.lookup, AuthDb.lookup]
  cases Email.parse email <;> rfl

/-- **One login.** -/
theorem attempt_eq :
    attempt P policy request db =
      if LockoutPolicy.isLocked (db.getIp request.clientIp) db.clock then
        (.error (LoginService.tooManyAttempts (db.getIp request.clientIp) db.clock), db)
      else
        match db.lookup request.email with
        | .error e => (.error (.internal e.display), db)
        | .ok account =>
            match P.hasher.verify request.password
                ((account.map AdminAccount.passwordHash).getD P.hasher.referenceHash) with
            | .error e => (.error (.internal e.display), db)
            | .ok verified => judge policy request.clientIp db account verified := by
  rw [attempt, (AuthDb.served P).run_login, LoginStores.login, lookup_stores]
  by_cases hip : LockoutPolicy.isLocked (db.getIp request.clientIp) db.clock
  · rw [if_pos hip]
    exact if_pos hip
  rw [if_neg hip]
  refine (if_neg hip).trans ?_
  cases db.lookup request.email with
  | error e => rfl
  | ok account =>
      dsimp only
      cases P.hasher.verify request.password
          ((account.map AdminAccount.passwordHash).getD P.hasher.referenceHash) with
      | error e => rfl
      | ok verified => exact settle_stores request.clientIp account verified

end

end AuthApp.Accounts
