import AuthApp.Accounts.Attempt
import AuthApp.Accounts.Tally

/-!
# Accounts — the bound on guessing

Logins one after another, for any accounts and from any addresses, over stores that keep lockout
states exactly as they are written.  An account and an address are two principals that one login
may move: what it is to either is a mark, and the stored state is the tally of the marks.

* `Outcome`: everything a login can do, with stores and hasher that do not fail.
* `LoginRun.account_tally` and `LoginRun.ip_tally`: both stores are the tally of the run.
* `brute_force_bound`: enough failures lock an account or an address for the delay of the policy,
  whatever password is offered, and fewer do not.
-/

namespace AuthApp.Accounts
open Interleave

variable {ι : Type}

/-! ### Stores that keep lockouts exactly -/

/-- The database, with the lockout states kept as they are written. -/
structure ExactDb (ι : Type) where
  db : AuthDb ι
  accounts : AdminId → LockoutState
  ips : String → LockoutState

namespace ExactDb

/-- Nobody has failed yet. -/
def fresh (db : AuthDb ι) : ExactDb ι := ⟨db, fun _ => .clear, fun _ => .clear⟩

/-- The clock shows `now`. -/
def setClock (s : ExactDb ι) (now : Int) : ExactDb ι :=
  { s with db := { s.db with clock := now } }

def findByEmail (s : ExactDb ι) (email : Email) : Except RepositoryError (Option AdminAccount) :=
  (s.db.findByEmail email).map
    (Option.map fun account => { account with lockout := s.accounts account.id })

def updateLockout (s : ExactDb ι) (id : AdminId) (state : LockoutState) : ExactDb ι :=
  { s with accounts := Function.update s.accounts id state }

def putIp (s : ExactDb ι) (ip : String) (state : LockoutState) : ExactDb ι :=
  { s with ips := Function.update s.ips ip state }

/-- What each call does when it is served. -/
def serve (P : AuthPorts ι) : Exec authSig (ExactDb ι)
  | .findByEmail email, s => (s.findByEmail email, s)
  | .updateLockout id state, s => (.ok (), s.updateLockout id state)
  | .getIp ip, s => (.ok (s.ips ip), s)
  | .putIp ip state, s => (.ok (), s.putIp ip state)
  | op, s => ((AuthDb.serve P op s.db).1, { s with db := (AuthDb.serve P op s.db).2 })

def stores : LoginStores (ExactDb ι) where
  clock s := s.db.clock
  getIp := ips
  putIp := putIp
  findByEmail := findByEmail
  updateLockout := updateLockout

theorem served (P : AuthPorts ι) :
    (stores : LoginStores (ExactDb ι)).Served P.hasher (serve P) where
  now _ := rfl
  getIp _ _ := rfl
  putIp _ _ _ := rfl
  findByEmail _ _ := rfl
  verify _ _ _ := rfl
  updateLockout _ _ _ := rfl

end ExactDb

/-! ### Runs of logins -/

/-- A login at the instant `now`, alone. -/
def exactLogin (P : AuthPorts ι) (policy : LockoutPolicy) (now : Int) (request : LoginRequest)
    (s : ExactDb ι) : Except LoginError AuthenticatedAdmin × ExactDb ι :=
  (LoginService.login policy P.hasher request).run (ExactDb.serve P) (s.setClock now)

/-- The account a submitted email names. -/
def AuthDb.accountId (db : AuthDb ι) (email : String) : Option AdminId :=
  match db.lookup email with
  | .ok (some account) => some account.id
  | _ => none

/-- A login that was made: the account it was for, whether its address was locked, and what it
was answered. -/
structure Visit where
  now : Int
  request : LoginRequest
  account : Option AdminId
  ipLocked : Bool
  result : Except LoginError AuthenticatedAdmin

/-- The record of a login to the accounts of `db` at the instant `now`. -/
def visit (P : AuthPorts ι) (policy : LockoutPolicy) (db : AuthDb ι) (now : Int)
    (request : LoginRequest) (s : ExactDb ι) : Visit where
  now := now
  request := request
  account := db.accountId request.email
  ipLocked := LockoutPolicy.isLocked (s.ips request.clientIp) now
  result := (exactLogin P policy now request s).1

/-- Logins one after another, under a clock that does not go back, from the accounts of `db` with
nothing held against anyone.  The newest comes first. -/
inductive LoginRun (P : AuthPorts ι) (policy : LockoutPolicy) (db : AuthDb ι) :
    List Visit → ExactDb ι → Prop where
  | nil : LoginRun P policy db [] (.fresh db)
  | cons {past : List Visit} {s : ExactDb ι} (h : LoginRun P policy db past s) (now : Int)
      (request : LoginRequest) (hnow : ∀ v ∈ past, v.now ≤ now) :
      LoginRun P policy db (visit P policy db now request s :: past)
        (exactLogin P policy now request s).2

/-- What a login is to an account. -/
def Visit.accountMark (id : AdminId) (v : Visit) : Mark :=
  if v.account = some id then
    match v.result with
    | .ok _ => .success
    | .error .invalidCredentials => .failure
    | .error _ => .other
  else .other

/-- What a login is to an address: whatever fails while it is not locked counts. -/
def Visit.ipMark (ip : String) (v : Visit) : Mark :=
  if v.request.clientIp = ip then
    match v.result with
    | .ok _ => .success
    | .error _ => if v.ipLocked then .other else .failure
  else .other

/-- The consecutive `InvalidCredentials` of an account, since its last success. -/
def accountFailures (id : AdminId) (past : List Visit) : Nat :=
  failures (past.map (Visit.accountMark id))

/-- The failed requests of an address made while it was not locked, since its last success. -/
def ipFailures (ip : String) (past : List Visit) : Nat :=
  failures (past.map (Visit.ipMark ip))

/-- Neither the accounts nor the hasher fail. -/
structure Healthy (P : AuthPorts ι) (db : AuthDb ι) : Prop where
  lookups : ∀ email, ∃ found, db.lookup email = .ok found
  verifies : ∀ email account, db.lookup email = .ok (some account) →
    ∀ password, ∃ b, P.hasher.verify password account.passwordHash = .ok b

/-- The login is answered `TooManyAttempts`, and its answer and what it leaves in the stores are
the same whatever password it offers. -/
def Rejects (P : AuthPorts ι) (policy : LockoutPolicy) (now : Int) (request : LoginRequest)
    (s : ExactDb ι) : Prop :=
  ∃ retryAfterSecs s', ∀ password, exactLogin P policy now { request with password } s =
    (.error (.tooManyAttempts retryAfterSecs), s')

/-- The bound on guessing, for the next login after a run. -/
structure BruteForceBound (P : AuthPorts ι) (policy : LockoutPolicy) (db : AuthDb ι)
    (past : List Visit) (s : ExactDb ι) : Prop where
  account : ∀ later v earlier id, past = later ++ v :: earlier → v.account = some id →
    v.result = .error .invalidCredentials →
    policy.threshold ≤ accountFailures id (v :: earlier) →
    ∀ now request, (∀ w ∈ past, w.now ≤ now) →
      now < v.now + policy.lockDuration (min (accountFailures id (v :: earlier)) u32Max) →
      db.accountId request.email = some id → Rejects P policy now request s
  address : ∀ later v earlier ip, past = later ++ v :: earlier → v.request.clientIp = ip →
    (∃ e, v.result = .error e) → v.ipLocked = false →
    policy.threshold ≤ ipFailures ip (v :: earlier) →
    ∀ now request, (∀ w ∈ past, w.now ≤ now) →
      now < v.now + policy.lockDuration (min (ipFailures ip (v :: earlier)) u32Max) →
      request.clientIp = ip → Rejects P policy now request s
  calm : ∀ now request, (∀ w ∈ past, w.now ≤ now) →
    (∀ id, db.accountId request.email = some id → accountFailures id past < policy.threshold) →
    ipFailures request.clientIp past < policy.threshold →
    ∀ retryAfterSecs, (exactLogin P policy now request s).1 ≠
      .error (.tooManyAttempts retryAfterSecs)

/-! ### One login -/

/-- The account, as the exact stores answer it. -/
def ExactDb.held (s : ExactDb ι) (account : AdminAccount) : AdminAccount :=
  { account with lockout := s.accounts account.id }

/-- The address of the request has failed once more. -/
def ExactDb.ipFailure (s : ExactDb ι) (policy : LockoutPolicy) (now : Int) (ip : String) :
    ExactDb ι :=
  s.putIp ip (policy.registerFailure (s.ips ip) now)

/-- Everything a login can do, with stores and hasher that do not fail. -/
inductive Outcome (policy : LockoutPolicy) (db : AuthDb ι) (now : Int) (request : LoginRequest)
    (s : ExactDb ι) : Except LoginError AuthenticatedAdmin → ExactDb ι → Prop where
  | ipLocked (h : LockoutPolicy.isLocked (s.ips request.clientIp) now = true) :
      Outcome policy db now request s
        (.error (LoginService.tooManyAttempts (s.ips request.clientIp) now)) (s.setClock now)
  | unknown (h : LockoutPolicy.isLocked (s.ips request.clientIp) now = false)
      (hn : db.accountId request.email = none) :
      Outcome policy db now request s (.error .invalidCredentials)
        ((s.setClock now).ipFailure policy now request.clientIp)
  | locked (h : LockoutPolicy.isLocked (s.ips request.clientIp) now = false) (id : AdminId)
      (hid : db.accountId request.email = some id)
      (hl : LockoutPolicy.isLocked (s.accounts id) now = true) :
      Outcome policy db now request s
        (.error (LoginService.tooManyAttempts (s.accounts id) now))
        ((s.setClock now).ipFailure policy now request.clientIp)
  | right (h : LockoutPolicy.isLocked (s.ips request.clientIp) now = false)
      (admin : AuthenticatedAdmin) (hid : db.accountId request.email = some admin.id)
      (hl : LockoutPolicy.isLocked (s.accounts admin.id) now = false) :
      Outcome policy db now request s (.ok admin)
        (((s.setClock now).updateLockout admin.id .clear).putIp request.clientIp .clear)
  | wrong (h : LockoutPolicy.isLocked (s.ips request.clientIp) now = false) (id : AdminId)
      (hid : db.accountId request.email = some id)
      (hl : LockoutPolicy.isLocked (s.accounts id) now = false) :
      Outcome policy db now request s (.error .invalidCredentials)
        (((s.setClock now).updateLockout id (policy.registerFailure (s.accounts id) now)).ipFailure
          policy now request.clientIp)

section
variable {P : AuthPorts ι} {policy : LockoutPolicy} {db : AuthDb ι} {now : Int}
  {request : LoginRequest} {s : ExactDb ι}

theorem AuthDb.accountId_eq_some_iff {email : String} {id : AdminId} :
    db.accountId email = some id ↔ ∃ account, db.lookup email = .ok (some account) ∧
      account.id = id := by
  rw [accountId]
  split
  · next account h => simp [h]
  · next h =>
      refine iff_of_false nofun ?_
      rintro ⟨account, ha, -⟩
      exact h account ha

theorem AuthDb.accountId_eq_none {email : String} (h : db.lookup email = .ok none) :
    db.accountId email = none := by
  rw [accountId, h]

/-- The exact stores find the accounts of the database, with the lockouts they hold. -/
theorem ExactDb.lookup_stores (h : s.db.admins = db.admins) (email : String) :
    ExactDb.stores.lookup (s.setClock now) email = (db.lookup email).map (Option.map s.held) := by
  rw [LoginStores.lookup, AuthDb.lookup]
  cases Email.parse email with
  | error e => rfl
  | ok email =>
      have hfind : s.db.findByEmail email = db.findByEmail email := by
        rw [AuthDb.findByEmail, AuthDb.findByEmail, h]
      change (s.db.findByEmail email).map _ = _
      rw [hfind]
      rfl

theorem exactLogin_eq : exactLogin P policy now request s =
    ExactDb.stores.login policy P.hasher request (s.setClock now) :=
  (ExactDb.served P).run_login request (s.setClock now)

/-- A locked address is refused before its account is looked up. -/
theorem exactLogin_ipLocked (hip : LockoutPolicy.isLocked (s.ips request.clientIp) now = true) :
    exactLogin P policy now request s =
      (.error (LoginService.tooManyAttempts (s.ips request.clientIp) now), s.setClock now) := by
  rw [exactLogin_eq, LoginStores.login]
  exact if_pos hip

/-- A login for an account, from an address that is not locked. -/
theorem exactLogin_found (policy : LockoutPolicy) (hh : Healthy P db) (hs : s.db.admins = db.admins)
    (hip : LockoutPolicy.isLocked (s.ips request.clientIp) now = false) {account : AdminAccount}
    (ha : db.lookup request.email = .ok (some account)) :
    ∃ verified, exactLogin P policy now request s =
      ExactDb.stores.settle policy request.clientIp (s.ips request.clientIp) now (s.setClock now)
        (some (s.held account)) verified := by
  obtain ⟨verified, hv⟩ := hh.verifies _ account ha request.password
  have hfound :
      ExactDb.stores.lookup (s.setClock now) request.email = .ok (some (s.held account)) := by
    rw [ExactDb.lookup_stores hs, ha]
    rfl
  exact ⟨verified, exactLogin_eq.trans (LoginStores.login_of_verified _ policy hip hfound hv)⟩

theorem exactLogin_unknown (hs : s.db.admins = db.admins)
    (hip : LockoutPolicy.isLocked (s.ips request.clientIp) now = false)
    (hn : db.lookup request.email = .ok none) :
    exactLogin P policy now request s =
      (.error .invalidCredentials, (s.setClock now).ipFailure policy now request.clientIp) := by
  obtain ⟨verified, hv⟩ := P.hasher.reference_valid request.password
  have hfound : ExactDb.stores.lookup (s.setClock now) request.email = .ok none := by
    rw [ExactDb.lookup_stores hs, hn]
    rfl
  exact exactLogin_eq.trans (LoginStores.login_of_verified _ policy hip hfound hv)

/-- A locked account is refused, whatever the password. -/
theorem exactLogin_locked (policy : LockoutPolicy) (request : LoginRequest) (hh : Healthy P db)
    (hs : s.db.admins = db.admins)
    (hip : LockoutPolicy.isLocked (s.ips request.clientIp) now = false) {id : AdminId}
    (hid : db.accountId request.email = some id)
    (hl : LockoutPolicy.isLocked (s.accounts id) now = true) :
    exactLogin P policy now request s =
      (.error (LoginService.tooManyAttempts (s.accounts id) now),
        (s.setClock now).ipFailure policy now request.clientIp) := by
  obtain ⟨account, ha, rfl⟩ := AuthDb.accountId_eq_some_iff.mp hid
  obtain ⟨verified, hlogin⟩ := exactLogin_found policy hh hs hip ha
  rw [hlogin]
  exact if_pos hl

theorem exactLogin_outcome (hh : Healthy P db) (hs : s.db.admins = db.admins)
    (policy : LockoutPolicy) (now : Int) (request : LoginRequest) :
    Outcome policy db now request s (exactLogin P policy now request s).1
      (exactLogin P policy now request s).2 := by
  by_cases hip : LockoutPolicy.isLocked (s.ips request.clientIp) now = true
  · rw [exactLogin_ipLocked hip]
    exact .ipLocked hip
  have hip := eq_false_of_ne_true hip
  obtain ⟨found, hfound⟩ := hh.lookups request.email
  cases found with
  | none =>
      rw [exactLogin_unknown hs hip hfound]
      exact .unknown hip (AuthDb.accountId_eq_none hfound)
  | some account =>
      have hid := AuthDb.accountId_eq_some_iff.mpr ⟨account, hfound, rfl⟩
      by_cases hl : LockoutPolicy.isLocked (s.accounts account.id) now = true
      · rw [exactLogin_locked policy request hh hs hip hid hl]
        exact .locked hip account.id hid hl
      obtain ⟨verified, hlogin⟩ := exactLogin_found policy hh hs hip hfound
      have hheld : ¬ LockoutPolicy.isLocked (s.held account).lockout now = true := hl
      rw [hlogin, LoginStores.settle, if_neg hheld]
      have hl := eq_false_of_ne_true hl
      cases verified with
      | true => exact .right hip ⟨account.id, account.role⟩ hid hl
      | false => exact .wrong hip account.id hid hl

/-- What a login leaves of the database is its accounts. -/
theorem Outcome.admins {r : Except LoginError AuthenticatedAdmin} {s' : ExactDb ι}
    (h : Outcome policy db now request s r s') : s'.db.admins = s.db.admins := by
  cases h <;> rfl

section Marks
variable {v : Visit}

theorem accountMark_of_ne {id : AdminId} (h : v.account ≠ some id) : v.accountMark id = .other :=
  if_neg h

theorem accountMark_of_ok {id : AdminId} {admin : AuthenticatedAdmin} (h : v.account = some id)
    (hr : v.result = .ok admin) : v.accountMark id = .success := by
  rw [Visit.accountMark, if_pos h, hr]

theorem accountMark_of_invalid {id : AdminId} (h : v.account = some id)
    (hr : v.result = .error .invalidCredentials) : v.accountMark id = .failure := by
  rw [Visit.accountMark, if_pos h, hr]

theorem accountMark_of_tooMany {id : AdminId} {retryAfterSecs : Option Nat}
    (hr : v.result = .error (.tooManyAttempts retryAfterSecs)) : v.accountMark id = .other := by
  rw [Visit.accountMark, hr]
  exact ite_self _

theorem ipMark_of_ne {ip : String} (h : v.request.clientIp ≠ ip) : v.ipMark ip = .other := if_neg h

theorem ipMark_of_ok {ip : String} {admin : AuthenticatedAdmin} (h : v.request.clientIp = ip)
    (hr : v.result = .ok admin) : v.ipMark ip = .success := by
  rw [Visit.ipMark, if_pos h, hr]

theorem ipMark_of_error {ip : String} {e : LoginError} (h : v.request.clientIp = ip)
    (hl : v.ipLocked = false) (hr : v.result = .error e) : v.ipMark ip = .failure := by
  rw [Visit.ipMark, if_pos h, hr]
  simp only [hl, Bool.false_eq_true, if_false]

theorem ipMark_of_locked {ip : String} {e : LoginError} (hl : v.ipLocked = true)
    (hr : v.result = .error e) : v.ipMark ip = .other := by
  rw [Visit.ipMark, hr]
  simp only [hl, if_true, ite_self]

end Marks

/-- A login moves an account as its mark says, and not while it is locked. -/
theorem Outcome.account {v : Visit} {s' : ExactDb ι}
    (h : Outcome policy db now request s v.result s')
    (ha : v.account = db.accountId request.email) (id : AdminId) :
    (v.accountMark id).Moves policy now (s.accounts id) (s'.accounts id) := by
  generalize hr : v.result = r at h
  cases h with
  | ipLocked hip => exact .of_other rfl (accountMark_of_tooMany hr)
  | unknown hip hn => exact .of_other rfl (accountMark_of_ne (by simp [ha, hn]))
  | locked hip id' hid hl => exact .of_other rfl (accountMark_of_tooMany hr)
  | right hip admin hid hl =>
      by_cases he : admin.id = id
      · subst he
        exact .of_success hl (Function.update_self ..) (accountMark_of_ok (ha.trans hid) hr)
      · exact .of_other (Function.update_of_ne (Ne.symm he) ..)
          (accountMark_of_ne (by simpa [ha, hid] using he))
  | wrong hip id' hid hl =>
      by_cases he : id' = id
      · subst he
        exact .of_failure hl (Function.update_self ..) (accountMark_of_invalid (ha.trans hid) hr)
      · exact .of_other (Function.update_of_ne (Ne.symm he) ..)
          (accountMark_of_ne (by simpa [ha, hid] using he))

/-- A login moves an address as its mark says, and not while it is locked. -/
theorem Outcome.ip {v : Visit} {s' : ExactDb ι}
    (h : Outcome policy db now request s v.result s') (hrequest : v.request = request)
    (hlocked : v.ipLocked = LockoutPolicy.isLocked (s.ips request.clientIp) now) (ip : String) :
    (v.ipMark ip).Moves policy now (s.ips ip) (s'.ips ip) := by
  subst hrequest
  generalize hr : v.result = r at h
  by_cases hip : v.request.clientIp = ip
  · subst hip
    cases h with
    | ipLocked h => exact .of_other rfl (ipMark_of_locked (hlocked.trans h) hr)
    | unknown h hn =>
        exact .of_failure h (Function.update_self ..) (ipMark_of_error rfl (hlocked.trans h) hr)
    | locked h id hid hl =>
        exact .of_failure h (Function.update_self ..) (ipMark_of_error rfl (hlocked.trans h) hr)
    | right h admin hid hl =>
        exact .of_success h (Function.update_self ..) (ipMark_of_ok rfl hr)
    | wrong h id hid hl =>
        exact .of_failure h (Function.update_self ..) (ipMark_of_error rfl (hlocked.trans h) hr)
  · -- the address of another request is left alone
    refine .of_other ?_ (ipMark_of_ne hip)
    cases h with
    | ipLocked h => rfl
    | unknown h hn => exact Function.update_of_ne (Ne.symm hip) ..
    | locked h id hid hl => exact Function.update_of_ne (Ne.symm hip) ..
    | right h admin hid hl => exact Function.update_of_ne (Ne.symm hip) ..
    | wrong h id hid hl => exact Function.update_of_ne (Ne.symm hip) ..

end

/-! ### Both stores are tallies of the run -/

section Runs
variable {P : AuthPorts ι} {policy : LockoutPolicy} {db : AuthDb ι} {past : List Visit}
  {s : ExactDb ι}

theorem visit_account (now : Int) (request : LoginRequest) :
    (visit P policy db now request s).account = db.accountId request.email := by
  rw [visit]

theorem LoginRun.admins (hh : Healthy P db) (h : LoginRun P policy db past s) :
    s.db.admins = db.admins := by
  induction h with
  | nil => rfl
  | cons h now request hnow ih =>
      exact (exactLogin_outcome hh ih policy now request).admins.trans ih

/-- What an account holds is the tally of what the logins were to it. -/
theorem LoginRun.account_tally (hh : Healthy P db) (h : LoginRun P policy db past s)
    (id : AdminId) :
    Tally policy (past.map fun v => (v.now, v.accountMark id)) (s.accounts id) := by
  induction h with
  | nil => exact .nil
  | cons h now request hnow ih =>
      have houtcome := exactLogin_outcome hh (h.admins hh) policy now request
      obtain ⟨hact, hother⟩ := houtcome.account (visit_account now request) id
      rw [hact]
      exact ih.cons now _ hother

/-- What is held against an address is the tally of what the logins were to it. -/
theorem LoginRun.ip_tally (hh : Healthy P db) (h : LoginRun P policy db past s) (ip : String) :
    Tally policy (past.map fun v => (v.now, v.ipMark ip)) (s.ips ip) := by
  induction h with
  | nil => exact .nil
  | cons h now request hnow ih =>
      have houtcome := exactLogin_outcome hh (h.admins hh) policy now request
      obtain ⟨hact, hother⟩ := houtcome.ip (v := visit P policy db now request _) rfl rfl ip
      rw [hact]
      exact ih.cons now _ hother

theorem rejects_address {now : Int} {request : LoginRequest}
    (hip : LockoutPolicy.isLocked (s.ips request.clientIp) now = true) :
    Rejects P policy now request s :=
  ⟨(LockoutPolicy.retryAfter (s.ips request.clientIp) now).map asSecs, s.setClock now,
    fun _ => exactLogin_ipLocked hip⟩

theorem LoginRun.rejects_account (hh : Healthy P db) (h : LoginRun P policy db past s)
    {now : Int} {request : LoginRequest} {id : AdminId}
    (hid : db.accountId request.email = some id)
    (hl : LockoutPolicy.isLocked (s.accounts id) now = true) : Rejects P policy now request s := by
  cases hip : LockoutPolicy.isLocked (s.ips request.clientIp) now with
  | true => exact rejects_address hip
  | false =>
      refine ⟨(LockoutPolicy.retryAfter (s.accounts id) now).map asSecs,
        (s.setClock now).ipFailure policy now request.clientIp, fun password => ?_⟩
      exact exactLogin_locked policy { request with password } hh (h.admins hh) hip hid hl

/-- A login that is answered `TooManyAttempts` met a lock. -/
theorem Outcome.tooMany {now : Int} {request : LoginRequest} {retryAfterSecs : Option Nat}
    {r : Except LoginError AuthenticatedAdmin} {s' : ExactDb ι}
    (h : Outcome policy db now request s r s')
    (hr : r = .error (.tooManyAttempts retryAfterSecs)) :
    LockoutPolicy.isLocked (s.ips request.clientIp) now = true ∨
      ∃ id, db.accountId request.email = some id ∧
        LockoutPolicy.isLocked (s.accounts id) now = true := by
  cases h with
  | ipLocked h => exact .inl h
  | locked h id hid hl => exact .inr ⟨id, hid, hl⟩
  | unknown h hn => cases hr
  | right h admin hid hl => cases hr
  | wrong h id hid hl => cases hr

/-- A failure that is the threshold's or a later one locks the principal the marks are for. -/
theorem isLocked_of_failure (hmax : policy.maxAttempts ≤ u32Max) {f : Visit → Mark}
    {state : LockoutState} {later earlier : List Visit} {v : Visit}
    (h : Tally policy ((later ++ v :: earlier).map fun v => (v.now, f v)) state)
    (hm : f v = .failure) (hk : policy.threshold ≤ failures ((v :: earlier).map f)) {now : Int}
    (hpast : ∀ w ∈ later ++ v :: earlier, w.now ≤ now)
    (hnow : now < v.now + policy.lockDuration (min (failures ((v :: earlier).map f)) u32Max)) :
    LockoutPolicy.isLocked state now = true := by
  rw [List.map_append, List.map_cons, hm] at h
  have hcount : failuresOf ((v.now, .failure) :: earlier.map fun v => (v.now, f v)) =
      failures ((v :: earlier).map f) := by
    rw [failuresOf, List.map_cons, List.map_map, List.map_cons, hm]
    rfl
  rw [← hcount] at hk hnow
  have hlock := h.locked_of_failure (max_le hmax (by decide)) hk fun w hw => ?_
  · exact LockoutPolicy.isLocked_iff.mpr ⟨_, hlock, hnow⟩
  · obtain ⟨u, hu, rfl⟩ := List.mem_map.mp hw
    exact (hpast u (List.mem_append_left _ hu)).trans_lt hnow

/-- Below the threshold the principal the marks are for is not locked. -/
theorem unlocked_of_failures {f : Visit → Mark} {state : LockoutState}
    (h : Tally policy (past.map fun v => (v.now, f v)) state)
    (hlt : failures (past.map f) < policy.threshold) (now : Int) :
    LockoutPolicy.isLocked state now = false := by
  refine h.unlocked ?_ now
  rw [failuresOf, List.map_map]
  exact hlt

/-- **The bound on guessing.** For every run of logins over stores that keep lockouts exactly: from
the threshold on, each counted failure locks its account or its address for its delay, so that
every login is refused whatever its password, and below the threshold none is refused. -/
theorem brute_force_bound (hmax : policy.maxAttempts ≤ u32Max) (hh : Healthy P db)
    (h : LoginRun P policy db past s) : BruteForceBound P policy db past s where
  account later v earlier id hpast ha hr hk now request hle hnow hid := by
    subst hpast
    exact h.rejects_account hh hid (isLocked_of_failure hmax (h.account_tally hh id)
      (accountMark_of_invalid ha hr) hk hle hnow)
  address later v earlier ip hpast hv he hl hk now request hle hnow hip := by
    subst hpast
    subst hip
    obtain ⟨e, hr⟩ := he
    have hlocked := isLocked_of_failure hmax (h.ip_tally hh request.clientIp)
      (ipMark_of_error hv hl hr) hk hle hnow
    exact rejects_address hlocked
  calm now request hle haccount hip retryAfterSecs hr := by
    rcases (exactLogin_outcome hh (h.admins hh) policy now request).tooMany hr with
      hl | ⟨id, hid, hl⟩
    · rw [unlocked_of_failures (h.ip_tally hh request.clientIp) hip now] at hl
      cases hl
    · rw [unlocked_of_failures (h.account_tally hh id) (haccount id hid) now] at hl
      cases hl

end Runs

/-! ### Two wrong passwords -/

/-- Accounts whose roles parse are found. -/
theorem AuthDb.lookup_ok {db : AuthDb ι}
    (hroles : ∀ row ∈ db.admins.table.rows, ∃ role, Role.parse row.role = .ok role)
    (email : String) : ∃ found, db.lookup email = .ok found := by
  rw [lookup]
  cases Email.parse email with
  | error e => exact ⟨none, rfl⟩
  | ok email =>
      dsimp only
      rw [findByEmail]
      cases hrow : db.admins.findByEmail email with
      | none => exact ⟨none, rfl⟩
      | some row =>
          obtain ⟨role, hr⟩ := hroles row (AdminTable.findByEmail_eq_some_iff.mp hrow).1
          dsimp only
          rw [rowToAccount_of_findByEmail hrow hr]
          exact ⟨_, rfl⟩

def guessedRow : AdminRow :=
  ⟨⟨"a"⟩, editorEmail.address, "secret", 0, none, editorRole.name, none⟩

/-- One administrator. -/
def guessedDb : AuthDb Unit :=
  { noAdmins with admins := (noAdmins.admins.insert? guessedRow).get rfl }

theorem guessed_healthy : Healthy plainPorts guessedDb where
  lookups := AuthDb.lookup_ok fun row hrow => by
    have hrows : guessedDb.admins.table.rows = [guessedRow] := rfl
    rw [hrows, List.mem_singleton] at hrow
    subst hrow
    exact ⟨editorRole, Role.parse_name editorRole⟩
  verifies _ _ _ _ := ⟨_, rfl⟩

/-- Two failures lock. -/
def twoFailures : LockoutPolicy := ⟨2, fromSecs 60, fromSecs 3600⟩

def wrongGuess : LoginRequest := ⟨"ed@example.com", "guess", "10.0.0.1"⟩

/-- What the first wrong password leaves. -/
def onceGuessed : ExactDb Unit :=
  (exactLogin plainPorts twoFailures 0 wrongGuess (.fresh guessedDb)).2

/-- What the second leaves, a second later. -/
def twiceGuessed : ExactDb Unit :=
  (exactLogin plainPorts twoFailures (fromSecs 1) wrongGuess onceGuessed).2

def guesses : List Visit :=
  [visit plainPorts twoFailures guessedDb (fromSecs 1) wrongGuess onceGuessed,
    visit plainPorts twoFailures guessedDb 0 wrongGuess (.fresh guessedDb)]

/-- Two wrong passwords lock the account, also for its own password from another address. -/
theorem guessed_account :
    LoginRun plainPorts twoFailures guessedDb guesses twiceGuessed ∧
      guesses.map Visit.result = [.error .invalidCredentials, .error .invalidCredentials] ∧
      Rejects plainPorts twoFailures (fromSecs 30) ⟨"ed@example.com", "secret", "10.0.0.2"⟩
        twiceGuessed := by
  have hrun : LoginRun plainPorts twoFailures guessedDb guesses twiceGuessed := by
    refine (LoginRun.nil.cons 0 wrongGuess (by simp)).cons (fromSecs 1) wrongGuess fun v hv => ?_
    obtain rfl := List.mem_singleton.mp hv
    decide
  have hresults : guesses.map Visit.result =
      [.error .invalidCredentials, .error .invalidCredentials] := by decide +kernel
  have hid : guessedDb.accountId wrongGuess.email = some ⟨"a"⟩ := rfl
  refine ⟨hrun, hresults, (brute_force_bound (by decide) guessed_healthy hrun).account [] _ _ ⟨"a"⟩
    rfl hid (List.cons.inj hresults).1 (by decide +kernel) _ _ (fun w hw => ?_) (by decide +kernel)
    hid⟩
  rcases List.mem_cons.mp hw with rfl | hw
  · decide
  · obtain rfl := List.mem_singleton.mp hw
    decide

end AuthApp.Accounts
