import AuthApp.Accounts.Aborted
import AuthApp.Http.AuditTrail

/-!
# Http — what rejects a login

A login meets four limits in turn: the windows of its address and of its account, and then the
locks of the two.  It is answered 429 for the first that rejects it.

* `login_rejects`: what rejected a login that is answered 429, under any fates of its calls.
* `exists_login_of_rejects`: a login that is to be rejected is answered 429.
-/

namespace AuthApp.Http
open Interleave Accounts Sessions Audit

variable {ι τ υ : Type}

/-! ### What rejects a login -/

/-- What a login is counted against or locked by, in the order that it is asked. -/
inductive Limit where
  | addressWindow
  | accountWindow
  | addressLock
  | accountLock
  deriving DecidableEq, Repr

/-- The limits that are asked before. -/
def Limit.before : Limit → List Limit
  | .addressWindow => []
  | .accountWindow => [.addressWindow]
  | .addressLock => [.addressWindow, .accountWindow]
  | .accountLock => [.addressWindow, .accountWindow, .addressLock]

/-- The start of the window that rejects a request, and the time left of it. -/
def RateLimiter.rejection (config : RateLimitConfig) (windows : Windows) (key : String)
    (now : Int) : Option (Int × Nat) :=
  match (check config windows key now).1 with
  | .ok () => none
  | .error exceeded => some ((current config windows key now).startedAt, exceeded.retryAfter)

/-- The deadline of a lock that is held, and the time left of it. -/
def lockRejection (state : LockoutState) (now : Int) : Option (Int × Nat) :=
  state.lockedUntil.bind fun til => (LockoutPolicy.retryAfter state now).map fun left => (til, left)

def addressKey (request : Request) : String := "ip:" ++ request.clientIp

def accountKey (body : LoginBody) : String := "acct:" ++ normalize body.email

namespace SignInSite
variable (site : SignInSite ι τ υ) (body : LoginBody) (request : Request)

/-- The windows after a login is counted against its address. -/
def addressCounted (windows : Windows) (db : AuthDb ι) : Windows :=
  (RateLimiter.check site.rateLimit windows (addressKey request) db.clock).2

/-- What each limit says of a login: the start of the window or the deadline of the lock that
rejects it, and the time left of it. -/
def rejection (windows : Windows) (db : AuthDb ι) : Limit → Option (Int × Nat)
  | .addressWindow => RateLimiter.rejection site.rateLimit windows (addressKey request) db.clock
  | .accountWindow =>
      RateLimiter.rejection site.rateLimit (site.addressCounted request windows db)
        (accountKey body) db.clock
  | .addressLock => lockRejection (db.getIp request.clientIp) db.clock
  | .accountLock =>
      match db.lookup body.email with
      | .ok (some account) =>
          if (site.ports.hasher.verify body.password account.passwordHash).isOk then
            lockRejection account.lockout db.clock
          else none
      | _ => none

/-- A limit rejects a login that those before it let through. -/
def Rejects (windows : Windows) (db : AuthDb ι) (limit : Limit) (mark : Int) (left : Nat) : Prop :=
  site.rejection body request windows db limit = some (mark, left) ∧
    ∀ other ∈ limit.before, site.rejection body request windows db other = none

/-- The windows that a rejected login leaves. -/
def windowsAfter (windows : Windows) (db : AuthDb ι) : Limit → Windows
  | .addressWindow => site.addressCounted request windows db
  | _ => (RateLimiter.check site.rateLimit (site.addressCounted request windows db)
      (accountKey body) db.clock).2

/-- The database that a rejected login leaves: one for a locked account is charged to its
address. -/
def dbAfter (db : AuthDb ι) : Limit → AuthDb ι
  | .accountLock => db.ipFailure site.lockout request.clientIp
  | _ => db

/-- A login, alone, whose calls meet these fates. -/
def login (fates : List Fate) (s : SignInState ι τ υ) :
    Option (JsonResponse LoginOk) × SignInState ι τ υ :=
  (loginHandler site.lockout site.ports.hasher site.policy body request).runFates site.exec fates s

end SignInSite

/-! ### Its parts, alone -/

theorem checkKeys_run (config : RateLimitConfig) (windows : Windows) (now : Int)
    (key key' : String) :
    (checkKeys now [key, key']).run (RateLimiter.exec config) windows =
      match RateLimiter.check config windows key now with
      | (.error exceeded, windows') => (.error exceeded, windows')
      | (.ok (), windows') => RateLimiter.check config windows' key' now := by
  change Prog.run (S := limitSig) _ (.call (.check key now) _) windows = _
  rw [Prog.run_call, RateLimiter.exec]
  rcases hfirst : RateLimiter.check config windows key now with ⟨_ | ⟨⟩, windows'⟩
  · rfl
  dsimp only
  change Prog.run (S := limitSig) _ (.call (.check key' now) _) windows' = _
  rw [Prog.run_call, RateLimiter.exec]
  rcases hsecond : RateLimiter.check config windows' key' now with ⟨_ | ⟨⟩, windows''⟩
  · rfl
  · rfl

theorem flowExec_inl (P : AuthPorts ι) (G : OAuthSecretGenerator τ) (fate : Fate) (op : AuthOp)
    (s : AuthDb ι × τ) : flowExec P G fate (.inl op) s =
      ((AuthDb.exec P fate op s.1).1, (AuthDb.exec P fate op s.1).2, s.2) := by
  cases fate with
  | served => rfl
  | refused msg => cases op <;> rfl
  | unacknowledged msg => cases op <;> rfl

/-- What the credential check came to decides the status: only one that was refused for its attempts
is answered 429. -/
theorem answerLogin_status (policy : SessionPolicy) (body : LoginBody) (request : Request)
    (now : Int) (result : Except LoginError AuthenticatedAdmin) :
    Prog.Returns (fun _ r => r.status = 429 →
        ∃ retryAfter, result = .error (.tooManyAttempts retryAfter) ∧ r.retryAfter = retryAfter) []
      (answerLogin policy body request now result) := by
  rcases result with (_ | retryAfter | msg) | authenticated
  · rintro (e | id)
    · exact fun h => absurd h (by decide)
    · exact fun h => absurd h (by decide)
  · rintro (e | id)
    · exact fun _ => ⟨retryAfter, rfl, rfl⟩
    · exact fun _ => ⟨retryAfter, rfl, rfl⟩
  · exact fun h => absurd h (by decide)
  · rintro (e | id) now token csrfToken (e | ⟨⟩) h
    · exact absurd h (by decide)
    · exact absurd h (show ¬ 200 = 429 by decide)
    · exact absurd h (by decide)
    · exact absurd h (show ¬ 200 = 429 by decide)

namespace SignInSite
variable {site : SignInSite ι τ υ} {body : LoginBody} {request : Request} {fates : List Fate}
  {s s' : SignInState ι τ υ} {response : JsonResponse LoginOk}

theorem exec_now (fate : Fate) (s : SignInState ι τ υ) :
    site.exec fate (.inr (.inl (.inl .now))) s = (s.2.1.1.clock, s) := by
  cases fate <;> rfl

/-- The calls of the credential check, under the fates of the whole. -/
theorem runFates_auth {α : Type} {p : Prog authSig α} {a : α}
    (h : (((p.inl : Prog flowSig α).inl : Prog httpSig α).inr : Prog signInSig α).runFates site.exec
      fates s = (some a, s')) :
    p.runFates (AuthDb.exec site.ports) fates s.2.1.1 = (some a, s'.2.1.1) ∧ s'.1 = s.1 := by
  rw [Prog.runFates_inr (f := site.toOAuthSite.exec) (fun _ _ _ => rfl),
    Prog.runFates_inl (f := flowExec site.ports site.secrets) (fun _ _ _ => rfl),
    Prog.runFates_inl (f := AuthDb.exec site.ports) (flowExec_inl site.ports site.secrets)] at h
  obtain ⟨hresult, rfl⟩ := Prod.mk.inj h
  exact ⟨Prod.ext hresult rfl, rfl⟩

theorem run_auth {α : Type} (p : Prog authSig α) (s : SignInState ι τ υ) :
    ((((p.inl : Prog flowSig α).inl : Prog httpSig α).inr : Prog signInSig α).run
      (site.exec .served) s).1 = (p.run (AuthDb.serve site.ports) s.2.1.1).1 := by
  rw [Prog.run_inr (f := site.toOAuthSite.exec .served) (fun _ _ => rfl),
    Prog.run_inl (f := flowExec site.ports site.secrets .served) (fun _ _ => rfl),
    Prog.run_inl (f := AuthDb.serve site.ports) (fun _ _ => rfl)]

/-- The rate limiter does not fail. -/
theorem runFates_limit {α : Type} {p : Prog limitSig α} {a : α}
    (h : (p.inl : Prog signInSig α).runFates site.exec fates s = (some a, s')) :
    p.run (RateLimiter.exec site.rateLimit) s.1 = (a, s'.1) ∧ s'.2 = s.2 := by
  rw [Prog.runFates_inl (f := fun _ => RateLimiter.exec site.rateLimit) (fun _ _ _ => rfl)] at h
  obtain ⟨hresult, rfl⟩ := Prod.mk.inj h
  exact ⟨Prog.run_of_runFates (Prod.ext hresult rfl), rfl⟩

end SignInSite

/-! ### The limits that are asked -/

theorem lockRejection_eq_some_iff {state : LockoutState} {now til : Int} {left : Nat} :
    lockRejection state now = some (til, left) ↔
      state.lockedUntil = some til ∧ now < til ∧ til = now + left := by
  rw [lockRejection, LockoutPolicy.retryAfter]
  cases state.lockedUntil with
  | none => simp
  | some deadline =>
      simp only [durationSince, Option.bind_some, Option.map_eq_some_iff, Option.filter_eq_some_iff,
        Option.ite_none_right_eq_some, Option.some.injEq, Prod.mk.injEq, decide_eq_true_eq]
      constructor
      · rintro ⟨_, ⟨⟨hle, rfl⟩, hne⟩, rfl, rfl⟩
        omega
      · rintro ⟨rfl, hlt, heq⟩
        exact ⟨left, ⟨⟨hlt.le, by omega⟩, by omega⟩, rfl, rfl⟩

theorem lockRejection_of_isLocked {state : LockoutState} {now : Int}
    (h : LockoutPolicy.isLocked state now = true) : ∃ til left,
      lockRejection state now = some (til, left) ∧
        LoginService.tooManyAttempts state now = .tooManyAttempts (some (asSecs left)) := by
  obtain ⟨til, hstate, hlt⟩ := LockoutPolicy.isLocked_iff.mp h
  have hrejection : lockRejection state now = some (til, (til - now).toNat) :=
    lockRejection_eq_some_iff.mpr ⟨hstate, hlt, by omega⟩
  refine ⟨til, _, hrejection, ?_⟩
  rw [lockRejection, hstate, Option.bind_some, Option.map_eq_some_iff] at hrejection
  obtain ⟨left, hleft, heq⟩ := hrejection
  cases heq
  rw [LoginService.tooManyAttempts, hleft]
  rfl

theorem lockRejection_eq_none {state : LockoutState} {now : Int}
    (h : LockoutPolicy.isLocked state now = false) : lockRejection state now = none := by
  refine Option.eq_none_iff_forall_ne_some.mpr fun ⟨til, left⟩ hsome => ?_
  obtain ⟨hstate, hlt, -⟩ := lockRejection_eq_some_iff.mp hsome
  rw [LockoutPolicy.isLocked_iff.mpr ⟨til, hstate, hlt⟩] at h
  cases h

/-- Only an account that is locked has had too many attempts. -/
theorem judge_rejects {policy : LockoutPolicy} {ip : String} {db db' : AuthDb ι}
    {account : Option AdminAccount} {verified : Bool} {retryAfter : Option Nat}
    (h : judge policy ip db account verified = (.error (.tooManyAttempts retryAfter), db')) :
    ∃ locked til left, account = some locked ∧
      lockRejection locked.lockout db.clock = some (til, left) ∧
        retryAfter = some (asSecs left) ∧ db' = db.ipFailure policy ip := by
  cases account with
  | none => cases h
  | some account =>
      rw [judge] at h
      by_cases hlocked : LockoutPolicy.isLocked account.lockout db.clock
      · rw [if_pos hlocked] at h
        obtain ⟨til, left, hrejection, htoo⟩ := lockRejection_of_isLocked hlocked
        rw [htoo] at h
        cases h
        exact ⟨account, til, left, rfl, hrejection, rfl, rfl⟩
      · rw [if_neg hlocked] at h
        cases verified with
        | true => cases h
        | false => cases h

theorem RateLimiter.rejection_of_error {config : RateLimitConfig} {windows : Windows} {key : String}
    {now : Int} {exceeded : RateLimitExceeded}
    (h : (check config windows key now).1 = .error exceeded) :
    rejection config windows key now =
      some ((current config windows key now).startedAt, exceeded.retryAfter) := by
  rw [rejection, h]

theorem RateLimiter.rejection_of_ok {config : RateLimitConfig} {windows : Windows} {key : String}
    {now : Int} (h : (check config windows key now).1 = .ok ()) :
    rejection config windows key now = none := by
  rw [rejection, h]

namespace SignInSite
variable {site : SignInSite ι τ υ} {body : LoginBody} {request : Request} {windows : Windows}
  {db : AuthDb ι}

theorem rejection_accountLock {account : AdminAccount}
    (hlookup : db.lookup body.email = .ok (some account))
    (hok : (site.ports.hasher.verify body.password account.passwordHash).isOk) :
    site.rejection body request windows db .accountLock =
      lockRejection account.lockout db.clock := by
  rw [rejection, hlookup]
  exact if_pos hok

/-- What the limiter makes of a login. -/
theorem checkKeys_rejects {limited : Except RateLimitExceeded Unit} {windows' : Windows}
    (h : (checkKeys db.clock [addressKey request, accountKey body]).run
      (RateLimiter.exec site.rateLimit) windows = (limited, windows')) :
    match limited with
    | .error exceeded => ∃ limit mark,
        site.Rejects body request windows db limit mark exceeded.retryAfter ∧
          windows' = site.windowsAfter body request windows db limit ∧
            site.dbAfter request db limit = db
    | .ok () => site.rejection body request windows db .addressWindow = none ∧
        site.rejection body request windows db .accountWindow = none ∧
          windows' = site.windowsAfter body request windows db .addressLock := by
  rw [checkKeys_run] at h
  rcases haddress : RateLimiter.check site.rateLimit windows (addressKey request) db.clock with
    ⟨exceeded | ⟨⟩, counted⟩
  · rw [haddress] at h
    cases h
    refine ⟨.addressWindow, _, ⟨RateLimiter.rejection_of_error (congrArg Prod.fst haddress),
      nofun⟩, ?_, rfl⟩
    exact (congrArg Prod.snd haddress).symm
  have hnone : site.rejection body request windows db .addressWindow = none :=
    RateLimiter.rejection_of_ok (congrArg Prod.fst haddress)
  have hcounted : site.addressCounted request windows db = counted := congrArg Prod.snd haddress
  rw [haddress] at h
  dsimp only at h
  rw [← hcounted] at h
  cases limited with
  | error exceeded =>
      refine ⟨.accountWindow, _, ⟨RateLimiter.rejection_of_error (congrArg Prod.fst h), ?_⟩,
        (congrArg Prod.snd h).symm, rfl⟩
      exact List.forall_mem_singleton.mpr hnone
  | ok _ =>
      exact ⟨hnone, RateLimiter.rejection_of_ok (congrArg Prod.fst h), (congrArg Prod.snd h).symm⟩

/-- What the locks make of it. -/
theorem attempt_rejects {retryAfter : Option Nat} {db' : AuthDb ι}
    (haddress : site.rejection body request windows db .addressWindow = none)
    (haccount : site.rejection body request windows db .accountWindow = none)
    (h : attempt site.ports site.lockout ⟨body.email, body.password, request.clientIp⟩ db =
      (.error (.tooManyAttempts retryAfter), db')) :
    ∃ limit mark left, site.Rejects body request windows db limit mark left ∧
      retryAfter = some (asSecs left) ∧ limit ∈ [.addressLock, .accountLock] ∧
        db' = site.dbAfter request db limit := by
  rw [attempt_eq] at h
  dsimp only at h
  by_cases hip : LockoutPolicy.isLocked (db.getIp request.clientIp) db.clock
  · rw [if_pos hip] at h
    obtain ⟨til, left, hrejection, htoo⟩ := lockRejection_of_isLocked hip
    rw [htoo] at h
    cases h
    refine ⟨.addressLock, til, left, ⟨hrejection, ?_⟩, rfl, by simp, rfl⟩
    simp [Limit.before, haddress, haccount]
  rw [if_neg hip] at h
  have hopen : site.rejection body request windows db .addressLock = none :=
    lockRejection_eq_none (Bool.eq_false_iff.mpr hip)
  cases hlookup : db.lookup body.email with
  | error e => rw [hlookup] at h; cases h
  | ok account =>
      rw [hlookup] at h
      dsimp only at h
      cases hverify : site.ports.hasher.verify body.password
          ((account.map AdminAccount.passwordHash).getD site.ports.hasher.referenceHash) with
      | error e => rw [hverify] at h; cases h
      | ok verified =>
          rw [hverify] at h
          obtain ⟨locked, til, left, rfl, hrejection, rfl, rfl⟩ := judge_rejects h
          refine ⟨.accountLock, til, left, ⟨?_, ?_⟩, rfl, by simp, rfl⟩
          · exact (rejection_accountLock hlookup (congrArg Except.isOk hverify)).trans hrejection
          · simp [Limit.before, haddress, haccount, hopen]

/-- An answer of 429 to a credential check is one of too many attempts, and touches the trail. -/
theorem answerLogin_rejected {fates : List Fate} {s s' : SignInState ι τ υ}
    {response : JsonResponse LoginOk} {now : Int} {result : Except LoginError AuthenticatedAdmin}
    (h : ((answerLogin site.policy body request now result).inr :
      Prog signInSig (JsonResponse LoginOk)).runFates site.exec fates s = (some response, s'))
    (h429 : response.status = 429) :
    ∃ retryAfter, result = .error (.tooManyAttempts retryAfter) ∧
      response.retryAfter = retryAfter ∧ s'.1 = s.1 ∧ s'.2.1 = s.2.1 := by
  rw [Prog.runFates_inr (f := site.toOAuthSite.exec) (fun _ _ _ => rfl)] at h
  obtain ⟨hresult, rfl⟩ := Prod.mk.inj h
  generalize hrun : (answerLogin site.policy body request now result).runFates
    site.toOAuthSite.exec fates s.2 = answered at hresult
  obtain ⟨answer, t⟩ := answered
  obtain rfl : answer = some response := hresult
  obtain ⟨-, hstatus, -⟩ :=
    (answerLogin_status site.policy body request now result).replays hrun
  obtain ⟨retryAfter, rfl, hretry⟩ := hstatus h429
  refine ⟨retryAfter, rfl, hretry, rfl, ?_⟩
  rw [answerLogin] at hrun
  obtain ⟨_, u, _, hrecord, hret⟩ := Prog.runFates_bind_eq_some hrun
  obtain ⟨-, rfl⟩ := Prog.runFates_ret_eq_some hret
  rw [recordAttempt, Prog.runFates_inr (f := fun fate => Exec.sum
    (SessionDb.exec site.tokens fate) (AuditDb.exec fate)) (fun _ _ _ => rfl)] at hrecord
  exact (congrArg (fun r => r.2.1) hrecord).symm

/-- **What a login that is answered 429 was rejected by**, and what it leaves. -/
theorem login_rejects {fates : List Fate} {s s' : SignInState ι τ υ}
    {response : JsonResponse LoginOk}
    (h : site.login body request fates s = (some response, s')) (h429 : response.status = 429) :
    body.invalid = [] ∧ ∃ limit mark left,
      site.Rejects body request s.1 s.2.1.1 limit mark left ∧
        response.retryAfter = some (asSecs left) ∧
          s'.1 = site.windowsAfter body request s.1 s.2.1.1 limit ∧
            s'.2.1.1 = site.dbAfter request s.2.1.1 limit := by
  rw [login, loginHandler] at h
  by_cases hvalid : body.invalid = []
  swap
  · rw [if_pos hvalid] at h
    obtain ⟨rfl, -⟩ := Prog.runFates_ret_eq_some h
    exact absurd h429 (show ¬ 422 = 429 by decide)
  refine ⟨hvalid, ?_⟩
  rw [if_neg (not_not.mpr hvalid), Prog.perform_bind] at h
  obtain ⟨fate, rest, -, h⟩ := Prog.runFates_call_eq_some h
  rw [exec_now] at h
  obtain ⟨limited, t, rest, hkeys, h⟩ := Prog.runFates_bind_eq_some h
  obtain ⟨hkeys, ht⟩ := runFates_limit hkeys
  have hlimits := checkKeys_rejects hkeys
  rcases limited with exceeded | ⟨⟩
  · obtain ⟨limit, mark, hrejects, hwindows, hdb⟩ := hlimits
    obtain ⟨rfl, rfl⟩ := Prog.runFates_ret_eq_some h
    exact ⟨limit, mark, exceeded.retryAfter, hrejects, rfl, hwindows, by rw [ht, hdb]⟩
  obtain ⟨haddress, haccount, hwindows⟩ := hlimits
  obtain ⟨result, u, rest, hlogin, h⟩ := Prog.runFates_bind_eq_some h
  obtain ⟨hlogin, hu⟩ := runFates_auth hlogin
  obtain ⟨retryAfter, rfl, hretry, hwindows', hdb'⟩ := answerLogin_rejected h h429
  rw [ht] at hlogin
  have hattempt := attempt_of_loginRun hlogin (by simp)
  obtain ⟨limit, mark, left, hrejects, rfl, hlimit, hdb⟩ :=
    attempt_rejects haddress haccount hattempt
  refine ⟨limit, mark, left, hrejects, hretry, ?_, by rw [hdb', hdb]⟩
  rw [hwindows', hu, hwindows]
  rcases List.mem_pair.mp hlimit with rfl | rfl
  · rfl
  · rfl

/-- A lock that rejects a login does so when its calls are served. -/
theorem attempt_of_rejects {limit : Limit} {mark : Int} {left : Nat}
    (h : site.Rejects body request windows db limit mark left)
    (hlimit : limit = .addressLock ∨ limit = .accountLock) :
    ∃ retryAfter,
      (attempt site.ports site.lockout ⟨body.email, body.password, request.clientIp⟩ db).1 =
        .error (.tooManyAttempts retryAfter) := by
  obtain ⟨hrejection, hbefore⟩ := h
  rw [attempt_eq]
  dsimp only
  rcases hlimit with rfl | rfl
  · obtain ⟨hstate, hlt, -⟩ := lockRejection_eq_some_iff.mp hrejection
    rw [if_pos (LockoutPolicy.isLocked_iff.mpr ⟨mark, hstate, hlt⟩)]
    exact ⟨_, rfl⟩
  by_cases hip : LockoutPolicy.isLocked (db.getIp request.clientIp) db.clock
  · rw [if_pos hip]
    exact ⟨_, rfl⟩
  rw [if_neg hip]
  rw [rejection] at hrejection
  split at hrejection
  · next account hlookup =>
      obtain ⟨hok, hlock⟩ := Option.ite_none_right_eq_some.mp hrejection
      obtain ⟨hstate, hlt, -⟩ := lockRejection_eq_some_iff.mp hlock
      have hlocked : LockoutPolicy.isLocked account.lockout db.clock :=
        LockoutPolicy.isLocked_iff.mpr ⟨mark, hstate, hlt⟩
      rw [hlookup]
      dsimp only [Option.map_some, Option.getD_some]
      cases hverify : site.ports.hasher.verify body.password account.passwordHash with
      | error e => rw [hverify] at hok; cases hok
      | ok verified =>
          dsimp only
          rw [judge, if_pos hlocked]
          exact ⟨_, rfl⟩
  · cases hrejection

/-- A login that is rejected is answered 429 when its calls are served. -/
theorem exists_login_of_rejects {s : SignInState ι τ υ} {limit : Limit} {mark : Int} {left : Nat}
    (hvalid : body.invalid = [])
    (h : site.Rejects body request s.1 s.2.1.1 limit mark left) :
    ∃ fates response s', site.login body request fates s = (some response, s') ∧
      response.status = 429 := by
  obtain ⟨fates, hrun⟩ := Prog.exists_runFates_eq site.exec .served
    (loginHandler site.lockout site.ports.hasher site.policy body request) s
  refine ⟨fates, _, _, hrun, ?_⟩
  rw [loginHandler, if_neg (not_not.mpr hvalid), Prog.perform_bind, Prog.run_call, exec_now]
  dsimp only
  rw [Prog.run_bind, Prog.run_inl (f := RateLimiter.exec site.rateLimit) (fun _ _ => rfl)]
  generalize hkeys : (checkKeys s.2.1.1.clock [addressKey request, accountKey body]).run
    (RateLimiter.exec site.rateLimit) s.1 = counted
  obtain ⟨limited, windows'⟩ := counted
  have hlimits := checkKeys_rejects hkeys
  rw [addressKey, accountKey] at hkeys
  rw [hkeys]
  rcases limited with exceeded | ⟨⟩
  · rfl
  obtain ⟨haddress, haccount, -⟩ := hlimits
  have hlimit : limit = .addressLock ∨ limit = .accountLock := by
    cases limit with
    | addressWindow => rw [h.1] at haddress; cases haddress
    | accountWindow => rw [h.1] at haccount; cases haccount
    | addressLock => exact .inl rfl
    | accountLock => exact .inr rfl
  obtain ⟨retryAfter, hattempt⟩ := attempt_of_rejects h hlimit
  have hresult := (run_auth (LoginService.login site.lockout site.ports.hasher
    ⟨body.email, body.password, request.clientIp⟩) (windows', s.2)).trans hattempt
  dsimp only
  rw [Prog.run_bind, hresult, Prog.run_inr (f := site.toOAuthSite.exec .served) (fun _ _ => rfl),
    answerLogin, Prog.run_bind]
  rfl

end SignInSite

end AuthApp.Http
