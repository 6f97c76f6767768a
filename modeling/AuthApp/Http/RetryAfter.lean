import AuthApp.Http.Admission
import AuthApp.Http.Rejection

/-!
# Http — the time a login is told to wait

A login that is answered 429 is told to wait for the whole seconds of the time that is left of the
window or of the lock that rejected it.  The part below a second is cut off, so that a login that
is repeated then comes too early.

* `rejection_again_iff`: whether what rejected a login would reject it again, after the wait.
* `waitSuffices_iff`: when no repeat is rejected by what rejected the login.
* `halfSecond_rejected`: a login that waits for as long as it is told, and is rejected again.
-/

namespace AuthApp.Http
open Interleave Accounts Sessions Audit

variable {ι τ υ : Type}

/-! ### The same request, later -/

/-- The state `secs` seconds later. -/
def later (secs : Nat) (s : SignInState ι τ υ) : SignInState ι τ υ :=
  (s.1, setClock (s.2.1.1.clock + fromSecs secs) s.2)

/-- The window that rejected a key is over when its wait is: the clock is not behind its start, and
the time left is whole seconds.  Or else the count is the one before the largest, and wraps
around. -/
def RateLimiter.InTime (config : RateLimitConfig) (windows : Windows) (key : String) (now : Int)
    (startedAt : Int) (left : Nat) : Prop :=
  (startedAt ≤ now ∧ nanosPerSec ∣ left) ∨
    (current config windows key now).count + 1 + 1 = 0

theorem wait_lt_iff {left : Nat} : fromSecs (asSecs left) < left ↔ ¬ nanosPerSec ∣ left := by
  rw [fromSecs, asSecs, nanosPerSec]
  omega

theorem lockRejection_again_iff {state : LockoutState} {now til : Int} {left : Nat}
    (h : lockRejection state now = some (til, left)) :
    (∃ left', lockRejection state (now + fromSecs (asSecs left)) = some (til, left')) ↔
      ¬ nanosPerSec ∣ left := by
  obtain ⟨hstate, -, rfl⟩ := lockRejection_eq_some_iff.mp h
  rw [← wait_lt_iff]
  constructor
  · rintro ⟨left', hagain⟩
    obtain ⟨-, hlt, -⟩ := lockRejection_eq_some_iff.mp hagain
    omega
  · intro hlt
    refine ⟨left - fromSecs (asSecs left), lockRejection_eq_some_iff.mpr ⟨hstate, ?_, ?_⟩⟩
    · omega
    · omega

namespace RateLimiter
variable {config : RateLimitConfig} {windows windows' : Windows} {key : String}
  {now startedAt : Int} {left : Nat}

theorem rejection_eq_some_iff : rejection config windows key now = some (startedAt, left) ↔
    config.maxRequests < (current config windows key now).count + 1 ∧
      startedAt = (current config windows key now).startedAt ∧
        left = config.window - (current config windows key now).elapsed now := by
  rw [rejection, check]
  dsimp only
  split
  · next h =>
      split at h
      · cases h
      · next hwithin => simp [hwithin]
  · next exceeded h =>
      split at h
      · next hover =>
          cases h
          simp [hover, Window.elapsed, eq_comm]
      · cases h

theorem current_congr (h : windows key = windows' key) :
    current config windows key now = current config windows' key now := by
  rw [current, current, h]

/-- A window of no length is always new. -/
theorem current_of_window_eq_zero (h : config.window = 0) :
    current config windows key now = ⟨0, now⟩ := by
  rw [current]
  exact if_pos (h ▸ Nat.zero_le _)

theorem current_of_counted {w : Window} (h : windows key = some w) :
    current config windows key now =
      if config.window ≤ w.elapsed now then ⟨0, now⟩ else w := by
  rw [current, h]
  rfl

/-- A count that is over the limit stays over it, unless it wraps around. -/
theorem lt_add_one_iff_of_lt {a b : UInt32} (h : a < b) : a < b + 1 ↔ ¬ b + 1 = 0 := by
  have hlt := UInt32.lt_iff_toNat_lt.mp h
  rw [UInt32.lt_iff_toNat_lt, ← UInt32.toNat_inj, UInt32.toNat_add]
  have hsize := b.toNat_lt
  simp only [UInt32.toNat_one, UInt32.toNat_zero]
  omega

/-- A window has come to an end after the wait that is exact, and not after a shorter one. -/
theorem lapsed_again_iff (hwindow : 0 < config.window) (w : Window)
    (hrunning : w.elapsed now < config.window) :
    config.window ≤ w.elapsed (now + fromSecs (asSecs (config.window - w.elapsed now))) ↔
      w.startedAt ≤ now ∧ nanosPerSec ∣ config.window - w.elapsed now := by
  rw [elapsed_eq] at hrunning
  rw [elapsed_eq, elapsed_eq, fromSecs, asSecs, nanosPerSec]
  omega

/-- A window of no length is over with the check that started it. -/
theorem inTime_of_window_eq_zero (hwindow : config.window = 0)
    (h : rejection config windows key now = some (startedAt, left)) :
    InTime config windows key now startedAt left := by
  obtain ⟨-, rfl, rfl⟩ := rejection_eq_some_iff.mp h
  rw [current_of_window_eq_zero hwindow, hwindow, Nat.zero_sub]
  exact .inl ⟨le_refl now, Nat.dvd_zero _⟩

/-- A key whose window has rejected it is rejected by it again, after its wait. -/
theorem rejection_again_iff (hwindow : 0 < config.window)
    (h : rejection config windows key now = some (startedAt, left))
    (hkept : windows' key = (check config windows key now).2 key) :
    (∃ left', rejection config windows' key (now + fromSecs (asSecs left)) =
        some (startedAt, left')) ↔ ¬ InTime config windows key now startedAt left := by
  obtain ⟨hover, rfl, rfl⟩ := rejection_eq_some_iff.mp h
  simp only [rejection_eq_some_iff, exists_and_left, exists_eq, and_true]
  have hcounted : windows' key = some { current config windows key now with
      count := (current config windows key now).count + 1 } :=
    hkept.trans (Function.update_self ..)
  have hlapsed := lapsed_again_iff hwindow _ (elapsed_current windows key now hwindow)
  rw [InTime, ← hlapsed]
  generalize now + (fromSecs (asSecs (config.window -
    (current config windows key now).elapsed now)) : Int) = later
  by_cases hover' : config.window ≤ (current config windows key now).elapsed later
  · have hcurrent : current config windows' key later = ⟨0, later⟩ :=
      (current_of_counted hcounted).trans (if_pos hover')
    rw [hcurrent]
    refine iff_of_false (fun hagain => ?_) fun h => h (.inl hover')
    rw [elapsed_eq, hagain.2, sub_self] at hover'
    exact absurd hover' (not_le.mpr hwindow)
  · have hcurrent : current config windows' key later =
        ⟨(current config windows key now).count + 1, (current config windows key now).startedAt⟩ :=
      (current_of_counted hcounted).trans (if_neg hover')
    rw [hcurrent, or_iff_right hover', ← lt_add_one_iff_of_lt hover]
    exact and_iff_left rfl

end RateLimiter

namespace SignInSite
variable {site : SignInSite ι τ υ} {body : LoginBody} {request : Request} {windows : Windows}
  {db : AuthDb ι} {limit : Limit} {mark : Int} {left : Nat}

/-- The account of an email is looked up among the administrators. -/
theorem lookup_congr {db db' : AuthDb ι} (h : db'.admins = db.admins) (email : String) :
    db'.lookup email = db.lookup email := by
  rw [AuthDb.lookup, AuthDb.lookup]
  cases Email.parse email with
  | error e => rfl
  | ok email =>
      dsimp only
      rw [AuthDb.findByEmail, AuthDb.findByEmail, h]

theorem addressKey_ne_accountKey (request : Request) (body : LoginBody) :
    addressKey request ≠ accountKey body := by
  intro h
  have hlist := congrArg String.toList h
  rw [addressKey, accountKey, String.toList_append, String.toList_append] at hlist
  cases hlist

/-- The limit that rejects a login is over when the wait that it announces is. -/
def InTime (site : SignInSite ι τ υ) (body : LoginBody) (request : Request) (windows : Windows)
    (db : AuthDb ι) : Limit → Int → Nat → Prop
  | .addressWindow, startedAt, left =>
      RateLimiter.InTime site.rateLimit windows (addressKey request) db.clock startedAt left
  | .accountWindow, startedAt, left =>
      RateLimiter.InTime site.rateLimit windows (accountKey body) db.clock startedAt left
  | .addressLock, _, left => nanosPerSec ∣ left
  | .accountLock, _, left => nanosPerSec ∣ left

/-- A window of no length is over with the request that started it. -/
def Lasts (site : SignInSite ι τ υ) : Limit → Prop
  | .addressWindow => 0 < site.rateLimit.window
  | .accountWindow => 0 < site.rateLimit.window
  | .addressLock => True
  | .accountLock => True

theorem addressCounted_accountKey (site : SignInSite ι τ υ) (body : LoginBody)
    (request : Request) (windows : Windows) (db : AuthDb ι) :
    site.addressCounted request windows db (accountKey body) = windows (accountKey body) :=
  RateLimiter.check_window_ne (addressKey_ne_accountKey request body).symm

/-- The window of the account is not touched by the count of the address. -/
theorem inTime_accountWindow_iff :
    site.InTime body request windows db .accountWindow mark left ↔
      RateLimiter.InTime site.rateLimit (site.addressCounted request windows db)
        (accountKey body) db.clock mark left := by
  rw [InTime, RateLimiter.InTime, RateLimiter.InTime,
    RateLimiter.current_congr (addressCounted_accountKey site body request windows db)]

theorem inTime_of_not_lasts (hlasts : ¬ site.Lasts limit)
    (h : site.rejection body request windows db limit = some (mark, left)) :
    site.InTime body request windows db limit mark left := by
  cases limit with
  | addressWindow => exact RateLimiter.inTime_of_window_eq_zero (Nat.eq_zero_of_not_pos hlasts) h
  | accountWindow =>
      rw [inTime_accountWindow_iff]
      exact RateLimiter.inTime_of_window_eq_zero (Nat.eq_zero_of_not_pos hlasts) h
  | addressLock => exact absurd trivial hlasts
  | accountLock => exact absurd trivial hlasts

/-- A limit that has rejected a login would reject it again, after the wait. -/
theorem rejection_again_iff (hlasts : site.Lasts limit)
    (h : site.rejection body request windows db limit = some (mark, left)) {db' : AuthDb ι}
    (hdb : db' = { site.dbAfter request db limit with
      clock := db.clock + fromSecs (asSecs left) }) :
    (∃ left', site.rejection body request (site.windowsAfter body request windows db limit) db'
        limit = some (mark, left')) ↔ ¬ site.InTime body request windows db limit mark left := by
  have hclock : db'.clock = db.clock + fromSecs (asSecs left) := by rw [hdb]
  cases limit with
  | addressWindow =>
      rw [rejection] at h ⊢
      rw [hclock]
      exact RateLimiter.rejection_again_iff hlasts h rfl
  | accountWindow =>
      rw [rejection] at h ⊢
      rw [hclock, inTime_accountWindow_iff]
      exact RateLimiter.rejection_again_iff hlasts h (addressCounted_accountKey ..)
  | addressLock =>
      have hip : db'.getIp request.clientIp = db.getIp request.clientIp := by
        rw [hdb]
        rfl
      rw [rejection] at h ⊢
      rw [hclock, hip]
      exact lockRejection_again_iff h
  | accountLock =>
      rw [rejection] at h
      split at h
      · next account hlookup =>
          obtain ⟨hok, hlock⟩ := Option.ite_none_right_eq_some.mp h
          have hsame : db'.lookup body.email = db.lookup body.email :=
            lookup_congr (by rw [hdb]; rfl) body.email
          rw [rejection_accountLock (hsame.trans hlookup) hok, hclock]
          exact lockRejection_again_iff hlock
      · cases h

theorem dbAfter_clock (site : SignInSite ι τ υ) (request : Request) (db : AuthDb ι)
    (limit : Limit) : (site.dbAfter request db limit).clock = db.clock := by
  cases limit <;> rfl

/-- One limit is asked before the other. -/
theorem Rejects.unique {limit' : Limit} {mark' : Int} {left' : Nat}
    (h : site.Rejects body request windows db limit mark left)
    (h' : site.Rejects body request windows db limit' mark' left') :
    limit = limit' ∧ mark = mark' ∧ left = left' := by
  have horder : limit = limit' ∨ limit ∈ limit'.before ∨ limit' ∈ limit.before := by
    cases limit <;> cases limit' <;> decide
  rcases horder with rfl | hbefore | hbefore
  · cases h.1.symm.trans h'.1
    exact ⟨rfl, rfl, rfl⟩
  · cases (h'.2 limit hbefore).symm.trans h.1
  · cases (h.2 limit' hbefore).symm.trans h'.1

/-- A login is answered 429 for a limit that lasts: for the window that started, or the lock that
ends, at `mark`. -/
def RejectedBy (site : SignInSite ι τ υ) (body : LoginBody) (request : Request)
    (s : SignInState ι τ υ) (limit : Limit) (mark : Int) : Prop :=
  site.Lasts limit ∧ ∃ fates response s' left,
    site.login body request fates s = (some response, s') ∧ response.status = 429 ∧
      site.Rejects body request s.1 s.2.1.1 limit mark left

/-- No repeat of a login, `secs` seconds after it was rejected, is rejected by the window or the
lock that rejected it. -/
def WaitSuffices (site : SignInSite ι τ υ) (body : LoginBody) (request : Request)
    (s s' : SignInState ι τ υ) (secs : Nat) : Prop :=
  ∀ limit mark left, site.Rejects body request s.1 s.2.1.1 limit mark left →
    ¬ site.RejectedBy body request (later secs s') limit mark

/-- What rejected the login is over in time, or is not asked again, as the repeat is rejected by
another before it. -/
def WaitExact (site : SignInSite ι τ υ) (body : LoginBody) (request : Request)
    (s s' : SignInState ι τ υ) (secs : Nat) : Prop :=
  ∀ limit mark left, site.Rejects body request s.1 s.2.1.1 limit mark left →
    site.InTime body request s.1 s.2.1.1 limit mark left ∨
      ∃ other ∈ limit.before,
        site.rejection body request (later secs s').1 (later secs s').2.1.1 other ≠ none

/-- Rejections are seen from outside: the limits decide, not the fates. -/
theorem rejectedBy_iff {s : SignInState ι τ υ} (hvalid : body.invalid = []) :
    site.RejectedBy body request s limit mark ↔
      site.Lasts limit ∧ ∃ left, site.Rejects body request s.1 s.2.1.1 limit mark left := by
  refine and_congr_right fun _ => ?_
  constructor
  · rintro ⟨-, -, -, left, -, -, h⟩
    exact ⟨left, h⟩
  · rintro ⟨left, h⟩
    obtain ⟨fates, response, s', hrun, h429⟩ := exists_login_of_rejects hvalid h
    exact ⟨fates, response, s', left, hrun, h429, h⟩

/-- **`Retry-After`.**  Under any fates of its calls, a login that is answered 429 is told to wait
for long enough exactly when the time left is whole seconds, or when another limit rejects the
repeat before the one that rejected the login is asked. -/
theorem waitSuffices_iff {fates : List Fate} {s s' : SignInState ι τ υ}
    {response : JsonResponse LoginOk} {secs : Nat}
    (h : site.login body request fates s = (some response, s')) (h429 : response.status = 429)
    (hsecs : response.retryAfter = some secs) :
    site.WaitSuffices body request s s' secs ↔ site.WaitExact body request s s' secs := by
  obtain ⟨hvalid, limit, mark, left, hrejects, hretry, hwindows, hdb⟩ := login_rejects h h429
  obtain rfl : asSecs left = secs := Option.some.inj (hretry.symm.trans hsecs)
  have hlater : (later (asSecs left) s').2.1.1 = { site.dbAfter request s.2.1.1 limit with
      clock := s.2.1.1.clock + fromSecs (asSecs left) } := by
    change { s'.2.1.1 with clock := s'.2.1.1.clock + fromSecs (asSecs left) } = _
    rw [hdb, dbAfter_clock]
  have hsuffices : site.WaitSuffices body request s s' (asSecs left) ↔
      ¬ site.RejectedBy body request (later (asSecs left) s') limit mark := by
    refine ⟨fun h => h limit mark left hrejects, fun h limit' mark' left' hrejects' => ?_⟩
    obtain ⟨rfl, rfl, -⟩ := hrejects.unique hrejects'
    exact h
  have hexact : site.WaitExact body request s s' (asSecs left) ↔
      site.InTime body request s.1 s.2.1.1 limit mark left ∨ ∃ other ∈ limit.before,
        site.rejection body request (later (asSecs left) s').1 (later (asSecs left) s').2.1.1
          other ≠ none := by
    refine ⟨fun h => h limit mark left hrejects, fun h limit' mark' left' hrejects' => ?_⟩
    obtain ⟨rfl, rfl, rfl⟩ := hrejects.unique hrejects'
    exact h
  rw [hsuffices, hexact, rejectedBy_iff hvalid]
  by_cases hlasts : site.Lasts limit
  swap
  · exact iff_of_true (fun h => hlasts h.1) (.inl (inTime_of_not_lasts hlasts hrejects.1))
  have hagain := rejection_again_iff hlasts hrejects.1 hlater
  rw [← hwindows] at hagain
  simp only [Rejects, exists_and_right, and_iff_right hlasts]
  rw [show (later (asSecs left) s').1 = s'.1 from rfl, hagain, not_and_or, not_not]
  simp only [not_forall, exists_prop, ne_eq]

end SignInSite

/-! ### A lock of a minute -/

/-- The address of the request is locked until a minute past the epoch. -/
def lockedState (now : Int) : SignInState Unit Drawn (Nat × Nat) :=
  (fun _ => none, setClock now
    ((oauthState.1.1.putIp "203.0.113.7" ⟨5, some 60000000000⟩, oauthState.1.2), oauthState.2))

def allServed : List Fate := List.replicate 8 .served

/-- A login that the lock rejects. -/
def lockedLogin (now : Int) : Option (JsonResponse LoginOk) × SignInState Unit Drawn (Nat × Nat) :=
  signInSite.login editorBody navigation allServed (lockedState now)

def lockedFor (secs : Nat) : JsonResponse LoginOk :=
  { tooManyAttempts with retryAfter := some secs }

theorem waitSuffices_minute : (lockedLogin 0).1 = some (lockedFor 60) ∧
    signInSite.WaitSuffices editorBody navigation (lockedState 0) (lockedLogin 0).2 60 := by
  have hrun : (lockedLogin 0).1 = some (lockedFor 60) := rfl
  have hrejects : signInSite.Rejects editorBody navigation (lockedState 0).1 (lockedState 0).2.1.1
      .addressLock 60000000000 60000000000 := ⟨rfl, by decide⟩
  refine ⟨hrun, (SignInSite.waitSuffices_iff (Prod.ext hrun rfl) rfl rfl).mpr ?_⟩
  intro limit mark left h
  obtain ⟨rfl, rfl, rfl⟩ := hrejects.unique h
  exact .inl (show nanosPerSec ∣ 60000000000 by decide)

/-- Half a second later, the login is told to wait for 59 seconds, and is rejected again then. -/
theorem halfSecond_rejected : (lockedLogin 500000000).1 = some (lockedFor 59) ∧
    ¬ signInSite.WaitSuffices editorBody navigation (lockedState 500000000)
      (lockedLogin 500000000).2 59 ∧
    (signInSite.login editorBody navigation allServed (later 59 (lockedLogin 500000000).2)).1 =
      some (lockedFor 0) := by
  refine ⟨rfl, fun h => ?_, rfl⟩
  refine h .addressLock 60000000000 59500000000 ⟨rfl, by decide⟩
    ⟨trivial, allServed, lockedFor 0, _, 500000000, Prod.ext rfl rfl, rfl, rfl, by decide⟩

end AuthApp.Http
