import AuthApp.Http.Api
import AuthApp.Server.Delay

/-!
# Server — time arithmetic that may panic

`SystemTime + Duration` panics when the sum does not fit, and so does the conversion of an instant
to a date; a release build aborts there.  The functions that do either are written here with the
panic as a result of its own, `none`, and are the ones of the model wherever they have another.

* `registerFailure?_eq_some_iff`, `run_start_of_start?`, `eq_of_attachSessionCookies?`: what they
  come to is what the model's functions come to.
* `noPanic_iff`: exactly when none of them panics.
-/

namespace AuthApp.Server
open Accounts Http Interleave Sessions

/-- `SystemTime + Duration`: whole seconds are counted in an `i64`. -/
def addDuration? (t : Int) (d : Nat) : Option Int :=
  if t + d < 2 ^ 63 * nanosPerSec then some (t + d) else none

/-- The year -9999 begins, in seconds. -/
def minDate : Int := -377705116800

/-- The year 9999 is over, in seconds. -/
def endOfDates : Int := 253402300800

/-- `OffsetDateTime::from`. -/
def toOffsetDateTime? (time : Int) : Option Int :=
  if minDate * nanosPerSec ≤ time ∧ time < endOfDates * nanosPerSec then some time else none

/-- `LockoutPolicy::register_failure`. -/
def registerFailure? (policy : LockoutPolicy) (state : LockoutState) (now : Int) :
    Option LockoutState := do
  let failedAttempts := saturatingAdd state.failedAttempts 1
  let lockedUntil ←
    if policy.threshold ≤ failedAttempts then
      (addDuration? now (policy.lockDuration failedAttempts)).map some
    else some none
  return { failedAttempts, lockedUntil }

/-- `SessionService::start`, once it has read the clock and drawn its tokens: the sum is made
before anything is stored. -/
def issue? (policy : SessionPolicy) (adminId : AdminId) (role : Role) (now : Int)
    (token : SessionToken) (csrfToken : CsrfToken) :
    Prog sessionSig (Option (Except SessionError IssuedSession)) :=
  match addDuration? now policy.absoluteTimeout with
  | none => return none
  | some absoluteExpiresAt => do
      match ← Prog.perform (S := sessionSig) (.insert
          { token, adminId, role, csrfToken, createdAt := now, absoluteExpiresAt,
            lastSeenAt := now }) with
      | .error e => return some (.error (.internal e.display))
      | .ok () => return some (.ok ⟨token, csrfToken, absoluteExpiresAt⟩)

/-- `SessionService::start`. -/
def start? (policy : SessionPolicy) (adminId : AdminId) (role : Role) :
    Prog sessionSig (Option (Except SessionError IssuedSession)) := do
  let now ← Prog.perform (S := sessionSig) .now
  let token ← Prog.perform (S := sessionSig) .generateSessionToken
  let csrfToken ← Prog.perform (S := sessionSig) .generateCsrfToken
  issue? policy adminId role now token csrfToken

/-- `attach_session_cookies`. -/
def attachSessionCookies? (issued : IssuedSession) : Option (List Cookie) := do
  let expires ← toOffsetDateTime? issued.absoluteExpiresAt
  return [⟨sessionCookieName, issued.token.raw, true, true, "/", expires⟩,
    ⟨csrfCookieName, issued.csrfToken.raw, false, true, "/", expires⟩]

/-! ### Where they do not panic -/

theorem addDuration?_eq_some_iff {t u : Int} {d : Nat} :
    addDuration? t d = some u ↔ u = t + d ∧ t + d < 2 ^ 63 * nanosPerSec := by
  rw [addDuration?]
  split
  · next h => exact ⟨fun e => ⟨(Option.some.inj e).symm, h⟩, fun e => congrArg some e.1.symm⟩
  · next h => exact ⟨nofun, fun e => absurd e.2 h⟩

theorem toOffsetDateTime?_eq_some_iff {t u : Int} :
    toOffsetDateTime? t = some u ↔
      u = t ∧ minDate * nanosPerSec ≤ t ∧ t < endOfDates * nanosPerSec := by
  rw [toOffsetDateTime?]
  split
  · next h => exact ⟨fun e => ⟨(Option.some.inj e).symm, h⟩, fun e => congrArg some e.1.symm⟩
  · next h => exact ⟨nofun, fun e => absurd e.2 h⟩

section
variable {policy : LockoutPolicy} {state next : LockoutState} {now : Int}

/-- A failure is registered as in the model, unless the sum of a lock does not fit. -/
theorem registerFailure?_eq_some_iff :
    registerFailure? policy state now = some next ↔
      next = policy.registerFailure state now ∧
        (policy.threshold ≤ saturatingAdd state.failedAttempts 1 →
          now + policy.lockDuration (saturatingAdd state.failedAttempts 1) <
            2 ^ 63 * nanosPerSec) := by
  by_cases hlocks : policy.threshold ≤ saturatingAdd state.failedAttempts 1
  · have hnext : policy.registerFailure state now =
        ⟨saturatingAdd state.failedAttempts 1,
          some (now + policy.lockDuration (saturatingAdd state.failedAttempts 1))⟩ :=
      congrArg (LockoutState.mk _) (if_pos hlocks)
    rw [registerFailure?, if_pos hlocks, hnext, addDuration?]
    split
    · next hfits =>
        exact ⟨fun e => ⟨(Option.some.inj e).symm, fun _ => hfits⟩,
          fun e => congrArg some e.1.symm⟩
    · next hfits => exact ⟨nofun, fun e => absurd (e.2 hlocks) hfits⟩
  · have hnext : policy.registerFailure state now =
        ⟨saturatingAdd state.failedAttempts 1, none⟩ :=
      congrArg (LockoutState.mk _) (if_neg hlocks)
    rw [registerFailure?, if_neg hlocks, hnext]
    exact ⟨fun e => ⟨(Option.some.inj e).symm, fun h => absurd h hlocks⟩,
      fun e => congrArg some e.1.symm⟩

theorem isSome_registerFailure? :
    (registerFailure? policy state now).isSome ↔
      (policy.threshold ≤ saturatingAdd state.failedAttempts 1 →
        now + policy.lockDuration (saturatingAdd state.failedAttempts 1) <
          2 ^ 63 * nanosPerSec) := by
  rw [Option.isSome_iff_exists]
  exact ⟨fun ⟨_, h⟩ => (registerFailure?_eq_some_iff.mp h).2,
    fun h => ⟨_, registerFailure?_eq_some_iff.mpr ⟨rfl, h⟩⟩⟩

end

section
variable {σ : Type} {policy : SessionPolicy} {adminId : AdminId} {role : Role}

/-- A session that is issued is stored first, with the sum as its deadline. -/
theorem run_issue? {exec : Exec sessionSig σ} {s s' : σ} {now : Int} {token : SessionToken}
    {csrfToken : CsrfToken} {r : Except SessionError IssuedSession}
    (h : (issue? policy adminId role now token csrfToken).run exec s = (some r, s')) :
    (Prog.call (S := sessionSig) (.insert
      { token, adminId, role, csrfToken, createdAt := now,
        absoluteExpiresAt := now + policy.absoluteTimeout, lastSeenAt := now }) fun
      | .error e => .ret (.error (.internal e.display))
      | .ok () => .ret (.ok ⟨token, csrfToken, now + policy.absoluteTimeout⟩)).run exec s =
      (r, s') := by
  rw [issue?] at h
  cases hsum : addDuration? now policy.absoluteTimeout with
  | none =>
      rw [hsum] at h
      cases h
  | some expires =>
      obtain ⟨rfl, -⟩ := addDuration?_eq_some_iff.mp hsum
      rw [hsum] at h
      replace h : Prog.run (S := sessionSig) exec (.call (.insert _) _) s = (some r, s') := h
      rw [Prog.run_call] at h ⊢
      generalize exec (.insert _) s = answered at h ⊢
      obtain ⟨e | ⟨⟩, t⟩ := answered
      · cases h
        rfl
      · cases h
        rfl

/-- A session is started as in the model, if it is started. -/
theorem run_start_of_start? {exec : Exec sessionSig σ} {s s' : σ}
    {r : Except SessionError IssuedSession}
    (h : (start? policy adminId role).run exec s = (some r, s')) :
    (SessionService.start policy adminId role).run exec s = (r, s') := by
  rw [← run_issue? h, SessionService.start]
  change Prog.run (S := sessionSig) _ (.call .now _) s = _
  rw [Prog.run_call]
  change Prog.run (S := sessionSig) _ (.call .generateSessionToken _) _ = _
  rw [Prog.run_call]
  change Prog.run (S := sessionSig) _ (.call .generateCsrfToken _) _ = _
  rw [Prog.run_call]
  change Prog.run (S := sessionSig) _ (.call (.insert _) _) _ = _
  rw [Prog.run_call, Prog.run_call]
  generalize exec (.insert _) _ = answered
  obtain ⟨e | ⟨⟩, t⟩ := answered
  · rfl
  · rfl

end

theorem eq_of_attachSessionCookies? {issued : IssuedSession} {cookies : List Cookie}
    (h : attachSessionCookies? issued = some cookies) : cookies = attachSessionCookies issued := by
  obtain ⟨expires, hexpires, h⟩ := Option.bind_eq_some_iff.mp h
  obtain ⟨rfl, -⟩ := toOffsetDateTime?_eq_some_iff.mp hexpires
  exact (Option.some.inj h).symm

theorem isSome_attachSessionCookies? {issued : IssuedSession} :
    (attachSessionCookies? issued).isSome ↔
      minDate * nanosPerSec ≤ issued.absoluteExpiresAt ∧
        issued.absoluteExpiresAt < endOfDates * nanosPerSec := by
  rw [attachSessionCookies?, toOffsetDateTime?]
  split
  · next h => exact iff_of_true rfl h
  · next h => exact iff_of_false nofun h

/-! ### None of them panics -/

/-- At that reading of the clock a session is started, or refused, and the cookies of one that is
issued can be attached. -/
def Starts (now : Int) (past : List (Reply sessionSig))
    (r : Option (Except SessionError IssuedSession)) : Prop :=
  past.head? = some ⟨SessionOp.now, now⟩ →
    ∃ result, r = some result ∧
      ∀ issued, result = .ok issued → (attachSessionCookies? issued).isSome

/-- Registering a failure, starting a session and attaching its cookies all come to an end, at one
reading of the clock and whatever the session store answers. -/
structure NoPanic (config : AuthConfig) (state : LockoutState) (now : Int) : Prop where
  registerFailure : (registerFailure? config.lockoutPolicy state now).isSome
  session : ∀ adminId role, (start? config.sessionPolicy adminId role).Returns (Starts now) []

/-- A date is an instant that fits. -/
theorem fits_of_lt_endOfDates {t : Int} (h : t < endOfDates * nanosPerSec) :
    t < 2 ^ 63 * nanosPerSec :=
  h.trans (by decide)

theorem now_of_head? {now now' : Int} {rest : List (Reply sessionSig)}
    (h : ((⟨SessionOp.now, now'⟩ : Reply sessionSig) :: rest).head? = some ⟨SessionOp.now, now⟩) :
    now' = now := by
  cases h
  rfl

theorem starts_iff {policy : SessionPolicy} {now : Int} :
    (∀ adminId role, (start? policy adminId role).Returns (Starts now) []) ↔
      minDate * nanosPerSec ≤ now + policy.absoluteTimeout ∧
        now + policy.absoluteTimeout < endOfDates * nanosPerSec := by
  constructor
  · intro h
    have hstart := h ⟨"a"⟩ ⟨"editor", by decide, by decide⟩ now ⟨"token"⟩ ⟨"csrf"⟩
    simp only [Prog.bind_ret, issue?] at hstart
    cases hsum : addDuration? now policy.absoluteTimeout with
    | none =>
        simp only [hsum] at hstart
        obtain ⟨_, hnone, -⟩ := hstart rfl
        cases hnone
    | some expires =>
        simp only [hsum] at hstart
        obtain ⟨_, hsome, hissued⟩ := hstart (.ok ()) rfl
        cases hsome
        obtain ⟨rfl, -⟩ := addDuration?_eq_some_iff.mp hsum
        exact isSome_attachSessionCookies?.mp (hissued _ rfl)
  · rintro ⟨hmin, hend⟩ adminId role now' token csrfToken
    simp only [Prog.bind_ret, issue?]
    cases hsum : addDuration? now' policy.absoluteTimeout with
    | none =>
        intro hclock
        obtain rfl := now_of_head? hclock
        have hfits := addDuration?_eq_some_iff.mpr ⟨rfl, fits_of_lt_endOfDates hend⟩
        cases hsum.symm.trans hfits
    | some expires =>
        obtain ⟨rfl, -⟩ := addDuration?_eq_some_iff.mp hsum
        rintro (e | ⟨⟩) hclock
        · exact ⟨_, rfl, nofun⟩
        · obtain rfl := now_of_head? hclock
          refine ⟨_, rfl, fun issued hissued => ?_⟩
          cases hissued
          exact isSome_attachSessionCookies?.mpr ⟨hmin, hend⟩

/-- **When no time arithmetic panics.**  Under a configuration that is accepted: the failure does
not lock, or the end of its lock is an instant that fits; and the session expires in a year that
dates can be of. -/
theorem noPanic_iff {quoted : String → String} {env : Env} {config : AuthConfig}
    (h : AuthConfig.fromEnv quoted env = .ok config) (state : LockoutState) (now : Int) :
    NoPanic config state now ↔
      (saturatingAdd state.failedAttempts 1 < config.lockoutPolicy.threshold ∨
        now + cappedDelay config.lockoutPolicy (saturatingAdd state.failedAttempts 1) <
          2 ^ 63 * nanosPerSec) ∧
      minDate * nanosPerSec ≤ now + config.sessionPolicy.absoluteTimeout ∧
        now + config.sessionPolicy.absoluteTimeout < endOfDates * nanosPerSec := by
  have hceiling := (AuthConfig.bounded_of_fromEnv h).maxDelay.asSecs_lt
  rw [← starts_iff, ← lockDuration_eq_cappedDelay hceiling, ← not_le, ← imp_iff_not_or,
    ← isSome_registerFailure?]
  exact ⟨fun h => ⟨h.registerFailure, h.session⟩, fun h => ⟨h.1, h.2⟩⟩

/-! ### Two configurations that panic -/

/-- Sessions that last for 300 billion seconds, and locks for `2 ^ 63`. -/
def longTimes : Env := fun key =>
  match key with
  | "ADMIN_LOCKOUT_MAX_ATTEMPTS" => some "1"
  | "ADMIN_LOCKOUT_BASE_SECONDS" => some "9223372036854775808"
  | "ADMIN_LOCKOUT_MAX_SECONDS" => some "9223372036854775808"
  | "SESSION_ABSOLUTE_TIMEOUT_SECS" => some "300000000000"
  | _ => none

theorem noPanic_default : ∃ config, AuthConfig.fromEnv id (fun _ => none) = .ok config ∧
    NoPanic config ⟨4, none⟩ (fromSecs 1700000000) :=
  ⟨_, rfl, (noPanic_iff (show AuthConfig.fromEnv id (fun _ => none) = .ok _ from rfl) ⟨4, none⟩
    (fromSecs 1700000000)).mpr (by decide)⟩

/-- The first failure panics, and so do the cookies of a session that is issued. -/
theorem longTimes_panics : ∃ config, AuthConfig.fromEnv id longTimes = .ok config ∧
    registerFailure? config.lockoutPolicy .clear (fromSecs 1700000000) = none ∧
    attachSessionCookies? ⟨⟨"token"⟩, ⟨"csrf"⟩,
      fromSecs 1700000000 + config.sessionPolicy.absoluteTimeout⟩ = none ∧
    ¬ NoPanic config .clear (fromSecs 1700000000) :=
  ⟨_, rfl, by decide, by decide, fun h => absurd h.registerFailure (by decide)⟩

end AuthApp.Server
