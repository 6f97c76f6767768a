import AuthApp.Accounts.Bootstrap
import AuthApp.Accounts.Lockout
import AuthApp.Http.RateLimit
import AuthApp.Payments.StripeWebhook
import AuthApp.Sessions.Session

/-!
# Server — the authentication configuration

`AuthConfig`: what an operator tunes without a rebuild, all of it read from the environment.  A
variable that is unset has a default; one that is set and cannot be read is an error.

* `accepted_iff`: the configurations that some environment gives are those whose numbers fit their
  types; nothing else is asked of them.
-/

namespace AuthApp.Server
open Accounts Http Payments Sessions

/-- The variables that are set, to a text that is Unicode. -/
abbrev Env := String → Option String

/-- A setting that is present and cannot be parsed. -/
inductive AuthConfigError where
  | invalidValue (key value : String)
  deriving DecidableEq, Repr

/-- `str::parse::<u32>`. -/
def parseU32 (s : List Char) : Option Nat := (parseU64 s).filter (· < 2 ^ 32)

def parseVar {α : Type} (parse : List Char → Option α) (env : Env) (key : String) (default : α) :
    Except AuthConfigError α :=
  match env key with
  | some raw =>
      match parse raw.toList with
      | some value => .ok value
      | none => .error (.invalidValue key raw)
  | none => .ok default

def parseBool (env : Env) (key : String) (default : Bool) : Except AuthConfigError Bool :=
  match env key with
  | some raw =>
      match String.ofList (toAsciiLowercase (trim raw.toList)) with
      | "true" | "1" | "yes" | "on" => .ok true
      | "false" | "0" | "no" | "off" => .ok false
      | _ => .error (.invalidValue key raw)
  | none => .ok default

/-! ### The cost of a password hash -/

structure Argon2Params where
  memoryKib : Nat
  iterations : Nat
  parallelism : Nat
  deriving DecidableEq, Repr

namespace Argon2Params

def owaspDefault : Argon2Params := ⟨19456, 2, 1⟩

/-- `quoted` is the debug format of a string. -/
def parseEnv (quoted : String → String) (env : Env) (key : String) (default : Nat) :
    Except PasswordHashError Nat :=
  match env key with
  | some raw =>
      match parseU32 raw.toList with
      | some value => .ok value
      | none => .error ⟨"invalid " ++ key ++ ": " ++ quoted raw⟩
  | none => .ok default

def fromEnv (quoted : String → String) (env : Env) : Except PasswordHashError Argon2Params := do
  let memoryKib ← parseEnv quoted env "ARGON2_MEMORY_KIB" owaspDefault.memoryKib
  let iterations ← parseEnv quoted env "ARGON2_ITERATIONS" owaspDefault.iterations
  let parallelism ← parseEnv quoted env "ARGON2_PARALLELISM" owaspDefault.parallelism
  return ⟨memoryKib, iterations, parallelism⟩

end Argon2Params

/-! ### The configuration -/

structure AuthConfig where
  argon2 : Argon2Params
  passwordPolicy : PasswordPolicy
  lockoutPolicy : LockoutPolicy
  sessionPolicy : SessionPolicy
  loginRateLimit : RateLimitConfig
  deriving DecidableEq, Repr

namespace AuthConfig

def passwordFromEnv (env : Env) : Except AuthConfigError PasswordPolicy := do
  let recommended := PasswordPolicy.recommended
  let minLength ← parseVar parseU64 env "ADMIN_PASSWORD_MIN_LENGTH" recommended.minLength
  let requireUppercase ←
    parseBool env "ADMIN_PASSWORD_REQUIRE_UPPERCASE" recommended.requireUppercase
  let requireLowercase ←
    parseBool env "ADMIN_PASSWORD_REQUIRE_LOWERCASE" recommended.requireLowercase
  let requireDigit ← parseBool env "ADMIN_PASSWORD_REQUIRE_DIGIT" recommended.requireDigit
  let requireSymbol ← parseBool env "ADMIN_PASSWORD_REQUIRE_SYMBOL" recommended.requireSymbol
  return ⟨minLength, requireUppercase, requireLowercase, requireDigit, requireSymbol⟩

def lockoutFromEnv (env : Env) : Except AuthConfigError LockoutPolicy := do
  let lockout := LockoutPolicy.recommended
  let maxAttempts ← parseVar parseU32 env "ADMIN_LOCKOUT_MAX_ATTEMPTS" lockout.maxAttempts
  let base ← parseVar parseU64 env "ADMIN_LOCKOUT_BASE_SECONDS" (asSecs lockout.baseDelay)
  let ceiling ← parseVar parseU64 env "ADMIN_LOCKOUT_MAX_SECONDS" (asSecs lockout.maxDelay)
  return ⟨maxAttempts, fromSecs base, fromSecs ceiling⟩

def sessionFromEnv (env : Env) : Except AuthConfigError SessionPolicy := do
  let recommended := SessionPolicy.recommended
  let idle ← parseVar parseU64 env "SESSION_IDLE_TIMEOUT_SECS" (asSecs recommended.idleTimeout)
  let absolute ←
    parseVar parseU64 env "SESSION_ABSOLUTE_TIMEOUT_SECS" (asSecs recommended.absoluteTimeout)
  return ⟨fromSecs idle, fromSecs absolute⟩

def rateLimitFromEnv (env : Env) : Except AuthConfigError RateLimitConfig := do
  let maxRequests ← parseVar parseU32 env "LOGIN_RATE_LIMIT_MAX_REQUESTS" 10
  let window ← parseVar parseU64 env "LOGIN_RATE_LIMIT_WINDOW_SECS" 60
  return ⟨.ofNat maxRequests, fromSecs window⟩

/-- The settings are read in this order, and the first bad one is reported. -/
def fromEnv (quoted : String → String) (env : Env) : Except AuthConfigError AuthConfig := do
  let passwordPolicy ← passwordFromEnv env
  let lockoutPolicy ← lockoutFromEnv env
  let argon2 ← (Argon2Params.fromEnv quoted env).mapError
    fun e => .invalidValue "ARGON2_*" e.display
  let sessionPolicy ← sessionFromEnv env
  let loginRateLimit ← rateLimitFromEnv env
  return ⟨argon2, passwordPolicy, lockoutPolicy, sessionPolicy, loginRateLimit⟩

end AuthConfig

/-! ### What is accepted -/

section settings
variable {env : Env} {key : String}

/-- What is read is the default, or what the value of the variable parses as. -/
theorem of_parseVar {α : Type} {parse : List Char → Option α} {default value : α} {P : α → Prop}
    (h : parseVar parse env key default = .ok value) (hdefault : P default)
    (hparse : ∀ s v, parse s = some v → P v) : P value := by
  rw [parseVar] at h
  split at h
  · next raw _ =>
      split at h
      · next v hv =>
          cases h
          exact hparse _ _ hv
      · cases h
  · cases h
    exact hdefault

theorem of_parseEnv {quoted : String → String} {default value : Nat}
    (h : Argon2Params.parseEnv quoted env key default = .ok value) (hdefault : default < 2 ^ 32) :
    value < 2 ^ 32 := by
  rw [Argon2Params.parseEnv] at h
  split at h
  · next raw _ =>
      split at h
      · next v hv =>
          cases h
          exact of_decide_eq_true (Option.filter_eq_some_iff.mp hv).2
      · cases h
  · cases h
    exact hdefault

theorem parseU32_lt {s : List Char} {n : Nat} (h : parseU32 s = some n) : n < 2 ^ 32 :=
  of_decide_eq_true (Option.filter_eq_some_iff.mp h).2

theorem parseU32_toString {n : Nat} (h : n < 2 ^ 32) : parseU32 (toString n).toList = some n := by
  rw [parseU32, parseU64_toString (by omega)]
  exact Option.filter_eq_some_iff.mpr ⟨rfl, decide_eq_true h⟩

theorem parseVar_some {α : Type} {parse : List Char → Option α} {default value : α} {raw : String}
    (hset : env key = some raw) (h : parse raw.toList = some value) :
    parseVar parse env key default = .ok value := by
  simp only [parseVar, hset, h]

theorem parseEnv_some {quoted : String → String} {default n : Nat}
    (hset : env key = some (toString n)) (h : n < 2 ^ 32) :
    Argon2Params.parseEnv quoted env key default = .ok n := by
  simp only [Argon2Params.parseEnv, hset, parseU32_toString h]

theorem parseBool_toString {default b : Bool} (hset : env key = some (toString b)) :
    parseBool env key default = .ok b := by
  rw [parseBool, hset]
  cases b with
  | true => rfl
  | false => rfl

end settings

/-- A `Duration` of whole seconds, of which there are a `u64`. -/
def IsSecs (d : Nat) : Prop := ∃ secs < 2 ^ 64, d = fromSecs secs

theorem isSecs_of_parseVar {env : Env} {key : String} {default secs : Nat}
    (h : parseVar parseU64 env key default = .ok secs) (hdefault : default < 2 ^ 64) :
    IsSecs (fromSecs secs) :=
  ⟨secs, of_parseVar (P := (· < 2 ^ 64)) h hdefault fun _ _ => parseU64_lt, rfl⟩

namespace IsSecs
variable {d : Nat}

theorem asSecs_lt (h : IsSecs d) : asSecs d < 2 ^ 64 := by
  obtain ⟨secs, hsecs, rfl⟩ := h
  rwa [asSecs_fromSecs]

theorem fromSecs_asSecs (h : IsSecs d) : fromSecs (asSecs d) = d := by
  obtain ⟨secs, -, rfl⟩ := h
  rw [asSecs_fromSecs]

end IsSecs

namespace AuthConfig
variable {quoted : String → String} {env : Env} {config : AuthConfig}

/-- The numbers of a configuration fit their types. -/
structure Bounded (config : AuthConfig) : Prop where
  memoryKib : config.argon2.memoryKib < 2 ^ 32
  iterations : config.argon2.iterations < 2 ^ 32
  parallelism : config.argon2.parallelism < 2 ^ 32
  minLength : config.passwordPolicy.minLength < 2 ^ 64
  maxAttempts : config.lockoutPolicy.maxAttempts < 2 ^ 32
  baseDelay : IsSecs config.lockoutPolicy.baseDelay
  maxDelay : IsSecs config.lockoutPolicy.maxDelay
  idleTimeout : IsSecs config.sessionPolicy.idleTimeout
  absoluteTimeout : IsSecs config.sessionPolicy.absoluteTimeout
  window : IsSecs config.loginRateLimit.window

/-- From `x >>= f = .ok b`, the value that `x` gave. -/
theorem bind_eq_ok {ε α β : Type} {x : Except ε α} {f : α → Except ε β} {b : β}
    (h : x >>= f = .ok b) : ∃ a, x = .ok a ∧ f a = .ok b := by
  cases x with
  | error e => cases h
  | ok a => exact ⟨a, rfl, h⟩

theorem minLength_of_fromEnv {password : PasswordPolicy} (h : passwordFromEnv env = .ok password) :
    password.minLength < 2 ^ 64 := by
  obtain ⟨minLength, hmin, h⟩ := bind_eq_ok h
  obtain ⟨_, -, h⟩ := bind_eq_ok h
  obtain ⟨_, -, h⟩ := bind_eq_ok h
  obtain ⟨_, -, h⟩ := bind_eq_ok h
  obtain ⟨_, -, h⟩ := bind_eq_ok h
  cases h
  exact of_parseVar (P := (· < 2 ^ 64)) hmin (by decide) fun _ _ => parseU64_lt

theorem lockout_of_fromEnv {lockout : LockoutPolicy} (h : lockoutFromEnv env = .ok lockout) :
    lockout.maxAttempts < 2 ^ 32 ∧ IsSecs lockout.baseDelay ∧ IsSecs lockout.maxDelay := by
  obtain ⟨attempts, hattempts, h⟩ := bind_eq_ok h
  obtain ⟨base, hbase, h⟩ := bind_eq_ok h
  obtain ⟨ceiling, hceiling, h⟩ := bind_eq_ok h
  cases h
  refine ⟨?_, isSecs_of_parseVar hbase (by decide), isSecs_of_parseVar hceiling (by decide)⟩
  exact of_parseVar (P := (· < 2 ^ 32)) hattempts (by decide) fun _ _ => parseU32_lt

theorem session_of_fromEnv {session : SessionPolicy} (h : sessionFromEnv env = .ok session) :
    IsSecs session.idleTimeout ∧ IsSecs session.absoluteTimeout := by
  obtain ⟨idle, hidle, h⟩ := bind_eq_ok h
  obtain ⟨absolute, habsolute, h⟩ := bind_eq_ok h
  cases h
  exact ⟨isSecs_of_parseVar hidle (by decide), isSecs_of_parseVar habsolute (by decide)⟩

theorem window_of_fromEnv {limit : RateLimitConfig} (h : rateLimitFromEnv env = .ok limit) :
    IsSecs limit.window := by
  obtain ⟨requests, -, h⟩ := bind_eq_ok h
  obtain ⟨window, hwindow, h⟩ := bind_eq_ok h
  cases h
  exact isSecs_of_parseVar hwindow (by decide)

theorem argon2_of_fromEnv {params : Argon2Params}
    (h : Argon2Params.fromEnv quoted env = .ok params) :
    params.memoryKib < 2 ^ 32 ∧ params.iterations < 2 ^ 32 ∧ params.parallelism < 2 ^ 32 := by
  obtain ⟨memory, hmemory, h⟩ := bind_eq_ok h
  obtain ⟨iterations, hiterations, h⟩ := bind_eq_ok h
  obtain ⟨parallelism, hparallelism, h⟩ := bind_eq_ok h
  cases h
  exact ⟨of_parseEnv hmemory (by decide), of_parseEnv hiterations (by decide),
    of_parseEnv hparallelism (by decide)⟩

/-- An error that is only renamed was one before. -/
theorem of_mapError_eq_ok {ε ε' α : Type} {f : ε → ε'} {x : Except ε α} {a : α}
    (h : x.mapError f = .ok a) : x = .ok a := by
  cases x with
  | error e => cases h
  | ok b =>
      cases h
      rfl

theorem bounded_of_fromEnv (h : fromEnv quoted env = .ok config) : config.Bounded := by
  obtain ⟨password, hpassword, h⟩ := bind_eq_ok h
  obtain ⟨lockout, hlockout, h⟩ := bind_eq_ok h
  obtain ⟨argon2, hargon2, h⟩ := bind_eq_ok h
  obtain ⟨session, hsession, h⟩ := bind_eq_ok h
  obtain ⟨limit, hlimit, h⟩ := bind_eq_ok h
  cases h
  obtain ⟨hmemory, hiterations, hparallelism⟩ := argon2_of_fromEnv (of_mapError_eq_ok hargon2)
  obtain ⟨hattempts, hbase, hceiling⟩ := lockout_of_fromEnv hlockout
  obtain ⟨hidle, habsolute⟩ := session_of_fromEnv hsession
  exact {
    memoryKib := hmemory
    iterations := hiterations
    parallelism := hparallelism
    minLength := minLength_of_fromEnv hpassword
    maxAttempts := hattempts
    baseDelay := hbase
    maxDelay := hceiling
    idleTimeout := hidle
    absoluteTimeout := habsolute
    window := window_of_fromEnv hlimit }

/-- An environment that spells a configuration out. -/
def toEnv (config : AuthConfig) : Env := fun key =>
  match key with
  | "ADMIN_PASSWORD_MIN_LENGTH" => some (toString config.passwordPolicy.minLength)
  | "ADMIN_PASSWORD_REQUIRE_UPPERCASE" => some (toString config.passwordPolicy.requireUppercase)
  | "ADMIN_PASSWORD_REQUIRE_LOWERCASE" => some (toString config.passwordPolicy.requireLowercase)
  | "ADMIN_PASSWORD_REQUIRE_DIGIT" => some (toString config.passwordPolicy.requireDigit)
  | "ADMIN_PASSWORD_REQUIRE_SYMBOL" => some (toString config.passwordPolicy.requireSymbol)
  | "ADMIN_LOCKOUT_MAX_ATTEMPTS" => some (toString config.lockoutPolicy.maxAttempts)
  | "ADMIN_LOCKOUT_BASE_SECONDS" => some (toString (asSecs config.lockoutPolicy.baseDelay))
  | "ADMIN_LOCKOUT_MAX_SECONDS" => some (toString (asSecs config.lockoutPolicy.maxDelay))
  | "ARGON2_MEMORY_KIB" => some (toString config.argon2.memoryKib)
  | "ARGON2_ITERATIONS" => some (toString config.argon2.iterations)
  | "ARGON2_PARALLELISM" => some (toString config.argon2.parallelism)
  | "SESSION_IDLE_TIMEOUT_SECS" => some (toString (asSecs config.sessionPolicy.idleTimeout))
  | "SESSION_ABSOLUTE_TIMEOUT_SECS" =>
      some (toString (asSecs config.sessionPolicy.absoluteTimeout))
  | "LOGIN_RATE_LIMIT_MAX_REQUESTS" => some (toString config.loginRateLimit.maxRequests.toNat)
  | "LOGIN_RATE_LIMIT_WINDOW_SECS" => some (toString (asSecs config.loginRateLimit.window))
  | _ => none

/-- The value that `x` gives is passed on. -/
theorem bind_ok {ε α β : Type} {x : Except ε α} {f : α → Except ε β} {a : α} {r : Except ε β}
    (hx : x = .ok a) (hf : f a = r) : x >>= f = r := by
  rw [hx]
  exact hf

theorem passwordFromEnv_toEnv (h : config.Bounded) :
    passwordFromEnv config.toEnv = .ok config.passwordPolicy := by
  refine bind_ok (parseVar_some (by rfl) (parseU64_toString h.minLength)) ?_
  refine bind_ok (parseBool_toString (by rfl)) ?_
  refine bind_ok (parseBool_toString (by rfl)) ?_
  refine bind_ok (parseBool_toString (by rfl)) ?_
  exact bind_ok (parseBool_toString (by rfl)) rfl

theorem lockoutFromEnv_toEnv (h : config.Bounded) :
    lockoutFromEnv config.toEnv = .ok config.lockoutPolicy := by
  refine bind_ok (parseVar_some (by rfl) (parseU32_toString h.maxAttempts)) ?_
  refine bind_ok (parseVar_some (by rfl) (parseU64_toString h.baseDelay.asSecs_lt)) ?_
  refine bind_ok (parseVar_some (by rfl) (parseU64_toString h.maxDelay.asSecs_lt)) ?_
  rw [h.baseDelay.fromSecs_asSecs, h.maxDelay.fromSecs_asSecs]
  rfl

theorem argon2FromEnv_toEnv (h : config.Bounded) :
    Argon2Params.fromEnv quoted config.toEnv = .ok config.argon2 := by
  refine bind_ok (parseEnv_some (by rfl) h.memoryKib) ?_
  refine bind_ok (parseEnv_some (by rfl) h.iterations) ?_
  exact bind_ok (parseEnv_some (by rfl) h.parallelism) rfl

theorem sessionFromEnv_toEnv (h : config.Bounded) :
    sessionFromEnv config.toEnv = .ok config.sessionPolicy := by
  refine bind_ok (parseVar_some (by rfl) (parseU64_toString h.idleTimeout.asSecs_lt)) ?_
  refine bind_ok (parseVar_some (by rfl) (parseU64_toString h.absoluteTimeout.asSecs_lt)) ?_
  rw [h.idleTimeout.fromSecs_asSecs, h.absoluteTimeout.fromSecs_asSecs]
  rfl

theorem rateLimitFromEnv_toEnv (h : config.Bounded) :
    rateLimitFromEnv config.toEnv = .ok config.loginRateLimit := by
  refine bind_ok (parseVar_some (by rfl)
    (parseU32_toString config.loginRateLimit.maxRequests.toNat_lt)) ?_
  refine bind_ok (parseVar_some (by rfl) (parseU64_toString h.window.asSecs_lt)) ?_
  rw [h.window.fromSecs_asSecs, UInt32.ofNat_toNat]
  rfl

theorem fromEnv_toEnv (h : config.Bounded) : fromEnv quoted config.toEnv = .ok config := by
  refine bind_ok (passwordFromEnv_toEnv h) ?_
  refine bind_ok (lockoutFromEnv_toEnv h) ?_
  refine bind_ok (by rw [argon2FromEnv_toEnv h]; rfl) ?_
  refine bind_ok (sessionFromEnv_toEnv h) ?_
  exact bind_ok (rateLimitFromEnv_toEnv h) rfl

/-- **What is accepted.**  Any numbers that fit their types. -/
theorem accepted_iff : (∃ env, fromEnv quoted env = .ok config) ↔ config.Bounded :=
  ⟨fun ⟨_, h⟩ => bounded_of_fromEnv h, fun h => ⟨_, fromEnv_toEnv h⟩⟩

end AuthConfig

end AuthApp.Server
