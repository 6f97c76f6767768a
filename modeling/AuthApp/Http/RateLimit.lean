import AuthApp.Domain.Time
import AuthApp.Interleave.Program
import Mathlib.Logic.Function.Basic

/-!
# Http — the rate limiter

A fixed window of requests for each key, kept in the memory of the process.  The count is a `u32`,
which wraps around in a release build.

* `check_window_ne`: a check leaves the window of every other key alone.
* `retryAfter_of_check`: a key that is rejected is told to wait, and for one window at most.
-/

namespace AuthApp.Http
open Interleave

/-- The requests a key may make in a window, and the length of one. -/
structure RateLimitConfig where
  maxRequests : UInt32
  window : Nat
  deriving DecidableEq, Repr

structure Window where
  count : UInt32
  startedAt : Int
  deriving DecidableEq, Repr

/-- The time since a window started, and none when the clock went backwards. -/
def Window.elapsed (window : Window) (now : Int) : Nat :=
  (durationSince now window.startedAt).getD 0

abbrev Windows := String → Option Window

structure RateLimitExceeded where
  retryAfter : Nat
  deriving DecidableEq, Repr

namespace RateLimiter
variable (config : RateLimitConfig)

/-- The window of a key: a new one if it has none, or has come to the end of its own. -/
def current (windows : Windows) (key : String) (now : Int) : Window :=
  let window := (windows key).getD ⟨0, now⟩
  if config.window ≤ window.elapsed now then ⟨0, now⟩ else window

/-- Record one request for a key. -/
def check (windows : Windows) (key : String) (now : Int) :
    Except RateLimitExceeded Unit × Windows :=
  let window := { current config windows key now with
    count := (current config windows key now).count + 1 }
  (if config.maxRequests < window.count then .error ⟨config.window - window.elapsed now⟩
    else .ok (),
    Function.update windows key (some window))

variable {config} {windows : Windows} {key : String} {now : Int}

theorem check_window_ne {other : String} (h : other ≠ key) :
    (check config windows key now).2 other = windows other :=
  Function.update_of_ne h _ _

/-- The window a key is in has not come to its end. -/
theorem elapsed_current (windows : Windows) (key : String) (now : Int)
    (hwindow : 0 < config.window) :
    (current config windows key now).elapsed now < config.window := by
  rw [current]
  split
  · rw [Window.elapsed, durationSince, if_pos (le_refl now), sub_self]
    exact hwindow
  · next h => exact not_le.mp h

theorem retryAfter_of_check {exceeded : RateLimitExceeded} (hwindow : 0 < config.window)
    (h : (check config windows key now).1 = .error exceeded) :
    0 < exceeded.retryAfter ∧ exceeded.retryAfter ≤ config.window := by
  have hrunning := elapsed_current windows key now hwindow
  simp only [check] at h
  split at h
  · cases h
    exact ⟨Nat.sub_pos_of_lt hrunning, Nat.sub_le _ _⟩
  · cases h

end RateLimiter

inductive LimitOp where
  | check (key : String) (now : Int)

abbrev LimitOp.Ans : LimitOp → Type
  | .check .. => Except RateLimitExceeded Unit

abbrev limitSig : Sig := ⟨LimitOp, LimitOp.Ans⟩

/-- The lock of the limiter is held for a whole check, and nothing in it can fail. -/
def RateLimiter.exec (config : RateLimitConfig) : Exec limitSig Windows
  | .check key now, windows => check config windows key now

end AuthApp.Http
