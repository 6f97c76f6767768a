import AuthApp.Accounts.Account

/-!
# Accounts — the lockout policy

Failures accumulate; from the threshold on, each locks for a delay that doubles with every
further failure, up to a ceiling.

* `isLocked_iff`: a lock holds until its deadline.
* `lockedUntil_registerFailure`: a failure at the threshold or past it sets a deadline that is not
  before the failure.
-/

namespace AuthApp.Accounts

/-- `max_attempts` is a `u32`, the delays are `Duration`s.  Whether a state is locked does not
depend on the policy. -/
structure LockoutPolicy where
  maxAttempts : Nat
  baseDelay : Nat
  maxDelay : Nat
  deriving DecidableEq, Repr

def u32Max : Nat := 2 ^ 32 - 1

/-- `u32::saturating_add`. -/
def saturatingAdd (a b : Nat) : Nat := min (a + b) u32Max

/-- `Duration::checked_mul`: the seconds of the product fit a `u64`. -/
def checkedMul (d factor : Nat) : Option Nat :=
  if asSecs (d * factor) < 2 ^ 64 then some (d * factor) else none

namespace LockoutPolicy
variable (policy : LockoutPolicy)

/-- Five failures, one minute, up to an hour. -/
def recommended : LockoutPolicy := ⟨5, fromSecs 60, fromSecs 3600⟩

/-- The failure that locks first. -/
def threshold : Nat := max policy.maxAttempts 1

def isLocked (state : LockoutState) (now : Int) : Bool :=
  match state.lockedUntil with
  | some til => decide (now < til)
  | none => false

/-- The delay until `state` unlocks, if it is locked. -/
def retryAfter (state : LockoutState) (now : Int) : Option Nat :=
  match state.lockedUntil with
  | some til => (durationSince til now).filter (· ≠ 0)
  | none => none

/-- `base * 2 ^ (failures past the threshold)`, up to the ceiling. -/
def lockDuration (failedAttempts : Nat) : Nat :=
  let past := failedAttempts - policy.threshold
  let factor := 2 ^ min past 32
  let scaled := (checkedMul policy.baseDelay (min factor u32Max)).getD policy.maxDelay
  min scaled policy.maxDelay

/-- The state after a failed attempt at `now`. -/
def registerFailure (state : LockoutState) (now : Int) : LockoutState :=
  let failedAttempts := saturatingAdd state.failedAttempts 1
  { failedAttempts
    lockedUntil :=
      if policy.threshold ≤ failedAttempts then some (now + policy.lockDuration failedAttempts)
      else none }

variable {policy}

theorem isLocked_iff {state : LockoutState} {now : Int} :
    isLocked state now ↔ ∃ til, state.lockedUntil = some til ∧ now < til := by
  rw [isLocked]
  cases state.lockedUntil with
  | none => simp
  | some til => simp

theorem failedAttempts_registerFailure {state : LockoutState} {now : Int}
    (h : state.failedAttempts < u32Max) :
    (policy.registerFailure state now).failedAttempts = state.failedAttempts + 1 :=
  Nat.min_eq_left h

/-- A failure at the threshold or past it locks, and not until before it happened. -/
theorem lockedUntil_registerFailure {state : LockoutState} {now : Int}
    (h : policy.threshold ≤ saturatingAdd state.failedAttempts 1) :
    ∃ til, (policy.registerFailure state now).lockedUntil = some til ∧ now ≤ til := by
  refine ⟨_, if_pos h, ?_⟩
  exact Int.le_add_of_nonneg_right (Int.natCast_nonneg _)

end LockoutPolicy

end AuthApp.Accounts
