import AuthApp.Server.Config

/-!
# Server — the progressive delay

What a configured lock lasts, beside the formula that it is meant to follow.  The two part where the
shift of `lock_duration` stops growing, on a ceiling that is out of its reach.

* `lockDuration_eq_cappedDelay`: what a configured lock lasts.
* `lockDuration_of_lt`: up to 31 failures past the threshold, the formula.
* `lockDuration_of_le`: from 32 on, `u32::MAX` times the base delay.
* `followsFormula_iff`: exactly when a configured lock lasts what the formula says.
-/

namespace AuthApp.Server
open Accounts LockoutPolicy
variable {policy : LockoutPolicy} {n : Nat}

/-- `base * 2 ^ (n - threshold)` up to the ceiling, in exact arithmetic. -/
def exactDelay (policy : LockoutPolicy) (n : Nat) : Nat :=
  min policy.maxDelay (policy.baseDelay * 2 ^ (n - policy.threshold))

/-- The `n`th failure in a row locks from the threshold on, for exactly the delay of the formula,
and before it does not lock. -/
def FollowsFormula (policy : LockoutPolicy) (state : LockoutState) (now : Int) : Prop :=
  let next := policy.registerFailure state now
  next.lockedUntil =
    if policy.threshold ≤ next.failedAttempts then
      some (now + exactDelay policy next.failedAttempts)
    else none

instance (policy : LockoutPolicy) (state : LockoutState) (now : Int) :
    Decidable (FollowsFormula policy state now) := inferInstanceAs (Decidable (_ = _))

/-- A product that does not fit is past every ceiling that does. -/
theorem min_checkedMul {d factor ceiling : Nat} (h : asSecs ceiling < 2 ^ 64) :
    min ((checkedMul d factor).getD ceiling) ceiling = min ceiling (d * factor) := by
  rw [checkedMul]
  split
  · exact min_comm _ _
  · next hfit =>
      have hlt : asSecs ceiling < asSecs (d * factor) := h.trans_le (not_lt.mp hfit)
      have hle : ceiling ≤ d * factor := le_of_lt (Nat.lt_of_div_lt_div hlt)
      rw [Option.getD_none, min_self, min_eq_left hle]

/-- What `lock_duration` computes, under a ceiling that fits: its factor stops at `u32::MAX`. -/
def cappedDelay (policy : LockoutPolicy) (n : Nat) : Nat :=
  min policy.maxDelay (policy.baseDelay * min (2 ^ (n - policy.threshold)) u32Max)

theorem lockDuration_eq_cappedDelay (hceiling : asSecs policy.maxDelay < 2 ^ 64) :
    policy.lockDuration n = cappedDelay policy n := by
  -- the shift stops where the factor is past the clamp
  have hfactor : min (2 ^ min (n - policy.threshold) 32) u32Max =
      min (2 ^ (n - policy.threshold)) u32Max := by
    by_cases hpast : n - policy.threshold ≤ 32
    · rw [min_eq_left hpast]
    · have hpow : 2 ^ 32 ≤ 2 ^ (n - policy.threshold) :=
        Nat.pow_le_pow_right (by decide) (not_le.mp hpast).le
      rw [min_eq_right (not_le.mp hpast).le, min_eq_right (by decide),
        min_eq_right ((by decide : u32Max ≤ 2 ^ 32).trans hpow)]
  rw [LockoutPolicy.lockDuration, min_checkedMul hceiling, hfactor, cappedDelay]

theorem lockDuration_of_lt (hceiling : asSecs policy.maxDelay < 2 ^ 64)
    (h : n < policy.threshold + 32) : policy.lockDuration n = exactDelay policy n := by
  have hpast : n - policy.threshold ≤ 31 := by omega
  -- the factor is below the clamp
  have hfactor : 2 ^ (n - policy.threshold) ≤ u32Max :=
    (Nat.pow_le_pow_right (by decide) hpast).trans (by decide)
  rw [lockDuration_eq_cappedDelay hceiling, cappedDelay, min_eq_left hfactor, exactDelay]

/-- The factor that `lock_duration` stops at is below the power that it stands for. -/
theorem u32Max_lt_pow (h : policy.threshold + 32 ≤ n) : u32Max < 2 ^ (n - policy.threshold) := by
  have hpow : 2 ^ 32 ≤ 2 ^ (n - policy.threshold) :=
    Nat.pow_le_pow_right (by decide) (by omega)
  exact (by decide : u32Max < 2 ^ 32).trans_le hpow

theorem lockDuration_of_le (hceiling : asSecs policy.maxDelay < 2 ^ 64)
    (h : policy.threshold + 32 ≤ n) :
    policy.lockDuration n = min policy.maxDelay (policy.baseDelay * u32Max) := by
  rw [lockDuration_eq_cappedDelay hceiling, cappedDelay, min_eq_right (u32Max_lt_pow h).le]

theorem lockDuration_eq_exactDelay_iff (hceiling : asSecs policy.maxDelay < 2 ^ 64) :
    policy.lockDuration n = exactDelay policy n ↔
      policy.baseDelay = 0 ∨ n < policy.threshold + 32 ∨
        policy.maxDelay ≤ policy.baseDelay * u32Max := by
  by_cases hn : n < policy.threshold + 32
  · simp only [lockDuration_of_lt hceiling hn, hn, true_or, or_true]
  · have hn' := not_lt.mp hn
    rw [lockDuration_of_le hceiling hn', exactDelay]
    constructor
    · intro h
      by_contra hout
      obtain ⟨hbase, -, hmax⟩ : policy.baseDelay ≠ 0 ∧ _ ∧ ¬ _ := by simpa only [not_or] using hout
      -- the code's product is below the ceiling and below the exact one
      have hlt : policy.baseDelay * u32Max < policy.baseDelay * 2 ^ (n - policy.threshold) :=
        Nat.mul_lt_mul_of_pos_left (u32Max_lt_pow hn') (Nat.pos_of_ne_zero hbase)
      rw [min_eq_right (not_le.mp hmax).le] at h
      exact absurd h (ne_of_lt (lt_min (not_le.mp hmax) hlt))
    · rintro (hbase | hlt | hmax)
      · rw [hbase, Nat.zero_mul, Nat.zero_mul]
      · exact absurd hlt hn
      · have hle : policy.baseDelay * u32Max ≤ policy.baseDelay * 2 ^ (n - policy.threshold) :=
          Nat.mul_le_mul_left _ (u32Max_lt_pow hn').le
        rw [min_eq_left hmax, min_eq_left (hmax.trans hle)]

section failure
variable {state : LockoutState} {now : Int}

theorem followsFormula_of_le (h : policy.threshold ≤ saturatingAdd state.failedAttempts 1) :
    FollowsFormula policy state now ↔
      policy.lockDuration (saturatingAdd state.failedAttempts 1) =
        exactDelay policy (saturatingAdd state.failedAttempts 1) := by
  have hlocked : (policy.registerFailure state now).lockedUntil =
      some (now + policy.lockDuration (saturatingAdd state.failedAttempts 1)) := if_pos h
  rw [FollowsFormula, hlocked]
  refine Eq.congr_right (if_pos h) |>.trans ?_
  rw [Option.some.injEq, Int.add_right_inj, Nat.cast_inj]
  rfl

/-- Before the threshold there is no lock to speak of. -/
theorem followsFormula_of_lt (h : ¬ policy.threshold ≤ saturatingAdd state.failedAttempts 1) :
    FollowsFormula policy state now :=
  (if_neg h).trans (if_neg h).symm

end failure

/-- **When a lock follows the formula.**  Under a configuration that is accepted, whatever the
state before the failure: unless the failure is 32 or more past the threshold, the base delay is
not zero, and the ceiling is above `u32::MAX` times the base delay. -/
theorem followsFormula_iff {quoted : String → String} {env : Env} {config : AuthConfig}
    (h : AuthConfig.fromEnv quoted env = .ok config) (state : LockoutState) (now : Int) :
    FollowsFormula config.lockoutPolicy state now ↔
      config.lockoutPolicy.baseDelay = 0 ∨
        saturatingAdd state.failedAttempts 1 < config.lockoutPolicy.threshold + 32 ∨
        config.lockoutPolicy.maxDelay ≤ config.lockoutPolicy.baseDelay * u32Max := by
  have hceiling := (AuthConfig.bounded_of_fromEnv h).maxDelay.asSecs_lt
  rw [← lockDuration_eq_exactDelay_iff hceiling]
  by_cases hlocks : config.lockoutPolicy.threshold ≤ saturatingAdd state.failedAttempts 1
  · rw [followsFormula_of_le hlocks]
  · have hn : saturatingAdd state.failedAttempts 1 < config.lockoutPolicy.threshold + 32 := by omega
    exact iff_of_true (followsFormula_of_lt hlocks) (lockDuration_of_lt hceiling hn)

/-- A base delay of one second, and a ceiling of `2 ^ 33` seconds. -/
def highCeiling : Env := fun key =>
  match key with
  | "ADMIN_LOCKOUT_BASE_SECONDS" => some "1"
  | "ADMIN_LOCKOUT_MAX_SECONDS" => some "8589934592"
  | _ => none

theorem followsFormula_default :
    FollowsFormula .recommended ⟨4, none⟩ 0 :=
  (followsFormula_iff (show AuthConfig.fromEnv id (fun _ => none) = .ok _ from rfl) ⟨4, none⟩ 0).mpr
    (by decide)

/-- The 37th failure in a row locks for a second less than the formula says. -/
theorem highCeiling_falls_short : ∃ config,
    AuthConfig.fromEnv id highCeiling = .ok config ∧
      exactDelay config.lockoutPolicy 37 = fromSecs (2 ^ 32) ∧
      config.lockoutPolicy.registerFailure ⟨36, none⟩ 0 = ⟨37, some (fromSecs (2 ^ 32 - 1))⟩ ∧
      ¬ FollowsFormula config.lockoutPolicy ⟨36, none⟩ 0 :=
  ⟨_, rfl, by decide, by decide, by decide⟩

end AuthApp.Server
