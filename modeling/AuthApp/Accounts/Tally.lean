import AuthApp.Accounts.Lockout

/-!
# Accounts — a lockout, as a tally

A lockout state that is kept exactly is a function of what happened to its principal: a success
clears it, a failure moves it, and nothing happens to it while it is locked.  `Tally` is such a
history, newest first, with the state it leaves.

* `Tally.count`: the stored count is the number of failures since the last success.
* `Tally.locked_of_failure`: a failure at the threshold or past it locks until its delay is over.
* `Tally.unlocked`: below the threshold there is no lock.
-/

namespace AuthApp.Accounts

/-- What an attempt is to a principal: it cleared it, it failed, or it did not count. -/
inductive Mark where
  | success
  | failure
  | other
  deriving DecidableEq, Repr

/-- What a mark at `now` does to the counters. -/
def Mark.act (policy : LockoutPolicy) (now : Int) : Mark → LockoutState → LockoutState
  | .success, _ => .clear
  | .failure, state => policy.registerFailure state now
  | .other, state => state

/-- A mark takes a state to the next, and while the state is locked it does not count. -/
structure Mark.Moves (policy : LockoutPolicy) (now : Int) (m : Mark)
    (state state' : LockoutState) : Prop where
  act : state' = m.act policy now state
  other : LockoutPolicy.isLocked state now = true → m = .other

section
variable {policy : LockoutPolicy} {now : Int} {m : Mark} {state state' : LockoutState}

theorem Mark.Moves.of_other (h : state' = state) (hm : m = .other) :
    m.Moves policy now state state' := by
  subst hm
  exact ⟨h, fun _ => rfl⟩

theorem Mark.Moves.of_success (hl : LockoutPolicy.isLocked state now = false)
    (h : state' = .clear) (hm : m = .success) : m.Moves policy now state state' := by
  subst hm
  exact ⟨h, fun hlocked => absurd hlocked (by simp [hl])⟩

theorem Mark.Moves.of_failure (hl : LockoutPolicy.isLocked state now = false)
    (h : state' = policy.registerFailure state now) (hm : m = .failure) :
    m.Moves policy now state state' := by
  subst hm
  exact ⟨h, fun hlocked => absurd hlocked (by simp [hl])⟩

end

/-- The failures since the last success, the newest mark first. -/
def failures (marks : List Mark) : Nat := (marks.takeWhile (· ≠ .success)).countP (· = .failure)

@[simp] theorem failures_nil : failures [] = 0 := rfl

@[simp] theorem failures_success (marks : List Mark) : failures (.success :: marks) = 0 := rfl

@[simp] theorem failures_failure (marks : List Mark) :
    failures (.failure :: marks) = failures marks + 1 := by
  simp [failures]

@[simp] theorem failures_other (marks : List Mark) :
    failures (.other :: marks) = failures marks := by
  simp [failures]

/-- The marks of a principal, each with its instant, and the state they leave.  While it is locked
no mark counts. -/
inductive Tally (policy : LockoutPolicy) : List (Int × Mark) → LockoutState → Prop where
  | nil : Tally policy [] .clear
  | cons {past : List (Int × Mark)} {state : LockoutState} (h : Tally policy past state)
      (now : Int) (m : Mark) (hm : LockoutPolicy.isLocked state now = true → m = .other) :
      Tally policy ((now, m) :: past) (m.act policy now state)

/-- The failures of a tally since its last success. -/
def failuresOf (past : List (Int × Mark)) : Nat := failures (past.map Prod.snd)

namespace Tally
variable {policy : LockoutPolicy} {past later earlier : List (Int × Mark)} {state : LockoutState}
  {t : Int}

/-- The marks determine the state they leave. -/
theorem functional {state' : LockoutState} (h : Tally policy past state)
    (h' : Tally policy past state') : state = state' := by
  induction h generalizing state' with
  | nil => cases h'; rfl
  | cons _ now m _ ih =>
      cases h' with
      | cons h' _ _ _ => rw [ih h']

/-- The stored count is the number of failures since the last success, as far as a `u32` goes. -/
theorem count (h : Tally policy past state) :
    state.failedAttempts = min (failuresOf past) u32Max := by
  induction h with
  | nil => rfl
  | cons _ now m _ ih =>
      cases m with
      | success => rfl
      | other => exact ih
      | failure =>
          rw [Mark.act, LockoutPolicy.registerFailure, ih]
          simp only [failuresOf, List.map_cons, failures_failure, saturatingAdd]
          omega

/-- A failure that is the `k`-th since the last success locks for the delay of `k` failures. -/
theorem lock_of_failure (h : Tally policy ((t, .failure) :: earlier) state) :
    state.lockedUntil =
      if policy.threshold ≤ min (failuresOf ((t, .failure) :: earlier)) u32Max then
        some (t + policy.lockDuration (min (failuresOf ((t, .failure) :: earlier)) u32Max))
      else none := by
  rw [← h.count]
  cases h
  rfl

/-- A lock is held by a principal that has failed as often as the policy allows. -/
theorem threshold_le (h : Tally policy past state) (hl : state.lockedUntil ≠ none) :
    policy.threshold ≤ failuresOf past := by
  induction h with
  | nil => exact absurd rfl hl
  | @cons past state h now m hm ih =>
      cases m with
      | success => exact absurd rfl hl
      | other => simpa [failuresOf] using ih hl
      | failure =>
          have hnew := h.cons now .failure hm
          rw [hnew.lock_of_failure] at hl
          by_contra hlt
          rw [if_neg (by omega)] at hl
          exact hl rfl

/-- Below the threshold there is no lock. -/
theorem unlocked (h : Tally policy past state) (hlt : failuresOf past < policy.threshold)
    (now : Int) : LockoutPolicy.isLocked state now = false := by
  have hnone : state.lockedUntil = none := by
    by_contra hne
    exact absurd (h.threshold_le hne) (Nat.not_le.mpr hlt)
  rw [LockoutPolicy.isLocked, hnone]

/-- What came before a stretch of a tally is a tally. -/
theorem of_append (h : Tally policy (later ++ past) state) : ∃ s, Tally policy past s := by
  induction later generalizing state with
  | nil => exact ⟨state, h⟩
  | cons m later ih =>
      cases h with
      | cons h now m hm => exact ih h

/-- A lock outlasts every mark before its deadline. -/
theorem lockedUntil_of_append {state₀ : LockoutState} {til : Int} (h₀ : Tally policy past state₀)
    (hl : state₀.lockedUntil = some til) (h : Tally policy (later ++ past) state)
    (hlater : ∀ w ∈ later, w.1 < til) : state.lockedUntil = some til := by
  induction later generalizing state with
  | nil =>
      obtain rfl := h₀.functional h
      exact hl
  | cons w later ih =>
      cases h with
      | @cons _ state' h now m hm =>
          have hkept := ih h fun w hw => hlater w (List.mem_cons_of_mem _ hw)
          have hlocked := LockoutPolicy.isLocked_iff.mpr ⟨til, hkept, hlater _ List.mem_cons_self⟩
          rw [hm hlocked]
          exact hkept

/-- **The lock holds.** A failure that is the threshold's or a later one since the last success
locks its principal until its delay is over. -/
theorem locked_of_failure (hmax : policy.threshold ≤ u32Max)
    (h : Tally policy (later ++ (t, .failure) :: earlier) state)
    (hk : policy.threshold ≤ failuresOf ((t, .failure) :: earlier))
    (hlater : ∀ w ∈ later,
      w.1 < t + policy.lockDuration (min (failuresOf ((t, .failure) :: earlier)) u32Max)) :
    state.lockedUntil =
      some (t + policy.lockDuration (min (failuresOf ((t, .failure) :: earlier)) u32Max)) := by
  obtain ⟨s, hs⟩ := h.of_append
  have hl := hs.lock_of_failure
  rw [if_pos (Nat.le_min.mpr ⟨hk, hmax⟩)] at hl
  exact lockedUntil_of_append hs hl h hlater

end Tally

end AuthApp.Accounts
