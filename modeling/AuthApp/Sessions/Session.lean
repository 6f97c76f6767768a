import AuthApp.Accounts.Account
import AuthApp.Domain.Time

/-!
# Sessions — a session and its limits

A session dies at its absolute deadline, or when it has not been used for the idle time, whichever
comes first.  `SessionPolicy.isExpired` also holds of a session that was last seen after the
instant it is asked about.

* `isExpired_eq_false_iff`: when a session is live.
-/

namespace AuthApp.Sessions
open Accounts

structure SessionToken where
  raw : String
  deriving DecidableEq, Repr

structure CsrfToken where
  raw : String
  deriving DecidableEq, Repr

/-- A stored session, as the repository hands it over. -/
structure Session where
  token : SessionToken
  adminId : AdminId
  /-- The admin's role when the session was issued. -/
  role : Role
  csrfToken : CsrfToken
  createdAt : Int
  absoluteExpiresAt : Int
  /-- The last instant the session was used. -/
  lastSeenAt : Int
  deriving DecidableEq

/-- The time a session may sit unused, and the ceiling on its lifetime. -/
structure SessionPolicy where
  idleTimeout : Nat
  absoluteTimeout : Nat
  deriving DecidableEq, Repr

namespace SessionPolicy

/-- Half an hour idle, twelve hours in all. -/
def recommended : SessionPolicy := ⟨fromSecs (30 * 60), fromSecs (12 * 60 * 60)⟩

def isExpired (policy : SessionPolicy) (session : Session) (now : Int) : Bool :=
  if session.absoluteExpiresAt ≤ now then true
  else
    match durationSince now session.lastSeenAt with
    | some idleFor => decide (policy.idleTimeout ≤ idleFor)
    -- the clock went backwards
    | none => true

theorem isExpired_eq_false_iff {policy : SessionPolicy} {session : Session} {now : Int} :
    policy.isExpired session now = false ↔
      now < session.absoluteExpiresAt ∧ session.lastSeenAt ≤ now ∧
        now - session.lastSeenAt < policy.idleTimeout := by
  rw [isExpired]
  by_cases ha : session.absoluteExpiresAt ≤ now
  · simp [ha]
  · rw [if_neg ha]
    cases hd : durationSince now session.lastSeenAt with
    | none =>
        have hlt := durationSince_eq_none_iff.mp hd
        simp only [Bool.true_eq_false, false_iff]
        omega
    | some d =>
        have heq := durationSince_eq_some hd
        simp only [decide_eq_false_iff_not]
        omega

/-- A session that is expired, though not last seen in the future, was so if it was last seen
earlier still. -/
theorem isExpired_of_earlier {policy : SessionPolicy} {session : Session} {seen earlier now : Int}
    (h : policy.isExpired { session with lastSeenAt := seen } now = true) (hseen : seen ≤ now)
    (hearlier : earlier ≤ seen) :
    policy.isExpired { session with lastSeenAt := earlier } now = true := by
  cases hx : policy.isExpired { session with lastSeenAt := earlier } now with
  | true => rfl
  | false =>
      obtain ⟨habs, -, hidle⟩ := isExpired_eq_false_iff.mp hx
      dsimp only at hidle
      have hlive : policy.isExpired { session with lastSeenAt := seen } now = false :=
        isExpired_eq_false_iff.mpr ⟨habs, hseen, by dsimp only; omega⟩
      rw [h] at hlive
      cases hlive

/-- A session that is expired, and was not last seen in the future, stays so. -/
theorem isExpired_mono {policy : SessionPolicy} {session : Session} {now later : Int}
    (h : policy.isExpired session now = true) (hseen : session.lastSeenAt ≤ now)
    (hle : now ≤ later) : policy.isExpired session later = true := by
  by_contra hlive
  obtain ⟨habs, -, hidle⟩ := isExpired_eq_false_iff.mp (by simpa using hlive)
  have hnow : policy.isExpired session now = false :=
    isExpired_eq_false_iff.mpr ⟨by omega, hseen, by omega⟩
  rw [h] at hnow
  cases hnow

end SessionPolicy

end AuthApp.Sessions
