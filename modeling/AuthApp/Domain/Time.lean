import Mathlib.Algebra.Order.Ring.Int

/-!
# Domain — time

An instant (`SystemTime`) is an `Int`, in nanoseconds since the Unix epoch and negative before it;
a `Duration` is a `Nat`, in nanoseconds.  `toEpoch` and `fromEpoch` are the conversions every
Postgres adapter shares: the first drops the part of an instant below a second, and has no value
before 1970.
-/

namespace AuthApp

def nanosPerSec : Nat := 1000000000

/-- The `Duration` of `secs` seconds. -/
def fromSecs (secs : Nat) : Nat := secs * nanosPerSec

/-- The whole seconds of a `Duration`. -/
def asSecs (d : Nat) : Nat := d / nanosPerSec

theorem asSecs_fromSecs (secs : Nat) : asSecs (fromSecs secs) = secs :=
  Nat.mul_div_cancel secs (by decide)

/-- The time from `earlier` to `t`, unless `earlier` is later. -/
def durationSince (t earlier : Int) : Option Nat :=
  if earlier ≤ t then some (t - earlier).toNat else none

/-- Whole Unix epoch seconds. -/
def toEpoch (time : Int) : Option Int :=
  if 0 ≤ time then some (time / nanosPerSec) else none

def fromEpoch (secs : Int) : Int := max secs 0 * nanosPerSec

/-- The seconds of the timestamps that Postgres can represent. -/
def timestampStart : Int := -210866803200

def timestampEnd : Int := 9224318016000

theorem durationSince_eq_some {t u : Int} {d : Nat} (h : durationSince t u = some d) :
    t = u + d := by
  rw [durationSince] at h
  split at h
  · cases h; omega
  · cases h

theorem durationSince_eq_none_iff {t u : Int} : durationSince t u = none ↔ t < u := by
  rw [durationSince]
  split
  · simpa using by assumption
  · simpa using by omega

/-- What is read back from storage is the instant less its part below a second. -/
theorem fromEpoch_toEpoch {t secs : Int} (h : toEpoch t = some secs) :
    fromEpoch secs ≤ t ∧ t < fromEpoch secs + nanosPerSec := by
  rw [toEpoch] at h
  split at h
  · next ht =>
      cases h
      simp only [fromEpoch, nanosPerSec] at *
      omega
  · cases h

theorem fromEpoch_nonneg (secs : Int) : 0 ≤ fromEpoch secs :=
  Int.mul_nonneg (le_max_right _ _) (Int.natCast_nonneg _)

theorem fromEpoch_mono {s s' : Int} (h : s ≤ s') : fromEpoch s ≤ fromEpoch s' := by
  simp only [fromEpoch, nanosPerSec]
  omega

theorem fromEpoch_div_le {t : Int} (h : 0 ≤ t) : fromEpoch (t / nanosPerSec) ≤ t := by
  simp only [fromEpoch, nanosPerSec]
  omega

/-- A whole second that is not after an instant is not after its whole second. -/
theorem le_div_of_fromEpoch_le {secs t : Int} (h : fromEpoch secs ≤ t) :
    secs ≤ t / nanosPerSec := by
  simp only [fromEpoch, nanosPerSec] at *
  omega

theorem toEpoch_fromEpoch {secs : Int} (h : 0 ≤ secs) : toEpoch (fromEpoch secs) = some secs := by
  have hm : fromEpoch secs = secs * nanosPerSec := by rw [fromEpoch, max_eq_left h]
  simp only [hm, toEpoch, nanosPerSec]
  rw [if_pos (by omega)]
  congr 1
  omega

end AuthApp
