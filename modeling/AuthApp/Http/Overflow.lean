import AuthApp.Http.Admission

/-!
# Http — the counter of the rate limiter

A check adds one to a `u32`, whether the key is rejected or not.  One build wraps around there; the
other panics, with the lock of the limiter held, and no check after it gets the lock.

* `holds_iff`: the counter does what it is for while no key is checked `2 ^ 32` times within one of
  its windows, and not otherwise.
* `holds_fails`: a key that is rejected, and then is not.
-/

namespace AuthApp.Http
namespace RateLimiter

/-- The windows after the checks, in a build with overflow checks: none when the lock is
poisoned. -/
def after? (config : RateLimitConfig) : List (String × Int) → Option Windows
  | [] => some fun _ => none
  | (key, now) :: earlier =>
      match after? config earlier with
      | none => none
      | some windows =>
          if (current config windows key now).count.toNat + 1 < UInt32.size then
            some (check config windows key now).2
          else none

/-- No check adds one to a count that is the largest. -/
def NoOverflow (config : RateLimitConfig) : List (String × Int) → Prop
  | [] => True
  | (key, now) :: earlier => NoOverflow config earlier ∧
      (current config (after config earlier) key now).count.toNat + 1 < UInt32.size

/-- The counter does what it is for: no increment exceeds a `u32`, so that one build does not panic
and the other does not admit a key that is rejected, while its window runs. -/
structure Holds (config : RateLimitConfig) (checks : List (String × Int)) : Prop where
  noOverflow : NoOverflow config checks
  noPanic : after? config checks = some (after config checks)
  blocked : ∀ later key u others now earlier window,
    checks = later ++ (key, u) :: (others ++ (key, now) :: earlier) →
    instantsOf key others = [] → after config ((key, now) :: earlier) key = some window →
    window.elapsed u < config.window → ¬ (verdict config earlier key now).isOk →
    ¬ (verdict config (others ++ (key, now) :: earlier) key u).isOk

variable {config : RateLimitConfig} {key : String} {now : Int}
  {earlier checks : List (String × Int)}

theorem after?_eq (h : NoOverflow config checks) :
    after? config checks = some (after config checks) := by
  induction checks with
  | nil => rfl
  | cons c earlier ih => rw [after?, ih h.1]; exact if_pos h.2

theorem counted_pos (config : RateLimitConfig) (earlier : List (String × Int)) (key : String)
    (now : Int) : 0 < (counted config earlier key now).count := Quota.next_count_pos _

/-- What a check counts is one more than what was counted. -/
theorem current_count (config : RateLimitConfig) (earlier : List (String × Int)) (key : String)
    (now : Int) : (current config (after config earlier) key now).count =
      UInt32.ofNat ((counted config earlier key now).count - 1) := by
  have hsucc : (current config (after config earlier) key now).count + 1 =
      UInt32.ofNat (counted config earlier key now).count :=
    congrArg Window.count (current_succ_eq (after_eq config earlier key))
  obtain ⟨m, hm⟩ := Nat.exists_eq_add_of_le' (counted_pos config earlier key now)
  rw [hm, UInt32.ofNat_add] at hsucc
  rw [hm, Nat.add_sub_cancel]
  exact (UInt32.add_left_inj 1).mp hsucc

theorem fits_cons : Fits config ((key, now) :: earlier) ↔
    Fits config earlier ∧ (counted config earlier key now).count < UInt32.size := by
  refine ⟨fun h => ⟨h.tail, h.counted_lt⟩, fun ⟨hearlier, hlt⟩ other => ?_⟩
  by_cases hkey : key = other
  · subst hkey
    rw [instantsOf_cons_self]
    exact ⟨hearlier key, hlt⟩
  · rw [instantsOf_cons_ne hkey]
    exact hearlier other

/-- No increment overflows while no window counts more than a `u32` holds. -/
theorem noOverflow_iff : NoOverflow config checks ↔ Fits config checks := by
  induction checks with
  | nil => exact iff_of_true trivial fun _ => trivial
  | cons c earlier ih =>
      obtain ⟨key, now⟩ := c
      rw [fits_cons, NoOverflow, ih]
      refine and_congr_right fun hfits => ?_
      have hle : (counted config earlier key now).count ≤ UInt32.size :=
        (hfits key).next_le (by decide)
      have hpos := counted_pos config earlier key now
      rw [current_count, UInt32.toNat_ofNat_of_lt' (by omega)]
      omega

/-- A key that is rejected stays so while its window runs. -/
theorem blocked_of_fits {others : List (String × Int)} {u : Int} {window : Window}
    (hfits : Fits config ((key, u) :: (others ++ (key, now) :: earlier)))
    (hothers : instantsOf key others = [])
    (hwindow : after config ((key, now) :: earlier) key = some window)
    (hrunning : window.elapsed u < config.window)
    (h : ¬ (verdict config earlier key now).isOk) :
    ¬ (verdict config (others ++ (key, now) :: earlier) key u).isOk := by
  have hkept : Quota.window (config.window : Int)
      (instantsOf key (others ++ (key, now) :: earlier)) =
        some (counted config earlier key now) := by
    rw [instantsOf_append, hothers, List.nil_append, window_cons]
  rw [after_eq, window_cons, Option.map_some] at hwindow
  cases hwindow
  have hlapsed := fun h => not_le.mpr hrunning ((lapsed_iff _ u).mpr h)
  rw [isOk_verdict hfits.tail.of_append] at h
  rw [isOk_verdict hfits, counted, hkept, Quota.next_of_not_lapsed hlapsed]
  exact fun hle => h ((Nat.le_succ _).trans hle)

/-- **The counter holds** while no key is checked `2 ^ 32` times within one of its windows, and not
otherwise. -/
theorem holds_iff (config : RateLimitConfig) (checks : List (String × Int)) :
    Holds config checks ↔ Fits config checks := by
  refine ⟨fun h => noOverflow_iff.mp h.noOverflow, fun h => ?_⟩
  have hno := noOverflow_iff.mpr h
  refine ⟨hno, after?_eq hno, ?_⟩
  rintro later key u others now earlier window rfl hothers hwindow hrunning hrejected
  exact blocked_of_fits h.of_append hothers hwindow hrunning hrejected

theorem counted_replicate (hwindow : 0 < config.window) (key : String) (now : Int) (n : Nat) :
    counted config (List.replicate n (key, now)) key now = ⟨n + 1, now⟩ := by
  have hinstants : instantsOf key (List.replicate n (key, now)) = List.replicate n now :=
    List.filterMap_replicate_of_some (if_pos rfl)
  have hreplicate : Quota.window (config.window : Int) (List.replicate (n + 1) now) =
      some ⟨n + 1, now⟩ := Quota.window_replicate (by omega) (by omega) n
  rw [List.replicate_succ] at hreplicate
  rw [counted, hinstants]
  exact Option.some.inj hreplicate

/-- Ten requests a year, and `2 ^ 32` at one instant: the last is admitted, and the one before it is
not. -/
theorem holds_fails :
    ¬ Holds ⟨10, fromSecs 31536000⟩ (List.replicate 4294967296 ("ip:203.0.113.7", 0)) ∧
      verdict ⟨10, fromSecs 31536000⟩ (List.replicate 4294967294 ("ip:203.0.113.7", 0))
        "ip:203.0.113.7" 0 = .error ⟨fromSecs 31536000⟩ ∧
      verdict ⟨10, fromSecs 31536000⟩ (List.replicate 4294967295 ("ip:203.0.113.7", 0))
        "ip:203.0.113.7" 0 = .ok () := by
  have hwindow : 0 < (⟨10, fromSecs 31536000⟩ : RateLimitConfig).window := by decide
  refine ⟨fun h => ?_, ?_, ?_⟩
  · have hfits := noOverflow_iff.mp h.noOverflow
    have hlt := (fits_cons.mp (List.replicate_succ ▸ hfits)).2
    rw [counted_replicate hwindow] at hlt
    exact absurd hlt (by decide)
  · rw [verdict_eq, counted_replicate hwindow]
    decide
  · rw [verdict_eq, counted_replicate hwindow]
    decide

end RateLimiter
end AuthApp.Http
