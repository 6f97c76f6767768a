import AuthApp.Http.RateLimit
import AuthApp.Quota.FixedWindow

/-!
# Http — what the rate limiter admits

The checks of a run, the newest first, and the verdict of each.  A key's window is the fixed window
of the instants it was checked at, with the count that a `u32` keeps of it.

* `after_eq`: the windows that a run leaves.
* `isOk_verdict`: the verdict, while no window counts more than a `u32` holds.
* `admission_bound`: twice the limit, and a wait that is exact.
-/

namespace AuthApp.Http
namespace RateLimiter

/-- The windows after the checks. -/
def after (config : RateLimitConfig) : List (String × Int) → Windows
  | [] => fun _ => none
  | (key, now) :: earlier => (check config (after config earlier) key now).2

/-- The answer to a check after others. -/
def verdict (config : RateLimitConfig) (earlier : List (String × Int)) (key : String) (now : Int) :
    Except RateLimitExceeded Unit :=
  (check config (after config earlier) key now).1

/-- The instants a key was checked at. -/
def instantsOf (key : String) (checks : List (String × Int)) : List Int :=
  checks.filterMap fun (other, now) => if other = key then some now else none

/-- The instants a key was checked at and admitted. -/
def admittedOf (config : RateLimitConfig) (key : String) : List (String × Int) → List Int
  | [] => []
  | (other, now) :: earlier =>
      if other = key ∧ (verdict config earlier other now).isOk then
        now :: admittedOf config key earlier
      else admittedOf config key earlier

/-- No key is checked `2 ^ 32` times within one of its windows. -/
def Fits (config : RateLimitConfig) (checks : List (String × Int)) : Prop :=
  ∀ key, Quota.CountsBelow (2 ^ 32) (config.window : Int) (instantsOf key checks)

/-! ### The window of a key -/

/-- A window with its count in a `u32`. -/
def ofQuota (w : Quota.Window Int) : Window := ⟨UInt32.ofNat w.count, w.startedAt⟩

@[simp] theorem instantsOf_cons_self (key : String) (now : Int) (checks : List (String × Int)) :
    instantsOf key ((key, now) :: checks) = now :: instantsOf key checks :=
  List.filterMap_cons_some (if_pos rfl)

theorem instantsOf_cons_ne {key other : String} (h : other ≠ key) (now : Int)
    (checks : List (String × Int)) :
    instantsOf key ((other, now) :: checks) = instantsOf key checks :=
  List.filterMap_cons_none (if_neg h)

theorem instantsOf_append (key : String) (later earlier : List (String × Int)) :
    instantsOf key (later ++ earlier) = instantsOf key later ++ instantsOf key earlier :=
  List.filterMap_append

variable {config : RateLimitConfig} {windows : Windows} {key : String} {now : Int}
  {earlier checks : List (String × Int)}

theorem elapsed_eq (w : Window) (now : Int) : w.elapsed now = (now - w.startedAt).toNat := by
  rw [Window.elapsed, durationSince]
  split
  · rfl
  · next h => exact (Int.toNat_of_nonpos (by omega)).symm

/-- The limiter's windows come to an end when the quota's do. -/
theorem lapsed_iff (w : Quota.Window Int) (now : Int) :
    config.window ≤ (ofQuota w).elapsed now ↔ w.Lapsed (config.window : Int) now := by
  rw [elapsed_eq, ofQuota, Quota.Window.Lapsed]
  dsimp only
  omega

/-- The window that a check counts in. -/
theorem current_succ_eq {w : Option (Quota.Window Int)} (h : windows key = w.map ofQuota) :
    { current config windows key now with
        count := (current config windows key now).count + 1 } =
      ofQuota (Quota.Window.next (config.window : Int) w now) := by
  cases w with
  | none =>
      rw [current, h]
      dsimp only [Option.map_none, Option.getD_none]
      split <;> rfl
  | some w =>
      rw [current, h]
      dsimp only [Option.map_some, Option.getD_some]
      by_cases hlapsed : w.Lapsed (config.window : Int) now
      · rw [if_pos ((lapsed_iff w now).mpr hlapsed), Quota.next_of_lapsed hlapsed]
        rfl
      · rw [if_neg fun h => hlapsed ((lapsed_iff w now).mp h), Quota.next_of_not_lapsed hlapsed,
          ofQuota, ofQuota, UInt32.ofNat_add]
        rfl

/-- **The windows after a run.** -/
theorem after_eq (config : RateLimitConfig) (checks : List (String × Int)) (key : String) :
    after config checks key =
      (Quota.window (config.window : Int) (instantsOf key checks)).map ofQuota := by
  induction checks with
  | nil => rfl
  | cons c earlier ih =>
      obtain ⟨other, now⟩ := c
      by_cases hother : other = key
      · subst hother
        rw [after, instantsOf_cons_self, Quota.window, Option.map_some]
        exact (Function.update_self _ _ _).trans (congrArg some (current_succ_eq ih))
      · rw [after, check_window_ne (Ne.symm hother), ih, instantsOf_cons_ne hother]

/-- The window a check of the key counts in, after others. -/
def counted (config : RateLimitConfig) (earlier : List (String × Int)) (key : String) (now : Int) :
    Quota.Window Int :=
  .next config.window (Quota.window config.window (instantsOf key earlier)) now

theorem window_cons (config : RateLimitConfig) (earlier : List (String × Int)) (key : String)
    (now : Int) : Quota.window (config.window : Int) (instantsOf key ((key, now) :: earlier)) =
      some (counted config earlier key now) := by
  rw [instantsOf_cons_self]
  rfl

theorem verdict_eq (config : RateLimitConfig) (earlier : List (String × Int)) (key : String)
    (now : Int) : verdict config earlier key now =
      if config.maxRequests < UInt32.ofNat (counted config earlier key now).count then
        .error ⟨config.window - (ofQuota (counted config earlier key now)).elapsed now⟩
      else .ok () := by
  rw [verdict, check, current_succ_eq (after_eq config earlier key)]
  rfl

/-- The verdict on a key depends on the checks of the key. -/
theorem verdict_congr {others : List (String × Int)}
    (h : instantsOf key earlier = instantsOf key others) :
    verdict config earlier key now = verdict config others key now := by
  rw [verdict_eq, verdict_eq, counted, counted, h]

/-! ### Within a `u32` -/

theorem Fits.of_append {later : List (String × Int)} (h : Fits config (later ++ earlier)) :
    Fits config earlier := fun key =>
  Quota.CountsBelow.of_append ((instantsOf_append key later earlier) ▸ h key)

theorem Fits.tail {c : String × Int} (h : Fits config (c :: earlier)) : Fits config earlier :=
  Fits.of_append (show Fits config ([c] ++ earlier) from h)

theorem Fits.counted_lt (h : Fits config ((key, now) :: earlier)) :
    (counted config earlier key now).count < 2 ^ 32 :=
  ((instantsOf_cons_self key now earlier) ▸ h key).2

/-- A check is admitted while its window has counted no more than the limit. -/
theorem isOk_verdict (h : Fits config ((key, now) :: earlier)) :
    (verdict config earlier key now).isOk ↔
      (counted config earlier key now).count ≤ config.maxRequests.toNat := by
  rw [verdict_eq]
  split
  · next hover => exact ⟨nofun, fun hle =>
      absurd ((UInt32.lt_ofNat_iff h.counted_lt).mp hover) (not_lt.mpr hle)⟩
  · next hwithin => exact ⟨fun _ =>
      not_lt.mp fun hlt => hwithin ((UInt32.lt_ofNat_iff h.counted_lt).mpr hlt), fun _ => rfl⟩

/-- What is admitted is what the quota admits. -/
theorem admittedOf_eq (h : Fits config checks) (key : String) :
    admittedOf config key checks =
      Quota.admitted (config.window : Int) config.maxRequests.toNat (instantsOf key checks) := by
  induction checks with
  | nil => rfl
  | cons c earlier ih =>
      obtain ⟨other, now⟩ := c
      have hearlier := ih h.tail
      by_cases hother : other = key
      · subst hother
        rw [admittedOf, instantsOf_cons_self, Quota.admitted, hearlier]
        exact if_congr (by rw [isOk_verdict h, counted]; exact and_iff_right rfl) rfl rfl
      · rw [admittedOf, if_neg fun h => hother h.1, hearlier, instantsOf_cons_ne hother]

/-! ### Any interval, and the wait -/

/-- The instants do not decrease. -/
def InOrder (checks : List (String × Int)) : Prop :=
  checks.Pairwise fun later earlier => earlier.2 ≤ later.2

theorem InOrder.instantsOf (h : InOrder checks) (key : String) :
    (instantsOf key checks).Pairwise (· ≥ ·) := by
  refine List.Pairwise.filterMap _ (fun later earlier hle t ht u hu => ?_) h
  obtain ⟨-, ht⟩ := Option.ite_none_right_eq_some.mp ht
  obtain ⟨-, hu⟩ := Option.ite_none_right_eq_some.mp hu
  cases ht
  cases hu
  exact hle

/-- A run whose checks of a key are fewer than a `u32` holds, in any interval as long as a window,
never counts too many. -/
theorem fits_of_countIn (horder : InOrder checks)
    (h : ∀ key t, Quota.countIn (instantsOf key checks) t (t + config.window) < 2 ^ 32) :
    Fits config checks := fun key =>
  Quota.countsBelow_of_countIn (by decide) (horder.instantsOf key) (h key)

/-- Nor does a run of fewer checks than a `u32` holds. -/
theorem fits_of_length (h : checks.length < 2 ^ 32) : Fits config checks := fun _ =>
  Quota.countsBelow_of_length ((List.length_filterMap_le _ _).trans_lt h)

/-- A window that has counted too many still runs, and has started by now. -/
theorem running_of_error {exceeded : RateLimitExceeded} (hlimit : 1 ≤ config.maxRequests.toNat)
    (horder : InOrder ((key, now) :: earlier)) (hfits : Fits config ((key, now) :: earlier))
    (h : verdict config earlier key now = .error exceeded) :
    config.maxRequests.toNat < (counted config earlier key now).count ∧
      (counted config earlier key now).startedAt + config.window = now + exceeded.retryAfter := by
  have hcount : config.maxRequests.toNat < (counted config earlier key now).count := by
    refine not_le.mp fun hle => ?_
    have hok := (isOk_verdict hfits).mpr hle
    rw [h] at hok
    cases hok
  have hrunning : ¬ (counted config earlier key now).Lapsed (config.window : Int) now :=
    Quota.not_lapsed_of_one_lt (hlimit.trans_lt hcount)
  have hstarted : (counted config earlier key now).startedAt ≤ now := by
    have hmem := Quota.startedAt_mem (window_cons config earlier key now)
    have hpairwise := horder.instantsOf key
    rw [instantsOf_cons_self] at hmem hpairwise
    rcases List.mem_cons.mp hmem with heq | hmem
    · exact heq.le
    · exact List.rel_of_pairwise_cons hpairwise hmem
  refine ⟨hcount, ?_⟩
  rw [verdict_eq, if_pos ((UInt32.lt_ofNat_iff hfits.counted_lt).mpr hcount)] at h
  cases h
  rw [elapsed_eq]
  rw [Quota.Window.Lapsed] at hrunning
  dsimp only [ofQuota]
  omega

/-- **The wait is exact.**  A key that was rejected and not checked since is admitted from the
instant on that it was told to wait for. -/
theorem isOk_verdict_iff_wait {exceeded : RateLimitExceeded} {others : List (String × Int)}
    {u : Int} (hlimit : 1 ≤ config.maxRequests.toNat)
    (horder : InOrder ((key, now) :: earlier))
    (hfits : Fits config ((key, u) :: (others ++ (key, now) :: earlier)))
    (hothers : instantsOf key others = [])
    (h : verdict config earlier key now = .error exceeded) :
    (verdict config (others ++ (key, now) :: earlier) key u).isOk ↔
      now + exceeded.retryAfter ≤ u := by
  obtain ⟨hcount, hwait⟩ := running_of_error hlimit horder hfits.tail.of_append h
  have hwindow : Quota.window (config.window : Int)
      (instantsOf key (others ++ (key, now) :: earlier)) =
        some (counted config earlier key now) := by
    rw [instantsOf_append, hothers, List.nil_append, window_cons]
  rw [isOk_verdict hfits, counted, hwindow, ← hwait]
  by_cases hlapsed : (counted config earlier key now).Lapsed (config.window : Int) u
  · rw [Quota.next_of_lapsed hlapsed]
    exact iff_of_true hlimit (hlapsed.elim id fun hnone => by
      exact absurd (.inr hnone) (Quota.not_lapsed_of_one_lt (hlimit.trans_lt hcount)))
  · rw [Quota.next_of_not_lapsed hlapsed]
    exact iff_of_false (not_le.mpr (Nat.lt_succ_of_lt hcount)) fun hover => hlapsed (.inl hover)

/-- **What the limiter admits.**  Of checks in order, none of whose windows counts more than a
`u32` holds: twice the limit in any interval as long as a window, for each key by its own checks,
and after a rejection from the instant on that it names. -/
theorem admission_bound (horder : InOrder checks) (hfits : Fits config checks) :
    (∀ key t, Quota.countIn (admittedOf config key checks) t (t + config.window) ≤
        2 * config.maxRequests.toNat) ∧
      (∀ key now earlier others, instantsOf key earlier = instantsOf key others →
        verdict config earlier key now = verdict config others key now) ∧
      (1 ≤ config.maxRequests.toNat → ∀ later key u others now earlier exceeded,
        checks = later ++ (key, u) :: (others ++ (key, now) :: earlier) →
        instantsOf key others = [] → verdict config earlier key now = .error exceeded →
        ((verdict config (others ++ (key, now) :: earlier) key u).isOk ↔
          now + exceeded.retryAfter ≤ u)) := by
  refine ⟨fun key t => ?_, fun key now earlier others h => verdict_congr h, ?_⟩
  · rw [admittedOf_eq hfits]
    exact Quota.countIn_admitted_le (horder.instantsOf key) t
  · rintro hlimit later key u others now earlier exceeded rfl hothers h
    have hrejected : InOrder ((key, now) :: earlier) :=
      (List.pairwise_append.mp (List.pairwise_append.mp horder).2.1.of_cons).2.1
    exact isOk_verdict_iff_wait hlimit hrejected hfits.of_append hothers h

/-- One request a minute, and three of one address. -/
theorem admission_bound_minute :
    (∀ key t, Quota.countIn (admittedOf ⟨1, fromSecs 60⟩ key
        [("ip:203.0.113.7", 60000000000), ("ip:203.0.113.7", 1000000000), ("ip:203.0.113.7", 0)])
          t (t + 60000000000) ≤ 2) ∧
      verdict ⟨1, fromSecs 60⟩ [("ip:203.0.113.7", 0)] "ip:203.0.113.7" 1000000000 =
        .error ⟨59000000000⟩ ∧
      (verdict ⟨1, fromSecs 60⟩ [("ip:203.0.113.7", 1000000000), ("ip:203.0.113.7", 0)]
        "ip:203.0.113.7" 60000000000).isOk := by
  have hrejected : verdict ⟨1, fromSecs 60⟩ [("ip:203.0.113.7", 0)] "ip:203.0.113.7" 1000000000 =
      .error ⟨59000000000⟩ := by decide
  have hfits : Fits ⟨1, fromSecs 60⟩ [("ip:203.0.113.7", 60000000000),
      ("ip:203.0.113.7", 1000000000), ("ip:203.0.113.7", 0)] := fits_of_length (by decide)
  obtain ⟨hbound, -, hwait⟩ := admission_bound (by simp [InOrder]) hfits
  exact ⟨hbound, hrejected, (hwait (by decide) [] "ip:203.0.113.7" 60000000000 []
    1000000000 [("ip:203.0.113.7", 0)] _ rfl rfl hrejected).mpr (by decide)⟩

end RateLimiter
end AuthApp.Http
