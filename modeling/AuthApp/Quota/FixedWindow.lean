import Mathlib.Algebra.Order.Group.Defs
import Mathlib.Data.List.Pairwise

/-!
# Quota — fixed windows

A counter of requests that starts a window at the first request, and a new one at the first request
after the window has lapsed.  A request is admitted while its window has counted no more than a
limit.  Requests are lists of instants, the newest first.

* `within_of_window`: where the requests stand that a window ends with.
* `countIn_admitted_le`: an interval as long as a window holds twice the limit of admitted requests
  at most.
-/

namespace Quota

/-! ### Counting instants -/

section
variable {T : Type} [LinearOrder T]

/-- How many of the instants are from `t` on, up to but not including `u`. -/
def countIn (l : List T) (t u : T) : Nat := l.countP fun a => decide (t ≤ a ∧ a < u)

theorem countIn_cons (a : T) (l : List T) (t u : T) :
    countIn (a :: l) t u = countIn l t u + if t ≤ a ∧ a < u then 1 else 0 := by
  simp only [countIn, List.countP_cons, decide_eq_true_eq]

theorem countIn_mono {l : List T} {t u t' u' : T}
    (h : ∀ a ∈ l, t ≤ a ∧ a < u → t' ≤ a ∧ a < u') : countIn l t u ≤ countIn l t' u' :=
  List.countP_mono_left fun a ha hin => decide_eq_true (h a ha (of_decide_eq_true hin))

/-- What is before an instant does not count from it on. -/
theorem countIn_eq_zero {l : List T} {t : T} (h : ∀ a ∈ l, a < t) (u : T) : countIn l t u = 0 :=
  List.countP_eq_zero.mpr fun a ha hin =>
    absurd (h a ha) (not_lt.mpr (of_decide_eq_true hin).1)

/-- What is counted splits at an instant. -/
theorem countIn_le_add (l : List T) (t s u : T) :
    countIn l t u ≤ countIn l t s + countIn l s u := by
  induction l with
  | nil => exact Nat.le_refl _
  | cons a l ih =>
      simp only [countIn_cons]
      by_cases hin : t ≤ a ∧ a < u
      · rw [if_pos hin]
        rcases lt_or_ge a s with hs | hs
        · have hfront : (if t ≤ a ∧ a < s then 1 else 0) = 1 := if_pos ⟨hin.1, hs⟩
          omega
        · have hback : (if s ≤ a ∧ a < u then 1 else 0) = 1 := if_pos ⟨hs, hin.2⟩
          omega
      · rw [if_neg hin]
        omega

end

/-! ### Windows -/

variable {T : Type} [AddCommGroup T] [LinearOrder T]

/-- The requests a window has counted, and when it started. -/
structure Window (T : Type) where
  count : Nat
  startedAt : T

/-- The window is over.  One of no length always is. -/
def Window.Lapsed (length : T) (w : Window T) (now : T) : Prop :=
  w.startedAt + length ≤ now ∨ length ≤ 0

instance (length : T) (w : Window T) (now : T) : Decidable (w.Lapsed length now) :=
  inferInstanceAs (Decidable (_ ∨ _))

/-- The window that a request is counted in, itself included. -/
def Window.next (length : T) : Option (Window T) → T → Window T
  | none, now => ⟨1, now⟩
  | some w, now => if w.Lapsed length now then ⟨1, now⟩ else ⟨w.count + 1, w.startedAt⟩

/-- The window that the newest request is counted in. -/
def window (length : T) : List T → Option (Window T)
  | [] => none
  | now :: earlier => some (.next length (window length earlier) now)

/-- The requests that are admitted. -/
def admitted (length : T) (limit : Nat) : List T → List T
  | [] => []
  | now :: earlier =>
      if (Window.next length (window length earlier) now).count ≤ limit then
        now :: admitted length limit earlier
      else admitted length limit earlier

section
variable {length : T} {limit : Nat} {now : T} {earlier instants : List T}

theorem mem_of_mem_admitted {a : T} (h : a ∈ admitted length limit instants) : a ∈ instants := by
  induction instants with
  | nil => exact h
  | cons now earlier ih =>
      rw [admitted] at h
      split at h
      · rcases List.mem_cons.mp h with rfl | h
        · exact List.mem_cons_self
        · exact List.mem_cons_of_mem _ (ih h)
      · exact List.mem_cons_of_mem _ (ih h)

theorem next_of_lapsed {w : Window T} (h : w.Lapsed length now) :
    Window.next length (some w) now = ⟨1, now⟩ := if_pos h

theorem next_of_not_lapsed {w : Window T} (h : ¬ w.Lapsed length now) :
    Window.next length (some w) now = ⟨w.count + 1, w.startedAt⟩ := if_neg h

/-- A request is one more in its window at most. -/
theorem next_count_le (w : Option (Window T)) :
    (Window.next length w now).count ≤ (w.map Window.count).getD 0 + 1 := by
  cases w with
  | none => exact Nat.le_refl _
  | some w =>
      rw [Window.next]
      split
      · exact Nat.le_add_left _ _
      · exact Nat.le_refl _

theorem next_count_pos (w : Option (Window T)) : 0 < (Window.next length w now).count := by
  cases w with
  | none => exact Nat.one_pos
  | some w =>
      rw [Window.next]
      split
      · exact Nat.one_pos
      · exact Nat.succ_pos _

/-- A window that has counted more than its first request still runs. -/
theorem not_lapsed_of_one_lt {w : Option (Window T)} (h : 1 < (Window.next length w now).count) :
    ¬ (Window.next length w now).Lapsed length now := by
  cases w with
  | none => exact absurd h (lt_irrefl 1)
  | some w =>
      by_cases hlapsed : w.Lapsed length now
      · rw [next_of_lapsed hlapsed] at h
        exact absurd h (lt_irrefl 1)
      · rw [next_of_not_lapsed hlapsed]
        exact hlapsed

/-- A window counts all the requests at most. -/
theorem next_count_le_length (earlier : List T) (now : T) :
    (Window.next length (window length earlier) now).count ≤ earlier.length + 1 := by
  induction earlier generalizing now with
  | nil => exact Nat.le_refl _
  | cons a earlier ih => exact (next_count_le _).trans (Nat.succ_le_succ (ih a))

/-- A window counts all the requests at its start. -/
theorem window_replicate (hlength : ¬ length ≤ 0) (hnow : ¬ now + length ≤ now) (n : Nat) :
    window length (List.replicate (n + 1) now) = some ⟨n + 1, now⟩ := by
  induction n with
  | zero => rfl
  | succ n ih =>
      rw [List.replicate_succ, window, ih, next_of_not_lapsed (not_or.mpr ⟨hnow, hlength⟩)]

/-- A window starts with one of the requests. -/
theorem startedAt_mem {w : Window T} (h : window length instants = some w) :
    w.startedAt ∈ instants := by
  induction instants generalizing w with
  | nil => cases h
  | cons now earlier ih =>
      cases h
      cases hw : window length earlier with
      | none => exact List.mem_cons_self
      | some w =>
          by_cases hlapsed : w.Lapsed length now
          · rw [next_of_lapsed hlapsed]
            exact List.mem_cons_self
          · have hmem : w.startedAt ∈ earlier := ih hw
            rw [next_of_not_lapsed hlapsed]
            exact List.mem_cons_of_mem _ hmem

/-- No window counts as many as `bound` requests. -/
def CountsBelow (bound : Nat) (length : T) : List T → Prop
  | [] => True
  | now :: earlier =>
      CountsBelow bound length earlier ∧
        (Window.next length (window length earlier) now).count < bound

/-- The next request may be the first that is one too many. -/
theorem CountsBelow.next_le {bound : Nat} (hbound : 0 < bound)
    (h : CountsBelow bound length earlier) :
    (Window.next length (window length earlier) now).count ≤ bound := by
  cases earlier with
  | nil => exact hbound
  | cons a earlier => exact (next_count_le _).trans h.2

/-- What holds of the requests held of the earlier ones. -/
theorem CountsBelow.of_append {bound : Nat} {later : List T}
    (h : CountsBelow bound length (later ++ earlier)) : CountsBelow bound length earlier := by
  induction later with
  | nil => exact h
  | cons now later ih => exact ih h.1

theorem countsBelow_of_length {bound : Nat} (h : instants.length < bound) :
    CountsBelow bound length instants := by
  induction instants with
  | nil => trivial
  | cons now earlier ih =>
      exact ⟨ih ((Nat.lt_succ_self _).trans h), (next_count_le_length earlier now).trans_lt h⟩

end

/-! ### Any interval -/

section
variable {length : T} {limit : Nat} {now : T} {earlier : List T}

/-- Where the requests stand that the window `w` ends with, and how many of them are admitted: of
its own, of those before it that an interval can hold beside its start, and of any interval. -/
structure Within (length : T) (limit : Nat) (instants : List T) (w : Window T) : Prop where
  started : w.startedAt ∈ instants
  running : ∀ a ∈ instants, a < w.startedAt + length
  counted : countIn instants w.startedAt (w.startedAt + length) = w.count
  own : ∀ u, countIn (admitted length limit instants) w.startedAt u ≤ min w.count limit
  previous : ∀ t, w.startedAt < t + length →
    countIn (admitted length limit instants) t w.startedAt ≤ limit
  any : ∀ t, countIn (admitted length limit instants) t (t + length) ≤ 2 * limit

theorem countIn_admitted_cons {w : Window T}
    (hnext : Window.next length (window length earlier) now = w) (t u : T) :
    countIn (admitted length limit (now :: earlier)) t u =
      countIn (admitted length limit earlier) t u +
        if w.count ≤ limit ∧ t ≤ now ∧ now < u then 1 else 0 := by
  rw [admitted, hnext]
  by_cases hw : w.count ≤ limit
  · rw [if_pos hw, countIn_cons]
    exact congrArg _ (if_congr (and_iff_right hw).symm rfl rfl)
  · rw [if_neg hw, if_neg fun h => hw h.1]
    rfl

/-- A window goes on. -/
theorem Within.more {w : Window T} (h : Within length limit earlier w)
    (hnext : Window.next length (window length earlier) now = ⟨w.count + 1, w.startedAt⟩)
    (hstarted : w.startedAt ≤ now) (hrunning : now < w.startedAt + length) :
    Within length limit (now :: earlier) ⟨w.count + 1, w.startedAt⟩ := by
  refine ⟨List.mem_cons_of_mem _ h.started, List.forall_mem_cons.mpr ⟨hrunning, h.running⟩, ?_,
    fun u => ?_, fun t ht => ?_, fun t => ?_⟩
  · dsimp only
    rw [countIn_cons, if_pos ⟨hstarted, hrunning⟩, h.counted]
  · have hown := h.own u
    rw [countIn_admitted_cons hnext]
    split
    · next hin =>
        have hlimit := hin.1
        dsimp only at hlimit ⊢
        omega
    · dsimp only
      omega
  · dsimp only at ht ⊢
    rw [countIn_admitted_cons hnext, if_neg fun hin => absurd hin.2.2 (not_lt.mpr hstarted)]
    exact h.previous t ht
  · rw [countIn_admitted_cons hnext]
    split
    · next hin =>
        -- the interval holds requests of this window, and of the one before at most
        have hlimit := hin.1
        have hbefore := h.previous t (hstarted.trans_lt hin.2.2)
        have hown := h.own (t + length)
        have hsplit := countIn_le_add (admitted length limit earlier) t w.startedAt (t + length)
        dsimp only at hlimit
        omega
    · exact h.any t

variable [IsOrderedAddMonoid T]

/-- A window starts. -/
theorem Within.start (hlength : 0 < length)
    (hnext : Window.next length (window length earlier) now = ⟨1, now⟩)
    (hearlier : ∀ a ∈ earlier, a < now)
    (hprevious : ∀ t, now < t + length → countIn (admitted length limit earlier) t now ≤ limit)
    (hany : ∀ t, countIn (admitted length limit earlier) t (t + length) ≤ 2 * limit) :
    Within length limit (now :: earlier) ⟨1, now⟩ := by
  have hadmitted : ∀ a ∈ admitted length limit earlier, a < now := fun a ha =>
    hearlier a (mem_of_mem_admitted ha)
  have hend : now < now + length := lt_add_of_pos_right _ hlength
  refine ⟨List.mem_cons_self,
    List.forall_mem_cons.mpr ⟨hend, fun a ha => (hearlier a ha).trans hend⟩, ?_, fun u => ?_,
    fun t ht => ?_, fun t => ?_⟩
  · dsimp only
    rw [countIn_cons, if_pos ⟨le_refl now, hend⟩, countIn_eq_zero hearlier]
  · rw [countIn_admitted_cons hnext, countIn_eq_zero hadmitted]
    split
    · next hin =>
        have hlimit := hin.1
        dsimp only at hlimit ⊢
        omega
    · exact Nat.zero_le _
  · dsimp only at ht ⊢
    rw [countIn_admitted_cons hnext, if_neg fun h => lt_irrefl _ h.2.2]
    exact hprevious t ht
  · rw [countIn_admitted_cons hnext]
    split
    · next hin =>
        -- those before the window are before its start
        have hlimit := hin.1
        have hbefore := hprevious t hin.2.2
        have hmono : countIn (admitted length limit earlier) t (t + length) ≤
            countIn (admitted length limit earlier) t now :=
          countIn_mono fun a ha h => ⟨h.1, hadmitted a ha⟩
        dsimp only at hlimit
        omega
    · exact hany t

theorem within_of_window (hlength : 0 < length) {instants : List T}
    (hsorted : instants.Pairwise (· ≥ ·)) {w : Window T} (h : window length instants = some w) :
    Within length limit instants w := by
  induction instants generalizing w with
  | nil => cases h
  | cons now earlier ih =>
      obtain ⟨hnow, hsorted⟩ := List.pairwise_cons.mp hsorted
      cases h
      cases hw : window length earlier with
      | none =>
          have hnil : earlier = [] := by
            cases earlier with
            | nil => rfl
            | cons a l => cases hw
          subst hnil
          exact .start hlength (by rw [hw]; rfl) nofun (fun _ _ => Nat.zero_le _)
            fun _ => Nat.zero_le _
      | some w =>
          have hwithin := ih hsorted hw
          by_cases hlapsed : w.Lapsed length now
          · have hover := hlapsed.resolve_right (not_le.mpr hlength)
            have hnext := next_of_lapsed hlapsed
            rw [hnext]
            refine .start hlength (by rw [hw, hnext])
              (fun a ha => (hwithin.running a ha).trans_le hover) (fun t ht => ?_) hwithin.any
            -- what an interval holds beside the new start is of the window before
            have hafter : w.startedAt ≤ t := (lt_of_add_lt_add_right (hover.trans_lt ht)).le
            have hmono : countIn (admitted length limit earlier) t now ≤
                countIn (admitted length limit earlier) w.startedAt now :=
              countIn_mono fun a _ hin => ⟨hafter.trans hin.1, hin.2⟩
            exact hmono.trans ((hwithin.own now).trans (min_le_right _ _))
          · have hnext := next_of_not_lapsed hlapsed
            rw [hnext]
            exact hwithin.more (by rw [hw, hnext]) (hnow _ hwithin.started)
              (not_le.mp fun hover => hlapsed (.inl hover))

/-- **Any interval.**  Whatever the requests, as long as they are in order, an interval as long as
a window holds twice the limit of those that are admitted at most. -/
theorem countIn_admitted_le {instants : List T} (hsorted : instants.Pairwise (· ≥ ·)) (t : T) :
    countIn (admitted length limit instants) t (t + length) ≤ 2 * limit := by
  rcases lt_or_ge 0 length with hlength | hlength
  · cases hw : window length instants with
    | none =>
        cases instants with
        | nil => exact Nat.zero_le _
        | cons now earlier => cases hw
    | some w => exact (within_of_window hlength hsorted hw).any t
  · -- such an interval is empty
    refine (Nat.le_of_eq (List.countP_eq_zero.mpr fun a _ hin => ?_)).trans (Nat.zero_le _)
    obtain ⟨hle, hlt⟩ := of_decide_eq_true hin
    exact absurd (hle.trans_lt hlt) (not_lt.mpr (add_le_of_nonpos_right hlength))

/-- A window counts the requests of its interval, so that none counts more than any interval as
long holds. -/
theorem countsBelow_of_countIn {bound : Nat} (hbound : 1 < bound) {instants : List T}
    (hsorted : instants.Pairwise (· ≥ ·))
    (h : ∀ t, countIn instants t (t + length) < bound) : CountsBelow bound length instants := by
  induction instants with
  | nil => trivial
  | cons now earlier ih =>
      have hearlier : ∀ t, countIn earlier t (t + length) < bound := fun t =>
        (Nat.le_add_right _ _).trans_lt ((countIn_cons now earlier t (t + length)) ▸ h t)
      refine ⟨ih hsorted.of_cons hearlier, ?_⟩
      rcases lt_or_ge 0 length with hlength | hlength
      · have hwithin : Within length 0 (now :: earlier) _ := within_of_window hlength hsorted rfl
        rw [← hwithin.counted]
        exact h _
      · -- a window of no length counts one request
        cases window length earlier with
        | none => exact hbound
        | some w => rwa [next_of_lapsed (.inr hlength)]

end

end Quota
