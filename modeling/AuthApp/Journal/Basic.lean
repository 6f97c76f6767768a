import Mathlib.Data.List.Nodup

/-!
# Journal — plans that resume

A plan is a list of keyed items.  A journal records the items that have been done; a pass over the
plan skips an item whose key is recorded, tries the others in order, and stops at the first that
fails.

* `run_of_recorded`: what is recorded already is skipped.
* `run_pending`: a pass over items none of which is recorded gets through, or stops at one.
* `run_resume`: a pass over a plan whose start is recorded.
* `run_nodup`: no key is ever recorded twice.
-/

namespace Journal

variable {κ α ε err : Type}

/-- What a pass asks of a journal with states in `ε`. -/
structure Port (κ α ε err : Type) where
  recorded : ε → κ → Bool
  attempt : κ → α → ε → Except err Unit × ε

/-- What a pass did: the keys it got done, and those it skipped, each in order. -/
structure Report (κ : Type) where
  applied : List κ
  skipped : List κ
  deriving DecidableEq, Repr

/-- One pass over a plan; it stops with the key that failed, and the error. -/
def Port.run (J : Port κ α ε err) :
    List (κ × α) → Report κ → ε → Except (κ × err) (Report κ) × ε
  | [], report, s => (.ok report, s)
  | (key, item) :: rest, report, s =>
      if J.recorded s key then J.run rest { report with skipped := report.skipped ++ [key] } s
      else
        match J.attempt key item s with
        | (.error e, s) => (.error (key, e), s)
        | (.ok (), s) => J.run rest { report with applied := report.applied ++ [key] } s

/-- The journal read as the list of its entries: an item that is tried for the first time is added
at the end when it succeeds, and leaves no trace when it fails. -/
structure Port.Ledger (J : Port κ α ε err) where
  entries : ε → List (κ × α)
  recorded_iff : ∀ s key, J.recorded s key = true ↔ key ∈ (entries s).map Prod.fst
  attempt_ok : ∀ key item s, J.recorded s key = false → (J.attempt key item s).1 = .ok () →
    entries (J.attempt key item s).2 = entries s ++ [(key, item)]
  attempt_error : ∀ key item s e, J.recorded s key = false →
    (J.attempt key item s).1 = .error e → entries (J.attempt key item s).2 = entries s

/-- The keys of a plan. -/
abbrev keys (plan : List (κ × α)) : List κ := plan.map Prod.fst

namespace Port
variable {J : Port κ α ε err}

/-- A pass stops only at an item that fails. -/
theorem run_ne_error (h : ∀ key item s, (J.attempt key item s).1 = .ok ()) {plan : List (κ × α)}
    {report : Report κ} {s s' : ε} {e : κ × err} : J.run plan report s ≠ (.error e, s') := by
  induction plan generalizing report s with
  | nil => exact fun heq => by cases heq
  | cons entry plan ih =>
      obtain ⟨key, item⟩ := entry
      rw [run]
      have hok := h key item s
      generalize J.attempt key item s = r at hok ⊢
      obtain ⟨answer, s₁⟩ := r
      obtain rfl : answer = .ok () := hok
      split <;> exact ih

namespace Ledger
variable (L : J.Ledger)
include L

theorem recorded_eq_false_iff {s : ε} {key : κ} :
    J.recorded s key = false ↔ key ∉ keys (L.entries s) := by
  rw [← L.recorded_iff, Bool.not_eq_true]

/-- What is recorded already is skipped. -/
theorem run_of_recorded (plan rest : List (κ × α)) (report : Report κ) {s : ε}
    (h : ∀ key ∈ keys plan, key ∈ keys (L.entries s)) :
    J.run (plan ++ rest) report s =
      J.run rest { report with skipped := report.skipped ++ keys plan } s := by
  induction plan generalizing report with
  | nil => simp [keys]
  | cons entry plan ih =>
      obtain ⟨key, item⟩ := entry
      have hkey : J.recorded s key = true := (L.recorded_iff s key).mpr (h key List.mem_cons_self)
      rw [List.cons_append, run, if_pos hkey, ih _ fun k hk => h k (List.mem_cons_of_mem _ hk)]
      simp [keys]

/-- A pass over items none of which is recorded gets all of them done, or stops at one. -/
theorem run_pending {plan : List (κ × α)} (report : Report κ) {s : ε} (hnew : (keys plan).Nodup)
    (h : ∀ key ∈ keys plan, key ∉ keys (L.entries s)) :
    (∃ s', J.run plan report s =
        (.ok { report with applied := report.applied ++ keys plan }, s') ∧
          L.entries s' = L.entries s ++ plan) ∨
      ∃ done next rest e s', plan = done ++ next :: rest ∧
        J.run plan report s = (.error (next.1, e), s') ∧
          L.entries s' = L.entries s ++ done := by
  induction plan generalizing report s with
  | nil => exact .inl ⟨s, by simp [run, keys], (List.append_nil _).symm⟩
  | cons entry plan ih =>
      obtain ⟨key, item⟩ := entry
      obtain ⟨hkey, hplan⟩ := List.nodup_cons.mp hnew
      have hfree := L.recorded_eq_false_iff.mpr (h key List.mem_cons_self)
      rw [run, if_neg (by simp [hfree])]
      have hok := L.attempt_ok key item s hfree
      have herr := L.attempt_error key item s
      generalize J.attempt key item s = r at hok herr ⊢
      obtain ⟨e | ⟨⟩, s₁⟩ := r
      · exact .inr ⟨[], (key, item), plan, e, s₁, rfl, rfl,
          (herr e hfree rfl).trans (List.append_nil _).symm⟩
      · have hs₁ := hok rfl
        dsimp only at hs₁ ⊢
        have hrest : ∀ k ∈ keys plan, k ∉ keys (L.entries s₁) := by
          intro k hk hmem
          rw [hs₁, keys, List.map_append, List.mem_append] at hmem
          rcases hmem with hmem | hmem
          · exact h k (List.mem_cons_of_mem _ hk) hmem
          · obtain rfl := List.mem_singleton.mp hmem
            exact hkey hk
        rcases ih { report with applied := report.applied ++ [key] } hplan hrest with
          ⟨s', hrun, hs'⟩ | ⟨done, next, rest, e, s', hsplit, hrun, hs'⟩
        · refine .inl ⟨s', ?_, ?_⟩
          · simpa [keys] using hrun
          · rw [hs', hs₁, List.append_assoc]
            rfl
        · refine .inr ⟨(key, item) :: done, next, rest, e, s', by rw [hsplit]; rfl, hrun, ?_⟩
          rw [hs', hs₁, List.append_assoc]
          rfl

/-- **Resuming.** A pass over a plan whose start, and nothing else, is recorded skips that start.
It then gets the rest done, or some of it up to the item that failed. -/
theorem run_resume (rest : List (κ × α)) (report : Report κ) {s : ε}
    (hnew : (keys (L.entries s ++ rest)).Nodup) :
    (∃ s', J.run (L.entries s ++ rest) report s =
        (.ok ⟨report.applied ++ keys rest, report.skipped ++ keys (L.entries s)⟩, s') ∧
          L.entries s' = L.entries s ++ rest) ∨
      ∃ done next later e s', rest = done ++ next :: later ∧
        J.run (L.entries s ++ rest) report s = (.error (next.1, e), s') ∧
          L.entries s' = L.entries s ++ done := by
  rw [keys, List.map_append, List.nodup_append'] at hnew
  obtain ⟨-, hrest, hdisjoint⟩ := hnew
  rw [L.run_of_recorded _ rest report fun _ h => h]
  exact L.run_pending _ hrest fun key hk hmem => hdisjoint hmem hk

/-- No key is ever recorded twice. -/
theorem run_nodup (plan : List (κ × α)) (report : Report κ) {s : ε}
    (h : (keys (L.entries s)).Nodup) : (keys (L.entries (J.run plan report s).2)).Nodup := by
  induction plan generalizing report s with
  | nil => exact h
  | cons entry plan ih =>
      obtain ⟨key, item⟩ := entry
      rw [run]
      by_cases hr : J.recorded s key
      · rw [if_pos hr]
        exact ih _ h
      rw [if_neg hr]
      have hfree : J.recorded s key = false := by simpa using hr
      have hok := L.attempt_ok key item s hfree
      have herr := L.attempt_error key item s
      generalize J.attempt key item s = r at hok herr ⊢
      obtain ⟨e | ⟨⟩, s₁⟩ := r
      · dsimp only
        rwa [herr e hfree rfl]
      · refine ih _ ?_
        rw [hok rfl, keys, List.map_append]
        refine List.nodup_append'.mpr ⟨h, List.nodup_singleton _, ?_⟩
        exact List.disjoint_singleton.mpr (L.recorded_eq_false_iff.mp hfree)

end Ledger

end Port

end Journal
