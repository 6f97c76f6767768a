import AuthApp.Interleave.Fate

/-!
# Interleave — related states

Two states may differ in what no operation reads.  When the operations answer both alike and leave
them related, every program does.

* `Respects.runFates`: a program, run from related states under the same fates.
* `foldl_filter`: a sequence of steps, with some of them left out.
-/

namespace Interleave

variable {S : Sig} {σ α χ τ : Type} {R : σ → σ → Prop}

/-- The operations answer related states alike, and leave them related. -/
def Respects (R : σ → σ → Prop) (exec : Exec S σ) : Prop :=
  ∀ op s t, R s t → (exec op t).1 = (exec op s).1 ∧ R (exec op s).2 (exec op t).2

namespace Respects

theorem under {serve : Exec S σ} (h : Respects R serve)
    (fault : String → (op : S.Op) → Option (S.Ans op)) (fate : Fate) :
    Respects R (fate.under fault serve) := by
  intro op s t hst
  cases fate with
  | served => exact h op s t hst
  | refused msg =>
      rw [Fate.under, Fate.under]
      cases fault msg op with
      | none => exact h op s t hst
      | some ans => exact ⟨rfl, hst⟩
  | unacknowledged msg =>
      rw [Fate.under, Fate.under]
      cases fault msg op with
      | none => exact h op s t hst
      | some ans => exact ⟨rfl, (h op s t hst).2⟩

theorem runFates {exec : χ → Exec S σ} (h : ∀ c, Respects R (exec c)) (cs : List χ)
    (p : Prog S α) {s t : σ} (hst : R s t) :
    (p.runFates exec cs t).1 = (p.runFates exec cs s).1 ∧
      R (p.runFates exec cs s).2 (p.runFates exec cs t).2 := by
  induction p generalizing cs s t with
  | ret a =>
      rw [Prog.runFates_ret, Prog.runFates_ret]
      exact ⟨rfl, hst⟩
  | call op k ih =>
      cases cs with
      | nil => exact ⟨rfl, hst⟩
      | cons c rest =>
          obtain ⟨hans, hpost⟩ := h c op s t hst
          rw [Prog.runFates_cons, Prog.runFates_cons, hans]
          exact ih _ rest hpost

end Respects

/-- Steps that keep states related may be left out when taking them keeps states related to where
they started. -/
theorem foldl_filter {step : σ → τ → σ} {keep : τ → Bool}
    (hkeep : ∀ x s t, R s t → R (step s x) (step t x))
    (hdrop : ∀ x s t, keep x = false → R s t → R s (step t x)) (xs : List τ) {s t : σ}
    (hst : R s t) : R ((xs.filter keep).foldl step s) (xs.foldl step t) := by
  induction xs generalizing s t with
  | nil => exact hst
  | cons x rest ih =>
      cases hx : keep x with
      | true => rw [List.filter_cons_of_pos hx]; exact ih (hkeep x s t hst)
      | false => rw [List.filter_cons_of_neg (by simp [hx])]; exact ih (hdrop x s t hx hst)

end Interleave
