import AuthApp.Interleave.Program

/-!
# Interleave — fates

An operation that crosses a wire is served, or it is refused with nothing done, or it is served
and the answer is lost.  In the last two cases the caller is answered an error it cannot tell
apart.  Operations that answer no error of this kind are always served.

* `under_state`: whatever the fate, the state is the one before or the one a served call leaves.
* `under_of_lands`: unless the call is refused, it is the latter.
* `serve_of_under`: a call whose answer is no such error was served.
-/

namespace Interleave

inductive Fate where
  | served
  | refused (msg : String)
  | unacknowledged (msg : String)
  deriving DecidableEq, Repr

/-- The call takes effect, whatever the caller is told. -/
def Fate.Lands : Fate → Prop
  | .served => True
  | .refused _ => False
  | .unacknowledged _ => True

instance : DecidablePred Fate.Lands
  | .served => .isTrue trivial
  | .refused _ => .isFalse id
  | .unacknowledged _ => .isTrue trivial

variable {S : Sig} {σ : Type}

/-- The operations under a fate; `fault` is the error a failing operation answers, if it has
one. -/
def Fate.under (fault : String → (op : S.Op) → Option (S.Ans op)) (serve : Exec S σ) :
    Fate → Exec S σ
  | .served, op, s => serve op s
  | .refused msg, op, s =>
      match fault msg op with
      | some ans => (ans, s)
      | none => serve op s
  | .unacknowledged msg, op, s =>
      match fault msg op with
      | some ans => (ans, (serve op s).2)
      | none => serve op s

variable (fault : String → (op : S.Op) → Option (S.Ans op)) (serve : Exec S σ)

theorem Fate.under_state (fate : Fate) (op : S.Op) (s : σ) :
    (fate.under fault serve op s).2 = s ∨ (fate.under fault serve op s).2 = (serve op s).2 := by
  cases fate with
  | served => exact .inr rfl
  | refused msg =>
      rw [under]
      cases fault msg op with
      | none => exact .inr rfl
      | some ans => exact .inl rfl
  | unacknowledged msg =>
      rw [under]
      cases fault msg op with
      | none => exact .inr rfl
      | some ans => exact .inr rfl

theorem Fate.under_of_lands {fate : Fate} (h : fate.Lands) (op : S.Op) (s : σ) :
    (fate.under fault serve op s).2 = (serve op s).2 := by
  cases fate with
  | served => rfl
  | refused msg => exact absurd h id
  | unacknowledged msg =>
      rw [under]
      cases fault msg op <;> rfl

variable {fault serve}

/-- A call that answers no error of its own kind was served. -/
theorem Fate.serve_of_under {fate : Fate} {op : S.Op} {s t : σ} {ans : S.Ans op}
    (h : fate.under fault serve op s = (ans, t)) (hans : ∀ msg, fault msg op ≠ some ans) :
    serve op s = (ans, t) := by
  cases fate with
  | served => exact h
  | refused msg =>
      rw [under] at h
      cases hfault : fault msg op with
      | none => rwa [hfault] at h
      | some err =>
          rw [hfault] at h
          cases h
          exact absurd hfault (hans msg)
  | unacknowledged msg =>
      rw [under] at h
      cases hfault : fault msg op with
      | none => rwa [hfault] at h
      | some err =>
          rw [hfault] at h
          cases h
          exact absurd hfault (hans msg)

end Interleave
