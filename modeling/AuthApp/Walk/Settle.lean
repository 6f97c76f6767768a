import AuthApp.Walk.Basic

/-!
# Walk — settling

A walker that is offered points in any order goes to each one it may go to from where it is, and
stays otherwise.  Where it ends depends on the order; `settle_eq_iff` says when it ends at a given
point, for a relation that climbs a rank.

* `settle_moves`: offered the moves of a walk in order, it follows the walk.
* `settle_eq_iff`: it ends at a point of greatest rank when it starts there, or is once offered it
  while it may go there.
-/

namespace Walk
variable {α : Type} (R : α → α → Prop) [DecidableRel R]

/-- Where a walker at `a` ends up when it is offered the points `xs`. -/
def settle (a : α) (xs : List α) : α := xs.foldl (fun s x => if R s x then x else s) a

@[simp] theorem settle_nil (a : α) : settle R a [] = a := rfl

@[simp] theorem settle_cons (a x : α) (xs : List α) :
    settle R a (x :: xs) = settle R (if R a x then x else a) xs := rfl

theorem settle_append (a : α) (xs ys : List α) :
    settle R a (xs ++ ys) = settle R (settle R a xs) ys :=
  List.foldl_append

/-- Offered the moves of a walk in order, the walker follows the walk. -/
theorem settle_moves {a : α} (w : Walk R a) : settle R a w.moves = w.last := by
  obtain ⟨moves, chain⟩ := w
  induction moves generalizing a with
  | nil => rfl
  | cons x xs ih =>
      obtain ⟨hax, hxs⟩ := List.isChain_cons_cons.mp chain
      rw [settle_cons, if_pos hax, ih hxs]
      exact (List.getLastD_cons (l := xs)).symm

section Rank
variable {R} (rank : α → Nat)
  (hrank : ∀ s t, R s t → rank s ≤ rank t ∧ (rank s = rank t → s = t))
include hrank

/-- Offered nothing above it, the walker stays. -/
theorem settle_stays {a : α} {xs : List α} (h : ∀ x ∈ xs, rank x ≤ rank a) :
    settle R a xs = a := by
  induction xs with
  | nil => rfl
  | cons x xs ih =>
      have hx : (if R a x then x else a) = a := by
        split
        · next hax =>
            obtain ⟨hle, heq⟩ := hrank a x hax
            exact (heq (Nat.le_antisymm hle (h x List.mem_cons_self))).symm
        · rfl
      rw [settle_cons, hx]
      exact ih fun y hy => h y (List.mem_cons_of_mem _ hy)

/-- **Settling.** The walker ends at a point above all it is offered when it starts there, or is
once offered it while it may go there. -/
theorem settle_eq_iff {a t : α} {xs : List α} (h : ∀ x ∈ xs, rank x ≤ rank t) :
    settle R a xs = t ↔ a = t ∨ ∃ ys zs, xs = ys ++ t :: zs ∧ R (settle R a ys) t := by
  constructor
  · clear h
    intro hs
    induction xs generalizing a with
    | nil => exact .inl hs
    | cons x xs ih =>
        rw [settle_cons] at hs
        rcases ih hs with hx | ⟨ys, zs, rfl, hr⟩
        · by_cases hax : R a x
          · rw [if_pos hax] at hx
            subst hx
            exact .inr ⟨[], xs, rfl, hax⟩
          · rw [if_neg hax] at hx
            exact .inl hx
        · exact .inr ⟨x :: ys, zs, rfl, hr⟩
  · rintro (rfl | ⟨ys, zs, rfl, hr⟩)
    · exact settle_stays rank hrank h
    · rw [settle_append, settle_cons, if_pos hr]
      exact settle_stays rank hrank fun x hx =>
        h x (List.mem_append_right _ (List.mem_cons_of_mem _ hx))

end Rank

end Walk
