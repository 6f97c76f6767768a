import Mathlib.Data.List.Chain

/-!
# Walk — walks on a relation

A walk along `R` from `a` is the list of the points it visits after `a`, each related to the one
before it.  It is the abstract account of a state machine that only makes legal moves.

* `Walk.trace`: the moves, each with the point it leaves; the first entry is the start itself.
* `Walk.trace_snoc`: one more move is one more entry at the end.
* `Walk.rank_le_last`: on a relation that climbs a rank, a walk ends at its highest point.
* `Walk.trace_chain`: each entry leaves the point the entry before it reached, by a legal move.
-/

/-- A walk along `R` from `a`. -/
structure Walk {α : Type} (R : α → α → Prop) (a : α) where
  moves : List α
  chain : (a :: moves).IsChain R

namespace Walk
variable {α : Type} {R : α → α → Prop} {a : α}

/-- The walk that has not moved. -/
def stay (a : α) : Walk R a := ⟨[], .singleton a⟩

/-- Where the walk is. -/
def last (w : Walk R a) : α := w.moves.getLastD a

@[simp] theorem last_stay : (stay a : Walk R a).last = a := rfl

/-- One more move. -/
def snoc (w : Walk R a) (x : α) (h : R w.last x) : Walk R a where
  moves := w.moves ++ [x]
  chain := by
    rw [← List.cons_append]
    refine List.isChain_append.mpr ⟨w.chain, .singleton x, fun y hy z hz => ?_⟩
    rw [List.getLast?_cons, ← List.getLastD_eq_getLast?] at hy
    obtain rfl : w.last = y := Option.some.inj hy
    obtain rfl : x = z := Option.some.inj hz
    exact h

@[simp] theorem last_snoc (w : Walk R a) (x : α) (h : R w.last x) : (w.snoc x h).last = x :=
  List.getLastD_concat

/-- A walk from a point that no move reaches is only there before it moves. -/
theorem last_eq_start_iff (h : ∀ x, ¬ R x a) (w : Walk R a) : w.last = a ↔ w.moves = [] := by
  constructor
  · intro hlast
    rcases List.eq_nil_or_concat w.moves with hm | ⟨l, x, hm⟩
    · exact hm
    · rw [List.concat_eq_append] at hm
      have hchain := w.chain
      rw [last, hm, List.getLastD_concat] at hlast
      rw [hm, ← List.cons_append, hlast] at hchain
      obtain ⟨-, -, hreach⟩ := List.isChain_append.mp hchain
      exact absurd (hreach _ (List.getLast?_cons ..) a rfl) (h _)
  · intro hm
    rw [last, hm]
    rfl

/-! ### The trace of a walk -/

/-- Each point of a list, with the point before it. -/
def withPrevious : Option α → List α → List (Option α × α)
  | _, [] => []
  | p, x :: l => (p, x) :: withPrevious (some x) l

/-- The start, then the moves, each with the point it leaves. -/
def trace (w : Walk R a) : List (Option α × α) := withPrevious none (a :: w.moves)

theorem trace_stay : (stay a : Walk R a).trace = [(none, a)] := rfl

theorem withPrevious_snoc (p : Option α) (b : α) (l : List α) (x : α) :
    withPrevious p (b :: (l ++ [x])) = withPrevious p (b :: l) ++ [(some (l.getLastD b), x)] := by
  induction l generalizing p b with
  | nil => rfl
  | cons c l ih =>
      rw [List.cons_append, withPrevious, ih, List.getLastD_cons]
      rfl

theorem trace_snoc (w : Walk R a) (x : α) (h : R w.last x) :
    (w.snoc x h).trace = w.trace ++ [(some w.last, x)] :=
  withPrevious_snoc none a w.moves x

/-- The trace starts at the start. -/
theorem trace_head (w : Walk R a) : w.trace.head? = some (none, a) := rfl

/-- The trace ends where the walk is. -/
theorem trace_last (w : Walk R a) : (w.trace.getLast?).map Prod.snd = some w.last := by
  rcases List.eq_nil_or_concat w.moves with hm | ⟨l, x, hm⟩
  · rw [trace, last, hm]
    rfl
  · rw [List.concat_eq_append] at hm
    rw [trace, last, hm, withPrevious_snoc, List.getLast?_concat, List.getLastD_concat]
    rfl

/-- Each entry of the trace leaves the point the entry before it reached, by a legal move. -/
theorem trace_chain (w : Walk R a) :
    w.trace.IsChain fun e f => f.1 = some e.2 ∧ R e.2 f.2 := by
  have h : ∀ (p : Option α) (b : α) (l : List α), (b :: l).IsChain R →
      (withPrevious p (b :: l)).IsChain fun e f => f.1 = some e.2 ∧ R e.2 f.2 := by
    intro p b l hl
    induction l generalizing p b with
    | nil => exact .singleton _
    | cons c l ih =>
        obtain ⟨hbc, hl⟩ := List.isChain_cons_cons.mp hl
        exact List.isChain_cons_cons.mpr ⟨⟨rfl, hbc⟩, ih (some b) c hl⟩
  exact h none a w.moves w.chain

/-! ### Climbing -/

section Rank
variable (rank : α → Nat) (hrank : ∀ s t, R s t → rank s ≤ rank t)
include hrank

/-- No point of a walk is above where it ends. -/
theorem rank_le_last {a : α} (w : Walk R a) : rank a ≤ rank w.last ∧
    ∀ x ∈ w.moves, rank x ≤ rank w.last := by
  obtain ⟨moves, chain⟩ := w
  induction moves generalizing a with
  | nil => exact ⟨Nat.le_refl _, fun x hx => absurd hx List.not_mem_nil⟩
  | cons x xs ih =>
      obtain ⟨hax, hxs⟩ := List.isChain_cons_cons.mp chain
      obtain ⟨hx, hrest⟩ := ih hxs
      have hlast : last (⟨x :: xs, chain⟩ : Walk R a) = last (⟨xs, hxs⟩ : Walk R x) :=
        List.getLastD_cons (l := xs)
      rw [hlast]
      refine ⟨(hrank a x hax).trans hx, fun y hy => ?_⟩
      rcases List.mem_cons.mp hy with rfl | hy
      · exact hx
      · exact hrest y hy

end Rank

end Walk
