import Mathlib.Algebra.GroupWithZero.Nat
import Mathlib.Data.List.Basic

/-!
# Paged — walking through pages

A client asks for one page after another, and moves on by what each page says, until a page is
empty or a request is refused.

* `Walk.unique`: where pages are a function of the offset, so is the walk.
* `Walk.tiles`: pages that are cut out of one list, at offsets a request can name, tile it.
* `CutsOut.items_ne_nil`: where the list ends within a page at the bound, no page is empty.
* `Walk.all`: what holds of every page that can be asked for holds of every page of a walk.
-/

namespace Paged

variable {α β : Type}

/-- The pages of a walk from an offset: `ask` answers a request or refuses it, `items` are the
items of a page, and `step` is how far to move on. -/
inductive Walk (ask : Nat → Option β) (items : β → List α) (step : β → Nat) :
    Nat → List β → Prop where
  | refused (offset : Nat) (h : ask offset = none) : Walk ask items step offset []
  | last (offset : Nat) (page : β) (h : ask offset = some page) (hnil : items page = []) :
      Walk ask items step offset [page]
  | next (offset : Nat) (page : β) (pages : List β) (h : ask offset = some page)
      (hmore : items page ≠ []) (rest : Walk ask items step (offset + step page) pages) :
      Walk ask items step offset (page :: pages)

namespace Walk
variable {ask : Nat → Option β} {items : β → List α} {step : β → Nat} {offset : Nat}
  {pages : List β}

theorem unique (h : Walk ask items step offset pages) {pages' : List β}
    (h' : Walk ask items step offset pages') : pages = pages' := by
  induction h generalizing pages' with
  | refused offset h =>
      cases h' with
      | refused => rfl
      | last _ page hask => rw [h] at hask; cases hask
      | next _ page pages hask => rw [h] at hask; cases hask
  | last offset page h hnil =>
      cases h' with
      | refused _ hask => rw [h] at hask; cases hask
      | last _ page' hask => rw [Option.some.inj (h.symm.trans hask)]
      | next _ page' pages hask hmore =>
          obtain rfl := Option.some.inj (h.symm.trans hask)
          exact absurd hnil hmore
  | next offset page pages h hmore _ ih =>
      cases h' with
      | refused _ hask => rw [h] at hask; cases hask
      | last _ page' hask hnil =>
          obtain rfl := Option.some.inj (h.symm.trans hask)
          exact absurd hnil hmore
      | next _ page' pages' hask _ rest =>
          obtain rfl := Option.some.inj (h.symm.trans hask)
          rw [ih rest]

theorem all {P : β → Prop} (hask : ∀ offset page, ask offset = some page → P page)
    (h : Walk ask items step offset pages) : ∀ page ∈ pages, P page := by
  induction h with
  | refused => exact fun page h => (nomatch h)
  | last offset page h hnil =>
      intro other hother
      rw [List.mem_singleton.mp hother]
      exact hask offset page h
  | next offset page pages h hmore _ ih =>
      intro other hother
      rcases List.mem_cons.mp hother with rfl | hother
      · exact hask offset _ h
      · exact ih other hother

/-- A walk ends with an empty page, or where the next request is refused. -/
theorem ends (h : Walk ask items step offset pages) :
    (∃ page, pages.getLast? = some page ∧ items page = []) ∨
      ask (offset + (pages.map step).sum) = none := by
  induction h with
  | refused offset h => exact .inr h
  | last offset page h hnil => exact .inl ⟨page, rfl, hnil⟩
  | next offset page pages h hmore _ ih =>
      rcases ih with ⟨other, hlast, hnil⟩ | hrefused
      · refine .inl ⟨other, ?_, hnil⟩
        rw [List.getLast?_cons, hlast]
        rfl
      · refine .inr ?_
        rwa [List.map_cons, List.sum_cons, ← Nat.add_assoc]

end Walk

/-- The pages that can be asked for, below a bound, are cut out of `xs`, with `k` items each. -/
structure CutsOut (ask : Nat → Option β) (items : β → List α) (step : β → Nat) (xs : List α)
    (k bound : Nat) : Prop where
  pos : 0 < k
  asked : ∀ offset < bound, ∃ page, ask offset = some page ∧
    items page = (xs.drop offset).take k ∧ step page = k
  refused : ∀ offset, bound ≤ offset → ask offset = none

/-- **Tiling.** Pages that are cut out of a list tile it, if every position in the list can be
asked for. -/
theorem CutsOut.tiles {ask : Nat → Option β} {items : β → List α} {step : β → Nat} {xs : List α}
    {k bound : Nat} (h : CutsOut ask items step xs k bound) (hxs : xs.length ≤ bound)
    (offset : Nat) : ∃ pages, Walk ask items step offset pages ∧
      pages.flatMap items = xs.drop offset := by
  -- what is left of the list shrinks with every page that is not empty
  induction hleft : xs.length - offset using Nat.strongRecOn generalizing offset with
  | ind left ih =>
      subst hleft
      rcases Nat.lt_or_ge offset bound with hlt | hge
      · obtain ⟨page, hask, hitems, hstep⟩ := h.asked offset hlt
        by_cases hnil : items page = []
        · refine ⟨[page], .last offset page hask hnil, ?_⟩
          rw [List.flatMap_singleton, hnil]
          rw [hitems, List.take_eq_nil_iff] at hnil
          exact (hnil.resolve_left (Nat.pos_iff_ne_zero.mp h.pos)).symm
        · have hmore : offset < xs.length := by
            by_contra hno
            rw [hitems, List.drop_eq_nil_of_le (Nat.not_lt.mp hno), List.take_nil] at hnil
            exact hnil rfl
          have hpos := h.pos
          obtain ⟨pages, hwalk, htiles⟩ := ih _ (by omega) (offset + k) rfl
          refine ⟨page :: pages, .next offset page pages hask hnil (hstep ▸ hwalk), ?_⟩
          rw [List.flatMap_cons, htiles, hitems, ← List.drop_drop, List.take_append_drop]
      · refine ⟨[], .refused offset (h.refused offset hge), ?_⟩
        rw [List.drop_eq_nil_of_le (Nat.le_trans hxs hge)]
        rfl

/-- No page of a walk is empty where every offset that it comes to is one of the list. -/
theorem CutsOut.items_ne_nil {ask : Nat → Option β} {items : β → List α} {step : β → Nat}
    {xs : List α} {k bound : Nat} (h : CutsOut ask items step xs k bound)
    (hin : ∀ offset < bound, k ∣ offset → offset < xs.length) {offset : Nat} {pages : List β}
    (hwalk : Walk ask items step offset pages) (hdvd : k ∣ offset) :
    ∀ page ∈ pages, items page ≠ [] := by
  induction hwalk with
  | refused => exact fun page hpage => (nomatch hpage)
  | last offset page hask hnil =>
      exfalso
      rcases Nat.lt_or_ge offset bound with hlt | hge
      · obtain ⟨page', hask', hitems, -⟩ := h.asked offset hlt
        obtain rfl := Option.some.inj (hask.symm.trans hask')
        rw [hitems, List.take_eq_nil_iff, List.drop_eq_nil_iff] at hnil
        have hpos := h.pos
        have hlength := hin offset hlt hdvd
        omega
      · rw [h.refused offset hge] at hask
        cases hask
  | next offset page pages hask hmore _ ih =>
      have hstep : step page = k := by
        rcases Nat.lt_or_ge offset bound with hlt | hge
        · obtain ⟨page', hask', -, hstep⟩ := h.asked offset hlt
          obtain rfl := Option.some.inj (hask.symm.trans hask')
          exact hstep
        · rw [h.refused offset hge] at hask
          cases hask
      intro other hother
      rcases List.mem_cons.mp hother with rfl | hother
      · exact hmore
      · refine ih ?_ other hother
        rw [hstep]
        exact Nat.dvd_add hdvd (Nat.dvd_refl k)

end Paged
