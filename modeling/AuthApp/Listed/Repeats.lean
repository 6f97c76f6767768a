import Mathlib.Data.List.Duplicate
import Mathlib.Data.List.NodupEquivFin

/-!
# Listed — what occurs twice

A list is read once, with a set of what has been seen and a set of what has been seen again.

* `InsertionSet`: a set that is iterated in the order of insertion.
* `mem_repeats_iff`: what is seen again is what occurs twice.
* `duplicate_flatMap_iff`: what occurs twice in a list that is put together from lists.
-/

namespace Listed

variable {α β : Type}

/-- The elements in the order in which they were added, each once. -/
structure InsertionSet (α : Type) where
  elems : List α
  nodup : elems.Nodup

namespace InsertionSet

def empty : InsertionSet α := ⟨[], List.nodup_nil⟩

variable [DecidableEq α]

def has (s : InsertionSet α) (a : α) : Bool := a ∈ s.elems

def add (s : InsertionSet α) (a : α) : InsertionSet α :=
  if h : a ∈ s.elems then s
  else ⟨s.elems ++ [a], List.nodup_append.mpr
    ⟨s.nodup, List.nodup_singleton a, fun b hb c hc => by
      rw [List.mem_singleton.mp hc]
      exact fun heq => h (heq ▸ hb)⟩⟩

theorem has_iff {s : InsertionSet α} {a : α} : s.has a = true ↔ a ∈ s.elems :=
  decide_eq_true_iff

theorem mem_add_iff {s : InsertionSet α} {a b : α} :
    b ∈ (s.add a).elems ↔ b ∈ s.elems ∨ b = a := by
  rw [add]
  split
  · next h => exact ⟨.inl, fun hb => hb.elim id fun heq => heq ▸ h⟩
  · rw [List.mem_append, List.mem_singleton]

end InsertionSet

/-! ### One pass -/

section Repeats
variable [DecidableEq α]

/-- What has been seen, and what has been seen again. -/
structure Pass (α : Type) where
  seen : InsertionSet α
  duplicates : InsertionSet α

def Pass.start : Pass α := ⟨.empty, .empty⟩

/-- One element: it is a duplicate if it has been seen, and has been seen from then on. -/
def Pass.next (p : Pass α) (a : α) : Pass α where
  seen := p.seen.add a
  duplicates := if p.seen.has a then p.duplicates.add a else p.duplicates

/-- What is seen again in the list, in the order in which it is. -/
def repeats (l : List α) : List α := (l.foldl Pass.next .start).duplicates.elems

/-- **One step.** -/
theorem Pass.mem_next_iff {p : Pass α} {a b : α} :
    (b ∈ (p.next a).seen.elems ↔ b ∈ p.seen.elems ∨ b = a) ∧
      (b ∈ (p.next a).duplicates.elems ↔
        b ∈ p.duplicates.elems ∨ b = a ∧ b ∈ p.seen.elems) := by
  refine ⟨InsertionSet.mem_add_iff, ?_⟩
  rw [Pass.next]
  dsimp only
  split
  · next h =>
      rw [InsertionSet.mem_add_iff]
      refine or_congr_right ⟨fun heq => ⟨heq, ?_⟩, And.left⟩
      rw [heq]
      exact InsertionSet.has_iff.mp h
  · next h =>
      refine ⟨.inl, fun hb => hb.elim id ?_⟩
      rintro ⟨rfl, hseen⟩
      exact absurd (InsertionSet.has_iff.mpr hseen) h

/-- **The pass.** A duplicate was one before, or had been seen and occurs, or occurs twice. -/
theorem Pass.mem_foldl_iff {p : Pass α} {l : List α} {b : α} :
    b ∈ (l.foldl Pass.next p).duplicates.elems ↔
      b ∈ p.duplicates.elems ∨ b ∈ p.seen.elems ∧ b ∈ l ∨ l.Duplicate b := by
  induction l generalizing p with
  | nil => simp
  | cons a l ih =>
      rw [List.foldl_cons, ih, Pass.mem_next_iff.1, Pass.mem_next_iff.2, List.mem_cons,
        List.duplicate_cons_iff]
      constructor
      · rintro ((hb | ⟨rfl, hseen⟩) | ⟨hseen | rfl, hl⟩ | hdup)
        · exact .inl hb
        · exact .inr (.inl ⟨hseen, .inl rfl⟩)
        · exact .inr (.inl ⟨hseen, .inr hl⟩)
        · exact .inr (.inr (.inl ⟨rfl, hl⟩))
        · exact .inr (.inr (.inr hdup))
      · rintro (hb | ⟨hseen, rfl | hl⟩ | ⟨rfl, hl⟩ | hdup)
        · exact .inl (.inl hb)
        · exact .inl (.inr ⟨rfl, hseen⟩)
        · exact .inr (.inl ⟨.inl hseen, hl⟩)
        · exact .inr (.inl ⟨.inr rfl, hl⟩)
        · exact .inr (.inr hdup)

theorem mem_repeats_iff {l : List α} {a : α} : a ∈ repeats l ↔ l.Duplicate a := by
  rw [repeats, Pass.mem_foldl_iff]
  simp [Pass.start, InsertionSet.empty]

end Repeats

/-! ### Twice, in a list of lists -/

/-- Two places of the list hold the element. -/
theorem duplicate_iff_getElem? {l : List α} {a : α} :
    l.Duplicate a ↔ ∃ i j : Nat, i ≠ j ∧ l[i]? = some a ∧ l[j]? = some a := by
  rw [List.duplicate_iff_exists_distinct_get]
  constructor
  · rintro ⟨i, j, hlt, hi, hj⟩
    exact ⟨i, j, Nat.ne_of_lt hlt, hi ▸ List.getElem?_eq_getElem i.isLt,
      hj ▸ List.getElem?_eq_getElem j.isLt⟩
  · rintro ⟨i, j, hne, hi, hj⟩
    obtain ⟨hi', rfl⟩ := List.getElem?_eq_some_iff.mp hi
    obtain ⟨hj', heq⟩ := List.getElem?_eq_some_iff.mp hj
    rcases Nat.lt_or_gt_of_ne hne with hlt | hgt
    · exact ⟨⟨i, hi'⟩, ⟨j, hj'⟩, hlt, rfl, heq.symm⟩
    · exact ⟨⟨j, hj'⟩, ⟨i, hi'⟩, hgt, heq.symm, rfl⟩

theorem duplicate_append_iff {l₁ l₂ : List α} {a : α} :
    (l₁ ++ l₂).Duplicate a ↔ l₁.Duplicate a ∨ l₂.Duplicate a ∨ a ∈ l₁ ∧ a ∈ l₂ := by
  induction l₁ with
  | nil => simp
  | cons b l₁ ih =>
      rw [List.cons_append, List.duplicate_cons_iff, ih, List.duplicate_cons_iff, List.mem_append,
        List.mem_cons]
      constructor
      · rintro (⟨rfl, h₁ | h₂⟩ | h₁ | h₂ | ⟨h₁, h₂⟩)
        · exact .inl (.inl ⟨rfl, h₁⟩)
        · exact .inr (.inr ⟨.inl rfl, h₂⟩)
        · exact .inl (.inr h₁)
        · exact .inr (.inl h₂)
        · exact .inr (.inr ⟨.inr h₁, h₂⟩)
      · rintro ((⟨rfl, h₁⟩ | h₁) | h₂ | ⟨rfl | h₁, h₂⟩)
        · exact .inl ⟨rfl, .inl h₁⟩
        · exact .inr (.inl h₁)
        · exact .inr (.inr (.inl h₂))
        · exact .inl ⟨rfl, .inr h₂⟩
        · exact .inr (.inr (.inr ⟨h₁, h₂⟩))

/-- An element occurs twice in one of the lists, or in two of them. -/
theorem duplicate_flatMap_iff {l : List α} {g : α → List β} {b : β} :
    (l.flatMap g).Duplicate b ↔ (∃ (i : Nat) (x : α), l[i]? = some x ∧ (g x).Duplicate b) ∨
      ∃ (i j : Nat) (x y : α), i ≠ j ∧ l[i]? = some x ∧ l[j]? = some y ∧ b ∈ g x ∧ b ∈ g y := by
  induction l with
  | nil => simp
  | cons a l ih =>
      rw [List.flatMap_cons, duplicate_append_iff, ih]
      constructor
      · rintro (h | (⟨i, x, hx, h⟩ | ⟨i, j, x, y, hne, hx, hy, hbx, hby⟩) | ⟨ha, h⟩)
        · exact .inl ⟨0, a, rfl, h⟩
        · exact .inl ⟨i + 1, x, hx, h⟩
        · exact .inr ⟨i + 1, j + 1, x, y, fun h => hne (Nat.succ.inj h), hx, hy, hbx, hby⟩
        · obtain ⟨y, hy, hby⟩ := List.mem_flatMap.mp h
          obtain ⟨j, hj⟩ := List.mem_iff_getElem?.mp hy
          exact .inr ⟨0, j + 1, a, y, (Nat.succ_ne_zero j).symm, rfl, hj, ha, hby⟩
      · have hmem : ∀ {j : Nat} {y : α}, l[j]? = some y → b ∈ g y → b ∈ l.flatMap g :=
          fun hj hby => List.mem_flatMap.mpr ⟨_, List.mem_of_getElem? hj, hby⟩
        rintro (⟨_ | i, x, hx, h⟩ | ⟨_ | i, _ | j, x, y, hne, hx, hy, hbx, hby⟩)
        · obtain rfl := Option.some.inj hx
          exact .inl h
        · exact .inr (.inl (.inl ⟨i, x, hx, h⟩))
        · exact absurd rfl hne
        · obtain rfl := Option.some.inj hx
          exact .inr (.inr ⟨hbx, hmem hy hby⟩)
        · obtain rfl := Option.some.inj hy
          exact .inr (.inr ⟨hby, hmem hx hbx⟩)
        · exact .inr (.inl (.inr ⟨i, j, x, y, fun h => hne (congrArg _ h), hx, hy, hbx, hby⟩))

end Listed
