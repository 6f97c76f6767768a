import Mathlib.Data.List.Nodup
import Mathlib.Order.Lattice

/-!
# Sorted — ties

Sorting by a key leaves the order of entries with equal keys open: any arrangement that the key
does not forbid may come back.  Cut off after `n` entries, a tie shows where it lies within the
cut, or across it.

* `take_eq_iff`: the first `n` entries are the same in every arrangement exactly when each of them
  has another key than the entry after it.
-/

namespace Sorted

variable {α κ : Type} [LinearOrder κ] {key : α → κ}

/-- No later entry has a larger key. -/
def Descending (key : α → κ) (l : List α) : Prop := l.Pairwise fun a b => key b ≤ key a

/-- An arrangement of `l` that sorting by the key, the largest first, may come to. -/
structure Arranges (key : α → κ) (l s : List α) : Prop where
  perm : s.Perm l
  descending : Descending key s

/-- Each of the first `n` entries has another key than the one after it. -/
def Distinct (key : α → κ) (n : Nat) (l : List α) : Prop :=
  ∀ i < n, ∀ a b, l[i]? = some a → l[i + 1]? = some b → key a ≠ key b

omit [LinearOrder κ] in
theorem Distinct.tail {n : Nat} {a : α} {l : List α} (h : Distinct key (n + 1) (a :: l)) :
    Distinct key n l :=
  fun i hi b c hb hc => h (i + 1) (Nat.succ_lt_succ hi) b c hb hc

/-- An entry that is distinct from the one after it has a larger key than all that follow. -/
theorem lt_of_distinct {n : Nat} {a b : α} {l : List α} (hl : Descending key (a :: l))
    (h : Distinct key (n + 1) (a :: l)) (hb : b ∈ l) : key b < key a := by
  cases l with
  | nil => cases hb
  | cons c l =>
      obtain ⟨hhead, htail⟩ := List.pairwise_cons.mp hl
      have hne : key a ≠ key c := h 0 (Nat.succ_pos n) a c rfl rfl
      have hlt : key c < key a := lt_of_le_of_ne (hhead c List.mem_cons_self) hne.symm
      rcases List.mem_cons.mp hb with rfl | hb
      · exact hlt
      · exact ((List.pairwise_cons.mp htail).1 b hb).trans_lt hlt

/-- Without a tie, the first entries are the same in every arrangement. -/
theorem take_of_distinct {n : Nat} {l s : List α} (hl : Descending key l)
    (h : Distinct key n l) (hs : Arranges key l s) : s.take n = l.take n := by
  induction n generalizing l s with
  | zero => rfl
  | succ n ih =>
      cases l with
      | nil => rw [hs.perm.eq_nil]
      | cons a l =>
          cases s with
          | nil => exact absurd hs.perm.symm.eq_nil (List.cons_ne_nil a l)
          | cons b s =>
              obtain ⟨hhead, hdesc⟩ := List.pairwise_cons.mp hs.descending
              -- the largest entry comes first
              have hba : b = a := by
                by_contra hne
                have hb : b ∈ l :=
                  (List.mem_cons.mp (hs.perm.mem_iff.mp List.mem_cons_self)).resolve_left hne
                have ha : a ∈ s := (List.mem_cons.mp
                  (hs.perm.symm.mem_iff.mp List.mem_cons_self)).resolve_left (Ne.symm hne)
                exact absurd (hhead a ha) (not_le.mpr (lt_of_distinct hl h hb))
              subst hba
              have hrest : Arranges key l s := ⟨hs.perm.cons_inv, hdesc⟩
              rw [List.take_succ_cons, List.take_succ_cons,
                ih (List.pairwise_cons.mp hl).2 h.tail hrest]

/-- Two neighbours that tie may change places. -/
theorem arranges_swap {l₁ l₂ : List α} {a b : α} (hl : Descending key (l₁ ++ a :: b :: l₂))
    (htie : key a = key b) :
    Arranges key (l₁ ++ a :: b :: l₂) (l₁ ++ b :: a :: l₂) := by
  refine ⟨(List.Perm.swap a b l₂).append_left l₁, ?_⟩
  obtain ⟨h₁, h₂, hcross⟩ := List.pairwise_append.mp hl
  obtain ⟨ha, hrest⟩ := List.pairwise_cons.mp h₂
  obtain ⟨hb, hl₂⟩ := List.pairwise_cons.mp hrest
  refine List.pairwise_append.mpr ⟨h₁, ?_, fun c hc d hd => hcross c hc d ?_⟩
  · refine List.pairwise_cons.mpr ⟨fun c hc => ?_, List.pairwise_cons.mpr
      ⟨fun c hc => ha c (List.mem_cons_of_mem b hc), hl₂⟩⟩
    rcases List.mem_cons.mp hc with rfl | hc
    · exact htie.le
    · exact hb c hc
  · exact ((List.Perm.swap a b l₂).mem_iff).mp hd

/-- **Ties.** The first `n` entries of a list without duplicates, in the order of their keys, come
first in every arrangement exactly when each has another key than the entry after it. -/
theorem take_eq_iff {n : Nat} {l : List α} (hnodup : l.Nodup) (hl : Descending key l) :
    (∀ s, Arranges key l s → s.take n = l.take n) ↔ Distinct key n l := by
  refine ⟨fun h i hi a b ha hb htie => ?_, fun h s hs => take_of_distinct hl h hs⟩
  obtain ⟨hlt, rfl⟩ := List.getElem?_eq_some_iff.mp ha
  obtain ⟨hlt', rfl⟩ := List.getElem?_eq_some_iff.mp hb
  have hcut : l = l.take i ++ l[i] :: l[i + 1] :: l.drop (i + 2) := by
    rw [← List.drop_eq_getElem_cons hlt', ← List.drop_eq_getElem_cons hlt, List.take_append_drop]
  have hswapped : Arranges key l (l.take i ++ l[i + 1] :: l[i] :: l.drop (i + 2)) := by
    have hdesc := hl
    rw [hcut] at hdesc
    have hswap := arranges_swap hdesc htie
    rwa [← hcut] at hswap
  have hsame := congrArg (fun s => s[i]?) (h _ hswapped)
  rw [List.getElem?_take_of_lt hi, List.getElem?_take_of_lt hi,
    List.getElem?_append_right (List.length_take_le i l)] at hsame
  have hlen : i - (l.take i).length = 0 := by
    rw [List.length_take, Nat.min_eq_left (Nat.le_of_lt hlt), Nat.sub_self]
  rw [hlen, List.getElem?_cons_zero, List.getElem?_eq_getElem hlt] at hsame
  have hindex := (hnodup.getElem_inj_iff).mp (Option.some.inj hsame)
  omega

end Sorted
