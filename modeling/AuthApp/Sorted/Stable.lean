import Mathlib.Data.List.Basic
import Mathlib.Order.Lattice

/-!
# Sorted — stable

Sorting by a key, the least first, where entries with equal keys keep their order.  Only one
arrangement is sorted so (`StablySorted.unique`), and the merge sort finds it
(`stablySorted_sorted`).  An entry more leaves the order of the others as it was
(`sorted_sublist`).
-/

namespace Sorted

variable {α κ : Type} [LinearOrder κ] {key : α → κ}

/-- No later entry has a smaller key. -/
def Ascending (key : α → κ) (l : List α) : Prop := l.Pairwise fun a b => key a ≤ key b

/-- `s` holds the entries of `l`, in the order of their keys, and those with one key in the order
in which `l` has them. -/
structure StablySorted (key : α → κ) (l s : List α) : Prop where
  ascending : Ascending key s
  ties : ∀ k, (s.filter fun a => key a = k) = l.filter fun a => key a = k

/-- The arrangement of a merge sort. -/
def sorted (key : α → κ) (l : List α) : List α := l.mergeSort fun a b => key a ≤ key b

/-! ### The entries of one key -/

namespace StablySorted

theorem mem_iff {l s : List α} (h : StablySorted key l s) {a : α} : a ∈ s ↔ a ∈ l := by
  have hties : a ∈ s.filter (fun b => key b = key a) ↔ a ∈ l.filter (fun b => key b = key a) := by
    rw [h.ties]
  simpa only [List.mem_filter, decide_true, and_true] using hties

/-- Two lists with the same ties have the same first key, if they are in order. -/
theorem head_le {l s t : List α} {a b : α} (hs : StablySorted key l (a :: s))
    (ht : StablySorted key l (b :: t)) : key a ≤ key b := by
  have hb : b ∈ a :: s := hs.mem_iff.mpr (ht.mem_iff.mp List.mem_cons_self)
  rcases List.mem_cons.mp hb with rfl | hb
  · exact le_rfl
  · exact (List.pairwise_cons.mp hs.ascending).1 b hb

/-- There is one such arrangement. -/
theorem unique {l s t : List α} (hs : StablySorted key l s) (ht : StablySorted key l t) :
    s = t := by
  induction s generalizing l t with
  | nil =>
      cases t with
      | nil => rfl
      | cons b t => exact absurd (hs.mem_iff.mpr (ht.mem_iff.mp List.mem_cons_self)) (by simp)
  | cons a s ih =>
      cases t with
      | nil => exact absurd (ht.mem_iff.mpr (hs.mem_iff.mp List.mem_cons_self)) (by simp)
      | cons b t =>
          have hkey : key a = key b := le_antisymm (head_le hs ht) (head_le ht hs)
          -- the first entries are the first of one tie
          have hheads := (hs.ties (key a)).trans (ht.ties (key a)).symm
          rw [List.filter_cons_of_pos (by simp), List.filter_cons_of_pos (by simp [hkey])] at hheads
          obtain ⟨rfl, -⟩ := List.cons.inj hheads
          have htail : StablySorted key s s :=
            ⟨(List.pairwise_cons.mp hs.ascending).2, fun _ => rfl⟩
          refine congrArg (a :: ·) (ih htail ⟨(List.pairwise_cons.mp ht.ascending).2, fun k => ?_⟩)
          have hk := (ht.ties k).trans (hs.ties k).symm
          by_cases ha : key a = k
          · simpa only [List.filter_cons, ha, decide_true, if_true, List.cons.injEq, true_and]
              using hk
          · simpa only [List.filter_cons, ha, decide_false, Bool.false_eq_true, if_false] using hk

end StablySorted

/-! ### The merge sort -/

/-- The key's order, as the merge sort compares with it. -/
theorem le_trans_total (key : α → κ) :
    (∀ a b c, decide (key a ≤ key b) → decide (key b ≤ key c) → decide (key a ≤ key c)) ∧
      ∀ a b, decide (key a ≤ key b) || decide (key b ≤ key a) := by
  refine ⟨fun a b c hab hbc => ?_, fun a b => by simpa using le_total (key a) (key b)⟩
  simp only [decide_eq_true_eq] at hab hbc ⊢
  exact le_trans hab hbc

theorem ascending_sorted (key : α → κ) (l : List α) : Ascending key (sorted key l) := by
  obtain ⟨htrans, htotal⟩ := le_trans_total key
  have h := List.pairwise_mergeSort htrans htotal l
  simpa only [decide_eq_true_eq, Ascending, sorted] using h

/-- The entries of one key pass the sort as they are. -/
theorem ties_sorted (key : α → κ) (l : List α) (k : κ) :
    ((sorted key l).filter fun a => key a = k) = l.filter fun a => key a = k := by
  obtain ⟨htrans, htotal⟩ := le_trans_total key
  have hties : (l.filter fun a => decide (key a = k)).Pairwise
      fun a b => decide (key a ≤ key b) := by
    refine List.Pairwise.imp_of_mem (R := fun _ _ => True) (fun ha hb _ => ?_)
      (List.pairwise_of_forall fun _ _ => trivial)
    simp only [List.mem_filter, decide_eq_true_eq] at ha hb ⊢
    exact le_of_eq (ha.2.trans hb.2.symm)
  have hsub := (List.sublist_mergeSort htrans htotal hties List.filter_sublist).filter
    fun a => decide (key a = k)
  rw [List.filter_filter] at hsub
  simp only [Bool.and_self] at hsub
  exact (hsub.eq_of_length ((List.mergeSort_perm l _).filter _).length_eq.symm).symm

theorem stablySorted_sorted (key : α → κ) (l : List α) : StablySorted key l (sorted key l) :=
  ⟨ascending_sorted key l, ties_sorted key l⟩

/-- The merge sort finds the arrangement that is sorted so. -/
theorem sorted_eq_iff {l s : List α} : sorted key l = s ↔ StablySorted key l s := by
  refine ⟨?_, (stablySorted_sorted key l).unique⟩
  rintro rfl
  exact stablySorted_sorted key l

/-! ### Another entry -/

/-- A list in order is what stays below a key, and after it the rest. -/
theorem Ascending.split {l : List α} (h : Ascending key l) (c : κ) :
    ((l.filter fun b => key b < c) ++ l.filter fun b => c ≤ key b) = l := by
  induction l with
  | nil => rfl
  | cons a l ih =>
      obtain ⟨hhead, htail⟩ := List.pairwise_cons.mp h
      by_cases ha : key a < c
      · rw [List.filter_cons_of_pos (by simpa using ha),
          List.filter_cons_of_neg (by simpa using ha), List.cons_append, ih htail]
      · have hge : ∀ b ∈ a :: l, c ≤ key b := by
          intro b hb
          rcases List.mem_cons.mp hb with rfl | hb
          · exact not_lt.mp ha
          · exact le_trans (not_lt.mp ha) (hhead b hb)
        rw [List.filter_eq_nil_iff.mpr (by simpa using hge),
          List.filter_eq_self.mpr (by simpa using hge), List.nil_append]

/-- The first entry goes before those whose keys are no smaller, and after the others. -/
theorem sorted_cons (key : α → κ) (a : α) (l : List α) :
    sorted key (a :: l) = ((sorted key l).filter fun b => key b < key a) ++
      a :: (sorted key l).filter fun b => key a ≤ key b := by
  have hl := ascending_sorted key l
  refine sorted_eq_iff.mpr ⟨?_, fun k => ?_⟩
  · refine List.pairwise_append.mpr ⟨hl.filter _, List.pairwise_cons.mpr ⟨?_, hl.filter _⟩, ?_⟩
    · intro b hb
      simpa using (List.mem_filter.mp hb).2
    · intro b hb c hc
      have hba : key b < key a := by simpa using (List.mem_filter.mp hb).2
      rcases List.mem_cons.mp hc with rfl | hc
      · exact le_of_lt hba
      · have hac : key a ≤ key c := by simpa using (List.mem_filter.mp hc).2
        exact le_trans (le_of_lt hba) hac
  · have hties := ties_sorted key l k
    rw [← hl.split (key a), List.filter_append] at hties
    by_cases ha : key a = k
    · -- no entry before `a` has its key
      have hnone : (((sorted key l).filter fun b => key b < key a).filter
          fun b => key b = k) = [] := by
        refine List.filter_eq_nil_iff.mpr fun b hb => ?_
        have hba : key b < key a := by simpa using (List.mem_filter.mp hb).2
        simpa [← ha] using ne_of_lt hba
      rw [hnone, List.nil_append] at hties
      rw [List.filter_append, hnone, List.nil_append, List.filter_cons_of_pos (by simpa using ha),
        List.filter_cons_of_pos (by simpa using ha), hties]
    · rw [List.filter_append, List.filter_cons_of_neg (by simpa using ha),
        List.filter_cons_of_neg (by simpa using ha), hties]

/-- An entry more leaves the order of the others as it was. -/
theorem sorted_sublist {l m : List α} (h : l.Sublist m) :
    (sorted key l).Sublist (sorted key m) := by
  induction h with
  | slnil => exact List.Sublist.refl _
  | @cons l m a _ ih =>
      refine ih.trans ?_
      rw [sorted_cons]
      nth_rewrite 1 [← (ascending_sorted key m).split (key a)]
      exact (List.sublist_cons_self _ _).append_left _
  | cons_cons a _ ih =>
      rw [sorted_cons, sorted_cons]
      exact (ih.filter _).append ((ih.filter _).cons_cons a)

end Sorted
