import Mathlib.Data.List.Infix

/-!
# Text — separated lists

A list cut at every occurrence of a separator.

* `getElem?_one_splitOn`: the field between the first separator and the second.
* `not_mem_of_mem_splitOn`: no separator stands in a field.
* `two_le_length_splitOn_iff`: a list with a separator in it has two fields or more.
* `cut_intercalate`: fields that are joined by several entries are cut apart again.
* `nil_mem_splitOn_iff`: a field is empty where the list is, where a separator stands at either
  end, or where two separators are next to each other.
-/

namespace Separated

variable {α : Type}

theorem nil_mem_iff {fields : List (List α)} :
    [] ∈ fields ↔ fields.head? = some [] ∨ [] ∈ fields.tail := by
  cases fields with
  | nil => simp
  | cons field fields => simp [eq_comm]

theorem getLast?_cons_eq_some_iff (c x : α) (xs : List α) :
    (x :: xs).getLast? = some c ↔ xs = [] ∧ x = c ∨ xs.getLast? = some c := by
  cases xs with
  | nil => simp
  | cons y ys => simp [List.getLast?_cons_cons]

theorem pair_prefix_cons_iff (c x : α) (xs : List α) :
    [c, c] <+: x :: xs ↔ x = c ∧ xs.head? = some c := by
  cases xs with
  | nil => simp [List.cons_prefix_cons]
  | cons y ys => simp [List.cons_prefix_cons, eq_comm]

variable [DecidableEq α]

/-- The field between the first separator and the second. -/
theorem getElem?_one_splitOn {c : α} {front middle : List α} (hfront : c ∉ front)
    (hmiddle : c ∉ middle) (back : List α) :
    ((front ++ c :: (middle ++ c :: back)).splitOn c)[1]? = some middle := by
  rw [List.splitOn_append_cons_self_of_not_mem hfront,
    List.splitOn_append_cons_self_of_not_mem hmiddle, List.getElem?_cons_succ,
    List.getElem?_cons_zero]

/-- A list with a separator in it has two fields or more, and no other has. -/
theorem two_le_length_splitOn_iff (c : α) (xs : List α) :
    2 ≤ (xs.splitOn c).length ↔ c ∈ xs := by
  induction xs with
  | nil => simp
  | cons x xs ih =>
      rw [List.splitOn_cons_eq_if_modifyHead]
      by_cases h : x = c
      · have hpos := List.length_pos_of_ne_nil (List.splitOn_ne_nil c xs)
        simp only [h, beq_self_eq_true, if_true, List.length_cons, List.mem_cons, true_or, iff_true]
        omega
      · simp [h, Ne.symm h, ih]

/-- No separator stands in a field. -/
theorem not_mem_of_mem_splitOn {c : α} {xs field : List α} (h : field ∈ xs.splitOn c) :
    c ∉ field := by
  induction xs generalizing field with
  | nil =>
      obtain rfl : field = [] := by simpa using h
      exact List.not_mem_nil
  | cons x xs ih =>
      rw [List.splitOn_cons_eq_if_modifyHead] at h
      by_cases hx : x = c
      · rcases (by simpa [hx] using h) with rfl | h
        · exact List.not_mem_nil
        · exact ih h
      · cases hfields : xs.splitOn c with
        | nil => exact absurd hfields (List.splitOn_ne_nil c xs)
        | cons first rest =>
            rw [hfields] at h ih
            rcases (by simpa [hx] using h) with rfl | h
            · simp [Ne.symm hx, ih List.mem_cons_self]
            · exact ih (List.mem_cons_of_mem _ h)

/-- What stands in a field stands in the list. -/
theorem mem_of_mem_splitOn {c x : α} {xs field : List α} (h : field ∈ xs.splitOn c)
    (hx : x ∈ field) : x ∈ xs := by
  induction xs generalizing field with
  | nil =>
      obtain rfl : field = [] := by simpa using h
      cases hx
  | cons y xs ih =>
      rw [List.splitOn_cons_eq_if_modifyHead] at h
      by_cases hy : y = c
      · rcases (by simpa [hy] using h) with rfl | h
        · cases hx
        · exact List.mem_cons_of_mem _ (ih h hx)
      · cases hfields : xs.splitOn c with
        | nil => exact absurd hfields (List.splitOn_ne_nil c xs)
        | cons first rest =>
            rw [hfields] at h ih
            rcases (by simpa [hy] using h) with rfl | h
            · rcases List.mem_cons.mp hx with rfl | hx
              · exact List.mem_cons_self
              · exact List.mem_cons_of_mem _ (ih List.mem_cons_self hx)
            · exact List.mem_cons_of_mem _ (ih (List.mem_cons_of_mem _ h) hx)

/-- The first field. -/
theorem head_splitOn_eq_nil_iff (c : α) (xs : List α) :
    (xs.splitOn c).head? = some [] ↔ xs = [] ∨ xs.head? = some c := by
  cases xs with
  | nil => simp
  | cons x xs =>
      rw [List.splitOn_cons_eq_if_modifyHead]
      by_cases h : x = c
      · simp [h]
      · simp [h, List.head?_modifyHead]

/-- The fields after the first one. -/
theorem nil_mem_tail_splitOn_iff (c : α) (xs : List α) :
    [] ∈ (xs.splitOn c).tail ↔ xs.getLast? = some c ∨ [c, c] <:+: xs := by
  induction xs with
  | nil => simp
  | cons x xs ih =>
      rw [List.splitOn_cons_eq_if_modifyHead, List.infix_cons_iff, getLast?_cons_eq_some_iff,
        pair_prefix_cons_iff]
      by_cases h : x = c
      · -- the fields after the separator are those of the rest
        have hfields : [] ∈ xs.splitOn c ↔
            (xs = [] ∨ xs.head? = some c) ∨ xs.getLast? = some c ∨ [c, c] <:+: xs := by
          rw [nil_mem_iff, head_splitOn_eq_nil_iff, ih]
        simp only [h, beq_self_eq_true, if_true, List.tail_cons, hfields, and_true, true_and]
        tauto
      · have htail : ((xs.splitOn c).modifyHead (List.cons x)).tail = (xs.splitOn c).tail := by
          cases xs.splitOn c <;> rfl
        simp [h, htail, ih]

/-- A list has an empty field where it is empty, where a separator stands at either end of it, or
where two are next to each other. -/
theorem nil_mem_splitOn_iff (c : α) (xs : List α) :
    [] ∈ xs.splitOn c ↔
      xs = [] ∨ xs.head? = some c ∨ xs.getLast? = some c ∨ [c, c] <:+: xs := by
  rw [nil_mem_iff, head_splitOn_eq_nil_iff, nil_mem_tail_splitOn_iff, or_assoc]

/-! ### Separators of several entries -/

/-- The fields between the separators, where the first entries belong to a separator. -/
def cutAfter (sep : List α) : ℕ → List α → List (List α)
  | _, [] => [[]]
  | skip + 1, _ :: xs => cutAfter sep skip xs
  | 0, x :: xs =>
      if sep.isPrefixOf (x :: xs) then [] :: cutAfter sep (sep.length - 1) xs
      else (cutAfter sep 0 xs).modifyHead (x :: ·)

/-- The fields between the separators. -/
def cut (sep xs : List α) : List (List α) := cutAfter sep 0 xs

theorem cutAfter_append (sep : List α) (front xs : List α) :
    cutAfter sep front.length (front ++ xs) = cut sep xs := by
  induction front with
  | nil => rfl
  | cons x front ih => exact ih

variable {c : α} {sep : List α}

/-- What cannot begin a separator goes to the first field. -/
theorem cut_append_of_not_mem {field : List α} (h : c ∉ field) (xs : List α) :
    cut (c :: sep) (field ++ xs) = (cut (c :: sep) xs).modifyHead (field ++ ·) := by
  induction field with
  | nil => cases hxs : cut (c :: sep) xs <;> simp [hxs]
  | cons x field ih =>
      obtain ⟨hx, hfield⟩ := List.ne_and_not_mem_of_not_mem_cons h
      have hno : (c :: sep).isPrefixOf (x :: (field ++ xs)) = false := by
        simp [List.isPrefixOf, hx]
      rw [List.cons_append, cut, cutAfter, hno]
      simp only [Bool.false_eq_true, if_false]
      rw [show cutAfter (c :: sep) 0 (field ++ xs) = cut (c :: sep) (field ++ xs) from rfl,
        ih hfield]
      cases cut (c :: sep) xs <;> rfl

theorem cut_of_not_mem {field : List α} (h : c ∉ field) : cut (c :: sep) field = [field] := by
  rw [← List.append_nil field, cut_append_of_not_mem h]
  simp [cut, cutAfter]

/-- A separator ends the first field. -/
theorem cut_append_sep (xs : List α) :
    cut (c :: sep) (c :: sep ++ xs) = [] :: cut (c :: sep) xs := by
  have hsep : (c :: sep).isPrefixOf (c :: (sep ++ xs)) = true := by
    rw [List.isPrefixOf_iff_prefix]
    exact List.prefix_append (c :: sep) xs
  rw [List.cons_append, cut, cutAfter, if_pos hsep]
  exact congrArg ([] :: ·) (cutAfter_append (c :: sep) sep xs)

/-- Fields that are joined are cut apart again, if none holds the beginning of a separator. -/
theorem cut_intercalate {fields : List (List α)} (hne : fields ≠ [])
    (h : ∀ field ∈ fields, c ∉ field) :
    cut (c :: sep) ((c :: sep).intercalate fields) = fields := by
  induction fields with
  | nil => exact absurd rfl hne
  | cons field fields ih =>
      obtain ⟨hfield, hfields⟩ := List.forall_mem_cons.mp h
      cases fields with
      | nil =>
          rw [List.intercalate_singleton]
          exact cut_of_not_mem hfield
      | cons next fields =>
          rw [List.intercalate_cons_cons, List.append_assoc, cut_append_of_not_mem hfield,
            cut_append_sep, ih (List.cons_ne_nil _ _) hfields]
          simp

omit [DecidableEq α] in
/-- A key and the mark after it begin an entry whose name is the key, where neither holds the
mark. -/
theorem append_mark_prefix_iff {mark : α} {key name value : List α} (hkey : mark ∉ key)
    (hname : mark ∉ name) : key ++ [mark] <+: name ++ mark :: value ↔ key = name := by
  induction key generalizing name with
  | nil =>
      cases name with
      | nil => simp
      | cons x name => simp [(List.ne_and_not_mem_of_not_mem_cons hname).1]
  | cons k key ih =>
      cases name with
      | nil => simp [Ne.symm (List.ne_and_not_mem_of_not_mem_cons hkey).1]
      | cons x name =>
          have hrest := ih (List.ne_and_not_mem_of_not_mem_cons hkey).2
            (List.ne_and_not_mem_of_not_mem_cons hname).2
          rw [List.cons_append, List.cons_append, List.cons_prefix_cons, hrest, List.cons.injEq]

end Separated
