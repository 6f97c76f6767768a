import Mathlib.Data.List.Nodup

/-!
# Table — keyed tables

A table is a list of rows no two of which have the same key: a primary key, carried as a field.
Inserting demands a fresh key, changing a row demands that the key stay, so a table with a
duplicate key cannot be built.

`Table.Unique` is a further unique index, on a column that may be null: rows with a value in the
column are told apart by it.
-/

/-- Rows of `ρ`, no two of them with the same `key`. -/
structure Table {ρ κ : Type} (key : ρ → κ) where
  rows : List ρ
  nodup : (rows.map key).Nodup

namespace Table
variable {ρ κ β : Type} {key : ρ → κ}

@[ext] theorem ext {t u : Table key} (h : t.rows = u.rows) : t = u := by
  cases t; cases u; cases h; rfl

theorem eq_of_key_eq {t : Table key} {r s : ρ} (hr : r ∈ t.rows) (hs : s ∈ t.rows)
    (h : key r = key s) : r = s :=
  List.inj_on_of_nodup_map t.nodup hr hs h

/-- The table with no row. -/
def empty : Table key := ⟨[], List.nodup_nil⟩

/-- The first row with `b` in the column `col`. -/
def findBy? [DecidableEq β] (t : Table key) (col : ρ → Option β) (b : β) : Option ρ :=
  t.rows.find? fun r => col r = some b

/-- `col` is a unique index: a value in it names one row. -/
def Unique (t : Table key) (col : ρ → Option β) : Prop :=
  ∀ r ∈ t.rows, ∀ s ∈ t.rows, ∀ b, col r = some b → col s = some b → r = s

section Index
variable [DecidableEq β]

theorem findBy?_eq_some {t : Table key} {col : ρ → Option β} {b : β} {r : ρ}
    (h : t.findBy? col b = some r) : r ∈ t.rows ∧ col r = some b :=
  ⟨List.mem_of_find?_eq_some h, by simpa using List.find?_some h⟩

theorem findBy?_eq_none_iff {t : Table key} {col : ρ → Option β} {b : β} :
    t.findBy? col b = none ↔ ∀ r ∈ t.rows, col r ≠ some b := by
  simp [findBy?, List.find?_eq_none]

theorem findBy?_eq_some_iff {t : Table key} {col : ρ → Option β} (hu : t.Unique col) {b : β}
    {r : ρ} : t.findBy? col b = some r ↔ r ∈ t.rows ∧ col r = some b := by
  refine ⟨findBy?_eq_some, fun ⟨hr, hb⟩ => ?_⟩
  cases hf : t.findBy? col b with
  | none => exact absurd hb (findBy?_eq_none_iff.mp hf r hr)
  | some s =>
      obtain ⟨hs, hsb⟩ := findBy?_eq_some hf
      rw [hu s hs r hr b hsb hb]

end Index

variable [DecidableEq κ]

/-- The row with key `k`. -/
def find? (t : Table key) (k : κ) : Option ρ := t.rows.find? fun r => key r = k

/-- A new row at the end, unless its key is taken. -/
def insert? (t : Table key) (r : ρ) : Option (Table key) :=
  if h : key r ∈ t.rows.map key then none
  else some ⟨t.rows ++ [r], by
    rw [List.map_append, List.map_singleton]
    exact List.nodup_append.mpr ⟨t.nodup, List.nodup_singleton _, fun a ha b hb e =>
      h (List.mem_singleton.mp hb ▸ e ▸ ha)⟩⟩

/-- The row with key `k`, if there is one, becomes `f` of it; `f` keeps the key. -/
def modify (t : Table key) (k : κ) (f : ρ → ρ) (hf : ∀ r, key (f r) = key r) : Table key where
  rows := t.rows.map fun r => if key r = k then f r else r
  nodup := by
    have h : (key ∘ fun r => if key r = k then f r else r) = key := by
      funext r
      by_cases e : key r = k
      · simp [e, hf]
      · simp [e]
    rw [List.map_map, h]
    exact t.nodup

/-- The row with the key of `r` becomes `f` of it, or `r` is added when there is none. -/
def upsert (t : Table key) (r : ρ) (f : ρ → ρ) (hf : ∀ r, key (f r) = key r) : Table key :=
  (t.insert? r).getD (t.modify (key r) f hf)

/-- The table without the row with key `k`. -/
def delete (t : Table key) (k : κ) : Table key where
  rows := t.rows.filter fun r => key r ≠ k
  nodup := t.nodup.sublist (List.filter_sublist.map key)

theorem find?_eq_some_iff {t : Table key} {k : κ} {r : ρ} :
    t.find? k = some r ↔ r ∈ t.rows ∧ key r = k := by
  constructor
  · intro h
    exact ⟨List.mem_of_find?_eq_some h, by simpa using List.find?_some h⟩
  · rintro ⟨hr, rfl⟩
    cases hf : t.find? (key r) with
    | none => exact absurd (List.find?_eq_none.mp hf r hr) (by simp)
    | some s =>
        have hs : key s = key r := by simpa using List.find?_some hf
        rw [eq_of_key_eq (List.mem_of_find?_eq_some hf) hr hs]

theorem find?_eq_none_iff {t : Table key} {k : κ} :
    t.find? k = none ↔ ∀ r ∈ t.rows, key r ≠ k := by
  simp [find?, List.find?_eq_none]

theorem key_of_find? {t : Table key} {k : κ} {r : ρ} (h : t.find? k = some r) : key r = k :=
  (find?_eq_some_iff.mp h).2

theorem mem_of_find? {t : Table key} {k : κ} {r : ρ} (h : t.find? k = some r) : r ∈ t.rows :=
  (find?_eq_some_iff.mp h).1

theorem find?_of_mem {t : Table key} {r : ρ} (h : r ∈ t.rows) : t.find? (key r) = some r :=
  find?_eq_some_iff.mpr ⟨h, rfl⟩

/-! ### What each operation does to a lookup -/

@[simp] theorem find?_empty (k : κ) : (empty : Table key).find? k = none := rfl

theorem find?_insert? {t u : Table key} {r : ρ} (h : t.insert? r = some u) (k : κ) :
    u.find? k = if key r = k then some r else t.find? k := by
  rw [insert?] at h
  split at h
  · cases h
  · next hr =>
      cases h
      simp only [find?, List.find?_append]
      by_cases e : key r = k
      · subst e
        rw [if_pos rfl, List.find?_eq_none.mpr fun s hs => by
          simpa using fun e => hr (List.mem_map.mpr ⟨s, hs, e⟩)]
        simp
      · simp [e]

theorem insert?_eq_none_iff {t : Table key} {r : ρ} :
    t.insert? r = none ↔ ∃ s, t.find? (key r) = some s := by
  rw [insert?]
  split
  · next h =>
      obtain ⟨s, hs, e⟩ := List.mem_map.mp h
      exact iff_of_true rfl ⟨s, find?_eq_some_iff.mpr ⟨hs, e⟩⟩
  · next h =>
      refine iff_of_false (by simp) ?_
      rintro ⟨s, hs⟩
      exact h (List.mem_map.mpr ⟨s, mem_of_find? hs, key_of_find? hs⟩)

theorem rows_insert? {t u : Table key} {r : ρ} (h : t.insert? r = some u) :
    u.rows = t.rows ++ [r] := by
  rw [insert?] at h
  split at h
  · cases h
  · cases h; rfl

theorem find?_modify (t : Table key) (k : κ) (f : ρ → ρ) (hf : ∀ r, key (f r) = key r) (j : κ) :
    (t.modify k f hf).find? j = if k = j then (t.find? j).map f else t.find? j := by
  have hc : ((fun r => decide (key r = j)) ∘ fun r => if key r = k then f r else r) =
      fun r => decide (key r = j) := by
    funext r
    by_cases e : key r = k
    · simp [e, hf]
    · simp [e]
  simp only [find?, modify, List.find?_map, hc]
  cases hr : t.rows.find? fun r => decide (key r = j) with
  | none => simp
  | some r =>
      have e : key r = j := by simpa using List.find?_some hr
      by_cases hk : k = j
      · simp [hk, e]
      · simp [hk, e, Ne.symm hk]

theorem find?_modify_self (t : Table key) (k : κ) (f : ρ → ρ) (hf : ∀ r, key (f r) = key r) :
    (t.modify k f hf).find? k = (t.find? k).map f := by
  rw [find?_modify, if_pos rfl]

theorem find?_modify_ne (t : Table key) {k j : κ} (f : ρ → ρ) (hf : ∀ r, key (f r) = key r)
    (h : k ≠ j) : (t.modify k f hf).find? j = t.find? j := by
  rw [find?_modify, if_neg h]

/-- Changing a row that is not there changes nothing. -/
theorem modify_eq_self {t : Table key} {k : κ} (f : ρ → ρ) (hf : ∀ r, key (f r) = key r)
    (h : t.find? k = none) : t.modify k f hf = t := by
  refine ext ((List.map_congr_left fun r hr => ?_).trans (List.map_id t.rows))
  exact if_neg (find?_eq_none_iff.mp h r hr)

theorem countP_map_key {k : κ} {f : ρ → ρ} (p : ρ → Bool) {rows : List ρ}
    (hnodup : (rows.map key).Nodup) :
    (rows.map fun r => if key r = k then f r else r).countP p +
        (if (rows.find? fun r => key r = k).any p then 1 else 0) =
      rows.countP p + if (rows.find? fun r => key r = k).any (p ∘ f) then 1 else 0 := by
  induction rows with
  | nil => rfl
  | cons r rows ih =>
      rw [List.map_cons] at hnodup
      obtain ⟨hfresh, hrest⟩ := List.nodup_cons.mp hnodup
      simp only [List.map_cons, List.countP_cons, List.find?_cons]
      by_cases hr : key r = k
      · -- the other rows have other keys
        have hsame : rows.map (fun s => if key s = k then f s else s) = rows := by
          refine (List.map_congr_left fun s hs => if_neg fun e => hfresh ?_).trans (List.map_id _)
          exact List.mem_map.mpr ⟨s, hs, e.trans hr.symm⟩
        simp only [hsame, hr, if_true, decide_true, Option.any_some, Function.comp_apply]
        omega
      · have hih := ih hrest
        simp only [hr, if_false, decide_false]
        omega

/-- Rows of a kind, counted again after one of them has changed. -/
theorem countP_modify (t : Table key) (k : κ) (f : ρ → ρ) (hf : ∀ r, key (f r) = key r)
    (p : ρ → Bool) :
    (t.modify k f hf).rows.countP p + (if (t.find? k).any p then 1 else 0) =
      t.rows.countP p + if (t.find? k).any (p ∘ f) then 1 else 0 :=
  countP_map_key p t.nodup

theorem find?_upsert (t : Table key) (r : ρ) (f : ρ → ρ) (hf : ∀ r, key (f r) = key r) (j : κ) :
    (t.upsert r f hf).find? j =
      if key r = j then some ((t.find? j).elim r f) else t.find? j := by
  rw [upsert]
  cases h : t.insert? r with
  | none =>
      obtain ⟨s, hs⟩ := insert?_eq_none_iff.mp h
      rw [Option.getD_none, find?_modify]
      split
      · next e => rw [← e, hs]; rfl
      · rfl
  | some u =>
      have hnone : t.find? (key r) = none := by
        by_contra hne
        obtain ⟨s, hs⟩ := Option.ne_none_iff_exists'.mp hne
        rw [insert?_eq_none_iff.mpr ⟨s, hs⟩] at h
        cases h
      rw [Option.getD_some, find?_insert? h]
      split
      · next e => rw [← e, hnone]; rfl
      · rfl

theorem find?_delete (t : Table key) (k j : κ) :
    (t.delete k).find? j = if k = j then none else t.find? j := by
  by_cases e : k = j
  · subst e
    rw [if_pos rfl, find?_eq_none_iff]
    intro r hr
    simpa using (List.mem_filter.mp hr).2
  · rw [if_neg e]
    simp only [find?, delete, List.find?_filter]
    congr 1
    funext r
    by_cases hr : key r = j
    · simp [hr, Ne.symm e]
    · simp [hr]

theorem mem_delete {t : Table key} {k : κ} {r : ρ} :
    r ∈ (t.delete k).rows ↔ r ∈ t.rows ∧ key r ≠ k := by
  simp [delete]

/-- Deleting a row that is not there changes nothing. -/
theorem delete_eq_self {t : Table key} {k : κ} (h : t.find? k = none) : t.delete k = t :=
  ext (List.filter_eq_self.mpr fun r hr => by simpa using find?_eq_none_iff.mp h r hr)

/-- Looking a row up in a column that a change leaves alone. -/
theorem findBy?_modify [DecidableEq β] (t : Table key) {col : ρ → Option β} (k : κ) (f : ρ → ρ)
    (hf : ∀ r, key (f r) = key r) (hc : ∀ r, col (f r) = col r) (b : β) :
    (t.modify k f hf).findBy? col b =
      (t.findBy? col b).map fun r => if key r = k then f r else r := by
  have hcol : ((fun r => decide (col r = some b)) ∘ fun r => if key r = k then f r else r) =
      fun r => decide (col r = some b) := by
    funext r
    by_cases e : key r = k
    · simp [e, hc]
    · simp [e]
  simp only [findBy?, modify, List.find?_map, hcol]

/-! ### Keeping a unique index -/

theorem mem_modify {t : Table key} {k : κ} {f : ρ → ρ} {hf : ∀ r, key (f r) = key r} {s : ρ}
    (h : s ∈ (t.modify k f hf).rows) :
    ∃ r ∈ t.rows, (key r = k ∧ s = f r) ∨ (key r ≠ k ∧ s = r) := by
  obtain ⟨r, hr, rfl⟩ := List.mem_map.mp h
  by_cases e : key r = k
  · exact ⟨r, hr, .inl ⟨e, if_pos e⟩⟩
  · exact ⟨r, hr, .inr ⟨e, if_neg e⟩⟩

/-- Changing a row keeps an index whose column the change leaves alone. -/
theorem Unique.modify {t : Table key} {col : ρ → Option β} (hu : t.Unique col) (k : κ)
    (f : ρ → ρ) (hf : ∀ r, key (f r) = key r) (hc : ∀ r, col (f r) = col r) :
    (t.modify k f hf).Unique col := by
  intro r hr s hs b hrb hsb
  obtain ⟨r', hr', er⟩ := mem_modify hr
  obtain ⟨s', hs', es⟩ := mem_modify hs
  have hrb' : col r' = some b := by
    rcases er with ⟨-, rfl⟩ | ⟨-, rfl⟩
    · rw [← hc]; exact hrb
    · exact hrb
  have hsb' : col s' = some b := by
    rcases es with ⟨-, rfl⟩ | ⟨-, rfl⟩
    · rw [← hc]; exact hsb
    · exact hsb
  obtain rfl := hu r' hr' s' hs' b hrb' hsb'
  rcases er with ⟨e, rfl⟩ | ⟨e, rfl⟩ <;> rcases es with ⟨e', rfl⟩ | ⟨e', rfl⟩
  · rfl
  · exact absurd e e'
  · exact absurd e' e
  · rfl

/-- Inserting a row keeps an index in which the row has a fresh value, or none. -/
theorem Unique.insert {t u : Table key} {col : ρ → Option β} (hu : t.Unique col) {r : ρ}
    (h : t.insert? r = some u) (hr : ∀ b, col r = some b → ∀ s ∈ t.rows, col s ≠ some b) :
    u.Unique col := by
  intro x hx y hy b hxb hyb
  rw [rows_insert? h, List.mem_append, List.mem_singleton] at hx hy
  rcases hx with hx | rfl <;> rcases hy with hy | rfl
  · exact hu x hx y hy b hxb hyb
  · exact absurd hxb (hr b hyb x hx)
  · exact absurd hyb (hr b hxb y hy)
  · rfl

end Table
