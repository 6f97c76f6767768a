import AuthApp.Contracts.Registry
import Mathlib.Data.List.Perm.Subperm
import Mathlib.Data.List.Pairwise

/-!
# Contracts — modules in isolation

Two modules may each bring a migration of one name, which their ids keep apart.  An id does not
say where the module's name ends, though, so that two modules can also bring one id.

* `isolated_of_plain`: module names without a colon are enough to keep them apart.
* `keys_plan_nodup_iff`: the ids of a plan are distinct exactly when no two modules share one.
* `isolated_iff`: exactly then is every migration applied once.
* `sharedId_not_applied`: two modules of one migration each, of which the second is skipped.
-/

namespace AuthApp.Contracts
open Journal ModuleRegistry

variable {ε : Type}

/-- No two modules have migrations with one id. -/
def ModuleRegistry.Isolated (registry : ModuleRegistry) : Prop :=
  ∀ m ∈ registry.modules, ∀ m' ∈ registry.modules, m.name ≠ m'.name →
    ∀ g ∈ m.migrations, ∀ g' ∈ m'.migrations, namespaced m.name g.name ≠ namespaced m'.name g'.name

/-- A name that another's id runs through has a colon where the other name ends. -/
theorem colon_mem {m n m' n' w : String} (hne : m ≠ m') (h : m' = m ++ w)
    (hid : "::" ++ n = w ++ ("::" ++ n')) : ':' ∈ m'.toList := by
  have hw : w.toList ≠ [] := by
    intro hnil
    obtain rfl : w = "" := String.toList_inj.mp hnil
    exact hne (by simpa using h.symm)
  obtain ⟨c, cs, hcons⟩ := List.exists_cons_of_ne_nil hw
  have hlist := congrArg String.toList hid
  simp only [String.toList_append, hcons, List.cons_append] at hlist
  obtain rfl : ':' = c := (List.cons.inj hlist).1
  rw [h, String.toList_append, hcons]
  exact List.mem_append_right _ List.mem_cons_self

/-- Modules whose names have no colon are isolated. -/
theorem isolated_of_plain {registry : ModuleRegistry}
    (h : ∀ m ∈ registry.modules, ':' ∉ m.name.toList) : registry.Isolated := by
  intro m hm m' hm' hne g _ g' _ heq
  rcases namespaced_eq_iff.mp heq with ⟨w, hw, hid⟩ | ⟨w, hw, hid⟩
  · exact h m' hm' (colon_mem hne hw hid)
  · exact h m hm (colon_mem hne.symm hw hid)

/-- Within a module, an id stands for a name. -/
theorem namespaced_injective (module : String) : Function.Injective (namespaced module) := by
  intro a b h
  have hlist := congrArg String.toList h
  simp only [namespaced, String.toList_append] at hlist
  exact String.toList_inj.mp (List.append_cancel_left hlist)

theorem keys_modulePlan (module : Module) : keys (modulePlan module.name module.migrations) =
    (module.migrations.map Migration.name).map (namespaced module.name) := by
  simp [keys, modulePlan]

theorem keys_plan (registry : ModuleRegistry) : keys registry.plan =
    registry.modules.flatMap fun m => keys (modulePlan m.name m.migrations) := by
  rw [keys, plan, List.map_flatMap]

/-- The ids of a plan are distinct exactly when no two modules share one. -/
theorem keys_plan_nodup_iff {registry : ModuleRegistry}
    (hnames : (registry.modules.map Module.name).Nodup)
    (hown : ∀ m ∈ registry.modules, (m.migrations.map Migration.name).Nodup) :
    (keys registry.plan).Nodup ↔ registry.Isolated := by
  have hinner : ∀ m ∈ registry.modules, (keys (modulePlan m.name m.migrations)).Nodup := by
    intro m hm
    rw [keys_modulePlan]
    exact (hown m hm).map (namespaced_injective m.name)
  have hdisjoint : ∀ m m' : Module,
      List.Disjoint (keys (modulePlan m.name m.migrations))
          (keys (modulePlan m'.name m'.migrations)) ↔
        ∀ g ∈ m.migrations, ∀ g' ∈ m'.migrations,
          namespaced m.name g.name ≠ namespaced m'.name g'.name := by
    intro m m'
    simp only [keys_modulePlan, List.map_map, List.disjoint_iff_ne, List.forall_mem_map,
      Function.comp_apply]
  have hpair : registry.modules.Pairwise fun m m' => m.name ≠ m'.name := List.pairwise_map.mp hnames
  rw [keys_plan, List.nodup_flatMap, and_iff_right hinner]
  constructor
  · intro h m hm m' hm' hne
    have : Std.Symm (Function.onFun List.Disjoint fun m : Module =>
        keys (modulePlan m.name m.migrations)) := ⟨fun _ _ hab => List.disjoint_symm hab⟩
    exact (hdisjoint m m').mp (h.forall hm hm' fun e => hne (congrArg Module.name e))
  · intro h
    refine hpair.imp_of_mem fun hm hm' hne => ?_
    exact (hdisjoint _ _).mpr (h _ hm _ hm' hne)

/-- **Isolation.** When no `apply` fails, every migration of an accepted registry is applied once,
with its own SQL, exactly when no two of its modules share an id. -/
theorem isolated_iff {E : MigrationExecutor ε} (L : E.port.Ledger) {registry : ModuleRegistry}
    {s₀ : ε} (hnames : (registry.modules.map Module.name).Nodup)
    (hown : ∀ m ∈ registry.modules, (m.migrations.map Migration.name).Nodup)
    (hempty : L.entries s₀ = []) (happly : ∀ id sql s, (E.apply id sql s).1 = .ok ()) :
    (L.entries (registry.runMigrations E s₀).2).Perm registry.plan ↔ registry.Isolated := by
  rw [← keys_plan_nodup_iff hnames hown,
    runMigrations_eq (ensureUniqueNames_ok_iff.mpr hnames)]
  have hstate : (applyError (E.port.run registry.plan ⟨[], []⟩ s₀)).2 =
      (E.port.run registry.plan ⟨[], []⟩ s₀).2 := by
    rcases E.port.run registry.plan ⟨[], []⟩ s₀ with ⟨⟨id, source⟩ | report, s⟩ <;> rfl
  rw [hstate]
  constructor
  · intro h
    have hnodup := L.run_nodup registry.plan ⟨[], []⟩ (s := s₀)
      (by rw [hempty]; exact List.nodup_nil)
    exact (h.map Prod.fst).nodup_iff.mp hnodup
  · intro hids
    have hresume := L.run_resume registry.plan ⟨[], []⟩ (s := s₀) (by rwa [hempty])
    rw [hempty, List.nil_append] at hresume
    rcases hresume with ⟨s', hrun, hs'⟩ | ⟨done, next, later, e, s', -, hrun, -⟩
    · rw [hrun]
      exact List.Perm.of_eq hs'
    · exact absurd hrun (Port.run_ne_error happly)

/-! ### Two modules with one id -/

/-- An executor that keeps what it applied, and never fails. -/
def sureExecutor : MigrationExecutor (List (String × String)) where
  isApplied s id := s.any fun entry => entry.1 == id
  apply id sql s := (.ok (), s ++ [(id, sql)])

def sureLedger : sureExecutor.port.Ledger where
  entries := id
  recorded_iff s key := by simp [sureExecutor]
  attempt_ok _ _ _ _ _ := rfl
  attempt_error _ _ _ _ _ h := by cases h

def ordinaryNames : ModuleRegistry :=
  ⟨[⟨"alpha", [⟨"0001_init", "SQL_ONE"⟩]⟩, ⟨"beta", [⟨"0001_init", "SQL_TWO"⟩]⟩]⟩

def sharedId : ModuleRegistry :=
  ⟨[⟨"auth", [⟨"oauth::0001_init", "SQL_ONE"⟩]⟩, ⟨"auth::oauth", [⟨"0001_init", "SQL_TWO"⟩]⟩]⟩

/-- The second module's only migration is skipped, and its SQL never runs. -/
theorem sharedId_not_applied :
    (sharedId.modules.map Module.name).Nodup ∧
      (∀ m ∈ sharedId.modules, (m.migrations.map Migration.name).Nodup) ∧
      sureLedger.entries [] = [] ∧ (∀ id sql s, (sureExecutor.apply id sql s).1 = .ok ()) ∧
      sharedId.runMigrations sureExecutor [] =
        (.ok ⟨["auth::oauth::0001_init"], ["auth::oauth::0001_init"]⟩,
          [("auth::oauth::0001_init", "SQL_ONE")]) ∧
      ¬ (sureLedger.entries (sharedId.runMigrations sureExecutor []).2).Perm sharedId.plan := by
  refine ⟨by decide, by decide, rfl, fun _ _ _ => rfl, by decide, fun h => ?_⟩
  exact absurd h.length_eq (by decide)

theorem ordinaryNames_isolated :
    (sureLedger.entries (ordinaryNames.runMigrations sureExecutor []).2).Perm ordinaryNames.plan ↔
      ordinaryNames.Isolated :=
  isolated_iff sureLedger (by decide) (by decide) rfl fun _ _ _ => rfl

end AuthApp.Contracts
