import AuthApp.Journal.Basic
import Mathlib.Data.List.Basic

/-!
# Contracts — the module registry

Feature modules bring migrations, and the registry runs them, module after module, through an
executor that knows which it has applied.  A migration's id is its own name behind its module's.

* `runMigrations_eq`: the two loops are one pass over the plan.
* `ensureUniqueNames_ok_iff`: the registries that are run at all.
* `namespaced_eq_iff`: when two migrations have one id.
-/

namespace AuthApp.Contracts
open Journal

/-! ### Migrations and their executor -/

structure Migration where
  name : String
  sql : String
  deriving DecidableEq, Repr

/-- A feature module, as far as its migrations go. -/
structure Module where
  name : String
  migrations : List Migration
  deriving DecidableEq, Repr

/-- The `MigrationExecutor` port, with states in `ε`. -/
structure MigrationExecutor (ε : Type) where
  isApplied : ε → String → Bool
  apply : String → String → ε → Except String Unit × ε

/-- An executor, as the journal of what it has applied. -/
def MigrationExecutor.port {ε : Type} (E : MigrationExecutor ε) : Port String String ε String :=
  ⟨E.isApplied, E.apply⟩

@[simp] theorem port_recorded {ε : Type} (E : MigrationExecutor ε) :
    E.port.recorded = E.isApplied := rfl

@[simp] theorem port_attempt {ε : Type} (E : MigrationExecutor ε) : E.port.attempt = E.apply := rfl

abbrev MigrationReport := Report String

inductive MigrationError where
  | duplicateModule (name : String)
  | apply (id source : String)
  deriving DecidableEq, Repr

/-! ### The registry -/

/-- `format!("{}::{}", module.name(), migration.name)`. -/
def namespaced (module name : String) : String := module ++ "::" ++ name

structure ModuleRegistry where
  modules : List Module
  deriving DecidableEq, Repr

namespace ModuleRegistry
variable {ε : Type}

/-- No name is met twice. -/
def ensureUnique : List String → List Module → Except MigrationError Unit
  | _, [] => .ok ()
  | seen, module :: modules =>
      if module.name ∈ seen then .error (.duplicateModule module.name)
      else ensureUnique (module.name :: seen) modules

def ensureUniqueNames (registry : ModuleRegistry) : Except MigrationError Unit :=
  ensureUnique [] registry.modules

/-- The inner loop: the migrations of one module. -/
def runModule (E : MigrationExecutor ε) (module : String) :
    List Migration → MigrationReport → ε → Except MigrationError MigrationReport × ε
  | [], report, s => (.ok report, s)
  | migration :: migrations, report, s =>
      let id := namespaced module migration.name
      if E.isApplied s id then
        runModule E module migrations { report with skipped := report.skipped ++ [id] } s
      else
        match E.apply id migration.sql s with
        | (.error source, s) => (.error (.apply id source), s)
        | (.ok (), s) =>
            runModule E module migrations { report with applied := report.applied ++ [id] } s

/-- The outer loop. -/
def runModules (E : MigrationExecutor ε) :
    List Module → MigrationReport → ε → Except MigrationError MigrationReport × ε
  | [], report, s => (.ok report, s)
  | module :: modules, report, s =>
      match runModule E module.name module.migrations report s with
      | (.error e, s) => (.error e, s)
      | (.ok report, s) => runModules E modules report s

/-- Apply what is pending, unless two modules have one name. -/
def runMigrations (E : MigrationExecutor ε) (registry : ModuleRegistry) (s : ε) :
    Except MigrationError MigrationReport × ε :=
  match registry.ensureUniqueNames with
  | .error e => (.error e, s)
  | .ok () => runModules E registry.modules ⟨[], []⟩ s

/-! ### One pass over the plan -/

/-- The migrations of one module, by id. -/
def modulePlan (module : String) (migrations : List Migration) : List (String × String) :=
  migrations.map fun m => (namespaced module m.name, m.sql)

/-- Every migration with its id: modules in registration order, migrations as declared. -/
def plan (registry : ModuleRegistry) : List (String × String) :=
  registry.modules.flatMap fun m => modulePlan m.name m.migrations

/-- A pass that stopped, as the error that says so. -/
def applyError : Except (String × String) MigrationReport × ε →
    Except MigrationError MigrationReport × ε
  | (.error (id, source), s) => (.error (.apply id source), s)
  | (.ok report, s) => (.ok report, s)

theorem runModule_append (E : MigrationExecutor ε) (module : String) (migrations : List Migration)
    (rest : List (String × String)) (report : MigrationReport) (s : ε) :
    applyError (E.port.run (modulePlan module migrations ++ rest) report s) =
      match runModule E module migrations report s with
      | (.error e, s) => (.error e, s)
      | (.ok report, s) => applyError (E.port.run rest report s) := by
  induction migrations generalizing report s with
  | nil => rfl
  | cons migration migrations ih =>
      rw [runModule, modulePlan, List.map_cons, List.cons_append, Port.run, port_recorded,
        port_attempt]
      by_cases h : E.isApplied s (namespaced module migration.name)
      · rw [if_pos h, if_pos h]
        exact ih _ s
      rw [if_neg h, if_neg h]
      generalize E.apply (namespaced module migration.name) migration.sql s = r
      obtain ⟨source | ⟨⟩, s⟩ := r
      · rfl
      · exact ih _ s

theorem runModules_eq (E : MigrationExecutor ε) (modules : List Module) (report : MigrationReport)
    (s : ε) : runModules E modules report s =
      applyError (E.port.run (plan ⟨modules⟩) report s) := by
  induction modules generalizing report s with
  | nil => rfl
  | cons module modules ih =>
      rw [runModules, plan, List.flatMap_cons, runModule_append]
      generalize runModule E module.name module.migrations report s = r
      obtain ⟨e | report, s⟩ := r
      · rfl
      · exact ih report s

/-- A registry that is accepted is one pass over its plan. -/
theorem runMigrations_eq {registry : ModuleRegistry} (h : registry.ensureUniqueNames = .ok ())
    (E : MigrationExecutor ε) (s : ε) :
    registry.runMigrations E s = applyError (E.port.run registry.plan ⟨[], []⟩ s) := by
  rw [runMigrations, h]
  exact runModules_eq E registry.modules ⟨[], []⟩ s

/-! ### Names -/

theorem ensureUnique_ok_iff {seen : List String} {modules : List Module} :
    ensureUnique seen modules = .ok () ↔
      (modules.map Module.name).Nodup ∧ ∀ m ∈ modules, m.name ∉ seen := by
  induction modules generalizing seen with
  | nil => simp [ensureUnique]
  | cons module modules ih =>
      rw [ensureUnique, List.map_cons, List.nodup_cons, List.forall_mem_cons]
      by_cases h : module.name ∈ seen
      · simp [h]
      · rw [if_neg h, ih]
        simp only [List.mem_cons, List.mem_map]
        grind

theorem ensureUnique_error {seen : List String} {modules : List Module} {e : MigrationError}
    (h : ensureUnique seen modules = .error e) : ∃ name, e = .duplicateModule name := by
  induction modules generalizing seen with
  | nil => cases h
  | cons module modules ih =>
      rw [ensureUnique] at h
      split at h
      · cases h; exact ⟨_, rfl⟩
      · exact ih h

/-- The registries that are run: no two modules have one name. -/
theorem ensureUniqueNames_ok_iff {registry : ModuleRegistry} :
    registry.ensureUniqueNames = .ok () ↔ (registry.modules.map Module.name).Nodup := by
  rw [ensureUniqueNames, ensureUnique_ok_iff]
  simp

end ModuleRegistry

/-- Two migrations have one id exactly when the longer module name takes in a piece of the other
migration's side of the id. -/
theorem namespaced_eq_iff {m n m' n' : String} : namespaced m n = namespaced m' n' ↔
    (∃ w, m' = m ++ w ∧ "::" ++ n = w ++ ("::" ++ n')) ∨
      ∃ w, m = m' ++ w ∧ "::" ++ n' = w ++ ("::" ++ n) := by
  have hlist : ∀ {a b : String}, a = b ↔ a.toList = b.toList := String.toList_inj.symm
  simp only [namespaced, hlist, String.toList_append, List.append_assoc]
  rw [List.append_eq_append_iff]
  constructor
  · rintro (⟨w, h, h'⟩ | ⟨w, h, h'⟩)
    · exact .inl ⟨.ofList w, by simpa using h, by simpa using h'⟩
    · exact .inr ⟨.ofList w, by simpa using h, by simpa using h'⟩
  · rintro (⟨w, h, h'⟩ | ⟨w, h, h'⟩)
    · exact .inl ⟨w.toList, h, h'⟩
    · exact .inr ⟨w.toList, h, h'⟩

end AuthApp.Contracts
