import AuthApp.Contracts.Registry

/-!
# Contracts — runs that are interrupted

A run of the migrations may fail anywhere.  What has been applied is always a start of the plan,
and the next run goes on where it ends.

* `migrations_resume`: what any number of runs leave behind, and what the next one reports.
* `flaky_resumes`: a run that fails halfway, and one that does the rest.
-/

namespace AuthApp.Contracts
open Journal ModuleRegistry

variable {ε : Type}

/-- The states that any number of runs lead to, whatever fails in them. -/
inductive Reached (E : MigrationExecutor ε) (registry : ModuleRegistry) (s₀ : ε) : ε → Prop where
  | start : Reached E registry s₀ s₀
  | run {s : ε} (h : Reached E registry s₀ s) :
      Reached E registry s₀ (registry.runMigrations E s).2

/-- A start of the plan is applied, and the next run goes on from there. -/
structure Resumes {E : MigrationExecutor ε} (L : E.port.Ledger) (registry : ModuleRegistry)
    (s : ε) : Prop where
  start : L.entries s <+: registry.plan
  once : (keys (L.entries s)).Nodup
  /-- A run that fails names the first migration that is not applied. -/
  fails : ∀ e s', registry.runMigrations E s = (.error e, s') → ∃ next rest source,
    registry.plan = L.entries s' ++ next :: rest ∧ e = .apply next.1 source
  /-- A run that succeeds skips what was applied, applies the rest, and leaves nothing to do. -/
  succeeds : ∀ report s', registry.runMigrations E s = (.ok report, s') →
    report.skipped = keys (L.entries s) ∧
      report.applied = keys (registry.plan.drop (L.entries s).length) ∧
      L.entries s' = registry.plan ∧
      registry.runMigrations E s' = (.ok ⟨[], keys registry.plan⟩, s')

section
variable {E : MigrationExecutor ε} (L : E.port.Ledger) {registry : ModuleRegistry} {s : ε}
include L

/-- A run from a start of the plan gets to the end of it, or to the migration that fails. -/
theorem runMigrations_cases (hnames : (registry.modules.map Module.name).Nodup)
    (hids : (keys registry.plan).Nodup) {rest : List (String × String)}
    (hplan : registry.plan = L.entries s ++ rest) :
    (∃ s', registry.runMigrations E s = (.ok ⟨keys rest, keys (L.entries s)⟩, s') ∧
        L.entries s' = registry.plan) ∨
      ∃ done next later source s', rest = done ++ next :: later ∧
        registry.runMigrations E s = (.error (.apply next.1 source), s') ∧
          L.entries s' = L.entries s ++ done := by
  rw [runMigrations_eq (ensureUniqueNames_ok_iff.mpr hnames), hplan]
  rw [hplan] at hids
  rcases L.run_resume _ ⟨[], []⟩ hids with
    ⟨s', hrun, hs'⟩ | ⟨done, next, later, e, s', hr, hrun, hs'⟩
  · exact .inl ⟨s', by rw [hrun]; rfl, hs'⟩
  · exact .inr ⟨done, next, later, e, s', hr, by rw [hrun]; rfl, hs'⟩

theorem resumes_of_start (hnames : (registry.modules.map Module.name).Nodup)
    (hids : (keys registry.plan).Nodup) (hs : L.entries s <+: registry.plan) :
    Resumes L registry s := by
  obtain ⟨rest, hplan⟩ := hs
  have hcases := runMigrations_cases L hnames hids hplan.symm
  refine ⟨⟨rest, hplan⟩, ?_, fun e s' hrun => ?_, fun report s' hrun => ?_⟩
  · rw [← hplan, keys, List.map_append] at hids
    exact hids.of_append_left
  · rcases hcases with ⟨s₁, hok, -⟩ | ⟨done, next, later, source, s₁, hr, herr, hs₁⟩
    · rw [hok] at hrun
      cases hrun
    · rw [herr] at hrun
      cases hrun
      exact ⟨next, later, source, by rw [← hplan, hr, hs₁, List.append_assoc], rfl⟩
  · rcases hcases with ⟨s₁, hok, hs₁⟩ | ⟨done, next, later, source, s₁, hr, herr, hs₁⟩
    · rw [hok] at hrun
      cases hrun
      refine ⟨rfl, by rw [← hplan, List.drop_left], hs₁, ?_⟩
      -- nothing is left to do: the next run skips the whole plan, and tries nothing
      have hskip := L.run_of_recorded registry.plan [] ⟨[], []⟩ fun key hk => hs₁ ▸ hk
      rw [List.append_nil] at hskip
      rw [runMigrations_eq (ensureUniqueNames_ok_iff.mpr hnames), hskip]
      rfl
    · rw [herr] at hrun
      cases hrun

/-- What is applied stays a start of the plan. -/
theorem start_of_reached (hnames : (registry.modules.map Module.name).Nodup)
    (hids : (keys registry.plan).Nodup) {s₀ : ε} (hempty : L.entries s₀ = [])
    (h : Reached E registry s₀ s) : L.entries s <+: registry.plan := by
  induction h with
  | start => rw [hempty]; exact List.nil_prefix
  | run _ ih =>
      obtain ⟨rest, hplan⟩ := ih
      rcases runMigrations_cases L hnames hids hplan.symm with
        ⟨s', hok, hs'⟩ | ⟨done, next, later, source, s', hr, herr, hs'⟩
      · rw [hok]
        exact hs'.symm ▸ List.prefix_rfl
      · rw [herr, hs', ← hplan, hr, ← List.append_assoc]
        exact List.prefix_append _ _

/-- **Interrupted migrations.** Runs that may fail anywhere leave a start of the plan applied, with
no id twice, and each goes on where the last one ended; of a registry in which two modules have one
name, nothing is ever applied. -/
theorem migrations_resume (registry : ModuleRegistry) :
    ((registry.modules.map Module.name).Nodup → (keys registry.plan).Nodup → ∀ s₀ s,
      L.entries s₀ = [] → Reached E registry s₀ s → Resumes L registry s) ∧
      (¬ (registry.modules.map Module.name).Nodup → ∀ s,
        ∃ name, registry.runMigrations E s = (.error (.duplicateModule name), s)) := by
  refine ⟨fun hnames hids s₀ s hempty h => ?_, fun hnames s => ?_⟩
  · exact resumes_of_start L hnames hids (start_of_reached L hnames hids hempty h)
  · cases hunique : registry.ensureUniqueNames with
    | ok u => exact absurd (ensureUniqueNames_ok_iff.mp hunique) hnames
    | error e =>
        obtain ⟨name, rfl⟩ := ensureUnique_error hunique
        exact ⟨name, by rw [runMigrations, hunique]⟩

end

/-! ### A run that fails halfway -/

/-- An executor that keeps what it applied, and fails when its next outcome says so. -/
def flakyExecutor : MigrationExecutor (List (String × String) × List Bool) where
  isApplied s id := s.1.any fun entry => entry.1 == id
  apply id sql s :=
    match s.2 with
    | false :: outcomes => (.error "connection reset", s.1, outcomes)
    | outcomes => (.ok (), s.1 ++ [(id, sql)], outcomes.drop 1)

def flakyLedger : flakyExecutor.port.Ledger where
  entries := Prod.fst
  recorded_iff s key := by simp [flakyExecutor, MigrationExecutor.port]
  attempt_ok key item s _ h := by
    obtain ⟨entries, outcomes⟩ := s
    simp only [port_attempt, flakyExecutor] at h ⊢
    split at h
    · cases h
    · rfl
  attempt_error key item s e _ h := by
    obtain ⟨entries, outcomes⟩ := s
    simp only [port_attempt, flakyExecutor] at h ⊢
    split at h
    · rfl
    · cases h

def twoModules : ModuleRegistry :=
  ⟨[⟨"alpha", [⟨"0001_init", "SQL_ONE"⟩, ⟨"0002_more", "SQL_TWO"⟩]⟩,
    ⟨"beta", [⟨"0001_init", "SQL_THREE"⟩]⟩]⟩

def sameNames : ModuleRegistry :=
  ⟨[⟨"dup", [⟨"0001_init", "SQL_ONE"⟩]⟩, ⟨"dup", [⟨"0001_init", "SQL_TWO"⟩]⟩]⟩

/-- The second migration fails at first, and the next run applies it and the rest; of two modules
with one name, nothing is applied. -/
theorem flaky_resumes :
    Reached flakyExecutor twoModules ([], [true, false])
        (twoModules.runMigrations flakyExecutor ([], [true, false])).2 ∧
      Resumes flakyLedger twoModules
        (twoModules.runMigrations flakyExecutor ([], [true, false])).2 ∧
      ∃ name, sameNames.runMigrations flakyExecutor ([], []) =
        (.error (.duplicateModule name), ([], [])) :=
  have hreached : Reached flakyExecutor twoModules ([], [true, false]) _ := .run .start
  ⟨hreached,
    (migrations_resume flakyLedger twoModules).1 (by decide) (by decide) ([], [true, false]) _ rfl
      hreached,
    (migrations_resume flakyLedger sameNames).2 (by decide) ([], [])⟩

end AuthApp.Contracts
