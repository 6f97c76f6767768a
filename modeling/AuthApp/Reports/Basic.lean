import Mathlib.Data.List.Basic

/-!
# Reports — calls that report about a key

A component takes calls one after the other.  A call leaves a new state, and may report about one
key.  `Port.last` is the last report about a key, with the state that it was given in.

* `exec_of_last`: the last report is the report of one of the calls.
* `view_of_last`, `view_of_silence`: what no call changes without a report about the key is as the
  last report left it.
-/

namespace Reports

/-- How the calls of a component act, and which key a report is about. -/
structure Port (ι ρ κ σ : Type) where
  exec : ι → σ → Option ρ × σ
  about : ρ → κ

namespace Port
variable {ι ρ κ σ β : Type} (P : Port ι ρ κ σ)

/-- The state after a sequence of calls. -/
def after : List ι → σ → σ
  | [], s => s
  | call :: rest, s => after rest (P.exec call s).2

/-- The report of a call, when it is about `key`, with the state that the call leaves. -/
def reported [DecidableEq κ] (key : κ) (answer : Option ρ × σ) : Option (ρ × σ) :=
  (answer.1.filter fun report => P.about report = key).map (·, answer.2)

/-- The last report about `key`. -/
def last [DecidableEq κ] (key : κ) : List ι → σ → Option (ρ × σ)
  | [], _ => none
  | call :: rest, s =>
      (last key rest (P.exec call s).2).or (P.reported key (P.exec call s))

variable {P}

section
variable [DecidableEq κ] {key : κ} {report : ρ} {t : σ}

theorem reported_eq_some_iff {answer : Option ρ × σ} :
    P.reported key answer = some (report, t) ↔
      answer = (some report, t) ∧ P.about report = key := by
  obtain ⟨r, s⟩ := answer
  cases r with
  | none => simp [reported]
  | some given =>
      by_cases h : P.about given = key
      · simp only [reported, Option.filter_some, h, decide_true, if_true, Option.map_some,
          Option.some.injEq, Prod.mk.injEq]
        constructor
        · rintro ⟨rfl, rfl⟩; exact ⟨⟨rfl, rfl⟩, h⟩
        · rintro ⟨⟨rfl, rfl⟩, -⟩; exact ⟨rfl, rfl⟩
      · simp only [reported, Option.filter_some, h, decide_false, Bool.false_eq_true, if_false,
          Option.map_none, reduceCtorEq, false_iff, Prod.mk.injEq, Option.some.injEq]
        rintro ⟨⟨rfl, -⟩, h'⟩
        exact h h'

theorem reported_eq_none_iff {answer : Option ρ × σ} :
    P.reported key answer = none ↔ ∀ given, answer.1 = some given → P.about given ≠ key := by
  obtain ⟨r, s⟩ := answer
  cases r <;> simp [reported, Option.filter_some]

/-- The last report is one that some call gave, in the state that is recorded with it. -/
theorem exec_of_last {calls : List ι} {s : σ} (h : P.last key calls s = some (report, t)) :
    P.about report = key ∧ ∃ call s₀, P.exec call s₀ = (some report, t) := by
  induction calls generalizing s with
  | nil => cases h
  | cons call rest ih =>
      rcases Option.or_eq_some_iff.mp h with hrest | ⟨-, hcall⟩
      · exact ih hrest
      · obtain ⟨hexec, habout⟩ := reported_eq_some_iff.mp hcall
        exact ⟨habout, call, s, hexec⟩

/-! ### What changes only with a report -/

variable (view : σ → β)
  (keep : ∀ call s, (∀ given, (P.exec call s).1 = some given → P.about given ≠ key) →
    view (P.exec call s).2 = view s)
include keep

theorem view_of_silence {calls : List ι} {s : σ} (h : P.last key calls s = none) :
    view (P.after calls s) = view s := by
  induction calls generalizing s with
  | nil => rfl
  | cons call rest ih =>
      obtain ⟨hrest, hcall⟩ := Option.or_eq_none_iff.mp h
      exact (ih hrest).trans (keep call s (reported_eq_none_iff.mp hcall))

theorem view_of_last {calls : List ι} {s : σ} (h : P.last key calls s = some (report, t)) :
    view (P.after calls s) = view t := by
  induction calls generalizing s with
  | nil => cases h
  | cons call rest ih =>
      rcases Option.or_eq_some_iff.mp h with hrest | ⟨hsilent, hcall⟩
      · exact ih hrest
      · obtain ⟨hexec, -⟩ := reported_eq_some_iff.mp hcall
        have hafter := view_of_silence view keep hsilent
        rw [hexec] at hafter
        rw [after, hexec]
        exact hafter

end

end Port

end Reports
