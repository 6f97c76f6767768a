import AuthApp.Interleave.Sum

/-!
# Interleave — replays

A run of one program under fates, as the list of the calls that it made and of their answers: what
is proved of every list of answers a program can come to a result by, is true of the list of its
run, which also says how each answer came about.

* `Prog.Returns.replays`: a run that has a result has a replay.
* `Prog.run_of_answered`: a run none of whose calls failed is that of a program whose calls are all
  served.
-/

namespace Interleave
variable {S : Sig} {α σ χ : Type}

/-- The calls, under the fates in order, are answered so from `s`, and leave `s'`. -/
def Replays (exec : χ → Exec S σ) : List χ → List (Reply S) → σ → σ → Prop
  | _, [], s, s' => s' = s
  | [], _ :: _, _, _ => False
  | c :: cs, r :: rest, s, s' =>
      (exec c r.op s).1 = r.ans ∧ Replays exec cs rest (exec c r.op s).2 s'

section
variable {exec : χ → Exec S σ} {cs : List χ} {s s' : σ}

@[simp] theorem replays_nil : Replays exec cs [] s s' ↔ s' = s := by cases cs <;> rfl

/-- There is a fate for each call. -/
theorem replays_cons_iff {r : Reply S} {rest : List (Reply S)} :
    Replays exec cs (r :: rest) s s' ↔
      ∃ c cs', cs = c :: cs' ∧ (exec c r.op s).1 = r.ans ∧
        Replays exec cs' rest (exec c r.op s).2 s' := by
  cases cs with
  | nil => exact iff_of_false id fun ⟨_, _, h, _⟩ => by cases h
  | cons c cs =>
      constructor
      · exact fun h => ⟨c, cs, rfl, h⟩
      · rintro ⟨_, _, heq, h⟩
        cases heq
        exact h

theorem Replays.split {past rest : List (Reply S)} (h : Replays exec cs (past ++ rest) s s') :
    ∃ t, Replays exec cs past s t ∧ Replays exec (cs.drop past.length) rest t s' := by
  induction past generalizing cs s with
  | nil => exact ⟨s, replays_nil.mpr rfl, h⟩
  | cons r past ih =>
      obtain ⟨c, cs', rfl, hans, h⟩ := replays_cons_iff.mp h
      obtain ⟨t, hpast, hrest⟩ := ih h
      exact ⟨t, ⟨hans, hpast⟩, hrest⟩

/-- A run that has a result has a replay: answers that the program comes to that result by. -/
theorem Prog.Returns.replays {Q : List (Reply S) → α → Prop} {past : List (Reply S)}
    {p : Prog S α} (h : p.Returns Q past) {a : α}
    (hrun : p.runFates exec cs s = (some a, s')) :
    ∃ rest, Q (past ++ rest) a ∧ Replays exec cs rest s s' := by
  induction p generalizing past cs s with
  | ret b =>
      obtain ⟨rfl, rfl⟩ := Prog.runFates_ret_eq_some hrun
      exact ⟨[], by rwa [List.append_nil], replays_nil.mpr rfl⟩
  | call op k ih =>
      obtain ⟨c, cs', rfl, hrun⟩ := Prog.runFates_call_eq_some hrun
      obtain ⟨rest, hrest, hreplays⟩ := ih _ (h _) hrun
      exact ⟨⟨op, (exec c op s).1⟩ :: rest, by rwa [List.append_assoc] at hrest, rfl, hreplays⟩

namespace Prog
variable {β τ : Type} {T : Sig}

/-- A run of `p >>= f` that has a result is one of `p`, and then one of what `f` makes of it. -/
theorem runFates_bind_eq_some {p : Prog S α} {f : α → Prog S β} {b : β}
    (h : (p >>= f).runFates exec cs s = (some b, s')) :
    ∃ a t rest, p.runFates exec cs s = (some a, t) ∧
      (f a).runFates exec rest t = (some b, s') := by
  induction p generalizing cs s with
  | ret a => exact ⟨a, s, cs, runFates_ret exec cs a s, h⟩
  | call op k ih =>
      obtain ⟨c, rest, rfl, h⟩ := runFates_call_eq_some h
      exact ih _ h

/-- The run under one fate for every call. -/
theorem exists_runFates_eq (exec : χ → Exec S σ) (c : χ) (p : Prog S α) (s : σ) :
    ∃ cs, p.runFates exec cs s = (some (p.run (exec c) s).1, (p.run (exec c) s).2) := by
  induction p generalizing s with
  | ret a => exact ⟨[], rfl⟩
  | call op k ih =>
      obtain ⟨cs, h⟩ := ih (exec c op s).1 (exec c op s).2
      exact ⟨c :: cs, h⟩

/-- Where fates make no difference, a run that has a result is the run. -/
theorem run_of_runFates {serve : Exec S σ} {p : Prog S α} {a : α}
    (h : p.runFates (fun _ => serve) cs s = (some a, s')) : p.run serve s = (a, s') := by
  induction p generalizing cs s with
  | ret b =>
      obtain ⟨rfl, rfl⟩ := runFates_ret_eq_some h
      rfl
  | call op k ih =>
      obtain ⟨c, rest, rfl, h⟩ := runFates_call_eq_some h
      exact ih _ h

/-- When the calls that do not fail are served, a run none of whose calls failed is that of a
program whose calls are all served. -/
theorem run_of_answered {serve : Exec S σ} (Good : Reply S → Prop)
    (hgood : ∀ c op s, Good ⟨op, (exec c op s).1⟩ → exec c op s = serve op s) {p : Prog S α}
    {a : α} {past : List (Reply S)}
    (h : p.Returns (fun past b => b = a → ∀ r ∈ past, Good r) past)
    (hrun : p.runFates exec cs s = (some a, s')) : p.run serve s = (a, s') := by
  induction p generalizing past cs s with
  | ret b =>
      obtain ⟨rfl, rfl⟩ := runFates_ret_eq_some hrun
      rfl
  | call op k ih =>
      obtain ⟨c, rest, rfl, hrun⟩ := runFates_call_eq_some hrun
      obtain ⟨after, hafter, -⟩ := (h _).replays hrun
      have hserved := hgood c op s (hafter rfl _ (by simp))
      rw [run_call, ← hserved]
      exact ih _ (h _) hrun

/-- A program of one side runs on the state of that side. -/
theorem run_inl {exec : Exec (S.sum T) (σ × τ)} {f : Exec S σ}
    (h : ∀ op s, exec (.inl op) s = ((f op s.1).1, (f op s.1).2, s.2)) (p : Prog S α)
    (s : σ × τ) : p.inl.run exec s = ((p.run f s.1).1, (p.run f s.1).2, s.2) := by
  induction p generalizing s with
  | ret a => rfl
  | call op k ih => rw [inl_call, run_call, h, ih, run_call]

theorem run_inr {exec : Exec (T.sum S) (τ × σ)} {f : Exec S σ}
    (h : ∀ op s, exec (.inr op) s = ((f op s.2).1, s.1, (f op s.2).2)) (p : Prog S α)
    (s : τ × σ) : p.inr.run exec s = ((p.run f s.2).1, s.1, (p.run f s.2).2) := by
  induction p generalizing s with
  | ret a => rfl
  | call op k ih => rw [inr_call, run_call, h, ih, run_call]

/-- The same, of a run under fates. -/
theorem runFates_inl {exec : χ → Exec (S.sum T) (σ × τ)} {f : χ → Exec S σ}
    (h : ∀ c op s, exec c (.inl op) s = ((f c op s.1).1, (f c op s.1).2, s.2)) (cs : List χ)
    (p : Prog S α) (s : σ × τ) :
    p.inl.runFates exec cs s =
      ((p.runFates f cs s.1).1, (p.runFates f cs s.1).2, s.2) := by
  induction p generalizing cs s with
  | ret a => rw [inl_ret, runFates_ret, runFates_ret]
  | call op k ih =>
      cases cs with
      | nil => rfl
      | cons c cs => rw [inl_call, runFates_cons, h, ih, runFates_cons]

theorem runFates_inr {exec : χ → Exec (T.sum S) (τ × σ)} {f : χ → Exec S σ}
    (h : ∀ c op s, exec c (.inr op) s = ((f c op s.2).1, s.1, (f c op s.2).2)) (cs : List χ)
    (p : Prog S α) (s : τ × σ) :
    p.inr.runFates exec cs s =
      ((p.runFates f cs s.2).1, s.1, (p.runFates f cs s.2).2) := by
  induction p generalizing cs s with
  | ret a => rw [inr_ret, runFates_ret, runFates_ret]
  | call op k ih =>
      cases cs with
      | nil => rfl
      | cons c cs => rw [inr_call, runFates_cons, h, ih, runFates_cons]

end Prog

end

end Interleave
