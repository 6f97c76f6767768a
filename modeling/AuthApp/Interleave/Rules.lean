import AuthApp.Interleave.Pool

/-!
# Interleave — rules for runs

What holds of every run of a system, whatever the interleaving.

* `Run.point` and `Run.event_point`: a call is always at a point its own program reaches on the
  answers it has had.  What is proved of one program alone, by following its code
  (`Prog.Always`), therefore holds of it in every pool.
* `Run.before_event`: a logged step was taken in a pool of the run, which its guard allowed.
* `Run.event_exec` and `Run.reply_exec`: a logged step, or an answer a call has had, is one step of
  the operations.
* `Run.finish`: a call can always go on to its end undisturbed.
-/

namespace Interleave
open Prog

variable {S : Sig} {σ ι α χ ε : Type}

namespace Pool

/-- An entry of a list with one more at its end is an old entry or the new one. -/
theorem getElem?_snoc {α : Type} {l : List α} {x y : α} {n : Nat} (h : (l ++ [x])[n]? = some y) :
    l[n]? = some y ∨ n = l.length ∧ y = x := by
  rcases Nat.lt_or_ge n l.length with hn | hn
  · rw [List.getElem?_append_left hn] at h
    exact .inl h
  · have hlt := (List.getElem?_eq_some_iff.mp h).1
    rw [List.length_append, List.length_singleton] at hlt
    obtain rfl : n = l.length := by omega
    rw [List.getElem?_concat_length] at h
    exact .inr ⟨rfl, (Option.some.inj h).symm⟩

/-- The request behind each call and each logged step of `p` is still there in `q`. -/
def Keeps (p q : Pool S σ ι α) : Prop :=
  (∀ (i : Nat) (c : Call S ι α), p.calls[i]? = some c → ∃ d, q.calls[i]? = some ⟨c.req, d⟩) ∧
    p.log <+: q.log

theorem Keeps.refl (p : Pool S σ ι α) : Keeps p p :=
  ⟨fun _ c h => ⟨c.prog, h⟩, List.prefix_rfl⟩

theorem Keeps.trans {p q r : Pool S σ ι α} (h₁ : Keeps p q) (h₂ : Keeps q r) : Keeps p r := by
  refine ⟨fun i c h => ?_, h₁.2.trans h₂.2⟩
  obtain ⟨d, hd⟩ := h₁.1 i c h
  exact h₂.1 i ⟨c.req, d⟩ hd

end Pool

namespace System
open Pool

variable {sys : System S σ ι α χ ε} {ok : Pool S σ ι α → Act ι χ ε → Prop}

/-! ### Requests and the log only grow -/

theorem Step.keeps {p q : Pool S σ ι α} {a : Act ι χ ε} (h : sys.Step p a q) : Keeps p q := by
  cases h with
  | start req =>
      refine ⟨fun i c h => ⟨c.prog, ?_⟩, List.prefix_rfl⟩
      exact (List.getElem?_append_left (List.getElem?_eq_some_iff.mp h).1).trans h
  | env e => exact Keeps.refl p
  | step i c req op k h =>
      refine ⟨fun j d hj => ?_, List.prefix_append _ _⟩
      by_cases e : i = j
      · subst e
        rw [h] at hj
        cases hj
        exact ⟨_, List.getElem?_set_self (List.getElem?_eq_some_iff.mp h).1⟩
      · exact ⟨d.prog, (List.getElem?_set_ne e).trans hj⟩

theorem Run.keeps {p q : Pool S σ ι α} (h : sys.Run ok p q) : Keeps p q := by
  induction h with
  | refl => exact .refl _
  | snoc _ _ hs ih => exact ih.trans hs.keeps

/-- Only calls that came in take steps. -/
theorem Run.caller_lt {s : σ} {p : Pool S σ ι α} (h : sys.Run ok (.init s) p) :
    ∀ e ∈ p.log, e.caller < p.calls.length := by
  induction h with
  | refl => intro e he; cases he
  | @snoc q r a _ _ hs ih =>
      cases hs with
      | start req =>
          intro e he
          simpa using Nat.lt_succ_of_lt (ih e he)
      | env e => exact ih
      | step i c req op k h =>
          intro e he
          simp only [advance, List.length_set]
          rcases List.mem_append.mp he with he | he
          · exact ih e he
          · obtain rfl := List.mem_singleton.mp he
            exact (List.getElem?_eq_some_iff.mp h).1

theorem pastOf_eq_nil {log : List (Event S σ)} {i : Nat} (h : ∀ e ∈ log, e.caller ≠ i) :
    pastOf i log = [] :=
  List.filterMap_eq_nil_iff.mpr fun e he => if_neg (h e he)

/-! ### Each call follows its own program -/

section Points
variable {P : ι → List (Reply S) → Prog S α → Prop}

/-- A call is at a point of its own program: what always holds along the program holds there. -/
theorem Run.always {s : σ} {p : Pool S σ ι α} (h : sys.Run ok (.init s) p)
    (hP : ∀ req, Always (P req) [] (sys.code req)) :
    ∀ i c, p.calls[i]? = some c → Always (P c.req) (pastOf i p.log) c.prog := by
  induction h with
  | refl => intro i c hc; cases hc
  | @snoc q r a hr _ hs ih =>
      cases hs with
      | env e => exact ih
      | start req =>
          intro i c hc
          rcases getElem?_snoc hc with hc | ⟨rfl, rfl⟩
          · exact ih i c hc
          · rw [pastOf_eq_nil fun e he => Nat.ne_of_lt (hr.caller_lt e he)]
            exact hP req
      | step j c req op k hj =>
          intro i d hd
          simp only [advance, pastOf_append] at hd ⊢
          by_cases e : j = i
          · subst e
            rw [List.getElem?_set_self (List.getElem?_eq_some_iff.mp hj).1] at hd
            cases hd
            rw [pastOf_single_self]
            exact (ih j _ hj).next _
          · rw [List.getElem?_set_ne e] at hd
            rw [pastOf_single_ne (by exact e), List.append_nil]
            exact ih i d hd

theorem Run.point {s : σ} {p : Pool S σ ι α} (h : sys.Run ok (.init s) p)
    (hP : ∀ req, Always (P req) [] (sys.code req)) {i : Nat} {c : Call S ι α}
    (hc : p.calls[i]? = some c) : P c.req (pastOf i p.log) c.prog :=
  (h.always hP i c hc).here

/-- A logged step was taken at a point of its caller's program. -/
theorem Run.event_point {s : σ} {p : Pool S σ ι α} (h : sys.Run ok (.init s) p)
    (hP : ∀ req, Always (P req) [] (sys.code req)) {n : Nat} {e : Event S σ}
    (he : p.log[n]? = some e) :
    ∃ req d k, p.calls[e.caller]? = some ⟨req, d⟩ ∧
      P req (pastOf e.caller (p.log.take n)) (.call e.op k) := by
  induction h with
  | refl => cases he
  | @snoc q r a hr _ hs ih =>
      obtain ⟨l, hl⟩ := hs.keeps.2
      rcases Nat.lt_or_ge n q.log.length with hn | hn
      · rw [← hl, List.getElem?_append_left hn] at he
        obtain ⟨req, d, k, hc, hk⟩ := ih he
        obtain ⟨d', hd'⟩ := hs.keeps.1 _ _ hc
        refine ⟨req, d', k, hd', ?_⟩
        rwa [← hl, List.take_append_of_le_length (Nat.le_of_lt hn)]
      · cases hs with
        | env e => exact absurd (List.getElem?_eq_some_iff.mp he).1 (Nat.not_lt.mpr hn)
        | start req => exact absurd (List.getElem?_eq_some_iff.mp he).1 (Nat.not_lt.mpr hn)
        | step j c req op k hj =>
            rcases getElem?_snoc he with he | ⟨rfl, rfl⟩
            · exact absurd (List.getElem?_eq_some_iff.mp he).1 (Nat.not_lt.mpr hn)
            · refine ⟨req, _, k, List.getElem?_set_self (List.getElem?_eq_some_iff.mp hj).1, ?_⟩
              simp only [advance, List.take_left]
              exact (hr.always hP j _ hj).here

end Points

/-- A logged step is a call that its caller's program makes on the answers it has had. -/
theorem Run.event_call {P : ι → List (Reply S) → S.Op → Prop} {s : σ} {p : Pool S σ ι α}
    (h : sys.Run ok (.init s) p) (hP : ∀ req, Calls (P req) [] (sys.code req)) {n : Nat}
    {e : Event S σ} (he : p.log[n]? = some e) :
    ∃ req d, p.calls[e.caller]? = some ⟨req, d⟩ ∧
      P req (pastOf e.caller (p.log.take n)) e.op := by
  obtain ⟨req, d, k, hc, hp⟩ := h.event_point (fun req => (hP req).always) he
  exact ⟨req, d, hc, hp e.op rfl⟩

/-- A call that has returned came to a result of its own program. -/
theorem Run.returned {Q : ι → List (Reply S) → α → Prop} {s : σ} {p : Pool S σ ι α}
    (h : sys.Run ok (.init s) p) (hQ : ∀ req, Returns (Q req) [] (sys.code req)) {i : Nat} {req : ι}
    {a : α} (hret : p.Returned i req a) : Q req (pastOf i p.log) a :=
  h.point (fun req => (hQ req).always) hret a rfl

/-! ### When a call came in -/

/-- Each call, and each logged step of it, comes after a pool in which the guard let it start. -/
theorem Run.started {s : σ} {p : Pool S σ ι α} (h : sys.Run ok (.init s) p) :
    (∀ (i : Nat) (c : Call S ι α), p.calls[i]? = some c →
        ∃ q, sys.Run ok (.init s) q ∧ ok q (.start c.req) ∧ q.log <+: p.log) ∧
      ∀ (n : Nat) (e : Event S σ), p.log[n]? = some e →
        ∃ q req d, sys.Run ok (.init s) q ∧ ok q (.start req) ∧ q.log <+: p.log.take n ∧
          p.calls[e.caller]? = some ⟨req, d⟩ := by
  induction h with
  | refl => exact ⟨fun i c hc => by (cases hc), fun n e he => by (cases he)⟩
  | @snoc q r a hr hok hs ih =>
      obtain ⟨hcalls, hlog⟩ := ih
      cases hs with
      | env e => exact ⟨hcalls, hlog⟩
      | start req =>
          refine ⟨fun i c hc => ?_, fun n e he => ?_⟩
          · rcases getElem?_snoc hc with hc | ⟨-, rfl⟩
            · exact hcalls i c hc
            · exact ⟨q, hr, hok, List.prefix_rfl⟩
          · obtain ⟨q₀, req₀, d, hq₀, ho, hp, hd⟩ := hlog n e he
            refine ⟨q₀, req₀, d, hq₀, ho, hp, ?_⟩
            exact (List.getElem?_append_left (List.getElem?_eq_some_iff.mp hd).1).trans hd
      | step i c req op k hi =>
          have hlen := (List.getElem?_eq_some_iff.mp hi).1
          refine ⟨fun j d hj => ?_, fun n e he => ?_⟩
          · by_cases e : i = j
            · subst e
              rw [advance, List.getElem?_set_self hlen] at hj
              cases hj
              obtain ⟨q₀, hq₀, ho, hp⟩ := hcalls i _ hi
              exact ⟨q₀, hq₀, ho, hp.trans (List.prefix_append _ _)⟩
            · rw [advance, List.getElem?_set_ne e] at hj
              obtain ⟨q₀, hq₀, ho, hp⟩ := hcalls j _ hj
              exact ⟨q₀, hq₀, ho, hp.trans (List.prefix_append _ _)⟩
          · rcases getElem?_snoc he with he | ⟨rfl, rfl⟩
            · have hn := (List.getElem?_eq_some_iff.mp he).1
              obtain ⟨q₀, req₀, d, hq₀, ho, hp, hd⟩ := hlog n e he
              have hkeep : ∃ d', (q.calls.set i ⟨req, k (sys.exec c op q.store).1⟩)[e.caller]? =
                  some ⟨req₀, d'⟩ := by
                by_cases hc : i = e.caller
                · rw [← hc] at hd ⊢
                  rw [hi] at hd
                  cases hd
                  exact ⟨_, List.getElem?_set_self hlen⟩
                · exact ⟨d, (List.getElem?_set_ne hc).trans hd⟩
              obtain ⟨d', hd'⟩ := hkeep
              refine ⟨q₀, req₀, d', hq₀, ho, ?_, hd'⟩
              rwa [advance, List.take_append_of_le_length (Nat.le_of_lt hn)]
            · obtain ⟨q₀, hq₀, ho, hp⟩ := hcalls i _ hi
              refine ⟨q₀, req, _, hq₀, ho, ?_, List.getElem?_set_self hlen⟩
              rwa [advance, List.take_left]

/-- The pool a logged step was taken in. -/
theorem Run.before_event {s : σ} {p : Pool S σ ι α} (h : sys.Run ok (.init s) p) {n : Nat}
    {e : Event S σ} (hn : p.log[n]? = some e) :
    ∃ q c req k, sys.Run ok (.init s) q ∧ ok q (.step e.caller c) ∧ q.log = p.log.take n ∧
      q.store = e.pre ∧ q.calls[e.caller]? = some ⟨req, .call e.op k⟩ := by
  induction h with
  | refl => cases hn
  | @snoc q r a hr hok hs ih =>
      obtain ⟨l, hl⟩ := hs.keeps.2
      rcases Nat.lt_or_ge n q.log.length with hlt | hge
      · rw [← hl, List.getElem?_append_left hlt] at hn
        rw [← hl, List.take_append_of_le_length (Nat.le_of_lt hlt)]
        exact ih hn
      · cases hs with
        | env e => exact absurd (List.getElem?_eq_some_iff.mp hn).1 (Nat.not_lt.mpr hge)
        | start req => exact absurd (List.getElem?_eq_some_iff.mp hn).1 (Nat.not_lt.mpr hge)
        | step j c req op k hj =>
            rcases getElem?_snoc hn with hn | ⟨rfl, rfl⟩
            · exact absurd (List.getElem?_eq_some_iff.mp hn).1 (Nat.not_lt.mpr hge)
            · exact ⟨q, c, req, k, hr, hok, List.take_left.symm, rfl, hj⟩

/-- A call can always go on to its end undisturbed. -/
theorem Run.finish {p q : Pool S σ ι α} (h : sys.Run ok p q) {i : Nat} {c : χ} {req : ι}
    {d : Prog S α} (hok : ∀ q, ok q (.step i c)) (hc : q.calls[i]? = some ⟨req, d⟩) :
    ∃ r, sys.Run ok p r ∧ r.Returned i req (d.run (sys.exec c) q.store).1 ∧
      r.store = (d.run (sys.exec c) q.store).2 := by
  induction d generalizing q with
  | ret a => exact ⟨q, h, hc, rfl⟩
  | call op k ih =>
      have hnext := h.next (hok q) hc rfl rfl
      exact ih _ hnext (List.getElem?_set_self (List.getElem?_eq_some_iff.mp hc).1)

/-! ### The states of a run -/

theorem Run.event_exec {s : σ} {p : Pool S σ ι α} (h : sys.Run ok (.init s) p) :
    ∀ e ∈ p.log, ∃ c, sys.exec c e.op e.pre = (e.ans, e.post) := by
  induction h with
  | refl => intro e he; cases he
  | @snoc q r a _ _ hs ih =>
      cases hs with
      | start req => exact ih
      | env e => exact ih
      | step i c req op k h =>
          intro e he
          rcases List.mem_append.mp he with he | he
          · exact ih e he
          · obtain rfl := List.mem_singleton.mp he
            exact ⟨c, rfl⟩

/-- What a call has been answered was answered by a step of the operations. -/
theorem Run.reply_exec {s : σ} {p : Pool S σ ι α} (h : sys.Run ok (.init s) p) {i n : Nat}
    {r : Reply S} (hr : r ∈ pastOf i (p.log.take n)) :
    ∃ m < n, ∃ c pre post, p.log[m]? = some ⟨i, r.op, r.ans, pre, post⟩ ∧
      sys.exec c r.op pre = (r.ans, post) := by
  obtain ⟨⟨j, op, ans, pre, post⟩, he, rfl, rfl⟩ := mem_pastOf hr
  obtain ⟨c, hc⟩ := h.event_exec _ (List.mem_of_mem_take he)
  obtain ⟨m, hm, hget⟩ := List.mem_take_iff_getElem.mp he
  have hlt := Nat.lt_min.mp hm
  exact ⟨m, hlt.1, c, pre, post, List.getElem?_eq_some_iff.mpr ⟨hlt.2, hget⟩, hc⟩

end System

end Interleave
