import AuthApp.Interleave.Program

/-!
# Interleave — pools

A pool is a state shared by any number of calls, each a program part of the way through.  A pool
moves in one of three ways: a new call starts, a call in flight takes its next atomic step, or
the environment changes the state.  Nothing is said of the order, so a run of a pool is an
arbitrary interleaving, and a call that is never stepped again is one whose process stopped.

The log keeps every atomic step with the state before and after it.  It is a ghost: no program
reads it.
-/

namespace Interleave

/-- A call: what was asked, and what is left of the program that answers it. -/
structure Call (S : Sig) (ι α : Type) where
  req : ι
  prog : Prog S α

/-- One atomic step of the call number `caller`. -/
structure Event (S : Sig) (σ : Type) where
  caller : Nat
  op : S.Op
  ans : S.Ans op
  pre : σ
  post : σ

/-- The shared state, the calls in the order they came in, and the steps taken so far. -/
structure Pool (S : Sig) (σ ι α : Type) where
  store : σ
  calls : List (Call S ι α)
  log : List (Event S σ)

/-- A move of a pool: a call comes in, the call number `i` takes its next step at the given
fate, or the environment acts. -/
inductive Act (ι χ ε : Type) where
  | start (req : ι)
  | step (i : Nat) (fate : χ)
  | env (e : ε)

/-- The program behind each request, the operations under each fate, the environment. -/
structure System (S : Sig) (σ ι α χ ε : Type) where
  code : ι → Prog S α
  exec : χ → Exec S σ
  env : ε → σ → σ

variable {S : Sig} {σ ι α χ ε : Type}

namespace Pool

/-- The pool in which nothing has happened yet. -/
def init (s : σ) : Pool S σ ι α := ⟨s, [], []⟩

/-- Call `i`, at the operation `op`, gets the answer `r.1` and leaves the state `r.2`. -/
def advance (p : Pool S σ ι α) (i : Nat) (req : ι) (op : S.Op) (k : S.Ans op → Prog S α)
    (r : S.Ans op × σ) : Pool S σ ι α where
  store := r.2
  calls := p.calls.set i ⟨req, k r.1⟩
  log := p.log ++ [⟨i, op, r.1, p.store, r.2⟩]

/-- What call `i` has been answered so far. -/
def pastOf (i : Nat) (log : List (Event S σ)) : List (Reply S) :=
  log.filterMap fun e => if e.caller = i then some ⟨e.op, e.ans⟩ else none

/-- The call number `i` has returned `a`. -/
def Returned (p : Pool S σ ι α) (i : Nat) (req : ι) (a : α) : Prop :=
  p.calls[i]? = some ⟨req, .ret a⟩

/-- Every call has returned. -/
def Quiet (p : Pool S σ ι α) : Prop := ∀ c ∈ p.calls, ∃ a, c.prog = .ret a

theorem quiet_of_answers {p : Pool S σ ι α} (answers : List (ι × α))
    (h : p.calls = answers.map fun c => ⟨c.1, .ret c.2⟩) : p.Quiet := by
  intro c hc
  rw [h] at hc
  obtain ⟨answer, -, rfl⟩ := List.mem_map.mp hc
  exact ⟨answer.2, rfl⟩

@[simp] theorem pastOf_nil (i : Nat) : pastOf i ([] : List (Event S σ)) = [] := rfl

theorem pastOf_append (i : Nat) (l₁ l₂ : List (Event S σ)) :
    pastOf i (l₁ ++ l₂) = pastOf i l₁ ++ pastOf i l₂ :=
  List.filterMap_append

@[simp] theorem pastOf_single_self (i : Nat) (op : S.Op) (r : S.Ans op) (s s' : σ) :
    pastOf i [⟨i, op, r, s, s'⟩] = [⟨op, r⟩] := by
  simp [pastOf]

theorem pastOf_single_ne {i : Nat} {e : Event S σ} (h : e.caller ≠ i) : pastOf i [e] = [] := by
  simp [pastOf, h]

/-- An answer in the past of `i` was logged by a step of `i`. -/
theorem mem_pastOf {i : Nat} {log : List (Event S σ)} {r : Reply S} (h : r ∈ pastOf i log) :
    ∃ e ∈ log, e.caller = i ∧ (⟨e.op, e.ans⟩ : Reply S) = r := by
  obtain ⟨e, he, hr⟩ := List.mem_filterMap.mp h
  by_cases hc : e.caller = i
  · rw [if_pos hc] at hr
    exact ⟨e, he, hc, Option.some.inj hr⟩
  · rw [if_neg hc] at hr
    cases hr

theorem mem_pastOf_of_mem {log : List (Event S σ)} {e : Event S σ} (h : e ∈ log) :
    (⟨e.op, e.ans⟩ : Reply S) ∈ pastOf e.caller log :=
  List.mem_filterMap.mpr ⟨e, h, if_pos rfl⟩

theorem mem_pastOf_of_take {i n : Nat} {log : List (Event S σ)} {r : Reply S}
    (h : r ∈ pastOf i (log.take n)) : r ∈ pastOf i log := by
  rw [← List.take_append_drop n log, pastOf_append]
  exact List.mem_append_left _ h

/-- A step, read as the operation and the answer it is known to be. -/
theorem exec_of_reply {exec : Exec S σ} {e : Event S σ} {op : S.Op} {ans : S.Ans op}
    (he : (⟨e.op, e.ans⟩ : Reply S) = ⟨op, ans⟩) (hx : exec e.op e.pre = (e.ans, e.post)) :
    exec op e.pre = (ans, e.post) := by
  obtain ⟨i, op', ans', pre, post⟩ := e
  cases he
  exact hx

/-- A call has been answered more after one of its steps than before it. -/
theorem length_pastOf_lt {log : List (Event S σ)} {n m : Nat} {e : Event S σ}
    (hn : log[n]? = some e) (hnm : n < m) :
    (pastOf e.caller (log.take n)).length < (pastOf e.caller (log.take m)).length := by
  have hpre : log.take (n + 1) <+: log.take m := List.take_prefix_take_left hnm
  have hsucc : log.take (n + 1) = log.take n ++ [e] := by
    rw [List.take_add_one, hn]
    rfl
  obtain ⟨l, hl⟩ := hpre
  rw [← hl, hsucc, pastOf_append, pastOf_append, pastOf_single_self]
  simp only [List.length_append, List.length_singleton]
  omega

/-- A call has taken one step at most with so many answers. -/
theorem eq_of_length_pastOf {log : List (Event S σ)} {n m : Nat} {e f : Event S σ}
    (hn : log[n]? = some e) (hm : log[m]? = some f) (hc : e.caller = f.caller)
    (hlen : (pastOf e.caller (log.take n)).length = (pastOf f.caller (log.take m)).length) :
    n = m := by
  rcases Nat.lt_trichotomy n m with hlt | heq | hgt
  · have hless := length_pastOf_lt hn hlt
    rw [hlen, hc] at hless
    exact absurd hless (Nat.lt_irrefl _)
  · exact heq
  · have hless := length_pastOf_lt hm hgt
    rw [← hlen, ← hc] at hless
    exact absurd hless (Nat.lt_irrefl _)

end Pool

namespace System
variable (sys : System S σ ι α χ ε)

/-- The moves of a pool, one rule for each kind. -/
inductive Step : Pool S σ ι α → Act ι χ ε → Pool S σ ι α → Prop where
  | start (p : Pool S σ ι α) (req : ι) :
      Step p (.start req) { p with calls := p.calls ++ [⟨req, sys.code req⟩] }
  | step (p : Pool S σ ι α) (i : Nat) (c : χ) (req : ι) (op : S.Op) (k : S.Ans op → Prog S α)
      (h : p.calls[i]? = some ⟨req, .call op k⟩) :
      Step p (.step i c) (p.advance i req op k (sys.exec c op p.store))
  | env (p : Pool S σ ι α) (e : ε) : Step p (.env e) { p with store := sys.env e p.store }

/-- A run, every move of which the guard `ok` allows. -/
inductive Run (ok : Pool S σ ι α → Act ι χ ε → Prop) (p : Pool S σ ι α) :
    Pool S σ ι α → Prop where
  | refl : Run ok p p
  | snoc {q r : Pool S σ ι α} {a : Act ι χ ε} (h : Run ok p q) (hok : ok q a)
      (hs : sys.Step q a r) : Run ok p r

/-- The move `a`, computed. -/
def act (p : Pool S σ ι α) : Act ι χ ε → Option (Pool S σ ι α)
  | .start req => some { p with calls := p.calls ++ [⟨req, sys.code req⟩] }
  | .step i c =>
      match p.calls[i]? with
      | some ⟨req, .call op k⟩ => some (p.advance i req op k (sys.exec c op p.store))
      | _ => none
  | .env e => some { p with store := sys.env e p.store }

/-- A list of moves, computed. -/
def acts : List (Act ι χ ε) → Pool S σ ι α → Option (Pool S σ ι α)
  | [], p => some p
  | a :: as, p => (sys.act p a).bind (acts as)

/-- The same, as far as the guard allows the moves. -/
def guardedActs (ok : Pool S σ ι α → Act ι χ ε → Prop) [∀ p a, Decidable (ok p a)] :
    List (Act ι χ ε) → Pool S σ ι α → Option (Pool S σ ι α)
  | [], p => some p
  | a :: as, p => if ok p a then (sys.act p a).bind (guardedActs ok as) else none

variable {sys}

theorem Step.of_act {p q : Pool S σ ι α} {a : Act ι χ ε} (h : sys.act p a = some q) :
    sys.Step p a q := by
  cases a with
  | start req => cases h; exact .start p req
  | env e => cases h; exact .env p e
  | step i c =>
      simp only [act] at h
      split at h
      · next req op k hi => cases h; exact .step p i c req op k hi
      · cases h

/-- One more step of a run, with the answer to the call and what is left of its program named. -/
theorem Run.next {ok : Pool S σ ι α → Act ι χ ε → Prop} {p q : Pool S σ ι α}
    (h : sys.Run ok p q) {i : Nat} {c : χ} {req : ι} {op : S.Op} {k : S.Ans op → Prog S α}
    {ans : S.Ans op} {d : Prog S α} {s : σ} (hok : ok q (.step i c))
    (hc : q.calls[i]? = some ⟨req, .call op k⟩) (hx : sys.exec c op q.store = (ans, s))
    (hk : k ans = d) :
    sys.Run ok p ⟨s, q.calls.set i ⟨req, d⟩, q.log ++ [⟨i, op, ans, q.store, s⟩]⟩ := by
  have hs : sys.Step q (.step i c) (q.advance i req op k (sys.exec c op q.store)) :=
    .step q i c req op k hc
  rw [hx, Pool.advance, hk] at hs
  exact h.snoc hok hs

/-- A computed schedule is a run, when the guard allows its moves everywhere. -/
theorem Run.of_acts {ok : Pool S σ ι α → Act ι χ ε → Prop} {p q r : Pool S σ ι α}
    {as : List (Act ι χ ε)} (h : sys.Run ok p q) (hok : ∀ a ∈ as, ∀ q, ok q a)
    (ha : sys.acts as q = some r) : sys.Run ok p r := by
  induction as generalizing q with
  | nil => cases ha; exact h
  | cons a as ih =>
      obtain ⟨q', hq, ha⟩ := Option.bind_eq_some_iff.mp ha
      have hstep := h.snoc (hok a List.mem_cons_self q) (.of_act hq)
      exact ih hstep (fun b hb => hok b (List.mem_cons_of_mem _ hb)) ha

/-- A computed schedule is a run, when the guard allows each move where it is made. -/
theorem Run.of_guardedActs {ok : Pool S σ ι α → Act ι χ ε → Prop} [∀ p a, Decidable (ok p a)]
    {p q r : Pool S σ ι α} {as : List (Act ι χ ε)} (h : sys.Run ok p q)
    (ha : sys.guardedActs ok as q = some r) : sys.Run ok p r := by
  induction as generalizing q with
  | nil => cases ha; exact h
  | cons a as ih =>
      rw [guardedActs] at ha
      split at ha
      · next hok =>
          obtain ⟨q', hq, ha⟩ := Option.bind_eq_some_iff.mp ha
          exact ih (h.snoc hok (.of_act hq)) ha
      · cases ha

theorem Run.trans {ok : Pool S σ ι α → Act ι χ ε → Prop} {p q r : Pool S σ ι α}
    (h₁ : sys.Run ok p q) (h₂ : sys.Run ok q r) : sys.Run ok p r := by
  induction h₂ with
  | refl => exact h₁
  | snoc _ hok hs ih => exact ih.snoc hok hs

theorem Run.mono {ok ok' : Pool S σ ι α → Act ι χ ε → Prop} {p q : Pool S σ ι α}
    (h : sys.Run ok p q) (hok : ∀ p a, ok p a → ok' p a) : sys.Run ok' p q := by
  induction h with
  | refl => exact .refl
  | snoc _ ho hs ih => exact ih.snoc (hok _ _ ho) hs

end System

end Interleave
