import Mathlib.Data.List.Basic

/-!
# Interleave — programs

A program over a signature of atomic operations is a tree: it returns a value, or it calls one
operation and goes on with the answer.  The operations are atomic, so a program says exactly
where another program may step in between: at its calls, and nowhere else.

* `Prog.run`: the run of one program, alone, from a state.
* `Prog.runFates`: the run of one program whose environment decides the fate of each call, and
  which stops for good when the fates run out.
* `Prog.Always`: a property of every point a program can reach, given the answers it has had.
* `Prog.Calls`: a property of every call a program can make.
* `Prog.Returns`: a property of every result a program can come to.
-/

namespace Interleave

/-- A signature: the atomic operations, and the type of the answer to each. -/
structure Sig where
  Op : Type
  Ans : Op → Type

/-- A program over `S` with a result in `α`. -/
inductive Prog (S : Sig) (α : Type) : Type where
  | ret (a : α) : Prog S α
  | call (op : S.Op) (k : S.Ans op → Prog S α) : Prog S α

/-- What the operations do to a state `σ`: the answer, and the state after. -/
abbrev Exec (S : Sig) (σ : Type) := (op : S.Op) → σ → S.Ans op × σ

/-- One operation, with the answer it got. -/
structure Reply (S : Sig) where
  op : S.Op
  ans : S.Ans op

/-- What a program does next: it calls an operation, or it has returned. -/
inductive Head (S : Sig) (α : Type) where
  | call (op : S.Op)
  | ret (a : α)

/-- The same, with the result read through `f`. -/
def Head.map {S : Sig} {α β : Type} (f : α → β) : Head S α → Head S β
  | .call op => .call op
  | .ret a => .ret (f a)

theorem Head.map_eq_call {S : Sig} {α β : Type} {f : α → β} {h : Head S α} {op : S.Op}
    (e : h.map f = .call op) : h = .call op := by
  cases h with
  | call op' => cases e; rfl
  | ret a => cases e

theorem Head.map_eq_ret {S : Sig} {α β : Type} {f : α → β} {h : Head S α} {b : β}
    (e : h.map f = .ret b) : ∃ a, h = .ret a ∧ f a = b := by
  cases h with
  | call op => cases e
  | ret a => cases e; exact ⟨a, rfl, rfl⟩

namespace Prog
variable {S : Sig} {α β γ σ χ : Type}

def head : Prog S α → Head S α
  | .ret a => .ret a
  | .call op _ => .call op

/-- Run `p`, then what `f` makes of its result. -/
def bind : Prog S α → (α → Prog S β) → Prog S β
  | .ret a, f => f a
  | .call op k, f => .call op fun r => (k r).bind f

instance : Monad (Prog S) where
  pure := .ret
  bind := bind

/-- `p`, with its result read through `f`. -/
def map (f : α → β) (p : Prog S α) : Prog S β := p.bind fun a => .ret (f a)

/-- The program that calls one operation and returns its answer. -/
def perform (op : S.Op) : Prog S (S.Ans op) := .call op .ret

@[simp] theorem pure_eq (a : α) : (pure a : Prog S α) = .ret a := rfl

@[simp] theorem bind_ret (a : α) (f : α → Prog S β) : (Prog.ret a).bind f = f a := rfl

@[simp] theorem ret_bind (a : α) (f : α → Prog S β) : (Prog.ret a >>= f) = f a := rfl

@[simp] theorem call_bind (op : S.Op) (k : S.Ans op → Prog S α) (f : α → Prog S β) :
    (Prog.call op k >>= f) = .call op fun r => k r >>= f := rfl

@[simp] theorem perform_bind (op : S.Op) (f : S.Ans op → Prog S β) :
    (perform op >>= f) = .call op f := rfl

theorem map_bind (g : β → γ) (p : Prog S α) (f : α → Prog S β) :
    (p >>= f).map g = p >>= fun a => (f a).map g := by
  induction p with
  | ret a => rfl
  | call op k ih => exact congrArg (Prog.call op) (funext ih)

/-! ### One program, alone -/

/-- The run of a program from `s`: its result, and the state it leaves. -/
def run (exec : Exec S σ) : Prog S α → σ → α × σ
  | .ret a, s => (a, s)
  | .call op k, s => (k (exec op s).1).run exec (exec op s).2

@[simp] theorem run_ret (exec : Exec S σ) (a : α) (s : σ) : (Prog.ret a).run exec s = (a, s) :=
  rfl

@[simp] theorem run_call (exec : Exec S σ) (op : S.Op) (k : S.Ans op → Prog S α) (s : σ) :
    (Prog.call op k).run exec s = (k (exec op s).1).run exec (exec op s).2 := rfl

theorem run_bind (exec : Exec S σ) (p : Prog S α) (f : α → Prog S β) (s : σ) :
    (p >>= f).run exec s = (f (p.run exec s).1).run exec (p.run exec s).2 := by
  induction p generalizing s with
  | ret a => rfl
  | call op k ih => exact ih _ _

theorem run_map (exec : Exec S σ) (f : α → β) (p : Prog S α) (s : σ) :
    (p.map f).run exec s = (f (p.run exec s).1, (p.run exec s).2) :=
  run_bind exec p (fun a => .ret (f a)) s

/-- The run of a program whose calls meet the given fates, in order.  It has no result when the
fates run out before it returns. -/
def runFates (exec : χ → Exec S σ) : List χ → Prog S α → σ → Option α × σ
  | _, .ret a, s => (some a, s)
  | [], .call _ _, s => (none, s)
  | c :: cs, .call op k, s => runFates exec cs (k (exec c op s).1) (exec c op s).2

@[simp] theorem runFates_ret (exec : χ → Exec S σ) (cs : List χ) (a : α) (s : σ) :
    (Prog.ret a).runFates exec cs s = (some a, s) := by
  cases cs <;> rfl

@[simp] theorem runFates_nil (exec : χ → Exec S σ) (op : S.Op) (k : S.Ans op → Prog S α)
    (s : σ) : (Prog.call op k).runFates exec [] s = (none, s) := rfl

@[simp] theorem runFates_cons (exec : χ → Exec S σ) (c : χ) (cs : List χ) (op : S.Op)
    (k : S.Ans op → Prog S α) (s : σ) :
    (Prog.call op k).runFates exec (c :: cs) s =
      (k (exec c op s).1).runFates exec cs (exec c op s).2 := rfl

theorem runFates_ret_eq_some {exec : χ → Exec S σ} {cs : List χ} {s t : σ} {a b : α}
    (h : (Prog.ret a).runFates exec cs s = (some b, t)) : a = b ∧ s = t := by
  rw [runFates_ret] at h
  cases h
  exact ⟨rfl, rfl⟩

/-- A program that has a result has a fate for its next call. -/
theorem runFates_call_eq_some {exec : χ → Exec S σ} {cs : List χ} {op : S.Op}
    {k : S.Ans op → Prog S α} {s t : σ} {a : α}
    (h : (Prog.call op k).runFates exec cs s = (some a, t)) :
    ∃ c rest, cs = c :: rest ∧
      (k (exec c op s).1).runFates exec rest (exec c op s).2 = (some a, t) := by
  cases cs with
  | nil => cases h
  | cons c rest => exact ⟨c, rest, rfl, h⟩

/-! ### Every point of a program -/

/-- `P` holds at `p`, which has been answered `past`, and at every point `p` can reach. -/
def Always (P : List (Reply S) → Prog S α → Prop) : List (Reply S) → Prog S α → Prop
  | past, .ret a => P past (.ret a)
  | past, .call op k => P past (.call op k) ∧ ∀ r, Always P (past ++ [⟨op, r⟩]) (k r)

@[simp] theorem always_ret (P : List (Reply S) → Prog S α → Prop) (past : List (Reply S))
    (a : α) : Always P past (.ret a) ↔ P past (.ret a) := Iff.rfl

@[simp] theorem always_call (P : List (Reply S) → Prog S α → Prop) (past : List (Reply S))
    (op : S.Op) (k : S.Ans op → Prog S α) :
    Always P past (.call op k) ↔
      P past (.call op k) ∧ ∀ r, Always P (past ++ [⟨op, r⟩]) (k r) := Iff.rfl

theorem Always.here {P : List (Reply S) → Prog S α → Prop} {past : List (Reply S)}
    {p : Prog S α} (h : Always P past p) : P past p := by
  cases p with
  | ret a => exact h
  | call op k => exact h.1

theorem Always.next {P : List (Reply S) → Prog S α → Prop} {past : List (Reply S)} {op : S.Op}
    {k : S.Ans op → Prog S α} (h : Always P past (.call op k)) (r : S.Ans op) :
    Always P (past ++ [⟨op, r⟩]) (k r) :=
  h.2 r

theorem Always.mono {P Q : List (Reply S) → Prog S α → Prop} {past : List (Reply S)}
    {p : Prog S α} (h : Always P past p) (hPQ : ∀ past p, P past p → Q past p) :
    Always Q past p := by
  induction p generalizing past with
  | ret a => exact hPQ _ _ h
  | call op k ih => exact ⟨hPQ _ _ h.1, fun r => ih r (h.2 r)⟩

theorem always_of_forall {P : List (Reply S) → Prog S α → Prop} (h : ∀ past p, P past p)
    (past : List (Reply S)) (p : Prog S α) : Always P past p := by
  induction p generalizing past with
  | ret a => exact h _ _
  | call op k ih => exact ⟨h _ _, fun r => ih r _⟩

/-- A property of the heads of `p` is one of the heads of `p.map f`. -/
theorem Always.map {P : List (Reply S) → Head S α → Prop} {past : List (Reply S)} {p : Prog S α}
    (h : Always (fun past q => P past q.head) past p) (f : α → β) :
    Always (fun past q => ∃ hd, P past hd ∧ q.head = hd.map f) past (p.map f) := by
  induction p generalizing past with
  | ret a => exact ⟨_, h, rfl⟩
  | call op k ih => exact ⟨⟨_, h.1, rfl⟩, fun r => ih r (h.2 r)⟩

theorem Always.and {P Q : List (Reply S) → Prog S α → Prop} {past : List (Reply S)} {p : Prog S α}
    (h : Always P past p) (h' : Always Q past p) :
    Always (fun past q => P past q ∧ Q past q) past p := by
  induction p generalizing past with
  | ret a => exact ⟨h, h'⟩
  | call op k ih => exact ⟨⟨h.1, h'.1⟩, fun r => ih r (h.2 r) (h'.2 r)⟩

/-- The answers of a program are only added to. -/
theorem Always.since {P : List (Reply S) → Prog S α → Prop} {base past : List (Reply S)}
    {p : Prog S α} (h : Always P past p) (hbase : base <+: past) :
    Always (fun past q => base <+: past ∧ P past q) past p := by
  induction p generalizing past with
  | ret a => exact ⟨hbase, h⟩
  | call op k ih =>
      exact ⟨⟨hbase, h.1⟩, fun r => ih r (h.2 r) (hbase.trans (List.prefix_append _ _))⟩

/-- The points of `p >>= f` are the calls of `p`, and then the points of `f` from where `p`
returned. -/
theorem Always.bind {P : List (Reply S) → Prog S α → Prop} {Q : List (Reply S) → Prog S β → Prop}
    {past : List (Reply S)} {p : Prog S α} {f : α → Prog S β} (h : Always P past p)
    (hcall : ∀ past op k, P past (.call op k) → Q past (.call op fun r => k r >>= f))
    (hret : ∀ past a, P past (.ret a) → Always Q past (f a)) : Always Q past (p >>= f) := by
  induction p generalizing past with
  | ret a => exact hret past a h
  | call op k ih => exact ⟨hcall past op k h.1, fun r => ih r (h.2 r)⟩

/-! ### Every call of a program -/

/-- `P` holds of every call that `p`, which has been answered `past`, can come to make. -/
def Calls (P : List (Reply S) → S.Op → Prop) : List (Reply S) → Prog S α → Prop
  | _, .ret _ => True
  | past, .call op k => P past op ∧ ∀ r, Calls P (past ++ [⟨op, r⟩]) (k r)

theorem Calls.always {P : List (Reply S) → S.Op → Prop} {past : List (Reply S)} {p : Prog S α}
    (h : Calls P past p) : Always (fun past p => ∀ op, p.head = .call op → P past op) past p := by
  induction p generalizing past with
  | ret a => exact fun op h => by cases h
  | call op k ih =>
      refine ⟨fun op' heq => ?_, fun r => ih r (h.2 r)⟩
      cases heq
      exact h.1

theorem Always.calls {P : List (Reply S) → S.Op → Prop} {Q : List (Reply S) → Head S α → Prop}
    {past : List (Reply S)} {p : Prog S α} (h : Always (fun past q => Q past q.head) past p)
    (hcall : ∀ past op, Q past (.call op) → P past op) : Calls P past p := by
  induction p generalizing past with
  | ret a => trivial
  | call op k ih => exact ⟨hcall past op h.1, fun r => ih r (h.2 r)⟩

theorem Calls.map {P : List (Reply S) → S.Op → Prop} {past : List (Reply S)} {p : Prog S α}
    (h : Calls P past p) (f : α → β) : Calls P past (p.map f) := by
  induction p generalizing past with
  | ret a => trivial
  | call op k ih => exact ⟨h.1, fun r => ih r (h.2 r)⟩

/-- The calls of `p >>= f` are those of `p`, and then those of `f` from where `p` returned. -/
theorem Calls.bind {P : List (Reply S) → S.Op → Prop} {Q : List (Reply S) → Prog S α → Prop}
    {past : List (Reply S)} {p : Prog S α} {f : α → Prog S β} (h : Always Q past p)
    (hcall : ∀ past op k, Q past (.call op k) → P past op)
    (hret : ∀ past a, Q past (.ret a) → Calls P past (f a)) : Calls P past (p >>= f) := by
  induction p generalizing past with
  | ret a => exact hret past a h
  | call op k ih => exact ⟨hcall past op k h.1, fun r => ih r (h.2 r)⟩

/-! ### Every result of a program -/

/-- `Q` holds of every result that `p`, which has been answered `past`, can come to. -/
def Returns (Q : List (Reply S) → α → Prop) : List (Reply S) → Prog S α → Prop
  | past, .ret a => Q past a
  | past, .call op k => ∀ r, Returns Q (past ++ [⟨op, r⟩]) (k r)

@[simp] theorem returns_ret (Q : List (Reply S) → α → Prop) (past : List (Reply S)) (a : α) :
    Returns Q past (.ret a) ↔ Q past a := Iff.rfl

theorem Returns.always {Q : List (Reply S) → α → Prop} {past : List (Reply S)} {p : Prog S α}
    (h : Returns Q past p) : Always (fun past p => ∀ a, p.head = .ret a → Q past a) past p := by
  induction p generalizing past with
  | ret a =>
      intro b heq
      cases heq
      exact h
  | call op k ih => exact ⟨fun a heq => (nomatch heq), fun r => ih r (h r)⟩

theorem Always.returns {P : List (Reply S) → Head S α → Prop} {past : List (Reply S)}
    {p : Prog S α} (h : Always (fun past q => P past q.head) past p) :
    Returns (fun past a => P past (.ret a)) past p := by
  induction p generalizing past with
  | ret a => exact h
  | call op k ih => exact fun r => ih r (h.2 r)

theorem Returns.mono {P Q : List (Reply S) → α → Prop} {past : List (Reply S)} {p : Prog S α}
    (h : Returns P past p) (hPQ : ∀ past a, P past a → Q past a) : Returns Q past p := by
  induction p generalizing past with
  | ret a => exact hPQ _ _ h
  | call op k ih => exact fun r => ih r (h r)

theorem Returns.and {P Q : List (Reply S) → α → Prop} {past : List (Reply S)} {p : Prog S α}
    (hP : Returns P past p) (hQ : Returns Q past p) :
    Returns (fun past a => P past a ∧ Q past a) past p := by
  induction p generalizing past with
  | ret a => exact ⟨hP, hQ⟩
  | call op k ih => exact fun r => ih r (hP r) (hQ r)

theorem Returns.map {Q : List (Reply S) → β → Prop} {past : List (Reply S)} {p : Prog S α}
    {f : α → β} (h : Returns (fun past a => Q past (f a)) past p) : Returns Q past (p.map f) := by
  induction p generalizing past with
  | ret a => exact h
  | call op k ih => exact fun r => ih r (h r)

/-- The results of `p >>= f` are those of `f` from where `p` returned. -/
theorem Returns.bind {P : List (Reply S) → α → Prop} {Q : List (Reply S) → β → Prop}
    {past : List (Reply S)} {p : Prog S α} {f : α → Prog S β} (h : Returns P past p)
    (hret : ∀ past a, P past a → Returns Q past (f a)) : Returns Q past (p >>= f) := by
  induction p generalizing past with
  | ret a => exact hret past a h
  | call op k ih => exact fun r => ih r (h r)

end Prog

end Interleave
