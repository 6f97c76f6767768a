import AuthApp.Interleave.Sum
import Mathlib.Logic.Equiv.Defs

/-!
# Interleave — programs carried along

A component that works on top of several others makes the calls of each under a name of its own.
A map of signatures says what each operation is called there; a program of the smaller signature
is carried along it, and makes the same calls in the same order.

* `Sig.Hom.elim`: a map out of a sum.
* `Always.along`: what is proved of every point of a program is true of it where it is carried to.
* `Calls.named` and `Calls.seq`: what is proved of the calls of a program, and of one after another.
* `Returns.carried` and `Returns.seq`: the same of its results.
* `along_bind`, `inl_along` and `inr_along`: a program is carried along part by part, and a program
  of one side of a sum along the map of that side.
-/

namespace Interleave

/-- A map of operations, each with the answers it had. -/
structure Sig.Hom (S T : Sig) where
  op : S.Op → T.Op
  ans (op' : S.Op) : S.Ans op' ≃ T.Ans (op op')

variable {S T U : Sig} {α β : Type}

namespace Sig.Hom

/-- Out of a sum, each side along a map of its own. -/
def elim (f : Hom S U) (g : Hom T U) : Hom (S.sum T) U where
  op := Sum.elim f.op g.op
  ans
    | .inl op => f.ans op
    | .inr op => g.ans op

end Sig.Hom

/-- An answer, under the name its operation has there. -/
def Reply.along (f : S.Hom T) (r : Reply S) : Reply T := ⟨f.op r.op, f.ans r.op r.ans⟩

def Head.along (f : S.Hom T) : Head S α → Head T α
  | .call op => .call (f.op op)
  | .ret a => .ret a

theorem Head.along_eq_ret {f : S.Hom T} {h : Head S α} {a : α} (e : h.along f = .ret a) :
    h = .ret a := by
  cases h with
  | call op => cases e
  | ret b => cases e; rfl

theorem Head.along_eq_call {f : S.Hom T} {h : Head S α} {op : T.Op} (e : h.along f = .call op) :
    ∃ op₀, h = .call op₀ ∧ f.op op₀ = op := by
  cases h with
  | call op₀ => cases e; exact ⟨op₀, rfl, rfl⟩
  | ret a => cases e

namespace Prog
variable (f : S.Hom T)

/-- The program, making its calls under the names they have there. -/
def along : Prog S α → Prog T α
  | .ret a => .ret a
  | .call op k => .call (f.op op) fun r => (k ((f.ans op).symm r)).along

@[simp] theorem along_ret (a : α) : (Prog.ret a : Prog S α).along f = .ret a := rfl

@[simp] theorem along_call (op : S.Op) (k : S.Ans op → Prog S α) :
    (Prog.call op k).along f = .call (f.op op) fun r => (k ((f.ans op).symm r)).along f := rfl

theorem along_bind (p : Prog S α) (g : α → Prog S β) :
    (p >>= g).along f = p.along f >>= fun a => (g a).along f := by
  induction p with
  | ret a => rfl
  | call op k ih => exact congrArg (Prog.call (f.op op)) (funext fun r => ih _)

theorem along_map (p : Prog S α) (g : α → β) : (p.map g).along f = (p.along f).map g :=
  along_bind f p fun a => .ret (g a)

/-- What `P` says of a point that is reached after `past`, of that point where the program is
carried to, reached after `base`. -/
def OnAlong (P : List (Reply S) → Head S α → Prop) (base : List (Reply T)) (past : List (Reply S))
    (past' : List (Reply T)) (head : Head T α) : Prop :=
  ∃ rest head₀, P (past ++ rest) head₀ ∧ past' = base ++ rest.map (Reply.along f) ∧
    head = head₀.along f

variable {f}

/-- A property of the points of a program holds of it where it is carried to, whatever has been
answered there before. -/
theorem Always.along {P : List (Reply S) → Head S α → Prop} {past : List (Reply S)} {p : Prog S α}
    (h : Always (fun past q => P past q.head) past p) (base : List (Reply T)) :
    Always (fun past' q => OnAlong f P base past past' q.head) base (p.along f) := by
  induction p generalizing past base with
  | ret a => exact ⟨[], _, (List.append_nil past).symm ▸ h, (List.append_nil base).symm, rfl⟩
  | call op k ih =>
      refine ⟨⟨[], _, (List.append_nil past).symm ▸ h.1, (List.append_nil base).symm, rfl⟩, ?_⟩
      intro r
      refine (ih _ (h.2 ((f.ans op).symm r)) _).mono ?_
      rintro _ q ⟨rest, head, hp, rfl, hhead⟩
      refine ⟨⟨op, (f.ans op).symm r⟩ :: rest, head, by rwa [List.append_assoc] at hp, ?_, hhead⟩
      rw [List.map_cons, Reply.along, Equiv.apply_symm_apply]
      exact List.append_assoc ..

/-- A property of the results of a program, where it is carried to. -/
theorem Returns.along {Q : List (Reply S) → α → Prop} {past : List (Reply S)} {p : Prog S α}
    (h : Returns Q past p) (base : List (Reply T)) :
    Always (fun past' q => OnAlong f (fun past head => ∀ a, head = .ret a → Q past a) base past
      past' q.head) base (p.along f) :=
  Always.along (P := fun past head => ∀ a, head = .ret a → Q past a) h.always base

/-- A property of the results of a program and one of its calls, where it is carried to. -/
theorem Returns.along_calls {Q : List (Reply S) → α → Prop} {P : List (Reply S) → S.Op → Prop}
    {past : List (Reply S)} {p : Prog S α} (h : Returns Q past p) (hcalls : Calls P past p)
    (base : List (Reply T)) :
    Always (fun past' q => OnAlong f (fun past head => (∀ a, head = .ret a → Q past a) ∧
      ∀ op, head = .call op → P past op) base past past' q.head) base (p.along f) :=
  Always.along (P := fun past head => (∀ a, head = .ret a → Q past a) ∧
    ∀ op, head = .call op → P past op) (h.always.and hcalls.always) base

/-- Where it is carried to, a program makes only calls that have a name there. -/
theorem always_along (base : List (Reply T)) (p : Prog S α) :
    Always (fun past q => base <+: past ∧ ∀ op, q.head = .call op → ∃ op₀, op = f.op op₀) base
      (p.along f) := by
  have hall := Always.along (f := f) (P := fun _ _ => True)
    (always_of_forall (fun _ _ => trivial) [] p) base
  refine hall.mono ?_
  rintro past q ⟨rest, head, -, rfl, hhead⟩
  refine ⟨List.prefix_append _ _, fun op heq => ?_⟩
  obtain ⟨op₀, -, rfl⟩ := Head.along_eq_call (hhead.symm.trans heq)
  exact ⟨op₀, rfl⟩

/-- What is known of the operations a program calls holds of its calls, whatever has been answered
where it is carried to. -/
theorem Calls.named {P₀ : S.Op → Prop} {P : List (Reply T) → T.Op → Prop} {past : List (Reply S)}
    {base : List (Reply T)} {p : Prog S α} (h : Calls (fun _ op => P₀ op) past p)
    (hP : ∀ past op, base <+: past → P₀ op → P past (f.op op)) : Calls P base (p.along f) := by
  induction p generalizing past base with
  | ret a => trivial
  | call op k ih =>
      refine ⟨hP base op (List.prefix_refl base) h.1, fun r => ih _ (h.2 _) fun past op' hp => ?_⟩
      exact hP past op' ((List.prefix_append _ _).trans hp)

theorem calls_of_forall {P : S.Op → Prop} (h : ∀ op, P op) (past : List (Reply S))
    (p : Prog S α) : Calls (fun _ op => P op) past p := by
  induction p generalizing past with
  | ret a => trivial
  | call op k ih => exact ⟨h op, fun r => ih r _⟩

/-- What holds of every operation of the smaller signature holds of every call. -/
theorem calls_along {P : List (Reply T) → T.Op → Prop} {base : List (Reply T)}
    (h : ∀ past op, base <+: past → P past (f.op op)) (p : Prog S α) :
    Calls P base (p.along f) :=
  (calls_of_forall (P := fun _ => True) (fun _ => trivial) [] p).named fun past op hp _ =>
    h past op hp

/-- A call where it is carried to, and what follows it. -/
theorem Calls.perform_along {P : List (Reply T) → T.Op → Prop} {base : List (Reply T)} {op : S.Op}
    {g : S.Ans op → Prog S α} (h : P base (f.op op))
    (hnext : ∀ r, Calls P (base ++ [⟨f.op op, f.ans op r⟩]) ((g r).along f)) :
    Calls P base ((perform op >>= g).along f) := by
  refine ⟨h, fun r => ?_⟩
  have hr := hnext ((f.ans op).symm r)
  rwa [Equiv.apply_symm_apply] at hr

/-- One program after another, the second with more answers than the first began with. -/
theorem Calls.seq {P : List (Reply S) → S.Op → Prop} {past : List (Reply S)} {p : Prog S α}
    {g : α → Prog S β} (h : Calls P past p)
    (hnext : ∀ past' a, past <+: past' → Calls P past' (g a)) : Calls P past (p >>= g) := by
  induction p generalizing past with
  | ret a => exact hnext past a (List.prefix_refl past)
  | call op k ih =>
      refine ⟨h.1, fun r => ih r (h.2 r) fun past' a hp => hnext past' a ?_⟩
      exact (List.prefix_append _ _).trans hp

/-- What is known of the results of a program holds of them where it is carried to. -/
theorem Returns.carried {Q : α → Prop} {past : List (Reply S)} {p : Prog S α}
    (h : Returns (fun _ a => Q a) past p) (base : List (Reply T)) :
    Returns (fun _ a => Q a) base (p.along f) := by
  induction p generalizing past base with
  | ret a => exact h
  | call op k ih => exact fun r => ih _ (h _) _

/-- The results of the second of two programs, with more answers than the first began with. -/
theorem Returns.seq {Q : List (Reply S) → β → Prop} {past : List (Reply S)} {p : Prog S α}
    {g : α → Prog S β} (h : ∀ past' a, past <+: past' → Returns Q past' (g a)) :
    Returns Q past (p >>= g) := by
  induction p generalizing past with
  | ret a => exact h past a (List.prefix_refl past)
  | call op k ih =>
      exact fun r => ih r fun past' a hp => h past' a ((List.prefix_append _ _).trans hp)

/-! ### Out of a sum -/

/-- A program of one side goes along the map of that side. -/
@[simp] theorem inl_along (f : S.Hom U) (g : T.Hom U) (p : Prog S α) :
    (p.inl (T := T)).along (f.elim g) = p.along f := by
  induction p with
  | ret a => rfl
  | call op k ih => exact congrArg (Prog.call (f.op op)) (funext fun r => ih _)

@[simp] theorem inr_along (f : S.Hom U) (g : T.Hom U) (p : Prog T α) :
    (p.inr (S := S)).along (f.elim g) = p.along g := by
  induction p with
  | ret a => rfl
  | call op k ih => exact congrArg (Prog.call (g.op op)) (funext fun r => ih _)

end Prog

end Interleave
