import AuthApp.Interleave.Program

/-!
# Interleave — sums of signatures

A component that works on top of two others makes the calls of both, and each side keeps a state
of its own.

* `lefts`, `rights`: what each side answered, of the answers of the sum.
* `Prog.inl`, `Prog.inr`: a program of one side, as a program of the sum.
* `Always.inl`, `Always.inr`: what is proved of every point of a program of one side.
* `Returns.inl`, `Returns.inr`: what is proved of every result of one, from any past of the sum.
* `Exec.sum`: the operations of the sum; those of one side leave the state of the other alone.
-/

namespace Interleave

abbrev Sig.sumAns (S T : Sig) : S.Op ⊕ T.Op → Type
  | .inl op => S.Ans op
  | .inr op => T.Ans op

/-- The operations of two signatures. -/
abbrev Sig.sum (S T : Sig) : Sig := ⟨S.Op ⊕ T.Op, S.sumAns T⟩

variable {S T : Sig} {α β σ τ : Type}

/-- The operations of two sides, side by side. -/
def Exec.sum (f : Exec S σ) (g : Exec T τ) : Exec (S.sum T) (σ × τ)
  | .inl op, s => ((f op s.1).1, (f op s.1).2, s.2)
  | .inr op, s => ((g op s.2).1, s.1, (g op s.2).2)

@[simp] theorem Exec.sum_inl (f : Exec S σ) (g : Exec T τ) (op : S.Op) (s : σ × τ) :
    Exec.sum f g (.inl op) s = ((f op s.1).1, (f op s.1).2, s.2) := rfl

@[simp] theorem Exec.sum_inr (f : Exec S σ) (g : Exec T τ) (op : T.Op) (s : σ × τ) :
    Exec.sum f g (.inr op) s = ((g op s.2).1, s.1, (g op s.2).2) := rfl

/-- An answer of the left side. -/
def Reply.inl (r : Reply S) : Reply (S.sum T) := ⟨.inl r.op, r.ans⟩

/-- An answer of the right side. -/
def Reply.inr (r : Reply T) : Reply (S.sum T) := ⟨.inr r.op, r.ans⟩

/-- The answer, if it is one of the left side. -/
def Reply.left? : Reply (S.sum T) → Option (Reply S)
  | ⟨.inl op, ans⟩ => some ⟨op, ans⟩
  | ⟨.inr _, _⟩ => none

/-- The answer, if it is one of the right side. -/
def Reply.right? : Reply (S.sum T) → Option (Reply T)
  | ⟨.inl _, _⟩ => none
  | ⟨.inr op, ans⟩ => some ⟨op, ans⟩

/-- What the left side answered. -/
def lefts (past : List (Reply (S.sum T))) : List (Reply S) := past.filterMap Reply.left?

/-- What the right side answered. -/
def rights (past : List (Reply (S.sum T))) : List (Reply T) := past.filterMap Reply.right?

@[simp] theorem lefts_nil : lefts ([] : List (Reply (S.sum T))) = [] := rfl

@[simp] theorem rights_nil : rights ([] : List (Reply (S.sum T))) = [] := rfl

@[simp] theorem lefts_append (past rest : List (Reply (S.sum T))) :
    lefts (past ++ rest) = lefts past ++ lefts rest := List.filterMap_append

@[simp] theorem rights_append (past rest : List (Reply (S.sum T))) :
    rights (past ++ rest) = rights past ++ rights rest := List.filterMap_append

@[simp] theorem lefts_cons_inl (op : S.Op) (ans : S.Ans op) (past : List (Reply (S.sum T))) :
    lefts (⟨.inl op, ans⟩ :: past) = ⟨op, ans⟩ :: lefts past := rfl

@[simp] theorem lefts_cons_inr (op : T.Op) (ans : T.Ans op) (past : List (Reply (S.sum T))) :
    lefts (⟨.inr op, ans⟩ :: past) = lefts past := rfl

@[simp] theorem rights_cons_inl (op : S.Op) (ans : S.Ans op) (past : List (Reply (S.sum T))) :
    rights (⟨.inl op, ans⟩ :: past) = rights past := rfl

@[simp] theorem rights_cons_inr (op : T.Op) (ans : T.Ans op) (past : List (Reply (S.sum T))) :
    rights (⟨.inr op, ans⟩ :: past) = ⟨op, ans⟩ :: rights past := rfl

@[simp] theorem lefts_map_inl (past : List (Reply S)) :
    lefts (past.map (Reply.inl (T := T))) = past := by
  induction past with
  | nil => rfl
  | cons r past ih => exact congrArg (r :: ·) ih

@[simp] theorem lefts_map_inr (past : List (Reply T)) :
    lefts (past.map (Reply.inr (S := S))) = [] := by
  induction past with
  | nil => rfl
  | cons r past ih => exact ih

@[simp] theorem rights_map_inl (past : List (Reply S)) :
    rights (past.map (Reply.inl (T := T))) = [] := by
  induction past with
  | nil => rfl
  | cons r past ih => exact ih

@[simp] theorem rights_map_inr (past : List (Reply T)) :
    rights (past.map (Reply.inr (S := S))) = past := by
  induction past with
  | nil => rfl
  | cons r past ih => exact congrArg (r :: ·) ih

def Head.inl : Head S α → Head (S.sum T) α
  | .call op => .call (.inl op)
  | .ret a => .ret a

def Head.inr : Head T α → Head (S.sum T) α
  | .call op => .call (.inr op)
  | .ret a => .ret a

theorem Head.inl_eq_call_inl {h : Head S α} {op : S.Op}
    (e : (h.inl : Head (S.sum T) α) = .call (.inl op)) : h = .call op := by
  cases h with
  | call op' => cases e; rfl
  | ret a => cases e

theorem Head.inl_eq_ret {h : Head S α} {a : α} (e : (h.inl : Head (S.sum T) α) = .ret a) :
    h = .ret a := by
  cases h with
  | call op => cases e
  | ret b => cases e; rfl

namespace Prog

/-- A program of the left side. -/
def inl : Prog S α → Prog (S.sum T) α
  | .ret a => .ret a
  | .call op k => .call (S := S.sum T) (.inl op) fun r => (k r).inl

/-- A program of the right side. -/
def inr : Prog T α → Prog (S.sum T) α
  | .ret a => .ret a
  | .call op k => .call (S := S.sum T) (.inr op) fun r => (k r).inr

@[simp] theorem inl_ret (a : α) : (Prog.ret a : Prog S α).inl (T := T) = .ret a := rfl

@[simp] theorem inl_call (op : S.Op) (k : S.Ans op → Prog S α) :
    (Prog.call op k).inl (T := T) = .call (S := S.sum T) (.inl op) fun r => (k r).inl := rfl

@[simp] theorem inr_ret (a : α) : (Prog.ret a : Prog T α).inr (S := S) = .ret a := rfl

@[simp] theorem inr_call (op : T.Op) (k : T.Ans op → Prog T α) :
    (Prog.call op k).inr (S := S) = .call (S := S.sum T) (.inr op) fun r => (k r).inr := rfl

/-- What `P` says of a point of the left side, of that point in the sum. -/
def OnLeft (P : List (Reply S) → Head S α → Prop) (past : List (Reply (S.sum T)))
    (head : Head (S.sum T) α) : Prop :=
  ∃ past₀ head₀, P past₀ head₀ ∧ past = past₀.map Reply.inl ∧ head = head₀.inl

def OnRight (P : List (Reply T) → Head T α → Prop) (past : List (Reply (S.sum T)))
    (head : Head (S.sum T) α) : Prop :=
  ∃ past₀ head₀, P past₀ head₀ ∧ past = past₀.map Reply.inr ∧ head = head₀.inr

/-- A property of the points of a program holds of it as a program of the left side. -/
theorem Always.inl {P : List (Reply S) → Head S α → Prop} {past : List (Reply S)} {p : Prog S α}
    (h : Always (fun past q => P past q.head) past p) :
    Always (fun past q => OnLeft P past q.head) (past.map Reply.inl) (p.inl (T := T)) := by
  induction p generalizing past with
  | ret a => exact ⟨past, _, h, rfl, rfl⟩
  | call op k ih =>
      refine ⟨⟨past, _, h.1, rfl, rfl⟩, fun r => ?_⟩
      have hk := ih r (h.2 r)
      rwa [List.map_append] at hk

theorem Always.inr {P : List (Reply T) → Head T α → Prop} {past : List (Reply T)} {p : Prog T α}
    (h : Always (fun past q => P past q.head) past p) :
    Always (fun past q => OnRight P past q.head) (past.map Reply.inr) (p.inr (S := S)) := by
  induction p generalizing past with
  | ret a => exact ⟨past, _, h, rfl, rfl⟩
  | call op k ih =>
      refine ⟨⟨past, _, h.1, rfl, rfl⟩, fun r => ?_⟩
      have hk := ih r (h.2 r)
      rwa [List.map_append] at hk

/-- A program of the right side makes no call of the left. -/
theorem always_inr (past : List (Reply (S.sum T))) (p : Prog T α) :
    Always (fun _ q => ∀ op : S.Op, q.head ≠ .call (S := S.sum T) (.inl op)) past
      (p.inr (S := S)) := by
  induction p generalizing past with
  | ret a => exact fun op heq => nomatch heq
  | call op k ih => exact ⟨fun op heq => (nomatch heq), fun r => ih r _⟩

/-- A property of the results of a program holds of it as a program of the left side, whatever the
sum has been answered before. -/
theorem Returns.inl {Q : List (Reply S) → α → Prop} {past : List (Reply S)} {p : Prog S α}
    (h : Returns Q past p) (base : List (Reply (S.sum T))) :
    Returns (fun past' a => ∃ rest, past' = base ++ rest.map Reply.inl ∧ Q (past ++ rest) a) base
      (p.inl (T := T)) := by
  induction p generalizing past base with
  | ret a => exact ⟨[], (List.append_nil _).symm, (List.append_nil past).symm ▸ h⟩
  | call op k ih =>
      refine fun r => (ih r (h r) _).mono ?_
      rintro _ a ⟨rest, rfl, hq⟩
      exact ⟨⟨op, r⟩ :: rest, List.append_assoc .., by rwa [List.append_assoc] at hq⟩

theorem Returns.inr {Q : List (Reply T) → α → Prop} {past : List (Reply T)} {p : Prog T α}
    (h : Returns Q past p) (base : List (Reply (S.sum T))) :
    Returns (fun past' a => ∃ rest, past' = base ++ rest.map Reply.inr ∧ Q (past ++ rest) a) base
      (p.inr (S := S)) := by
  induction p generalizing past base with
  | ret a => exact ⟨[], (List.append_nil _).symm, (List.append_nil past).symm ▸ h⟩
  | call op k ih =>
      refine fun r => (ih r (h r) _).mono ?_
      rintro _ a ⟨rest, rfl, hq⟩
      exact ⟨⟨op, r⟩ :: rest, List.append_assoc .., by rwa [List.append_assoc] at hq⟩

end Prog

end Interleave
