import AuthApp.Interleave.Trail

/-!
# Interleave — what changes between two reads

A call that reads twice, with no transaction around its reads, is answered from two states.  The
steps between them, read off the log, say how far apart the two answers can be.

* `pastOf_pair`: a call that has been answered twice took two steps of the log, and no other.
* `Trail.balance`: a number that steps of one kind raise by one, and steps of another lower.
* `Trail.lastWrite`: a value that is what the last step to write it wrote.
-/

namespace Interleave
open Pool

variable {S : Sig} {σ ι α χ ε β : Type}

namespace Pool

/-- The steps number `n` and `m` are the first and the second of the call `i`, and its only ones. -/
structure TwoSteps (log : List (Event S σ)) (i n m : Nat) (e f : Event S σ) : Prop where
  lt : n < m
  first : log[n]? = some e
  second : log[m]? = some f
  caller : e.caller = i
  caller' : f.caller = i
  only : ∀ k g, log[k]? = some g → g.caller = i → k = n ∨ k = m

theorem TwoSteps.unique {log : List (Event S σ)} {i n m n' m' : Nat} {e f e' f' : Event S σ}
    (h : TwoSteps log i n m e f) (h' : TwoSteps log i n' m' e' f') : n = n' ∧ m = m' := by
  have hlt := h.lt
  have hlt' := h'.lt
  rcases h'.only n e h.first h.caller with hn | hn <;>
    rcases h'.only m f h.second h.caller' with hm | hm <;> omega

/-- An entry of a list cut at one of its entries. -/
theorem getElem?_append_cons {l₁ l₂ : List α} {a x : α} {k : Nat}
    (h : (l₁ ++ a :: l₂)[k]? = some x) :
    x ∈ l₁ ∨ k = l₁.length ∨ ∃ j, k = l₁.length + 1 + j ∧ l₂[j]? = some x := by
  rcases Nat.lt_trichotomy k l₁.length with hlt | heq | hgt
  · rw [List.getElem?_append_left hlt] at h
    exact .inl (List.mem_of_getElem? h)
  · exact .inr (.inl heq)
  · obtain ⟨j, rfl⟩ := Nat.exists_eq_add_of_lt hgt
    rw [List.getElem?_append_right (by omega),
      show l₁.length + j + 1 - l₁.length = j + 1 by omega, List.getElem?_cons_succ] at h
    exact .inr (.inr ⟨j, by omega, h⟩)

/-- A call that has been answered twice took two steps. -/
theorem pastOf_pair {log : List (Event S σ)} {i : Nat} {r r' : Reply S}
    (h : pastOf i log = [r, r']) :
    ∃ n m e f, TwoSteps log i n m e f ∧ (⟨e.op, e.ans⟩ : Reply S) = r ∧
      (⟨f.op, f.ans⟩ : Reply S) = r' := by
  obtain ⟨l₁, e, rest, rfl, hl₁, he, hrest⟩ := List.filterMap_eq_cons_iff.mp h
  obtain ⟨l₂, f, l₃, rfl, hl₂, hf, hl₃⟩ := List.filterMap_eq_cons_iff.mp hrest
  rw [List.filterMap_eq_nil_iff] at hl₃
  have hcaller : ∀ {g : Event S σ} {r : Reply S},
      (if g.caller = i then some ⟨g.op, g.ans⟩ else none) = some r →
        g.caller = i ∧ (⟨g.op, g.ans⟩ : Reply S) = r := by
    intro g r hg
    split at hg
    · next hi => exact ⟨hi, Option.some.inj hg⟩
    · cases hg
  have hother : ∀ {g : Event S σ},
      (if g.caller = i then some (⟨g.op, g.ans⟩ : Reply S) else none) = none → g.caller ≠ i := by
    intro g hg hi
    rw [if_pos hi] at hg
    cases hg
  obtain ⟨hei, her⟩ := hcaller he
  obtain ⟨hfi, hfr⟩ := hcaller hf
  refine ⟨l₁.length, l₁.length + 1 + l₂.length, e, f, ⟨by omega, by simp, ?_, hei, hfi, ?_⟩,
    her, hfr⟩
  · rw [List.getElem?_append_right (by omega),
      show l₁.length + 1 + l₂.length - l₁.length = l₂.length + 1 by omega,
      List.getElem?_cons_succ, List.getElem?_append_right (Nat.le_refl _), Nat.sub_self,
      List.getElem?_cons_zero]
  · intro k g hk hg
    rcases getElem?_append_cons hk with hmem | rfl | ⟨j, rfl, hj⟩
    · exact absurd hg (hother (hl₁ g hmem))
    · exact .inl rfl
    rcases getElem?_append_cons hj with hmem | rfl | ⟨j', rfl, hj'⟩
    · exact absurd hg (hother (hl₂ g hmem))
    · exact .inr rfl
    · exact absurd hg (hother (hl₃ g (List.mem_of_getElem? hj')))

end Pool

namespace System.Trail
variable {sys : System S σ ι α χ ε} {s t : σ} {log : List (Event S σ)}

/-- A number that each step moves by one, up or down, or leaves alone. -/
theorem balance {f : σ → Nat} {enters leaves : Event S σ → Bool}
    (henv : ∀ a s, f (sys.env a s) = f s) (h : sys.Trail s log t)
    (hlog : ∀ e ∈ log, f e.post + (if leaves e then 1 else 0) =
      f e.pre + if enters e then 1 else 0) :
    f t + log.countP leaves = f s + log.countP enters := by
  induction h with
  | nil s => rfl
  | step c e hs _ _ ih =>
      subst hs
      have hrest := ih fun g hg => hlog g (List.mem_cons_of_mem _ hg)
      have hstep := hlog e List.mem_cons_self
      rw [List.countP_cons, List.countP_cons]
      omega
  | env a _ ih => rw [ih hlog, henv]

/-- A value that each step writes, or leaves alone. -/
theorem lastWrite {v : σ → β} {writes : Event S σ → Option β}
    (henv : ∀ a s, v (sys.env a s) = v s) (h : sys.Trail s log t)
    (hlog : ∀ e ∈ log, v e.post = (writes e).getD (v e.pre)) :
    v t = (log.filterMap writes).getLast?.getD (v s) := by
  induction h with
  | nil s => rfl
  | step c e hs _ _ ih =>
      subst hs
      rw [ih fun g hg => hlog g (List.mem_cons_of_mem _ hg), hlog e List.mem_cons_self,
        List.filterMap_cons]
      cases writes e with
      | none => rfl
      | some b =>
          rw [List.getLast?_cons]
          cases (List.filterMap writes _).getLast? <;> rfl
  | env a _ ih => rw [ih hlog, henv]

end System.Trail

end Interleave
