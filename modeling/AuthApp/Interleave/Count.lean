import AuthApp.Interleave.Trail

/-!
# Interleave — counting

Steps of a kind are counted in the log of a run, and by the calls that took them.

* `Run.countP_calls`: when each call took one step of a kind or none, there are as many such steps
  in the log as there are calls that took one.
* `countP_le` and `Run.countP_le_one`: steps of one kind are no more than those of another, if they
  are not in the past of any call; and a call takes a step of a kind once, if its program does.
* `Trail.count`: a number that each step of a kind raises by one, and nothing else moves, has been
  raised by as many as there are such steps.
-/

namespace Interleave
open Pool

variable {S : Sig} {σ ι α χ ε : Type}

namespace Pool

/-- The steps of the first `k + 1` calls are those of the first `k`, and those of one more. -/
theorem countP_caller_succ (A : Nat → Reply S → Bool) (log : List (Event S σ)) (k : Nat) :
    log.countP (fun e => decide (e.caller < k + 1) && A e.caller ⟨e.op, e.ans⟩) =
      log.countP (fun e => decide (e.caller < k) && A e.caller ⟨e.op, e.ans⟩) +
        (pastOf k log).countP (A k) := by
  induction log with
  | nil => rfl
  | cons e log ih =>
      have hcons : (pastOf k (e :: log)).countP (A k) =
          (pastOf k log).countP (A k) + if e.caller = k ∧ A k ⟨e.op, e.ans⟩ then 1 else 0 := by
        by_cases hk : e.caller = k
        · simp [pastOf, hk, List.countP_cons]
        · simp [pastOf, hk]
      rw [List.countP_cons, List.countP_cons, ih, hcons]
      rcases Nat.lt_trichotomy e.caller k with hk | hk | hk
      · simp [hk, Nat.lt_succ_of_lt hk, Nat.ne_of_lt hk]
        omega
      · simp [hk]
        omega
      · simp [Nat.not_lt.mpr (Nat.le_of_lt hk), Nat.not_lt.mpr (Nat.succ_le_of_lt hk),
          (Nat.ne_of_lt hk).symm]

/-- The steps of a log, by the calls that took them. -/
theorem exists_countP_eq (log : List (Event S σ)) : ∃ k, ∀ A : Nat → Reply S → Bool,
    log.countP (fun e => decide (e.caller < k) && A e.caller ⟨e.op, e.ans⟩) =
      log.countP fun e => A e.caller ⟨e.op, e.ans⟩ := by
  obtain ⟨k, hk⟩ : ∃ k, ∀ e ∈ log, e.caller < k := by
    induction log with
    | nil => exact ⟨0, by simp⟩
    | cons e log ih =>
        obtain ⟨k, hk⟩ := ih
        refine ⟨max k (e.caller + 1), List.forall_mem_cons.mpr ⟨by omega, fun f hf => ?_⟩⟩
        exact Nat.lt_of_lt_of_le (hk f hf) (Nat.le_max_left _ _)
  exact ⟨k, fun A => List.countP_congr fun e he => by simp [hk e he]⟩

/-- Steps of one kind are no more than those of another, if they are no more in the past of any
call. -/
theorem countP_le {A B : Nat → Reply S → Bool} {log : List (Event S σ)}
    (h : ∀ i, (pastOf i log).countP (A i) ≤ (pastOf i log).countP (B i)) :
    log.countP (fun e => A e.caller ⟨e.op, e.ans⟩) ≤
      log.countP fun e => B e.caller ⟨e.op, e.ans⟩ := by
  obtain ⟨k, hk⟩ := exists_countP_eq log
  rw [← hk A, ← hk B]
  clear hk
  induction k with
  | zero => simp
  | succ k ih =>
      rw [countP_caller_succ, countP_caller_succ]
      exact Nat.add_le_add ih (h k)

end Pool

namespace System
variable {sys : System S σ ι α χ ε} {ok : Pool S σ ι α → Act ι χ ε → Prop}

/-- When each call took one step of a kind, or none, the log has as many as there are calls that
took one. -/
theorem Run.countP_calls {s : σ} {p : Pool S σ ι α} (h : sys.Run ok (.init s) p)
    {A : Reply S → Bool} {B : Call S ι α → Bool}
    (hcall : ∀ i c, p.calls[i]? = some c → (pastOf i p.log).countP A = if B c then 1 else 0) :
    p.log.countP (fun e => A ⟨e.op, e.ans⟩) = p.calls.countP B := by
  have hk : ∀ k ≤ p.calls.length,
      p.log.countP (fun e => decide (e.caller < k) && A ⟨e.op, e.ans⟩) =
        (p.calls.take k).countP B := by
    intro k hk
    induction k with
    | zero => simp
    | succ k ih =>
        obtain ⟨c, hc⟩ : ∃ c, p.calls[k]? = some c := ⟨_, List.getElem?_eq_getElem hk⟩
        rw [countP_caller_succ fun _ => A, ih (Nat.le_of_succ_le hk), hcall k c hc,
          List.take_add_one, hc, List.countP_append]
        simp [List.countP_cons]
  have hall := hk _ (Nat.le_refl _)
  rw [List.take_length] at hall
  rw [← hall]
  refine List.countP_congr fun e he => ?_
  simp [h.caller_lt e he]

/-- A call takes a step of a kind once, if its program does. -/
theorem Run.countP_le_one {s : σ} {p : Pool S σ ι α} (h : sys.Run ok (.init s) p)
    {A : S.Op → Bool}
    (honce : ∀ req, Prog.Calls (fun past op => A op = true → ∀ r ∈ past, A r.op = false) []
      (sys.code req)) (i : Nat) : (pastOf i p.log).countP (fun r => A r.op) ≤ 1 := by
  have hn : ∀ n ≤ p.log.length, (pastOf i (p.log.take n)).countP (fun r => A r.op) ≤ 1 := by
    intro n hn
    induction n with
    | zero => simp
    | succ n ih =>
        have hlt : n < p.log.length := hn
        have hget := List.getElem?_eq_getElem hlt
        rw [List.take_add_one, hget, Option.toList_some, pastOf_append, List.countP_append]
        by_cases hi : (p.log[n]).caller = i
        · by_cases hA : A (p.log[n]).op = true
          · -- the step is of the kind, so none before it is
            obtain ⟨req, d, -, hfirst⟩ := h.event_call honce hget
            rw [hi] at hfirst
            have hnone : (pastOf i (p.log.take n)).countP (fun r => A r.op) = 0 :=
              List.countP_eq_zero.mpr fun r hr => by simp [hfirst hA r hr]
            rw [hnone]
            simp [pastOf, hi, hA]
          · simpa [pastOf, hi, hA] using ih (Nat.le_of_lt hlt)
        · simpa [pastOf, hi] using ih (Nat.le_of_lt hlt)
  simpa using hn _ (Nat.le_refl _)

/-- A number that each step of a kind raises by one, and nothing else moves. -/
theorem Trail.count {f : σ → Int} {A : Event S σ → Bool} (henv : ∀ a s, f (sys.env a s) = f s)
    {s t : σ} {log : List (Event S σ)} (h : sys.Trail s log t)
    (hlog : ∀ e ∈ log, f e.post = f e.pre + if A e then 1 else 0) :
    f t = f s + log.countP A := by
  induction h with
  | nil s => simp
  | step c e hs _ _ ih =>
      subst hs
      rw [ih fun g hg => hlog g (List.mem_cons_of_mem _ hg), hlog e List.mem_cons_self,
        List.countP_cons]
      split
      · simp; omega
      · simp
  | env a _ ih => rw [ih hlog, henv]

end System

end Interleave
