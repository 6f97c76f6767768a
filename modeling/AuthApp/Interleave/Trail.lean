import AuthApp.Interleave.Rules

/-!
# Interleave — trails

The states of a run, read off its log: the pool starts at one state, each logged step takes the
state it found to the state it left, and between two steps only the environment acts.  What holds
along a stretch of the log is proved from that stretch alone.

* `Run.trail` and `Run.suffix`: the log of a run is a trail, and so is what a run adds to it.
* `Trail.before`, `Trail.after`, `Trail.between`: the stretches a logged step cuts out of a trail.
* `Trail.mono` and `Trail.mono_exec`: a preorder that every step of a stretch and the environment
  respect relates its ends.
* `Trail.inv` and `Trail.inv_exec`: an invariant of a stretch.
* `Trail.inv_take`, `Trail.inv_after`, `Trail.inv_before` and `Trail.inv_between`: an invariant of
  a stretch, by the numbers of its steps.
* `Trail.turned_before` and `Trail.turned_between`: what holds was made true by a step.
* `Run.once`: an answer that makes a stable property true goes to one caller at most.
* `same_next`: what is answered next to an answer that is given once is one answer.
-/

namespace Interleave
open Pool

variable {S : Sig} {σ ι α χ ε : Type}

namespace System

/-- The steps `log` take the state `s` to the state `t`, with the environment acting in between. -/
inductive Trail (sys : System S σ ι α χ ε) : σ → List (Event S σ) → σ → Prop where
  | nil (s : σ) : Trail sys s [] s
  | step {s t : σ} {log : List (Event S σ)} (c : χ) (e : Event S σ) (hs : e.pre = s)
      (he : sys.exec c e.op e.pre = (e.ans, e.post)) (ht : Trail sys e.post log t) :
      Trail sys s (e :: log) t
  | env {s t : σ} {log : List (Event S σ)} (a : ε) (ht : Trail sys (sys.env a s) log t) :
      Trail sys s log t

variable {sys : System S σ ι α χ ε} {ok : Pool S σ ι α → Act ι χ ε → Prop}

namespace Trail

theorem append {s t u : σ} {l₁ l₂ : List (Event S σ)} (h₁ : sys.Trail s l₁ t)
    (h₂ : sys.Trail t l₂ u) : sys.Trail s (l₁ ++ l₂) u := by
  induction h₁ with
  | nil => exact h₂
  | step c e hs he _ ih => exact .step c e hs he (ih h₂)
  | env a _ ih => exact .env a (ih h₂)

/-- A trail cut at one of its steps. -/
theorem split {s t : σ} {l₁ l₂ : List (Event S σ)} {e : Event S σ}
    (h : sys.Trail s (l₁ ++ e :: l₂) t) : sys.Trail s l₁ e.pre ∧ sys.Trail e.post l₂ t := by
  generalize hl : l₁ ++ e :: l₂ = l at h
  induction h generalizing l₁ with
  | nil => simp at hl
  | env a _ ih =>
      obtain ⟨h₁, h₂⟩ := ih hl
      exact ⟨.env a h₁, h₂⟩
  | step c f hs hf hr ih =>
      cases l₁ with
      | nil =>
          obtain ⟨rfl, rfl⟩ := List.cons.inj hl
          exact ⟨hs ▸ .nil _, hr⟩
      | cons g l₁ =>
          obtain ⟨rfl, htl⟩ := List.cons.inj hl
          obtain ⟨h₁, h₂⟩ := ih htl
          exact ⟨.step c g hs hf h₁, h₂⟩

/-- Each step of a trail is one of the operations. -/
theorem exec {s t : σ} {log : List (Event S σ)} (h : sys.Trail s log t) :
    ∀ e ∈ log, ∃ c, sys.exec c e.op e.pre = (e.ans, e.post) := by
  induction h with
  | nil => intro e he; cases he
  | step c f hs hf _ ih =>
      intro e he
      rcases List.mem_cons.mp he with rfl | he
      · exact ⟨c, hf⟩
      · exact ih e he
  | env a _ ih => exact ih

section Cut
variable {s t : σ} {log : List (Event S σ)} {n m : Nat} {e f : Event S σ}

theorem cut (hn : log[n]? = some e) : log = log.take n ++ e :: log.drop (n + 1) := by
  obtain ⟨hlt, rfl⟩ := List.getElem?_eq_some_iff.mp hn
  rw [← List.drop_eq_getElem_cons hlt, List.take_append_drop]

/-- The trail up to a step. -/
theorem before (h : sys.Trail s log t) (hn : log[n]? = some e) :
    sys.Trail s (log.take n) e.pre := by
  rw [cut hn] at h
  exact h.split.1

/-- The trail from a step on. -/
theorem after (h : sys.Trail s log t) (hn : log[n]? = some e) :
    sys.Trail e.post (log.drop (n + 1)) t := by
  rw [cut hn] at h
  exact h.split.2

/-- The trail from a step on, the step itself included. -/
theorem since (h : sys.Trail s log t) (hn : log[n]? = some e) :
    sys.Trail e.pre (log.drop n) t := by
  obtain ⟨hlt, rfl⟩ := List.getElem?_eq_some_iff.mp hn
  obtain ⟨c, hc⟩ := h.exec _ (List.mem_of_getElem? hn)
  rw [List.drop_eq_getElem_cons hlt]
  exact .step c _ rfl hc (h.after hn)

/-- The trail from one step to another. -/
theorem between (h : sys.Trail s log t) (hn : log[n]? = some e) (hm : log[m]? = some f)
    (hnm : n < m) : sys.Trail e.post ((log.take m).drop (n + 1)) f.pre :=
  (h.before hm).after (by rw [List.getElem?_take_of_lt hnm, hn])

/-- The trail from one step to another, the first included. -/
theorem sinceTo (h : sys.Trail s log t) (hn : log[n]? = some e) (hm : log[m]? = some f)
    (hnm : n < m) : sys.Trail e.pre ((log.take m).drop n) f.pre :=
  (h.before hm).since (by rw [List.getElem?_take_of_lt hnm, hn])

end Cut

/-- A preorder that every step of a trail and the environment respect relates its ends. -/
theorem mono {M : σ → σ → Prop} (hrefl : ∀ s, M s s)
    (htrans : ∀ {a b c}, M a b → M b c → M a c) (henv : ∀ a s, M s (sys.env a s)) {s t : σ}
    {log : List (Event S σ)} (h : sys.Trail s log t) (hlog : ∀ e ∈ log, M e.pre e.post) :
    M s t := by
  induction h with
  | nil s => exact hrefl s
  | step c e hs _ _ ih =>
      obtain rfl := hs
      exact htrans (hlog e List.mem_cons_self) (ih fun f hf => hlog f (List.mem_cons_of_mem _ hf))
  | env a _ ih => exact htrans (henv a _) (ih hlog)

/-- An invariant that every step of a trail and the environment keep. -/
theorem inv {I : σ → Prop} (henv : ∀ a s, I s → I (sys.env a s)) {s t : σ}
    {log : List (Event S σ)} (h : sys.Trail s log t) (h₀ : I s)
    (hlog : ∀ e ∈ log, I e.pre → I e.post) : I t :=
  h.mono (M := fun s t => I s → I t) (fun _ hs => hs) (fun h₁ h₂ hs => h₂ (h₁ hs)) henv hlog h₀

section Stretches
variable {I : σ → Prop} (henv : ∀ a s, I s → I (sys.env a s)) {s t : σ} {log : List (Event S σ)}
  {n m : Nat} {e f : Event S σ}
include henv

/-- An invariant that each of the first `n` steps keeps. -/
theorem inv_take (h : sys.Trail s (log.take n) t) (h₀ : I s)
    (hlog : ∀ k g, k < n → log[k]? = some g → I g.pre → I g.post) : I t := by
  refine h.inv henv h₀ fun g hg => ?_
  obtain ⟨k, hk⟩ := List.mem_iff_getElem?.mp hg
  have hlt := (Nat.lt_min.mp (List.length_take ▸ (List.getElem?_eq_some_iff.mp hk).1)).1
  exact hlog k g hlt (List.getElem?_take_of_lt hlt ▸ hk)

/-- An invariant that each of the first `n` steps after one of them keeps. -/
theorem inv_after (h : sys.Trail s (log.take n) t) (hm : log[m]? = some e) (hmn : m < n)
    (h₀ : I e.post) (hlog : ∀ k g, m < k → k < n → log[k]? = some g → I g.pre → I g.post) :
    I t := by
  have hm' : (log.take n)[m]? = some e := by rw [List.getElem?_take_of_lt hmn, hm]
  refine (h.after hm').inv henv h₀ fun g hg => ?_
  obtain ⟨k, hk⟩ := List.mem_iff_getElem?.mp hg
  rw [List.getElem?_drop] at hk
  have hlt := (Nat.lt_min.mp (List.length_take ▸ (List.getElem?_eq_some_iff.mp hk).1)).1
  exact hlog (m + 1 + k) g (by omega) hlt (List.getElem?_take_of_lt hlt ▸ hk)

/-- An invariant that every step before one step keeps. -/
theorem inv_before (h : sys.Trail s log t) (hm : log[m]? = some f) (h₀ : I s)
    (hlog : ∀ k g, k < m → log[k]? = some g → I g.pre → I g.post) : I f.pre :=
  (h.before hm).inv_take henv h₀ hlog

/-- An invariant that every step between two steps keeps. -/
theorem inv_between (h : sys.Trail s log t) (hn : log[n]? = some e) (hm : log[m]? = some f)
    (hnm : n < m) (h₀ : I e.post)
    (hlog : ∀ k g, n < k → k < m → log[k]? = some g → I g.pre → I g.post) : I f.pre :=
  (h.before hm).inv_after henv hn hnm h₀ hlog

end Stretches

section Turning
variable {I : σ → Prop} (henv : ∀ a s, I (sys.env a s) → I s) {s t : σ} {log : List (Event S σ)}
  {n m : Nat} {e f : Event S σ}
include henv

/-- What holds before a step, and did not at the start, was made true by an earlier step. -/
theorem turned_before (h : sys.Trail s log t) (hm : log[m]? = some f) (hs : ¬ I s) (hf : I f.pre) :
    ∃ k g, k < m ∧ log[k]? = some g ∧ ¬ I g.pre ∧ I g.post := by
  by_contra hno
  have hkept := h.inv_before (I := fun s => ¬ I s) (fun a s hs hi => hs (henv a s hi)) hm hs
  refine hkept (fun k g hk hg hpre hpost => hno ⟨k, g, hk, hg, hpre, hpost⟩) hf

/-- What holds before a step, and did not after an earlier one, was made true in between. -/
theorem turned_between (h : sys.Trail s log t) (hn : log[n]? = some e) (hm : log[m]? = some f)
    (hnm : n < m) (he : ¬ I e.post) (hf : I f.pre) :
    ∃ k g, n < k ∧ k < m ∧ log[k]? = some g ∧ ¬ I g.pre ∧ I g.post := by
  by_contra hno
  have hkept := h.inv_between (I := fun s => ¬ I s) (fun a s hs hi => hs (henv a s hi)) hn hm hnm he
  refine hkept (fun k g hk hk' hg hpre hpost => hno ⟨k, g, hk, hk', hg, hpre, hpost⟩) hf

end Turning

/-- A preorder that every operation and the environment respect relates the ends of a trail. -/
theorem mono_exec {M : σ → σ → Prop} (hrefl : ∀ s, M s s)
    (htrans : ∀ {a b c}, M a b → M b c → M a c) (henv : ∀ a s, M s (sys.env a s))
    (hexec : ∀ c op s, M s (sys.exec c op s).2) {s t : σ} {log : List (Event S σ)}
    (h : sys.Trail s log t) : M s t := by
  induction h with
  | nil s => exact hrefl s
  | step c e hs he _ ih =>
      obtain rfl := hs
      have hstep := hexec c e.op e.pre
      rw [he] at hstep
      exact htrans hstep ih
  | env a _ ih => exact htrans (henv a _) ih

/-- An invariant that every operation and the environment keep. -/
theorem inv_exec {I : σ → Prop} (henv : ∀ a s, I s → I (sys.env a s))
    (hexec : ∀ c op s, I s → I (sys.exec c op s).2) {s t : σ} {log : List (Event S σ)}
    (h : sys.Trail s log t) (h₀ : I s) : I t :=
  h.mono_exec (M := fun s t => I s → I t) (fun _ hs => hs) (fun h₁ h₂ hs => h₂ (h₁ hs)) henv hexec
    h₀

end Trail

/-- What a run adds to the log is a trail. -/
theorem Run.suffix {p q : Pool S σ ι α} (h : sys.Run ok p q) :
    ∃ l, q.log = p.log ++ l ∧ sys.Trail p.store l q.store := by
  induction h with
  | refl => exact ⟨[], (List.append_nil _).symm, .nil _⟩
  | @snoc q r a _ _ hs ih =>
      obtain ⟨l, hl, ht⟩ := ih
      cases hs with
      | start req => exact ⟨l, hl, ht⟩
      | env a => exact ⟨l, hl, by simpa using ht.append (.env a (.nil _))⟩
      | step i c req op k h =>
          let e : Event S σ :=
            ⟨i, op, (sys.exec c op q.store).1, q.store, (sys.exec c op q.store).2⟩
          refine ⟨l ++ [e], ?_, ht.append (.step c e rfl rfl (.nil _))⟩
          rw [← List.append_assoc, ← hl]
          rfl

/-- The log of a run is a trail. -/
theorem Run.trail {s : σ} {p : Pool S σ ι α} (h : sys.Run ok (.init s) p) :
    sys.Trail s p.log p.store := by
  obtain ⟨l, hl, ht⟩ := h.suffix
  rw [hl]
  exact ht

/-! ### Answers that are given once -/

/-- Where an answer stands in the past of a call. -/
theorem pastOf_split {i n : Nat} {log : List (Event S σ)} {l₁ l₂ : List (Reply S)} {r : Reply S}
    (h : pastOf i (log.take n) = l₁ ++ r :: l₂) :
    ∃ k < n, ∃ e, log[k]? = some e ∧ e.caller = i ∧ (⟨e.op, e.ans⟩ : Reply S) = r ∧
      pastOf i (log.take k) = l₁ := by
  obtain ⟨log₁, rest, hlog, h₁, hrest⟩ := List.filterMap_eq_append_iff.mp h
  obtain ⟨skipped, e, log₂, rfl, hskipped, he, -⟩ := List.filterMap_eq_cons_iff.mp hrest
  have hcaller : e.caller = i := by
    by_contra hne
    rw [if_neg hne] at he
    cases he
  rw [if_pos hcaller] at he
  -- the step comes after those before it, and those of other calls that were skipped
  have hget : (log.take n)[(log₁ ++ skipped).length]? = some e := by
    rw [hlog, ← List.append_assoc]
    simp
  have hk : (log₁ ++ skipped).length < n := (Nat.lt_min.mp
    (List.length_take ▸ (List.getElem?_eq_some_iff.mp hget).1)).1
  have hbefore : log.take (log₁ ++ skipped).length = log₁ ++ skipped := by
    rw [← Nat.min_eq_left (Nat.le_of_lt hk), ← List.take_take, hlog, ← List.append_assoc,
      List.take_left]
  refine ⟨_, hk, e, ?_, hcaller, Option.some.inj he, ?_⟩
  · rw [List.getElem?_take_of_lt hk] at hget
    exact hget
  · rw [hbefore, pastOf_append, show pastOf i log₁ = l₁ from h₁]
    refine (congrArg (l₁ ++ ·) (List.filterMap_eq_nil_iff.mpr hskipped)).trans (List.append_nil l₁)

section Once
variable {I : σ → Prop} {A : Reply S → Prop} (henv : ∀ a s, I s → I (sys.env a s))
  (hexec : ∀ c op s, I s → I (sys.exec c op s).2)
  (hA : ∀ c s (r : Reply S) t, A r → sys.exec c r.op s = (r.ans, t) → ¬ I s ∧ I t)
include henv hexec hA

/-- An answer that makes a stable property true, and is not given where it holds, is given at
most once in a run. -/
theorem Run.event_once {s : σ} {p : Pool S σ ι α} (h : sys.Run ok (.init s) p) {n m : Nat}
    {e f : Event S σ} (hn : p.log[n]? = some e) (hm : p.log[m]? = some f)
    (he : A ⟨e.op, e.ans⟩) (hf : A ⟨f.op, f.ans⟩) : n = m := by
  -- after the earlier of two such answers the property holds, so the later one is not given
  have hlt : ∀ {n m : Nat} {e f : Event S σ}, p.log[n]? = some e → p.log[m]? = some f →
      A ⟨e.op, e.ans⟩ → A ⟨f.op, f.ans⟩ → ¬ n < m := by
    intro n m e f hn hm he hf hnm
    obtain ⟨c, hx⟩ := h.event_exec e (List.mem_of_getElem? hn)
    obtain ⟨d, hy⟩ := h.event_exec f (List.mem_of_getElem? hm)
    have hpost := (hA c e.pre ⟨e.op, e.ans⟩ e.post he hx).2
    have hpre := (h.trail.between hn hm hnm).inv_exec henv hexec hpost
    exact (hA d f.pre ⟨f.op, f.ans⟩ f.post hf hy).1 hpre
  have hnm := hlt hn hm he hf
  have hmn := hlt hm hn hf he
  omega

/-- Such an answer has gone to one caller. -/
theorem Run.once {s : σ} {p : Pool S σ ι α} (h : sys.Run ok (.init s) p) {i j n m : Nat}
    {r r' : Reply S} (hr : r ∈ pastOf i (p.log.take n)) (hr' : r' ∈ pastOf j (p.log.take m))
    (ha : A r) (ha' : A r') : i = j := by
  obtain ⟨a, _, _, _, _, he, _⟩ := h.reply_exec hr
  obtain ⟨b, _, _, _, _, hf, _⟩ := h.reply_exec hr'
  obtain rfl := h.event_once henv hexec hA he hf ha ha'
  exact congrArg Event.caller (Option.some.inj (he.symm.trans hf))

end Once

/-- What a call is answered right after an answer that is given once. -/
theorem same_next {log : List (Event S σ)} {r : Reply S}
    (honce : ∀ (n m : Nat) (e f : Event S σ), log[n]? = some e → log[m]? = some f →
      (⟨e.op, e.ans⟩ : Reply S) = r → (⟨f.op, f.ans⟩ : Reply S) = r → n = m)
    {i j n m : Nat} {l l' : List (Reply S)} {a b : Reply S}
    (hi : l ++ [r, a] = pastOf i (log.take n)) (hj : l' ++ [r, b] = pastOf j (log.take m)) :
    a = b := by
  obtain ⟨k, -, e, hk, rfl, hek, hl⟩ := pastOf_split hi.symm
  obtain ⟨k', -, f, hk', rfl, hfk, hl'⟩ := pastOf_split hj.symm
  obtain rfl := honce k k' e f hk hk' hek hfk
  obtain rfl := Option.some.inj (hk.symm.trans hk')
  obtain rfl := hl.symm.trans hl'
  -- of two pasts of one call, as long as each other, one is the beginning of the other
  have hsame : ∀ {n m : Nat} {a b : Reply S}, n ≤ m →
      l ++ [r, a] = pastOf e.caller (log.take n) → l ++ [r, b] = pastOf e.caller (log.take m) →
        a = b := by
    intro n m a b hnm hn hm
    have hpre : pastOf e.caller (log.take n) <+: pastOf e.caller (log.take m) := by
      obtain ⟨rest, hrest⟩ := List.take_prefix_take_left (l := log) hnm
      rw [← hrest, pastOf_append]
      exact List.prefix_append _ _
    rw [← hn, ← hm] at hpre
    simpa using hpre.eq_of_length (by simp)
  rcases Nat.le_total n m with hnm | hmn
  · exact hsame hnm hi hj
  · exact (hsame hmn hj hi).symm

end System

end Interleave
