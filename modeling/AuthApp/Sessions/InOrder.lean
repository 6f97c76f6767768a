import AuthApp.Sessions.Overtaking

/-!
# Sessions — requests in the order of the clock

Authentications of one token that do not overtake each other come to what they come to when they
take turns in the order of their readings of the clock.

* `deletion_earlier`: a call that finds no session read the clock after the one that deletes it.
* `live_in_turn`, `expired_in_turn` and `absent_in_turn`: each call finds of the session what it
  would find in its turn.
* `in_order`: every answer, and the session in the end, are those of the turns.
* `overtaken_expires`: a request that is overtaken logs its user out.
-/

namespace AuthApp.Sessions
open Interleave Pool Accounts

variable {τ : Type} {G : SessionTokenGenerator τ} {policy : SessionPolicy} {token : SessionToken}
  {db : SessionDb τ} {p : AuthPool τ}

/-! ### The steps of one call -/

/-- The reading of a call is among the readings. -/
theorem reading_of_past {n i : Nat} {t : Int} {rest : List (Reply sessionSig)}
    (hpast : pastOf i (p.log.take n) = ⟨.now, t⟩ :: rest) :
    ∃ y : Nat, (readings p.log)[y]? = some (i, t) := by
  have hmem : (i, t) ∈ readings (p.log.take n) :=
    mem_marks.mpr ⟨⟨.now, t⟩, by rw [hpast]; exact List.mem_cons_self, rfl⟩
  exact List.mem_iff_getElem?.mp ((marks_take p.log n).subset hmem)

theorem past_mono (i : Nat) {n m : Nat} (hnm : n ≤ m) :
    pastOf i (p.log.take n) <+: pastOf i (p.log.take m) :=
  (List.take_prefix_take_left hnm).filterMap _

/-- Between a step of a call and its next, the call has been answered that one step more. -/
theorem past_between {k n m : Nat} {e : Event sessionSig (SessionDb τ)} {r r' : Reply sessionSig}
    (hk : p.log[k]? = some e) (hkpast : pastOf e.caller (p.log.take k) = [r])
    (hmpast : pastOf e.caller (p.log.take m) = [r, r']) (hkn : k < n) (hnm : n ≤ m) :
    pastOf e.caller (p.log.take n) = [r, r'] := by
  have hsub := past_mono (p := p) e.caller hnm
  have hlt := length_pastOf_lt hk hkn
  rw [hkpast] at hlt
  rw [hmpast] at hsub
  exact hsub.eq_of_length_le hlt

/-- A call that has been answered less has taken an earlier step. -/
theorem lt_of_past {n m : Nat} {i : Nat} {r s s' : Reply sessionSig}
    (hn : pastOf i (p.log.take n) = [r]) (hm : pastOf i (p.log.take m) = [s, s']) : n < m := by
  by_contra hle
  have hlen := (past_mono (p := p) i (Nat.not_lt.mp hle)).length_le
  rw [hn, hm] at hlen
  exact absurd hlen (by simp)

/-- A call finds the session once. -/
theorem find_unique {n m : Nat} {e f : Event sessionSig (SessionDb τ)} {t u : Int}
    (hn : p.log[n]? = some e) (hm : p.log[m]? = some f) (hcaller : e.caller = f.caller)
    (he : pastOf e.caller (p.log.take n) = [⟨.now, t⟩])
    (hf : pastOf f.caller (p.log.take m) = [⟨.now, u⟩]) : n = m := by
  rcases Nat.lt_trichotomy n m with hlt | heq | hlt
  · have hlen := length_pastOf_lt hn hlt
    rw [hcaller, hf, ← hcaller, he] at hlen
    exact absurd hlen (Nat.lt_irrefl _)
  · exact heq
  · have hlen := length_pastOf_lt hm hlt
    rw [← hcaller, he, hcaller, hf] at hlen
    exact absurd hlen (Nat.lt_irrefl _)

section
variable {ok : AuthPool τ → Act Unit Unit SessionEnv → Prop}
  (h : (authentications G policy token).Run ok (.init db) p) (hq : p.Quiet)
include h hq

/-- Every call that read the clock found the session, or found that there is none, and
returned. -/
theorem find_of_reading {x i : Nat} {now : Int} (hx : (readings p.log)[x]? = some (i, now)) :
    ∃ n e rest a, p.log[n]? = some e ∧ e.caller = i ∧
      pastOf i (p.log.take n) = [⟨.now, now⟩] ∧
        pastOf i (p.log.take p.log.length) =
            ⟨.now, now⟩ :: ⟨.find token, e.pre.find token⟩ :: rest ∧
          AuthenticateTrace policy token (pastOf i (p.log.take p.log.length)) (.ret a) := by
  have hfly : inFlight p i = false := by
    rw [inFlight]
    split
    · next hc =>
        obtain ⟨a, ha⟩ := hq _ (List.mem_of_getElem? hc)
        cases ha
    · rfl
  obtain ⟨a, hret⟩ := returned_of_not_inFlight h (List.mem_of_getElem? hx) hfly
  rw [← List.take_length (l := p.log)] at hret
  have hshape : ∃ t found rest,
      pastOf i (p.log.take p.log.length) = ⟨.now, t⟩ :: ⟨.find token, found⟩ :: rest := by
    generalize pastOf i (p.log.take p.log.length) = past at hret
    cases hret <;> exact ⟨_, _, _, rfl⟩
  obtain ⟨t, found, rest, hpast⟩ := hshape
  obtain ⟨y, hy⟩ := reading_of_past hpast
  obtain rfl := reading_unique h hx hy
  obtain rfl : now = t := congrArg Prod.snd (Option.some.inj (hx.symm.trans hy))
  obtain ⟨n, e, -, hn, hcaller, hnpast, rfl, -⟩ := found_before h hpast
  exact ⟨n, e, rest, a, hn, hcaller, hnpast, hpast, hret⟩

section
variable {n : Nat} {e : Event sessionSig (SessionDb τ)} {now : Int} {found : Session}
  (hn : p.log[n]? = some e) (hpast : pastOf e.caller (p.log.take n) = [⟨.now, now⟩])
  (hfind : e.pre.find token = .ok (some found))
include hn hpast hfind

/-- A call that found the session went on from there and returned. -/
theorem trace_of_found :
    ∃ rest a, pastOf e.caller (p.log.take p.log.length) =
        ⟨.now, now⟩ :: ⟨.find token, .ok (some found)⟩ :: rest ∧
      AuthenticateTrace policy token
        (⟨.now, now⟩ :: ⟨.find token, .ok (some found)⟩ :: rest) (.ret a) := by
  obtain ⟨x, hx⟩ := reading_of_past hpast
  obtain ⟨m, f, rest, a, hm, hcaller, hmpast, hshape, hret⟩ := find_of_reading h hq hx
  obtain rfl := find_unique hn hm hcaller.symm hpast (hcaller ▸ hmpast)
  obtain rfl : e = f := Option.some.inj (hn.symm.trans hm)
  rw [hfind] at hshape
  exact ⟨rest, a, hshape, hshape ▸ hret⟩

/-- A call that found the session live touched it. -/
theorem touch_of_live (hlive : policy.isExpired found now = false) :
    ∃ m g, n < m ∧ g.caller = e.caller ∧ Touch policy token p m g now found := by
  obtain ⟨rest, a, hshape, hret⟩ := trace_of_found h hq hn hpast hfind
  cases hret with
  | expiredDone _ _ hx => rw [hlive] at hx; cases hx
  | liveFails _ _ _ err =>
      obtain ⟨-, k, g, -, hk, hg⟩ := touch_before h hshape
      exact ⟨k, g, lt_of_past hpast (hk ▸ hg.past), hk, hg⟩
  | liveDone =>
      obtain ⟨-, k, g, -, hk, hg⟩ := touch_before h hshape
      exact ⟨k, g, lt_of_past hpast (hk ▸ hg.past), hk, hg⟩

/-- A call that found the session expired deleted it. -/
theorem deletion_of_expired (hexpired : policy.isExpired found now = true) :
    ∃ m g, n < m ∧ g.caller = e.caller ∧ Deletion policy token p m g now found := by
  obtain ⟨rest, a, hshape, hret⟩ := trace_of_found h hq hn hpast hfind
  cases hret with
  | expiredDone _ _ _ ans =>
      obtain ⟨k, g, -, hk, hd⟩ := deletion_before h hshape
      exact ⟨k, g, lt_of_past hpast (hk ▸ hd.past), hk, hd⟩
  | liveFails _ _ hx => rw [hexpired] at hx; cases hx
  | liveDone _ _ hx => rw [hexpired] at hx; cases hx

end

end

/-! ### What the condition says of two calls -/

section
variable (h : (authentications G policy token).Run (Orderly policy token) (.init db) p)
include h

/-- A call that finds no session read the clock after the one that deletes it. -/
theorem deletion_earlier {m n x y : Nat} {g e : Event sessionSig (SessionDb τ)} {t now : Int}
    {found : Session} (hd : Deletion policy token p m g t found) (hmn : m < n)
    (hpast : pastOf e.caller (p.log.take n) = [⟨.now, now⟩])
    (hx : (readings p.log)[x]? = some (e.caller, now))
    (hy : (readings p.log)[y]? = some (g.caller, t)) : y < x := by
  by_contra hle
  have hxy : x ≤ y := Nat.not_lt.mp hle
  rcases Nat.eq_or_lt_of_le hxy with rfl | hlt
  · obtain ⟨hcaller, -⟩ := Prod.mk.inj (Option.some.inj (hx.symm.trans hy))
    exact absurd (lt_of_past hpast (hcaller ▸ hd.past)) (Nat.lt_asymm hmn)
  · obtain ⟨q, -, hlog, -, -, -, hdel⟩ := orderly_at h hd.step
    have hxq := reading_taken h hd.past hy hxy hx
    have hyq := reading_taken h hd.past hy le_rfl hy
    rw [← hlog] at hxq hyq
    refine hdel ⟨t, found, by rw [hlog]; exact hd.past, hd.expired⟩ x y e.caller now t hlt hxq hyq
      ?_
    -- it has read the clock, and is not answered more than that until later
    obtain ⟨r, hr, -⟩ := mem_marks.mp (List.mem_of_getElem? hxq)
    rw [hlog] at hr ⊢
    have hsub := past_mono (p := p) e.caller (Nat.le_of_lt hmn)
    rw [hpast] at hsub
    exact hsub.eq_of_length_le (List.length_pos_of_mem hr)

/-- Between finding the session expired and deleting it, no other call finds it expired. -/
theorem expires_alone {k n m : Nat} {f e g : Event sessionSig (SessionDb τ)} {t now : Int}
    {found other : Session} (hd : Deletion policy token p m g t other) (hk : p.log[k]? = some f)
    (hcaller : f.caller = g.caller) (hkpast : pastOf f.caller (p.log.take k) = [⟨.now, t⟩])
    (hn : p.log[n]? = some e) (hpast : pastOf e.caller (p.log.take n) = [⟨.now, now⟩])
    (hfind : e.pre.find token = .ok (some found)) (hexpired : policy.isExpired found now = true)
    (hkn : k < n) (hnm : n ≤ m) : False := by
  obtain ⟨row, hrow, hdec⟩ := SessionDb.find_eq_ok_some hfind
  obtain ⟨q, -, hlog, hstore, -, hexp, -⟩ := orderly_at h hn
  refine (hexp row found now (hstore ▸ hrow) hdec (hlog ▸ hpast) hexpired).1 g.caller ?_
  refine ⟨t, other, ?_, hd.expired⟩
  rw [hlog, ← hcaller]
  exact past_between hk hkpast (hcaller ▸ hd.past) hkn hnm

end

/-! ### What each call finds -/

section
variable {first : SessionRow} {session : Session}
  (h : (authentications G policy token).Run (Orderly policy token) (.init db) p)
  (hdb : db.row token = some first) (hs : rowToSession first = .ok session)
include h hdb hs

/-- Every stored row decodes to the session, last seen at some second. -/
theorem row_decodes {n : Nat} {s : SessionDb τ}
    (ht : (authentications G policy token).Trail db (p.log.take n) s) {row : SessionRow}
    (hrow : s.row token = some row) :
    row = first.seenAt row.lastSeenAt ∧
      rowToSession row = .ok { session with lastSeenAt := fromEpoch row.lastSeenAt } := by
  have hseen : row = first.seenAt row.lastSeenAt := by
    cases row_at h ht with
    | first hfirst =>
        rw [hfirst, hdb] at hrow
        cases hrow
        rfl
    | touched _ _ now _ row' _ _ hdb' hrow' =>
        rw [hdb] at hdb'
        cases hdb'
        rw [hrow'] at hrow
        cases hrow
        rfl
    | deleted _ _ _ _ _ _ hrow' => rw [hrow'] at hrow; cases hrow
  refine ⟨hseen, ?_⟩
  rw [hseen]
  exact rowToSession_seenAt hs row.lastSeenAt

/-- What is found is no session, or the session. -/
theorem find_cases {n : Nat} {e : Event sessionSig (SessionDb τ)} (hn : p.log[n]? = some e) :
    (e.pre.row token = none ∧ e.pre.find token = .ok none) ∨
      ∃ row, e.pre.row token = some row ∧
        e.pre.find token = .ok (some { session with lastSeenAt := fromEpoch row.lastSeenAt }) := by
  rw [SessionDb.find_eq]
  cases hrow : e.pre.row token with
  | none => exact .inl ⟨rfl, rfl⟩
  | some row =>
      obtain ⟨-, hdec⟩ := row_decodes h hdb hs (h.trail.before hn) hrow
      exact .inr ⟨row, rfl, by simp [hdec, Except.map]⟩

omit hdb hs in
theorem touch_nonneg {m : Nat} {e : Event sessionSig (SessionDb τ)} {t : Int} {found : Session}
    (hg : Touch policy token p m e t found) : 0 ≤ t := by
  obtain ⟨k, g, -, -, -, -, hfind, -⟩ := found_before h hg.past
  obtain ⟨row, -, hdec⟩ := SessionDb.find_eq_ok_some hfind
  have hle := (SessionPolicy.isExpired_eq_false_iff.mp hg.live).2.1
  rw [lastSeenAt_of_rowToSession hdec] at hle
  exact (fromEpoch_nonneg _).trans hle

variable (hq : p.Quiet)
include hq

omit hs in
/-- The session was last seen before every reading. -/
theorem first_le_readings {k j : Nat} {u : Int} (hk : (readings p.log)[k]? = some (j, u)) :
    fromEpoch first.lastSeenAt ≤ u := by
  obtain ⟨⟨i, t⟩, h₀⟩ : ∃ reading, (readings p.log)[0]? = some reading :=
    ⟨_, List.getElem?_eq_getElem
      (Nat.lt_of_le_of_lt (Nat.zero_le k) (List.getElem?_eq_some_iff.mp hk).1)⟩
  refine le_trans ?_ (le_of_sorted (readings_sorted h) h₀ hk (Nat.zero_le k))
  obtain ⟨n, e, -, -, hn, rfl, hpast, -, -⟩ := find_of_reading h hq h₀
  have ht := h.trail.before hn
  cases hrow : e.pre.row token with
  | some row =>
      exact (fromEpoch_mono (first_le_seen h ht hdb hrow)).trans (seen_le_reading h hn hpast hrow)
  | none =>
      cases row_at h ht with
      | first hfirst => rw [hfirst, hdb] at hrow; cases hrow
      | touched _ _ _ _ _ _ _ _ hrow' => rw [hrow'] at hrow; cases hrow
      | deleted m g v found hmn hd _ =>
          obtain ⟨y, hy⟩ := reading_of_past hd.past
          exact absurd (deletion_earlier h hd hmn hpast h₀ hy) (Nat.not_lt_zero y)

/-- A call that finds the session live would find it live in its turn. -/
theorem live_in_turn (n : Nat) : ∀ (e : Event sessionSig (SessionDb τ)) (x : Nat) (now : Int)
    (found : Session), p.log[n]? = some e → pastOf e.caller (p.log.take n) = [⟨.now, now⟩] →
      (readings p.log)[x]? = some (e.caller, now) → e.pre.find token = .ok (some found) →
        policy.isExpired found now = false →
          rowBefore policy (readings p.log) (some first) (x + 1) =
            some (first.seenAt (now / nanosPerSec)) := by
  induction n using Nat.strong_induction_on with
  | h n ih =>
      intro e x now found hn hpast hx hfind hlive
      have ht := h.trail.before hn
      have hsorted := readings_sorted h
      obtain ⟨row, hrow, hdec⟩ := SessionDb.find_eq_ok_some hfind
      obtain ⟨-, hdec'⟩ := row_decodes h hdb hs ht hrow
      obtain rfl := Except.ok.inj (hdec'.symm.trans hdec)
      cases row_at h ht with
      | deleted _ _ _ _ _ _ hrow' => rw [hrow'] at hrow; cases hrow
      | first hfirst =>
          have hsame : row = first := Option.some.inj (hrow.symm.trans (hfirst.trans hdb))
          rw [hsame] at hlive
          have h₀ : rowBefore policy (readings p.log) (some first) 0 =
              some (first.seenAt first.lastSeenAt) := rfl
          exact caught_up hs hsorted h₀ (Nat.zero_le x) hx
            (fun k j u _ hu => first_le_readings h hdb hq hu) hlive
      | touched m g t other _ hmn hg hdb' hrow' =>
          -- the session was touched in its turn by the call `y`
          rw [hdb] at hdb'
          cases hdb'
          rw [hrow'] at hrow
          cases hrow
          obtain ⟨y, hy⟩ := reading_of_past hg.past
          obtain ⟨k, f, hkm, hk, hcaller, hkpast, hffind, -⟩ := found_before h hg.past
          have hthere := ih k (hkm.trans hmn) f y t other hk (hcaller ▸ hkpast) (hcaller ▸ hy)
            hffind hg.live
          rcases Nat.lt_or_ge y x with hyx | hxy
          · refine caught_up hs hsorted hthere hyx hx (fun k j u hk hu => ?_) hlive
            exact (fromEpoch_div_le (touch_nonneg h hg)).trans
              (le_of_sorted hsorted hy hu (Nat.le_of_succ_le hk))
          · refine (turn_of_there hs hx fun hnone => ?_).2.1
            rw [rowBefore_none_mono hnone (Nat.succ_le_succ hxy)] at hthere
            cases hthere

/-- A call that finds the session expired leaves the calls that read the clock earlier to find it
live. -/
theorem earlier_live {n d x y : Nat} {e g e' : Event sessionSig (SessionDb τ)} {now t : Int}
    {found other : Session} (hn : p.log[n]? = some e)
    (hpast : pastOf e.caller (p.log.take n) = [⟨.now, now⟩])
    (hx : (readings p.log)[x]? = some (e.caller, now)) (hfind : e.pre.find token = .ok (some found))
    (hexpired : policy.isExpired found now = true) (hcaller : g.caller = e.caller)
    (hd : Deletion policy token p d g now other) {k : Nat} (hk : p.log[k]? = some e')
    (hkpast : pastOf e'.caller (p.log.take k) = [⟨.now, t⟩])
    (hy : (readings p.log)[y]? = some (e'.caller, t)) (hyx : y < x) :
    ∃ found', e'.pre.find token = .ok (some found') ∧ policy.isExpired found' t = false := by
  obtain ⟨row, hrow, -⟩ := SessionDb.find_eq_ok_some hfind
  have hnd := lt_of_past hpast (hcaller ▸ hd.past)
  have hne : k ≠ n := by
    rintro rfl
    obtain rfl : e = e' := Option.some.inj (hn.symm.trans hk)
    exact absurd (reading_unique h hy hx) (Nat.ne_of_lt hyx)
  have hkd : k < d := by
    rcases Nat.lt_trichotomy k d with hlt | rfl | hlt
    · exact hlt
    · obtain rfl : g = e' := Option.some.inj (hd.step.symm.trans hk)
      exact absurd (lt_of_past hkpast hd.past) (Nat.lt_irrefl _)
    · have hle := deletion_earlier h hd hlt hkpast hy (hcaller ▸ hx)
      omega
  -- no other call has found the session expired before, or does before it is deleted
  have hbefore : ∀ {m l : Nat} {f f' : Event sessionSig (SessionDb τ)} {v : Int} {seen : Session},
      Deletion policy token p m f v seen → p.log[l]? = some f' → f'.caller = f.caller →
        pastOf f'.caller (p.log.take l) = [⟨.now, v⟩] → ¬ l < n := by
    intro m l f f' v seen hm hl hc hlpast hln
    rcases Nat.lt_trichotomy m n with hlt | rfl | hlt
    · rw [absent_after h (h.trail.before hn) hm.step hlt hm.row] at hrow
      cases hrow
    · obtain rfl : e = f := Option.some.inj (hn.symm.trans hm.step)
      exact absurd (lt_of_past hpast hm.past) (Nat.lt_irrefl _)
    · exact expires_alone h hm hl hc hlpast hn hpast hfind hexpired hln (Nat.le_of_lt hlt)
  have hafter : ∀ {l : Nat} {f' : Event sessionSig (SessionDb τ)} {v : Int} {seen : Session},
      p.log[l]? = some f' → pastOf f'.caller (p.log.take l) = [⟨.now, v⟩] →
        f'.pre.find token = .ok (some seen) → policy.isExpired seen v = true → l ≤ d → ¬ n < l :=
    fun hl hlpast hlfind hx hld hnl =>
      expires_alone h hd hn hcaller.symm hpast hl hlpast hlfind hx hnl hld
  rcases find_cases h hdb hs hk with ⟨hnone, -⟩ | ⟨row', -, hfind'⟩
  · -- it would have come after yet another deletion
    cases row_at h (h.trail.before hk) with
    | first hfirst => rw [hfirst, hdb] at hnone; cases hnone
    | touched _ _ _ _ _ _ _ _ hrow' => rw [hrow'] at hnone; cases hnone
    | deleted m f v seen hmk hm _ =>
        obtain ⟨w, hw⟩ := reading_of_past hm.past
        have hwy := deletion_earlier h hm hmk hkpast hy hw
        obtain ⟨l, f', hlm, hl, hc, hlpast, hlfind, -⟩ := found_before h hm.past
        rw [← hc] at hlpast
        rcases Nat.lt_trichotomy l n with hlt | rfl | hlt
        · exact absurd hlt (hbefore hm hl hc hlpast)
        · obtain rfl : e = f' := Option.some.inj (hn.symm.trans hl)
          have hwx := reading_unique h hw (hc ▸ hx)
          omega
        · exact absurd hlt (hafter hl hlpast hlfind hm.expired (by omega))
  · refine ⟨_, hfind', ?_⟩
    by_contra hx'
    have hexp' := eq_true_of_ne_false hx'
    rcases Nat.lt_or_gt_of_ne hne with hlt | hlt
    · obtain ⟨m, f, -, hc, hm⟩ := deletion_of_expired h hq hk hkpast hfind' hexp'
      exact absurd hlt (hbefore hm hk hc.symm hkpast)
    · exact absurd hlt (hafter hk hkpast hfind' hexp' (Nat.le_of_lt hkd))

/-- A call that finds the session expired would find it expired in its turn. -/
theorem expired_in_turn {n x : Nat} {e : Event sessionSig (SessionDb τ)} {now : Int}
    {found : Session} (hn : p.log[n]? = some e)
    (hpast : pastOf e.caller (p.log.take n) = [⟨.now, now⟩])
    (hx : (readings p.log)[x]? = some (e.caller, now)) (hfind : e.pre.find token = .ok (some found))
    (hexpired : policy.isExpired found now = true) :
    rowBefore policy (readings p.log) (some first) x ≠ none ∧
      rowBefore policy (readings p.log) (some first) (x + 1) = none := by
  have ht := h.trail.before hn
  obtain ⟨row, hrow, hdec⟩ := SessionDb.find_eq_ok_some hfind
  obtain ⟨-, hdec'⟩ := row_decodes h hdb hs ht hrow
  obtain rfl := Except.ok.inj (hdec'.symm.trans hdec)
  have hseen := seen_le_reading h hn hpast hrow
  have hturn : ∃ secs, rowBefore policy (readings p.log) (some first) x =
      some (first.seenAt secs) ∧
        policy.isExpired { session with lastSeenAt := fromEpoch secs } now = true := by
    cases x with
    | zero =>
        exact ⟨first.lastSeenAt, rfl, SessionPolicy.isExpired_of_earlier hexpired hseen
          (fromEpoch_mono (first_le_seen h ht hdb hrow))⟩
    | succ y =>
        obtain ⟨⟨j, t⟩, hy⟩ : ∃ reading, (readings p.log)[y]? = some reading :=
          ⟨_, List.getElem?_eq_getElem (Nat.lt_of_succ_lt (List.getElem?_eq_some_iff.mp hx).1)⟩
        obtain ⟨d, g, -, hc, hd⟩ := deletion_of_expired h hq hn hpast hfind hexpired
        obtain ⟨k, f, -, -, hk, rfl, hkpast, -, -⟩ := find_of_reading h hq hy
        obtain ⟨found', hfind', hlive⟩ := earlier_live h hdb hs hq hn hpast hx hfind hexpired hc hd
          hk hkpast hy (Nat.lt_succ_self y)
        refine ⟨t / nanosPerSec,
          live_in_turn h hdb hs hq k f y t found' hk hkpast hy hfind' hlive, ?_⟩
        obtain ⟨m, f', hkm, hfc, hm⟩ := touch_of_live h hq hk hkpast hfind' hlive
        rcases Nat.lt_or_ge m n with hmn | hnm
        · exact SessionPolicy.isExpired_of_earlier hexpired hseen
            (fromEpoch_mono (touch_le_seen h ht hm hmn hrow))
        · -- it is still to touch the session
          obtain ⟨q, hrun, hlog, hstore, -, hexp, -⟩ := orderly_at h hn
          have hyq := reading_taken h hpast hx (Nat.le_succ y) hy
          have hxq := reading_taken h hpast hx le_rfl hx
          rw [← hlog] at hyq hxq
          refine (hexp row _ now (hstore ▸ hrow) hdec' (hlog ▸ hpast) hexpired).2 y (y + 1) f.caller
            t (Nat.lt_succ_self y) hyq hxq (eq_true_of_ne_false fun hfly => ?_)
          obtain ⟨a, hret⟩ := returned_of_not_inFlight hrun (List.mem_of_getElem? hyq) hfly
          rw [hlog] at hret
          rcases Nat.lt_or_ge k n with hkn | hnk
          · rw [past_between hk hkpast (hfc ▸ hm.past) hkn hnm] at hret
            cases hret
          · have hlen := (past_mono (p := p) f.caller hnk).length_le
            have htwo := length_of_returned hret
            rw [hkpast, List.length_singleton] at hlen
            omega
  obtain ⟨secs, hbefore, hexp⟩ := hturn
  refine ⟨by rw [hbefore]; simp, ?_⟩
  rw [rowBefore_succ hx, hbefore, turn_expired (rowToSession_seenAt hs secs) hexp]

/-- A call that finds no session would find none in its turn. -/
theorem absent_in_turn {n x : Nat} {e : Event sessionSig (SessionDb τ)} {now : Int}
    (hn : p.log[n]? = some e) (hpast : pastOf e.caller (p.log.take n) = [⟨.now, now⟩])
    (hx : (readings p.log)[x]? = some (e.caller, now)) (hrow : e.pre.row token = none) :
    rowBefore policy (readings p.log) (some first) x = none := by
  cases row_at h (h.trail.before hn) with
  | first hfirst => rw [hfirst, hdb] at hrow; cases hrow
  | touched _ _ _ _ _ _ _ _ hrow' => rw [hrow'] at hrow; cases hrow
  | deleted m g t found hmn hd _ =>
      obtain ⟨y, hy⟩ := reading_of_past hd.past
      obtain ⟨k, f, -, hk, hc, hkpast, hfind, -⟩ := found_before h hd.past
      have hgone := (expired_in_turn h hdb hs hq hk (hc ▸ hkpast) (hc ▸ hy) hfind hd.expired).2
      exact rowBefore_none_mono hgone (deletion_earlier h hd hmn hpast hx hy)

/-! ### What the run comes to -/

/-- The answer of each call is that of its turn. -/
theorem answer_in_turn {x i : Nat} {now : Int} (hx : (readings p.log)[x]? = some (i, now))
    {a : Except SessionError AuthenticatedSession} {req : Unit} (hret : p.Returned i req a) :
    a = (turn policy now (rowBefore policy (readings p.log) (some first) x)).1 := by
  have hpoint := h.point (fun _ => authenticate_trace policy token) hret
  obtain ⟨n, e, rest, -, hn, rfl, hpast, hshape, -⟩ := find_of_reading h hq hx
  rw [← List.take_length (l := p.log), hshape] at hpoint
  rcases find_cases h hdb hs hn with ⟨hrow, hfind⟩ | ⟨row, hrow, hfind⟩
  · rw [hfind] at hpoint
    rw [absent_in_turn h hdb hs hq hn hpast hx hrow, turn]
    cases hpoint with
    | unknown => rfl
  · rw [hfind] at hpoint hshape
    cases hpoint with
    | expiredDone _ _ hexpired ans =>
        obtain ⟨hthere, hgone⟩ := expired_in_turn h hdb hs hq hn hpast hx hfind hexpired
        exact (turn_of_gone hs hx hthere hgone).symm
    | liveFails _ _ _ err =>
        obtain ⟨hans, -⟩ := touch_before h hshape
        cases hans
    | liveDone _ _ hlive =>
        have hthere := live_in_turn h hdb hs hq n e x now _ hn hpast hx hfind hlive
        exact (turn_of_there hs hx (by rw [hthere]; simp)).1.symm

/-- A session that is left was last seen at the last reading. -/
theorem last_seen {row : SessionRow}
    (hend : (authentications G policy token).Trail db (p.log.take p.log.length) p.store)
    (hrow : p.store.row token = some row) {y j : Nat} {t : Int}
    (hy : (readings p.log)[y]? = some (j, t)) (hlast : (readings p.log).length = y + 1) :
    row = first.seenAt (t / nanosPerSec) ∧
      rowBefore policy (readings p.log) (some first) (y + 1) =
        some (first.seenAt (t / nanosPerSec)) := by
  have hkept : ∀ {m : Nat} {g : Event sessionSig (SessionDb τ)}, p.log[m]? = some g →
      g.post.row token ≠ none := by
    intro m g hm hnone
    rw [absent_after h hend hm (List.getElem?_eq_some_iff.mp hm).1 hnone] at hrow
    cases hrow
  obtain ⟨n, e, -, -, hn, rfl, hpast, -, -⟩ := find_of_reading h hq hy
  rcases find_cases h hdb hs hn with ⟨hnone, -⟩ | ⟨old, hold, hfind⟩
  · cases step_kind h hn with
    | finds _ _ _ hpost => exact absurd (hpost.trans hnone) (hkept hn)
    | reads hp => rw [hpast] at hp; cases hp
    | deletes _ _ hp => rw [hpast] at hp; cases hp
    | touches _ _ hp => rw [hpast] at hp; cases hp
  cases hexp : policy.isExpired { session with lastSeenAt := fromEpoch old.lastSeenAt } t with
  | true =>
      obtain ⟨m, g, -, -, hd⟩ := deletion_of_expired h hq hn hpast hfind hexp
      exact absurd hd.row (hkept hd.step)
  | false =>
      obtain ⟨m, g, -, -, hg⟩ := touch_of_live h hq hn hpast hfind hexp
      have hle := touch_le_seen h hend hg (List.getElem?_eq_some_iff.mp hg.step).1 hrow
      have hge : row.lastSeenAt ≤ t / nanosPerSec := by
        cases row_at h hend with
        | deleted _ _ _ _ _ _ hrow' => rw [hrow'] at hrow; cases hrow
        | first hfirst =>
            have hsame : row = first := Option.some.inj (hrow.symm.trans (hfirst.trans hdb))
            rw [hsame]
            exact le_div_of_fromEpoch_le (first_le_readings h hdb hq hy)
        | touched k f u found' _ _ hf hdb' hrow' =>
            rw [hrow'] at hrow
            cases hrow
            obtain ⟨z, hz⟩ := reading_of_past hf.past
            have hlt := (List.getElem?_eq_some_iff.mp hz).1
            exact Int.ediv_le_ediv (by decide)
              (le_of_sorted (readings_sorted h) hz hy (by omega))
      refine ⟨?_, live_in_turn h hdb hs hq n e y t _ hn hpast hy hfind hexp⟩
      rw [(row_decodes h hdb hs hend hrow).1, le_antisymm hge hle]

/-- The session that is left is the one the turns leave. -/
theorem stored_in_turn :
    p.store.row token = rowBefore policy (readings p.log) (some first) (readings p.log).length := by
  have hend : (authentications G policy token).Trail db (p.log.take p.log.length) p.store := by
    rw [List.take_length]
    exact h.trail
  cases hrow : p.store.row token with
  | none =>
      cases row_at h hend with
      | first hfirst => rw [hfirst, hdb] at hrow; cases hrow
      | touched _ _ _ _ _ _ _ _ hrow' => rw [hrow'] at hrow; cases hrow
      | deleted m g t found _ hd _ =>
          obtain ⟨y, hy⟩ := reading_of_past hd.past
          obtain ⟨k, f, -, hk, hc, hkpast, hfind, -⟩ := found_before h hd.past
          have hgone := (expired_in_turn h hdb hs hq hk (hc ▸ hkpast) (hc ▸ hy) hfind hd.expired).2
          exact (rowBefore_none_mono hgone (List.getElem?_eq_some_iff.mp hy).1).symm
  | some row =>
      cases hlen : (readings p.log).length with
      | succ y =>
          obtain ⟨⟨j, t⟩, hy⟩ : ∃ reading, (readings p.log)[y]? = some reading :=
            ⟨_, List.getElem?_eq_getElem (by omega)⟩
          obtain ⟨hseen, hbefore⟩ := last_seen h hdb hs hq hend hrow hy hlen
          rw [hbefore, hseen]
      | zero =>
          cases row_at h hend with
          | first hfirst => rw [← hrow, hfirst, hdb]; rfl
          | deleted _ _ _ _ _ _ hrow' => rw [hrow'] at hrow; cases hrow
          | touched m g t found _ _ hg _ _ =>
              obtain ⟨y, hy⟩ := reading_of_past hg.past
              have hlt := (List.getElem?_eq_some_iff.mp hy).1
              omega

end

/-! ### Without a session -/

section
variable {ok : AuthPool τ → Act Unit Unit SessionEnv → Prop}
  (h : (authentications G policy token).Run ok (.init db) p)
  (hinert : ∀ row, db.row token = some row → ∃ e, rowToSession row = .error e)
include h hinert

/-- Where there is no session, or one that does not decode, nothing is written. -/
theorem inert_row (n : Nat) (s : SessionDb τ)
    (ht : (authentications G policy token).Trail db (p.log.take n) s) :
    s.row token = db.row token := by
  induction n using Nat.strong_induction_on generalizing s with
  | h n ih =>
      have hnever : ∀ {m : Nat} {e : Event sessionSig (SessionDb τ)} {now : Int} {found : Session},
          m < n → pastOf e.caller (p.log.take m) ≠
            [⟨.now, now⟩, ⟨.find token, .ok (some found)⟩] := by
        intro m e now found hmn hpast
        obtain ⟨k, g, hkm, hk, -, -, hfind, -⟩ := found_before h hpast
        obtain ⟨row, hrow, hdec⟩ := SessionDb.find_eq_ok_some hfind
        rw [ih k (hkm.trans hmn) g.pre (h.trail.before hk)] at hrow
        obtain ⟨e, he⟩ := hinert row hrow
        rw [he] at hdec
        cases hdec
      cases row_at h ht with
      | first hfirst => exact hfirst
      | touched _ _ _ _ _ hmn hg _ _ => exact absurd hg.past (hnever hmn)
      | deleted _ _ _ _ hmn hd _ => exact absurd hd.past (hnever hmn)

theorem inert_answer (hq : p.Quiet) {x i : Nat} {now : Int}
    (hx : (readings p.log)[x]? = some (i, now)) {a : Except SessionError AuthenticatedSession}
    {req : Unit} (hret : p.Returned i req a) :
    a = (turn policy now (rowBefore policy (readings p.log) (db.row token) x)).1 := by
  have hpoint := h.point (fun _ => authenticate_trace policy token) hret
  obtain ⟨n, e, rest, -, hn, rfl, hpast, hshape, -⟩ := find_of_reading h hq hx
  rw [← List.take_length (l := p.log), hshape, SessionDb.find_eq,
    inert_row h hinert n e.pre (h.trail.before hn)] at hpoint
  rw [rowBefore_inert hinert]
  cases hrow : db.row token with
  | none =>
      rw [hrow] at hpoint
      cases hpoint with
      | unknown => rfl
  | some row =>
      obtain ⟨err, herr⟩ := hinert row hrow
      rw [hrow] at hpoint
      simp only [herr, Except.map] at hpoint
      rw [turn_error herr]
      cases hpoint with
      | lookupFails => rfl

end

/-- **Order.** In every interleaving of authentications of one token in which no call is overtaken
and the session expires in turn, every answer and the session in the end are those of the calls
running one after another, in the order of their readings of the clock. -/
theorem in_order (G : SessionTokenGenerator τ) (policy : SessionPolicy) (token : SessionToken)
    (db : SessionDb τ) (p : AuthPool τ)
    (h : (authentications G policy token).Run (Orderly policy token) (.init db) p)
    (hq : p.Quiet) : InOrder G policy token db p := by
  have hturn : (∀ (x i : Nat) (now : Int), (readings p.log)[x]? = some (i, now) → ∀ a,
        p.Returned i () a →
          a = (turn policy now (rowBefore policy (readings p.log) (db.row token) x)).1) ∧
      p.store.row token =
        rowBefore policy (readings p.log) (db.row token) (readings p.log).length := by
    by_cases hinert : ∀ row, db.row token = some row → ∃ e, rowToSession row = .error e
    · refine ⟨fun x i now hx a hret => inert_answer h hinert hq hx hret, ?_⟩
      rw [rowBefore_inert hinert]
      refine inert_row h hinert p.log.length p.store ?_
      rw [List.take_length]
      exact h.trail
    · simp only [not_forall] at hinert
      obtain ⟨first, hdb, hdec⟩ := hinert
      cases hs : rowToSession first with
      | error e => exact absurd ⟨e, hs⟩ hdec
      | ok session =>
          rw [hdb]
          exact ⟨fun x i now hx a hret => answer_in_turn h hdb hs hq hx hret,
            stored_in_turn h hdb hs hq⟩
  obtain ⟨hanswers, hstored⟩ := hturn
  obtain ⟨hturns, hlast⟩ := inTurn_eq G policy token (readings p.log) db
  refine ⟨fun i a hret b => ?_, ?_⟩
  · have hpoint := h.point (fun _ => authenticate_trace policy token) hret
    have hread : ∃ (x : Nat) (now : Int), (readings p.log)[x]? = some (i, now) := by
      rw [← List.take_length (l := p.log)] at hpoint
      generalize hpast : pastOf i (p.log.take p.log.length) = past at hpoint
      cases hpoint <;> exact (reading_of_past hpast).imp fun x hx => ⟨_, hx⟩
    obtain ⟨x, now, hx⟩ := hread
    rw [hturns, hanswers x i now hx a hret]
    exact mem_turns_iff hx (fun y t hy => reading_unique h hy hx) b
  · rw [hstored, hlast, rowBefore, List.take_length]

/-! ### A request that is overtaken -/

def sequentialTokens : SessionTokenGenerator Nat where
  generateSessionToken n := (⟨"session-" ++ toString (n + 1)⟩, n + 1)
  generateCsrfToken n := (⟨"csrf-" ++ toString (n + 1)⟩, n + 1)

/-- A session issued at the epoch, ten seconds later. -/
def freshSession : SessionDb Nat where
  sessions := ⟨[⟨"session-1", ⟨"admin-1"⟩, "admin", "csrf-2", 0, 0, 43200⟩], by decide⟩
  admins := [⟨"admin-1"⟩]
  entropy := 2
  clock := fromSecs 10

/-- The second request reads the clock five seconds after the first, and is done before the first
finds the session. -/
def overtaken : AuthPool Nat :=
  ((authentications sequentialTokens .recommended ⟨"session-1"⟩).acts
    [.start (), .start (), .step 0 (), .env (.tick (fromSecs 5)), .step 1 (), .step 1 (),
      .step 1 (), .step 0 (), .step 0 ()] (.init freshSession)).get rfl

/-- The first request is answered `Expired`, and the session is gone; in turn, both requests are
answered well, and it is still there. -/
theorem overtaken_expires :
    (authentications sequentialTokens .recommended ⟨"session-1"⟩).Run (fun _ _ => True)
        (.init freshSession) overtaken ∧ overtaken.Quiet ∧
      overtaken.Returned 0 () (.error .expired) ∧ overtaken.store.row ⟨"session-1"⟩ = none ∧
        ¬ InOrder sequentialTokens .recommended ⟨"session-1"⟩ freshSession overtaken := by
  refine ⟨.of_acts .refl (fun _ _ _ => trivial) (Option.some_get rfl).symm, ?_, rfl, by decide,
    fun h => ?_⟩
  · exact Pool.quiet_of_answers [((), .error .expired),
      ((), .ok ⟨⟨"admin-1"⟩, ⟨"admin", by decide, by decide⟩, ⟨"csrf-2"⟩⟩)] rfl
  · have hstored := h.stored
    revert hstored
    decide

/-- Two requests, the second of which reads the clock when the session is over.  It finds it so
before the first finds it alive, and deletes it after that. -/
def overlapping : AuthPool Nat :=
  ((authentications sequentialTokens .recommended ⟨"session-1"⟩).guardedActs
    (Orderly .recommended ⟨"session-1"⟩)
    [.start (), .start (), .step 0 (), .env (.tick (fromSecs 43190)), .step 1 (), .step 1 (),
      .step 0 (), .step 1 (), .step 0 ()] (.init freshSession)).get rfl

theorem overlapping_run : (authentications sequentialTokens .recommended ⟨"session-1"⟩).Run
    (Orderly .recommended ⟨"session-1"⟩) (.init freshSession) overlapping :=
  .of_guardedActs .refl (Option.some_get rfl).symm

/-- The first is answered well, the second `Expired`, and the session is gone, as in turn. -/
theorem overlapping_in_order :
    overlapping.Returned 0 () (.ok ⟨⟨"admin-1"⟩, ⟨"admin", by decide, by decide⟩, ⟨"csrf-2"⟩⟩) ∧
      overlapping.Returned 1 () (.error .expired) ∧
      overlapping.store.row ⟨"session-1"⟩ = none ∧
      InOrder sequentialTokens .recommended ⟨"session-1"⟩ freshSession overlapping := by
  refine ⟨rfl, rfl, by decide, in_order sequentialTokens .recommended ⟨"session-1"⟩ freshSession
    overlapping overlapping_run ?_⟩
  exact Pool.quiet_of_answers
    [((), .ok ⟨⟨"admin-1"⟩, ⟨"admin", by decide, by decide⟩, ⟨"csrf-2"⟩⟩),
      ((), .error .expired)] rfl

end AuthApp.Sessions
