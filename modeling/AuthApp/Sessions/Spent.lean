import AuthApp.Sessions.Revocation
import AuthApp.Sessions.Turns

/-!
# Sessions — spent tokens

A token is spent when what it names, if it names anything, is past its limits.  Nothing that the
requests of the session context do, in any order and with any call failing, makes it valid again.

* `touches_live`: a session is touched only by a request that found it live.
* `rejected_of_spent`: every authentication of a spent token is rejected.
* `accepted_of_live`: a token that is not spent is accepted, now.
-/

namespace AuthApp.Sessions
open Interleave Pool Accounts

/-- Whatever the token names was past its limits at `clock`, and had been used by then. -/
def Spent {τ : Type} (policy : SessionPolicy) (token : SessionToken) (clock : Int)
    (db : SessionDb τ) : Prop :=
  ∀ session, db.find token = .ok (some session) →
    policy.isExpired session clock = true ∧ session.lastSeenAt ≤ clock

theorem Spent.congr {τ : Type} {policy : SessionPolicy} {token : SessionToken} {clock : Int}
    {db db' : SessionDb τ} (h : Spent policy token clock db) (hrow : db'.row token = db.row token) :
    Spent policy token clock db' := by
  intro session hs
  rw [SessionDb.find_eq, hrow] at hs
  exact h session hs

theorem Spent.of_absent {τ : Type} {policy : SessionPolicy} {token : SessionToken} {clock : Int}
    {db : SessionDb τ} (h : db.row token = none) : Spent policy token clock db := by
  intro session hs
  rw [SessionDb.find_eq, h] at hs
  cases hs

/-! ### What a program touches -/

/-- A session is touched at an instant the program has read, after it was found live. -/
def TouchesLive (policy : SessionPolicy) (past : List (Reply sessionSig)) (op : SessionOp) : Prop :=
  ∀ token now, op = .touch token now → ∃ session, ⟨.now, now⟩ ∈ past ∧
    ⟨.find token, .ok (some session)⟩ ∈ past ∧ policy.isExpired session now = false

theorem touchesLive_of_ne {policy : SessionPolicy} {past : List (Reply sessionSig)} {op : SessionOp}
    (h : ∀ token now, op ≠ .touch token now) : TouchesLive policy past op :=
  fun token now heq => absurd heq (h token now)

theorem authenticate_touches {policy : SessionPolicy} {token : SessionToken}
    {past : List (Reply sessionSig)} {op : SessionOp}
    (h : AuthenticateTrace policy token past (.call op)) : TouchesLive policy past op := by
  cases h with
  | live now session hlive =>
      intro token' now' heq
      cases heq
      exact ⟨session, by simp, by simp, hlive⟩
  | _ => exact touchesLive_of_ne (by simp)

theorem start_touches (policy : SessionPolicy) (adminId : AdminId) (role : Role)
    (past : List (Reply sessionSig)) :
    Prog.Calls (TouchesLive policy) past (SessionService.start policy adminId role) := by
  refine ⟨touchesLive_of_ne (by simp), fun now => ⟨touchesLive_of_ne (by simp), fun token =>
    ⟨touchesLive_of_ne (by simp), fun csrf => ⟨touchesLive_of_ne (by simp), ?_⟩⟩⟩⟩
  rintro (e | ⟨⟩) <;> trivial

theorem touches_live (policy : SessionPolicy) (request : SessionRequest) :
    Prog.Calls (TouchesLive policy) [] (request.code policy) := by
  cases request with
  | start adminId role => exact (start_touches policy adminId role []).map _
  | revoke token =>
      refine ⟨touchesLive_of_ne (by simp), ?_⟩
      rintro (e | ⟨⟩) <;> trivial
  | authenticate token =>
      exact Prog.Calls.bind (authenticate_trace policy token)
        (fun past op k h => authenticate_touches h) fun _ _ _ => trivial
  | rotate token =>
      refine Prog.Calls.map ?_ _
      rw [SessionService.rotate_eq]
      refine Prog.Calls.bind (authenticate_trace policy token)
        (fun past op k h => authenticate_touches h) fun past r _ => ?_
      cases r with
      | error e => trivial
      | ok authenticated =>
          refine ⟨touchesLive_of_ne (by simp), ?_⟩
          rintro (e | ⟨⟩)
          · trivial
          · exact start_touches policy _ _ _

/-! ### A step and a spent token -/

section Steps
variable {G : TokenStream} {policy : SessionPolicy} {db : SessionDb (Nat × Nat)} {fate : Fate}
  {token : SessionToken}

/-- A step that neither inserts nor touches a token leaves its row, or leaves none. -/
theorem row_serve_cases (G : TokenStream) (db : SessionDb (Nat × Nat)) {op : SessionOp}
    (hinsert : ∀ session, op = .insert session → session.token ≠ token)
    (htouch : ∀ now, op ≠ .touch token now) :
    (SessionDb.serve G.generator op db).2.row token = db.row token ∨
      (SessionDb.serve G.generator op db).2.row token = none := by
  cases op with
  | insert session =>
      rw [SessionDb.serve, SessionDb.insert]
      split
      · split
        · split
          · next hins =>
              refine .inl ((Table.find?_insert? hins token.raw).trans ?_)
              exact if_neg fun heq => hinsert session rfl (congrArg SessionToken.mk heq)
          · exact .inl rfl
        · exact .inl rfl
      · exact .inl rfl
  | touch token' lastSeenAt =>
      have hne : token'.raw ≠ token.raw := fun heq =>
        htouch lastSeenAt (congrArg (SessionOp.touch · lastSeenAt) (congrArg SessionToken.mk heq))
      rw [SessionDb.serve, SessionDb.touch]
      split
      · next secs _ =>
          exact .inl (Table.find?_modify_ne db.sessions (fun row => row.seenAt secs)
            (fun _ => rfl) hne)
      · split <;> exact .inl rfl
  | delete token' =>
      by_cases heq : token'.raw = token.raw
      · exact .inr ((Table.find?_delete _ _ _).trans (if_pos heq))
      · exact .inl ((Table.find?_delete _ _ _).trans (if_neg heq))
  | _ => exact .inl rfl

theorem Spent.exec {clock : Int} {op : SessionOp} (h : Spent policy token clock db)
    (hinsert : ∀ session, op = .insert session → session.token ≠ token)
    (htouch : ∀ now, op ≠ .touch token now) :
    Spent policy token clock (SessionDb.exec G.generator fate op db).2 := by
  rcases Fate.under_state (S := sessionSig) SessionOp.fault (SessionDb.serve G.generator) fate op db
    with heq | heq
  · rw [SessionDb.exec, heq]
    exact h
  · rw [SessionDb.exec, heq]
    rcases row_serve_cases G db hinsert htouch with hrow | hrow
    · exact h.congr hrow
    · exact .of_absent hrow

end Steps

/-! ### Runs -/

section Runs
variable {G : TokenStream} {policy : SessionPolicy} {db : SessionDb (Nat × Nat)}
  {ok : SessionPool → Act SessionRequest Fate SessionEnv → Prop} {p : SessionPool}
  {token : SessionToken} {n : Nat} {e : Event sessionSig (SessionDb (Nat × Nat))}

theorem exec_clock (fate : Fate) (op : SessionOp) (s : SessionDb (Nat × Nat)) :
    (SessionDb.exec G.generator fate op s).2.clock = s.clock := by
  rcases Fate.under_state (S := sessionSig) SessionOp.fault (SessionDb.serve G.generator) fate op s
    with heq | heq
  · rw [SessionDb.exec, heq]
  · rw [SessionDb.exec, heq, SessionDb.serve_clock]

/-- An instant that was read is not before the run. -/
theorem clock_le_now (h : (sessionSystem G policy).Run ok (.init db) p) {i : Nat} {now : Int}
    (hr : (⟨.now, now⟩ : Reply sessionSig) ∈ pastOf i (p.log.take n)) : db.clock ≤ now := by
  obtain ⟨m, -, c, pre, post, hget, hx⟩ := h.reply_exec hr
  have hle : db.clock ≤ pre.clock :=
    (h.trail.before hget).mono_exec (M := fun s t => s.clock ≤ t.clock)
      (fun _ => le_refl _) (fun h₁ h₂ => h₁.trans h₂)
      (fun a s => by cases a; exact Int.le_add_of_nonneg_right (Int.natCast_nonneg _))
      (fun c op s => (exec_clock c op s).ge)
  have hnow : now = pre.clock := by
    cases c <;> exact (congrArg Prod.fst hx).symm
  exact hnow ▸ hle

/-- Where a token has been spent at every step so far, no request has found it live. -/
theorem expired_of_spent (h : (sessionSystem G policy).Run ok (.init db) p)
    (hspent : ∀ k g, k < n → p.log[k]? = some g → Spent policy token db.clock g.pre) {i : Nat}
    {now : Int} {session : Session}
    (hnow : (⟨.now, now⟩ : Reply sessionSig) ∈ pastOf i (p.log.take n))
    (hfind : (⟨.find token, .ok (some session)⟩ : Reply sessionSig) ∈ pastOf i (p.log.take n)) :
    policy.isExpired session now = true := by
  obtain ⟨m, hm, c, pre, post, hget, hx⟩ := h.reply_exec hfind
  obtain ⟨hexpired, hseen⟩ := hspent m _ hm hget session (SessionDb.find_of_answer hx)
  exact SessionPolicy.isExpired_mono hexpired hseen (clock_le_now h hnow)

/-- A spent token stays spent: it is not inserted, and never found live. -/
theorem spent_at (h : (sessionSystem G policy).Run ok (.init db) p)
    (hnext : ∀ k, db.entropy.1 ≤ k → G.session k ≠ token) (hspent : Spent policy token db.clock db)
    (n : Nat) : ∀ e, p.log[n]? = some e → Spent policy token db.clock e.pre := by
  induction n using Nat.strong_induction_on with
  | _ n ih =>
      intro e he
      refine h.trail.inv_before (fun a s hs => by cases a; exact hs) he hspent
        fun k g hk hg hpre => ?_
      obtain ⟨c, hx⟩ := h.event_exec g (List.mem_of_getElem? hg)
      have htouch : ∀ now, g.op ≠ .touch token now := by
        intro now heq
        obtain ⟨req, d, -, hcall⟩ := h.event_call (touches_live policy) hg
        obtain ⟨session, hnow, hfind, hlive⟩ := hcall token now heq
        rw [expired_of_spent h (fun j f hj hf => ih j (hj.trans hk) f hf) hnow hfind] at hlive
        cases hlive
      have hpost : Spent policy token db.clock (SessionDb.exec G.generator c g.op g.pre).2 :=
        hpre.exec (fun session heq htok =>
          not_inserted_of_undrawn h hnext hg ⟨session, heq, htok⟩) htouch
      rwa [show SessionDb.exec G.generator c g.op g.pre = (g.ans, g.post) from hx] at hpost

/-- **Spent tokens.** From a state in which a token is spent, and is not to be drawn, every
authentication of it is rejected. -/
theorem rejected_of_spent (h : (sessionSystem G policy).Run ok (.init db) p)
    (hnext : ∀ k, db.entropy.1 ≤ k → G.session k ≠ token) (hspent : Spent policy token db.clock db)
    {i : Nat} {r : Except SessionError AuthenticatedSession}
    (hret : p.Returned i (.authenticate token) (.authenticated r)) : ∃ err, r = .error err := by
  obtain ⟨head, htrace, hhead⟩ := h.point (authenticate_points policy) hret token rfl
  obtain ⟨r', rfl, hr⟩ := Head.map_eq_ret hhead.symm
  cases hr
  generalize hpast : pastOf i p.log = past at htrace
  rw [← List.take_length (l := p.log)] at hpast
  cases htrace with
  | liveDone now session hlive =>
      have hnow : (⟨.now, now⟩ : Reply sessionSig) ∈ pastOf i (p.log.take p.log.length) := by
        rw [hpast]
        exact List.mem_cons_self
      have hfind : (⟨.find token, .ok (some session)⟩ : Reply sessionSig) ∈
          pastOf i (p.log.take p.log.length) := by
        rw [hpast]
        exact List.mem_cons_of_mem _ List.mem_cons_self
      rw [expired_of_spent h (fun k g _ hg => spent_at h hnext hspent k g hg) hnow hfind] at hlive
      cases hlive
  | _ => exact ⟨_, rfl⟩

/-- A token that names a live session is accepted, when it is authenticated now. -/
theorem accepted_of_live (G : TokenStream) {session : Session}
    (hfind : db.find token = .ok (some session))
    (hlive : policy.isExpired session db.clock = false) :
    ∃ q, (sessionSystem G policy).Run (fun _ _ => True) (.init db) q ∧
      q.Returned 0 (.authenticate token) (.authenticated (.ok session.authenticated)) := by
  have hstart : (sessionSystem G policy).Run (fun _ _ => True) (.init db) _ :=
    .snoc .refl trivial (.start _ (.authenticate token))
  obtain ⟨q, hrun, hret, -⟩ := hstart.finish (i := 0) (c := .served) (fun _ => trivial) rfl
  have hturn := (authenticateAt_eq G.generator policy token db.clock db).1
  obtain ⟨row, hrow, hs⟩ := SessionDb.find_eq_ok_some hfind
  rw [hrow, turn_live hs hlive] at hturn
  have hanswer : q.Returned 0 (.authenticate token) (((SessionService.authenticate policy token).map
      SessionResponse.authenticated).run (SessionDb.serve G.generator) db).1 := hret
  rw [Prog.run_map] at hanswer
  change q.Returned 0 _ (.authenticated (authenticateAt G.generator policy token db.clock db).1)
    at hanswer
  rw [hturn] at hanswer
  exact ⟨q, hrun, hanswer⟩

end Runs

end AuthApp.Sessions
