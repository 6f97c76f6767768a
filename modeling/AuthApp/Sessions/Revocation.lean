import AuthApp.Interleave.Trail
import AuthApp.Sessions.System

/-!
# Sessions — revocation

Requests of every kind, interleaved, over the Postgres store, with any call failing at any time.
A token is inserted once, by the call that drew it; so once a session has been stored and deleted,
none of the steps that are left over can bring it back.

* `inserts_drawn`: a program inserts one session, under a token it has drawn itself.
* `inserted_once`: a token is inserted by one step at most, and never when it was stored at first.
* `revoked_for_good`: after the delete of a session that was stored, its token finds nothing.
* `guessed_revoke`: a delete that comes before the token is drawn revokes nothing.
-/

namespace AuthApp.Sessions
open Interleave Pool Accounts

abbrev SessionPool := Pool sessionSig (SessionDb (Nat × Nat)) SessionRequest SessionResponse

/-- Any number of requests in flight. -/
abbrev sessionSystem (G : TokenStream) (policy : SessionPolicy) :
    System sessionSig (SessionDb (Nat × Nat)) SessionRequest SessionResponse Fate SessionEnv where
  code := SessionRequest.code policy
  exec := SessionDb.exec G.generator
  env := SessionEnv.act

/-! ### What a program inserts -/

def Inserts (r : Reply sessionSig) : Prop := ∃ session, r.op = .insert session

/-- An insert is the first of its program, under a token that the program has drawn. -/
def InsertsDrawn (past : List (Reply sessionSig)) (op : SessionOp) : Prop :=
  ∀ session, op = .insert session →
    ⟨.generateSessionToken, session.token⟩ ∈ past ∧ ∀ r ∈ past, ¬ Inserts r

theorem insertsDrawn_of_ne {past : List (Reply sessionSig)} {op : SessionOp}
    (h : ∀ session, op ≠ .insert session) : InsertsDrawn past op :=
  fun session heq => absurd heq (h session)

theorem start_inserts (policy : SessionPolicy) (adminId : AdminId) (role : Role)
    {past : List (Reply sessionSig)} (hpast : ∀ r ∈ past, ¬ Inserts r) :
    Prog.Calls InsertsDrawn past (SessionService.start policy adminId role) := by
  refine ⟨insertsDrawn_of_ne (by simp), fun now => ⟨insertsDrawn_of_ne (by simp), fun token =>
    ⟨insertsDrawn_of_ne (by simp), fun csrf => ⟨?_, ?_⟩⟩⟩⟩
  · rintro session heq
    cases heq
    refine ⟨by simp, fun r hr => ?_⟩
    simp only [List.mem_append, List.mem_singleton] at hr
    rcases hr with ((hr | rfl) | rfl) | rfl
    · exact hpast r hr
    · rintro ⟨_, h⟩; cases h
    · rintro ⟨_, h⟩; cases h
    · rintro ⟨_, h⟩; cases h
  · rintro (e | ⟨⟩) <;> trivial

/-- An authentication inserts nothing. -/
theorem authenticate_inserts {policy : SessionPolicy} {token : SessionToken}
    {past : List (Reply sessionSig)}
    {head : Head sessionSig (Except SessionError AuthenticatedSession)}
    (h : AuthenticateTrace policy token past head) :
    (∀ r ∈ past, ¬ Inserts r) ∧ ∀ op, head = .call op → ∀ session, op ≠ .insert session := by
  cases h <;> simp [Inserts]

/-- Every request inserts at most once, and only what it has drawn. -/
theorem inserts_drawn (policy : SessionPolicy) (request : SessionRequest) :
    Prog.Calls InsertsDrawn [] (request.code policy) := by
  cases request with
  | start adminId role =>
      exact (start_inserts policy adminId role fun r hr => absurd hr List.not_mem_nil).map _
  | revoke token =>
      refine ⟨insertsDrawn_of_ne (by simp), ?_⟩
      rintro (e | ⟨⟩) <;> trivial
  | authenticate token =>
      refine Prog.Calls.bind (authenticate_trace policy token) (fun past op k h => ?_)
        fun _ _ _ => trivial
      exact insertsDrawn_of_ne ((authenticate_inserts h).2 op rfl)
  | rotate token =>
      refine Prog.Calls.map ?_ _
      rw [SessionService.rotate_eq]
      refine Prog.Calls.bind (authenticate_trace policy token) (fun past op k h => ?_)
        fun past r h => ?_
      · exact insertsDrawn_of_ne ((authenticate_inserts h).2 op rfl)
      have hpast := (authenticate_inserts h).1
      cases r with
      | error e => trivial
      | ok authenticated =>
          refine ⟨insertsDrawn_of_ne (by simp), ?_⟩
          rintro (e | ⟨⟩)
          · trivial
          refine start_inserts policy _ _ fun r hr => ?_
          rcases List.mem_append.mp hr with hr | hr
          · exact hpast r hr
          · obtain rfl := List.mem_singleton.mp hr
            rintro ⟨_, h⟩; cases h

/-! ### What a step does to one token -/

section Steps
variable {G : TokenStream} {policy : SessionPolicy} {db : SessionDb (Nat × Nat)} {fate : Fate}
  {token : SessionToken}

/-- The token has been drawn. -/
def Drawn (G : TokenStream) (token : SessionToken) (db : SessionDb (Nat × Nat)) : Prop :=
  ∃ n < db.entropy.1, G.session n = token

theorem serve_entropy (op : SessionOp) :
    db.entropy.1 ≤ (SessionDb.serve G.generator op db).2.entropy.1 := by
  cases op with
  | insert session =>
      rw [SessionDb.serve, SessionDb.insert]
      split
      · split
        · split <;> exact Nat.le_refl _
        · exact Nat.le_refl _
      · exact Nat.le_refl _
  | touch token lastSeenAt =>
      rw [SessionDb.serve, SessionDb.touch]
      split
      · exact Nat.le_refl _
      · split <;> exact Nat.le_refl _
  | generateSessionToken => exact Nat.le_succ _
  | _ => exact Nat.le_refl _

theorem exec_entropy (op : SessionOp) :
    db.entropy.1 ≤ (SessionDb.exec G.generator fate op db).2.entropy.1 := by
  rcases Fate.under_state (S := sessionSig) SessionOp.fault (SessionDb.serve G.generator) fate op db
    with heq | heq
  · rw [SessionDb.exec, heq]
  · rw [SessionDb.exec, heq]
    exact serve_entropy op

/-- No call un-draws a token. -/
theorem drawn_exec (op : SessionOp) (h : Drawn G token db) :
    Drawn G token (SessionDb.exec G.generator fate op db).2 := by
  obtain ⟨n, hn, heq⟩ := h
  exact ⟨n, hn.trans_le (exec_entropy op), heq⟩

/-- A token that is drawn is the next one of the stream. -/
theorem exec_draw {db' : SessionDb (Nat × Nat)}
    (h : SessionDb.exec G.generator fate .generateSessionToken db = (token, db')) :
    token = G.session db.entropy.1 ∧ db'.entropy.1 = db.entropy.1 + 1 := by
  have hserve : SessionDb.exec G.generator fate .generateSessionToken db =
      SessionDb.serve G.generator .generateSessionToken db := by
    cases fate <;> rfl
  rw [hserve] at h
  cases h
  exact ⟨rfl, rfl⟩

/-- A token that is drawn had not been drawn before. -/
theorem draw_fresh {db' : SessionDb (Nat × Nat)}
    (h : SessionDb.exec G.generator fate .generateSessionToken db = (token, db')) :
    ¬ Drawn G token db ∧ Drawn G token db' := by
  obtain ⟨rfl, hentropy⟩ := exec_draw h
  refine ⟨?_, db.entropy.1, by omega, rfl⟩
  rintro ⟨n, hn, heq⟩
  exact Nat.ne_of_lt hn (G.fresh heq)

/-- A token with no row gets one only by its insert. -/
theorem row_serve {op : SessionOp} (hrow : db.row token = none)
    (hop : ∀ session, op = .insert session → session.token ≠ token) :
    (SessionDb.serve G.generator op db).2.row token = none := by
  cases op with
  | insert session =>
      rw [SessionDb.serve, SessionDb.insert]
      split
      · split
        · split
          · next hins =>
              refine (Table.find?_insert? hins token.raw).trans ?_
              rw [if_neg fun heq => hop session rfl (congrArg SessionToken.mk heq)]
              exact hrow
          · exact hrow
        · exact hrow
      · exact hrow
  | touch token' lastSeenAt =>
      rw [SessionDb.serve, SessionDb.touch]
      split
      · next secs _ =>
          refine (Table.find?_modify db.sessions token'.raw (fun row => row.seenAt secs)
            (fun _ => rfl) token.raw).trans ?_
          rw [show db.sessions.find? token.raw = none from hrow]
          split <;> rfl
      · split <;> exact hrow
  | delete token' =>
      refine (Table.find?_delete _ _ _).trans ?_
      split
      · rfl
      · exact hrow
  | _ => exact hrow

theorem row_exec (G : TokenStream) (fate : Fate) {op : SessionOp} (hrow : db.row token = none)
    (hop : ∀ session, op = .insert session → session.token ≠ token) :
    (SessionDb.exec G.generator fate op db).2.row token = none := by
  rcases Fate.under_state (S := sessionSig) SessionOp.fault (SessionDb.serve G.generator) fate op db
    with heq | heq
  · rw [SessionDb.exec, heq]
    exact hrow
  · rw [SessionDb.exec, heq]
    exact row_serve hrow hop

end Steps

/-! ### A token is inserted once -/

section Runs
variable {G : TokenStream} {policy : SessionPolicy} {db : SessionDb (Nat × Nat)}
  {ok : SessionPool → Act SessionRequest Fate SessionEnv → Prop} {p : SessionPool}
  {token : SessionToken} {n m : Nat} {e f : Event sessionSig (SessionDb (Nat × Nat))}

/-- The step inserts the token. -/
def InsertsToken (token : SessionToken) (e : Event sessionSig (SessionDb (Nat × Nat))) : Prop :=
  ∃ session, e.op = .insert session ∧ session.token = token

/-- A step that inserts a token comes after the one that drew it, by the same call, which has
inserted nothing in between. -/
theorem drawn_of_inserts (h : (sessionSystem G policy).Run ok (.init db) p)
    (hn : p.log[n]? = some e) (he : InsertsToken token e) :
    (∃ k < n, ∃ g, p.log[k]? = some g ∧ g.caller = e.caller ∧
        (⟨g.op, g.ans⟩ : Reply sessionSig) = ⟨.generateSessionToken, token⟩) ∧
      ∀ r ∈ pastOf e.caller (p.log.take n), ¬ Inserts r := by
  obtain ⟨session, hop, rfl⟩ := he
  obtain ⟨req, d, -, hcall⟩ := h.event_call (inserts_drawn policy) hn
  obtain ⟨hdraw, hfirst⟩ := hcall session hop
  obtain ⟨k, hk, c, pre, post, hget, -⟩ := h.reply_exec hdraw
  exact ⟨⟨k, hk, _, hget, rfl, rfl⟩, hfirst⟩

/-- A token is inserted by one step. -/
theorem inserted_once (h : (sessionSystem G policy).Run ok (.init db) p)
    (hn : p.log[n]? = some e) (hm : p.log[m]? = some f) (he : InsertsToken token e)
    (hf : InsertsToken token f) : n = m := by
  have hcaller : ∀ {n m : Nat} {e f : Event sessionSig (SessionDb (Nat × Nat))},
      p.log[n]? = some e → p.log[m]? = some f → InsertsToken token e → InsertsToken token f →
        ¬ n < m := by
    intro n m e f hn hm he hf hlt
    obtain ⟨⟨k, hk, g, hget, hg, hdraw⟩, -⟩ := drawn_of_inserts h hn he
    obtain ⟨⟨k', hk', g', hget', hg', hdraw'⟩, hfirst⟩ := drawn_of_inserts h hm hf
    obtain rfl : k = k' := h.event_once (I := Drawn G token)
      (A := fun r => r = ⟨SessionOp.generateSessionToken, token⟩)
      (fun a s hs => by cases a; exact hs) (fun c op s hs => drawn_exec op hs)
      (fun c s r t hr hx => by subst hr; exact draw_fresh hx) hget hget' hdraw hdraw'
    obtain rfl := Option.some.inj (hget.symm.trans hget')
    obtain ⟨session, hop, -⟩ := he
    refine hfirst ⟨e.op, e.ans⟩ ?_ ⟨session, hop⟩
    rw [← hg', hg]
    exact mem_pastOf_of_mem (List.mem_of_getElem? (by rw [List.getElem?_take_of_lt hlt, hn]))
  have hnm := hcaller hn hm he hf
  have hmn := hcaller hm hn hf he
  omega

/-- A token that is not to be drawn is not inserted. -/
theorem not_inserted_of_undrawn (h : (sessionSystem G policy).Run ok (.init db) p)
    (hnext : ∀ k, db.entropy.1 ≤ k → G.session k ≠ token) (hn : p.log[n]? = some e) :
    ¬ InsertsToken token e := by
  intro he
  obtain ⟨⟨k, hk, g, hget, hg, hdraw⟩, -⟩ := drawn_of_inserts h hn he
  obtain ⟨c, hx⟩ := h.event_exec g (List.mem_of_getElem? hget)
  have hdrawn := (exec_draw (exec_of_reply hdraw hx)).1
  have hle : db.entropy.1 ≤ g.pre.entropy.1 :=
    (h.trail.before hget).mono_exec (M := fun s t => s.entropy.1 ≤ t.entropy.1)
      (fun _ => Nat.le_refl _) Nat.le_trans (fun a s => by cases a; exact Nat.le_refl _)
      (fun c op s => exec_entropy op)
  exact hnext _ hle hdrawn.symm

/-- A token that is stored at first, and not to be drawn again, is not inserted. -/
theorem not_inserted (h : (sessionSystem G policy).Run ok (.init db) p)
    (hfresh : ∀ k, db.entropy.1 ≤ k → db.row (G.session k) = none) (hstored : db.row token ≠ none)
    (hn : p.log[n]? = some e) : ¬ InsertsToken token e :=
  not_inserted_of_undrawn h (fun k hk heq => hstored (heq ▸ hfresh k hk)) hn

/-- A token that is stored was stored at first, or has been inserted. -/
theorem stored_cases {log : List (Event sessionSig (SessionDb (Nat × Nat)))}
    {t : SessionDb (Nat × Nat)} (h : (sessionSystem G policy).Trail db log t)
    (hrow : t.row token ≠ none) : db.row token ≠ none ∨ ∃ e ∈ log, InsertsToken token e := by
  by_contra hnone
  obtain ⟨hdb, hlog⟩ := not_or.mp hnone
  refine hrow (h.inv (I := fun s => s.row token = none) (fun a s hs => by cases a; exact hs)
    (not_not.mp hdb) fun e he hpre => ?_)
  obtain ⟨c, hx⟩ := h.exec e he
  have hpost := row_exec G c hpre fun session hop heq =>
    hlog ⟨e, he, session, hop, heq⟩
  rw [show SessionDb.exec G.generator c e.op e.pre = (e.ans, e.post) from hx] at hpost
  exact hpost

/-- The session of the token has been stored at some time. -/
def Held (token : SessionToken) (db : SessionDb (Nat × Nat))
    (log : List (Event sessionSig (SessionDb (Nat × Nat)))) : Prop :=
  db.row token ≠ none ∨ ∃ f ∈ log, f.post.row token ≠ none

/-- Once a token has been stored, no later step inserts it. -/
theorem Held.not_inserted (h : (sessionSystem G policy).Run ok (.init db) p)
    (hfresh : ∀ k, db.entropy.1 ≤ k → db.row (G.session k) = none)
    (hheld : Held token db (p.log.take n)) (hm : p.log[m]? = some e) (hnm : n ≤ m) :
    ¬ InsertsToken token e := by
  intro he
  have hinserted : db.row token ≠ none ∨ ∃ g ∈ p.log.take n, InsertsToken token g := by
    rcases hheld with hdb | ⟨f, hf, hrow⟩
    · exact .inl hdb
    obtain ⟨k, hk⟩ := List.mem_iff_getElem?.mp hf
    have hlt := (Nat.lt_min.mp (List.length_take ▸ (List.getElem?_eq_some_iff.mp hk).1)).1
    have hget : p.log[k]? = some f := (List.getElem?_take_of_lt hlt).symm.trans hk
    -- the trail up to `f`, and `f` itself
    obtain ⟨c, hx⟩ := h.event_exec f (List.mem_of_getElem? hget)
    have htrail := (h.trail.before hget).append (.step c f rfl hx (.nil _))
    refine (stored_cases htrail hrow).imp_right ?_
    rintro ⟨g, hg, hins⟩
    refine ⟨g, ?_, hins⟩
    rcases List.mem_append.mp hg with hg | hg
    · exact (List.take_subset_take_left _ (Nat.le_of_lt hlt)) hg
    · obtain rfl := List.mem_singleton.mp hg
      exact hf
  rcases hinserted with hdb | ⟨g, hg, hins⟩
  · exact Sessions.not_inserted h hfresh hdb hm he
  · obtain ⟨k, hk⟩ := List.mem_iff_getElem?.mp hg
    have hlt := (Nat.lt_min.mp (List.length_take ▸ (List.getElem?_eq_some_iff.mp hk).1)).1
    have heq := inserted_once h ((List.getElem?_take_of_lt hlt).symm.trans hk) hm hins he
    omega

/-- Where a token has no row, finding it fails, or finds nothing. -/
theorem find_of_absent {fate : Fate} {s t : SessionDb (Nat × Nat)}
    {found : Except RepositoryError (Option Session)} (hrow : s.row token = none)
    (h : SessionDb.exec G.generator fate (.find token) s = (found, t)) (session : Session) :
    found ≠ .ok (some session) := by
  have hserve : SessionDb.serve G.generator (.find token) s = (.ok none, s) := by
    rw [SessionDb.serve, SessionDb.find_eq, hrow]
  cases fate with
  | served =>
      rw [SessionDb.exec, Fate.under, hserve] at h
      cases h
      exact fun heq => by cases heq
  | refused msg => cases h; exact fun heq => by cases heq
  | unacknowledged msg => cases h; exact fun heq => by cases heq

/-- The points of an authentication, among those of every request. -/
theorem authenticate_points (policy : SessionPolicy) (req : SessionRequest) :
    Prog.Always (fun past p => ∀ token, req = .authenticate token →
      ∃ head, AuthenticateTrace policy token past head ∧ p.head = head.map .authenticated) []
      (req.code policy) := by
  cases req with
  | authenticate token =>
      refine ((authenticate_trace policy token).map _).mono fun past p hp token' heq => ?_
      cases heq
      exact hp
  | _ => exact Prog.always_of_forall (fun _ _ _ heq => by cases heq) _ _

/-- A find that met no row is answered by a rejection. -/
theorem rejected_of_absent (h : (sessionSystem G policy).Run ok (.init db) p) {i : Nat}
    {r : Except SessionError AuthenticatedSession}
    (hret : p.Returned i (.authenticate token) (.authenticated r))
    (hm : p.log[m]? = some e) (hcaller : e.caller = i) (hop : e.op = .find token)
    (hrow : e.pre.row token = none) : ∃ err, r = .error err := by
  obtain ⟨head, htrace, hhead⟩ := h.point (authenticate_points policy) hret token rfl
  obtain ⟨r', rfl, hr⟩ := Head.map_eq_ret hhead.symm
  cases hr
  have hmem : (⟨e.op, e.ans⟩ : Reply sessionSig) ∈ pastOf i p.log :=
    hcaller ▸ mem_pastOf_of_mem (List.mem_of_getElem? hm)
  obtain ⟨c, hx⟩ := h.event_exec e (List.mem_of_getElem? hm)
  obtain ⟨j, op, ans, pre, post⟩ := e
  cases hop
  have habsent := find_of_absent hrow hx
  generalize hpast : pastOf i p.log = past at htrace hmem
  cases htrace with
  | liveDone now session hx =>
      simp only [List.mem_cons, List.not_mem_nil, or_false] at hmem
      rcases hmem with hmem | hmem | hmem
      · cases hmem
      · cases hmem
        exact absurd rfl (habsent session)
      · cases hmem
  | _ => exact ⟨_, rfl⟩

theorem row_of_deleted {fate : Fate} {s t : SessionDb (Nat × Nat)}
    (h : SessionDb.exec G.generator fate (.delete token) s = (.ok (), t)) : t.row token = none := by
  cases fate with
  | served =>
      cases h
      exact SessionDb.row_delete s token
  | refused msg => cases h
  | unacknowledged msg => cases h

/-- **Revocation.** Once a session that was stored has been deleted, its token has no row at any
later step, whatever the requests in flight still do, and every authentication that looks it up
later is rejected. -/
theorem revoked_for_good (G : TokenStream) (policy : SessionPolicy) (db : SessionDb (Nat × Nat))
    (hfresh : ∀ k, db.entropy.1 ≤ k → db.row (G.session k) = none) {p : SessionPool}
    (h : (sessionSystem G policy).Run (fun _ _ => True) (.init db) p) (token : SessionToken)
    {n : Nat} {e : Event sessionSig (SessionDb (Nat × Nat))} (hn : p.log[n]? = some e)
    (hdelete : (⟨e.op, e.ans⟩ : Reply sessionSig) = ⟨SessionOp.delete token, .ok ()⟩)
    (hheld : Held token db (p.log.take n)) :
    p.store.row token = none ∧
      (∀ m f, n < m → p.log[m]? = some f → f.pre.row token = none ∧ f.post.row token = none) ∧
      ∀ m f i r, n < m → p.log[m]? = some f → f.caller = i → f.op = .find token →
        p.Returned i (.authenticate token) (.authenticated r) → ∃ err, r = .error err := by
  obtain ⟨c, hx⟩ := h.event_exec e (List.mem_of_getElem? hn)
  have hpost : e.post.row token = none := row_of_deleted (exec_of_reply hdelete hx)
  have hstep : ∀ k g, n < k → p.log[k]? = some g → g.pre.row token = none →
      g.post.row token = none := by
    intro k g hnk hk hpre
    obtain ⟨c, hx⟩ := h.event_exec g (List.mem_of_getElem? hk)
    have hnext := row_exec G c hpre fun session hop heq =>
      hheld.not_inserted h hfresh hk (Nat.le_of_lt hnk) ⟨session, hop, heq⟩
    rwa [show SessionDb.exec G.generator c g.op g.pre = (g.ans, g.post) from hx] at hnext
  have henv : ∀ (a : SessionEnv) (s : SessionDb (Nat × Nat)), s.row token = none →
      (a.act s).row token = none := fun a s hs => by cases a; exact hs
  have hpre : ∀ m f, n < m → p.log[m]? = some f → f.pre.row token = none := fun m f hnm hm =>
    h.trail.inv_between (I := fun s => s.row token = none) henv hn hm hnm hpost
      fun k g hnk _ hk => hstep k g hnk hk
  refine ⟨?_, fun m f hnm hm => ⟨hpre m f hnm hm, hstep m f hnm hm (hpre m f hnm hm)⟩, ?_⟩
  · have htrail : (sessionSystem G policy).Trail db (p.log.take p.log.length) p.store := by
      rw [List.take_length]
      exact h.trail
    exact htrail.inv_after (I := fun s => s.row token = none) henv hn
      (List.getElem?_eq_some_iff.mp hn).1 hpost fun k g hnk _ hk => hstep k g hnk hk
  · intro m f i r hnm hm hcaller hop hret
    exact rejected_of_absent h hret hm hcaller hop (hpre m f hnm hm)

end Runs

/-! ### Two schedules -/

def steps (i n : Nat) : List (Act SessionRequest Fate SessionEnv) :=
  List.replicate n (.step i .served)

/-- A session is issued, and is revoked while a request that has found it is under way. -/
def revokedInFlight : SessionPool :=
  ((sessionSystem unaryTokens .recommended).acts
    ([.start (.start ⟨"admin-1"⟩ .admin)] ++ steps 0 4 ++
      [.start (.authenticate (unaryTokens.session 0)), .start (.revoke (unaryTokens.session 0)),
        .start (.authenticate (unaryTokens.session 0))] ++
      steps 1 2 ++ steps 2 1 ++ steps 1 1 ++ steps 3 2) (.init noSessions)).get rfl

/-- The request that is under way goes on; the one that looks the session up later is rejected,
and the session does not come back. -/
theorem revokedInFlight_rejected :
    revokedInFlight.store.row (unaryTokens.session 0) = none ∧
      ∃ err, revokedInFlight.Returned 3 (.authenticate (unaryTokens.session 0))
        (.authenticated (.error err)) := by
  have hlen : revokedInFlight.log.length = 10 := rfl
  have hrun : (sessionSystem unaryTokens .recommended).Run (fun _ _ => True) (.init noSessions)
      revokedInFlight := .of_acts .refl (fun _ _ _ => trivial) (Option.some_get rfl).symm
  have hheld : Held (unaryTokens.session 0) noSessions (revokedInFlight.log.take 6) :=
    .inr ⟨revokedInFlight.log[3], List.mem_take_iff_getElem.mpr ⟨3, by omega, rfl⟩,
      Option.ne_none_iff_exists'.mpr ⟨_, rfl⟩⟩
  obtain ⟨hrow, -, hreject⟩ := revoked_for_good unaryTokens .recommended noSessions
    (fun _ _ => rfl) hrun (unaryTokens.session 0)
    (List.getElem?_eq_getElem (i := 6) (by omega)) rfl hheld
  obtain ⟨err, herr⟩ := hreject 9 revokedInFlight.log[9] 3 (.error .notFound) (by omega)
    (List.getElem?_eq_getElem (by omega)) rfl rfl rfl
  exact ⟨hrow, err, herr ▸ rfl⟩

/-- A token is revoked before it is drawn. -/
def guessedRevoke : SessionPool :=
  ((sessionSystem unaryTokens .recommended).acts
    ([.start (.revoke (unaryTokens.session 0))] ++ steps 0 1 ++
      [.start (.start ⟨"admin-1"⟩ .admin)] ++ steps 1 4 ++
      [.start (.authenticate (unaryTokens.session 0))] ++ steps 2 3) (.init noSessions)).get rfl

/-- The delete is served, and a later authentication of the token is accepted. -/
theorem guessed_revoke :
    (sessionSystem unaryTokens .recommended).Run (fun _ _ => True) (.init noSessions)
        guessedRevoke ∧
      (∃ e, guessedRevoke.log[0]? = some e ∧ (⟨e.op, e.ans⟩ : Reply sessionSig) =
        ⟨SessionOp.delete (unaryTokens.session 0), .ok ()⟩) ∧
      (∃ f, guessedRevoke.log[6]? = some f ∧ f.caller = 2 ∧
        f.op = .find (unaryTokens.session 0)) ∧
      guessedRevoke.Returned 2 (.authenticate (unaryTokens.session 0))
        (.authenticated (.ok ⟨⟨"admin-1"⟩, .admin, unaryTokens.csrf 0⟩)) := by
  refine ⟨.of_acts .refl (fun _ _ _ => trivial) (Option.some_get rfl).symm, ⟨_, rfl, rfl⟩,
    ⟨_, rfl, rfl, rfl⟩, rfl⟩

end AuthApp.Sessions
