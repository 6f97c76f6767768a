import AuthApp.Audit.Store
import AuthApp.Http.Api
import AuthApp.Sessions.Spent

/-!
# Http — logging out

`POST /auth/logout` behind the session middleware, any call of which may fail or take its time.
The handler drops the answer of the revocation, so it reports success also where the session is
still stored.

* `authenticate_answered`: how a request goes on after its session is looked up.
* `LoggedOut.left_behind`: what a logout that was answered 204 leaves in the store.
* `LoggedOut.rejected_iff`: its token is rejected from then on exactly when the delete took effect,
  or the session has timed out by itself.
* `refusedLogout_accepted`: a logout whose delete is refused.
-/

namespace AuthApp.Http
open Interleave Accounts Sessions Audit

/-- Record the logout, clear the cookies.  A failure of the audit trail is dropped. -/
def recordLogout (request : Request) (current : CurrentSession) :
    Prog (sessionSig.sum auditSig) Response := do
  let occurredAt ← (Prog.perform (S := sessionSig) .now).inl (T := auditSig)
  let _ ← (AuditService.record
    { eventType := .loggedOut
      adminId := some ⟨current.adminId⟩
      emailAttempted := none
      ip := request.clientIp
      userAgent := request.userAgent
      occurredAt }).inr (S := sessionSig)
  return ⟨204, none, none, clearSessionCookies⟩

/-- Revoke the session, whatever the revocation answers, and record it. -/
def logoutHandler (request : Request) (current : CurrentSession) :
    Prog (sessionSig.sum auditSig) Response := do
  let _ ← (SessionService.revoke current.token).inl (T := auditSig)
  recordLogout request current

/-- `POST /auth/logout`. -/
def logout (policy : SessionPolicy) (request : Request) : Prog (sessionSig.sum auditSig) Response :=
  requireSession policy request (logoutHandler request)

/-- What a call of a request meets: the time that passes before it, and its fate. -/
structure Hop where
  wait : Nat
  fate : Fate
  deriving DecidableEq, Repr

/-- A call of the session context or of the audit trail. -/
def Hop.exec (G : TokenStream) (hop : Hop) :
    Exec (sessionSig.sum auditSig) (SessionDb (Nat × Nat) × AuditDb) := fun op s =>
  Exec.sum (SessionDb.exec G.generator hop.fate) (AuditDb.exec hop.fate) op
    (SessionEnv.act (.tick hop.wait) s.1, s.2)

/-- A logout that was answered 204, with the cookies cleared. -/
structure LoggedOut (G : TokenStream) (policy : SessionPolicy) (db : SessionDb (Nat × Nat))
    (audit : AuditDb) where
  request : Request
  token : SessionToken
  hops : List Hop
  after : SessionDb (Nat × Nat) × AuditDb
  cookie : request.sessionCookie = some token.raw
  posted : request.method = .post
  answered : (logout policy request).runFates (Hop.exec G) hops (db, audit) =
    (some ⟨204, none, none, clearSessionCookies⟩, after)

/-! ### What one call leaves behind -/

section Calls
variable {G : TokenStream} {hop : Hop} {s : SessionDb (Nat × Nat) × AuditDb}
  {token : SessionToken}

/-- The clock after a call, the tokens to be drawn, and the row of a token. -/
def Leaves (token : SessionToken) (t : SessionDb (Nat × Nat)) (clock : Int)
    (entropy : Nat × Nat) (row : Option SessionRow) : Prop :=
  t.clock = clock ∧ t.entropy = entropy ∧ t.row token = row

theorem hop_now : Hop.exec G hop (.inl .now) s =
    (s.1.clock + hop.wait, SessionEnv.act (.tick hop.wait) s.1, s.2) := by
  obtain ⟨wait, fate⟩ := hop
  cases fate <;> rfl

theorem hop_find {session : Session}
    (h : (Hop.exec G hop (.inl (.find token)) s).1 = .ok (some session)) :
    s.1.find token = .ok (some session) ∧
      (Hop.exec G hop (.inl (.find token)) s).2 = (SessionEnv.act (.tick hop.wait) s.1, s.2) := by
  obtain ⟨wait, fate⟩ := hop
  cases fate with
  | served => exact ⟨h, rfl⟩
  | refused msg => cases h
  | unacknowledged msg => cases h

theorem hop_touch (G : TokenStream) (hop : Hop) (token : SessionToken) {now secs : Int}
    (hsecs : toEpoch now = some secs)
    (h : (Hop.exec G hop (.inl (.touch token now)) s).1 = .ok ()) :
    Leaves token (Hop.exec G hop (.inl (.touch token now)) s).2.1 (s.1.clock + hop.wait)
      s.1.entropy ((s.1.row token).map fun row => row.seenAt secs) := by
  obtain ⟨wait, fate⟩ := hop
  cases fate with
  | served =>
      change Leaves token (SessionDb.touch (SessionEnv.act (.tick wait) s.1) token now).2 _ _ _
      refine ⟨?_, ?_, (SessionDb.touch_of_toEpoch hsecs (SessionEnv.act (.tick wait) s.1) token).2⟩
      · rw [SessionDb.touch, hsecs]
        rfl
      · rw [SessionDb.touch, hsecs]
        rfl
  | refused msg => cases h
  | unacknowledged msg => cases h

theorem hop_delete_lands (h : hop.fate.Lands) :
    Leaves token (Hop.exec G hop (.inl (.delete token)) s).2.1 (s.1.clock + hop.wait)
      s.1.entropy none := by
  obtain ⟨wait, fate⟩ := hop
  cases fate with
  | served => exact ⟨rfl, rfl, SessionDb.row_delete _ token⟩
  | refused msg => exact absurd h id
  | unacknowledged msg => exact ⟨rfl, rfl, SessionDb.row_delete _ token⟩

theorem hop_delete_refused (h : ¬ hop.fate.Lands) :
    Leaves token (Hop.exec G hop (.inl (.delete token)) s).2.1 (s.1.clock + hop.wait)
      s.1.entropy (s.1.row token) := by
  obtain ⟨wait, fate⟩ := hop
  cases fate with
  | served => exact absurd trivial h
  | refused msg => exact ⟨rfl, rfl, rfl⟩
  | unacknowledged msg => exact absurd trivial h

end Calls

/-! ### The calls of an authentication -/

/-- What an authentication does with the answer of its lookup. -/
def afterFind (policy : SessionPolicy) (token : SessionToken) (now : Int) :
    Except RepositoryError (Option Session) →
      Prog sessionSig (Except SessionError AuthenticatedSession)
  | .error e => return .error (.internal e.display)
  | .ok none => return .error .notFound
  | .ok (some session) => SessionService.useSession policy token now session

theorem authenticate_eq (policy : SessionPolicy) (token : SessionToken) :
    SessionService.authenticate policy token =
      .call .now fun now => .call (.find token) (afterFind policy token now) := by
  refine congrArg (Prog.call _) (funext fun now => congrArg (Prog.call _) (funext fun found => ?_))
  rcases found with e | _ | session <;> rfl

section
variable {G : TokenStream} {policy : SessionPolicy} {token : SessionToken} {α : Type}
  {k : Except SessionError AuthenticatedSession → Prog (sessionSig.sum auditSig) α}
  {hops : List Hop} {s t : SessionDb (Nat × Nat) × AuditDb} {a : α}

/-- A request that comes to a result after an authentication goes on from its rejection, or from
the session it found live. -/
theorem authenticate_answered
    (h : ((SessionService.authenticate policy token).inl >>= k).runFates (Hop.exec G) hops s =
      (some a, t)) :
    (∃ err rest u, (k (.error err)).runFates (Hop.exec G) rest u = (some a, t)) ∨
      ∃ h₀ h₁ h₂ rest row session u, hops = h₀ :: h₁ :: h₂ :: rest ∧
        s.1.row token = some row ∧ rowToSession row = .ok session ∧
          policy.isExpired session (s.1.clock + h₀.wait) = false ∧
            Leaves token u.1 (s.1.clock + h₀.wait + h₁.wait + h₂.wait) s.1.entropy
                (some (row.seenAt ((s.1.clock + h₀.wait) / nanosPerSec))) ∧
              (k (.ok session.authenticated)).runFates (Hop.exec G) rest u = (some a, t) := by
  rw [authenticate_eq, Prog.inl_call, Prog.call_bind] at h
  obtain ⟨h₀, rest₀, rfl, hread⟩ := Prog.runFates_call_eq_some h
  rw [hop_now, Prog.inl_call, Prog.call_bind] at hread
  obtain ⟨h₁, rest₁, rfl, hfound⟩ := Prog.runFates_call_eq_some hread
  dsimp only at hfound
  generalize hanswer :
    Hop.exec G h₁ (.inl (.find token)) (SessionEnv.act (.tick h₀.wait) s.1, s.2) =
    r at hfound
  obtain ⟨found, u⟩ := r
  rcases found with e | _ | session
  · exact .inl ⟨_, _, _, hfound⟩
  · exact .inl ⟨_, _, _, hfound⟩
  obtain ⟨hfind, hu⟩ := hop_find (congrArg Prod.fst hanswer)
  obtain rfl : u = _ := (congrArg Prod.snd hanswer).symm.trans hu
  rw [afterFind, SessionService.useSession] at hfound
  cases hexpired : policy.isExpired session (s.1.clock + h₀.wait) with
  | true =>
      rw [if_pos hexpired] at hfound
      obtain ⟨h₂, rest₂, rfl, hdone⟩ := Prog.runFates_call_eq_some hfound
      exact .inl ⟨_, _, _, hdone⟩
  | false =>
      rw [if_neg (by rw [hexpired]; exact Bool.false_ne_true)] at hfound
      obtain ⟨h₂, rest₂, rfl, hdone⟩ := Prog.runFates_call_eq_some hfound
      obtain ⟨row, hrow, hs⟩ := SessionDb.find_eq_ok_some hfind
      have htouched := hop_touch G h₂ token
        (s := (SessionEnv.act (.tick h₁.wait) (SessionEnv.act (.tick h₀.wait) s.1), s.2))
        (toEpoch_of_live hs hexpired)
      generalize Hop.exec G h₂ (.inl (.touch token (s.1.clock + h₀.wait))) _ = r at htouched hdone
      obtain ⟨e | ⟨⟩, v⟩ := r
      · exact .inl ⟨_, _, _, hdone⟩
      · refine .inr ⟨h₀, h₁, h₂, rest₂, row, session, v, rfl, hrow, hs, hexpired, ?_, hdone⟩
        obtain ⟨hclock, hentropy, hv⟩ := htouched rfl
        exact ⟨hclock, hentropy, hv.trans (congrArg (Option.map _) hrow)⟩

end

/-! ### What a logout leaves behind -/

namespace LoggedOut
variable {G : TokenStream} {policy : SessionPolicy} {db : SessionDb (Nat × Nat)} {audit : AuditDb}

/-- When the request read the clock, and its session was last used. -/
def usedAt (l : LoggedOut G policy db audit) : Int := db.clock + ((l.hops.take 1).map Hop.wait).sum

/-- When the request was answered, after six calls. -/
def answeredAt (l : LoggedOut G policy db audit) : Int :=
  db.clock + ((l.hops.take 6).map Hop.wait).sum

/-- The delete is the fourth call of the request, and it takes effect. -/
def DeleteLands (l : LoggedOut G policy db audit) : Prop :=
  ∃ hop, l.hops[3]? = some hop ∧ hop.fate.Lands

/-- The session that was just used is past its limits by the time of the answer. -/
def TimedOut (l : LoggedOut G policy db audit) : Prop :=
  ∀ row session, db.row l.token = some row → rowToSession row = .ok session →
    policy.isExpired { session with lastSeenAt := fromEpoch (l.usedAt / nanosPerSec) }
      l.answeredAt = true

theorem recordLogout_answered {request : Request} {current : CurrentSession} {hops : List Hop}
    {s t : SessionDb (Nat × Nat) × AuditDb} {r : Response}
    (h : (recordLogout request current).runFates (Hop.exec G) hops s = (some r, t)) :
    ∃ h₀ h₁ rest, hops = h₀ :: h₁ :: rest ∧
      t.1 = SessionEnv.act (.tick h₁.wait) (SessionEnv.act (.tick h₀.wait) s.1) := by
  obtain ⟨h₀, rest₀, rfl, hread⟩ := Prog.runFates_call_eq_some h
  rw [hop_now] at hread
  obtain ⟨h₁, rest₁, rfl, hrecorded⟩ := Prog.runFates_call_eq_some hread
  refine ⟨h₀, h₁, rest₁, rfl, ?_⟩
  generalize hrecord : Hop.exec G h₁ (.inr (.record _)) _ = r at hrecorded
  obtain ⟨e | id, u⟩ := r
  · rw [← (Prog.runFates_ret_eq_some hrecorded).2]
    exact (congrArg (fun r => r.2.1) hrecord).symm
  · rw [← (Prog.runFates_ret_eq_some hrecorded).2]
    exact (congrArg (fun r => r.2.1) hrecord).symm

/-- The request found a live session, touched it, and deleted it if the delete landed. -/
theorem left_behind (l : LoggedOut G policy db audit) :
    ∃ row session, db.row l.token = some row ∧ rowToSession row = .ok session ∧
      policy.isExpired session l.usedAt = false ∧ l.usedAt ≤ l.answeredAt ∧
        Leaves l.token l.after.1 l.answeredAt db.entropy (l.after.1.row l.token) ∧
          (l.DeleteLands → l.after.1.row l.token = none) ∧
            (¬ l.DeleteLands →
              l.after.1.row l.token = some (row.seenAt (l.usedAt / nanosPerSec))) := by
  have h := l.answered
  rw [logout, requireSession, l.cookie] at h
  rcases authenticate_answered h with ⟨err, rest, u, hno⟩ |
    ⟨h₀, h₁, h₂, rest, row, session, u, hhops, hrow, hs, hlive, ⟨hclock, hentropy, hu⟩, hnext⟩
  · cases (Prog.runFates_ret_eq_some hno).1
  dsimp only at hnext
  split at hnext
  · cases (Prog.runFates_ret_eq_some hnext).1
  obtain ⟨h₃, rest₃, rfl, hrevoked⟩ := Prog.runFates_call_eq_some hnext
  have hrest : (recordLogout l.request ⟨session.authenticated.adminId.raw,
      session.authenticated.role, l.token⟩).runFates (Hop.exec G) rest₃
        (Hop.exec G h₃ (.inl (.delete l.token)) u).2 =
          (some ⟨204, none, none, clearSessionCookies⟩, l.after) := by
    generalize Hop.exec G h₃ (.inl (.delete l.token)) u = r at hrevoked
    obtain ⟨e | ⟨⟩, v⟩ := r <;> exact hrevoked
  obtain ⟨h₄, h₅, rest₅, rfl, hafter⟩ := recordLogout_answered hrest
  dsimp only at hlive hclock hentropy hu
  have hused : l.usedAt = db.clock + h₀.wait := by simp [usedAt, hhops]
  have hanswered : l.answeredAt = u.1.clock + h₃.wait + h₄.wait + h₅.wait := by
    simp only [answeredAt, hhops, hclock]
    simp
    omega
  have hlands : l.DeleteLands ↔ h₃.fate.Lands := by simp [DeleteLands, hhops]
  have hdeleted : (Hop.exec G h₃ (.inl (.delete l.token)) u).2.1.clock = u.1.clock + h₃.wait ∧
      (Hop.exec G h₃ (.inl (.delete l.token)) u).2.1.entropy = u.1.entropy := by
    rcases em h₃.fate.Lands with hl | hl
    · exact ⟨(hop_delete_lands hl).1, (hop_delete_lands hl).2.1⟩
    · exact ⟨(hop_delete_refused hl).1, (hop_delete_refused hl).2.1⟩
  refine ⟨row, session, hrow, hs, hused ▸ hlive, by omega, ⟨?_, ?_, rfl⟩, fun hl => ?_,
    fun hl => ?_⟩
  · rw [hafter, hanswered, ← hdeleted.1]
    rfl
  · rw [hafter, ← hentropy, ← hdeleted.2]
    rfl
  · rw [hafter]
    exact (hop_delete_lands (hlands.mp hl)).2.2
  · rw [hafter]
    exact (hop_delete_refused (mt hlands.mpr hl)).2.2.trans (hused ▸ hu)

/-- **Logging out.** After a logout that was answered 204, no authentication of its token is ever
accepted again, exactly when its delete took effect, or its session had timed out by then. -/
theorem rejected_iff (l : LoggedOut G policy db audit)
    (hfresh : ∀ k, db.entropy.1 ≤ k → db.row (G.session k) = none) :
    (∀ q, (sessionSystem G policy).Run (fun _ _ => True) (.init l.after.1) q → ∀ i r,
        q.Returned i (.authenticate l.token) (.authenticated r) → ∃ err, r = .error err) ↔
      l.DeleteLands ∨ l.TimedOut := by
  obtain ⟨row, session, hrow, hs, hlive, hle, ⟨hclock, hentropy, -⟩, hgone, hkept⟩ := l.left_behind
  have hnext : ∀ k, l.after.1.entropy.1 ≤ k → G.session k ≠ l.token := by
    intro k hk heq
    rw [hentropy] at hk
    rw [← heq, hfresh k hk] at hrow
    cases hrow
  have hseen : fromEpoch (l.usedAt / nanosPerSec) ≤ l.usedAt :=
    fromEpoch_div_le ((fromEpoch_nonneg _).trans (lastSeenAt_of_rowToSession hs ▸
      (SessionPolicy.isExpired_eq_false_iff.mp hlive).2.1))
  constructor
  · intro hrejected
    by_contra hno
    obtain ⟨hlost, htime⟩ := not_or.mp hno
    -- the session is still there, and an authentication at once is accepted
    have hfind : l.after.1.find l.token =
        .ok (some { session with lastSeenAt := fromEpoch (l.usedAt / nanosPerSec) }) := by
      rw [SessionDb.find_eq, hkept hlost]
      dsimp only
      rw [rowToSession_seenAt hs]
      rfl
    have hlive' : policy.isExpired
        { session with lastSeenAt := fromEpoch (l.usedAt / nanosPerSec) } l.after.1.clock =
          false := by
      by_contra hexpired
      refine htime fun row' session' hrow' hs' => ?_
      obtain rfl := Option.some.inj (hrow.symm.trans hrow')
      obtain rfl := Except.ok.inj (hs.symm.trans hs')
      rw [← hclock]
      simpa using hexpired
    obtain ⟨q, hrun, hret⟩ := accepted_of_live G hfind hlive'
    obtain ⟨err, herr⟩ := hrejected q hrun 0 _ hret
    cases herr
  · intro hdead q hrun i r hret
    refine rejected_of_spent hrun hnext ?_ hret
    rcases em l.DeleteLands with hlands | hlost
    · exact .of_absent (hgone hlands)
    · have htime := hdead.resolve_left hlost
      intro found hfound
      rw [SessionDb.find_eq, hkept hlost] at hfound
      dsimp only at hfound
      rw [rowToSession_seenAt hs] at hfound
      cases hfound
      rw [hclock]
      exact ⟨htime row session hrow hs, hseen.trans hle⟩

end LoggedOut

/-! ### Two logouts -/

/-- One administrator is signed in. -/
def signedIn : SessionDb (Nat × Nat) :=
  ((SessionService.start .recommended ⟨"admin-1"⟩ .admin).run
    (SessionDb.serve unaryTokens.generator) { noSessions with entropy := (1, 1) }).2

def noEvents : AuditDb := ⟨.empty, ⟨"event-1"⟩⟩

def logoutRequest : Request where
  method := .post
  sessionCookie := some (unaryTokens.session 1).raw
  csrfHeader := some (unaryTokens.csrf 1).raw
  userAgent := none
  xForwardedFor := none
  xRealIp := none
  peer := some "203.0.113.7"

/-- A logout at once, whose delete meets the given fate. -/
def logoutHops (fate : Fate) : List Hop :=
  [⟨0, .served⟩, ⟨0, .served⟩, ⟨0, .served⟩, ⟨0, fate⟩, ⟨0, .served⟩, ⟨0, .served⟩]

def logoutRun (fate : Fate) : Option Response × SessionDb (Nat × Nat) × AuditDb :=
  (logout .recommended logoutRequest).runFates (Hop.exec unaryTokens) (logoutHops fate)
    (signedIn, noEvents)

def servedLogout : LoggedOut unaryTokens .recommended signedIn noEvents where
  request := logoutRequest
  token := unaryTokens.session 1
  hops := logoutHops .served
  after := (logoutRun .served).2
  cookie := rfl
  posted := rfl
  answered := Prod.ext rfl rfl

def refusedLogout : LoggedOut unaryTokens .recommended signedIn noEvents where
  request := logoutRequest
  token := unaryTokens.session 1
  hops := logoutHops (.refused "connection reset")
  after := (logoutRun (.refused "connection reset")).2
  cookie := rfl
  posted := rfl
  answered := Prod.ext rfl rfl

/-- The token of the signed-in administrator is the only one stored. -/
theorem signedIn_fresh (k : Nat) (hk : signedIn.entropy.1 ≤ k) :
    signedIn.row (unaryTokens.session k) = none := by
  refine Table.find?_eq_none_iff.mpr fun r hr heq => ?_
  obtain rfl := List.mem_singleton.mp hr
  have hone : (1 : Nat) = k := unaryTokens.fresh (congrArg SessionToken.mk heq)
  have htwo : (2 : Nat) ≤ k := hk
  omega

/-- When the delete is served, the token is rejected from then on. -/
theorem servedLogout_rejected :
    servedLogout.DeleteLands ∧ ∀ q, (sessionSystem unaryTokens .recommended).Run (fun _ _ => True)
      (.init servedLogout.after.1) q → ∀ i r,
        q.Returned i (.authenticate servedLogout.token) (.authenticated r) →
          ∃ err, r = .error err :=
  have hlands : servedLogout.DeleteLands := ⟨⟨0, .served⟩, rfl, trivial⟩
  ⟨hlands, (servedLogout.rejected_iff signedIn_fresh).mpr (.inl hlands)⟩

/-- When it is refused, the answer is the same, and the token still authenticates. -/
theorem refusedLogout_accepted :
    (∀ k, signedIn.entropy.1 ≤ k → signedIn.row (unaryTokens.session k) = none) ∧
      ∃ q, (sessionSystem unaryTokens .recommended).Run (fun _ _ => True)
          (.init refusedLogout.after.1) q ∧
        q.Returned 0 (.authenticate refusedLogout.token)
          (.authenticated (.ok ⟨⟨"admin-1"⟩, .admin, unaryTokens.csrf 1⟩)) := by
  have hlive : refusedLogout.after.1.find refusedLogout.token = .ok (some
      { token := unaryTokens.session 1
        adminId := ⟨"admin-1"⟩
        role := .admin
        csrfToken := unaryTokens.csrf 1
        createdAt := 0
        absoluteExpiresAt := fromSecs (12 * 60 * 60)
        lastSeenAt := 0 }) := by rfl
  exact ⟨signedIn_fresh, accepted_of_live unaryTokens hlive (by decide)⟩

end AuthApp.Http
