import AuthApp.Http.Login

/-!
# Http — what the audit trail says of a sign-in

Every attempt to sign in is to be recorded, and as a success exactly when a session was issued in
it.  The two handlers that issue sessions differ from this in what they do when something fails.

* `answerLogin_returns`, `callback_returns`: what each handler records, by what its calls were
  answered.
* `addedBy_eq`: the rows of the trail are those the answers speak of.
* `truthful_iff`: when what a sign-in adds to the trail is true of it.
* `lostLogin_untruthful`: a login that is recorded as a success, and issues no session.
-/

namespace AuthApp.Http
open Interleave Pool Accounts Sessions Audit

variable {ι τ υ : Type}

/-! ### What the answers say -/

def authReplies (past : List (Reply httpSig)) : List (Reply authSig) := lefts (lefts past)

def sessionReplies (past : List (Reply httpSig)) : List (Reply sessionSig) := lefts (rights past)

def auditReplies (past : List (Reply httpSig)) : List (Reply auditSig) := rights (rights past)

theorem authReplies_append (past rest : List (Reply httpSig)) :
    authReplies (past ++ rest) = authReplies past ++ authReplies rest := by
  rw [authReplies, lefts_append, lefts_append]
  rfl

theorem sessionReplies_append (past rest : List (Reply httpSig)) :
    sessionReplies (past ++ rest) = sessionReplies past ++ sessionReplies rest := by
  rw [sessionReplies, rights_append, lefts_append]
  rfl

theorem auditReplies_append (past rest : List (Reply httpSig)) :
    auditReplies (past ++ rest) = auditReplies past ++ auditReplies rest := by
  rw [auditReplies, rights_append, rights_append]
  rfl

/-- The answers of a request, by the context that gave them. -/
structure Splits (past : List (Reply httpSig)) (auth : List (Reply authSig))
    (session : List (Reply sessionSig)) (audit : List (Reply auditSig)) : Prop where
  auth : authReplies past = auth
  session : sessionReplies past = session
  audit : auditReplies past = audit

theorem Splits.append {past past' : List (Reply httpSig)} {auth auth' : List (Reply authSig)}
    {session session' : List (Reply sessionSig)} {audit audit' : List (Reply auditSig)}
    (h : Splits past auth session audit) (h' : Splits past' auth' session' audit') :
    Splits (past ++ past') (auth ++ auth') (session ++ session') (audit ++ audit') where
  auth := by rw [authReplies_append, h.auth, h'.auth]
  session := by rw [sessionReplies_append, h.session, h'.session]
  audit := by rw [auditReplies_append, h.audit, h'.audit]

theorem splits_auth (past : List (Reply authSig)) :
    Splits ((past.map Reply.inl).map Reply.inl) past [] [] where
  auth := by rw [authReplies, lefts_map_inl, lefts_map_inl]
  session := by rw [sessionReplies, rights_map_inl, lefts_nil]
  audit := by rw [auditReplies, rights_map_inl, rights_nil]

theorem splits_session (past : List (Reply sessionSig)) :
    Splits ((past.map Reply.inl).map Reply.inr) [] past [] where
  auth := by rw [authReplies, lefts_map_inr, lefts_nil]
  session := by rw [sessionReplies, rights_map_inr, lefts_map_inl]
  audit := by rw [auditReplies, rights_map_inr, rights_map_inl]

/-- The row of an event that was given an id. -/
def auditRow (event : NewAuditEvent) (id : AuditId) : AuditRow :=
  ⟨id, event.eventType.asStr, event.adminId, event.emailAttempted, event.ip, event.userAgent,
    event.occurredAt / nanosPerSec⟩

/-- The row a call added to the trail. -/
def recordedRow : Reply auditSig → Option AuditRow
  | ⟨.record event, .ok id⟩ => some (auditRow event id)
  | ⟨.record _, .error _⟩ => none

/-- The session a call stored. -/
def insertedSession : Reply sessionSig → Option Session
  | ⟨.insert session, .ok ()⟩ => some session
  | _ => none

/-- The trail took in every event it was given. -/
def Recording (past : List (Reply auditSig)) : Prop :=
  ∀ event err, (⟨.record event, .error err⟩ : Reply auditSig) ∉ past

/-- Every session that was to be stored was. -/
def Inserting (past : List (Reply sessionSig)) : Prop :=
  ∀ session err, (⟨.insert session, .error err⟩ : Reply sessionSig) ∉ past

/-- A session of the admin was stored, and handed out in cookies. -/
def IssuedFor (sessions : List Session) (cookies : List Cookie) (admin : AdminId) : Prop :=
  ∃ session ∈ sessions, session.adminId = admin ∧
    cookies = attachSessionCookies ⟨session.token, session.csrfToken, session.absoluteExpiresAt⟩

/-- There is one row.  It says that a login succeeded, and whose, exactly when a session was issued;
else it says that one failed, or was locked out. -/
def TellsTruth (rows : List AuditRow) (sessions : List Session) (cookies : List Cookie) : Prop :=
  ∃ row, rows = [row] ∧
    (row.eventType = AuditEventType.loginSucceeded.asStr ↔
      ∃ admin, IssuedFor sessions cookies admin) ∧
    (∀ admin, IssuedFor sessions cookies admin → row.adminId = some admin) ∧
    (row.eventType = AuditEventType.loginSucceeded.asStr ∨
      row.eventType = AuditEventType.loginFailed.asStr ∨
        row.eventType = AuditEventType.lockedOut.asStr)

theorem not_issuedFor_nil {cookies : List Cookie} {admin : AdminId} :
    ¬ IssuedFor [] cookies admin := by
  rintro ⟨session, hm, -⟩
  cases hm

theorem not_tellsTruth_nil {sessions : List Session} {cookies : List Cookie} :
    ¬ TellsTruth [] sessions cookies := by
  rintro ⟨row, hrow, -⟩
  cases hrow

/-- A success is recorded, and no session was issued. -/
theorem not_tellsTruth_succeeded {row : AuditRow} {cookies : List Cookie}
    (h : row.eventType = AuditEventType.loginSucceeded.asStr) : ¬ TellsTruth [row] [] cookies := by
  rintro ⟨row', hrow, hiff, -⟩
  cases hrow
  obtain ⟨admin, hissued⟩ := hiff.mp h
  exact not_issuedFor_nil hissued

theorem tellsTruth_rejected {row : AuditRow} {cookies : List Cookie}
    (h : row.eventType = AuditEventType.loginFailed.asStr ∨
      row.eventType = AuditEventType.lockedOut.asStr) : TellsTruth [row] [] cookies := by
  refine ⟨row, rfl, iff_of_false ?_ ?_, fun admin hissued => ?_, .inr h⟩
  · rcases h with h | h <;> rw [h] <;> decide
  · rintro ⟨admin, hissued⟩
    exact not_issuedFor_nil hissued
  · exact absurd hissued not_issuedFor_nil

theorem tellsTruth_issued {row : AuditRow} {session : Session} {issued : IssuedSession}
    (hrow : row.eventType = AuditEventType.loginSucceeded.asStr)
    (hadmin : row.adminId = some session.adminId)
    (hissued : issued = ⟨session.token, session.csrfToken, session.absoluteExpiresAt⟩) :
    TellsTruth [row] [session] (attachSessionCookies issued) := by
  refine ⟨row, rfl, iff_of_true hrow ⟨_, session, List.mem_cons_self, rfl, ?_⟩, ?_, .inl hrow⟩
  · rw [hissued]
  · rintro admin ⟨session', hm, rfl, -⟩
    rw [hadmin, List.mem_singleton.mp hm]

/-- What a request recorded is true of it. -/
def Tells (past : List (Reply httpSig)) (cookies : List Cookie) : Prop :=
  TellsTruth ((auditReplies past).filterMap recordedRow)
    ((sessionReplies past).filterMap insertedSession) cookies

/-- A request that gave the trail one event. -/
theorem tells_record {event : NewAuditEvent} {ans : Except RepositoryError AuditId}
    {past : List (Reply httpSig)} (cookies : List Cookie) (h : Recording (auditReplies past))
    (hpast : auditReplies past = [⟨.record event, ans⟩]) :
    ∃ id, Tells past cookies ↔ TellsTruth [auditRow event id]
      ((sessionReplies past).filterMap insertedSession) cookies := by
  rw [hpast] at h
  rw [Tells, hpast]
  cases ans with
  | error e => exact absurd List.mem_cons_self (h event e)
  | ok id => exact ⟨id, Iff.rfl⟩

/-! ### What the handlers record -/

theorem start_returns (policy : SessionPolicy) (adminId : AdminId) (role : Role) :
    Prog.Returns (fun past r =>
        match r with
        | .ok issued => Inserting past ∧ ∃ session, past.filterMap insertedSession = [session] ∧
            session.adminId = adminId ∧
              issued = ⟨session.token, session.csrfToken, session.absoluteExpiresAt⟩
        | .error _ => ¬ Inserting past ∧ past.filterMap insertedSession = []) []
      (SessionService.start policy adminId role) := by
  rintro now token csrfToken (e | ⟨⟩)
  · exact ⟨by simp [Inserting], rfl⟩
  · exact ⟨by simp [Inserting], _, rfl, rfl, rfl⟩

/-- The one answer of a recording. -/
theorem recordAttempt_returns (body : LoginBody) (request : Request) (now : Int)
    (eventType : AuditEventType) (adminId : Option AdminId) :
    Prog.Returns (fun past _ => ∃ (event : NewAuditEvent) (ans : Except RepositoryError AuditId),
        event.eventType = eventType ∧ event.adminId = adminId ∧
          past = [(⟨.inr (.inr (.record event)), ans⟩ : Reply httpSig)]) []
      (recordAttempt body request now eventType adminId) := by
  rintro (e | id)
  · exact ⟨_, .error e, rfl, rfl, rfl⟩
  · exact ⟨_, .ok id, rfl, rfl, rfl⟩

/-- A rejection is recorded truly. -/
theorem rejected_returns {body : LoginBody} {request : Request} {now : Int}
    {eventType : AuditEventType} {response : JsonResponse LoginOk}
    (htype : eventType = .loginFailed ∨ eventType = .lockedOut) :
    Prog.Returns (fun past r => authReplies past = [] ∧ (Recording (auditReplies past) →
        Tells past r.setCookies ∧ Inserting (sessionReplies past))) []
      (recordAttempt body request now eventType none >>= fun _ => .ret response) := by
  refine (recordAttempt_returns body request now eventType none).bind ?_
  rintro past - ⟨event, ans, rfl, -, rfl⟩
  refine ⟨rfl, fun hrecording => ?_⟩
  obtain ⟨id, htells⟩ := tells_record response.setCookies hrecording rfl
  refine ⟨htells.mpr (tellsTruth_rejected ?_), fun session err hm => nomatch hm⟩
  exact htype.imp (congrArg AuditEventType.asStr) (congrArg AuditEventType.asStr)

/-- The outcome of the credential check is recorded truly exactly when it is no internal error, and
the session of a success is stored. -/
theorem answerLogin_returns (policy : SessionPolicy) (body : LoginBody) (request : Request)
    (now : Int) (result : Except LoginError AuthenticatedAdmin) :
    Prog.Returns (fun past r => authReplies past = [] ∧ (Recording (auditReplies past) →
        (Tells past r.setCookies ↔
          (∀ msg, result ≠ .error (.internal msg)) ∧ Inserting (sessionReplies past)))) []
      (answerLogin policy body request now result) := by
  rcases result with (_ | retryAfter | msg) | authenticated
  · refine (rejected_returns (.inl rfl)).mono fun past r h => ⟨h.1, fun hrecording => ?_⟩
    obtain ⟨htells, hinserting⟩ := h.2 hrecording
    exact iff_of_true htells ⟨by simp, hinserting⟩
  · refine (rejected_returns (.inr rfl)).mono fun past r h => ⟨h.1, fun hrecording => ?_⟩
    obtain ⟨htells, hinserting⟩ := h.2 hrecording
    exact iff_of_true htells ⟨by simp, hinserting⟩
  · exact ⟨rfl, fun _ => iff_of_false not_tellsTruth_nil fun h => h.1 msg rfl⟩
  · refine (recordAttempt_returns body request now .loginSucceeded (some authenticated.id)).bind ?_
    rintro past - ⟨event, ans, htype, hadmin, rfl⟩
    refine (((start_returns policy authenticated.id authenticated.role).inl []).inr _).bind ?_
    rintro _ result ⟨_, rfl, rest, rfl, hstart⟩
    rw [List.nil_append] at hstart
    generalize hpast : [(⟨.inr (.inr (.record event)), ans⟩ : Reply httpSig)] ++
      ([] ++ rest.map Reply.inl).map Reply.inr = past
    have hsplits : Splits past [] rest [⟨.record event, ans⟩] := by
      rw [← hpast, List.nil_append]
      exact Splits.append ⟨rfl, rfl, rfl⟩ (splits_session rest)
    rcases result with e | issued
    · refine ⟨hsplits.auth, fun hrecording => ?_⟩
      obtain ⟨id, htells⟩ := tells_record [] hrecording hsplits.audit
      rw [hsplits.session, hstart.2] at htells
      refine iff_of_false (mt htells.mp (not_tellsTruth_succeeded ?_)) fun h => hstart.1 ?_
      · exact congrArg AuditEventType.asStr htype
      · rw [← hsplits.session]
        exact h.2
    · obtain ⟨hinserting, session, hstored, hsame, hissued⟩ := hstart
      refine ⟨hsplits.auth, fun hrecording => ?_⟩
      obtain ⟨id, htells⟩ := tells_record (attachSessionCookies issued) hrecording hsplits.audit
      rw [hsplits.session, hstored] at htells
      refine iff_of_true (htells.mpr (tellsTruth_issued ?_ ?_ hissued)) ⟨by simp, ?_⟩
      · exact congrArg AuditEventType.asStr htype
      · rw [hsame]
        exact hadmin
      · rw [hsplits.session]
        exact hinserting

/-- What a callback does once it has its session. -/
theorem recordLogin_returns (redirects : OAuthRedirects) (request : Request)
    (admin : OAuthAuthenticatedAdmin) (issued : IssuedSession) (past : List (Reply httpSig)) :
    Prog.Returns (fun past' r => ∃ (now : Int) (event : NewAuditEvent)
        (ans : Except RepositoryError AuditId), event.eventType = .loginSucceeded ∧
        event.adminId = some admin.id ∧ r.setCookies = attachSessionCookies issued ∧
          past' = past ++ [(⟨.inr (.inl .now), now⟩ : Reply httpSig),
            ⟨.inr (.inr (.record event)), ans⟩]) past
      (recordLogin redirects request admin issued) := by
  rintro now (e | id)
  · exact ⟨now, _, .error e, rfl, rfl, rfl, List.append_assoc ..⟩
  · exact ⟨now, _, .ok id, rfl, rfl, rfl, List.append_assoc ..⟩

/-- A start that is recorded after it was made is recorded truly exactly when it succeeds. -/
theorem startSession_returns (policy : SessionPolicy) (redirects : OAuthRedirects)
    (request : Request) (admin : OAuthAuthenticatedAdmin) (flow : List (Reply authSig)) :
    Prog.Returns (fun past r => authReplies past = flow ∧ (Recording (auditReplies past) →
        (Tells past r.setCookies ↔ Inserting (sessionReplies past))))
      ((flow.map Reply.inl).map Reply.inl) (startSession policy redirects request admin) := by
  refine (((start_returns policy admin.id admin.role).inl []).inr _).bind ?_
  rintro _ result ⟨_, rfl, rest, rfl, hstart⟩
  simp only [List.nil_append] at hstart ⊢
  have hsplits := (splits_auth flow).append (splits_session rest)
  rw [List.append_nil] at hsplits
  rcases result with e | issued
  · refine ⟨hsplits.auth, fun _ => iff_of_false ?_ ?_⟩
    · rw [Tells, hsplits.audit]
      exact not_tellsTruth_nil
    · rw [hsplits.session]
      exact hstart.1
  · obtain ⟨hinserting, session, hstored, hsame, hissued⟩ := hstart
    refine (recordLogin_returns redirects request admin issued _).mono ?_
    rintro _ r ⟨now, event, ans, htype, hadmin, hcookies, rfl⟩
    generalize hpast : (flow.map Reply.inl).map Reply.inl ++ (rest.map Reply.inl).map Reply.inr ++
      [(⟨.inr (.inl .now), now⟩ : Reply httpSig), ⟨.inr (.inr (.record event)), ans⟩] = past
    have hrecorded : Splits past flow (rest ++ [⟨.now, now⟩]) [⟨.record event, ans⟩] := by
      have hrecord : Splits [(⟨.inr (.inl .now), now⟩ : Reply httpSig),
          ⟨.inr (.inr (.record event)), ans⟩] [] [⟨.now, now⟩] [⟨.record event, ans⟩] :=
        ⟨rfl, rfl, rfl⟩
      have hall := hsplits.append hrecord
      rw [List.append_nil flow] at hall
      rw [← hpast]
      exact hall
    refine ⟨hrecorded.auth, fun hrecording => ?_⟩
    obtain ⟨id, htells⟩ := tells_record r.setCookies hrecording hrecorded.audit
    rw [hrecorded.session, List.filterMap_append, hstored, hcookies] at htells
    refine iff_of_true (hcookies ▸ htells.mpr (tellsTruth_issued ?_ ?_ hissued)) ?_
    · exact congrArg AuditEventType.asStr htype
    · rw [hsame]
      exact hadmin
    · rw [hrecorded.session]
      intro stored err hm
      rcases List.mem_append.mp hm with hm | hm
      · exact hinserting stored err hm
      · simp at hm

/-- The query has what it takes, none of the calls of the flow failed, and it was accepted. -/
def Completes (providers : OAuthProviders ι) (query : CallbackQuery)
    (past : List (Reply httpSig)) : Prop :=
  ∃ state code, query = ⟨some state, some code, none⟩ ∧ AllAnswered (authReplies past) ∧
    FlowAccepted providers state code (authReplies past)

/-- A callback is recorded truly exactly when its flow completes, and its session is stored. -/
theorem callback_returns (providers : OAuthProviders ι) (policy : SessionPolicy)
    (redirects : OAuthRedirects) (query : CallbackQuery) (request : Request) :
    Prog.Returns (fun past r => Recording (auditReplies past) →
        (Tells past r.setCookies ↔
          Completes providers query past ∧ Inserting (sessionReplies past))) []
      (callbackHandler providers policy redirects query request) := by
  obtain ⟨state?, code?, error?⟩ := query
  rw [callbackHandler]
  dsimp only
  split
  · next state code =>
      refine (((complete_returns providers state code).inl []).inl []).bind ?_
      rintro _ result ⟨_, rfl, flow, rfl, hflow⟩
      simp only [List.nil_append] at hflow ⊢
      rcases result with e | admin
      · refine fun _ => iff_of_false ?_ ?_
        · rw [Tells, (splits_auth flow).audit]
          exact not_tellsTruth_nil
        · rintro ⟨⟨state', code', hquery, hcompletes⟩, -⟩
          cases hquery
          rw [(splits_auth flow).auth] at hcompletes
          obtain ⟨admin, heq⟩ := hflow.mpr hcompletes
          cases heq
      · refine (startSession_returns policy redirects request admin flow).mono ?_
        rintro past r ⟨hauth, hiff⟩ hrecording
        rw [hiff hrecording]
        refine (and_iff_right ⟨state, code, rfl, ?_⟩).symm
        rw [hauth]
        exact hflow.mp ⟨admin, rfl⟩
  · next hno =>
      refine fun _ => iff_of_false not_tellsTruth_nil ?_
      rintro ⟨⟨state, code, hquery, -⟩, -⟩
      cases hquery
      exact hno state code rfl rfl rfl

/-- The rate limiter let the request through. -/
def Admitted (past : List (Reply limitSig)) : Prop :=
  ∀ key now e, (⟨.check key now, .error e⟩ : Reply limitSig) ∉ past

theorem checkKeys_returns (now : Int) (keys : List String) (past : List (Reply limitSig)) :
    Prog.Returns (fun past r => ∀ e, r = .error e → ¬ Admitted past) past (checkKeys now keys) := by
  induction keys generalizing past with
  | nil => exact fun e h => (nomatch h)
  | cons key keys ih =>
      rintro (e | ⟨⟩)
      · exact fun e' _ hadmitted => hadmitted key now e (by simp)
      · exact ih _

section Login

-- a handler is followed without evaluating what it validates
attribute [local irreducible] LoginBody.invalid LoginService.login

/-- A login that is let through is recorded truly exactly when none of the calls of the credential
check fails, and the session of a success is stored. -/
theorem loginHandler_returns (lockout : LockoutPolicy) (hasher : PasswordHasher)
    (policy : SessionPolicy) (body : LoginBody) (request : Request) :
    Prog.Returns (fun past r => body.invalid = [] → Admitted (lefts past) →
        Recording (auditReplies (rights past)) → (Tells (rights past) r.setCookies ↔
          AllAnswered (authReplies (rights past)) ∧ Inserting (sessionReplies (rights past)))) []
      (loginHandler lockout hasher policy body request) := by
  rw [loginHandler]
  by_cases hvalid : body.invalid = []
  · rw [if_neg (not_not.mpr hvalid)]
    intro now
    refine ((checkKeys_returns now _ []).inl _).bind ?_
    rintro _ (e | ⟨⟩) ⟨checks, rfl, hchecks⟩
    · intro _ hadmitted
      rw [lefts_append, lefts_map_inl] at hadmitted
      exact absurd hadmitted (hchecks e rfl)
    refine ((((login_trace lockout hasher
      ⟨body.email, body.password, request.clientIp⟩).returns.inl []).inl []).inr _).bind ?_
    rintro _ result ⟨_, rfl, _, rfl, login, rfl, hlogin⟩
    refine ((answerLogin_returns policy body request now result).inr _).mono ?_
    rintro _ r ⟨answer, rfl, hnone, hanswer⟩ - -
    rw [List.nil_append] at hnone hanswer hlogin
    simp only [List.nil_append, List.append_nil, rights_append, rights_map_inl, rights_map_inr]
    generalize hpast : rights [(⟨.inr (.inl (.inl .now)), now⟩ : Reply signInSig)] ++
      (login.map Reply.inl).map Reply.inl ++ answer = past
    have hsplits : Splits past (⟨.now, now⟩ :: login) (sessionReplies answer)
        (auditReplies answer) := by
      rw [← hpast, ← List.append_nil (⟨.now, now⟩ :: login)]
      exact (Splits.append ⟨rfl, rfl, rfl⟩ (splits_auth login)).append ⟨hnone, rfl, rfl⟩
    have hclock : AuthOp.now.answers now = true := rfl
    rw [Tells, hsplits.auth, hsplits.session, hsplits.audit, allAnswered_cons,
      and_iff_right hclock, hlogin.answered_iff]
    exact hanswer
  · rw [if_pos hvalid]
    exact fun h => absurd h hvalid

end Login

/-! ### The system -/

structure SignInSite (ι τ υ : Type) extends OAuthSite ι τ υ where
  lockout : LockoutPolicy
  rateLimit : RateLimitConfig

inductive SignInRequest where
  | login (body : LoginBody) (request : Request)
  | callback (query : CallbackQuery) (request : Request)

abbrev SignInState (ι τ υ : Type) := Windows × HttpState ι τ υ

abbrev SignInPool (ι τ υ : Type) :=
  Pool signInSig (SignInState ι τ υ) SignInRequest (JsonResponse LoginOk)

def SignInRequest.code (site : SignInSite ι τ υ) :
    SignInRequest → Prog signInSig (JsonResponse LoginOk)
  | .login body request => loginHandler site.lockout site.ports.hasher site.policy body request
  | .callback query request =>
      ((callbackHandler site.ports.providers site.policy site.redirects query request).map
        fun response => { response with }).inr

def SignInSite.exec (site : SignInSite ι τ υ) (fate : Fate) :
    Exec signInSig (SignInState ι τ υ) :=
  Exec.sum (RateLimiter.exec site.rateLimit) (site.toOAuthSite.exec fate)

/-- The clock is set, or the database draws its next id. -/
inductive SignInEnv where
  | clock (now : Int)
  | draw (id : AuditId)

def SignInEnv.act : SignInEnv → SignInState ι τ υ → SignInState ι τ υ
  | .clock now, s => (s.1, setClock now s.2)
  | .draw id, s => (s.1, s.2.1, s.2.2.1, { s.2.2.2 with randomUuid := id })

def signInSystem (site : SignInSite ι τ υ) :
    System signInSig (SignInState ι τ υ) SignInRequest (JsonResponse LoginOk) Fate SignInEnv where
  code := SignInRequest.code site
  exec := site.exec
  env := SignInEnv.act

/-- The rows that a step added to the trail. -/
def added (e : Event signInSig (SignInState ι τ υ)) : List AuditRow :=
  e.post.2.2.2.events.rows.drop e.pre.2.2.2.events.rows.length

/-- The rows that the steps of a request added to the trail. -/
def addedBy (i : Nat) (log : List (Event signInSig (SignInState ι τ υ))) : List AuditRow :=
  log.flatMap fun e => if e.caller = i then added e else []

/-- The sessions that a request stored. -/
def storedBy (i : Nat) (log : List (Event signInSig (SignInState ι τ υ))) : List Session :=
  (sessionReplies (rights (pastOf i log))).filterMap insertedSession

/-- What a request added to the trail is true of it. -/
def Truthful (p : SignInPool ι τ υ) (i : Nat) (response : JsonResponse LoginOk) : Prop :=
  TellsTruth (addedBy i p.log) (storedBy i p.log) response.setCookies

/-- The trail took in every event that the request gave it. -/
def TrailWorks (p : SignInPool ι τ υ) (i : Nat) : Prop :=
  Recording (auditReplies (rights (pastOf i p.log)))

/-- A login passed validation, and was let through by the rate limiter. -/
def LetThrough (past : List (Reply signInSig)) : SignInRequest → Prop
  | .login body _ => body.invalid = [] ∧ Admitted (lefts past)
  | .callback .. => True

/-- No call of the credential check failed, or the flow completed; and no session that was to be
stored was refused. -/
def Succeeds (providers : OAuthProviders ι) (past : List (Reply httpSig)) : SignInRequest → Prop
  | .login .. => AllAnswered (authReplies past) ∧ Inserting (sessionReplies past)
  | .callback query _ => Completes providers query past ∧ Inserting (sessionReplies past)

section Runs
variable {site : SignInSite ι τ υ} {s : SignInState ι τ υ} {p : SignInPool ι τ υ}

-- nor is it followed again
attribute [local irreducible] loginHandler callbackHandler

theorem request_returns (site : SignInSite ι τ υ) (req : SignInRequest) :
    Prog.Returns (fun past r => LetThrough past req → Recording (auditReplies (rights past)) →
        (Tells (rights past) r.setCookies ↔ Succeeds site.ports.providers (rights past) req)) []
      (req.code site) := by
  cases req with
  | login body request =>
      rw [SignInRequest.code]
      refine (loginHandler_returns site.lockout site.ports.hasher site.policy body request).mono ?_
      exact fun past r h hthrough => h hthrough.1 hthrough.2
  | callback query request =>
      rw [SignInRequest.code]
      have hcallback := Prog.Returns.map
        (f := fun response : Response => ({ response with } : JsonResponse LoginOk))
        (Q := fun past r => Recording (auditReplies past) → (Tells past r.setCookies ↔
          Completes site.ports.providers query past ∧ Inserting (sessionReplies past)))
        (callback_returns site.ports.providers site.policy site.redirects query request)
      refine (hcallback.inr []).mono ?_
      rintro _ r ⟨rest, rfl, h⟩ -
      rw [List.nil_append, rights_map_inr]
      exact h

theorem record_exec (fate : Fate) {event : NewAuditEvent} {db after : AuditDb} {id : AuditId}
    (h : AuditDb.exec fate (.record event) db = (.ok id, after)) :
    after.events.rows = db.events.rows ++ [auditRow event id] := by
  cases fate with
  | refused msg => cases h
  | unacknowledged msg => cases h
  | served =>
      change db.record event = (.ok id, after) at h
      rw [AuditDb.record, toEpoch] at h
      by_cases hnull : 0 ≤ event.occurredAt
      · rw [if_pos hnull] at h
        dsimp only at h
        split at h
        · next events hinsert =>
            cases h
            exact Table.rows_insert? hinsert
        · cases h
      · rw [if_neg hnull] at h
        cases h

/-- A step adds the row that its answer speaks of. -/
theorem added_eq {fate : Fate} {e : Event signInSig (SignInState ι τ υ)}
    (hx : site.exec fate e.op e.pre = (e.ans, e.post))
    (h : Recording (auditReplies (rights [⟨e.op, e.ans⟩]))) :
    added e = (auditReplies (rights [⟨e.op, e.ans⟩])).filterMap recordedRow := by
  obtain ⟨i, op, ans, pre, post⟩ := e
  obtain rfl : post = (site.exec fate op pre).2 := (congrArg Prod.snd hx).symm
  rcases op with op | op | op | op
  · exact List.drop_length
  · exact List.drop_length
  · exact List.drop_length
  · cases op with
    | record event =>
        cases ans with
        | error err => exact absurd List.mem_cons_self (h event err)
        | ok id =>
            have hrow := record_exec fate (congrArg (fun r => (r.1, r.2.2.2.2)) hx)
            rw [added, hrow]
            exact List.drop_left

/-- What the steps of a request added to the trail is what their answers speak of. -/
theorem addedBy_eq {i : Nat} {log : List (Event signInSig (SignInState ι τ υ))}
    (hx : ∀ e ∈ log, ∃ fate, site.exec fate e.op e.pre = (e.ans, e.post))
    (h : Recording (auditReplies (rights (pastOf i log)))) :
    addedBy i log = (auditReplies (rights (pastOf i log))).filterMap recordedRow := by
  induction log with
  | nil => rfl
  | cons e log ih =>
      obtain ⟨⟨fate, he⟩, hx⟩ := List.forall_mem_cons.mp hx
      rw [← List.singleton_append, pastOf_append, rights_append, auditReplies_append] at h ⊢
      have hrest := ih hx fun event err hm => h event err (List.mem_append_right _ hm)
      rw [List.filterMap_append, ← hrest, addedBy, List.flatMap_append, List.flatMap_singleton]
      congr 1
      by_cases hc : e.caller = i
      · obtain ⟨j, op, ans, pre, post⟩ := e
        obtain rfl : j = i := hc
        rw [pastOf_single_self] at h ⊢
        rw [if_pos rfl]
        exact added_eq he fun event err hm => h event err (List.mem_append_left _ hm)
      · rw [if_neg hc, pastOf_single_ne hc]
        rfl

/-- **The audit trail and sign-ins.** In every interleaving, what a request that was let through
adds to a trail that works is true of it exactly when none of its credential check failed, or its
flow completed, and its session was stored. -/
theorem truthful_iff (h : (signInSystem site).Run (fun _ _ => True) (.init s) p) {i : Nat}
    {req : SignInRequest} {response : JsonResponse LoginOk} (hret : p.Returned i req response)
    (hthrough : LetThrough (pastOf i p.log) req) (hworks : TrailWorks p i) :
    Truthful p i response ↔ Succeeds site.ports.providers (rights (pastOf i p.log)) req := by
  rw [Truthful, addedBy_eq h.event_exec hworks]
  exact h.returned (request_returns site) hret hthrough hworks

end Runs

/-! ### A session that is not stored -/

def signInSite : SignInSite Unit Drawn (Nat × Nat) :=
  { oauthSite with lockout := .recommended, rateLimit := ⟨10, fromSecs 60⟩ }

def signInState : SignInState Unit Drawn (Nat × Nat) := (fun _ => none, oauthState)

def editorBody : LoginBody := ⟨"ed@example.com", "h1"⟩

/-- A login with the right password, whose last call, the insert of its session, meets a fate. -/
def loginActs (fate : Fate) : List (Act SignInRequest Fate SignInEnv) :=
  .start (.login editorBody navigation) :: List.replicate 13 (.step 0 .served) ++ [.step 0 fate]

def storedLogin : SignInPool Unit Drawn (Nat × Nat) :=
  ((signInSystem signInSite).acts (loginActs .served) (.init signInState)).get rfl

def lostLogin : SignInPool Unit Drawn (Nat × Nat) :=
  ((signInSystem signInSite).acts (loginActs (.refused "timeout")) (.init signInState)).get rfl

def loginOk : JsonResponse LoginOk where
  status := 200
  error := none
  location := none
  setCookies := attachSessionCookies
    ⟨unaryTokens.session 1, unaryTokens.csrf 1, fromSecs (12 * 60 * 60)⟩
  body := some ⟨"a"⟩

/-- The limiter has admitted the login under both keys. -/
theorem letThrough_login {p : SignInPool Unit Drawn (Nat × Nat)}
    (h : lefts (pastOf 0 p.log) = [(⟨.check "ip:203.0.113.7" 0, .ok ()⟩ : Reply limitSig),
      ⟨.check "acct:ed@example.com" 0, .ok ()⟩]) :
    LetThrough (pastOf 0 p.log) (.login editorBody navigation) := by
  refine ⟨by decide, ?_⟩
  rw [Admitted, h]
  simp

/-- The one event of a login with the right password. -/
def succeededEvent : NewAuditEvent where
  eventType := .loginSucceeded
  adminId := some ⟨"a"⟩
  emailAttempted := some "ed@example.com"
  ip := "203.0.113.7"
  userAgent := none
  occurredAt := 0

theorem trailWorks_login {p : SignInPool Unit Drawn (Nat × Nat)} {id : AuditId}
    (h : auditReplies (rights (pastOf 0 p.log)) = [⟨.record succeededEvent, .ok id⟩]) :
    TrailWorks p 0 := by
  rw [TrailWorks, h, Recording]
  simp

/-- The session is stored, and the success is recorded. -/
theorem storedLogin_truthful : Truthful storedLogin 0 loginOk := by
  have hrun : (signInSystem signInSite).Run (fun _ _ => True) (.init signInState) storedLogin :=
    .of_acts .refl (fun _ _ _ => trivial) (Option.some_get rfl).symm
  have hret : storedLogin.Returned 0 (.login editorBody navigation) loginOk := rfl
  have hworks : TrailWorks storedLogin 0 := trailWorks_login rfl
  refine (truthful_iff hrun hret (letThrough_login rfl) hworks).mpr ⟨?_, ?_⟩
  · exact List.all_eq_true.mp rfl
  · have hcalls : sessionReplies (rights (pastOf 0 storedLogin.log)) = [⟨.now, (0 : Int)⟩,
        ⟨.generateSessionToken, unaryTokens.session 1⟩, ⟨.generateCsrfToken, unaryTokens.csrf 1⟩,
        ⟨.insert ⟨unaryTokens.session 1, ⟨"a"⟩, editorRole, unaryTokens.csrf 1, 0,
          fromSecs (12 * 60 * 60), 0⟩, .ok ()⟩] := rfl
    rw [Inserting, hcalls]
    simp

/-- The insert of the session is refused: no session is issued, and a success is recorded. -/
theorem lostLogin_untruthful :
    (signInSystem signInSite).Run (fun _ _ => True) (.init signInState) lostLogin ∧
      lostLogin.Returned 0 (.login editorBody navigation) { ApiError.internal with } ∧
        LetThrough (pastOf 0 lostLogin.log) (.login editorBody navigation) ∧
          TrailWorks lostLogin 0 ∧ ¬ Truthful lostLogin 0 { ApiError.internal with } := by
  have hrows : addedBy 0 lostLogin.log = [auditRow succeededEvent ⟨"event-1"⟩] := rfl
  refine ⟨.of_acts .refl (fun _ _ _ => trivial) (Option.some_get rfl).symm, rfl,
    letThrough_login rfl, trailWorks_login rfl, ?_⟩
  rw [Truthful, hrows]
  exact not_tellsTruth_succeeded rfl

end AuthApp.Http
