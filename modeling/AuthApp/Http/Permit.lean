import AuthApp.Accounts.SignedIn
import AuthApp.Http.Rejection
import AuthApp.Http.Server

/-!
# Http — what a request may call

A request to the server calls what its route lets it call, by the answers it has had: nothing behind
the gate before it has passed, and nothing that names an administrator before one has signed in.

* `Permit`: the calls of a request.
* `code_permit`: no request makes another.
-/

namespace AuthApp.Http
open Interleave Accounts Sessions Audit Payments

variable {ι τ υ π : Type}

/-- The answers that a program was carried along with. -/
def Heard {S : Sig} (f : S.Hom serverSig) (past₀ : List (Reply S)) (past : List (Reply serverSig)) :
    Prop :=
  past₀.map (Reply.along f) <:+: past

/-! ### Signing in -/

/-- The answers by which a request signed an administrator in: its password was right, or it
completed a flow with a provider. -/
inductive SignedIn (site : ServerSite ι τ υ π) (req : ServerRequest) (past : List (Reply serverSig))
    (id : AdminId) (role : Role) : Prop where
  | password (body : LoginBody) (past₀ : List (Reply authSig)) (now : Int) (ip : LockoutState)
      (email : Email) (account : AdminAccount) (hreq : req.endpoint = .login (.ok body))
      (hanswers : PasswordAnswers ⟨body.email, body.password, req.http.clientIp⟩ past₀ ⟨id, role⟩
        now ip email account)
      (hheard : Heard authHom past₀ past)
  | provider (query : CallbackQuery) (state code : String) (past₀ : List (Reply authSig))
      (now : Int) (pending : PendingAuthorization) (identity : OAuthIdentity) (email : Email)
      (account : AdminAccount) (hreq : req.endpoint = .oauthCallback query)
      (hstate : query.state = some state) (hcode : query.code = some code)
      (hanswers : FlowAnswers site.ports.providers state code past₀ ⟨id, role⟩ now pending identity
        email account)
      (hheard : Heard authHom past₀ past)

theorem SignedIn.mono {site : ServerSite ι τ υ π} {req : ServerRequest}
    {past past' : List (Reply serverSig)} {id : AdminId} {role : Role}
    (h : SignedIn site req past id role) (hp : past <+: past') :
    SignedIn site req past' id role := by
  cases h with
  | password body past₀ now ip email account hreq hanswers hheard =>
      exact .password body past₀ now ip email account hreq hanswers (hheard.trans hp.isInfix)
  | provider query state code past₀ now pending identity email account hreq hstate hcode hanswers
      hheard =>
      exact .provider query state code past₀ now pending identity email account hreq hstate hcode
        hanswers (hheard.trans hp.isInfix)

/-- A request that signs an administrator in, or sends the browser to a provider. -/
def Endpoint.signsIn : Endpoint → Bool
  | .login (.ok _) | .oauthStart _ | .oauthCallback _ => true
  | _ => false

/-! ### Passing the gate -/

/-- The endpoints behind the session middleware. -/
def Endpoint.isProtected : Endpoint → Bool
  | .logout | .me | .auditEvents _ | .transactions _ | .transaction _ | .refund _ => true
  | _ => false

/-- The role that the middleware asks for. -/
def Endpoint.required : Endpoint → Option Role
  | .auditEvents _ | .refund _ => some .admin
  | _ => none

/-- By its answers, a request was let through with the session of its cookie: it is stored, and live
by the clock; a mutation echoes its CSRF token; and it has the role that is asked for. -/
structure Entered (policy : SessionPolicy) (req : ServerRequest) (token : SessionToken)
    (session : Session) (now : Int) (past : List (Reply serverSig)) : Prop where
  guarded : req.endpoint.isProtected = true
  cookie : req.http.sessionCookie = some token.raw
  asked : [(⟨sessionOp .now, now⟩ : Reply serverSig),
    ⟨sessionOp (.find token), .ok (some session)⟩, ⟨sessionOp (.touch token now), .ok ()⟩] <+: past
  live : policy.isExpired session now = false
  csrf : req.http.method.isMutating = true → req.http.csrfHeader = some session.csrfToken.raw
  role : ∀ role, req.endpoint.required = some role → session.role = role

theorem Entered.mono {policy : SessionPolicy} {req : ServerRequest} {token : SessionToken}
    {session : Session} {now : Int} {past past' : List (Reply serverSig)}
    (h : Entered policy req token session now past) (hp : past <+: past') :
    Entered policy req token session now past' :=
  { h with asked := h.asked.trans hp }

/-! ### The calls of a request -/

/-- The event is one of the request. -/
structure Describes (req : ServerRequest) (event : NewAuditEvent) : Prop where
  ip : event.ip = req.http.clientIp
  userAgent : event.userAgent = req.http.userAgent

/-- The event that a refused login is recorded as, if it is. -/
def refusalEvent : LoginError → Option AuditEventType
  | .invalidCredentials => some .loginFailed
  | .tooManyAttempts _ => some .lockedOut
  | .internal _ => none

/-- The last two answers were the tokens of the session. -/
def DrawnFor (session : Session) (past : List (Reply serverSig)) : Prop :=
  [(⟨sessionOp .generateSessionToken, session.token⟩ : Reply serverSig),
    ⟨sessionOp .generateCsrfToken, session.csrfToken⟩] <:+ past

/-- The calls of the payments context that only read. -/
def readsOnly : PayOp → Bool
  | .find _ | .history _ | .list _ | .count _ => true
  | _ => false

/-- A check of a password. -/
def verifies : serverSig.Op → Bool
  | .inl (.inr (.inl (.inl (.verify ..)))) => true
  | _ => false

/-- The limiter counted a login against its address and against its account, and admitted it. -/
structure Counted (http : Request) (body : LoginBody) (now : Int) (past : List (Reply serverSig)) :
    Prop where
  address : (⟨limitOp (.check (addressKey http) now), .ok ()⟩ : Reply serverSig) ∈ past
  account : (⟨limitOp (.check (accountKey body) now), .ok ()⟩ : Reply serverSig) ∈ past

/-- What a request may call, by what it has been answered. -/
inductive Permit (site : ServerSite ι τ υ π) (req : ServerRequest)
    (past : List (Reply serverSig)) : serverSig.Op → Prop where
  | limit (op : LimitOp) (h : req.endpoint.signsIn = true) : Permit site req past (limitOp op)
  | credential (op : AuthOp) (hop : verifies (authOp op) = false)
      (h : req.endpoint.signsIn = true) : Permit site req past (authOp op)
  | verify (body : LoginBody) (now : Int) (hash : PasswordHash)
      (hreq : req.endpoint = .login (.ok body)) (hcounted : Counted req.http body now past)
      (hfirst : ∀ r ∈ past, verifies r.op = false) :
      Permit site req past (authOp (.verify body.password hash))
  | flow (op : FlowOp) (h : req.endpoint.signsIn = true) : Permit site req past (flowOp op)
  | draw (op : SessionOp) (hop : op = .now ∨ op = .generateSessionToken ∨ op = .generateCsrfToken)
      (h : req.endpoint.signsIn = true) : Permit site req past (sessionOp op)
  | issue (session : Session) (h : SignedIn site req past session.adminId session.role)
      (hdrawn : DrawnFor session past) : Permit site req past (sessionOp (.insert session))
  | loggedIn (event : NewAuditEvent) (id : AdminId) (role : Role)
      (htype : event.eventType = .loginSucceeded) (hid : event.adminId = some id)
      (hevent : Describes req event) (h : SignedIn site req past id role) :
      Permit site req past (auditOp (.record event))
  | refused (event : NewAuditEvent) (body : LoginBody) (past₀ : List (Reply authSig))
      (err : LoginError) (hreq : req.endpoint = .login (.ok body))
      (hanswers : LoginAnswers ⟨body.email, body.password, req.http.clientIp⟩ past₀ (.error err))
      (hheard : Heard authHom past₀ past) (htype : refusalEvent err = some event.eventType)
      (hid : event.adminId = none) (hemail : event.emailAttempted = some (normalize body.email))
      (hevent : Describes req event) : Permit site req past (auditOp (.record event))
  | authenticate (token : SessionToken) (past₀ : List (Reply sessionSig)) (op : SessionOp)
      (hguarded : req.endpoint.isProtected = true)
      (hcookie : req.http.sessionCookie = some token.raw)
      (htrace : AuthenticateTrace site.policy token past₀ (.call op))
      (hpast : past = past₀.map (Reply.along sessionHom)) : Permit site req past (sessionOp op)
  | revoke (token : SessionToken) (session : Session) (now : Int) (hreq : req.endpoint = .logout)
      (hpost : req.http.method = .post) (h : Entered site.policy req token session now past) :
      Permit site req past (sessionOp (.delete token))
  | stamp (hreq : req.endpoint = .logout) : Permit site req past (sessionOp .now)
  | loggedOut (event : NewAuditEvent) (token : SessionToken) (session : Session) (now : Int)
      (hreq : req.endpoint = .logout) (hpost : req.http.method = .post)
      (htype : event.eventType = .loggedOut)
      (hid : event.adminId = some session.adminId) (hevent : Describes req event)
      (h : Entered site.policy req token session now past) :
      Permit site req past (auditOp (.record event))
  | view (op : ViewOp) (token : SessionToken) (session : Session) (now : Int)
      (h : Entered site.policy req token session now past) : Permit site req past (viewOp op)
  | read (op : PayOp) (hop : readsOnly op = true) (token : SessionToken) (session : Session)
      (now : Int) (h : Entered site.policy req token session now past) :
      Permit site req past (payOp op)
  | refund (op : PayOp) (id : String) (token : SessionToken) (session : Session) (now : Int)
      (hreq : req.endpoint = .refund id) (hpost : req.http.method = .post)
      (h : Entered site.policy req token session now past) : Permit site req past (payOp op)
  | deliver (op : PayOp) (now : Int) (payload : List UInt8) (signature : Option String)
      (hreq : req.endpoint = .webhook now payload signature)
      (h : (∃ reason, op = .recordRejected payload signature reason) ∨
        ∃ event, (site.verifier now).verify payload signature = .ok event) :
      Permit site req past (payOp op)
  | probe (hreq : req.endpoint = .ready) : Permit site req past (viewOp .check)

/-! ### The protected routes -/

section
variable {site : ServerSite ι τ υ π} {req : ServerRequest}

/-- The response of the two layers to a request that they turn away, by its answers: it presented no
cookie; its cookie did not authenticate it; it did not echo the CSRF token of a live session; or the
session has another role than the route asks for. -/
inductive TurnsAway (policy : SessionPolicy) (req : ServerRequest) (past : List (Reply serverSig)) :
    Response → Prop where
  | noCookie (h : req.http.sessionCookie = none) : TurnsAway policy req past ApiError.unauthorized
  | unauthenticated (token : SessionToken) (past₀ : List (Reply sessionSig)) (e : SessionError)
      (hcookie : req.http.sessionCookie = some token.raw)
      (htrace : AuthenticateTrace policy token past₀ (.ret (.error e)))
      (hpast : past = past₀.map (Reply.along sessionHom)) :
      TurnsAway policy req past ApiError.unauthorized
  | csrf (token : SessionToken) (session : Session)
      (hcookie : req.http.sessionCookie = some token.raw)
      (hfound : (⟨sessionOp (.find token), .ok (some session)⟩ : Reply serverSig) ∈ past)
      (hmutating : req.http.method.isMutating = true)
      (h : req.http.csrfHeader ≠ some session.csrfToken.raw) :
      TurnsAway policy req past forbiddenCsrf
  | role (token : SessionToken) (session : Session) (role : Role)
      (hcookie : req.http.sessionCookie = some token.raw)
      (hfound : (⟨sessionOp (.find token), .ok (some session)⟩ : Reply serverSig) ∈ past)
      (hrequired : req.endpoint.required = some role) (h : session.role ≠ role) :
      TurnsAway policy req past forbiddenRole

/-- Behind the session middleware, a handler is reached with the role that is asked for. -/
theorem behindSession_rule {S : Sig} {β : Type} {f : S.Hom serverSig}
    {past : List (Reply serverSig)} {required : Option Role} {verb : Verb} {http : Request}
    {current : CurrentSession} {handler : Prog S (JsonResponse β)}
    {P : List (Reply serverSig) → Head serverSig (JsonResponse β) → Prop}
    (hreject : ∀ role, required = some role → current.role ≠ role →
      P past (.ret forbiddenRole.bare))
    (hverb : (∀ role, required = some role → current.role = role) →
      P past (.ret (statusOnly 405)))
    (hnext : (∀ role, required = some role → current.role = role) →
      verb.accepts http.method = true →
        Prog.Always (fun past q => P past q.head) past (handler.along f)) :
    Prog.Always (fun past q => P past q.head) past
      ((behindSession required verb http current handler).along f) := by
  have hrun (hrole : ∀ role, required = some role → current.role = role) :
      Prog.Always (fun past q => P past q.head) past
        ((onVerb verb http.method handler).along f) := by
    rw [onVerb]
    split
    · next hverb => exact hnext hrole hverb
    · exact hverb hrole
  cases required with
  | none => exact hrun nofun
  | some role =>
      rw [behindSession, requireRole]
      by_cases hrole : current.role = role
      · rw [if_pos (by simp [hrole])]
        exact hrun fun role' hrole' => hrole.trans (Option.some.inj hrole')
      · rw [if_neg (by simp [hrole])]
        exact hreject role rfl hrole

/-- **The rule of a protected route.** What holds of every call that authenticates the cookie, of
the rejections, and of what follows for a request that is let through, holds along the route. -/
theorem protectedRoute_rule {T : Sig} {β : Type} {f : T.Hom serverSig} {verb : Verb}
    {handler : CurrentSession → Prog (sessionSig.sum T) (JsonResponse β)}
    {P : List (Reply serverSig) → Head serverSig (JsonResponse β) → Prop}
    (hguarded : req.endpoint.isProtected = true)
    (hauth : ∀ token past₀ op, req.http.sessionCookie = some token.raw →
      AuthenticateTrace site.policy token past₀ (.call op) →
        P (past₀.map (Reply.along sessionHom)) (.call (sessionOp op)))
    (hreject : ∀ past r, TurnsAway site.policy req past r → P past (.ret r.bare))
    (hverb : ∀ token session now past, Entered site.policy req token session now past →
      P past (.ret (statusOnly 405)))
    (hnext : ∀ token session now past, Entered site.policy req token session now past →
      verb.accepts req.http.method = true →
        Prog.Always (fun past q => P past q.head) past
          ((handler ⟨session.adminId.raw, session.role, token⟩).along (sessionHom.elim f))) :
    Prog.Always (fun past q => P past q.head) []
      ((protectedRoute site.policy req.endpoint.required verb req.http handler).along
        (sessionHom.elim f)) := by
  rw [protectedRoute, requireSessionAs]
  cases hcookie : req.http.sessionCookie with
  | none => exact hreject [] _ (.noCookie hcookie)
  | some raw =>
      dsimp only
      rw [Prog.along_bind, Prog.inl_along]
      refine ((authenticate_trace site.policy ⟨raw⟩).along (f := sessionHom) []).bind ?_ ?_
      · rintro _ op k ⟨past₀, head₀, htrace, rfl, hhead⟩
        obtain ⟨op₀, rfl, rfl⟩ := Head.along_eq_call hhead.symm
        exact hauth ⟨raw⟩ past₀ op₀ hcookie htrace
      rintro _ (e | authenticated) ⟨past₀, head₀, htrace, rfl, hhead⟩
      · obtain rfl := Head.along_eq_ret hhead.symm
        exact hreject _ _ (.unauthenticated ⟨raw⟩ past₀ e hcookie htrace rfl)
      obtain rfl := Head.along_eq_ret hhead.symm
      cases htrace with
      | liveDone now session hlive =>
          have hfound : (⟨sessionOp (.find ⟨raw⟩), .ok (some session)⟩ : Reply serverSig) ∈
              [⟨sessionOp .now, now⟩, ⟨sessionOp (.find ⟨raw⟩), .ok (some session)⟩,
                ⟨sessionOp (.touch ⟨raw⟩ now), .ok ()⟩] :=
            List.mem_cons_of_mem _ List.mem_cons_self
          dsimp only
          split
          · next e hmutating hv =>
              refine hreject _ _ (.csrf ⟨raw⟩ session hcookie hfound hmutating fun hheader => ?_)
              have hok : SessionService.verifyCsrf session.authenticated req.http.csrfHeader =
                  .ok () := SessionService.verifyCsrf_ok_iff.mpr hheader
              rw [hok] at hv
              cases hv
          · next hno =>
              have hcsrf (hmutating : req.http.method.isMutating = true) :
                  req.http.csrfHeader = some session.csrfToken.raw := by
                cases hv : SessionService.verifyCsrf session.authenticated req.http.csrfHeader with
                | error e => exact absurd hv (hno e hmutating)
                | ok u => exact SessionService.verifyCsrf_ok_iff.mp hv
              refine behindSession_rule (fun role hrequired hrole => ?_) (fun hrole => ?_)
                fun hrole hverb => ?_
              · exact hreject _ _ (.role ⟨raw⟩ session role hcookie hfound hrequired hrole)
              · exact hverb ⟨raw⟩ session now _
                  ⟨hguarded, hcookie, List.prefix_refl _, hlive, hcsrf, hrole⟩
              · exact hnext ⟨raw⟩ session now _
                  ⟨hguarded, hcookie, List.prefix_refl _, hlive, hcsrf, hrole⟩ hverb

variable (req) in
theorem onVerb_permit {S : Sig} {β : Type} {f : S.Hom serverSig} {past : List (Reply serverSig)}
    {verb : Verb} {handler : Prog S (JsonResponse β)}
    (h : verb.accepts req.http.method = true →
      Prog.Calls (Permit site req) past (handler.along f)) :
    Prog.Calls (Permit site req) past ((onVerb verb req.http.method handler).along f) := by
  rw [onVerb]
  split
  · next hverb => exact h hverb
  · trivial

variable (req) in
/-- A protected route authenticates the cookie, and comes to its handler with what it found. -/
theorem protectedRoute_permit {T : Sig} {β : Type} {f : T.Hom serverSig} {verb : Verb}
    {handler : CurrentSession → Prog (sessionSig.sum T) (JsonResponse β)}
    (hguarded : req.endpoint.isProtected = true)
    (hnext : ∀ token session now past, Entered site.policy req token session now past →
      verb.accepts req.http.method = true →
        Prog.Calls (Permit site req) past
          ((handler ⟨session.adminId.raw, session.role, token⟩).along (sessionHom.elim f))) :
    Prog.Calls (Permit site req) []
      ((protectedRoute site.policy req.endpoint.required verb req.http handler).along
        (sessionHom.elim f)) := by
  let P (past : List (Reply serverSig)) (head : Head serverSig (JsonResponse β)) : Prop :=
    ∀ op, head = .call op → Permit site req past op
  refine Prog.Always.calls (Q := P) (protectedRoute_rule (P := P) hguarded ?_ ?_ ?_ ?_)
    fun past op h => h op rfl
  · intro token past₀ op hcookie htrace op' heq
    cases heq
    exact .authenticate token past₀ op hguarded hcookie htrace rfl
  · exact fun past r _ op heq => nomatch heq
  · exact fun token session now past _ op heq => nomatch heq
  · exact fun token session now past h hverb => (hnext token session now past h hverb).always

/-! ### Signing in -/

/-- Recording an event is one call. -/
theorem record_permit {past : List (Reply serverSig)} {event : NewAuditEvent}
    (h : Permit site req past (auditOp (.record event))) :
    Prog.Calls (Permit site req) past ((AuditService.record event).along auditHom) := by
  refine ⟨h, ?_⟩
  rintro (e | id) <;> trivial

/-- A session is issued for the administrator who signed in. -/
theorem start_permit {past : List (Reply serverSig)} {id : AdminId} {role : Role}
    (h : SignedIn site req past id role) (hreq : req.endpoint.signsIn = true) :
    Prog.Calls (Permit site req) past
      ((SessionService.start site.policy id role).along sessionHom) := by
  refine ⟨.draw .now (.inl rfl) hreq, fun now =>
    ⟨.draw .generateSessionToken (.inr (.inl rfl)) hreq, fun token =>
      ⟨.draw .generateCsrfToken (.inr (.inr rfl)) hreq, fun csrfToken =>
      ⟨.issue _ (h.mono ?_) ⟨_, (List.append_assoc _ [_] [_]).symm⟩, ?_⟩⟩⟩⟩
  · exact ((List.prefix_append _ _).trans (List.prefix_append _ _)).trans (List.prefix_append _ _)
  · rintro (e | ⟨⟩) <;> trivial

theorem answerLogin_permit {body : LoginBody} {now : Int}
    {result : Except LoginError AuthenticatedAdmin} {past : List (Reply serverSig)}
    {past₀ : List (Reply authSig)} (hreq : req.endpoint = .login (.ok body))
    (hanswers : LoginAnswers ⟨body.email, body.password, req.http.clientIp⟩ past₀ result)
    (hheard : Heard authHom past₀ past) :
    Prog.Calls (Permit site req) past
      ((answerLogin site.policy body req.http now result).along httpHom) := by
  have hsigns : req.endpoint.signsIn = true := by rw [hreq]; rfl
  rcases result with e | out
  · have hrefused {event : NewAuditEvent} (htype : refusalEvent e = some event.eventType)
        (hid : event.adminId = none) (hemail : event.emailAttempted = some (normalize body.email))
        (hevent : Describes req event) : Permit site req past (auditOp (.record event)) :=
      .refused event body past₀ e hreq hanswers hheard htype hid hemail hevent
    cases e with
    | invalidCredentials =>
        rw [answerLogin, Prog.along_bind, recordAttempt, httpHom, Prog.inr_along, Prog.inr_along]
        exact (record_permit (hrefused rfl rfl rfl ⟨rfl, rfl⟩)).seq fun _ _ _ => trivial
    | tooManyAttempts retryAfter =>
        rw [answerLogin, Prog.along_bind, recordAttempt, httpHom, Prog.inr_along, Prog.inr_along]
        exact (record_permit (hrefused rfl rfl rfl ⟨rfl, rfl⟩)).seq fun _ _ _ => trivial
    | internal msg => trivial
  · have hsigned : SignedIn site req past out.id out.role := by
      cases hanswers with
      | signedIn out now ip email account h =>
          exact .password body past₀ now ip email account hreq h hheard
    rw [answerLogin, Prog.along_bind, recordAttempt, httpHom, Prog.inr_along, Prog.inr_along]
    refine (record_permit (.loggedIn _ out.id out.role rfl rfl ⟨rfl, rfl⟩ hsigned)).seq ?_
    intro past' _ hp
    rw [Prog.along_bind, Prog.inr_along, Prog.inl_along]
    refine (start_permit (hsigned.mono hp) hsigns).seq ?_
    rintro _ (e | issued) _ <;> trivial

/-- Completing a flow checks no password. -/
theorem complete_calls (providers : OAuthProviders ι) (state code : String) :
    Prog.Calls (fun _ op => verifies (authOp op) = false) []
      (OAuthLoginService.complete providers state code) := by
  refine Prog.Always.calls (complete_trace providers state code) fun past op h => ?_
  cases h with
  | signIn pending now identity rest _ h =>
      cases h with
      | resolving _ _ h => cases h <;> rfl
      | fetching _ _ _ _ _ h => cases h; rfl
  | _ => rfl

/-- Keys that were all admitted have each been counted. -/
theorem checkKeys_admits (now : Int) (keys : List String) (past : List (Reply limitSig)) :
    Prog.Returns (fun past' r => past <+: past' ∧ (r = .ok () →
        ∀ key ∈ keys, (⟨.check key now, .ok ()⟩ : Reply limitSig) ∈ past')) past
      (checkKeys now keys) := by
  induction keys generalizing past with
  | nil => exact ⟨List.prefix_refl past, by simp⟩
  | cons key keys ih =>
      rintro (e | ⟨⟩)
      · exact ⟨List.prefix_append _ _, nofun⟩
      · refine (ih _).mono ?_
        rintro past' r ⟨hp, h⟩
        refine ⟨(List.prefix_append _ _).trans hp, fun hr => List.forall_mem_cons.mpr ⟨?_, h hr⟩⟩
        exact hp.subset (List.mem_append_right _ (List.mem_singleton_self _))

theorem counted_of_admits {http : Request} {body : LoginBody} {now : Int}
    {past₀ : List (Reply limitSig)} {base : List (Reply serverSig)}
    (h : ∀ key ∈ [addressKey http, accountKey body],
      (⟨.check key now, .ok ()⟩ : Reply limitSig) ∈ past₀) :
    Counted http body now (base ++ past₀.map (Reply.along limitHom)) := by
  have hmem (key : String) (hkey : key ∈ [addressKey http, accountKey body]) :
      (⟨limitOp (.check key now), .ok ()⟩ : Reply serverSig) ∈
        base ++ past₀.map (Reply.along limitHom) :=
    List.mem_append_right _ (List.mem_map.mpr ⟨_, h key hkey, rfl⟩)
  exact ⟨hmem _ (by simp), hmem _ (by simp)⟩

/-- What comes before the check of the password. -/
theorem before_check {email ip : String} {ipState : LockoutState} {looked : List (Reply authSig)}
    {account : Option AdminAccount} (now : Int) (h : Looked email looked account) :
    ∀ r ∈ [(⟨.now, now⟩ : Reply authSig), ⟨.getIp ip, .ok ipState⟩] ++ looked,
      verifies (authOp r.op) = false := by
  cases h with
  | parsed e h account => simp [verifies]
  | unparsed err h => simp [verifies]

/-- The calls of the credential check: it checks the password once. -/
theorem login_calls {body : LoginBody} {now : Int} {past : List (Reply serverSig)}
    (hreq : req.endpoint = .login (.ok body)) (hcounted : Counted req.http body now past)
    (hfirst : ∀ r ∈ past, verifies r.op = false) :
    Prog.Calls (fun past₀ op => Permit site req (past ++ past₀.map (Reply.along authHom))
        (authOp op)) []
      (LoginService.login site.lockout site.ports.hasher
        ⟨body.email, body.password, req.http.clientIp⟩) := by
  have hsigns : req.endpoint.signsIn = true := by rw [hreq]; rfl
  refine Prog.Always.calls (login_trace _ _ _) fun past₀ op h => ?_
  cases h with
  | start => exact .credential .now rfl hsigns
  | address => exact .credential (.getIp _) rfl hsigns
  | lookup now ipState email => exact .credential (.findByEmail email) rfl hsigns
  | check now' ipState looked account h =>
      refine .verify body now _ hreq ⟨?_, ?_⟩ fun r hr => ?_
      · exact List.mem_append_left _ hcounted.address
      · exact List.mem_append_left _ hcounted.account
      rcases List.mem_append.mp hr with hr | hr
      · exact hfirst r hr
      · obtain ⟨r₀, hr₀, rfl⟩ := List.mem_map.mp hr
        exact before_check now' h r₀ hr₀
  | settle now ipState looked account verified rest _ h hs =>
      cases hs <;> exact .credential _ rfl hsigns

section

-- a handler is followed without evaluating what it validates
attribute [local irreducible] LoginBody.invalid LoginService.login

theorem login_permit {body : LoginBody} (hreq : req.endpoint = .login (.ok body)) :
    Prog.Calls (Permit site req) []
      ((loginHandler site.lockout site.ports.hasher site.policy body req.http).along
        signInHom) := by
  have hsigns : req.endpoint.signsIn = true := by rw [hreq]; rfl
  rw [loginHandler]
  by_cases hinvalid : body.invalid ≠ []
  · rw [if_pos hinvalid]
    trivial
  rw [if_neg hinvalid]
  refine .perform_along (.credential .now rfl hsigns) fun now => ?_
  change Prog.Calls _ [(⟨authOp .now, now⟩ : Reply serverSig)] _
  rw [Prog.along_bind, signInHom, Prog.inl_along]
  refine .bind ((checkKeys_admits now _ []).along (f := limitHom) _) ?_ ?_
  · rintro _ op k ⟨past₀, head₀, -, rfl, hhead⟩
    obtain ⟨op₀, -, rfl⟩ := Head.along_eq_call hhead.symm
    exact .limit op₀ hsigns
  rintro _ (exceeded | ⟨⟩) ⟨past₀, head₀, hadmits, rfl, hhead⟩
  · trivial
  obtain rfl := Head.along_eq_ret hhead.symm
  have hcounted : Counted req.http body now
      ([⟨authOp .now, now⟩] ++ past₀.map (Reply.along limitHom)) :=
    counted_of_admits ((hadmits (.ok ()) rfl).2 rfl)
  have hfirst : ∀ r ∈ [(⟨authOp .now, now⟩ : Reply serverSig)] ++
      past₀.map (Reply.along limitHom), verifies r.op = false := by
    intro r hr
    rcases List.mem_append.mp hr with hr | hr
    · obtain rfl := List.mem_singleton.mp hr
      rfl
    · obtain ⟨r, -, rfl⟩ := List.mem_map.mp hr
      rfl
  dsimp only
  rw [Prog.along_bind, Prog.inr_along, httpHom, Prog.inl_along, Prog.inl_along]
  refine .bind ((login_answers site.lockout site.ports.hasher _).along_calls (f := authHom)
    (login_calls hreq hcounted hfirst) _) ?_ ?_
  · rintro _ op k ⟨rest, head₀, ⟨-, hcalls⟩, rfl, hhead⟩
    obtain ⟨op₀, rfl, rfl⟩ := Head.along_eq_call hhead.symm
    exact hcalls op₀ rfl
  · rintro _ result ⟨rest, head₀, ⟨hanswers, -⟩, rfl, hhead⟩
    obtain rfl := Head.along_eq_ret hhead.symm
    rw [Prog.inr_along]
    exact answerLogin_permit hreq (hanswers result rfl) (List.suffix_append _ _).isInfix

end

theorem callback_permit {query : CallbackQuery} (hreq : req.endpoint = .oauthCallback query) :
    Prog.Calls (Permit site req) []
      ((callbackHandler site.ports.providers site.policy site.redirects query req.http).along
        httpHom) := by
  have hsigns : req.endpoint.signsIn = true := by rw [hreq]; rfl
  rw [callbackHandler]
  split
  · next state code herror hstate hcode =>
      rw [Prog.along_bind, httpHom, Prog.inl_along, Prog.inl_along]
      refine .bind ((complete_answers site.ports.providers state code).along_calls (f := authHom)
        (complete_calls site.ports.providers state code) []) ?_ ?_
      · rintro _ op k ⟨past₀, head₀, ⟨-, hcalls⟩, rfl, hhead⟩
        obtain ⟨op₀, rfl, rfl⟩ := Head.along_eq_call hhead.symm
        exact .credential op₀ (hcalls op₀ rfl) hsigns
      rintro _ (e | admin) ⟨past₀, head₀, ⟨hanswers, -⟩, rfl, hhead⟩
      · trivial
      obtain rfl := Head.along_eq_ret hhead.symm
      obtain ⟨now, pending, identity, email, account, hflow⟩ := hanswers _ rfl admin rfl
      have hsigned : SignedIn site req ([] ++ past₀.map (Reply.along authHom)) admin.id
          admin.role :=
        .provider query state code past₀ now pending identity email account hreq hstate hcode hflow
          List.infix_rfl
      dsimp only
      rw [startSession, Prog.along_bind, Prog.inr_along, Prog.inl_along]
      refine (start_permit hsigned hsigns).seq ?_
      rintro past (e | issued) hp
      · trivial
      dsimp only
      rw [recordLogin, Prog.along_bind, Prog.inr_along, Prog.inl_along]
      refine .seq ⟨.draw .now (.inl rfl) hsigns, fun _ => trivial⟩ fun past' now hp' => ?_
      rw [Prog.along_bind, Prog.inr_along, Prog.inr_along]
      exact (record_permit (.loggedIn _ admin.id admin.role rfl rfl ⟨rfl, rfl⟩
        (hsigned.mono (hp.trans hp')))).seq fun _ _ _ => trivial
  · trivial

/-- A start makes calls of the accounts context, and those that begin a flow. -/
theorem oauthStart_permit {provider : String} (hreq : req.endpoint = .oauthStart provider) :
    Prog.Calls (Permit site req) []
      ((startHandler site.ports.providers site.config provider).along httpHom) := by
  have hsigns : req.endpoint.signsIn = true := by rw [hreq]; rfl
  rw [startHandler]
  split
  · rw [Prog.along_bind, httpHom, Prog.inl_along]
    refine .bind ((begin_trace site.ports.providers site.config provider).along
      (f := authHom.elim flowHom) []) ?_ ?_
    · rintro _ op k ⟨past₀, head₀, htrace, rfl, hhead⟩
      obtain ⟨op₀, rfl, rfl⟩ := Head.along_eq_call hhead.symm
      cases htrace with
      | drawing _ _ _ hop =>
          rcases hop with rfl | rfl | rfl | rfl
          · exact .flow .state hsigns
          · exact .flow .nonce hsigns
          · exact .flow .pkce hsigns
          · exact .credential .now rfl hsigns
      | store flow => exact .flow (.insert _) hsigns
    · rintro _ (e | outcome) _ <;> trivial
  · trivial

/-! ### Behind the gate -/

theorem logout_permit {token : SessionToken} {session : Session} {now : Int}
    {past : List (Reply serverSig)} (hreq : req.endpoint = .logout)
    (hpost : req.http.method = .post)
    (h : Entered site.policy req token session now past) :
    Prog.Calls (Permit site req) past
      ((logoutHandler req.http ⟨session.adminId.raw, session.role, token⟩).along
        (sessionHom.elim auditHom)) := by
  rw [logoutHandler, Prog.along_bind, Prog.inl_along]
  refine .seq ⟨.revoke token session now hreq hpost h, ?_⟩ ?_
  · rintro (e | ⟨⟩) <;> trivial
  intro past' _ hp
  rw [recordLogout, Prog.along_bind, Prog.inl_along]
  refine .seq ⟨.stamp hreq, fun _ => trivial⟩ fun past'' occurredAt hp' => ?_
  rw [Prog.along_bind, Prog.inr_along]
  exact (record_permit (.loggedOut _ token session now hreq hpost rfl rfl ⟨rfl, rfl⟩
    (h.mono (hp.trans hp')))).seq fun _ _ _ => trivial

/-- A handler of the reads makes calls of its own. -/
theorem view_permit {β : Type} {token : SessionToken} {session : Session} {now : Int}
    {past : List (Reply serverSig)} (h : Entered site.policy req token session now past)
    (p : Prog viewSig β) : Prog.Calls (Permit site req) past (p.along viewHom) :=
  Prog.calls_along (fun _ op hp => .view op token session now (h.mono hp)) p

/-- A handler that only reads payments. -/
theorem read_permit {β : Type} {token : SessionToken} {session : Session} {now : Int}
    {past : List (Reply serverSig)} (h : Entered site.policy req token session now past)
    {p : Prog paySig β} (hp : Prog.Calls (fun _ op => readsOnly op = true) [] p) :
    Prog.Calls (Permit site req) past (p.along payHom) :=
  hp.named fun _ op hpast hop => .read op hop token session now (h.mono hpast)

theorem listRoute_reads (params : ListParams) :
    Prog.Calls (fun _ op => readsOnly op = true) [] (listRoute params) := by
  rw [listRoute]
  split
  · trivial
  rw [listTransactions]
  split
  · trivial
  refine .seq ⟨rfl, ?_⟩ ?_
  · rintro (e | total)
    · trivial
    · refine ⟨rfl, ?_⟩
      rintro (e | items) <;> trivial
  · rintro _ (e | page) _ <;> trivial

theorem getTransaction_reads (id : String) :
    Prog.Calls (fun _ op => readsOnly op = true) [] (getTransaction id) := by
  rw [getTransaction]
  refine .seq ⟨rfl, ?_⟩ ?_
  · rintro (e | _ | payment)
    · trivial
    · trivial
    · refine ⟨rfl, ?_⟩
      rintro (e | history) <;> trivial
  · rintro _ (e | _ | detail) _ <;> trivial

/-! ### Deliveries -/

theorem webhook_permit {now : Int} {payload : List UInt8} {signature : Option String}
    (hreq : req.endpoint = .webhook now payload signature) :
    Prog.Calls (Permit site req) []
      ((webhookHandler (site.verifier now) payload signature).along payHom) := by
  rw [webhookHandler, WebhookService.handle]
  cases hverify : (site.verifier now).verify payload signature with
  | error err => exact ⟨.deliver _ now payload signature hreq (.inl ⟨_, rfl⟩), fun _ => trivial⟩
  | ok event =>
      refine Prog.calls_along (fun _ op _ => ?_) _
      exact .deliver op now payload signature hreq (.inr ⟨event, hverify⟩)

/-! ### All routes -/

theorem post_of_accepts {method : Method} (h : Verb.post.accepts method = true) :
    method = .post := by
  cases method with
  | post => rfl
  | _ => cases h

-- a route is followed without evaluating what its handler validates
attribute [local irreducible] loginHandler callbackHandler startHandler protectedRoute
  webhookHandler listRoute

/-- **What a request may call.** Every call of every request to the server is one that its route and
the answers it has had permit. -/
theorem code_permit (site : ServerSite ι τ υ π) (req : ServerRequest) :
    Prog.Calls (Permit site req) [] (req.code site) := by
  obtain ⟨endpoint, http⟩ := req
  rw [ServerRequest.code]
  split
  · trivial
  cases endpoint with
  | health =>
      change Prog.Calls _ _ (onVerb .get http.method livenessHandler)
      rw [onVerb]
      split <;> trivial
  | ready =>
      refine onVerb_permit ⟨.ready, http⟩ fun _ => ⟨.probe rfl, ?_⟩
      rintro (_ | _) <;> trivial
  | login body =>
      cases body with
      | error status =>
          change Prog.Calls _ _ (onVerb .post http.method (return statusOnly status))
          rw [onVerb]
          split <;> trivial
      | ok body =>
          refine onVerb_permit ⟨.login (.ok body), http⟩ fun _ => ?_
          rw [Prog.along_map]
          exact (login_permit rfl).map _
  | logout =>
      refine protectedRoute_permit ⟨.logout, http⟩ rfl fun token session now past h hverb => ?_
      rw [Prog.along_map]
      exact (logout_permit rfl (post_of_accepts hverb) h).map _
  | me =>
      refine protectedRoute_permit ⟨.me, http⟩ rfl fun token session now past h _ => ?_
      rw [Prog.inr_along]
      exact view_permit h _
  | auditEvents limit =>
      refine protectedRoute_permit ⟨.auditEvents limit, http⟩ rfl
        fun token session now past h _ => ?_
      rw [Prog.inr_along]
      exact view_permit h _
  | oauthProviders =>
      change Prog.Calls _ _ (onVerb .get http.method _)
      rw [onVerb]
      split <;> trivial
  | oauthStart provider =>
      refine onVerb_permit ⟨.oauthStart provider, http⟩ fun _ => ?_
      rw [Prog.along_map]
      exact (oauthStart_permit rfl).map _
  | oauthCallback query =>
      refine onVerb_permit ⟨.oauthCallback query, http⟩ fun _ => ?_
      rw [Prog.along_map]
      exact (callback_permit rfl).map _
  | webhook now payload signature =>
      exact onVerb_permit ⟨.webhook now payload signature, http⟩ fun _ => webhook_permit rfl
  | transactions params =>
      refine protectedRoute_permit ⟨.transactions params, http⟩ rfl
        fun token session now past h _ => ?_
      rw [Prog.inr_along]
      exact read_permit h ((listRoute_reads params).map _)
  | transaction id =>
      refine protectedRoute_permit ⟨.transaction id, http⟩ rfl
        fun token session now past h _ => ?_
      rw [Prog.inr_along]
      exact read_permit h ((getTransaction_reads id).map _)
  | refund id =>
      refine protectedRoute_permit ⟨.refund id, http⟩ rfl
        fun token session now past h hverb => ?_
      rw [Prog.inr_along]
      refine Prog.calls_along (fun past' op hp => ?_) _
      exact .refund op id token session now rfl (post_of_accepts hverb) (h.mono hp)

end

end AuthApp.Http
