import AuthApp.Http.Mediation
import AuthApp.Sessions.Tokens

/-!
# Http — what the cookies carry

The cookies that a response of the server sets, over any interleaving of requests of any kind, any
call of which may fail.

* `code_hands`: a response sets no cookie, clears those of a session, or sets those of a session
  that its request stored.
* `stored_csrf`: a session that is found under a token was handed out with the CSRF token that it
  is stored with.
* `handed_once`: no two responses hand out the same session.
-/

namespace AuthApp.Http
open Interleave Pool Accounts Sessions Audit Payments

variable {ι τ υ π ε : Type}

/-! ### What a response sets -/

/-- What a session is handed out as. -/
def handedOut (session : Session) : IssuedSession :=
  ⟨session.token, session.csrfToken, session.absoluteExpiresAt⟩

/-- The cookies of a response, by the answers of its request. -/
inductive Hands (past : List (Reply serverSig)) : List Cookie → Prop where
  | nothing : Hands past []
  | cleared : Hands past clearSessionCookies
  | issued (session : Session)
      (h : (⟨sessionOp (.insert session), .ok ()⟩ : Reply serverSig) ∈ past) :
      Hands past (attachSessionCookies (handedOut session))

/-- The response sets no cookie. -/
def SetsNone {β : Type} (r : JsonResponse β) : Prop := r.setCookies = []

theorem SetsNone.hands {past : List (Reply serverSig)} {r : ServerResponse} (h : SetsNone r) :
    Hands past r.setCookies := by
  rw [h]
  exact .nothing

section Handlers
variable {site : ServerSite ι τ υ π}

/-- A handler that sets no cookie, on its route. -/
theorem Returns.hands {S : Sig} {β : Type} {f : S.Hom serverSig} {p : Prog S (JsonResponse β)}
    (h : Prog.Returns (fun _ r => SetsNone r) [] p) (g : β → Body) (past : List (Reply serverSig)) :
    Prog.Returns (fun past r => Hands past r.setCookies) past
      ((p.map (JsonResponse.mapBody g)).along f) := by
  have hmap : Prog.Returns (fun _ r => SetsNone r) [] (p.map (JsonResponse.mapBody g)) :=
    Prog.Returns.map h
  exact (hmap.carried past).mono fun past r hr => hr.hands

/-- The session that a start hands out is the one that it stored. -/
theorem start_hands (id : AdminId) (role : Role) (past : List (Reply serverSig)) :
    Prog.Returns (fun past r => ∀ issued, r = .ok issued → ∃ session, issued = handedOut session ∧
        (⟨sessionOp (.insert session), .ok ()⟩ : Reply serverSig) ∈ past) past
      ((SessionService.start site.policy id role).along sessionHom) := by
  rintro now token csrfToken (e | ⟨⟩) issued heq
  · cases heq
  · cases heq
    exact ⟨_, rfl, List.mem_append_right _ List.mem_cons_self⟩

theorem answerLogin_hands (body : LoginBody) (http : Request) (now : Int)
    (result : Except LoginError AuthenticatedAdmin) (past : List (Reply serverSig)) :
    Prog.Returns (fun past r => Hands past r.setCookies) past
      ((answerLogin site.policy body http now result).along httpHom) := by
  have hrefused {eventType : AuditEventType} {r : JsonResponse LoginOk} (hr : SetsNone r) :
      Prog.Returns (fun past r => Hands past r.setCookies) past
        ((recordAttempt body http now eventType none >>= fun _ => .ret r).along httpHom) := by
    rw [Prog.along_bind]
    refine .seq fun past' _ _ => ?_
    rw [Prog.along_ret, Prog.returns_ret, hr]
    exact .nothing
  rcases result with (_ | retryAfter | msg) | authenticated
  · exact hrefused rfl
  · exact hrefused rfl
  · exact .nothing
  · rw [answerLogin, Prog.along_bind]
    refine .seq fun past' _ _ => ?_
    rw [Prog.along_bind, httpHom, Prog.inr_along, Prog.inl_along]
    refine (start_hands authenticated.id authenticated.role past').bind ?_
    rintro past'' (e | issued) h
    · exact .nothing
    · obtain ⟨session, rfl, hm⟩ := h issued rfl
      exact .issued session hm

section

-- a handler is followed without evaluating what it validates
attribute [local irreducible] LoginBody.invalid LoginService.login

theorem login_hands (body : LoginBody) (http : Request) :
    Prog.Returns (fun past r => Hands past r.setCookies) []
      ((loginHandler site.lockout site.ports.hasher site.policy body http).along signInHom) := by
  rw [loginHandler]
  split
  · exact .nothing
  rw [Prog.along_bind]
  refine .seq fun past now _ => ?_
  rw [Prog.along_bind]
  refine .seq ?_
  rintro past (exceeded | ⟨⟩) -
  · exact .nothing
  dsimp only
  rw [Prog.along_bind]
  refine .seq fun past result _ => ?_
  rw [signInHom, Prog.inr_along]
  exact answerLogin_hands body http now result past

end

theorem callback_hands (query : CallbackQuery) (http : Request) :
    Prog.Returns (fun past r => Hands past r.setCookies) []
      ((callbackHandler site.ports.providers site.policy site.redirects query http).along
        httpHom) := by
  rw [callbackHandler]
  split
  · rw [Prog.along_bind]
    refine .seq ?_
    rintro past (e | admin) -
    · exact .nothing
    dsimp only
    rw [startSession, Prog.along_bind, httpHom, Prog.inr_along, Prog.inl_along]
    refine (start_hands admin.id admin.role past).bind ?_
    rintro past (e | issued) h
    · exact .nothing
    obtain ⟨session, rfl, hm⟩ := h issued rfl
    dsimp only
    rw [recordLogin, Prog.along_bind]
    refine .seq fun past' _ hp => ?_
    rw [Prog.along_bind]
    exact .seq fun past'' _ hp' => .issued session (hp'.subset (hp.subset hm))
  · exact .nothing

theorem oauthStart_hands (provider : String) :
    Prog.Returns (fun past r => Hands past r.setCookies) []
      ((startHandler site.ports.providers site.config provider).along httpHom) := by
  rw [startHandler]
  split
  · rw [Prog.along_bind]
    refine .seq ?_
    rintro past (e | outcome) - <;> exact .nothing
  · exact .nothing

theorem logout_hands (http : Request) (current : CurrentSession) (past : List (Reply serverSig)) :
    Prog.Returns (fun past r => Hands past r.setCookies) past
      ((logoutHandler http current).along (sessionHom.elim auditHom)) := by
  rw [logoutHandler, Prog.along_bind]
  refine .seq fun past _ _ => ?_
  rw [recordLogout, Prog.along_bind]
  refine .seq fun past _ _ => ?_
  rw [Prog.along_bind]
  exact .seq fun past _ _ => .cleared

/-! ### Handlers that set none -/

theorem me_setsNone (current : CurrentSession) :
    Prog.Returns (fun _ r => SetsNone r) [] (meHandler current) := fun _ => rfl

theorem auditEvents_setsNone (limit : Option Int) :
    Prog.Returns (fun _ r => SetsNone r) [] (auditEventsRoute limit) := by
  rw [auditEventsRoute]
  split
  · rfl
  · rw [listEvents]
    rintro (e | events) <;> rfl

theorem transactions_setsNone (params : ListParams) :
    Prog.Returns (fun _ r => SetsNone r) [] (listRoute params) := by
  rw [listRoute]
  split
  · rfl
  rw [listTransactions]
  split
  · rfl
  refine .seq ?_
  rintro past (e | page) - <;> rfl

theorem transaction_setsNone (id : String) :
    Prog.Returns (fun _ r => SetsNone r) [] (getTransaction id) := by
  rw [getTransaction]
  refine .seq ?_
  rintro past (e | _ | detail) - <;> rfl

theorem refund_setsNone (id : String) :
    Prog.Returns (fun _ r => SetsNone r) [] (refundTransaction id) := by
  rw [refundTransaction]
  refine .seq ?_
  rintro past (e | outcome) -
  · cases e with
    | provider e => cases e <;> rfl
    | _ => rfl
  · rfl

/-- Only a response of a handler behind the gate sets cookies. -/
theorem TurnsAway.setsNone {req : ServerRequest} {past : List (Reply serverSig)} {r : Response}
    (h : TurnsAway site.policy req past r) : r.setCookies = [] := by
  cases h <;> rfl

theorem onVerb_hands {S : Sig} {f : S.Hom serverSig} {verb : Verb} {method : Method}
    {handler : Prog S ServerResponse} {past : List (Reply serverSig)}
    (h : Prog.Returns (fun past r => Hands past r.setCookies) past (handler.along f)) :
    Prog.Returns (fun past r => Hands past r.setCookies) past
      ((onVerb verb method handler).along f) := by
  rw [onVerb]
  split
  · exact h
  · exact .nothing

theorem protectedRoute_hands (req : ServerRequest) {T : Sig} {f : T.Hom serverSig} {verb : Verb}
    {handler : CurrentSession → Prog (sessionSig.sum T) ServerResponse}
    (hguarded : req.endpoint.isProtected = true)
    (hnext : ∀ current past, Prog.Returns (fun past r => Hands past r.setCookies) past
      ((handler current).along (sessionHom.elim f))) :
    Prog.Returns (fun past r => Hands past r.setCookies) []
      ((protectedRoute site.policy req.endpoint.required verb req.http handler).along
        (sessionHom.elim f)) := by
  let P (past : List (Reply serverSig)) (head : Head serverSig ServerResponse) : Prop :=
    ∀ r, head = .ret r → Hands past r.setCookies
  refine (Prog.Always.returns (P := P) (protectedRoute_rule (P := P) hguarded ?_ ?_ ?_ ?_)).mono
    fun past r h => h r rfl
  · intro token past₀ op _ _ r heq
    cases heq
  · intro past t ht r heq
    cases heq
    rw [Response.bare, ht.setsNone]
    exact .nothing
  · intro token session now past _ r heq
    cases heq
    exact .nothing
  · exact fun token session now past _ _ => (hnext _ past).always

-- a route is followed without evaluating what its handler validates
attribute [local irreducible] loginHandler callbackHandler startHandler protectedRoute
  webhookHandler listRoute

/-- **What is handed out.** A response sets no cookie, clears those of a session, or sets those of a
session that its request stored. -/
theorem code_hands (site : ServerSite ι τ υ π) (req : ServerRequest) :
    Prog.Returns (fun past r => Hands past r.setCookies) [] (req.code site) := by
  obtain ⟨endpoint, http⟩ := req
  rw [ServerRequest.code]
  split
  · exact .nothing
  cases endpoint with
  | health =>
      change Prog.Returns _ _ (onVerb .get http.method livenessHandler)
      rw [onVerb]
      split <;> exact .nothing
  | ready =>
      refine onVerb_hands ?_
      rintro (_ | _) <;> exact .nothing
  | login body =>
      cases body with
      | error status =>
          change Prog.Returns _ _ (onVerb .post http.method (return statusOnly status))
          rw [onVerb]
          split <;> exact .nothing
      | ok body =>
          refine onVerb_hands ?_
          rw [Prog.along_map]
          exact Prog.Returns.map (login_hands body http)
  | logout =>
      refine protectedRoute_hands ⟨.logout, http⟩ rfl fun current past => ?_
      rw [Prog.along_map]
      exact Prog.Returns.map (logout_hands http current past)
  | me =>
      refine protectedRoute_hands ⟨.me, http⟩ rfl fun current past => ?_
      rw [Prog.inr_along]
      exact Returns.hands (me_setsNone current) .me past
  | auditEvents limit =>
      refine protectedRoute_hands ⟨.auditEvents limit, http⟩ rfl fun current past => ?_
      rw [Prog.inr_along]
      exact Returns.hands (auditEvents_setsNone limit) .events past
  | oauthProviders =>
      change Prog.Returns _ _ (onVerb .get http.method _)
      rw [onVerb]
      split <;> exact .nothing
  | oauthStart provider =>
      refine onVerb_hands ?_
      rw [Prog.along_map]
      exact Prog.Returns.map (oauthStart_hands provider)
  | oauthCallback query =>
      refine onVerb_hands ?_
      rw [Prog.along_map]
      exact Prog.Returns.map (callback_hands query http)
  | webhook now payload signature =>
      refine onVerb_hands ?_
      rw [webhookHandler, Prog.along_map]
      refine Prog.Returns.map (Prog.Always.returns (P := fun _ _ => Hands _ [])
        (Prog.always_of_forall (fun _ _ => .nothing) [] _))
  | transactions params =>
      refine protectedRoute_hands ⟨.transactions params, http⟩ rfl fun current past => ?_
      rw [Prog.inr_along]
      exact Returns.hands (transactions_setsNone params) .page past
  | transaction id =>
      refine protectedRoute_hands ⟨.transaction id, http⟩ rfl fun current past => ?_
      rw [Prog.inr_along]
      exact Returns.hands (transaction_setsNone id) .detail past
  | refund id =>
      refine protectedRoute_hands ⟨.refund id, http⟩ rfl fun current past => ?_
      rw [Prog.inr_along]
      exact Returns.hands (refund_setsNone id) .refund past

end Handlers

/-! ### One CSRF token for a session token -/

/-- The environment takes no draw back. -/
def DrawsOn (env : ε → ServerState ι τ Nat π → ServerState ι τ Nat π) : Prop :=
  ∀ a s, s.sessions.entropy ≤ (env a s).sessions.entropy

section Runs
variable {buffers : Nat → Block} {site : ServerSite ι τ Nat π}
  {env : ε → ServerState ι τ Nat π → ServerState ι τ Nat π} {s : ServerState ι τ Nat π}
  {p : ServerPool ι τ Nat π} {ok : ServerPool ι τ Nat π → Act ServerRequest Fate ε → Prop}

theorem exec_draws (htokens : site.tokens = secureRandomTokens buffers) (fate : Fate)
    (op : serverSig.Op) (s : ServerState ι τ Nat π) :
    s.sessions.entropy ≤ (site.exec fate op s).2.sessions.entropy := by
  rcases op with (op | (op | op) | op | op) | op | op
  · exact Nat.le_refl _
  · exact Nat.le_refl _
  · exact Nat.le_refl _
  · change _ ≤ (SessionDb.exec site.tokens fate op s.sessions).2.entropy
    rw [htokens]
    exact entropy_exec op
  · exact Nat.le_refl _
  · exact Nat.le_refl _
  · exact Nat.le_refl _

/-- A session token that was drawn is spelled from the buffer of the step. -/
theorem exec_draw_session (htokens : site.tokens = secureRandomTokens buffers)
    {e : Event serverSig (ServerState ι τ Nat π)} {fate : Fate} {token : SessionToken}
    (he : (⟨e.op, e.ans⟩ : Reply serverSig) = ⟨sessionOp .generateSessionToken, token⟩)
    (hx : site.exec fate e.op e.pre = (e.ans, e.post)) :
    token.raw = randomHex (buffers e.pre.sessions.entropy) ∧
      e.post.sessions.entropy = e.pre.sessions.entropy + 1 := by
  have hdraw : SessionDb.exec (secureRandomTokens buffers) fate .generateSessionToken
      e.pre.sessions = (token, e.post.sessions) := by
    rw [← htokens]
    exact congrArg (fun r => (r.1, r.2.1.2.2.1)) (exec_of_reply he hx)
  exact exec_session hdraw

/-- No session token is drawn twice. -/
theorem drawn_once (htokens : site.tokens = secureRandomTokens buffers) (hdraws : DrawsOn env)
    (h : (serverSystem site env).Run ok (.init s) p)
    (hfresh : NoRepeat buffers p.store.sessions.entropy) {token : SessionToken} {n m : Nat}
    {e f : Event serverSig (ServerState ι τ Nat π)} (hn : p.log[n]? = some e)
    (hm : p.log[m]? = some f)
    (he : (⟨e.op, e.ans⟩ : Reply serverSig) = ⟨sessionOp .generateSessionToken, token⟩)
    (hf : (⟨f.op, f.ans⟩ : Reply serverSig) = ⟨sessionOp .generateSessionToken, token⟩) :
    n = m := by
  -- between two draws, and after the second, no draw is taken back
  have hlt : ∀ {n m : Nat} {e f : Event serverSig (ServerState ι τ Nat π)},
      p.log[n]? = some e → p.log[m]? = some f →
        (⟨e.op, e.ans⟩ : Reply serverSig) = ⟨sessionOp .generateSessionToken, token⟩ →
          (⟨f.op, f.ans⟩ : Reply serverSig) = ⟨sessionOp .generateSessionToken, token⟩ →
            ¬ n < m := by
    intro n m e f hn hm he hf hnm
    have hmono {s t : ServerState ι τ Nat π}
        {log : List (Event serverSig (ServerState ι τ Nat π))}
        (ht : (serverSystem site env).Trail s log t) : s.sessions.entropy ≤ t.sessions.entropy :=
      ht.mono_exec (M := fun s t => s.sessions.entropy ≤ t.sessions.entropy)
        (fun _ => Nat.le_refl _) Nat.le_trans (fun a s => hdraws a s)
        fun fate op s => exec_draws htokens fate op s
    obtain ⟨fate, hx⟩ := h.event_exec e (List.mem_of_getElem? hn)
    obtain ⟨fate', hy⟩ := h.event_exec f (List.mem_of_getElem? hm)
    obtain ⟨htoken, hpost⟩ := exec_draw_session htokens he hx
    obtain ⟨htoken', hpost'⟩ := exec_draw_session htokens hf hy
    have hbetween := hmono (h.trail.between hn hm hnm)
    have hafter := hmono (h.trail.after hm)
    exact hfresh _ _ (by omega) (by omega) (randomHex_injective (htoken.symm.trans htoken'))
  have hnm := hlt hn hm he hf
  have hmn := hlt hm hn hf he
  omega

/-- A step that stores a session comes right after the draws of its tokens. -/
theorem drawn_of_insert (h : (serverSystem site env).Run ok (.init s) p) {n : Nat}
    {e : Event serverSig (ServerState ι τ Nat π)} (hn : p.log[n]? = some e) {session : Session}
    (he : e.op = sessionOp (.insert session)) :
    DrawnFor session (pastOf e.caller (p.log.take n)) := by
  obtain ⟨req, d, -, hpermit⟩ := h.event_call (code_permit site) hn
  rw [he] at hpermit
  cases hpermit with
  | draw op hop => simp at hop
  | issue session _ hdrawn => exact hdrawn
  | authenticate token past₀ op hguarded hcookie htrace => cases htrace

/-- Sessions that were stored under one token were stored with one CSRF token. -/
theorem csrf_of_inserts (htokens : site.tokens = secureRandomTokens buffers)
    (hdraws : DrawsOn env) (h : (serverSystem site env).Run ok (.init s) p)
    (hfresh : NoRepeat buffers p.store.sessions.entropy) {n m : Nat}
    {e f : Event serverSig (ServerState ι τ Nat π)} (hn : p.log[n]? = some e)
    (hm : p.log[m]? = some f) {session session' : Session}
    (he : e.op = sessionOp (.insert session)) (hf : f.op = sessionOp (.insert session'))
    (htoken : session.token = session'.token) : session.csrfToken = session'.csrfToken := by
  obtain ⟨l, hl⟩ := drawn_of_insert h hn he
  obtain ⟨l', hl'⟩ := drawn_of_insert h hm hf
  rw [← htoken] at hl'
  have hsame := System.same_next
    (fun _ _ _ _ hn hm he hf => drawn_once htokens hdraws h hfresh hn hm he hf) hl hl'
  simpa using hsame

/-- **One CSRF token.** In every interleaving, with any failures, a session that is found under a
token that was handed out is stored with the CSRF token that was handed out with it. -/
theorem stored_csrf (htokens : site.tokens = secureRandomTokens buffers)
    (hstarts : StartsNone env) (hdraws : DrawsOn env)
    (h : (serverSystem site env).Run ok (.init s) p) (hempty : s.sessions.sessions.rows = [])
    (hfresh : NoRepeat buffers p.store.sessions.entropy) {i n m : Nat} {session : Session}
    {ans : Except RepositoryError Unit}
    (hr : (⟨sessionOp (.insert session), ans⟩ : Reply serverSig) ∈ pastOf i (p.log.take n))
    {f : Event serverSig (ServerState ι τ Nat π)} (hm : p.log[m]? = some f) {row : SessionRow}
    (hrow : row ∈ f.pre.sessions.sessions.rows) (htoken : row.token = session.token.raw) :
    row.csrfToken = session.csrfToken.raw := by
  obtain ⟨k, -, fate, pre, post, hk, -⟩ := h.reply_exec hr
  obtain ⟨k', -, g, req, d, role, hk', -, ⟨session', hop, hof⟩, -⟩ :=
    stored_begun hstarts h hempty hm hrow
  have hsame : session.token = session'.token :=
    congrArg SessionToken.mk (htoken.symm.trans hof.token)
  rw [hof.csrfToken, csrf_of_inserts htokens hdraws h hfresh hk hk' rfl hop hsame]

theorem csrfToken_of_rowToSession {row : SessionRow} {session : Session}
    (h : rowToSession row = .ok session) : session.csrfToken.raw = row.csrfToken := by
  rw [rowToSession] at h
  split at h
  · cases h
  · cases h
    rfl

/-- The tokens of a session that was stored are spelled from buffers. -/
theorem spelled_of_insert (htokens : site.tokens = secureRandomTokens buffers)
    (h : (serverSystem site env).Run ok (.init s) p) {i n : Nat} {session : Session}
    {ans : Except RepositoryError Unit}
    (hr : (⟨sessionOp (.insert session), ans⟩ : Reply serverSig) ∈ pastOf i (p.log.take n)) :
    (∃ buf, session.token.raw = randomHex buf) ∧ ∃ buf, session.csrfToken.raw = randomHex buf := by
  obtain ⟨k, -, fate, pre, post, hk, -⟩ := h.reply_exec hr
  have hsubset := (drawn_of_insert h hk rfl).subset
  obtain ⟨m, -, e, -, -, fate, db', hx⟩ := session_step h .generateSessionToken session.token
    (hsubset List.mem_cons_self)
  obtain ⟨m', -, f, -, -, fate', db'', hy⟩ := session_step h .generateCsrfToken session.csrfToken
    (hsubset (List.mem_cons_of_mem _ List.mem_cons_self))
  rw [htokens] at hx hy
  exact ⟨⟨_, (exec_session hx).1⟩, _, exec_csrf hy⟩

/-! ### One response for a session token -/

/-- The session cookies that a response may set are cleared ones, and the one of a session that its
request stored. -/
theorem Hands.token {past : List (Reply serverSig)} {cookies : List Cookie} (h : Hands past cookies)
    {cookie : Cookie} (hc : cookie ∈ cookies) (hname : cookie.name = sessionCookieName)
    (hvalue : cookie.value ≠ "") :
    ∃ session, (⟨sessionOp (.insert session), .ok ()⟩ : Reply serverSig) ∈ past ∧
      cookie.value = session.token.raw := by
  have hcsrf : csrfCookieName ≠ sessionCookieName := by decide
  cases h with
  | nothing => cases hc
  | cleared =>
      rcases List.mem_cons.mp hc with rfl | hc
      · exact absurd rfl hvalue
      · obtain rfl := List.mem_singleton.mp hc
        exact absurd rfl hvalue
  | issued session hm =>
      rcases List.mem_cons.mp hc with rfl | hc
      · exact ⟨session, hm, rfl⟩
      · obtain rfl := List.mem_singleton.mp hc
        exact absurd hname hcsrf

/-- A session that a request stored has a token that the request drew. -/
theorem draw_of_insert (h : (serverSystem site env).Run ok (.init s) p) {i : Nat}
    {session : Session} {ans : Except RepositoryError Unit}
    (hr : (⟨sessionOp (.insert session), ans⟩ : Reply serverSig) ∈ pastOf i p.log) :
    ∃ (k : Nat) (e : Event serverSig (ServerState ι τ Nat π)), p.log[k]? = some e ∧ e.caller = i ∧
      (⟨e.op, e.ans⟩ : Reply serverSig) = ⟨sessionOp .generateSessionToken, session.token⟩ := by
  rw [← List.take_length (l := p.log)] at hr
  obtain ⟨n, -, fate, pre, post, hn, -⟩ := h.reply_exec hr
  have hdrawn := (drawn_of_insert h hn rfl).subset List.mem_cons_self
  obtain ⟨e, he, hcaller, heq⟩ := mem_pastOf (mem_pastOf_of_take hdrawn)
  obtain ⟨k, hk⟩ := List.mem_iff_getElem?.mp he
  exact ⟨k, e, hk, hcaller, heq⟩

/-- **Handed out once.** In every interleaving, with any failures, no two responses hand out the
same session: what one sets as the session cookie, no other does. -/
theorem handed_once (htokens : site.tokens = secureRandomTokens buffers) (hdraws : DrawsOn env)
    (h : (serverSystem site env).Run ok (.init s) p)
    (hfresh : NoRepeat buffers p.store.sessions.entropy) {i j : Nat} (hij : i ≠ j)
    {req req' : ServerRequest} {r r' : ServerResponse} (hr : p.Returned i req r)
    (hr' : p.Returned j req' r') {cookie cookie' : Cookie} (hc : cookie ∈ r.setCookies)
    (hc' : cookie' ∈ r'.setCookies) (hname : cookie.name = sessionCookieName)
    (hname' : cookie'.name = sessionCookieName) (hvalue : cookie.value ≠ "") :
    cookie'.value ≠ cookie.value := by
  intro heq
  obtain ⟨session, hm, hraw⟩ := (h.returned (code_hands site) hr).token hc hname hvalue
  obtain ⟨session', hm', hraw'⟩ :=
    (h.returned (code_hands site) hr').token hc' hname' (heq.symm ▸ hvalue)
  have htoken : session'.token = session.token :=
    congrArg SessionToken.mk (hraw'.symm.trans (heq.trans hraw))
  obtain ⟨n, e, hn, rfl, he⟩ := draw_of_insert h hm
  obtain ⟨m, f, hm, rfl, hf⟩ := draw_of_insert h hm'
  rw [htoken] at hf
  obtain rfl := drawn_once htokens hdraws h hfresh hn hm he hf
  exact hij (congrArg Event.caller (Option.some.inj (hn.symm.trans hm)))

end Runs

/-! ### A small world -/

/-- Buffers of one byte each, repeated. -/
def sampleBuffers (n : Nat) : Block :=
  ⟨List.replicate tokenBytes (.ofNat n), List.length_replicate⟩

/-- The server, with tokens that are spelled from the buffers. -/
def randomServer : ServerSite Unit Accounts.Drawn Nat FakePaymentProvider :=
  { ports := server.ports, config := server.config, secrets := server.secrets
    tokens := secureRandomTokens sampleBuffers
    policy := server.policy, redirects := server.redirects, lockout := server.lockout
    rateLimit := server.rateLimit, provider := server.provider, verifier := server.verifier
    providerIds := server.providerIds, order := server.order }

def randomState : ServerState Unit Accounts.Drawn Nat FakePaymentProvider :=
  ((serverState.1.1, serverState.1.2.1,
    ⟨serverState.sessions.sessions, serverState.sessions.admins, 0, serverState.sessions.clock⟩,
    serverState.audit), serverState.2)

/-- The administrator signs in twice. -/
def twoLogins : ServerPool Unit Accounts.Drawn Nat FakePaymentProvider :=
  ((serverSystem randomServer setClocks).acts
    (.start adminLogin :: .start adminLogin :: List.replicate 14 (.step 0 .served) ++
      List.replicate 14 (.step 1 .served)) (.init randomState)).get rfl

theorem twoLogins_run :
    (serverSystem randomServer setClocks).Run (fun _ _ => True) (.init randomState) twoLogins :=
  .of_acts .refl (fun _ _ _ => trivial) (Option.some_get rfl).symm

theorem sampleBuffers_noRepeat {n : Nat} (hn : n ≤ 256) : NoRepeat sampleBuffers n := by
  intro i j hij hj heq
  have hbytes : List.replicate tokenBytes (UInt8.ofNat i) =
      List.replicate tokenBytes (UInt8.ofNat j) := congrArg Block.bytes heq
  have hbyte : UInt8.ofNat i = UInt8.ofNat j := List.replicate_right_inj (by decide) |>.mp hbytes
  have hnat := congrArg UInt8.toNat hbyte
  rw [UInt8.toNat_ofNat', UInt8.toNat_ofNat'] at hnat
  omega

theorem setClocks_draws :
    DrawsOn (setClocks : Int → ServerState ι τ Nat π → ServerState ι τ Nat π) :=
  fun _ _ => Nat.le_refl _

/-- The sessions of the two logins. -/
theorem twoLogins_handed : ∃ (r r' : ServerResponse) (cookie cookie' : Cookie),
    twoLogins.Returned 0 adminLogin r ∧ twoLogins.Returned 1 adminLogin r' ∧
      cookie ∈ r.setCookies ∧ cookie' ∈ r'.setCookies ∧ cookie'.value ≠ cookie.value := by
  obtain ⟨r, cookie, hr, hc, hname, hraw⟩ : ∃ (r : ServerResponse) (cookie : Cookie),
      twoLogins.Returned 0 adminLogin r ∧ cookie ∈ r.setCookies ∧
        cookie.name = sessionCookieName ∧ cookie.value = randomHex (sampleBuffers 0) :=
    ⟨_, _, rfl, List.mem_cons_self, rfl, rfl⟩
  obtain ⟨r', cookie', hr', hc', hname'⟩ : ∃ (r' : ServerResponse) (cookie' : Cookie),
      twoLogins.Returned 1 adminLogin r' ∧ cookie' ∈ r'.setCookies ∧
        cookie'.name = sessionCookieName := ⟨_, _, rfl, List.mem_cons_self, rfl⟩
  refine ⟨r, r', cookie, cookie', hr, hr', hc, hc', ?_⟩
  exact handed_once rfl setClocks_draws twoLogins_run (sampleBuffers_noRepeat (by decide))
    Nat.zero_ne_one hr hr' hc hc' hname hname' (hraw ▸ randomHex_ne_empty _)

end AuthApp.Http
