import AuthApp.Http.Provenance

/-!
# Http — what the gate lets through

Whatever the server does for a caller behind the gate, it does for a session that an administrator
signed in for.

* `Authorized`: a request was let through, and with what session.
* `Entered.authorized`: by its answers, a request that has passed the gate is authorized.
* `payments_mediated` and `reads_mediated`: nothing touches the payments, and nothing reads the
  accounts or the trail, for a request that is not.
* `responses_mediated`: nor does such a request get anything but a rejection.
-/

namespace AuthApp.Http
open Interleave Pool Accounts Sessions Audit Payments

variable {ι τ υ π ε : Type}

/-- By the first `n` steps, request number `i` was let through with the session.

It presented the token of a stored session, which a request had begun that had shown itself to be
its administrator; the session was live by a clock that was read; a mutation echoed its CSRF token;
and it had the role that the route asks for. -/
inductive Authorized (site : ServerSite ι τ υ π) (p : ServerPool ι τ υ π) (i n : Nat)
    (req : ServerRequest) (session : Session) : Prop where
  | intro (token : SessionToken) (row : SessionRow) (now : Int) (m : Nat)
      (e : Event serverSig (ServerState ι τ υ π))
      (hcookie : req.http.sessionCookie = some token.raw) (hlt : m < n) (he : p.log[m]? = some e)
      (hcaller : e.caller = i) (hrow : e.pre.sessions.row token = some row)
      (hbegun : Begun site p m row) (hsession : rowToSession row = .ok session)
      (hclock : StepOf i (p.log.take n) fun e => e.pre.sessions.clock = now)
      (hlive : site.policy.isExpired session now = false)
      (hcsrf : req.http.method.isMutating = true →
        req.http.csrfHeader = some session.csrfToken.raw)
      (hrole : ∀ role, req.endpoint.required = some role → session.role = role)

section Runs
variable {site : ServerSite ι τ υ π} {env : ε → ServerState ι τ υ π → ServerState ι τ υ π}
  {s : ServerState ι τ υ π} {p : ServerPool ι τ υ π}
  {ok : ServerPool ι τ υ π → Act ServerRequest Fate ε → Prop}

/-- An answer of the sessions context that a request heard is one of its steps. -/
theorem session_step (h : (serverSystem site env).Run ok (.init s) p) {i n : Nat} (op : SessionOp)
    (ans : op.Ans)
    (hr : (⟨sessionOp op, ans⟩ : Reply serverSig) ∈ pastOf i (p.log.take n)) :
    ∃ m < n, ∃ e, p.log[m]? = some e ∧ e.caller = i ∧
      ∃ fate db', SessionDb.exec site.tokens fate op e.pre.sessions = (ans, db') := by
  obtain ⟨m, hlt, fate, pre, post, hget, hx⟩ := h.reply_exec hr
  exact ⟨m, hlt, _, hget, rfl, fate, _, congrArg (fun r => (r.1, r.2.1.2.2.1)) hx⟩

/-- A session that a request was told of was stored at a step of it. -/
theorem found_of_reply (h : (serverSystem site env).Run ok (.init s) p) {i n : Nat}
    {token : SessionToken} {session : Session}
    (hr : (⟨sessionOp (.find token), .ok (some session)⟩ : Reply serverSig) ∈
      pastOf i (p.log.take n)) :
    StepOf i (p.log.take n) fun e => e.pre.sessions.find token = .ok (some session) := by
  obtain ⟨m, hlt, e, hget, hcaller, fate, db', hx⟩ := session_step h _ _ hr
  rw [← List.getElem?_take_of_lt hlt] at hget
  exact ⟨e, List.mem_of_getElem? hget, hcaller, SessionDb.find_of_answer hx⟩

/-- A clock that a request read is that of a step of it. -/
theorem read_of_reply (h : (serverSystem site env).Run ok (.init s) p) {i n : Nat} {now : Int}
    (hr : (⟨sessionOp .now, now⟩ : Reply serverSig) ∈ pastOf i (p.log.take n)) :
    StepOf i (p.log.take n) fun e => e.pre.sessions.clock = now := by
  obtain ⟨m, hlt, e, hget, hcaller, fate, db', hx⟩ := session_step h .now now hr
  rw [← List.getElem?_take_of_lt hlt] at hget
  refine ⟨e, List.mem_of_getElem? hget, hcaller, ?_⟩
  cases fate <;> exact congrArg Prod.fst hx

/-- A token that a request was told of in vain had no row at a step of it. -/
theorem unknown_of_reply (h : (serverSystem site env).Run ok (.init s) p) {i n : Nat}
    {token : SessionToken}
    (hr : (⟨sessionOp (.find token), .ok none⟩ : Reply serverSig) ∈ pastOf i (p.log.take n)) :
    StepOf i (p.log.take n) fun e => e.pre.sessions.row token = none := by
  obtain ⟨m, hlt, e, hget, hcaller, fate, db', hx⟩ := session_step h _ _ hr
  rw [← List.getElem?_take_of_lt hlt] at hget
  refine ⟨e, List.mem_of_getElem? hget, hcaller, ?_⟩
  have hserve := Fate.serve_of_under (S := sessionSig) hx nofun
  have hfind : e.pre.sessions.find token = .ok none := congrArg Prod.fst hserve
  rw [SessionDb.find_eq] at hfind
  cases hrow : e.pre.sessions.row token with
  | none => exact hrow
  | some row =>
      rw [hrow] at hfind
      cases hsession : rowToSession row <;> simp [hsession, Except.map] at hfind

/-- A request that has passed the gate is authorized. -/
theorem Entered.authorized (henv : StartsNone env) (h : (serverSystem site env).Run ok (.init s) p)
    (hempty : s.sessions.sessions.rows = []) {req : ServerRequest} {i n : Nat}
    {token : SessionToken} {session : Session} {now : Int}
    (he : Entered site.policy req token session now (pastOf i (p.log.take n))) :
    Authorized site p i n req session := by
  have hsubset := he.asked.subset
  obtain ⟨m, hlt, e, hget, hcaller, fate, db', hx⟩ := session_step h (.find token)
    (.ok (some session)) (hsubset (by simp))
  obtain ⟨row, hrow, hsession⟩ := SessionDb.find_eq_ok_some (SessionDb.find_of_answer hx)
  exact .intro token row now m e he.cookie hlt hget hcaller hrow
    (stored_begun henv h hempty hget (Table.mem_of_find? hrow)) hsession
    (read_of_reply h (hsubset (by simp))) he.live he.csrf he.role

/-! ### Steps -/

/-- The calls of the payments context. -/
theorem Permit.payment {req : ServerRequest} {past : List (Reply serverSig)} {op : PayOp}
    (h : Permit site req past (payOp op)) :
    (∃ now payload signature, req.endpoint = .webhook now payload signature ∧
        ((∃ reason, op = .recordRejected payload signature reason) ∨
          ∃ event, (site.verifier now).verify payload signature = .ok event)) ∨
      (∃ token session now, Entered site.policy req token session now past) ∧
        (readsOnly op = true ∨ ∃ id, req.endpoint = .refund id ∧ req.http.method = .post) := by
  cases h with
  | read op hop token session now h => exact .inr ⟨⟨token, session, now, h⟩, .inl hop⟩
  | refund op id token session now hreq hpost h =>
      exact .inr ⟨⟨token, session, now, h⟩, .inr ⟨id, hreq, hpost⟩⟩
  | deliver op now payload signature hreq h => exact .inl ⟨now, payload, signature, hreq, h⟩

/-- The calls of the reads. -/
theorem Permit.viewed {req : ServerRequest} {past : List (Reply serverSig)} {op : ViewOp}
    (h : Permit site req past (viewOp op)) :
    req.endpoint = .ready ∧ op = .check ∨
      ∃ token session now, Entered site.policy req token session now past := by
  cases h with
  | view op token session now h => exact .inr ⟨token, session, now, h⟩
  | probe hreq => exact .inl ⟨hreq, rfl⟩

/-- **Who touches the payments.** In every interleaving, with any failures, each call of the
payments context records a rejected delivery, or is made for one whose signature verifies; or it is
made for an authorized request, and only reads, or refunds by the request of an administrator. -/
theorem payments_mediated (henv : StartsNone env)
    (h : (serverSystem site env).Run ok (.init s) p) (hempty : s.sessions.sessions.rows = [])
    {n : Nat} {e : Event serverSig (ServerState ι τ υ π)} (hn : p.log[n]? = some e) {op : PayOp}
    (hop : e.op = payOp op) :
    ∃ req d, p.calls[e.caller]? = some ⟨req, d⟩ ∧
      ((∃ now payload signature, req.endpoint = .webhook now payload signature ∧
          ((∃ reason, op = .recordRejected payload signature reason) ∨
            ∃ event, (site.verifier now).verify payload signature = .ok event)) ∨
        ∃ session, Authorized site p e.caller n req session ∧ (readsOnly op = true ∨
          ∃ id, req.endpoint = .refund id ∧ req.http.method = .post ∧ session.role = .admin)) := by
  obtain ⟨req, d, hcall, hpermit⟩ := h.event_call (code_permit site) hn
  rw [hop] at hpermit
  refine ⟨req, d, hcall, hpermit.payment.imp id ?_⟩
  rintro ⟨⟨token, session, now, hentered⟩, hreads⟩
  refine ⟨session, hentered.authorized henv h hempty, hreads.imp id ?_⟩
  rintro ⟨id, hreq, hpost⟩
  refine ⟨id, hreq, hpost, hentered.role .admin ?_⟩
  rw [hreq]
  rfl

/-- The refund of the visit is made for its administrator. -/
theorem visit_refunds : ∃ e op, visit.log[19]? = some e ∧ e.op = payOp op ∧ readsOnly op = false ∧
    ∃ req d, visit.calls[e.caller]? = some ⟨req, d⟩ ∧
      ((∃ now payload signature, req.endpoint = .webhook now payload signature ∧
          ((∃ reason, op = .recordRejected payload signature reason) ∨
            ∃ event, (server.verifier now).verify payload signature = .ok event)) ∨
        ∃ session, Authorized server visit e.caller 19 req session ∧ (readsOnly op = true ∨
          ∃ id, req.endpoint = .refund id ∧ req.http.method = .post ∧ session.role = .admin)) := by
  obtain ⟨e, op, he, hop, hreads⟩ :
      ∃ e op, visit.log[19]? = some e ∧ e.op = payOp op ∧ readsOnly op = false :=
    ⟨_, _, rfl, rfl, rfl⟩
  exact ⟨e, op, he, hop, hreads, payments_mediated setClocks_starts visit_run rfl he hop⟩

/-- **Who reads.** In every interleaving, with any failures, each read of an account or of the trail
is made for an authorized request; what else is asked is whether the database is there. -/
theorem reads_mediated (henv : StartsNone env) (h : (serverSystem site env).Run ok (.init s) p)
    (hempty : s.sessions.sessions.rows = []) {n : Nat}
    {e : Event serverSig (ServerState ι τ υ π)} (hn : p.log[n]? = some e) {op : ViewOp}
    (hop : e.op = viewOp op) :
    ∃ req d, p.calls[e.caller]? = some ⟨req, d⟩ ∧
      (req.endpoint = .ready ∧ op = .check ∨
        ∃ session, Authorized site p e.caller n req session) := by
  obtain ⟨req, d, hcall, hpermit⟩ := h.event_call (code_permit site) hn
  rw [hop] at hpermit
  refine ⟨req, d, hcall, hpermit.viewed.imp id ?_⟩
  rintro ⟨token, session, now, hentered⟩
  exact ⟨session, hentered.authorized henv h hempty⟩

/-- The profile of the visit is read for its administrator. -/
theorem visit_reads : ∃ e op, visit.log[24]? = some e ∧ e.op = viewOp op ∧
    ∃ req d, visit.calls[e.caller]? = some ⟨req, d⟩ ∧ (req.endpoint = .ready ∧ op = .check ∨
      ∃ session, Authorized server visit e.caller 24 req session) := by
  obtain ⟨e, op, he, hop⟩ : ∃ e op, visit.log[24]? = some e ∧ e.op = viewOp op := ⟨_, _, rfl, rfl⟩
  exact ⟨e, op, he, hop, reads_mediated setClocks_starts visit_run rfl he hop⟩

/-! ### Responses -/

/-- By the steps of a log, request number `i` was turned away with the response.

Unauthorized: it presented no cookie; or its call about the session of its cookie failed; or that
session is not stored; or it had expired by the clock.  Forbidden: a mutation did not echo the CSRF
token of the session, or the session has another role than the route asks for. -/
inductive TurnedAway (site : ServerSite ι τ υ π) (req : ServerRequest) (i : Nat)
    (log : List (Event serverSig (ServerState ι τ υ π))) : Response → Prop where
  | noCookie (h : req.http.sessionCookie = none) :
      TurnedAway site req i log ApiError.unauthorized
  | failed (token : SessionToken) (err : RepositoryError)
      (hcookie : req.http.sessionCookie = some token.raw)
      (h : (⟨sessionOp (.find token), .error err⟩ : Reply serverSig) ∈ pastOf i log ∨
        ∃ now, (⟨sessionOp (.touch token now), .error err⟩ : Reply serverSig) ∈ pastOf i log) :
      TurnedAway site req i log ApiError.unauthorized
  | unknown (token : SessionToken) (hcookie : req.http.sessionCookie = some token.raw)
      (h : StepOf i log fun e => e.pre.sessions.row token = none) :
      TurnedAway site req i log ApiError.unauthorized
  | expired (token : SessionToken) (session : Session) (now : Int)
      (hcookie : req.http.sessionCookie = some token.raw)
      (hfound : StepOf i log fun e => e.pre.sessions.find token = .ok (some session))
      (hclock : StepOf i log fun e => e.pre.sessions.clock = now)
      (h : site.policy.isExpired session now = true) :
      TurnedAway site req i log ApiError.unauthorized
  | csrf (token : SessionToken) (session : Session)
      (hcookie : req.http.sessionCookie = some token.raw)
      (hfound : StepOf i log fun e => e.pre.sessions.find token = .ok (some session))
      (hmutating : req.http.method.isMutating = true)
      (h : req.http.csrfHeader ≠ some session.csrfToken.raw) :
      TurnedAway site req i log forbiddenCsrf
  | role (token : SessionToken) (session : Session) (role : Role)
      (hcookie : req.http.sessionCookie = some token.raw)
      (hfound : StepOf i log fun e => e.pre.sessions.find token = .ok (some session))
      (hrequired : req.endpoint.required = some role) (h : session.role ≠ role) :
      TurnedAway site req i log forbiddenRole

/-- A request that the layers turned away had given them cause. -/
theorem TurnsAway.turned (h : (serverSystem site env).Run ok (.init s) p) {req : ServerRequest}
    {i n : Nat} {r : Response} (hturns : TurnsAway site.policy req (pastOf i (p.log.take n)) r) :
    TurnedAway site req i (p.log.take n) r := by
  cases hturns with
  | noCookie hcookie => exact .noCookie hcookie
  | unauthenticated token past₀ e hcookie htrace hpast =>
      have hheard (op : SessionOp) (ans : op.Ans) (hm : (⟨op, ans⟩ : Reply sessionSig) ∈ past₀) :
          (⟨sessionOp op, ans⟩ : Reply serverSig) ∈ pastOf i (p.log.take n) := by
        rw [hpast]
        exact List.mem_map.mpr ⟨_, hm, rfl⟩
      cases htrace with
      | lookupFails now err => exact .failed token err hcookie (.inl (hheard _ _ (by simp)))
      | unknown now =>
          exact .unknown token hcookie (unknown_of_reply h (hheard _ _ (by simp)))
      | expiredDone now session hexpired ans =>
          exact .expired token session now hcookie (found_of_reply h (hheard _ _ (by simp)))
            (read_of_reply h (hheard _ _ (by simp))) hexpired
      | liveFails now session hlive err =>
          exact .failed token err hcookie (.inr ⟨now, hheard _ _ (by simp)⟩)
  | csrf token session hcookie hfound hmutating hheader =>
      exact .csrf token session hcookie (found_of_reply h hfound) hmutating hheader
  | role token session role hcookie hfound hrequired hrole =>
      exact .role token session role hcookie (found_of_reply h hfound) hrequired hrole

/-- A protected route answers with a rejection of a layer, or it has been let through. -/
def TurnsAwayOrEnters (site : ServerSite ι τ υ π) (req : ServerRequest)
    (past : List (Reply serverSig)) (r : ServerResponse) : Prop :=
  (∃ t, TurnsAway site.policy req past t ∧ r = t.bare) ∨
    ∃ token session now, Entered site.policy req token session now past

/-- What follows the gate comes after it. -/
theorem behind_answers {T : Sig} {f : T.Hom serverSig} (req : ServerRequest) {verb : Verb}
    {handler : CurrentSession → Prog (sessionSig.sum T) ServerResponse}
    (hguarded : req.endpoint.isProtected = true) :
    Prog.Returns (TurnsAwayOrEnters site req) []
      ((protectedRoute site.policy req.endpoint.required verb req.http handler).along
        (sessionHom.elim f)) := by
  let P (past : List (Reply serverSig)) (head : Head serverSig ServerResponse) : Prop :=
    ∀ r, head = .ret r → TurnsAwayOrEnters site req past r
  refine (Prog.Always.returns (P := P) (protectedRoute_rule (P := P) hguarded ?_ ?_ ?_ ?_)).mono
    fun past r h => h r rfl
  · exact fun token past₀ op _ _ r heq => nomatch heq
  · intro past t ht r heq
    cases heq
    exact .inl ⟨t, ht, rfl⟩
  · exact fun token session now past h r _ => .inr ⟨token, session, now, h⟩
  · intro token session now past h _
    refine (Prog.always_along past _).mono ?_
    rintro past' q ⟨hp, -⟩ r -
    exact .inr ⟨token, session, now, h.mono hp⟩

theorem code_answers (site : ServerSite ι τ υ π) (req : ServerRequest) :
    Prog.Returns (fun past r => req.endpoint.isProtected = true → req.http.method ≠ .options →
      TurnsAwayOrEnters site req past r) [] (req.code site) := by
  by_cases hall : req.endpoint.isProtected = true ∧ req.http.method ≠ .options
  · obtain ⟨hguarded, hmethod⟩ := hall
    refine Prog.Returns.mono ?_ fun past r h _ _ => h
    obtain ⟨endpoint, http⟩ := req
    rw [ServerRequest.code, if_neg hmethod]
    cases endpoint with
    | logout => exact behind_answers ⟨.logout, http⟩ rfl
    | me => exact behind_answers ⟨.me, http⟩ rfl
    | auditEvents limit => exact behind_answers ⟨.auditEvents limit, http⟩ rfl
    | transactions params => exact behind_answers ⟨.transactions params, http⟩ rfl
    | transaction id => exact behind_answers ⟨.transaction id, http⟩ rfl
    | refund id => exact behind_answers ⟨.refund id, http⟩ rfl
    | _ => cases hguarded
  · have hany := Prog.Always.returns (P := fun _ _ => True)
      (Prog.always_of_forall (fun _ _ => trivial) [] (req.code site))
    exact hany.mono fun past r _ hguarded hmethod => absurd ⟨hguarded, hmethod⟩ hall

/-- **What comes back.** In every interleaving, with any failures, a request to a protected route
was authorized, or it had given cause for the bare rejection that it is answered with. -/
theorem responses_mediated (henv : StartsNone env)
    (h : (serverSystem site env).Run ok (.init s) p) (hempty : s.sessions.sessions.rows = [])
    {i : Nat} {req : ServerRequest} {r : ServerResponse}
    (hguarded : req.endpoint.isProtected = true) (hmethod : req.http.method ≠ .options)
    (hret : p.Returned i req r) :
    (∃ t, TurnedAway site req i p.log t ∧ r = t.bare) ∨
      ∃ session, Authorized site p i p.log.length req session := by
  have hanswers := h.returned (code_answers site) hret hguarded hmethod
  rw [← List.take_length (l := p.log)] at hanswers
  rcases hanswers with ⟨t, hturns, hr⟩ | ⟨token, session, now, hentered⟩
  · have hturned := hturns.turned h
    rw [List.take_length] at hturned
    exact .inl ⟨t, hturned, hr⟩
  · exact .inr ⟨session, hentered.authorized henv h hempty⟩

end Runs

end AuthApp.Http
