import AuthApp.Http.Api
import AuthApp.Interleave.Rules
import AuthApp.Sessions.System

/-!
# Http — the gate of a protected route

A request to a protected route passes the session middleware, which is the outer layer, and on some
routes the role middleware inside it, before its handler runs.  The handler is arbitrary here.

* `requireSession_trace`: what the middleware asks of the handler behind it.
* `gated_of_trace`: every step of a request is one of its authentication, or comes after it has
  passed the gate; and a request that does not pass is answered 401 or 403.
-/

namespace AuthApp.Http
open Interleave Pool Accounts Sessions

variable {T : Sig} {ρ ι τ υ : Type}

/-! ### The two layers -/

/-- The session middleware, before a handler whose responses are more than a `Response`. -/
def requireSessionAs (policy : SessionPolicy) (request : Request) (reject : Response → ρ)
    (next : CurrentSession → Prog (sessionSig.sum T) ρ) : Prog (sessionSig.sum T) ρ :=
  match request.sessionCookie with
  | none => return reject ApiError.unauthorized
  | some raw => do
      let token : SessionToken := ⟨raw⟩
      match ← (SessionService.authenticate policy token).inl (T := T) with
      | .error _ => return reject ApiError.unauthorized
      | .ok authenticated =>
          match request.method.isMutating,
              SessionService.verifyCsrf authenticated request.csrfHeader with
          | true, .error _ => return reject forbiddenCsrf
          | _, _ => next ⟨authenticated.adminId.raw, authenticated.role, token⟩

theorem requireSession_eq (policy : SessionPolicy) (request : Request)
    (next : CurrentSession → Prog (sessionSig.sum T) Response) :
    requireSession policy request next = requireSessionAs policy request id next := by
  rw [requireSession, requireSessionAs]
  cases request.sessionCookie <;> rfl

def forbiddenRole : Response :=
  ApiError.forbidden "forbidden" "You do not have permission to do that."

/-- Require that the session's role is the given one.  A session that is missing has none. -/
def requireRole {S : Sig} (required : Role) (current : Option CurrentSession)
    (reject : Response → ρ) (next : Prog S ρ) : Prog S ρ :=
  if current.any fun current => current.role == required then next
  else return reject forbiddenRole

/-! ### Passing the gate -/

/-- The request was let through to the handler with a session that it found live. -/
def PassedAs (policy : SessionPolicy) (request : Request) (token : SessionToken)
    (session : Session) (past : List (Reply (sessionSig.sum T))) : Prop :=
  ∃ now : Int, request.sessionCookie = some token.raw ∧
    [(⟨.inl .now, now⟩ : Reply (sessionSig.sum T)), ⟨.inl (.find token), .ok (some session)⟩] <+:
      past ∧
    policy.isExpired session now = false ∧ request.csrfHeader = some session.csrfToken.raw

/-- The same, on a route that asks for a role, or for none. -/
def Passed (policy : SessionPolicy) (required : Option Role) (request : Request)
    (past : List (Reply (sessionSig.sum T))) : Prop :=
  ∃ token session, PassedAs policy request token session past ∧
    ∀ role ∈ required, session.role = role

/-- A call that the middleware makes itself, to authenticate the cookie. -/
def Authenticating (policy : SessionPolicy) (request : Request)
    (past : List (Reply (sessionSig.sum T))) (op : (sessionSig.sum T).Op) : Prop :=
  ∃ token past₀ op₀, request.sessionCookie = some token.raw ∧
    AuthenticateTrace policy token past₀ (.call op₀) ∧ past = past₀.map Reply.inl ∧ op = .inl op₀

/-- Where a request stands: it is authenticated, it is turned away, or it has passed. -/
def GatePoint (policy : SessionPolicy) (required : Option Role) (request : Request)
    (status : ρ → Nat) (past : List (Reply (sessionSig.sum T)))
    (head : Head (sessionSig.sum T) ρ) : Prop :=
  (∃ op, head = .call op ∧ Authenticating policy request past op) ∨
    (∃ r, head = .ret r ∧ (status r = 401 ∨ status r = 403)) ∨
      Passed policy required request past

section
variable {policy : SessionPolicy} {required : Option Role} {request : Request} {status : ρ → Nat}
  {reject : Response → ρ}

theorem Passed.mono {past past' : List (Reply (sessionSig.sum T))}
    (h : Passed policy required request past) (hp : past <+: past') :
    Passed policy required request past' := by
  obtain ⟨token, session, ⟨now, hcookie, hpast, hlive⟩, hrole⟩ := h
  exact ⟨token, session, ⟨now, hcookie, hpast.trans hp, hlive⟩, hrole⟩

/-- Whatever a handler does, it does after the gate. -/
theorem Passed.always {past : List (Reply (sessionSig.sum T))} {p : Prog (sessionSig.sum T) ρ}
    (h : Passed policy required request past) :
    Prog.Always (fun past p => GatePoint policy required request status past p.head) past p := by
  have hall := Prog.always_of_forall (P := fun _ _ => True) (fun _ _ => trivial) past p
  exact (hall.since (List.prefix_refl past)).mono fun _ _ hp => .inr (.inr (h.mono hp.1))

/-- The middleware of a mutation: what follows a session that it let through is up to `next`. -/
theorem requireSession_trace (hpost : request.method = .post)
    (hreject : ∀ r, status (reject r) = r.status)
    {next : CurrentSession → Prog (sessionSig.sum T) ρ}
    (hnext : ∀ token session past, PassedAs policy request token session past →
      Prog.Always (fun past p => GatePoint policy required request status past p.head) past
        (next ⟨session.adminId.raw, session.role, token⟩)) :
    Prog.Always (fun past p => GatePoint policy required request status past p.head) []
      (requireSessionAs policy request reject next) := by
  rw [requireSessionAs]
  cases hcookie : request.sessionCookie with
  | none => exact Or.inr (.inl ⟨_, rfl, .inl (hreject _)⟩)
  | some raw =>
      have htoken : request.sessionCookie = some (SessionToken.mk raw).raw := hcookie
      refine (authenticate_trace policy (SessionToken.mk raw)).inl.bind ?_ ?_
      · rintro _ op k ⟨past, head, h, rfl, hhead⟩
        cases head with
        | ret a => cases hhead
        | call op₀ =>
            obtain rfl : op = .inl op₀ := Head.call.inj hhead
            exact .inl ⟨_, rfl, _, past, op₀, htoken, h, rfl, rfl⟩
      · rintro _ result ⟨past, head, h, rfl, hhead⟩
        obtain rfl := Head.inl_eq_ret hhead.symm
        rcases result with e | authenticated
        · exact Or.inr (.inl ⟨_, rfl, .inl (hreject _)⟩)
        cases h with
        | liveDone now session hlive =>
            dsimp only
            rw [hpost]
            cases hcsrf : SessionService.verifyCsrf session.authenticated request.csrfHeader with
            | error e => exact Or.inr (.inl ⟨_, rfl, .inr (hreject _)⟩)
            | ok u =>
                refine hnext ⟨raw⟩ session _ ⟨now, hcookie, ?_, hlive, ?_⟩
                · exact ⟨[⟨.inl (.touch ⟨raw⟩ now), .ok ()⟩], rfl⟩
                · exact SessionService.verifyCsrf_ok_iff.mp hcsrf

end

/-! ### Every run -/

/-- The session store, and what stands behind the handlers; whatever else the server does to either
is done by the environment. -/
def gateSystem (G : SessionTokenGenerator υ) (exec : Fate → Exec T τ)
    (code : ι → Prog (sessionSig.sum T) ρ) :
    System (sessionSig.sum T) (SessionDb υ × τ) ι ρ Fate (SessionDb υ × τ → SessionDb υ × τ) where
  code := code
  exec fate := Exec.sum (SessionDb.exec G fate) (exec fate)
  env f s := f s

/-- By the steps of a log, a request read the clock, found the session of its cookie stored, and
unexpired at that reading; its header is the CSRF token of the session, and the session has the
role that is asked for. -/
def Opened (policy : SessionPolicy) (required : Option Role) (request : Request) (i : Nat)
    (log : List (Event (sessionSig.sum T) (SessionDb υ × τ))) : Prop :=
  ∃ (token : SessionToken) (now : Int) (row : SessionRow) (session : Session),
    request.sessionCookie = some token.raw ∧
    [(⟨.inl .now, now⟩ : Reply (sessionSig.sum T))] <+: pastOf i log ∧
    (∃ e ∈ log, e.caller = i ∧ e.op = .inl (.find token) ∧ e.pre.1.row token = some row) ∧
    rowToSession row = .ok session ∧ policy.isExpired session now = false ∧
    request.csrfHeader = some session.csrfToken.raw ∧ ∀ role ∈ required, session.role = role

/-- Every step of a mutation authenticates it, or comes after the gate has opened to it.  One that
the gate has not opened to is answered 401 or 403, and changes nothing behind the gate. -/
structure Gated (policy : SessionPolicy) (required : Option Role) (http : ι → Request)
    (status : ρ → Nat) (p : Pool (sessionSig.sum T) (SessionDb υ × τ) ι ρ) : Prop where
  steps : ∀ n e req d, p.log[n]? = some e → p.calls[e.caller]? = some ⟨req, d⟩ →
    (http req).method = .post →
      Authenticating policy (http req) (pastOf e.caller (p.log.take n)) e.op ∨
        Opened policy required (http req) e.caller (p.log.take n)
  answers : ∀ i req r, p.Returned i req r → (http req).method = .post →
    (status r = 401 ∨ status r = 403) ∨ Opened policy required (http req) i p.log
  denied : ∀ i req d, p.calls[i]? = some ⟨req, d⟩ → (http req).method = .post →
    ¬ Opened policy required (http req) i p.log →
      ∀ e ∈ p.log, e.caller = i → e.post.2 = e.pre.2

section Runs
variable {policy : SessionPolicy} {required : Option Role} {http : ι → Request} {status : ρ → Nat}
  {G : SessionTokenGenerator υ} {exec : Fate → Exec T τ} {code : ι → Prog (sessionSig.sum T) ρ}
  {s : SessionDb υ × τ} {p : Pool (sessionSig.sum T) (SessionDb υ × τ) ι ρ}

theorem Opened.mono {request : Request} {i n : Nat}
    {log : List (Event (sessionSig.sum T) (SessionDb υ × τ))}
    (h : Opened policy required request i (log.take n)) : Opened policy required request i log := by
  obtain ⟨token, now, row, session, hcookie, hpast, ⟨e, he, hstored⟩, hlive⟩ := h
  have hprefix : pastOf i (log.take n) <+: pastOf i log := by
    rw [← List.take_append_drop n log, pastOf_append, List.take_append_drop]
    exact List.prefix_append _ _
  exact ⟨token, now, row, session, hcookie, hpast.trans hprefix, ⟨e, List.mem_of_mem_take he,
    hstored⟩, hlive⟩

/-- A session that an answer speaks of was found stored. -/
theorem Passed.opened (h : (gateSystem G exec code).Run (fun _ _ => True) (.init s) p) {i n : Nat}
    {request : Request} (hp : Passed policy required request (pastOf i (p.log.take n))) :
    Opened policy required request i (p.log.take n) := by
  obtain ⟨token, session, ⟨now, hcookie, hpast, hlive, hcsrf⟩, hrole⟩ := hp
  have hfound : (⟨.inl (.find token), .ok (some session)⟩ : Reply (sessionSig.sum T)) ∈
      pastOf i (p.log.take n) := hpast.subset (by simp)
  obtain ⟨m, hm, fate, pre, post, hget, hx⟩ := h.reply_exec hfound
  have hfind : SessionDb.exec G fate (.find token) pre.1 = (.ok (some session), post.1) :=
    congrArg (fun r => (r.1, r.2.1)) hx
  obtain ⟨row, hrow, hs⟩ := SessionDb.find_eq_ok_some (SessionDb.find_of_answer hfind)
  have hlogged : ⟨i, .inl (.find token), .ok (some session), pre, post⟩ ∈ p.log.take n := by
    obtain ⟨hlt, hget⟩ := List.getElem?_eq_some_iff.mp hget
    exact List.mem_take_iff_getElem.mpr ⟨m, Nat.lt_min.mpr ⟨hm, hlt⟩, hget⟩
  refine ⟨token, now, row, session, hcookie, ?_, ⟨_, hlogged, rfl, rfl, hrow⟩, hs, hlive, hcsrf,
    hrole⟩
  exact (List.prefix_append [_] [_]).trans hpast

theorem gated_of_trace (h : (gateSystem G exec code).Run (fun _ _ => True) (.init s) p)
    (hcode : ∀ req, (http req).method = .post →
      Prog.Always (fun past p => GatePoint policy required (http req) status past p.head) []
        (code req)) : Gated policy required http status p := by
  have hpoint : ∀ req, Prog.Always (fun past q => (http req).method = .post →
      GatePoint policy required (http req) status past q.head) [] (code req) := by
    intro req
    by_cases hpost : (http req).method = .post
    · exact (hcode req hpost).mono fun past q hq _ => hq
    · exact Prog.always_of_forall (fun past q heq => absurd heq hpost) [] _
  have hsteps : ∀ n e req d, p.log[n]? = some e → p.calls[e.caller]? = some ⟨req, d⟩ →
      (http req).method = .post →
        Authenticating policy (http req) (pastOf e.caller (p.log.take n)) e.op ∨
          Opened policy required (http req) e.caller (p.log.take n) := by
    intro n e req d he hcall hpost
    obtain ⟨req', d', k, hcall', hgate⟩ := h.event_point hpoint he
    obtain rfl : req = req' := congrArg Call.req (Option.some.inj (hcall.symm.trans hcall'))
    rcases hgate hpost with ⟨op, hop, hauth⟩ | ⟨r, hr, -⟩ | hpassed
    · obtain rfl := Head.call.inj hop
      exact .inl hauth
    · cases hr
    · exact .inr (hpassed.opened h)
  refine ⟨hsteps, ?_, ?_⟩
  · intro i req r hret hpost
    rcases h.point hpoint hret hpost with ⟨op, hop, -⟩ | ⟨r', hr, hdenied⟩ | hpassed
    · cases hop
    · obtain rfl := Head.ret.inj hr
      exact .inl hdenied
    · rw [← List.take_length (l := p.log)] at hpassed ⊢
      exact .inr (hpassed.opened h)
  · rintro i req d hcall hpost hclosed e he rfl
    obtain ⟨n, hn⟩ := List.mem_iff_getElem?.mp he
    rcases hsteps n e req d hn hcall hpost with ⟨token, past₀, op₀, -, -, -, hop⟩ | hopened
    · obtain ⟨fate, hx⟩ := h.event_exec e he
      obtain ⟨i, op, ans, pre, post⟩ := e
      obtain rfl : op = .inl op₀ := hop
      exact (congrArg (fun r => r.2.2) hx).symm
    · exact absurd hopened.mono hclosed

end Runs

end AuthApp.Http
