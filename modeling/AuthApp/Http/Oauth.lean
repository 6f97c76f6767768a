import AuthApp.Accounts.OneExchange
import AuthApp.Audit.Store
import AuthApp.Http.Api
import AuthApp.Sessions.System

/-!
# Http — signing in through a provider

`GET /auth/oauth/{provider}/start` and `GET /auth/oauth/{provider}/callback`, from any number of
browsers, any call of which may fail.  A pending authorization keeps nothing of the browser that
began it, so the callback of another browser completes it as well.

* `start_trace` and `callback_trace`: what a start stores, and what a callback consumed before it
  sets cookies.
* `issued_of_consumed`: a state that is consumed was drawn for a start request.
* `bound_of_own`: when every browser presents only states of its own, cookies go to the browser
  that began the flow.
* `foreign_callback`: a browser that completes the flow of another.
-/

namespace AuthApp.Http
open Interleave Pool Accounts Sessions Audit

variable {ι τ υ β : Type}

/-! ### The handlers -/

/-- The calls of the two handlers. -/
abbrev httpSig : Sig := flowSig.sum (sessionSig.sum auditSig)

structure OAuthRedirects where
  success : String := "/"
  failure : String := "/login"
  deriving DecidableEq, Repr

/-- The query of a callback. -/
structure CallbackQuery where
  state : Option String
  code : Option String
  error : Option String
  deriving DecidableEq, Repr

/-- Whether an id, as it stands in the path, is configured. -/
def hasProvider (providers : OAuthProviders ι) (provider : String) : Bool :=
  match ProviderId.parse provider with
  | .error _ => false
  | .ok id => id.name == provider && providers.registered id

/-- Send the browser to the provider. -/
def startHandler (providers : OAuthProviders ι) (config : FlowConfig) (provider : String) :
    Prog httpSig Response :=
  if hasProvider providers provider then do
    match ← (OAuthLoginService.begin providers config provider).inl with
    | .ok outcome => return redirectTo outcome.authorizeUrl
    | .error _ => return ApiError.internal
  else return ApiError.notFound "Unknown sign-in provider."

/-- Send the browser back, with a marker of the failure. -/
def redirectFailure (redirects : OAuthRedirects) : Response :=
  let sep := if '?' ∈ redirects.failure.toList then "&" else "?"
  redirectTo (redirects.failure ++ sep ++ "error=oauth")

/-- Record the login, and set the cookies.  A failure of the audit trail is dropped. -/
def recordLogin (redirects : OAuthRedirects) (request : Request) (admin : OAuthAuthenticatedAdmin)
    (issued : IssuedSession) : Prog httpSig Response := do
  let occurredAt ← ((Prog.perform (S := sessionSig) .now).inl (T := auditSig)).inr (S := flowSig)
  let _ ← ((AuditService.record
    { eventType := .loginSucceeded
      adminId := some admin.id
      emailAttempted := none
      ip := request.clientIp
      userAgent := request.userAgent
      occurredAt }).inr (S := sessionSig)).inr (S := flowSig)
  return { redirectTo redirects.success with setCookies := attachSessionCookies issued }

/-- Start a session for the administrator a flow signed in. -/
def startSession (policy : SessionPolicy) (redirects : OAuthRedirects) (request : Request)
    (admin : OAuthAuthenticatedAdmin) : Prog httpSig Response := do
  match ← ((SessionService.start policy admin.id admin.role).inl (T := auditSig)).inr
      (S := flowSig) with
  | .error _ => return redirectFailure redirects
  | .ok issued => recordLogin redirects request admin issued

/-- Finish a flow. -/
def callbackHandler (providers : OAuthProviders ι) (policy : SessionPolicy)
    (redirects : OAuthRedirects) (query : CallbackQuery) (request : Request) :
    Prog httpSig Response :=
  match query.error, query.state, query.code with
  | none, some state, some code => do
      match ← (OAuthLoginService.complete providers state code).inl.inl with
      | .error _ => return redirectFailure redirects
      | .ok admin => startSession policy redirects request admin
  | _, _, _ => return redirectFailure redirects

/-! ### The system -/

/-- A request, and the browser it came from.  The handlers are not told the browser. -/
inductive OAuthRequest (β : Type) where
  | start (browser : β) (provider : String)
  | callback (browser : β) (query : CallbackQuery) (request : Request)

abbrev HttpState (ι τ υ : Type) := (AuthDb ι × τ) × SessionDb υ × AuditDb

abbrev HttpPool (ι τ υ β : Type) := Pool httpSig (HttpState ι τ υ) (OAuthRequest β) Response

/-- What the routes are built on. -/
structure OAuthSite (ι τ υ : Type) where
  ports : AuthPorts ι
  config : FlowConfig
  secrets : OAuthSecretGenerator τ
  tokens : SessionTokenGenerator υ
  policy : SessionPolicy
  redirects : OAuthRedirects

def OAuthRequest.code (site : OAuthSite ι τ υ) : OAuthRequest β → Prog httpSig Response
  | .start _ provider => startHandler site.ports.providers site.config provider
  | .callback _ query request =>
      callbackHandler site.ports.providers site.policy site.redirects query request

/-- A call under a fate. -/
def OAuthSite.exec (site : OAuthSite ι τ υ) (fate : Fate) : Exec httpSig (HttpState ι τ υ) :=
  Exec.sum (flowExec site.ports site.secrets fate)
    (Exec.sum (SessionDb.exec site.tokens fate) (AuditDb.exec fate))

/-- The system clock, which every component reads, is set. -/
def setClock (now : Int) (s : HttpState ι τ υ) : HttpState ι τ υ :=
  (({ s.1.1 with clock := now }, s.1.2), { s.2.1 with clock := now }, s.2.2)

def oauthSystem (site : OAuthSite ι τ υ) :
    System httpSig (HttpState ι τ υ) (OAuthRequest β) Response Fate Int where
  code := OAuthRequest.code site
  exec := site.exec
  env := setClock

/-- The state was drawn for a start request of the browser. -/
def IssuedTo (p : HttpPool ι τ υ β) (browser : β) (state : String) : Prop :=
  ∃ j provider d, p.calls[j]? = some ⟨.start browser provider, d⟩ ∧
    (⟨.inl (.inr .state), state⟩ : Reply httpSig) ∈ pastOf j p.log

/-- The state of the query was consumed. -/
def Consumed (query : CallbackQuery) (past : List (Reply httpSig)) (state : String) : Prop :=
  query.state = some state ∧ ∃ pending,
    (⟨.inl (.inl (.consume state)), .ok (some pending)⟩ : Reply httpSig) ∈ past

/-- A response that sets session cookies consumed a state that was issued to its browser. -/
def Bound (p : HttpPool ι τ υ β) : Prop :=
  ∀ i browser query request r, p.Returned i (.callback browser query request) r →
    r.setCookies ≠ [] →
      ∃ state, Consumed query (pastOf i p.log) state ∧ IssuedTo p browser state

/-- No browser presents a state that was issued to another. -/
def OwnStates (p : HttpPool ι τ υ β) : Prop :=
  ∀ (i : Nat) (browser other : β) (query : CallbackQuery) (request : Request)
      (d : Prog httpSig Response) (state : String),
    p.calls[i]? = some ⟨.callback browser query request, d⟩ → query.state = some state →
      IssuedTo p other state → other = browser

/-! ### What the handlers call -/

/-- A start request stores a flow whose state it has drawn. -/
def StartPoint (past : List (Reply httpSig)) (head : Head httpSig Response) : Prop :=
  ∀ pending, head = .call (.inl (.inr (.insert pending))) →
    (⟨.inl (.inr .state), pending.state⟩ : Reply httpSig) ∈ past

/-- A callback stores no flow, and it sets cookies only if it has consumed its state. -/
def CallbackPoint (query : CallbackQuery) (past : List (Reply httpSig))
    (head : Head httpSig Response) : Prop :=
  (∀ pending, head ≠ .call (.inl (.inr (.insert pending)))) ∧
    ∀ r, head = .ret r → r.setCookies ≠ [] → ∃ state, Consumed query past state

section Points

-- a handler is followed without evaluating the ids it parses
attribute [local irreducible] ProviderId.parse Email.parse

theorem start_trace (providers : OAuthProviders ι) (config : FlowConfig) (provider : String) :
    Prog.Always (fun past p => StartPoint past p.head) []
      (startHandler providers config provider) := by
  rw [startHandler]
  by_cases hknown : hasProvider providers provider
  · rw [if_pos hknown]
    refine (begin_trace providers config provider).inl.bind ?_ ?_
    · rintro _ op _ ⟨past, head, h, rfl, hhead⟩ pending heq
      obtain rfl : op = .inl (.inr (.insert pending)) := Head.call.inj heq
      rw [Head.inl_eq_call_inl hhead.symm] at h
      cases h with
      | drawing _ _ _ hop => simp at hop
      | store flow => exact List.mem_map.mpr ⟨_, List.mem_cons_self, rfl⟩
    · rintro past (e | outcome) - pending heq <;> cases heq
  · rw [if_neg hknown]
    intro pending heq
    cases heq

theorem Consumed.mono {query : CallbackQuery} {past past' : List (Reply httpSig)} {state : String}
    (h : Consumed query past state) (hp : past <+: past') : Consumed query past' state := by
  obtain ⟨hq, pending, hm⟩ := h
  exact ⟨hq, pending, hp.subset hm⟩

theorem redirectFailure_point (redirects : OAuthRedirects) (query : CallbackQuery)
    (past : List (Reply httpSig)) :
    CallbackPoint query past (.ret (redirectFailure redirects)) :=
  ⟨fun _ heq => (nomatch heq), fun _ heq hne => by cases heq; exact absurd rfl hne⟩

/-- A call of another component is no insert of a flow. -/
theorem callbackPoint_of_inr {query : CallbackQuery} {past : List (Reply httpSig)}
    (op : SessionOp ⊕ AuditOp) : CallbackPoint query past (.call (.inr op)) :=
  ⟨fun _ heq => (nomatch heq), fun _ heq => (nomatch heq)⟩

/-- The cookies come after the state. -/
theorem recordLogin_trace (redirects : OAuthRedirects) (request : Request)
    (admin : OAuthAuthenticatedAdmin) (issued : IssuedSession) {query : CallbackQuery}
    {state : String} {past : List (Reply httpSig)} (h : Consumed query past state) :
    Prog.Always (fun past p => CallbackPoint query past p.head) past
      (recordLogin redirects request admin issued) := by
  refine ⟨callbackPoint_of_inr _, fun now => ⟨callbackPoint_of_inr _, ?_⟩⟩
  rintro (e | id)
  · refine ⟨fun _ heq => (nomatch heq), fun r _ _ => ⟨state, h.mono ?_⟩⟩
    exact (List.prefix_append _ _).trans (List.prefix_append _ _)
  · refine ⟨fun _ heq => (nomatch heq), fun r _ _ => ⟨state, h.mono ?_⟩⟩
    exact (List.prefix_append _ _).trans (List.prefix_append _ _)

theorem startSession_trace (policy : SessionPolicy) (redirects : OAuthRedirects) (request : Request)
    (admin : OAuthAuthenticatedAdmin) {query : CallbackQuery} {state : String}
    {past : List (Reply httpSig)} (h : Consumed query past state) :
    Prog.Always (fun past p => CallbackPoint query past p.head) past
      (startSession policy redirects request admin) := by
  have hstart := (Prog.always_inr (S := flowSig) past
    ((SessionService.start policy admin.id admin.role).inl (T := auditSig))).since
      (List.prefix_refl past)
  refine hstart.bind ?_ ?_
  · rintro past' (op | op) k ⟨-, hop⟩
    · exact absurd rfl (hop op)
    · exact callbackPoint_of_inr op
  · rintro past' (e | issued) ⟨hp, -⟩
    · exact redirectFailure_point redirects query past'
    · exact recordLogin_trace redirects request admin issued (h.mono hp)

theorem callback_trace (providers : OAuthProviders ι) (policy : SessionPolicy)
    (redirects : OAuthRedirects) (query : CallbackQuery) (request : Request) :
    Prog.Always (fun past p => CallbackPoint query past p.head) []
      (callbackHandler providers policy redirects query request) := by
  rw [callbackHandler]
  split
  · next state code herror hstate hcode =>
      refine (complete_trace providers state code).inl.inl.bind ?_ ?_
      · rintro _ op _ ⟨past₁, head₁, ⟨past, head, -, rfl, rfl⟩, rfl, hhead⟩
        refine ⟨fun pending heq => ?_, fun _ heq => (nomatch heq)⟩
        obtain rfl : op = .inl (.inr (.insert pending)) := Head.call.inj heq
        have hcall := Head.inl_eq_call_inl hhead.symm
        cases head <;> cases hcall
      · rintro _ (e | admin) ⟨past₁, head₁, ⟨past, head, htrace, rfl, rfl⟩, rfl, hhead⟩
        · exact redirectFailure_point redirects query _
        · obtain rfl := Head.inl_eq_ret (Head.inl_eq_ret hhead.symm)
          refine startSession_trace policy redirects request admin (?_ : Consumed query _ state)
          refine ⟨hstate, ?_⟩
          cases htrace with
          | signIn pending => exact ⟨pending, by simp [Reply.inl]⟩
  · exact redirectFailure_point redirects query _

/-- The points of each request. -/
def OAuthPoint : OAuthRequest β → List (Reply httpSig) → Head httpSig Response → Prop
  | .start .. => StartPoint
  | .callback _ query _ => CallbackPoint query

theorem oauth_trace (site : OAuthSite ι τ υ) (request : OAuthRequest β) :
    Prog.Always (fun past p => OAuthPoint request past p.head) [] (request.code site) := by
  cases request with
  | start browser provider => exact start_trace site.ports.providers site.config provider
  | callback browser query request =>
      exact callback_trace site.ports.providers site.policy site.redirects query request

end Points

/-! ### Where a consumed state comes from -/

section Runs
variable {site : OAuthSite ι τ υ} {s : HttpState ι τ υ} {p : HttpPool ι τ υ β}

/-- A pending row is there since before a call, or the call stores its flow. -/
theorem exec_row {fate : Fate} {op : httpSig.Op} {s : HttpState ι τ υ} {row : PendingRow}
    (h : row ∈ (site.exec fate op s).2.1.1.pending.rows) :
    row ∈ s.1.1.pending.rows ∨
      ∃ pending, op = .inl (.inr (.insert pending)) ∧ row.state = pending.state := by
  rcases op with op | op
  · change row ∈ (flowExec site.ports site.secrets fate op s.1).2.1.pending.rows at h
    rcases Fate.under_state (S := flowSig) flowFault (flowServe site.ports site.secrets) fate op s.1
      with hs | hs
    · rw [flowExec, hs] at h
      exact .inl h
    · rw [flowExec, hs] at h
      rcases flowServe_row h with hin | ⟨pending, secs, hop, -, rfl⟩
      · exact .inl hin
      · exact .inr ⟨pending, congrArg Sum.inl (congrArg Reply.op hop), rfl⟩
  · exact .inl h

/-- A lookup that is answered was served. -/
theorem consume_exec {fate : Fate} {state : String} {s t : HttpState ι τ υ}
    {pending : PendingAuthorization}
    (h : site.exec fate (.inl (.inl (.consume state))) s = (.ok (some pending), t)) :
    (s.1.1.consume state).1 = .ok (some pending) := by
  cases fate with
  | served => exact congrArg Prod.fst h
  | refused msg => cases h
  | unacknowledged msg => cases h

/-- A state that is consumed was drawn for a start request. -/
theorem issued_of_consumed (h : (oauthSystem site).Run (fun _ _ => True) (.init s) p)
    (hempty : s.1.1.pending.rows = []) {i : Nat} {query : CallbackQuery} {state : String}
    (hc : Consumed query (pastOf i p.log) state) : ∃ browser, IssuedTo p browser state := by
  obtain ⟨-, pending, hm⟩ := hc
  rw [← List.take_length (l := p.log)] at hm
  obtain ⟨n, -, fate, pre, post, hn, hx⟩ := h.reply_exec hm
  obtain ⟨row, hrow, hstate, -⟩ := AuthDb.consume_found (consume_exec hx)
  obtain ⟨k, g, -, hg, hpre, hpost⟩ := h.trail.turned_before
    (I := fun s => row ∈ s.1.1.pending.rows) (fun _ _ hs => hs) hn (by simp [hempty]) hrow
  obtain ⟨fate', hy⟩ := h.event_exec g (List.mem_of_getElem? hg)
  have hpost' : row ∈ (site.exec fate' g.op g.pre).2.1.1.pending.rows := by
    rw [show site.exec fate' g.op g.pre = (g.ans, g.post) from hy]
    exact hpost
  obtain ⟨stored, hop, hsame⟩ := (exec_row hpost').resolve_left hpre
  obtain ⟨request, d, prog, hcall, hpoint⟩ := h.event_point
    (P := fun request past q => OAuthPoint request past q.head) (oauth_trace site) hg
  rw [Prog.head, hop] at hpoint
  cases request with
  | callback browser query request => exact absurd rfl (hpoint.1 stored)
  | start browser provider =>
      have hdrew := mem_pastOf_of_take (hpoint stored rfl)
      rw [← hsame, hstate] at hdrew
      exact ⟨browser, g.caller, provider, d, hcall, hdrew⟩

/-- **State and browser.** In every interleaving of starts and callbacks in which no browser
presents a state that was issued to another, session cookies are set for a browser only when it
completes a flow that it began. -/
theorem bound_of_own (h : (oauthSystem site).Run (fun _ _ => True) (.init s) p)
    (hempty : s.1.1.pending.rows = []) (hown : OwnStates p) : Bound p := by
  intro i browser query request r hret hcookies
  obtain ⟨-, hpoint⟩ := h.point (P := fun request past q => OAuthPoint request past q.head)
    (oauth_trace site) hret
  obtain ⟨state, hconsumed⟩ := hpoint r rfl hcookies
  obtain ⟨other, hissued⟩ := issued_of_consumed h hempty hconsumed
  obtain rfl := hown i browser other query request _ state hret hconsumed.1 hissued
  exact ⟨state, hconsumed, hissued⟩

end Runs

/-! ### The flow of another browser -/

def oauthSite : OAuthSite Unit Drawn (Nat × Nat) where
  ports := movedPorts
  config := adminSite
  secrets := unarySecrets.generator
  tokens := unaryTokens.generator
  policy := .recommended
  redirects := {}

/-- Two administrators, and nobody signed in. -/
def oauthState : HttpState Unit Drawn (Nat × Nat) :=
  ((freshDb, (1, 1, 1)), ⟨.empty, [editorRow.id, adminRow.id], (1, 1), 0⟩, ⟨.empty, ⟨"event-1"⟩⟩)

def sharedQuery : CallbackQuery := ⟨some "s", some "c1", none⟩

def navigation : Request where
  method := .get
  sessionCookie := none
  csrfHeader := none
  userAgent := none
  xForwardedFor := none
  xRealIp := none
  peer := some "203.0.113.7"

/-- Browser 1 begins a flow, and browser 2 follows the callback of it. -/
def foreignPool : HttpPool Unit Drawn (Nat × Nat) Nat :=
  ((oauthSystem oauthSite).acts
    (.start (.start 1 "google") :: List.replicate 5 (.step 0 .served) ++
      .start (.callback 2 sharedQuery navigation) :: List.replicate 13 (.step 1 .served))
    (.init oauthState)).get rfl

def otherQuery : CallbackQuery := ⟨some "ss", some "c1", none⟩

/-- Two browsers begin a flow at once, and each follows the callback of its own. -/
def ownPool : HttpPool Unit Drawn (Nat × Nat) Nat :=
  ((oauthSystem oauthSite).acts
    ([.start (.start 1 "google"), .start (.start 2 "google")] ++
      (List.replicate 5 [.step 0 .served, .step 1 .served]).flatten ++
      [.start (.callback 2 otherQuery navigation), .start (.callback 1 sharedQuery navigation)] ++
      List.replicate 13 (.step 2 .served) ++ List.replicate 11 (.step 3 .served))
    (.init oauthState)).get rfl

def signedInResponse : Response :=
  { redirectTo "/" with
    setCookies := attachSessionCookies
      ⟨unaryTokens.session 1, unaryTokens.csrf 1, fromSecs (12 * 60 * 60)⟩ }

/-- The state that was drawn. -/
def drawnState : Reply httpSig → Option String
  | ⟨.inl (.inr .state), state⟩ => some state
  | _ => none

theorem ownPool_reqs : ownPool.calls.map Call.req =
    [.start 1 "google", .start 2 "google", .callback 2 otherQuery navigation,
      .callback 1 sharedQuery navigation] := rfl

/-- The state `s` was issued to browser 1, and `ss` to browser 2. -/
theorem issuedTo_ownPool {other : Nat} {state : String} (h : IssuedTo ownPool other state) :
    other = 1 ∧ state = "s" ∨ other = 2 ∧ state = "ss" := by
  obtain ⟨j, provider, d, hcall, hdrawn⟩ := h
  have hreq : (ownPool.calls.map Call.req)[j]? = some (.start other provider) := by
    rw [List.getElem?_map, hcall]
    rfl
  have hstate : state ∈ (pastOf j ownPool.log).filterMap drawnState :=
    List.mem_filterMap.mpr ⟨_, hdrawn, rfl⟩
  rw [ownPool_reqs] at hreq
  rcases j with _ | _ | _ | _ | j <;> cases hreq
  · rw [show (pastOf 0 ownPool.log).filterMap drawnState = ["s"] from rfl] at hstate
    exact .inl ⟨rfl, List.mem_singleton.mp hstate⟩
  · rw [show (pastOf 1 ownPool.log).filterMap drawnState = ["ss"] from rfl] at hstate
    exact .inr ⟨rfl, List.mem_singleton.mp hstate⟩

/-- Each browser presents the state that was issued to it. -/
theorem ownPool_own : OwnStates ownPool := by
  intro i browser other query request d state hcall hquery hissued
  have hreq : (ownPool.calls.map Call.req)[i]? = some (.callback browser query request) := by
    rw [List.getElem?_map, hcall]
    rfl
  rw [ownPool_reqs] at hreq
  rcases i with _ | _ | _ | _ | i <;> cases hreq
  · obtain rfl : "ss" = state := Option.some.inj hquery
    rcases issuedTo_ownPool hissued with ⟨-, hstate⟩ | ⟨rfl, -⟩
    · exact absurd hstate (by decide)
    · rfl
  · obtain rfl : "s" = state := Option.some.inj hquery
    rcases issuedTo_ownPool hissued with ⟨rfl, -⟩ | ⟨-, hstate⟩
    · rfl
    · exact absurd hstate (by decide)

/-- Browsers that follow their own callbacks are signed in, and each began its flow. -/
theorem own_callback :
    ownPool.Returned 2 (.callback 2 otherQuery navigation) signedInResponse ∧
      (∃ r, ownPool.Returned 3 (.callback 1 sharedQuery navigation) r ∧ r.setCookies ≠ []) ∧
      Bound ownPool := by
  have hrun : (oauthSystem oauthSite).Run (fun _ _ => True) (.init oauthState) ownPool :=
    .of_acts .refl (fun _ _ _ => trivial) (Option.some_get rfl).symm
  exact ⟨rfl, ⟨_, rfl, List.cons_ne_nil _ _⟩, bound_of_own hrun rfl ownPool_own⟩

/-- The only flow was begun by browser 1. -/
theorem eq_one_of_issuedTo {other : Nat} {state : String} (h : IssuedTo foreignPool other state) :
    other = 1 := by
  obtain ⟨j, provider, d, hcall, -⟩ := h
  have hreq : (foreignPool.calls.map Call.req)[j]? = some (.start other provider) := by
    rw [List.getElem?_map, hcall]
    rfl
  rw [show foreignPool.calls.map Call.req =
    [.start 1 "google", .callback 2 sharedQuery navigation] from rfl] at hreq
  rcases j with _ | _ | j <;> cases hreq
  rfl

/-- A browser that follows the callback of another is signed in to the session of that flow. -/
theorem foreign_callback :
    ∃ p : HttpPool Unit Drawn (Nat × Nat) Nat,
      (oauthSystem oauthSite).Run (fun _ _ => True) (.init oauthState) p ∧
        p.Returned 0 (.start 1 "google")
          (redirectTo "https://accounts.example.com/authorize?state=s") ∧
        p.Returned 1 (.callback 2 sharedQuery navigation) signedInResponse ∧ ¬ Bound p := by
  refine ⟨foreignPool, .of_acts .refl (fun _ _ _ => trivial) (Option.some_get rfl).symm, rfl, rfl,
    fun hbound => ?_⟩
  obtain ⟨state, -, hissued⟩ := hbound 1 2 sharedQuery navigation signedInResponse rfl (by
    exact List.cons_ne_nil _ _)
  have hone : (2 : Nat) = 1 := eq_one_of_issuedTo hissued
  exact absurd hone (by decide)

end AuthApp.Http
