import AuthApp.Http.AuditTrail
import AuthApp.Http.Reads
import AuthApp.Http.Transactions
import AuthApp.Interleave.Along
import AuthApp.Payments.Authentic

/-!
# Http — the server

Every route of `api::router` behind the layers it is mounted with, as one system: any number of
requests of any kind are in flight, and any call of theirs may fail.
-/

namespace AuthApp.Http
open Interleave Accounts Sessions Audit Payments

variable {ι τ υ π : Type}

/-! ### The calls -/

/-- The calls of the routes: those of signing in, of the payments, and of the reads. -/
abbrev serverSig : Sig := signInSig.sum (paySig.sum viewSig)

abbrev authOp (op : AuthOp) : serverSig.Op := .inl (.inr (.inl (.inl op)))

abbrev sessionOp (op : SessionOp) : serverSig.Op := .inl (.inr (.inr (.inl op)))

abbrev auditOp (op : AuditOp) : serverSig.Op := .inl (.inr (.inr (.inr op)))

abbrev payOp (op : PayOp) : serverSig.Op := .inr (.inl op)

abbrev viewOp (op : ViewOp) : serverSig.Op := .inr (.inr op)

abbrev limitOp (op : LimitOp) : serverSig.Op := .inl (.inl op)

abbrev flowOp (op : FlowOp) : serverSig.Op := .inl (.inr (.inl (.inr op)))

def limitHom : limitSig.Hom serverSig := ⟨limitOp, fun _ => Equiv.refl _⟩

def authHom : authSig.Hom serverSig := ⟨authOp, fun _ => Equiv.refl _⟩

def flowHom : (⟨FlowOp, FlowOp.Ans⟩ : Sig).Hom serverSig := ⟨flowOp, fun _ => Equiv.refl _⟩

def sessionHom : sessionSig.Hom serverSig := ⟨sessionOp, fun _ => Equiv.refl _⟩

def auditHom : auditSig.Hom serverSig := ⟨auditOp, fun _ => Equiv.refl _⟩

def payHom : paySig.Hom serverSig := ⟨payOp, fun _ => Equiv.refl _⟩

def viewHom : viewSig.Hom serverSig := ⟨viewOp, fun _ => Equiv.refl _⟩

def httpHom : httpSig.Hom serverSig := (authHom.elim flowHom).elim (sessionHom.elim auditHom)

def signInHom : signInSig.Hom serverSig := limitHom.elim httpHom

/-! ### The routes -/

/-- Where a request is sent, with what its handler reads of it besides the headers.  A login body is
the one the extractor hands over, or the status that it refuses the request with.  A delivery comes
with the instant at which it is verified. -/
inductive Endpoint where
  | health
  | ready
  | login (body : Except Nat LoginBody)
  | logout
  | me
  | auditEvents (limit : Option Int)
  | oauthProviders
  | oauthStart (provider : String)
  | oauthCallback (query : CallbackQuery)
  | webhook (now : Int) (payload : List UInt8) (signature : Option String)
  | transactions (params : ListParams)
  | transaction (id : String)
  | refund (id : String)

structure ServerRequest where
  endpoint : Endpoint
  http : Request

/-- What a handler answers in its body. -/
inductive Body where
  | login (body : LoginOk)
  | me (body : MeOut)
  | events (body : List EventOut)
  | providers (ids : List String)
  | page (body : TransactionPage)
  | detail (body : TransactionDetailOut)
  | refund (body : RefundOut)
  deriving DecidableEq

abbrev ServerResponse := JsonResponse Body

def JsonResponse.mapBody {β γ : Type} (f : β → γ) (r : JsonResponse β) : JsonResponse γ where
  toResponse := r.toResponse
  body := r.body.map f
  fields := r.fields
  retryAfter := r.retryAfter

/-- A response without a body of its own. -/
def Response.bare {β : Type} (r : Response) : JsonResponse β := { r with }

/-- What the services are built on. -/
structure ServerSite (ι τ υ π : Type) extends SignInSite ι τ υ where
  provider : PaymentProvider π
  verifier (now : Int) : WebhookVerifier
  providerIds : List ProviderId
  order : RecentOrder

/-- The methods a route is mounted for; `get` answers `HEAD` too. -/
inductive Verb where
  | get
  | post
  deriving DecidableEq, Repr

def Verb.accepts : Verb → Method → Bool
  | .get, .get => true
  | .get, .head => true
  | .post, .post => true
  | _, _ => false

/-- The handler, unless the method is another one. -/
def onVerb {S : Sig} {β : Type} (verb : Verb) (method : Method)
    (handler : Prog S (JsonResponse β)) : Prog S (JsonResponse β) :=
  if verb.accepts method then handler else return statusOnly 405

/-- What is behind the session middleware: the role middleware, if the route asks for a role, and
the handler.  It wraps the answer to a wrong method as well. -/
def behindSession {S : Sig} {β : Type} (required : Option Role) (verb : Verb) (http : Request)
    (current : CurrentSession) (handler : Prog S (JsonResponse β)) : Prog S (JsonResponse β) :=
  match required with
  | none => onVerb verb http.method handler
  | some role => requireRole role (some current) Response.bare (onVerb verb http.method handler)

/-- A route behind the session middleware, which is the outer layer. -/
def protectedRoute {T : Sig} {β : Type} (policy : SessionPolicy) (required : Option Role)
    (verb : Verb) (http : Request)
    (handler : CurrentSession → Prog (sessionSig.sum T) (JsonResponse β)) :
    Prog (sessionSig.sum T) (JsonResponse β) :=
  requireSessionAs policy http Response.bare fun current =>
    behindSession required verb http current (handler current)

/-- `POST /payments/webhooks`. -/
def webhookHandler (verifier : WebhookVerifier) (payload : List UInt8)
    (signature : Option String) : Prog paySig ServerResponse :=
  (WebhookService.handle verifier payload signature).map fun outcome =>
    statusOnly outcome.statusCode

/-- `GET /audit/events`: a limit that is no `u32` is refused before the handler. -/
def auditEventsRoute (limit : Option Int) : Prog viewSig (JsonResponse (List EventOut)) :=
  match limit.mapM u32? with
  | none => return statusOnly 400
  | some limit => listEvents limit

/-- The route of an endpoint, with its layers. -/
def Endpoint.route (site : ServerSite ι τ υ π) (http : Request) :
    Endpoint → Prog serverSig ServerResponse
  | .health => onVerb .get http.method livenessHandler
  | .ready => (onVerb .get http.method readinessHandler).along viewHom
  | .login (.error status) => onVerb .post http.method (return statusOnly status)
  | .login (.ok body) =>
      (onVerb .post http.method ((loginHandler site.lockout site.ports.hasher site.policy body
        http).map (JsonResponse.mapBody .login))).along signInHom
  | .logout =>
      (protectedRoute site.policy none .post http fun current =>
        (logoutHandler http current).map Response.bare).along (sessionHom.elim auditHom)
  | .me =>
      (protectedRoute site.policy none .get http fun current =>
        ((meHandler current).map (JsonResponse.mapBody .me)).inr).along (sessionHom.elim viewHom)
  | .auditEvents limit =>
      (protectedRoute site.policy (some .admin) .get http fun _ =>
        ((auditEventsRoute limit).map (JsonResponse.mapBody .events)).inr).along
          (sessionHom.elim viewHom)
  | .oauthProviders =>
      onVerb .get http.method ((providersHandler site.providerIds).map
        (JsonResponse.mapBody .providers))
  | .oauthStart provider =>
      (onVerb .get http.method ((startHandler site.ports.providers site.config provider).map
        Response.bare)).along httpHom
  | .oauthCallback query =>
      (onVerb .get http.method ((callbackHandler site.ports.providers site.policy site.redirects
        query http).map Response.bare)).along httpHom
  | .webhook now payload signature =>
      (onVerb .post http.method (webhookHandler (site.verifier now) payload signature)).along payHom
  | .transactions params =>
      (protectedRoute site.policy none .get http fun _ =>
        ((listRoute params).map (JsonResponse.mapBody .page)).inr).along (sessionHom.elim payHom)
  | .transaction id =>
      (protectedRoute site.policy none .get http fun _ =>
        ((getTransaction id).map (JsonResponse.mapBody .detail)).inr).along
          (sessionHom.elim payHom)
  | .refund id =>
      (protectedRoute site.policy (some .admin) .post http fun _ =>
        ((refundTransaction id).map (JsonResponse.mapBody .refund)).inr).along
          (sessionHom.elim payHom)

/-- The layer for cross-origin requests answers every `OPTIONS` itself. -/
def ServerRequest.code (site : ServerSite ι τ υ π) (req : ServerRequest) :
    Prog serverSig ServerResponse :=
  if req.http.method = .options then return statusOnly 200
  else req.endpoint.route site req.http

/-! ### The system -/

abbrev ServerState (ι τ υ π : Type) := SignInState ι τ υ × PayDb π

namespace ServerState

abbrev auth (s : ServerState ι τ υ π) : AuthDb ι := s.1.2.1.1

abbrev sessions (s : ServerState ι τ υ π) : SessionDb υ := s.1.2.2.1

abbrev audit (s : ServerState ι τ υ π) : AuditDb := s.1.2.2.2

abbrev payments (s : ServerState ι τ υ π) : PayDb π := s.2

end ServerState

abbrev ServerPool (ι τ υ π : Type) :=
  Interleave.Pool serverSig (ServerState ι τ υ π) ServerRequest ServerResponse

/-- A call under a fate. -/
def ServerSite.exec (site : ServerSite ι τ υ π) (fate : Fate) :
    Exec serverSig (ServerState ι τ υ π)
  | .inl op, s => ((site.toSignInSite.exec fate op s.1).1,
      (site.toSignInSite.exec fate op s.1).2, s.2)
  | .inr (.inl op), s => ((PayDb.exec site.provider fate op s.2).1, s.1,
      (PayDb.exec site.provider fate op s.2).2)
  | .inr (.inr op), s => ((viewExec site.order fate op s.1.2).1, s)

/-- The server, among whatever else changes its state. -/
def serverSystem {ε : Type} (site : ServerSite ι τ υ π)
    (env : ε → ServerState ι τ υ π → ServerState ι τ υ π) :
    System serverSig (ServerState ι τ υ π) ServerRequest ServerResponse Fate ε where
  code := ServerRequest.code site
  exec := site.exec
  env := env

/-! ### A small world -/

/-- The site of the sign-ins, with the fake provider of payments. -/
def server : ServerSite Unit Drawn (Nat × Nat) FakePaymentProvider :=
  { signInSite with
    provider := FakePaymentProvider.port
    verifier := StripeWebhookVerifier.verifierAt (.ofSigned succeeded)
    providerIds := [google]
    order := .stable }

/-- Two administrators, nobody signed in, and a captured payment. -/
def serverState : ServerState Unit Drawn (Nat × Nat) FakePaymentProvider :=
  (signInState, refundState.2)

/-- The clocks of the contexts are set. -/
def setClocks (now : Int) (s : ServerState ι τ υ π) : ServerState ι τ υ π :=
  ((s.1.1, setClock now s.1.2), { s.2 with clock := now.toNat })

/-- The administrator signs in. -/
def adminLogin : ServerRequest where
  endpoint := .login (.ok ⟨"root@example.com", "h2"⟩)
  http := { navigation with method := .post }

/-- The administrator signs in, refunds the payment, asks who is signed in, and logs out. -/
def visitActs : List (Act ServerRequest Fate Int) :=
  .start adminLogin :: List.replicate 14 (.step 0 .served) ++
    .start ⟨.refund "pay_1", logoutRequest⟩ :: List.replicate 7 (.step 1 .served) ++
    .start ⟨.me, { logoutRequest with method := .get }⟩ :: List.replicate 4 (.step 2 .served) ++
    .start ⟨.logout, logoutRequest⟩ :: List.replicate 6 (.step 3 .served)

def visit : ServerPool Unit Drawn (Nat × Nat) FakePaymentProvider :=
  ((serverSystem server setClocks).acts visitActs (.init serverState)).get rfl

/-- The session of the visit. -/
def visitRow : SessionRow where
  token := (unaryTokens.session 1).raw
  adminId := ⟨"b"⟩
  role := "admin"
  csrfToken := (unaryTokens.csrf 1).raw
  createdAt := 0
  lastSeenAt := 0
  absoluteExpiresAt := 43200

theorem visit_run :
    (serverSystem server setClocks).Run (fun _ _ => True) (.init serverState) visit :=
  .of_acts .refl (fun _ _ _ => trivial) (Option.some_get rfl).symm

end AuthApp.Http
