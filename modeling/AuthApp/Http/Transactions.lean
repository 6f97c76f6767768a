import AuthApp.Http.Gate
import AuthApp.Http.Logout
import AuthApp.Payments.Fake
import AuthApp.Payments.Service

/-!
# Http — the protected mutations

`POST /transactions/{id}/refund`, behind the session middleware and the role middleware, and
`POST /auth/logout`, behind the first of them.

* `gated`: what either does, it does for a request that has passed its gate.
-/

namespace AuthApp.Http
open Interleave Pool Accounts Sessions Audit Payments

variable {π υ : Type}

structure RefundOut where
  status : String
  deriving DecidableEq, Repr

/-- Refund a payment in full, and answer its new status. -/
def refundTransaction (id : String) : Prog paySig (JsonResponse RefundOut) := do
  match ← PaymentsService.refund ⟨id⟩ with
  | .ok outcome =>
      return {
        status := 200
        error := none
        location := none
        setCookies := []
        body := some ⟨outcome.status.asStr⟩ }
  | .error .notFound => return { ApiError.notFound "No such transaction." with }
  | .error (.notRefundable _) | .error .noProviderReference | .error .conflict =>
      return { ApiError.conflict "not_refundable"
        "This payment is not in a refundable state." with }
  | .error (.provider (.rejected _)) =>
      return { ApiError.new 422 "provider_rejected"
        "The payment provider declined the refund." with }
  | .error (.provider (.unavailable _)) =>
      return { ApiError.badGateway "provider_unavailable"
        "The payment provider is unavailable. Please try again." with }
  | .error (.backend _) => return { ApiError.internal with }

/-- A refund as the server receives it: the id in its path, and the request. -/
structure RefundRequest where
  id : String
  request : Request
  deriving DecidableEq

/-- `POST /transactions/{id}/refund`: the role is checked inside the session. -/
def refundRoute (policy : SessionPolicy) (req : RefundRequest) :
    Prog (sessionSig.sum paySig) (JsonResponse RefundOut) :=
  requireSessionAs policy req.request (fun response => { response with }) fun current =>
    requireRole Role.admin (some current) (fun response => { response with })
      (refundTransaction req.id).inr

abbrev refundSystem (policy : SessionPolicy) (G : SessionTokenGenerator υ)
    (P : PaymentProvider π) :
    System (sessionSig.sum paySig) (SessionDb υ × PayDb π) RefundRequest (JsonResponse RefundOut)
      Fate (SessionDb υ × PayDb π → SessionDb υ × PayDb π) :=
  gateSystem G (PayDb.exec P) (refundRoute policy)

abbrev logoutSystem (policy : SessionPolicy) (G : SessionTokenGenerator υ) :
    System (sessionSig.sum auditSig) (SessionDb υ × AuditDb) Request Response Fate
      (SessionDb υ × AuditDb → SessionDb υ × AuditDb) :=
  gateSystem G AuditDb.exec (logout policy)

theorem refundRoute_trace (policy : SessionPolicy) (req : RefundRequest)
    (hpost : req.request.method = .post) :
    Prog.Always (fun past p => GatePoint policy (some Role.admin) req.request
        (fun response : JsonResponse RefundOut => response.status) past p.head) []
      (refundRoute policy req) := by
  rw [refundRoute]
  apply requireSession_trace hpost
  · exact fun _ => rfl
  intro token session past hpassed
  rw [requireRole]
  by_cases hrole : session.role = Role.admin
  · rw [if_pos (by simp [hrole])]
    refine Passed.always ⟨token, session, hpassed, fun role hm => ?_⟩
    rw [hrole]
    exact Option.some.inj hm
  · rw [if_neg (by simp [hrole])]
    exact Or.inr (.inl ⟨_, rfl, .inr rfl⟩)

theorem logout_trace (policy : SessionPolicy) (request : Request)
    (hpost : request.method = .post) :
    Prog.Always (fun past p => GatePoint policy none request Response.status past p.head) []
      (logout policy request) := by
  rw [logout, requireSession_eq]
  refine requireSession_trace hpost (fun _ => rfl) fun token session past hpassed => ?_
  exact Passed.always ⟨token, session, hpassed, fun role hm => absurd hm (Option.not_mem_none role)⟩

/-- **Protected mutations.** In every interleaving, from every state of the stores and whatever
happens to them, a posted refund or logout does nothing but authenticate itself unless its session
was stored and live, its header is the CSRF token, and, for a refund, its role is `admin`. -/
theorem gated (policy : SessionPolicy) (G : SessionTokenGenerator υ) (P : PaymentProvider π) :
    (∀ s p, (refundSystem policy G P).Run (fun _ _ => True) (.init s) p →
      Gated policy (some Role.admin) RefundRequest.request (fun response => response.status) p) ∧
    ∀ s p, (logoutSystem policy G).Run (fun _ _ => True) (.init s) p →
      Gated policy none id Response.status p :=
  ⟨fun _ _ h => gated_of_trace h (refundRoute_trace policy),
    fun _ _ h => gated_of_trace h (logout_trace policy)⟩

/-- The administrator who is signed in, and a captured payment that the provider knows. -/
def refundState : SessionDb (Nat × Nat) × PayDb FakePaymentProvider :=
  (signedIn, .single (samplePayment .captured) []
    (FakePaymentProvider.new.put ⟨"pi_1"⟩ ⟨.euros 2500, .captured⟩) 0)

def adminRefund : Pool (sessionSig.sum paySig) (SessionDb (Nat × Nat) × PayDb FakePaymentProvider)
    RefundRequest (JsonResponse RefundOut) :=
  ((refundSystem .recommended unaryTokens.generator FakePaymentProvider.port).acts
    (.start ⟨"pay_1", logoutRequest⟩ :: List.replicate 7 (.step 0 .served))
    (.init refundState)).get rfl

def adminLogout : Pool (sessionSig.sum auditSig) (SessionDb (Nat × Nat) × AuditDb) Request
    Response :=
  ((logoutSystem .recommended unaryTokens.generator).acts
    (.start logoutRequest :: List.replicate 6 (.step 0 .served))
    (.init (signedIn, noEvents))).get rfl

/-- The gate opens to an administrator with the right header, who refunds a payment and logs
out. -/
theorem admin_opens :
    Opened .recommended (some Role.admin) logoutRequest 0 adminRefund.log ∧
      Opened .recommended none logoutRequest 0 adminLogout.log := by
  obtain ⟨hrefund, hlogout⟩ :=
    gated .recommended unaryTokens.generator FakePaymentProvider.port
  constructor
  · have hgated := hrefund _ adminRefund
      (.of_acts .refl (fun _ _ _ => trivial) (Option.some_get rfl).symm)
    have hret : adminRefund.Returned 0 ⟨"pay_1", logoutRequest⟩
      ⟨⟨200, none, none, []⟩, some ⟨"refunded"⟩, [], none⟩ := rfl
    exact (hgated.answers _ _ _ hret rfl).resolve_left (by decide)
  · have hgated := hlogout _ adminLogout
      (.of_acts .refl (fun _ _ _ => trivial) (Option.some_get rfl).symm)
    have hret : adminLogout.Returned 0 logoutRequest
      ⟨204, none, none, clearSessionCookies⟩ := rfl
    exact (hgated.answers _ _ _ hret rfl).resolve_left (by decide)

end AuthApp.Http
