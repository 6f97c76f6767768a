import AuthApp.Payments.Frames

/-!
# Payments — the whole context

Every request the payments context serves, in one system: payments are inserted, references are
attached to them, webhooks are delivered and refunds are issued, all interleaved.

* `request_trace`: the points of every request.
* `AttachesInserted`: references are attached only to payments whose insert has returned.
-/

namespace AuthApp.Payments
open Interleave Pool

inductive PayRequest where
  | insert (payment : NewPayment)
  | setProviderReference (id : PaymentId) (reference : ProviderReference)
  | deliver (verifier : WebhookVerifier) (payload : List UInt8) (signature : Option String)
  | refund (id : PaymentId)

inductive PayResponse where
  | inserted (r : Except PaymentRepositoryError PaymentId)
  | attached (r : Except PaymentRepositoryError Unit)
  | handled (outcome : WebhookOutcome)
  | refunded (r : Except RefundError RefundOutcome)

/-- The program behind each request. -/
def PayRequest.code : PayRequest → Prog paySig PayResponse
  | .insert payment => (PaymentRepository.insert payment).map .inserted
  | .setProviderReference id reference =>
      (PaymentRepository.setProviderReference id reference).map .attached
  | .deliver verifier payload signature =>
      (WebhookService.handle verifier payload signature).map .handled
  | .refund id => (PaymentsService.refund id).map .refunded

/-- The points of `PgPaymentRepository::set_provider_reference`. -/
inductive AttachTrace (id : PaymentId) (reference : ProviderReference) :
    List (Reply paySig) → Head paySig (Except PaymentRepositoryError Unit) → Prop where
  | start : AttachTrace id reference [] (.call (.setProviderReference id reference))
  | done (r : Except PaymentRepositoryError Unit) :
      AttachTrace id reference [⟨.setProviderReference id reference, r⟩] (.ret r)

theorem attach_trace (id : PaymentId) (reference : ProviderReference) :
    Prog.Always (fun past p => AttachTrace id reference past p.head) []
      (PaymentRepository.setProviderReference id reference) :=
  ⟨.start, fun r => .done r⟩

/-- The points of a request: those of its service. -/
def RequestTrace : PayRequest → List (Reply paySig) → Head paySig PayResponse → Prop
  | .insert payment, past, head => ∃ h, InsertTrace payment past h ∧ head = h.map .inserted
  | .setProviderReference id reference, past, head =>
      ∃ h, AttachTrace id reference past h ∧ head = h.map .attached
  | .deliver verifier payload signature, past, head =>
      ∃ h, HandleTrace verifier payload signature past h ∧ head = h.map .handled
  | .refund id, past, head => ∃ h, RefundTrace id past h ∧ head = h.map .refunded

theorem request_trace (req : PayRequest) :
    Prog.Always (fun past p => RequestTrace req past p.head) [] req.code := by
  cases req with
  | insert payment => exact (insert_trace payment).map _
  | setProviderReference id reference => exact (attach_trace id reference).map _
  | deliver verifier payload signature => exact (handle_trace verifier payload signature).map _
  | refund id => exact (refund_trace id).map _

/-- The payments context. -/
abbrev payContext {π : Type} (P : PaymentProvider π) :
    System paySig (PayDb π) PayRequest PayResponse Fate PayEnv :=
  paySystem P PayRequest.code

/-- A reference is attached only to a payment whose insert has returned its id. -/
def AttachesInserted {π : Type} (q : Pool paySig (PayDb π) PayRequest PayResponse) :
    Act PayRequest Fate PayEnv → Prop
  | .start (.setProviderReference id _) =>
      ∃ i payment, q.Returned i (.insert payment) (.inserted (.ok id))
  | _ => True

end AuthApp.Payments
