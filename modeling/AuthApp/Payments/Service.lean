import AuthApp.Interleave.Rules
import AuthApp.Payments.Store

/-!
# Payments — the services

`PaymentsService::list`, `get` and `refund`, `WebhookService::handle` and
`PgPaymentRepository::insert`, each as a program over the calls of the store, and the delivery
layer's reading of a webhook's outcome.
-/

namespace AuthApp.Payments
open Interleave

/-! ### The ports, as programs -/

namespace PaymentRepository

/-- Two statements, with no transaction around them. -/
def insert (payment : NewPayment) : Prog paySig (Except PaymentRepositoryError PaymentId) := do
  match ← Prog.perform (S := paySig) (.insertPaymentRow payment) with
  | .error e => return .error e
  | .ok id =>
      match ← Prog.perform (S := paySig) (.insertHistoryRow id payment.createdAt) with
      | .error e => return .error e
      | .ok () => return .ok id

def find (id : PaymentId) : Prog paySig (Except PaymentRepositoryError (Option Payment)) :=
  Prog.perform (S := paySig) (.find id)

def findByProviderReference (reference : ProviderReference) :
    Prog paySig (Except PaymentRepositoryError (Option Payment)) :=
  Prog.perform (S := paySig) (.findByProviderReference reference)

def setProviderReference (id : PaymentId) (reference : ProviderReference) :
    Prog paySig (Except PaymentRepositoryError Unit) :=
  Prog.perform (S := paySig) (.setProviderReference id reference)

def transition (id : PaymentId) (expectedCurrent next : PaymentStatus) (reason : Option String)
    (occurredAt : Int) : Prog paySig (Except PaymentRepositoryError Unit) :=
  Prog.perform (S := paySig) (.transition id expectedCurrent next reason occurredAt)

def history (id : PaymentId) :
    Prog paySig (Except PaymentRepositoryError (List PaymentStatusChange)) :=
  Prog.perform (S := paySig) (.history id)

def list (query : PaymentQuery) : Prog paySig (Except PaymentRepositoryError (List Payment)) :=
  Prog.perform (S := paySig) (.list query)

def count (query : PaymentQuery) : Prog paySig (Except PaymentRepositoryError Nat) :=
  Prog.perform (S := paySig) (.count query)

end PaymentRepository

namespace WebhookEventStore

def recordRejected (payload : List UInt8) (signature : Option String) (reason : String) :
    Prog paySig (Except WebhookStoreError Unit) :=
  Prog.perform (S := paySig) (.recordRejected payload signature reason)

def recordAndClaim (eventId : String) (payload : List UInt8) :
    Prog paySig (Except WebhookStoreError Bool) :=
  Prog.perform (S := paySig) (.recordAndClaim eventId payload)

end WebhookEventStore

/-- `SystemTime::now()`. -/
def systemNow : Prog paySig Int := Prog.perform (S := paySig) .now

/-! ### Views -/

/-- One page of payments, and how many match across all pages. -/
structure PaymentPage where
  items : List Payment
  total : Nat
  deriving DecidableEq

/-- A payment with its history, oldest first. -/
structure PaymentWithHistory where
  payment : Payment
  history : List PaymentStatusChange
  deriving DecidableEq

namespace PaymentsService

/-- Count, then read the page: two statements, with no transaction around them. -/
def list (query : PaymentQuery) : Prog paySig (Except PaymentRepositoryError PaymentPage) := do
  match ← PaymentRepository.count query with
  | .error e => return .error e
  | .ok total =>
      match ← PaymentRepository.list query with
      | .error e => return .error e
      | .ok items => return .ok ⟨items, total⟩

/-- The payment, then its history: two statements again. -/
def get (id : PaymentId) :
    Prog paySig (Except PaymentRepositoryError (Option PaymentWithHistory)) := do
  match ← PaymentRepository.find id with
  | .error e => return .error e
  | .ok none => return .ok none
  | .ok (some payment) =>
      match ← PaymentRepository.history id with
      | .error e => return .error e
      | .ok history => return .ok (some ⟨payment, history⟩)

end PaymentsService

/-! ### Refunds -/

structure RefundOutcome where
  status : PaymentStatus
  deriving DecidableEq, Repr

inductive RefundError where
  | notFound
  | notRefundable (status : PaymentStatus)
  | noProviderReference
  | provider (e : ProviderError)
  | conflict
  | backend (msg : String)
  deriving DecidableEq, Repr

namespace PaymentsService

/-- Refund a payment in full. -/
def refund (id : PaymentId) : Prog paySig (Except RefundError RefundOutcome) := do
  match ← PaymentRepository.find id with
  | .error e => return .error (.backend e.display)
  | .ok none => return .error .notFound
  | .ok (some payment) =>
      if payment.status ≠ .captured ∧ payment.status ≠ .partiallyRefunded then
        return .error (.notRefundable payment.status)
      else
        match payment.providerReference with
        | none => return .error .noProviderReference
        | some reference =>
            -- money moves here
            match ← Prog.perform (S := paySig) (.refund reference payment.amount) with
            | .error e => return .error (.provider e)
            | .ok intent =>
                if payment.status.canTransitionTo intent.status then
                  let now ← systemNow
                  match ← PaymentRepository.transition payment.id payment.status intent.status
                      (some "admin_refund") now with
                  | .ok () => return .ok ⟨intent.status⟩
                  | .error .conflict => return .error .conflict
                  | .error e => return .error (.backend e.display)
                else
                  return .error (.notRefundable payment.status)

end PaymentsService

/-! ### Webhooks -/

inductive WebhookOutcome where
  | processed
  | ignored
  | duplicate
  | rejected
  | error (msg : String)
  deriving DecidableEq, Repr

def WebhookError.reason : WebhookError → String
  | .invalidSignature => "invalid_signature"
  | .malformed _ => "malformed"

namespace WebhookService

/-- Handle one raw webhook: the bytes received, and the signature header. -/
def handle (verifier : WebhookVerifier) (payload : List UInt8) (signature : Option String) :
    Prog paySig WebhookOutcome := do
  match verifier.verify payload signature with
  | .error err =>
      -- a failure to record the rejection is only logged
      let _ ← WebhookEventStore.recordRejected payload signature err.reason
      return .rejected
  | .ok event =>
      match ← WebhookEventStore.recordAndClaim event.eventId payload with
      | .error e => return .error e.display
      | .ok false => return .duplicate
      | .ok true =>
          match event.reference, event.newStatus with
          | some reference, some next =>
              match ← PaymentRepository.findByProviderReference reference with
              | .error e => return .error e.display
              | .ok none => return .ignored
              | .ok (some payment) =>
                  if payment.status.canTransitionTo next then
                    let now ← systemNow
                    match ← PaymentRepository.transition payment.id payment.status next
                        (some "provider_webhook") now with
                    | .ok () => return .processed
                    | .error .conflict => return .ignored
                    | .error e => return .error e.display
                  else
                    return .ignored
          | _, _ => return .ignored

end WebhookService

/-- Any number of requests in flight, each a program over the calls of the store. -/
def paySystem {π ι α : Type} (P : PaymentProvider π) (code : ι → Prog paySig α) :
    System paySig (PayDb π) ι α Fate PayEnv where
  code := code
  exec := PayDb.exec P
  env := PayEnv.act

/-- The status code `POST /payments/webhooks` answers. -/
def WebhookOutcome.statusCode : WebhookOutcome → Nat
  | .processed | .ignored | .duplicate => 200
  | .rejected => 400
  | .error _ => 500

/-! ### What the services do, call by call

Each predicate relates what a call of the service has been answered so far to what it does next.
Every point the code can reach is one of its cases. -/

/-- The points of `PgPaymentRepository::insert`. -/
inductive InsertTrace (payment : NewPayment) :
    List (Reply paySig) → Head paySig (Except PaymentRepositoryError PaymentId) → Prop where
  | start : InsertTrace payment [] (.call (.insertPaymentRow payment))
  | noRow (e : PaymentRepositoryError) :
      InsertTrace payment [⟨.insertPaymentRow payment, .error e⟩] (.ret (.error e))
  | row (id : PaymentId) :
      InsertTrace payment [⟨.insertPaymentRow payment, .ok id⟩]
        (.call (.insertHistoryRow id payment.createdAt))
  | noHistory (id : PaymentId) (e : PaymentRepositoryError) :
      InsertTrace payment
        [⟨.insertPaymentRow payment, .ok id⟩,
          ⟨.insertHistoryRow id payment.createdAt, .error e⟩]
        (.ret (.error e))
  | done (id : PaymentId) :
      InsertTrace payment
        [⟨.insertPaymentRow payment, .ok id⟩, ⟨.insertHistoryRow id payment.createdAt, .ok ()⟩]
        (.ret (.ok id))

theorem insert_trace (payment : NewPayment) :
    Prog.Always (fun past p => InsertTrace payment past p.head) []
      (PaymentRepository.insert payment) := by
  refine ⟨.start, ?_⟩
  rintro (e | id)
  · exact .noRow e
  refine ⟨.row id, ?_⟩
  rintro (e | ⟨⟩)
  · exact .noHistory id e
  · exact .done id

/-- The points of `PaymentsService::refund`. -/
inductive RefundTrace (id : PaymentId) :
    List (Reply paySig) → Head paySig (Except RefundError RefundOutcome) → Prop where
  | start : RefundTrace id [] (.call (.find id))
  | findFails (e : PaymentRepositoryError) :
      RefundTrace id [⟨.find id, .error e⟩] (.ret (.error (.backend e.display)))
  | notFound : RefundTrace id [⟨.find id, .ok none⟩] (.ret (.error .notFound))
  | notRefundable (p : Payment) (h : p.status ≠ .captured ∧ p.status ≠ .partiallyRefunded) :
      RefundTrace id [⟨.find id, .ok (some p)⟩] (.ret (.error (.notRefundable p.status)))
  | noReference (p : Payment) (h : p.providerReference = none) :
      RefundTrace id [⟨.find id, .ok (some p)⟩] (.ret (.error .noProviderReference))
  | send (p : Payment) (reference : ProviderReference)
      (hs : p.status = .captured ∨ p.status = .partiallyRefunded)
      (hr : p.providerReference = some reference) :
      RefundTrace id [⟨.find id, .ok (some p)⟩] (.call (.refund reference p.amount))
  | declined (p : Payment) (reference : ProviderReference) (e : ProviderError) :
      RefundTrace id
        [⟨.find id, .ok (some p)⟩, ⟨.refund reference p.amount, .error e⟩]
        (.ret (.error (.provider e)))
  | impossible (p : Payment) (reference : ProviderReference) (intent : ProviderIntent)
      (h : p.status.canTransitionTo intent.status = false) :
      RefundTrace id
        [⟨.find id, .ok (some p)⟩, ⟨.refund reference p.amount, .ok intent⟩]
        (.ret (.error (.notRefundable p.status)))
  | clock (p : Payment) (reference : ProviderReference) (intent : ProviderIntent)
      (h : p.status.canTransitionTo intent.status) :
      RefundTrace id
        [⟨.find id, .ok (some p)⟩, ⟨.refund reference p.amount, .ok intent⟩] (.call .now)
  | write (p : Payment) (reference : ProviderReference) (intent : ProviderIntent) (now : Int)
      (hs : p.status = .captured ∨ p.status = .partiallyRefunded)
      (h : p.status.canTransitionTo intent.status) :
      RefundTrace id
        [⟨.find id, .ok (some p)⟩, ⟨.refund reference p.amount, .ok intent⟩, ⟨.now, now⟩]
        (.call (.transition p.id p.status intent.status (some "admin_refund") now))
  | done (p : Payment) (reference : ProviderReference) (intent : ProviderIntent) (now : Int) :
      RefundTrace id
        [⟨.find id, .ok (some p)⟩, ⟨.refund reference p.amount, .ok intent⟩, ⟨.now, now⟩,
          ⟨.transition p.id p.status intent.status (some "admin_refund") now, .ok ()⟩]
        (.ret (.ok ⟨intent.status⟩))
  | conflict (p : Payment) (reference : ProviderReference) (intent : ProviderIntent)
      (now : Int) :
      RefundTrace id
        [⟨.find id, .ok (some p)⟩, ⟨.refund reference p.amount, .ok intent⟩, ⟨.now, now⟩,
          ⟨.transition p.id p.status intent.status (some "admin_refund") now, .error .conflict⟩]
        (.ret (.error .conflict))
  | writeFails (p : Payment) (reference : ProviderReference) (intent : ProviderIntent)
      (now : Int) (msg : String) :
      RefundTrace id
        [⟨.find id, .ok (some p)⟩, ⟨.refund reference p.amount, .ok intent⟩, ⟨.now, now⟩,
          ⟨.transition p.id p.status intent.status (some "admin_refund") now,
            .error (.backend msg)⟩]
        (.ret (.error (.backend (PaymentRepositoryError.backend msg).display)))

theorem refund_trace (id : PaymentId) :
    Prog.Always (fun past p => RefundTrace id past p.head) [] (PaymentsService.refund id) := by
  refine ⟨.start, ?_⟩
  rintro (e | _ | p)
  · exact .findFails e
  · exact .notFound
  by_cases hs : p.status ≠ .captured ∧ p.status ≠ .partiallyRefunded
  · simp only [Prog.bind_ret, if_pos hs]
    exact .notRefundable p hs
  simp only [Prog.bind_ret, if_neg hs]
  have hs' : p.status = .captured ∨ p.status = .partiallyRefunded := by tauto
  cases hr : p.providerReference with
  | none => exact .noReference p hr
  | some reference =>
      refine ⟨.send p reference hs' hr, ?_⟩
      rintro (e | intent)
      · exact .declined p reference e
      by_cases h : p.status.canTransitionTo intent.status
      · simp only [Prog.bind_ret, if_pos h]
        refine ⟨.clock p reference intent h, fun now => ⟨.write p reference intent now hs' h, ?_⟩⟩
        rintro ((_ | msg) | ⟨⟩)
        · exact .conflict p reference intent now
        · exact .writeFails p reference intent now msg
        · exact .done p reference intent now
      · simp only [Prog.bind_ret, if_neg h]
        exact .impossible p reference intent (by simpa using h)

/-- The points of `WebhookService::handle`. -/
inductive HandleTrace (verifier : WebhookVerifier) (payload : List UInt8)
    (signature : Option String) : List (Reply paySig) → Head paySig WebhookOutcome → Prop where
  | reject (err : WebhookError) (hv : verifier.verify payload signature = .error err) :
      HandleTrace verifier payload signature []
        (.call (.recordRejected payload signature err.reason))
  | rejected (err : WebhookError) (hv : verifier.verify payload signature = .error err)
      (r : Except WebhookStoreError Unit) :
      HandleTrace verifier payload signature [⟨.recordRejected payload signature err.reason, r⟩]
        (.ret .rejected)
  | claim (event : WebhookEvent) (hv : verifier.verify payload signature = .ok event) :
      HandleTrace verifier payload signature [] (.call (.recordAndClaim event.eventId payload))
  | claimFails (event : WebhookEvent) (hv : verifier.verify payload signature = .ok event)
      (e : WebhookStoreError) :
      HandleTrace verifier payload signature [⟨.recordAndClaim event.eventId payload, .error e⟩]
        (.ret (.error e.display))
  | duplicate (event : WebhookEvent) (hv : verifier.verify payload signature = .ok event) :
      HandleTrace verifier payload signature
        [⟨.recordAndClaim event.eventId payload, .ok false⟩] (.ret .duplicate)
  | unmapped (event : WebhookEvent) (hv : verifier.verify payload signature = .ok event)
      (h : event.reference = none ∨ event.newStatus = none) :
      HandleTrace verifier payload signature
        [⟨.recordAndClaim event.eventId payload, .ok true⟩] (.ret .ignored)
  | lookup (event : WebhookEvent) (hv : verifier.verify payload signature = .ok event)
      (reference : ProviderReference) (next : PaymentStatus)
      (hr : event.reference = some reference) (hn : event.newStatus = some next) :
      HandleTrace verifier payload signature
        [⟨.recordAndClaim event.eventId payload, .ok true⟩]
        (.call (.findByProviderReference reference))
  | lookupFails (event : WebhookEvent) (hv : verifier.verify payload signature = .ok event)
      (reference : ProviderReference) (e : PaymentRepositoryError) :
      HandleTrace verifier payload signature
        [⟨.recordAndClaim event.eventId payload, .ok true⟩,
          ⟨.findByProviderReference reference, .error e⟩]
        (.ret (.error e.display))
  | unknown (event : WebhookEvent) (hv : verifier.verify payload signature = .ok event)
      (reference : ProviderReference) :
      HandleTrace verifier payload signature
        [⟨.recordAndClaim event.eventId payload, .ok true⟩,
          ⟨.findByProviderReference reference, .ok none⟩]
        (.ret .ignored)
  | illegal (event : WebhookEvent) (hv : verifier.verify payload signature = .ok event)
      (reference : ProviderReference) (next : PaymentStatus) (p : Payment)
      (hr : event.reference = some reference) (hn : event.newStatus = some next)
      (h : p.status.canTransitionTo next = false) :
      HandleTrace verifier payload signature
        [⟨.recordAndClaim event.eventId payload, .ok true⟩,
          ⟨.findByProviderReference reference, .ok (some p)⟩]
        (.ret .ignored)
  | clock (event : WebhookEvent) (hv : verifier.verify payload signature = .ok event)
      (reference : ProviderReference) (next : PaymentStatus) (p : Payment)
      (hr : event.reference = some reference) (hn : event.newStatus = some next)
      (h : p.status.canTransitionTo next) :
      HandleTrace verifier payload signature
        [⟨.recordAndClaim event.eventId payload, .ok true⟩,
          ⟨.findByProviderReference reference, .ok (some p)⟩]
        (.call .now)
  | write (event : WebhookEvent) (hv : verifier.verify payload signature = .ok event)
      (reference : ProviderReference) (next : PaymentStatus) (p : Payment) (now : Int)
      (hr : event.reference = some reference) (hn : event.newStatus = some next)
      (h : p.status.canTransitionTo next) :
      HandleTrace verifier payload signature
        [⟨.recordAndClaim event.eventId payload, .ok true⟩,
          ⟨.findByProviderReference reference, .ok (some p)⟩, ⟨.now, now⟩]
        (.call (.transition p.id p.status next (some "provider_webhook") now))
  | processed (event : WebhookEvent) (hv : verifier.verify payload signature = .ok event)
      (reference : ProviderReference) (next : PaymentStatus) (p : Payment) (now : Int)
      (hr : event.reference = some reference) (hn : event.newStatus = some next)
      (h : p.status.canTransitionTo next) :
      HandleTrace verifier payload signature
        [⟨.recordAndClaim event.eventId payload, .ok true⟩,
          ⟨.findByProviderReference reference, .ok (some p)⟩, ⟨.now, now⟩,
          ⟨.transition p.id p.status next (some "provider_webhook") now, .ok ()⟩]
        (.ret .processed)
  | conflict (event : WebhookEvent) (hv : verifier.verify payload signature = .ok event)
      (reference : ProviderReference) (next : PaymentStatus) (p : Payment) (now : Int)
      (hr : event.reference = some reference) (hn : event.newStatus = some next)
      (h : p.status.canTransitionTo next) :
      HandleTrace verifier payload signature
        [⟨.recordAndClaim event.eventId payload, .ok true⟩,
          ⟨.findByProviderReference reference, .ok (some p)⟩, ⟨.now, now⟩,
          ⟨.transition p.id p.status next (some "provider_webhook") now, .error .conflict⟩]
        (.ret .ignored)
  | writeFails (event : WebhookEvent) (hv : verifier.verify payload signature = .ok event)
      (reference : ProviderReference) (next : PaymentStatus) (p : Payment) (now : Int)
      (msg : String) :
      HandleTrace verifier payload signature
        [⟨.recordAndClaim event.eventId payload, .ok true⟩,
          ⟨.findByProviderReference reference, .ok (some p)⟩, ⟨.now, now⟩,
          ⟨.transition p.id p.status next (some "provider_webhook") now,
            .error (.backend msg)⟩]
        (.ret (.error (PaymentRepositoryError.backend msg).display))

theorem handle_trace (verifier : WebhookVerifier) (payload : List UInt8)
    (signature : Option String) :
    Prog.Always (fun past p => HandleTrace verifier payload signature past p.head) []
      (WebhookService.handle verifier payload signature) := by
  rw [WebhookService.handle]
  cases hv : verifier.verify payload signature with
  | error err => exact ⟨.reject err hv, fun r => .rejected err hv r⟩
  | ok event =>
      refine ⟨.claim event hv, ?_⟩
      rintro (e | _ | _)
      · exact .claimFails event hv e
      · exact .duplicate event hv
      cases hr : event.reference with
      | none => exact .unmapped event hv (.inl hr)
      | some reference =>
          cases hn : event.newStatus with
          | none => exact .unmapped event hv (.inr hn)
          | some next =>
              refine ⟨.lookup event hv reference next hr hn, ?_⟩
              rintro (e | _ | p)
              · exact .lookupFails event hv reference e
              · exact .unknown event hv reference
              by_cases h : p.status.canTransitionTo next
              · simp only [Prog.bind_ret, if_pos h]
                refine ⟨.clock event hv reference next p hr hn h, fun now =>
                  ⟨.write event hv reference next p now hr hn h, ?_⟩⟩
                rintro ((_ | msg) | ⟨⟩)
                · exact .conflict event hv reference next p now hr hn h
                · exact .writeFails event hv reference next p now msg
                · exact .processed event hv reference next p now hr hn h
              · simp only [Prog.bind_ret, if_neg h]
                exact .illegal event hv reference next p hr hn (by simpa using h)

end AuthApp.Payments
