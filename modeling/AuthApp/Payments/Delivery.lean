import AuthApp.Payments.Frames

/-!
# Payments — one delivery

A webhook delivery that runs alone, with storage healthy, is a function of the state: the event
id is claimed, and a fresh event is applied (`receive`) to the payment its reference names.

* `deliver_eq`: the delivery of a verified event, computed.
-/

namespace AuthApp.Payments
open Interleave

variable {π : Type}

/-- The verifier for which one body, with one signature, is genuine. -/
def WebhookVerifier.only (payload : List UInt8) (signature : String) (event : WebhookEvent) :
    WebhookVerifier :=
  ⟨fun p s => if p = payload ∧ s = some signature then .ok event else .error .invalidSignature⟩

/-- The delivery of `payload`, alone and with storage healthy. -/
def deliver (verifier : WebhookVerifier) (P : PaymentProvider π) (payload : List UInt8)
    (signature : Option String) (db : PayDb π) : WebhookOutcome × PayDb π :=
  (WebhookService.handle verifier payload signature).run (PayDb.serve P) db

/-- What a claimed event does: the status it reports is written if the payment is known and may
move there. -/
def receive (event : WebhookEvent) (db : PayDb π) : WebhookOutcome × PayDb π :=
  match event.reference, event.newStatus with
  | some reference, some next =>
      match db.payments.findByProviderReference reference with
      | none => (.ignored, db)
      | some row =>
          if row.status.canTransitionTo next then
            (.processed,
              (db.transition row.id row.status next (some "provider_webhook") db.clock).2)
          else (.ignored, db)
  | _, _ => (.ignored, db)

/-- The state in which the event id is claimed. -/
def PayDb.claim (db : PayDb π) (eventId : String) (payload : List UInt8) : PayDb π :=
  { db with webhookEvents := (db.webhookEvents.claim eventId payload).2 }

theorem PaymentTable.find_of_reference {t : PaymentTable} {reference : ProviderReference}
    {row : PaymentRow} (h : t.findByProviderReference reference = some row) :
    t.find row.id = some row ∧ row.providerReference = some reference :=
  ⟨Table.find?_of_mem (Table.findBy?_eq_some h).1, (Table.findBy?_eq_some h).2⟩

theorem toEpoch_natCast (t : Nat) : toEpoch t = some ((t / nanosPerSec : Nat) : Int) := by
  rw [toEpoch, if_pos (Int.natCast_nonneg t)]
  rfl

theorem PayDb.transition_ok {db : PayDb π} {id : PaymentId} {row : PaymentRow}
    (h : db.payments.find id = some row) (next : PaymentStatus) (reason : Option String)
    (now : Nat) :
    db.transition id row.status next reason now =
      (.ok (), db.write id row.status next reason ((now / nanosPerSec : Nat) : Int)) := by
  simp [transition, h, toEpoch_natCast]

section
variable {verifier : WebhookVerifier} {P : PaymentProvider π} {payload : List UInt8}
  {signature : Option String} {db : PayDb π} {event : WebhookEvent}

/-- **One delivery.** -/
theorem deliver_eq (hv : verifier.verify payload signature = .ok event) :
    deliver verifier P payload signature db =
      if db.webhookEvents.Claimed event.eventId then (.duplicate, db)
      else receive event (db.claim event.eventId payload) := by
  have hc : PayDb.serve P (.recordAndClaim event.eventId payload) db =
      (.ok (db.webhookEvents.claim event.eventId payload).1, db.claim event.eventId payload) :=
    rfl
  rw [deliver, WebhookService.handle, hv]
  change Prog.run (S := paySig) _ (.call (.recordAndClaim event.eventId payload) _) db = _
  rw [Prog.run_call, hc]
  by_cases h : db.webhookEvents.Claimed event.eventId
  · rw [if_pos h, PayDb.claim, WebhookTable.claim_of_claimed h]
    rfl
  rw [if_neg h, (WebhookTable.claim_fst db.webhookEvents event.eventId payload).mpr h]
  generalize db.claim event.eventId payload = db'
  rw [receive]
  cases event.reference with
  | none => rfl
  | some reference =>
      cases event.newStatus with
      | none => rfl
      | some next =>
          have hl : PayDb.serve P (.findByProviderReference reference) db' =
              (.ok ((db'.payments.findByProviderReference reference).map rowToPayment), db') := rfl
          change Prog.run (S := paySig) _ (.call (.findByProviderReference reference) _) db' = _
          rw [Prog.run_call, hl]
          dsimp only
          cases hf : db'.payments.findByProviderReference reference with
          | none => rfl
          | some row =>
              by_cases hn : row.status.canTransitionTo next
              · have hw := PayDb.transition_ok (PaymentTable.find_of_reference hf).1 next
                  (some "provider_webhook") db'.clock
                simp only [Option.map_some, Prog.bind_ret, rowToPayment, hn, if_true]
                change Prog.run (S := paySig) _ (.call .now fun now => .call
                  (.transition row.id row.status next (some "provider_webhook") now) _) db' = _
                rw [Prog.run_call, Prog.run_call, PayDb.serve, PayDb.serve, hw]
                rfl
              · simp only [Option.map_some, Prog.bind_ret, rowToPayment, hn]
                rfl

theorem deliver_of_claimed (hv : verifier.verify payload signature = .ok event)
    (h : db.webhookEvents.Claimed event.eventId) :
    deliver verifier P payload signature db = (.duplicate, db) := by
  rw [deliver_eq hv, if_pos h]

theorem receive_ne_duplicate (event : WebhookEvent) (db : PayDb π) :
    (receive event db).1 ≠ .duplicate := by
  rw [receive]
  split
  · split
    · simp
    · split <;> simp
  · simp

/-- Only an event seen before is a duplicate. -/
theorem deliver_duplicate_iff (hv : verifier.verify payload signature = .ok event) :
    (deliver verifier P payload signature db).1 = .duplicate ↔
      db.webhookEvents.Claimed event.eventId := by
  rw [deliver_eq hv]
  by_cases h : db.webhookEvents.Claimed event.eventId
  · simp [h]
  · simp [h, receive_ne_duplicate]

end

end AuthApp.Payments
