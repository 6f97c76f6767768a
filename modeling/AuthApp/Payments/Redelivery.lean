import AuthApp.Payments.Delivery
import AuthApp.Payments.Fake

/-!
# Payments — redelivery

A delivery that gets no 2xx answer is sent again.  `WebhookService::handle` claims the event id
before it acts on the event, so what a redelivery finds depends on whether the first delivery got
as far as the claim.

* `FailedDelivery`: a delivery some call of which failed, or whose process stopped.
* `survives_iff`: a failed delivery leaves no trace on a later redelivery exactly when the event
  was claimed before it, or its claim did not take effect.
-/

namespace AuthApp.Payments
open Interleave

variable {π : Type}

/-- A claim stays, whatever becomes of the calls of a program. -/
theorem claimed_runFates (P : PaymentProvider π) {α : Type} (p : Prog paySig α)
    {eventId : String} (fates : List Fate) {db : PayDb π}
    (h : db.webhookEvents.Claimed eventId) :
    (p.runFates (PayDb.exec P) fates db).2.webhookEvents.Claimed eventId := by
  induction p generalizing fates db with
  | ret a => rwa [Prog.runFates_ret]
  | call op k ih =>
      cases fates with
      | nil => exact h
      | cons fate fates => exact ih _ fates (PayDb.claimed_exec P fate op h)

/-! ### A delivery that fails -/

/-- A delivery of `payload` whose calls meet `fates`, in order, and whose process stops when they
run out; with `answered` false, it stops before the answer goes out. -/
def attempt (verifier : WebhookVerifier) (P : PaymentProvider π) (payload : List UInt8)
    (signature : Option String) (fates : List Fate) (answered : Bool) (db : PayDb π) :
    Option WebhookOutcome × PayDb π :=
  let r := (WebhookService.handle verifier payload signature).runFates (PayDb.exec P) fates db
  (if answered then r.1 else none, r.2)

/-- A 2xx status code. -/
def WebhookOutcome.Confirms (o : WebhookOutcome) : Prop := o.statusCode / 100 = 2

instance : DecidablePred WebhookOutcome.Confirms :=
  fun o => inferInstanceAs (Decidable (o.statusCode / 100 = 2))

/-- A delivery that fails: the provider gets no 2xx answer. -/
structure FailedDelivery (verifier : WebhookVerifier) (P : PaymentProvider π)
    (payload : List UInt8) (signature : Option String) (db : PayDb π) where
  fates : List Fate
  answered : Bool
  fails : ∀ o, (attempt verifier P payload signature fates answered db).1 = some o → ¬ o.Confirms

namespace FailedDelivery
variable {verifier : WebhookVerifier} {P : PaymentProvider π} {payload : List UInt8}
  {signature : Option String} {db : PayDb π} {event : WebhookEvent}

/-- The state a failed delivery leaves. -/
def after (d : FailedDelivery verifier P payload signature db) : PayDb π :=
  (attempt verifier P payload signature d.fates d.answered db).2

/-- The first call of the delivery, the claim of the event id, took effect. -/
def Claims (d : FailedDelivery verifier P payload signature db) : Prop :=
  ∃ fate ∈ d.fates.head?, fate.Lands

/-- The event survives the failed delivery: whatever happens in between, a later delivery of the
same event answers what it would have answered without it, and leaves the payments and their
history as it would have left them. -/
def Survives (d : FailedDelivery verifier P payload signature db) (event : WebhookEvent) : Prop :=
  ∀ (between : PayDb π → PayDb π) (verifier' : WebhookVerifier) (payload' : List UInt8)
    (signature' : Option String), verifier'.verify payload' signature' = .ok event →
      let r := deliver verifier' P payload' signature' (between d.after)
      let r₀ := deliver verifier' P payload' signature' (between db)
      r.1 = r₀.1 ∧ r.2.payments = r₀.2.payments ∧ r.2.history = r₀.2.history

/-! ### What the claim decides -/

/-- A delivery whose claim takes effect leaves the event id claimed, however it ends. -/
theorem claimed_after (hv : verifier.verify payload signature = .ok event)
    (d : FailedDelivery verifier P payload signature db) (h : d.Claims) :
    d.after.webhookEvents.Claimed event.eventId := by
  obtain ⟨fate, hf, hl⟩ := h
  obtain ⟨fates, hfs⟩ := List.head?_eq_some_iff.mp hf
  rw [after, attempt, WebhookService.handle, hv, hfs]
  change (Prog.runFates (S := paySig) _ _ (.call (.recordAndClaim event.eventId payload) _)
    db).2.webhookEvents.Claimed _
  rw [Prog.runFates_cons]
  refine claimed_runFates P _ fates ?_
  rw [PayDb.exec, Fate.under_of_lands (S := paySig) PayOp.fault (PayDb.serve P) hl]
  exact WebhookTable.claimed_claim.mpr (.inl rfl)

/-- A delivery whose claim does not take effect, or finds the event id taken, changes nothing. -/
theorem after_eq_self (hv : verifier.verify payload signature = .ok event)
    (d : FailedDelivery verifier P payload signature db)
    (h : db.webhookEvents.Claimed event.eventId ∨ ¬ d.Claims) : d.after = db := by
  rw [after, attempt, WebhookService.handle, hv]
  change (Prog.runFates (S := paySig) _ d.fates (.call (.recordAndClaim event.eventId payload) _)
    db).2 = db
  cases hfs : d.fates with
  | nil => rfl
  | cons fate fates =>
      have hclaim : db.webhookEvents.Claimed event.eventId ∨ ¬ fate.Lands :=
        h.imp id fun hn hl => hn ⟨fate, by rw [hfs]; rfl, hl⟩
      rw [Prog.runFates_cons]
      cases fate with
      | refused msg => exact congrArg Prod.snd (Prog.runFates_ret _ fates _ db)
      | served =>
          have hc := hclaim.resolve_right (not_not.mpr trivial)
          have hs : PayDb.exec P .served (.recordAndClaim event.eventId payload) db =
              (.ok false, db) := by
            rw [PayDb.exec_served, PayDb.serve, WebhookTable.claim_of_claimed hc]
          rw [hs]
          exact congrArg Prod.snd (Prog.runFates_ret _ fates _ db)
      | unacknowledged msg =>
          have hc := hclaim.resolve_right (not_not.mpr trivial)
          have hs : PayDb.exec P (.unacknowledged msg) (.recordAndClaim event.eventId payload)
              db = (.error ⟨msg⟩, db) := by
            simp only [PayDb.exec, Fate.under, PayOp.fault, PayDb.serve,
              WebhookTable.claim_of_claimed hc]
          rw [hs]
          exact congrArg Prod.snd (Prog.runFates_ret _ fates _ db)

/-- **Redelivery.** A failed delivery leaves no trace on a later one exactly when the event was
claimed before it, or its own claim did not take effect. -/
theorem survives_iff (hv : verifier.verify payload signature = .ok event)
    (d : FailedDelivery verifier P payload signature db) :
    d.Survives event ↔ db.webhookEvents.Claimed event.eventId ∨ ¬ d.Claims := by
  constructor
  · intro h
    by_contra hn
    obtain ⟨hfresh, hclaims⟩ := not_or.mp hn
    have hdup : (deliver verifier P payload signature d.after).1 = .duplicate :=
      (deliver_duplicate_iff hv).mpr (claimed_after hv d (not_not.mp hclaims))
    have hsame := (h id verifier payload signature hv).1
    exact hfresh ((deliver_duplicate_iff hv).mp (hsame.symm.trans hdup))
  · intro h between verifier' payload' signature' _
    rw [after_eq_self hv d h]
    exact ⟨rfl, rfl, rfl⟩

/-! ### A capture that is lost -/

/-- `pi_1` has been captured at the provider. -/
def captureEvent : WebhookEvent := ⟨"evt_1", some ⟨"pi_1"⟩, some .captured⟩

def captureVerifier : WebhookVerifier := .only [123, 125] "t=1,v1=ab" captureEvent

def authorizedDb : PayDb FakePaymentProvider := .single (samplePayment .authorized) [] .new 0

/-- The event is claimed, and the lookup of its payment fails: the provider is answered 500. -/
def lostCapture :
    FailedDelivery captureVerifier FakePaymentProvider.port [123, 125] (some "t=1,v1=ab")
      authorizedDb where
  fates := [.served, .refused "connection reset"]
  answered := true
  fails := by
    intro o ho
    obtain rfl : o = .error "payment repository backend error: connection reset" :=
      Option.some.inj (ho.symm.trans (by decide))
    decide

/-- The redelivery of the capture is answered `Duplicate`, and the payment stays `Authorized`. -/
theorem lostCapture_not_survives :
    captureVerifier.verify [123, 125] (some "t=1,v1=ab") = .ok captureEvent ∧
      ¬ lostCapture.Survives captureEvent := by
  refine ⟨rfl, fun h => ?_⟩
  have hsame := (h id captureVerifier [123, 125] (some "t=1,v1=ab") rfl).1
  exact absurd hsame (by decide)

theorem lostCapture_iff :
    captureVerifier.verify [123, 125] (some "t=1,v1=ab") = .ok captureEvent ∧
      (lostCapture.Survives captureEvent ↔
        authorizedDb.webhookEvents.Claimed captureEvent.eventId ∨ ¬ lostCapture.Claims) :=
  ⟨rfl, survives_iff rfl lostCapture⟩

end FailedDelivery

end AuthApp.Payments
