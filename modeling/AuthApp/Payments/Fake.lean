import AuthApp.Payments.Payment

/-!
# Payments — the fake provider

`FakePaymentProvider`: a payment gateway in memory.  The cents of an amount force its outcome, and
every other call is answered from the intents it keeps.

* `createIntent_coherent`, `capture_coherent`, `refund_coherent`: after a call that was answered
  with an intent, `getStatus` agrees with it.
-/

namespace AuthApp.Payments

/-- A tracked intent: its authorized amount and current status. -/
structure Intent where
  amount : Money
  status : PaymentStatus
  deriving DecidableEq

/-- What the provider keeps between calls. -/
structure FakePaymentProvider where
  intents : ProviderReference → Option Intent
  counter : Nat

namespace FakePaymentProvider

def new : FakePaymentProvider := ⟨fun _ => none, 0⟩

/-- The outcome the amount's cents force, if any. -/
def forcedError (amount : Money) : Option ProviderError :=
  match amount.minorUnits % 100 with
  | 1 => some (.rejected "card_declined (simulated)")
  | 2 => some (.unavailable "timeout (simulated)")
  | _ => none

def unknownReference : ProviderError := .rejected "unknown payment reference"

/-- Track `intent` under `reference`. -/
def put (p : FakePaymentProvider) (reference : ProviderReference) (intent : Intent) :
    FakePaymentProvider :=
  { p with intents := fun r => if r = reference then some intent else p.intents r }

def createIntent (amount : Money) (p : FakePaymentProvider) :
    Except ProviderError ProviderIntent × FakePaymentProvider :=
  match forcedError amount with
  | some err => (.error err, p)
  | none =>
      -- `fetch_add` wraps at the width of a `u64`
      let n := (p.counter + 1) % 2 ^ 64
      let reference : ProviderReference := ⟨"fake_pi_" ++ toString n⟩
      (.ok ⟨reference, .created⟩, { p with counter := n }.put reference ⟨amount, .created⟩)

def capture (reference : ProviderReference) (amount : Money) (p : FakePaymentProvider) :
    Except ProviderError ProviderIntent × FakePaymentProvider :=
  match forcedError amount with
  | some err => (.error err, p)
  | none =>
      match p.intents reference with
      | none => (.error unknownReference, p)
      | some intent =>
          (.ok ⟨reference, .captured⟩, p.put reference { intent with status := .captured })

/-- A refund covering the full authorized amount is a full refund; nothing else is checked. -/
def refund (reference : ProviderReference) (amount : Money) (p : FakePaymentProvider) :
    Except ProviderError ProviderIntent × FakePaymentProvider :=
  match forcedError amount with
  | some err => (.error err, p)
  | none =>
      match p.intents reference with
      | none => (.error unknownReference, p)
      | some intent =>
          let status : PaymentStatus :=
            if intent.amount.minorUnits ≤ amount.minorUnits then .refunded
            else .partiallyRefunded
          (.ok ⟨reference, status⟩, p.put reference { intent with status })

def getStatus (reference : ProviderReference) (p : FakePaymentProvider) :
    Except ProviderError PaymentStatus × FakePaymentProvider :=
  match p.intents reference with
  | none => (.error unknownReference, p)
  | some intent => (.ok intent.status, p)

/-- The fake, behind the provider port. -/
def port : PaymentProvider FakePaymentProvider where
  createIntent := createIntent
  capture := capture
  refund := refund
  getStatus := getStatus

theorem getStatus_put (p : FakePaymentProvider) (reference : ProviderReference)
    (intent : Intent) : (getStatus reference (p.put reference intent)).1 = .ok intent.status := by
  simp [getStatus, put]

theorem createIntent_coherent {amount : Money} {p : FakePaymentProvider} {intent : ProviderIntent}
    (h : (createIntent amount p).1 = .ok intent) :
    (getStatus intent.reference (createIntent amount p).2).1 = .ok intent.status := by
  rw [createIntent] at h ⊢
  cases hf : forcedError amount with
  | some err => rw [hf] at h; cases h
  | none =>
      rw [hf] at h
      cases h
      exact getStatus_put _ _ _

theorem capture_coherent {reference : ProviderReference} {amount : Money}
    {p : FakePaymentProvider} {intent : ProviderIntent}
    (h : (capture reference amount p).1 = .ok intent) :
    intent.reference = reference ∧
      (getStatus reference (capture reference amount p).2).1 = .ok intent.status := by
  rw [capture] at h ⊢
  cases hf : forcedError amount with
  | some err => rw [hf] at h; cases h
  | none =>
      cases hi : p.intents reference with
      | none => rw [hf, hi] at h; cases h
      | some i =>
          rw [hf, hi] at h
          cases h
          exact ⟨rfl, getStatus_put p _ _⟩

theorem refund_coherent {reference : ProviderReference} {amount : Money}
    {p : FakePaymentProvider} {intent : ProviderIntent}
    (h : (refund reference amount p).1 = .ok intent) :
    intent.reference = reference ∧
      (getStatus reference (refund reference amount p).2).1 = .ok intent.status := by
  rw [refund] at h ⊢
  cases hf : forcedError amount with
  | some err => rw [hf] at h; cases h
  | none =>
      cases hi : p.intents reference with
      | none => rw [hf, hi] at h; cases h
      | some i =>
          rw [hf, hi] at h
          cases h
          exact ⟨rfl, getStatus_put p _ _⟩

end FakePaymentProvider

end AuthApp.Payments
