import AuthApp.Payments.Stripe

/-!
# Payments — refund errors of the Stripe adapter

A refund at Stripe is two requests: the first moves the money, and the second only reads the amount
of the intent.  A failure of either is reported in the same way, so a caller that is told
`Unavailable` may send a refund that has been executed once more.

* `safeToRetry_iff`: when an error of a refund means that nothing was refunded.
* `lostFetch_not_safe`: a refund that Stripe executes, and that the adapter reports as failed.
-/

namespace AuthApp.Payments.StripeProvider
open Interleave Accounts

variable {J : SerdeJson} {config : StripeConfig} {σ : Type}

/-- The request that creates the refund is answered 2xx. -/
def RefundAccepted (config : StripeConfig) (exec : Exec transportSig σ) (s : σ)
    (reference : ProviderReference) (amount : Money) : Prop :=
  ∃ response, (exec (refundRequest config reference amount) s).1 = .ok response ∧
    response.isSuccess = true

/-- The request that follows it is answered 2xx, with a body that reads as an intent. -/
def IntentFetched (J : SerdeJson) (config : StripeConfig) (exec : Exec transportSig σ) (s : σ)
    (reference : ProviderReference) (amount : Money) : Prop :=
  ∃ response j intent,
    (exec (fetchRequest config reference) (exec (refundRequest config reference amount) s).2).1 =
        .ok response ∧
      response.isSuccess = true ∧ J.parseStr response.body = some j ∧
        PaymentIntentResponse.decode j = some intent

/-- An error of the refund is given only when the refund was not accepted. -/
def SafeToRetry (J : SerdeJson) (config : StripeConfig) (exec : Exec transportSig σ) (s : σ)
    (reference : ProviderReference) (amount : Money) : Prop :=
  ∀ e, ((refund J config reference amount).run exec s).1 = .error e →
    ¬ RefundAccepted config exec s reference amount

section
variable {exec : Exec transportSig σ} {s : σ} {reference : ProviderReference} {amount : Money}

/-- **Retrying a refund.** An error of a refund is safe to act on exactly when the refund was not
accepted, or the fetch that follows it was answered with an intent. -/
theorem safeToRetry_iff : SafeToRetry J config exec s reference amount ↔
    ¬ RefundAccepted config exec s reference amount ∨
      IntentFetched J config exec s reference amount := by
  have hrun : (refund J config reference amount).run exec s = _ :=
    refund_run exec s reference amount
  dsimp only at hrun
  constructor
  · intro h
    by_contra hno
    obtain ⟨haccepted, hfetched⟩ := not_or.mp hno
    obtain ⟨response, hok, hs⟩ := not_not.mp haccepted
    rw [accepted_eq_ok_iff.mpr ⟨hok, hs⟩] at hrun
    cases hf : answered J (exec (fetchRequest config reference)
        (exec (refundRequest config reference amount) s).2).1 with
    | error e => exact h e (by rw [hrun, hf]; rfl) ⟨response, hok, hs⟩
    | ok intent =>
        obtain ⟨response, j, hparts⟩ := answered_eq_ok_iff.mp hf
        exact hfetched ⟨response, j, intent, hparts⟩
  · rintro (hno | ⟨fetched, j, intent, hparts⟩) e he hyes
    · exact hno hyes
    · obtain ⟨response, hok, hs⟩ := hyes
      rw [hrun, accepted_eq_ok_iff.mpr ⟨hok, hs⟩,
        answered_eq_ok_iff.mpr ⟨fetched, j, hparts⟩] at he
      cases he

end

/-! ### A refund whose fetch is lost -/

/-- A transport that answers what its script says, and fails when the script is over. -/
def scripted : Exec transportSig (List (Except HttpError HttpResponse))
  | _, [] => (.error ⟨"connection refused"⟩, [])
  | _, r :: rest => (r, rest)

def refundBody : String := "\x7b\"id\": \"re_1\", \"status\": \"succeeded\"\x7d"

/-- What the parser makes of that body. -/
def refundJson : SerdeJson where
  parseStr body :=
    if body = refundBody then
      some (.object [("id", .string "re_1"), ("status", .string "succeeded")])
    else none
  strError _ := "expected value at line 1 column 1"

/-- The refund is created, and the connection breaks before the intent is fetched: the adapter
answers `Unavailable`. -/
theorem lostFetch_not_safe :
    ((refund refundJson (.new "sk_test_123") ⟨"pi_1"⟩ (.euros 2500)).run scripted
        [.ok ⟨200, refundBody⟩, .error ⟨"connection reset"⟩]).1 =
          .error (.unavailable "http transport error: connection reset") ∧
      ¬ SafeToRetry refundJson (.new "sk_test_123") scripted
        [.ok ⟨200, refundBody⟩, .error ⟨"connection reset"⟩] ⟨"pi_1"⟩ (.euros 2500) := by
  have hrun : ((refund refundJson (.new "sk_test_123") ⟨"pi_1"⟩ (.euros 2500)).run scripted
      [.ok ⟨200, refundBody⟩, .error ⟨"connection reset"⟩]).1 =
        .error (.unavailable "http transport error: connection reset") := rfl
  exact ⟨hrun, fun h => h _ hrun ⟨⟨200, refundBody⟩, rfl, rfl⟩⟩

end AuthApp.Payments.StripeProvider
