import AuthApp.Payments.ProviderRuns
import AuthApp.Payments.Stripe

/-!
# Payments — reconciliation with the provider

`getStatus` is there to reconcile what is stored with what the provider has.  The fake answers the
status that it last reported.  The Stripe adapter reads the status of the intent, which a refund
does not change, so it has no way to answer what a refund reported.

A `StripeServer` is a transport that behaves as Stripe is documented to: it keeps intents, answers
a request with the intent that the request leaves, and keeps an intent `succeeded` when it is
refunded.  It may fail at any request.

* `FakePaymentProvider.getStatus_run`: the fake answers what was last reported.
* `reconciles_iff`: when the Stripe adapter does.
* `refund_not_reconciled`: a refund that a lookup reports as captured.
-/

namespace AuthApp.Payments
open Interleave Accounts

def ProviderCall.isRefund : ProviderCall → Bool
  | .refund _ _ => true
  | _ => false

theorem mapStatus_ne_refundStatus (stripe : String) (amount : Money)
    (intent : PaymentIntentResponse) :
    mapStatus stripe ≠ StripeProvider.refundStatus amount intent := by
  have hno : mapStatus stripe ≠ .refunded ∧ mapStatus stripe ≠ .partiallyRefunded := by
    unfold mapStatus
    split <;> decide
  rw [StripeProvider.refundStatus]
  split
  · exact hno.1
  · exact hno.2

/-- **Reconciliation with the fake.** After any calls, a lookup answers the last report. -/
theorem FakePaymentProvider.getStatus_run {calls : List ProviderCall} {r : ProviderReference}
    {p t : FakePaymentProvider} {report : ProviderReport}
    (h : port.reports.last r calls p = some (report, t)) :
    (port.getStatus r (port.reports.after calls p)).1 = .ok report.status :=
  getStatus_of_last h

/-- A transport with Stripe behind it. -/
structure StripeServer (J : SerdeJson) (config : StripeConfig) (σ : Type) where
  exec : Exec transportSig σ
  /-- The intent that is kept under a reference. -/
  intent : σ → ProviderReference → Option PaymentIntentResponse
  created : ∀ s amount i,
    StripeProvider.answered J (exec (StripeProvider.createRequest config amount) s).1 = .ok i →
      intent (exec (StripeProvider.createRequest config amount) s).2 ⟨i.id⟩ = some i
  captured : ∀ s r amount i,
    StripeProvider.answered J (exec (StripeProvider.captureRequest config r amount) s).1 = .ok i →
      intent (exec (StripeProvider.captureRequest config r amount) s).2 r = some i
  refunded : ∀ s r amount response,
    StripeProvider.accepted (exec (StripeProvider.refundRequest config r amount) s).1 =
        .ok response →
      ∃ i, intent (exec (StripeProvider.refundRequest config r amount) s).2 r = some i ∧
        i.status = "succeeded"
  fetched : ∀ s r i,
    StripeProvider.answered J (exec (StripeProvider.fetchRequest config r) s).1 = .ok i →
      intent s r = some i
  reads : ∀ s r r', intent (exec (StripeProvider.fetchRequest config r) s).2 r' = intent s r'

namespace StripeServer
variable {J : SerdeJson} {config : StripeConfig} {σ : Type} (server : StripeServer J config σ)

/-- The adapter, in front of this server. -/
abbrev port : PaymentProvider σ := StripeProvider.port J config server.exec

/-- A lookup of the intent is answered. -/
def Answers (s : σ) (r : ProviderReference) : Prop :=
  ∃ i, StripeProvider.answered J (server.exec (StripeProvider.fetchRequest config r) s).1 = .ok i

variable {server} {s t : σ} {r : ProviderReference} {report : ProviderReport}

/-- A lookup that is answered reads the status of the intent that is kept. -/
theorem getStatus_of_answers (h : server.Answers s r) :
    ∃ i, server.intent s r = some i ∧
      (server.port.getStatus r s).1 = .ok (mapStatus i.status) := by
  obtain ⟨i, hi⟩ := h
  refine ⟨i, server.fetched s r i hi, ?_⟩
  have hrun : ((StripeProvider.getStatus J config r).run server.exec s).1 = _ :=
    congrArg Prod.fst (StripeProvider.getStatus_run server.exec s r)
  rw [hi] at hrun
  exact hrun

theorem answers_of_getStatus {status : PaymentStatus}
    (h : (server.port.getStatus r s).1 = .ok status) : server.Answers s r := by
  have hrun : ((StripeProvider.getStatus J config r).run server.exec s).1 = _ :=
    congrArg Prod.fst (StripeProvider.getStatus_run server.exec s r)
  rw [show ((StripeProvider.getStatus J config r).run server.exec s).1 = .ok status from h] at hrun
  rw [Answers]
  generalize StripeProvider.answered J
    (server.exec (StripeProvider.fetchRequest config r) s).1 = answer at hrun ⊢
  cases answer with
  | error e => cases hrun
  | ok i => exact ⟨i, rfl⟩

/-- What a report says about the intent that the server then keeps. -/
inductive Reported (server : StripeServer J config σ) (t : σ) : ProviderReport → Prop
  | created (amount : Money) (i : PaymentIntentResponse) :
      server.intent t ⟨i.id⟩ = some i →
      Reported server t ⟨.createIntent amount, ⟨i.id⟩, mapStatus i.status⟩
  | captured (r : ProviderReference) (amount : Money) (i : PaymentIntentResponse) :
      server.intent t r = some i →
      Reported server t ⟨.capture r amount, r, mapStatus i.status⟩
  | refunded (r : ProviderReference) (amount : Money) (fetched i : PaymentIntentResponse) :
      server.intent t r = some i → i.status = "succeeded" →
      Reported server t ⟨.refund r amount, r, StripeProvider.refundStatus amount fetched⟩

namespace Reported
variable {i : PaymentIntentResponse}

/-- No status of an intent is read as a refund. -/
theorem not_refund (h : Reported server t report) (hs : mapStatus i.status = report.status) :
    report.call.isRefund = false := by
  cases h with
  | created => rfl
  | captured => rfl
  | refunded r amount fetched kept hk hst =>
      exact absurd hs (mapStatus_ne_refundStatus _ _ _)

theorem status_eq (h : Reported server t report) (hno : report.call.isRefund = false)
    (hi : server.intent t report.reference = some i) : mapStatus i.status = report.status := by
  cases h with
  | created amount kept hk => rw [Option.some.inj (hk.symm.trans hi)]
  | captured r amount kept hk => rw [Option.some.inj (hk.symm.trans hi)]
  | refunded => cases hno

theorem succeeded (h : Reported server t report) (hyes : report.call.isRefund = true)
    (hi : server.intent t report.reference = some i) : i.status = "succeeded" := by
  cases h with
  | created => cases hyes
  | captured => cases hyes
  | refunded r amount fetched kept hk hst => rw [← hst, Option.some.inj (hk.symm.trans hi)]

end Reported

theorem reported_of_exec {call : ProviderCall}
    (h : server.port.exec call s = (some report, t)) : Reported server t report := by
  cases PaymentProvider.reporting_of_exec h with
  | created amount reported hcall =>
      obtain ⟨i, hi, rfl, rfl⟩ := StripeProvider.answered_of_intentOf hcall
      exact .created amount i (server.created s amount i hi)
  | captured reference amount reported hcall =>
      obtain ⟨i, hi, rfl, rfl⟩ := StripeProvider.answered_of_intentOf hcall
      exact .captured reference amount i (server.captured s reference amount i hi)
  | refunded reference amount reported hcall =>
      obtain ⟨response, fetched, hok, rfl, rfl⟩ := StripeProvider.accepted_of_refund hcall
      obtain ⟨i, hi, hs⟩ := server.refunded s reference amount response hok
      refine .refunded reference amount fetched i ?_ hs
      rw [server.reads, hi]

/-- **Reconciliation with both adapters.** The fake answers the last report.  The Stripe adapter,
when the intent has not changed since that report, answers it exactly when the lookup is answered
and the report is not of a refund; after a refund it answers `captured`. -/
theorem reconciles_iff (server : StripeServer J config σ) (calls : List ProviderCall)
    (r : ProviderReference) :
    (∀ p t report, FakePaymentProvider.port.reports.last r calls p = some (report, t) →
      (FakePaymentProvider.port.getStatus r
        (FakePaymentProvider.port.reports.after calls p)).1 = .ok report.status) ∧
    ∀ s t report, server.port.reports.last r calls s = some (report, t) →
      let now := server.port.reports.after calls s
      server.intent now r = server.intent t r →
        ((server.port.getStatus r now).1 = .ok report.status ↔
          server.Answers now r ∧ report.call.isRefund = false) ∧
        (report.call.isRefund = true → server.Answers now r →
          (server.port.getStatus r now).1 = .ok .captured) := by
  refine ⟨fun p t report h => FakePaymentProvider.getStatus_run h, ?_⟩
  intro s t report hlast now hkept
  obtain ⟨rfl, call, s₀, hexec⟩ := Reports.Port.exec_of_last hlast
  have hreport := reported_of_exec hexec
  constructor
  · constructor
    · intro h
      have hanswers := answers_of_getStatus h
      refine ⟨hanswers, ?_⟩
      obtain ⟨i, -, hs⟩ := getStatus_of_answers hanswers
      exact hreport.not_refund (Except.ok.inj (hs.symm.trans h))
    · rintro ⟨hanswers, hno⟩
      obtain ⟨i, hi, hs⟩ := getStatus_of_answers hanswers
      rw [hs, hreport.status_eq hno (hkept ▸ hi)]
  · intro hyes hanswers
    obtain ⟨i, hi, hs⟩ := getStatus_of_answers hanswers
    rw [hs, hreport.succeeded hyes (hkept ▸ hi)]
    rfl

/-! ### A server with one intent -/

/-- The stages of the intent. -/
inductive Stage where
  | held
  | captured
  deriving DecidableEq

def Stage.raw : Stage → String
  | .held => "requires_capture"
  | .captured => "succeeded"

def oneIntent (stage : Stage) : PaymentIntentResponse := ⟨"pi_1", stage.raw, 2500⟩

def body : Stage → String
  | .held => "\x7b\"id\": \"pi_1\", \"status\": \"requires_capture\", \"amount\": 2500\x7d"
  | .captured => "\x7b\"id\": \"pi_1\", \"status\": \"succeeded\", \"amount\": 2500\x7d"

/-- What the parser makes of these bodies. -/
def oneJson : SerdeJson where
  parseStr text :=
    if text = body .held then some (fields .held)
    else if text = body .captured then some (fields .captured)
    else none
  strError _ := "expected value at line 1 column 1"
where
  fields (stage : Stage) : Json :=
    .object [("id", .string "pi_1"), ("status", .string stage.raw), ("amount", .int 2500)]

def oneConfig : StripeConfig := .new "sk_test_123"

/-- A request is told by its form; those about another intent are rejected. -/
def serveOne : Exec transportSig Stage
  | .postForm _ [("amount", _), _, _] _, _ => (.ok ⟨200, body .held⟩, .held)
  | .postForm url [("amount_to_capture", _)] _, s =>
      if url = StripeProvider.url oneConfig ("v1/payment_intents/" ++ "pi_1" ++ "/capture") then
        (.ok ⟨200, body .captured⟩, .captured)
      else (.ok ⟨404, ""⟩, s)
  | .postForm _ [("payment_intent", reference), _] _, s =>
      if reference = "pi_1" ∧ s = .captured then (.ok ⟨200, ""⟩, s) else (.ok ⟨400, ""⟩, s)
  | .getBearer url _, s =>
      if url = StripeProvider.url oneConfig ("v1/payment_intents/" ++ "pi_1") then
        (.ok ⟨200, body s⟩, s)
      else (.ok ⟨404, ""⟩, s)
  | _, s => (.ok ⟨400, ""⟩, s)

theorem answered_body (s : Stage) :
    StripeProvider.answered oneJson (.ok ⟨200, body s⟩) = .ok (oneIntent s) := by
  cases s <;> rfl

theorem url_injective {a b : String}
    (h : StripeProvider.url config a = StripeProvider.url config b) : a = b :=
  (String.append_right_inj _).mp h

/-- The server keeps the intent under its id only. -/
def oneServer : StripeServer oneJson oneConfig Stage where
  exec := serveOne
  intent s r := if r = ⟨"pi_1"⟩ then some (oneIntent s) else none
  created s amount i h := by
    obtain rfl : oneIntent .held = i := Except.ok.inj ((answered_body .held).symm.trans h)
    rfl
  captured s r amount i h := by
    simp only [StripeProvider.captureRequest, serveOne] at h ⊢
    split at h
    next hurl =>
      obtain rfl : oneIntent .captured = i :=
        Except.ok.inj ((answered_body .captured).symm.trans h)
      have hraw : r = ⟨"pi_1"⟩ := congrArg ProviderReference.mk
        ((String.append_right_inj _).mp ((String.append_left_inj _).mp (url_injective hurl)))
      rw [if_pos hurl, if_pos hraw]
    next => cases h
  refunded s r amount response h := by
    simp only [StripeProvider.refundRequest, serveOne] at h ⊢
    split at h
    next hr =>
      rw [if_pos hr, if_pos (congrArg ProviderReference.mk hr.1)]
      exact ⟨_, rfl, by rw [hr.2]; rfl⟩
    next => cases h
  fetched s r i h := by
    simp only [StripeProvider.fetchRequest, serveOne] at h
    split at h
    next hurl =>
      obtain rfl : oneIntent s = i := Except.ok.inj ((answered_body s).symm.trans h)
      exact if_pos (congrArg ProviderReference.mk
        ((String.append_right_inj _).mp (url_injective hurl)))
    next => cases h
  reads s r r' := by
    have hstate : (serveOne (StripeProvider.fetchRequest oneConfig r) s).2 = s := by
      simp only [StripeProvider.fetchRequest, serveOne]
      split <;> rfl
    rw [hstate]

theorem oneServer_answers (s : Stage) : oneServer.Answers s ⟨"pi_1"⟩ :=
  ⟨oneIntent s, answered_body s⟩

/-- A capture that is looked up. -/
theorem capture_reconciled :
    (oneServer.port.getStatus ⟨"pi_1"⟩ .captured).1 = .ok .captured :=
  (((reconciles_iff oneServer [.createIntent (.euros 2500), .capture ⟨"pi_1"⟩ (.euros 2500)]
    ⟨"pi_1"⟩).2 .held .captured ⟨.capture ⟨"pi_1"⟩ (.euros 2500), ⟨"pi_1"⟩, .captured⟩ rfl
    rfl).1).mpr ⟨oneServer_answers _, rfl⟩

/-- A full refund at Stripe is reported as `refunded`, and looked up as `captured`. -/
theorem refund_not_reconciled :
    oneServer.port.reports.last ⟨"pi_1"⟩
        [.createIntent (.euros 2500), .capture ⟨"pi_1"⟩ (.euros 2500),
          .refund ⟨"pi_1"⟩ (.euros 2500)] .held =
      some (⟨.refund ⟨"pi_1"⟩ (.euros 2500), ⟨"pi_1"⟩, .refunded⟩, .captured) ∧
    (oneServer.port.getStatus ⟨"pi_1"⟩ .captured).1 = .ok .captured :=
  ⟨rfl, rfl⟩

end StripeServer

end AuthApp.Payments
