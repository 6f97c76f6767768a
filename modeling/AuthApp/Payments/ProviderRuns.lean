import AuthApp.Payments.Fake
import AuthApp.Reports.Basic

/-!
# Payments — calls of the provider port

The calls of `PaymentProvider` as data, so that a sequence of them can be run against an adapter.
A mutating call that succeeds reports a status of one intent.

* `FakePaymentProvider.exec_step`: what each call does to the fake.
* `FakePaymentProvider.intents_of_last`: the fake keeps the last report about each intent.
-/

namespace AuthApp.Payments

inductive ProviderCall where
  | createIntent (amount : Money)
  | capture (reference : ProviderReference) (amount : Money)
  | refund (reference : ProviderReference) (amount : Money)
  | getStatus (reference : ProviderReference)
  deriving DecidableEq

/-- What a mutating call reported about an intent. -/
structure ProviderReport where
  call : ProviderCall
  reference : ProviderReference
  status : PaymentStatus
  deriving DecidableEq

namespace PaymentProvider
variable {π : Type} (P : PaymentProvider π)

def exec : ProviderCall → π → Option ProviderReport × π
  | .createIntent amount, p =>
      let (answer, q) := P.createIntent amount p
      (answer.toOption.map fun i => ⟨.createIntent amount, i.reference, i.status⟩, q)
  | .capture reference amount, p =>
      let (answer, q) := P.capture reference amount p
      (answer.toOption.map fun i => ⟨.capture reference amount, reference, i.status⟩, q)
  | .refund reference amount, p =>
      let (answer, q) := P.refund reference amount p
      (answer.toOption.map fun i => ⟨.refund reference amount, reference, i.status⟩, q)
  | .getStatus reference, p => (none, (P.getStatus reference p).2)

/-- The calls of a provider, by the intents that they report about. -/
abbrev reports : Reports.Port ProviderCall ProviderReport ProviderReference π :=
  ⟨P.exec, ProviderReport.reference⟩

/-- The answer that a report was made of. -/
inductive Reporting (p q : π) : ProviderReport → Prop
  | created (amount : Money) (i : ProviderIntent) : P.createIntent amount p = (.ok i, q) →
      Reporting p q ⟨.createIntent amount, i.reference, i.status⟩
  | captured (reference : ProviderReference) (amount : Money) (i : ProviderIntent) :
      P.capture reference amount p = (.ok i, q) →
      Reporting p q ⟨.capture reference amount, reference, i.status⟩
  | refunded (reference : ProviderReference) (amount : Money) (i : ProviderIntent) :
      P.refund reference amount p = (.ok i, q) →
      Reporting p q ⟨.refund reference amount, reference, i.status⟩

variable {P}

theorem ok_of_report {answer : Except ProviderError ProviderIntent}
    {f : ProviderIntent → ProviderReport} {report : ProviderReport}
    (h : answer.toOption.map f = some report) : ∃ i, answer = .ok i ∧ f i = report := by
  cases answer with
  | error e => cases h
  | ok i => exact ⟨i, rfl, Option.some.inj h⟩

theorem reporting_of_exec {call : ProviderCall} {p q : π} {report : ProviderReport}
    (h : P.exec call p = (some report, q)) : P.Reporting p q report := by
  obtain ⟨hreport, rfl⟩ := Prod.mk.inj h
  cases call with
  | createIntent amount =>
      obtain ⟨i, hi, rfl⟩ := ok_of_report hreport
      exact .created amount i (Prod.ext hi rfl)
  | capture reference amount =>
      obtain ⟨i, hi, rfl⟩ := ok_of_report hreport
      exact .captured reference amount i (Prod.ext hi rfl)
  | refund reference amount =>
      obtain ⟨i, hi, rfl⟩ := ok_of_report hreport
      exact .refunded reference amount i (Prod.ext hi rfl)
  | getStatus reference => cases hreport

end PaymentProvider

/-! ### The fake -/

namespace FakePaymentProvider

/-- What a call does: nothing, or one intent has the status that is reported. -/
inductive Step (p : FakePaymentProvider) :
    ProviderCall → Option ProviderReport → FakePaymentProvider → Prop
  | unchanged (call : ProviderCall) : Step p call none p
  | created (amount : Money) (reference : ProviderReference) (n : Nat) :
      Step p (.createIntent amount) (some ⟨.createIntent amount, reference, .created⟩)
        ({ p with counter := n }.put reference ⟨amount, .created⟩)
  | captured (reference : ProviderReference) (amount : Money) (intent : Intent) :
      p.intents reference = some intent →
      Step p (.capture reference amount) (some ⟨.capture reference amount, reference, .captured⟩)
        (p.put reference { intent with status := .captured })
  | refunded (reference : ProviderReference) (amount : Money) (intent : Intent)
      (status : PaymentStatus) :
      p.intents reference = some intent →
      status = (if intent.amount.minorUnits ≤ amount.minorUnits then .refunded
        else .partiallyRefunded) →
      Step p (.refund reference amount) (some ⟨.refund reference amount, reference, status⟩)
        (p.put reference { intent with status })

theorem exec_step (call : ProviderCall) (p : FakePaymentProvider) :
    Step p call (port.exec call p).1 (port.exec call p).2 := by
  cases call with
  | createIntent amount =>
      simp only [PaymentProvider.exec, port, createIntent]
      cases forcedError amount with
      | some err => exact .unchanged _
      | none => exact .created _ _ _
  | capture reference amount =>
      simp only [PaymentProvider.exec, port, capture]
      cases forcedError amount with
      | some err => exact .unchanged _
      | none =>
          cases hi : p.intents reference with
          | none => exact .unchanged _
          | some intent => exact .captured _ _ _ hi
  | refund reference amount =>
      simp only [PaymentProvider.exec, port, refund]
      cases forcedError amount with
      | some err => exact .unchanged _
      | none =>
          cases hi : p.intents reference with
          | none => exact .unchanged _
          | some intent => exact .refunded _ _ _ _ hi rfl
  | getStatus reference =>
      simp only [PaymentProvider.exec, port, getStatus]
      cases p.intents reference with
      | none => exact .unchanged _
      | some intent => exact .unchanged _

@[simp] theorem put_intents_self (p : FakePaymentProvider) (reference : ProviderReference)
    (intent : Intent) : (p.put reference intent).intents reference = some intent := by
  simp [put]

theorem put_intents_ne (p : FakePaymentProvider) {reference r : ProviderReference}
    (intent : Intent) (h : r ≠ reference) :
    (p.put reference intent).intents r = p.intents r := by
  simp [put, h]

namespace Step
variable {p q : FakePaymentProvider} {call : ProviderCall} {report : ProviderReport}

/-- An intent that a call does not report about is kept. -/
theorem frame {given : Option ProviderReport} (h : Step p call given q) {r : ProviderReference}
    (hr : ∀ report, given = some report → report.reference ≠ r) : q.intents r = p.intents r := by
  cases h with
  | unchanged => rfl
  | created amount reference n => exact put_intents_ne _ _ (hr _ rfl).symm
  | captured reference amount intent hi => exact put_intents_ne _ _ (hr _ rfl).symm
  | refunded reference amount intent status hi hs => exact put_intents_ne _ _ (hr _ rfl).symm

theorem call_eq (h : Step p call (some report) q) : report.call = call := by
  cases h <;> rfl

/-- The intent that a call reports about has the status reported. -/
theorem status_eq (h : Step p call (some report) q) :
    (q.intents report.reference).map Intent.status = some report.status := by
  cases h with
  | created amount reference n => simp
  | captured reference amount intent hi => simp
  | refunded reference amount intent status hi hs => simp

end Step

/-! ### Runs of the fake -/

section
variable {calls : List ProviderCall} {p t : FakePaymentProvider} {r : ProviderReference}
  {report : ProviderReport}

private theorem keep_intents (r : ProviderReference) (call : ProviderCall)
    (p : FakePaymentProvider)
    (h : ∀ given, (port.reports.exec call p).1 = some given → port.reports.about given ≠ r) :
    (port.reports.exec call p).2.intents r = p.intents r :=
  (exec_step call p).frame h

theorem intents_of_last (h : port.reports.last r calls p = some (report, t)) :
    (port.reports.after calls p).intents r = t.intents r :=
  Reports.Port.view_of_last (·.intents r) (keep_intents r) h

theorem intents_of_silence (h : port.reports.last r calls p = none) :
    (port.reports.after calls p).intents r = p.intents r :=
  Reports.Port.view_of_silence (·.intents r) (keep_intents r) h

/-- The last report about an intent is of one of the calls, and says what the intent is then. -/
theorem step_of_last (h : port.reports.last r calls p = some (report, t)) :
    report.reference = r ∧ ∃ p₀, Step p₀ report.call (some report) t := by
  obtain ⟨habout, call, p₀, hexec⟩ := Reports.Port.exec_of_last h
  have hstep := exec_step call p₀
  rw [show port.exec call p₀ = (some report, t) from hexec] at hstep
  exact ⟨habout, p₀, hstep.call_eq ▸ hstep⟩

/-- The status kept of an intent is the one that was last reported. -/
theorem status_of_last (h : port.reports.last r calls p = some (report, t)) :
    ((port.reports.after calls p).intents r).map Intent.status = some report.status := by
  obtain ⟨rfl, p₀, hstep⟩ := step_of_last h
  rw [intents_of_last h, hstep.status_eq]

theorem getStatus_of_last (h : port.reports.last r calls p = some (report, t)) :
    (getStatus r (port.reports.after calls p)).1 = .ok report.status := by
  obtain ⟨intent, hi, hs⟩ := Option.map_eq_some_iff.mp (status_of_last h)
  rw [getStatus, hi]
  exact congrArg Except.ok hs

end

end FakePaymentProvider

end AuthApp.Payments
