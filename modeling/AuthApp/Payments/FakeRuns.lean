import AuthApp.Payments.ProviderRuns

/-!
# Payments — the fake provider and the state machine

The fake is no state machine: a capture or a refund of a tracked intent succeeds whatever the
status, and each refund is compared with the whole amount by itself.

* `follows`: what the status of an intent says about the calls so far, and which of its changes
  are legal moves.
* `recapture_leaves_refunded`: a refunded intent that is captured again, and two refunds that add
  up to the amount.
-/

namespace AuthApp.Payments.FakePaymentProvider

/-- The fake, new, after a sequence of calls. -/
abbrev run (calls : List ProviderCall) : FakePaymentProvider := port.reports.after calls new

/-- The last report about an intent, and the state that it was given in. -/
abbrev lastReport (calls : List ProviderCall) (r : ProviderReference) :
    Option (ProviderReport × FakePaymentProvider) :=
  port.reports.last r calls new

def statusOf (p : FakePaymentProvider) (r : ProviderReference) : Option PaymentStatus :=
  (p.intents r).map Intent.status

/-- What the fake keeps to about one intent, after any calls and at the next one. -/
structure Follows (calls : List ProviderCall) (r : ProviderReference) : Prop where
  /-- The status is the one last reported; there is none before the first report. -/
  status : (run calls).statusOf r = (lastReport calls r).map fun last => last.1.status
  /-- `Refunded` says that one refund, the last success, covered the whole amount. -/
  refunded : (run calls).statusOf r = some .refunded ↔
    ∃ last amount intent, lastReport calls r = some last ∧ last.1.call = .refund r amount ∧
      last.2.intents r = some intent ∧ intent.amount.minorUnits ≤ amount.minorUnits
  /-- A status changes by a legal move exactly at the refund of a captured intent. -/
  moves : ∀ call i j, (run calls).intents r = some i →
    (port.exec call (run calls)).2.intents r = some j → i.status ≠ j.status →
      (i.status.canTransitionTo j.status = true ↔
        ∃ amount, call = .refund r amount ∧
          (i.status = .captured ∨ i.status = .partiallyRefunded))
  /-- The amount is the one that the intent was created with. -/
  amount : ∀ call i j, (run calls).intents r = some i →
    (port.exec call (run calls)).2.intents r = some j → (∀ a, call ≠ .createIntent a) →
      j.amount = i.amount
  capture : ∀ amount, (port.exec (.capture r amount) (run calls)).1.isSome ↔
    ((run calls).intents r).isSome ∧ forcedError amount = none
  refund : ∀ amount, (port.exec (.refund r amount) (run calls)).1.isSome ↔
    ((run calls).intents r).isSome ∧ forcedError amount = none

/-! ### What one call does -/

section
variable {p q : FakePaymentProvider} {call : ProviderCall} {given : Option ProviderReport}
  {r : ProviderReference} {i j : Intent}

/-- A status that the fake reports. -/
def Tracked (status : PaymentStatus) : Prop :=
  status = .created ∨ status = .captured ∨ status = .partiallyRefunded ∨ status = .refunded

theorem Step.tracked {report : ProviderReport} (h : Step p call (some report) q) :
    Tracked report.status := by
  cases h with
  | created => exact .inl rfl
  | captured => exact .inr (.inl rfl)
  | refunded reference amount intent status hi hs =>
      subst hs
      split
      · exact .inr (.inr (.inr rfl))
      · exact .inr (.inr (.inl rfl))

/-- An intent that is left with another status is the one that is reported about. -/
theorem Step.moves (h : Step p call given q) (hi : p.intents r = some i)
    (hj : q.intents r = some j) (hne : i.status ≠ j.status) (htracked : Tracked i.status) :
    i.status.canTransitionTo j.status = true ↔
      ∃ amount, call = .refund r amount ∧
        (i.status = .captured ∨ i.status = .partiallyRefunded) := by
  by_cases hr : ∀ report, given = some report → report.reference ≠ r
  · rw [h.frame hr, hi] at hj
    cases hj
    exact absurd rfl hne
  · push Not at hr
    obtain ⟨report, rfl, rfl⟩ := hr
    cases h with
    | created amount reference n =>
        obtain rfl : _ = j := Option.some.inj ((put_intents_self _ _ _).symm.trans hj)
        have hno : i.status.canTransitionTo .created = false := by cases i.status <;> rfl
        simp [hno]
    | captured reference amount intent h =>
        obtain rfl : _ = j := Option.some.inj ((put_intents_self _ _ _).symm.trans hj)
        -- only an authorized intent may be captured, and the fake reports none
        have hno : i.status.canTransitionTo .captured = false := by
          rcases htracked with h | h | h | h <;> rw [h] <;> rfl
        simp [hno]
    | refunded reference amount intent status h hs =>
        obtain rfl : _ = j := Option.some.inj ((put_intents_self _ _ _).symm.trans hj)
        have hmove : i.status.canTransitionTo status = true ↔
            i.status = .captured ∨ i.status = .partiallyRefunded := by
          subst hs
          split <;> rcases htracked with h | h | h | h <;> rw [h] <;> decide
        simp [hmove]

theorem Step.amount (h : Step p call given q) (hi : p.intents r = some i)
    (hj : q.intents r = some j) (hcall : ∀ a, call ≠ .createIntent a) : j.amount = i.amount := by
  by_cases hr : ∀ report, given = some report → report.reference ≠ r
  · rw [h.frame hr, hi] at hj
    cases hj
    rfl
  · push Not at hr
    obtain ⟨report, rfl, rfl⟩ := hr
    cases h with
    | created amount reference n => exact absurd rfl (hcall amount)
    | captured reference amount intent h =>
        obtain rfl : _ = j := Option.some.inj ((put_intents_self _ _ _).symm.trans hj)
        obtain rfl : intent = i := Option.some.inj (h.symm.trans hi)
        rfl
    | refunded reference amount intent status h hs =>
        obtain rfl : _ = j := Option.some.inj ((put_intents_self _ _ _).symm.trans hj)
        obtain rfl : intent = i := Option.some.inj (h.symm.trans hi)
        rfl

theorem exec_capture_isSome {amount : Money} :
    (port.exec (.capture r amount) p).1.isSome ↔
      (p.intents r).isSome ∧ forcedError amount = none := by
  simp only [PaymentProvider.exec, port, FakePaymentProvider.capture]
  cases forcedError amount <;> cases p.intents r <;> simp [Except.toOption]

theorem exec_refund_isSome {amount : Money} :
    (port.exec (.refund r amount) p).1.isSome ↔
      (p.intents r).isSome ∧ forcedError amount = none := by
  simp only [PaymentProvider.exec, port, FakePaymentProvider.refund]
  cases forcedError amount <;> cases p.intents r <;> simp [Except.toOption]

end

/-! ### After any calls -/

section
variable {calls : List ProviderCall} {r : ProviderReference}

theorem statusOf_run : (run calls).statusOf r =
    (lastReport calls r).map fun last => last.1.status := by
  cases h : lastReport calls r with
  | none => rw [statusOf, run, intents_of_silence h]; rfl
  | some last => exact status_of_last h

theorem tracked_of_run {i : Intent} (h : (run calls).intents r = some i) : Tracked i.status := by
  have hs : (run calls).statusOf r = some i.status := by rw [statusOf, h]; rfl
  rw [statusOf_run] at hs
  obtain ⟨⟨report, t⟩, hlast, hst⟩ := Option.map_eq_some_iff.mp hs
  obtain ⟨-, p₀, hstep⟩ := step_of_last hlast
  exact hst ▸ hstep.tracked

theorem statusOf_refunded_iff : (run calls).statusOf r = some .refunded ↔
    ∃ last amount intent, lastReport calls r = some last ∧ last.1.call = .refund r amount ∧
      last.2.intents r = some intent ∧ intent.amount.minorUnits ≤ amount.minorUnits := by
  rw [statusOf_run]
  constructor
  · intro h
    obtain ⟨⟨report, t⟩, hlast, hs⟩ := Option.map_eq_some_iff.mp h
    obtain ⟨rfl, p₀, hstep⟩ := step_of_last hlast
    generalize hc : report.call = call at hstep
    cases hstep with
    | created => cases hs
    | captured => cases hs
    | refunded reference amount intent status hi hst =>
        refine ⟨_, amount, _, hlast, rfl, put_intents_self _ _ _, ?_⟩
        by_contra hle
        rw [if_neg hle] at hst
        exact absurd (hst.symm.trans hs) (by decide)
  · rintro ⟨⟨⟨call, reference, status⟩, t⟩, amount, intent, hlast, hcall, hi, hle⟩
    obtain ⟨rfl, p₀, hstep⟩ := step_of_last hlast
    dsimp only at hcall hstep hi
    subst hcall
    rw [hlast]
    cases hstep with
    | refunded reference _ old status ho hst =>
        obtain rfl : _ = intent := Option.some.inj ((put_intents_self _ _ _).symm.trans hi)
        exact congrArg some (hst.trans (if_pos hle))

/-- **The fake and the state machine.** After any calls, the status of an intent is what was last
reported of it; which of its changes are legal moves; and which calls succeed. -/
theorem follows (calls : List ProviderCall) (r : ProviderReference) : Follows calls r where
  status := statusOf_run
  refunded := statusOf_refunded_iff
  moves call _ _ hi hj hne := (exec_step call _).moves hi hj hne (tracked_of_run hi)
  amount call _ _ hi hj hcall := (exec_step call _).amount hi hj hcall
  capture _ := exec_capture_isSome
  refund _ := exec_refund_isSome

end

/-- A refunded intent is captured again; and refunds of 10 and 15 euros leave an intent of 25 euros
partially refunded. -/
theorem recapture_leaves_refunded :
    let pi : ProviderReference := ⟨"fake_pi_1"⟩
    let captured : List ProviderCall := [.createIntent (.euros 2500), .capture pi (.euros 2500)]
    (run (captured ++ [.refund pi (.euros 2500)])).statusOf pi = some .refunded ∧
      (run (captured ++ [.refund pi (.euros 2500), .capture pi (.euros 2500)])).statusOf pi =
        some .captured ∧
      PaymentStatus.refunded.canTransitionTo .captured = false ∧
      (run (captured ++ [.refund pi (.euros 1000), .refund pi (.euros 1500)])).statusOf pi =
        some .partiallyRefunded :=
  ⟨rfl, rfl, rfl, rfl⟩

end AuthApp.Payments.FakePaymentProvider
