import AuthApp.Payments.Redelivery
import AuthApp.Payments.StripeWebhook

/-!
# Payments — partial refunds reported by a webhook

Stripe sends `charge.refunded` for every refund of a charge, and says in the charge whether it is
refunded in full.  `distill` does not look: it reports `Refunded`, and leaves the distinction to the
state machine, which allows `Refunded` after `Captured` and after `PartiallyRefunded` alike.

* `attempt_cases`: a delivery moves a payment to the status that its event reports, or moves none.
* `chargeRefunded_iff`: when a payment is `Refunded` only by a charge that is refunded in full.
* `partialCharge_refunds`: a refund of 5 euros out of 25.
-/

namespace AuthApp.Payments
open Interleave Accounts

variable {π : Type}

/-! ### What a delivery does to the statuses -/

/-- A delivery that has claimed `event` moves the payment `row` to `next`, under the fates of its
calls from there on.  The clock, its second call, does not fail. -/
structure Applies (event : WebhookEvent) (fates : List Fate) (db : PayDb π) (next : PaymentStatus)
    (row : PaymentRow) : Prop where
  through : ∃ clock write rest, fates = .served :: clock :: write :: rest ∧ write.Lands
  found : ∃ reference, event.reference = some reference ∧
    db.payments.findByProviderReference reference = some row
  reports : event.newStatus = some next
  legal : row.status.canTransitionTo next = true

/-- A delivery of `event` does. -/
def Acts (event : WebhookEvent) (fates : List Fate) (db : PayDb π) (next : PaymentStatus)
    (row : PaymentRow) : Prop :=
  ¬ db.webhookEvents.Claimed event.eventId ∧
    ∃ rest, fates = .served :: rest ∧ Applies event rest db next row

/-- What a delivery answers after its write. -/
def WebhookOutcome.ofWrite : Except PaymentRepositoryError Unit → WebhookOutcome
  | .ok () => .processed
  | .error .conflict => .ignored
  | .error e => .error e.display

/-- The part of `handle` that follows a claim. -/
def applyEvent (event : WebhookEvent) : Prog paySig WebhookOutcome :=
  match event.reference, event.newStatus with
  | some reference, some next =>
      .call (.findByProviderReference reference) fun
        | .error e => .ret (.error e.display)
        | .ok none => .ret .ignored
        | .ok (some payment) =>
            if payment.status.canTransitionTo next then
              .call .now fun now =>
                .call (.transition payment.id payment.status next (some "provider_webhook") now)
                  fun r => .ret (.ofWrite r)
            else .ret .ignored
  | _, _ => .ret .ignored

section
variable {verifier : WebhookVerifier} {P : PaymentProvider π} {payload : List UInt8}
  {signature : Option String} {db : PayDb π} {event : WebhookEvent}

theorem handle_eq (hv : verifier.verify payload signature = .ok event) :
    WebhookService.handle verifier payload signature =
      .call (.recordAndClaim event.eventId payload) fun
        | .error e => .ret (.error e.display)
        | .ok false => .ret .duplicate
        | .ok true => applyEvent event := by
  rw [WebhookService.handle, hv]
  refine congrArg (Prog.call _) (funext fun r => ?_)
  rcases r with e | _ | _
  · rfl
  · rfl
  · unfold applyEvent
    cases event.reference with
    | none => rfl
    | some reference =>
        cases event.newStatus with
        | none => rfl
        | some next =>
          refine congrArg (Prog.call _) (funext fun r => ?_)
          rcases r with e | _ | payment
          · rfl
          · rfl
          · simp only [Prog.bind_ret]
            split
            · refine congrArg (Prog.call _) (funext fun now => ?_)
              refine congrArg (Prog.call _) (funext fun r => ?_)
              rcases r with (_ | _) | _ <;> rfl
            · rfl

/-- A transition that finds the status it expects, and lands, moves one payment. -/
theorem statusOf_transition (P : PaymentProvider π) {fate : Fate} (hl : fate.Lands)
    {row : PaymentRow} (hrow : db.payments.find row.id = some row) (next : PaymentStatus)
    (reason : Option String) (now : Nat) (id : PaymentId) :
    (PayDb.exec P fate (.transition row.id row.status next reason now) db).2.statusOf id =
      if row.id = id then some next else db.statusOf id := by
  have hexec : (PayDb.exec P fate (.transition row.id row.status next reason now) db).2 =
      db.write row.id row.status next reason ((now / nanosPerSec : Nat) : Int) := by
    rw [PayDb.exec, Fate.under_of_lands (S := paySig) PayOp.fault (PayDb.serve P) hl, PayDb.serve,
      PayDb.transition_ok hrow]
  rw [hexec, PayDb.statusOf_write]
  by_cases h : row.id = id
  · rw [if_pos h, if_pos h, PayDb.statusOf, ← h, hrow]
    rfl
  · rw [if_neg h, if_neg h]

theorem exec_now (P : PaymentProvider π) (fate : Fate) (db : PayDb π) :
    PayDb.exec P fate .now db = ((db.clock : Int), db) := by
  cases fate <;> rfl

theorem applyEvent_of_applies {fates : List Fate} {next : PaymentStatus} {row : PaymentRow}
    (h : Applies event fates db next row) (id : PaymentId) :
    ((applyEvent event).runFates (PayDb.exec P) fates db).2.statusOf id =
      if row.id = id then some next else db.statusOf id := by
  obtain ⟨clock, write, rest, rfl, hl⟩ := h.through
  obtain ⟨reference, hr, hf⟩ := h.found
  have hlookup : PayDb.exec P .served (.findByProviderReference reference) db =
      (.ok (some (rowToPayment row)), db) := by
    rw [PayDb.exec_served, PayDb.serve, hf]
    rfl
  have hlegal : (rowToPayment row).status.canTransitionTo next = true := h.legal
  rw [applyEvent, hr, h.reports]
  dsimp only
  rw [Prog.runFates_cons, hlookup]
  dsimp only
  rw [if_pos hlegal, Prog.runFates_cons, exec_now, Prog.runFates_cons, Prog.runFates_ret]
  exact statusOf_transition P hl (PaymentTable.find_of_reference hf).1 next
    (some "provider_webhook") db.clock id

theorem applyEvent_idle {fates : List Fate}
    (h : ∀ next row, ¬ Applies event fates db next row) (id : PaymentId) :
    ((applyEvent event).runFates (PayDb.exec P) fates db).2.statusOf id = db.statusOf id := by
  have hret : ∀ (outcome : WebhookOutcome) (rest : List Fate),
      ((Prog.ret outcome : Prog paySig WebhookOutcome).runFates (PayDb.exec P) rest
        db).2.statusOf id = db.statusOf id := fun outcome rest => by rw [Prog.runFates_ret]
  rw [applyEvent]
  cases hr : event.reference with
  | none => exact hret _ fates
  | some reference =>
  cases hn : event.newStatus with
  | none => exact hret _ fates
  | some next =>
  dsimp only
  cases fates with
  | nil => rfl
  | cons lookup rest =>
  rw [Prog.runFates_cons]
  cases lookup with
  | refused msg => exact hret _ rest
  | unacknowledged msg => exact hret _ rest
  | served =>
  rw [PayDb.exec_served, PayDb.serve]
  cases hf : db.payments.findByProviderReference reference with
  | none => exact hret _ rest
  | some row =>
  dsimp only [Option.map_some]
  by_cases hl : (rowToPayment row).status.canTransitionTo next = true
  · rw [if_pos hl]
    rcases rest with - | ⟨clock, - | ⟨write, rest⟩⟩
    · rfl
    · rw [Prog.runFates_cons, exec_now, Prog.runFates_nil]
    · rw [Prog.runFates_cons, exec_now, Prog.runFates_cons, Prog.runFates_ret]
      cases write with
      | refused msg => rfl
      | served => exact absurd ⟨⟨clock, _, rest, rfl, trivial⟩, ⟨_, hr, hf⟩, hn, hl⟩ (h next row)
      | unacknowledged msg =>
          exact absurd ⟨⟨clock, _, rest, rfl, trivial⟩, ⟨_, hr, hf⟩, hn, hl⟩ (h next row)
  · rw [if_neg hl]
    exact hret _ rest

/-- **One delivery, under any fates.** It moves one payment to the status that its event reports,
or it moves none. -/
theorem attempt_cases (hv : verifier.verify payload signature = .ok event) (fates : List Fate)
    (answered : Bool) (db : PayDb π) :
    (∃ next row, Acts event fates db next row ∧
        ∀ id, (attempt verifier P payload signature fates answered db).2.statusOf id =
          if row.id = id then some next else db.statusOf id) ∨
      (∀ next row, ¬ Acts event fates db next row) ∧
        ∀ id, (attempt verifier P payload signature fates answered db).2.statusOf id =
          db.statusOf id := by
  rw [attempt, handle_eq hv]
  dsimp only
  rcases fates with - | ⟨claim, rest⟩
  · refine .inr ⟨?_, fun _ => rfl⟩
    rintro next row ⟨-, _, ⟨⟩, -⟩
  have hkept : (PayDb.exec P claim (.recordAndClaim event.eventId payload) db).2.payments =
      db.payments := (PayDb.exec_payments P claim rfl db).1
  rw [Prog.runFates_cons]
  cases claim with
  | refused msg =>
      refine .inr ⟨?_, fun id => ?_⟩
      · rintro next row ⟨-, _, ⟨⟩, -⟩
      · exact congrArg (fun s : PayDb π => s.statusOf id)
          (congrArg Prod.snd (Prog.runFates_ret (PayDb.exec P) rest _ db))
  | unacknowledged msg =>
      refine .inr ⟨?_, fun id => ?_⟩
      · rintro next row ⟨-, _, ⟨⟩, -⟩
      · refine Eq.trans ?_ (PayDb.statusOf_congr hkept id)
        exact congrArg (fun s : PayDb π => s.statusOf id)
          (congrArg Prod.snd (Prog.runFates_ret (PayDb.exec P) rest _ _))
  | served =>
      have hclaim : PayDb.exec P .served (.recordAndClaim event.eventId payload) db =
          (.ok (db.webhookEvents.claim event.eventId payload).1, db.claim event.eventId payload) :=
        rfl
      rw [hclaim]
      by_cases hold : db.webhookEvents.Claimed event.eventId
      · refine .inr ⟨fun _ _ h => h.1 hold, fun id => ?_⟩
        rw [WebhookTable.claim_of_claimed hold]
        dsimp only
        rw [Prog.runFates_ret]
        rfl
      · rw [(WebhookTable.claim_fst db.webhookEvents event.eventId payload).mpr hold]
        dsimp only
        by_cases h : ∃ next row, Applies event rest db next row
        · obtain ⟨next, row, h⟩ := h
          have happ : Applies event rest (db.claim event.eventId payload) next row :=
            ⟨h.through, h.found, h.reports, h.legal⟩
          exact .inl ⟨next, row, ⟨hold, rest, rfl, h⟩, applyEvent_of_applies happ⟩
        · have hno : ∀ next row, ¬ Applies event rest (db.claim event.eventId payload) next row :=
            fun next row happ =>
              h ⟨next, row, happ.through, happ.found, happ.reports, happ.legal⟩
          refine .inr ⟨?_, applyEvent_idle hno⟩
          rintro next row ⟨-, _, ⟨⟩, happ⟩
          exact h ⟨next, row, happ⟩

end

/-! ### A charge that is refunded -/

def jsonField (name : String) : Json → Option Json
  | .object fields => (Json.field? name fields).join
  | _ => none

/-- The charge in the event says that it is refunded in full. -/
def ChargeInFull (tree : Json) : Prop :=
  ((jsonField "data" tree).bind (jsonField "object")).bind (jsonField "refunded") =
    some (.bool true)

/-- A payment is moved to `Refunded` only when the charge is refunded in full, and otherwise to
`PartiallyRefunded` at most. -/
def RefundsInFull (tree : Json) (before after : PayDb π) : Prop :=
  ∀ id, after.statusOf id ≠ before.statusOf id →
    (after.statusOf id = some .refunded → ChargeInFull tree) ∧
      (¬ ChargeInFull tree → after.statusOf id = some .partiallyRefunded)

/-- The fates under which a delivery comes to its write, and lands it. -/
def Through (fates : List Fate) : Prop :=
  ∃ clock write rest, fates = .served :: .served :: clock :: write :: rest ∧ write.Lands

/-- The event is not new, or a call of its delivery fails, or no payment that was captured is
known by the intent of the charge. -/
def Idle (charge : StripeEvent) (fates : List Fate) (db : PayDb π) : Prop :=
  db.webhookEvents.Claimed charge.id ∨ ¬ Through fates ∨
    ∀ intent row, charge.data.object.paymentIntent = some intent →
      db.payments.findByProviderReference ⟨intent⟩ = some row →
        row.status ≠ .captured ∧ row.status ≠ .partiallyRefunded

theorem canTransitionTo_refunded {s : PaymentStatus} :
    s.canTransitionTo .refunded = true ↔ s = .captured ∨ s = .partiallyRefunded := by
  cases s <;> decide

section
variable {charge : StripeEvent} {fates : List Fate} {db : PayDb π}

theorem distill_chargeRefunded (htype : charge.eventType = "charge.refunded") :
    distill charge =
      ⟨charge.id, charge.data.object.paymentIntent.map .mk, some .refunded⟩ := by
  rw [distill, htype]
  rfl

/-- A delivery of the event acts unless it is idle. -/
theorem idle_iff (htype : charge.eventType = "charge.refunded") :
    Idle charge fates db ↔ ∀ next row, ¬ Acts (distill charge) fates db next row := by
  rw [distill_chargeRefunded htype]
  constructor
  · rintro (hold | hno | hstatus) next row ⟨hfresh, rest, rfl, h⟩
    · exact hfresh hold
    · obtain ⟨clock, write, rest', rfl, hl⟩ := h.through
      exact hno ⟨clock, write, rest', rfl, hl⟩
    · obtain ⟨reference, hr, hf⟩ := h.found
      obtain ⟨intent, hi, rfl⟩ := Option.map_eq_some_iff.mp hr
      obtain rfl : .refunded = next := Option.some.inj h.reports
      obtain ⟨hc, hp⟩ := hstatus intent row hi hf
      exact (canTransitionTo_refunded.mp h.legal).elim hc hp
  · intro h
    by_contra hidle
    simp only [Idle, not_or, not_not, not_forall] at hidle
    obtain ⟨hfresh, ⟨clock, write, rest, rfl, hl⟩, intent, row, hi, hf, hstatus⟩ := hidle
    refine h .refunded row ⟨hfresh, _, rfl, ⟨clock, write, rest, rfl, hl⟩,
      ⟨⟨intent⟩, by rw [hi]; rfl, hf⟩, rfl, canTransitionTo_refunded.mpr ?_⟩
    tauto

/-- **Partial refunds.** A `charge.refunded` event moves payments as the charge says exactly when
the charge is refunded in full, or the delivery is idle. -/
theorem chargeRefunded_iff {V : StripeWebhookVerifier} {P : PaymentProvider π} {now : Int}
    {payload : List UInt8} {signature : Option String} {tree : Json} {answered : Bool}
    (hgenuine : V.Genuine now payload signature)
    (htree : V.serde.parseSlice payload = some tree)
    (hcharge : StripeEvent.decode tree = some charge)
    (htype : charge.eventType = "charge.refunded") :
    RefundsInFull tree db
        (attempt (V.verifierAt now) P payload signature fates answered db).2 ↔
      ChargeInFull tree ∨ Idle charge fates db := by
  have hevent : V.event payload = some (distill charge) := by
    rw [StripeWebhookVerifier.event, htree, Option.bind_some, hcharge]
    rfl
  have hv : (V.verifierAt now).verify payload signature = .ok (distill charge) :=
    StripeWebhookVerifier.verify_eq_ok_iff.mpr ⟨hgenuine, hevent⟩
  rw [idle_iff htype]
  rcases attempt_cases (P := P) hv fates answered db with ⟨next, row, hacts, hafter⟩ | ⟨hno, hafter⟩
  · have hnext : next = .refunded := by
      have hreports := hacts.2.choose_spec.2.reports
      rw [distill_chargeRefunded htype] at hreports
      exact (Option.some.inj hreports).symm
    subst hnext
    have hrow : db.statusOf row.id ≠ some .refunded := by
      obtain ⟨-, rest, -, happ⟩ := hacts
      obtain ⟨reference, -, hf⟩ := happ.found
      rw [PayDb.statusOf, (PaymentTable.find_of_reference hf).1]
      intro hs
      have hlegal := happ.legal
      rw [Option.some.inj hs] at hlegal
      exact absurd hlegal (by decide)
    have hmoved := (hafter row.id).trans (if_pos rfl)
    constructor
    · intro h
      exact .inl ((h row.id (hmoved ▸ hrow.symm)).1 hmoved)
    · rintro (hfull | hidle) id hne
      · exact ⟨fun _ => hfull, fun hno => absurd hfull hno⟩
      · exact absurd hacts (hidle _ _)
  · exact iff_of_true (fun id hne => absurd (hafter id) hne) (.inr hno)

end

/-! ### Five euros out of twenty-five -/

open StripeWebhookVerifier Sessions

def partialCharge : Signed where
  timestamp := 1700000000
  body := "\x7b\"id\":\"evt_r\",\"type\":\"charge.refunded\",\"data\":\x7b\"object\":" ++
    "\x7b\"id\":\"ch_1\",\"payment_intent\":\"pi_1\",\"amount\":2500," ++
    "\"amount_refunded\":500,\"refunded\":false\x7d\x7d\x7d"
  tree := .object [("id", .string "evt_r"), ("type", .string "charge.refunded"),
    ("data", .object [("object", .object [("id", .string "ch_1"),
      ("payment_intent", .string "pi_1"), ("amount", .int 2500), ("amount_refunded", .int 500),
      ("refunded", .bool false)])])]
  tag := [202, 255, 22, 23, 24, 49, 128, 137, 232, 167, 98, 219, 219, 9, 16, 127, 1, 130, 49, 72, 7,
    157, 56, 148, 164, 60, 203, 73, 165, 22, 217, 139]

def partialEvent : StripeEvent :=
  ⟨"evt_r", "charge.refunded", ⟨⟨some "ch_1", some "pi_1"⟩⟩⟩

def chargedDb : PayDb FakePaymentProvider := .single (samplePayment .captured) [] .new 0

/-- The delivery of the event, 100 seconds after it was signed, with storage healthy. -/
def partialDelivery : PayDb FakePaymentProvider :=
  (attempt ((ofSigned partialCharge).verifierAt (fromEpoch 1700000100))
    FakePaymentProvider.port (asBytes partialCharge.body) (some partialCharge.header)
    (List.replicate 4 .served) true chargedDb).2

theorem partialCharge_genuine : (ofSigned partialCharge).Genuine (fromEpoch 1700000100)
    (asBytes partialCharge.body) (some partialCharge.header) :=
  genuine_of_header (by decide) (by decide) (by decide +kernel) (by decide +kernel)

theorem partialCharge_not_full : ¬ ChargeInFull partialCharge.tree := by
  have hfalse : ((jsonField "data" partialCharge.tree).bind (jsonField "object")).bind
      (jsonField "refunded") = some (.bool false) := rfl
  rw [ChargeInFull, hfalse]
  nofun

/-- The payment is `Refunded`, although the charge is not refunded in full. -/
theorem partialCharge_refunds :
    partialDelivery.statusOf ⟨"pay_1"⟩ = some .refunded ∧
      ¬ RefundsInFull partialCharge.tree chargedDb partialDelivery := by
  have hmoved : partialDelivery.statusOf ⟨"pay_1"⟩ = some .refunded := by decide +kernel
  refine ⟨hmoved, fun h => partialCharge_not_full ((h ⟨"pay_1"⟩ ?_).1 hmoved)⟩
  rw [hmoved]
  decide

theorem partialCharge_iff :
    RefundsInFull partialCharge.tree chargedDb partialDelivery ↔
      ChargeInFull partialCharge.tree ∨
        Idle partialEvent (List.replicate 4 .served) chargedDb :=
  chargeRefunded_iff partialCharge_genuine rfl rfl rfl

end AuthApp.Payments
