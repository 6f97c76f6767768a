import AuthApp.Payments.Authentic
import AuthApp.Payments.ChargeRefunded

/-!
# Payments — the receipts of deliveries

What `payments.webhook_events` holds after any number of deliveries, one after another with storage
healthy.  A rejected delivery has a row of its own; a verified one has only if its event id is not
recorded yet.

* `rows_handled`: the row that one delivery adds, if it does.
* `Deliveries.rows_eq`: deliveries of new events have a row each, in order.
* `receipts_iff`: exactly when every delivery has its receipt.
-/

namespace AuthApp.Payments
open Interleave
variable {π : Type}

/-- One delivery, with the verifier as it stands when it comes in. -/
structure Received where
  verifier : WebhookVerifier
  payload : List UInt8
  signature : Option String

namespace Received

/-- The id of the event, if the delivery is verified. -/
def eventId (d : Received) : Option String :=
  match d.verifier.verify d.payload d.signature with
  | .ok event => some event.eventId
  | .error _ => none

/-- The receipt of the delivery. -/
def row (d : Received) : WebhookRow :=
  match d.verifier.verify d.payload d.signature with
  | .ok event => ⟨some event.eventId, d.payload, none, true, none⟩
  | .error e => ⟨none, d.payload, d.signature, false, some e.reason⟩

/-- The state that the delivery leaves. -/
def handled (P : PaymentProvider π) (d : Received) (db : PayDb π) : PayDb π :=
  (deliver d.verifier P d.payload d.signature db).2

theorem payload_row (d : Received) : d.row.payload = d.payload := by
  rw [row]
  split <;> rfl

theorem eventId_row (d : Received) : d.row.eventId = d.eventId := by
  rw [row, eventId]
  split <;> rfl

end Received

/-! ### One delivery -/

theorem webhookEvents_receive (event : WebhookEvent) (db : PayDb π) :
    (receive event db).2.webhookEvents = db.webhookEvents := by
  rw [receive]
  split
  · split
    · rfl
    · split
      · exact db.transition_frame _ _ _ _ _
      · rfl
  · rfl

/-- **One delivery.**  It adds its receipt, unless it is verified and its event id is recorded. -/
theorem rows_handled (P : PaymentProvider π) (d : Received) (db : PayDb π) :
    (d.handled P db).webhookEvents.rows =
      if ∃ id, d.eventId = some id ∧ db.webhookEvents.Claimed id then db.webhookEvents.rows
      else db.webhookEvents.rows ++ [d.row] := by
  rw [Received.handled]
  cases hv : d.verifier.verify d.payload d.signature with
  | error e =>
      have hid : d.eventId = none := by rw [Received.eventId, hv]
      have hrow : d.row = ⟨none, d.payload, d.signature, false, some e.reason⟩ := by
        rw [Received.row, hv]
      rw [if_neg (by simp [hid]), hrow, deliver, WebhookService.handle, hv]
      rfl
  | ok event =>
      have hid : d.eventId = some event.eventId := by rw [Received.eventId, hv]
      have hrow : d.row = ⟨some event.eventId, d.payload, none, true, none⟩ := by
        rw [Received.row, hv]
      rw [deliver_eq hv, hid, hrow]
      by_cases hc : db.webhookEvents.Claimed event.eventId
      · rw [if_pos hc, if_pos ⟨_, rfl, hc⟩]
      · rw [if_neg hc, if_neg (by simpa using hc), webhookEvents_receive, PayDb.claim,
          WebhookTable.rows_claim hc]

/-! ### Any number of deliveries -/

/-- The deliveries are handled one after another; between them, anything else may happen that
leaves the recorded events alone. -/
inductive Deliveries (P : PaymentProvider π) (db : PayDb π) : List Received → PayDb π → Prop where
  | none : Deliveries P db [] db
  | handled {ds : List Received} {db' : PayDb π} (h : Deliveries P db ds db') (d : Received) :
      Deliveries P db (ds ++ [d]) (d.handled P db')
  | other {ds : List Received} {db' db'' : PayDb π} (h : Deliveries P db ds db')
      (hsame : db''.webhookEvents = db'.webhookEvents) : Deliveries P db ds db''

/-- Every delivery has a row with its payload, and there are as many new rows as deliveries. -/
structure Receipts (db : PayDb π) (ds : List Received) (db' : PayDb π) : Prop where
  kept : ∀ d ∈ ds, ∃ row ∈ db'.webhookEvents.rows, row.payload = d.payload
  count : db'.webhookEvents.rows.length = db.webhookEvents.rows.length + ds.length

section
variable {P : PaymentProvider π} {db db' : PayDb π} {ds : List Received}

/-- The event ids that are recorded, and those of the deliveries. -/
def eventIds (db : PayDb π) (ds : List Received) : List String :=
  db.webhookEvents.rows.filterMap WebhookRow.eventId ++ ds.filterMap Received.eventId

theorem eventIds_append (db : PayDb π) (ds : List Received) (d : Received) :
    eventIds db (ds ++ [d]) = eventIds db ds ++ d.eventId.toList := by
  rw [eventIds, List.filterMap_append, ← List.append_assoc]
  cases h : d.eventId <;> simp [eventIds, h]

theorem filterMap_eventId_rows (db : PayDb π) (ds : List Received) :
    (db.webhookEvents.rows ++ ds.map Received.row).filterMap WebhookRow.eventId =
      eventIds db ds := by
  rw [List.filterMap_append, List.filterMap_map, eventIds]
  congr 2
  exact funext Received.eventId_row

/-- Deliveries of events that are new have a row each, in order. -/
theorem Deliveries.rows_eq (h : Deliveries P db ds db') (hnew : (eventIds db ds).Nodup) :
    db'.webhookEvents.rows = db.webhookEvents.rows ++ ds.map Received.row := by
  induction h with
  | none => rw [List.map_nil, List.append_nil]
  | other h hsame ih => rw [hsame, ih hnew]
  | @handled ds db' h d ih =>
      rw [eventIds_append, List.nodup_append] at hnew
      have hrows := ih hnew.1
      have hfresh : ¬ ∃ id, d.eventId = some id ∧ db'.webhookEvents.Claimed id := by
        rintro ⟨id, hid, hc⟩
        rw [WebhookTable.Claimed, hrows, filterMap_eventId_rows] at hc
        exact hnew.2.2 id hc id (by simp [hid]) rfl
      rw [rows_handled, if_neg hfresh, hrows, List.map_append, List.append_assoc]
      rfl

/-- A delivery adds one row at most; when each has added one, they are the receipts. -/
theorem Deliveries.length_le (h : Deliveries P db ds db') :
    db'.webhookEvents.rows.length ≤ db.webhookEvents.rows.length + ds.length ∧
      (db'.webhookEvents.rows.length = db.webhookEvents.rows.length + ds.length →
        db'.webhookEvents.rows = db.webhookEvents.rows ++ ds.map Received.row) := by
  induction h with
  | none => exact ⟨le_refl _, fun _ => by rw [List.map_nil, List.append_nil]⟩
  | other h hsame ih => rwa [hsame]
  | @handled ds db' h d ih =>
      rw [rows_handled, List.length_append, List.length_singleton]
      split
      · exact ⟨by omega, fun heq => absurd ih.1 (by omega)⟩
      · rw [List.length_append, List.length_singleton]
        refine ⟨by omega, fun heq => ?_⟩
        rw [ih.2 (by omega), List.map_append, List.append_assoc]
        rfl

/-- **When every delivery has its receipt.**  Exactly when the event ids of the verified ones are
distinct, and none of them was recorded before. -/
theorem receipts_iff (h : Deliveries P db ds db') :
    Receipts db ds db' ↔ (eventIds db ds).Nodup := by
  constructor
  · intro hreceipts
    rw [← filterMap_eventId_rows, ← h.length_le.2 hreceipts.count]
    exact db'.webhookEvents.unique
  · intro hnew
    have hrows := h.rows_eq hnew
    refine ⟨fun d hd => ⟨d.row, ?_, d.payload_row⟩, by rw [hrows]; simp⟩
    rw [hrows]
    exact List.mem_append_right _ (List.mem_map_of_mem hd)

end

/-! ### A redelivery -/

section
open StripeWebhookVerifier Sessions

/-- The body `succeeded` with its signature. -/
def succeededReceived : Received where
  verifier := (ofSigned succeeded).verifierAt (fromEpoch 1700000100)
  payload := asBytes succeeded.body
  signature := some succeeded.header

def authorizedDb : PayDb FakePaymentProvider := .single (samplePayment .authorized) [] .new 0

/-- Without its signature, and again when it is too old. -/
def unsignedReceived : Received := { succeededReceived with signature := none }

def staleReceived : Received :=
  { succeededReceived with verifier := (ofSigned succeeded).verifierAt (fromEpoch 1700001000) }

def chargeReceived : Received where
  verifier := (ofSigned partialCharge).verifierAt (fromEpoch 1700000100)
  payload := asBytes partialCharge.body
  signature := some partialCharge.header

/-- Two events, and the first also without a signature and too late: four rows. -/
theorem succeeded_received : ∃ db',
    Receipts authorizedDb [unsignedReceived, succeededReceived, chargeReceived, staleReceived] db' ∧
      unsignedReceived.row.accepted = false ∧ staleReceived.row.accepted = false :=
  ⟨_, (receipts_iff (.handled (.handled (.handled (.handled (P := FakePaymentProvider.port) .none
    unsignedReceived) succeededReceived) chargeReceived) staleReceived)).mpr (by decide +kernel),
    by decide +kernel, by decide +kernel⟩

/-- Delivered twice, it has one row. -/
theorem succeeded_twice : ∃ db',
    Deliveries FakePaymentProvider.port authorizedDb [succeededReceived, succeededReceived] db' ∧
      db'.webhookEvents.rows.length = 1 ∧
      ¬ Receipts authorizedDb [succeededReceived, succeededReceived] db' := by
  refine ⟨_, .handled (.handled .none succeededReceived) succeededReceived, ?_, fun h => ?_⟩
  · decide +kernel
  · exact absurd h.count (by decide +kernel)

end

end AuthApp.Payments
