import AuthApp.Payments.Payment
import AuthApp.Interleave.Fate
import AuthApp.Table.Keyed

/-!
# Payments — the Postgres store

The tables of the `payments` schema, what one call of `PgPaymentRepository` or
`PgWebhookEventStore` does to them, and the signature of those calls as atomic operations.
A TEXT column holding a status is the status it parses to (`PaymentStatus.parse_asStr`).

The database answers each call in one of three ways (`Fate`): it serves it, it refuses it with
nothing written, or it serves it and the answer is lost, so that the caller sees an error.
The provider behind the `PaymentProvider` port keeps a state of its own, and its failures are
answers of its own.
-/

namespace AuthApp.Payments
open Interleave

/-! ### Tables -/

/-- A row of `payments.payments`; its instants are epoch seconds. -/
structure PaymentRow where
  id : PaymentId
  providerReference : Option ProviderReference
  amount : Money
  status : PaymentStatus
  createdAt : Int
  updatedAt : Int
  deriving DecidableEq

/-- A row of `payments.payment_status_history`. -/
structure HistoryRow where
  paymentId : PaymentId
  fromStatus : Option PaymentStatus
  toStatus : PaymentStatus
  reason : Option String
  occurredAt : Int
  deriving DecidableEq

/-- A row of `payments.webhook_events`. -/
structure WebhookRow where
  eventId : Option String
  payload : List UInt8
  signature : Option String
  accepted : Bool
  reason : Option String
  deriving DecidableEq

/-- `payments.payments`, with its unique index on the provider's reference. -/
structure PaymentTable where
  table : Table PaymentRow.id
  refs : table.Unique PaymentRow.providerReference

/-- `payments.webhook_events`, with its unique index on the event id. -/
structure WebhookTable where
  rows : List WebhookRow
  unique : (rows.filterMap WebhookRow.eventId).Nodup

def rowToPayment (row : PaymentRow) : Payment where
  id := row.id
  providerReference := row.providerReference
  amount := row.amount
  status := row.status
  createdAt := fromEpoch row.createdAt
  updatedAt := fromEpoch row.updatedAt

def rowToChange (row : HistoryRow) : PaymentStatusChange where
  paymentId := row.paymentId
  fromStatus := row.fromStatus
  toStatus := row.toStatus
  reason := row.reason
  occurredAt := fromEpoch row.occurredAt

namespace PaymentTable

def empty : PaymentTable := ⟨.empty, fun _ h => absurd h List.not_mem_nil⟩

/-- The table of one row. -/
def single (row : PaymentRow) : PaymentTable where
  table := ⟨[row], List.nodup_singleton _⟩
  refs := by
    intro r hr s hs _ _ _
    rw [List.mem_singleton.mp hr, List.mem_singleton.mp hs]

def find (t : PaymentTable) (id : PaymentId) : Option PaymentRow := t.table.find? id

def findByProviderReference (t : PaymentTable) (reference : ProviderReference) :
    Option PaymentRow :=
  t.table.findBy? PaymentRow.providerReference reference

/-- `UPDATE ... SET status, updated_at WHERE id = ...`, the status guard left to the caller. -/
def setStatus (t : PaymentTable) (id : PaymentId) (next : PaymentStatus) (updatedAt : Int) :
    PaymentTable where
  table := t.table.modify id (fun r => { r with status := next, updatedAt }) fun _ => rfl
  refs := t.refs.modify id _ _ fun _ => rfl

theorem id_of_find {t : PaymentTable} {id : PaymentId} {row : PaymentRow}
    (h : t.find id = some row) : row.id = id :=
  Table.key_of_find? h

theorem find_setStatus (t : PaymentTable) (id : PaymentId) (next : PaymentStatus)
    (updatedAt : Int) (j : PaymentId) :
    (t.setStatus id next updatedAt).find j =
      if id = j then (t.find j).map fun r => { r with status := next, updatedAt }
      else t.find j :=
  Table.find?_modify t.table id (fun r => { r with status := next, updatedAt }) (fun _ => rfl) j

/-- `INSERT INTO payments.payments`, unless the id is taken. -/
def insert (t : PaymentTable) (id : PaymentId) (amount : Money) (createdAt : Int) :
    Option PaymentTable :=
  match h : t.table.insert? ⟨id, none, amount, .created, createdAt, createdAt⟩ with
  | none => none
  | some u => some ⟨u, t.refs.insert h fun _ hb => by cases hb⟩

/-- `UPDATE ... SET provider_reference WHERE id = ...`, unless another row has the reference. -/
def setProviderReference (t : PaymentTable) (id : PaymentId) (reference : ProviderReference) :
    Option PaymentTable :=
  if h : t.find id ≠ none ∧ ∃ r ∈ t.table.rows, r.id ≠ id ∧ r.providerReference = some reference
  then none
  else some
    { table := t.table.modify id (fun r => { r with providerReference := some reference })
        fun _ => rfl
      refs := by
        cases hf : t.find id with
        | none => rw [Table.modify_eq_self _ _ hf]; exact t.refs
        | some row =>
            have hfree : ∀ r ∈ t.table.rows, r.id ≠ id → r.providerReference ≠ some reference :=
              fun r hr hi hb => h ⟨by simp [hf], r, hr, hi, hb⟩
            intro r hr s hs b hrb hsb
            obtain ⟨r', hr', er⟩ := Table.mem_modify hr
            obtain ⟨s', hs', es⟩ := Table.mem_modify hs
            rcases er with ⟨e, rfl⟩ | ⟨e, rfl⟩ <;> rcases es with ⟨e', rfl⟩ | ⟨e', rfl⟩
            · rw [Table.eq_of_key_eq hr' hs' (e.trans e'.symm)]
            · exact absurd (hsb.trans hrb.symm) (hfree _ hs' e')
            · exact absurd (hrb.trans hsb.symm) (hfree _ hr' e)
            · exact t.refs _ hr' _ hs' b hrb hsb }

/-- A new row has a new id. -/
theorem find_of_insert {t u : PaymentTable} {id : PaymentId} {amount : Money} {createdAt : Int}
    (h : t.insert id amount createdAt = some u) :
    t.find id = none ∧ ∀ j, u.find j =
      if id = j then some ⟨id, none, amount, .created, createdAt, createdAt⟩ else t.find j := by
  rw [insert] at h
  split at h
  · cases h
  · next v hv =>
      cases h
      refine ⟨?_, fun j => Table.find?_insert? hv j⟩
      cases hf : t.find id with
      | none => rfl
      | some row =>
          have hkey : t.table.find? (PaymentRow.id
              ⟨id, none, amount, .created, createdAt, createdAt⟩) = some row := hf
          rw [Table.insert?_eq_none_iff.mpr ⟨row, hkey⟩] at hv
          cases hv

theorem rows_of_insert {t u : PaymentTable} {id : PaymentId} {amount : Money} {createdAt : Int}
    (h : t.insert id amount createdAt = some u) :
    u.table.rows = t.table.rows ++ [⟨id, none, amount, .created, createdAt, createdAt⟩] := by
  rw [insert] at h
  split at h
  · cases h
  · next v hv =>
      cases h
      exact Table.rows_insert? hv

theorem find_of_setProviderReference {t u : PaymentTable} {id : PaymentId}
    {reference : ProviderReference} (h : t.setProviderReference id reference = some u)
    (j : PaymentId) :
    u.find j = if id = j then (t.find j).map fun r => { r with providerReference := some reference }
      else t.find j := by
  rw [setProviderReference] at h
  split at h
  · cases h
  · cases h
    exact Table.find?_modify t.table id
      (fun r => { r with providerReference := some reference }) (fun _ => rfl) j

/-- A reference is refused only when another payment has it. -/
theorem setProviderReference_eq_none {t : PaymentTable} {id : PaymentId}
    {reference : ProviderReference} (h : t.setProviderReference id reference = none) :
    ∃ r ∈ t.table.rows, r.id ≠ id ∧ r.providerReference = some reference := by
  rw [setProviderReference] at h
  split at h
  · next hc => exact hc.2
  · cases h

theorem findByProviderReference_eq_some_iff {t : PaymentTable} {reference : ProviderReference}
    {row : PaymentRow} : t.findByProviderReference reference = some row ↔
      row ∈ t.table.rows ∧ row.providerReference = some reference :=
  Table.findBy?_eq_some_iff t.refs

/-- Once attached, a reference finds the payment it was attached to. -/
theorem findByProviderReference_of_set {t u : PaymentTable} {id : PaymentId}
    {reference : ProviderReference} (h : t.setProviderReference id reference = some u)
    {row : PaymentRow} (hrow : u.find id = some row) :
    u.findByProviderReference reference = some row := by
  refine findByProviderReference_eq_some_iff.mpr ⟨Table.mem_of_find? hrow, ?_⟩
  rw [find_of_setProviderReference h, if_pos rfl] at hrow
  obtain ⟨r, -, rfl⟩ := Option.map_eq_some_iff.mp hrow
  rfl

theorem findByProviderReference_setStatus (t : PaymentTable) (id : PaymentId)
    (next : PaymentStatus) (updatedAt : Int) (reference : ProviderReference) :
    (t.setStatus id next updatedAt).findByProviderReference reference =
      (t.findByProviderReference reference).map fun r =>
        if r.id = id then { r with status := next, updatedAt } else r :=
  Table.findBy?_modify t.table id (fun r => { r with status := next, updatedAt }) (fun _ => rfl)
    (fun _ => rfl) reference

end PaymentTable

namespace WebhookTable

def empty : WebhookTable := ⟨[], List.nodup_nil⟩

/-- The event id is already recorded. -/
def Claimed (t : WebhookTable) (eventId : String) : Prop :=
  eventId ∈ t.rows.filterMap WebhookRow.eventId

instance (t : WebhookTable) (eventId : String) : Decidable (t.Claimed eventId) :=
  inferInstanceAs (Decidable (eventId ∈ t.rows.filterMap WebhookRow.eventId))

/-- The row of a rejected delivery: it carries no event id. -/
def reject (t : WebhookTable) (payload : List UInt8) (signature : Option String)
    (reason : String) : WebhookTable where
  rows := t.rows ++ [⟨none, payload, signature, false, some reason⟩]
  unique := by simpa [List.filterMap_append] using t.unique

/-- `INSERT ... ON CONFLICT DO NOTHING RETURNING id`: `true` when a row was inserted. -/
def claim (t : WebhookTable) (eventId : String) (payload : List UInt8) : Bool × WebhookTable :=
  if h : t.Claimed eventId then (false, t)
  else
    (true,
      { rows := t.rows ++ [⟨some eventId, payload, none, true, none⟩]
        unique := by
          rw [List.filterMap_append]
          refine List.nodup_append.mpr ⟨t.unique, by simp, fun a ha b hb e => h ?_⟩
          obtain rfl : b = eventId := by simpa using hb
          exact e ▸ ha })

theorem claim_of_claimed {t : WebhookTable} {eventId : String} (h : t.Claimed eventId)
    (payload : List UInt8) : t.claim eventId payload = (false, t) := dif_pos h

theorem claim_fst (t : WebhookTable) (eventId : String) (payload : List UInt8) :
    (t.claim eventId payload).1 = true ↔ ¬ t.Claimed eventId := by
  by_cases h : t.Claimed eventId <;> simp [claim, h]

theorem rows_claim {t : WebhookTable} {eventId : String} (h : ¬ t.Claimed eventId)
    (payload : List UInt8) :
    (t.claim eventId payload).2.rows = t.rows ++ [⟨some eventId, payload, none, true, none⟩] := by
  rw [claim, dif_neg h]

/-- Whatever the answer, the id is taken afterwards, and so is every id that was taken before. -/
theorem claimed_claim {t : WebhookTable} {eventId : String} {payload : List UInt8}
    {id : String} : (t.claim eventId payload).2.Claimed id ↔ id = eventId ∨ t.Claimed id := by
  by_cases h : t.Claimed eventId
  · rw [claim_of_claimed h]
    exact ⟨.inr, fun hid => hid.elim (fun e => e ▸ h) fun hid => hid⟩
  · rw [Claimed, rows_claim h, List.filterMap_append, List.mem_append, or_comm]
    simp [Claimed]

theorem claimed_reject {t : WebhookTable} {payload : List UInt8} {signature : Option String}
    {reason : String} {id : String} :
    (t.reject payload signature reason).Claimed id ↔ t.Claimed id := by
  simp [reject, Claimed, List.filterMap_append]

end WebhookTable

/-! ### Queries -/

structure PaymentQuery where
  status : Option PaymentStatus
  createdAfter : Option Int
  createdBefore : Option Int
  limit : Nat
  offset : Nat

def maxListLimit : Nat := 200

/-- The `WHERE` of a query.  A bound before 1970 binds `NULL`, which compares to nothing. -/
def PaymentQuery.selects (q : PaymentQuery) (row : PaymentRow) : Bool :=
  q.status.all (fun s => row.status == s) &&
    q.createdAfter.all (fun t => (toEpoch t).any fun e => decide (e ≤ row.createdAt)) &&
    q.createdBefore.all (fun t => (toEpoch t).any fun e => decide (row.createdAt < e))

/-- `created_at DESC, id DESC`. -/
def newestFirst (a b : PaymentRow) : Bool :=
  decide (b.createdAt < a.createdAt) ||
    (a.createdAt == b.createdAt && decide (b.id.raw ≤ a.id.raw))

/-! ### The database -/

/-- Everything the calls of the payments context read and write. -/
structure PayDb (π : Type) where
  payments : PaymentTable
  history : List HistoryRow
  webhookEvents : WebhookTable
  provider : π
  /-- What the next `gen_random_uuid()` returns. -/
  randomUuid : PaymentId
  /-- The system clock, in nanoseconds since the epoch. -/
  clock : Nat

/-- The calls of the payments context, each one atomic. `PgPaymentRepository::insert` makes two. -/
inductive PayOp where
  | insertPaymentRow (payment : NewPayment)
  | insertHistoryRow (id : PaymentId) (createdAt : Int)
  | find (id : PaymentId)
  | findByProviderReference (reference : ProviderReference)
  | setProviderReference (id : PaymentId) (reference : ProviderReference)
  | transition (id : PaymentId) (expectedCurrent next : PaymentStatus) (reason : Option String)
      (occurredAt : Int)
  | history (id : PaymentId)
  | list (query : PaymentQuery)
  | count (query : PaymentQuery)
  | recordRejected (payload : List UInt8) (signature : Option String) (reason : String)
  | recordAndClaim (eventId : String) (payload : List UInt8)
  | createIntent (amount : Money)
  | capture (reference : ProviderReference) (amount : Money)
  | refund (reference : ProviderReference) (amount : Money)
  | getStatus (reference : ProviderReference)
  | now

abbrev PayOp.Ans : PayOp → Type
  | .insertPaymentRow _ => Except PaymentRepositoryError PaymentId
  | .insertHistoryRow _ _ => Except PaymentRepositoryError Unit
  | .find _ => Except PaymentRepositoryError (Option Payment)
  | .findByProviderReference _ => Except PaymentRepositoryError (Option Payment)
  | .setProviderReference _ _ => Except PaymentRepositoryError Unit
  | .transition .. => Except PaymentRepositoryError Unit
  | .history _ => Except PaymentRepositoryError (List PaymentStatusChange)
  | .list _ => Except PaymentRepositoryError (List Payment)
  | .count _ => Except PaymentRepositoryError Nat
  | .recordRejected .. => Except WebhookStoreError Unit
  | .recordAndClaim .. => Except WebhookStoreError Bool
  | .createIntent _ => Except ProviderError ProviderIntent
  | .capture .. => Except ProviderError ProviderIntent
  | .refund .. => Except ProviderError ProviderIntent
  | .getStatus _ => Except ProviderError PaymentStatus
  | .now => Int

abbrev paySig : Sig := ⟨PayOp, PayOp.Ans⟩

/-- The calls that may write to a payment or to its history. -/
def PayOp.WritesPayment : PayOp → Bool
  | .insertPaymentRow _ | .insertHistoryRow _ _ | .setProviderReference _ _ => true
  | .transition .. => true
  | _ => false

/-- The calls that may write a table. -/
def PayOp.Writes : PayOp → Bool
  | .recordRejected .. | .recordAndClaim .. => true
  | op => op.WritesPayment

namespace PayDb
variable {π : Type}

def historyOf (db : PayDb π) (id : PaymentId) : List HistoryRow :=
  db.history.filter fun r => r.paymentId = id

/-- The stored status of a payment. -/
def statusOf (db : PayDb π) (id : PaymentId) : Option PaymentStatus :=
  (db.payments.find id).map PaymentRow.status

/-- The first statement of `insert`. -/
def insertPaymentRow (db : PayDb π) (payment : NewPayment) :
    Except PaymentRepositoryError PaymentId × PayDb π :=
  match toEpoch payment.createdAt with
  | none => (.error (.backend "null value in column created_at"), db)
  | some createdAt =>
      match db.payments.insert db.randomUuid payment.amount createdAt with
      | none => (.error (.backend "duplicate key value violates payments_pkey"), db)
      | some payments => (.ok db.randomUuid, { db with payments })

/-- The second statement of `insert`: the history row for creation itself. -/
def insertHistoryRow (db : PayDb π) (id : PaymentId) (createdAt : Int) :
    Except PaymentRepositoryError Unit × PayDb π :=
  match db.payments.find id, toEpoch createdAt with
  | none, _ => (.error (.backend "insert violates a foreign key of payment_id"), db)
  | _, none => (.error (.backend "null value in column occurred_at"), db)
  | some _, some occurredAt =>
      (.ok (), { db with history := db.history ++ [⟨id, none, .created, none, occurredAt⟩] })

def setProviderReference (db : PayDb π) (id : PaymentId) (reference : ProviderReference) :
    Except PaymentRepositoryError Unit × PayDb π :=
  match db.payments.setProviderReference id reference with
  | none =>
      (.error (.backend "duplicate key value violates payments_provider_reference_idx"), db)
  | some payments => (.ok (), { db with payments })

/-- The two rows a transition writes. -/
def write (db : PayDb π) (id : PaymentId) (expectedCurrent next : PaymentStatus)
    (reason : Option String) (updatedAt : Int) : PayDb π :=
  { db with
    payments := db.payments.setStatus id next updatedAt
    history := db.history ++ [⟨id, some expectedCurrent, next, reason, updatedAt⟩] }

/-- The guarded `UPDATE` and the history row, in one transaction. -/
def transition (db : PayDb π) (id : PaymentId) (expectedCurrent next : PaymentStatus)
    (reason : Option String) (occurredAt : Int) :
    Except PaymentRepositoryError Unit × PayDb π :=
  match db.payments.find id with
  | none => (.error .conflict, db)
  | some row =>
      if row.status = expectedCurrent then
        match toEpoch occurredAt with
        | none => (.error (.backend "null value in column updated_at"), db)
        | some updatedAt => (.ok (), db.write id expectedCurrent next reason updatedAt)
      else (.error .conflict, db)

def list (db : PayDb π) (q : PaymentQuery) : List Payment :=
  (((db.payments.table.rows.filter q.selects).mergeSort newestFirst).drop q.offset
    |>.take (min (max q.limit 1) maxListLimit)).map rowToPayment

def count (db : PayDb π) (q : PaymentQuery) : Nat :=
  (db.payments.table.rows.filter q.selects).length

/-- What each call does when the database serves it. -/
def serve (P : PaymentProvider π) : Exec paySig (PayDb π)
  | .insertPaymentRow payment, db => db.insertPaymentRow payment
  | .insertHistoryRow id createdAt, db => db.insertHistoryRow id createdAt
  | .find id, db => (.ok ((db.payments.find id).map rowToPayment), db)
  | .findByProviderReference reference, db =>
      (.ok ((db.payments.findByProviderReference reference).map rowToPayment), db)
  | .setProviderReference id reference, db => db.setProviderReference id reference
  | .transition id expectedCurrent next reason occurredAt, db =>
      db.transition id expectedCurrent next reason occurredAt
  | .history id, db => (.ok ((db.historyOf id).map rowToChange), db)
  | .list query, db => (.ok (db.list query), db)
  | .count query, db => (.ok (db.count query), db)
  | .recordRejected payload signature reason, db =>
      (.ok (), { db with webhookEvents := db.webhookEvents.reject payload signature reason })
  | .recordAndClaim eventId payload, db =>
      (.ok (db.webhookEvents.claim eventId payload).1,
        { db with webhookEvents := (db.webhookEvents.claim eventId payload).2 })
  | .createIntent amount, db =>
      let r := P.createIntent amount db.provider
      (r.1, { db with provider := r.2 })
  | .capture reference amount, db =>
      let r := P.capture reference amount db.provider
      (r.1, { db with provider := r.2 })
  | .refund reference amount, db =>
      let r := P.refund reference amount db.provider
      (r.1, { db with provider := r.2 })
  | .getStatus reference, db =>
      let r := P.getStatus reference db.provider
      (r.1, { db with provider := r.2 })
  | .now, db => (db.clock, db)

end PayDb

/-- The database of one payment, with the history given and no event recorded. -/
def PayDb.single {π : Type} (row : PaymentRow) (history : List HistoryRow) (provider : π)
    (clock : Nat) : PayDb π where
  payments := .single row
  history := history
  webhookEvents := .empty
  provider := provider
  randomUuid := row.id
  clock := clock

/-- A payment of 25.00 EUR the provider knows as `pi_1`. -/
def samplePayment (status : PaymentStatus) : PaymentRow where
  id := ⟨"pay_1"⟩
  providerReference := some ⟨"pi_1"⟩
  amount := ⟨2500, ⟨['E', 'U', 'R'], rfl, List.all_eq_true.mp rfl⟩, by decide⟩
  status := status
  createdAt := 0
  updatedAt := 0

/-! ### Failures -/

/-- The error a failing call of the database answers.  The clock and the provider have none. -/
def PayOp.fault (msg : String) : (op : PayOp) → Option op.Ans
  | .insertPaymentRow _ => some (.error (.backend msg))
  | .insertHistoryRow _ _ => some (.error (.backend msg))
  | .find _ => some (.error (.backend msg))
  | .findByProviderReference _ => some (.error (.backend msg))
  | .setProviderReference _ _ => some (.error (.backend msg))
  | .transition .. => some (.error (.backend msg))
  | .history _ => some (.error (.backend msg))
  | .list _ => some (.error (.backend msg))
  | .count _ => some (.error (.backend msg))
  | .recordRejected .. => some (.error ⟨msg⟩)
  | .recordAndClaim .. => some (.error ⟨msg⟩)
  | .createIntent _ => none
  | .capture .. => none
  | .refund .. => none
  | .getStatus _ => none
  | .now => none

namespace PayDb
variable {π : Type}

/-- A call under a fate. -/
def exec (P : PaymentProvider π) (fate : Fate) : Exec paySig (PayDb π) :=
  Fate.under (S := paySig) PayOp.fault (serve P) fate

@[simp] theorem exec_served (P : PaymentProvider π) : exec P .served = serve P := rfl

/-- Whatever its fate, a call leaves the state it found or the state a served call leaves. -/
theorem exec_state (P : PaymentProvider π) (fate : Fate) (op : PayOp) (db : PayDb π) :
    (exec P fate op db).2 = db ∨ (exec P fate op db).2 = (serve P op db).2 :=
  Fate.under_state (S := paySig) PayOp.fault (serve P) fate op db

end PayDb

/-- What changes the state besides the calls: the clock, and the ids the database draws. -/
inductive PayEnv where
  | clock (now : Nat)
  | uuid (id : PaymentId)

def PayEnv.act {π : Type} : PayEnv → PayDb π → PayDb π
  | .clock now, db => { db with clock := now }
  | .uuid id, db => { db with randomUuid := id }

end AuthApp.Payments
