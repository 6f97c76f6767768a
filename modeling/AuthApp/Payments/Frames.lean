import AuthApp.Interleave.Trail
import AuthApp.Payments.Service

/-!
# Payments — what each call leaves alone

* `exec_tables` and `exec_payments`: a call that is no write leaves the tables as they were.
* `exec_transition`: a transition changes nothing, or its guard held and it wrote its two rows.
* `keeps_exec`: no call deletes a payment, or changes its amount or its creation time.
* `run_keeps`: so along a run no payment disappears.
* `claimed_exec`: an event id, once claimed, stays claimed.
-/

namespace AuthApp.Payments
open Interleave

namespace PayDb
variable {π : Type}

/-! ### One call at a time -/

theorem insertPaymentRow_frame (db : PayDb π) (payment : NewPayment) :
    (db.insertPaymentRow payment).2.webhookEvents = db.webhookEvents ∧
      (db.insertPaymentRow payment).2.history = db.history := by
  rw [insertPaymentRow]
  split
  · exact ⟨rfl, rfl⟩
  · split <;> exact ⟨rfl, rfl⟩

theorem insertHistoryRow_frame (db : PayDb π) (id : PaymentId) (createdAt : Int) :
    (db.insertHistoryRow id createdAt).2.webhookEvents = db.webhookEvents ∧
      (db.insertHistoryRow id createdAt).2.payments = db.payments := by
  rw [insertHistoryRow]
  split <;> exact ⟨rfl, rfl⟩

theorem setProviderReference_frame (db : PayDb π) (id : PaymentId)
    (reference : ProviderReference) :
    (db.setProviderReference id reference).2.webhookEvents = db.webhookEvents ∧
      (db.setProviderReference id reference).2.history = db.history := by
  rw [setProviderReference]
  split <;> exact ⟨rfl, rfl⟩

@[simp] theorem statusOf_write (db : PayDb π) (id j : PaymentId)
    (expectedCurrent next : PaymentStatus) (reason : Option String) (updatedAt : Int) :
    (db.write id expectedCurrent next reason updatedAt).statusOf j =
      if id = j then (db.statusOf j).map fun _ => next else db.statusOf j := by
  rw [statusOf, write, PaymentTable.find_setStatus, statusOf]
  split
  · rw [Option.map_map, Option.map_map]; rfl
  · rfl

/-- A transition changes nothing, or its guard held and it wrote its two rows. -/
theorem transition_cases (db : PayDb π) (id : PaymentId) (expectedCurrent next : PaymentStatus)
    (reason : Option String) (occurredAt : Int) :
    (∃ e, db.transition id expectedCurrent next reason occurredAt = (.error e, db)) ∨
      db.statusOf id = some expectedCurrent ∧ ∃ updatedAt,
        db.transition id expectedCurrent next reason occurredAt =
          (.ok (), db.write id expectedCurrent next reason updatedAt) := by
  rw [transition, statusOf]
  cases db.payments.find id with
  | none => exact .inl ⟨_, rfl⟩
  | some row =>
      by_cases hs : row.status = expectedCurrent
      · simp only [hs, if_true, Option.map_some]
        cases toEpoch occurredAt with
        | none => exact .inl ⟨_, rfl⟩
        | some updatedAt => exact .inr ⟨trivial, updatedAt, rfl⟩
      · simp only [hs, if_false]
        exact .inl ⟨_, rfl⟩

theorem transition_frame (db : PayDb π) (id : PaymentId) (expectedCurrent next : PaymentStatus)
    (reason : Option String) (occurredAt : Int) :
    (db.transition id expectedCurrent next reason occurredAt).2.webhookEvents =
      db.webhookEvents := by
  rcases db.transition_cases id expectedCurrent next reason occurredAt with
    ⟨e, h⟩ | ⟨-, updatedAt, h⟩
  · rw [h]
  · rw [h]; rfl

/-- What a lookup answers is what is stored. -/
theorem exec_find {P : PaymentProvider π} {fate : Fate} {id : PaymentId} {db db' : PayDb π}
    {found : Option Payment} (h : exec P fate (.find id) db = (.ok found, db')) :
    found = (db.payments.find id).map rowToPayment ∧ db' = db := by
  cases fate with
  | served => cases h; exact ⟨rfl, rfl⟩
  | refused msg => cases h
  | unacknowledged msg => cases h

theorem exec_findByProviderReference {P : PaymentProvider π} {fate : Fate}
    {reference : ProviderReference} {db db' : PayDb π} {found : Option Payment}
    (h : exec P fate (.findByProviderReference reference) db = (.ok found, db')) :
    found = (db.payments.findByProviderReference reference).map rowToPayment ∧ db' = db := by
  cases fate with
  | served => cases h; exact ⟨rfl, rfl⟩
  | refused msg => cases h
  | unacknowledged msg => cases h

/-- Under any fate, a transition changes nothing, or its guard held and it wrote its two rows. -/
theorem exec_transition (P : PaymentProvider π) (fate : Fate) (id : PaymentId)
    (expectedCurrent next : PaymentStatus) (reason : Option String) (occurredAt : Int)
    (db : PayDb π) :
    (exec P fate (.transition id expectedCurrent next reason occurredAt) db).2 = db ∨
      db.statusOf id = some expectedCurrent ∧ ∃ updatedAt,
        (exec P fate (.transition id expectedCurrent next reason occurredAt) db).2 =
          db.write id expectedCurrent next reason updatedAt := by
  rcases exec_state P fate (.transition id expectedCurrent next reason occurredAt) db with e | e
  · exact .inl e
  · rcases db.transition_cases id expectedCurrent next reason occurredAt with
      ⟨_, h⟩ | ⟨hs, updatedAt, h⟩
    · exact .inl (by rw [e, serve, h])
    · exact .inr ⟨hs, updatedAt, by rw [e, serve, h]⟩

/-- A transition that is answered a conflict found another status, and changed nothing. -/
theorem exec_transition_conflict {P : PaymentProvider π} {fate : Fate} {id : PaymentId}
    {expectedCurrent next : PaymentStatus} {reason : Option String} {occurredAt : Int}
    {db db' : PayDb π}
    (h : exec P fate (.transition id expectedCurrent next reason occurredAt) db =
      (.error .conflict, db')) :
    db' = db ∧ db.statusOf id ≠ some expectedCurrent := by
  cases fate with
  | refused msg => cases h
  | unacknowledged msg => cases h
  | served =>
      rw [exec_served, serve, transition] at h
      rw [statusOf]
      cases hrow : db.payments.find id with
      | none =>
          rw [hrow] at h
          exact ⟨(congrArg Prod.snd h).symm, by simp⟩
      | some row =>
          rw [hrow] at h
          by_cases hs : row.status = expectedCurrent
          · simp only [hs, if_true] at h
            split at h <;> cases h
          · simp only [hs, if_false] at h
            exact ⟨(congrArg Prod.snd h).symm, by simpa using hs⟩

/-- Inserting a payment leaves the history alone; a payment it adds was not there before. -/
theorem exec_insertPaymentRow (P : PaymentProvider π) (fate : Fate) (payment : NewPayment)
    (db : PayDb π) (j : PaymentId) :
    (exec P fate (.insertPaymentRow payment) db).2.history = db.history ∧
      ((exec P fate (.insertPaymentRow payment) db).2.payments.find j = db.payments.find j ∨
        db.payments.find j = none ∧ ∃ row,
          (exec P fate (.insertPaymentRow payment) db).2.payments.find j = some row ∧
            row.status = .created ∧ row.providerReference = none) := by
  rcases exec_state P fate (.insertPaymentRow payment) db with e | e
  · rw [e]; exact ⟨rfl, .inl rfl⟩
  rw [e]
  refine ⟨(db.insertPaymentRow_frame payment).2, ?_⟩
  rw [serve, insertPaymentRow]
  split
  · exact .inl rfl
  · split
    · exact .inl rfl
    · next t ht =>
        obtain ⟨hfree, hfind⟩ := PaymentTable.find_of_insert ht
        by_cases hj : db.randomUuid = j
        · exact .inr ⟨hj ▸ hfree, _, (hfind j).trans (if_pos hj), rfl, rfl⟩
        · exact .inl ((hfind j).trans (if_neg hj))

/-- When the insert of a payment answers its id, the payment is new, and stored. -/
theorem insertPaymentRow_ok {P : PaymentProvider π} {fate : Fate} {payment : NewPayment}
    {db db' : PayDb π} {id : PaymentId}
    (h : exec P fate (.insertPaymentRow payment) db = (.ok id, db')) :
    db.payments.find id = none ∧ ∃ row, db'.payments.find id = some row := by
  cases fate with
  | refused msg => cases h
  | unacknowledged msg => cases h
  | served =>
      rw [exec_served, serve, insertPaymentRow] at h
      split at h
      · cases h
      · split at h
        · cases h
        · next t ht =>
            cases h
            obtain ⟨hfree, hfind⟩ := PaymentTable.find_of_insert ht
            exact ⟨hfree, _, (hfind _).trans (if_pos rfl)⟩

/-- The second statement of an insert writes the row for creation, or nothing. -/
theorem exec_insertHistoryRow (P : PaymentProvider π) (fate : Fate) (id : PaymentId)
    (createdAt : Int) (db : PayDb π) :
    (exec P fate (.insertHistoryRow id createdAt) db).2.payments = db.payments ∧
      ((exec P fate (.insertHistoryRow id createdAt) db).2.history = db.history ∨
        (∃ row, db.payments.find id = some row) ∧ ∃ occurredAt,
          (exec P fate (.insertHistoryRow id createdAt) db).2.history =
            db.history ++ [⟨id, none, .created, none, occurredAt⟩]) := by
  rcases exec_state P fate (.insertHistoryRow id createdAt) db with e | e
  · rw [e]; exact ⟨rfl, .inl rfl⟩
  rw [e]
  refine ⟨(db.insertHistoryRow_frame id createdAt).2, ?_⟩
  rw [serve, insertHistoryRow]
  split
  · exact .inl rfl
  · exact .inl rfl
  · next row occurredAt hrow _ => exact .inr ⟨⟨row, hrow⟩, occurredAt, rfl⟩

theorem insertHistoryRow_ok {P : PaymentProvider π} {fate : Fate} {id : PaymentId}
    {createdAt : Int} {db db' : PayDb π}
    (h : exec P fate (.insertHistoryRow id createdAt) db = (.ok (), db')) :
    ∃ occurredAt, db'.history = db.history ++ [⟨id, none, .created, none, occurredAt⟩] := by
  cases fate with
  | refused msg => cases h
  | unacknowledged msg => cases h
  | served =>
      rw [exec_served, serve, insertHistoryRow] at h
      split at h
      · cases h
      · cases h
      · cases h; exact ⟨_, rfl⟩

/-- Attaching a reference leaves the history alone, and every other payment, and every status. -/
theorem exec_setProviderReference (P : PaymentProvider π) (fate : Fate) (id : PaymentId)
    (reference : ProviderReference) (db : PayDb π) (j : PaymentId) :
    (exec P fate (.setProviderReference id reference) db).2.history = db.history ∧
      ((exec P fate (.setProviderReference id reference) db).2.payments.find j =
          db.payments.find j ∨
        id = j ∧ (exec P fate (.setProviderReference id reference) db).2.statusOf j =
          db.statusOf j) := by
  rcases exec_state P fate (.setProviderReference id reference) db with e | e
  · rw [e]; exact ⟨rfl, .inl rfl⟩
  rw [e]
  refine ⟨(db.setProviderReference_frame id reference).2, ?_⟩
  rw [serve, setProviderReference]
  split
  · exact .inl rfl
  · next t ht =>
      have hfind := PaymentTable.find_of_setProviderReference ht j
      by_cases hj : id = j
      · rw [if_pos hj] at hfind
        refine .inr ⟨hj, ?_⟩
        rw [statusOf, statusOf, hfind, Option.map_map]
        rfl
      · exact .inl (hfind.trans (if_neg hj))

theorem exec_tables (P : PaymentProvider π) (fate : Fate) {op : PayOp} (h : op.Writes = false)
    (db : PayDb π) :
    (exec P fate op db).2.payments = db.payments ∧ (exec P fate op db).2.history = db.history ∧
      (exec P fate op db).2.webhookEvents = db.webhookEvents := by
  rcases exec_state P fate op db with e | e
  · rw [e]; exact ⟨rfl, rfl, rfl⟩
  · rw [e]
    cases op with
    | insertPaymentRow | insertHistoryRow | setProviderReference => cases h
    | transition | recordRejected | recordAndClaim => cases h
    | _ => exact ⟨rfl, rfl, rfl⟩

theorem exec_payments (P : PaymentProvider π) (fate : Fate) {op : PayOp}
    (h : op.WritesPayment = false) (db : PayDb π) :
    (exec P fate op db).2.payments = db.payments ∧ (exec P fate op db).2.history = db.history := by
  rcases exec_state P fate op db with e | e
  · rw [e]; exact ⟨rfl, rfl⟩
  · rw [e]
    cases op with
    | insertPaymentRow | insertHistoryRow | setProviderReference | transition => cases h
    | _ => exact ⟨rfl, rfl⟩

/-! ### Only a transition moves a status -/

theorem statusOf_congr {db db' : PayDb π} (h : db'.payments = db.payments) (id : PaymentId) :
    db'.statusOf id = db.statusOf id := by
  rw [statusOf, statusOf, h]

/-- A payment that is there keeps its status through every call but a transition. -/
theorem statusOf_exec (P : PaymentProvider π) (fate : Fate) {op : PayOp} {db : PayDb π}
    {id : PaymentId} {status : PaymentStatus} (hthere : db.statusOf id = some status)
    (hop : ∀ id' current next reason now, op ≠ .transition id' current next reason now) :
    (exec P fate op db).2.statusOf id = some status := by
  cases op with
  | insertPaymentRow payment =>
      rcases (exec_insertPaymentRow P fate payment db id).2 with hsame | ⟨hnone, -⟩
      · rw [← hthere, statusOf, statusOf, hsame]
      · rw [statusOf, hnone] at hthere
        cases hthere
  | insertHistoryRow id' createdAt =>
      exact (statusOf_congr (exec_insertHistoryRow P fate id' createdAt db).1 id).trans hthere
  | setProviderReference id' reference =>
      rcases (exec_setProviderReference P fate id' reference db id).2 with hsame | ⟨-, hsame⟩
      · rw [← hthere, statusOf, statusOf, hsame]
      · exact hsame.trans hthere
  | transition id' current next reason now => exact absurd rfl (hop id' current next reason now)
  | _ => exact (statusOf_congr (exec_payments P fate rfl db).1 id).trans hthere

/-! ### The history only grows -/

theorem historyOf_congr {db db' : PayDb π} (h : db'.history = db.history) (id : PaymentId) :
    db'.historyOf id = db.historyOf id := by
  rw [historyOf, historyOf, h]

theorem historyOf_append {db db' : PayDb π} {r : HistoryRow}
    (h : db'.history = db.history ++ [r]) (id : PaymentId) :
    db'.historyOf id =
      if r.paymentId = id then db.historyOf id ++ [r] else db.historyOf id := by
  rw [historyOf, h, List.filter_append, historyOf]
  by_cases e : r.paymentId = id
  · simp [e]
  · simp [e]

/-- A call adds at most rows at the end of the history. -/
theorem exec_history (P : PaymentProvider π) (fate : Fate) (op : PayOp) (db : PayDb π) :
    db.history <+: (exec P fate op db).2.history := by
  have heq : ∀ {l l' : List HistoryRow}, l' = l → l <+: l' := fun h => h ▸ List.prefix_rfl
  cases op with
  | insertPaymentRow payment => exact heq (exec_insertPaymentRow P fate payment db db.randomUuid).1
  | insertHistoryRow id createdAt =>
      rcases (exec_insertHistoryRow P fate id createdAt db).2 with e | ⟨-, _, e⟩
      · exact heq e
      · rw [e]; exact List.prefix_append _ _
  | setProviderReference id reference =>
      exact heq (exec_setProviderReference P fate id reference db id).1
  | transition id expectedCurrent next reason occurredAt =>
      rcases exec_transition P fate id expectedCurrent next reason occurredAt db with
        e | ⟨-, _, e⟩
      · exact heq (congrArg history e)
      · rw [e]; exact List.prefix_append _ _
  | _ => exact heq (exec_payments P fate rfl db).2

/-! ### Payments are never deleted -/

/-- Every payment of `db` is still there in `db'`, with its amount and its creation time. -/
def Keeps (db db' : PayDb π) : Prop :=
  ∀ id row, db.payments.find id = some row → ∃ row', db'.payments.find id = some row' ∧
    row'.amount = row.amount ∧ row'.createdAt = row.createdAt

theorem Keeps.refl (db : PayDb π) : db.Keeps db := fun _ row h => ⟨row, h, rfl, rfl⟩

theorem Keeps.trans {a b c : PayDb π} (h₁ : a.Keeps b) (h₂ : b.Keeps c) : a.Keeps c := by
  intro id row h
  obtain ⟨row', h', ha', hc'⟩ := h₁ id row h
  obtain ⟨row'', h'', ha'', hc''⟩ := h₂ id row' h'
  exact ⟨row'', h'', ha''.trans ha', hc''.trans hc'⟩

/-- A change of one row that leaves the amount and the creation time alone. -/
theorem Keeps.of_find {db db' : PayDb π} {j : PaymentId} {f : PaymentRow → PaymentRow}
    (h : ∀ id, db'.payments.find id =
      if j = id then (db.payments.find id).map f else db.payments.find id)
    (ha : ∀ r, (f r).amount = r.amount) (hc : ∀ r, (f r).createdAt = r.createdAt) :
    db.Keeps db' := by
  intro id row hr
  by_cases e : j = id
  · exact ⟨f row, by rw [h, if_pos e, hr]; rfl, ha row, hc row⟩
  · exact ⟨row, by rw [h, if_neg e, hr], rfl, rfl⟩

theorem keeps_insertPaymentRow (db : PayDb π) (payment : NewPayment) :
    db.Keeps (db.insertPaymentRow payment).2 := by
  rw [insertPaymentRow]
  split
  · exact .refl db
  · split
    · exact .refl db
    · next t ht =>
        obtain ⟨hfree, hfind⟩ := PaymentTable.find_of_insert ht
        intro id row hr
        refine ⟨row, ?_, rfl, rfl⟩
        have hne : db.randomUuid ≠ id := fun e => by
          rw [← e, hfree] at hr; cases hr
        rw [hfind, if_neg hne, hr]

theorem keeps_setProviderReference (db : PayDb π) (id : PaymentId)
    (reference : ProviderReference) : db.Keeps (db.setProviderReference id reference).2 := by
  rw [setProviderReference]
  split
  · exact .refl db
  · next t ht =>
      exact .of_find (PaymentTable.find_of_setProviderReference ht) (fun _ => rfl) fun _ => rfl

theorem keeps_write (db : PayDb π) (id : PaymentId) (expectedCurrent next : PaymentStatus)
    (reason : Option String) (updatedAt : Int) :
    db.Keeps (db.write id expectedCurrent next reason updatedAt) :=
  .of_find (PaymentTable.find_setStatus db.payments id next updatedAt) (fun _ => rfl) fun _ => rfl

/-- No call deletes a payment, or changes its amount or its creation time. -/
theorem keeps_exec (P : PaymentProvider π) (fate : Fate) (op : PayOp) (db : PayDb π) :
    db.Keeps (exec P fate op db).2 := by
  cases op with
  | transition id expectedCurrent next reason occurredAt =>
      rcases exec_transition P fate id expectedCurrent next reason occurredAt db with
        e | ⟨-, updatedAt, e⟩
      · rw [e]; exact .refl db
      · rw [e]; exact db.keeps_write id expectedCurrent next reason updatedAt
  | insertPaymentRow payment =>
      rcases exec_state P fate (.insertPaymentRow payment) db with e | e
      · rw [e]; exact .refl db
      · rw [e]; exact db.keeps_insertPaymentRow payment
  | setProviderReference id reference =>
      rcases exec_state P fate (.setProviderReference id reference) db with e | e
      · rw [e]; exact .refl db
      · rw [e]; exact db.keeps_setProviderReference id reference
  | insertHistoryRow id createdAt =>
      rcases exec_state P fate (.insertHistoryRow id createdAt) db with e | e
      · rw [e]; exact .refl db
      · rw [e]
        intro j row hr
        exact ⟨row, by rw [serve, (db.insertHistoryRow_frame id createdAt).2, hr], rfl, rfl⟩
  | _ =>
      intro j row hr
      exact ⟨row, by rw [(exec_payments P fate rfl db).1, hr], rfl, rfl⟩

theorem keeps_act (e : PayEnv) (db : PayDb π) : db.Keeps (e.act db) := by
  cases e <;> exact fun _ row h => ⟨row, h, rfl, rfl⟩

/-- Along a run, no payment disappears. -/
theorem run_keeps {ι α : Type} {P : PaymentProvider π} {code : ι → Prog paySig α}
    {ok : Pool paySig (PayDb π) ι α → Act ι Fate PayEnv → Prop} {db : PayDb π}
    {p : Pool paySig (PayDb π) ι α} (h : (paySystem P code).Run ok (.init db) p) :
    db.Keeps p.store ∧ ∀ e ∈ p.log, db.Keeps e.pre := by
  have hexec : ∀ fate op db, Keeps db (exec P fate op db).2 := keeps_exec P
  refine ⟨h.trail.mono_exec Keeps.refl Keeps.trans keeps_act hexec, fun e he => ?_⟩
  obtain ⟨n, hn⟩ := List.mem_iff_getElem?.mp he
  exact (h.trail.before hn).mono_exec Keeps.refl Keeps.trans keeps_act hexec

/-! ### Event ids -/

/-- An event id, once claimed, stays claimed. -/
theorem claimed_exec (P : PaymentProvider π) (fate : Fate) (op : PayOp) {db : PayDb π}
    {eventId : String} (h : db.webhookEvents.Claimed eventId) :
    (exec P fate op db).2.webhookEvents.Claimed eventId := by
  rcases exec_state P fate op db with e | e
  · rwa [e]
  rw [e]
  cases op with
  | insertPaymentRow payment => rwa [serve, (db.insertPaymentRow_frame payment).1]
  | insertHistoryRow id createdAt => rwa [serve, (db.insertHistoryRow_frame id createdAt).1]
  | setProviderReference id reference =>
      rwa [serve, (db.setProviderReference_frame id reference).1]
  | transition id expectedCurrent next reason occurredAt => rwa [serve, transition_frame]
  | recordRejected payload signature reason => exact WebhookTable.claimed_reject.mpr h
  | recordAndClaim id payload => exact WebhookTable.claimed_claim.mpr (.inr h)
  | _ => exact h

/-- An event id that is answered to be new was not claimed, and is now. -/
theorem recordAndClaim_ok {P : PaymentProvider π} {fate : Fate} {eventId : String}
    {payload : List UInt8} {db db' : PayDb π}
    (h : exec P fate (.recordAndClaim eventId payload) db = (.ok true, db')) :
    ¬ db.webhookEvents.Claimed eventId ∧ db'.webhookEvents.Claimed eventId := by
  cases fate with
  | refused msg => cases h
  | unacknowledged msg => cases h
  | served =>
      rw [exec_served, serve] at h
      obtain ⟨hans, rfl⟩ := Prod.mk.inj h
      have hnew : (db.webhookEvents.claim eventId payload).1 = true := Except.ok.inj hans
      exact ⟨(WebhookTable.claim_fst _ _ _).mp hnew, WebhookTable.claimed_claim.mpr (.inl rfl)⟩

end PayDb

end AuthApp.Payments
