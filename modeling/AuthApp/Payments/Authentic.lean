import AuthApp.Interleave.Relate
import AuthApp.Payments.Once
import AuthApp.Payments.StripeWebhook

/-!
# Payments — authentic webhooks

A delivery whose header is not genuine is rejected before its body is read: it records the
rejection, and does nothing else.

* `effective_genuine`: a step of a delivery that changes a payment or claims an event id.
* `forged_dropped`: a sequence of requests, with the forged deliveries left out.
* `authentic`: both.
-/

namespace AuthApp.Payments
open Interleave Pool

variable {π : Type}

/-! ### What a delivery acts on -/

/-- A step that changes a payment or its history, or claims an event id. -/
def Effective (e : Event paySig (PayDb π)) : Prop :=
  e.post.payments ≠ e.pre.payments ∨ e.post.history ≠ e.pre.history ∨
    ∃ id, e.post.webhookEvents.Claimed id ∧ ¬ e.pre.webhookEvents.Claimed id

/-- The step number `n` claims the id of `event`, or moves the payment that it names to the status
that it reports. -/
def ActsOn (p : Pool paySig (PayDb π) PayRequest PayResponse) (n : Nat)
    (e : Event paySig (PayDb π)) (event : WebhookEvent) : Prop :=
  (∃ payload, e.op = .recordAndClaim event.eventId payload) ∨
    ∃ reference next found reason now,
      event.reference = some reference ∧ event.newStatus = some next ∧
        ⟨.findByProviderReference reference, .ok (some found)⟩ ∈
          pastOf e.caller (p.log.take n) ∧
        e.op = .transition found.id found.status next reason now

/-- Only a claim, and a write to a payment, have such an effect. -/
theorem Effective.op {P : PaymentProvider π} {fate : Fate} {e : Event paySig (PayDb π)}
    (h : Effective e) (hexec : PayDb.exec P fate e.op e.pre = (e.ans, e.post)) :
    e.op.WritesPayment = true ∨ ∃ id payload, e.op = .recordAndClaim id payload := by
  obtain ⟨i, op, ans, pre, post⟩ := e
  obtain rfl : (PayDb.exec P fate op pre).2 = post := congrArg Prod.snd hexec
  by_cases hw : op.WritesPayment = true
  · exact .inl hw
  have hno : op.WritesPayment = false := by simpa using hw
  obtain ⟨hp, hh⟩ := PayDb.exec_payments P fate hno pre
  rcases h with h | h | ⟨id, hpost, hpre⟩
  · exact absurd hp h
  · exact absurd hh h
  · by_cases hwrites : op.Writes = true
    · cases op with
      | recordAndClaim eventId payload => exact .inr ⟨eventId, payload, rfl⟩
      | recordRejected payload signature reason =>
          refine absurd ?_ hpre
          rcases PayDb.exec_state P fate (.recordRejected payload signature reason) pre with e | e
          · exact e ▸ hpost
          · rw [e] at hpost
            exact WebhookTable.claimed_reject.mp hpost
      | _ => exact absurd hwrites (by simp [PayOp.Writes, hno])
    · have hsame := (PayDb.exec_tables P fate (by simpa using hwrites) pre).2.2
      rw [hsame] at hpost
      exact absurd hpost hpre

section
variable {V : StripeWebhookVerifier} {P : PaymentProvider π} {db : PayDb π}
  {p : Pool paySig (PayDb π) PayRequest PayResponse}
  {ok : Pool paySig (PayDb π) PayRequest PayResponse → Act PayRequest Fate PayEnv → Prop}

theorem effective_genuine (h : (payContext P).Run ok (.init db) p) {n : Nat}
    {e : Event paySig (PayDb π)} (hn : p.log[n]? = some e) {now : Int} {payload : List UInt8}
    {signature : Option String}
    (hreq : requestOf p e = some (.deliver (V.verifierAt now) payload signature))
    (heff : Effective e) :
    V.Genuine now payload signature ∧
      ∃ event, V.event payload = some event ∧ ActsOn p n e event := by
  obtain ⟨fate, hexec⟩ := h.event_exec e (List.mem_of_getElem? hn)
  obtain ⟨req, d, k, hc, hk⟩ := h.event_point request_trace hn
  obtain rfl : req = .deliver (V.verifierAt now) payload signature := by
    rw [requestOf, hc] at hreq
    exact Option.some.inj hreq
  obtain ⟨hd, ht, he⟩ := hk
  obtain rfl := Head.map_eq_call he.symm
  have hop := heff.op hexec
  unfold ActsOn
  generalize hpast : pastOf e.caller (p.log.take n) = past at ht ⊢
  obtain ⟨i, op, ans, pre, post⟩ := e
  cases ht with
  | reject err hv => rcases hop with hop | ⟨_, _, hop⟩ <;> cases hop
  | lookup | clock => rcases hop with hop | ⟨_, _, hop⟩ <;> cases hop
  | claim event hv =>
      obtain ⟨hgenuine, hevent⟩ := StripeWebhookVerifier.verify_eq_ok_iff.mp hv
      exact ⟨hgenuine, event, hevent, .inl ⟨payload, rfl⟩⟩
  | write event hv reference next found now' hr hnext hl =>
      obtain ⟨hgenuine, hevent⟩ := StripeWebhookVerifier.verify_eq_ok_iff.mp hv
      exact ⟨hgenuine, event, hevent,
        .inr ⟨reference, next, found, some "provider_webhook", now', hr, hnext, by simp, rfl⟩⟩

end

/-! ### Sequences of requests -/

/-- One turn: the environment acts, or a request runs, under the fates of its calls. -/
inductive Turn where
  | env (e : PayEnv)
  | request (req : PayRequest) (fates : List Fate)

def Turn.run (P : PaymentProvider π) (db : PayDb π) : Turn → PayDb π
  | .env e => e.act db
  | .request req fates => (req.code.runFates (PayDb.exec P) fates db).2

/-- A delivery whose header is not genuine at the instant it is verified. -/
def Turn.Forged (V : StripeWebhookVerifier) : Turn → Prop
  | .request (.deliver verifier payload signature) _ =>
      ∃ now, verifier = V.verifierAt now ∧ ¬ V.Genuine now payload signature
  | _ => False

/-- The calls of the webhook event store. -/
def PayOp.OnEvents : PayOp → Bool
  | .recordRejected .. | .recordAndClaim .. => true
  | _ => false

/-- The two states agree but for the rejections recorded. -/
structure SameClaims (db db' : PayDb π) : Prop where
  payments : db'.payments = db.payments
  history : db'.history = db.history
  provider : db'.provider = db.provider
  randomUuid : db'.randomUuid = db.randomUuid
  clock : db'.clock = db.clock
  claimed : ∀ id, db'.webhookEvents.Claimed id ↔ db.webhookEvents.Claimed id

namespace SameClaims

theorem refl (db : PayDb π) : SameClaims db db :=
  ⟨rfl, rfl, rfl, rfl, rfl, fun _ => Iff.rfl⟩

/-- The state `db`, with another table of webhook events. -/
theorem of_table {db : PayDb π} {w : WebhookTable}
    (h : ∀ id, w.Claimed id ↔ db.webhookEvents.Claimed id) :
    SameClaims db { db with webhookEvents := w } :=
  ⟨rfl, rfl, rfl, rfl, rfl, h⟩

/-- What any other call does, does not depend on the webhook events. -/
theorem serve_table (P : PaymentProvider π) {op : PayOp} (h : op.OnEvents = false)
    (db : PayDb π) (w : WebhookTable) :
    PayDb.serve P op { db with webhookEvents := w } =
      ((PayDb.serve P op db).1, { (PayDb.serve P op db).2 with webhookEvents := w }) := by
  cases op with
  | recordRejected payload signature reason => cases h
  | recordAndClaim id payload => cases h
  | insertPaymentRow payment =>
      simp only [PayDb.serve, PayDb.insertPaymentRow]
      cases toEpoch payment.createdAt with
      | none => rfl
      | some createdAt =>
          dsimp only
          cases db.payments.insert db.randomUuid payment.amount createdAt <;> rfl
  | insertHistoryRow id createdAt =>
      simp only [PayDb.serve, PayDb.insertHistoryRow]
      cases db.payments.find id <;> cases toEpoch createdAt <;> rfl
  | setProviderReference id reference =>
      simp only [PayDb.serve, PayDb.setProviderReference]
      cases db.payments.setProviderReference id reference <;> rfl
  | transition id expectedCurrent next reason occurredAt =>
      simp only [PayDb.serve, PayDb.transition]
      cases db.payments.find id with
      | none => rfl
      | some row =>
          by_cases hs : row.status = expectedCurrent
          · simp only [hs, if_true]
            cases toEpoch occurredAt <;> rfl
          · simp only [hs, if_false]
  | _ => rfl

theorem serve (P : PaymentProvider π) : Respects (S := paySig) SameClaims (PayDb.serve P) := by
  intro op db db' h
  obtain ⟨payments, history, w, provider, randomUuid, clock⟩ := db'
  obtain ⟨rfl, rfl, rfl, rfl, rfl, hc⟩ := h
  cases hop : op.OnEvents with
  | true =>
      cases op with
      | recordRejected payload signature reason =>
          exact ⟨rfl, rfl, rfl, rfl, rfl, rfl, fun id =>
            WebhookTable.claimed_reject.trans ((hc id).trans WebhookTable.claimed_reject.symm)⟩
      | recordAndClaim id payload =>
          refine ⟨?_, rfl, rfl, rfl, rfl, rfl, fun j => ?_⟩
          · refine congrArg Except.ok (Bool.eq_iff_iff.mpr ?_)
            exact (WebhookTable.claim_fst _ _ _).trans
              ((not_congr (hc id)).trans (WebhookTable.claim_fst _ _ _).symm)
          · exact WebhookTable.claimed_claim.trans
              ((or_congr Iff.rfl (hc j)).trans WebhookTable.claimed_claim.symm)
      | _ => cases hop
  | false =>
      have hkept : (PayDb.serve P op db).2.webhookEvents = db.webhookEvents :=
        congrArg (fun r => r.2.webhookEvents) (serve_table P hop db db.webhookEvents)
      have htable := serve_table P hop db w
      dsimp only at htable
      rw [htable]
      exact ⟨rfl, of_table fun id => by rw [hkept]; exact hc id⟩

theorem env {db db' : PayDb π} (h : SameClaims db db') (e : PayEnv) :
    SameClaims (e.act db) (e.act db') := by
  cases e with
  | clock now => exact ⟨h.payments, h.history, h.provider, h.randomUuid, rfl, h.claimed⟩
  | uuid id => exact ⟨h.payments, h.history, h.provider, rfl, h.clock, h.claimed⟩

theorem turn {db db' : PayDb π} (P : PaymentProvider π) (h : SameClaims db db') (turn : Turn) :
    SameClaims (turn.run P db) (turn.run P db') := by
  cases turn with
  | env e => exact h.env e
  | request req fates =>
      exact (Respects.runFates (fun fate => (serve P).under PayOp.fault fate) fates req.code h).2

/-- A rejection is recorded, or its record is lost. -/
theorem exec_rejected {db db' : PayDb π} (P : PaymentProvider π) (h : SameClaims db db')
    (fate : Fate) (payload : List UInt8) (signature : Option String) (reason : String) :
    SameClaims db (PayDb.exec P fate (.recordRejected payload signature reason) db').2 := by
  rcases PayDb.exec_state P fate (.recordRejected payload signature reason) db' with e | e
  · rw [e]; exact h
  · rw [e]
    exact ⟨h.payments, h.history, h.provider, h.randomUuid, h.clock,
      fun id => WebhookTable.claimed_reject.trans (h.claimed id)⟩

/-- A forged delivery leaves the payments and the claimed ids as they were. -/
theorem forged {db db' : PayDb π} {V : StripeWebhookVerifier} (P : PaymentProvider π)
    (h : SameClaims db db') {turn : Turn} (hforged : turn.Forged V) :
    SameClaims db (turn.run P db') := by
  cases turn with
  | env e => cases hforged
  | request req fates =>
      cases req with
      | insert | setProviderReference | refund => cases hforged
      | deliver verifier payload signature =>
          obtain ⟨now, rfl, hno⟩ := hforged
          obtain ⟨err, hv⟩ := StripeWebhookVerifier.error_of_not_genuine hno
          have hcode : (PayRequest.deliver (V.verifierAt now) payload signature).code =
              .call (.recordRejected payload signature err.reason)
                fun _ => .ret (.handled .rejected) := by
            rw [PayRequest.code, WebhookService.handle,
              show (V.verifierAt now).verify payload signature = .error err from hv]
            rfl
          rw [Turn.run, hcode]
          cases fates with
          | nil => exact h
          | cons fate rest =>
              rw [Prog.runFates_cons, Prog.runFates_ret]
              exact h.exec_rejected P fate payload signature err.reason

end SameClaims

open Classical in
/-- A sequence of turns, with the forged deliveries left out. -/
noncomputable def withoutForged (V : StripeWebhookVerifier) (turns : List Turn) : List Turn :=
  turns.filter fun turn => ¬ turn.Forged V

theorem forged_dropped (V : StripeWebhookVerifier) (P : PaymentProvider π) (turns : List Turn)
    (db : PayDb π) :
    SameClaims ((withoutForged V turns).foldl (Turn.run P) db) (turns.foldl (Turn.run P) db) :=
  foldl_filter (fun turn _ _ h => h.turn P turn)
    (fun _ _ _ hturn h => h.forged P (by simpa using hturn)) turns (.refl db)

/-- **Authenticity.** In every pool, a delivery changes a payment or claims an event id only when
its header is genuine, and acts on the event that its own body reads as.  And in every sequence of
requests, the forged deliveries make no difference to the payments and the claimed ids. -/
theorem authentic (V : StripeWebhookVerifier) (P : PaymentProvider π) (db : PayDb π) :
    (∀ (ok : Pool paySig (PayDb π) PayRequest PayResponse → Act PayRequest Fate PayEnv → Prop)
        (p : Pool paySig (PayDb π) PayRequest PayResponse), (payContext P).Run ok (.init db) p →
      ∀ (n : Nat) (e : Event paySig (PayDb π)) (now : Int) (payload : List UInt8)
        (signature : Option String), p.log[n]? = some e →
      requestOf p e = some (.deliver (V.verifierAt now) payload signature) → Effective e →
        V.Genuine now payload signature ∧
          ∃ event, V.event payload = some event ∧ ActsOn p n e event) ∧
    ∀ turns : List Turn,
      SameClaims ((withoutForged V turns).foldl (Turn.run P) db) (turns.foldl (Turn.run P) db) :=
  ⟨fun _ _ h _ _ _ _ _ hn hreq heff => effective_genuine h hn hreq heff,
    fun turns => forged_dropped V P turns db⟩

/-! ### A signed body -/

section
open StripeWebhookVerifier Sessions

/-- A body that Stripe signed with the secret: the payment `pi_1` succeeded. -/
def succeeded : Signed where
  timestamp := 1700000000
  body := "\x7b\"id\":\"evt_1\",\"type\":\"payment_intent.succeeded\",\"data\":" ++
    "\x7b\"object\":\x7b\"id\":\"pi_1\"\x7d\x7d\x7d"
  tree := .object [("id", .string "evt_1"), ("type", .string "payment_intent.succeeded"),
    ("data", .object [("object", .object [("id", .string "pi_1")])])]
  tag := [232, 46, 39, 35, 184, 109, 58, 105, 191, 235, 94, 119, 118, 48, 52, 224, 6, 73, 244, 217,
    95, 74, 30, 165, 225, 209, 138, 253, 239, 50, 57, 69]

/-- It is delivered 100 seconds later. -/
def succeededDelivery : PayRequest :=
  .deliver ((ofSigned succeeded).verifierAt (fromEpoch 1700000100)) (asBytes succeeded.body)
    (some succeeded.header)

def succeededPool : Pool paySig (PayDb FakePaymentProvider) PayRequest PayResponse :=
  ((payContext FakePaymentProvider.port).acts
    [.start succeededDelivery, .step 0 .served]
    (.init (.single (samplePayment .authorized) [] .new 0))).get rfl

/-- Its first step claims the event id. -/
theorem succeeded_authentic :
    (ofSigned succeeded).Genuine (fromEpoch 1700000100) (asBytes succeeded.body)
        (some succeeded.header) ∧
      ∃ event, (ofSigned succeeded).event (asBytes succeeded.body) = some event ∧
        ∃ e, succeededPool.log[0]? = some e ∧ ActsOn succeededPool 0 e event := by
  have hrun : (payContext FakePaymentProvider.port).Run (fun _ _ => True)
      (.init (.single (samplePayment .authorized) [] .new 0)) succeededPool :=
    .of_acts .refl (fun _ _ _ => trivial) (Option.some_get rfl).symm
  obtain ⟨hgenuine, event, hevent, hacts⟩ :=
    (authentic (ofSigned succeeded) FakePaymentProvider.port _).1 _ _ hrun 0
      (succeededPool.log.get ⟨0, by decide⟩) (fromEpoch 1700000100) (asBytes succeeded.body)
      (some succeeded.header) rfl rfl (.inr (.inr ⟨"evt_1", by decide, by decide⟩))
  exact ⟨hgenuine, event, hevent, _, rfl, hacts⟩

end

end AuthApp.Payments
