import AuthApp.Payments.Delivery
import AuthApp.Payments.Fake
import AuthApp.Payments.System

/-!
# Payments — once per event

However many deliveries carry an event id, and whatever else they say, one of them is told that
the id is new (`claim_once`).  Only that one looks up a payment, so it alone can be answered
`Processed` and it alone can write to a history, which it attempts once (`attempts_once`).

* `processed_once`: at most one delivery per event id is `Processed`.
* `webhook_at_most_once`: and at most one history row is written on behalf of the id.
-/

namespace AuthApp.Payments
open Interleave Pool

variable {π : Type}

/-- The event a request carries, when it is a verified delivery. -/
def PayRequest.event : PayRequest → Option WebhookEvent
  | .deliver verifier payload signature =>
      match verifier.verify payload signature with
      | .ok event => some event
      | .error _ => none
  | _ => none

/-- Its event id. -/
def PayRequest.eventId (req : PayRequest) : Option String := req.event.map WebhookEvent.eventId

/-- The request behind a step of the log. -/
def requestOf (p : Pool paySig (PayDb π) PayRequest PayResponse) (e : Event paySig (PayDb π)) :
    Option PayRequest :=
  (p.calls[e.caller]?).map Call.req

/-- The history rows one step wrote. -/
def rowsWritten (e : Event paySig (PayDb π)) : List HistoryRow :=
  e.post.history.drop e.pre.history.length

/-- The history rows with reason `provider_webhook` that one step wrote on behalf of an event. -/
def webhookRowsOf (p : Pool paySig (PayDb π) PayRequest PayResponse) (eventId : String)
    (e : Event paySig (PayDb π)) : List HistoryRow :=
  if (requestOf p e).bind PayRequest.eventId = some eventId then
    (rowsWritten e).filter fun r => r.reason = some "provider_webhook"
  else []

/-- All of them. -/
def webhookRows (p : Pool paySig (PayDb π) PayRequest PayResponse) (eventId : String) :
    List HistoryRow :=
  p.log.flatMap (webhookRowsOf p eventId)

section
variable {P : PaymentProvider π} {db : PayDb π} {p : Pool paySig (PayDb π) PayRequest PayResponse}
  {ok : Pool paySig (PayDb π) PayRequest PayResponse → Act PayRequest Fate PayEnv → Prop}

/-- An event id is new to one delivery. -/
theorem claim_once (h : (payContext P).Run ok (.init db) p) {i j n m : Nat} {eventId : String}
    {payload payload' : List UInt8}
    (hi : ⟨.recordAndClaim eventId payload, .ok true⟩ ∈ pastOf i (p.log.take n))
    (hj : ⟨.recordAndClaim eventId payload', .ok true⟩ ∈ pastOf j (p.log.take m)) : i = j := by
  refine h.once (I := fun s => s.webhookEvents.Claimed eventId)
    (A := fun r : Reply paySig => ∃ payload, r = ⟨.recordAndClaim eventId payload, .ok true⟩)
    (fun a s hs => ?_)
    (fun c op s hs => PayDb.claimed_exec P c op hs) ?_ hi hj ⟨payload, rfl⟩ ⟨payload', rfl⟩
  · cases a <;> exact hs
  · rintro c s r t ⟨payload, rfl⟩ hx
    exact PayDb.recordAndClaim_ok hx

/-- A delivery that is `Processed` was told that its event id is new. -/
theorem claimed_of_processed (h : (payContext P).Run ok (.init db) p) {i : Nat}
    {verifier : WebhookVerifier} {payload : List UInt8} {signature : Option String}
    {event : WebhookEvent}
    (hret : p.Returned i (.deliver verifier payload signature) (.handled .processed))
    (hv : verifier.verify payload signature = .ok event) :
    ⟨.recordAndClaim event.eventId payload, .ok true⟩ ∈ pastOf i p.log := by
  obtain ⟨hd, ht, he⟩ := h.point request_trace hret
  obtain ⟨r, rfl, hr⟩ := Head.map_eq_ret he.symm
  cases hr
  generalize pastOf i p.log = past at ht
  cases ht with
  | processed event' hv' =>
      rw [hv] at hv'
      cases hv'
      simp

/-- At most one delivery per event id is `Processed`. -/
theorem processed_once (h : (payContext P).Run ok (.init db) p) {i j : Nat}
    {verifier verifier' : WebhookVerifier} {payload payload' : List UInt8}
    {signature signature' : Option String} {event event' : WebhookEvent}
    (hi : p.Returned i (.deliver verifier payload signature) (.handled .processed))
    (hj : p.Returned j (.deliver verifier' payload' signature') (.handled .processed))
    (hv : verifier.verify payload signature = .ok event)
    (hv' : verifier'.verify payload' signature' = .ok event')
    (hid : event.eventId = event'.eventId) : i = j := by
  have hci := claimed_of_processed h hi hv
  have hcj := claimed_of_processed h hj hv'
  rw [← List.take_length (l := p.log)] at hci hcj
  rw [← hid] at hcj
  exact claim_once h hci hcj

/-- The step number `n` is the write of a delivery: it was told that the id of `event` is new, it
found the payment `found` by `reference`, and it may move it to `next`. -/
structure Attempts (p : Pool paySig (PayDb π) PayRequest PayResponse) (n : Nat)
    (e : Event paySig (PayDb π)) (event : WebhookEvent) (reference : ProviderReference)
    (found : Payment) (next : PaymentStatus) : Prop where
  request : (requestOf p e).bind PayRequest.event = some event
  refers : event.reference = some reference
  reports : event.newStatus = some next
  legal : Moves found.status next
  op : ∃ now, e.op = .transition found.id found.status next (some "provider_webhook") now
  claimed : ∃ payload, ⟨.recordAndClaim event.eventId payload, .ok true⟩ ∈
    pastOf e.caller (p.log.take n)
  looked : ⟨.findByProviderReference reference, .ok (some found)⟩ ∈
    pastOf e.caller (p.log.take n)
  third : (pastOf e.caller (p.log.take n)).length = 3

/-- A delivery writes to a payment only so. -/
theorem attempts_of_write (h : (payContext P).Run ok (.init db) p) {n : Nat}
    {e : Event paySig (PayDb π)} (hn : p.log[n]? = some e) {event : WebhookEvent}
    (hreq : (requestOf p e).bind PayRequest.event = some event)
    (hw : e.op.WritesPayment = true) :
    ∃ reference found next, Attempts p n e event reference found next := by
  obtain ⟨req, d, k, hc, hk⟩ := h.event_point request_trace hn
  have hreq' : req.event = some event := by
    rw [requestOf, hc] at hreq
    exact hreq
  cases req with
  | insert | setProviderReference | refund => cases hreq'
  | deliver verifier payload signature =>
      obtain ⟨hd, ht, he⟩ := hk
      obtain rfl := Head.map_eq_call he.symm
      generalize hpast : pastOf e.caller (p.log.take n) = past at ht
      obtain ⟨i, op, ans, pre, post⟩ := e
      cases ht with
      | reject | claim | lookup | clock => cases hw
      | write event' hv reference next found now hr hn' hl =>
          obtain rfl : event' = event := by
            rw [PayRequest.event, hv] at hreq'
            exact Option.some.inj hreq'
          refine ⟨reference, found, next, hreq, hr, hn', hl, ⟨now, rfl⟩, ⟨payload, ?_⟩, ?_, ?_⟩
          · simp [hpast]
          · simp [hpast]
          · rw [hpast]; rfl

/-- An event is acted on at most once. -/
theorem attempts_once (h : (payContext P).Run ok (.init db) p) {n m : Nat}
    {e f : Event paySig (PayDb π)} (hn : p.log[n]? = some e) (hm : p.log[m]? = some f)
    {event event' : WebhookEvent} {reference reference' : ProviderReference}
    {found found' : Payment} {next next' : PaymentStatus}
    (he : Attempts p n e event reference found next)
    (hf : Attempts p m f event' reference' found' next')
    (hid : event.eventId = event'.eventId) : n = m := by
  obtain ⟨payload, hce⟩ := he.claimed
  obtain ⟨payload', hcf⟩ := hf.claimed
  rw [← hid] at hcf
  have hcaller : e.caller = f.caller := claim_once h hce hcf
  rcases Nat.lt_trichotomy n m with hnm | rfl | hnm
  · have hlt := length_pastOf_lt hn hnm
    rw [he.third, hcaller, hf.third] at hlt
    omega
  · rfl
  · have hlt := length_pastOf_lt hm hnm
    rw [hf.third, ← hcaller, he.third] at hlt
    omega

/-- A step that writes rows on behalf of an event is the write of a delivery of the event, and it
writes one row. -/
theorem write_of_webhookRows (h : (payContext P).Run ok (.init db) p) {n : Nat}
    {e : Event paySig (PayDb π)} (hn : p.log[n]? = some e) {eventId : String}
    (hw : webhookRowsOf p eventId e ≠ []) :
    (webhookRowsOf p eventId e).length ≤ 1 ∧ ∃ event reference found next,
      event.eventId = eventId ∧ Attempts p n e event reference found next := by
  obtain ⟨c, hx⟩ := h.event_exec e (List.mem_of_getElem? hn)
  have hpost : e.post = (PayDb.exec P c e.op e.pre).2 := (congrArg Prod.snd hx).symm
  rw [webhookRowsOf] at hw ⊢
  split at hw
  case isFalse => exact absurd rfl hw
  case isTrue hid =>
    rw [if_pos hid]
    obtain ⟨req, hreq, heid⟩ := Option.bind_eq_some_iff.mp hid
    obtain ⟨event, hevent, rfl⟩ := Option.map_eq_some_iff.mp heid
    have hquiet : e.post.history = e.pre.history → False := by
      intro hh
      rw [rowsWritten, hh, List.drop_length] at hw
      exact hw rfl
    have hwrites : e.op.WritesPayment = true := by
      by_contra hop
      exact hquiet (hpost ▸ (PayDb.exec_payments P c (by simpa using hop) e.pre).2)
    obtain ⟨reference, found, next, ha⟩ := attempts_of_write h hn
      (Option.bind_eq_some_iff.mpr ⟨req, hreq, hevent⟩) hwrites
    refine ⟨?_, event, reference, found, next, rfl, ha⟩
    obtain ⟨now, hop⟩ := ha.op
    rw [hop] at hpost
    rcases PayDb.exec_transition P c found.id found.status next (some "provider_webhook") now
      e.pre with e' | ⟨-, updatedAt, e'⟩
    · exact (hquiet (by rw [hpost, e'])).elim
    · refine (List.length_filter_le _ _).trans ?_
      rw [rowsWritten, hpost, e', PayDb.write, List.drop_left]
      exact Nat.le_refl 1

/-- One step at most writes rows on behalf of an event. -/
theorem webhookRows_once (h : (payContext P).Run ok (.init db) p) {n m : Nat}
    {e f : Event paySig (PayDb π)} (hn : p.log[n]? = some e) (hm : p.log[m]? = some f)
    {eventId : String} (he : webhookRowsOf p eventId e ≠ [])
    (hf : webhookRowsOf p eventId f ≠ []) : n = m := by
  obtain ⟨-, event, _, _, _, heid, he⟩ := write_of_webhookRows h hn he
  obtain ⟨-, event', _, _, _, hfid, hf⟩ := write_of_webhookRows h hm hf
  exact attempts_once h hn hm he hf (heid.trans hfid.symm)

theorem length_flatMap_le_one {α β : Type} {l : List α} {f : α → List β}
    (hf : ∀ a ∈ l, f a ≠ [] → (f a).length ≤ 1)
    (hu : ∀ (n m : Nat) (a b : α), l[n]? = some a → l[m]? = some b → f a ≠ [] → f b ≠ [] → n = m) :
    (l.flatMap f).length ≤ 1 := by
  induction l with
  | nil => simp
  | cons a l ih =>
      rw [List.flatMap_cons, List.length_append]
      by_cases ha : f a = []
      · rw [ha, List.length_nil, Nat.zero_add]
        refine ih (fun b hb => hf b (List.mem_cons_of_mem _ hb)) fun n m b c hb hc hfb hfc => ?_
        have hsucc := hu (n + 1) (m + 1) b c (by simpa using hb) (by simpa using hc) hfb hfc
        omega
      · have hnil : l.flatMap f = [] := by
          refine List.flatMap_eq_nil_iff.mpr fun b hb => ?_
          by_contra hfb
          obtain ⟨m, hm⟩ := List.mem_iff_getElem?.mp hb
          have hzero := hu 0 (m + 1) a b rfl (by simpa using hm) ha hfb
          omega
        rw [hnil, List.length_nil]
        exact hf a List.mem_cons_self ha

/-- **At most once.** In every pool, one delivery per event id at most is `Processed`, and one
history row at most is written on behalf of it, across all payments. -/
theorem webhook_at_most_once (h : (payContext P).Run ok (.init db) p) (eventId : String) :
    (∀ (i j : Nat) (verifier verifier' : WebhookVerifier) (payload payload' : List UInt8)
        (signature signature' : Option String) (event event' : WebhookEvent),
      p.Returned i (.deliver verifier payload signature) (.handled .processed) →
      p.Returned j (.deliver verifier' payload' signature') (.handled .processed) →
      verifier.verify payload signature = .ok event →
      verifier'.verify payload' signature' = .ok event' →
      event.eventId = eventId → event'.eventId = eventId → i = j) ∧
      (webhookRows p eventId).length ≤ 1 := by
  constructor
  · intro i j verifier verifier' payload payload' signature signature' event event' hi hj hv hv'
      hid hid'
    exact processed_once h hi hj hv hv' (hid.trans hid'.symm)
  · refine length_flatMap_le_one (fun e he hne => ?_) fun n m e f hn hm => webhookRows_once h hn hm
    obtain ⟨n, hn⟩ := List.mem_iff_getElem?.mp he
    exact (write_of_webhookRows h hn hne).1

end

/-! ### Two bodies, one event id -/

/-- Two deliveries of `evt_1`: one body says the payment is captured, the other that it failed. -/
def twoBodies : List (Act PayRequest Fate PayEnv) :=
  [.start (.deliver (.only [1] "a" ⟨"evt_1", some ⟨"pi_1"⟩, some .captured⟩) [1] (some "a")),
    .start (.deliver (.only [2] "b" ⟨"evt_1", some ⟨"pi_1"⟩, some .failed⟩) [2] (some "b")),
    .step 1 .served, .step 0 .served, .step 1 .served, .step 1 .served, .step 1 .served]

def twoBodiesPool : Pool paySig (PayDb FakePaymentProvider) PayRequest PayResponse :=
  ((payContext FakePaymentProvider.port).acts twoBodies
    (.init (.single (samplePayment .authorized) [] .new 0))).get rfl

/-- The second is `Processed`, the first a `Duplicate`, and one row is written. -/
theorem twoBodies_at_most_once :
    (webhookRows twoBodiesPool "evt_1").length = 1 ∧
      (∀ (i j : Nat) (verifier verifier' : WebhookVerifier) (payload payload' : List UInt8)
          (signature signature' : Option String) (event event' : WebhookEvent),
        twoBodiesPool.Returned i (.deliver verifier payload signature) (.handled .processed) →
        twoBodiesPool.Returned j (.deliver verifier' payload' signature') (.handled .processed) →
        verifier.verify payload signature = .ok event →
        verifier'.verify payload' signature' = .ok event' →
        event.eventId = "evt_1" → event'.eventId = "evt_1" → i = j) ∧
        (webhookRows twoBodiesPool "evt_1").length ≤ 1 := by
  have hrun : (payContext FakePaymentProvider.port).Run (fun _ _ => True)
      (.init (.single (samplePayment .authorized) [] .new 0)) twoBodiesPool :=
    .of_acts .refl (fun _ _ _ => trivial) (Option.some_get rfl).symm
  exact ⟨by decide, webhook_at_most_once hrun "evt_1"⟩

end AuthApp.Payments
