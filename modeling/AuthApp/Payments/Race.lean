import AuthApp.Payments.Once

/-!
# Payments — a lost compare-and-set

Two events for one payment are delivered at the same time.  Both deliveries read the payment, one
moves it first, and the other is answered a conflict, which is acknowledged and never retried:
the event is claimed, so no redelivery of it is acted on.

* `race_of_conflict`: a conflict over a status that is still legal comes of a race.
* `Overtakes.loses`: and every race can be lost.
* `conflicts_applied_iff`: so no status change is lost exactly when the events cannot race.
-/

namespace AuthApp.Payments
open Interleave Pool

variable {π : Type}

/-- Two events for one payment. -/
structure Rivals where
  left : WebhookEvent
  right : WebhookEvent
  reference : ProviderReference
  distinct : left.eventId ≠ right.eventId
  leftRefers : left.reference = some reference
  rightRefers : right.reference = some reference

/-- A delivery of the event has returned, and was answered this status code. -/
def AnsweredWith (p : Pool paySig (PayDb π) PayRequest PayResponse) (event : WebhookEvent)
    (code : Nat) : Prop :=
  ∃ i req outcome, p.Returned i req (.handled outcome) ∧ req.event = some event ∧
    outcome.statusCode = code

namespace Rivals

/-- Each event is delivered once, and again only when a delivery of it was answered an error. -/
def Delivers (r : Rivals) (q : Pool paySig (PayDb π) PayRequest PayResponse) :
    Act PayRequest Fate PayEnv → Prop
  | .start req => ∃ event, (event = r.left ∨ event = r.right) ∧ req.event = some event ∧
      ((∀ c ∈ q.calls, c.req.event ≠ some event) ∨ ∃ code, code ≠ 200 ∧ AnsweredWith q event code)
  | _ => True

/-- Both events have been delivered and acknowledged, and no delivery is in flight. -/
def Delivered (r : Rivals) (p : Pool paySig (PayDb π) PayRequest PayResponse) : Prop :=
  p.Quiet ∧ AnsweredWith p r.left 200 ∧ AnsweredWith p r.right 200

end Rivals

/-- A status change that was answered a conflict, but is still legal from the status it met, is
written later. -/
def ConflictsApplied (p : Pool paySig (PayDb π) PayRequest PayResponse) : Prop :=
  ∀ e ∈ p.log, ∀ (id : PaymentId) (expected next current : PaymentStatus)
    (reason : Option String) (now : Int),
    (⟨e.op, e.ans⟩ : Reply paySig) = ⟨.transition id expected next reason now, .error .conflict⟩ →
    e.pre.statusOf id = some current → Moves current next →
      ∃ row ∈ p.store.history.drop e.pre.history.length,
        row.paymentId = id ∧ row.toStatus = next

/-- The payment can make the move of either event, and after that of the first still that of the
second. -/
def Overtakes (first second : WebhookEvent) (reference : ProviderReference) (db : PayDb π) :
    Prop :=
  ∃ row moved lost, db.payments.findByProviderReference reference = some row ∧
    first.newStatus = some moved ∧ second.newStatus = some lost ∧ moved ≠ row.status ∧
      Moves row.status moved ∧ Moves row.status lost ∧ Moves moved lost

/-- Both events are new, and one of them can overtake the other. -/
structure Rivals.Race (r : Rivals) (db : PayDb π) : Prop where
  leftNew : ¬ db.webhookEvents.Claimed r.left.eventId
  rightNew : ¬ db.webhookEvents.Claimed r.right.eventId
  overtakes : Overtakes r.left r.right r.reference db ∨ Overtakes r.right r.left r.reference db

/-! ### The payment behind the reference -/

/-- The payment a reference names, and its status. -/
def PayDb.seenAt (db : PayDb π) (reference : ProviderReference) :
    Option (PaymentId × PaymentStatus) :=
  (db.payments.findByProviderReference reference).map fun row => (row.id, row.status)

theorem PayDb.seenAt_eq_some {db : PayDb π} {reference : ProviderReference} {id : PaymentId}
    {status : PaymentStatus} (h : db.seenAt reference = some (id, status)) :
    ∃ row, db.payments.findByProviderReference reference = some row ∧ row.id = id ∧
      row.status = status ∧ db.statusOf id = some status := by
  obtain ⟨row, hrow, heq⟩ := Option.map_eq_some_iff.mp h
  cases heq
  refine ⟨row, hrow, rfl, rfl, ?_⟩
  rw [statusOf, (PaymentTable.find_of_reference hrow).1]
  rfl

theorem PayDb.seenAt_write (db : PayDb π) (id : PaymentId) (expected next : PaymentStatus)
    (reason : Option String) (updatedAt : Int) (reference : ProviderReference) :
    (db.write id expected next reason updatedAt).seenAt reference =
      (db.seenAt reference).map fun v => (v.1, if v.1 = id then next else v.2) := by
  rw [seenAt, write, PaymentTable.findByProviderReference_setStatus, seenAt, Option.map_map,
    Option.map_map]
  refine congrArg (Option.map · _) (funext fun row => ?_)
  dsimp only [Function.comp]
  split <;> rfl

section
variable {P : PaymentProvider π} {db : PayDb π} {r : Rivals}
  {p : Pool paySig (PayDb π) PayRequest PayResponse}

namespace Rivals

/-! ### A conflict comes of a race -/

/-- Every step is a step of a delivery of one of the events. -/
theorem request_of_event (h : (payContext P).Run r.Delivers (.init db) p) {n : Nat}
    {e : Event paySig (PayDb π)} (hn : p.log[n]? = some e) :
    ∃ event, (event = r.left ∨ event = r.right) ∧
      (requestOf p e).bind PayRequest.event = some event := by
  obtain ⟨q, req, d, -, ⟨event, hev, hreq, -⟩, -, hc⟩ := h.started.2 n e hn
  refine ⟨event, hev, ?_⟩
  rw [requestOf, hc]
  exact hreq

theorem refers {event : WebhookEvent} (h : event = r.left ∨ event = r.right) :
    event.reference = some r.reference := by
  rcases h with rfl | rfl
  · exact r.leftRefers
  · exact r.rightRefers

/-- A step that changes the payment behind the reference is the write of a delivery. -/
theorem attempts_of_change (h : (payContext P).Run r.Delivers (.init db) p) {n : Nat}
    {e : Event paySig (PayDb π)} (hn : p.log[n]? = some e)
    (hne : e.post.seenAt r.reference ≠ e.pre.seenAt r.reference) :
    ∃ event found next, (event = r.left ∨ event = r.right) ∧
      Attempts p n e event r.reference found next := by
  obtain ⟨event, hev, hreq⟩ := request_of_event h hn
  obtain ⟨c, hx⟩ := h.event_exec e (List.mem_of_getElem? hn)
  have hw : e.op.WritesPayment = true := by
    by_contra hop
    refine hne ?_
    have hpost : e.post = (PayDb.exec P c e.op e.pre).2 := (congrArg Prod.snd hx).symm
    rw [PayDb.seenAt, PayDb.seenAt, hpost, (PayDb.exec_payments P c (by simpa using hop) e.pre).1]
  obtain ⟨reference, found, next, ha⟩ := attempts_of_write h hn hreq hw
  obtain rfl : reference = r.reference := Option.some.inj (ha.refers.symm.trans (refers hev))
  exact ⟨event, found, next, hev, ha⟩

/-- What such a step changes. -/
theorem change_of_attempts (h : (payContext P).Run r.Delivers (.init db) p) {n : Nat}
    {e : Event paySig (PayDb π)} (hn : p.log[n]? = some e) {event : WebhookEvent}
    {found : Payment} {next : PaymentStatus} (ha : Attempts p n e event r.reference found next)
    {id : PaymentId} {status : PaymentStatus} (hpre : e.pre.seenAt r.reference = some (id, status))
    (hpost : e.post.seenAt r.reference ≠ some (id, status)) :
    found.status = status ∧ next ≠ status ∧ e.post.seenAt r.reference = some (id, next) := by
  obtain ⟨c, hx⟩ := h.event_exec e (List.mem_of_getElem? hn)
  have heq : e.post = (PayDb.exec P c e.op e.pre).2 := (congrArg Prod.snd hx).symm
  obtain ⟨now, hop⟩ := ha.op
  rw [hop] at heq
  rcases PayDb.exec_transition P c found.id found.status next (some "provider_webhook") now e.pre
    with hsame | ⟨hstatus, updatedAt, hwrite⟩
  · exact absurd (heq.trans hsame ▸ hpre) hpost
  · rw [heq, hwrite, PayDb.seenAt_write, hpre, Option.map_some] at hpost ⊢
    obtain ⟨row, -, -, -, hst⟩ := PayDb.seenAt_eq_some hpre
    by_cases hid : id = found.id
    · rw [if_pos hid] at hpost ⊢
      rw [← hid, hst] at hstatus
      exact ⟨(Option.some.inj hstatus).symm, fun hns => hpost (by rw [hns]), rfl⟩
    · rw [if_neg hid] at hpost
      exact absurd rfl hpost

/-- An event that was claimed in a run was new before it. -/
theorem new_of_attempts (h : (payContext P).Run r.Delivers (.init db) p) {n : Nat}
    {e : Event paySig (PayDb π)} {event : WebhookEvent} {reference : ProviderReference}
    {found : Payment} {next : PaymentStatus} (ha : Attempts p n e event reference found next) :
    ¬ db.webhookEvents.Claimed event.eventId := by
  obtain ⟨payload, hclaim⟩ := ha.claimed
  obtain ⟨m, -, c, pre, post, hm, hx⟩ := h.reply_exec hclaim
  intro hc
  refine (PayDb.recordAndClaim_ok hx).1 ?_
  refine h.trail.inv_before (I := fun s => s.webhookEvents.Claimed event.eventId)
    (fun a s hs => ?_) hm hc fun k g _ hk hs => ?_
  · cases a <;> exact hs
  · obtain ⟨c, hg⟩ := h.event_exec g (List.mem_of_getElem? hk)
    have hpost : g.post = (PayDb.exec P c g.op g.pre).2 := (congrArg Prod.snd hg).symm
    exact hpost ▸ PayDb.claimed_exec P c g.op hs

theorem seenAt_act (reference : ProviderReference) (a : PayEnv) (s : PayDb π) :
    (a.act s).seenAt reference = s.seenAt reference := by
  cases a <;> rfl

/-- A delivery was answered by its lookup what it acts on. -/
theorem seen_of_attempts (h : (payContext P).Run r.Delivers (.init db) p) {n : Nat}
    {e : Event paySig (PayDb π)} {event : WebhookEvent} {found : Payment} {next : PaymentStatus}
    (ha : Attempts p n e event r.reference found next) :
    ∃ m f, m < n ∧ p.log[m]? = some f ∧
      f.post.seenAt r.reference = some (found.id, found.status) := by
  obtain ⟨m, hmn, c, s, s', hm, hx⟩ := h.reply_exec ha.looked
  obtain ⟨hfound, rfl⟩ := PayDb.exec_findByProviderReference hx
  obtain ⟨row, hrow, rfl⟩ := Option.map_eq_some_iff.mp hfound.symm
  refine ⟨m, _, hmn, hm, ?_⟩
  rw [PayDb.seenAt, hrow]
  rfl

/-- A delivery that is answered a conflict changes nothing, and met another status than it found. -/
theorem attempt_of_conflict (h : (payContext P).Run r.Delivers (.init db) p) {n : Nat}
    {e : Event paySig (PayDb π)} (hn : p.log[n]? = some e) {id : PaymentId}
    {expected next : PaymentStatus} {reason : Option String} {now : Int}
    (he : (⟨e.op, e.ans⟩ : Reply paySig) =
      ⟨.transition id expected next reason now, .error .conflict⟩) :
    ∃ event found, (event = r.left ∨ event = r.right) ∧ found.id = id ∧
      Attempts p n e event r.reference found next ∧ e.post = e.pre ∧
        e.pre.seenAt r.reference ≠ some (found.id, found.status) := by
  obtain ⟨event, hev, hreq⟩ := request_of_event h hn
  have hop : e.op = .transition id expected next reason now := congrArg Reply.op he
  obtain ⟨reference, found, next', ha⟩ := attempts_of_write h hn hreq (by rw [hop]; rfl)
  obtain rfl : reference = r.reference := Option.some.inj (ha.refers.symm.trans (refers hev))
  obtain ⟨now', hop'⟩ := ha.op
  rw [hop] at hop'
  cases hop'
  obtain ⟨d, hd⟩ := h.event_exec e (List.mem_of_getElem? hn)
  obtain ⟨hsame, hconf⟩ := PayDb.exec_transition_conflict (exec_of_reply he hd)
  exact ⟨event, found, hev, rfl, ha, hsame, fun hs =>
    hconf (PayDb.seenAt_eq_some hs).choose_spec.2.2.2⟩

/-- When one of the two writes changes nothing, only the other changes the payment. -/
theorem seenAt_kept (h : (payContext P).Run r.Delivers (.init db) p) {n l : Nat}
    {e g : Event paySig (PayDb π)} (hn : p.log[n]? = some e) (hl : p.log[l]? = some g)
    {event event' : WebhookEvent} {found found' : Payment} {next next' : PaymentStatus}
    (hev : event = r.left ∨ event = r.right) (hev' : event' = r.left ∨ event' = r.right)
    (hne : event.eventId ≠ event'.eventId) (ha : Attempts p n e event r.reference found next)
    (hb : Attempts p l g event' r.reference found' next') (hsame : e.post = e.pre) {k : Nat}
    {f : Event paySig (PayDb π)} (hkl : k ≠ l) (hk : p.log[k]? = some f) :
    f.post.seenAt r.reference = f.pre.seenAt r.reference := by
  by_contra hchange
  obtain ⟨event'', found'', next'', hev'', hf⟩ := attempts_of_change h hk hchange
  have hcase : event'' = event' ∨ event'' = event := by
    rcases hev with rfl | rfl <;> rcases hev' with rfl | rfl <;> rcases hev'' with rfl | rfl <;>
      simp_all
  rcases hcase with rfl | rfl
  · exact hkl (attempts_once h hk hl hf hb rfl)
  · obtain rfl := attempts_once h hk hn hf ha rfl
    rw [hn] at hk
    cases hk
    exact hchange (by rw [hsame])

/-- **Conflicts.** A conflict over a status change that is still legal comes of a race. -/
theorem race_of_conflict (h : (payContext P).Run r.Delivers (.init db) p) {n : Nat}
    {e : Event paySig (PayDb π)} (hn : p.log[n]? = some e) {id : PaymentId}
    {expected next current : PaymentStatus} {reason : Option String} {now : Int}
    (he : (⟨e.op, e.ans⟩ : Reply paySig) =
      ⟨.transition id expected next reason now, .error .conflict⟩)
    (hcur : e.pre.statusOf id = some current) (hlegal : Moves current next) : r.Race db := by
  -- the loser found the payment at `found.status`, and met another status
  obtain ⟨event, found, hev, rfl, ha, hsame, hlost⟩ := attempt_of_conflict h hn he
  obtain ⟨m, f, hmn, hm, hseen⟩ := seen_of_attempts h ha
  -- the winner wrote in between
  obtain ⟨l, g, hml, hln, hl, hpre, hpost⟩ := h.trail.turned_between
    (I := fun s => s.seenAt r.reference ≠ some (found.id, found.status))
    (fun a s hs hseen => hs ((seenAt_act r.reference a s).trans hseen)) hm hn hmn
    (not_not.mpr hseen) hlost
  rw [not_not] at hpre
  obtain ⟨event', found', moved, hev', hb⟩ :=
    attempts_of_change h hl fun hs => hpost (hs.trans hpre)
  obtain ⟨hstatus, hmoved, hleft⟩ := change_of_attempts h hl hb hpre hpost
  have hne : event.eventId ≠ event'.eventId := fun hid =>
    absurd (attempts_once h hn hl ha hb hid) (Nat.ne_of_gt hln)
  -- nothing else changed the payment
  have hrest {k : Nat} {f : Event paySig (PayDb π)} (hkl : k ≠ l) (hk : p.log[k]? = some f) :
      f.post.seenAt r.reference = f.pre.seenAt r.reference :=
    seenAt_kept h hn hl hev hev' hne ha hb hsame hkl hk
  have hstart : g.pre.seenAt r.reference = db.seenAt r.reference :=
    h.trail.inv_before (I := fun s => s.seenAt r.reference = db.seenAt r.reference)
      (fun a s hs => (seenAt_act r.reference a s).trans hs) hl rfl
      fun k f hkl hk hs => (hrest (Nat.ne_of_lt hkl) hk).trans hs
  have hmet : e.pre.seenAt r.reference = some (found.id, moved) :=
    h.trail.inv_between (I := fun s => s.seenAt r.reference = some (found.id, moved))
      (fun a s hs => (seenAt_act r.reference a s).trans hs) hl hn hln hleft
      fun k f hlk _ hk hs => (hrest (Nat.ne_of_gt hlk) hk).trans hs
  obtain ⟨row, hrow, -, hrs, -⟩ := PayDb.seenAt_eq_some (hstart.symm.trans hpre)
  obtain ⟨-, -, -, -, hst⟩ := PayDb.seenAt_eq_some hmet
  obtain rfl : moved = current := Option.some.inj (hst.symm.trans hcur)
  have hover : Overtakes event' event r.reference db :=
    ⟨row, moved, next, hrow, hb.reports, ha.reports, hrs ▸ hmoved, hrs ▸ hstatus ▸ hb.legal,
      hrs ▸ ha.legal, hlegal⟩
  have hnew := new_of_attempts h ha
  have hnew' := new_of_attempts h hb
  rcases hev with rfl | rfl <;> rcases hev' with rfl | rfl
  · exact absurd rfl hne
  · exact ⟨hnew, hnew', .inr hover⟩
  · exact ⟨hnew', hnew, .inl hover⟩
  · exact absurd rfl hne

end Rivals

/-! ### Every race can be lost -/

/-- The genuine delivery of an event. -/
def PayRequest.genuine (event : WebhookEvent) : PayRequest :=
  .deliver (.only [] "" event) [] (some "")

/-- What is left of a delivery that may move the payment it found. -/
def afterLookup (found : Payment) (next : PaymentStatus) : Prog paySig PayResponse :=
  .call .now fun now =>
    .call (.transition found.id found.status next (some "provider_webhook") now) fun
      | .ok () => .ret (.handled .processed)
      | .error .conflict => .ret (.handled .ignored)
      | .error e => .ret (.handled (.error e.display))

theorem genuine_code {event : WebhookEvent} {reference : ProviderReference}
    {next : PaymentStatus} (hr : event.reference = some reference)
    (hn : event.newStatus = some next) :
    ∃ k k', (PayRequest.genuine event).code = .call (.recordAndClaim event.eventId []) k ∧
      k (.ok true) = .call (.findByProviderReference reference) k' ∧
        ∀ found : Payment, Moves found.status next →
          k' (.ok (some found)) = afterLookup found next := by
  obtain ⟨eventId, reference', next'⟩ := event
  obtain rfl : reference' = some reference := hr
  obtain rfl : next' = some next := hn
  refine ⟨_, _, rfl, rfl, fun found hm => ?_⟩
  simp only [Prog.bind_ret]
  rw [if_pos hm]
  refine congrArg (Prog.call _) (funext fun now => congrArg (Prog.call _) (funext fun ans => ?_))
  rcases ans with ((_ | msg) | ⟨⟩) <;> rfl

theorem PayDb.serve_claim {eventId : String} (h : ¬ db.webhookEvents.Claimed eventId) :
    PayDb.exec P .served (.recordAndClaim eventId []) db = (.ok true, db.claim eventId []) := by
  rw [exec_served, serve, (WebhookTable.claim_fst db.webhookEvents eventId []).mpr h, claim]

theorem PayDb.find_served {reference : ProviderReference} {row : PaymentRow}
    (h : db.payments.findByProviderReference reference = some row) {after : PayDb π}
    (hp : after.payments = db.payments) :
    PayDb.exec P .served (.findByProviderReference reference) after =
      (.ok (some (rowToPayment row)), after) := by
  rw [exec_served, serve, hp, h]
  rfl

theorem PayDb.transition_overtaken {id : PaymentId} {moved expected : PaymentStatus}
    (h : db.statusOf id = some moved) (hne : moved ≠ expected) (next : PaymentStatus)
    (reason : Option String) (now : Nat) :
    db.transition id expected next reason now = (.error .conflict, db) := by
  obtain ⟨row, hfound, rfl⟩ := Option.map_eq_some_iff.mp h
  rw [transition, hfound]
  dsimp only
  rw [if_neg hne]

/-- Both events come in. -/
theorem Rivals.both_started (P : PaymentProvider π) (r : Rivals) (db : PayDb π) :
    (payContext P).Run r.Delivers (.init db)
      ⟨db, [⟨.genuine r.left, (PayRequest.genuine r.left).code⟩,
        ⟨.genuine r.right, (PayRequest.genuine r.right).code⟩], []⟩ := by
  have h₀ : (payContext P).Run r.Delivers (.init db) (.init db) := .refl
  have h₁ := h₀.snoc (a := .start (.genuine r.left))
    ⟨r.left, .inl rfl, rfl, .inl fun c hc => absurd hc List.not_mem_nil⟩ (.start _ _)
  refine h₁.snoc (a := .start (.genuine r.right))
    ⟨r.right, .inr rfl, rfl, .inl fun c hc hev => ?_⟩ (.start _ _)
  obtain rfl := List.mem_singleton.mp hc
  exact r.distinct (congrArg WebhookEvent.eventId (Option.some.inj hev))

/-- The two deliveries read the payment; the first moves it, and the second is answered a
conflict. -/
theorem Overtakes.loses (h : Overtakes r.left r.right r.reference db)
    (hl : ¬ db.webhookEvents.Claimed r.left.eventId)
    (hr : ¬ db.webhookEvents.Claimed r.right.eventId) :
    ∃ p, (payContext P).Run r.Delivers (.init db) p ∧ r.Delivered p ∧ ¬ ConflictsApplied p := by
  obtain ⟨row, moved, lost, hrow, hmoved, hlost, hne, hm, hlo, hml⟩ := h
  obtain ⟨k, k', hcode, hk, hk'⟩ := genuine_code r.leftRefers hmoved
  obtain ⟨g, g', gcode, hg, hg'⟩ := genuine_code r.rightRefers hlost
  have h₂ := r.both_started P db
  rw [hcode, gcode] at h₂
  -- the second is claimed and read, then the first is
  have hl' : ¬ (db.claim r.right.eventId []).webhookEvents.Claimed r.left.eventId := fun hc =>
    (WebhookTable.claimed_claim.mp hc).elim r.distinct hl
  have hfind {after : PayDb π} (hp : after.payments = db.payments) :
      PayDb.exec P .served _ after = _ := PayDb.find_served hrow hp
  have h₃ := h₂.next (i := 1) (c := .served) trivial rfl (PayDb.serve_claim (P := P) hr) hg
  have h₄ := h₃.next (i := 1) (c := .served) trivial rfl (hfind rfl) (hg' _ hlo)
  have h₅ := h₄.next (i := 0) (c := .served) trivial rfl (PayDb.serve_claim (P := P) hl') hk
  have h₆ := h₅.next (i := 0) (c := .served) trivial rfl (hfind rfl) (hk' _ hm)
  -- the first moves the payment
  generalize hdb : (db.claim r.right.eventId []).claim r.left.eventId [] = db' at h₆
  have hrow' : db'.payments.find row.id = some row := by
    rw [← hdb]
    exact (PaymentTable.find_of_reference hrow).1
  have hwrite := PayDb.transition_ok hrow' moved (some "provider_webhook") db'.clock
  have hstatus : (db'.write row.id row.status moved (some "provider_webhook")
      ((db'.clock / nanosPerSec : Nat) : Int)).statusOf row.id = some moved := by
    rw [PayDb.statusOf_write, if_pos rfl, PayDb.statusOf, hrow']
    rfl
  have h₇ := h₆.next (i := 0) (c := .served) (k := _) trivial rfl rfl rfl
  have h₈ := h₇.next (i := 0) (c := .served) trivial rfl hwrite rfl
  generalize db'.write row.id row.status moved (some "provider_webhook")
    ((db'.clock / nanosPerSec : Nat) : Int) = after at hstatus h₈
  -- the second is answered a conflict
  have hconflict :=
    PayDb.transition_overtaken hstatus hne lost (some "provider_webhook") after.clock
  have h₉ := h₈.next (i := 1) (c := .served) trivial rfl rfl rfl
  have h₁₀ := h₉.next (i := 1) (c := .served) trivial rfl hconflict rfl
  refine ⟨_, h₁₀, ⟨Pool.quiet_of_answers [(_, _), (_, _)] rfl, ⟨0, _, .processed, rfl, rfl, rfl⟩,
    ⟨1, _, .ignored, rfl, rfl, rfl⟩⟩, fun happ => ?_⟩
  obtain ⟨row', hmem, -⟩ := happ _ (List.mem_append_right _ (List.mem_singleton_self _)) row.id
    row.status lost moved (some "provider_webhook") after.clock rfl hstatus hml
  rw [List.drop_length] at hmem
  cases hmem

/-- The same events, the other way round. -/
def Rivals.swap (r : Rivals) : Rivals :=
  ⟨r.right, r.left, r.reference, r.distinct.symm, r.rightRefers, r.leftRefers⟩

theorem Rivals.Delivers.swap {q : Pool paySig (PayDb π) PayRequest PayResponse}
    {a : Act PayRequest Fate PayEnv} (h : r.swap.Delivers q a) : r.Delivers q a := by
  cases a with
  | start req =>
      obtain ⟨event, hev, hreq, hfirst⟩ := h
      exact ⟨event, hev.symm, hreq, hfirst⟩
  | step i fate => trivial
  | env e => trivial

theorem Rivals.Race.loses (h : r.Race db) :
    ∃ p, (payContext P).Run r.Delivers (.init db) p ∧ r.Delivered p ∧ ¬ ConflictsApplied p := by
  rcases h.overtakes with ho | ho
  · exact ho.loses h.leftNew h.rightNew
  · obtain ⟨p, hp, ⟨hq, hright, hleft⟩, hlost⟩ :=
      Overtakes.loses (P := P) (r := r.swap) ho h.rightNew h.leftNew
    exact ⟨p, hp.mono fun _ _ => .swap, ⟨hq, hleft, hright⟩, hlost⟩

/-- **Lost races.** In every interleaving of the deliveries of two events for one payment, and of
the redeliveries their answers ask for, each status change that is answered a conflict but is
still legal is written later, exactly when the events cannot race. -/
theorem Rivals.conflicts_applied_iff (P : PaymentProvider π) (r : Rivals) (db : PayDb π) :
    (∀ p, (payContext P).Run r.Delivers (.init db) p → r.Delivered p → ConflictsApplied p) ↔
      ¬ r.Race db := by
  constructor
  · intro h hrace
    obtain ⟨p, hp, hdone, hlost⟩ := hrace.loses (P := P)
    exact hlost (h p hp hdone)
  · intro hrace p hp _ e he id expected next current reason now hans hcur hlegal
    obtain ⟨n, hn⟩ := List.mem_iff_getElem?.mp he
    exact absurd (race_of_conflict hp hn hans hcur hlegal) hrace

end

/-! ### An authorization that is lost -/

/-- The provider asks for an action of the customer, and authorizes the payment. -/
def authorizing : Rivals where
  left := ⟨"evt_1", some ⟨"pi_1"⟩, some .requiresAction⟩
  right := ⟨"evt_2", some ⟨"pi_1"⟩, some .authorized⟩
  reference := ⟨"pi_1"⟩
  distinct := by decide
  leftRefers := rfl
  rightRefers := rfl

/-- Both deliveries read the payment as `Created`; the payment stays `RequiresAction`, from which
it could become `Authorized`. -/
theorem lost_authorization :
    ¬ ∀ p, (payContext FakePaymentProvider.port).Run authorizing.Delivers
      (.init (.single (samplePayment .created) [] .new 0)) p → authorizing.Delivered p →
        ConflictsApplied p := by
  have hrace :
      authorizing.Race (PayDb.single (samplePayment .created) [] FakePaymentProvider.new 0) :=
    ⟨List.not_mem_nil, List.not_mem_nil,
      .inl ⟨_, _, _, rfl, rfl, rfl, by decide, rfl, rfl, rfl⟩⟩
  obtain ⟨p, hp, hdone, hlost⟩ := hrace.loses (P := FakePaymentProvider.port)
  exact fun h => hlost (h p hp hdone)

end AuthApp.Payments
