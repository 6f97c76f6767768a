import AuthApp.Payments.Delivery
import AuthApp.Payments.Fake
import AuthApp.Walk.Settle

/-!
# Payments — the order of deliveries

The provider moves a payment along a path of the state machine and emits an event for each step.
The events arrive in any order, any number of times, before or after the payment is told its
reference.  An event that arrives too early is claimed and dropped, and never acted on again.

* `heard`: the events that are first delivered once the reference is attached.
* `status_after`: the stored status is where the statuses they report settle.
* `order_iff`: so it is the last of the path exactly when that status is reported at a time the
  payment can move to it.
-/

namespace AuthApp.Payments
open Interleave

variable {π : Type}

/-- What the provider did: a path of the state machine, and one event for each of its steps. -/
structure ProviderStory where
  path : Walk Moves .created
  reference : ProviderReference
  events : List WebhookEvent
  distinct : (events.map WebhookEvent.eventId).Nodup
  refs : ∀ e ∈ events, e.reference = some reference
  statuses : events.map WebhookEvent.newStatus = path.moves.map some

/-- The bytes and the signature of an event, which verify. -/
structure GenuineDelivery where
  verifier : WebhookVerifier
  payload : List UInt8
  signature : Option String
  event : WebhookEvent
  genuine : verifier.verify payload signature = .ok event

/-- What happens to a payment: its reference is attached, an event is delivered, time passes. -/
inductive Arrival where
  | attach
  | delivery (d : GenuineDelivery)
  | clock (now : Nat)

/-- One arrival, with storage healthy. -/
def Arrival.run (P : PaymentProvider π) (story : ProviderStory) (id : PaymentId) :
    Arrival → PayDb π → PayDb π
  | .attach, db =>
      ((PaymentRepository.setProviderReference id story.reference).run (PayDb.serve P) db).2
  | .delivery d, db => (deliver d.verifier P d.payload d.signature db).2
  | .clock now, db => (PayEnv.clock now).act db

/-- The arrivals, one after another. -/
def arrive (P : PaymentProvider π) (story : ProviderStory) (id : PaymentId)
    (arrivals : List Arrival) (db : PayDb π) : PayDb π :=
  arrivals.foldl (fun db a => a.run P story id db) db

/-- The events first delivered once the reference is attached, in that order. -/
def heard (attached : Bool) (seen : List String) : List Arrival → List WebhookEvent
  | [] => []
  | .attach :: rest => heard true seen rest
  | .clock _ :: rest => heard attached seen rest
  | .delivery d :: rest =>
      if d.event.eventId ∈ seen then heard attached seen rest
      else (if attached then [d.event] else []) ++ heard attached (d.event.eventId :: seen) rest

/-- The payment as it stands before the story: created, with no reference, and no event seen. -/
structure Awaits (story : ProviderStory) (id : PaymentId) (db : PayDb π) : Prop where
  row : ∃ row, db.payments.find id = some row ∧ row.status = .created
  free : db.payments.findByProviderReference story.reference = none
  unseen : ∀ e ∈ story.events, ¬ db.webhookEvents.Claimed e.eventId

/-- The payment as it stands during the story. -/
structure Tracks (story : ProviderStory) (id : PaymentId) (attached : Bool) (seen : List String)
    (status : PaymentStatus) (db : PayDb π) : Prop where
  row : ∃ row, db.payments.find id = some row ∧ row.status = status ∧
    db.payments.findByProviderReference story.reference = if attached then some row else none
  seen : ∀ e ∈ story.events, db.webhookEvents.Claimed e.eventId ↔ e.eventId ∈ seen

section
variable {P : PaymentProvider π} {story : ProviderStory} {id : PaymentId} {attached : Bool}
  {seen : List String} {status : PaymentStatus} {db : PayDb π}

theorem Awaits.tracks (h : Awaits story id db) : Tracks story id false [] .created db := by
  obtain ⟨row, hrow, hs⟩ := h.row
  exact ⟨⟨row, hrow, hs, h.free⟩, fun e he => iff_of_false (h.unseen e he) List.not_mem_nil⟩

/-! ### What each arrival does -/

theorem Tracks.attach (h : Tracks story id attached seen status db) :
    Tracks story id true seen status (Arrival.attach.run P story id db) := by
  obtain ⟨row, hrow, hs, href⟩ := h.row
  have hdb : Arrival.attach.run P story id db =
      (db.setProviderReference id story.reference).2 := rfl
  rw [hdb]
  rw [PayDb.setProviderReference]
  cases hset : db.payments.setProviderReference id story.reference with
  | none =>
      -- no other payment has the reference
      obtain ⟨r, hr, hne, hrr⟩ := PaymentTable.setProviderReference_eq_none hset
      have hfind := PaymentTable.findByProviderReference_eq_some_iff.mpr ⟨hr, hrr⟩
      rw [href] at hfind
      cases attached with
      | false => cases hfind
      | true =>
          cases hfind
          exact absurd (PaymentTable.id_of_find hrow) hne
  | some t =>
      have hrow' := PaymentTable.find_of_setProviderReference hset id
      rw [if_pos rfl, hrow, Option.map_some] at hrow'
      refine ⟨⟨_, hrow', hs, ?_⟩, h.seen⟩
      exact PaymentTable.findByProviderReference_of_set hset hrow'

theorem Tracks.clock (h : Tracks story id attached seen status db) (now : Nat) :
    Tracks story id attached seen status ((Arrival.clock now).run P story id db) :=
  ⟨h.row, h.seen⟩

/-- An event that was seen does nothing. -/
theorem Tracks.duplicate (h : Tracks story id attached seen status db) {d : GenuineDelivery}
    (hd : d.event ∈ story.events) (hs : d.event.eventId ∈ seen) :
    Tracks story id attached seen status ((Arrival.delivery d).run P story id db) := by
  rw [Arrival.run, deliver_of_claimed d.genuine ((h.seen d.event hd).mpr hs)]
  exact h

theorem Tracks.claim (h : Tracks story id attached seen status db) (eventId : String)
    (payload : List UInt8) :
    Tracks story id attached (eventId :: seen) status (db.claim eventId payload) := by
  refine ⟨h.row, fun e he => ?_⟩
  rw [PayDb.claim, WebhookTable.claimed_claim, List.mem_cons, h.seen e he]

/-- A fresh event is claimed, then received. -/
theorem Tracks.delivery_eq (h : Tracks story id attached seen status db) {d : GenuineDelivery}
    (hd : d.event ∈ story.events) (hs : d.event.eventId ∉ seen) :
    (Arrival.delivery d).run P story id db =
      (receive d.event (db.claim d.event.eventId d.payload)).2 := by
  rw [Arrival.run, deliver_eq d.genuine, if_neg fun hc => hs ((h.seen d.event hd).mp hc)]

/-- An event that arrives before the reference is only claimed. -/
theorem Tracks.early (h : Tracks story id false seen status db) {d : GenuineDelivery}
    (hd : d.event ∈ story.events) (hs : d.event.eventId ∉ seen) :
    Tracks story id false (d.event.eventId :: seen) status
      ((Arrival.delivery d).run P story id db) := by
  have hc := h.claim d.event.eventId d.payload
  rw [h.delivery_eq hd hs]
  generalize db.claim d.event.eventId d.payload = db' at hc ⊢
  obtain ⟨row, -, -, href⟩ := hc.row
  rw [receive, story.refs d.event hd]
  cases d.event.newStatus with
  | none => exact hc
  | some next =>
      dsimp only
      rw [href]
      exact hc

/-- An event that arrives after it is acted on, if the payment can move to the status it
reports. -/
theorem Tracks.event (h : Tracks story id true seen status db) {d : GenuineDelivery}
    (hd : d.event ∈ story.events) (hs : d.event.eventId ∉ seen) {next : PaymentStatus}
    (hn : d.event.newStatus = some next) :
    Tracks story id true (d.event.eventId :: seen)
      (if Moves status next then next else status)
      ((Arrival.delivery d).run P story id db) := by
  have hc := h.claim d.event.eventId d.payload
  rw [h.delivery_eq hd hs]
  generalize db.claim d.event.eventId d.payload = db' at hc ⊢
  obtain ⟨row, hrow, rfl, href⟩ := hc.row
  rw [receive, story.refs d.event hd, hn]
  dsimp only
  rw [href, if_pos rfl]
  by_cases hm : Moves row.status next
  · have hid := PaymentTable.id_of_find hrow
    have hw := PayDb.transition_ok (hid ▸ hrow) next (some "provider_webhook") db'.clock
    dsimp only
    rw [if_pos hm, if_pos hm, hw]
    have hrow' := PaymentTable.find_setStatus db'.payments row.id next
      ((db'.clock / nanosPerSec : Nat) : Int) id
    rw [if_pos hid, hrow, Option.map_some] at hrow'
    refine ⟨⟨_, hrow', rfl, ?_⟩, hc.seen⟩
    rw [PayDb.write, PaymentTable.findByProviderReference_setStatus, href, if_pos rfl, if_pos rfl,
      Option.map_some, if_pos rfl]
  · dsimp only
    rw [if_neg hm, if_neg hm]
    exact hc

/-! ### Every order -/

/-- The statuses the heard events report are those of the path. -/
theorem reports_status {e : WebhookEvent} (he : e ∈ story.events) :
    ∃ next ∈ story.path.moves, e.newStatus = some next := by
  have hmem : e.newStatus ∈ story.path.moves.map some :=
    story.statuses ▸ List.mem_map_of_mem he
  obtain ⟨next, hnext, heq⟩ := List.mem_map.mp hmem
  exact ⟨next, hnext, heq.symm⟩

theorem mem_of_heard {arrivals : List Arrival}
    (hown : ∀ d, .delivery d ∈ arrivals → d.event ∈ story.events) :
    ∀ e ∈ heard attached seen arrivals, e ∈ story.events := by
  induction arrivals generalizing attached seen with
  | nil => exact fun e he => absurd he List.not_mem_nil
  | cons a rest ih =>
      have hrest := fun d hd => hown d (List.mem_cons_of_mem _ hd)
      cases a with
      | attach => exact ih hrest
      | clock now => exact ih hrest
      | delivery d =>
          intro e he
          rw [heard] at he
          split at he
          · exact ih hrest e he
          · rcases List.mem_append.mp he with he | he
            · cases attached with
              | false => cases he
              | true =>
                  obtain rfl := List.mem_singleton.mp he
                  exact hown d List.mem_cons_self
            · exact ih hrest e he

/-- **Settling.** The stored status is where the statuses the heard events report settle. -/
theorem Tracks.status_after (h : Tracks story id attached seen status db)
    {arrivals : List Arrival} (hown : ∀ d, .delivery d ∈ arrivals → d.event ∈ story.events) :
    (arrive P story id arrivals db).statusOf id =
      some (Walk.settle Moves status
        ((heard attached seen arrivals).filterMap WebhookEvent.newStatus)) := by
  induction arrivals generalizing attached seen status db with
  | nil =>
      obtain ⟨row, hrow, rfl, -⟩ := h.row
      exact congrArg (Option.map _) hrow
  | cons a rest ih =>
      have hrest := fun d hd => hown d (List.mem_cons_of_mem _ hd)
      cases a with
      | attach => exact ih h.attach hrest
      | clock now => exact ih (h.clock now) hrest
      | delivery d =>
          have hd := hown d List.mem_cons_self
          rw [heard]
          by_cases hs : d.event.eventId ∈ seen
          · rw [if_pos hs]
            exact ih (h.duplicate hd hs) hrest
          · rw [if_neg hs]
            cases attached with
            | false => exact ih (h.early hd hs) hrest
            | true =>
                obtain ⟨next, -, hn⟩ := reports_status hd
                rw [if_pos rfl, List.singleton_append, List.filterMap_cons_some hn,
                  Walk.settle_cons]
                exact ih (h.event hd hs hn) hrest

/-- No heard event reports a status beyond the end of the path. -/
theorem rank_of_heard {arrivals : List Arrival}
    (hown : ∀ d, .delivery d ∈ arrivals → d.event ∈ story.events) :
    ∀ next ∈ (heard attached seen arrivals).filterMap WebhookEvent.newStatus,
      next.rank ≤ story.path.last.rank := by
  intro next hnext
  obtain ⟨e, he, hen⟩ := List.mem_filterMap.mp hnext
  obtain ⟨next', hmem, hen'⟩ := reports_status (mem_of_heard hown e he)
  obtain rfl : next' = next := Option.some.inj (hen'.symm.trans hen)
  exact (story.path.rank_le_last PaymentStatus.rank fun _ _ h => h.rank.1).2 next' hmem

/-- A status among those that events report is the report of one of them. -/
theorem reported_split {events : List WebhookEvent} {next : PaymentStatus}
    {p : PaymentStatus → Prop} :
    (∃ ys zs, events.filterMap WebhookEvent.newStatus = ys ++ next :: zs ∧
        p (Walk.settle Moves status ys)) ↔
      ∃ before e after, events = before ++ e :: after ∧ e.newStatus = some next ∧
        p (Walk.settle Moves status (before.filterMap WebhookEvent.newStatus)) := by
  constructor
  · rintro ⟨ys, zs, hsplit, hp⟩
    obtain ⟨before, rest, rfl, rfl, hrest⟩ := List.filterMap_eq_append_iff.mp hsplit
    obtain ⟨skipped, e, after, rfl, hskipped, hen, -⟩ := List.filterMap_eq_cons_iff.mp hrest
    refine ⟨before ++ skipped, e, after, (List.append_assoc ..).symm, hen, ?_⟩
    rw [List.filterMap_append, List.filterMap_eq_nil_iff.mpr hskipped, List.append_nil]
    exact hp
  · rintro ⟨before, e, after, rfl, hen, hp⟩
    refine ⟨before.filterMap WebhookEvent.newStatus, after.filterMap WebhookEvent.newStatus, ?_, hp⟩
    rw [List.filterMap_append, List.filterMap_cons_some hen]

/-- The events, in the order of the path, report the path. -/
theorem reported_events : story.events.filterMap WebhookEvent.newStatus = story.path.moves := by
  have h : story.events.filterMap WebhookEvent.newStatus =
      (story.events.map WebhookEvent.newStatus).filterMap id :=
    (List.filterMap_map (f := WebhookEvent.newStatus) (g := id)).symm
  rw [h, story.statuses, List.filterMap_map]
  exact List.filterMap_some

/-- **The order of deliveries.** After any deliveries of its events, before and after its
reference is attached, a payment is stored at the last status of the path exactly when the path
does not move, or an event that reports that status is heard while the payment can move to it.
So it is when the events are heard in the order of the path. -/
theorem order_iff (h : Awaits story id db) {arrivals : List Arrival}
    (hown : ∀ d, .delivery d ∈ arrivals → d.event ∈ story.events) :
    ((arrive P story id arrivals db).statusOf id = some story.path.last ↔
      story.path.moves = [] ∨ ∃ before e after,
        heard false [] arrivals = before ++ e :: after ∧ e.newStatus = some story.path.last ∧
          Moves (Walk.settle Moves .created (before.filterMap WebhookEvent.newStatus))
            story.path.last) ∧
      (heard false [] arrivals = story.events →
        (arrive P story id arrivals db).statusOf id = some story.path.last) := by
  have hafter := h.tracks.status_after (P := P) hown
  have hstart := Walk.last_eq_start_iff
    (fun s => by simp [PaymentStatus.canTransitionTo_created]) story.path
  constructor
  · rw [hafter, Option.some.injEq, ← hstart,
      Walk.settle_eq_iff PaymentStatus.rank (fun _ _ h => h.rank) (rank_of_heard hown),
      reported_split (p := fun s => Moves s story.path.last)]
    exact or_congr eq_comm Iff.rfl
  · intro heq
    rw [hafter, heq, reported_events, Walk.settle_moves]

end

/-! ### A capture that arrives first -/

/-- The provider authorizes a payment, then captures it. -/
def captureStory : ProviderStory where
  path := ⟨[.authorized, .captured], by decide⟩
  reference := ⟨"pi_1"⟩
  events := [⟨"evt_1", some ⟨"pi_1"⟩, some .authorized⟩, ⟨"evt_2", some ⟨"pi_1"⟩, some .captured⟩]
  distinct := by decide
  refs := by decide
  statuses := rfl

/-- The delivery of an event in a body of its own. -/
def GenuineDelivery.of (event : WebhookEvent) : GenuineDelivery where
  verifier := .only [123, 125] "t=1,v1=ab" event
  payload := [123, 125]
  signature := some "t=1,v1=ab"
  event := event
  genuine := rfl

def createdDb : PayDb FakePaymentProvider :=
  .single { samplePayment .created with providerReference := none } [] .new 0

/-- The reference is attached, and the two events arrive the wrong way round. -/
def captureFirst : List Arrival :=
  .attach :: (captureStory.events.reverse.map fun e => .delivery (.of e))

theorem createdDb_awaits : Awaits captureStory ⟨"pay_1"⟩ createdDb where
  row := ⟨_, rfl, rfl⟩
  free := by decide
  unseen := by decide

theorem captureFirst_own :
    ∀ d, .delivery d ∈ captureFirst → d.event ∈ captureStory.events := by
  intro d hd
  obtain ⟨e, he, heq⟩ := List.mem_map.mp ((List.mem_cons.mp hd).resolve_left nofun)
  obtain rfl : GenuineDelivery.of e = d := Arrival.delivery.inj heq
  exact List.mem_reverse.mp he

/-- The capture is dropped, and the payment stays `Authorized`. -/
theorem captureFirst_authorized :
    Awaits captureStory ⟨"pay_1"⟩ createdDb ∧ .attach ∈ captureFirst ∧
      (∀ d, .delivery d ∈ captureFirst → d.event ∈ captureStory.events) ∧
      (∀ e ∈ captureStory.events, ∃ d, .delivery d ∈ captureFirst ∧ d.event = e) ∧
      captureStory.path.last = .captured ∧
      (arrive FakePaymentProvider.port captureStory ⟨"pay_1"⟩ captureFirst createdDb).statusOf
        ⟨"pay_1"⟩ = some .authorized := by
  refine ⟨createdDb_awaits, List.mem_cons_self, captureFirst_own, fun e he => ⟨.of e, ?_, rfl⟩,
    rfl, by decide⟩
  exact List.mem_cons_of_mem _ (List.mem_map_of_mem (List.mem_reverse.mpr he))

/-- So neither the path is idle, nor is the capture heard while the payment can move to it. -/
theorem captureFirst_order :
    ((arrive FakePaymentProvider.port captureStory ⟨"pay_1"⟩ captureFirst createdDb).statusOf
        ⟨"pay_1"⟩ = some captureStory.path.last ↔
      captureStory.path.moves = [] ∨ ∃ before e after,
        heard false [] captureFirst = before ++ e :: after ∧
          e.newStatus = some captureStory.path.last ∧
          Moves (Walk.settle Moves .created (before.filterMap WebhookEvent.newStatus))
            captureStory.path.last) ∧
      (heard false [] captureFirst = captureStory.events →
        (arrive FakePaymentProvider.port captureStory ⟨"pay_1"⟩ captureFirst createdDb).statusOf
          ⟨"pay_1"⟩ = some captureStory.path.last) :=
  order_iff createdDb_awaits captureFirst_own

end AuthApp.Payments
