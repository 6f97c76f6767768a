import AuthApp.Payments.Delivery
import AuthApp.Payments.Fake
import AuthApp.Payments.System
import AuthApp.Walk.Basic
import Mathlib.Tactic.FinCases

/-!
# Payments — the history of a payment

The repository never checks that a transition is legal: each service checks the status it read,
and the guarded update fails when that status is stale.  So the history of a payment is the trace
of a walk of the state machine, whatever the requests, their order and their failures.

* `Stage`: how far the insert of a payment got; a recorded payment refines a walk.
* `effect_of_event`: what one step of any request does to one payment.
* `history_faithful`: a payment whose insert has returned has a faithful history.
* `terminal_stays`: once a payment is terminal, nothing about it changes.
-/

namespace AuthApp.Payments
open Interleave Pool

variable {π : Type}

def HistoryRow.move (r : HistoryRow) : Option PaymentStatus × PaymentStatus :=
  (r.fromStatus, r.toStatus)

/-- The history of the payment has begun. -/
def Recorded (id : PaymentId) (db : PayDb π) : Prop := db.historyOf id ≠ []

/-- How far the insert of a payment got: its row is missing, or its row for creation is, or both
are there and its history is a walk of the state machine, which ends at its status. -/
inductive Stage (id : PaymentId) (db : PayDb π) : Prop where
  | absent (hf : db.payments.find id = none) (hh : db.historyOf id = [])
  | unrecorded (row : PaymentRow) (hf : db.payments.find id = some row)
      (hs : row.status = .created) (hr : row.providerReference = none)
      (hh : db.historyOf id = [])
  | recorded (row : PaymentRow) (hf : db.payments.find id = some row)
      (w : Walk Moves .created) (hh : (db.historyOf id).map HistoryRow.move = w.trace)
      (hl : w.last = row.status)

/-- What one step does to one payment. -/
inductive Effect (id : PaymentId) (s t : PayDb π) : Prop where
  | same (hp : t.payments.find id = s.payments.find id) (hh : t.historyOf id = s.historyOf id)
  | inserted (row : PaymentRow) (hs : s.payments.find id = none)
      (ht : t.payments.find id = some row) (hc : row.status = .created)
      (hr : row.providerReference = none) (hh : t.historyOf id = s.historyOf id)
  | born (row : PaymentRow) (r : HistoryRow) (hs : s.payments.find id = some row)
      (h₀ : s.historyOf id = []) (hp : t.payments.find id = s.payments.find id)
      (hh : t.historyOf id = [r]) (hr : r.move = (none, .created))
  | attached (hb : Recorded id s) (hs : t.statusOf id = s.statusOf id)
      (hh : t.historyOf id = s.historyOf id)
  | moved (r : HistoryRow) (current next : PaymentStatus) (hb : Recorded id s)
      (hs : s.statusOf id = some current) (hl : Moves current next)
      (ht : t.statusOf id = some next) (hh : t.historyOf id = s.historyOf id ++ [r])
      (hr : r.move = (some current, next))

theorem statusOf_eq_some {db : PayDb π} {id : PaymentId} {status : PaymentStatus}
    (h : db.statusOf id = some status) :
    ∃ row, db.payments.find id = some row ∧ row.status = status :=
  Option.map_eq_some_iff.mp h

/-- A payment whose history has begun refines a walk. -/
theorem Stage.walk {id : PaymentId} {db : PayDb π} (h : Stage id db) (hb : Recorded id db) :
    ∃ row w, db.payments.find id = some row ∧
      (db.historyOf id).map HistoryRow.move = (w : Walk Moves .created).trace ∧
        w.last = row.status := by
  cases h with
  | absent hf hh => exact absurd hh hb
  | unrecorded row hf hs hr hh => exact absurd hh hb
  | recorded row hf w hh hl => exact ⟨row, w, hf, hh, hl⟩

/-- **Refinement.** A step that has an effect takes a stage to a stage. -/
theorem Effect.stage {id : PaymentId} {s t : PayDb π} (h : Effect id s t) (hs : Stage id s) :
    Stage id t := by
  cases h with
  | same hp hh =>
      cases hs with
      | absent hf h₀ => exact .absent (hp.trans hf) (hh.trans h₀)
      | unrecorded row hf hc hr h₀ => exact .unrecorded row (hp.trans hf) hc hr (hh.trans h₀)
      | recorded row hf w hw hl => exact .recorded row (hp.trans hf) w (by rw [hh, hw]) hl
  | inserted row hnone ht hc hr hh =>
      cases hs with
      | absent hf h₀ => exact .unrecorded row ht hc hr (hh.trans h₀)
      | unrecorded row' hf => rw [hnone] at hf; cases hf
      | recorded row' hf => rw [hnone] at hf; cases hf
  | born row r hrow h₀ hp hh hr =>
      cases hs with
      | absent hf => rw [hrow] at hf; cases hf
      | unrecorded row' hf hc =>
          refine .recorded row' (hp.trans hf) (.stay PaymentStatus.created) ?_ hc.symm
          rw [hh, List.map_singleton, hr, Walk.trace_stay]
      | recorded row' hf w hw => rw [h₀] at hw; cases hw
  | attached hb hst hh =>
      obtain ⟨row, w, hf, hw, hl⟩ := hs.walk hb
      obtain ⟨row', hf', hst'⟩ := statusOf_eq_some (hst.trans (congrArg (Option.map _) hf))
      exact .recorded row' hf' w (by rw [hh, hw]) (hl.trans hst'.symm)
  | moved r current next hb hcur hlegal ht hh hr =>
      obtain ⟨row, w, hf, hw, hl⟩ := hs.walk hb
      obtain ⟨row', hf', hst'⟩ := statusOf_eq_some ht
      obtain ⟨row'', hf'', hst''⟩ := statusOf_eq_some hcur
      obtain rfl : row'' = row := Option.some.inj (hf''.symm.trans hf)
      have hlast : w.last = current := hl.trans hst''
      refine .recorded row' hf' (w.snoc next (hlast ▸ hlegal)) ?_ ?_
      · rw [hh, List.map_append, hw, Walk.trace_snoc, hlast, List.map_singleton, hr]
      · rw [Walk.last_snoc, hst']

/-- The environment touches no payment. -/
theorem Stage.act {id : PaymentId} {s : PayDb π} (h : Stage id s) (a : PayEnv) :
    Stage id (a.act s) := by
  cases a <;> cases h with
  | absent hf hh => exact .absent hf hh
  | unrecorded row hf hs hr hh => exact .unrecorded row hf hs hr hh
  | recorded row hf w hh hl => exact .recorded row hf w hh hl

/-- A history that follows the state machine: it starts with the row for creation, each row leaves
the status the row before it reached, by a legal move, and it ends at `status`. -/
structure Faithful (history : List HistoryRow) (status : PaymentStatus) : Prop where
  starts : ∃ r, history.head? = some r ∧ r.fromStatus = none ∧ r.toStatus = .created
  linked : history.IsChain fun r s =>
    s.fromStatus = some r.toStatus ∧ r.toStatus.canTransitionTo s.toStatus
  ends : ∃ r, history.getLast? = some r ∧ r.toStatus = status

/-- The trace of a walk is faithful. -/
theorem Faithful.of_walk {history : List HistoryRow} {status : PaymentStatus}
    {w : Walk Moves .created} (h : history.map HistoryRow.move = w.trace)
    (hl : w.last = status) : Faithful history status := by
  constructor
  · have hhead := w.trace_head
    rw [← h, List.head?_map] at hhead
    obtain ⟨r, hr, hm⟩ := Option.map_eq_some_iff.mp hhead
    exact ⟨r, hr, congrArg Prod.fst hm, congrArg Prod.snd hm⟩
  · have hchain := w.trace_chain
    rwa [← h, List.isChain_map] at hchain
  · have hlast := w.trace_last
    rw [← h, List.getLast?_map, Option.map_map] at hlast
    obtain ⟨r, hr, hm⟩ := Option.map_eq_some_iff.mp hlast
    exact ⟨r, hr, hm.trans hl⟩

/-- Nothing happens to a terminal payment. -/
theorem Effect.of_terminal {id : PaymentId} {s t : PayDb π} (h : Effect id s t)
    {status : PaymentStatus} (hs : s.statusOf id = some status) (ht : status.Terminal)
    (hb : Recorded id s) :
    t.statusOf id = some status ∧ t.historyOf id = s.historyOf id := by
  cases h with
  | same hp hh => exact ⟨by rw [PayDb.statusOf, hp]; exact hs, hh⟩
  | inserted row hnone => rw [PayDb.statusOf, hnone] at hs; cases hs
  | born row r hrow h₀ => exact absurd h₀ hb
  | attached hb hst hh => exact ⟨hst.trans hs, hh⟩
  | moved r current next hb hcur hl =>
      obtain rfl : current = status := Option.some.inj (hcur.symm.trans hs)
      have hno := (PaymentStatus.terminal_iff current).mp ht next
      rw [Moves, hno] at hl
      cases hl

/-! ### What the log says of one step -/

section Steps
variable {P : PaymentProvider π} {db : PayDb π} {p : Pool paySig (PayDb π) PayRequest PayResponse}

/-- The payment was seen in a state that its insert alone does not leave. -/
def Seen (id : PaymentId) (s : PayDb π) : Prop :=
  ∃ row, s.payments.find id = some row ∧
    (row.status ≠ .created ∨ row.providerReference ≠ none)

/-- The step number `n` of a run, by what its request has been answered before. -/
inductive Does (p : Pool paySig (PayDb π) PayRequest PayResponse) (n : Nat)
    (e : Event paySig (PayDb π)) : Prop where
  | quiet (h : e.op.WritesPayment = false)
  | insertRow (payment : NewPayment) (h : e.op = .insertPaymentRow payment)
  | insertHistory (payment : NewPayment) (id : PaymentId)
      (h : e.op = .insertHistoryRow id payment.createdAt)
      (hp : pastOf e.caller (p.log.take n) = [⟨.insertPaymentRow payment, .ok id⟩])
  | attach (id : PaymentId) (reference : ProviderReference) (d : Prog paySig PayResponse)
      (h : e.op = .setProviderReference id reference)
      (hc : p.calls[e.caller]? = some ⟨.setProviderReference id reference, d⟩)
  | move (id : PaymentId) (current next : PaymentStatus) (reason : Option String) (now : Int)
      (h : e.op = .transition id current next reason now) (hl : Moves current next)
      (hs : ∃ m < n, ∃ f, p.log[m]? = some f ∧ Seen id f.pre)

section Events
variable {ok : Pool paySig (PayDb π) PayRequest PayResponse → Act PayRequest Fate PayEnv → Prop}

/-- A payment that a refund found refundable was seen. -/
theorem seen_of_find (h : (payContext P).Run ok (.init db) p) {i n : Nat} {id : PaymentId}
    {found : Payment} (hr : ⟨.find id, .ok (some found)⟩ ∈ pastOf i (p.log.take n))
    (hs : found.status ≠ .created) :
    ∃ m < n, ∃ f, p.log[m]? = some f ∧ Seen found.id f.pre := by
  obtain ⟨m, hm, c, pre, post, hf, hx⟩ := h.reply_exec hr
  obtain ⟨row, hrow, hfound⟩ := Option.map_eq_some_iff.mp (PayDb.exec_find hx).1.symm
  refine ⟨m, hm, _, hf, row, ?_, .inl ?_⟩
  · rw [← hfound]
    exact (PaymentTable.id_of_find hrow).symm ▸ hrow
  · rw [← hfound] at hs
    exact hs

/-- A payment that a webhook found by its reference was seen. -/
theorem seen_of_reference (h : (payContext P).Run ok (.init db) p) {i n : Nat}
    {reference : ProviderReference} {found : Payment}
    (hr : ⟨.findByProviderReference reference, .ok (some found)⟩ ∈ pastOf i (p.log.take n)) :
    ∃ m < n, ∃ f, p.log[m]? = some f ∧ Seen found.id f.pre := by
  obtain ⟨m, hm, c, pre, post, hf, hx⟩ := h.reply_exec hr
  obtain ⟨row, hrow, hfound⟩ :=
    Option.map_eq_some_iff.mp (PayDb.exec_findByProviderReference hx).1.symm
  obtain ⟨hid, href⟩ := PaymentTable.find_of_reference hrow
  refine ⟨m, hm, _, hf, row, ?_, .inr ?_⟩
  · rw [← hfound]
    exact hid
  · rw [href]
    simp

theorem does_of_event (h : (payContext P).Run ok (.init db) p) {n : Nat}
    {e : Event paySig (PayDb π)} (hn : p.log[n]? = some e) : Does p n e := by
  obtain ⟨req, d, k, hc, hk⟩ := h.event_point request_trace hn
  obtain ⟨i, op, ans, pre, post⟩ := e
  simp only [Prog.head] at hk
  generalize hpast : pastOf i (p.log.take n) = past at hk
  have hmem : ∀ r ∈ past, r ∈ pastOf i (p.log.take n) := fun r hr => hpast ▸ hr
  cases req with
  | insert payment =>
      obtain ⟨hd, ht, he⟩ := hk
      obtain rfl := Head.map_eq_call he.symm
      cases ht with
      | start => exact .insertRow payment rfl
      | row id => exact .insertHistory payment id rfl hpast
  | setProviderReference id reference =>
      obtain ⟨hd, ht, he⟩ := hk
      obtain rfl := Head.map_eq_call he.symm
      cases ht with
      | start => exact .attach id reference d rfl hc
  | deliver verifier payload signature =>
      obtain ⟨hd, ht, he⟩ := hk
      obtain rfl := Head.map_eq_call he.symm
      cases ht with
      | reject err hv => exact .quiet rfl
      | claim event hv => exact .quiet rfl
      | lookup event hv reference next hr hn => exact .quiet rfl
      | clock event hv reference next found hr hn hl => exact .quiet rfl
      | write event hv reference next found now hr hn hl =>
          exact .move found.id found.status next _ now rfl hl
            (seen_of_reference h (hmem ⟨.findByProviderReference reference, .ok (some found)⟩
              (by simp)))
  | refund id =>
      obtain ⟨hd, ht, he⟩ := hk
      obtain rfl := Head.map_eq_call he.symm
      cases ht with
      | start => exact .quiet rfl
      | send found reference hs hr => exact .quiet rfl
      | clock found reference intent hl => exact .quiet rfl
      | write found reference intent now hs hl =>
          refine .move found.id found.status intent.status _ now rfl hl
            (seen_of_find h (hmem ⟨.find id, .ok (some found)⟩ (by simp)) ?_)
          rcases hs with hs | hs <;> rw [hs] <;> decide

theorem recorded_of_prefix {id : PaymentId} {s t : PayDb π} (h : s.history <+: t.history)
    (hs : Recorded id s) : Recorded id t := by
  obtain ⟨l, hl⟩ := h
  rw [Recorded, PayDb.historyOf, ← hl, List.filter_append]
  exact fun he => hs (List.append_eq_nil_iff.mp he).1

/-- A history that has begun stays so. -/
theorem Recorded.trail {id : PaymentId} {s t : PayDb π} {log : List (Event paySig (PayDb π))}
    (hs : Recorded id s) (h : (payContext P).Trail s log t) : Recorded id t := by
  refine recorded_of_prefix ?_ hs
  refine h.mono_exec (M := fun s t => s.history <+: t.history) (fun _ => List.prefix_rfl)
    List.IsPrefix.trans (fun a s => ?_) fun c op s => PayDb.exec_history P c op s
  cases a <;> exact List.prefix_rfl

theorem Stage.recorded_of_seen {id : PaymentId} {s : PayDb π} (h : Stage id s)
    (hs : Seen id s) : Recorded id s := by
  obtain ⟨row, hrow, hseen⟩ := hs
  cases h with
  | absent hf => rw [hf] at hrow; cases hrow
  | unrecorded row' hf hc hr =>
      obtain rfl : row' = row := Option.some.inj (hf.symm.trans hrow)
      exact absurd hseen (not_or.mpr ⟨not_not.mpr hc, not_not.mpr hr⟩)
  | recorded row' hf w hh => exact fun he => by rw [he] at hh; cases hh

/-- The id of a payment is answered to one insert. -/
theorem created_once (h : (payContext P).Run ok (.init db) p) {i j n m : Nat} {id : PaymentId}
    {payment payment' : NewPayment}
    (hi : ⟨.insertPaymentRow payment, .ok id⟩ ∈ pastOf i (p.log.take n))
    (hj : ⟨.insertPaymentRow payment', .ok id⟩ ∈ pastOf j (p.log.take m)) : i = j := by
  refine h.once (I := fun s => ∃ row, s.payments.find id = some row)
    (A := fun r : Reply paySig => ∃ payment, r = ⟨.insertPaymentRow payment, .ok id⟩)
    (fun a s hs => ?_)
    (fun c op s hs => ?_) ?_ hi hj ⟨payment, rfl⟩ ⟨payment', rfl⟩
  · cases a <;> exact hs
  · obtain ⟨row, hrow⟩ := hs
    obtain ⟨row', hrow', -⟩ := PayDb.keeps_exec P c op s id row hrow
    exact ⟨row', hrow'⟩
  · rintro c s r t ⟨payment, rfl⟩ hx
    obtain ⟨hnone, hsome⟩ := PayDb.insertPaymentRow_ok hx
    refine ⟨?_, hsome⟩
    rintro ⟨row, hrow⟩
    rw [hnone] at hrow
    cases hrow

/-- The states a run has been in up to step `n` are at a stage. -/
def StagedTo (p : Pool paySig (PayDb π) PayRequest PayResponse) (n : Nat) : Prop :=
  ∀ m ≤ n, ∀ f, p.log[m]? = some f → ∀ id, Stage id f.pre

/-- The move a service writes is of a payment whose history has begun. -/
theorem recorded_of_seen (h : (payContext P).Run ok (.init db) p) {n : Nat}
    {e : Event paySig (PayDb π)} (hn : p.log[n]? = some e) (hst : StagedTo p n) {id : PaymentId}
    (hs : ∃ m < n, ∃ f, p.log[m]? = some f ∧ Seen id f.pre) : Recorded id e.pre := by
  obtain ⟨m, hmn, f, hf, hseen⟩ := hs
  have hrec := (hst m (Nat.le_of_lt hmn) f hf id).recorded_of_seen hseen
  exact hrec.trail (h.trail.sinceTo hf hn hmn)

/-- What a step's operation leaves, for the operation it is known to be. -/
theorem post_eq (h : (payContext P).Run ok (.init db) p) {n : Nat}
    {e : Event paySig (PayDb π)} (hn : p.log[n]? = some e) :
    ∃ fate, e.post = (PayDb.exec P fate e.op e.pre).2 := by
  obtain ⟨c, hx⟩ := h.event_exec e (List.mem_of_getElem? hn)
  exact ⟨c, (congrArg Prod.snd hx).symm⟩

/-- The second statement of an insert is the first to write to the history of its payment. -/
theorem historyOf_of_pending (h : (payContext P).Run ok (.init db) p) (h₀ : db.history = [])
    {n : Nat} {e : Event paySig (PayDb π)} (hn : p.log[n]? = some e) (hst : StagedTo p n)
    {payment : NewPayment} {id : PaymentId}
    (hp : pastOf e.caller (p.log.take n) = [⟨.insertPaymentRow payment, .ok id⟩]) :
    e.pre.historyOf id = [] := by
  have hinit : db.historyOf id = [] := by rw [PayDb.historyOf, h₀, List.filter_nil]
  refine (h.trail.before hn).inv (I := fun s => s.historyOf id = []) (fun a s hs => ?_) hinit
    fun f hf hpre => ?_
  · cases a <;> exact hs
  obtain ⟨m, hm⟩ := List.mem_iff_getElem?.mp hf
  have hmn : m < n := Nat.lt_of_lt_of_le (List.getElem?_eq_some_iff.mp hm).1
    (List.length_take_le n p.log)
  rw [List.getElem?_take_of_lt hmn] at hm
  obtain ⟨fate, hpost⟩ := post_eq h hm
  have hstm : StagedTo p m := fun l hl => hst l (Nat.le_trans hl (Nat.le_of_lt hmn))
  cases does_of_event h hm with
  | quiet hq =>
      rw [PayDb.historyOf_congr (hpost ▸ (PayDb.exec_payments P fate hq f.pre).2), hpre]
  | insertRow payment' hop =>
      rw [hop] at hpost
      rw [PayDb.historyOf_congr
        (hpost ▸ (PayDb.exec_insertPaymentRow P fate payment' f.pre id).1), hpre]
  | attach id' reference d hop =>
      rw [hop] at hpost
      rw [PayDb.historyOf_congr
        (hpost ▸ (PayDb.exec_setProviderReference P fate id' reference f.pre id).1), hpre]
  | move id' current next reason now hop hl hs =>
      rw [hop] at hpost
      have hrec := recorded_of_seen h hm hstm hs
      rcases PayDb.exec_transition P fate id' current next reason now f.pre with
        e' | ⟨-, updatedAt, e'⟩
      · rw [hpost, e', hpre]
      · rw [hpost, e', PayDb.historyOf_append rfl, if_neg, hpre]
        rintro rfl
        exact hrec hpre
  | insertHistory payment' id' hop hp' =>
      have hne : id' ≠ id := by
        rintro rfl
        -- the caller has not got to this statement yet
        have hmade : (⟨.insertPaymentRow payment', .ok id'⟩ : Reply paySig) ∈
            pastOf f.caller (p.log.take m) := hp' ▸ List.mem_singleton_self _
        have hmade' : (⟨.insertPaymentRow payment, .ok id'⟩ : Reply paySig) ∈
            pastOf e.caller (p.log.take n) := hp ▸ List.mem_singleton_self _
        have hmem : (⟨f.op, f.ans⟩ : Reply paySig) ∈ pastOf e.caller (p.log.take n) :=
          created_once h hmade hmade' ▸ mem_pastOf_of_mem hf
        rw [hp, List.mem_singleton] at hmem
        have hops := hop.symm.trans (congrArg Reply.op hmem)
        cases hops
      rw [hop] at hpost
      rcases (PayDb.exec_insertHistoryRow P fate id' payment'.createdAt f.pre).2 with
        e' | ⟨-, _, e'⟩
      · rw [PayDb.historyOf_congr (hpost ▸ e'), hpre]
      · rw [PayDb.historyOf_append (hpost ▸ e'), if_neg hne, hpre]

end Events

/-- An insert that has returned an id was answered that its history row is written. -/
theorem reply_of_returned {ok : Pool paySig (PayDb π) PayRequest PayResponse →
      Act PayRequest Fate PayEnv → Prop} (h : (payContext P).Run ok (.init db) p) {i : Nat}
    {payment : NewPayment} {id : PaymentId}
    (hret : p.Returned i (.insert payment) (.inserted (.ok id))) :
    ⟨.insertHistoryRow id payment.createdAt, .ok ()⟩ ∈ pastOf i p.log := by
  obtain ⟨hd, ht, he⟩ := h.point request_trace hret
  obtain ⟨r, rfl, hr⟩ := Head.map_eq_ret he.symm
  cases hr
  generalize hpast : pastOf i p.log = past at ht
  cases ht
  simp

theorem recorded_of_reply {fate : Fate} {id : PaymentId} {createdAt : Int} {s t : PayDb π}
    (h : PayDb.exec P fate (.insertHistoryRow id createdAt) s = (.ok (), t)) : Recorded id t := by
  obtain ⟨occurredAt, ht⟩ := PayDb.insertHistoryRow_ok h
  rw [Recorded, PayDb.historyOf_append ht, if_pos rfl]
  simp

/-- A reference is attached only to a payment whose history has begun. -/
theorem recorded_of_attach (h : (payContext P).Run AttachesInserted (.init db) p) {n : Nat}
    {e : Event paySig (PayDb π)} (hn : p.log[n]? = some e) {id : PaymentId}
    {reference : ProviderReference} {d : Prog paySig PayResponse}
    (hc : p.calls[e.caller]? = some ⟨.setProviderReference id reference, d⟩) :
    Recorded id e.pre := by
  obtain ⟨q, req, d', hq, hok, hlog, hc'⟩ := h.started.2 n e hn
  obtain rfl : req = .setProviderReference id reference := by
    rw [hc] at hc'
    exact congrArg Call.req (Option.some.inj hc').symm
  obtain ⟨i, payment, hret⟩ := hok
  obtain ⟨l, hl⟩ := hlog
  have hreply : (⟨.insertHistoryRow id payment.createdAt, .ok ()⟩ : Reply paySig) ∈
      pastOf i (p.log.take n) := by
    rw [← hl, pastOf_append]
    exact List.mem_append_left _ (reply_of_returned hq hret)
  obtain ⟨m, hm, c, pre, post, hf, hx⟩ := h.reply_exec hreply
  exact (recorded_of_reply hx).trail (h.trail.between hf hn hm)

/-- **One step.** What a step of any request does to a payment. -/
theorem effect_of_event (h : (payContext P).Run AttachesInserted (.init db) p)
    (h₀ : db.history = []) {n : Nat} {e : Event paySig (PayDb π)} (hn : p.log[n]? = some e)
    (hst : StagedTo p n) (id : PaymentId) : Effect id e.pre e.post := by
  obtain ⟨fate, hpost⟩ := post_eq h hn
  have hnow := hst n (Nat.le_refl n) e hn
  cases does_of_event h hn with
  | quiet hq =>
      obtain ⟨hp, hh⟩ := PayDb.exec_payments P fate hq e.pre
      rw [← hpost] at hp hh
      exact .same (by rw [hp]) (PayDb.historyOf_congr hh id)
  | insertRow payment hop =>
      rw [hop] at hpost
      obtain ⟨hh, hp⟩ := PayDb.exec_insertPaymentRow P fate payment e.pre id
      rw [← hpost] at hh hp
      rcases hp with hp | ⟨hnone, row, hrow, hs, hr⟩
      · exact .same hp (PayDb.historyOf_congr hh id)
      · exact .inserted row hnone hrow hs hr (PayDb.historyOf_congr hh id)
  | insertHistory payment id' hop hp' =>
      rw [hop] at hpost
      obtain ⟨hp, hh⟩ := PayDb.exec_insertHistoryRow P fate id' payment.createdAt e.pre
      rw [← hpost] at hp hh
      rcases hh with hh | ⟨⟨row, hrow⟩, occurredAt, hh⟩
      · exact .same (by rw [hp]) (PayDb.historyOf_congr hh id)
      · by_cases hid : id' = id
        · subst hid
          have hempty := historyOf_of_pending h h₀ hn hst hp'
          refine .born row ⟨id', none, .created, none, occurredAt⟩ hrow hempty (by rw [hp]) ?_ rfl
          rw [PayDb.historyOf_append hh, if_pos rfl, hempty, List.nil_append]
        · refine .same (by rw [hp]) ?_
          rw [PayDb.historyOf_append hh, if_neg hid]
  | attach id' reference d hop hc =>
      rw [hop] at hpost
      obtain ⟨hh, hp⟩ := PayDb.exec_setProviderReference P fate id' reference e.pre id
      rw [← hpost] at hh hp
      rcases hp with hp | ⟨rfl, hs⟩
      · exact .same hp (PayDb.historyOf_congr hh id)
      · exact .attached (recorded_of_attach h hn hc) hs (PayDb.historyOf_congr hh id')
  | move id' current next reason now hop hl hs =>
      rw [hop] at hpost
      rcases PayDb.exec_transition P fate id' current next reason now e.pre with
        e' | ⟨hcur, updatedAt, e'⟩
      · rw [← hpost] at e'
        exact .same (by rw [e']) (by rw [e'])
      · rw [← hpost] at e'
        by_cases hid : id' = id
        · subst hid
          refine .moved ⟨id', some current, next, reason, updatedAt⟩ current next
            (recorded_of_seen h hn hst hs) hcur hl ?_ ?_ rfl
          · rw [e', PayDb.statusOf_write, if_pos rfl, hcur]
            rfl
          · rw [e', PayDb.historyOf_append rfl, if_pos rfl]
        · refine .same ?_ ?_
          · rw [e', PayDb.write, PaymentTable.find_setStatus, if_neg hid]
          · rw [e', PayDb.historyOf_append rfl, if_neg hid]

/-! ### Every run -/

/-- Before and after every step, every payment is at a stage. -/
theorem staged (h : (payContext P).Run AttachesInserted (.init db) p)
    (hp : db.payments = .empty) (h₀ : db.history = []) : ∀ n, StagedTo p n := by
  intro n
  induction n using Nat.strong_induction_on with
  | _ n ih =>
      intro m hmn f hf id
      rcases Nat.lt_or_eq_of_le hmn with hlt | rfl
      · exact ih m hlt m (Nat.le_refl m) f hf id
      have hinit : Stage id db := by
        refine .absent (by rw [hp]; rfl) ?_
        rw [PayDb.historyOf, h₀, List.filter_nil]
      refine (h.trail.before hf).inv (I := Stage id) (fun a s hs => ?_) hinit
        fun g hg hpre => ?_
      · exact hs.act a
      · obtain ⟨l, hl⟩ := List.mem_iff_getElem?.mp hg
        have hlm : l < m := Nat.lt_of_lt_of_le (List.getElem?_eq_some_iff.mp hl).1
          (List.length_take_le m p.log)
        rw [List.getElem?_take_of_lt hlm] at hl
        exact (effect_of_event h h₀ hl (ih l hlm) id).stage hpre

theorem staged_store (h : (payContext P).Run AttachesInserted (.init db) p)
    (hp : db.payments = .empty) (h₀ : db.history = []) (id : PaymentId) : Stage id p.store := by
  have hinit : Stage id db := by
    refine .absent (by rw [hp]; rfl) ?_
    rw [PayDb.historyOf, h₀, List.filter_nil]
  refine h.trail.inv (I := Stage id) (fun a s hs => hs.act a) hinit fun e he hpre => ?_
  obtain ⟨n, hn⟩ := List.mem_iff_getElem?.mp he
  exact (effect_of_event h h₀ hn (staged h hp h₀ n) id).stage hpre

/-- An insert that has returned an id has written its history row. -/
theorem recorded_of_returned (h : (payContext P).Run AttachesInserted (.init db) p) {i : Nat}
    {payment : NewPayment} {id : PaymentId}
    (hret : p.Returned i (.insert payment) (.inserted (.ok id))) : Recorded id p.store := by
  have hreply := reply_of_returned h hret
  rw [← List.take_length (l := p.log)] at hreply
  obtain ⟨m, _, c, pre, post, hf, hx⟩ := h.reply_exec hreply
  exact (recorded_of_reply hx).trail (h.trail.after hf)

/-- Along a run, a terminal payment keeps its status and its history. -/
theorem terminal_stays {q : Pool paySig (PayDb π) PayRequest PayResponse}
    (h : (payContext P).Run AttachesInserted (.init db) p) (hp : db.payments = .empty)
    (h₀ : db.history = []) (hpq : (payContext P).Run AttachesInserted p q) {id : PaymentId}
    {status : PaymentStatus} (hs : p.store.statusOf id = some status) (ht : status.Terminal)
    (hb : Recorded id p.store) :
    q.store.statusOf id = some status ∧ q.store.historyOf id = p.store.historyOf id := by
  obtain ⟨l, hl, htrail⟩ := hpq.suffix
  have hrun := h.trans hpq
  refine htrail.inv
    (I := fun s => s.statusOf id = some status ∧ s.historyOf id = p.store.historyOf id)
    (fun a s hs => ?_) ⟨hs, rfl⟩ fun e he hpre => ?_
  · cases a <;> exact hs
  · obtain ⟨n, hn⟩ := List.mem_iff_getElem?.mp (hl ▸ List.mem_append_right p.log he)
    have heff := effect_of_event hrun h₀ hn (staged hrun hp h₀ n) id
    have hrec : Recorded id e.pre := by rw [Recorded, hpre.2]; exact hb
    obtain ⟨hst, hh⟩ := heff.of_terminal hpre.1 ht hrec
    exact ⟨hst, hh.trans hpre.2⟩

/-- **History.** In every pool the payments context reaches from empty tables, a payment whose
insert has returned has a history that follows the state machine and ends at its status; and once
that status is terminal, neither ever changes again. -/
theorem history_faithful (h : (payContext P).Run AttachesInserted (.init db) p)
    (hp : db.payments = .empty) (h₀ : db.history = []) {i : Nat} {payment : NewPayment}
    {id : PaymentId} (hret : p.Returned i (.insert payment) (.inserted (.ok id))) :
    ∃ row, p.store.payments.find id = some row ∧
      Faithful (p.store.historyOf id) row.status ∧
      (row.status.Terminal → ∀ q, (payContext P).Run AttachesInserted p q →
        q.store.statusOf id = some row.status ∧
          q.store.historyOf id = p.store.historyOf id) := by
  have hb := recorded_of_returned h hret
  obtain ⟨row, w, hrow, hw, hl⟩ := (staged_store h hp h₀ id).walk hb
  refine ⟨row, hrow, .of_walk hw hl, fun ht q hq => ?_⟩
  exact terminal_stays h hp h₀ hq (by rw [PayDb.statusOf, hrow]; rfl) ht hb

end Steps

/-! ### A payment on its way -/

/-- 25.00 EUR, at the epoch. -/
def sampleNew : NewPayment := ⟨(samplePayment .created).amount, 0⟩

def emptyDb : PayDb FakePaymentProvider := ⟨.empty, [], .empty, .new, ⟨"pay_1"⟩, 0⟩

/-- The payment is inserted. -/
def insertsPayment : List (Act PayRequest Fate PayEnv) :=
  [.start (.insert sampleNew), .step 0 .served, .step 0 .served]

def insertedPool : Pool paySig (PayDb FakePaymentProvider) PayRequest PayResponse :=
  ((payContext FakePaymentProvider.port).acts insertsPayment (.init emptyDb)).get rfl

/-- It is known to the provider as `pi_1`, and its authorization is delivered. -/
def authorizes : List (Act PayRequest Fate PayEnv) :=
  [.step 1 .served,
    .start (.deliver (.only [123, 125] "t=1,v1=ab" ⟨"evt_1", some ⟨"pi_1"⟩, some .authorized⟩)
      [123, 125] (some "t=1,v1=ab")),
    .step 2 .served, .step 2 .served, .step 2 .served, .step 2 .served]

def attachingPool : Pool paySig (PayDb FakePaymentProvider) PayRequest PayResponse :=
  { insertedPool with
    calls := insertedPool.calls ++
      [⟨.setProviderReference ⟨"pay_1"⟩ ⟨"pi_1"⟩,
        (PayRequest.setProviderReference ⟨"pay_1"⟩ ⟨"pi_1"⟩).code⟩] }

def authorizedPool : Pool paySig (PayDb FakePaymentProvider) PayRequest PayResponse :=
  ((payContext FakePaymentProvider.port).acts authorizes attachingPool).get rfl

theorem authorizedPool_run :
    (payContext FakePaymentProvider.port).Run AttachesInserted (.init emptyDb) authorizedPool := by
  have hinsert : (payContext FakePaymentProvider.port).Run AttachesInserted (.init emptyDb)
      insertedPool := by
    refine .of_acts .refl (fun a ha q => ?_) (Option.some_get rfl).symm
    fin_cases ha <;> trivial
  have hok : AttachesInserted insertedPool
      (.start (.setProviderReference ⟨"pay_1"⟩ ⟨"pi_1"⟩)) := ⟨0, sampleNew, rfl⟩
  have hattach : (payContext FakePaymentProvider.port).Run AttachesInserted (.init emptyDb)
      attachingPool := hinsert.snoc hok (.start _ _)
  refine hattach.of_acts (fun a ha q => ?_) (Option.some_get rfl).symm
  fin_cases ha <;> trivial

theorem history_faithful_authorized :
    authorizedPool.store.statusOf ⟨"pay_1"⟩ = some .authorized ∧
      ∃ row, authorizedPool.store.payments.find ⟨"pay_1"⟩ = some row ∧
        Faithful (authorizedPool.store.historyOf ⟨"pay_1"⟩) row.status ∧
        (row.status.Terminal → ∀ q,
          (payContext FakePaymentProvider.port).Run AttachesInserted authorizedPool q →
            q.store.statusOf ⟨"pay_1"⟩ = some row.status ∧
              q.store.historyOf ⟨"pay_1"⟩ = authorizedPool.store.historyOf ⟨"pay_1"⟩) :=
  ⟨by decide, history_faithful (i := 0) authorizedPool_run rfl rfl rfl⟩

end AuthApp.Payments
