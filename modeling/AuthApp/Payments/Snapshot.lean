import AuthApp.Payments.Exclusive
import AuthApp.Payments.Views

/-!
# Payments — the history of a detail

`PaymentsService::get` finds a payment, and then reads its history.  A transition in between shows
in the history and not in the payment.

* `moved_exec`: what one call does to the status and the history of a payment.
* `consistent_of_event`: a history that ends at the status of its payment keeps doing so.
* `snapshot_iff`: every detail of a run is a snapshot exactly when the last transition between the
  two reads of each, if there is one, leads to the status that was found.
* `refunded_between`: a detail that is not.
-/

namespace AuthApp.Payments
open Interleave Pool

variable {π : Type}

/-! ### Requests that write -/

/-- A transition by itself, or a request of the payments context. -/
inductive WriteRequest where
  | transition (id : PaymentId) (expectedCurrent next : PaymentStatus) (reason : Option String)
      (occurredAt : Int)
  | request (req : PayRequest)

inductive WriteResponse where
  | transitioned (r : Except PaymentRepositoryError Unit)
  | response (response : PayResponse)

def WriteRequest.code : WriteRequest → Prog paySig WriteResponse
  | .transition id expectedCurrent next reason occurredAt =>
      (PaymentRepository.transition id expectedCurrent next reason occurredAt).map .transitioned
  | .request req => req.code.map .response

/-- Views among transitions and all other requests. -/
abbrev detailSystem (P : PaymentProvider π) :
    System paySig (PayDb π) (ViewRequest WriteRequest) (ViewResponse WriteResponse) Fate PayEnv :=
  viewSystem P WriteRequest.code

abbrev DetailPool (π : Type) := ViewPool π WriteRequest WriteResponse

/-! ### Snapshots -/

/-- The history of the payment ends at its status. -/
def Consistent (id : PaymentId) (db : PayDb π) : Prop :=
  ∃ row, db.payments.find id = some row ∧
    (db.historyOf id).getLast?.map HistoryRow.toStatus = some row.status

/-- The history of a detail ends at the status of its payment. -/
def PaymentWithHistory.IsSnapshot (detail : PaymentWithHistory) : Prop :=
  detail.history.getLast?.map PaymentStatusChange.toStatus = some detail.payment.status

/-- The status that a step moves the payment to: its transition has written a row. -/
def moveOf (id : PaymentId) (e : Event paySig (PayDb π)) : Option PaymentStatus :=
  match e.op with
  | .transition id' _ next _ _ =>
      if id' = id ∧ e.pre.history.length < e.post.history.length then some next else none
  | _ => none

/-- The transitions of the payment strictly between two steps of the log. -/
def movesBetween (id : PaymentId) (log : List (Event paySig (PayDb π))) (n m : Nat) :
    List PaymentStatus :=
  ((log.take m).drop (n + 1)).filterMap (moveOf id)

/-- Every detail of the payment is a snapshot. -/
def Snapshots (id : PaymentId) (p : DetailPool π) : Prop :=
  ∀ i detail, p.Returned i (.get id) (.detail (.ok (some detail))) → detail.IsSnapshot

/-- The last transition of the payment between the two reads of a detail, if there is one, leads
to the status that the payment had at the first. -/
def ReturnsTo (id : PaymentId) (p : DetailPool π) : Prop :=
  ∀ i detail, p.Returned i (.get id) (.detail (.ok (some detail))) →
    ∀ n m e f, TwoSteps p.log i n m e f → ∀ last ∈ (movesBetween id p.log n m).getLast?,
      e.pre.statusOf id = some last

/-! ### One call -/

section Exec
variable {P : PaymentProvider π} {fate : Fate} {id : PaymentId}

/-- What a call does to the status and the history of a payment that is there: nothing, or it is
a transition and adds a row that ends at the new status. -/
inductive Moved (id : PaymentId) (e : Event paySig (PayDb π)) : Prop where
  | still (hm : moveOf id e = none) (hs : e.post.statusOf id = e.pre.statusOf id)
      (hh : e.post.historyOf id = e.pre.historyOf id)
  | moved (r : HistoryRow) (hm : moveOf id e = some r.toStatus)
      (hs : e.post.statusOf id = some r.toStatus)
      (hh : e.post.historyOf id = e.pre.historyOf id ++ [r])

theorem moved_exec {e : Event paySig (PayDb π)}
    (hx : PayDb.exec P fate e.op e.pre = (e.ans, e.post)) {status : PaymentStatus}
    (hthere : e.pre.statusOf id = some status)
    (hborn : ∀ createdAt, e.op ≠ .insertHistoryRow id createdAt) : Moved id e := by
  obtain ⟨i, op, ans, pre, post⟩ := e
  obtain rfl : post = (PayDb.exec P fate op pre).2 := (congrArg Prod.snd hx).symm
  dsimp only at hthere hborn
  have hkept : ∀ {op : PayOp},
      (∀ id' current next reason now, op ≠ .transition id' current next reason now) →
        (PayDb.exec P fate op pre).2.statusOf id = pre.statusOf id :=
    fun hop => (PayDb.statusOf_exec P fate hthere hop).trans hthere.symm
  cases op with
  | insertPaymentRow payment =>
      exact .still rfl (hkept fun _ _ _ _ _ h => by cases h)
        (PayDb.historyOf_congr (PayDb.exec_insertPaymentRow P fate payment pre id).1 id)
  | insertHistoryRow id' createdAt =>
      refine .still rfl (hkept fun _ _ _ _ _ h => by cases h) ?_
      rcases (PayDb.exec_insertHistoryRow P fate id' createdAt pre).2 with hh | ⟨-, occurredAt, hh⟩
      · exact PayDb.historyOf_congr hh id
      · refine (PayDb.historyOf_append hh id).trans (if_neg ?_)
        rintro rfl
        exact hborn createdAt rfl
  | setProviderReference id' reference =>
      exact .still rfl (hkept fun _ _ _ _ _ h => by cases h)
        (PayDb.historyOf_congr (PayDb.exec_setProviderReference P fate id' reference pre id).1 id)
  | transition id' current next reason now =>
      rcases PayDb.exec_transition P fate id' current next reason now pre with
        hsame | ⟨hcurrent, updatedAt, hwrite⟩
      · refine .still ?_ (congrArg (PayDb.statusOf · id) hsame)
          (congrArg (PayDb.historyOf · id) hsame)
        simp [moveOf, hsame]
      · by_cases hid : id' = id
        · subst hid
          refine .moved ⟨id', some current, next, reason, updatedAt⟩ ?_ ?_ ?_
          · simp [moveOf, hwrite, PayDb.write]
          · dsimp only
            rw [hwrite, PayDb.statusOf_write, if_pos rfl, hcurrent]
            rfl
          · dsimp only
            rw [hwrite, PayDb.historyOf_append rfl, if_pos rfl]
        · refine .still ?_ ?_ ?_
          · simp [moveOf, hid]
          · dsimp only
            rw [hwrite, PayDb.statusOf_write, if_neg hid]
          · dsimp only
            rw [hwrite, PayDb.historyOf_append rfl, if_neg hid]
  | _ =>
      exact .still rfl (hkept fun _ _ _ _ _ h => by cases h)
        (PayDb.historyOf_congr (PayDb.exec_payments P fate rfl pre).2 id)

theorem Moved.consistent {e : Event paySig (PayDb π)} (h : Moved id e)
    (hpre : Consistent id e.pre) : Consistent id e.post := by
  obtain ⟨row, hrow, hlast⟩ := hpre
  cases h with
  | still hm hs hh =>
      obtain ⟨row', hrow', hstatus⟩ :=
        Option.map_eq_some_iff.mp (hs.trans (congrArg (Option.map PaymentRow.status) hrow))
      exact ⟨row', hrow', by rw [hh, hlast, hstatus]⟩
  | moved r hm hs hh =>
      obtain ⟨row', hrow', hstatus⟩ := Option.map_eq_some_iff.mp hs
      exact ⟨row', hrow', by rw [hh, List.getLast?_concat, Option.map_some, hstatus]⟩

theorem Moved.statusOf {e : Event paySig (PayDb π)} (h : Moved id e) :
    e.post.statusOf id = ((moveOf id e).map some).getD (e.pre.statusOf id) := by
  cases h with
  | still hm hs hh => rw [hm, hs]; rfl
  | moved r hm hs hh => rw [hm, hs]; rfl

theorem exec_history_ok {db db' : PayDb π} {changes : List PaymentStatusChange}
    (h : PayDb.exec P fate (.history id) db = (.ok changes, db')) :
    changes = (db.historyOf id).map rowToChange := by
  cases fate with
  | served => cases h; rfl
  | refused msg => cases h
  | unacknowledged msg => cases h

end Exec

/-! ### Every run -/

/-- The row for creation is added by the insert of its payment. -/
def OwnHistory (past : List (Reply paySig)) (op : PayOp) : Prop :=
  ∀ id createdAt, op = .insertHistoryRow id createdAt →
    ∃ payment, (⟨.insertPaymentRow payment, .ok id⟩ : Reply paySig) ∈ past

theorem ownHistory_request (req : PayRequest) : Prog.Calls OwnHistory [] req.code := by
  refine (request_trace req).calls fun past op htrace id createdAt hop => ?_
  subst hop
  cases req with
  | insert payment =>
      obtain ⟨hd, ht, he⟩ := htrace
      obtain rfl := Head.map_eq_call he.symm
      cases ht
      exact ⟨payment, List.mem_singleton_self _⟩
  | setProviderReference id' reference =>
      obtain ⟨hd, ht, he⟩ := htrace
      obtain rfl := Head.map_eq_call he.symm
      cases ht
  | deliver verifier payload signature =>
      obtain ⟨hd, ht, he⟩ := htrace
      obtain rfl := Head.map_eq_call he.symm
      cases ht
  | refund id' =>
      obtain ⟨hd, ht, he⟩ := htrace
      obtain rfl := Head.map_eq_call he.symm
      cases ht

theorem ownHistory_view (request : ViewRequest WriteRequest) :
    Prog.Calls OwnHistory [] (request.code WriteRequest.code) := by
  refine view_calls (fun past op hquiet id createdAt hop => ?_) (fun req => ?_) request
  · subst hop
    cases hquiet
  · cases req with
    | transition id expectedCurrent next reason occurredAt =>
        exact ⟨fun id' createdAt hop => (nomatch hop), fun r => trivial⟩
    | request req => exact (ownHistory_request req).map _

section Runs
variable {P : PaymentProvider π} {db : PayDb π} {p : DetailPool π} {id : PaymentId}

/-- A payment that was there from the start has no row for creation added to its history. -/
theorem not_born (h : (detailSystem P).Run (fun _ _ => True) (.init db) p)
    (hthere : Consistent id db) {n : Nat} {e : Event paySig (PayDb π)} (hn : p.log[n]? = some e)
    (createdAt : Int) : e.op ≠ .insertHistoryRow id createdAt := by
  intro hop
  obtain ⟨req, d, -, hown⟩ := h.event_call ownHistory_view hn
  obtain ⟨payment, hmem⟩ := hown id createdAt hop
  obtain ⟨m, -, fate, pre, post, hm, hx⟩ := h.reply_exec hmem
  obtain ⟨row, hrow, -⟩ := hthere
  obtain ⟨row', hrow', -⟩ :=
    (PayDb.run_keeps h).2 _ (List.mem_of_getElem? hm) id row hrow
  have hfree := (PayDb.insertPaymentRow_ok hx).1
  rw [hrow'] at hfree
  cases hfree

/-- **One step.** -/
theorem moved_of_event (h : (detailSystem P).Run (fun _ _ => True) (.init db) p)
    (hthere : Consistent id db) {n : Nat} {e : Event paySig (PayDb π)}
    (hn : p.log[n]? = some e) : Moved id e := by
  obtain ⟨fate, hx⟩ := h.event_exec e (List.mem_of_getElem? hn)
  obtain ⟨row, hrow, hlast⟩ := hthere
  obtain ⟨row', hrow', -⟩ := (PayDb.run_keeps h).2 e (List.mem_of_getElem? hn) id row hrow
  exact moved_exec hx (congrArg (Option.map PaymentRow.status) hrow')
    (not_born h ⟨row, hrow, hlast⟩ hn)

/-- Before every step, the history of the payment ends at its status. -/
theorem consistent_of_event (h : (detailSystem P).Run (fun _ _ => True) (.init db) p)
    (hthere : Consistent id db) {n : Nat} {e : Event paySig (PayDb π)}
    (hn : p.log[n]? = some e) : Consistent id e.pre := by
  refine h.trail.inv_before (fun a s hs => ?_) hn hthere
    fun k g _ hk hpre => (moved_of_event h hthere hk).consistent hpre
  cases a <;> exact hs

/-- The status at the second read is the last that a transition led to, or the first. -/
theorem statusOf_between (h : (detailSystem P).Run (fun _ _ => True) (.init db) p)
    (hthere : Consistent id db) {i n m : Nat} {e f : Event paySig (PayDb π)}
    (hsteps : TwoSteps p.log i n m e f) :
    f.pre.statusOf id =
      ((movesBetween id p.log n m).getLast?.map some).getD (e.post.statusOf id) := by
  have hlast := (h.trail.between hsteps.first hsteps.second hsteps.lt).lastWrite
    (v := fun s => s.statusOf id) (fun a s => by cases a <;> rfl) fun g hg => by
      obtain ⟨k, hk⟩ := List.mem_iff_getElem?.mp (List.mem_of_mem_take (List.mem_of_mem_drop hg))
      exact (moved_of_event h hthere hk).statusOf
  rw [hlast, movesBetween, ← List.getLast?_map, List.map_filterMap]

/-- A detail is a snapshot exactly when its payment has the same status at both reads. -/
theorem isSnapshot_iff (h : (detailSystem P).Run (fun _ _ => True) (.init db) p)
    (hthere : Consistent id db) {i : Nat} {detail : PaymentWithHistory}
    (hret : p.Returned i (.get id) (.detail (.ok (some detail)))) {n m : Nat}
    {e f : Event paySig (PayDb π)} (hsteps : TwoSteps p.log i n m e f) :
    e.post.statusOf id = e.pre.statusOf id ∧
      (detail.IsSnapshot ↔ f.pre.statusOf id = e.pre.statusOf id) := by
  obtain ⟨n', m', e', f', hsteps', he, hf⟩ := get_reads h hret
  obtain ⟨rfl, rfl⟩ := hsteps.unique hsteps'
  obtain rfl := Option.some.inj (hsteps.first.symm.trans hsteps'.first)
  obtain rfl := Option.some.inj (hsteps.second.symm.trans hsteps'.second)
  obtain ⟨_, hx⟩ := h.event_exec e (List.mem_of_getElem? hsteps.first)
  obtain ⟨_, hy⟩ := h.event_exec f (List.mem_of_getElem? hsteps.second)
  obtain ⟨hfound, hpost⟩ := PayDb.exec_find (exec_of_reply he hx)
  obtain ⟨row, hrow, hlast⟩ := consistent_of_event h hthere hsteps.second
  have hstatus : e.pre.statusOf id = some detail.payment.status := by
    obtain ⟨row, hrow, hpayment⟩ := Option.map_eq_some_iff.mp hfound.symm
    rw [PayDb.statusOf, hrow, ← hpayment]
    rfl
  refine ⟨congrArg (PayDb.statusOf · id) hpost, ?_⟩
  rw [PaymentWithHistory.IsSnapshot, exec_history_ok (exec_of_reply hf hy), List.getLast?_map,
    Option.map_map, hstatus, PayDb.statusOf, hrow]
  exact Eq.congr_left hlast

/-- **Details.** In every run, whatever is in flight, the details of a payment whose history ends
at its status are snapshots exactly when the last transition between the two reads of each, if
there is one, leads to the status that was found. -/
theorem snapshot_iff (P : PaymentProvider π) (db : PayDb π) (id : PaymentId)
    (hthere : Consistent id db) (p : DetailPool π)
    (h : (detailSystem P).Run (fun _ _ => True) (.init db) p) :
    Snapshots id p ↔ ReturnsTo id p := by
  constructor
  · intro hsnapshots i detail hret n m e f hsteps last hlast
    obtain ⟨-, hiff⟩ := isSnapshot_iff h hthere hret hsteps
    rw [← hiff.mp (hsnapshots i detail hret), statusOf_between h hthere hsteps,
      Option.mem_def.mp hlast]
    rfl
  · intro hreturns i detail hret
    obtain ⟨n, m, e, f, hsteps, -, -⟩ := get_reads h hret
    obtain ⟨hpost, hiff⟩ := isSnapshot_iff h hthere hret hsteps
    refine hiff.mpr ?_
    rw [statusOf_between h hthere hsteps]
    cases hlast : (movesBetween id p.log n m).getLast? with
    | none => exact hpost
    | some last => exact (hreturns i detail hret n m e f hsteps last hlast).symm

end Runs

/-! ### A refund between the two reads -/

/-- A payment that was authorized and captured, and its history. -/
def capturedWithHistory : PayDb FakePaymentProvider :=
  .single (samplePayment .captured)
    [⟨⟨"pay_1"⟩, none, .created, none, 0⟩, ⟨⟨"pay_1"⟩, some .created, .authorized, none, 1⟩,
      ⟨⟨"pay_1"⟩, some .authorized, .captured, none, 2⟩]
    (fakeWith (.euros 2500)) (fromSecs 3)

theorem capturedWithHistory_consistent : Consistent ⟨"pay_1"⟩ capturedWithHistory :=
  ⟨samplePayment .captured, rfl, rfl⟩

/-- The payment is refunded after it has been found, and before its history is read. -/
def refundedBetween : DetailPool FakePaymentProvider :=
  ((detailSystem FakePaymentProvider.port).acts
    [.start (.get ⟨"pay_1"⟩), .start (.other (.request (.refund ⟨"pay_1"⟩))), .step 0 .served,
      .step 1 .served, .step 1 .served, .step 1 .served, .step 1 .served, .step 0 .served]
    (.init capturedWithHistory)).get rfl

theorem refundedBetween_run : (detailSystem FakePaymentProvider.port).Run (fun _ _ => True)
    (.init capturedWithHistory) refundedBetween :=
  .of_acts .refl (fun _ _ _ => trivial) (Option.some_get rfl).symm

/-- The answer is a captured payment, with a history that ends at its refund. -/
theorem refunded_between :
    Consistent ⟨"pay_1"⟩ capturedWithHistory ∧
      (detailSystem FakePaymentProvider.port).Run (fun _ _ => True) (.init capturedWithHistory)
        refundedBetween ∧
      (∃ detail, refundedBetween.Returned 0 (.get ⟨"pay_1"⟩) (.detail (.ok (some detail))) ∧
        detail.payment.status = .captured ∧
        detail.history.getLast?.map PaymentStatusChange.toStatus = some .refunded) ∧
      ¬ Snapshots ⟨"pay_1"⟩ refundedBetween := by
  refine ⟨capturedWithHistory_consistent, refundedBetween_run, ⟨_, rfl, rfl, rfl⟩, fun h => ?_⟩
  have hsnapshot : some PaymentStatus.refunded = some .captured := h 0 _ rfl
  cases hsnapshot

/-- Its last transition meanwhile does not lead back. -/
theorem snapshot_iff_refunded :
    movesBetween ⟨"pay_1"⟩ refundedBetween.log 0 5 = [.refunded] ∧
      (Snapshots ⟨"pay_1"⟩ refundedBetween ↔ ReturnsTo ⟨"pay_1"⟩ refundedBetween) :=
  ⟨by decide, snapshot_iff _ _ _ capturedWithHistory_consistent _ refundedBetween_run⟩

end AuthApp.Payments
