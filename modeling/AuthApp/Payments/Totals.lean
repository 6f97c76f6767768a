import AuthApp.Payments.Exclusive
import AuthApp.Payments.Views

/-!
# Payments — the total of a page

`PaymentsService::list` counts the payments that match, and then reads the page.  A payment that is
inserted in between makes the total too small; a transition that takes a payment out of the status
filter makes it too large.

* `count_exec`: what one call does to the number of payments that match.
* `leaves_status`: only a transition takes a payment out of a filter, and only out of its status.
* `neverTooLarge_iff`: no total of a run is too large exactly when, between the two reads of each
  list, no more payments leave its filter than enter it.
* `total_iff`: both, and what follows for lists without a status.
* `refunded_meanwhile`: a total that is too large.
-/

namespace AuthApp.Payments
open Interleave Pool

variable {π ι α : Type}

/-! ### Into the filter, and out of it -/

/-- The payment is there, and matches. -/
def PayDb.shows (db : PayDb π) (query : PaymentQuery) (id : PaymentId) : Bool :=
  (db.payments.find id).any query.selects

/-- The step writes to a payment that matches afterwards, and did not before. -/
def Enters (query : PaymentQuery) (e : Event paySig (PayDb π)) : Bool :=
  (PayOp.subject e.pre e.op).any fun id => !e.pre.shows query id && e.post.shows query id

/-- The step writes to a payment that matched before, and does not afterwards. -/
def Leaves (query : PaymentQuery) (e : Event paySig (PayDb π)) : Bool :=
  (PayOp.subject e.pre e.op).any fun id => e.pre.shows query id && !e.post.shows query id

/-- The steps strictly between two steps of the log. -/
def between (log : List (Event paySig (PayDb π))) (n m : Nat) : List (Event paySig (PayDb π)) :=
  (log.take m).drop (n + 1)

/-- The total that a list answers is at most the number of payments that match when its page is
read. -/
def NeverTooLarge (p : ViewPool π ι α) : Prop :=
  ∀ i query page, p.Returned i (.list query) (.page (.ok page)) →
    ∀ (m : Nat) (f : Event paySig (PayDb π)), p.log[m]? = some f → f.caller = i →
      f.op = .list query → page.total ≤ f.pre.count query

/-- Between the two reads of a list that answers, no more payments leave its filter than enter
it. -/
def Balanced (p : ViewPool π ι α) : Prop :=
  ∀ i query page, p.Returned i (.list query) (.page (.ok page)) →
    ∀ n m e f, TwoSteps p.log i n m e f →
      (between p.log n m).countP (Leaves query) ≤ (between p.log n m).countP (Enters query)

/-! ### One call -/

theorem count_eq_countP (db : PayDb π) (query : PaymentQuery) :
    db.count query = db.payments.table.rows.countP query.selects :=
  List.countP_eq_length_filter.symm

/-- What becomes of the number of payments that match is what becomes of the one payment. -/
def AccountsFor (query : PaymentQuery) (id : PaymentId) (db db' : PayDb π) : Prop :=
  db'.count query + (if db.shows query id then 1 else 0) =
    db.count query + if db'.shows query id then 1 else 0

section Exec
variable {P : PaymentProvider π} {fate : Fate} {query : PaymentQuery} {db : PayDb π}

theorem AccountsFor.of_payments {id : PaymentId} {db db' : PayDb π}
    (h : db'.payments = db.payments) : AccountsFor query id db db' := by
  rw [AccountsFor, PayDb.count, PayDb.count, PayDb.shows, PayDb.shows, h]

theorem AccountsFor.of_modify {id : PaymentId} {db db' : PayDb π} (f : PaymentRow → PaymentRow)
    (hf : ∀ r, (f r).id = r.id) (h : db'.payments.table = db.payments.table.modify id f hf) :
    AccountsFor query id db db' := by
  have hfind : db'.payments.find id = (db.payments.find id).map f := by
    rw [PaymentTable.find, h]
    exact Table.find?_modify_self _ _ _ _
  rw [AccountsFor, count_eq_countP, count_eq_countP, PayDb.shows, PayDb.shows, hfind,
    Option.any_map, h]
  exact Table.countP_modify db.payments.table id f hf query.selects

theorem accounts_insertPaymentRow (payment : NewPayment) :
    AccountsFor query db.randomUuid db (db.insertPaymentRow payment).2 := by
  rw [PayDb.insertPaymentRow]
  split
  · exact .of_payments rfl
  · split
    · exact .of_payments rfl
    · next t ht =>
        obtain ⟨hfree, hfind⟩ := PaymentTable.find_of_insert ht
        rw [AccountsFor, count_eq_countP, count_eq_countP, PayDb.shows, PayDb.shows, hfree]
        dsimp only
        rw [hfind, if_pos rfl, PaymentTable.rows_of_insert ht, List.countP_append,
          List.countP_singleton]
        simp

theorem accounts_setProviderReference (id : PaymentId) (reference : ProviderReference) :
    AccountsFor query id db (db.setProviderReference id reference).2 := by
  rw [PayDb.setProviderReference]
  split
  · exact .of_payments rfl
  · next t ht =>
      rw [PaymentTable.setProviderReference] at ht
      split at ht
      · cases ht
      · cases ht
        exact .of_modify (fun r => { r with providerReference := some reference })
          (fun _ => rfl) rfl

/-- One call accounts for the payment that it may write to. -/
theorem accounts_exec {op : PayOp} {id : PaymentId} (hid : op.subject db = some id) :
    AccountsFor query id db (PayDb.exec P fate op db).2 := by
  rcases PayDb.exec_state P fate op db with e | e
  · rw [e]
    exact .of_payments rfl
  rw [e]
  cases op with
  | insertPaymentRow payment =>
      cases hid
      exact accounts_insertPaymentRow payment
  | setProviderReference id' reference =>
      cases hid
      exact accounts_setProviderReference id reference
  | transition id' expectedCurrent next reason occurredAt =>
      cases hid
      rcases db.transition_cases id expectedCurrent next reason occurredAt with
        ⟨_, h⟩ | ⟨-, updatedAt, h⟩
      · rw [PayDb.serve, h]
        exact .of_payments rfl
      · rw [PayDb.serve, h]
        exact .of_modify (fun r => { r with status := next, updatedAt }) (fun _ => rfl) rfl
  | _ => cases hid

/-- A call that writes to no payment leaves the payments as they were. -/
theorem payments_exec {op : PayOp} (hid : op.subject db = none) :
    (PayDb.exec P fate op db).2.payments = db.payments := by
  cases op with
  | insertPaymentRow payment => cases hid
  | setProviderReference id reference => cases hid
  | transition id expectedCurrent next reason occurredAt => cases hid
  | insertHistoryRow id createdAt => exact (PayDb.exec_insertHistoryRow P fate id createdAt db).1
  | _ => exact (PayDb.exec_payments P fate rfl db).1

/-- **One step.** The number of payments that match moves with the payment that enters or leaves. -/
theorem count_exec {e : Event paySig (PayDb π)}
    (hx : PayDb.exec P fate e.op e.pre = (e.ans, e.post)) :
    e.post.count query + (if Leaves query e then 1 else 0) =
      e.pre.count query + if Enters query e then 1 else 0 := by
  rw [Leaves, Enters]
  cases hid : PayOp.subject e.pre e.op with
  | none =>
      have hsame : e.post.payments = e.pre.payments :=
        (congrArg (fun r => r.2.payments) hx).symm.trans (payments_exec hid)
      rw [PayDb.count, PayDb.count, hsame]
      rfl
  | some id =>
      have hone : AccountsFor query id e.pre e.post := by
        have h : AccountsFor query id e.pre (PayDb.exec P fate e.op e.pre).2 := accounts_exec hid
        rw [hx] at h
        exact h
      rw [AccountsFor] at hone
      simp only [Option.any_some]
      by_cases hpre : e.pre.shows query id = true <;>
        by_cases hpost : e.post.shows query id = true <;> simp [hpre, hpost] at hone ⊢ <;> omega

theorem shows_iff {db : PayDb π} {id : PaymentId} : db.shows query id = true ↔
    ∃ row, db.payments.find id = some row ∧ query.selects row = true :=
  Option.any_eq_true _ _

/-- A payment that keeps its status, or is not filtered by it, stays. -/
theorem shows_of_keeps {db db' : PayDb π} {id : PaymentId} (hkeeps : db.Keeps db')
    (hstatus : query.status = none ∨ db'.statusOf id = db.statusOf id)
    (h : db.shows query id = true) : db'.shows query id = true := by
  obtain ⟨row, hrow, hselects⟩ := shows_iff.mp h
  obtain ⟨row', hrow', -, hcreated⟩ := hkeeps id row hrow
  refine shows_iff.mpr ⟨row', hrow', ?_⟩
  rw [PaymentQuery.selects, Bool.and_assoc, Bool.and_eq_true] at hselects ⊢
  rw [hcreated]
  refine ⟨?_, hselects.2⟩
  rcases hstatus with hnone | hsame
  · rw [hnone]
    rfl
  · rw [PayDb.statusOf, PayDb.statusOf, hrow, hrow'] at hsame
    rw [Option.some.inj hsame]
    exact hselects.1

/-- Only a transition takes a payment out of a filter, and only out of its status. -/
theorem leaves_status {e : Event paySig (PayDb π)}
    (hx : PayDb.exec P fate e.op e.pre = (e.ans, e.post)) (h : Leaves query e = true) :
    ∃ id current next reason now, e.op = .transition id current next reason now ∧
      query.status = some current ∧ next ≠ current := by
  obtain ⟨i, op, ans, pre, post⟩ := e
  dsimp only at hx
  have hkeeps : pre.Keeps post := by
    have h := PayDb.keeps_exec P fate op pre
    rw [hx] at h
    exact h
  rw [Leaves] at h
  obtain ⟨id, hid, hmoved⟩ := (Option.any_eq_true _ _).mp h
  rw [Bool.and_eq_true, Bool.not_eq_true'] at hmoved
  obtain ⟨hpre, hpost⟩ := hmoved
  obtain ⟨row, hrow, hselects⟩ := shows_iff.mp hpre
  have hthere : pre.statusOf id = some row.status := congrArg (Option.map PaymentRow.status) hrow
  -- what keeps the payment in is refused
  have hstays : ¬ (query.status = none ∨ post.statusOf id = pre.statusOf id) := fun hstatus => by
    have hin := shows_of_keeps hkeeps hstatus hpre
    rw [hpost] at hin
    cases hin
  obtain ⟨hfilter, hother⟩ := not_or.mp hstays
  have hpost_eq : post = (PayDb.exec P fate op pre).2 := (congrArg Prod.snd hx).symm
  cases op with
  | transition id' current next reason now =>
      cases hid
      refine ⟨id, current, next, reason, now, rfl, ?_⟩
      rcases PayDb.exec_transition P fate id current next reason now pre with
        hsame | ⟨hcurrent, updatedAt, hwrite⟩
      · exact absurd (by rw [hpost_eq, hsame]) hother
      · rw [← hpost_eq] at hwrite
        obtain ⟨status, hstatus⟩ := Option.ne_none_iff_exists'.mp hfilter
        have hrowstatus : row.status = status := by
          rw [PaymentQuery.selects, Bool.and_assoc, Bool.and_eq_true, hstatus] at hselects
          exact beq_iff_eq.mp hselects.1
        have hcur : status = current := by
          rw [hthere] at hcurrent
          exact hrowstatus.symm.trans (Option.some.inj hcurrent)
        subst hcur
        refine ⟨hstatus, fun hnext => hother ?_⟩
        rw [hwrite, PayDb.statusOf_write, if_pos rfl, hcurrent, hnext]
        rfl
  | _ =>
      refine absurd (hpost_eq ▸ ?_) hother
      exact (PayDb.statusOf_exec P fate hthere fun _ _ _ _ _ h => by cases h).trans hthere.symm

end Exec

/-! ### Every run -/

section Runs
variable {P : PaymentProvider π} {code : ι → Prog paySig α} {db : PayDb π} {p : ViewPool π ι α}

/-- The number of payments that match when the page is read, and when they were counted. -/
theorem count_between (h : (viewSystem P code).Run (fun _ _ => True) (.init db) p)
    (query : PaymentQuery) {n m i : Nat} {e f : Event paySig (PayDb π)}
    (hsteps : TwoSteps p.log i n m e f) :
    f.pre.count query + (between p.log n m).countP (Leaves query) =
      e.post.count query + (between p.log n m).countP (Enters query) := by
  refine (h.trail.between hsteps.first hsteps.second hsteps.lt).balance
    (f := fun s : PayDb π => s.count query) (fun a s => ?_) fun g hg => ?_
  · cases a <;> rfl
  · obtain ⟨fate, hx⟩ :=
      h.event_exec g (List.mem_of_mem_take (List.mem_of_mem_drop hg))
    exact count_exec hx

/-- The total is what was counted. -/
theorem total_eq {fate : Fate} {query : PaymentQuery} {total : Nat} {s t : PayDb π}
    (h : PayDb.exec P fate (.count query) s = (.ok total, t)) : total = t.count query := by
  cases fate with
  | served => cases h; rfl
  | refused msg => cases h
  | unacknowledged msg => cases h

/-- The two steps of a list that answers: the first counted, and the second read the page. -/
theorem list_steps (h : (viewSystem P code).Run (fun _ _ => True) (.init db) p) {i : Nat}
    {query : PaymentQuery} {page : PaymentPage}
    (hret : p.Returned i (.list query) (.page (.ok page))) :
    ∃ n m e f, TwoSteps p.log i n m e f ∧ page.total = e.post.count query ∧
      ∀ (k : Nat) (g : Event paySig (PayDb π)), p.log[k]? = some g → g.caller = i →
        g.op = .list query → k = m := by
  obtain ⟨n, m, e, f, hsteps, he, hf⟩ := list_reads h hret
  obtain ⟨fate, hx⟩ := h.event_exec e (List.mem_of_getElem? hsteps.first)
  refine ⟨n, m, e, f, hsteps, total_eq (exec_of_reply he hx), fun k g hk hcaller hop => ?_⟩
  rcases hsteps.only k g hk hcaller with rfl | rfl
  · obtain rfl := Option.some.inj (hk.symm.trans hsteps.first)
    have hcount := hop.symm.trans (congrArg Reply.op he)
    cases hcount
  · rfl

/-- A page without a status filter never has too large a total. -/
theorem unfiltered_total (h : (viewSystem P code).Run (fun _ _ => True) (.init db) p) {i m : Nat}
    {query : PaymentQuery} (hquery : query.status = none) {page : PaymentPage}
    (hret : p.Returned i (.list query) (.page (.ok page))) {f : Event paySig (PayDb π)}
    (hm : p.log[m]? = some f) (hcaller : f.caller = i) (hop : f.op = .list query) :
    page.total ≤ f.pre.count query := by
  obtain ⟨n, m', e, f', hsteps, hcounted, honly⟩ := list_steps h hret
  obtain rfl := honly m f hm hcaller hop
  obtain rfl := Option.some.inj (hm.symm.trans hsteps.second)
  have hnone : (between p.log n m).countP (Leaves query) = 0 := by
    refine List.countP_eq_zero.mpr fun g hg hleaves => ?_
    obtain ⟨fate, hx⟩ := h.event_exec g (List.mem_of_mem_take (List.mem_of_mem_drop hg))
    obtain ⟨id, current, next, reason, now, -, hstatus, -⟩ := leaves_status hx hleaves
    rw [hquery] at hstatus
    cases hstatus
  have hbetween := count_between h query hsteps
  omega

/-- No total is too large exactly when what leaves a filter between the reads of a list is made up
for by what enters it. -/
theorem neverTooLarge_iff (h : (viewSystem P code).Run (fun _ _ => True) (.init db) p) :
    NeverTooLarge p ↔ Balanced p := by
  constructor
  · intro htotal i query page hret n m e f hsteps
    obtain ⟨n', m', e', f', hsteps', hcounted, -⟩ := list_steps h hret
    obtain ⟨rfl, rfl⟩ := hsteps.unique hsteps'
    obtain rfl := Option.some.inj (hsteps.first.symm.trans hsteps'.first)
    have hop : f.op = .list query := by
      obtain ⟨k, l, c, d, hreads, -, hd⟩ := list_reads h hret
      obtain ⟨rfl, rfl⟩ := hsteps.unique hreads
      obtain rfl := Option.some.inj (hsteps.second.symm.trans hreads.second)
      exact congrArg Reply.op hd
    have hle := htotal i query page hret m f hsteps.second hsteps.caller' hop
    have hbetween := count_between h query hsteps
    omega
  · intro hbalanced i query page hret k g hk hcaller hop
    obtain ⟨n, m, e, f, hsteps, hcounted, honly⟩ := list_steps h hret
    obtain rfl := honly k g hk hcaller hop
    obtain rfl := Option.some.inj (hk.symm.trans hsteps.second)
    have hle := hbalanced i query page hret n k e g hsteps
    have hbetween := count_between h query hsteps
    omega

/-- **Totals.** In every run, whatever is in flight, no total is too large exactly when, between
the two reads of each list, no more payments leave its filter than enter it.  A payment leaves a
filter only by a transition out of the status that it asks for, so that without one no total is too
large. -/
theorem total_iff (P : PaymentProvider π) (code : ι → Prog paySig α) (db : PayDb π)
    (p : ViewPool π ι α) (h : (viewSystem P code).Run (fun _ _ => True) (.init db) p) :
    (NeverTooLarge p ↔ Balanced p) ∧
      (∀ e ∈ p.log, ∀ query, Leaves query e = true → ∃ id current next reason now,
        e.op = .transition id current next reason now ∧ query.status = some current ∧
          next ≠ current) ∧
      ∀ i query page, query.status = none → p.Returned i (.list query) (.page (.ok page)) →
        ∀ (m : Nat) (f : Event paySig (PayDb π)), p.log[m]? = some f → f.caller = i →
          f.op = .list query → page.total ≤ f.pre.count query := by
  refine ⟨neverTooLarge_iff h, fun e he query hleaves => ?_, fun i query page hquery hret m f hm
    hcaller hop => unfiltered_total h hquery hret hm hcaller hop⟩
  obtain ⟨fate, hx⟩ := h.event_exec e he
  exact leaves_status hx hleaves

end Runs

/-! ### A refund between the two reads -/

/-- The captured payments. -/
def capturedQuery : PaymentQuery := ⟨some .captured, none, none, 50, 0⟩

/-- One payment of 25.00 EUR, captured here and at the provider. -/
def capturedOnce : PayDb FakePaymentProvider :=
  .single (samplePayment .captured) [] (fakeWith (.euros 2500)) 0

/-- The payment is refunded after it has been counted, and before the page is read. -/
def refundedMeanwhile : ViewPool FakePaymentProvider PayRequest PayResponse :=
  ((viewSystem FakePaymentProvider.port PayRequest.code).acts
    [.start (.list capturedQuery), .start (.other (.refund ⟨"pay_1"⟩)), .step 0 .served,
      .step 1 .served, .step 1 .served, .step 1 .served, .step 1 .served, .step 0 .served]
    (.init capturedOnce)).get rfl

theorem refundedMeanwhile_run : (viewSystem FakePaymentProvider.port PayRequest.code).Run
    (fun _ _ => True) (.init capturedOnce) refundedMeanwhile :=
  .of_acts .refl (fun _ _ _ => trivial) (Option.some_get rfl).symm

theorem refundedMeanwhile_items : refundedMeanwhile.store.list capturedQuery = [] := by
  have hnone : refundedMeanwhile.store.payments.table.rows.filter capturedQuery.selects = [] := rfl
  rw [PayDb.list, hnone, List.mergeSort_nil]
  rfl

theorem refundedMeanwhile_returned :
    refundedMeanwhile.Returned 0 (.list capturedQuery) (.page (.ok ⟨[], 1⟩)) := by
  rw [← refundedMeanwhile_items]
  rfl

/-- The answer is an empty page of one payment. -/
theorem refunded_meanwhile :
    (viewSystem FakePaymentProvider.port PayRequest.code).Run (fun _ _ => True)
        (.init capturedOnce) refundedMeanwhile ∧
      refundedMeanwhile.Returned 0 (.list capturedQuery) (.page (.ok ⟨[], 1⟩)) ∧
      ¬ NeverTooLarge refundedMeanwhile := by
  refine ⟨refundedMeanwhile_run, refundedMeanwhile_returned, fun h => ?_⟩
  have hle := h 0 capturedQuery ⟨[], 1⟩ refundedMeanwhile_returned 5
    (refundedMeanwhile.log.get ⟨5, by decide⟩) rfl rfl rfl
  exact absurd hle (by decide)

/-- One payment left the filter meanwhile, and none entered it. -/
theorem total_iff_refunded :
    (between refundedMeanwhile.log 0 5).countP (Leaves capturedQuery) = 1 ∧
      (between refundedMeanwhile.log 0 5).countP (Enters capturedQuery) = 0 ∧
      (NeverTooLarge refundedMeanwhile ↔ Balanced refundedMeanwhile) :=
  ⟨by decide, by decide, (total_iff _ _ _ _ refundedMeanwhile_run).1⟩

end AuthApp.Payments
