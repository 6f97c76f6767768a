import AuthApp.Payments.Fake
import AuthApp.Payments.Frames
import Mathlib.Data.List.Induction
import Mathlib.Tactic.Ring

/-!
# Payments — refunds in flight

Any number of `PaymentsService::refund` calls on one payment, interleaved.  Each sends the whole
amount to the provider on a status it read before, and records the refund after.

* `refund_event`: a refund writes only after the provider accepted it, and never to `Captured`.
* `refunded_le_iff`: the refunds the provider accepts stay within the amount exactly when each of
  them is sent while the payment is stored as `Captured` and those accepted before it have been
  recorded.
* `double_refund`: two refunds that read before either records send the amount twice.
-/

namespace AuthApp.Payments
open Interleave Pool

variable {π : Type}

/-- Any number of refunds of the payment `id`. -/
abbrev refundSystem (P : PaymentProvider π) (id : PaymentId) :
    System paySig (PayDb π) Unit (Except RefundError RefundOutcome) Fate PayEnv :=
  paySystem P fun _ => PaymentsService.refund id

/-- The provider answered a refund `Ok`. -/
def Accepts : Event paySig (PayDb π) → Prop
  | ⟨_, .refund _ _, .ok _, _, _⟩ => True
  | _ => False

instance : DecidablePred (Accepts (π := π)) := fun e => by
  unfold Accepts
  split <;> infer_instance

/-- The money one step moves back to the customer, in minor units. -/
def refundedBy : Event paySig (PayDb π) → Int
  | ⟨_, .refund _ amount, .ok _, _, _⟩ => amount.minorUnits
  | _ => 0

/-- The money the steps of `log` move back. -/
def refunded (log : List (Event paySig (PayDb π))) : Int := (log.map refundedBy).sum

/-- The step wrote a history row. -/
def Records (e : Event paySig (PayDb π)) : Prop := e.post.history ≠ e.pre.history

/-- Each accepted refund was sent while the payment was stored as `Captured`, and each refund
accepted before it had been recorded by then. -/
def Timely (id : PaymentId) (log : List (Event paySig (PayDb π))) : Prop :=
  ∀ n e, log[n]? = some e → Accepts e →
    e.pre.statusOf id = some .captured ∧
      ∀ f ∈ log.take n, Accepts f → ∃ g ∈ log.take n, g.caller = f.caller ∧ Records g

/-- What had been refunded of a payment of `amount` minor units that is stored as `status`. -/
def RefundedBefore (status : PaymentStatus) (amount already : Int) : Prop :=
  (status = .captured ∧ already = 0) ∨
    (status = .partiallyRefunded ∧ 0 < already ∧ already ≤ amount)

/-! ### What one step of a refund does -/

section Steps
variable {P : PaymentProvider π} {id : PaymentId} {db : PayDb π}
  {ok : Pool paySig (PayDb π) Unit (Except RefundError RefundOutcome) → Act Unit Fate PayEnv → Prop}
  {p : Pool paySig (PayDb π) Unit (Except RefundError RefundOutcome)}

/-- The write of a refund: from a refundable status to a legal next one. -/
structure RefundWrite (id : PaymentId) (e : Event paySig (PayDb π))
    (current next : PaymentStatus) : Prop where
  refundable : current = .captured ∨ current = .partiallyRefunded
  legal : current.canTransitionTo next
  before : e.pre.statusOf id = some current
  after : e.post.statusOf id = some next
  recorded : Records e

/-- The payment a refund has found is the one that was stored when it looked. -/
theorem found_eq (h : (refundSystem P id).Run ok (.init db) p) {i n : Nat} {found : Payment}
    (hr : ⟨.find id, .ok (some found)⟩ ∈ pastOf i (p.log.take n)) :
    found.id = id ∧ ∃ e ∈ p.log, ∃ row, e.pre.payments.find id = some row ∧
      found = rowToPayment row := by
  obtain ⟨m, _, c, pre, post, he, hx⟩ := h.reply_exec hr
  have hfound := (PayDb.exec_find hx).1
  cases hrow : pre.payments.find id with
  | none => rw [hrow] at hfound; cases hfound
  | some row =>
      rw [hrow] at hfound
      cases hfound
      exact ⟨PaymentTable.id_of_find hrow, _, List.mem_of_getElem? he, row, hrow, rfl⟩

theorem accepted_of_reply {i : Nat} {log : List (Event paySig (PayDb π))}
    {reference : ProviderReference} {amount : Money} {intent : ProviderIntent}
    (h : ⟨.refund reference amount, .ok intent⟩ ∈ pastOf i log) :
    ∃ f ∈ log, f.caller = i ∧ Accepts f := by
  obtain ⟨⟨j, op, ans, pre, post⟩, hf, rfl, hr⟩ := mem_pastOf h
  cases hr
  exact ⟨_, hf, rfl, trivial⟩

/-- A step of a refund leaves the tables alone, or it is the write of a refund the provider
accepted. -/
theorem refund_event (h : (refundSystem P id).Run ok (.init db) p) {n : Nat}
    {e : Event paySig (PayDb π)} (he : p.log[n]? = some e) :
    (e.post.payments = e.pre.payments ∧ ¬ Records e) ∨
      (∃ f ∈ p.log.take n, f.caller = e.caller ∧ Accepts f) ∧
        ∃ current next, RefundWrite id e current next := by
  obtain ⟨_, d, k, -, hk⟩ := h.event_point (fun _ => refund_trace id) he
  obtain ⟨c, hx⟩ := h.event_exec e (List.mem_of_getElem? he)
  have htables : e.op.Writes = false → e.post.payments = e.pre.payments ∧ ¬ Records e := by
    intro hw
    have ht := PayDb.exec_tables P c hw e.pre
    rw [show PayDb.exec P c e.op e.pre = (e.ans, e.post) from hx] at ht
    exact ⟨ht.1, fun hrec => hrec ht.2.1⟩
  obtain ⟨i, op, ans, pre, post⟩ := e
  simp only [Prog.head] at hk
  generalize hpast : pastOf i (p.log.take n) = past at hk
  cases hk with
  | start => exact .inl (htables rfl)
  | send found reference hs hr => exact .inl (htables rfl)
  | clock found reference intent hl => exact .inl (htables rfl)
  | write found reference intent now hs hl =>
      have hid : found.id = id := (found_eq h (by rw [hpast]; simp)).1
      have hreply : (⟨.refund reference found.amount, .ok intent⟩ : Reply paySig) ∈
          pastOf i (p.log.take n) := by rw [hpast]; simp
      rcases PayDb.exec_transition P c found.id found.status intent.status (some "admin_refund")
        now pre with e | ⟨hcur, updatedAt, e⟩
      · left
        obtain rfl : post = pre := (congrArg Prod.snd hx).symm.trans e
        exact ⟨rfl, fun hrec => hrec rfl⟩
      · right
        obtain rfl := (congrArg Prod.snd hx).symm.trans e
        refine ⟨accepted_of_reply hreply, found.status, intent.status, hs, hl, hid ▸ hcur, ?_, ?_⟩
        · rw [PayDb.statusOf_write, if_pos hid, ← hid, hcur]
          rfl
        · simp [Records, PayDb.write]

/-- An accepted refund is of the whole amount. -/
theorem refundedBy_of_accepts (h : (refundSystem P id).Run ok (.init db) p) {row : PaymentRow}
    (hrow : db.payments.find id = some row) {e : Event paySig (PayDb π)} (he : e ∈ p.log)
    (ha : Accepts e) : refundedBy e = row.amount.minorUnits := by
  obtain ⟨n, hn⟩ := List.mem_iff_getElem?.mp he
  obtain ⟨_, d, k, -, hk⟩ := h.event_point (fun _ => refund_trace id) hn
  obtain ⟨i, op, ans, pre, post⟩ := e
  simp only [Prog.head] at hk
  generalize hpast : pastOf i (p.log.take n) = past at hk
  cases hk with
  | start => exact ha.elim
  | clock => exact ha.elim
  | write => exact ha.elim
  | send found reference hs hr =>
      have hreply : (⟨.find id, .ok (some found)⟩ : Reply paySig) ∈
          pastOf i (p.log.take n) := by rw [hpast]; simp
      obtain ⟨-, f, hf, row', hrow', rfl⟩ := found_eq h hreply
      obtain ⟨row'', hrow'', hamount, -⟩ := (PayDb.run_keeps h).2 f hf id row hrow
      obtain rfl : row'' = row' := Option.some.inj (hrow''.symm.trans hrow')
      cases ans with
      | error err => exact ha.elim
      | ok intent => exact congrArg Money.minorUnits hamount

/-- A refund never writes `Captured`. -/
theorem RefundWrite.next_ne {e : Event paySig (PayDb π)} {current next : PaymentStatus}
    (h : RefundWrite id e current next) : next ≠ .captured := by
  rintro rfl
  have hl := h.legal
  rcases h.refundable with rfl | rfl <;> exact absurd hl (by decide)

/-- Along any stretch of refunds, a payment that is not `Captured` does not become it. -/
theorem not_captured (h : (refundSystem P id).Run ok (.init db) p) {s t : PayDb π}
    {log : List (Event paySig (PayDb π))} (ht : (refundSystem P id).Trail s log t)
    (hlog : ∀ e ∈ log, e ∈ p.log) (hs : s.statusOf id ≠ some .captured) :
    t.statusOf id ≠ some .captured := by
  refine ht.inv (I := fun s => s.statusOf id ≠ some .captured) (fun a s hs => ?_) hs
    fun e he hpre => ?_
  · cases a <;> exact hs
  · obtain ⟨n, hn⟩ := List.mem_iff_getElem?.mp (hlog e he)
    rcases refund_event h hn with ⟨htables, -⟩ | ⟨-, current, next, hw⟩
    · rwa [PayDb.statusOf_congr htables]
    · rw [hw.after]
      exact fun heq => hw.next_ne (Option.some.inj heq)

/-- Until a refund is accepted, the payment keeps its status. -/
theorem status_of_none_accepted (h : (refundSystem P id).Run ok (.init db) p) {n : Nat}
    {e : Event paySig (PayDb π)} (hn : p.log[n]? = some e)
    (hnone : ∀ f ∈ p.log.take n, ¬ Accepts f) : e.pre.statusOf id = db.statusOf id := by
  refine (h.trail.before hn).inv (I := fun s => s.statusOf id = db.statusOf id)
    (fun a s hs => ?_) rfl fun f hf hpre => ?_
  · cases a <;> exact hs
  · obtain ⟨m, hm⟩ := List.mem_iff_getElem?.mp hf
    have hmn : m < n := by
      have := (List.getElem?_eq_some_iff.mp hm).1
      exact Nat.lt_of_lt_of_le this (List.length_take_le n p.log)
    rw [List.getElem?_take_of_lt hmn] at hm
    rcases refund_event h hm with ⟨htables, -⟩ | ⟨⟨g, hg, -, hacc⟩, -⟩
    · rwa [PayDb.statusOf_congr htables]
    · exact absurd hacc (hnone g (List.take_subset_take_left p.log (Nat.le_of_lt hmn) hg))

end Steps

/-! ### The money -/

theorem refundedBy_of_not_accepts {e : Event paySig (PayDb π)} (h : ¬ Accepts e) :
    refundedBy e = 0 := by
  unfold Accepts at h
  unfold refundedBy
  split
  · exact absurd trivial h
  · rfl

/-- Each accepted refund counts for the amount. -/
theorem refunded_eq {log : List (Event paySig (PayDb π))} {amount : Int}
    (h : ∀ e ∈ log, Accepts e → refundedBy e = amount) :
    refunded log = log.countP (Accepts ·) * amount := by
  induction log with
  | nil => simp [refunded]
  | cons e log ih =>
      have hrest := ih fun f hf => h f (List.mem_cons_of_mem _ hf)
      rw [refunded] at hrest ⊢
      rw [List.map_cons, List.sum_cons, hrest, List.countP_cons]
      by_cases ha : Accepts e
      · rw [h e List.mem_cons_self ha]
        simp only [ha, decide_true, if_true]
        push_cast
        ring
      · rw [refundedBy_of_not_accepts ha]
        simp [ha]

/-- At most one step is accepted when no accepted step has another before it. -/
theorem countP_le_one {log : List (Event paySig (PayDb π))}
    (h : ∀ n e, log[n]? = some e → Accepts e → ∀ f ∈ log.take n, ¬ Accepts f) :
    log.countP (Accepts ·) ≤ 1 := by
  induction log using List.reverseRec with
  | nil => simp
  | append_singleton log e ih =>
      rw [List.countP_append, List.countP_singleton]
      by_cases ha : Accepts e
      · have hnone := h log.length e (List.getElem?_concat_length) ha
        rw [List.take_left] at hnone
        rw [List.countP_eq_zero.mpr fun f hf => by simpa using hnone f hf]
        simp [ha]
      · have hle := ih fun n f hn hf g hg => by
          have hlt := (List.getElem?_eq_some_iff.mp hn).1
          refine h n f ?_ hf g ?_
          · rwa [List.getElem?_append_left hlt]
          · rwa [List.take_append_of_le_length (Nat.le_of_lt hlt)]
        simpa [ha] using hle

/-- When at most one step is accepted, none before an accepted one is. -/
theorem none_before {log : List (Event paySig (PayDb π))} (h : log.countP (Accepts ·) ≤ 1)
    {n : Nat} {e : Event paySig (PayDb π)} (hn : log[n]? = some e) (ha : Accepts e) :
    ∀ f ∈ log.take n, ¬ Accepts f := by
  rw [System.Trail.cut hn, List.countP_append, List.countP_cons_of_pos (by simpa using ha)] at h
  intro f hf hacc
  have hpos : 0 < (log.take n).countP (Accepts ·) :=
    List.countP_pos_iff.mpr ⟨f, hf, by simpa using hacc⟩
  omega

section Main
variable {P : PaymentProvider π} {id : PaymentId} {db : PayDb π}
  {ok : Pool paySig (PayDb π) Unit (Except RefundError RefundOutcome) → Act Unit Fate PayEnv → Prop}
  {p : Pool paySig (PayDb π) Unit (Except RefundError RefundOutcome)}

/-- Timely refunds: none of them has another before it, and the payment started `Captured`. -/
theorem timely_alone (h : (refundSystem P id).Run ok (.init db) p) (ht : Timely id p.log)
    {n : Nat} {e : Event paySig (PayDb π)} (hn : p.log[n]? = some e) (ha : Accepts e) :
    db.statusOf id = some .captured ∧ ∀ f ∈ p.log.take n, ¬ Accepts f := by
  obtain ⟨hcap, hrec⟩ := ht n e hn ha
  constructor
  · by_contra hne
    exact not_captured h (h.trail.before hn) (fun f hf => List.mem_of_mem_take hf) hne hcap
  · intro f hf hacc
    obtain ⟨g, hg, -, hgrec⟩ := hrec f hf hacc
    obtain ⟨m, hm⟩ := List.mem_iff_getElem?.mp hg
    have hmn : m < n := Nat.lt_of_lt_of_le (List.getElem?_eq_some_iff.mp hm).1
      (List.length_take_le n p.log)
    rw [List.getElem?_take_of_lt hmn] at hm
    rcases refund_event h hm with ⟨-, hno⟩ | ⟨-, current, next, hw⟩
    · exact hno hgrec
    · refine not_captured h (h.trail.between hm hn hmn) (fun f hf => ?_) ?_ hcap
      · exact List.mem_of_mem_take (List.mem_of_mem_drop hf)
      · rw [hw.after]
        exact fun heq => hw.next_ne (Option.some.inj heq)

/-- **Refunds in flight.** What the provider pays back, with what it had paid back before, stays
within the amount exactly when the refunds are timely. -/
theorem refunded_le_iff (h : (refundSystem P id).Run ok (.init db) p) {row : PaymentRow}
    (hrow : db.payments.find id = some row) {already : Int}
    (hb : RefundedBefore row.status row.amount.minorUnits already) :
    already + refunded p.log ≤ row.amount.minorUnits ↔
      row.amount.minorUnits = 0 ∨ Timely id p.log := by
  have hsum := refunded_eq fun e he ha => refundedBy_of_accepts h hrow he ha
  have hnonneg := row.amount.nonneg
  have hstatus : db.statusOf id = some row.status := by rw [PayDb.statusOf, hrow]; rfl
  rw [hsum]
  generalize row.amount.minorUnits = amount at *
  constructor
  · intro hle
    by_cases hz : amount = 0
    · exact .inl hz
    · right
      intro n e hn ha
      have hmem : e ∈ p.log := List.mem_of_getElem? hn
      have hpos : 0 < p.log.countP (Accepts ·) :=
        List.countP_pos_iff.mpr ⟨e, hmem, by simpa using ha⟩
      rcases hb with ⟨hcap, rfl⟩ | ⟨-, hal, -⟩
      · have hone : p.log.countP (Accepts ·) ≤ 1 := by
          by_contra hgt
          have : (2 : Int) * amount ≤ p.log.countP (Accepts ·) * amount :=
            mul_le_mul_of_nonneg_right (by omega) hnonneg
          omega
        have hnone := none_before hone hn ha
        refine ⟨?_, fun f hf hacc => absurd hacc (hnone f hf)⟩
        rw [status_of_none_accepted h hn hnone, hstatus, hcap]
      · have : (1 : Int) * amount ≤ p.log.countP (Accepts ·) * amount :=
          mul_le_mul_of_nonneg_right (by omega) hnonneg
        omega
  · rintro (rfl | ht)
    · rcases hb with ⟨-, rfl⟩ | ⟨-, hal, hle⟩
      · simp
      · omega
    · have hone := countP_le_one fun n e hn ha => (timely_alone h ht hn ha).2
      rcases hb with ⟨-, rfl⟩ | ⟨hpart, -, hle⟩
      · have : (p.log.countP (Accepts ·) : Int) * amount ≤ 1 * amount :=
          mul_le_mul_of_nonneg_right (by omega) hnonneg
        omega
      · have hzero : p.log.countP (Accepts ·) = 0 := by
          refine List.countP_eq_zero.mpr fun e he => ?_
          obtain ⟨n, hn⟩ := List.mem_iff_getElem?.mp he
          intro ha
          have hcap := (timely_alone h ht hn (by simpa using ha)).1
          rw [hstatus, hpart] at hcap
          cases hcap
        rw [hzero]
        simpa using hle

end Main

/-! ### Two refunds of one payment -/

/-- A captured payment of 25.00 EUR, stored and at the provider. -/
def capturedDb : PayDb FakePaymentProvider :=
  .single (samplePayment .captured) []
    (FakePaymentProvider.new.put ⟨"pi_1"⟩ ⟨(samplePayment .captured).amount, .captured⟩) 0

/-- Both refunds read the payment, then both reach the provider. -/
def bothSend : List (Act Unit Fate PayEnv) :=
  [.start (), .start (), .step 0 .served, .step 1 .served, .step 0 .served, .step 1 .served]

theorem bothSend_refunded :
    (((refundSystem FakePaymentProvider.port ⟨"pay_1"⟩).acts bothSend (.init capturedDb)).map
      fun p => refunded p.log) = some 5000 := by
  decide

/-- 50.00 EUR go back on a payment of 25.00 EUR. -/
theorem double_refund :
    ∃ p, (refundSystem FakePaymentProvider.port ⟨"pay_1"⟩).Run (fun _ _ => True)
        (.init capturedDb) p ∧
      ¬ 0 + refunded p.log ≤ (samplePayment .captured).amount.minorUnits := by
  obtain ⟨p, hp, hr⟩ := Option.map_eq_some_iff.mp bothSend_refunded
  refine ⟨p, .of_acts .refl (fun _ _ _ => trivial) hp, ?_⟩
  rw [hr]
  decide

theorem double_refund_iff :
    ∃ p, (refundSystem FakePaymentProvider.port ⟨"pay_1"⟩).Run (fun _ _ => True)
        (.init capturedDb) p ∧ refunded p.log = 5000 ∧
      (0 + refunded p.log ≤ (samplePayment .captured).amount.minorUnits ↔
        (samplePayment .captured).amount.minorUnits = 0 ∨ Timely ⟨"pay_1"⟩ p.log) := by
  obtain ⟨p, hp, hr⟩ := Option.map_eq_some_iff.mp bothSend_refunded
  have hrun : (refundSystem FakePaymentProvider.port ⟨"pay_1"⟩).Run (fun _ _ => True)
      (.init capturedDb) p := .of_acts .refl (fun _ _ _ => trivial) hp
  exact ⟨p, hrun, hr, refunded_le_iff hrun rfl (.inl ⟨rfl, rfl⟩)⟩

end AuthApp.Payments
