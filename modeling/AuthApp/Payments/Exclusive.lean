import AuthApp.Payments.Fake
import AuthApp.Payments.System

/-!
# Payments — exclusive transitions

A caller reads a payment, and passes the status that it read to `transition`, which is guarded by
it.  The guard compares statuses, not versions: it keeps a second caller out because the state
machine does not come back to a status, except that `PartiallyRefunded` may repeat.

The version of a payment is the number of its status changes so far.

* `Later`: along a run, a payment goes on in the state machine; while its status is the same, its
  version is, unless it is `PartiallyRefunded`.
* `exclusive_iff`: of the transitions based on one version, one succeeds at most, exactly when no
  partial refund is repeated between a caller's read and its transition.
* `twoPartial_not_exclusive`: two partial refunds based on one version.
-/

namespace AuthApp.Payments
open Interleave Pool

variable {π ι α : Type}

/-! ### Reads and versions -/

/-- How many status changes of a payment have been committed. -/
def PayDb.version (db : PayDb π) (id : PaymentId) : Nat :=
  (db.historyOf id).countP fun r => r.fromStatus.isSome

/-- A caller that is answered this has read the payment. -/
inductive Shows : Reply paySig → Payment → Prop
  | find (id : PaymentId) (found : Payment) : Shows ⟨.find id, .ok (some found)⟩ found
  | findByProviderReference (reference : ProviderReference) (found : Payment) :
      Shows ⟨.findByProviderReference reference, .ok (some found)⟩ found
  | list (query : PaymentQuery) (items : List Payment) (found : Payment) :
      found ∈ items → Shows ⟨.list query, .ok items⟩ found

/-- A caller expects the status that it has read, and moves on from it legally. -/
def Disciplined (past : List (Reply paySig)) : PayOp → Prop
  | .transition id expected next _ _ =>
      Moves expected next ∧ ∃ r ∈ past, ∃ found, Shows r found ∧ found.id = id ∧
        found.status = expected
  | _ => True

/-- The caller of step `n` had read the payment with this status, at version `v`. -/
def Based (p : Pool paySig (PayDb π) ι α) (n : Nat) (e : Event paySig (PayDb π)) (id : PaymentId)
    (expected : PaymentStatus) (v : Nat) : Prop :=
  ∃ k g found, k < n ∧ p.log[k]? = some g ∧ g.caller = e.caller ∧ Shows ⟨g.op, g.ans⟩ found ∧
    found.id = id ∧ found.status = expected ∧ g.pre.version id = v

/-- Step `n` is a transition of the payment, based on version `v`, and is answered `r`. -/
structure Tries (p : Pool paySig (PayDb π) ι α) (n : Nat) (e : Event paySig (PayDb π))
    (id : PaymentId) (expected next : PaymentStatus) (v : Nat)
    (r : Except PaymentRepositoryError Unit) : Prop where
  logged : p.log[n]? = some e
  reply : ∃ reason now,
    (⟨e.op, e.ans⟩ : Reply paySig) = ⟨.transition id expected next reason now, r⟩
  based : Based p n e id expected v

/-- When a transition succeeds, every other one that is based on the same version leaves the
payments and their history as they were, and is answered `Conflict`, unless the database fails. -/
def Exclusive (p : Pool paySig (PayDb π) ι α) : Prop :=
  ∀ id v n m e f expected next expected' next' r, n ≠ m →
    Tries p n e id expected next v (.ok ()) → Tries p m f id expected' next' v r →
      f.post.payments = f.pre.payments ∧ f.post.history = f.pre.history ∧
        (r = .error .conflict ∨ ∃ msg, r = .error (.backend msg))

/-- A transition from `PartiallyRefunded` that finds the payment there, finds the version that it
is based on. -/
def Undisturbed (p : Pool paySig (PayDb π) ι α) : Prop :=
  ∀ id v n e next r, Tries p n e id .partiallyRefunded next v r →
    e.pre.statusOf id = some .partiallyRefunded → e.pre.version id = v

/-- The database fails no transition. -/
def Answered (p : Pool paySig (PayDb π) ι α) : Prop :=
  ∀ e ∈ p.log, ∀ id expected next reason now msg,
    (⟨e.op, e.ans⟩ : Reply paySig) ≠
      ⟨.transition id expected next reason now, .error (.backend msg)⟩

/-! ### A payment goes on -/

namespace PayDb
variable (db : PayDb π)

theorem version_congr {db db' : PayDb π} (h : db'.history = db.history) (id : PaymentId) :
    db'.version id = db.version id := by
  rw [version, version, historyOf_congr h]

theorem version_append {db db' : PayDb π} {r : HistoryRow} (h : db'.history = db.history ++ [r])
    (id : PaymentId) : db'.version id =
      if r.paymentId = id ∧ r.fromStatus.isSome then db.version id + 1 else db.version id := by
  rw [version, historyOf_append h, version]
  by_cases hid : r.paymentId = id
  · rw [if_pos hid, List.countP_append, List.countP_singleton]
    by_cases hs : r.fromStatus.isSome <;> simp [hid, hs]
  · rw [if_neg hid, if_neg fun h => hid h.1]

theorem version_write (id j : PaymentId) (expected next : PaymentStatus) (reason : Option String)
    (updatedAt : Int) : (db.write id expected next reason updatedAt).version j =
      if id = j then db.version j + 1 else db.version j := by
  rw [version_append (r := ⟨id, some expected, next, reason, updatedAt⟩) rfl]
  simp

end PayDb

/-- A call changes the version of a payment only as a transition that finds what it expects. -/
theorem PayDb.version_exec (P : PaymentProvider π) (fate : Fate) (op : PayOp) (db : PayDb π)
    (id : PaymentId) : (PayDb.exec P fate op db).2.version id = db.version id ∨
      ∃ expected next reason now, op = .transition id expected next reason now ∧
        db.statusOf id = some expected := by
  cases op with
  | transition j expected next reason now =>
      rcases PayDb.exec_transition P fate j expected next reason now db with
        h | ⟨hs, updatedAt, h⟩
      · exact .inl (by rw [h])
      · by_cases hj : j = id
        · subst hj
          exact .inr ⟨expected, next, reason, now, rfl, hs⟩
        · refine .inl ?_
          rw [h, PayDb.version_write, if_neg hj]
  | insertPaymentRow payment =>
      exact .inl (version_congr (PayDb.exec_insertPaymentRow P fate payment db id).1 id)
  | setProviderReference j reference =>
      exact .inl (version_congr (PayDb.exec_setProviderReference P fate j reference db id).1 id)
  | insertHistoryRow j createdAt =>
      refine .inl ?_
      rcases (PayDb.exec_insertHistoryRow P fate j createdAt db).2 with hh | ⟨-, occurredAt, hh⟩
      · exact version_congr hh id
      · rw [version_append hh]
        simp
  | _ => exact .inl (version_congr (PayDb.exec_payments P fate rfl db).2 id)

/-- From `s` to `t`, a payment has gone on in the state machine.  A status that it still has is
as it was at `s`, unless partial refunds have been repeated. -/
structure Later (id : PaymentId) (s t : PayDb π) : Prop where
  version : s.version id ≤ t.version id
  status : ∀ a, s.statusOf id = some a → ∃ b, t.statusOf id = some b ∧ a.rank ≤ b.rank ∧
    (a.rank = b.rank → a = b ∧ (a ≠ .partiallyRefunded → s.version id = t.version id))

namespace Later
variable {id : PaymentId} {s t u : PayDb π}

theorem of_same (hs : t.statusOf id = s.statusOf id) (hv : t.version id = s.version id) :
    Later id s t :=
  ⟨hv.ge, fun a ha => ⟨a, hs.trans ha, Nat.le_refl _, fun _ => ⟨rfl, fun _ => hv.symm⟩⟩⟩

theorem of_tables (hp : t.payments = s.payments) (hh : t.history = s.history) : Later id s t :=
  of_same (by rw [PayDb.statusOf, hp]; rfl) (PayDb.version_congr hh id)

theorem refl (s : PayDb π) : Later id s s := of_same rfl rfl

theorem trans (h : Later id s t) (h' : Later id t u) : Later id s u := by
  refine ⟨h.version.trans h'.version, fun a ha => ?_⟩
  obtain ⟨b, hb, hab, hsame⟩ := h.status a ha
  obtain ⟨c, hc, hbc, hsame'⟩ := h'.status b hb
  refine ⟨c, hc, hab.trans hbc, fun hac => ?_⟩
  obtain ⟨rfl, hv⟩ := hsame (by omega)
  obtain ⟨rfl, hv'⟩ := hsame' (by omega)
  exact ⟨rfl, fun hne => (hv hne).trans (hv' hne)⟩

theorem env (e : PayEnv) (s : PayDb π) : Later id s (e.act s) := by
  cases e <;> exact of_same rfl rfl

/-- A payment that has the status that it had, has gone through no other. -/
theorem same_status {a : PaymentStatus} (h : Later id s t) (ha : s.statusOf id = some a)
    (ht : t.statusOf id = some a) : a ≠ .partiallyRefunded → s.version id = t.version id := by
  obtain ⟨b, hb, -, hsame⟩ := h.status a ha
  obtain rfl : b = a := Option.some.inj (hb.symm.trans ht)
  exact (hsame rfl).2

end Later

theorem moves_self {a : PaymentStatus} (h : Moves a a) : a = .partiallyRefunded := by
  revert h
  cases a <;> decide

/-- One call of a disciplined caller. -/
theorem later_exec (P : PaymentProvider π) (fate : Fate) (op : PayOp) (db : PayDb π)
    (hop : ∀ j expected next reason now, op = .transition j expected next reason now →
      Moves expected next) (id : PaymentId) : Later id db (PayDb.exec P fate op db).2 := by
  cases op with
  | transition j expected next reason now =>
      rcases PayDb.exec_transition P fate j expected next reason now db with
        h | ⟨hs, updatedAt, h⟩
      · rw [h]; exact .refl db
      rw [h]
      have hv := db.version_write j id expected next reason updatedAt
      have hst := db.statusOf_write j id expected next reason updatedAt
      by_cases hj : j = id
      · subst hj
        rw [if_pos rfl] at hv hst
        refine ⟨by omega, fun a ha => ?_⟩
        obtain rfl : expected = a := Option.some.inj (hs.symm.trans ha)
        have hmove := hop _ _ _ _ _ rfl
        refine ⟨next, by rw [hst, hs]; rfl, hmove.rank.1, fun hr => ?_⟩
        obtain rfl := hmove.rank.2 hr
        exact ⟨rfl, fun hne => absurd (moves_self hmove) hne⟩
      · rw [if_neg hj] at hv hst
        exact .of_same hst hv
  | insertPaymentRow payment =>
      obtain ⟨hh, hf | ⟨hnone, -⟩⟩ := PayDb.exec_insertPaymentRow P fate payment db id
      · exact .of_same (congrArg (Option.map PaymentRow.status) hf) (PayDb.version_congr hh id)
      · refine ⟨(PayDb.version_congr hh id).ge, fun a ha => ?_⟩
        rw [PayDb.statusOf, hnone] at ha
        cases ha
  | insertHistoryRow j createdAt =>
      obtain ⟨hp, hh | ⟨-, occurredAt, hh⟩⟩ := PayDb.exec_insertHistoryRow P fate j createdAt db
      · exact .of_same (by rw [PayDb.statusOf, hp]; rfl) (PayDb.version_congr hh id)
      · refine .of_same (by rw [PayDb.statusOf, hp]; rfl) ?_
        rw [PayDb.version_append hh]
        simp
  | setProviderReference j reference =>
      obtain ⟨hh, hf | ⟨-, hs⟩⟩ := PayDb.exec_setProviderReference P fate j reference db id
      · exact .of_same (congrArg (Option.map PaymentRow.status) hf) (PayDb.version_congr hh id)
      · exact .of_same hs (PayDb.version_congr hh id)
  | _ =>
      refine .of_tables (PayDb.exec_payments P fate rfl db).1 ?_
      exact (PayDb.exec_payments P fate rfl db).2

/-- A read answers what is stored, and changes nothing. -/
theorem Shows.stored {P : PaymentProvider π} {fate : Fate} {r : Reply paySig} {found : Payment}
    {s t : PayDb π} (h : Shows r found) (hx : PayDb.exec P fate r.op s = (r.ans, t)) :
    s.statusOf found.id = some found.status ∧ t = s := by
  have hrow : ∀ row ∈ s.payments.table.rows,
      s.statusOf (rowToPayment row).id = some (rowToPayment row).status := fun row hmem =>
    congrArg (Option.map PaymentRow.status) (Table.find?_of_mem hmem)
  cases h with
  | find id found =>
      obtain ⟨hf, rfl⟩ := PayDb.exec_find hx
      obtain ⟨row, hrow', rfl⟩ := Option.map_eq_some_iff.mp hf.symm
      exact ⟨hrow row (Table.mem_of_find? hrow'), rfl⟩
  | findByProviderReference reference found =>
      obtain ⟨hf, rfl⟩ := PayDb.exec_findByProviderReference hx
      obtain ⟨row, hrow', rfl⟩ := Option.map_eq_some_iff.mp hf.symm
      exact ⟨hrow row (PaymentTable.findByProviderReference_eq_some_iff.mp hrow').1, rfl⟩
  | list query items found hmem =>
      cases fate with
      | refused msg => cases hx
      | unacknowledged msg => cases hx
      | served =>
          cases hx
          rw [PayDb.list] at hmem
          obtain ⟨row, hrow', rfl⟩ := List.mem_map.mp hmem
          have hin := List.mem_of_mem_drop (List.mem_of_mem_take hrow')
          exact ⟨hrow row (List.mem_filter.mp (List.mem_mergeSort.mp hin)).1, rfl⟩

/-- What a transition did, by its answer: a conflict found another status; a success found the
status it expected, and wrote; and a failure may have done either. -/
theorem transition_answer {P : PaymentProvider π} {fate : Fate} {id : PaymentId}
    {expected next : PaymentStatus} {reason : Option String} {now : Int} {s t : PayDb π}
    {r : Except PaymentRepositoryError Unit}
    (hx : PayDb.exec P fate (.transition id expected next reason now) s = (r, t)) :
    (r = .ok () ∧ s.statusOf id = some expected ∧
        ∃ updatedAt, t = s.write id expected next reason updatedAt) ∨
      (r = .error .conflict ∧ s.statusOf id ≠ some expected ∧ t = s) ∨
      (∃ msg, r = .error (.backend msg)) := by
  rcases r with (_ | msg) | ⟨⟩
  · obtain ⟨rfl, hne⟩ := PayDb.exec_transition_conflict hx
    exact .inr (.inl ⟨rfl, hne, rfl⟩)
  · exact .inr (.inr ⟨msg, rfl⟩)
  · cases fate with
    | refused msg => cases hx
    | unacknowledged msg => cases hx
    | served =>
        rcases s.transition_cases id expected next reason now with ⟨e, h⟩ | ⟨hs, updatedAt, h⟩
        · exact absurd (h.symm.trans hx) (by simp)
        · obtain rfl := (Prod.mk.inj (h.symm.trans hx)).2
          exact .inl ⟨rfl, hs, updatedAt, rfl⟩

/-! ### Runs -/

section
variable {P : PaymentProvider π} {code : ι → Prog paySig α} {db : PayDb π}
  {p : Pool paySig (PayDb π) ι α} {ok : Pool paySig (PayDb π) ι α → Act ι Fate PayEnv → Prop}
  {id : PaymentId} {n m : Nat} {e f : Event paySig (PayDb π)} {expected next : PaymentStatus}
  {v : Nat} {r : Except PaymentRepositoryError Unit}

section
variable (hcode : ∀ req, Prog.Calls Disciplined [] (code req))
  (h : (paySystem P code).Run ok (.init db) p)
include hcode h

theorem later_event (hn : p.log[n]? = some e) : Later id e.pre e.post := by
  obtain ⟨fate, hx⟩ := h.event_exec e (List.mem_of_getElem? hn)
  obtain ⟨req, d, -, hop⟩ := h.event_call (fun req => hcode req) hn
  have hpost : e.post = (PayDb.exec P fate e.op e.pre).2 := (congrArg Prod.snd hx).symm
  rw [hpost]
  refine later_exec P fate e.op e.pre (fun j expected next reason now heq => ?_) id
  rw [heq] at hop
  exact hop.1

/-- From one step of a run to a later one. -/
theorem later_between (hn : p.log[n]? = some e) (hm : p.log[m]? = some f) (hnm : n < m) :
    Later id e.post f.pre :=
  (h.trail.between hn hm hnm).mono Later.refl Later.trans Later.env fun g hg => by
    obtain ⟨k, hk⟩ := List.mem_iff_getElem?.mp (List.mem_of_mem_take (List.mem_of_mem_drop hg))
    exact later_event hcode h hk

theorem later_since (hn : p.log[n]? = some e) (hm : p.log[m]? = some f) (hnm : n < m) :
    Later id e.pre f.pre :=
  (later_event hcode h hn).trans (later_between hcode h hn hm hnm)

/-- Since the read, the payment has gone on. -/
theorem Based.later (hb : Based p n e id expected v) (hn : p.log[n]? = some e) :
    ∃ k g, k < n ∧ p.log[k]? = some g ∧ g.post = g.pre ∧ g.pre.statusOf id = some expected ∧
      g.pre.version id = v ∧ Later id g.pre e.pre := by
  obtain ⟨k, g, found, hkn, hk, -, hshows, rfl, rfl, hv⟩ := hb
  obtain ⟨fate, hx⟩ := h.event_exec g (List.mem_of_getElem? hk)
  obtain ⟨hs, hsame⟩ := hshows.stored hx
  exact ⟨k, g, hkn, hk, hsame, hs, hv, later_since hcode h hk hn hkn⟩

/-- A transition that finds the status it expects, finds the version that it is based on. -/
theorem Tries.version_eq (hp : Undisturbed p) (ht : Tries p n e id expected next v r)
    (hs : e.pre.statusOf id = some expected) : e.pre.version id = v := by
  by_cases hne : expected = .partiallyRefunded
  · subst hne
    exact hp id v n e next r ht hs
  · obtain ⟨k, g, -, -, -, hgs, rfl, hlater⟩ := ht.based.later hcode h ht.logged
    exact (hlater.same_status hgs hs hne).symm

end

/-- What a transition did, in a run. -/
theorem Tries.answer (h : (paySystem P code).Run ok (.init db) p)
    (ht : Tries p n e id expected next v r) :
    (r = .ok () ∧ e.pre.statusOf id = some expected ∧
        e.post.version id = e.pre.version id + 1) ∨
      (r = .error .conflict ∧ e.pre.statusOf id ≠ some expected ∧ e.post = e.pre) ∨
      ∃ msg, r = .error (.backend msg) := by
  obtain ⟨fate, hx⟩ := h.event_exec e (List.mem_of_getElem? ht.logged)
  obtain ⟨reason, now, hr⟩ := ht.reply
  obtain ⟨i, op, ans, pre, post⟩ := e
  cases hr
  rcases transition_answer hx with ⟨hr, hs, updatedAt, hpost⟩ | hconflict | hfail
  · refine .inl ⟨hr, hs, ?_⟩
    dsimp only at hpost ⊢
    rw [hpost, PayDb.version_write, if_pos rfl]
  · exact .inr (.inl hconflict)
  · exact .inr (.inr hfail)

/-- It changes nothing, or it found the status it expected, and the version goes up. -/
theorem Tries.effect (h : (paySystem P code).Run ok (.init db) p)
    (ht : Tries p n e id expected next v r) :
    e.post = e.pre ∨
      e.pre.statusOf id = some expected ∧ e.post.version id = e.pre.version id + 1 := by
  obtain ⟨fate, hx⟩ := h.event_exec e (List.mem_of_getElem? ht.logged)
  obtain ⟨reason, now, hr⟩ := ht.reply
  obtain ⟨i, op, ans, pre, post⟩ := e
  cases hr
  have hpost : post = (PayDb.exec P fate (.transition id expected next reason now) pre).2 :=
    (congrArg Prod.snd hx).symm
  dsimp only
  rw [hpost]
  rcases PayDb.exec_transition P fate id expected next reason now pre with
    hsame | ⟨hs, updatedAt, hwrite⟩
  · exact .inl hsame
  · refine .inr ⟨hs, ?_⟩
    rw [hwrite, PayDb.version_write, if_pos rfl]

/-- Undisturbed transitions exclude each other. -/
theorem exclusive_of_undisturbed (hcode : ∀ req, Prog.Calls Disciplined [] (code req))
    (h : (paySystem P code).Run ok (.init db) p) (hp : Undisturbed p) : Exclusive p := by
  intro id v n m e f expected next expected' next' r hnm he hf
  -- the winner makes a new version of the one that it is based on
  obtain ⟨hs, hup⟩ : e.pre.statusOf id = some expected ∧
      e.post.version id = e.pre.version id + 1 := by
    rcases he.answer h with ⟨-, hs, hup⟩ | ⟨⟨⟩, -⟩ | ⟨_, ⟨⟩⟩
    exact ⟨hs, hup⟩
  have hev := he.version_eq hcode h hp hs
  -- so no other transition that is based on it writes
  have hno : ¬ (f.pre.statusOf id = some expected' ∧
      f.post.version id = f.pre.version id + 1) := by
    rintro ⟨hfs, hfup⟩
    have hfv := hf.version_eq hcode h hp hfs
    rcases Nat.lt_or_gt_of_ne hnm with hlt | hlt
    · have hlater : Later id e.post f.pre := later_between hcode h he.logged hf.logged hlt
      have hless := hlater.version
      omega
    · have hlater : Later id f.post e.pre := later_between hcode h hf.logged he.logged hlt
      have hless := hlater.version
      omega
  have hsame : f.post = f.pre := (hf.effect h).resolve_right hno
  refine ⟨by rw [hsame], by rw [hsame], ?_⟩
  rcases hf.answer h with ⟨-, hfs, hfup⟩ | ⟨hr, -⟩ | hr
  · exact absurd ⟨hfs, hfup⟩ hno
  · exact .inl hr
  · exact .inr hr

/-- A step that changes the version of a payment is a transition that found what it expected. -/
theorem transition_of_version (h : (paySystem P code).Run ok (.init db) p)
    (hn : p.log[n]? = some e) (hne : e.post.version id ≠ e.pre.version id) :
    ∃ expected next reason now, e.op = .transition id expected next reason now ∧
      e.pre.statusOf id = some expected := by
  obtain ⟨fate, hx⟩ := h.event_exec e (List.mem_of_getElem? hn)
  have hpost : e.post = (PayDb.exec P fate e.op e.pre).2 := (congrArg Prod.snd hx).symm
  rw [hpost] at hne
  rcases PayDb.version_exec P fate e.op e.pre id with hsame | htransition
  · exact absurd hsame hne
  · exact htransition

/-- A transition that finds the status it expects, and is answered by the database, succeeds. -/
theorem Tries.ok_of_found (h : (paySystem P code).Run ok (.init db) p) (hans : Answered p)
    (ht : Tries p n e id expected next v r) (hs : e.pre.statusOf id = some expected) :
    r = .ok () := by
  rcases ht.answer h with ⟨hr, -⟩ | ⟨-, hne, -⟩ | ⟨msg, rfl⟩
  · exact hr
  · exact absurd hs hne
  · obtain ⟨reason, now, hr⟩ := ht.reply
    exact absurd hr (hans e (List.mem_of_getElem? ht.logged) _ _ _ _ _ _)

/-- A disturbed transition meets another one that is based on the same version. -/
theorem undisturbed_of_exclusive (hcode : ∀ req, Prog.Calls Disciplined [] (code req))
    (h : (paySystem P code).Run ok (.init db) p) (hans : Answered p) (hx : Exclusive p) :
    Undisturbed p := by
  intro id v n
  induction n using Nat.strong_induction_on generalizing v with
  | _ n ih =>
  intro e next r ht hs
  by_contra hne
  obtain ⟨k, g, hkn, hk, hread, hgs, rfl, hlater⟩ := ht.based.later hcode h ht.logged
  have hgt : g.pre.version id < e.pre.version id :=
    Nat.lt_of_le_of_ne hlater.version (Ne.symm hne)
  -- the step that made the next version after the read
  obtain ⟨j, f, hkj, hjn, hj, hfpre, hfpost⟩ :=
    h.trail.turned_between (I := fun s => g.pre.version id < s.version id)
      (fun a s hi => by cases a <;> exact hi) hk ht.logged hkn
      (by rw [hread]; exact Nat.lt_irrefl _) hgt
  have hgf : Later id g.pre f.pre := later_since hcode h hk hj hkj
  have hfv : f.pre.version id = g.pre.version id :=
    Nat.le_antisymm (Nat.le_of_not_lt hfpre) hgf.version
  obtain ⟨expected', next', reason, now, hop, hfs⟩ :=
    transition_of_version h hj (by omega : f.post.version id ≠ f.pre.version id)
  -- is a partial refund too
  obtain rfl : PaymentStatus.partiallyRefunded = expected' := by
    obtain ⟨b, hb, hab, hsame⟩ := hgf.status _ hgs
    obtain ⟨c, hc, hbc, -⟩ := (later_since hcode h hj ht.logged hjn).status b hb
    obtain rfl : c = .partiallyRefunded := Option.some.inj (hc.symm.trans hs)
    exact (hsame (by omega)).1.trans (Option.some.inj (hb.symm.trans hfs))
  -- and is based on the same version, being undisturbed itself
  obtain ⟨req, d, -, hcall⟩ := h.event_call (fun req => hcode req) hj
  rw [hop] at hcall
  obtain ⟨-, reply, hreply, found, hshows, hid, hst⟩ := hcall
  obtain ⟨l, hlj, c, pre, post, hl, -⟩ := h.reply_exec hreply
  obtain ⟨i, op, ans, fpre, fpost⟩ := f
  obtain rfl : op = _ := hop
  have hf : Tries p j ⟨i, _, ans, fpre, fpost⟩ id .partiallyRefunded next' (pre.version id) ans :=
    ⟨hj, ⟨reason, now, rfl⟩, l, _, found, hlj, hl, rfl, hshows, hid, hst, rfl⟩
  have hv : fpre.version id = pre.version id := ih j hjn _ _ _ _ hf hfs
  rw [← hv, hfv] at hf
  obtain rfl := hf.ok_of_found h hans hfs
  obtain rfl := ht.ok_of_found h hans hs
  obtain ⟨-, -, hr | ⟨_, hr⟩⟩ := hx _ _ _ _ _ _ _ _ _ _ _ (Nat.ne_of_lt hjn) hf ht <;> cases hr

/-- **Exclusive transitions.** Of the transitions based on one version of a payment, one succeeds
at most and the others change nothing, as long as no transition from `PartiallyRefunded` meets a
version that is not the one it is based on; and when the database fails none, only then. -/
theorem exclusive_iff (hcode : ∀ req, Prog.Calls Disciplined [] (code req))
    (h : (paySystem P code).Run ok (.init db) p) :
    (Undisturbed p → Exclusive p) ∧ (Answered p → (Exclusive p ↔ Undisturbed p)) :=
  ⟨exclusive_of_undisturbed hcode h, fun hans =>
    ⟨undisturbed_of_exclusive hcode h hans, exclusive_of_undisturbed hcode h⟩⟩

end

/-! ### The requests of the payments context -/

/-- Every request is such a caller. -/
theorem request_disciplined (req : PayRequest) : Prog.Calls Disciplined [] req.code := by
  refine (request_trace req).calls fun past op h => ?_
  cases req with
  | insert payment =>
      obtain ⟨hd, ht, he⟩ := h
      obtain rfl := Head.map_eq_call he.symm
      cases ht <;> trivial
  | setProviderReference id reference =>
      obtain ⟨hd, ht, he⟩ := h
      obtain rfl := Head.map_eq_call he.symm
      cases ht
      trivial
  | deliver verifier payload signature =>
      obtain ⟨hd, ht, he⟩ := h
      obtain rfl := Head.map_eq_call he.symm
      cases ht with
      | reject | claim | lookup | clock => trivial
      | write event hv reference next found now hr hn hl =>
          exact ⟨hl, _, by simp, found, .findByProviderReference reference found, rfl, rfl⟩
  | refund id =>
      obtain ⟨hd, ht, he⟩ := h
      obtain rfl := Head.map_eq_call he.symm
      cases ht with
      | start | send | clock => trivial
      | write found reference intent now hs hl =>
          exact ⟨hl, _, by simp, found, .find id found, rfl, rfl⟩

/-- The provider holds `pi_1`, of this amount. -/
def fakeWith (amount : Money) : FakePaymentProvider :=
  FakePaymentProvider.new.put ⟨"pi_1"⟩ ⟨amount, .captured⟩

/-- Two refunds of one payment, which both read it before either moves it. -/
def twoRefunds : List (Act PayRequest Fate PayEnv) :=
  [.start (.refund ⟨"pay_1"⟩), .start (.refund ⟨"pay_1"⟩), .step 0 .served, .step 1 .served,
    .step 0 .served, .step 0 .served, .step 0 .served, .step 1 .served, .step 1 .served,
    .step 1 .served]

/-- The payment is captured, and each refund is a full one. -/
def twoFull : Pool paySig (PayDb FakePaymentProvider) PayRequest PayResponse :=
  ((payContext FakePaymentProvider.port).acts twoRefunds
    (.init (.single (samplePayment .captured) [] (fakeWith (.euros 2500)) 0))).get rfl

/-- The status that a transition expects. -/
def PayOp.expects : PayOp → Option PaymentStatus
  | .transition _ expected _ _ _ => some expected
  | _ => none

/-- The second of the full refunds is answered a conflict. -/
theorem twoFull_exclusive : Exclusive twoFull := by
  have hrun : (payContext FakePaymentProvider.port).Run (fun _ _ => True)
      (.init (.single (samplePayment .captured) [] (fakeWith (.euros 2500)) 0)) twoFull :=
    .of_acts .refl (fun _ _ _ => trivial) (Option.some_get rfl).symm
  refine (exclusive_iff request_disciplined hrun).1 fun id v n e next r ht _ => ?_
  have hno : ∀ e ∈ twoFull.log, e.op.expects ≠ some .partiallyRefunded := by decide
  obtain ⟨reason, now, hr⟩ := ht.reply
  exact absurd (congrArg (fun r : Reply paySig => PayOp.expects r.op) hr)
    (hno e (List.mem_of_getElem? ht.logged))

/-- The payment is partially refunded, and its intent at the provider is of 50 euros. -/
def twoPartial : Pool paySig (PayDb FakePaymentProvider) PayRequest PayResponse :=
  ((payContext FakePaymentProvider.port).acts twoRefunds
    (.init (.single (samplePayment .partiallyRefunded) [] (fakeWith (.euros 5000)) 0))).get rfl

/-- Both refunds succeed. -/
theorem twoPartial_not_exclusive : ¬ Exclusive twoPartial := by
  intro h
  have hfirst : Tries twoPartial 4 (twoPartial.log.get ⟨4, by decide⟩) ⟨"pay_1"⟩
      .partiallyRefunded .partiallyRefunded 0 (.ok ()) :=
    ⟨rfl, ⟨_, _, rfl⟩, 0, _, _, by decide, rfl, rfl, .find _ _, rfl, rfl, rfl⟩
  have hsecond : Tries twoPartial 7 (twoPartial.log.get ⟨7, by decide⟩) ⟨"pay_1"⟩
      .partiallyRefunded .partiallyRefunded 0 (.ok ()) :=
    ⟨rfl, ⟨_, _, rfl⟩, 1, _, _, by decide, rfl, rfl, .find _ _, rfl, rfl, rfl⟩
  obtain ⟨-, -, hr | ⟨_, hr⟩⟩ := h _ _ _ _ _ _ _ _ _ _ _ (by decide) hfirst hsecond <;> cases hr

end AuthApp.Payments
