import AuthApp.Payments.Frames

/-!
# Payments — one insert, failing anywhere

`PgPaymentRepository::insert` makes two statements, with no transaction around them.  `insertRun`
is a run of it whose statements meet the given fates, and which stops for good where they run out.

* `insertPaymentRow_of_free`, `insertPaymentRow_of_not_free`: what the first statement does.
* `whole_iff`: exactly when an insert that does not succeed leaves nothing behind.
-/

namespace AuthApp.Payments
open Interleave
variable {π : Type}

/-- Every stored payment has the history row of its creation. -/
def CreationRecorded (db : PayDb π) : Prop :=
  ∀ id row, db.payments.find id = some row →
    ∃ change ∈ db.history, change.paymentId = id ∧ change.fromStatus = none

/-- The id that is drawn is free, and the instant of creation can be stored. -/
def Free (db : PayDb π) (payment : NewPayment) : Prop :=
  0 ≤ payment.createdAt ∧ db.payments.find db.randomUuid = none

instance (db : PayDb π) (payment : NewPayment) : Decidable (Free db payment) :=
  inferInstanceAs (Decidable (_ ∧ _))

/-- What comes of an insert, and the store it leaves. -/
def insertRun (P : PaymentProvider π) (fates : List Fate) (payment : NewPayment) (db : PayDb π) :
    Option (Except PaymentRepositoryError PaymentId) × PayDb π :=
  (PaymentRepository.insert payment).runFates (PayDb.exec P) fates db

/-- An insert that does not return `Ok`, or not at all, has stored nothing; and whatever it
returns, no payment is without the row of its creation that was not before. -/
structure Whole (P : PaymentProvider π) (fates : List Fate) (payment : NewPayment)
    (db : PayDb π) : Prop where
  nothing : (∀ id, (insertRun P fates payment db).1 ≠ some (.ok id)) →
    (insertRun P fates payment db).2.payments = db.payments ∧
      (insertRun P fates payment db).2.history = db.history
  recorded : CreationRecorded db → CreationRecorded (insertRun P fates payment db).2

/-! ### The two statements -/

section
variable {db : PayDb π} {payment : NewPayment}

theorem insertPaymentRow_of_free (h : Free db payment) :
    ∃ payments, db.insertPaymentRow payment = (.ok db.randomUuid, { db with payments }) ∧
      ∃ row, ∀ j, payments.find j = if db.randomUuid = j then some row else db.payments.find j := by
  obtain ⟨hcreated, hfree⟩ := h
  rw [PayDb.insertPaymentRow, toEpoch, if_pos hcreated]
  dsimp only
  split
  · next hnone =>
      -- a free id is never refused
      rw [PaymentTable.insert] at hnone
      split at hnone
      · next hrows =>
          obtain ⟨row, hrow⟩ := Table.insert?_eq_none_iff.mp hrows
          cases hfree.symm.trans hrow
      · cases hnone
  · next payments hpayments =>
      exact ⟨payments, rfl, _, (PaymentTable.find_of_insert hpayments).2⟩

theorem insertPaymentRow_of_not_free (h : ¬ Free db payment) :
    ∃ e, db.insertPaymentRow payment = (.error e, db) := by
  rw [PayDb.insertPaymentRow, toEpoch]
  by_cases hcreated : 0 ≤ payment.createdAt
  · rw [if_pos hcreated]
    dsimp only
    split
    · exact ⟨_, rfl⟩
    · next payments hpayments =>
        exact absurd ⟨hcreated, (PaymentTable.find_of_insert hpayments).1⟩ h
  · rw [if_neg hcreated]
    exact ⟨_, rfl⟩

theorem insertHistoryRow_of_row {id : PaymentId} {row : PaymentRow} {createdAt : Int}
    (h : db.payments.find id = some row) (hcreated : 0 ≤ createdAt) :
    ∃ occurredAt, db.insertHistoryRow id createdAt =
      (.ok (), { db with history := db.history ++ [⟨id, none, .created, none, occurredAt⟩] }) := by
  rw [PayDb.insertHistoryRow, h, toEpoch, if_pos hcreated]
  exact ⟨_, rfl⟩

end

/-! ### Whole inserts -/

section
variable {P : PaymentProvider π} {fates : List Fate} {payment : NewPayment} {db : PayDb π}

theorem Whole.of_unchanged (h : (insertRun P fates payment db).2 = db) :
    Whole P fates payment db where
  nothing _ := by rw [h]; exact ⟨rfl, rfl⟩
  recorded hdb := by rwa [h]

/-- A payment that was stored is there, and its id was free. -/
theorem not_whole_of_stored {payments : PaymentTable} {row : PaymentRow} (hfree : Free db payment)
    (hfails : ∀ id, (insertRun P fates payment db).1 ≠ some (.ok id))
    (hpayments : (insertRun P fates payment db).2.payments = payments)
    (hrow : payments.find db.randomUuid = some row) : ¬ Whole P fates payment db := by
  intro h
  rw [← hpayments, (h.nothing hfails).1, hfree.2] at hrow
  cases hrow

theorem CreationRecorded.insert (h : CreationRecorded db) {payments : PaymentTable}
    {row : PaymentRow} {id : PaymentId} {occurredAt : Int}
    (hpayments : ∀ j, payments.find j = if id = j then some row else db.payments.find j) :
    CreationRecorded { db with
      payments, history := db.history ++ [⟨id, none, .created, none, occurredAt⟩] } := by
  intro j found hfound
  by_cases hj : id = j
  · exact ⟨_, List.mem_append_right _ (List.mem_singleton_self _), hj, rfl⟩
  · obtain ⟨change, hmem, hchange⟩ :=
      h j found (((hpayments j).trans (if_neg hj)).symm.trans hfound)
    exact ⟨change, List.mem_append_left _ hmem, hchange⟩

/-- An insert whose first statement fails is over. -/
theorem insertRun_of_error {fate : Fate} {e : PaymentRepositoryError} {db' : PayDb π}
    (h : PayDb.exec P fate (.insertPaymentRow payment) db = (.error e, db')) :
    insertRun P (fate :: fates) payment db = (some (.error e), db') := by
  have hrun : insertRun P (fate :: fates) payment db = _ := Prog.runFates_cons ..
  rw [hrun, h]
  exact Prog.runFates_ret ..

/-- Where nothing comes of the first statement, nothing comes of the insert. -/
theorem whole_of_first (h : ¬ ((∃ fate ∈ fates.head?, fate.Lands) ∧ Free db payment)) :
    Whole P fates payment db := by
  cases fates with
  | nil => exact .of_unchanged rfl
  | cons fate rest =>
      have hfails : ∃ e, PayDb.exec P fate (.insertPaymentRow payment) db = (.error e, db) := by
        by_cases hfree : Free db payment
        · cases fate with
          | refused msg => exact ⟨_, rfl⟩
          | served => exact absurd ⟨⟨_, rfl, trivial⟩, hfree⟩ h
          | unacknowledged msg => exact absurd ⟨⟨_, rfl, trivial⟩, hfree⟩ h
        · obtain ⟨e, he⟩ := insertPaymentRow_of_not_free hfree
          cases fate with
          | refused msg => exact ⟨_, rfl⟩
          | served => exact ⟨e, he⟩
          | unacknowledged msg => exact ⟨_, congrArg (Prod.mk _) (congrArg Prod.snd he)⟩
      obtain ⟨e, he⟩ := hfails
      exact .of_unchanged (by rw [insertRun_of_error he])

/-- After its first statement, an insert has its second to make. -/
theorem insertRun_of_row {id : PaymentId} {db' : PayDb π}
    (h : db.insertPaymentRow payment = (.ok id, db')) :
    insertRun P (.served :: fates) payment db =
      (Prog.call (S := paySig) (.insertHistoryRow id payment.createdAt) fun answer =>
        .ret (answer.map fun _ => id)).runFates (PayDb.exec P) fates db' := by
  have hrun : insertRun P (.served :: fates) payment db = _ := Prog.runFates_cons ..
  rw [hrun, PayDb.exec_served, PayDb.serve, h]
  cases fates with
  | nil => rfl
  | cons fate rest =>
      refine (Prog.runFates_cons ..).trans (.trans ?_ (Prog.runFates_cons ..).symm)
      cases (PayDb.exec P fate (.insertHistoryRow id payment.createdAt) db').1 with
      | error e => rfl
      | ok u => rfl

/-- Both statements are served, and both rows are there. -/
theorem whole_of_both (h : Free db payment) :
    Whole P (.served :: .served :: fates) payment db := by
  obtain ⟨payments, hrow, row, hfind⟩ := insertPaymentRow_of_free h
  have hstored : payments.find db.randomUuid = some row := (hfind _).trans (if_pos rfl)
  obtain ⟨occurredAt, hhistory⟩ : ∃ occurredAt, PayDb.insertHistoryRow { db with payments }
      db.randomUuid payment.createdAt = (.ok (), { db with
        payments, history := db.history ++ [⟨db.randomUuid, none, .created, none, occurredAt⟩] }) :=
    insertHistoryRow_of_row hstored h.1
  have hrun : insertRun P (.served :: .served :: fates) payment db = _ := insertRun_of_row hrow
  rw [Prog.runFates_cons, PayDb.exec_served, PayDb.serve, hhistory] at hrun
  have hdone := hrun.trans (Prog.runFates_ret ..)
  refine ⟨fun hfails => absurd (congrArg Prod.fst hdone) (hfails db.randomUuid), fun hdb => ?_⟩
  rw [hdone]
  exact hdb.insert hfind

/-- The payment's row is there, and what follows it fails, or does not happen. -/
theorem not_whole_of_first (h : Free db payment) (hsecond : fates.head? ≠ some .served) :
    ¬ Whole P (.served :: fates) payment db := by
  obtain ⟨payments, hrow, row, hfind⟩ := insertPaymentRow_of_free h
  have hstored : payments.find db.randomUuid = some row := (hfind _).trans (if_pos rfl)
  have hrun : insertRun P (.served :: fates) payment db = _ := insertRun_of_row hrow
  cases fates with
  | nil =>
      exact not_whole_of_stored h (by rw [hrun]; exact fun _ => nofun) (by rw [hrun]; rfl) hstored
  | cons second rest =>
      rw [Prog.runFates_cons, Prog.runFates_ret] at hrun
      have hkept := (PayDb.exec_insertHistoryRow P second db.randomUuid payment.createdAt
        { db with payments }).1
      refine not_whole_of_stored h (fun id => ?_) (by rw [hrun, hkept]) hstored
      rw [hrun]
      cases second with
      | served => exact absurd rfl hsecond
      | refused msg => exact nofun
      | unacknowledged msg => exact nofun

/-- The payment's row is there, and the caller is told that it is not. -/
theorem not_whole_of_unacknowledged {msg : String} (h : Free db payment) :
    ¬ Whole P (.unacknowledged msg :: fates) payment db := by
  obtain ⟨payments, hrow, row, hfind⟩ := insertPaymentRow_of_free h
  have hstored : payments.find db.randomUuid = some row := (hfind _).trans (if_pos rfl)
  have hexec : PayDb.exec P (.unacknowledged msg) (.insertPaymentRow payment) db =
      (.error (.backend msg), { db with payments }) :=
    congrArg (Prod.mk _) (congrArg Prod.snd hrow)
  have hrun : insertRun P (.unacknowledged msg :: fates) payment db =
      (some (.error (.backend msg)), { db with payments }) := insertRun_of_error hexec
  exact not_whole_of_stored h (by rw [hrun]; exact fun _ => nofun) (by rw [hrun]) hstored

/-- **When an insert is all or nothing.**  Exactly when both of its statements are served, or the
first has no effect: it is not reached, or is refused, or its id or its instant is. -/
theorem whole_iff (P : PaymentProvider π) (fates : List Fate) (payment : NewPayment)
    (db : PayDb π) :
    Whole P fates payment db ↔
      fates.take 2 = [.served, .served] ∨
        ¬ ((∃ fate ∈ fates.head?, fate.Lands) ∧ Free db payment) := by
  by_cases hfirst : (∃ fate ∈ fates.head?, fate.Lands) ∧ Free db payment
  swap
  · exact iff_of_true (whole_of_first hfirst) (.inr hfirst)
  have hcond : fates.take 2 = [.served, .served] ∨
      ¬ ((∃ fate ∈ fates.head?, fate.Lands) ∧ Free db payment) ↔
        fates.take 2 = [.served, .served] := or_iff_left (not_not.mpr hfirst)
  rw [hcond]
  obtain ⟨⟨fate, hfate, hlands⟩, hfree⟩ := hfirst
  obtain ⟨rest, rfl⟩ : ∃ rest, fates = fate :: rest := List.head?_eq_some_iff.mp hfate
  cases fate with
  | refused msg => exact hlands.elim
  | unacknowledged msg => exact iff_of_false (not_whole_of_unacknowledged hfree) nofun
  | served =>
      by_cases hsecond : rest.head? = some .served
      · obtain ⟨rest, rfl⟩ := List.head?_eq_some_iff.mp hsecond
        exact iff_of_true (whole_of_both hfree) rfl
      · refine iff_of_false (not_whole_of_first hfree hsecond) fun htake => hsecond ?_
        cases rest with
        | nil => cases htake
        | cons second rest => cases htake; rfl

end

/-! ### A payment without a history -/

/-- A payment of 25.00 EUR, created as the epoch began. -/
def newPayment : NewPayment := ⟨(samplePayment .created).amount, 0⟩

def emptyPayments : PayDb Unit := ⟨.empty, [], .empty, (), ⟨"pay_1"⟩, 0⟩

def noProvider : PaymentProvider Unit where
  createIntent _ s := (.error (.unavailable "no provider"), s)
  capture _ _ s := (.error (.unavailable "no provider"), s)
  refund _ _ s := (.error (.unavailable "no provider"), s)
  getStatus _ s := (.error (.unavailable "no provider"), s)

/-- The connection breaks between the two statements: the insert is an error, and the payment is
there without a row of its creation. -/
theorem insert_half_done :
    ∃ e db', insertRun noProvider [.served, .refused "connection reset"] newPayment emptyPayments =
        (some (.error e), db') ∧
      db'.payments.find ⟨"pay_1"⟩ ≠ none ∧ db'.history = [] ∧
      ¬ Whole noProvider [.served, .refused "connection reset"] newPayment emptyPayments :=
  ⟨_, _, rfl, by decide, rfl, not_whole_of_first (by decide) (by decide)⟩

end AuthApp.Payments
