import AuthApp.Payments.Frames
import Mathlib.Data.String.Basic

/-!
# Payments — the listing

`FilterSql` builds the statements of `list` and `count` condition by condition: each condition
names its argument by a number, and takes the number from the arguments bound so far.

* `placeholders_list`: the placeholders of a statement are its arguments, in order.
* `run_listStatement`, `run_countStatement`: what the statements select is what the query matches.
* `stated_of_bounded`: both select the same rows.
* `mem_matching`, `pairwise_matching`: the rows of a listing, each once, the newest first.
-/

namespace AuthApp.Payments

/-! ### Statements -/

/-- An argument bound to a statement. -/
inductive SqlArg where
  | text (s : String)
  | bigint (n : Option Int)
  deriving DecidableEq, Repr

/-- The conditions that `push_conditions` writes, by the number of their placeholder. -/
inductive Condition where
  | statusIs (placeholder : Nat)
  | createdFrom (placeholder : Nat)
  | createdBefore (placeholder : Nat)
  deriving DecidableEq, Repr

/-- `$1`, `$2` and so on. -/
def placeholderSql (placeholder : Nat) : String := "$" ++ toString placeholder

namespace Condition

def placeholder : Condition → Nat
  | .statusIs p | .createdFrom p | .createdBefore p => p

def sql : Condition → String
  | .statusIs p => "status = " ++ placeholderSql p
  | .createdFrom p => "created_at >= to_timestamp(" ++ placeholderSql p ++ ")"
  | .createdBefore p => "created_at < to_timestamp(" ++ placeholderSql p ++ ")"

end Condition

structure FilterSql where
  conditions : List Condition
  args : List SqlArg
  deriving DecidableEq

namespace FilterSql

def new : FilterSql := ⟨[], []⟩

/-- The placeholder of the argument that will be added next. -/
def nextPlaceholder (filter : FilterSql) : Nat := filter.args.length + 1

/-- Bind an argument, and write the condition that refers to it. -/
def push (filter : FilterSql) (condition : Nat → Condition) (arg : SqlArg) : FilterSql :=
  ⟨filter.conditions ++ [condition filter.nextPlaceholder], filter.args ++ [arg]⟩

def pushStatus (filter : FilterSql) : Option PaymentStatus → FilterSql
  | none => filter
  | some status => filter.push .statusIs (.text status.asStr)

def pushAfter (filter : FilterSql) : Option Int → FilterSql
  | none => filter
  | some after => filter.push .createdFrom (.bigint (toEpoch after))

def pushBefore (filter : FilterSql) : Option Int → FilterSql
  | none => filter
  | some before => filter.push .createdBefore (.bigint (toEpoch before))

def pushConditions (filter : FilterSql) (query : PaymentQuery) : FilterSql :=
  ((filter.pushStatus query.status).pushAfter query.createdAfter).pushBefore query.createdBefore

def whereClause (filter : FilterSql) : String :=
  if filter.conditions.isEmpty then ""
  else " WHERE " ++ String.intercalate " AND " (filter.conditions.map Condition.sql)

end FilterSql

/-- The statement of `list`: the two placeholders are of its limit and its offset. -/
structure ListStatement where
  conditions : List Condition
  limit : Nat
  offset : Nat
  args : List SqlArg

/-- The statement of `count`. -/
structure CountStatement where
  conditions : List Condition
  args : List SqlArg

def listStatement (query : PaymentQuery) : ListStatement :=
  let filter := FilterSql.new.pushConditions query
  let limit : Nat := min (max query.limit 1) maxListLimit
  let limited : FilterSql := { filter with args := filter.args ++ [.bigint (some limit)] }
  { conditions := filter.conditions
    limit := filter.nextPlaceholder
    offset := limited.nextPlaceholder
    args := limited.args ++ [.bigint (some query.offset)] }

def countStatement (query : PaymentQuery) : CountStatement :=
  let filter := FilterSql.new.pushConditions query
  ⟨filter.conditions, filter.args⟩

def ListStatement.sql (s : ListStatement) : String :=
  "SELECT id::text AS id, provider_reference, amount_minor_units, currency, status, " ++
  "EXTRACT(EPOCH FROM created_at)::bigint AS created_at_epoch, " ++
  "EXTRACT(EPOCH FROM updated_at)::bigint AS updated_at_epoch " ++
  "FROM payments.payments" ++ FilterSql.whereClause ⟨s.conditions, s.args⟩ ++
  " ORDER BY created_at DESC, id DESC LIMIT " ++ placeholderSql s.limit ++ " OFFSET " ++
  placeholderSql s.offset

def CountStatement.sql (s : CountStatement) : String :=
  "SELECT COUNT(*) AS total FROM payments.payments" ++
  FilterSql.whereClause ⟨s.conditions, s.args⟩

/-! ### What statements mean -/

/-- `to_timestamp`, which has an error for what is out of range. -/
def toTimestamp (seconds : Int) : Except PaymentRepositoryError Int :=
  if timestampStart ≤ seconds ∧ seconds < timestampEnd then .ok seconds
  else .error (.backend "timestamp out of range")

/-- The argument a placeholder refers to. -/
def argOf (args : List SqlArg) (placeholder : Nat) : Except PaymentRepositoryError SqlArg :=
  match args[placeholder - 1]? with
  | some arg => .ok arg
  | none => .error (.backend ("there is no parameter " ++ placeholderSql placeholder))

/-- A number, or `NULL`. -/
def bigintOf (args : List SqlArg) (placeholder : Nat) :
    Except PaymentRepositoryError (Option Int) := do
  match ← argOf args placeholder with
  | .bigint n => return n
  | .text _ => throw (.backend "invalid input syntax for type bigint")

/-- The rows a condition holds of.  `NULL` compares to nothing. -/
def Condition.meaning (args : List SqlArg) :
    Condition → Except PaymentRepositoryError (PaymentRow → Bool)
  | .statusIs p => do
      match ← argOf args p with
      | .text s => return fun row => row.status.asStr == s
      | .bigint _ => throw (.backend "operator does not exist: text = bigint")
  | .createdFrom p => do
      match ← bigintOf args p with
      | none => return fun _ => false
      | some seconds =>
          let bound ← toTimestamp seconds
          return fun row => decide (bound ≤ row.createdAt)
  | .createdBefore p => do
      match ← bigintOf args p with
      | none => return fun _ => false
      | some seconds =>
          let bound ← toTimestamp seconds
          return fun row => decide (row.createdAt < bound)

/-- The rows all conditions hold of. -/
def meaningOf (args : List SqlArg) :
    List Condition → Except PaymentRepositoryError (PaymentRow → Bool)
  | [] => return fun _ => true
  | c :: conditions => do
      let first ← c.meaning args
      let rest ← meaningOf args conditions
      return fun row => first row && rest row

/-- The rows that the statement answers: those selected, in the order of the statement, from the
offset on and as many as the limit. -/
def ListStatement.run (s : ListStatement) (rows : List PaymentRow) :
    Except PaymentRepositoryError (List PaymentRow) := do
  let selects ← meaningOf s.args s.conditions
  let limit ← bigintOf s.args s.limit
  let offset ← bigintOf s.args s.offset
  let sorted := (rows.filter selects).mergeSort newestFirst
  let skipped := sorted.drop (offset.getD 0).toNat
  return (limit.map fun n => skipped.take n.toNat).getD skipped

def CountStatement.run (s : CountStatement) (rows : List PaymentRow) :
    Except PaymentRepositoryError Nat := do
  let selects ← meaningOf s.args s.conditions
  return (rows.filter selects).length

/-! ### Placeholders -/

/-- The placeholders of a statement are its arguments, each once and in order. -/
theorem placeholders_list (query : PaymentQuery) :
    (listStatement query).conditions.map Condition.placeholder ++
        [(listStatement query).limit, (listStatement query).offset] =
      List.range' 1 (listStatement query).args.length := by
  obtain ⟨status, after, before, limit, offset⟩ := query
  cases status <;> cases after <;> cases before <;> rfl

theorem placeholders_count (query : PaymentQuery) :
    (countStatement query).conditions.map Condition.placeholder =
      List.range' 1 (countStatement query).args.length := by
  obtain ⟨status, after, before, limit, offset⟩ := query
  cases status <;> cases after <;> cases before <;> rfl

/-! ### What a filter selects -/

/-- The filter selects the rows of `f`, whatever is bound after its own arguments. -/
def FilterSql.Means (filter : FilterSql) (f : PaymentRow → Bool) : Prop :=
  ∀ extra, ∃ g, meaningOf (filter.args ++ extra) filter.conditions = .ok g ∧ ∀ row, g row = f row

/-- The condition holds of the rows of `f`, where the argument is bound. -/
def Condition.Means (condition : Nat → Condition) (arg : SqlArg) (f : PaymentRow → Bool) : Prop :=
  ∀ args n, args[n - 1]? = some arg →
    ∃ g, (condition n).meaning args = .ok g ∧ ∀ row, g row = f row

theorem meaningOf_append {args : List SqlArg} {conditions : List Condition} {c : Condition}
    {f g : PaymentRow → Bool} (hf : meaningOf args conditions = .ok f)
    (hg : c.meaning args = .ok g) :
    ∃ h, meaningOf args (conditions ++ [c]) = .ok h ∧ ∀ row, h row = (f row && g row) := by
  induction conditions generalizing f with
  | nil =>
      cases hf
      refine ⟨fun row => g row && true, ?_, fun row => Bool.and_comm _ _⟩
      rw [List.nil_append, meaningOf, hg]
      rfl
  | cons d conditions ih =>
      rw [meaningOf] at hf
      cases hd : d.meaning args with
      | error e => rw [hd] at hf; cases hf
      | ok first =>
          rw [hd] at hf
          cases hrest : meaningOf args conditions with
          | error e => rw [hrest] at hf; cases hf
          | ok rest =>
              rw [hrest] at hf
              cases hf
              obtain ⟨h, hh, heq⟩ := ih hrest
              refine ⟨fun row => first row && h row, ?_, fun row => ?_⟩
              · rw [List.cons_append, meaningOf, hd, hh]
                rfl
              · exact (congrArg (first row && ·) (heq row)).trans (Bool.and_assoc _ _ _).symm

namespace FilterSql
variable {filter : FilterSql} {f : PaymentRow → Bool}

theorem Means.new : Means .new fun _ => true := fun _ => ⟨_, rfl, fun _ => rfl⟩

theorem Means.congr {g : PaymentRow → Bool} (h : Means filter f) (heq : ∀ row, f row = g row) :
    Means filter g :=
  funext heq ▸ h

/-- A condition that is pushed narrows the filter. -/
theorem Means.push (h : Means filter f) {condition : Nat → Condition} {arg : SqlArg}
    {g : PaymentRow → Bool} (hc : Condition.Means condition arg g) :
    Means (filter.push condition arg) fun row => f row && g row := by
  intro extra
  have hargs : (filter.push condition arg).args ++ extra = filter.args ++ (arg :: extra) := by
    rw [FilterSql.push, List.append_assoc]
    rfl
  obtain ⟨f', hf', hfeq⟩ := h (arg :: extra)
  obtain ⟨g', hg', hgeq⟩ := hc (filter.args ++ (arg :: extra)) filter.nextPlaceholder (by
    rw [nextPlaceholder, Nat.add_sub_cancel, List.getElem?_append_right (Nat.le_refl _),
      Nat.sub_self, List.getElem?_cons_zero])
  obtain ⟨h', hh', heq⟩ := meaningOf_append hf' hg'
  exact ⟨h', hargs ▸ hh', fun row => by rw [heq, hfeq, hgeq]⟩

end FilterSql

/-! ### What each condition holds of -/

theorem PaymentStatus.asStr_beq (s t : PaymentStatus) : (s.asStr == t.asStr) = (s == t) := by
  rw [Bool.eq_iff_iff, beq_iff_eq, beq_iff_eq]
  refine ⟨fun h => ?_, congrArg asStr⟩
  have hparse := congrArg PaymentStatus.parse h
  rw [parse_asStr, parse_asStr] at hparse
  exact Except.ok.inj hparse

theorem argOf_of_getElem? {args : List SqlArg} {n : Nat} {arg : SqlArg}
    (h : args[n - 1]? = some arg) : argOf args n = .ok arg := by
  rw [argOf, h]

theorem bigintOf_of_getElem? {args : List SqlArg} {n : Nat} {value : Option Int}
    (h : args[n - 1]? = some (.bigint value)) : bigintOf args n = .ok value := by
  rw [bigintOf, argOf_of_getElem? h]
  rfl

theorem means_statusIs (status : PaymentStatus) :
    Condition.Means .statusIs (.text status.asStr) fun row => row.status == status := by
  intro args n h
  refine ⟨fun row => row.status.asStr == status.asStr, ?_, fun row =>
    PaymentStatus.asStr_beq row.status status⟩
  rw [Condition.meaning, argOf_of_getElem? h]
  rfl

/-- An instant that Postgres can represent. -/
def Representable (t : Int) : Prop := t < fromEpoch timestampEnd

theorem toTimestamp_toEpoch {t seconds : Int} (ht : Representable t)
    (h : toEpoch t = some seconds) : toTimestamp seconds = .ok seconds := by
  rw [toEpoch] at h
  split at h
  · cases h
    refine if_pos ?_
    simp only [Representable, fromEpoch, timestampStart, timestampEnd, nanosPerSec] at ht ⊢
    omega
  · cases h

/-- A condition that compares with a bound holds of the rows on its side of it. -/
theorem means_bound {condition : Nat → Condition} {side : Int → PaymentRow → Bool}
    (hmeaning : ∀ args n, (condition n).meaning args = (do
      match ← bigintOf args n with
      | none => return fun _ => false
      | some seconds =>
          let bound ← toTimestamp seconds
          return side bound))
    {t : Int} (ht : Representable t) :
    Condition.Means condition (.bigint (toEpoch t)) fun row => (toEpoch t).any (side · row) := by
  intro args n h
  cases hepoch : toEpoch t with
  | none =>
      rw [hepoch] at h
      refine ⟨fun _ => false, ?_, fun _ => rfl⟩
      rw [hmeaning, bigintOf_of_getElem? h]
      rfl
  | some seconds =>
      rw [hepoch] at h
      refine ⟨side seconds, ?_, fun _ => rfl⟩
      rw [hmeaning, bigintOf_of_getElem? h]
      change (toTimestamp seconds >>= fun bound => _) = _
      rw [toTimestamp_toEpoch ht hepoch]
      rfl

theorem means_createdFrom {after : Int} (ht : Representable after) :
    Condition.Means .createdFrom (.bigint (toEpoch after))
      fun row => (toEpoch after).any fun e => decide (e ≤ row.createdAt) :=
  means_bound (fun _ _ => rfl) ht

theorem means_createdBefore {before : Int} (ht : Representable before) :
    Condition.Means .createdBefore (.bigint (toEpoch before))
      fun row => (toEpoch before).any fun e => decide (row.createdAt < e) :=
  means_bound (fun _ _ => rfl) ht

/-! ### What the statements select -/

/-- The bounds of a query are instants that Postgres can represent. -/
structure PaymentQuery.Bounded (query : PaymentQuery) : Prop where
  after : ∀ t, query.createdAfter = some t → Representable t
  before : ∀ t, query.createdBefore = some t → Representable t

/-- The conditions of a query select the rows that it matches. -/
theorem means_pushConditions {query : PaymentQuery} (h : query.Bounded) :
    FilterSql.Means (FilterSql.new.pushConditions query) query.selects := by
  obtain ⟨status, after, before, limit, offset⟩ := query
  have hstatus : FilterSql.Means (FilterSql.new.pushStatus status)
      fun row => status.all fun s => row.status == s := by
    cases status with
    | none => exact .new
    | some status =>
        exact (FilterSql.Means.new.push (means_statusIs status)).congr fun row => Bool.true_and _
  have hafter : FilterSql.Means ((FilterSql.new.pushStatus status).pushAfter after)
      fun row => (status.all fun s => row.status == s) &&
        after.all fun t => (toEpoch t).any fun e => decide (e ≤ row.createdAt) := by
    cases after with
    | none => exact hstatus.congr fun row => (Bool.and_true _).symm
    | some after => exact hstatus.push (means_createdFrom (h.after after rfl))
  cases before with
  | none => exact hafter.congr fun row => (Bool.and_true _).symm
  | some before => exact hafter.push (means_createdBefore (h.before before rfl))

/-- **The page.** The statement of `list` answers the rows that the query matches, sorted and cut
to its page. -/
theorem run_listStatement {query : PaymentQuery} (h : query.Bounded) (rows : List PaymentRow) :
    (listStatement query).run rows =
      .ok ((((rows.filter query.selects).mergeSort newestFirst).drop query.offset).take
        (min (max query.limit 1) maxListLimit)) := by
  obtain ⟨g, hg, heq⟩ := means_pushConditions h
    [.bigint (some (min (max query.limit 1) maxListLimit : Nat)), .bigint (some query.offset)]
  have hsame : g = query.selects := funext heq
  have hargs : (listStatement query).args = (FilterSql.new.pushConditions query).args ++
      [.bigint (some (min (max query.limit 1) maxListLimit : Nat)),
        .bigint (some query.offset)] :=
    List.append_assoc _ _ _
  have hlimit : bigintOf (listStatement query).args (listStatement query).limit =
      .ok (some (min (max query.limit 1) maxListLimit : Nat)) := by
    refine bigintOf_of_getElem? ?_
    rw [hargs, listStatement]
    dsimp only
    rw [FilterSql.nextPlaceholder, Nat.add_sub_cancel, List.getElem?_append_right (Nat.le_refl _),
      Nat.sub_self, List.getElem?_cons_zero]
  have hoffset : bigintOf (listStatement query).args (listStatement query).offset =
      .ok (some (query.offset : Nat)) := by
    refine bigintOf_of_getElem? ?_
    rw [hargs, listStatement]
    dsimp only
    rw [FilterSql.nextPlaceholder, Nat.add_sub_cancel, List.length_append, List.length_singleton,
      List.getElem?_append_right (Nat.le_succ _), Nat.succ_sub (Nat.le_refl _), Nat.sub_self]
    rfl
  rw [ListStatement.run, hlimit, hoffset, hargs]
  change (meaningOf _ (FilterSql.new.pushConditions query).conditions >>= _) = _
  rw [hg, hsame]
  rfl

/-- **The total.** The statement of `count` counts the same rows. -/
theorem run_countStatement {query : PaymentQuery} (h : query.Bounded) (rows : List PaymentRow) :
    (countStatement query).run rows = .ok (rows.filter query.selects).length := by
  obtain ⟨g, hg, heq⟩ := means_pushConditions h []
  rw [List.append_nil] at hg
  have hsame : g = query.selects := funext heq
  rw [CountStatement.run]
  change (meaningOf (FilterSql.new.pushConditions query).args
    (FilterSql.new.pushConditions query).conditions >>= _) = _
  rw [hg, hsame]
  rfl

/-! ### The order of a listing -/

/-- Created later, or at the same instant with a larger id. -/
def Newer (a b : PaymentRow) : Prop :=
  b.createdAt < a.createdAt ∨ a.createdAt = b.createdAt ∧ b.id.raw < a.id.raw

theorem newestFirst_iff {a b : PaymentRow} : newestFirst a b = true ↔
    b.createdAt < a.createdAt ∨ a.createdAt = b.createdAt ∧ b.id.raw ≤ a.id.raw := by
  rw [newestFirst, Bool.or_eq_true, Bool.and_eq_true, decide_eq_true_iff, decide_eq_true_iff,
    beq_iff_eq]

theorem newestFirst_trans (a b c : PaymentRow) (hab : newestFirst a b = true)
    (hbc : newestFirst b c = true) : newestFirst a c = true := by
  rw [newestFirst_iff] at hab hbc ⊢
  rcases hab with hab | ⟨hab, hid⟩
  · rcases hbc with hbc | ⟨hbc, -⟩
    · exact .inl (hbc.trans hab)
    · exact .inl (hbc ▸ hab)
  · rcases hbc with hbc | ⟨hbc, hid'⟩
    · exact .inl (hab ▸ hbc)
    · exact .inr ⟨hab.trans hbc, hid'.trans hid⟩

theorem newestFirst_total (a b : PaymentRow) : (newestFirst a b || newestFirst b a) = true := by
  rw [Bool.or_eq_true, newestFirst_iff, newestFirst_iff]
  rcases lt_trichotomy a.createdAt b.createdAt with hlt | heq | hgt
  · exact .inr (.inl hlt)
  · rcases le_total a.id.raw b.id.raw with hle | hle
    · exact .inr (.inr ⟨heq.symm, hle⟩)
    · exact .inl (.inr ⟨heq, hle⟩)
  · exact .inl (.inl hgt)

namespace PayDb
variable {π : Type} (db : PayDb π) (query : PaymentQuery)

/-- The rows that match, sorted. -/
def matching : List PaymentRow :=
  (db.payments.table.rows.filter query.selects).mergeSort newestFirst

theorem mem_matching (row : PaymentRow) :
    row ∈ db.matching query ↔ row ∈ db.payments.table.rows ∧ query.selects row = true := by
  rw [matching, List.mem_mergeSort, List.mem_filter]

theorem length_matching : (db.matching query).length = db.count query := by
  rw [matching, List.length_mergeSort, count]

theorem list_eq : db.list query = (((db.matching query).drop query.offset).take
    (min (max query.limit 1) maxListLimit)).map rowToPayment := rfl

/-- The rows that match come the newest first, and no two of them are alike. -/
theorem pairwise_matching : (db.matching query).Pairwise Newer := by
  have hsorted := List.pairwise_mergeSort newestFirst_trans newestFirst_total
    (db.payments.table.rows.filter query.selects)
  have hids : (db.matching query).Pairwise fun a b => a.id ≠ b.id := by
    have hnodup : ((db.payments.table.rows.filter query.selects).map PaymentRow.id).Nodup :=
      db.payments.table.nodup.sublist (List.filter_sublist.map _)
    have hperm := (List.mergeSort_perm (db.payments.table.rows.filter query.selects)
      newestFirst).map PaymentRow.id
    exact List.pairwise_map.mp (hperm.nodup_iff.mpr hnodup)
  refine (List.pairwise_and_iff.mpr ⟨hsorted, hids⟩).imp fun {a b} h => ?_
  rcases newestFirst_iff.mp h.1 with hlt | ⟨heq, hle⟩
  · exact .inl hlt
  · refine .inr ⟨heq, lt_of_le_of_ne hle fun hraw => h.2 ?_⟩
    exact congrArg PaymentId.mk hraw.symm

end PayDb

/-! ### A query and its statements -/

theorem PaymentQuery.selects_iff {query : PaymentQuery} {row : PaymentRow} :
    query.selects row = true ↔ (∀ status, query.status = some status → row.status = status) ∧
      (∀ t, query.createdAfter = some t → ∃ e, toEpoch t = some e ∧ e ≤ row.createdAt) ∧
      ∀ t, query.createdBefore = some t → ∃ e, toEpoch t = some e ∧ row.createdAt < e := by
  simp only [selects, Bool.and_eq_true, and_assoc, Option.all_eq_true, Option.any_eq_true,
    beq_iff_eq, decide_eq_true_iff]

/-- What the statements of a query answer on the rows of a table. -/
structure PaymentQuery.Stated {π : Type} (query : PaymentQuery) (db : PayDb π) : Prop where
  /-- The page: some of the rows that match, in their order. -/
  page : (listStatement query).run db.payments.table.rows =
    .ok (((db.matching query).drop query.offset).take (min (max query.limit 1) maxListLimit))
  /-- The total: the number of the same rows. -/
  total : (countStatement query).run db.payments.table.rows = .ok (db.matching query).length
  /-- The rows that match. -/
  selected : ∀ row, row ∈ db.matching query ↔ row ∈ db.payments.table.rows ∧
    (∀ status, query.status = some status → row.status = status) ∧
    (∀ t, query.createdAfter = some t → ∃ e, toEpoch t = some e ∧ e ≤ row.createdAt) ∧
    ∀ t, query.createdBefore = some t → ∃ e, toEpoch t = some e ∧ row.createdAt < e
  /-- Each placeholder is the number of one argument. -/
  listed : (listStatement query).conditions.map Condition.placeholder ++
      [(listStatement query).limit, (listStatement query).offset] =
    List.range' 1 (listStatement query).args.length
  counted : (countStatement query).conditions.map Condition.placeholder =
    List.range' 1 (countStatement query).args.length

/-- **Statements.** Within the bounds of Postgres, the two statements of a query select the rows
that it matches. -/
theorem stated_of_bounded {π : Type} (db : PayDb π) {query : PaymentQuery} (h : query.Bounded) :
    query.Stated db where
  page := run_listStatement h _
  total := by
    rw [run_countStatement h, db.length_matching]
    rfl
  selected row := by rw [db.mem_matching, PaymentQuery.selects_iff]
  listed := placeholders_list query
  counted := placeholders_count query

end AuthApp.Payments
