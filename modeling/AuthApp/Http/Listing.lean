import AuthApp.Http.Api
import AuthApp.Paged.Basic
import AuthApp.Payments.Fake
import AuthApp.Payments.Listing

/-!
# Http — the list of transactions

`GET /transactions`: a page of the payments that match, and how many match in all.  A client walks
through the pages by adding the limit that each response reports to the offset.

* `askPage_eq`: what a request for a page is answered.
* `pages_tile`: the pages of a walk are the payments that match, each once, the newest first.
* `walks_fall_short`: a walk that ends at an offset which is no `u32`, and a bound before the epoch.
-/

namespace AuthApp.Http
open Interleave Payments Paged

variable {π : Type}

/-! ### The handler -/

/-- The query string, its numbers not yet of any size. -/
structure ListParams where
  status : Option String
  createdAfter : Option Int
  createdBefore : Option Int
  limit : Option Int
  offset : Option Int
  deriving DecidableEq, Repr

/-- The bounds are of `i64`, the limit and the offset of `u32`. -/
structure ListQuery where
  status : Option String
  createdAfter : Option Int
  createdBefore : Option Int
  limit : Option Nat
  offset : Option Nat
  deriving DecidableEq, Repr

def i64? (n : Int) : Option Int := if -2 ^ 63 ≤ n ∧ n < 2 ^ 63 then some n else none

def u32? (n : Int) : Option Nat := if 0 ≤ n ∧ n < 2 ^ 32 then some n.toNat else none

/-- `Query<ListQuery>`, unless a number does not fit. -/
def ListParams.extract (params : ListParams) : Option ListQuery := do
  let createdAfter ← params.createdAfter.mapM i64?
  let createdBefore ← params.createdBefore.mapM i64?
  let limit ← params.limit.mapM u32?
  let offset ← params.offset.mapM u32?
  return ⟨params.status, createdAfter, createdBefore, limit, offset⟩

/-- Whole seconds since the epoch, none before it. -/
def epochSecs (time : Int) : Nat := ((durationSince time 0).map asSecs).getD 0

structure TransactionOut where
  id : String
  providerReference : Option String
  amountMinorUnits : Int
  currency : String
  status : String
  createdAtEpoch : Nat
  updatedAtEpoch : Nat
  deriving DecidableEq, Repr

def TransactionOut.of (p : Payment) : TransactionOut where
  id := p.id.raw
  providerReference := p.providerReference.map ProviderReference.raw
  amountMinorUnits := p.amount.minorUnits
  currency := String.ofList p.amount.currency.bytes
  status := p.status.asStr
  createdAtEpoch := epochSecs p.createdAt
  updatedAtEpoch := epochSecs p.updatedAt

/-- One page, with the limit and the offset that were applied. -/
structure TransactionPage where
  items : List TransactionOut
  total : Nat
  limit : Nat
  offset : Nat
  deriving DecidableEq, Repr

def defaultLimit : Nat := 50

def maxLimit : Nat := 200

/-- List payments, filtered and paged. -/
def listTransactions (q : ListQuery) : Prog paySig (JsonResponse TransactionPage) := do
  match q.status.mapM PaymentStatus.parse with
  | .error _ => return ApiError.validation [("status", "unknown payment status")]
  | .ok status =>
      let limit := min (max (q.limit.getD defaultLimit) 1) maxLimit
      let offset := q.offset.getD 0
      let query : PaymentQuery :=
        { status
          createdAfter := q.createdAfter.map fromEpoch
          createdBefore := q.createdBefore.map fromEpoch
          limit
          offset }
      match ← PaymentsService.list query with
      | .error _ => return { ApiError.internal with }
      | .ok page =>
          return {
            status := 200
            error := none
            location := none
            setCookies := []
            body := some ⟨page.items.map TransactionOut.of, page.total, limit, offset⟩ }

/-- `GET /transactions`: a query string that is not understood is refused before the handler. -/
def listRoute (params : ListParams) : Prog paySig (JsonResponse TransactionPage) :=
  match params.extract with
  | none => return { status := 400, error := none, location := none, setCookies := [] }
  | some q => listTransactions q

/-! ### Asking for one page -/

/-- A status, two bounds, and the limit that is asked for. -/
structure ListFilter where
  status : Option PaymentStatus
  createdAfter : Option Int
  createdBefore : Option Int
  limit : Option Nat
  deriving DecidableEq

namespace ListFilter

/-- The query string for one page. -/
def params (f : ListFilter) (offset : Nat) : ListParams where
  status := f.status.map PaymentStatus.asStr
  createdAfter := f.createdAfter
  createdBefore := f.createdBefore
  limit := f.limit.map Int.ofNat
  offset := some offset

/-- The limit that is applied. -/
def pageLimit (f : ListFilter) : Nat := min (max (f.limit.getD defaultLimit) 1) maxLimit

def query (f : ListFilter) (offset : Nat) : PaymentQuery where
  status := f.status
  createdAfter := f.createdAfter.map fromEpoch
  createdBefore := f.createdBefore.map fromEpoch
  limit := f.pageLimit
  offset := offset

/-- The payments that are asked for.  A bound before the epoch is the epoch. -/
structure Matches (f : ListFilter) (row : PaymentRow) : Prop where
  status : ∀ status, f.status = some status → row.status = status
  after : ∀ after, f.createdAfter = some after → max after 0 ≤ row.createdAt
  before : ∀ before, f.createdBefore = some before → row.createdAt < max before 0

/-- The payments that are asked for, taken literally. -/
structure AsksFor (f : ListFilter) (row : PaymentRow) : Prop where
  status : ∀ status, f.status = some status → row.status = status
  after : ∀ after, f.createdAfter = some after → after ≤ row.createdAt
  before : ∀ before, f.createdBefore = some before → row.createdAt < before

/-- A payment from the epoch on is matched when it is asked for. -/
theorem matches_iff {f : ListFilter} {row : PaymentRow} (h : 0 ≤ row.createdAt) :
    f.Matches row ↔ f.AsksFor row := by
  refine ⟨fun hm => ⟨hm.status, fun t ht => ?_, fun t ht => ?_⟩,
    fun ha => ⟨ha.status, fun t ht => max_le (ha.after t ht) h, fun t ht => ?_⟩⟩
  · exact (le_max_left t 0).trans (hm.after t ht)
  · have hlt := hm.before t ht
    omega
  · exact (ha.before t ht).trans_le (le_max_left t 0)

/-- The bounds are seconds that Postgres can represent, and the limit is a `u32`. -/
structure Bounded (f : ListFilter) : Prop where
  after : ∀ after, f.createdAfter = some after → timestampStart ≤ after ∧ after < timestampEnd
  before : ∀ before, f.createdBefore = some before →
    timestampStart ≤ before ∧ before < timestampEnd
  limit : ∀ limit, f.limit = some limit → limit < 2 ^ 32

end ListFilter

/-- The page that a request is answered, if it is answered one. -/
def askPage (P : PaymentProvider π) (db : PayDb π) (f : ListFilter) (offset : Nat) :
    Option TransactionPage :=
  ((listRoute (f.params offset)).run (PayDb.serve P) db).1.body

theorem i64?_of_bounded {bound : Option Int}
    (h : ∀ t, bound = some t → timestampStart ≤ t ∧ t < timestampEnd) :
    bound.mapM i64? = some bound := by
  cases bound with
  | none => rfl
  | some t =>
      have hfits : i64? t = some t := by
        have ht := h t rfl
        simp only [timestampStart, timestampEnd] at ht
        exact if_pos ⟨by omega, by omega⟩
      rw [Option.mapM_some, hfits]
      rfl

theorem u32?_ofNat {n : Nat} (h : n < 2 ^ 32) : u32? n = some n := by
  rw [u32?, if_pos ⟨Int.natCast_nonneg n, by omega⟩, Int.toNat_natCast]

theorem u32?_of_limit {limit : Option Nat} (h : ∀ n, limit = some n → n < 2 ^ 32) :
    (limit.map Int.ofNat).mapM u32? = some limit := by
  cases limit with
  | none => rfl
  | some n =>
      have hfits : u32? (Int.ofNat n) = some n := u32?_ofNat (h n rfl)
      rw [Option.map_some, Option.mapM_some, hfits]
      rfl

theorem mapM_parse (status : Option PaymentStatus) :
    (status.map PaymentStatus.asStr).mapM PaymentStatus.parse = .ok status := by
  cases status with
  | none => rfl
  | some status =>
      rw [Option.map_some, Option.mapM_some, PaymentStatus.parse_asStr]
      rfl

section Ask
variable {P : PaymentProvider π} {db : PayDb π} {f : ListFilter} {offset : Nat}

theorem extract_params (hf : f.Bounded) (hoffset : offset < 2 ^ 32) :
    (f.params offset).extract = some ⟨f.status.map PaymentStatus.asStr, f.createdAfter,
      f.createdBefore, f.limit, some offset⟩ := by
  have hoffset' : (some (offset : Int)).mapM u32? = some (some offset) := by
    rw [Option.mapM_some, u32?_ofNat hoffset]
    rfl
  rw [ListParams.extract, ListFilter.params]
  dsimp only
  rw [i64?_of_bounded hf.after, i64?_of_bounded hf.before, u32?_of_limit hf.limit, hoffset']
  rfl

theorem extract_params_large (hoffset : 2 ^ 32 ≤ offset) : (f.params offset).extract = none := by
  have hoffset' : (some (offset : Int)).mapM u32? = none := by
    have hlarge : u32? offset = none := if_neg (by omega)
    rw [Option.mapM_some, hlarge]
    rfl
  rw [ListParams.extract, ListFilter.params]
  dsimp only
  rw [hoffset']
  cases f.createdAfter.mapM i64? with
  | none => rfl
  | some after =>
      cases f.createdBefore.mapM i64? with
      | none => rfl
      | some before => cases (f.limit.map Int.ofNat).mapM u32? <;> rfl

/-- **One page.** A request whose offset is a `u32` is answered its page. -/
theorem askPage_eq (hf : f.Bounded) (hoffset : offset < 2 ^ 32) :
    askPage P db f offset = some
      { items := (db.list (f.query offset)).map TransactionOut.of
        total := db.count (f.query offset)
        limit := f.pageLimit
        offset } := by
  rw [askPage, listRoute, extract_params hf hoffset]
  dsimp only
  rw [listTransactions, mapM_parse]
  rfl

theorem askPage_large (hoffset : 2 ^ 32 ≤ offset) : askPage P db f offset = none := by
  rw [askPage, listRoute, extract_params_large hoffset]
  rfl

/-- The rows that match are those that are asked for. -/
theorem selects_query_iff {row : PaymentRow} :
    (f.query offset).selects row = true ↔ f.Matches row := by
  have hepoch : ∀ t, toEpoch (fromEpoch t) = some (max t 0) := by
    intro t
    have hsame : fromEpoch t = fromEpoch (max t 0) := by
      rw [fromEpoch, fromEpoch, max_eq_left (le_max_right t 0)]
    rw [hsame, toEpoch_fromEpoch (le_max_right _ _)]
  rw [PaymentQuery.selects_iff]
  constructor
  · rintro ⟨hstatus, hafter, hbefore⟩
    refine ⟨hstatus, fun after h => ?_, fun before h => ?_⟩
    · obtain ⟨e, he, hle⟩ := hafter (fromEpoch after) (by rw [ListFilter.query, h]; rfl)
      rw [hepoch] at he
      exact Option.some.inj he ▸ hle
    · obtain ⟨e, he, hlt⟩ := hbefore (fromEpoch before) (by rw [ListFilter.query, h]; rfl)
      rw [hepoch] at he
      exact Option.some.inj he ▸ hlt
  · intro h
    refine ⟨h.status, fun t ht => ?_, fun t ht => ?_⟩
    · obtain ⟨after, hafter, rfl⟩ := Option.map_eq_some_iff.mp ht
      exact ⟨_, hepoch after, h.after after hafter⟩
    · obtain ⟨before, hbefore, rfl⟩ := Option.map_eq_some_iff.mp ht
      exact ⟨_, hepoch before, h.before before hbefore⟩

/-- The two clamps of the limit agree. -/
theorem clamp_pageLimit : min (max f.pageLimit 1) maxListLimit = f.pageLimit := by
  simp only [ListFilter.pageLimit, maxListLimit, maxLimit]
  omega

variable (P db) in
/-- The pages are cut out of the rows that match. -/
theorem cutsOut (hf : f.Bounded) :
    CutsOut (askPage P db f) TransactionPage.items TransactionPage.limit
      ((db.matching (f.query 0)).map (TransactionOut.of ∘ rowToPayment)) f.pageLimit
      (2 ^ 32) where
  pos := by
    simp only [ListFilter.pageLimit, maxLimit]
    omega
  asked offset hoffset := by
    refine ⟨_, askPage_eq hf hoffset, ?_, rfl⟩
    dsimp only
    rw [db.list_eq, List.map_map, ← List.map_drop, ← List.map_take]
    exact congrArg (fun n => (((db.matching (f.query 0)).drop offset).take n).map
      (TransactionOut.of ∘ rowToPayment)) clamp_pageLimit
  refused _ hoffset := askPage_large hoffset

end Ask

/-! ### Every page -/

/-- The walk of a client through the pages, from the first on. -/
abbrev PageWalk (P : PaymentProvider π) (db : PayDb π) (f : ListFilter)
    (pages : List TransactionPage) : Prop :=
  Walk (askPage P db f) TransactionPage.items TransactionPage.limit 0 pages

/-- The pages of a walk, and the rows that they show. -/
structure Tiles (P : PaymentProvider π) (db : PayDb π) (f : ListFilter)
    (pages : List TransactionPage) (rows : List PaymentRow) : Prop where
  walk : PageWalk P db f pages
  only : ∀ other, PageWalk P db f other → other = pages
  items : pages.flatMap TransactionPage.items = rows.map (TransactionOut.of ∘ rowToPayment)
  sorted : rows.Pairwise Newer
  matching : ∀ row, row ∈ rows ↔ row ∈ db.payments.table.rows ∧ f.Matches row
  asked : (∀ row ∈ db.payments.table.rows, 0 ≤ row.createdAt) →
    ∀ row, row ∈ rows ↔ row ∈ db.payments.table.rows ∧ f.AsksFor row
  total : ∀ page ∈ pages, page.total = rows.length
  ends : (∃ page, pages.getLast? = some page ∧ page.items = []) ∨
    2 ^ 32 ≤ (pages.map TransactionPage.limit).sum

/-- **Tiling.** A walk through the pages shows every payment that matches once, the newest first,
each page with their number; it ends with an empty page, or where the next offset is no `u32`. And
the statements behind the pages select the rows that their query matches. -/
theorem pages_tile (P : PaymentProvider π) (db : PayDb π)
    (hrows : db.payments.table.rows.length < 2 ^ 32) (f : ListFilter) (hf : f.Bounded) :
    (∃ pages rows, Tiles P db f pages rows) ∧
      ∀ query : PaymentQuery, query.Bounded → query.Stated db := by
  refine ⟨?_, fun query => stated_of_bounded db⟩
  have hcuts := cutsOut P db hf
  have hlength : (db.matching (f.query 0)).length < 2 ^ 32 := by
    rw [db.length_matching, PayDb.count]
    exact (List.length_filter_le _ _).trans_lt hrows
  obtain ⟨pages, hwalk, htiles⟩ := hcuts.tiles (by rw [List.length_map]; exact hlength.le) 0
  have hmatching : ∀ row, row ∈ db.matching (f.query 0) ↔
      row ∈ db.payments.table.rows ∧ f.Matches row := by
    intro row
    rw [db.mem_matching, selects_query_iff]
  refine ⟨pages, db.matching (f.query 0), hwalk, fun other h => h.unique hwalk, htiles,
    db.pairwise_matching _, hmatching, fun hpos row => ?_, ?_, ?_⟩
  · rw [hmatching]
    exact and_congr_right fun hrow => ListFilter.matches_iff (hpos row hrow)
  · refine hwalk.all fun offset page hask => ?_
    rcases Nat.lt_or_ge offset (2 ^ 32) with hlt | hge
    · rw [askPage_eq hf hlt] at hask
      rw [db.length_matching, ← Option.some.inj hask]
      rfl
    · rw [askPage_large hge] at hask
      cases hask
  · rcases hwalk.ends with hlast | hrefused
    · exact .inl hlast
    · refine .inr (Nat.not_lt.mp fun hlt => ?_)
      rw [Nat.zero_add, askPage_eq hf hlt] at hrefused
      cases hrefused

/-! ### Tables of many payments -/

/-- The payment number `n`, whose id has `n` letters. -/
def numbered (n : Nat) : PaymentRow :=
  { samplePayment .captured with
    id := ⟨String.ofList (List.replicate n 'a')⟩
    providerReference := none }

theorem numbered_injective : Function.Injective fun n => (numbered n).id := by
  intro n m h
  have hchars := String.ofList_injective (PaymentId.mk.inj h)
  rw [← List.length_replicate (n := n) (a := 'a'), hchars, List.length_replicate]

/-- The database of so many payments. -/
def manyPayments (provider : π) (n : Nat) : PayDb π where
  payments :=
    { table :=
        { rows := (List.range n).map numbered
          nodup := by
            rw [List.map_map]
            exact List.nodup_range.map numbered_injective }
      refs := by
        intro r hr s hs b hb
        obtain ⟨i, -, rfl⟩ := List.mem_map.mp hr
        cases hb }
  history := []
  webhookEvents := .empty
  provider
  randomUuid := ⟨""⟩
  clock := 0

theorem length_manyPayments (provider : π) (n : Nat) :
    (manyPayments provider n).payments.table.rows.length = n := by
  rw [manyPayments]
  dsimp only
  rw [List.length_map, List.length_range]

/-- No filter, and the limit that is applied when none is asked for. -/
def everything : ListFilter := ⟨none, none, none, none⟩

theorem everything_bounded : everything.Bounded where
  after _ h := by cases h
  before _ h := by cases h
  limit _ h := by cases h

theorem length_matching_everything (n : Nat) :
    ((manyPayments () n).matching (everything.query 0)).length = n := by
  rw [PayDb.length_matching, PayDb.count, List.filter_eq_self.mpr fun row _ => ?_,
    length_manyPayments]
  exact selects_query_iff.mpr
    ⟨fun _ h => (by cases h), fun _ h => (by cases h), fun _ h => (by cases h)⟩

/-- A hundred and twenty payments fill two pages, and a third in part. -/
theorem pages_tile_many :
    2 * defaultLimit < (manyPayments FakePaymentProvider.new 120).payments.table.rows.length ∧
      (∃ pages rows, Tiles FakePaymentProvider.port (manyPayments .new 120) everything pages rows) ∧
      ∀ query : PaymentQuery, query.Bounded →
        query.Stated (manyPayments FakePaymentProvider.new 120) := by
  refine ⟨?_, pages_tile FakePaymentProvider.port (manyPayments .new 120) ?_ everything
    everything_bounded⟩
  · rw [length_manyPayments]
    decide
  · rw [length_manyPayments]
    decide

/-- Where the last page ends beyond the last offset, the walk is refused and meets no empty page. -/
theorem refused_of_many {n : Nat} (hn : n < 2 ^ 32)
    (hin : ∀ offset < 2 ^ 32, defaultLimit ∣ offset → offset < n) (P : PaymentProvider Unit) :
    ∃ pages, PageWalk P (manyPayments () n) everything pages ∧ (∀ page ∈ pages, page.items ≠ []) ∧
      askPage P (manyPayments () n) everything (pages.map TransactionPage.limit).sum = none := by
  have hcuts := cutsOut P (manyPayments () n) everything_bounded
  have hlength : (((manyPayments () n).matching (everything.query 0)).map
      (TransactionOut.of ∘ rowToPayment)).length = n := by
    rw [List.length_map, length_matching_everything]
  obtain ⟨pages, hwalk, -⟩ := hcuts.tiles (by rw [hlength]; exact hn.le) 0
  have hfull : ∀ page ∈ pages, page.items ≠ [] :=
    hcuts.items_ne_nil (fun offset hoffset hdvd => hlength.symm ▸ hin offset hoffset hdvd) hwalk
      (Nat.dvd_zero _)
  refine ⟨pages, hwalk, hfull, ?_⟩
  rcases hwalk.ends with ⟨page, hlast, hnil⟩ | hrefused
  · exact absurd hnil (hfull page (List.mem_of_getLast? hlast))
  · rwa [Nat.zero_add] at hrefused

/-- With 4294967295 payments, the last page starts at 4294967250, and the walk goes on to
4294967300, which is refused. -/
theorem lastOffset_refused (P : PaymentProvider Unit) : ∃ pages,
    PageWalk P (manyPayments () 4294967295) everything pages ∧ (∀ page ∈ pages, page.items ≠ []) ∧
      askPage P (manyPayments () 4294967295) everything
        (pages.map TransactionPage.limit).sum = none := by
  refine refused_of_many (by decide) (fun offset hlt hdvd => ?_) P
  simp only [defaultLimit] at hdvd
  omega

/-- A payment of 1969. -/
def beforeEpoch : PaymentRow := { samplePayment .captured with createdAt := -30 }

/-- The payments since half a minute before. -/
def sinceBefore : ListFilter := ⟨none, some (-60), none, none⟩

theorem sinceBefore_bounded : sinceBefore.Bounded where
  after _ h := by cases h; decide
  before _ h := by cases h
  limit _ h := by cases h

/-- A walk need not come to an empty page, and a bound before the epoch hides payments. -/
theorem walks_fall_short :
    ((manyPayments () 4294967295).payments.table.rows.length < 2 ^ 32 ∧ everything.Bounded ∧
      ∀ P, ∃ pages, PageWalk P (manyPayments () 4294967295) everything pages ∧
        (∀ page ∈ pages, page.items ≠ []) ∧
        askPage P (manyPayments () 4294967295) everything
          (pages.map TransactionPage.limit).sum = none) ∧
    sinceBefore.Bounded ∧ sinceBefore.AsksFor beforeEpoch ∧
      ∀ P, (askPage P (.single beforeEpoch [] () 0) sinceBefore 0).map TransactionPage.total =
        some 0 := by
  refine ⟨⟨?_, everything_bounded, lastOffset_refused⟩, sinceBefore_bounded,
    ⟨fun _ h => (nomatch h), fun t h => ?_, fun _ h => (nomatch h)⟩, fun P => ?_⟩
  · rw [length_manyPayments]
    decide
  · cases h
    decide
  · rw [askPage_eq sinceBefore_bounded (by decide)]
    rfl

end AuthApp.Http
