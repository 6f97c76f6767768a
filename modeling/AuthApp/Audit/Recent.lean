import AuthApp.Audit.Store
import AuthApp.Sorted.Ties

/-!
# Audit — the most recent events

`PgAuditRepository::list_recent` sorts the trail by its instants, which are whole seconds, and cuts
it off at the limit.  Events of one second come back in any order.

* `rows_after`: a table of recorded events keeps the order of recording.
* `newest_inMemory`: the answer that is expected is the one of the repository in memory.
* `listRecent_iff`: every answer is the expected one exactly when, as far as the limit reaches, no
  event has the second of the event before it.
* `sameSecond_reordered`: two events of one second, in the wrong order.
-/

namespace AuthApp.Audit
open Interleave Accounts Sorted

/-! ### Reading the trail -/

inductive AuditEventTypeError where
  | unknown (raw : String)
  deriving DecidableEq, Repr

def AuditEventTypeError.display : AuditEventTypeError → String
  | .unknown raw => "unknown audit event type " ++ raw.quote

/-- Parse the text `asStr` writes. -/
def AuditEventType.parse (raw : String) : Except AuditEventTypeError AuditEventType :=
  match raw with
  | "login_succeeded" => .ok .loginSucceeded
  | "login_failed" => .ok .loginFailed
  | "locked_out" => .ok .lockedOut
  | "logged_out" => .ok .loggedOut
  | other => .error (.unknown other)

/-- An event type survives its trip through a TEXT column. -/
theorem AuditEventType.parse_asStr (t : AuditEventType) : parse t.asStr = .ok t := by
  cases t <;> rfl

/-- A stored event, as the repository hands it back. -/
structure AuditEvent where
  id : AuditId
  eventType : AuditEventType
  adminId : Option AdminId
  emailAttempted : Option String
  ip : String
  userAgent : Option String
  occurredAt : Int
  deriving DecidableEq, Repr

def rowToEvent (row : AuditRow) : Except RepositoryError AuditEvent :=
  match AuditEventType.parse row.eventType with
  | .error e => .error (.backend ("stored event_type: " ++ e.display))
  | .ok eventType =>
      .ok
        { id := row.id
          eventType
          adminId := row.adminId
          emailAttempted := row.emailAttempted
          ip := row.ip
          userAgent := row.userAgent
          occurredAt := fromEpoch row.occurredAt }

/-- `ORDER BY occurred_at DESC LIMIT $1`: any arrangement of the rows that the order allows may be
cut off at the limit. -/
def AuditDb.ListRecent (db : AuditDb) (limit : Nat)
    (answer : Except RepositoryError (List AuditEvent)) : Prop :=
  ∃ rows, Arranges AuditRow.occurredAt db.events.rows rows ∧
    answer = (rows.take limit).mapM rowToEvent

/-! ### Recording, one event after another -/

/-- An event to record, and the id that the database draws for it. -/
structure RecordCall where
  uuid : AuditId
  event : NewAuditEvent
  deriving DecidableEq

def AuditDb.recordCall (db : AuditDb) (c : RecordCall) :
    Except RepositoryError AuditId × AuditDb :=
  { db with randomUuid := c.uuid }.record c.event

/-- The trail after the calls. -/
def AuditDb.after (db : AuditDb) : List RecordCall → AuditDb
  | [] => db
  | c :: calls => (db.recordCall c).2.after calls

/-- The calls that are answered an id, in their order. -/
def AuditDb.accepted (db : AuditDb) : List RecordCall → List RecordCall
  | [] => []
  | c :: calls =>
      match (db.recordCall c).1 with
      | .ok _ => c :: (db.recordCall c).2.accepted calls
      | .error _ => (db.recordCall c).2.accepted calls

/-- The whole second of an event. -/
def RecordCall.second (c : RecordCall) : Int := c.event.occurredAt / nanosPerSec

/-- The row of an event that is recorded. -/
def RecordCall.row (c : RecordCall) : AuditRow :=
  ⟨c.uuid, c.event.eventType.asStr, c.event.adminId, c.event.emailAttempted, c.event.ip,
    c.event.userAgent, c.second⟩

/-- The event itself, at its whole second. -/
def RecordCall.stored (c : RecordCall) : AuditEvent :=
  ⟨c.uuid, c.event.eventType, c.event.adminId, c.event.emailAttempted, c.event.ip,
    c.event.userAgent, fromEpoch c.second⟩

/-- The last `limit` recorded events, the last first. -/
def newest (recorded : List RecordCall) (limit : Nat) : List AuditEvent :=
  (recorded.reverse.take limit).map RecordCall.stored

/-! ### The repository in memory -/

/-- The double of the tests: the events in the order they came in, and one id for all. -/
structure InMemoryAudit where
  events : List NewAuditEvent

namespace InMemoryAudit

def record (repo : InMemoryAudit) (event : NewAuditEvent) : InMemoryAudit :=
  ⟨repo.events ++ [event]⟩

def toEvent (e : NewAuditEvent) : AuditEvent where
  id := ⟨"id-1"⟩
  eventType := e.eventType
  adminId := e.adminId
  emailAttempted := e.emailAttempted
  ip := e.ip
  userAgent := e.userAgent
  occurredAt := e.occurredAt

def listRecent (repo : InMemoryAudit) (limit : Nat) : List AuditEvent :=
  (repo.events.reverse.take limit).map toEvent

end InMemoryAudit

/-- An event without its id, at its whole second. -/
def AuditEvent.anonymous (e : AuditEvent) : AuditEvent :=
  { e with id := ⟨"id-1"⟩, occurredAt := fromEpoch (e.occurredAt / nanosPerSec) }

/-- The expected answer is that of the repository in memory, but for the ids and what is below a
second. -/
theorem newest_inMemory (recorded : List RecordCall) (limit : Nat) :
    (newest recorded limit).map AuditEvent.anonymous =
      ((recorded.foldl (fun repo c => repo.record c.event) (InMemoryAudit.mk [])).listRecent
        limit).map AuditEvent.anonymous := by
  have hevents : ∀ repo : InMemoryAudit,
      (recorded.foldl (fun repo c => repo.record c.event) repo).events =
        repo.events ++ recorded.map RecordCall.event := by
    induction recorded with
    | nil => intro repo; simp
    | cons c recorded ih =>
        intro repo
        rw [List.foldl_cons, ih, InMemoryAudit.record, List.append_assoc]
        rfl
  rw [InMemoryAudit.listRecent, hevents, List.nil_append, ← List.map_reverse, ← List.map_take,
    newest, List.map_map, List.map_map, List.map_map]
  refine List.map_congr_left fun c _ => ?_
  have hsecond : fromEpoch (fromEpoch c.second / nanosPerSec) =
      fromEpoch (c.event.occurredAt / nanosPerSec) := by
    simp only [fromEpoch, RecordCall.second, nanosPerSec]
    omega
  exact congrArg (AuditEvent.mk ⟨"id-1"⟩ c.event.eventType c.event.adminId c.event.emailAttempted
    c.event.ip c.event.userAgent) hsecond

/-! ### What the calls leave -/

section After
variable {db : AuditDb}

/-- A call is answered an id, and its row comes last; or it changes nothing. -/
theorem recordCall_cases (db : AuditDb) (c : RecordCall) :
    (∃ id, (db.recordCall c).1 = .ok id ∧ 0 ≤ c.second ∧
      (db.recordCall c).2.events.rows = db.events.rows ++ [c.row]) ∨
    ∃ e, (db.recordCall c).1 = .error e ∧ (db.recordCall c).2.events = db.events := by
  rw [AuditDb.recordCall, AuditDb.record]
  cases hepoch : toEpoch c.event.occurredAt with
  | none => exact .inr ⟨_, rfl, rfl⟩
  | some occurredAt =>
      dsimp only
      split
      · next events hinsert =>
          rw [toEpoch] at hepoch
          split at hepoch
          · next hpos =>
              cases hepoch
              exact .inl ⟨_, rfl, Int.ediv_nonneg hpos (Int.natCast_nonneg _),
                Table.rows_insert? hinsert⟩
          · cases hepoch
      · exact .inr ⟨_, rfl, rfl⟩

/-- A table of recorded events keeps the order of recording. -/
theorem rows_after (db : AuditDb) (calls : List RecordCall) :
    (db.after calls).events.rows = db.events.rows ++ (db.accepted calls).map RecordCall.row := by
  induction calls generalizing db with
  | nil => exact (List.append_nil _).symm
  | cons c calls ih =>
      rw [AuditDb.after, ih, AuditDb.accepted]
      rcases recordCall_cases db c with ⟨id, hok, -, hrows⟩ | ⟨e, herr, hsame⟩
      · rw [hok, hrows, List.append_assoc]
        rfl
      · rw [herr, hsame]

theorem second_nonneg {db : AuditDb} {calls : List RecordCall} :
    ∀ c ∈ db.accepted calls, 0 ≤ c.second := by
  induction calls generalizing db with
  | nil => exact fun c hc => (nomatch hc)
  | cons a calls ih =>
      intro c hc
      rw [AuditDb.accepted] at hc
      rcases recordCall_cases db a with ⟨id, hok, hpos, -⟩ | ⟨e, herr, -⟩
      · rw [hok] at hc
        rcases List.mem_cons.mp hc with rfl | hc
        · exact hpos
        · exact ih c hc
      · rw [herr] at hc
        exact ih c hc

theorem accepted_sublist (db : AuditDb) (calls : List RecordCall) :
    (db.accepted calls).Sublist calls := by
  induction calls generalizing db with
  | nil => exact List.Sublist.slnil
  | cons c calls ih =>
      rw [AuditDb.accepted]
      split
      · exact (ih _).cons_cons c
      · exact (ih _).cons c

end After

/-! ### Reading it back -/

/-- The row an event was read from. -/
def AuditEvent.row (e : AuditEvent) : AuditRow :=
  ⟨e.id, e.eventType.asStr, e.adminId, e.emailAttempted, e.ip, e.userAgent,
    e.occurredAt / nanosPerSec⟩

theorem row_stored {c : RecordCall} (h : 0 ≤ c.second) : c.stored.row = c.row := by
  have hsecond : fromEpoch c.second / nanosPerSec = c.second := by
    simp only [fromEpoch, nanosPerSec]
    omega
  rw [AuditEvent.row, RecordCall.stored, hsecond]
  rfl

/-- The rows of recorded events are read without an error. -/
theorem mapM_rowToEvent (cs : List RecordCall) :
    (cs.map RecordCall.row).mapM rowToEvent = .ok (cs.map RecordCall.stored) := by
  induction cs with
  | nil => rfl
  | cons c cs ih =>
      have hrow : rowToEvent c.row = .ok c.stored := by
        rw [rowToEvent, RecordCall.row, AuditEventType.parse_asStr]
        rfl
      rw [List.map_cons, List.mapM_cons, hrow, ih]
      rfl

/-- Every answer is the expected one, and that one is an answer. -/
def ListsNewest (db : AuditDb) (recorded : List RecordCall) (limit : Nat) : Prop :=
  ∀ answer, db.ListRecent limit answer ↔ answer = .ok (newest recorded limit)

section Lists
variable {recorded : List RecordCall} {limit : Nat}

theorem descending_rows (h : recorded.Pairwise fun a b => a.second ≤ b.second) :
    Descending AuditRow.occurredAt (recorded.reverse.map RecordCall.row) := by
  rw [Descending, List.pairwise_map, List.pairwise_reverse]
  exact h

theorem distinct_rows : Distinct AuditRow.occurredAt limit (recorded.reverse.map RecordCall.row) ↔
    Distinct RecordCall.second limit recorded.reverse := by
  constructor
  · intro h i hi a b ha hb
    exact h i hi a.row b.row (by rw [List.getElem?_map, ha]; rfl)
      (by rw [List.getElem?_map, hb]; rfl)
  · intro h i hi a b ha hb
    rw [List.getElem?_map] at ha hb
    obtain ⟨c, hc, rfl⟩ := Option.map_eq_some_iff.mp ha
    obtain ⟨d, hd, rfl⟩ := Option.map_eq_some_iff.mp hb
    exact h i hi c d hc hd

/-- The expected answer, read from the rows. -/
theorem mapM_newest : ((recorded.reverse.map RecordCall.row).take limit).mapM rowToEvent =
    .ok (newest recorded limit) := by
  rw [← List.map_take, mapM_rowToEvent, newest]

/-- Rows that are read as the expected answer are the rows it was recorded in. -/
theorem take_of_mapM {rows : List AuditRow} (hpos : ∀ c ∈ recorded, 0 ≤ c.second)
    (hmem : ∀ r ∈ rows, ∃ c ∈ recorded, c.row = r)
    (h : rows.mapM rowToEvent = .ok (newest recorded limit)) :
    rows = (recorded.reverse.map RecordCall.row).take limit := by
  obtain ⟨cs, hcs, rfl⟩ : ∃ cs : List RecordCall,
      (∀ c ∈ cs, c ∈ recorded) ∧ cs.map RecordCall.row = rows := by
    clear h
    induction rows with
    | nil => exact ⟨[], fun c hc => (nomatch hc), rfl⟩
    | cons r rows ih =>
        obtain ⟨c, hc, rfl⟩ := hmem r List.mem_cons_self
        obtain ⟨cs, hcs, rfl⟩ := ih fun r hr => hmem r (List.mem_cons_of_mem _ hr)
        refine ⟨c :: cs, fun d hd => ?_, rfl⟩
        rcases List.mem_cons.mp hd with rfl | hd
        · exact hc
        · exact hcs d hd
  have hback : ∀ l : List RecordCall, (∀ c ∈ l, c ∈ recorded) →
      (l.map RecordCall.stored).map AuditEvent.row = l.map RecordCall.row := by
    intro l hl
    rw [List.map_map]
    exact List.map_congr_left fun c hc => row_stored (hpos c (hl c hc))
  rw [mapM_rowToEvent, newest] at h
  rw [← hback cs hcs, Except.ok.inj h, ← List.map_take]
  exact hback _ fun c hc => List.mem_reverse.mp (List.mem_of_mem_take hc)

/-- **Recent events.** A trail of events whose seconds never go back lists them newest first,
whatever the arrangement, exactly when, as far as the limit reaches, no event has the second of
the one recorded before it. -/
theorem listsNewest_iff {db : AuditDb} (hrows : db.events.rows = recorded.map RecordCall.row)
    (hpos : ∀ c ∈ recorded, 0 ≤ c.second)
    (hordered : recorded.Pairwise fun a b => a.second ≤ b.second) :
    ListsNewest db recorded limit ↔ Distinct RecordCall.second limit recorded.reverse := by
  have hreverse : (recorded.reverse.map RecordCall.row).Perm db.events.rows := by
    rw [hrows]
    exact (List.reverse_perm recorded).map _
  have hdesc := descending_rows hordered
  have hnodup : (recorded.reverse.map RecordCall.row).Nodup :=
    hreverse.nodup_iff.mpr (List.Nodup.of_map _ db.events.nodup)
  rw [← distinct_rows, ← take_eq_iff hnodup hdesc]
  constructor
  · intro h rows harranges
    refine take_of_mapM hpos (fun r hr => ?_) ((h _).mp
      ⟨rows, ⟨harranges.perm.trans hreverse, harranges.descending⟩, rfl⟩)
    obtain ⟨c, hc, rfl⟩ := List.mem_map.mp (harranges.perm.mem_iff.mp (List.mem_of_mem_take hr))
    exact ⟨c, List.mem_reverse.mp hc, rfl⟩
  · intro h answer
    constructor
    · rintro ⟨rows, harranges, rfl⟩
      rw [h rows ⟨harranges.perm.trans hreverse.symm, harranges.descending⟩, mapM_newest]
    · rintro rfl
      exact ⟨_, ⟨hreverse, hdesc⟩, mapM_newest.symm⟩

end Lists

/-- **Recent events.** After any calls of `record`, at instants that never go back, on an empty
trail: every answer of `list_recent` is the last recorded events, the last first, exactly when, as
far as the limit reaches, no event has the second of the one recorded before it. -/
theorem listRecent_iff (db : AuditDb) (hempty : db.events.rows = []) (calls : List RecordCall)
    (hordered : calls.Pairwise fun a b => a.event.occurredAt ≤ b.event.occurredAt) (limit : Nat) :
    ListsNewest (db.after calls) (db.accepted calls) limit ↔
      Distinct RecordCall.second limit (db.accepted calls).reverse := by
  refine listsNewest_iff ?_ second_nonneg ?_
  · rw [rows_after, hempty, List.nil_append]
  · refine (hordered.sublist (accepted_sublist db calls)).imp fun h => ?_
    exact Int.ediv_le_ediv (by decide) h

/-! ### Two logins in one second -/

def emptyTrail : AuditDb := ⟨.empty, ⟨"event-1"⟩⟩

def failedAttempt : RecordCall :=
  ⟨⟨"event-1"⟩, ⟨.loginFailed, none, some "ed@example.com", "10.0.0.1", none, fromSecs 60⟩⟩

/-- A sign-in, so many nanoseconds later. -/
def signedInAfter (nanos : Nat) : RecordCall :=
  ⟨⟨"event-2"⟩, ⟨.loginSucceeded, some ⟨"admin-1"⟩, some "ed@example.com", "10.0.0.1", none,
    fromSecs 60 + nanos⟩⟩

/-- A failed attempt, and a sign-in half a second later. -/
def sameSecond : List RecordCall := [failedAttempt, signedInAfter 500000000]

/-- With a limit of one, the older of the two may be the answer. -/
theorem sameSecond_reordered :
    sameSecond.Pairwise (fun a b => a.event.occurredAt ≤ b.event.occurredAt) ∧
      emptyTrail.accepted sameSecond = sameSecond ∧
      (emptyTrail.after sameSecond).ListRecent 1 (.ok [failedAttempt.stored]) ∧
      ¬ ListsNewest (emptyTrail.after sameSecond) (emptyTrail.accepted sameSecond) 1 := by
  have hanswer : (emptyTrail.after sameSecond).ListRecent 1 (.ok [failedAttempt.stored]) := by
    refine ⟨sameSecond.map RecordCall.row, ⟨List.Perm.refl _, ?_⟩, rfl⟩
    exact List.pairwise_pair.mpr (by decide)
  refine ⟨List.pairwise_pair.mpr (by decide), rfl, hanswer, fun h => ?_⟩
  exact absurd (Except.ok.inj ((h _).mp hanswer)) (by decide)

/-- A failed attempt, and a sign-in a second later. -/
def nextSecond : List RecordCall := [failedAttempt, signedInAfter nanosPerSec]

/-- With a limit of one, the newer of the two is the answer. -/
theorem listRecent_nextSecond :
    ListsNewest (emptyTrail.after nextSecond) (emptyTrail.accepted nextSecond) 1 := by
  refine (listRecent_iff emptyTrail rfl nextSecond (List.pairwise_pair.mpr (by decide)) 1).mpr ?_
  intro i hi a b ha hb
  obtain rfl : i = 0 := by omega
  cases ha
  cases hb
  decide

end AuthApp.Audit
