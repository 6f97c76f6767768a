import AuthApp.Interleave.Program
import AuthApp.Sessions.Session
import AuthApp.Table.Keyed

/-!
# Sessions — the Postgres store

The table of sessions, what one call of its adapter does to it, and the signature of those calls
as atomic operations, together with the token generator and the clock.  Instants cross the
boundary as whole epoch seconds.
-/

namespace AuthApp.Sessions
open Interleave Accounts

/-! ### Rows -/

/-- A row of `admin_sessions`. -/
structure SessionRow where
  token : String
  adminId : AdminId
  role : String
  csrfToken : String
  createdAt : Int
  lastSeenAt : Int
  absoluteExpiresAt : Int
  deriving DecidableEq, Repr

/-- The row, last seen at another second. -/
def SessionRow.seenAt (row : SessionRow) (secs : Int) : SessionRow :=
  { row with lastSeenAt := secs }

def rowToSession (row : SessionRow) : Except RepositoryError Session :=
  match Role.parse row.role with
  | .error e => .error (.backend ("stored role " ++ row.role.quote ++ ": " ++ e.display))
  | .ok role =>
      .ok
        { token := ⟨row.token⟩
          adminId := row.adminId
          role
          csrfToken := ⟨row.csrfToken⟩
          createdAt := fromEpoch row.createdAt
          absoluteExpiresAt := fromEpoch row.absoluteExpiresAt
          lastSeenAt := fromEpoch row.lastSeenAt }

theorem rowToSession_seenAt {row : SessionRow} {session : Session}
    (h : rowToSession row = .ok session) (secs : Int) :
    rowToSession (row.seenAt secs) = .ok { session with lastSeenAt := fromEpoch secs } := by
  rw [rowToSession] at h
  split at h
  · cases h
  · next hrole =>
      cases h
      rw [rowToSession, SessionRow.seenAt]
      dsimp only
      rw [hrole]

theorem lastSeenAt_of_rowToSession {row : SessionRow} {session : Session}
    (h : rowToSession row = .ok session) : session.lastSeenAt = fromEpoch row.lastSeenAt := by
  rw [rowToSession] at h
  split at h
  · cases h
  · cases h; rfl

/-- An instant at which a session is live is not before 1970. -/
theorem toEpoch_of_live {policy : SessionPolicy} {row : SessionRow} {session : Session} {now : Int}
    (hrow : rowToSession row = .ok session) (h : policy.isExpired session now = false) :
    toEpoch now = some (now / nanosPerSec) := by
  obtain ⟨-, hseen, -⟩ := SessionPolicy.isExpired_eq_false_iff.mp h
  rw [lastSeenAt_of_rowToSession hrow] at hseen
  exact if_pos ((fromEpoch_nonneg _).trans hseen)

/-! ### The database -/

/-- Everything the calls of the session context read and write; `τ` is the randomness the tokens
are drawn from. -/
structure SessionDb (τ : Type) where
  sessions : Table SessionRow.token
  /-- The ids in `admin_users`. -/
  admins : List AdminId
  entropy : τ
  /-- The system clock, in nanoseconds since the epoch. -/
  clock : Int

/-- The `SessionTokenGenerator` port. -/
structure SessionTokenGenerator (τ : Type) where
  generateSessionToken : τ → SessionToken × τ
  generateCsrfToken : τ → CsrfToken × τ

/-- The calls of the session context, each one atomic. -/
inductive SessionOp where
  | insert (session : Session)
  | find (token : SessionToken)
  | touch (token : SessionToken) (lastSeenAt : Int)
  | delete (token : SessionToken)
  | generateSessionToken
  | generateCsrfToken
  | now

abbrev SessionOp.Ans : SessionOp → Type
  | .insert _ => Except RepositoryError Unit
  | .find _ => Except RepositoryError (Option Session)
  | .touch .. => Except RepositoryError Unit
  | .delete _ => Except RepositoryError Unit
  | .generateSessionToken => SessionToken
  | .generateCsrfToken => CsrfToken
  | .now => Int

abbrev sessionSig : Sig := ⟨SessionOp, SessionOp.Ans⟩

namespace SessionDb
variable {τ : Type}

/-- `INSERT INTO admin_sessions`: the token is new, the admin is there, and no instant is null. -/
def insert (db : SessionDb τ) (session : Session) : Except RepositoryError Unit × SessionDb τ :=
  match toEpoch session.createdAt, toEpoch session.lastSeenAt,
      toEpoch session.absoluteExpiresAt with
  | some createdAt, some lastSeenAt, some absoluteExpiresAt =>
      if session.adminId ∈ db.admins then
        match db.sessions.insert? ⟨session.token.raw, session.adminId, session.role.name,
            session.csrfToken.raw, createdAt, lastSeenAt, absoluteExpiresAt⟩ with
        | some sessions => (.ok (), { db with sessions })
        | none => (.error (.backend "insert violates the primary key of admin_sessions"), db)
      else (.error (.backend "insert violates the foreign key of admin_sessions"), db)
  | _, _, _ => (.error (.backend "null instant in admin_sessions"), db)

/-- `SELECT ... FROM admin_sessions WHERE token = ...`. -/
def find (db : SessionDb τ) (token : SessionToken) : Except RepositoryError (Option Session) :=
  match db.sessions.find? token.raw with
  | none => .ok none
  | some row => (rowToSession row).map some

/-- `UPDATE admin_sessions SET last_seen_at WHERE token = ...`: an instant before 1970 is null,
which the column refuses when there is a row to change. -/
def touch (db : SessionDb τ) (token : SessionToken) (lastSeenAt : Int) :
    Except RepositoryError Unit × SessionDb τ :=
  match toEpoch lastSeenAt with
  | some secs =>
      (.ok (), { db with
        sessions := db.sessions.modify token.raw (fun row => row.seenAt secs) fun _ => rfl })
  | none =>
      match db.sessions.find? token.raw with
      | some _ => (.error (.backend "null instant in admin_sessions"), db)
      | none => (.ok (), db)

def delete (db : SessionDb τ) (token : SessionToken) : SessionDb τ :=
  { db with sessions := db.sessions.delete token.raw }

/-- What each call does when it is served. -/
def serve (G : SessionTokenGenerator τ) : Exec sessionSig (SessionDb τ)
  | .insert session, db => db.insert session
  | .find token, db => (db.find token, db)
  | .touch token lastSeenAt, db => db.touch token lastSeenAt
  | .delete token, db => (.ok (), db.delete token)
  | .generateSessionToken, db =>
      let r := G.generateSessionToken db.entropy
      (r.1, { db with entropy := r.2 })
  | .generateCsrfToken, db =>
      let r := G.generateCsrfToken db.entropy
      (r.1, { db with entropy := r.2 })
  | .now, db => (db.clock, db)

/-- No call moves the clock. -/
theorem serve_clock (G : SessionTokenGenerator τ) (op : SessionOp) (db : SessionDb τ) :
    (serve G op db).2.clock = db.clock := by
  cases op with
  | insert session =>
      rw [serve, insert]
      split
      · split
        · split <;> rfl
        · rfl
      · rfl
  | touch token lastSeenAt =>
      rw [serve, touch]
      split
      · rfl
      · split <;> rfl
  | _ => rfl

/-! ### The row behind a token -/

/-- The stored row. -/
def row (db : SessionDb τ) (token : SessionToken) : Option SessionRow :=
  db.sessions.find? token.raw

theorem find_eq {db : SessionDb τ} {token : SessionToken} :
    db.find token = match db.row token with
      | none => .ok none
      | some row => (rowToSession row).map some := rfl

/-- A session that is found is decoded from its row. -/
theorem find_eq_ok_some {db : SessionDb τ} {token : SessionToken} {session : Session}
    (h : db.find token = .ok (some session)) :
    ∃ row, db.row token = some row ∧ rowToSession row = .ok session := by
  rw [find_eq] at h
  cases hrow : db.row token with
  | none => simp [hrow] at h
  | some row =>
      cases hs : rowToSession row with
      | error e => simp [hrow, hs, Except.map] at h
      | ok s =>
          simp only [hrow, hs, Except.map, Except.ok.injEq, Option.some.injEq] at h
          exact ⟨row, rfl, h ▸ hs⟩

@[simp] theorem row_delete (db : SessionDb τ) (token : SessionToken) :
    (db.delete token).row token = none := by
  rw [row, delete, Table.find?_delete, if_pos rfl]

theorem touch_of_toEpoch {lastSeenAt secs : Int} (h : toEpoch lastSeenAt = some secs)
    (db : SessionDb τ) (token : SessionToken) :
    (db.touch token lastSeenAt).1 = .ok () ∧
      (db.touch token lastSeenAt).2.row token = (db.row token).map fun row => row.seenAt secs := by
  rw [touch, h]
  refine ⟨rfl, ?_⟩
  exact Table.find?_modify_self db.sessions token.raw (fun row => row.seenAt secs) fun _ => rfl

end SessionDb

/-- The clock moves on. -/
inductive SessionEnv where
  | tick (d : Nat)

def SessionEnv.act {τ : Type} : SessionEnv → SessionDb τ → SessionDb τ
  | .tick d, db => { db with clock := db.clock + d }

end AuthApp.Sessions
