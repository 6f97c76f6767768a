import AuthApp.Accounts.Account
import AuthApp.Domain.Time
import AuthApp.Interleave.Fate
import AuthApp.Table.Keyed

/-!
# Audit — the trail

The events of the audit trail, the table that keeps them, and the one call that adds to it.
-/

namespace AuthApp.Audit
open Interleave Accounts

structure AuditId where
  raw : String
  deriving DecidableEq, Repr

inductive AuditEventType where
  | loginSucceeded
  | loginFailed
  | lockedOut
  | loggedOut
  deriving DecidableEq, Repr

def AuditEventType.asStr : AuditEventType → String
  | .loginSucceeded => "login_succeeded"
  | .loginFailed => "login_failed"
  | .lockedOut => "locked_out"
  | .loggedOut => "logged_out"

/-- An event to record.  It has no field for a password or a token. -/
structure NewAuditEvent where
  eventType : AuditEventType
  adminId : Option AdminId
  emailAttempted : Option String
  ip : String
  userAgent : Option String
  occurredAt : Int
  deriving DecidableEq, Repr

/-- A row of `admin_audit_events`. -/
structure AuditRow where
  id : AuditId
  eventType : String
  adminId : Option AdminId
  emailAttempted : Option String
  ip : String
  userAgent : Option String
  occurredAt : Int
  deriving DecidableEq, Repr

structure AuditDb where
  events : Table AuditRow.id
  /-- What the next `gen_random_uuid()` returns. -/
  randomUuid : AuditId

inductive AuditOp where
  | record (event : NewAuditEvent)

abbrev AuditOp.Ans : AuditOp → Type
  | .record _ => Except RepositoryError AuditId

abbrev auditSig : Sig := ⟨AuditOp, AuditOp.Ans⟩

/-- `INSERT INTO admin_audit_events`: the id is new, and the instant is not null. -/
def AuditDb.record (db : AuditDb) (event : NewAuditEvent) :
    Except RepositoryError AuditId × AuditDb :=
  match toEpoch event.occurredAt with
  | none => (.error (.backend "null instant in admin_audit_events"), db)
  | some occurredAt =>
      match db.events.insert? ⟨db.randomUuid, event.eventType.asStr, event.adminId,
          event.emailAttempted, event.ip, event.userAgent, occurredAt⟩ with
      | some events => (.ok db.randomUuid, { db with events })
      | none => (.error (.backend "insert violates the primary key of admin_audit_events"), db)

def AuditDb.serve : Exec auditSig AuditDb
  | .record event, db => db.record event

/-- The error a failing call answers. -/
def AuditOp.fault (msg : String) : (op : AuditOp) → Option op.Ans
  | .record _ => some (.error (.backend msg))

/-- A call under a fate. -/
def AuditDb.exec (fate : Fate) : Exec auditSig AuditDb :=
  Fate.under (S := auditSig) AuditOp.fault AuditDb.serve fate

/-- Record an event. -/
def AuditService.record (event : NewAuditEvent) : Prog auditSig (Except RepositoryError Unit) := do
  match ← Prog.perform (S := auditSig) (.record event) with
  | .error e => return .error e
  | .ok _ => return .ok ()

end AuthApp.Audit
