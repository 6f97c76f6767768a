import AuthApp.Audit.Recent
import AuthApp.Http.Listing
import AuthApp.Http.Oauth

/-!
# Http — the handlers that only read

`GET /auth/me`, `GET /audit/events`, `GET /auth/oauth/providers`, `GET /transactions/{id}` and the
two probes, and the calls of theirs that no other handler makes.
-/

namespace AuthApp.Http
open Interleave Accounts Sessions Audit Payments Sorted

variable {ι τ υ : Type}

/-! ### The calls -/

inductive Readiness where
  | ready
  | notReady
  deriving DecidableEq, Repr

/-- What the reads ask of the database. -/
inductive ViewOp where
  | findById (id : AdminId)
  | listRecent (limit : Nat)
  | check

abbrev ViewOp.Ans : ViewOp → Type
  | .findById _ => Except RepositoryError (Option AdminAccount)
  | .listRecent _ => Except RepositoryError (List AuditEvent)
  | .check => Readiness

abbrev viewSig : Sig := ⟨ViewOp, ViewOp.Ans⟩

/-- The order in which the database hands out the trail: some arrangement by the instants. -/
structure RecentOrder where
  rows : AuditDb → List AuditRow
  arranged : ∀ db, Arranges AuditRow.occurredAt db.events.rows (rows db)

def laterFirst (a b : AuditRow) : Bool := decide (b.occurredAt ≤ a.occurredAt)

theorem laterFirst_trans (a b c : AuditRow) (hab : laterFirst a b = true)
    (hbc : laterFirst b c = true) : laterFirst a c = true :=
  decide_eq_true ((of_decide_eq_true hbc).trans (of_decide_eq_true hab))

theorem laterFirst_total (a b : AuditRow) : (laterFirst a b || laterFirst b a) = true := by
  rcases le_total b.occurredAt a.occurredAt with h | h <;> simp [laterFirst, h]

/-- A sort that leaves ties in the order of the rows. -/
def RecentOrder.stable : RecentOrder where
  rows db := db.events.rows.mergeSort laterFirst
  arranged _ := ⟨List.mergeSort_perm _ _,
    (List.pairwise_mergeSort laterFirst_trans laterFirst_total _).imp of_decide_eq_true⟩

/-- `SELECT ... FROM admin_users WHERE id = ...`. -/
def findById (db : AuthDb ι) (id : AdminId) : Except RepositoryError (Option AdminAccount) :=
  match db.admins.find id with
  | none => .ok none
  | some row => (rowToAccount row).map some

/-- What each read answers when it is served.  It changes nothing. -/
def viewServe (order : RecentOrder) (s : HttpState ι τ υ) : (op : ViewOp) → op.Ans
  | .findById id => findById s.1.1 id
  | .listRecent limit => ((order.rows s.2.2).take limit).mapM rowToEvent
  | .check => .ready

/-- The error a failing read answers: the probe says that the database is not there. -/
def ViewOp.fault (msg : String) : (op : ViewOp) → Option op.Ans
  | .findById _ => some (.error (.backend msg))
  | .listRecent _ => some (.error (.backend msg))
  | .check => some .notReady

/-- A read under a fate. -/
def viewExec (order : RecentOrder) (fate : Fate) : Exec viewSig (HttpState ι τ υ) :=
  Fate.under (S := viewSig) ViewOp.fault (fun op s => (viewServe order s op, s)) fate

/-- Whatever its fate, a read leaves the state as it is. -/
theorem viewExec_state (order : RecentOrder) (fate : Fate) (op : ViewOp) (s : HttpState ι τ υ) :
    (viewExec order fate op s).2 = s := by
  rcases Fate.under_state (S := viewSig) ViewOp.fault (fun op s => (viewServe order s op, s)) fate
    op s with h | h
  · exact h
  · exact h

/-! ### The profile -/

structure MeOut where
  adminId : String
  role : String
  email : String
  displayName : Option String
  deriving DecidableEq, Repr

/-- Answer who is signed in.  A profile that cannot be read is left blank. -/
def meHandler (current : CurrentSession) : Prog viewSig (JsonResponse MeOut) := do
  let account ← Prog.perform (S := viewSig) (.findById ⟨current.adminId⟩)
  let (email, displayName) := match account with
    | .ok (some a) => (a.email.address, a.displayName)
    | _ => ("", none)
  return {
    status := 200
    error := none
    location := none
    setCookies := []
    body := some ⟨current.adminId, current.role.name, email, displayName⟩ }

/-! ### The audit trail -/

structure EventOut where
  id : String
  eventType : String
  adminId : Option String
  emailAttempted : Option String
  ip : String
  userAgent : Option String
  occurredAtEpoch : Nat
  deriving DecidableEq, Repr

def EventOut.of (e : AuditEvent) : EventOut where
  id := e.id.raw
  eventType := e.eventType.asStr
  adminId := e.adminId.map AdminId.raw
  emailAttempted := e.emailAttempted
  ip := e.ip
  userAgent := e.userAgent
  occurredAtEpoch := epochSecs e.occurredAt

def maxEvents : Nat := 200

/-- Answer the most recent events, fifty unless the caller asks for another number. -/
def listEvents (limit : Option Nat) : Prog viewSig (JsonResponse (List EventOut)) := do
  match ← Prog.perform (S := viewSig) (.listRecent (min (limit.getD 50) maxEvents)) with
  | .error _ => return { ApiError.internal with }
  | .ok events =>
      return {
        status := 200
        error := none
        location := none
        setCookies := []
        body := some (events.map EventOut.of) }

/-! ### One transaction -/

structure StatusChangeOut where
  fromStatus : Option String
  toStatus : String
  reason : Option String
  occurredAtEpoch : Nat
  deriving DecidableEq, Repr

def StatusChangeOut.of (c : PaymentStatusChange) : StatusChangeOut where
  fromStatus := c.fromStatus.map PaymentStatus.asStr
  toStatus := c.toStatus.asStr
  reason := c.reason
  occurredAtEpoch := epochSecs c.occurredAt

structure TransactionDetailOut where
  transaction : TransactionOut
  history : List StatusChangeOut
  deriving DecidableEq, Repr

/-- Answer a payment with its history. -/
def getTransaction (id : String) : Prog paySig (JsonResponse TransactionDetailOut) := do
  match ← PaymentsService.get ⟨id⟩ with
  | .error _ => return { ApiError.internal with }
  | .ok none => return { ApiError.notFound "No such transaction." with }
  | .ok (some detail) =>
      return {
        status := 200
        error := none
        location := none
        setCookies := []
        body := some ⟨.of detail.payment, detail.history.map StatusChangeOut.of⟩ }

/-! ### The probes and the providers -/

/-- A bare status code. -/
def statusOnly {β : Type} (status : Nat) : JsonResponse β where
  status
  error := none
  location := none
  setCookies := []

/-- `GET /health`. -/
def livenessHandler {S : Sig} {β : Type} : Prog S (JsonResponse β) := return statusOnly 200

/-- `GET /ready`. -/
def readinessHandler {β : Type} : Prog viewSig (JsonResponse β) := do
  match ← Prog.perform (S := viewSig) .check with
  | .ready => return statusOnly 200
  | .notReady => return statusOnly 503

/-- `OAuthLoginService::provider_ids`: the ids of the configured providers, sorted. -/
def providerIds (ids : List ProviderId) : List String :=
  (ids.map fun id => id.name).mergeSort fun a b => decide (a ≤ b)

/-- `GET /auth/oauth/providers`. -/
def providersHandler {S : Sig} (ids : List ProviderId) : Prog S (JsonResponse (List String)) :=
  return {
    status := 200
    error := none
    location := none
    setCookies := []
    body := some (providerIds ids) }

end AuthApp.Http
