import AuthApp.Accounts.Attempt

/-!
# Accounts — telling accounts apart

Two databases that differ in one account alone are sent the same logins, none of which offers the
password of the account.  A wrong password and an unknown email are answered alike, but only an
account that is there has counters of its own, and locks.

* `Twins.attempt`: a login is answered alike in both, unless it meets the account locked.
* `enumeration_iff`: so a history is answered alike exactly when no request of it does.
* `lock_reveals`: six logins tell whether there is an account.
-/

namespace AuthApp.Accounts
open Interleave

variable {ι : Type}

/-- The logins of a history, each at its reading of the clock: what each is answered. -/
def logins (P : AuthPorts ι) (policy : LockoutPolicy) :
    List (Int × LoginRequest) → AuthDb ι → List (Except LoginError AuthenticatedAdmin)
  | [], _ => []
  | (now, request) :: rest, db =>
      let r := attempt P policy request { db with clock := now }
      r.1 :: logins P policy rest r.2

/-- The request is for `email`, its address is not locked, and the account is. -/
def MeetsLock (email : Email) (request : LoginRequest) (db : AuthDb ι) : Prop :=
  Email.parse request.email = .ok email ∧
    LockoutPolicy.isLocked (db.getIp request.clientIp) db.clock = false ∧
      ∃ account, db.findByEmail email = .ok (some account) ∧
        LockoutPolicy.isLocked account.lockout db.clock = true

/-- Some request of a history meets the account locked. -/
def EverMeetsLock (P : AuthPorts ι) (policy : LockoutPolicy) (email : Email) :
    List (Int × LoginRequest) → AuthDb ι → Prop
  | [], _ => False
  | (now, request) :: rest, db =>
      MeetsLock email request { db with clock := now } ∨
        EverMeetsLock P policy email rest (attempt P policy request { db with clock := now }).2

/-- A database, and an account it does not have. -/
structure TwoWorlds (ι : Type) where
  without : AuthDb ι
  row : AdminRow
  account : AdminAccount
  decodes : rowToAccount row = .ok account
  stored : row.email = account.email.address
  admins : AdminTable
  inserted : without.admins.insert? row = some admins

/-- The database, with the account. -/
def TwoWorlds.present (w : TwoWorlds ι) : AuthDb ι := { w.without with admins := w.admins }

/-- The two databases, some way into the history. -/
structure Twins (email : Email) (hash : PasswordHash) (db db' : AuthDb ι) : Prop where
  ips : db'.ipLockouts = db.ipLockouts
  clock : db'.clock = db.clock
  others : ∀ e, e ≠ email → db'.admins.findByEmail e = db.admins.findByEmail e
  absent : db.admins.findByEmail email = none
  present : ∃ row account, db'.admins.findByEmail email = some row ∧
    rowToAccount row = .ok account ∧ account.passwordHash = hash

namespace Twins
variable {P : AuthPorts ι} {policy : LockoutPolicy} {request : LoginRequest} {email : Email}
  {hash : PasswordHash} {db db' : AuthDb ι}

/-! ### What keeps them twins -/

theorem tick (h : Twins email hash db db') (now : Int) :
    Twins email hash { db with clock := now } { db' with clock := now } :=
  ⟨h.ips, rfl, h.others, h.absent, h.present⟩

theorem getIp (h : Twins email hash db db') (ip : String) : db'.getIp ip = db.getIp ip := by
  rw [AuthDb.getIp, AuthDb.getIp, h.ips]

theorem putIp (h : Twins email hash db db') (ip : String) (state : LockoutState) :
    Twins email hash (db.putIp ip state) (db'.putIp ip state) := by
  refine ⟨?_, h.clock, h.others, h.absent, h.present⟩
  rw [AuthDb.putIp, AuthDb.putIp, h.ips]

theorem ipFailure (h : Twins email hash db db') (ip : String) :
    Twins email hash (db.ipFailure policy ip) (db'.ipFailure policy ip) := by
  rw [AuthDb.ipFailure, AuthDb.ipFailure, h.getIp, h.clock]
  exact h.putIp ip _

/-- The account keeps its password, whatever its counters. -/
theorem present_updateLockout (h : Twins email hash db db') (id : AdminId)
    (state : LockoutState) :
    ∃ row account, (db'.updateLockout id state).admins.findByEmail email = some row ∧
      rowToAccount row = .ok account ∧ account.passwordHash = hash := by
  obtain ⟨row, account, hrow, hacc, hhash⟩ := h.present
  rw [AuthDb.updateLockout, AdminTable.findByEmail_updateLockout, hrow, Option.map_some]
  by_cases hid : row.id = id
  · exact ⟨_, _, by rw [if_pos hid], rowToAccount_setLockout hacc state, hhash⟩
  · exact ⟨_, _, by rw [if_neg hid], hacc, hhash⟩

/-- The counters of another account move alike in both. -/
theorem updateLockout (h : Twins email hash db db') (id : AdminId) (state : LockoutState) :
    Twins email hash (db.updateLockout id state) (db'.updateLockout id state) := by
  refine ⟨h.ips, h.clock, fun e he => ?_, ?_, h.present_updateLockout id state⟩
  · rw [AuthDb.updateLockout, AuthDb.updateLockout, AdminTable.findByEmail_updateLockout,
      AdminTable.findByEmail_updateLockout, h.others e he]
  · rw [AuthDb.updateLockout, AdminTable.findByEmail_updateLockout, h.absent, Option.map_none]

/-- The counters of the account are its own. -/
theorem updateLockout_present (h : Twins email hash db db') {row : AdminRow}
    (hrow : db'.admins.findByEmail email = some row) (state : LockoutState) :
    Twins email hash db (db'.updateLockout row.id state) := by
  refine ⟨h.ips, h.clock, fun e he => ?_, h.absent, h.present_updateLockout row.id state⟩
  rw [AuthDb.updateLockout, AdminTable.findByEmail_updateLockout, ← h.others e he]
  cases hother : db'.admins.findByEmail e with
  | none => rfl
  | some other =>
      -- another email, so another row
      have hid : other.id ≠ row.id := fun hid => by
        obtain ⟨hmem, ho⟩ := AdminTable.findByEmail_eq_some_iff.mp hother
        obtain ⟨hmem', hr⟩ := AdminTable.findByEmail_eq_some_iff.mp hrow
        rw [Table.eq_of_key_eq hmem hmem' hid] at ho
        exact he (Email.ext (ho.symm.trans hr))
      rw [Option.map_some, if_neg hid]

/-! ### One login -/

theorem judge_alike (h : Twins email hash db db') (ip : String) (account : Option AdminAccount)
    (verified : Bool) :
    (judge policy ip db' account verified).1 = (judge policy ip db account verified).1 ∧
      Twins email hash (judge policy ip db account verified).2
        (judge policy ip db' account verified).2 := by
  cases account with
  | none => exact ⟨rfl, h.ipFailure ip⟩
  | some account =>
      rw [judge, judge, h.clock]
      split
      · exact ⟨rfl, h.ipFailure ip⟩
      · split
        · exact ⟨rfl, (h.updateLockout account.id _).putIp ip _⟩
        · exact ⟨rfl, (h.updateLockout account.id _).ipFailure ip⟩

/-- A login for another email, or for none, is answered alike. -/
theorem attempt_other (P : AuthPorts ι) (policy : LockoutPolicy) (h : Twins email hash db db')
    (he : Email.parse request.email ≠ .ok email) :
    (attempt P policy request db').1 = (attempt P policy request db).1 ∧
      Twins email hash (attempt P policy request db).2 (attempt P policy request db').2 := by
  have hlookup : db'.lookup request.email = db.lookup request.email := by
    rw [AuthDb.lookup, AuthDb.lookup]
    cases hp : Email.parse request.email with
    | error e => rfl
    | ok e =>
        have hne : e ≠ email := fun heq => he (heq ▸ hp)
        dsimp only
        rw [AuthDb.findByEmail, AuthDb.findByEmail, h.others e hne]
  rw [attempt_eq, attempt_eq, h.getIp, h.clock, hlookup]
  split
  · exact ⟨rfl, h⟩
  · cases db.lookup request.email with
    | error e => exact ⟨rfl, h⟩
    | ok account =>
        dsimp only
        cases P.hasher.verify request.password
            ((account.map AdminAccount.passwordHash).getD P.hasher.referenceHash) with
        | error e => exact ⟨rfl, h⟩
        | ok verified => exact h.judge_alike request.clientIp account verified

/-- **Two logins.** Unless the account is met locked, a login is answered alike, and leaves the
databases twins; if it is, the answers differ. -/
theorem attempt (P : AuthPorts ι) (policy : LockoutPolicy) (h : Twins email hash db db')
    (hwrong : Email.parse request.email = .ok email →
      P.hasher.verify request.password hash = .ok false) :
    ((attempt P policy request db').1 = (attempt P policy request db).1 ↔
        ¬ MeetsLock email request db') ∧
      (¬ MeetsLock email request db' →
        Twins email hash (attempt P policy request db).2 (attempt P policy request db').2) := by
  by_cases he : Email.parse request.email = .ok email
  case neg =>
    obtain ⟨hsame, htwins⟩ := h.attempt_other P policy he
    exact ⟨iff_of_true hsame fun hm => he hm.1, fun _ => htwins⟩
  obtain ⟨row, account, hrow, hacc, hhash⟩ := h.present
  have hfind : db'.findByEmail email = .ok (some account) :=
    AuthDb.findByEmail_eq_some_iff.mpr ⟨row, hrow, hacc⟩
  have hlookup : db.lookup request.email = .ok none := by
    rw [AuthDb.lookup, he]
    dsimp only
    rw [AuthDb.findByEmail, h.absent]
  have hlookup' : db'.lookup request.email = .ok (some account) := by
    rw [AuthDb.lookup, he]
    exact hfind
  obtain ⟨b, hb⟩ := P.hasher.reference_valid request.password
  have hpw := hwrong he
  rw [← hhash] at hpw
  have hid := id_of_rowToAccount hacc
  rw [attempt_eq, attempt_eq, h.getIp, h.clock, hlookup, hlookup']
  by_cases hip : LockoutPolicy.isLocked (db.getIp request.clientIp) db.clock
  · have hm : ¬ MeetsLock email request db' := by
      rintro ⟨-, hopen, -⟩
      rw [h.getIp, h.clock, hip] at hopen
      cases hopen
    rw [if_pos hip, if_pos hip]
    exact ⟨iff_of_true rfl hm, fun _ => h⟩
  rw [if_neg hip, if_neg hip]
  simp only [Option.map_some, Option.map_none, Option.getD_some, Option.getD_none, hb, hpw, judge,
    h.clock]
  by_cases hl : LockoutPolicy.isLocked account.lockout db.clock
  · have hm : MeetsLock email request db' := by
      refine ⟨he, ?_, account, hfind, ?_⟩
      · rw [h.getIp, h.clock]
        simpa using hip
      · rw [h.clock]
        exact hl
    rw [if_pos hl]
    exact ⟨iff_of_false (by simp [LoginService.tooManyAttempts]) (not_not.mpr hm),
      fun hn => absurd hm hn⟩
  · have hm : ¬ MeetsLock email request db' := by
      rintro ⟨-, -, account', hfind', hlocked⟩
      rw [hfind] at hfind'
      cases hfind'
      rw [h.clock] at hlocked
      exact hl hlocked
    rw [if_neg hl, if_neg Bool.false_ne_true]
    refine ⟨iff_of_true rfl hm, fun _ => ?_⟩
    rw [hid]
    exact (h.updateLockout_present hrow _).ipFailure request.clientIp

end Twins

/-! ### A history -/

theorem TwoWorlds.twins (w : TwoWorlds ι) :
    Twins w.account.email w.account.passwordHash w.without w.present where
  ips := rfl
  clock := rfl
  others := by
    intro e he
    refine Option.ext fun s => ?_
    refine (AdminTable.findByEmail_insert w.inserted e s).trans ?_
    refine or_iff_left fun ⟨_, hrow⟩ => he (Email.ext ?_)
    exact hrow.symm.trans w.stored
  absent := AdminTable.findByEmail_of_insert w.inserted w.stored
  present := ⟨w.row, w.account, (AdminTable.findByEmail_insert w.inserted _ _).mpr
    (.inr ⟨rfl, w.stored⟩), w.decodes, rfl⟩

theorem Twins.logins {P : AuthPorts ι} {policy : LockoutPolicy} {email : Email}
    {hash : PasswordHash} {db db' : AuthDb ι} {history : List (Int × LoginRequest)}
    (h : Twins email hash db db')
    (hwrong : ∀ q ∈ history, Email.parse q.2.email = .ok email →
      P.hasher.verify q.2.password hash = .ok false) :
    logins P policy history db' = logins P policy history db ↔
      ¬ EverMeetsLock P policy email history db' := by
  induction history generalizing db db' with
  | nil => simp [Accounts.logins, EverMeetsLock]
  | cons q rest ih =>
      obtain ⟨now, request⟩ := q
      obtain ⟨hsame, htwins⟩ := (h.tick now).attempt P policy (hwrong _ List.mem_cons_self)
      rw [Accounts.logins, Accounts.logins, EverMeetsLock, List.cons.injEq, hsame, not_or]
      refine and_congr_right fun hm => ih (htwins hm) fun q hq => ?_
      exact hwrong q (List.mem_cons_of_mem _ hq)

/-- **Enumeration.** A history that never offers the password of an account is answered alike
whether the account is there or not, exactly when no request of it for the account, from an
address that is not locked, meets the account locked. -/
theorem enumeration_iff (P : AuthPorts ι) (policy : LockoutPolicy) (w : TwoWorlds ι)
    (history : List (Int × LoginRequest))
    (hwrong : ∀ q ∈ history, Email.parse q.2.email = .ok w.account.email →
      P.hasher.verify q.2.password w.account.passwordHash = .ok false) :
    logins P policy history w.present = logins P policy history w.without ↔
      ¬ EverMeetsLock P policy w.account.email history w.present :=
  w.twins.logins hwrong

/-! ### Six guesses -/

def editor : AdminAccount :=
  ⟨⟨"a"⟩, editorEmail, ⟨"secret"⟩, .clear, editorRole, none⟩

/-- No administrator, or one. -/
def editorOrNone : TwoWorlds Unit where
  without := noAdmins
  row := ⟨⟨"a"⟩, editorEmail.address, "secret", 0, none, "editor", none⟩
  account := editor
  decodes := by decide
  stored := rfl
  admins := (noAdmins.admins.insert?
    ⟨⟨"a"⟩, editorEmail.address, "secret", 0, none, "editor", none⟩).get rfl
  inserted := rfl

/-- One wrong password from each of six addresses. -/
def sixGuesses : List (Int × LoginRequest) :=
  ["10.0.0.1", "10.0.0.2", "10.0.0.3", "10.0.0.4", "10.0.0.5", "10.0.0.6"].map fun ip =>
    (0, ⟨"ed@example.com", "guess", ip⟩)

theorem sixGuesses_wrong : ∀ q ∈ sixGuesses, Email.parse q.2.email = .ok editor.email →
    plainPorts.hasher.verify q.2.password editor.passwordHash = .ok false := by
  decide

/-- The sixth is answered `TooManyAttempts` when the account is there. -/
theorem lock_reveals :
    (∀ q ∈ sixGuesses, Email.parse q.2.email = .ok editor.email →
      plainPorts.hasher.verify q.2.password editor.passwordHash = .ok false) ∧
    logins plainPorts .recommended sixGuesses editorOrNone.present =
      List.replicate 5 (.error .invalidCredentials) ++ [.error (.tooManyAttempts (some 60))] ∧
    logins plainPorts .recommended sixGuesses editorOrNone.without =
      List.replicate 6 (.error .invalidCredentials) := by
  refine ⟨sixGuesses_wrong, ?_, ?_⟩
  · decide
  · decide

theorem sixGuesses_iff :
    logins plainPorts .recommended sixGuesses editorOrNone.present =
        logins plainPorts .recommended sixGuesses editorOrNone.without ↔
      ¬ EverMeetsLock plainPorts .recommended editor.email sixGuesses editorOrNone.present :=
  enumeration_iff plainPorts .recommended editorOrNone sixGuesses sixGuesses_wrong

end AuthApp.Accounts
