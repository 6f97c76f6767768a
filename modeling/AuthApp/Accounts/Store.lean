import AuthApp.Accounts.Identity
import AuthApp.Interleave.Fate
import AuthApp.Table.Keyed

/-!
# Accounts — the Postgres store

The tables of administrators, client addresses, pending authorizations and linked identities,
what one call of their adapters does to them, and the signature of those calls as atomic
operations, together with the password hasher, the identity providers and the clock.

Lockout counters cross the boundary as `INTEGER` and whole epoch seconds: `putState` and
`getState` are the two directions.
-/

namespace AuthApp.Accounts
open Interleave

/-! ### Rows -/

/-- `n as i32`. -/
def asI32 (n : Nat) : Int := if n % 2 ^ 32 < 2 ^ 31 then n % 2 ^ 32 else n % 2 ^ 32 - 2 ^ 32

/-- The counters as they are bound to a statement: failures, and the deadline. -/
def putState (state : LockoutState) : Int × Option Int :=
  (asI32 state.failedAttempts, state.lockedUntil.bind toEpoch)

/-- The counters as they are read from a row. -/
def getState (failedAttempts : Int) (lockedUntil : Option Int) : LockoutState where
  failedAttempts := (max failedAttempts 0).toNat
  lockedUntil := lockedUntil.map fromEpoch

/-- A row of `admin_users`. -/
structure AdminRow where
  id : AdminId
  email : String
  passwordHash : String
  failedAttempts : Int
  lockedUntil : Option Int
  role : String
  displayName : Option String
  deriving DecidableEq, Repr

/-- A row of `admin_ip_lockouts`. -/
structure IpRow where
  ip : String
  failedAttempts : Int
  lockedUntil : Option Int
  deriving DecidableEq, Repr

/-- A row of `oauth_pending_authorizations`. -/
structure PendingRow where
  state : String
  provider : String
  nonce : String
  codeVerifier : String
  redirectUri : String
  createdAt : Int
  deriving DecidableEq, Repr

/-- A row of `admin_oauth_identities`. -/
structure IdentityRow where
  provider : String
  subject : String
  adminId : AdminId
  email : String
  deriving DecidableEq, Repr

def IdentityRow.key (r : IdentityRow) : String × String := (r.provider, r.subject)

def AdminRow.lockout (row : AdminRow) : LockoutState := getState row.failedAttempts row.lockedUntil

/-- The row with its counters overwritten. -/
def AdminRow.setLockout (row : AdminRow) (state : LockoutState) : AdminRow :=
  { row with failedAttempts := (putState state).1, lockedUntil := (putState state).2 }

def IpRow.setLockout (row : IpRow) (state : LockoutState) : IpRow :=
  { row with failedAttempts := (putState state).1, lockedUntil := (putState state).2 }

def rowToAccount (row : AdminRow) : Except RepositoryError AdminAccount :=
  match Email.parse row.email with
  | .error e => .error (.backend ("stored email " ++ row.email.quote ++ ": " ++ e.display))
  | .ok email =>
      match Role.parse row.role with
      | .error e => .error (.backend ("stored role " ++ row.role.quote ++ ": " ++ e.display))
      | .ok role =>
          .ok
            { id := row.id
              email
              passwordHash := ⟨row.passwordHash⟩
              lockout := row.lockout
              role
              displayName := row.displayName }

def rowToPending (row : PendingRow) : Except RepositoryError PendingAuthorization :=
  match ProviderId.parse row.provider with
  | .error e => .error (.backend ("stored provider " ++ row.provider.quote ++ ": " ++ e.display))
  | .ok provider =>
      .ok
        { state := row.state
          provider
          nonce := row.nonce
          codeVerifier := row.codeVerifier
          redirectUri := row.redirectUri
          createdAt := fromEpoch row.createdAt }

/-- `admin_users`, with its unique index on the email. -/
structure AdminTable where
  table : Table AdminRow.id
  emails : table.Unique fun row => some row.email

namespace AdminTable

def find (t : AdminTable) (id : AdminId) : Option AdminRow := t.table.find? id

def findByEmail (t : AdminTable) (email : Email) : Option AdminRow :=
  t.table.findBy? (fun row => some row.email) email.address

/-- `UPDATE admin_users SET failed_attempts, locked_until WHERE id = ...`. -/
def updateLockout (t : AdminTable) (id : AdminId) (state : LockoutState) : AdminTable where
  table := t.table.modify id (fun row => row.setLockout state) fun _ => rfl
  emails := t.emails.modify id _ _ fun _ => rfl

/-- `INSERT INTO admin_users`, unless the id or the email is taken. -/
def insert? (t : AdminTable) (row : AdminRow) : Option AdminTable :=
  if he : ∃ r ∈ t.table.rows, r.email = row.email then none
  else
    match h : t.table.insert? row with
    | none => none
    | some u =>
        some ⟨u, t.emails.insert h fun _ hb s hs hsb =>
          he ⟨s, hs, (Option.some.inj hsb).trans (Option.some.inj hb).symm⟩⟩

/-- A row that is found by an email has it, and no other row does. -/
theorem findByEmail_eq_some_iff {t : AdminTable} {email : Email} {row : AdminRow} :
    t.findByEmail email = some row ↔ row ∈ t.table.rows ∧ row.email = email.address := by
  rw [findByEmail, Table.findBy?_eq_some_iff t.emails]
  simp

theorem id_of_find {t : AdminTable} {id : AdminId} {row : AdminRow} (h : t.find id = some row) :
    row.id = id :=
  Table.key_of_find? h

theorem find_of_findByEmail {t : AdminTable} {email : Email} {row : AdminRow}
    (h : t.findByEmail email = some row) : t.find row.id = some row :=
  Table.find?_of_mem (findByEmail_eq_some_iff.mp h).1

theorem rows_insert? {t u : AdminTable} {row : AdminRow} (h : t.insert? row = some u) :
    u.table.rows = t.table.rows ++ [row] := by
  rw [insert?] at h
  split at h
  · cases h
  · split at h
    · cases h
    · next hu => cases h; exact Table.rows_insert? hu

/-- A row is refused exactly when its email or its id is taken. -/
theorem insert?_eq_none_iff {t : AdminTable} {row : AdminRow} :
    t.insert? row = none ↔ ∃ r ∈ t.table.rows, r.email = row.email ∨ r.id = row.id := by
  rw [insert?]
  split
  · next h =>
      obtain ⟨r, hr, he⟩ := h
      exact iff_of_true rfl ⟨r, hr, .inl he⟩
  · next h =>
      split
      · next hnone =>
          obtain ⟨r, hr⟩ := Table.insert?_eq_none_iff.mp hnone
          exact iff_of_true rfl ⟨r, Table.mem_of_find? hr, .inr (Table.key_of_find? hr)⟩
      · next u hu =>
          refine iff_of_false nofun fun ⟨r, hr, hor⟩ => ?_
          rcases hor with he | hid
          · exact h ⟨r, hr, he⟩
          · have hnone := Table.insert?_eq_none_iff.mpr ⟨r, hid ▸ Table.find?_of_mem hr⟩
            rw [hnone] at hu
            cases hu

/-- A new row is found by its email, and only by it; the others are found as before. -/
theorem findByEmail_insert {t u : AdminTable} {row : AdminRow} (h : t.insert? row = some u)
    (email : Email) (s : AdminRow) :
    u.findByEmail email = some s ↔
      t.findByEmail email = some s ∨ s = row ∧ row.email = email.address := by
  rw [findByEmail_eq_some_iff, findByEmail_eq_some_iff, rows_insert? h, List.mem_append,
    List.mem_singleton]
  constructor
  · rintro ⟨hs | rfl, he⟩
    · exact .inl ⟨hs, he⟩
    · exact .inr ⟨rfl, he⟩
  · rintro (⟨hs, he⟩ | ⟨rfl, he⟩)
    · exact ⟨.inl hs, he⟩
    · exact ⟨.inr rfl, he⟩

/-- The email of a new row was not taken. -/
theorem findByEmail_of_insert {t u : AdminTable} {row : AdminRow} (h : t.insert? row = some u)
    {email : Email} (he : row.email = email.address) : t.findByEmail email = none := by
  by_contra hne
  obtain ⟨s, hs⟩ := Option.ne_none_iff_exists'.mp hne
  obtain ⟨hmem, hse⟩ := findByEmail_eq_some_iff.mp hs
  rw [insert?_eq_none_iff.mpr ⟨s, hmem, .inl (hse.trans he.symm)⟩] at h
  cases h

theorem findByEmail_updateLockout (t : AdminTable) (id : AdminId) (state : LockoutState)
    (email : Email) :
    (t.updateLockout id state).findByEmail email =
      (t.findByEmail email).map fun row => if row.id = id then row.setLockout state else row :=
  Table.findBy?_modify t.table id (fun row => row.setLockout state) (fun _ => rfl) (fun _ => rfl)
    email.address

end AdminTable

/-- A row found by a parsed email has an email that parses; only its role may fail to. -/
theorem rowToAccount_of_findByEmail {t : AdminTable} {email : Email} {row : AdminRow}
    (h : t.findByEmail email = some row) {role : Role} (hr : Role.parse row.role = .ok role) :
    rowToAccount row = .ok
      { id := row.id, email, passwordHash := ⟨row.passwordHash⟩, lockout := row.lockout, role,
        displayName := row.displayName } := by
  rw [rowToAccount, (AdminTable.findByEmail_eq_some_iff.mp h).2, Email.parse_address, hr]

theorem id_of_rowToAccount {row : AdminRow} {account : AdminAccount}
    (h : rowToAccount row = .ok account) : account.id = row.id := by
  rw [rowToAccount] at h
  split at h
  · cases h
  · split at h
    · cases h
    · cases h; rfl

theorem rowToAccount_setLockout {row : AdminRow} {account : AdminAccount}
    (h : rowToAccount row = .ok account) (state : LockoutState) :
    rowToAccount (row.setLockout state) =
      .ok { account with lockout := (row.setLockout state).lockout } := by
  rw [rowToAccount] at h
  split at h
  · cases h
  · next hemail =>
      split at h
      · cases h
      · next hrole =>
          cases h
          rw [rowToAccount, AdminRow.setLockout, hemail]
          dsimp only
          rw [hrole]

/-! ### The database -/

/-- Everything the calls of the accounts context read and write; `ι` is the identity providers'
side. -/
structure AuthDb (ι : Type) where
  admins : AdminTable
  ipLockouts : Table IpRow.ip
  pending : Table PendingRow.state
  identities : Table IdentityRow.key
  providers : ι
  /-- The system clock, in nanoseconds since the epoch. -/
  clock : Int

/-- The calls of the accounts context, each one atomic. -/
inductive AuthOp where
  | findByEmail (email : Email)
  | updateLockout (id : AdminId) (state : LockoutState)
  | getIp (ip : String)
  | putIp (ip : String) (state : LockoutState)
  | consume (state : String)
  | findAdmin (provider : ProviderId) (subject : String)
  | link (provider : ProviderId) (subject email : String) (adminId : AdminId)
  | verify (plaintext : String) (hash : PasswordHash)
  | exchangeCode (provider : ProviderId) (request : ExchangeRequest)
  | now

abbrev AuthOp.Ans : AuthOp → Type
  | .findByEmail _ => Except RepositoryError (Option AdminAccount)
  | .updateLockout .. => Except RepositoryError Unit
  | .getIp _ => Except RepositoryError LockoutState
  | .putIp .. => Except RepositoryError Unit
  | .consume _ => Except RepositoryError (Option PendingAuthorization)
  | .findAdmin .. => Except RepositoryError (Option AdminId)
  | .link .. => Except RepositoryError Unit
  | .verify .. => Except PasswordHashError Bool
  | .exchangeCode .. => Except OAuthError OAuthIdentity
  | .now => Int

abbrev authSig : Sig := ⟨AuthOp, AuthOp.Ans⟩

/-- What stands behind the ports that are no storage. -/
structure AuthPorts (ι : Type) where
  hasher : PasswordHasher
  providers : OAuthProviders ι

namespace AuthDb
variable {ι : Type}

/-- `SELECT ... FROM admin_users WHERE email = ...`. -/
def findByEmail (db : AuthDb ι) (email : Email) : Except RepositoryError (Option AdminAccount) :=
  match db.admins.findByEmail email with
  | none => .ok none
  | some row => (rowToAccount row).map some

theorem findByEmail_eq_some_iff {db : AuthDb ι} {email : Email} {account : AdminAccount} :
    db.findByEmail email = .ok (some account) ↔
      ∃ row, db.admins.findByEmail email = some row ∧ rowToAccount row = .ok account := by
  rw [findByEmail]
  cases hrow : db.admins.findByEmail email with
  | none => simp
  | some row => cases hacc : rowToAccount row <;> simp [hacc, Except.map]

/-- An address that never failed has no row. -/
def getIp (db : AuthDb ι) (ip : String) : LockoutState :=
  match db.ipLockouts.find? ip with
  | none => .clear
  | some row => getState row.failedAttempts row.lockedUntil

/-- `INSERT ... ON CONFLICT (ip) DO UPDATE`, of a deadline that the column holds. -/
def putIp (db : AuthDb ι) (ip : String) (state : LockoutState) : AuthDb ι :=
  { db with
    ipLockouts := db.ipLockouts.upsert ⟨ip, (putState state).1, (putState state).2⟩
      (fun row => row.setLockout state) fun _ => rfl }

/-- `UPDATE admin_users`, of a deadline that the column holds. -/
def updateLockout (db : AuthDb ι) (id : AdminId) (state : LockoutState) : AuthDb ι :=
  { db with admins := db.admins.updateLockout id state }

/-- `DELETE ... RETURNING`: a row that is found is gone, also when it cannot be decoded. -/
def consume (db : AuthDb ι) (state : String) :
    Except RepositoryError (Option PendingAuthorization) × AuthDb ι :=
  match db.pending.find? state with
  | none => (.ok none, db)
  | some row => ((rowToPending row).map some, { db with pending := db.pending.delete state })

/-- Consuming a state leaves no row of it, and touches no other. -/
theorem consume_snd (db : AuthDb ι) (state : String) :
    (db.consume state).2 = { db with pending := db.pending.delete state } := by
  rw [consume]
  cases hrow : db.pending.find? state with
  | some row => rfl
  | none => dsimp only; rw [Table.delete_eq_self hrow]

/-- The admin a pair of provider and subject is linked to. -/
def linked (db : AuthDb ι) (provider : ProviderId) (subject : String) : Option AdminId :=
  (db.identities.find? (provider.name, subject)).map IdentityRow.adminId

/-- A pair that is linked keeps its admin; a new link must name an admin that is there. -/
def link (db : AuthDb ι) (provider : ProviderId) (subject email : String) (adminId : AdminId) :
    Except RepositoryError Unit × AuthDb ι :=
  if db.linked provider subject = none ∧ db.admins.find adminId = none then
    (.error (.backend "insert violates a foreign key of admin_id"), db)
  else
    (.ok (),
      { db with
        identities := db.identities.upsert ⟨provider.name, subject, adminId, email⟩
          (fun row => { row with email }) fun _ => rfl })

/-- After a link, the pair has the admin it had, or else the new one; no other pair is touched. -/
theorem linked_link {db db' : AuthDb ι} {provider : ProviderId} {subject email : String}
    {adminId : AdminId} (h : db.link provider subject email adminId = (.ok (), db'))
    (p : ProviderId) (s : String) :
    db'.linked p s =
      if (provider.name, subject) = (p.name, s) then
        some ((db.linked provider subject).getD adminId)
      else db.linked p s := by
  rw [link] at h
  split at h
  · cases h
  · cases h
    simp only [linked]
    rw [Table.find?_upsert db.identities ⟨provider.name, subject, adminId, email⟩
      (fun row => { row with email }) (fun _ => rfl), IdentityRow.key]
    split
    · next heq =>
        rw [← heq]
        cases db.identities.find? (provider.name, subject) <;> rfl
    · rfl

/-- What each call does when it is served.  The write of a deadline that its column does not hold
is not served but refused: see `exec_updateLockout` and `exec_put`. -/
def serve (P : AuthPorts ι) : Exec authSig (AuthDb ι)
  | .findByEmail email, db => (db.findByEmail email, db)
  | .updateLockout id state, db => (.ok (), db.updateLockout id state)
  | .getIp ip, db => (.ok (db.getIp ip), db)
  | .putIp ip state, db => (.ok (), db.putIp ip state)
  | .consume state, db => db.consume state
  | .findAdmin provider subject, db => (.ok (db.linked provider subject), db)
  | .link provider subject email adminId, db => db.link provider subject email adminId
  | .verify plaintext hash, db => (P.hasher.verify plaintext hash, db)
  | .exchangeCode provider request, db =>
      let r := P.providers.exchangeCode provider request db.providers
      (r.1, { db with providers := r.2 })
  | .now, db => (db.clock, db)

end AuthDb

/-- The error a failing call answers.  The clock has none, and a provider's failures are answers
of its own. -/
def AuthOp.fault (msg : String) : (op : AuthOp) → Option op.Ans
  | .findByEmail _ => some (.error (.backend msg))
  | .updateLockout .. => some (.error (.backend msg))
  | .getIp _ => some (.error (.backend msg))
  | .putIp .. => some (.error (.backend msg))
  | .consume _ => some (.error (.backend msg))
  | .findAdmin .. => some (.error (.backend msg))
  | .link .. => some (.error (.backend msg))
  | .verify .. => some (.error ⟨msg⟩)
  | .exchangeCode .. => none
  | .now => none

/-- A call under a fate. -/
def AuthDb.exec {ι : Type} (P : AuthPorts ι) (fate : Fate) : Exec authSig (AuthDb ι) :=
  Fate.under (S := authSig) AuthOp.fault (AuthDb.serve P) fate

/-! ### Deadlines that the columns hold -/

/-- `to_timestamp` takes the deadline as it is bound. -/
def LockoutState.Representable (state : LockoutState) : Prop :=
  ∀ secs ∈ (putState state).2, secs < timestampEnd

instance (state : LockoutState) : Decidable state.Representable :=
  inferInstanceAs (Decidable (∀ secs ∈ (putState state).2, secs < timestampEnd))

section
variable {ι : Type}

/-- `to_timestamp` has an error for a deadline out of range, and then no row is written. -/
def PgAdminRepository.updateLockout (db : AuthDb ι) (id : AdminId) (state : LockoutState) :
    Except RepositoryError Unit × AuthDb ι :=
  if state.Representable then (.ok (), db.updateLockout id state)
  else (.error (.backend "timestamp out of range"), db)

def PgIpLockoutStore.put (db : AuthDb ι) (ip : String) (state : LockoutState) :
    Except RepositoryError Unit × AuthDb ι :=
  if state.Representable then (.ok (), db.putIp ip state)
  else (.error (.backend "timestamp out of range"), db)

/-- What the adapter does is what the call does under one of the fates. -/
theorem exec_updateLockout (P : AuthPorts ι) (db : AuthDb ι) (id : AdminId) (state : LockoutState) :
    ∃ fate, AuthDb.exec P fate (.updateLockout id state) db =
      PgAdminRepository.updateLockout db id state := by
  rw [PgAdminRepository.updateLockout]
  split
  · exact ⟨.served, rfl⟩
  · exact ⟨.refused "timestamp out of range", rfl⟩

theorem exec_put (P : AuthPorts ι) (db : AuthDb ι) (ip : String) (state : LockoutState) :
    ∃ fate, AuthDb.exec P fate (.putIp ip state) db = PgIpLockoutStore.put db ip state := by
  rw [PgIpLockoutStore.put]
  split
  · exact ⟨.served, rfl⟩
  · exact ⟨.refused "timestamp out of range", rfl⟩

end

/-- What changes the state besides the calls. -/
inductive AuthEnv where
  | clock (now : Int)

def AuthEnv.act {ι : Type} : AuthEnv → AuthDb ι → AuthDb ι
  | .clock now, db => { db with clock := now }

/-! ### A small world -/

def editorEmail : Email := ⟨"ed@example.com", by decide, by decide⟩

def editorRole : Role := ⟨"editor", by decide, by decide⟩

def noAdmins : AuthDb Unit := ⟨⟨.empty, nofun⟩, .empty, .empty, .empty, (), 0⟩

/-- Passwords in the clear, and no provider. -/
def plainPorts : AuthPorts Unit where
  hasher := plainHasher
  providers := ⟨fun _ => false, fun _ _ s => (.error .invalidState, s)⟩

end AuthApp.Accounts
