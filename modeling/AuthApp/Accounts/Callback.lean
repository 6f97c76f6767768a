import AuthApp.Accounts.Oauth
import Mathlib.Tactic.FinCases

/-!
# Accounts — one callback

A callback that is not refused for its state, its age or its code signs in the identity the
provider resolved.

* `result_linked` and `result_unlinked`: what it answers, with storage healthy.
* `kept_iff`: it answers one account, id and role, exactly when the email the provider reports
  names an account with the role of the linked one.
* `escalation_not_kept`: an identity linked to an editor signs in as an admin.
-/

namespace AuthApp.Accounts
open Interleave

variable {ι : Type}

/-- A callback with a pending, unexpired state, whose code the provider resolves. -/
structure Callback (P : AuthPorts ι) (db : AuthDb ι) where
  state : String
  code : String
  pending : PendingAuthorization
  identity : OAuthIdentity
  found : ∃ row, db.pending.find? state = some row ∧ rowToPending row = .ok pending
  unexpired : expired db.clock pending.createdAt = false
  registered : P.providers.registered pending.provider = true
  resolved : (P.providers.exchangeCode pending.provider
    ⟨code, pending.codeVerifier, pending.redirectUri, pending.nonce⟩ db.providers).1 = .ok identity

namespace Callback
variable {P : AuthPorts ι} {db : AuthDb ι}

/-- What the callback is answered, with storage healthy. -/
def result (c : Callback P db) : Except OAuthError OAuthAuthenticatedAdmin :=
  ((OAuthLoginService.complete P.providers c.state c.code).run (AuthDb.serve P) db).1

/-- The admin the identity is linked to. -/
def linked (c : Callback P db) : Option AdminId :=
  db.linked c.identity.provider c.identity.subject

/-- The callback gets as far as the identity, with the accounts and the links untouched. -/
theorem run_eq (c : Callback P db) :
    ∃ db' : AuthDb ι, db'.admins = db.admins ∧ db'.identities = db.identities ∧
      c.result = (db'.signIn c.identity).1 := by
  obtain ⟨row, hrow, hpending⟩ := c.found
  have hconsume : db.consume c.state =
      (.ok (some c.pending), { db with pending := db.pending.delete c.state }) := by
    rw [AuthDb.consume, hrow]
    dsimp only
    rw [hpending]
    rfl
  have hresolved := c.resolved
  rw [result, complete_run, hconsume]
  dsimp only
  rw [if_neg (by simp [c.unexpired]), if_pos c.registered]
  generalize P.providers.exchangeCode c.pending.provider ⟨c.code, c.pending.codeVerifier,
    c.pending.redirectUri, c.pending.nonce⟩ db.providers = exchanged at hresolved
  obtain ⟨answer, world⟩ := exchanged
  obtain rfl : answer = .ok c.identity := hresolved
  exact ⟨{ db with pending := db.pending.delete c.state, providers := world }, rfl, rfl, rfl⟩

/-- A linked identity is answered the linked id, and the role of the account its email names. -/
theorem result_linked (c : Callback P db) {id : AdminId} (h : c.linked = some id) :
    c.result = (db.accountOf c.identity.email).map fun account => ⟨id, account.role⟩ := by
  obtain ⟨db', hadm, hids, hrun⟩ := c.run_eq
  have hlinked : db'.linked c.identity.provider c.identity.subject = some id :=
    (AuthDb.linked_congr hids _ _).trans h
  rw [hrun, signIn_linked c.identity hlinked, AuthDb.accountOf_congr hadm]

/-- Another is answered the account its email names. -/
theorem result_unlinked (c : Callback P db) (h : c.linked = none) :
    c.result = (db.accountOf c.identity.email).map fun account => ⟨account.id, account.role⟩ := by
  obtain ⟨db', hadm, hids, hrun⟩ := c.run_eq
  have hlinked : db'.linked c.identity.provider c.identity.subject = none :=
    (AuthDb.linked_congr hids _ _).trans h
  rw [hrun, ← AuthDb.accountOf_congr hadm]
  cases hacc : db'.accountOf c.identity.email with
  | error e => rw [signIn_refused c.identity hlinked hacc]; rfl
  | ok account => exact (signIn_links c.identity hlinked hacc).1

/-! ### One account, or two -/

/-- The callback signs one account in: the one that is linked, or else the one that has the
reported email. -/
def Kept (c : Callback P db) : Prop :=
  (∀ id a, c.linked = some id → db.admins.find id = some a →
    ∃ role, Role.parse a.role = .ok role ∧ c.result = .ok ⟨id, role⟩) ∧
  (c.linked = none → ∀ out, c.result = .ok out ↔
    ∃ email a, Email.parse c.identity.email = .ok email ∧
      (∀ b, b ∈ db.admins.table.rows ∧ b.email = email.address ↔ b = a) ∧
        out.id = a.id ∧ Role.parse a.role = .ok out.role)

theorem accountOf_email {raw : String} {account : AdminAccount} :
    db.accountOf raw = .ok account ↔
      ∃ email a role, Email.parse raw = .ok email ∧ db.admins.findByEmail email = some a ∧
        Role.parse a.role = .ok role ∧ account =
          { id := a.id, email, passwordHash := ⟨a.passwordHash⟩, lockout := a.lockout, role,
            displayName := a.displayName } := by
  rw [AuthDb.accountOf_eq_ok_iff]
  constructor
  · rintro ⟨email, hp, hf⟩
    obtain ⟨a, ha, hacc⟩ := AuthDb.findByEmail_eq_some_iff.mp hf
    cases hr : Role.parse a.role with
    | error e =>
        rw [rowToAccount, (AdminTable.findByEmail_eq_some_iff.mp ha).2, Email.parse_address, hr]
          at hacc
        cases hacc
    | ok role =>
        rw [rowToAccount_of_findByEmail ha hr] at hacc
        exact ⟨email, a, role, hp, ha, hr, (Except.ok.inj hacc).symm⟩
  · rintro ⟨email, a, role, hp, ha, hr, rfl⟩
    exact ⟨email, hp, AuthDb.findByEmail_eq_some_iff.mpr ⟨a, ha, rowToAccount_of_findByEmail ha hr⟩⟩

/-- The administrator that has an email is the only one. -/
theorem findByEmail_iff_single {email : Email} {a : AdminRow} :
    db.admins.findByEmail email = some a ↔
      ∀ b, b ∈ db.admins.table.rows ∧ b.email = email.address ↔ b = a := by
  constructor
  · intro h b
    rw [← AdminTable.findByEmail_eq_some_iff, h, Option.some.injEq]
    exact eq_comm
  · intro h
    exact AdminTable.findByEmail_eq_some_iff.mpr ((h a).mpr rfl)

/-- **One account.** A callback signs in one account, id and role, exactly when, if the identity
is linked, the email the provider reports names an administrator that has the role of the linked
one. -/
theorem kept_iff (c : Callback P db) :
    c.Kept ↔ ∀ id a, c.linked = some id → db.admins.find id = some a →
      ∃ email b role, Email.parse c.identity.email = .ok email ∧
        db.admins.findByEmail email = some b ∧ Role.parse b.role = .ok role ∧
          Role.parse a.role = .ok role := by
  constructor
  · rintro ⟨h, -⟩ id a hid ha
    obtain ⟨role, hrole, hres⟩ := h id a hid ha
    rw [c.result_linked hid] at hres
    cases hacc : db.accountOf c.identity.email with
    | error e => rw [hacc] at hres; cases hres
    | ok account =>
        obtain ⟨email, b, role', hp, hb, hr, rfl⟩ := accountOf_email.mp hacc
        rw [hacc] at hres
        cases hres
        exact ⟨email, b, role', hp, hb, hr, hrole⟩
  · intro h
    refine ⟨fun id a hid ha => ?_, fun hnone out => ?_⟩
    · obtain ⟨email, b, role, hp, hb, hr, hrole⟩ := h id a hid ha
      refine ⟨role, hrole, ?_⟩
      rw [c.result_linked hid, accountOf_email.mpr ⟨email, b, role, hp, hb, hr, rfl⟩]
      rfl
    · rw [c.result_unlinked hnone]
      constructor
      · intro hout
        cases hacc : db.accountOf c.identity.email with
        | error e => rw [hacc] at hout; cases hout
        | ok account =>
            obtain ⟨email, a, role, hp, ha, hr, rfl⟩ := accountOf_email.mp hacc
            rw [hacc] at hout
            cases hout
            exact ⟨email, a, hp, findByEmail_iff_single.mp ha, rfl, hr⟩
      · rintro ⟨email, a, hp, ha, hid, hr⟩
        have ha' := findByEmail_iff_single.mpr ha
        rw [accountOf_email.mpr ⟨email, a, out.role, hp, ha', hr, rfl⟩]
        obtain ⟨id, role⟩ := out
        cases hid
        rfl

end Callback

/-! ### An editor that signs in as an admin -/

def google : ProviderId := ⟨"google", by decide, by decide⟩

def adminEmail : Email := ⟨"root@example.com", by decide, by decide⟩

def adminRole : Role := .admin

/-- An editor, and an admin whose address the editor's provider account has come to report. -/
def editorRow : AdminRow := ⟨⟨"a"⟩, "ed@example.com", "h1", 0, none, editorRole.name, none⟩

def adminRow : AdminRow := ⟨⟨"b"⟩, adminEmail.address, "h2", 0, none, adminRole.name, none⟩

def editorIdentity : OAuthIdentity := ⟨google, "1", adminEmail.address⟩

def editorPorts : AuthPorts Unit where
  hasher := plainHasher
  providers := ⟨fun _ => true, fun _ _ s => (.ok editorIdentity, s)⟩

def editorDb : AuthDb Unit where
  admins := ⟨⟨[editorRow, adminRow], by decide⟩, by
    intro r hr s hs b hrb hsb
    fin_cases hr <;> fin_cases hs <;> cases hrb <;> first | rfl | exact absurd hsb (by decide)⟩
  ipLockouts := .empty
  pending := ⟨[⟨"st", google.name, "n", "v", "https://admin.example.com", 0⟩], by decide⟩
  identities := ⟨[⟨google.name, "1", ⟨"a"⟩, "ed@example.com"⟩], by decide⟩
  providers := ()
  clock := 0

def editorCallback : Callback editorPorts editorDb where
  state := "st"
  code := "c"
  pending := ⟨"st", google, "n", "v", "https://admin.example.com", 0⟩
  identity := editorIdentity
  found := ⟨_, rfl, by rw [rowToPending, ProviderId.parse_name]; rfl⟩
  unexpired := by decide
  registered := rfl
  resolved := rfl

/-- The callback answers the editor's id with the admin's role. -/
theorem escalation_not_kept :
    editorCallback.linked = some editorRow.id ∧
      editorCallback.result = .ok ⟨editorRow.id, adminRole⟩ ∧ ¬ editorCallback.Kept := by
  have hrow : editorDb.admins.findByEmail adminEmail = some adminRow := by decide
  have hres : editorCallback.result = .ok ⟨editorRow.id, adminRole⟩ := by
    have hacc := Callback.accountOf_email.mpr
      ⟨adminEmail, adminRow, adminRole, adminEmail.parse_address, hrow, adminRole.parse_name, rfl⟩
    refine (editorCallback.result_linked rfl).trans ?_
    change Except.map _ (editorDb.accountOf adminEmail.address) = _
    rw [hacc]
    rfl
  refine ⟨rfl, hres, fun h => ?_⟩
  obtain ⟨role, hrole, hkept⟩ := h.1 editorRow.id editorRow rfl rfl
  rw [hres] at hkept
  cases hkept
  exact absurd (Except.ok.inj (hrole.symm.trans editorRole.parse_name)) (by decide)

end AuthApp.Accounts
