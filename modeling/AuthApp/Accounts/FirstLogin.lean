import AuthApp.Accounts.Attempt
import AuthApp.Accounts.Bootstrap
import AuthApp.Accounts.EmailGrammar

/-!
# Accounts — the first login

From the bootstrap of an administrator to a login: the email goes into the table normalized, is
looked up normalized, and is parsed again when its row is read.

* `normalize_respelled`: white space around an email and the case of its letters do not matter.
* `created_row`: the row a bootstrap leaves behind.
* `bootstrapped_login`: the administrator can log in, under any spelling of the email.
-/

namespace AuthApp.Accounts
open Interleave

variable {ι : Type}

/-! ### Spellings -/

/-- The two differ in the case of an ASCII letter at most. -/
def SameLetter (c d : Char) : Prop := c.toLower = d.toLower

/-- The two texts differ in the white space around them and in the case of ASCII letters only. -/
def Respelled (raw other : String) : Prop :=
  ∃ before after before' after' body body' : List Char,
    raw.toList = before ++ body ++ after ∧ other.toList = before' ++ body' ++ after' ∧
      (∀ c ∈ before ++ after ++ before' ++ after', isWhitespace c = true) ∧
        List.Forall₂ SameLetter body body'

/-- White space around a text is trimmed. -/
theorem trim_append {before after : List Char} (body : List Char)
    (hbefore : ∀ c ∈ before, isWhitespace c = true) (hafter : ∀ c ∈ after, isWhitespace c = true) :
    trim (before ++ body ++ after) = trim body := by
  have hback : ∀ s : List Char,
      (s ++ after).rdropWhile isWhitespace = s.rdropWhile isWhitespace := by
    intro s
    rw [List.rdropWhile, List.reverse_append, List.dropWhile_append_of_pos, List.rdropWhile]
    exact fun c hc => hafter c (List.mem_reverse.mp hc)
  rw [trim, trim, List.append_assoc, List.dropWhile_append_of_pos hbefore, List.dropWhile_append]
  split
  · next hnil =>
      rw [List.isEmpty_iff.mp hnil, List.dropWhile_eq_nil_iff.mpr hafter]
  · exact hback _

theorem map_toLower_of_sameLetter {body body' : List Char}
    (h : List.Forall₂ SameLetter body body') :
    toAsciiLowercase body = toAsciiLowercase body' := by
  induction h with
  | nil => rfl
  | cons hc _ ih => exact congrArg₂ List.cons hc ih

/-- A respelled text is the same normalized text. -/
theorem normalize_respelled {raw other : String} (h : Respelled raw other) :
    normalize raw = normalize other := by
  obtain ⟨before, after, before', after', body, body', hraw, hother, hspace, hsame⟩ := h
  simp only [List.mem_append, or_assoc] at hspace
  rw [normalize, normalize, hraw, hother, trim_append body (fun c hc => hspace c (.inl hc))
    (fun c hc => hspace c (.inr (.inl hc))), trim_append body'
    (fun c hc => hspace c (.inr (.inr (.inl hc)))) (fun c hc => hspace c (.inr (.inr (.inr hc)))),
    ← trim_toAsciiLowercase, ← trim_toAsciiLowercase, map_toLower_of_sameLetter hsame]

theorem parse_respelled {raw other : String} {email : Email} (h : Respelled raw other)
    (hp : Email.parse raw = .ok email) : Email.parse other = .ok email := by
  have haddress : normalize other = email.address :=
    (normalize_respelled h).symm.trans (Email.address_of_parse hp).symm
  rw [Email.parse]
  split
  · next e he =>
      rw [haddress, email.valid] at he
      cases he
  · exact congrArg Except.ok (Email.ext haddress)

/-! ### The account a bootstrap leaves -/

/-- The row of a new administrator. -/
def NewAdmin.row (admin : NewAdmin) (id : AdminId) : AdminRow :=
  ⟨id, admin.email.address, admin.passwordHash.encoded, 0, none, admin.role.name, none⟩

section
variable {hash : String → String → Except PasswordHashError PasswordHash}
  {isAlphanumeric : Char → Bool} {policy : PasswordPolicy} {raw password : String}
  {s s' : BootstrapDb ι} {id : AdminId}

/-- What a bootstrap of a parsed email does, served. -/
theorem run_create (email : Email) :
    (BootstrapService.create email password).run (bootstrapServe hash) s =
      if s.db.count > 0 then (.ok .alreadyInitialized, s)
      else
        match hash password s.salt with
        | .error e => (.error (.internal e.display), s)
        | .ok passwordHash =>
            let inserted := s.db.insertAdmin s.nextId ⟨email, passwordHash, Role.admin⟩
            match inserted.1 with
            | .error e => (.error (.internal e.display), { s with db := inserted.2 })
            | .ok id => (.ok (.created id), { s with db := inserted.2 }) := by
  rw [BootstrapService.create, Prog.perform_bind, Prog.run_call, bootstrapServe]
  dsimp only
  by_cases hcount : s.db.count > 0
  · rw [if_pos hcount, if_pos hcount]
    rfl
  rw [if_neg hcount, if_neg hcount, Prog.perform_bind, Prog.run_call, bootstrapServe]
  dsimp only
  cases hash password s.salt with
  | error e => rfl
  | ok passwordHash =>
      dsimp only
      rw [Prog.perform_bind, Prog.run_call, bootstrapServe]
      cases (s.db.insertAdmin s.nextId ⟨email, passwordHash, Role.admin⟩).1 with
      | error e => rfl
      | ok id => rfl

theorem insertAdmin_ok {db : AuthDb ι} {next : AdminId} {admin : NewAdmin}
    (h : (db.insertAdmin next admin).1 = .ok id) :
    db.admins.insert? (admin.row id) = some (db.insertAdmin next admin).2.admins := by
  rw [AuthDb.insertAdmin] at h ⊢
  split at h
  · next admins hinsert =>
      cases h
      exact hinsert
  · cases h

/-- A bootstrap that answers an account has hashed the password and inserted a row for the parsed
email. -/
theorem created_row
    (h : (BootstrapService.createFirstAdmin isAlphanumeric policy raw password).run
      (bootstrapServe hash) s = (.ok (.created id), s')) :
    ∃ email passwordHash, Email.parse raw = .ok email ∧ hash password s.salt = .ok passwordHash ∧
      s.db.admins.insert? (NewAdmin.row ⟨email, passwordHash, Role.admin⟩ id) =
        some s'.db.admins := by
  rw [BootstrapService.createFirstAdmin] at h
  cases hemail : Email.parse raw with
  | error e =>
      rw [hemail] at h
      cases h
  | ok email =>
      rw [hemail] at h
      dsimp only at h
      cases hpolicy : policy.validate isAlphanumeric password with
      | error e =>
          rw [hpolicy] at h
          cases h
      | ok =>
          rw [hpolicy] at h
          dsimp only at h
          rw [run_create] at h
          split at h
          · cases h
          · split at h
            · cases h
            · next passwordHash hhash =>
                dsimp only at h
                split at h
                · cases h
                · next hinserted =>
                    cases h
                    exact ⟨email, passwordHash, rfl, hhash, insertAdmin_ok hinserted⟩

/-- The row reads back as the account. -/
theorem findByEmail_created {t u : AdminTable} {admin : NewAdmin}
    (h : t.insert? (admin.row id) = some u) {db : AuthDb ι} (hadmins : db.admins = u) :
    db.findByEmail admin.email = .ok (some
      ⟨id, admin.email, admin.passwordHash, .clear, admin.role, none⟩) := by
  refine AuthDb.findByEmail_eq_some_iff.mpr ⟨admin.row id, ?_, ?_⟩
  · rw [hadmins]
    exact (AdminTable.findByEmail_insert h admin.email _).mpr (.inr ⟨rfl, rfl⟩)
  · rw [rowToAccount, NewAdmin.row, Email.parse_address]
    dsimp only
    rw [Role.parse_name]
    rfl

/-- **The first login.** The administrator of a bootstrap, whose password the hasher verifies
against its own hash, can log in from an unlocked address under any spelling of the email, as long
as the table of administrators is the one that the bootstrap left. -/
theorem bootstrapped_login (P : AuthPorts ι)
    (hash : String → String → Except PasswordHashError PasswordHash)
    (hverify : ∀ password salt h, hash password salt = .ok h →
      P.hasher.verify password h = .ok true)
    (isAlphanumeric : Char → Bool) (policy : PasswordPolicy) (raw password : String)
    (s s' : BootstrapDb ι) (id : AdminId)
    (hcreated : (BootstrapService.createFirstAdmin isAlphanumeric policy raw password).run
      (bootstrapServe hash) s = (.ok (.created id), s'))
    (other : String) (hother : Respelled raw other) (db : AuthDb ι)
    (hadmins : db.admins = s'.db.admins) (lockout : LockoutPolicy) (ip : String)
    (hip : LockoutPolicy.isLocked (db.getIp ip) db.clock = false) :
    (attempt P lockout ⟨other, password, ip⟩ db).1 = .ok ⟨id, Role.admin⟩ ∧
      ∃ email account, Email.parse other = .ok email ∧ email.address = normalize raw ∧
        db.findByEmail email = .ok (some account) ∧ account.id = id ∧ account.email = email := by
  obtain ⟨email, passwordHash, hemail, hhash, hinsert⟩ := created_row hcreated
  have hfound := findByEmail_created hinsert hadmins
  have hparse := parse_respelled hother hemail
  refine ⟨?_, email, _, hparse, Email.address_of_parse hemail, hfound, rfl, rfl⟩
  have hlookup :
      db.lookup other = .ok (some ⟨id, email, passwordHash, .clear, Role.admin, none⟩) := by
    rw [AuthDb.lookup, hparse]
    exact hfound
  rw [attempt_eq, if_neg (by simp [hip])]
  dsimp only
  rw [hlookup]
  dsimp only [Option.map_some, Option.getD_some]
  rw [hverify password s.salt passwordHash hhash]
  rfl

end

/-- Passwords in the clear, without salt. -/
def inTheClear (plaintext _salt : String) : Except PasswordHashError PasswordHash :=
  .ok ⟨plaintext⟩

/-- The first administrator, and the store it leaves. -/
def bootstrappedRoot : Except BootstrapError BootstrapOutcome × BootstrapDb Unit :=
  (BootstrapService.createFirstAdmin Char.isAlphanum .recommended "root@example.com"
    "Str0ngEnoughPass").run (bootstrapServe inTheClear) freshBootstrap

/-- The first administrator logs in under capitals and with a blank before the email. -/
theorem bootstrapped_login_capitals :
    (attempt plainPorts .recommended ⟨" Root@Example.COM", "Str0ngEnoughPass", "10.0.0.1"⟩
      bootstrappedRoot.2.db).1 = .ok ⟨⟨"1"⟩, Role.admin⟩ :=
  (bootstrapped_login plainPorts inTheClear
    (fun password _ h heq => by
      cases heq
      exact congrArg Except.ok (beq_self_eq_true password))
    Char.isAlphanum .recommended "root@example.com" "Str0ngEnoughPass" freshBootstrap
    bootstrappedRoot.2 ⟨"1"⟩ rfl " Root@Example.COM"
    ⟨[], [], [' '], [], "root@example.com".toList, "Root@Example.COM".toList, rfl, rfl,
      fun c hc => by cases List.mem_singleton.mp hc; decide, by simp [SameLetter]⟩
    bootstrappedRoot.2.db rfl .recommended "10.0.0.1" rfl).1

end AuthApp.Accounts
