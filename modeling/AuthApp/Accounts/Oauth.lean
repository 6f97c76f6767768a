import AuthApp.Accounts.Store

/-!
# Accounts — signing in through a provider

`OAuthLoginService::complete` takes the id of the administrator from the table of linked
identities and the role from the account the reported email names.

* `complete_run`: a callback, alone and with storage healthy.
* `signIn_linked`, `signIn_refused` and `signIn_links`: what signing an identity in answers, and
  what it does to the links.
* `signIn_keeps_iff`: the identities that signing in does not link.
-/

namespace AuthApp.Accounts
open Interleave

variable {ι : Type}

structure OAuthAuthenticatedAdmin where
  id : AdminId
  role : Role
  deriving DecidableEq

def pendingTtl : Nat := fromSecs (10 * 60)

/-- An authorization older than the limit, or from the future. -/
def expired (now createdAt : Int) : Bool :=
  ((durationSince now createdAt).map fun age => decide (pendingTtl < age)).getD true

namespace OAuthLoginService

/-- An existing link wins; else an admin with the same email is linked now; else refuse. -/
def resolveAdmin (identity : OAuthIdentity) : Prog authSig (Except OAuthError AdminId) := do
  match ← Prog.perform (S := authSig) (.findAdmin identity.provider identity.subject) with
  | .error e => return .error (.internal e.display)
  | .ok (some adminId) => return .ok adminId
  | .ok none =>
      match Email.parse identity.email with
      | .error e => return .error (.provider ("provider email: " ++ e.display))
      | .ok email =>
          match ← Prog.perform (S := authSig) (.findByEmail email) with
          | .error e => return .error (.internal e.display)
          | .ok none => return .error .noLinkedAccount
          | .ok (some account) =>
              match ← Prog.perform (S := authSig)
                  (.link identity.provider identity.subject identity.email account.id) with
              | .error e => return .error (.internal e.display)
              | .ok () => return .ok account.id

/-- The account the reported email names, fetched for its role. -/
def fetchAccount (identity : OAuthIdentity) : Prog authSig (Except OAuthError AdminAccount) := do
  match Email.parse identity.email with
  | .error e => return .error (.provider ("provider email: " ++ e.display))
  | .ok email =>
      match ← Prog.perform (S := authSig) (.findByEmail email) with
      | .error e => return .error (.internal e.display)
      | .ok none => return .error .noLinkedAccount
      | .ok (some account) => return .ok account

/-- Complete a flow from the callback's `state` and `code`. -/
def complete (providers : OAuthProviders ι) (state code : String) :
    Prog authSig (Except OAuthError OAuthAuthenticatedAdmin) := do
  match ← Prog.perform (S := authSig) (.consume state) with
  | .error e => return .error (.internal e.display)
  | .ok none => return .error .invalidState
  | .ok (some pending) =>
      let now ← Prog.perform (S := authSig) .now
      if expired now pending.createdAt then return .error .invalidState
      else if providers.registered pending.provider then
        match ← Prog.perform (S := authSig) (.exchangeCode pending.provider
            ⟨code, pending.codeVerifier, pending.redirectUri, pending.nonce⟩) with
        | .error e => return .error e
        | .ok identity =>
            match ← resolveAdmin identity with
            | .error e => return .error e
            | .ok adminId =>
                match ← fetchAccount identity with
                | .error e => return .error e
                | .ok account => return .ok ⟨adminId, account.role⟩
      else return .error (.config ("unknown provider " ++ pending.provider.name))

end OAuthLoginService

/-! ### What the lookups answer -/

/-- The account a reported email names. -/
def AuthDb.accountOf (db : AuthDb ι) (email : String) : Except OAuthError AdminAccount :=
  match Email.parse email with
  | .error e => .error (.provider ("provider email: " ++ e.display))
  | .ok email =>
      match db.findByEmail email with
      | .error e => .error (.internal e.display)
      | .ok none => .error .noLinkedAccount
      | .ok (some account) => .ok account

theorem AuthDb.linked_congr {db db' : AuthDb ι} (h : db'.identities = db.identities)
    (provider : ProviderId) (subject : String) :
    db'.linked provider subject = db.linked provider subject := by
  rw [linked, linked, h]

theorem AuthDb.accountOf_congr {db db' : AuthDb ι} (h : db'.admins = db.admins) (email : String) :
    db'.accountOf email = db.accountOf email := by
  simp only [accountOf, findByEmail, h]

theorem AuthDb.accountOf_eq_ok_iff {db : AuthDb ι} {raw : String} {account : AdminAccount} :
    db.accountOf raw = .ok account ↔
      ∃ email, Email.parse raw = .ok email ∧ db.findByEmail email = .ok (some account) := by
  rw [accountOf]
  cases Email.parse raw with
  | error e => simp
  | ok email =>
      dsimp only
      constructor
      · intro h
        refine ⟨email, rfl, ?_⟩
        split at h
        · cases h
        · cases h
        · next hf => cases h; exact hf
      · rintro ⟨_, hp, hf⟩
        cases hp
        rw [hf]

section
variable {P : AuthPorts ι} {db : AuthDb ι}

theorem fetchAccount_run (identity : OAuthIdentity) (db : AuthDb ι) :
    (OAuthLoginService.fetchAccount identity).run (AuthDb.serve P) db =
      (db.accountOf identity.email, db) := by
  rw [OAuthLoginService.fetchAccount, AuthDb.accountOf]
  cases Email.parse identity.email with
  | error e => rfl
  | ok email =>
      change Prog.run (S := authSig) _ (.call (.findByEmail email) _) db = _
      rw [Prog.run_call, AuthDb.serve]
      dsimp only
      cases hf : db.findByEmail email with
      | error e => rfl
      | ok found => cases found <;> rfl

/-- Resolve the admin of an identity, alone and with storage healthy: the linked one, or else the
one its email names, which is linked now. -/
def AuthDb.resolve (db : AuthDb ι) (identity : OAuthIdentity) :
    Except OAuthError AdminId × AuthDb ι :=
  match db.linked identity.provider identity.subject with
  | some id => (.ok id, db)
  | none =>
      match db.accountOf identity.email with
      | .error e => (.error e, db)
      | .ok account =>
          (.ok account.id, (db.link identity.provider identity.subject identity.email account.id).2)

/-- A link to an administrator that is there is served. -/
theorem AuthDb.link_ok {row : AdminRow} (h : db.admins.find row.id = some row)
    (provider : ProviderId) (subject email : String) :
    ∃ db', db.link provider subject email row.id = (.ok (), db') ∧ db'.admins = db.admins := by
  rw [link, if_neg (by simp [h])]
  exact ⟨_, rfl, rfl⟩

/-- The account that an email names can be linked. -/
theorem AuthDb.link_account {account : AdminAccount} {email : Email}
    (h : db.findByEmail email = .ok (some account)) (provider : ProviderId) (subject raw : String) :
    ∃ db', db.link provider subject raw account.id = (.ok (), db') ∧ db'.admins = db.admins := by
  obtain ⟨row, hrow, hacc⟩ := AuthDb.findByEmail_eq_some_iff.mp h
  rw [id_of_rowToAccount hacc]
  exact AuthDb.link_ok (AdminTable.find_of_findByEmail hrow) provider subject raw

theorem resolveAdmin_run (identity : OAuthIdentity) (db : AuthDb ι) :
    (OAuthLoginService.resolveAdmin identity).run (AuthDb.serve P) db = db.resolve identity := by
  rw [AuthDb.resolve]
  change Prog.run (S := authSig) _ (.call (.findAdmin identity.provider identity.subject) _) db = _
  rw [Prog.run_call, AuthDb.serve]
  dsimp only
  rw [Prog.bind_ret]
  cases hlinked : db.linked identity.provider identity.subject with
  | some id => rfl
  | none =>
      dsimp only
      rw [AuthDb.accountOf]
      cases Email.parse identity.email with
      | error e => rfl
      | ok email =>
          change Prog.run (S := authSig) _ (.call (.findByEmail email) _) db = _
          rw [Prog.run_call, AuthDb.serve]
          dsimp only
          cases hf : db.findByEmail email with
          | error e => rfl
          | ok found =>
              cases found with
              | none => rfl
              | some account =>
                  -- the account was just found, so the link names an administrator that is there
                  obtain ⟨db', hlink, -⟩ := AuthDb.link_account hf identity.provider
                    identity.subject identity.email
                  change Prog.run (S := authSig) _ (.call (.link identity.provider identity.subject
                    identity.email account.id) _) db = _
                  rw [Prog.run_call, AuthDb.serve]
                  dsimp only
                  rw [hlink]
                  rfl

/-- Sign an identity in: resolve its admin, and take the role of the account its email names. -/
def AuthDb.signIn (db : AuthDb ι) (identity : OAuthIdentity) :
    Except OAuthError OAuthAuthenticatedAdmin × AuthDb ι :=
  match db.resolve identity with
  | (.error e, db') => (.error e, db')
  | (.ok id, db') => ((db'.accountOf identity.email).map fun account => ⟨id, account.role⟩, db')

/-- **One callback.** It is refused for its state, its age or its code, or it signs an identity
in. -/
theorem complete_run (state code : String) (db : AuthDb ι) :
    (OAuthLoginService.complete P.providers state code).run (AuthDb.serve P) db =
      match db.consume state with
      | (.error e, db') => (.error (.internal e.display), db')
      | (.ok none, db') => (.error .invalidState, db')
      | (.ok (some pending), db') =>
          if expired db'.clock pending.createdAt then (.error .invalidState, db')
          else if P.providers.registered pending.provider then
            match P.providers.exchangeCode pending.provider ⟨code, pending.codeVerifier,
                pending.redirectUri, pending.nonce⟩ db'.providers with
            | (.error e, world) => (.error e, { db' with providers := world })
            | (.ok identity, world) => ({ db' with providers := world } : AuthDb ι).signIn identity
          else (.error (.config ("unknown provider " ++ pending.provider.name)), db') := by
  rw [OAuthLoginService.complete]
  change Prog.run (S := authSig) _ (.call (.consume state) _) db = _
  rw [Prog.run_call, AuthDb.serve]
  obtain ⟨answer, db'⟩ := db.consume state
  rcases answer with e | _ | pending
  · rfl
  · rfl
  change Prog.run (S := authSig) _ (.call .now _) db' = _
  rw [Prog.run_call, AuthDb.serve]
  dsimp only
  rw [Prog.bind_ret]
  by_cases hexpired : expired db'.clock pending.createdAt
  · rw [if_pos hexpired, if_pos hexpired]
    rfl
  rw [if_neg hexpired, if_neg hexpired]
  by_cases hregistered : P.providers.registered pending.provider
  · rw [if_pos hregistered, if_pos hregistered]
    change Prog.run (S := authSig) _ (.call (.exchangeCode pending.provider ⟨code,
      pending.codeVerifier, pending.redirectUri, pending.nonce⟩) _) db' = _
    rw [Prog.run_call, AuthDb.serve]
    dsimp only
    obtain ⟨answer, world⟩ := P.providers.exchangeCode pending.provider ⟨code,
      pending.codeVerifier, pending.redirectUri, pending.nonce⟩ db'.providers
    rcases answer with e | identity
    · rfl
    dsimp only
    rw [Prog.bind_ret]
    dsimp only
    rw [Prog.run_bind, resolveAdmin_run, AuthDb.signIn]
    obtain ⟨resolved, db''⟩ := AuthDb.resolve { db' with providers := world } identity
    rcases resolved with e | id
    · rfl
    dsimp only
    rw [Prog.run_bind, fetchAccount_run]
    cases db''.accountOf identity.email <;> rfl
  · rw [if_neg hregistered, if_neg hregistered]
    rfl

end

/-! ### What a sign-in does to the links -/

section
variable {db : AuthDb ι} (identity : OAuthIdentity)

theorem signIn_linked {id : AdminId}
    (h : db.linked identity.provider identity.subject = some id) :
    db.signIn identity =
      ((db.accountOf identity.email).map fun account => ⟨id, account.role⟩, db) := by
  rw [AuthDb.signIn, AuthDb.resolve, h]

theorem signIn_refused {e : OAuthError}
    (h : db.linked identity.provider identity.subject = none)
    (he : db.accountOf identity.email = .error e) : db.signIn identity = (.error e, db) := by
  rw [AuthDb.signIn, AuthDb.resolve, h]
  dsimp only
  rw [he]

/-- A new link names the account. -/
theorem signIn_links {account : AdminAccount}
    (h : db.linked identity.provider identity.subject = none)
    (ha : db.accountOf identity.email = .ok account) :
    (db.signIn identity).1 = .ok ⟨account.id, account.role⟩ ∧
      (db.signIn identity).2.linked identity.provider identity.subject = some account.id := by
  obtain ⟨email, -, hf⟩ := AuthDb.accountOf_eq_ok_iff.mp ha
  obtain ⟨db', hlink, hadm⟩ := AuthDb.link_account hf identity.provider identity.subject
    identity.email
  have hsign : db.signIn identity = (.ok ⟨account.id, account.role⟩, db') := by
    rw [AuthDb.signIn, AuthDb.resolve, h]
    dsimp only
    rw [ha]
    dsimp only
    rw [hlink]
    dsimp only
    rw [AuthDb.accountOf_congr hadm, ha]
    rfl
  rw [hsign]
  refine ⟨rfl, ?_⟩
  dsimp only
  rw [AuthDb.linked_link hlink, if_pos rfl, h]
  rfl

/-- A sign-in makes no link, and answers a linked administrator or none, exactly when the identity
is linked or its email names no administrator. -/
theorem signIn_keeps_iff :
    ((db.signIn identity).2.identities = db.identities ∧
      ∀ out, (db.signIn identity).1 = .ok out →
        db.linked identity.provider identity.subject = some out.id) ↔
    (∃ id, db.linked identity.provider identity.subject = some id) ∨
      ∃ e, db.accountOf identity.email = .error e := by
  cases hlinked : db.linked identity.provider identity.subject with
  | some id =>
      rw [signIn_linked identity hlinked]
      refine iff_of_true ⟨rfl, fun out hout => ?_⟩ (.inl ⟨id, rfl⟩)
      dsimp only at hout
      cases hacc : db.accountOf identity.email with
      | error e => rw [hacc] at hout; cases hout
      | ok account => rw [hacc] at hout; cases hout; rfl
  | none =>
      cases hacc : db.accountOf identity.email with
      | error e =>
          rw [signIn_refused identity hlinked hacc]
          exact iff_of_true ⟨rfl, fun out hout => (nomatch hout)⟩ (.inr ⟨e, rfl⟩)
      | ok account =>
          -- the account is linked now
          refine iff_of_false (fun h => ?_) (by simp)
          obtain ⟨-, hnew⟩ := signIn_links identity hlinked hacc
          rw [AuthDb.linked_congr h.1, hlinked] at hnew
          cases hnew

end

end AuthApp.Accounts
