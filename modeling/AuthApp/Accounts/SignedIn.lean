import AuthApp.Accounts.Complete
import AuthApp.Accounts.Login

/-!
# Accounts — the answers that sign an administrator in

What a login comes to, and the callback of a provider, by what their calls were answered.

* `login_answers` and `complete_answers`: the answers behind what they come to.
* `account_of_answer` and its companions: what the store held when it gave each answer.
-/

namespace AuthApp.Accounts
open Interleave

variable {ι : Type}

/-! ### A login -/

/-- The account with the submitted email was found and not locked, nor was the address, and the
password was right. -/
structure PasswordAnswers (request : LoginRequest) (past : List (Reply authSig))
    (out : AuthenticatedAdmin) (now : Int) (ip : LockoutState) (email : Email)
    (account : AdminAccount) : Prop where
  clock : (⟨.now, now⟩ : Reply authSig) ∈ past
  address : (⟨.getIp request.clientIp, .ok ip⟩ : Reply authSig) ∈ past
  addressOpen : LockoutPolicy.isLocked ip now = false
  parsed : Email.parse request.email = .ok email
  found : (⟨.findByEmail email, .ok (some account)⟩ : Reply authSig) ∈ past
  verified : (⟨.verify request.password account.passwordHash, .ok true⟩ : Reply authSig) ∈ past
  accountOpen : LockoutPolicy.isLocked account.lockout now = false
  out : out = ⟨account.id, account.role⟩

/-- What a login comes to, by what it was answered.

An email that no account has is refused as a wrong password is; a lock, of the address or of the
account, is told as such. -/
inductive LoginAnswers (request : LoginRequest) (past : List (Reply authSig)) :
    Except LoginError AuthenticatedAdmin → Prop where
  | signedIn (out : AuthenticatedAdmin) (now : Int) (ip : LockoutState) (email : Email)
      (account : AdminAccount) (h : PasswordAnswers request past out now ip email account) :
      LoginAnswers request past (.ok out)
  | addressLocked (now : Int) (ip : LockoutState) (hclock : (⟨.now, now⟩ : Reply authSig) ∈ past)
      (haddress : (⟨.getIp request.clientIp, .ok ip⟩ : Reply authSig) ∈ past)
      (h : LockoutPolicy.isLocked ip now = true) :
      LoginAnswers request past (.error (LoginService.tooManyAttempts ip now))
  | accountLocked (now : Int) (email : Email) (account : AdminAccount)
      (hclock : (⟨.now, now⟩ : Reply authSig) ∈ past)
      (hparsed : Email.parse request.email = .ok email)
      (hfound : (⟨.findByEmail email, .ok (some account)⟩ : Reply authSig) ∈ past)
      (h : LockoutPolicy.isLocked account.lockout now = true) :
      LoginAnswers request past (.error (LoginService.tooManyAttempts account.lockout now))
  | unparsed (err : EmailError) (h : Email.parse request.email = .error err) :
      LoginAnswers request past (.error .invalidCredentials)
  | unknown (email : Email) (hparsed : Email.parse request.email = .ok email)
      (h : (⟨.findByEmail email, .ok none⟩ : Reply authSig) ∈ past) :
      LoginAnswers request past (.error .invalidCredentials)
  | wrong (email : Email) (account : AdminAccount) (hparsed : Email.parse request.email = .ok email)
      (hfound : (⟨.findByEmail email, .ok (some account)⟩ : Reply authSig) ∈ past)
      (h : (⟨.verify request.password account.passwordHash, .ok false⟩ : Reply authSig) ∈ past) :
      LoginAnswers request past (.error .invalidCredentials)
  | internal (msg : String) : LoginAnswers request past (.error (.internal msg))

/-- What an account comes to that was looked up, and its password checked. -/
inductive Settled (now : Int) (verified : Bool) :
    Option AdminAccount → Except LoginError AuthenticatedAdmin → Prop where
  | unknown : Settled now verified none (.error .invalidCredentials)
  | locked (account : AdminAccount) (h : LockoutPolicy.isLocked account.lockout now = true) :
      Settled now verified (some account)
        (.error (LoginService.tooManyAttempts account.lockout now))
  | wrong (account : AdminAccount) (h : verified = false) :
      Settled now verified (some account) (.error .invalidCredentials)
  | right (account : AdminAccount) (h : verified = true)
      (hopen : LockoutPolicy.isLocked account.lockout now = false) :
      Settled now verified (some account) (.ok ⟨account.id, account.role⟩)
  | internal (account : Option AdminAccount) (msg : String) :
      Settled now verified account (.error (.internal msg))

theorem settle_settled (policy : LockoutPolicy) (ip : String) (ipState : LockoutState) (now : Int)
    (verified : Bool) (account : Option AdminAccount) (base : List (Reply authSig)) :
    Prog.Returns (fun past r => base <+: past ∧ Settled now verified account r) base
      (LoginService.settle policy ip ipState now verified account) := by
  have hone (l : List (Reply authSig)) : base <+: base ++ l := List.prefix_append base l
  cases account with
  | none =>
      rintro (e | ⟨⟩)
      · exact ⟨hone _, .internal _ _⟩
      · exact ⟨hone _, .unknown⟩
  | some account =>
      rw [LoginService.settle]
      by_cases hlocked : LockoutPolicy.isLocked account.lockout now
      · rw [if_pos hlocked]
        rintro (e | ⟨⟩)
        · exact ⟨hone _, .internal _ _⟩
        · exact ⟨hone _, .locked account hlocked⟩
      rw [if_neg hlocked]
      cases verified with
      | false =>
          rintro (e | ⟨⟩)
          · exact ⟨hone _, .internal _ _⟩
          rintro (e | ⟨⟩)
          · exact ⟨(hone _).trans (List.prefix_append _ _), .internal _ _⟩
          · exact ⟨(hone _).trans (List.prefix_append _ _), .wrong account rfl⟩
      | true =>
          rintro (e | ⟨⟩)
          · exact ⟨hone _, .internal _ _⟩
          rintro (e | ⟨⟩)
          · exact ⟨(hone _).trans (List.prefix_append _ _), .internal _ _⟩
          · exact ⟨(hone _).trans (List.prefix_append _ _),
              .right account rfl (by simpa using hlocked)⟩

/-- **What a login comes to.** -/
theorem login_answers (policy : LockoutPolicy) (hasher : PasswordHasher) (request : LoginRequest) :
    Prog.Returns (LoginAnswers request) [] (LoginService.login policy hasher request) := by
  rintro now (e | ip)
  · exact .internal _
  dsimp only
  rw [Prog.bind_ret]
  dsimp only
  by_cases hlocked : LockoutPolicy.isLocked ip now
  · rw [if_pos hlocked]
    exact .addressLocked now ip (by simp) (by simp) hlocked
  rw [if_neg hlocked, LoginService.findAccount]
  cases hparsed : Email.parse request.email with
  | error err =>
      rintro (e | verified)
      · exact .internal _
      refine (settle_settled policy request.clientIp ip now verified none _).mono ?_
      rintro past r ⟨-, hsettled⟩
      cases hsettled with
      | unknown => exact .unparsed err hparsed
      | internal _ msg => exact .internal msg
  | ok email =>
      rintro (e | account)
      · exact .internal _
      rintro (e | verified)
      · exact .internal _
      refine (settle_settled policy request.clientIp ip now verified account _).mono ?_
      rintro past r ⟨hpast, hsettled⟩
      have hall := hpast.subset
      cases hsettled with
      | unknown => exact .unknown email hparsed (hall (by simp))
      | locked account h =>
          exact .accountLocked now email account (hall (by simp)) hparsed (hall (by simp)) h
      | wrong account h =>
          subst h
          exact .wrong email account hparsed (hall (by simp)) (hall (by simp))
      | right account h hopen =>
          subst h
          refine .signedIn _ now ip email account ?_
          exact ⟨hall (by simp), hall (by simp), by simpa using hlocked, hparsed, hall (by simp),
            hall (by simp), hopen, rfl⟩
      | internal _ msg => exact .internal msg

/-! ### A callback -/

/-- A pending authorization was consumed in time, the code exchanged for an identity, and the
identity found linked, or an account with its email; the role is that of the account with its
email. -/
structure FlowAnswers (providers : OAuthProviders ι) (state code : String)
    (past : List (Reply authSig)) (out : OAuthAuthenticatedAdmin) (now : Int)
    (pending : PendingAuthorization) (identity : OAuthIdentity) (email : Email)
    (account : AdminAccount) : Prop where
  consumed : (⟨.consume state, .ok (some pending)⟩ : Reply authSig) ∈ past
  clock : (⟨.now, now⟩ : Reply authSig) ∈ past
  fresh : expired now pending.createdAt = false
  registered : providers.registered pending.provider = true
  exchanged : (⟨.exchangeCode pending.provider (pending.exchange code), .ok identity⟩ :
    Reply authSig) ∈ past
  resolved : (⟨.findAdmin identity.provider identity.subject, .ok (some out.id)⟩ : Reply authSig) ∈
      past ∨
    ∃ account', (⟨.findByEmail email, .ok (some account')⟩ : Reply authSig) ∈ past ∧
      account'.id = out.id
  parsed : Email.parse identity.email = .ok email
  found : (⟨.findByEmail email, .ok (some account)⟩ : Reply authSig) ∈ past
  role : account.role = out.role

/-- The administrator of an identity is the one it is linked to, or has its email. -/
def Resolves (identity : OAuthIdentity) (past : List (Reply authSig)) (id : AdminId) : Prop :=
  (⟨.findAdmin identity.provider identity.subject, .ok (some id)⟩ : Reply authSig) ∈ past ∨
    ∃ email account, Email.parse identity.email = .ok email ∧
      (⟨.findByEmail email, .ok (some account)⟩ : Reply authSig) ∈ past ∧ account.id = id

section

-- a program is followed without evaluating the emails it parses
attribute [local irreducible] Email.parse

theorem resolveAdmin_resolves (identity : OAuthIdentity) (base : List (Reply authSig)) :
    Prog.Returns (fun past r => base <+: past ∧ ∀ id, r = .ok id → Resolves identity past id) base
      (OAuthLoginService.resolveAdmin identity) := by
  rintro (e | _ | id)
  · exact ⟨List.prefix_append _ _, fun id hid => nomatch hid⟩
  · dsimp only
    rw [Prog.bind_ret]
    dsimp only
    cases hparsed : Email.parse identity.email with
    | error err => exact ⟨List.prefix_append _ _, fun id hid => nomatch hid⟩
    | ok email =>
        have hgrown (l₁ l₂ : List (Reply authSig)) : base <+: base ++ l₁ ++ l₂ :=
          (List.prefix_append _ _).trans (List.prefix_append _ _)
        rintro (e | _ | account)
        · exact ⟨hgrown _ _, fun id hid => nomatch hid⟩
        · exact ⟨hgrown _ _, fun id hid => nomatch hid⟩
        rintro (e | ⟨⟩)
        · exact ⟨(hgrown _ _).trans (List.prefix_append _ _), fun id hid => nomatch hid⟩
        · refine ⟨(hgrown _ _).trans (List.prefix_append _ _), fun id hid => ?_⟩
          cases hid
          exact .inr ⟨email, account, hparsed, by simp, rfl⟩
  · refine ⟨List.prefix_append _ _, fun id' hid => ?_⟩
    cases hid
    exact .inl (by simp)

theorem fetchAccount_finds (identity : OAuthIdentity) (base : List (Reply authSig)) :
    Prog.Returns (fun past r => base <+: past ∧ ∀ account, r = .ok account →
        ∃ email, Email.parse identity.email = .ok email ∧
          (⟨.findByEmail email, .ok (some account)⟩ : Reply authSig) ∈ past) base
      (OAuthLoginService.fetchAccount identity) := by
  rw [OAuthLoginService.fetchAccount]
  cases hparsed : Email.parse identity.email with
  | error err =>
      refine ⟨List.prefix_refl _, ?_⟩
      intro account h
      cases h
  | ok email =>
      rintro (e | _ | account)
      · refine ⟨List.prefix_append _ _, ?_⟩
        intro account h
        cases h
      · refine ⟨List.prefix_append _ _, ?_⟩
        intro account h
        cases h
      · refine ⟨List.prefix_append _ _, ?_⟩
        intro account' h
        cases h
        exact ⟨email, rfl, by simp⟩

/-- **A callback that succeeds.** -/
theorem complete_answers (providers : OAuthProviders ι) (state code : String) :
    Prog.Returns (fun past r => ∀ out, r = .ok out → ∃ now pending identity email account,
        FlowAnswers providers state code past out now pending identity email account) []
      (OAuthLoginService.complete providers state code) := by
  rintro (e | _ | pending)
  · intro out hout
    cases hout
  · intro out hout
    cases hout
  intro now
  simp only [Prog.bind_ret]
  cases hfresh : expired now pending.createdAt with
  | true =>
      intro out hout
      cases hout
  | false =>
      rw [if_neg Bool.false_ne_true]
      cases hregistered : providers.registered pending.provider with
      | false =>
          intro out hout
          cases hout
      | true =>
          rw [if_pos rfl]
          rintro (e | identity)
          · intro out hout
            cases hout
          refine (resolveAdmin_resolves identity _).bind ?_
          rintro past (e | id) ⟨hpast, hresolves⟩
          · intro out hout
            cases hout
          refine (fetchAccount_finds identity past).bind ?_
          rintro past' (e | account) ⟨hpast', hfound⟩ out hout
          · cases hout
          cases hout
          obtain ⟨email, hparsed, hm⟩ := hfound account rfl
          have hall := (hpast.trans hpast').subset
          refine ⟨now, pending, identity, email, account, hall (by simp), hall (by simp), hfresh,
            hregistered, hall (by simp [PendingAuthorization.exchange]), ?_, hparsed, hm, rfl⟩
          rcases hresolves id rfl with hlinked | ⟨email', account', hparsed', hm', hid⟩
          · exact .inl (hpast'.subset hlinked)
          · rw [hparsed] at hparsed'
            cases hparsed'
            exact .inr ⟨account', hpast'.subset hm', hid⟩

end

/-! ### What the answers were read off -/

section Answers
variable {P : AuthPorts ι} {fate : Fate} {db db' : AuthDb ι}

theorem account_of_answer {email : Email} {account : AdminAccount}
    (h : AuthDb.exec P fate (.findByEmail email) db = (.ok (some account), db')) :
    ∃ row, db.admins.findByEmail email = some row ∧ rowToAccount row = .ok account := by
  have hserve := Fate.serve_of_under (S := authSig) h nofun
  exact AuthDb.findByEmail_eq_some_iff.mp (congrArg Prod.fst hserve)

theorem no_account_of_answer {email : Email}
    (h : AuthDb.exec P fate (.findByEmail email) db = (.ok none, db')) :
    db.admins.findByEmail email = none := by
  have hserve := Fate.serve_of_under (S := authSig) h nofun
  have hfind : db.findByEmail email = .ok none := congrArg Prod.fst hserve
  rw [AuthDb.findByEmail] at hfind
  cases hrow : db.admins.findByEmail email with
  | none => rfl
  | some row =>
      rw [hrow] at hfind
      cases hdecode : rowToAccount row <;> simp [hdecode, Except.map] at hfind

theorem pending_of_answer {state : String} {pending : PendingAuthorization}
    (h : AuthDb.exec P fate (.consume state) db = (.ok (some pending), db')) :
    ∃ flow, db.pending.find? state = some flow ∧ rowToPending flow = .ok pending := by
  have hserve := Fate.serve_of_under (S := authSig) h nofun
  have hconsume : (db.consume state).1 = .ok (some pending) := congrArg Prod.fst hserve
  rw [AuthDb.consume] at hconsume
  cases hflow : db.pending.find? state with
  | none => rw [hflow] at hconsume; cases hconsume
  | some flow =>
      rw [hflow] at hconsume
      refine ⟨flow, rfl, ?_⟩
      cases hdecode : rowToPending flow with
      | error e => simp [hdecode, Except.map] at hconsume
      | ok pending' => simpa [hdecode, Except.map] using hconsume

theorem identity_of_answer {provider : ProviderId} {request : ExchangeRequest}
    {identity : OAuthIdentity}
    (h : AuthDb.exec P fate (.exchangeCode provider request) db = (.ok identity, db')) :
    (P.providers.exchangeCode provider request db.providers).1 = .ok identity :=
  congrArg Prod.fst (Fate.serve_of_under (S := authSig) h nofun)

theorem linked_of_answer {provider : ProviderId} {subject : String} {id : AdminId}
    (h : AuthDb.exec P fate (.findAdmin provider subject) db = (.ok (some id), db')) :
    db.linked provider subject = some id := by
  have hserve := Fate.serve_of_under (S := authSig) h nofun
  exact Except.ok.inj (congrArg Prod.fst hserve)

theorem verified_of_answer {plaintext : String} {hash : PasswordHash} {verified : Bool}
    (h : AuthDb.exec P fate (.verify plaintext hash) db = (.ok verified, db')) :
    P.hasher.verify plaintext hash = .ok verified :=
  congrArg Prod.fst (Fate.serve_of_under (S := authSig) h nofun)

theorem address_of_answer {ip : String} {state : LockoutState}
    (h : AuthDb.exec P fate (.getIp ip) db = (.ok state, db')) : db.getIp ip = state := by
  have hserve := Fate.serve_of_under (S := authSig) h nofun
  exact Except.ok.inj (congrArg Prod.fst hserve)

/-- What a stored account is decoded to. -/
theorem account_of_row {row : AdminRow} {account : AdminAccount}
    (h : rowToAccount row = .ok account) :
    row.id = account.id ∧ Role.parse row.role = .ok account.role ∧
      account.passwordHash = ⟨row.passwordHash⟩ ∧ account.lockout = row.lockout := by
  rw [rowToAccount] at h
  split at h
  · cases h
  · split at h
    · cases h
    · next hrole => cases h; exact ⟨rfl, hrole, rfl, rfl⟩

end Answers

end AuthApp.Accounts
