import AuthApp.Accounts.Complete
import AuthApp.Accounts.Login

/-!
# Accounts — what a login and a callback come to

The results of the two, by what their calls were answered.

* `LoginTrace.answered_iff`: a login ends in an internal error exactly when one of its calls fails.
* `complete_returns`: when a callback signs somebody in.
-/

namespace AuthApp.Accounts
open Interleave

variable {ι : Type}

/-- The call was answered, and not with a failure. -/
def AuthOp.answers : (op : AuthOp) → op.Ans → Bool
  | .findByEmail _, ans => ans.isOk
  | .updateLockout .., ans => ans.isOk
  | .getIp _, ans => ans.isOk
  | .putIp .., ans => ans.isOk
  | .consume _, ans => ans.isOk
  | .findAdmin .., ans => ans.isOk
  | .link .., ans => ans.isOk
  | .verify .., ans => ans.isOk
  | .exchangeCode .., ans => ans.isOk
  | .now, _ => true

/-- None of the calls failed. -/
def AllAnswered (past : List (Reply authSig)) : Prop := ∀ r ∈ past, r.op.answers r.ans = true

@[simp] theorem allAnswered_nil : AllAnswered [] := fun _ h => nomatch h

@[simp] theorem allAnswered_cons {r : Reply authSig} {past : List (Reply authSig)} :
    AllAnswered (r :: past) ↔ r.op.answers r.ans = true ∧ AllAnswered past := List.forall_mem_cons

@[simp] theorem allAnswered_append {past rest : List (Reply authSig)} :
    AllAnswered (past ++ rest) ↔ AllAnswered past ∧ AllAnswered rest := List.forall_mem_append

attribute [local simp] AuthOp.answers Except.isOk Except.toBool

/-! ### A login -/

theorem Looked.answered {email : String} {past : List (Reply authSig)}
    {account : Option AdminAccount} (h : Looked email past account) : AllAnswered past := by
  cases h with
  | parsed e he account => simp
  | unparsed err he => exact allAnswered_nil

theorem SettleTrace.answered_iff {policy : LockoutPolicy} {ip : String} {ipState : LockoutState}
    {now : Int} {verified : Bool} {account : Option AdminAccount} {past : List (Reply authSig)}
    {r : Except LoginError AuthenticatedAdmin}
    (h : SettleTrace policy ip ipState now verified account past (.ret r)) :
    AllAnswered past ↔ ∀ msg, r ≠ .error (.internal msg) := by
  cases h <;> simp [LoginService.tooManyAttempts]

/-- A login ends in an internal error exactly when one of its calls fails. -/
theorem LoginTrace.answered_iff {policy : LockoutPolicy} {hasher : PasswordHasher}
    {request : LoginRequest} {past : List (Reply authSig)}
    {r : Except LoginError AuthenticatedAdmin}
    (h : LoginTrace policy hasher request past (.ret r)) :
    AllAnswered past ↔ ∀ msg, r ≠ .error (.internal msg) := by
  cases h with
  | addressFails now e => simp
  | addressLocked now ipState hl =>
      simp [LoginService.tooManyAttempts]
  | lookupFails now ipState email e => simp
  | checkFails now ipState looked account hl e =>
      simp
  | settle now ipState looked account verified rest _ hl hs =>
      rw [allAnswered_append, ← hs.answered_iff]
      simp [hl.answered]

/-! ### A callback -/

/-- The email of the identity is one, and no lookup of it found nobody. -/
def Named (identity : OAuthIdentity) (past : List (Reply authSig)) : Prop :=
  ∃ email, Email.parse identity.email = .ok email ∧
    (⟨.findByEmail email, .ok none⟩ : Reply authSig) ∉ past

/-- The state names an authorization that is fresh and of a configured provider, the code was
exchanged for an identity, and the identity is that of an account. -/
def FlowAccepted (providers : OAuthProviders ι) (state code : String)
    (past : List (Reply authSig)) : Prop :=
  ∃ pending now identity,
    (⟨.consume state, .ok (some pending)⟩ : Reply authSig) ∈ past ∧
      (⟨.now, now⟩ : Reply authSig) ∈ past ∧ expired now pending.createdAt = false ∧
        providers.registered pending.provider = true ∧
          (⟨.exchangeCode pending.provider (pending.exchange code), .ok identity⟩ :
            Reply authSig) ∈ past ∧ Named identity past

-- a program is followed without evaluating the emails it parses
attribute [local irreducible] Email.parse

/-- Resolving an identity comes to an administrator only if no call failed and no lookup of an
account found nobody; it comes to none only if one did, or the email is no email. -/
theorem resolveAdmin_returns (identity : OAuthIdentity) (past : List (Reply authSig)) :
    Prog.Returns (fun past' r => ∃ rest, past' = past ++ rest ∧
        match r with
        | .ok _ => AllAnswered rest ∧
            ∀ email, (⟨.findByEmail email, .ok none⟩ : Reply authSig) ∉ rest
        | .error _ => ¬ (AllAnswered rest ∧ Named identity rest)) past
      (OAuthLoginService.resolveAdmin identity) := by
  rintro (e | _ | id)
  · exact ⟨_, rfl, by simp⟩
  · simp only [Prog.bind_ret]
    cases hemail : Email.parse identity.email with
    | error err => exact ⟨_, rfl, by simp [Named, hemail]⟩
    | ok email =>
        rintro (e | _ | account)
        · exact ⟨_, List.append_assoc .., by simp⟩
        · exact ⟨_, List.append_assoc .., by simp [Named, hemail]⟩
        rintro (e | ⟨⟩)
        · exact ⟨_, by simp only [List.append_assoc]; rfl, by simp⟩
        · exact ⟨_, by simp only [List.append_assoc]; rfl, by simp⟩
  · exact ⟨_, rfl, by simp⟩

theorem fetchAccount_returns (identity : OAuthIdentity) (past : List (Reply authSig)) :
    Prog.Returns (fun past' r => ∃ rest, past' = past ++ rest ∧
        ((∃ account, r = .ok account) ↔ AllAnswered rest ∧ Named identity rest)) past
      (OAuthLoginService.fetchAccount identity) := by
  rw [OAuthLoginService.fetchAccount]
  cases hemail : Email.parse identity.email with
  | error err => exact ⟨[], (List.append_nil _).symm, by simp [Named, hemail]⟩
  | ok email =>
      rintro (e | _ | account)
      · exact ⟨_, rfl, by simp⟩
      · exact ⟨_, rfl, by simp [Named, hemail]⟩
      · exact ⟨_, rfl, by simp [Named, hemail]⟩

theorem signIn_returns (identity : OAuthIdentity) (past : List (Reply authSig)) :
    Prog.Returns (fun past' r => ∃ rest, past' = past ++ rest ∧
        ((∃ admin, r = .ok admin) ↔ AllAnswered rest ∧ Named identity rest)) past
      (OAuthLoginService.signIn identity) := by
  rw [OAuthLoginService.signIn]
  refine (resolveAdmin_returns identity past).bind ?_
  rintro _ (e | id) ⟨rest, rfl, hrest⟩
  · exact ⟨rest, rfl, iff_of_false (by simp) hrest⟩
  refine (fetchAccount_returns identity (past ++ rest)).bind ?_
  rintro _ r ⟨rest', rfl, hrest'⟩
  have hboth : AllAnswered (rest ++ rest') ∧ Named identity (rest ++ rest') ↔
      AllAnswered rest' ∧ Named identity rest' := by
    simp [Named, hrest.1, hrest.2]
  refine Prog.Returns.mono (P := fun past' out => past' = past ++ rest ++ rest' ∧
    ((∃ admin, out = .ok admin) ↔ ∃ account, r = .ok account)) ?_ ?_
  · rcases r with e | account
    · exact ⟨rfl, by simp⟩
    · exact ⟨rfl, by simp⟩
  · rintro _ out ⟨rfl, hout⟩
    exact ⟨rest ++ rest', List.append_assoc .., by rw [hout, hrest', hboth]⟩

theorem signIn_exchanges (identity : OAuthIdentity) (past : List (Reply authSig)) :
    Prog.Returns (fun past' _ => ∃ rest, past' = past ++ rest ∧ ∀ provider request ans,
        (⟨.exchangeCode provider request, ans⟩ : Reply authSig) ∉ rest) past
      (OAuthLoginService.signIn identity) := by
  refine Prog.Always.returns (P := fun past' _ => ∃ rest, past' = past ++ rest ∧
    ∀ provider request ans, (⟨.exchangeCode provider request, ans⟩ : Reply authSig) ∉ rest)
    ((signIn_trace identity past).mono ?_)
  rintro past' q ⟨rest, rfl, h⟩
  exact ⟨rest, rfl, fun provider request => (h.no_exchange provider request).2⟩

/-- Once the code of a fresh authorization is exchanged, the rest is up to the identity. -/
theorem flowAccepted_iff {providers : OAuthProviders ι} {state code : String}
    {pending : PendingAuthorization} {now : Int} {identity : OAuthIdentity}
    {rest : List (Reply authSig)} (hfresh : expired now pending.createdAt = false)
    (hregistered : providers.registered pending.provider = true)
    (hno : ∀ provider request ans,
      (⟨.exchangeCode provider request, ans⟩ : Reply authSig) ∉ rest) :
    FlowAccepted providers state code (⟨.consume state, .ok (some pending)⟩ :: ⟨.now, now⟩ ::
        ⟨.exchangeCode pending.provider (pending.exchange code), .ok identity⟩ :: rest) ↔
      Named identity rest := by
  constructor
  · rintro ⟨other, later, found, -, -, -, -, hexchange, email, hemail, hnone⟩
    simp only [List.mem_cons, Reply.mk.injEq, reduceCtorEq, false_and, false_or] at hexchange
    obtain rfl : found = identity :=
      Except.ok.inj (eq_of_heq (hexchange.resolve_right (hno _ _ _)).2)
    exact ⟨email, hemail, fun hm => hnone (by simp [hm])⟩
  · rintro ⟨email, hemail, hnone⟩
    exact ⟨pending, now, identity, by simp, by simp, hfresh, hregistered, by simp, email, hemail,
      by simpa using hnone⟩

/-- A callback signs somebody in exactly when none of its calls fails, and its flow is accepted. -/
theorem complete_returns (providers : OAuthProviders ι) (state code : String) :
    Prog.Returns (fun past r => (∃ admin, r = .ok admin) ↔
        AllAnswered past ∧ FlowAccepted providers state code past) []
      (OAuthLoginService.complete providers state code) := by
  rintro (e | _ | pending)
  · simp
  · simp [FlowAccepted]
  intro now
  simp only [Prog.bind_ret]
  cases hexpired : expired now pending.createdAt with
  | true => simp [FlowAccepted]
  | false =>
      rw [if_neg Bool.false_ne_true]
      cases hregistered : providers.registered pending.provider with
      | false => simp [FlowAccepted]
      | true =>
          rw [if_pos rfl]
          rintro (e | identity)
          · simp
          refine ((signIn_returns identity _).and (signIn_exchanges identity _)).mono ?_
          rintro _ r ⟨⟨rest, rfl, hr⟩, rest', hsame, hno⟩
          obtain rfl := List.append_cancel_left hsame
          simp only [List.nil_append, List.cons_append]
          rw [hr, ← PendingAuthorization.exchange, flowAccepted_iff hexpired hregistered hno]
          simp

end AuthApp.Accounts
