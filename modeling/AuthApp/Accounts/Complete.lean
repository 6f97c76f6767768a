import AuthApp.Accounts.Oauth

/-!
# Accounts — a callback, call by call

The points that `OAuthLoginService::complete` can reach.

* `complete_trace`: every point of a callback, by the answers it has had.
* `CompleteTrace.signed_in`: how a callback that signs in came to the administrator it answers.
-/

namespace AuthApp.Accounts
open Interleave

variable {ι : Type}

/-- The points of `resolve_admin`. -/
inductive ResolveTrace (identity : OAuthIdentity) :
    List (Reply authSig) → Head authSig (Except OAuthError AdminId) → Prop where
  | lookup : ResolveTrace identity [] (.call (.findAdmin identity.provider identity.subject))
  | lookupFails (e : RepositoryError) : ResolveTrace identity
      [⟨.findAdmin identity.provider identity.subject, .error e⟩]
      (.ret (.error (.internal e.display)))
  | linked (id : AdminId) : ResolveTrace identity
      [⟨.findAdmin identity.provider identity.subject, .ok (some id)⟩] (.ret (.ok id))
  | unparsed (err : EmailError) (h : Email.parse identity.email = .error err) :
      ResolveTrace identity [⟨.findAdmin identity.provider identity.subject, .ok none⟩]
        (.ret (.error (.provider ("provider email: " ++ err.display))))
  | account (email : Email) (h : Email.parse identity.email = .ok email) :
      ResolveTrace identity [⟨.findAdmin identity.provider identity.subject, .ok none⟩]
        (.call (.findByEmail email))
  | accountFails (email : Email) (e : RepositoryError) : ResolveTrace identity
      [⟨.findAdmin identity.provider identity.subject, .ok none⟩, ⟨.findByEmail email, .error e⟩]
      (.ret (.error (.internal e.display)))
  | nobody (email : Email) : ResolveTrace identity
      [⟨.findAdmin identity.provider identity.subject, .ok none⟩, ⟨.findByEmail email, .ok none⟩]
      (.ret (.error .noLinkedAccount))
  | link (email : Email) (h : Email.parse identity.email = .ok email) (account : AdminAccount) :
      ResolveTrace identity
        [⟨.findAdmin identity.provider identity.subject, .ok none⟩,
          ⟨.findByEmail email, .ok (some account)⟩]
        (.call (.link identity.provider identity.subject identity.email account.id))
  | linkFails (email : Email) (account : AdminAccount) (e : RepositoryError) :
      ResolveTrace identity
        [⟨.findAdmin identity.provider identity.subject, .ok none⟩,
          ⟨.findByEmail email, .ok (some account)⟩,
          ⟨.link identity.provider identity.subject identity.email account.id, .error e⟩]
        (.ret (.error (.internal e.display)))
  | linkDone (email : Email) (account : AdminAccount) : ResolveTrace identity
      [⟨.findAdmin identity.provider identity.subject, .ok none⟩,
        ⟨.findByEmail email, .ok (some account)⟩,
        ⟨.link identity.provider identity.subject identity.email account.id, .ok ()⟩]
      (.ret (.ok account.id))

/-- The points of the lookup for the role. -/
inductive FetchTrace (identity : OAuthIdentity) :
    List (Reply authSig) → Head authSig (Except OAuthError AdminAccount) → Prop where
  | unparsed (err : EmailError) (h : Email.parse identity.email = .error err) :
      FetchTrace identity [] (.ret (.error (.provider ("provider email: " ++ err.display))))
  | lookup (email : Email) (h : Email.parse identity.email = .ok email) :
      FetchTrace identity [] (.call (.findByEmail email))
  | lookupFails (email : Email) (e : RepositoryError) :
      FetchTrace identity [⟨.findByEmail email, .error e⟩] (.ret (.error (.internal e.display)))
  | nobody (email : Email) :
      FetchTrace identity [⟨.findByEmail email, .ok none⟩] (.ret (.error .noLinkedAccount))
  | done (email : Email) (account : AdminAccount) :
      FetchTrace identity [⟨.findByEmail email, .ok (some account)⟩] (.ret (.ok account))

/-- The points of signing an identity in. -/
inductive SignInTrace (identity : OAuthIdentity) :
    List (Reply authSig) → Head authSig (Except OAuthError OAuthAuthenticatedAdmin) → Prop where
  | resolving (past : List (Reply authSig)) (op : AuthOp)
      (h : ResolveTrace identity past (.call op)) : SignInTrace identity past (.call op)
  | refused (past : List (Reply authSig)) (e : OAuthError)
      (h : ResolveTrace identity past (.ret (.error e))) :
      SignInTrace identity past (.ret (.error e))
  | fetching (past rest : List (Reply authSig)) (id : AdminId) (op : AuthOp)
      (h : ResolveTrace identity past (.ret (.ok id)))
      (hf : FetchTrace identity rest (.call op)) : SignInTrace identity (past ++ rest) (.call op)
  | fails (past rest : List (Reply authSig)) (id : AdminId) (e : OAuthError)
      (h : ResolveTrace identity past (.ret (.ok id)))
      (hf : FetchTrace identity rest (.ret (.error e))) :
      SignInTrace identity (past ++ rest) (.ret (.error e))
  | done (past rest : List (Reply authSig)) (id : AdminId) (account : AdminAccount)
      (h : ResolveTrace identity past (.ret (.ok id)))
      (hf : FetchTrace identity rest (.ret (.ok account))) :
      SignInTrace identity (past ++ rest) (.ret (.ok ⟨id, account.role⟩))

/-- The request that exchanges a code for the identity of a pending authorization. -/
def PendingAuthorization.exchange (pending : PendingAuthorization) (code : String) :
    ExchangeRequest :=
  ⟨code, pending.codeVerifier, pending.redirectUri, pending.nonce⟩

/-- The points of `complete`. -/
inductive CompleteTrace (providers : OAuthProviders ι) (state code : String) :
    List (Reply authSig) → Head authSig (Except OAuthError OAuthAuthenticatedAdmin) → Prop where
  | start : CompleteTrace providers state code [] (.call (.consume state))
  | fails (e : RepositoryError) : CompleteTrace providers state code
      [⟨.consume state, .error e⟩] (.ret (.error (.internal e.display)))
  | unknown : CompleteTrace providers state code
      [⟨.consume state, .ok none⟩] (.ret (.error .invalidState))
  | found (pending : PendingAuthorization) : CompleteTrace providers state code
      [⟨.consume state, .ok (some pending)⟩] (.call .now)
  | stale (pending : PendingAuthorization) (now : Int)
      (h : expired now pending.createdAt = true) : CompleteTrace providers state code
      [⟨.consume state, .ok (some pending)⟩, ⟨.now, now⟩] (.ret (.error .invalidState))
  | unregistered (pending : PendingAuthorization) (now : Int)
      (h : providers.registered pending.provider = false) : CompleteTrace providers state code
      [⟨.consume state, .ok (some pending)⟩, ⟨.now, now⟩]
      (.ret (.error (.config ("unknown provider " ++ pending.provider.name))))
  | exchange (pending : PendingAuthorization) (now : Int)
      (h : expired now pending.createdAt = false) : CompleteTrace providers state code
      [⟨.consume state, .ok (some pending)⟩, ⟨.now, now⟩]
      (.call (.exchangeCode pending.provider (pending.exchange code)))
  | rejected (pending : PendingAuthorization) (now : Int) (e : OAuthError) :
      CompleteTrace providers state code
      [⟨.consume state, .ok (some pending)⟩, ⟨.now, now⟩,
        ⟨.exchangeCode pending.provider (pending.exchange code), .error e⟩] (.ret (.error e))
  | signIn (pending : PendingAuthorization) (now : Int) (identity : OAuthIdentity)
      (rest : List (Reply authSig))
      (head : Head authSig (Except OAuthError OAuthAuthenticatedAdmin))
      (h : SignInTrace identity rest head) : CompleteTrace providers state code
      ([⟨.consume state, .ok (some pending)⟩, ⟨.now, now⟩,
        ⟨.exchangeCode pending.provider (pending.exchange code), .ok identity⟩] ++ rest) head

-- a program is followed without evaluating the emails it parses
attribute [local irreducible] Email.parse

theorem resolveAdmin_trace (identity : OAuthIdentity) (past : List (Reply authSig)) :
    Prog.Always (fun past' p => ∃ rest, past' = past ++ rest ∧ ResolveTrace identity rest p.head)
      past (OAuthLoginService.resolveAdmin identity) := by
  refine ⟨⟨[], (List.append_nil _).symm, .lookup⟩, ?_⟩
  rintro (e | found)
  · exact ⟨_, rfl, .lookupFails e⟩
  cases found with
  | some id => exact ⟨_, rfl, .linked id⟩
  | none =>
      dsimp only
      rw [Prog.bind_ret]
      dsimp only
      cases hemail : Email.parse identity.email with
      | error err => exact ⟨_, rfl, .unparsed err hemail⟩
      | ok email =>
          refine ⟨⟨_, rfl, .account email hemail⟩, ?_⟩
          rintro (e | _ | account)
          · exact ⟨_, List.append_assoc .., .accountFails email e⟩
          · exact ⟨_, List.append_assoc .., .nobody email⟩
          refine ⟨⟨_, List.append_assoc .., .link email hemail account⟩, ?_⟩
          rintro (e | ⟨⟩)
          · exact ⟨_, by simp only [List.append_assoc]; rfl, .linkFails email account e⟩
          · exact ⟨_, by simp only [List.append_assoc]; rfl, .linkDone email account⟩

theorem fetchAccount_trace (identity : OAuthIdentity) (past : List (Reply authSig)) :
    Prog.Always (fun past' p => ∃ rest, past' = past ++ rest ∧ FetchTrace identity rest p.head)
      past (OAuthLoginService.fetchAccount identity) := by
  rw [OAuthLoginService.fetchAccount]
  cases hemail : Email.parse identity.email with
  | error err => exact ⟨[], (List.append_nil _).symm, .unparsed err hemail⟩
  | ok email =>
      refine ⟨⟨[], (List.append_nil _).symm, .lookup email hemail⟩, ?_⟩
      rintro (e | _ | account)
      · exact ⟨_, rfl, .lookupFails email e⟩
      · exact ⟨_, rfl, .nobody email⟩
      · exact ⟨_, rfl, .done email account⟩

/-- What a callback does with the identity its code resolves to. -/
def OAuthLoginService.signIn (identity : OAuthIdentity) :
    Prog authSig (Except OAuthError OAuthAuthenticatedAdmin) := do
  match ← OAuthLoginService.resolveAdmin identity with
  | .error e => return .error e
  | .ok adminId =>
      match ← OAuthLoginService.fetchAccount identity with
      | .error e => return .error e
      | .ok account => return .ok ⟨adminId, account.role⟩

theorem signIn_trace (identity : OAuthIdentity) (past : List (Reply authSig)) :
    Prog.Always (fun past' p => ∃ rest, past' = past ++ rest ∧ SignInTrace identity rest p.head)
      past (OAuthLoginService.signIn identity) := by
  rw [OAuthLoginService.signIn]
  refine (resolveAdmin_trace identity past).bind ?_ ?_
  · rintro _ op _ ⟨rest, rfl, h⟩
    exact ⟨rest, rfl, .resolving rest op h⟩
  rintro _ (e | id) ⟨rest, rfl, h⟩
  · exact ⟨rest, rfl, .refused rest e h⟩
  refine (fetchAccount_trace identity (past ++ rest)).bind ?_ ?_
  · rintro _ op _ ⟨rest', rfl, hf⟩
    exact ⟨rest ++ rest', List.append_assoc .., .fetching rest rest' id op h hf⟩
  rintro _ (e | account) ⟨rest', rfl, hf⟩
  · exact ⟨rest ++ rest', List.append_assoc .., .fails rest rest' id e h hf⟩
  · exact ⟨rest ++ rest', List.append_assoc .., .done rest rest' id account h hf⟩

theorem complete_trace (providers : OAuthProviders ι) (state code : String) :
    Prog.Always (fun past p => CompleteTrace providers state code past p.head) []
      (OAuthLoginService.complete providers state code) := by
  refine ⟨.start, ?_⟩
  rintro (e | _ | pending)
  · exact .fails e
  · exact .unknown
  refine ⟨.found pending, fun now => ?_⟩
  simp only [Prog.bind_ret]
  cases hexpired : expired now pending.createdAt with
  | true => exact .stale pending now hexpired
  | false =>
      rw [if_neg Bool.false_ne_true]
      cases hregistered : providers.registered pending.provider with
      | false => exact .unregistered pending now hregistered
      | true =>
          rw [if_pos rfl]
          refine ⟨.exchange pending now hexpired, ?_⟩
          rintro (e | identity)
          · exact .rejected pending now e
          refine (signIn_trace identity _).mono ?_
          rintro _ p ⟨rest, rfl, h⟩
          exact .signIn pending now identity rest p.head h

/-! ### Where the answer comes from -/

/-- The administrator a callback resolved an identity to was found linked, or was linked. -/
def Resolved (identity : OAuthIdentity) (past : List (Reply authSig)) (id : AdminId) : Prop :=
  (⟨.findAdmin identity.provider identity.subject, .ok (some id)⟩ : Reply authSig) ∈ past ∨
    (⟨.link identity.provider identity.subject identity.email id, .ok ()⟩ : Reply authSig) ∈ past

theorem ResolveTrace.resolved {identity : OAuthIdentity} {past : List (Reply authSig)}
    {id : AdminId} (h : ResolveTrace identity past (.ret (.ok id))) :
    Resolved identity past id := by
  cases h with
  | linked => exact .inl List.mem_cons_self
  | linkDone email account => exact .inr (by simp)

/-- Signing an identity in exchanges no code. -/
theorem SignInTrace.no_exchange {identity : OAuthIdentity} {past : List (Reply authSig)}
    {head : Head authSig (Except OAuthError OAuthAuthenticatedAdmin)}
    (h : SignInTrace identity past head) (provider : ProviderId) (request : ExchangeRequest) :
    head ≠ .call (.exchangeCode provider request) ∧
      ∀ ans, (⟨.exchangeCode provider request, ans⟩ : Reply authSig) ∉ past := by
  cases h with
  | resolving past op h => cases h <;> simp
  | refused past e h => cases h <;> simp
  | fetching past rest id op h hf => cases h <;> cases hf <;> simp
  | fails past rest id e h hf => cases h <;> cases hf <;> simp
  | done past rest id account h hf => cases h <;> cases hf <;> simp

/-- A callback that signs in exchanged its code for one identity, and resolved it. -/
theorem CompleteTrace.signed_in {providers : OAuthProviders ι} {state code : String}
    {past : List (Reply authSig)} {out : OAuthAuthenticatedAdmin}
    (h : CompleteTrace providers state code past (.ret (.ok out))) :
    ∃ identity, Resolved identity past out.id ∧
      ∀ provider request other,
        (⟨.exchangeCode provider request, .ok other⟩ : Reply authSig) ∈ past →
          other = identity := by
  cases h with
  | signIn pending now identity rest _ h =>
      refine ⟨identity, ?_, ?_⟩
      · cases h with
        | done past rest id account h hf =>
            refine h.resolved.imp (fun hm => ?_) fun hm => ?_ <;> simp [hm]
      · intro provider request other hm
        rcases List.mem_append.mp hm with hm | hm
        · simp only [List.mem_cons, List.not_mem_nil, or_false] at hm
          rcases hm with hm | hm | hm <;> cases hm
          rfl
        · exact absurd hm ((h.no_exchange provider request).2 _)

end AuthApp.Accounts
