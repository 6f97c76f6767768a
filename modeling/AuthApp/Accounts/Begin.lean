import AuthApp.Accounts.Complete
import AuthApp.Interleave.Sum

/-!
# Accounts — beginning a flow

`OAuthLoginService::begin` draws the secrets of a flow and stores them as a pending authorization.
Its calls are those of the accounts context together with the secret generator and the insert.

* `begin_trace`: every point of a `begin`, by the answers it has had.
* `insertPending_row`: a stored flow is read back as it was stored, but for its part of a second.
-/

namespace AuthApp.Accounts
open Interleave

variable {ι τ : Type}

structure PkcePair where
  verifier : String
  challenge : String
  deriving DecidableEq, Repr

/-- The `OAuthSecretGenerator` port; `τ` is the randomness the secrets are drawn from. -/
structure OAuthSecretGenerator (τ : Type) where
  state : τ → String × τ
  nonce : τ → String × τ
  pkce : τ → PkcePair × τ

structure AuthorizeParams where
  state : String
  nonce : String
  codeChallenge : String
  redirectUri : String
  deriving DecidableEq, Repr

structure BeginOutcome where
  authorizeUrl : String
  deriving DecidableEq, Repr

/-- The origin of the callbacks, and the URL that each provider builds from the parameters. -/
structure FlowConfig where
  redirectBase : String
  authorizeUrl : ProviderId → AuthorizeParams → String

/-! ### The calls of a `begin` -/

inductive FlowOp where
  | state
  | nonce
  | pkce
  | insert (pending : PendingAuthorization)

abbrev FlowOp.Ans : FlowOp → Type
  | .state => String
  | .nonce => String
  | .pkce => PkcePair
  | .insert _ => Except RepositoryError Unit

/-- The calls of the accounts context, and those that begin a flow. -/
abbrev flowSig : Sig := authSig.sum ⟨FlowOp, FlowOp.Ans⟩

/-- `INSERT INTO oauth_pending_authorizations`: the state is new, and the instant is not null. -/
def AuthDb.insertPending (db : AuthDb ι) (pending : PendingAuthorization) :
    Except RepositoryError Unit × AuthDb ι :=
  match toEpoch pending.createdAt with
  | none => (.error (.backend "null instant in oauth_pending_authorizations"), db)
  | some createdAt =>
      match db.pending.insert? ⟨pending.state, pending.provider.name, pending.nonce,
          pending.codeVerifier, pending.redirectUri, createdAt⟩ with
      | some table => (.ok (), { db with pending := table })
      | none => (.error (.backend "insert violates the key of oauth_pending_authorizations"), db)

/-- What each call does when it is served. -/
def flowServe (P : AuthPorts ι) (G : OAuthSecretGenerator τ) : Exec flowSig (AuthDb ι × τ)
  | .inl op, s => ((AuthDb.serve P op s.1).1, (AuthDb.serve P op s.1).2, s.2)
  | .inr .state, s => ((G.state s.2).1, s.1, (G.state s.2).2)
  | .inr .nonce, s => ((G.nonce s.2).1, s.1, (G.nonce s.2).2)
  | .inr .pkce, s => ((G.pkce s.2).1, s.1, (G.pkce s.2).2)
  | .inr (.insert pending), s =>
      ((s.1.insertPending pending).1, (s.1.insertPending pending).2, s.2)

/-- The error a failing call answers. -/
def flowFault (msg : String) : (op : AuthOp ⊕ FlowOp) → Option (flowSig.Ans op)
  | .inl op => AuthOp.fault msg op
  | .inr .state => none
  | .inr .nonce => none
  | .inr .pkce => none
  | .inr (.insert _) => some (.error (.backend msg))

/-- A call under a fate. -/
def flowExec (P : AuthPorts ι) (G : OAuthSecretGenerator τ) (fate : Fate) :
    Exec flowSig (AuthDb ι × τ) :=
  Fate.under (S := flowSig) flowFault (flowServe P G) fate

/-! ### Beginning -/

namespace OAuthLoginService

/-- The callback of a provider. -/
def redirectUri (config : FlowConfig) (provider : ProviderId) : String :=
  .ofList (config.redirectBase.toList.rdropWhile (· = '/')) ++ "/auth/oauth/" ++ provider.name ++
    "/callback"

/-- Draw the secrets of a flow with a provider, and store it. -/
def openFlow (config : FlowConfig) (provider : ProviderId) :
    Prog flowSig (Except OAuthError BeginOutcome) := do
  let state ← Prog.perform (S := flowSig) (.inr .state)
  let nonce ← Prog.perform (S := flowSig) (.inr .nonce)
  let pkce ← Prog.perform (S := flowSig) (.inr .pkce)
  let now ← Prog.perform (S := flowSig) (.inl .now)
  match ← Prog.perform (S := flowSig) (.inr (.insert
      { state
        provider
        nonce
        codeVerifier := pkce.verifier
        redirectUri := redirectUri config provider
        createdAt := now })) with
  | .error e => return .error (.internal e.display)
  | .ok () =>
      return .ok ⟨config.authorizeUrl provider
        { state, nonce, codeChallenge := pkce.challenge,
          redirectUri := redirectUri config provider }⟩

/-- Begin a flow with the provider of the request. -/
def begin (providers : OAuthProviders ι) (config : FlowConfig) (providerRaw : String) :
    Prog flowSig (Except OAuthError BeginOutcome) :=
  match ProviderId.parse providerRaw with
  | .error e => return .error e
  | .ok provider =>
      if providers.registered provider then openFlow config provider
      else return .error (.config ("unknown provider " ++ provider.name))

end OAuthLoginService

/-! ### What a `begin` does, call by call -/

/-- The secrets of a flow, its provider, and when it was begun. -/
structure Flow where
  state : String
  nonce : String
  pkce : PkcePair
  provider : ProviderId
  createdAt : Int

/-- What is stored of a flow. -/
def Flow.pending (config : FlowConfig) (flow : Flow) : PendingAuthorization where
  state := flow.state
  provider := flow.provider
  nonce := flow.nonce
  codeVerifier := flow.pkce.verifier
  redirectUri := OAuthLoginService.redirectUri config flow.provider
  createdAt := flow.createdAt

/-- The answers a flow was made of. -/
def Flow.drawn (flow : Flow) : List (Reply flowSig) :=
  [⟨.inr .state, flow.state⟩, ⟨.inr .nonce, flow.nonce⟩, ⟨.inr .pkce, flow.pkce⟩,
    ⟨.inl .now, flow.createdAt⟩]

/-- The points of `begin`. -/
inductive BeginTrace (providers : OAuthProviders ι) (config : FlowConfig) (raw : String) :
    List (Reply flowSig) → Head flowSig (Except OAuthError BeginOutcome) → Prop where
  | refused (e : OAuthError) : BeginTrace providers config raw [] (.ret (.error e))
  | drawing (past : List (Reply flowSig)) (op : AuthOp ⊕ FlowOp)
      (hpast : ∀ pending ans, (⟨.inr (.insert pending), ans⟩ : Reply flowSig) ∉ past)
      (hop : op = .inr .state ∨ op = .inr .nonce ∨ op = .inr .pkce ∨ op = .inl .now) :
      BeginTrace providers config raw past (.call op)
  | store (flow : Flow) (hp : ProviderId.parse raw = .ok flow.provider)
      (hr : providers.registered flow.provider = true) :
      BeginTrace providers config raw flow.drawn (.call (.inr (.insert (flow.pending config))))
  | fails (flow : Flow) (e : RepositoryError) : BeginTrace providers config raw
      (flow.drawn ++ [⟨.inr (.insert (flow.pending config)), .error e⟩])
      (.ret (.error (.internal e.display)))
  | done (flow : Flow) (hp : ProviderId.parse raw = .ok flow.provider)
      (hr : providers.registered flow.provider = true) : BeginTrace providers config raw
      (flow.drawn ++ [⟨.inr (.insert (flow.pending config)), .ok ()⟩])
      (.ret (.ok ⟨config.authorizeUrl flow.provider ⟨flow.state, flow.nonce, flow.pkce.challenge,
        OAuthLoginService.redirectUri config flow.provider⟩⟩))

theorem begin_trace (providers : OAuthProviders ι) (config : FlowConfig) (raw : String) :
    Prog.Always (fun past p => BeginTrace providers config raw past p.head) []
      (OAuthLoginService.begin providers config raw) := by
  rw [OAuthLoginService.begin]
  cases hp : ProviderId.parse raw with
  | error e => exact .refused e
  | ok provider =>
      dsimp only
      cases hr : providers.registered provider with
      | false => exact .refused _
      | true =>
          refine ⟨.drawing _ _ (by simp) (by simp), fun state => ?_⟩
          refine ⟨.drawing _ _ (by simp) (by simp), fun nonce => ?_⟩
          refine ⟨.drawing _ _ (by simp) (by simp), fun pkce => ?_⟩
          refine ⟨.drawing _ _ (by simp) (by simp), fun now => ?_⟩
          refine ⟨.store ⟨state, nonce, pkce, provider, now⟩ hp hr, ?_⟩
          rintro (e | ⟨⟩)
          · exact .fails ⟨state, nonce, pkce, provider, now⟩ e
          · exact .done ⟨state, nonce, pkce, provider, now⟩ hp hr

/-! ### What the table keeps of a flow -/

/-- The row of a flow. -/
def PendingAuthorization.row (pending : PendingAuthorization) (createdAt : Int) : PendingRow :=
  ⟨pending.state, pending.provider.name, pending.nonce, pending.codeVerifier, pending.redirectUri,
    createdAt⟩

theorem rowToPending_row (pending : PendingAuthorization) (createdAt : Int) :
    rowToPending (pending.row createdAt) =
      .ok { pending with createdAt := fromEpoch createdAt } := by
  rw [rowToPending, PendingAuthorization.row, ProviderId.parse_name]

/-- An insert adds the row of the flow, or it is refused and changes nothing. -/
theorem AuthDb.insertPending_row (db : AuthDb ι) (pending : PendingAuthorization) {row : PendingRow}
    (h : row ∈ (db.insertPending pending).2.pending.rows) :
    row ∈ db.pending.rows ∨ (db.insertPending pending).1 = .ok () ∧
      ∃ secs, toEpoch pending.createdAt = some secs ∧ row = pending.row secs := by
  rw [insertPending] at h ⊢
  cases hsecs : toEpoch pending.createdAt with
  | none => rw [hsecs] at h; exact .inl h
  | some secs =>
      rw [hsecs] at h
      dsimp only at h ⊢
      split at h
      · next table hinsert =>
          dsimp only at h
          rw [Table.rows_insert? hinsert] at h
          rcases List.mem_append.mp h with h | h
          · exact .inl h
          · exact .inr ⟨rfl, secs, rfl, List.mem_singleton.mp h⟩
      · exact .inl h

/-- No call of the accounts context adds a pending row. -/
theorem AuthDb.serve_pending (P : AuthPorts ι) (op : AuthOp) (db : AuthDb ι) {row : PendingRow}
    (h : row ∈ (AuthDb.serve P op db).2.pending.rows) : row ∈ db.pending.rows := by
  cases op with
  | consume state =>
      rw [serve, consume_snd] at h
      exact (Table.mem_delete.mp h).1
  | link provider subject email id =>
      rw [serve, link] at h
      split at h <;> exact h
  | _ => exact h

/-- A pending row is there since before a call, or the call stored its flow. -/
theorem flowServe_row {P : AuthPorts ι} {G : OAuthSecretGenerator τ} {op : AuthOp ⊕ FlowOp}
    {s : AuthDb ι × τ} {row : PendingRow}
    (h : row ∈ (flowServe P G op s).2.1.pending.rows) :
    row ∈ s.1.pending.rows ∨ ∃ pending secs,
      (⟨op, (flowServe P G op s).1⟩ : Reply flowSig) = ⟨.inr (.insert pending), .ok ()⟩ ∧
        toEpoch pending.createdAt = some secs ∧ row = pending.row secs := by
  rcases op with op | _ | _ | _ | pending
  · exact .inl (AuthDb.serve_pending P op s.1 h)
  · exact .inl h
  · exact .inl h
  · exact .inl h
  · rcases s.1.insertPending_row pending h with h | ⟨hok, secs, hsecs, hrow⟩
    · exact .inl h
    · exact .inr ⟨pending, secs, congrArg (Reply.mk (S := flowSig) _) hok, hsecs, hrow⟩

end AuthApp.Accounts
