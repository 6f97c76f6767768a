import AuthApp.Accounts.Begin
import AuthApp.Accounts.OneAdmin
import AuthApp.Interleave.Trail

/-!
# Accounts — one flow, one exchange

Any number of `begin` and `complete` calls in any interleaving, with storage healthy and states
that never repeat.  A pending row is stored by one call, which drew its state, and is consumed by
one call at most; the call that consumes it may exchange its code with the secrets of that row.

* `began_of_insert`: a stored flow was drawn and stored by one `begin`.
* `found_began`: what a callback finds is what a `begin` stored.
* `found_once`: a state is found once.
* `one_exchange`: one exchange for each flow, with its own secrets; the other callbacks are refused.
-/

namespace AuthApp.Accounts
open Interleave Pool

variable {ι : Type}

/-! ### The system -/

/-- The secrets a generator draws, in order: no state is drawn twice. -/
structure SecretStream where
  state : Nat → String
  nonce : Nat → String
  pkce : Nat → PkcePair
  fresh : Function.Injective state

/-- How many states, nonces and PKCE pairs have been drawn. -/
abbrev Drawn := Nat × Nat × Nat

def SecretStream.generator (G : SecretStream) : OAuthSecretGenerator Drawn where
  state n := (G.state n.1, n.1 + 1, n.2)
  nonce n := (G.nonce n.2.1, n.1, n.2.1 + 1, n.2.2)
  pkce n := (G.pkce n.2.2, n.1, n.2.1, n.2.2 + 1)

inductive FlowRequest where
  | begin (provider : String)
  | complete (state code : String)
  deriving DecidableEq, Repr

inductive FlowResponse where
  | begun (r : Except OAuthError BeginOutcome)
  | completed (r : Except OAuthError OAuthAuthenticatedAdmin)

abbrev FlowPool (ι : Type) := Pool flowSig (AuthDb ι × Drawn) FlowRequest FlowResponse

/-- The program behind each request. -/
def FlowRequest.code (P : AuthPorts ι) (config : FlowConfig) :
    FlowRequest → Prog flowSig FlowResponse
  | .begin provider => (OAuthLoginService.begin P.providers config provider).map .begun
  | .complete state code =>
      (OAuthLoginService.complete P.providers state code).inl.map .completed

/-- Flows that are begun and completed, under a clock that moves at will. -/
def flowSystem (P : AuthPorts ι) (config : FlowConfig) (G : SecretStream) :
    System flowSig (AuthDb ι × Drawn) FlowRequest FlowResponse Unit AuthEnv where
  code := FlowRequest.code P config
  exec _ := flowServe P G.generator
  env a s := (a.act s.1, s.2)

/-- The points of each request. -/
def FlowTrace (P : AuthPorts ι) (config : FlowConfig) :
    FlowRequest → List (Reply flowSig) → Head flowSig FlowResponse → Prop
  | .begin provider, past, head =>
      ∃ hd, BeginTrace P.providers config provider past hd ∧ head = hd.map .begun
  | .complete state code, past, head =>
      ∃ hd, Prog.OnLeft (CompleteTrace P.providers state code) past hd ∧
        head = hd.map .completed

-- the programs are followed without evaluating the ids they parse
attribute [local irreducible] ProviderId.parse in
theorem flow_trace (P : AuthPorts ι) (config : FlowConfig) (request : FlowRequest) :
    Prog.Always (fun past p => FlowTrace P config request past p.head) []
      (request.code P config) := by
  cases request with
  | begin provider => exact (begin_trace P.providers config provider).map FlowResponse.begun
  | complete state code =>
      exact (complete_trace P.providers state code).inl.map FlowResponse.completed

/-! ### What is claimed -/

/-- The call `j` drew the secrets of the flow, and stored it. -/
def Began (config : FlowConfig) (p : FlowPool ι) (j : Nat) (flow : Flow) : Prop :=
  (∃ raw d, p.calls[j]? = some ⟨.begin raw, d⟩ ∧ ProviderId.parse raw = .ok flow.provider) ∧
    pastOf j p.log = flow.drawn ++ [⟨.inr (.insert (flow.pending config)), .ok ()⟩]

/-- The call `i` completes the state. -/
def Completes (p : FlowPool ι) (i : Nat) (state code : String) : Prop :=
  ∃ d, p.calls[i]? = some ⟨.complete state code, d⟩

/-- The step number `n` is an exchange, by the call `i`. -/
def Exchanges (p : FlowPool ι) (n i : Nat) (provider : ProviderId) (request : ExchangeRequest) :
    Prop :=
  ∃ e, p.log[n]? = some e ∧ e.caller = i ∧ e.op = .inl (.exchangeCode provider request)

structure OneExchange (config : FlowConfig) (p : FlowPool ι) : Prop where
  /-- States tell flows apart. -/
  distinct : ∀ i j flow flow', Began config p i flow → Began config p j flow' →
    flow.state = flow'.state → i = j
  /-- An exchange is with the provider and the secrets of the flow whose state is completed, whose
  age, as its call read the clock, is at most the limit and not negative. -/
  matched : ∀ n i provider request, Exchanges p n i provider request →
    ∃ j flow code secs now, Began config p j flow ∧ Completes p i flow.state code ∧
      provider = flow.provider ∧
      request = ⟨code, flow.pkce.verifier, OAuthLoginService.redirectUri config flow.provider,
        flow.nonce⟩ ∧
      toEpoch flow.createdAt = some secs ∧
      (⟨.inl .now, now⟩ : Reply flowSig) ∈ pastOf i (p.log.take n) ∧
      fromEpoch secs ≤ now ∧ now ≤ fromEpoch secs + pendingTtl
  /-- A state is exchanged once. -/
  once : ∀ n m i j a b c r state code code', Exchanges p n i a r → Exchanges p m j b c →
    Completes p i state code → Completes p j state code' → n = m
  /-- A call that exchanges nothing is refused, and changes no more than the row of its state. -/
  refused : ∀ i state code r, p.Returned i (.complete state code) (.completed r) →
    (∀ n provider request, ¬ Exchanges p n i provider request) →
      r = .error .invalidState ∧ ∀ e ∈ p.log, e.caller = i →
        e.post = e.pre ∨
          e.post = ({ e.pre.1 with pending := e.pre.1.pending.delete state }, e.pre.2)

section Runs
variable {P : AuthPorts ι} {config : FlowConfig} {G : SecretStream} {db : AuthDb ι} {drawn : Drawn}
  {p : FlowPool ι} {ok : FlowPool ι → Act FlowRequest Unit AuthEnv → Prop}

/-! ### Flows that were begun -/

/-- A flow that is stored was drawn and stored by one call. -/
theorem began_of_insert (h : (flowSystem P config G).Run ok (.init (db, drawn)) p) {j : Nat}
    {pending : PendingAuthorization}
    (hm : (⟨.inr (.insert pending), .ok ()⟩ : Reply flowSig) ∈ pastOf j p.log) :
    ∃ flow, Began config p j flow ∧ P.providers.registered flow.provider = true ∧
      pending = flow.pending config := by
  obtain ⟨e, he, rfl, -⟩ := mem_pastOf hm
  obtain ⟨⟨request, d⟩, hc⟩ : ∃ c, p.calls[e.caller]? = some c :=
    ⟨_, List.getElem?_eq_getElem (h.caller_lt e he)⟩
  have htrace := h.point (P := fun request past q => FlowTrace P config request past q.head)
    (flow_trace P config) hc
  cases request with
  | complete state code =>
      obtain ⟨hd, ⟨past₀, hd₀, -, hpast, -⟩, -⟩ := htrace
      rw [hpast] at hm
      obtain ⟨r, -, hr⟩ := List.mem_map.mp hm
      cases hr
  | begin raw =>
      obtain ⟨hd, htrace, -⟩ := htrace
      generalize hpast : pastOf e.caller p.log = past at htrace hm
      cases htrace with
      | refused err => cases hm
      | drawing _ op hno => exact absurd hm (hno pending _)
      | store flow => simp [Flow.drawn] at hm
      | fails flow err => simp [Flow.drawn] at hm
      | done flow hp hr =>
          have heq : pending = flow.pending config := by simpa [Flow.drawn] using hm
          exact ⟨flow, ⟨⟨raw, d, hc, hp⟩, hpast⟩, hr, heq⟩

/-- A state is drawn by one call. -/
theorem drawn_once (h : (flowSystem P config G).Run ok (.init (db, drawn)) p) {i j : Nat}
    {state : String} (hi : (⟨.inr .state, state⟩ : Reply flowSig) ∈ pastOf i p.log)
    (hj : (⟨.inr .state, state⟩ : Reply flowSig) ∈ pastOf j p.log) : i = j := by
  rw [← List.take_length (l := p.log)] at hi hj
  refine h.once (I := fun s => ∃ k < s.2.1, G.state k = state)
    (A := fun r => r = (⟨.inr .state, state⟩ : Reply flowSig)) (fun _ _ hs => hs) ?_ ?_ hi hj
    rfl rfl
  · rintro _ (op | _ | _ | _ | pending) s ⟨k, hk, hstate⟩
    · exact ⟨k, hk, hstate⟩
    · exact ⟨k, Nat.lt_succ_of_lt hk, hstate⟩
    · exact ⟨k, hk, hstate⟩
    · exact ⟨k, hk, hstate⟩
    · exact ⟨k, hk, hstate⟩
  · rintro _ s r t rfl hx
    cases hx
    refine ⟨?_, s.2.1, Nat.lt_succ_self _, rfl⟩
    rintro ⟨k, hk, hstate⟩
    exact Nat.ne_of_lt hk (G.fresh hstate)

theorem Began.drew {j : Nat} {flow : Flow} (h : Began config p j flow) :
    (⟨.inr .state, flow.state⟩ : Reply flowSig) ∈ pastOf j p.log := by
  rw [h.2]
  exact List.mem_cons_self

/-! ### What a callback finds -/

/-- A pending row was stored by a step before. -/
theorem inserted_before (h : (flowSystem P config G).Run ok (.init (db, drawn)) p)
    (hempty : db.pending.rows = []) {n : Nat} {e : Event flowSig (AuthDb ι × Drawn)}
    (hn : p.log[n]? = some e) {row : PendingRow} (hrow : row ∈ e.pre.1.pending.rows) :
    ∃ k f pending secs, k < n ∧ p.log[k]? = some f ∧
      (⟨f.op, f.ans⟩ : Reply flowSig) = ⟨.inr (.insert pending), .ok ()⟩ ∧
        toEpoch pending.createdAt = some secs ∧ row = pending.row secs := by
  obtain ⟨k, f, hk, hf, hpre, hpost⟩ := h.trail.turned_before
    (I := fun s => row ∈ s.1.pending.rows) (fun _ _ hs => hs) hn (by simp [hempty]) hrow
  obtain ⟨_, hx⟩ := h.event_exec f (List.mem_of_getElem? hf)
  have hpost' : row ∈ (flowServe P G.generator f.op f.pre).2.1.pending.rows := by
    rw [show flowServe P G.generator f.op f.pre = (f.ans, f.post) from hx]
    exact hpost
  rcases flowServe_row hpost' with hin | ⟨pending, secs, hins, hsecs, hr⟩
  · exact absurd hin hpre
  · rw [show flowServe P G.generator f.op f.pre = (f.ans, f.post) from hx] at hins
    exact ⟨k, f, pending, secs, hk, hf, hins, hsecs, hr⟩

/-- What a consumed state answers is a row of the table. -/
theorem AuthDb.consume_found {db : AuthDb ι} {state : String} {pending : PendingAuthorization}
    (h : (db.consume state).1 = .ok (some pending)) :
    ∃ row ∈ db.pending.rows, row.state = state ∧ rowToPending row = .ok pending := by
  rw [consume] at h
  cases hrow : db.pending.find? state with
  | none => rw [hrow] at h; cases h
  | some row =>
      rw [hrow] at h
      refine ⟨row, Table.mem_of_find? hrow, Table.key_of_find? hrow, ?_⟩
      dsimp only at h
      cases hp : rowToPending row with
      | error e => rw [hp] at h; cases h
      | ok pending' => rw [hp] at h; cases h; rfl

/-- What a callback finds is what one `begin` stored. -/
theorem found_began (h : (flowSystem P config G).Run ok (.init (db, drawn)) p)
    (hempty : db.pending.rows = []) {i n : Nat} {state : String} {pending : PendingAuthorization}
    (hm : (⟨.inl (.consume state), .ok (some pending)⟩ : Reply flowSig) ∈
      pastOf i (p.log.take n)) :
    ∃ j flow secs, Began config p j flow ∧ P.providers.registered flow.provider = true ∧
      flow.state = state ∧ toEpoch flow.createdAt = some secs ∧
        pending = { flow.pending config with createdAt := fromEpoch secs } := by
  obtain ⟨m, -, _, pre, post, hlog, hx⟩ := h.reply_exec hm
  obtain ⟨row, hrow, hstate, hp⟩ := AuthDb.consume_found (congrArg Prod.fst hx)
  obtain ⟨k, f, stored, secs, -, hf, hins, hsecs, rfl⟩ := inserted_before h hempty hlog hrow
  have hmem := mem_pastOf_of_mem (List.mem_of_getElem? hf)
  rw [hins] at hmem
  obtain ⟨flow, hbegan, hreg, rfl⟩ := began_of_insert h hmem
  rw [rowToPending_row] at hp
  exact ⟨f.caller, flow, secs, hbegan, hreg, hstate, hsecs, (Except.ok.inj hp).symm⟩

/-- A flow is stored after its four draws. -/
theorem insert_point (h : (flowSystem P config G).Run ok (.init (db, drawn)) p) {n : Nat}
    {e : Event flowSig (AuthDb ι × Drawn)} {pending : PendingAuthorization}
    (hn : p.log[n]? = some e) (hop : e.op = .inr (.insert pending)) :
    (pastOf e.caller (p.log.take n)).length = 4 := by
  obtain ⟨request, d, k, -, htrace⟩ := h.event_point
    (P := fun request past q => FlowTrace P config request past q.head) (flow_trace P config) hn
  rw [Prog.head, hop] at htrace
  cases request with
  | complete state code =>
      obtain ⟨hd, ⟨past₀, hd₀, -, -, rfl⟩, hhead⟩ := htrace
      have hcall := Head.map_eq_call hhead.symm
      cases hd₀ <;> cases hcall
  | begin raw =>
      obtain ⟨hd, htrace, hhead⟩ := htrace
      rw [Head.map_eq_call hhead.symm] at htrace
      generalize pastOf e.caller (p.log.take n) = past at htrace
      cases htrace with
      | drawing _ _ _ hop => simp at hop
      | store flow => rfl

/-- A state is stored once. -/
theorem stored_once (h : (flowSystem P config G).Run ok (.init (db, drawn)) p) {n m : Nat}
    {e f : Event flowSig (AuthDb ι × Drawn)} {a b : PendingAuthorization}
    (hn : p.log[n]? = some e) (hm : p.log[m]? = some f)
    (he : (⟨e.op, e.ans⟩ : Reply flowSig) = ⟨.inr (.insert a), .ok ()⟩)
    (hf : (⟨f.op, f.ans⟩ : Reply flowSig) = ⟨.inr (.insert b), .ok ()⟩)
    (hstate : a.state = b.state) : n = m := by
  have hmem := mem_pastOf_of_mem (List.mem_of_getElem? hn)
  have hmem' := mem_pastOf_of_mem (List.mem_of_getElem? hm)
  rw [he] at hmem
  rw [hf] at hmem'
  obtain ⟨flow, hbegan, -, rfl⟩ := began_of_insert h hmem
  obtain ⟨flow', hbegan', -, rfl⟩ := began_of_insert h hmem'
  have hdrew := hbegan'.drew
  rw [← show flow.state = flow'.state from hstate] at hdrew
  refine eq_of_length_pastOf hn hm (drawn_once h hbegan.drew hdrew) ?_
  rw [insert_point h hn (congrArg Reply.op he), insert_point h hm (congrArg Reply.op hf)]

/-- A state is found once. -/
theorem found_once (h : (flowSystem P config G).Run ok (.init (db, drawn)) p)
    (hempty : db.pending.rows = []) {n m : Nat} {e f : Event flowSig (AuthDb ι × Drawn)}
    {state : String} {a b : PendingAuthorization} (hn : p.log[n]? = some e)
    (hm : p.log[m]? = some f)
    (he : (⟨e.op, e.ans⟩ : Reply flowSig) = ⟨.inl (.consume state), .ok (some a)⟩)
    (hf : (⟨f.op, f.ans⟩ : Reply flowSig) = ⟨.inl (.consume state), .ok (some b)⟩) : n = m := by
  have hlt : ∀ {n m : Nat} {e f : Event flowSig (AuthDb ι × Drawn)} {a b : PendingAuthorization},
      p.log[n]? = some e → p.log[m]? = some f →
      (⟨e.op, e.ans⟩ : Reply flowSig) = ⟨.inl (.consume state), .ok (some a)⟩ →
      (⟨f.op, f.ans⟩ : Reply flowSig) = ⟨.inl (.consume state), .ok (some b)⟩ → ¬ n < m := by
    intro n m e f a b hn hm he hf hnm
    obtain ⟨_, hx⟩ := h.event_exec e (List.mem_of_getElem? hn)
    obtain ⟨_, hy⟩ := h.event_exec f (List.mem_of_getElem? hm)
    have hx' := exec_of_reply he hx
    have hy' := exec_of_reply hf hy
    obtain ⟨row, hrow, hstate, -⟩ := AuthDb.consume_found (congrArg Prod.fst hx')
    obtain ⟨row', hrow', hstate', -⟩ := AuthDb.consume_found (congrArg Prod.fst hy')
    -- the row of the first was stored before it, and that of the second after it
    obtain ⟨k, g, c, secs, hk, hg, hins, -, rfl⟩ := inserted_before h hempty hn hrow
    have hgone : row' ∉ e.post.1.pending.rows := by
      rw [show e.post = ((e.pre.1.consume state).2, e.pre.2) from (congrArg Prod.snd hx').symm,
        AuthDb.consume_snd]
      exact fun hin => (Table.mem_delete.mp hin).2 hstate'
    obtain ⟨k', g', hnk, -, hg', hpre, hpost⟩ := h.trail.turned_between
      (I := fun s => row' ∈ s.1.pending.rows) (fun _ _ hs => hs) hn hm hnm hgone hrow'
    obtain ⟨_, hz⟩ := h.event_exec g' (List.mem_of_getElem? hg')
    have hserve : flowServe P G.generator g'.op g'.pre = (g'.ans, g'.post) := hz
    have hpost' : row' ∈ (flowServe P G.generator g'.op g'.pre).2.1.pending.rows := by
      rw [hserve]
      exact hpost
    rcases flowServe_row hpost' with hin | ⟨c', secs', hins', -, rfl⟩
    · exact hpre hin
    · rw [hserve] at hins'
      have heq := stored_once h hg hg' hins hins' (hstate.trans hstate'.symm)
      omega
  have hnm := hlt hn hm he hf
  have hmn := hlt hm hn hf he
  omega

/-! ### One exchange -/

/-- An exchange is made on what its call found, once it was found young enough. -/
theorem exchange_point (h : (flowSystem P config G).Run ok (.init (db, drawn)) p) {n i : Nat}
    {provider : ProviderId} {request : ExchangeRequest} (hx : Exchanges p n i provider request) :
    ∃ state code pending now, Completes p i state code ∧
      provider = pending.provider ∧ request = pending.exchange code ∧
      pastOf i (p.log.take n) =
        [⟨.inl (.consume state), .ok (some pending)⟩, ⟨.inl .now, now⟩] ∧
      expired now pending.createdAt = false := by
  obtain ⟨e, hn, rfl, hop⟩ := hx
  obtain ⟨req, d, k, hc, htrace⟩ := h.event_point
    (P := fun request past q => FlowTrace P config request past q.head) (flow_trace P config) hn
  rw [Prog.head, hop] at htrace
  cases req with
  | begin raw =>
      obtain ⟨hd, htrace, hhead⟩ := htrace
      rw [Head.map_eq_call hhead.symm] at htrace
      generalize pastOf e.caller (p.log.take n) = past at htrace
      cases htrace with
      | drawing _ _ _ hop => simp at hop
  | complete state code =>
      obtain ⟨hd, ⟨past, hd₀, htrace, hpast, rfl⟩, hhead⟩ := htrace
      rw [Head.inl_eq_call_inl (Head.map_eq_call hhead.symm)] at htrace
      cases htrace with
      | exchange pending now hlive =>
          exact ⟨state, code, pending, now, ⟨d, hc⟩, rfl, rfl, hpast, hlive⟩
      | signIn pending now identity rest _ hs => exact absurd rfl (hs.no_exchange _ _).1

theorem Completes.unique {i : Nat} {state state' code code' : String}
    (h : Completes p i state code) (h' : Completes p i state' code') :
    state = state' ∧ code = code' := by
  obtain ⟨d, hd⟩ := h
  obtain ⟨d', hd'⟩ := h'
  rw [hd] at hd'
  cases hd'
  exact ⟨rfl, rfl⟩

theorem le_of_not_expired {now createdAt : Int} (h : expired now createdAt = false) :
    createdAt ≤ now ∧ now ≤ createdAt + pendingTtl := by
  rw [expired] at h
  cases hage : durationSince now createdAt with
  | none => rw [hage] at h; cases h
  | some age =>
      rw [hage] at h
      have hle : age ≤ pendingTtl := by simpa using h
      have hnow := durationSince_eq_some hage
      omega

/-- Two exchanges for one state are one step. -/
theorem exchanged_once (h : (flowSystem P config G).Run ok (.init (db, drawn)) p)
    (hempty : db.pending.rows = []) {n m i j : Nat} {a b : ProviderId} {c r : ExchangeRequest}
    {state code code' : String} (hn : Exchanges p n i a c) (hm : Exchanges p m j b r)
    (hi : Completes p i state code) (hj : Completes p j state code') : n = m := by
  obtain ⟨state₁, _, _, _, hc₁, -, -, hpast₁, -⟩ := exchange_point h hn
  obtain ⟨state₂, _, _, _, hc₂, -, -, hpast₂, -⟩ := exchange_point h hm
  obtain rfl := (hc₁.unique hi).1
  obtain rfl := (hc₂.unique hj).1
  obtain ⟨k, -, _, _, _, hk, -⟩ := h.reply_exec (hpast₁ ▸ List.mem_cons_self)
  obtain ⟨k', -, _, _, _, hk', -⟩ := h.reply_exec (hpast₂ ▸ List.mem_cons_self)
  obtain rfl := found_once h hempty hk hk' rfl rfl
  obtain rfl : i = j := congrArg Event.caller (Option.some.inj (hk.symm.trans hk'))
  obtain ⟨e, he, rfl, -⟩ := hn
  obtain ⟨f, hf, hcaller, -⟩ := hm
  refine eq_of_length_pastOf he hf hcaller.symm ?_
  rw [hcaller, hpast₁, hpast₂]
  rfl

/-- The step of a call that consumed its state, or read the clock, changed no more than the row. -/
theorem quiet_step (h : (flowSystem P config G).Run ok (.init (db, drawn)) p)
    {e : Event flowSig (AuthDb ι × Drawn)} {state : String} (he : e ∈ p.log)
    (hop : e.op = .inl (.consume state) ∨ e.op = .inl .now) :
    e.post = e.pre ∨
      e.post = ({ e.pre.1 with pending := e.pre.1.pending.delete state }, e.pre.2) := by
  obtain ⟨_, hx⟩ := h.event_exec e he
  obtain ⟨i, op, ans, pre, post⟩ := e
  rcases hop with rfl | rfl
  · refine .inr ((congrArg Prod.snd hx).symm.trans ?_)
    exact congrArg (fun db => (db, pre.2)) (pre.1.consume_snd state)
  · exact .inl (congrArg Prod.snd hx).symm

/-- A state that is consumed is decoded. -/
theorem consume_decodes (h : (flowSystem P config G).Run ok (.init (db, drawn)) p)
    (hempty : db.pending.rows = []) {i n : Nat} {state : String} {e : RepositoryError} :
    (⟨.inl (.consume state), .error e⟩ : Reply flowSig) ∉ pastOf i (p.log.take n) := by
  intro hm
  obtain ⟨m, -, _, pre, post, hlog, hx⟩ := h.reply_exec hm
  have hans : (pre.1.consume state).1 = .error e := congrArg Prod.fst hx
  rw [AuthDb.consume] at hans
  cases hrow : pre.1.pending.find? state with
  | none => rw [hrow] at hans; cases hans
  | some row =>
      obtain ⟨k, f, stored, secs, -, -, -, -, rfl⟩ := inserted_before h hempty hlog
        (Table.mem_of_find? hrow)
      rw [hrow] at hans
      dsimp only at hans
      rw [rowToPending_row] at hans
      cases hans

/-- A call that exchanges nothing is refused, for a state that is unknown or too old. -/
theorem refused_of_no_exchange (h : (flowSystem P config G).Run ok (.init (db, drawn)) p)
    (hempty : db.pending.rows = []) {i : Nat} {state code : String}
    {r : Except OAuthError OAuthAuthenticatedAdmin}
    (hret : p.Returned i (.complete state code) (.completed r))
    (hno : ∀ n provider request, ¬ Exchanges p n i provider request) :
    r = .error .invalidState ∧
      ∀ reply ∈ pastOf i p.log, reply.op = .inl (.consume state) ∨ reply.op = .inl .now := by
  obtain ⟨hd, ⟨past, hd₀, htrace, hpast, rfl⟩, hhead⟩ := h.point
    (P := fun request past q => FlowTrace P config request past q.head) (flow_trace P config) hret
  obtain ⟨r', hr', hresp⟩ := Head.map_eq_ret hhead.symm
  obtain rfl : hd₀ = .ret r' := Head.inl_eq_ret hr'
  obtain rfl : r' = r := FlowResponse.completed.inj hresp
  have hexchange : ∀ provider request ans,
      (⟨.exchangeCode provider request, ans⟩ : Reply authSig) ∉ past := by
    intro provider request ans hm
    have hm' : (⟨.inl (.exchangeCode provider request), ans⟩ : Reply flowSig) ∈ pastOf i p.log := by
      rw [hpast]
      exact List.mem_map.mpr ⟨_, hm, rfl⟩
    obtain ⟨e, he, hcaller, heq⟩ := mem_pastOf hm'
    obtain ⟨n, hn⟩ := List.mem_iff_getElem?.mp he
    exact hno n provider request ⟨e, hn, hcaller, congrArg Reply.op heq⟩
  rw [hpast]
  cases htrace with
  | fails e =>
      have hm : (⟨.inl (.consume state), .error e⟩ : Reply flowSig) ∈
          pastOf i (p.log.take p.log.length) := by
        rw [List.take_length, hpast]
        exact List.mem_cons_self
      exact absurd hm (consume_decodes h hempty)
  | unknown =>
      refine ⟨rfl, fun reply hm => ?_⟩
      obtain rfl := List.mem_singleton.mp hm
      exact .inl rfl
  | stale pending now hstale =>
      refine ⟨rfl, fun reply hm => ?_⟩
      rcases List.mem_cons.mp hm with rfl | hm
      · exact .inl rfl
      · obtain rfl := List.mem_singleton.mp hm
        exact .inr rfl
  | unregistered pending now hreg =>
      have hm : (⟨.inl (.consume state), .ok (some pending)⟩ : Reply flowSig) ∈
          pastOf i (p.log.take p.log.length) := by
        rw [List.take_length, hpast]
        exact List.mem_cons_self
      obtain ⟨j, flow, secs, -, hreg', -, -, rfl⟩ := found_began h hempty hm
      exact absurd (hreg.symm.trans hreg') Bool.false_ne_true
  | rejected pending now e =>
      exact absurd (by simp) (hexchange pending.provider (pending.exchange code) (.error e))
  | signIn pending now identity rest _ hs =>
      exact absurd (by simp) (hexchange pending.provider (pending.exchange code) (.ok identity))

/-- **One flow, one exchange.** In every interleaving of `begin` and `complete` calls, storage
healthy and states never repeated, a flow is exchanged once at most, in its time, with its provider
and its secrets; every other callback with its state is refused. -/
theorem one_exchange (h : (flowSystem P config G).Run (fun _ _ => True) (.init (db, drawn)) p)
    (hempty : db.pending.rows = []) : OneExchange config p := by
  constructor
  · intro i j flow flow' hi hj hstate
    have hdrew := hj.drew
    rw [← hstate] at hdrew
    exact drawn_once h hi.drew hdrew
  · intro n i provider request hx
    obtain ⟨state, code, pending, now, hc, rfl, rfl, hpast, hlive⟩ := exchange_point h hx
    obtain ⟨j, flow, secs, hbegan, -, rfl, hsecs, rfl⟩ := found_began h hempty
      (hpast ▸ List.mem_cons_self)
    obtain ⟨hle, hle'⟩ := le_of_not_expired hlive
    refine ⟨j, flow, code, secs, now, hbegan, hc, rfl, rfl, hsecs, ?_, hle, hle'⟩
    rw [hpast]
    exact List.mem_cons_of_mem _ List.mem_cons_self
  · intro n m i j a b c r state code code' hn hm hi hj
    exact exchanged_once h hempty hn hm hi hj
  · intro i state code r hret hno
    obtain ⟨hr, hquiet⟩ := refused_of_no_exchange h hempty hret hno
    refine ⟨hr, fun e he hcaller => quiet_step h he (hquiet ⟨e.op, e.ans⟩ ?_)⟩
    exact hcaller ▸ mem_pastOf_of_mem he

end Runs

/-! ### A replayed callback -/

/-- Secrets of growing length. -/
def unarySecrets : SecretStream where
  state n := .ofList (List.replicate n 's')
  nonce n := .ofList (List.replicate n 'n')
  pkce n := ⟨.ofList (List.replicate n 'v'), .ofList (List.replicate n 'c')⟩
  fresh n m h := by simpa using congrArg List.length (String.ofList_injective h)

def adminSite : FlowConfig where
  redirectBase := "https://admin.example.com/"
  authorizeUrl _ params := "https://accounts.example.com/authorize?state=" ++ params.state

/-- The administrators of `movedDb`, before anybody signs in. -/
def freshDb : AuthDb Unit := { movedDb with pending := .empty }

/-- A flow is begun and completed, and its callback is replayed. -/
def replayActs : List (Act FlowRequest Unit AuthEnv) :=
  .start (.begin "google") :: List.replicate 5 (.step 0 ()) ++
    .start (.complete "s" "c1") :: .start (.complete "s" "c1") :: .step 1 () :: .step 2 () ::
      List.replicate 6 (.step 1 ())

def replayPool : FlowPool Unit :=
  ((flowSystem movedPorts adminSite unarySecrets).acts replayActs
    (.init (freshDb, (1, 1, 1)))).get rfl

/-- The first callback signs in; the second is refused. -/
theorem replayed_callback :
    replayPool.Returned 1 (.complete "s" "c1") (.completed (.ok ⟨editorRow.id, editorRole⟩)) ∧
      replayPool.Returned 2 (.complete "s" "c1") (.completed (.error .invalidState)) ∧
        OneExchange adminSite replayPool :=
  have hrun : (flowSystem movedPorts adminSite unarySecrets).Run (fun _ _ => True)
      (.init (freshDb, (1, 1, 1))) replayPool :=
    .of_acts .refl (fun _ _ _ => trivial) (Option.some_get rfl).symm
  ⟨rfl, rfl, one_exchange hrun rfl⟩

end AuthApp.Accounts
