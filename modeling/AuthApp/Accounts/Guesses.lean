import AuthApp.Accounts.Login
import AuthApp.Interleave.Count

/-!
# Accounts — guesses in flight

Any number of logins with wrong passwords run against one account at the same time.  Each reads
the counters of the account, checks the password, and overwrites the counters with what it read
plus one failure.

* `write_of_guess`: the one write of a guess.
* `counters_kept`: while no write is stale, every failure is counted and no lock is loosened.
* `lost_failure`: two guesses that read before either writes are counted as one.
-/

namespace AuthApp.Accounts
open Interleave Pool

variable {ι : Type}

/-- Logins in flight, with storage healthy. -/
def loginSystem (P : AuthPorts ι) (policy : LockoutPolicy) :
    System authSig (AuthDb ι) LoginRequest (Except LoginError AuthenticatedAdmin) Unit AuthEnv where
  code := LoginService.login policy P.hasher
  exec := fun _ => AuthDb.serve P
  env := AuthEnv.act

/-- The call that writes the counters of an account. -/
def AuthOp.WritesLockout : AuthOp → Bool
  | .updateLockout .. => true
  | _ => false

theorem AuthDb.serve_admins (P : AuthPorts ι) {op : AuthOp} (h : op.WritesLockout = false)
    (db : AuthDb ι) : (serve P op db).2.admins = db.admins := by
  cases op with
  | updateLockout => cases h
  | consume state =>
      rw [serve, AuthDb.consume]
      split <;> rfl
  | link provider subject email adminId =>
      rw [serve, AuthDb.link]
      split <;> rfl
  | _ => rfl

/-- A stored account. -/
structure Target (ι : Type) where
  db : AuthDb ι
  email : Email
  row : AdminRow
  role : Role
  found : db.admins.findByEmail email = some row
  decodes : Role.parse row.role = .ok role

namespace Target

/-- Every login is for the account, and has a wrong password. -/
def Guesses (t : Target ι) (P : AuthPorts ι)
    (_ : Pool authSig (AuthDb ι) LoginRequest (Except LoginError AuthenticatedAdmin)) :
    Act LoginRequest Unit AuthEnv → Prop
  | .start request => Email.parse request.email = .ok t.email ∧
      P.hasher.verify request.password ⟨t.row.passwordHash⟩ = .ok false
  | _ => True

/-- The stored number of failures. -/
def failed (t : Target ι) (s : AuthDb ι) : Int :=
  ((s.admins.findByEmail t.email).map AdminRow.failedAttempts).getD 0

/-- The stored deadline. -/
def lock (t : Target ι) (s : AuthDb ι) : Option Int :=
  (s.admins.findByEmail t.email).bind AdminRow.lockedUntil

/-- A lock stored in `s` is still stored in `s'`, until no earlier. -/
def KeepsLock (t : Target ι) (s s' : AuthDb ι) : Prop :=
  ∀ d, t.lock s = some d → ∃ d', t.lock s' = some d' ∧ d ≤ d'

/-- The account is there, with its id, its password and its role. -/
def Stands (t : Target ι) (s : AuthDb ι) : Prop :=
  ∃ r, s.admins.findByEmail t.email = some r ∧ r.id = t.row.id ∧
    r.passwordHash = t.row.passwordHash ∧ r.role = t.row.role

end Target

/-- The login was answered `InvalidCredentials`. -/
def answeredInvalid (c : Call authSig LoginRequest (Except LoginError AuthenticatedAdmin)) : Bool :=
  match c.prog with
  | .ret (.error .invalidCredentials) => true
  | _ => false

section
variable {P : AuthPorts ι} {policy : LockoutPolicy} {t : Target ι}
  {p : Pool authSig (AuthDb ι) LoginRequest (Except LoginError AuthenticatedAdmin)}

/-- Each write of the counters meets those its call read, they are counts, the next is one too,
and a lock is only stored with failures enough to lock. -/
def Fresh (policy : LockoutPolicy) (t : Target ι)
    (p : Pool authSig (AuthDb ι) LoginRequest (Except LoginError AuthenticatedAdmin)) : Prop :=
  ∀ n e, p.log[n]? = some e → e.op.WritesLockout = true → ∀ account,
    ⟨.findByEmail t.email, .ok (some account)⟩ ∈ pastOf e.caller (p.log.take n) →
      ∃ r, e.pre.admins.findByEmail t.email = some r ∧ r.lockout = account.lockout ∧
        0 ≤ r.failedAttempts ∧ r.failedAttempts + 1 < 2 ^ 31 ∧
          (r.lockedUntil ≠ none → (policy.threshold : Int) ≤ r.failedAttempts + 1)

/-- Every failure is counted, and no lock is removed or shortened. -/
structure CountersKept (t : Target ι)
    (p : Pool authSig (AuthDb ι) LoginRequest (Except LoginError AuthenticatedAdmin)) : Prop where
  counted : p.Quiet → t.failed p.store = t.failed t.db + p.calls.countP answeredInvalid
  locked : ∀ (n m : Nat) (e f : Event authSig (AuthDb ι)), n ≤ m → p.log[n]? = some e →
    p.log[m]? = some f → t.KeepsLock e.pre f.post

/-! ### The account along a run -/

namespace Target

theorem stands (t : Target ι) : t.Stands t.db := ⟨t.row, t.found, rfl, rfl, rfl⟩

theorem Stands.serve {s : AuthDb ι} (h : t.Stands s) (op : AuthOp) :
    t.Stands (AuthDb.serve P op s).2 := by
  by_cases hw : op.WritesLockout = false
  · rw [Stands, AuthDb.serve_admins P hw]
    exact h
  cases op with
  | updateLockout id state =>
      obtain ⟨r, hr, hid, hhash, hrole⟩ := h
      rw [Stands, AuthDb.serve, AuthDb.updateLockout, AdminTable.findByEmail_updateLockout, hr]
      by_cases e : r.id = id
      · exact ⟨r.setLockout state, congrArg some (if_pos e), hid, hhash, hrole⟩
      · exact ⟨r, congrArg some (if_neg e), hid, hhash, hrole⟩
  | _ => exact absurd rfl hw

theorem Stands.act {s : AuthDb ι} (h : t.Stands s) (a : AuthEnv) : t.Stands (a.act s) := by
  cases a
  exact h

theorem stands_pre (h : (loginSystem P policy).Run (t.Guesses P) (.init t.db) p) {n : Nat}
    {e : Event authSig (AuthDb ι)} (hn : p.log[n]? = some e) : t.Stands e.pre := by
  refine h.trail.inv_before (fun a s hs => hs.act a) hn t.stands fun k g _ hk hs => ?_
  obtain ⟨c, hx⟩ := h.event_exec g (List.mem_of_getElem? hk)
  have hpost : g.post = (AuthDb.serve P g.op g.pre).2 := (congrArg Prod.snd hx).symm
  exact hpost ▸ hs.serve g.op

end Target

/-! ### What one guess does -/

/-- A guess that got as far as the password found the account, and its password is wrong. -/
theorem guess_settled (h : (loginSystem P policy).Run (t.Guesses P) (.init t.db) p) {i n : Nat}
    {request : LoginRequest} (hg : t.Guesses P p (.start request))
    {looked : List (Reply authSig)} {account : Option AdminAccount} {verified : Bool}
    (hl : Looked request.email looked account)
    (hlooked : ∀ r ∈ looked, r ∈ pastOf i (p.log.take n))
    (hver : ⟨.verify request.password
      ((account.map AdminAccount.passwordHash).getD P.hasher.referenceHash), .ok verified⟩ ∈
        pastOf i (p.log.take n)) :
    verified = false ∧ ∃ a, account = some a ∧ a.id = t.row.id ∧
      ⟨.findByEmail t.email, .ok (some a)⟩ ∈ pastOf i (p.log.take n) := by
  cases hl with
  | unparsed err herr =>
      rw [hg.1] at herr
      cases herr
  | parsed email hp =>
      obtain rfl : t.email = email := Except.ok.inj (hg.1.symm.trans hp)
      have hmem := hlooked _ (List.mem_singleton_self _)
      obtain ⟨m, -, c, pre, post, hm, hx⟩ := h.reply_exec hmem
      obtain ⟨r, hr, hid, hhash, hrole⟩ := Target.stands_pre h hm
      have hfound : pre.findByEmail t.email = .ok account := congrArg Prod.fst hx
      have hacc := AuthDb.findByEmail_eq_some_iff.mpr
        ⟨r, hr, rowToAccount_of_findByEmail hr (hrole ▸ t.decodes)⟩
      obtain rfl := Except.ok.inj (hfound.symm.trans hacc)
      obtain ⟨k, -, c', pre', post', -, hy⟩ := h.reply_exec hver
      have hv : P.hasher.verify request.password ⟨r.passwordHash⟩ = .ok verified :=
        congrArg Prod.fst hy
      rw [hhash, hg.2] at hv
      exact ⟨(Except.ok.inj hv).symm, _, rfl, hid, hmem⟩

/-- A guess writes the counters it read, with one more failure. -/
theorem write_of_guess (h : (loginSystem P policy).Run (t.Guesses P) (.init t.db) p) {n : Nat}
    {e : Event authSig (AuthDb ι)} (hn : p.log[n]? = some e) (hw : e.op.WritesLockout = true) :
    ∃ account now, e.op = .updateLockout t.row.id (policy.registerFailure account.lockout now) ∧
      LockoutPolicy.isLocked account.lockout now = false ∧
        ⟨.findByEmail t.email, .ok (some account)⟩ ∈ pastOf e.caller (p.log.take n) := by
  obtain ⟨request, d, k, hc, hk⟩ := h.event_point (login_trace policy P.hasher) hn
  obtain ⟨q, request', d', -, hg, -, hc'⟩ := h.started.2 n e hn
  obtain rfl : request = request' := congrArg Call.req (Option.some.inj (hc.symm.trans hc'))
  obtain ⟨i, op, ans, pre, post⟩ := e
  generalize hpast : pastOf i (p.log.take n) = past at hk
  cases hk with
  | start => cases hw
  | address now => cases hw
  | lookup now ipState email hp => cases hw
  | check now ipState looked account hl => cases hw
  | settle now ipState looked account verified rest head hl hs =>
      have hlooked : ∀ r ∈ looked, r ∈ pastOf i (p.log.take n) := by
        intro r hr
        simp [hpast, hr]
      have hver : ⟨.verify request.password
          ((account.map AdminAccount.passwordHash).getD P.hasher.referenceHash), .ok verified⟩ ∈
            pastOf i (p.log.take n) := by
        simp [hpast]
      obtain ⟨hfalse, a, rfl, hid, hmem⟩ := guess_settled h hg hl hlooked hver
      cases hs with
      | locked _ hlocked => cases hw
      | right _ hv => exact absurd (hfalse.symm.trans hv) Bool.false_ne_true
      | rightIp _ hv => cases hw
      | wrong _ hopen => exact ⟨a, now, by rw [hid], hopen, hpast ▸ hmem⟩
      | wrongIp _ => cases hw

/-- With storage healthy, no write is answered an error. -/
theorem write_ok (h : (loginSystem P policy).Run (t.Guesses P) (.init t.db) p) {i : Nat} :
    (∀ id state ans, ⟨.updateLockout id state, ans⟩ ∈ pastOf i p.log → ans = .ok ()) ∧
      ∀ ip state ans, ⟨.putIp ip state, ans⟩ ∈ pastOf i p.log → ans = .ok () := by
  rw [← List.take_length (l := p.log)]
  refine ⟨fun id state ans hr => ?_, fun ip state ans hr => ?_⟩
  · obtain ⟨m, -, c, pre, post, -, hx⟩ := h.reply_exec hr
    exact (congrArg Prod.fst hx).symm
  · obtain ⟨m, -, c, pre, post, -, hx⟩ := h.reply_exec hr
    exact (congrArg Prod.fst hx).symm

/-- A guess that has returned wrote the counters once when it was answered `InvalidCredentials`,
and never otherwise. -/
theorem writes_of_returned (h : (loginSystem P policy).Run (t.Guesses P) (.init t.db) p) {i : Nat}
    {c : Call authSig LoginRequest (Except LoginError AuthenticatedAdmin)}
    (hc : p.calls[i]? = some c) (hret : ∃ a, c.prog = .ret a) :
    (pastOf i p.log).countP (fun r => r.op.WritesLockout) = if answeredInvalid c then 1 else 0 := by
  obtain ⟨a, ha⟩ := hret
  obtain ⟨q, -, hg, -⟩ := h.started.1 i c hc
  have hk := h.point (login_trace policy P.hasher) hc
  obtain ⟨hupdate, hput⟩ := write_ok h (i := i)
  obtain ⟨request, prog⟩ := c
  obtain rfl : prog = .ret a := ha
  generalize hpast : pastOf i p.log = past at hk hupdate hput ⊢
  have hquiet : ∀ {looked : List (Reply authSig)} {account : Option AdminAccount},
      Looked request.email looked account →
        looked.countP (fun r => r.op.WritesLockout) = 0 := by
    intro looked account hl
    cases hl <;> rfl
  cases hk with
  | addressFails now e => rfl
  | addressLocked now ipState hlocked => rfl
  | lookupFails now ipState email e => rfl
  | checkFails now ipState looked account hl e =>
      rw [List.countP_append, List.countP_append, hquiet hl]
      rfl
  | settle now ipState looked account verified rest head hl hs =>
      have hlooked : ∀ r ∈ looked, r ∈ pastOf i (p.log.take p.log.length) := by
        intro r hr
        simp [hpast, hr]
      have hver : ⟨.verify request.password
          ((account.map AdminAccount.passwordHash).getD P.hasher.referenceHash), .ok verified⟩ ∈
            pastOf i (p.log.take p.log.length) := by
        simp [hpast]
      obtain ⟨hfalse, b, rfl, -, -⟩ := guess_settled h hg hl hlooked hver
      rw [List.countP_append, List.countP_append, List.countP_append, hquiet hl]
      cases hs with
      | lockedFails _ e => rfl
      | lockedDone _ => rfl
      | rightFails _ hv e => exact absurd (hfalse.symm.trans hv) Bool.false_ne_true
      | rightIpFails _ hv e => exact absurd (hfalse.symm.trans hv) Bool.false_ne_true
      | rightDone _ hv => exact absurd (hfalse.symm.trans hv) Bool.false_ne_true
      | wrongFails _ e => cases hupdate _ _ (.error e) (List.mem_append_right _ (.head _))
      | wrongIpFails _ e => cases hput _ _ (.error e) (List.mem_append_right _ (.tail _ (.head _)))
      | wrongDone _ => rfl

/-! ### One failure more, in the row -/

theorem AdminRow.failedAttempts_registerFailure {r : AdminRow} (h₀ : 0 ≤ r.failedAttempts)
    (hmax : r.failedAttempts + 1 < 2 ^ 31) (now : Int) :
    (r.setLockout (policy.registerFailure r.lockout now)).failedAttempts =
      r.failedAttempts + 1 := by
  have hcount : r.lockout.failedAttempts = r.failedAttempts.toNat := by
    rw [AdminRow.lockout, getState, max_eq_left h₀]
  have hnext : (policy.registerFailure r.lockout now).failedAttempts =
      r.failedAttempts.toNat + 1 := by
    rw [LockoutPolicy.failedAttempts_registerFailure, hcount]
    rw [hcount, u32Max]
    omega
  rw [AdminRow.setLockout, putState, hnext, asI32]
  dsimp only
  omega

/-- A stored lock that no longer holds is overwritten by one that ends later. -/
theorem AdminRow.lockedUntil_registerFailure {r : AdminRow} (hmax : r.failedAttempts + 1 < 2 ^ 31)
    {now : Int} (hopen : LockoutPolicy.isLocked r.lockout now = false) {d : Int}
    (hd : r.lockedUntil = some d) (hth : (policy.threshold : Int) ≤ r.failedAttempts + 1) :
    ∃ d', (r.setLockout (policy.registerFailure r.lockout now)).lockedUntil = some d' ∧
      d ≤ d' := by
  have hread : r.lockout.lockedUntil = some (fromEpoch d) := by
    rw [AdminRow.lockout, getState, hd]
    rfl
  have hpast : fromEpoch d ≤ now := by
    rw [LockoutPolicy.isLocked, hread] at hopen
    simpa using hopen
  have hlocks : policy.threshold ≤ saturatingAdd r.lockout.failedAttempts 1 := by
    rw [saturatingAdd, AdminRow.lockout, getState, u32Max]
    dsimp only
    omega
  obtain ⟨til, htil, hle⟩ :
      ∃ til, (policy.registerFailure r.lockout now).lockedUntil = some til ∧ now ≤ til :=
    LockoutPolicy.lockedUntil_registerFailure hlocks
  simp only [fromEpoch, nanosPerSec] at hpast
  refine ⟨til / nanosPerSec, ?_, ?_⟩
  · rw [AdminRow.setLockout, putState, htil, Option.bind_some, toEpoch, if_pos (by omega)]
  · simp only [nanosPerSec]
    omega

/-! ### The run -/

/-- A write that is not stale counts one failure, and keeps the lock. -/
theorem write_of_fresh (h : (loginSystem P policy).Run (t.Guesses P) (.init t.db) p)
    (hf : Fresh policy t p) {n : Nat} {e : Event authSig (AuthDb ι)} (hn : p.log[n]? = some e)
    (hw : e.op.WritesLockout = true) :
    t.failed e.post = t.failed e.pre + 1 ∧ t.KeepsLock e.pre e.post := by
  obtain ⟨account, now, hop, hopen, hmem⟩ := write_of_guess h hn hw
  obtain ⟨r, hr, hread, h₀, hmax, hth⟩ := hf n e hn hw account hmem
  obtain ⟨s, hs, hid, -, -⟩ := Target.stands_pre h hn
  obtain rfl : r = s := Option.some.inj (hr.symm.trans hs)
  obtain ⟨c, hx⟩ := h.event_exec e (List.mem_of_getElem? hn)
  have hpost : e.post = (AuthDb.serve P e.op e.pre).2 := (congrArg Prod.snd hx).symm
  rw [← hread] at hop hopen
  have hrow : e.post.admins.findByEmail t.email =
      some (r.setLockout (policy.registerFailure r.lockout now)) := by
    rw [hpost, hop, AuthDb.serve, AuthDb.updateLockout, AdminTable.findByEmail_updateLockout, hr]
    exact congrArg some (if_pos hid)
  constructor
  · rw [Target.failed, Target.failed, hrow, hr]
    exact AdminRow.failedAttempts_registerFailure h₀ hmax now
  · intro d hd
    rw [Target.lock, hr] at hd
    rw [Target.lock, hrow]
    refine AdminRow.lockedUntil_registerFailure hmax hopen hd (hth ?_)
    rw [show r.lockedUntil = some d from hd]
    exact Option.some_ne_none d

theorem step_of_fresh (h : (loginSystem P policy).Run (t.Guesses P) (.init t.db) p)
    (hf : Fresh policy t p) {n : Nat} {e : Event authSig (AuthDb ι)} (hn : p.log[n]? = some e) :
    (t.failed e.post = t.failed e.pre + if e.op.WritesLockout then 1 else 0) ∧
      t.KeepsLock e.pre e.post := by
  by_cases hw : e.op.WritesLockout = true
  · rw [if_pos hw]
    exact write_of_fresh h hf hn hw
  · obtain ⟨c, hx⟩ := h.event_exec e (List.mem_of_getElem? hn)
    have hpost : e.post = (AuthDb.serve P e.op e.pre).2 := (congrArg Prod.snd hx).symm
    have hadmins := AuthDb.serve_admins P (by simpa using hw) e.pre
    rw [if_neg hw, Target.failed, Target.KeepsLock, Target.lock, Target.lock, hpost, hadmins]
    exact ⟨(Int.add_zero _).symm, fun d hd => ⟨d, hd, le_rfl⟩⟩

/-- **Counters.** In every interleaving of logins with wrong passwords against one account, while
no write is stale, the failures grow by the number of calls that were answered
`InvalidCredentials`, and no lock is removed or shortened. -/
theorem counters_kept (P : AuthPorts ι) (policy : LockoutPolicy) (t : Target ι)
    (p : Pool authSig (AuthDb ι) LoginRequest (Except LoginError AuthenticatedAdmin))
    (h : (loginSystem P policy).Run (t.Guesses P) (.init t.db) p) (hf : Fresh policy t p) :
    CountersKept t p where
  counted := by
    intro hq
    have henv : ∀ a s, t.failed ((loginSystem P policy).env a s) = t.failed s := by
      intro a s
      cases a
      rfl
    have hcount := h.trail.count (A := fun e : Event authSig (AuthDb ι) => e.op.WritesLockout)
      henv fun e he => by
        obtain ⟨n, hn⟩ := List.mem_iff_getElem?.mp he
        exact (step_of_fresh h hf hn).1
    rw [hcount, h.countP_calls (A := fun r => r.op.WritesLockout) fun i c hc =>
      writes_of_returned h hc (hq c (List.mem_of_getElem? hc))]
  locked := by
    intro n m e f hnm hn hm
    have hlast := (step_of_fresh h hf hm).2
    rcases Nat.eq_or_lt_of_le hnm with rfl | hlt
    · obtain rfl := Option.some.inj (hn.symm.trans hm)
      exact hlast
    have htrans : ∀ {a b c}, t.KeepsLock a b → t.KeepsLock b c → t.KeepsLock a c := by
      intro a b c hab hbc d hd
      obtain ⟨d', hd', hle⟩ := hab d hd
      obtain ⟨d'', hd'', hle'⟩ := hbc d' hd'
      exact ⟨d'', hd'', hle.trans hle'⟩
    refine htrans ?_ hlast
    refine (h.trail.sinceTo hn hm hlt).mono (M := t.KeepsLock) (fun s d hd => ⟨d, hd, le_rfl⟩)
      htrans ?_ ?_
    · intro a s d hd
      cases a
      exact ⟨d, hd, le_rfl⟩
    · intro g hg
      obtain ⟨k, hk⟩ := List.mem_iff_getElem?.mp (List.mem_of_mem_take (List.mem_of_mem_drop hg))
      exact (step_of_fresh h hf hk).2

end

/-! ### Two guesses, read before either writes -/

/-- One administrator, one failure short of a lock. -/
def editorUser : AdminRow := ⟨⟨"a"⟩, editorEmail.address, "secret", 4, none, "editor", none⟩

def editorTarget : Target Unit where
  db := { noAdmins with admins := (noAdmins.admins.insert? editorUser).get rfl }
  email := editorEmail
  row := editorUser
  role := editorRole
  found := by decide
  decodes := by decide

def guessFrom (ip : String) : LoginRequest := ⟨"ed@example.com", "guess", ip⟩

theorem guessFrom_allowed (ip : String)
    (q : Pool authSig (AuthDb Unit) LoginRequest (Except LoginError AuthenticatedAdmin)) :
    editorTarget.Guesses plainPorts q (.start (guessFrom ip)) :=
  ⟨editorEmail.parse_address, rfl⟩

/-- The second guess comes ten seconds after the first and is done before the first writes. -/
def staleGuesses : Pool authSig (AuthDb Unit) LoginRequest (Except LoginError AuthenticatedAdmin) :=
  ((loginSystem plainPorts .recommended).acts
    ([.start (guessFrom "10.0.0.1"), .step 0 (), .step 0 (), .step 0 (),
      .env (.clock (fromSecs 10)),
      .start (guessFrom "10.0.0.2")] ++ List.replicate 6 (.step 1 ()) ++
        List.replicate 3 (.step 0 ())) (.init editorTarget.db)).get rfl

theorem staleGuesses_run : (loginSystem plainPorts .recommended).Run
    (editorTarget.Guesses plainPorts) (.init editorTarget.db) staleGuesses := by
  refine .of_acts .refl ?_ (Option.some_get rfl).symm
  intro a ha q
  cases a with
  | step i c => trivial
  | env e => trivial
  | start request =>
      simp at ha
      rcases ha with rfl | rfl <;> exact guessFrom_allowed _ q

/-- Both are answered `InvalidCredentials`; the failures grow by one for the two of them, and the
deadline, set to the seventieth second, is set back to the sixtieth. -/
theorem lost_failure :
    (loginSystem plainPorts .recommended).Run (editorTarget.Guesses plainPorts)
        (.init editorTarget.db) staleGuesses ∧ staleGuesses.Quiet ∧
      editorTarget.failed staleGuesses.store <
        editorTarget.failed editorTarget.db + staleGuesses.calls.countP answeredInvalid ∧
      ∃ e f, staleGuesses.log[8]? = some e ∧ staleGuesses.log[10]? = some f ∧
        ¬ editorTarget.KeepsLock e.pre f.post := by
  refine ⟨staleGuesses_run, ?_, by decide, _, _, rfl, rfl, fun h => ?_⟩
  · exact Pool.quiet_of_answers [(guessFrom "10.0.0.1", .error .invalidCredentials),
      (guessFrom "10.0.0.2", .error .invalidCredentials)] rfl
  · obtain ⟨d, hd, hle⟩ := h 70 rfl
    obtain rfl : (60 : Int) = d := Option.some.inj hd
    exact absurd hle (by decide)

/-! ### Two guesses in turn -/

/-- The second guess reads the clock, when the lock of the first will be over, before the first
writes, and the account after that. -/
def guessesInTurn :
    Pool authSig (AuthDb Unit) LoginRequest (Except LoginError AuthenticatedAdmin) :=
  ((loginSystem plainPorts .recommended).acts
    ([.start (guessFrom "10.0.0.1"), .start (guessFrom "10.0.0.2")] ++
      List.replicate 4 (.step 0 ()) ++ [.env (.clock (fromSecs 70)), .step 1 (), .step 1 ()] ++
        List.replicate 2 (.step 0 ()) ++ List.replicate 4 (.step 1 ()))
    (.init editorTarget.db)).get rfl

theorem guessesInTurn_run : (loginSystem plainPorts .recommended).Run
    (editorTarget.Guesses plainPorts) (.init editorTarget.db) guessesInTurn := by
  refine .of_acts .refl ?_ (Option.some_get rfl).symm
  intro a ha q
  cases a with
  | step i c => trivial
  | env e => trivial
  | start request =>
      simp at ha
      rcases ha with rfl | rfl <;> exact guessFrom_allowed _ q

/-- The seventh step and the eleventh write. -/
theorem guessesInTurn_writes {n : Nat} {e : Event authSig (AuthDb Unit)}
    (hn : guessesInTurn.log[n]? = some e) (hw : e.op.WritesLockout = true) : n = 6 ∨ n = 10 := by
  have hmap : (guessesInTurn.log.map fun e => e.op.WritesLockout)[n]? = some true := by
    rw [List.getElem?_map, hn, ← hw]
    rfl
  have hlog : (guessesInTurn.log.map fun e => e.op.WritesLockout) =
      [false, false, false, false, false, false, true, false, false, false, true, false] := rfl
  rw [hlog] at hmap
  have hwrites : ∀ n < 12, [false, false, false, false, false, false, true, false, false, false,
      true, false][n]? = some true → n = 6 ∨ n = 10 := by decide
  exact hwrites n (List.getElem?_eq_some_iff.mp hmap).1 hmap

/-- The account as the guesses find it. -/
def editorAccount (lockout : LockoutState) : AdminAccount :=
  ⟨⟨"a"⟩, editorEmail, ⟨"secret"⟩, lockout, editorRole, none⟩

theorem guessesInTurn_reads :
    pastOf 0 (guessesInTurn.log.take 6) =
        [⟨.now, 0⟩, ⟨.getIp "10.0.0.1", .ok .clear⟩,
          ⟨.findByEmail editorEmail, .ok (some (editorAccount ⟨4, none⟩))⟩,
          ⟨.verify "guess" ⟨"secret"⟩, .ok false⟩] ∧
      pastOf 1 (guessesInTurn.log.take 10) =
        [⟨.now, (fromSecs 70 : Int)⟩, ⟨.getIp "10.0.0.2", .ok .clear⟩,
          ⟨.findByEmail editorEmail, .ok (some (editorAccount ⟨5, some (fromSecs 60)⟩))⟩,
          ⟨.verify "guess" ⟨"secret"⟩, .ok false⟩] :=
  ⟨rfl, rfl⟩

/-- Each of the two writes on what its guess has read. -/
theorem guessesInTurn_fresh : Fresh .recommended editorTarget guessesInTurn := by
  intro n e hn hw account hmem
  rcases guessesInTurn_writes hn hw with rfl | rfl
  · have hcaller : some 0 = some e.caller := congrArg (Option.map Event.caller) hn
    have hrow : some (some editorUser) = some (e.pre.admins.findByEmail editorEmail) :=
      congrArg (Option.map fun e : Event authSig (AuthDb Unit) =>
        e.pre.admins.findByEmail editorEmail) hn
    rw [← Option.some.inj hcaller, guessesInTurn_reads.1] at hmem
    obtain rfl : account = editorAccount ⟨4, none⟩ := by
      simpa [editorTarget] using hmem
    exact ⟨editorUser, (Option.some.inj hrow).symm, rfl, by decide, by decide,
      fun h => absurd rfl h⟩
  · have hcaller : some 1 = some e.caller := congrArg (Option.map Event.caller) hn
    have hrow : some (some { editorUser with failedAttempts := 5, lockedUntil := some 60 }) =
        some (e.pre.admins.findByEmail editorEmail) :=
      congrArg (Option.map fun e : Event authSig (AuthDb Unit) =>
        e.pre.admins.findByEmail editorEmail) hn
    rw [← Option.some.inj hcaller, guessesInTurn_reads.2] at hmem
    obtain rfl : account = editorAccount ⟨5, some (fromSecs 60)⟩ := by
      simpa [editorTarget] using hmem
    exact ⟨_, (Option.some.inj hrow).symm, rfl, by decide, by decide, fun _ => by decide⟩

/-- Both are answered `InvalidCredentials`, and both are counted. -/
theorem guessesInTurn_counted :
    guessesInTurn.Quiet ∧ guessesInTurn.calls.countP answeredInvalid = 2 ∧
      CountersKept editorTarget guessesInTurn := by
  refine ⟨?_, rfl, counters_kept plainPorts .recommended editorTarget guessesInTurn
    guessesInTurn_run guessesInTurn_fresh⟩
  exact Pool.quiet_of_answers [(guessFrom "10.0.0.1", .error .invalidCredentials),
    (guessFrom "10.0.0.2", .error .invalidCredentials)] rfl

end AuthApp.Accounts
