import AuthApp.Accounts.Answered
import AuthApp.Accounts.Attempt
import AuthApp.Interleave.Replay

/-!
# Accounts — a login that fails inside

A login whose repository or hasher fails is an internal error, and ends there.  The account and the
address are written one after the other, with nothing that would take the first write back.

* `eq_of_reads`: calls that only read leave the database as it was.
* `internal_leaves`: what a login that ends in an internal error leaves behind.
-/

namespace AuthApp.Accounts
open Interleave
variable {ι : Type}

/-- A login, alone, whose calls meet these fates. -/
def loginRun (P : AuthPorts ι) (policy : LockoutPolicy) (fates : List Fate) (request : LoginRequest)
    (db : AuthDb ι) : Option (Except LoginError AuthenticatedAdmin) × AuthDb ι :=
  (LoginService.login policy P.hasher request).runFates (AuthDb.exec P) fates db

/-- A call that fails has no effect. -/
def FailsClean (fates : List Fate) : Prop := ∀ msg, Fate.unacknowledged msg ∉ fates

/-- What the account is written with, once the password is checked. -/
def written (policy : LockoutPolicy) (now : Int) (account : AdminAccount) (verified : Bool) :
    LockoutState :=
  if verified then .clear else policy.registerFailure account.lockout now

/-- The account of the request was written, and then the write of the address failed: it is the
sixth call.  The account is cleared after its own password, and has failed once more after any
other. -/
def HalfWritten (P : AuthPorts ι) (policy : LockoutPolicy) (fates : List Fate)
    (request : LoginRequest) (db db' : AuthDb ι) : Prop :=
  ∃ account verified msg,
    db.lookup request.email = .ok (some account) ∧
      P.hasher.verify request.password account.passwordHash = .ok verified ∧
      LockoutPolicy.isLocked account.lockout db.clock = false ∧
      fates[5]? = some (.refused msg) ∧
      db'.admins = db.admins.updateLockout account.id (written policy db.clock account verified)

/-- The calls that only read. -/
def AuthOp.reads : AuthOp → Bool
  | .now | .getIp _ | .findByEmail _ | .verify .. => true
  | _ => false

section
variable {P : AuthPorts ι} {fate : Fate} {fates : List Fate} {db db' : AuthDb ι}

theorem AuthDb.exec_reads {op : AuthOp} (h : op.reads = true) :
    (AuthDb.exec P fate op db).2 = db := by
  rcases Fate.under_state (S := authSig) AuthOp.fault (AuthDb.serve P) fate op db with e | e
  · exact e
  · refine e.trans ?_
    cases op with
    | now | getIp | findByEmail | verify => rfl
    | _ => cases h

/-- A call whose answer is no failure was served. -/
theorem AuthDb.exec_of_answers {op : AuthOp}
    (h : op.answers (AuthDb.exec P fate op db).1 = true) :
    AuthDb.exec P fate op db = AuthDb.serve P op db := by
  cases fate with
  | served => rfl
  | refused msg =>
      cases op with
      | now | exchangeCode => rfl
      | _ => cases h
  | unacknowledged msg =>
      cases op with
      | now | exchangeCode => rfl
      | _ => cases h

/-- A call that would have been answered, and failed without effect, was refused. -/
theorem AuthDb.refused_of_fails {op : AuthOp} (hserve : op.answers (AuthDb.serve P op db).1 = true)
    (hclean : ∀ msg, fate ≠ .unacknowledged msg)
    (h : op.answers (AuthDb.exec P fate op db).1 = false) :
    (∃ msg, fate = .refused msg) ∧ (AuthDb.exec P fate op db).2 = db := by
  cases fate with
  | served => exact absurd (hserve.symm.trans h) (by decide)
  | unacknowledged msg => exact absurd rfl (hclean msg)
  | refused msg =>
      refine ⟨⟨msg, rfl⟩, ?_⟩
      cases op with
      | now | exchangeCode => exact absurd (hserve.symm.trans h) (by decide)
      | _ => rfl

theorem eq_of_reads {past : List (Reply authSig)} (hreads : ∀ r ∈ past, r.op.reads = true)
    (h : Replays (AuthDb.exec P) fates past db db') : db' = db := by
  induction past generalizing fates db with
  | nil => exact replays_nil.mp h
  | cons r past ih =>
      obtain ⟨fate, rest, rfl, -, hrest⟩ := replays_cons_iff.mp h
      rw [AuthDb.exec_reads (hreads r List.mem_cons_self)] at hrest
      exact ih (fun r hr => hreads r (List.mem_cons_of_mem _ hr)) hrest

/-- A write of an account or of an address that fails leaves nothing. -/
theorem refused_of_replays {op : AuthOp} {ans : op.Ans}
    (hserve : op.answers (AuthDb.serve P op db).1 = true) (hclean : FailsClean fates)
    (hfails : op.answers ans = false)
    (h : Replays (S := authSig) (AuthDb.exec P) fates [⟨op, ans⟩] db db') :
    (∃ msg, fates.head? = some (.refused msg)) ∧ db' = db := by
  obtain ⟨fate, rest, rfl, hans, hrest⟩ := replays_cons_iff.mp h
  have hans : (AuthDb.exec P fate op db).1 = ans := hans
  subst hans
  obtain ⟨⟨msg, rfl⟩, hstate⟩ := AuthDb.refused_of_fails hserve
    (fun msg heq => hclean msg (heq ▸ List.mem_cons_self)) hfails
  exact ⟨⟨msg, rfl⟩, (replays_nil.mp hrest).trans hstate⟩

end

/-! ### The calls of a login that fails -/

/-- How `settle` comes to an internal error: by a first write that fails, or by the write of the
address, after the account's. -/
inductive SettleFails (policy : LockoutPolicy) (now : Int) (verified : Bool) :
    Option AdminAccount → List (Reply authSig) → Prop where
  | ip (account : Option AdminAccount) (ip : String) (state : LockoutState) (e : RepositoryError) :
      SettleFails policy now verified account [⟨.putIp ip state, .error e⟩]
  | account (account : AdminAccount) (state : LockoutState) (e : RepositoryError) :
      SettleFails policy now verified (some account) [⟨.updateLockout account.id state, .error e⟩]
  | both (account : AdminAccount) (h : LockoutPolicy.isLocked account.lockout now = false)
      (ip : String) (state : LockoutState) (e : RepositoryError) :
      SettleFails policy now verified (some account)
        [⟨.updateLockout account.id (written policy now account verified), .ok ()⟩,
          ⟨.putIp ip state, .error e⟩]

theorem settle_fails (policy : LockoutPolicy) (ip : String) (ipState : LockoutState) (now : Int)
    (verified : Bool) (account : Option AdminAccount) (past : List (Reply authSig)) :
    Prog.Returns (fun past' r => ∀ msg, r = .error (.internal msg) →
        ∃ rest, past' = past ++ rest ∧ SettleFails policy now verified account rest) past
      (LoginService.settle policy ip ipState now verified account) := by
  cases account with
  | none =>
      rintro (e | ⟨⟩)
      · exact fun _ _ => ⟨_, rfl, .ip none ip _ e⟩
      · intro _ h
        cases h
  | some account =>
      rw [LoginService.settle]
      by_cases hl : LockoutPolicy.isLocked account.lockout now
      · rw [if_pos hl]
        rintro (e | ⟨⟩)
        · exact fun _ _ => ⟨_, rfl, .ip _ ip _ e⟩
        · intro _ h
          cases h
      rw [if_neg hl]
      have hopen := Bool.eq_false_iff.mpr hl
      cases verified with
      | true =>
          rintro (e | ⟨⟩)
          · exact fun _ _ => ⟨_, rfl, .account account _ e⟩
          rintro (e | ⟨⟩)
          · exact fun _ _ => ⟨_, List.append_assoc .., .both account hopen ip _ e⟩
          · intro _ h
            cases h
      | false =>
          rintro (e | ⟨⟩)
          · exact fun _ _ => ⟨_, rfl, .account account _ e⟩
          rintro (e | ⟨⟩)
          · exact fun _ _ => ⟨_, List.append_assoc .., .both account hopen ip _ e⟩
          · intro _ h
            cases h

/-- The calls of a login up to the check of its password, answered. -/
def checked (hasher : PasswordHasher) (request : LoginRequest) (now : Int) (ipState : LockoutState)
    (looked : List (Reply authSig)) (account : Option AdminAccount) (verified : Bool) :
    List (Reply authSig) :=
  [⟨.now, now⟩, ⟨.getIp request.clientIp, .ok ipState⟩] ++ looked ++
    [⟨.verify request.password
      ((account.map AdminAccount.passwordHash).getD hasher.referenceHash), .ok verified⟩]

/-- How a login comes to an internal error. -/
inductive LoginFails (policy : LockoutPolicy) (hasher : PasswordHasher) (request : LoginRequest) :
    List (Reply authSig) → Prop where
  | read (past : List (Reply authSig)) (h : ∀ r ∈ past, r.op.reads = true) :
      LoginFails policy hasher request past
  | settle (now : Int) (ipState : LockoutState) (looked : List (Reply authSig))
      (account : Option AdminAccount) (verified : Bool) (rest : List (Reply authSig))
      (h : Looked request.email looked account)
      (hs : SettleFails policy now verified account rest) :
      LoginFails policy hasher request
        (checked hasher request now ipState looked account verified ++ rest)

theorem Looked.reads {email : String} {looked : List (Reply authSig)}
    {account : Option AdminAccount} (h : Looked email looked account) :
    ∀ r ∈ looked, r.op.reads = true := by
  cases h with
  | parsed e he account => exact List.forall_mem_singleton.mpr rfl
  | unparsed err he => exact List.forall_mem_nil _

theorem check_fails (policy : LockoutPolicy) (hasher : PasswordHasher) (request : LoginRequest)
    (now : Int) (ipState : LockoutState) {looked : List (Reply authSig)}
    {account : Option AdminAccount} (h : Looked request.email looked account) :
    Prog.Returns (fun past r => ∀ msg, r = .error (.internal msg) →
        LoginFails policy hasher request past)
      ([⟨.now, now⟩, ⟨.getIp request.clientIp, .ok ipState⟩] ++ looked)
      (LoginService.check policy hasher request ipState now account) := by
  rintro (e | verified)
  · refine fun _ _ => .read _ fun r hr => ?_
    simp only [List.mem_append, List.mem_cons, List.not_mem_nil, or_false] at hr
    rcases hr with ((rfl | rfl) | hr) | rfl
    · rfl
    · rfl
    · exact h.reads r hr
    · rfl
  · refine (settle_fails policy request.clientIp ipState now verified account _).mono ?_
    intro past r hr msg hmsg
    obtain ⟨rest, rfl, hrest⟩ := hr msg hmsg
    exact .settle now ipState looked account verified rest h hrest

theorem login_fails (policy : LockoutPolicy) (hasher : PasswordHasher) (request : LoginRequest) :
    Prog.Returns (fun past r => ∀ msg, r = .error (.internal msg) →
        LoginFails policy hasher request past) []
      (LoginService.login policy hasher request) := by
  intro now
  rintro (e | ipState)
  · exact fun _ _ => .read _ (by simp [AuthOp.reads])
  by_cases hl : LockoutPolicy.isLocked ipState now
  · simp only [Prog.bind_ret, if_pos hl]
    intro _ h
    cases h
  simp only [Prog.bind_ret, if_neg hl]
  rw [LoginService.findAccount]
  cases hp : Email.parse request.email with
  | error err => exact check_fails policy hasher request now ipState (.unparsed err hp)
  | ok email =>
      rintro (e | account)
      · exact fun _ _ => .read _ (by simp [AuthOp.reads])
      · exact check_fails policy hasher request now ipState (.parsed email hp account)

/-! ### What is left behind -/

section
variable {P : AuthPorts ι} {policy : LockoutPolicy} {fates : List Fate} {request : LoginRequest}
  {db db' : AuthDb ι}

theorem AuthDb.findByEmail_of_ok {fate : Fate} {email : Email} {account : Option AdminAccount}
    (h : (AuthDb.exec P fate (.findByEmail email) db).1 = .ok account) :
    db.findByEmail email = .ok account := by
  rwa [AuthDb.exec_of_answers (by rw [h]; rfl)] at h

theorem AuthDb.verify_of_ok {fate : Fate} {plaintext : String} {hash : PasswordHash}
    {verified : Bool} (h : (AuthDb.exec P fate (.verify plaintext hash) db).1 = .ok verified) :
    P.hasher.verify plaintext hash = .ok verified := by
  rwa [AuthDb.exec_of_answers (by rw [h]; rfl)] at h

/-- What was looked up is the account of the email. -/
theorem Looked.lookup {looked : List (Reply authSig)} {account : Option AdminAccount}
    (h : Looked request.email looked account)
    (hreplays : Replays (AuthDb.exec P) fates looked db db') :
    db.lookup request.email = .ok account := by
  cases h with
  | parsed email hparse account =>
      obtain ⟨fate, rest, rfl, hans, -⟩ := replays_cons_iff.mp hreplays
      rw [AuthDb.lookup, hparse]
      exact AuthDb.findByEmail_of_ok hans
  | unparsed err hparse => rw [AuthDb.lookup, hparse]

/-- The calls up to the check of the password read the clock, the account and the password's
verification, and leave the database alone. -/
theorem replays_checked {now : Int} {ipState : LockoutState} {looked : List (Reply authSig)}
    {account : Option AdminAccount} {verified : Bool} (h : Looked request.email looked account)
    (hreplays : Replays (AuthDb.exec P) fates
      (checked P.hasher request now ipState looked account verified) db db') :
    db' = db ∧ now = db.clock ∧ db.lookup request.email = .ok account ∧
      P.hasher.verify request.password
        ((account.map AdminAccount.passwordHash).getD P.hasher.referenceHash) = .ok verified := by
  obtain ⟨db₂, hread, hverify⟩ := hreplays.split
  obtain ⟨db₁, hclock, hlooked⟩ := hread.split
  obtain rfl : db₁ = db := eq_of_reads (by simp [AuthOp.reads]) hclock
  obtain rfl : db₂ = db₁ := eq_of_reads h.reads hlooked
  obtain ⟨fate, rest, -, hnow, -⟩ := replays_cons_iff.mp hclock
  obtain ⟨fate', rest', -, hans, -⟩ := replays_cons_iff.mp hverify
  refine ⟨eq_of_reads (by simp [AuthOp.reads]) hverify, ?_, h.lookup hlooked,
    AuthDb.verify_of_ok hans⟩
  rw [AuthDb.exec_of_answers rfl] at hnow
  exact hnow.symm

theorem length_checked {now : Int} {ipState : LockoutState} {looked : List (Reply authSig)}
    {account : AdminAccount} {verified : Bool} {hasher : PasswordHasher}
    (h : Looked request.email looked (some account)) :
    (checked hasher request now ipState looked (some account) verified).length = 4 := by
  cases h with
  | parsed email hparse => rfl

/-- A login that does not fail inside is one whose calls are all served. -/
theorem attempt_of_loginRun {r : Except LoginError AuthenticatedAdmin}
    (h : loginRun P policy fates request db = (some r, db'))
    (hr : ∀ msg, r ≠ .error (.internal msg)) : attempt P policy request db = (r, db') := by
  have hserved (fate : Fate) (op : AuthOp) (db : AuthDb ι)
      (h : op.answers (AuthDb.exec P fate op db).1 = true) :
      AuthDb.exec P fate op db = AuthDb.serve P op db := AuthDb.exec_of_answers h
  have hanswered : Prog.Returns (fun past b => b = r → AllAnswered past) []
      (LoginService.login policy P.hasher request) := by
    refine (login_trace policy P.hasher request).returns.mono fun past b htrace hb => ?_
    rw [hb] at htrace
    exact htrace.answered_iff.mpr hr
  exact Prog.run_of_answered (S := authSig) _ hserved hanswered h

/-- **What a login that fails inside leaves.**  As long as a call that fails has no effect: the
lockout of every address is as it was, and that of every account is, unless the call that failed
is the write of the address after the write of the account. -/
theorem internal_leaves {msg : String} (hclean : FailsClean fates)
    (h : loginRun P policy fates request db = (some (.error (.internal msg)), db')) :
    db'.ipLockouts = db.ipLockouts ∧
      (db'.admins = db.admins ∨ HalfWritten P policy fates request db db') := by
  obtain ⟨past, hpast, hreplays⟩ := (login_fails policy P.hasher request).replays h
  rw [List.nil_append] at hpast
  cases hpast _ rfl with
  | read past hreads =>
      rw [eq_of_reads hreads hreplays]
      exact ⟨rfl, .inl rfl⟩
  | settle now ipState looked account verified rest hlooked hs =>
      obtain ⟨db₁, hchecked, hrest⟩ := hreplays.split
      obtain ⟨rfl, rfl, hlookup, hverify⟩ := replays_checked hlooked hchecked
      have hcleanRest : FailsClean (fates.drop
          (checked P.hasher request db₁.clock ipState looked account verified).length) :=
        fun msg hmsg => hclean msg (List.mem_of_mem_drop hmsg)
      cases hs with
      | ip account ip state e =>
          obtain ⟨-, rfl⟩ := refused_of_replays rfl hcleanRest rfl hrest
          exact ⟨rfl, .inl rfl⟩
      | account account state e =>
          obtain ⟨-, rfl⟩ := refused_of_replays rfl hcleanRest rfl hrest
          exact ⟨rfl, .inl rfl⟩
      | both account hopen ip state e =>
          rw [length_checked hlooked] at hrest hcleanRest
          obtain ⟨fate, later, hdrop, hans, hput⟩ := replays_cons_iff.mp hrest
          have hserved : AuthDb.exec P fate (.updateLockout account.id _) db₁ = _ :=
            AuthDb.exec_of_answers (by rw [hans]; rfl)
          rw [hserved] at hput
          obtain ⟨⟨msg, hmsg⟩, rfl⟩ := refused_of_replays rfl
            (fun msg hmem => hcleanRest msg (hdrop ▸ List.mem_cons_of_mem _ hmem)) rfl hput
          refine ⟨rfl, .inr ⟨account, verified, msg, hlookup, hverify, hopen, ?_, rfl⟩⟩
          -- the sixth call is the second after the first four
          have hsixth : (fates.drop 4)[1]? = some (.refused msg) := by
            rw [hdrop, List.getElem?_cons_succ, ← List.head?_eq_getElem?, hmsg]
          rwa [List.getElem?_drop] at hsixth

end

/-! ### The write of the address fails -/

/-- One administrator, who failed four times. -/
def failedFour : AdminRow := ⟨⟨"a"⟩, editorEmail.address, "secret", 4, none, editorRole.name, none⟩

def failedDb : AuthDb Unit :=
  { noAdmins with admins := (noAdmins.admins.insert? failedFour).get rfl }

/-- Five calls are served, and the sixth is not. -/
def sixthRefused : List Fate := List.replicate 5 .served ++ [.refused "connection reset"]

def rightPassword : LoginRequest := ⟨"ed@example.com", "secret", "10.0.0.1"⟩

theorem failsClean_sixthRefused : FailsClean sixthRefused := by
  intro msg
  simp [sixthRefused]

theorem sixthRefused_leaves : ∃ db',
    db'.ipLockouts = failedDb.ipLockouts ∧ (db'.admins = failedDb.admins ∨
      HalfWritten plainPorts .recommended sixthRefused rightPassword failedDb db') :=
  ⟨_, internal_leaves failsClean_sixthRefused (Prod.ext rfl rfl)⟩

/-- The login is an internal error, and the account has lost its four failures. -/
theorem sixthRefused_clears :
    ∃ msg db', loginRun plainPorts .recommended sixthRefused rightPassword failedDb =
        (some (.error (.internal msg)), db') ∧
      (failedDb.findByEmail editorEmail).map (·.map AdminAccount.lockout) = .ok (some ⟨4, none⟩) ∧
      (db'.findByEmail editorEmail).map (·.map AdminAccount.lockout) = .ok (some ⟨0, none⟩) :=
  ⟨_, _, rfl, by decide, by decide⟩

end AuthApp.Accounts
