import AuthApp.Http.Admission
import AuthApp.Http.Permit
import AuthApp.Interleave.Count

/-!
# Http — how often passwords are checked

The server checks a password only for a login that the rate limiter has counted against its address
and against its account, over any interleaving of requests of any kind, any call of which may fail.

* `windows_trail`: the windows of the limiter are those after the checks of the log.
* `checked_counted`: who a password is checked for.
* `verifications_bounded`: and how often.
-/

namespace AuthApp.Http
open Interleave Pool Accounts Sessions Audit Payments

variable {ι τ υ π ε : Type}

/-! ### The checks of a log -/

abbrev ServerState.windows (s : ServerState ι τ υ π) : Windows := s.1.1

/-- The key and the instant of a check. -/
def checkOf : serverSig.Op → Option (String × Int)
  | .inl (.inl (.check key now)) => some (key, now)
  | _ => none

/-- The checks of a log, the newest first. -/
def checksOf (log : List (Event serverSig (ServerState ι τ υ π))) : List (String × Int) :=
  (log.filterMap fun e => checkOf e.op).reverse

theorem checksOf_snoc (log : List (Event serverSig (ServerState ι τ υ π)))
    (e : Event serverSig (ServerState ι τ υ π)) :
    checksOf (log ++ [e]) = (checkOf e.op).toList ++ checksOf log := by
  rw [checksOf, List.filterMap_append, List.reverse_append, checksOf]
  cases h : checkOf e.op <;> simp [h]

/-- The environment does not touch the windows of the limiter. -/
def KeepsWindows (env : ε → ServerState ι τ υ π → ServerState ι τ υ π) : Prop :=
  ∀ a s, (env a s).windows = s.windows

section Windows
variable {site : ServerSite ι τ υ π} {env : ε → ServerState ι τ υ π → ServerState ι τ υ π}

theorem exec_windows (site : ServerSite ι τ υ π) (fate : Fate) (op : serverSig.Op)
    (s : ServerState ι τ υ π) : (site.exec fate op s).2.windows =
      match checkOf op with
      | some (key, now) => (RateLimiter.check site.rateLimit s.windows key now).2
      | none => s.windows := by
  rcases op with (⟨key, now⟩ | (op | op) | op | op) | op | op <;> rfl

/-- The windows after a stretch of the log are those after its checks. -/
theorem windows_trail (henv : KeepsWindows env) {s t : ServerState ι τ υ π}
    {log : List (Event serverSig (ServerState ι τ υ π))}
    (h : (serverSystem site env).Trail s log t) {checks : List (String × Int)}
    (hs : s.windows = RateLimiter.after site.rateLimit checks) :
    t.windows = RateLimiter.after site.rateLimit (checksOf log ++ checks) := by
  induction h generalizing checks with
  | nil => exact hs
  | @step s t log fate e hpre hx _ ih =>
      subst hpre
      have hpost : e.post.windows =
          RateLimiter.after site.rateLimit ((checkOf e.op).toList ++ checks) := by
        have hexec := exec_windows site fate e.op e.pre
        rw [show site.exec fate e.op e.pre = (e.ans, e.post) from hx, hs] at hexec
        rw [hexec]
        cases checkOf e.op <;> rfl
      rw [ih hpost, ← List.append_assoc]
      congr 1
      cases hop : checkOf e.op <;> simp [checksOf, hop]
  | env a _ ih => exact ih ((henv a _).trans hs)

end Windows

/-! ### What was admitted -/

/-- The instant at which a key was checked and admitted. -/
def admittedAt (key : String) : Reply serverSig → Option Int
  | ⟨.inl (.inl (.check other now)), ans⟩ =>
      if other = key ∧ (ans : Except RateLimitExceeded Unit).isOk then some now else none
  | _ => none

section Runs
variable {site : ServerSite ι τ υ π} {env : ε → ServerState ι τ υ π → ServerState ι τ υ π}
  {s : ServerState ι τ υ π} {p : ServerPool ι τ υ π}
  {ok : ServerPool ι τ υ π → Act ServerRequest Fate ε → Prop}

/-- A check is answered by the checks before it. -/
theorem verdict_of_step (henv : KeepsWindows env) (h : (serverSystem site env).Run ok (.init s) p)
    (hempty : s.windows = fun _ => none) {n : Nat} {e : Event serverSig (ServerState ι τ υ π)}
    (hn : p.log[n]? = some e) {key : String} {now : Int} {ans : Except RateLimitExceeded Unit}
    (he : (⟨e.op, e.ans⟩ : Reply serverSig) = ⟨limitOp (.check key now), ans⟩) :
    ans = RateLimiter.verdict site.rateLimit (checksOf (p.log.take n)) key now := by
  obtain ⟨fate, hx⟩ := h.event_exec e (List.mem_of_getElem? hn)
  have hwindows := windows_trail henv (h.trail.before hn)
    (show s.windows = RateLimiter.after site.rateLimit [] from hempty)
  rw [List.append_nil] at hwindows
  have hans : (RateLimiter.check site.rateLimit e.pre.windows key now).1 = ans :=
    congrArg Prod.fst (exec_of_reply he hx)
  rw [← hans, hwindows]
  rfl

/-- One more step of a log, whose check is answered by those before it. -/
theorem admitted_snoc {config : RateLimitConfig}
    {log : List (Event serverSig (ServerState ι τ υ π))}
    {e : Event serverSig (ServerState ι τ υ π)} (hans : ∀ other now ans,
      (⟨e.op, e.ans⟩ : Reply serverSig) = ⟨limitOp (.check other now), ans⟩ →
        ans = RateLimiter.verdict config (checksOf log) other now) (key : String) :
    (admittedAt key ⟨e.op, e.ans⟩).toList ++ RateLimiter.admittedOf config key (checksOf log) =
      RateLimiter.admittedOf config key ((checkOf e.op).toList ++ checksOf log) := by
  obtain ⟨caller, op, ans, pre, post⟩ := e
  rcases op with (⟨other, now⟩ | (op | op) | op | op) | op | op
  · obtain rfl : ans = _ := hans other now ans rfl
    rw [checkOf, Option.toList_some, List.singleton_append, RateLimiter.admittedOf]
    by_cases hadmit : other = key ∧ (RateLimiter.verdict config (checksOf log) other now).isOk
    · rw [if_pos hadmit, admittedAt, if_pos hadmit]
      rfl
    · rw [if_neg hadmit, admittedAt, if_neg hadmit]
      rfl
  · rfl
  · rfl
  · rfl
  · rfl
  · rfl
  · rfl

/-- The instants at which a key was admitted are those that the limiter admits. -/
theorem admitted_log (henv : KeepsWindows env) (h : (serverSystem site env).Run ok (.init s) p)
    (hempty : s.windows = fun _ => none) (key : String) :
    (p.log.filterMap fun e => admittedAt key ⟨e.op, e.ans⟩).reverse =
      RateLimiter.admittedOf site.rateLimit key (checksOf p.log) := by
  have hn : ∀ n ≤ p.log.length,
      ((p.log.take n).filterMap fun e => admittedAt key ⟨e.op, e.ans⟩).reverse =
        RateLimiter.admittedOf site.rateLimit key (checksOf (p.log.take n)) := by
    intro n hn
    induction n with
    | zero => rfl
    | succ n ih =>
        obtain ⟨e, he⟩ : ∃ e, p.log[n]? = some e := ⟨_, List.getElem?_eq_getElem hn⟩
        rw [List.take_add_one, he, Option.toList_some, checksOf_snoc, List.filterMap_append,
          List.reverse_append, ih (Nat.le_of_lt hn), ← admitted_snoc fun other now ans =>
            verdict_of_step henv h hempty he]
        cases hat : admittedAt key ⟨e.op, e.ans⟩ <;> simp [hat]
  simpa using hn _ (Nat.le_refl _)

/-- **Who a password is checked for.** In every interleaving, with any failures, a password is
checked for a login that submitted it, and that the limiter had admitted at one instant by its
address and by its account. -/
theorem checked_counted (h : (serverSystem site env).Run ok (.init s) p) {n : Nat}
    {e : Event serverSig (ServerState ι τ υ π)} (hn : p.log[n]? = some e) {password : String}
    {hash : PasswordHash} (hop : e.op = authOp (.verify password hash)) :
    ∃ req d body now, p.calls[e.caller]? = some ⟨req, d⟩ ∧ req.endpoint = .login (.ok body) ∧
      password = body.password ∧ Counted req.http body now (pastOf e.caller (p.log.take n)) := by
  obtain ⟨req, d, hcall, hpermit⟩ := h.event_call (code_permit site) hn
  rw [hop] at hpermit
  cases hpermit with
  | credential _ hverifies => cases hverifies
  | verify body now _ hreq hcounted => exact ⟨req, d, body, now, hcall, hreq, rfl, hcounted⟩

/-- The password of the visit is checked for its login. -/
theorem visit_counted : ∃ (e : Event serverSig _) (hash : PasswordHash), visit.log[6]? = some e ∧
    e.op = authOp (.verify "h2" hash) ∧ ∃ req d body now, visit.calls[e.caller]? = some ⟨req, d⟩ ∧
      req.endpoint = .login (.ok body) ∧ "h2" = body.password ∧
        Counted req.http body now (pastOf e.caller (visit.log.take 6)) := by
  obtain ⟨e, hash, he, hop⟩ : ∃ (e : Event serverSig _) (hash : PasswordHash),
      visit.log[6]? = some e ∧ e.op = authOp (.verify "h2" hash) := ⟨_, _, rfl, rfl⟩
  exact ⟨e, hash, he, hop, checked_counted visit_run he hop⟩

/-- A request checks a password once. -/
theorem verifies_once (site : ServerSite ι τ υ π) (req : ServerRequest) :
    Prog.Calls (fun past op => verifies op = true → ∀ r ∈ past, verifies r.op = false) []
      (req.code site) := by
  refine Prog.Always.calls (Q := fun past head => ∀ op, head = .call op → Permit site req past op)
    (code_permit site req).always fun past op h hop => ?_
  cases h op rfl with
  | verify body now hash hreq hcounted hfirst => exact hfirst
  | credential op hverifies => rw [hverifies] at hop; cases hop
  | _ => cases hop

/-- The key was checked and admitted within an interval. -/
def admittedIn (key : String) (t u : Int) (r : Reply serverSig) : Bool :=
  (admittedAt key r).any fun now => decide (t ≤ now ∧ now < u)

/-- The check of a password, for a request that was admitted under the key within an interval. -/
def verifiesFor (p : ServerPool ι τ υ π) (key : String) (t u : Int)
    (e : Event serverSig (ServerState ι τ υ π)) : Bool :=
  verifies e.op && (pastOf e.caller p.log).any (admittedIn key t u)

/-- There are no more checks of a password than admissions. -/
theorem countP_verifiesFor_le (h : (serverSystem site env).Run ok (.init s) p) (key : String)
    (t u : Int) : p.log.countP (verifiesFor p key t u) ≤
      p.log.countP fun e => admittedIn key t u ⟨e.op, e.ans⟩ := by
  refine countP_le (A := fun i r => verifies r.op && (pastOf i p.log).any (admittedIn key t u))
    (B := fun _ r => admittedIn key t u r) fun i => ?_
  cases hany : (pastOf i p.log).any (admittedIn key t u) with
  | false => simp
  | true =>
      obtain ⟨r, hr, hin⟩ := List.any_eq_true.mp hany
      have hone := h.countP_le_one (verifies_once site) i
      have hpos : 0 < (pastOf i p.log).countP (admittedIn key t u) :=
        List.countP_pos_iff.mpr ⟨r, hr, hin⟩
      simp only [Bool.and_true]
      exact hone.trans hpos

/-- **How often passwords are checked.** In every interleaving, with any failures, whose checks by
the limiter are in order: for each address and each account, passwords are checked at most twice the
limit of times for the requests of any interval as long as a window. -/
theorem verifications_bounded (henv : KeepsWindows env)
    (h : (serverSystem site env).Run ok (.init s) p) (hempty : s.windows = fun _ => none)
    (horder : RateLimiter.InOrder (checksOf p.log))
    (hfits : RateLimiter.Fits site.rateLimit (checksOf p.log)) (key : String) (t : Int) :
    p.log.countP (verifiesFor p key t (t + site.rateLimit.window)) ≤
      2 * site.rateLimit.maxRequests.toNat := by
  refine (countP_verifiesFor_le h key t _).trans ?_
  have hquota : Quota.countIn (RateLimiter.admittedOf site.rateLimit key (checksOf p.log)) t
      (t + site.rateLimit.window) ≤ 2 * site.rateLimit.maxRequests.toNat := by
    rw [RateLimiter.admittedOf_eq hfits]
    exact Quota.countIn_admitted_le (horder.instantsOf key) t
  refine le_of_eq_of_le ?_ hquota
  rw [← admitted_log henv h hempty, Quota.countIn, List.countP_reverse, List.countP_filterMap]
  refine List.countP_congr fun e _ => ?_
  rw [admittedIn]
  cases admittedAt key ⟨e.op, e.ans⟩ <;> simp

theorem setClocks_windows :
    KeepsWindows (setClocks : Int → ServerState ι τ υ π → ServerState ι τ υ π) :=
  fun _ _ => rfl

/-- In the visit, the password of the account is checked. -/
theorem visit_bounded : visit.log.countP (verifiesFor visit "acct:root@example.com" 0
      (0 + server.rateLimit.window)) = 1 ∧
    visit.log.countP (verifiesFor visit "acct:root@example.com" 0
      (0 + server.rateLimit.window)) ≤ 2 * server.rateLimit.maxRequests.toNat := by
  have hchecks : checksOf visit.log = [("acct:root@example.com", 0), ("ip:203.0.113.7", 0)] := rfl
  refine ⟨rfl, verifications_bounded setClocks_windows visit_run rfl ?_ ?_ _ 0⟩
  · rw [hchecks]
    simp [RateLimiter.InOrder]
  · rw [hchecks]
    exact RateLimiter.fits_of_length (by decide)

end Runs

end AuthApp.Http
