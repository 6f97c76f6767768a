import AuthApp.Accounts.Store
import AuthApp.Interleave.Trail

/-!
# Accounts — the first administrator

`BootstrapService::create_first_admin` counts the administrators, hashes the password and inserts
the account: three calls, between which other bootstraps may run.  The database refuses a second
account only where it has the email of the first.

* `created_by_insert`: a bootstrap that answers an account has inserted it.
* `counted_before_insert`: a bootstrap that inserts has counted no administrator.
* `NotOvertaken`: no other account is added between a call's count and its insert.
* `one_bootstrap_iff`: bootstraps on an empty store make one administrator at most exactly when no
  insert is overtaken.
* `racing_bootstraps`: two bootstraps that make two.
-/

namespace AuthApp.Accounts
open Interleave Pool

variable {ι : Type}

/-! ### The password policy -/

inductive PasswordRequirement where
  | minLength (n : Nat)
  | uppercase
  | lowercase
  | digit
  | symbol
  deriving DecidableEq, Repr

structure PasswordPolicyError where
  unmet : List PasswordRequirement
  deriving DecidableEq, Repr

structure PasswordPolicy where
  minLength : Nat
  requireUppercase : Bool
  requireLowercase : Bool
  requireDigit : Bool
  requireSymbol : Bool
  deriving DecidableEq, Repr

namespace PasswordPolicy

def recommended : PasswordPolicy where
  minLength := 12
  requireUppercase := true
  requireLowercase := true
  requireDigit := true
  requireSymbol := false

/-- Every requirement a password falls short of; `isAlphanumeric` is Unicode's. -/
def unmet (isAlphanumeric : Char → Bool) (policy : PasswordPolicy) (password : String) :
    List PasswordRequirement :=
  let chars := password.toList
  (if chars.length < policy.minLength then [.minLength policy.minLength] else []) ++
  (if policy.requireUppercase && !chars.any Char.isUpper then [.uppercase] else []) ++
  (if policy.requireLowercase && !chars.any Char.isLower then [.lowercase] else []) ++
  (if policy.requireDigit && !chars.any Char.isDigit then [.digit] else []) ++
  (if policy.requireSymbol && !chars.any fun c => !isAlphanumeric c then [.symbol] else [])

def validate (isAlphanumeric : Char → Bool) (policy : PasswordPolicy) (password : String) :
    Except PasswordPolicyError Unit :=
  match policy.unmet isAlphanumeric password with
  | [] => .ok ()
  | unmet => .error ⟨unmet⟩

end PasswordPolicy

/-! ### The calls of a bootstrap -/

structure NewAdmin where
  email : Email
  passwordHash : PasswordHash
  role : Role
  deriving DecidableEq

inductive BootstrapOp where
  | count
  | hash (plaintext : String)
  | insert (admin : NewAdmin)

abbrev BootstrapOp.Ans : BootstrapOp → Type
  | .count => Except RepositoryError Nat
  | .hash _ => Except PasswordHashError PasswordHash
  | .insert _ => Except RepositoryError AdminId

abbrev bootstrapSig : Sig := ⟨BootstrapOp, BootstrapOp.Ans⟩

/-- `SELECT COUNT(*) FROM admin_users`. -/
def AuthDb.count (db : AuthDb ι) : Nat := db.admins.table.rows.length

/-- `INSERT INTO admin_users ... RETURNING id`: either unique index answers that the email is
taken. -/
def AuthDb.insertAdmin (db : AuthDb ι) (id : AdminId) (admin : NewAdmin) :
    Except RepositoryError AdminId × AuthDb ι :=
  match db.admins.insert? ⟨id, admin.email.address, admin.passwordHash.encoded, 0, none,
      admin.role.name, none⟩ with
  | some admins => (.ok id, { db with admins })
  | none => (.error .emailTaken, db)

/-- The database, the id it draws for the next account, and the salt of the next hash. -/
structure BootstrapDb (ι : Type) where
  db : AuthDb ι
  nextId : AdminId
  salt : String

/-- What each call does when it is served; `hash` takes a password and a salt. -/
def bootstrapServe (hash : String → String → Except PasswordHashError PasswordHash) :
    Exec bootstrapSig (BootstrapDb ι)
  | .count, s => (.ok s.db.count, s)
  | .hash plaintext, s => (hash plaintext s.salt, s)
  | .insert admin, s =>
      ((s.db.insertAdmin s.nextId admin).1, { s with db := (s.db.insertAdmin s.nextId admin).2 })

/-- The error a failing call answers. -/
def BootstrapOp.fault (msg : String) : (op : BootstrapOp) → Option op.Ans
  | .count => some (.error (.backend msg))
  | .hash _ => some (.error ⟨msg⟩)
  | .insert _ => some (.error (.backend msg))

/-- A call under a fate. -/
def bootstrapExec (hash : String → String → Except PasswordHashError PasswordHash) (fate : Fate) :
    Exec bootstrapSig (BootstrapDb ι) :=
  Fate.under (S := bootstrapSig) BootstrapOp.fault (bootstrapServe hash) fate

/-- What is drawn besides the calls. -/
inductive Draw where
  | id (next : AdminId)
  | salt (next : String)

def Draw.act : Draw → BootstrapDb ι → BootstrapDb ι
  | .id next, s => { s with nextId := next }
  | .salt next, s => { s with salt := next }

/-! ### The service -/

inductive BootstrapOutcome where
  | created (id : AdminId)
  | alreadyInitialized
  deriving DecidableEq, Repr

inductive BootstrapError where
  | invalidEmail (e : EmailError)
  | weakPassword (e : PasswordPolicyError)
  | internal (msg : String)
  deriving DecidableEq, Repr

namespace BootstrapService

/-- Count, hash and insert, once the email and the password have passed. -/
def create (email : Email) (password : String) :
    Prog bootstrapSig (Except BootstrapError BootstrapOutcome) := do
  match ← Prog.perform (S := bootstrapSig) .count with
  | .error e => return .error (.internal e.display)
  | .ok existing =>
      if existing > 0 then return .ok .alreadyInitialized
      else
        match ← Prog.perform (S := bootstrapSig) (.hash password) with
        | .error e => return .error (.internal e.display)
        | .ok passwordHash =>
            match ← Prog.perform (S := bootstrapSig)
                (.insert { email, passwordHash, role := Role.admin }) with
            | .error e => return .error (.internal e.display)
            | .ok id => return .ok (.created id)

/-- Create the first administrator, if there is none yet. -/
def createFirstAdmin (isAlphanumeric : Char → Bool) (policy : PasswordPolicy)
    (email password : String) : Prog bootstrapSig (Except BootstrapError BootstrapOutcome) :=
  match Email.parse email with
  | .error e => return .error (.invalidEmail e)
  | .ok email =>
      match policy.validate isAlphanumeric password with
      | .error e => return .error (.weakPassword e)
      | .ok () => create email password

end BootstrapService

/-- A program that has answered an account has inserted it. -/
def CreatedBy (past : List (Reply bootstrapSig))
    (prog : Prog bootstrapSig (Except BootstrapError BootstrapOutcome)) : Prop :=
  ∀ id, prog = .ret (.ok (.created id)) →
    ∃ admin, (⟨.insert admin, .ok id⟩ : Reply bootstrapSig) ∈ past

theorem create_created (email : Email) (password : String) :
    Prog.Always CreatedBy [] (BootstrapService.create email password) := by
  refine ⟨fun id h => (nomatch h), fun existing => ?_⟩
  cases existing with
  | error e => exact fun id h => (nomatch h)
  | ok existing =>
      simp only [Prog.bind_ret]
      by_cases hexisting : existing > 0
      · rw [if_pos hexisting]
        exact fun id h => (nomatch h)
      · rw [if_neg hexisting]
        refine ⟨fun id h => (nomatch h), fun hash => ?_⟩
        cases hash with
        | error e => exact fun id h => (nomatch h)
        | ok hash =>
            refine ⟨fun id h => (nomatch h), fun inserted => ?_⟩
            cases inserted with
            | error e => exact fun id h => (nomatch h)
            | ok id =>
                intro id' h
                cases h
                exact ⟨_, List.mem_append_right _ List.mem_cons_self⟩

/-- A bootstrap that answers an account has inserted it. -/
theorem created_by_insert (isAlphanumeric : Char → Bool) (policy : PasswordPolicy)
    (email password : String) :
    Prog.Always CreatedBy []
      (BootstrapService.createFirstAdmin isAlphanumeric policy email password) := by
  rw [BootstrapService.createFirstAdmin]
  cases Email.parse email with
  | error e => exact fun id h => (nomatch h)
  | ok email =>
      dsimp only
      cases policy.validate isAlphanumeric password with
      | error e => exact fun id h => (nomatch h)
      | ok => exact create_created email password

/-- A call that inserts has counted no administrator. -/
def CountedNone (past : List (Reply bootstrapSig)) : BootstrapOp → Prop
  | .insert _ => (⟨.count, .ok 0⟩ : Reply bootstrapSig) ∈ past
  | _ => True

theorem create_counts (email : Email) (password : String) :
    Prog.Calls CountedNone [] (BootstrapService.create email password) := by
  refine ⟨trivial, fun existing => ?_⟩
  cases existing with
  | error e => trivial
  | ok existing =>
      simp only [Prog.bind_ret]
      by_cases hexisting : existing > 0
      · rw [if_pos hexisting]
        trivial
      · rw [if_neg hexisting]
        obtain rfl : existing = 0 := Nat.eq_zero_of_not_pos hexisting
        refine ⟨trivial, fun hash => ?_⟩
        cases hash with
        | error e => trivial
        | ok hash =>
            refine ⟨List.mem_append_left _ List.mem_cons_self, fun inserted => ?_⟩
            cases inserted <;> trivial

/-- A bootstrap inserts after it has counted no administrator. -/
theorem counted_before_insert (isAlphanumeric : Char → Bool) (policy : PasswordPolicy)
    (email password : String) :
    Prog.Calls CountedNone []
      (BootstrapService.createFirstAdmin isAlphanumeric policy email password) := by
  rw [BootstrapService.createFirstAdmin]
  cases Email.parse email with
  | error e => trivial
  | ok email =>
      dsimp only
      cases policy.validate isAlphanumeric password with
      | error e => trivial
      | ok => exact create_counts email password

/-! ### Bootstraps at once -/

structure BootstrapRequest where
  email : String
  password : String
  deriving DecidableEq, Repr

/-- A pool of bootstraps. -/
abbrev BootstrapPool (ι : Type) :=
  Pool bootstrapSig (BootstrapDb ι) BootstrapRequest (Except BootstrapError BootstrapOutcome)

/-- Bootstraps, each call of which may fail. -/
def bootstrapSystem (isAlphanumeric : Char → Bool) (policy : PasswordPolicy)
    (hash : String → String → Except PasswordHashError PasswordHash) :
    System bootstrapSig (BootstrapDb ι) BootstrapRequest (Except BootstrapError BootstrapOutcome)
      Fate Draw where
  code request :=
    BootstrapService.createFirstAdmin isAlphanumeric policy request.email request.password
  exec := bootstrapExec hash
  env := Draw.act

/-- At most one call has answered a new account, and at most one account is stored. -/
def OneBootstrap (p : BootstrapPool ι) : Prop :=
  p.store.db.count ≤ 1 ∧
    ∀ i j a b x y, p.Returned i a (.ok (.created x)) → p.Returned j b (.ok (.created y)) → i = j

/-- The step added an account. -/
def Adds (e : Event bootstrapSig (BootstrapDb ι)) : Prop := e.pre.db.count < e.post.db.count

instance (e : Event bootstrapSig (BootstrapDb ι)) : Decidable (Adds e) :=
  inferInstanceAs (Decidable (_ < _))

/-- In the step, call `i` counts the administrators. -/
def countedBy (i : Nat) (e : Event bootstrapSig (BootstrapDb ι)) : Bool :=
  e.caller == i && match e.op with
    | .count => true
    | _ => false

/-- The steps of all calls since call `i` counted the administrators. -/
def sinceCount (i : Nat) (log : List (Event bootstrapSig (BootstrapDb ι))) :
    List (Event bootstrapSig (BootstrapDb ι)) :=
  log.dropWhile fun e => !countedBy i e

/-- An insert that takes effect is not overtaken: since its call counted the administrators, no
call has added an account; or it is refused, since its email is taken, or the id that is drawn
for it. -/
def NotOvertaken (q : BootstrapPool ι) : Act BootstrapRequest Fate Draw → Prop
  | .step i fate =>
      match q.calls[i]? with
      | some ⟨_, .call (.insert admin) _⟩ => fate.Lands →
          (∀ e ∈ sinceCount i q.log, ¬ Adds e) ∨ ∃ row ∈ q.store.db.admins.table.rows,
            row.email = admin.email.address ∨ row.id = q.store.nextId
      | _ => True
  | _ => True

instance (q : BootstrapPool ι) (a : Act BootstrapRequest Fate Draw) :
    Decidable (NotOvertaken q a) := by
  cases a with
  | step i fate =>
      unfold NotOvertaken
      dsimp only
      split <;> infer_instance
  | _ => exact .isTrue trivial

/-! ### What a step adds -/

theorem AuthDb.count_insertAdmin (db : AuthDb ι) (id : AdminId) (admin : NewAdmin) :
    ((db.insertAdmin id admin).2.count = db.count + 1 ∧
      ¬ ∃ row ∈ db.admins.table.rows, row.email = admin.email.address ∨ row.id = id) ∨
    ((db.insertAdmin id admin).2 = db ∧ (db.insertAdmin id admin).1 = .error .emailTaken ∧
      ∃ row ∈ db.admins.table.rows, row.email = admin.email.address ∨ row.id = id) := by
  rw [insertAdmin]
  split
  · next admins h =>
      refine .inl ⟨?_, fun htaken => ?_⟩
      · rw [count, count, AdminTable.rows_insert? h, List.length_append, List.length_singleton]
      · rw [AdminTable.insert?_eq_none_iff.mpr htaken] at h
        cases h
  · next h => exact .inr ⟨rfl, rfl, AdminTable.insert?_eq_none_iff.mp h⟩

section Exec
variable (hash : String → String → Except PasswordHashError PasswordHash)

/-- Only an insert that takes effect and is not refused adds an account, and it adds one. -/
theorem count_exec (fate : Fate) (op : BootstrapOp) (s : BootstrapDb ι) :
    (bootstrapExec hash fate op s).2.db.count = s.db.count ∨
    ∃ admin, op = .insert admin ∧ fate.Lands ∧
      (bootstrapExec hash fate op s).2.db.count = s.db.count + 1 ∧
      ¬ ∃ row ∈ s.db.admins.table.rows, row.email = admin.email.address ∨ row.id = s.nextId := by
  cases op with
  | count => cases fate <;> exact .inl rfl
  | hash plaintext => cases fate <;> exact .inl rfl
  | insert admin =>
      by_cases hl : fate.Lands
      · rw [bootstrapExec, Fate.under_of_lands _ _ hl]
        rcases s.db.count_insertAdmin s.nextId admin with ⟨hcount, hfree⟩ | ⟨hsame, -, -⟩
        · exact .inr ⟨admin, rfl, hl, hcount, hfree⟩
        · exact .inl (congrArg AuthDb.count hsame)
      · cases fate with
        | refused msg => exact .inl rfl
        | served => exact absurd trivial hl
        | unacknowledged msg => exact absurd trivial hl

/-- An insert that takes effect where its email and its id are free adds an account. -/
theorem count_insert {fate : Fate} (hl : fate.Lands) {admin : NewAdmin} {s : BootstrapDb ι}
    (hfree : ¬ ∃ row ∈ s.db.admins.table.rows,
      row.email = admin.email.address ∨ row.id = s.nextId) :
    (bootstrapExec hash fate (.insert admin) s).2.db.count = s.db.count + 1 := by
  rw [bootstrapExec, Fate.under_of_lands _ _ hl]
  rcases s.db.count_insertAdmin s.nextId admin with ⟨hcount, -⟩ | ⟨-, -, htaken⟩
  · exact hcount
  · exact absurd htaken hfree

variable {hash} in
/-- An insert that is answered an id added an account. -/
theorem count_of_inserted {fate : Fate} {admin : NewAdmin} {id : AdminId} {s t : BootstrapDb ι}
    (h : bootstrapExec hash fate (.insert admin) s = (.ok id, t)) :
    t.db.count = s.db.count + 1 := by
  cases fate with
  | refused msg => cases h
  | unacknowledged msg => cases h
  | served =>
      obtain ⟨hans, rfl⟩ := Prod.mk.inj h
      rcases s.db.count_insertAdmin s.nextId admin with ⟨hcount, -⟩ | ⟨-, herr, -⟩
      · exact hcount
      · rw [herr] at hans
        cases hans

theorem count_le_exec (fate : Fate) (op : BootstrapOp) (s : BootstrapDb ι) :
    s.db.count ≤ (bootstrapExec hash fate op s).2.db.count := by
  rcases count_exec hash fate op s with h | ⟨admin, -, -, h, -⟩
  · exact h.ge
  · exact h ▸ Nat.le_succ _

theorem count_act (draw : Draw) (s : BootstrapDb ι) : (draw.act s).db.count = s.db.count := by
  cases draw <;> rfl

end Exec

section Runs
variable {isAlphanumeric : Char → Bool} {policy : PasswordPolicy}
  {hash : String → String → Except PasswordHashError PasswordHash}
  {ok : BootstrapPool ι → Act BootstrapRequest Fate Draw → Prop} {s : BootstrapDb ι}
  {p q r : BootstrapPool ι} {a : Act BootstrapRequest Fate Draw}

theorem count_le_step (h : (bootstrapSystem isAlphanumeric policy hash).Step q a r) :
    q.store.db.count ≤ r.store.db.count := by
  cases h with
  | start request => exact Nat.le_refl _
  | env draw => exact (count_act draw q.store).ge
  | step i fate request op k hi => exact count_le_exec hash fate op q.store

theorem count_le_trail {t : BootstrapDb ι} {log : List (Event bootstrapSig (BootstrapDb ι))}
    (h : (bootstrapSystem isAlphanumeric policy hash).Trail s log t) : s.db.count ≤ t.db.count :=
  h.mono_exec (M := fun s t => s.db.count ≤ t.db.count) (fun _ => Nat.le_refl _) Nat.le_trans
    (fun draw s => (count_act draw s).ge) (fun fate op s => count_le_exec hash fate op s)

/-- Where no administrator is left, no step has added one. -/
theorem not_adds_of_empty (h : (bootstrapSystem isAlphanumeric policy hash).Run ok (.init s) p)
    (hp : p.store.db.count = 0) {e : Event bootstrapSig (BootstrapDb ι)} (he : e ∈ p.log) :
    ¬ Adds e := by
  obtain ⟨n, hn⟩ := List.mem_iff_getElem?.mp he
  have hend := count_le_trail (h.trail.after hn)
  intro hadds
  exact absurd (hadds.trans_le hend) (by simp [hp])

/-- A step that keeps to one account is not overtaken. -/
theorem notOvertaken_of_count (h : (bootstrapSystem isAlphanumeric policy hash).Run ok (.init s) q)
    (hstep : (bootstrapSystem isAlphanumeric policy hash).Step q a r)
    (hr : r.store.db.count ≤ 1) : NotOvertaken q a := by
  cases hstep with
  | start request => trivial
  | env draw => trivial
  | step i fate request op k hi =>
      simp only [NotOvertaken, hi]
      cases op with
      | count => trivial
      | hash plaintext => trivial
      | insert admin =>
          intro hl
          by_cases htaken : ∃ row ∈ q.store.db.admins.table.rows,
              row.email = admin.email.address ∨ row.id = q.store.nextId
          · exact .inr htaken
          have hadds := count_insert hash hl htaken
          have hempty : q.store.db.count = 0 :=
            Nat.le_zero.mp (Nat.le_of_succ_le_succ (hadds.symm.trans_le hr))
          exact .inl fun e he => not_adds_of_empty h hempty (List.dropWhile_subset _ he)

/-- A step from another on is not dropped. -/
theorem mem_sinceCount {i n m : Nat} {log : List (Event bootstrapSig (BootstrapDb ι))}
    {e f : Event bootstrapSig (BootstrapDb ι)} (hn : log[n]? = some e) (he : countedBy i e = true)
    (hm : log[m]? = some f) (hnm : n ≤ m) : f ∈ sinceCount i log := by
  have hsplit := List.takeWhile_append_dropWhile (p := fun e => !countedBy i e) (l := log)
  -- the count is not among the steps before it
  have hlen : (log.takeWhile fun e => !countedBy i e).length ≤ n := by
    by_contra hlt
    rw [← hsplit, List.getElem?_append_left (not_le.mp hlt)] at hn
    have hbefore := List.mem_takeWhile_imp (List.mem_of_getElem? hn)
    simp [he] at hbefore
  rw [← hsplit, List.getElem?_append_right (hlen.trans hnm)] at hm
  exact List.mem_of_getElem? hm

/-- A count that answers that there is none found none. -/
theorem count_of_counted {fate : Fate} {s t : BootstrapDb ι}
    (h : bootstrapExec hash fate .count s = (.ok 0, t)) : t.db.count = 0 := by
  cases fate with
  | refused msg => cases h
  | unacknowledged msg => cases h
  | served =>
      obtain ⟨hans, rfl⟩ := Prod.mk.inj h
      exact Except.ok.inj hans

-- the program is followed without evaluating the email it parses
attribute [local irreducible] Email.parse in
/-- An account that is there when a call inserts was added after the call counted none. -/
theorem added_since_count (h : (bootstrapSystem isAlphanumeric policy hash).Run ok (.init s) q)
    {i : Nat} {request : BootstrapRequest} {admin : NewAdmin}
    {k : Except RepositoryError AdminId →
      Prog bootstrapSig (Except BootstrapError BootstrapOutcome)}
    (hi : q.calls[i]? = some ⟨request, .call (.insert admin) k⟩) (hq : q.store.db.count ≠ 0) :
    ∃ e ∈ sinceCount i q.log, Adds e := by
  have hcounted := h.point (P := fun _ past p => ∀ op, p.head = .call op → CountedNone past op)
    (fun request =>
      (counted_before_insert isAlphanumeric policy request.email request.password).always) hi
  have hmem : (⟨.count, .ok 0⟩ : Reply bootstrapSig) ∈ pastOf i (q.log.take q.log.length) := by
    rw [List.take_length]
    exact hcounted (.insert admin) rfl
  obtain ⟨n, -, fate, pre, post, hn, hx⟩ := h.reply_exec hmem
  by_contra hno
  -- from the count on, no step adds an account
  refine hq ((h.trail.after hn).inv (I := fun s => s.db.count = 0)
    (fun draw s hs => (count_act draw s).trans hs) (count_of_counted hx) fun f hf hpre => ?_)
  obtain ⟨m, hm⟩ := List.mem_iff_getElem?.mp hf
  rw [List.getElem?_drop] at hm
  have hsince : f ∈ sinceCount i q.log := mem_sinceCount hn (by simp [countedBy]) hm (by omega)
  have hnone : ¬ Adds f := fun hadds => hno ⟨f, hsince, hadds⟩
  exact Nat.le_zero.mp (hpre ▸ not_lt.mp hnone)

/-- An insert that is not overtaken keeps the store to one account. -/
theorem count_of_notOvertaken
    (h : (bootstrapSystem isAlphanumeric policy hash).Run ok (.init s) q)
    (hstep : (bootstrapSystem isAlphanumeric policy hash).Step q a r) (hok : NotOvertaken q a)
    (hq : q.store.db.count ≤ 1) : r.store.db.count ≤ 1 := by
  cases hstep with
  | start request => exact hq
  | env draw => exact (count_act draw q.store).trans_le hq
  | step i fate request op k hi =>
      rcases count_exec hash fate op q.store with hsame | ⟨admin, rfl, hl, hadds, hfree⟩
      · exact hsame.trans_le hq
      · simp only [NotOvertaken, hi] at hok
        have hnone := (hok hl).resolve_right hfree
        by_cases hempty : q.store.db.count = 0
        · exact (hadds.trans (by rw [hempty])).le
        · obtain ⟨e, he, hadded⟩ := added_since_count h hi hempty
          exact absurd hadded (hnone e he)

-- the program is followed without evaluating the email it parses
attribute [local irreducible] Email.parse in
/-- A call that was answered a new account inserted it. -/
theorem inserted_of_created (h : (bootstrapSystem isAlphanumeric policy hash).Run ok (.init s) p)
    {i : Nat} {a : BootstrapRequest} {x : AdminId} (hi : p.Returned i a (.ok (.created x))) :
    ∃ (n : Nat) (e : Event bootstrapSig (BootstrapDb ι)), p.log[n]? = some e ∧ e.caller = i ∧
      e.post.db.count = e.pre.db.count + 1 := by
  have hcreated := h.point (P := fun _ past prog => CreatedBy past prog)
    (fun request => created_by_insert isAlphanumeric policy request.email request.password) hi
  obtain ⟨admin, hmem⟩ := hcreated x rfl
  rw [← List.take_length (l := p.log)] at hmem
  obtain ⟨n, -, fate, pre, post, hn, hx⟩ := h.reply_exec hmem
  exact ⟨n, _, hn, rfl, count_of_inserted hx⟩

/-- After the first of two inserts there is one account, after the second there are two. -/
theorem not_lt_of_inserted (h : (bootstrapSystem isAlphanumeric policy hash).Run ok (.init s) p)
    (hp : p.store.db.count ≤ 1) {n m : Nat} {e f : Event bootstrapSig (BootstrapDb ι)}
    (hn : p.log[n]? = some e) (hm : p.log[m]? = some f)
    (he : e.post.db.count = e.pre.db.count + 1) (hf : f.post.db.count = f.pre.db.count + 1) :
    ¬ n < m := by
  intro hnm
  have hbetween := count_le_trail (h.trail.between hn hm hnm)
  have hend := count_le_trail (h.trail.after hm)
  omega

/-- Two calls that were answered an account have made two. -/
theorem created_once (h : (bootstrapSystem isAlphanumeric policy hash).Run ok (.init s) p)
    (hp : p.store.db.count ≤ 1) {i j : Nat} {a b : BootstrapRequest} {x y : AdminId}
    (hi : p.Returned i a (.ok (.created x))) (hj : p.Returned j b (.ok (.created y))) : i = j := by
  obtain ⟨n, e, hn, rfl, he⟩ := inserted_of_created h hi
  obtain ⟨m, f, hm, rfl, hf⟩ := inserted_of_created h hj
  have hnm := not_lt_of_inserted h hp hn hm he hf
  have hmn := not_lt_of_inserted h hp hm hn hf he
  obtain rfl : n = m := by omega
  exact congrArg Event.caller (Option.some.inj (hn.symm.trans hm))

/-- **One administrator.** Bootstraps on an empty store make one administrator at most exactly
when no insert is overtaken by another since its call counted, unless it is refused. -/
theorem one_bootstrap_iff (hs : s.db.admins.table.rows = [])
    (h : (bootstrapSystem isAlphanumeric policy hash).Run (fun _ _ => True) (.init s) p) :
    OneBootstrap p ↔
      (bootstrapSystem isAlphanumeric policy hash).Run NotOvertaken (.init s) p := by
  constructor
  · intro hone
    have hcount := hone.1
    clear hone
    induction h with
    | refl => exact .refl
    | snoc hq _ hstep ih =>
        have hle := (count_le_step hstep).trans hcount
        exact (ih hle).snoc (notOvertaken_of_count hq hstep hcount) hstep
  · intro hrun
    have hcount : p.store.db.count ≤ 1 := by
      clear h
      induction hrun with
      | refl =>
          rw [AuthDb.count]
          exact (congrArg List.length hs).trans_le (Nat.zero_le 1)
      | snoc hq hok hstep ih => exact count_of_notOvertaken hq hstep hok ih
    exact ⟨hcount, fun i j a b x y hi hj => created_once h hcount hi hj⟩

end Runs

/-! ### Two bootstraps -/

/-- No administrator, a database that is about to draw the id `1`, and a salt. -/
def freshBootstrap : BootstrapDb Unit := ⟨noAdmins, ⟨"1"⟩, "salt:"⟩

/-- Passwords in the clear, after their salt. -/
def saltedPlain (plaintext salt : String) : Except PasswordHashError PasswordHash :=
  .ok ⟨salt ++ plaintext⟩

def firstBootstrap : BootstrapRequest := ⟨"root@example.com", "Str0ngEnoughPass"⟩

def otherBootstrap : BootstrapRequest := ⟨"ed@example.com", "Str0ngEnoughPass"⟩

def bootstrapActs (order : List (Act BootstrapRequest Fate Draw)) :
    List (Act BootstrapRequest Fate Draw) :=
  .start firstBootstrap :: .start otherBootstrap :: order

/-- Both count before either inserts. -/
def racingPair : BootstrapPool Unit :=
  ((bootstrapSystem Char.isAlphanum .recommended saltedPlain).acts
    (bootstrapActs [.step 0 .served, .step 1 .served, .step 0 .served, .step 1 .served,
      .step 0 .served, .env (.id ⟨"2"⟩), .step 1 .served]) (.init freshBootstrap)).get rfl

/-- Two bootstraps of one email at once, and another when the first is done. -/
def calmBootstraps : BootstrapPool Unit :=
  ((bootstrapSystem Char.isAlphanum .recommended saltedPlain).guardedActs NotOvertaken
    ([.start firstBootstrap, .start firstBootstrap, .start otherBootstrap] ++
      [.step 0 .served, .step 1 .served, .step 0 .served, .step 1 .served, .step 0 .served,
        .step 2 .served, .env (.id ⟨"2"⟩), .step 1 .served]) (.init freshBootstrap)).get rfl

/-- The email of the second is taken, and the third finds the administrator of the first. -/
theorem calm_bootstraps :
    calmBootstraps.Returned 0 firstBootstrap (.ok (.created ⟨"1"⟩)) ∧
      calmBootstraps.Returned 1 firstBootstrap
        (.error (.internal RepositoryError.emailTaken.display)) ∧
      calmBootstraps.Returned 2 otherBootstrap (.ok .alreadyInitialized) ∧
      OneBootstrap calmBootstraps := by
  have hrun : (bootstrapSystem Char.isAlphanum .recommended saltedPlain).Run NotOvertaken
      (.init freshBootstrap) calmBootstraps := .of_guardedActs .refl (Option.some_get rfl).symm
  exact ⟨rfl, rfl, rfl, (one_bootstrap_iff rfl (hrun.mono fun _ _ _ => trivial)).mpr hrun⟩

/-- Two bootstraps that count the empty store at once make two administrators. -/
theorem racing_bootstraps :
    ∃ p, (bootstrapSystem Char.isAlphanum .recommended saltedPlain).Run (fun _ _ => True)
        (.init freshBootstrap) p ∧
      p.Returned 0 firstBootstrap (.ok (.created ⟨"1"⟩)) ∧
      p.Returned 1 otherBootstrap (.ok (.created ⟨"2"⟩)) ∧ p.store.db.count = 2 ∧
      ¬ OneBootstrap p := by
  refine ⟨racingPair, .of_acts .refl (fun _ _ _ => trivial) (Option.some_get rfl).symm, rfl, rfl,
    rfl, fun hone => ?_⟩
  have htwo : racingPair.store.db.count = 2 := rfl
  exact absurd hone.1 (by rw [htwo]; decide)

end AuthApp.Accounts
