import AuthApp.Accounts.Lockout
import AuthApp.Accounts.Store

/-!
# Accounts — lockouts, written and read back

A lockout crosses into storage as an `INTEGER` and a whole epoch second.  A count up to `i32::MAX`
comes back as it was, and a greater one as none; a deadline comes back without its part of a second,
and one before 1970 does not come back.  A deadline that no timestamp holds is not stored.

* `stored_getState`: what a pair of columns reads as.
* `failedAttempts_lost`: the counts that do not come back.
* `stored_lockout`: what failures leave is read back so, from an account and from an address.
-/

namespace AuthApp.Accounts

def i32Max : Nat := 2 ^ 31 - 1

/-- The state after failures at some instants, the earliest first. -/
def LockoutPolicy.registerFailures (policy : LockoutPolicy) (instants : List Int) : LockoutState :=
  instants.foldl policy.registerFailure .clear

/-- What is read back has the count that was written, and locks until the whole second of the
deadline that was written, unless that is before 1970. -/
structure Stored (state back : LockoutState) : Prop where
  failedAttempts : back.failedAttempts = state.failedAttempts
  isLocked : ∀ at', LockoutPolicy.isLocked back at' ↔
    ∃ til, state.lockedUntil = some til ∧ 0 ≤ til ∧ at' < til / nanosPerSec * nanosPerSec

section
variable {state : LockoutState}

theorem asI32_of_le {n : Nat} (h : n ≤ i32Max) : asI32 n = n := by
  rw [i32Max] at h
  rw [asI32, Nat.mod_eq_of_lt (by omega), if_pos (by omega),
    Int.emod_eq_of_lt (by omega) (by omega)]

/-- A count from `2 ^ 31` on is read back as no failure. -/
theorem failedAttempts_lost (h : i32Max < state.failedAttempts)
    (hu32 : state.failedAttempts ≤ u32Max) :
    (getState (putState state).1 (putState state).2).failedAttempts = 0 := by
  have hnegative : asI32 state.failedAttempts ≤ 0 := by
    rw [i32Max] at h
    rw [u32Max] at hu32
    rw [asI32, Nat.mod_eq_of_lt (by omega), if_neg (by omega),
      Int.emod_eq_of_lt (by omega) (by omega)]
    omega
  simp only [getState, putState, max_eq_right hnegative]
  rfl

theorem stored_getState (h : state.failedAttempts ≤ i32Max) :
    Stored state (getState (putState state).1 (putState state).2) where
  failedAttempts := by
    simp only [getState, putState, asI32_of_le h]
    omega
  isLocked := by
    intro at'
    rw [LockoutPolicy.isLocked_iff, getState, putState]
    cases state.lockedUntil with
    | none => simp
    | some til =>
        rw [Option.bind_some, toEpoch]
        by_cases htil : 0 ≤ til
        · have hsecs : fromEpoch (til / nanosPerSec) = til / nanosPerSec * nanosPerSec := by
            rw [fromEpoch, max_eq_left (Int.ediv_nonneg htil (Int.natCast_nonneg _))]
          simp [htil, hsecs]
        · simp [htil]

end

section
variable {ι : Type} {db : AuthDb ι} {state : LockoutState}

/-- An account is read back with what was written for its id. -/
theorem findByEmail_updateLockout {email : Email} {account : AdminAccount}
    (h : db.findByEmail email = .ok (some account)) (state : LockoutState) :
    (db.updateLockout account.id state).findByEmail email =
      .ok (some { account with
        lockout := getState (putState state).1 (putState state).2 }) := by
  obtain ⟨row, hrow, hacc⟩ := AuthDb.findByEmail_eq_some_iff.mp h
  refine AuthDb.findByEmail_eq_some_iff.mpr ⟨row.setLockout state, ?_, ?_⟩
  · rw [AuthDb.updateLockout, AdminTable.findByEmail_updateLockout, hrow, Option.map_some,
      if_pos (id_of_rowToAccount hacc).symm]
  · exact rowToAccount_setLockout hacc state

/-- An address is read back with what was written for it. -/
theorem getIp_putIp (ip : String) (state : LockoutState) :
    (db.putIp ip state).getIp ip = getState (putState state).1 (putState state).2 := by
  simp only [AuthDb.getIp, AuthDb.putIp]
  rw [Table.find?_upsert db.ipLockouts ⟨ip, (putState state).1, (putState state).2⟩
    (fun row => row.setLockout state) (fun _ => rfl), if_pos rfl]
  cases db.ipLockouts.find? ip with
  | none => rfl
  | some row => rfl

end

section
variable {policy : LockoutPolicy}

/-- Each failure counts, up to `u32::MAX`. -/
theorem failedAttempts_registerFailures (instants : List Int) :
    (policy.registerFailures instants).failedAttempts = min instants.length u32Max := by
  induction instants using List.reverseRecOn with
  | nil => rfl
  | append_singleton earlier now ih =>
      have hlast : policy.registerFailures (earlier ++ [now]) =
          policy.registerFailure (policy.registerFailures earlier) now := by
        rw [LockoutPolicy.registerFailures, List.foldl_append]
        rfl
      have hcount : (policy.registerFailures (earlier ++ [now])).failedAttempts =
          min (min earlier.length u32Max + 1) u32Max := by
        rw [hlast, ← ih]
        rfl
      rw [hcount, List.length_append, List.length_singleton]
      omega

/-- **What storage keeps of a lockout.**  Up to `i32::MAX` failures, under any policy and at any
instants: what is written for an account or for an address is read back with the same count, and
locks until the whole second of its deadline; a deadline that no timestamp holds is refused, and
nothing is written. -/
theorem stored_lockout {ι : Type} (policy : LockoutPolicy) (instants : List Int)
    (hcount : instants.length ≤ i32Max) (db : AuthDb ι) :
    ((policy.registerFailures instants).Representable →
      (∀ email account, db.findByEmail email = .ok (some account) → ∃ db' back,
        PgAdminRepository.updateLockout db account.id (policy.registerFailures instants) =
            (.ok (), db') ∧
          db'.findByEmail email = .ok (some back) ∧
          Stored (policy.registerFailures instants) back.lockout) ∧
      ∀ ip, ∃ db', PgIpLockoutStore.put db ip (policy.registerFailures instants) = (.ok (), db') ∧
        Stored (policy.registerFailures instants) (db'.getIp ip)) ∧
    (¬ (policy.registerFailures instants).Representable → ∃ msg,
      (∀ id, PgAdminRepository.updateLockout db id (policy.registerFailures instants) =
        (.error (.backend msg), db)) ∧
      ∀ ip, PgIpLockoutStore.put db ip (policy.registerFailures instants) =
        (.error (.backend msg), db)) := by
  have hle : (policy.registerFailures instants).failedAttempts ≤ i32Max := by
    rw [failedAttempts_registerFailures]
    exact (min_le_left _ _).trans hcount
  refine ⟨fun hin => ⟨fun email account h => ?_, fun ip => ?_⟩, fun hout => ?_⟩
  · exact ⟨_, _, if_pos hin, findByEmail_updateLockout h _, stored_getState hle⟩
  · refine ⟨_, if_pos hin, ?_⟩
    rw [getIp_putIp]
    exact stored_getState hle
  · exact ⟨_, fun id => if_neg hout, fun ip => if_neg hout⟩

end

/-! ### A deadline within a second -/

def storedAdmin : AdminRow := ⟨⟨"a"⟩, editorEmail.address, "secret", 0, none, editorRole.name, none⟩

/-- One administrator. -/
def storedDb : AuthDb Unit :=
  { noAdmins with admins := (noAdmins.admins.insert? storedAdmin).get rfl }

/-- Five failures, half a second after 1970 began. -/
def halfPast : LockoutState :=
  LockoutPolicy.recommended.registerFailures (List.replicate 5 500000000)

theorem halfPast_stored : ∃ db', PgIpLockoutStore.put storedDb "10.0.0.1" halfPast = (.ok (), db') ∧
    Stored halfPast (db'.getIp "10.0.0.1") :=
  ((stored_lockout .recommended (List.replicate 5 500000000) (by decide) storedDb).1
    (by decide)).2 "10.0.0.1"

/-- A failure that locks for ten million million seconds. -/
def farOff : LockoutState :=
  LockoutPolicy.registerFailures ⟨1, fromSecs (10 ^ 13), fromSecs (10 ^ 13)⟩ [0]

/-- A lock until 60.5 s is read back, from an account and from an address, as one that is over at
60.2 s; and one until the year 318857 is not stored. -/
theorem halfPast_weakened :
    (LockoutPolicy.isLocked halfPast 60200000000 = true ∧
      (∃ db' back, PgAdminRepository.updateLockout storedDb ⟨"a"⟩ halfPast = (.ok (), db') ∧
        db'.findByEmail editorEmail = .ok (some back) ∧
        LockoutPolicy.isLocked back.lockout 60200000000 = false) ∧
      ∃ db', PgIpLockoutStore.put storedDb "10.0.0.1" halfPast = (.ok (), db') ∧
        LockoutPolicy.isLocked (db'.getIp "10.0.0.1") 60200000000 = false) ∧
      LockoutPolicy.isLocked farOff 0 = true ∧
      PgIpLockoutStore.put storedDb "10.0.0.1" farOff =
        (.error (.backend "timestamp out of range"), storedDb) ∧
      LockoutPolicy.isLocked (storedDb.getIp "10.0.0.1") 0 = false :=
  ⟨⟨by decide, ⟨_, _, if_pos (by decide), rfl, by decide⟩, _, if_pos (by decide), by decide⟩,
    by decide, if_neg (by decide), by decide⟩

end AuthApp.Accounts
