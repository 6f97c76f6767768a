import AuthApp.Sessions.Service

/-!
# Sessions — taking turns

Authentications of one token, one after another, each with its own reading of the clock.  What
they come to is a function of the row behind the token: `turn` for one of them, `turns` for all.

* `inTurn_eq`: the programs, run one after another, compute `turns`.
* `turns_getElem?`: the answer of each depends on the ones before it alone.
* `caught_up`: a session that is live for a later reading, however long the ones before it have
  been put off, is live for each of them in turn.
-/

namespace AuthApp.Sessions
open Interleave Accounts

variable {τ : Type}

/-- One authentication, alone, with the clock at `now` and storage healthy. -/
def authenticateAt (G : SessionTokenGenerator τ) (policy : SessionPolicy) (token : SessionToken)
    (now : Int) (db : SessionDb τ) : Except SessionError AuthenticatedSession × SessionDb τ :=
  (SessionService.authenticate policy token).run (SessionDb.serve G) { db with clock := now }

/-- Authentications run one after another, each with its reading of the clock. -/
def inTurn (G : SessionTokenGenerator τ) (policy : SessionPolicy) (token : SessionToken) :
    List (Nat × Int) → SessionDb τ →
      List (Nat × Except SessionError AuthenticatedSession) × SessionDb τ
  | [], db => ([], db)
  | (i, now) :: rest, db =>
      let first := authenticateAt G policy token now db
      let others := inTurn G policy token rest first.2
      ((i, first.1) :: others.1, others.2)

/-! ### On the row -/

/-- One authentication, as a function of the stored row. -/
def turn (policy : SessionPolicy) (now : Int) :
    Option SessionRow → Except SessionError AuthenticatedSession × Option SessionRow
  | none => (.error .notFound, none)
  | some row =>
      match rowToSession row with
      | .error e => (.error (.internal e.display), some row)
      | .ok session =>
          if policy.isExpired session now then (.error .expired, none)
          else (.ok session.authenticated, some (row.seenAt (now / nanosPerSec)))

def turns (policy : SessionPolicy) :
    List (Nat × Int) → Option SessionRow →
      List (Nat × Except SessionError AuthenticatedSession) × Option SessionRow
  | [], row => ([], row)
  | (i, now) :: rest, row =>
      let first := turn policy now row
      let others := turns policy rest first.2
      ((i, first.1) :: others.1, others.2)

section
variable {policy : SessionPolicy} {now : Int} {row : SessionRow} {session : Session}

theorem turn_error {e : RepositoryError} (hs : rowToSession row = .error e) :
    turn policy now (some row) = (.error (.internal e.display), some row) := by
  rw [turn, hs]

theorem turn_expired (hs : rowToSession row = .ok session)
    (hx : policy.isExpired session now = true) :
    turn policy now (some row) = (.error .expired, none) := by
  rw [turn, hs]
  exact if_pos hx

theorem turn_live (hs : rowToSession row = .ok session)
    (hx : policy.isExpired session now = false) :
    turn policy now (some row) =
      (.ok session.authenticated, some (row.seenAt (now / nanosPerSec))) := by
  rw [turn, hs]
  exact if_neg (by simp [hx])

/-- What is done with a session that was found. -/
theorem useSession_run (G : SessionTokenGenerator τ) {token : SessionToken} {db : SessionDb τ}
    (hrow : db.row token = some row) (hs : rowToSession row = .ok session) :
    ((SessionService.useSession policy token now session).run (SessionDb.serve G) db).1 =
        (turn policy now (some row)).1 ∧
      ((SessionService.useSession policy token now session).run (SessionDb.serve G)
          db).2.row token = (turn policy now (some row)).2 := by
  rw [SessionService.useSession]
  cases hx : policy.isExpired session now with
  | true =>
      rw [turn_expired hs hx]
      exact ⟨rfl, SessionDb.row_delete db token⟩
  | false =>
      obtain ⟨hans, htouched⟩ := SessionDb.touch_of_toEpoch (toEpoch_of_live hs hx) db token
      rw [turn_live hs hx, if_neg Bool.false_ne_true, Prog.perform_bind, Prog.run_call,
        SessionDb.serve, hans]
      exact ⟨rfl, htouched.trans (congrArg _ hrow)⟩

end

theorem authenticateAt_eq (G : SessionTokenGenerator τ) (policy : SessionPolicy)
    (token : SessionToken) (now : Int) (db : SessionDb τ) :
    (authenticateAt G policy token now db).1 = (turn policy now (db.row token)).1 ∧
      (authenticateAt G policy token now db).2.row token = (turn policy now (db.row token)).2 := by
  rw [authenticateAt, SessionService.authenticate]
  change (Prog.run (S := sessionSig) _ (.call .now fun now => .call (.find token) _) _).1 = _ ∧
    SessionDb.row (Prog.run (S := sessionSig) _ (.call .now fun now => .call (.find token) _) _).2
      token = _
  have hfind : SessionDb.find { db with clock := now } token = db.find token := rfl
  rw [Prog.run_call, Prog.run_call, SessionDb.serve, SessionDb.serve]
  dsimp only
  rw [hfind, SessionDb.find_eq]
  cases hrow : db.row token with
  | none => exact ⟨rfl, hrow⟩
  | some row =>
      cases hs : rowToSession row with
      | error e =>
          simp only [Except.map, turn, hs]
          exact ⟨rfl, hrow⟩
      | ok session =>
          have hrow' : SessionDb.row { db with clock := now } token = some row := hrow
          rw [Prog.bind_ret]
          simp only [hs, Except.map]
          exact useSession_run G hrow' hs

theorem inTurn_eq (G : SessionTokenGenerator τ) (policy : SessionPolicy) (token : SessionToken)
    (readings : List (Nat × Int)) (db : SessionDb τ) :
    (inTurn G policy token readings db).1 = (turns policy readings (db.row token)).1 ∧
      (inTurn G policy token readings db).2.row token =
        (turns policy readings (db.row token)).2 := by
  induction readings generalizing db with
  | nil => exact ⟨rfl, rfl⟩
  | cons reading rest ih =>
      obtain ⟨i, now⟩ := reading
      obtain ⟨hans, hrow⟩ := authenticateAt_eq G policy token now db
      obtain ⟨hrest, hlast⟩ := ih (authenticateAt G policy token now db).2
      rw [inTurn, turns]
      dsimp only
      rw [hans, hrest, hlast, hrow]
      exact ⟨rfl, rfl⟩

/-! ### One turn among others -/

theorem turns_append (policy : SessionPolicy) (first rest : List (Nat × Int))
    (row : Option SessionRow) :
    turns policy (first ++ rest) row =
      ((turns policy first row).1 ++ (turns policy rest (turns policy first row).2).1,
        (turns policy rest (turns policy first row).2).2) := by
  induction first generalizing row with
  | nil => rfl
  | cons reading first ih =>
      obtain ⟨i, now⟩ := reading
      rw [List.cons_append, turns, turns, ih]
      rfl

theorem map_fst_turns (policy : SessionPolicy) (readings : List (Nat × Int))
    (row : Option SessionRow) :
    (turns policy readings row).1.map Prod.fst = readings.map Prod.fst := by
  induction readings generalizing row with
  | nil => rfl
  | cons reading rest ih =>
      obtain ⟨i, now⟩ := reading
      rw [turns, List.map_cons, List.map_cons, ih]

/-- The row before the turn number `x`. -/
def rowBefore (policy : SessionPolicy) (readings : List (Nat × Int)) (row : Option SessionRow)
    (x : Nat) : Option SessionRow :=
  (turns policy (readings.take x) row).2

section
variable {policy : SessionPolicy} {readings : List (Nat × Int)} {row : Option SessionRow}
  {x i : Nat} {now : Int}

theorem turns_take_succ (h : readings[x]? = some (i, now)) :
    turns policy (readings.take (x + 1)) row =
      ((turns policy (readings.take x) row).1 ++
          [(i, (turn policy now (rowBefore policy readings row x)).1)],
        (turn policy now (rowBefore policy readings row x)).2) := by
  rw [List.take_add_one, h, turns_append]
  rfl

theorem rowBefore_succ (h : readings[x]? = some (i, now)) :
    rowBefore policy readings row (x + 1) =
      (turn policy now (rowBefore policy readings row x)).2 := by
  rw [rowBefore, turns_take_succ h]

/-- After the last turn the row no longer changes. -/
theorem rowBefore_succ_of_none (h : readings[x]? = none) :
    rowBefore policy readings row (x + 1) = rowBefore policy readings row x := by
  have hlen := List.getElem?_eq_none_iff.mp h
  rw [rowBefore, rowBefore, List.take_of_length_le (Nat.le_succ_of_le hlen),
    List.take_of_length_le hlen]

theorem turns_getElem? (h : readings[x]? = some (i, now)) :
    (turns policy readings row).1[x]? =
      some (i, (turn policy now (rowBefore policy readings row x)).1) := by
  have hx := (List.getElem?_eq_some_iff.mp h).1
  have hlen : (turns policy (readings.take x) row).1.length = x := by
    have hmap := congrArg List.length (map_fst_turns policy (readings.take x) row)
    simpa [Nat.min_eq_left (Nat.le_of_lt hx)] using hmap
  have hsplit := turns_append policy (readings.take (x + 1)) (readings.drop (x + 1)) row
  rw [List.take_append_drop, turns_take_succ h] at hsplit
  rw [hsplit]
  simp [hlen]

/-- A call whose reading is the only one it took has one answer. -/
theorem mem_turns_iff (h : readings[x]? = some (i, now))
    (honce : ∀ (y : Nat) (t : Int), readings[y]? = some (i, t) → y = x)
    (b : Except SessionError AuthenticatedSession) :
    (i, b) ∈ (turns policy readings row).1 ↔
      b = (turn policy now (rowBefore policy readings row x)).1 := by
  have hanswer := @turns_getElem? policy readings row x i now h
  constructor
  · intro hb
    obtain ⟨y, hy⟩ := List.mem_iff_getElem?.mp hb
    have hfst : (readings.map Prod.fst)[y]? = some i := by
      rw [← map_fst_turns policy readings row, List.getElem?_map, hy]
      rfl
    rw [List.getElem?_map] at hfst
    obtain ⟨⟨j, t⟩, hr, rfl⟩ := Option.map_eq_some_iff.mp hfst
    rw [honce y t hr, hanswer] at hy
    exact (congrArg Prod.snd (Option.some.inj hy)).symm
  · rintro rfl
    exact List.mem_of_getElem? hanswer

end

/-! ### Readings that are put off -/

section
variable {policy : SessionPolicy} {readings : List (Nat × Int)} {row : SessionRow}
  {session : Session}

/-- A session that is gone in turn stays gone. -/
theorem rowBefore_none_mono {x y : Nat} (h : rowBefore policy readings (some row) x = none)
    (hxy : x ≤ y) : rowBefore policy readings (some row) y = none := by
  induction y, hxy using Nat.le_induction with
  | base => exact h
  | succ y hxy ih =>
      cases hy : readings[y]? with
      | none => rw [rowBefore_succ_of_none hy, ih]
      | some reading => rw [rowBefore_succ hy, ih, turn]

/-- A row that cannot be decoded, or is not there, is left alone. -/
theorem rowBefore_inert {row : Option SessionRow}
    (h : ∀ r, row = some r → ∃ e, rowToSession r = .error e) (x : Nat) :
    rowBefore policy readings row x = row := by
  induction x with
  | zero => rfl
  | succ x ih =>
      cases hx : readings[x]? with
      | none => rw [rowBefore_succ_of_none hx, ih]
      | some reading =>
          rw [rowBefore_succ hx, ih]
          cases row with
          | none => rfl
          | some r =>
              obtain ⟨e, he⟩ := h r rfl
              rw [turn_error he]

/-- In turn, a session changes in nothing but when it was last seen. -/
theorem rowBefore_cases (hs : rowToSession row = .ok session) (x : Nat) :
    rowBefore policy readings (some row) x = none ∨
      ∃ secs, rowBefore policy readings (some row) x = some (row.seenAt secs) := by
  induction x with
  | zero => exact .inr ⟨row.lastSeenAt, rfl⟩
  | succ x ih =>
      cases hx : readings[x]? with
      | none =>
          rw [rowBefore_succ_of_none hx]
          exact ih
      | some reading =>
          obtain ⟨i, now⟩ := reading
          rw [rowBefore_succ hx]
          rcases ih with hnone | ⟨secs, hsome⟩
          · rw [hnone, turn]
            exact .inl rfl
          · rw [hsome]
            cases hx : policy.isExpired { session with lastSeenAt := fromEpoch secs } now with
            | true => rw [turn_expired (rowToSession_seenAt hs secs) hx]; exact .inl rfl
            | false =>
                rw [turn_live (rowToSession_seenAt hs secs) hx]
                exact .inr ⟨now / nanosPerSec, rfl⟩

/-- A turn after which the session is there found it live. -/
theorem turn_of_there (hs : rowToSession row = .ok session) {x i : Nat} {now : Int}
    (hx : readings[x]? = some (i, now))
    (hthere : rowBefore policy readings (some row) (x + 1) ≠ none) :
    (turn policy now (rowBefore policy readings (some row) x)).1 = .ok session.authenticated ∧
      rowBefore policy readings (some row) (x + 1) = some (row.seenAt (now / nanosPerSec)) ∧
        ∃ secs, rowBefore policy readings (some row) x = some (row.seenAt secs) ∧
          fromEpoch secs ≤ now := by
  rw [rowBefore_succ hx] at hthere ⊢
  rcases rowBefore_cases hs x with hnone | ⟨secs, hsome⟩
  · rw [hnone, turn] at hthere
    exact absurd rfl hthere
  · rw [hsome] at hthere ⊢
    cases hx : policy.isExpired { session with lastSeenAt := fromEpoch secs } now with
    | true =>
        rw [turn_expired (rowToSession_seenAt hs secs) hx] at hthere
        exact absurd rfl hthere
    | false =>
        rw [turn_live (rowToSession_seenAt hs secs) hx]
        exact ⟨rfl, rfl, secs, rfl, (SessionPolicy.isExpired_eq_false_iff.mp hx).2.1⟩

/-- A turn after which the session is gone found it expired, or gone already. -/
theorem turn_of_gone (hs : rowToSession row = .ok session) {x i : Nat} {now : Int}
    (hx : readings[x]? = some (i, now))
    (hthere : rowBefore policy readings (some row) x ≠ none)
    (hgone : rowBefore policy readings (some row) (x + 1) = none) :
    (turn policy now (rowBefore policy readings (some row) x)).1 = .error .expired := by
  rw [rowBefore_succ hx] at hgone
  rcases rowBefore_cases hs x with hnone | ⟨secs, hsome⟩
  · exact absurd hnone hthere
  · rw [hsome] at hgone ⊢
    cases hx : policy.isExpired { session with lastSeenAt := fromEpoch secs } now with
    | true => rw [turn_expired (rowToSession_seenAt hs secs) hx]
    | false =>
        rw [turn_live (rowToSession_seenAt hs secs) hx] at hgone
        cases hgone

/-- A reading is not before an earlier one. -/
theorem le_of_sorted (hsorted : readings.Pairwise fun a b => a.2 ≤ b.2) {x y i j : Nat}
    {now later : Int} (hx : readings[x]? = some (i, now)) (hy : readings[y]? = some (j, later))
    (hxy : x ≤ y) : now ≤ later := by
  obtain ⟨hx', hi⟩ := List.getElem?_eq_some_iff.mp hx
  obtain ⟨hy', hj⟩ := List.getElem?_eq_some_iff.mp hy
  rcases Nat.eq_or_lt_of_le hxy with rfl | hlt
  · rw [hx] at hy
    cases hy
    exact le_rfl
  · have hle := List.pairwise_iff_getElem.mp hsorted x y hx' hy' hlt
    rwa [hi, hj] at hle

/-- A session that is live for a reading, and was last seen in turn no later than the readings
between, is live for each of them in its turn. -/
theorem caught_up (hs : rowToSession row = .ok session)
    (hsorted : readings.Pairwise fun a b => a.2 ≤ b.2) {a x i : Nat} {secs now : Int}
    (ha : rowBefore policy readings (some row) a = some (row.seenAt secs)) (hax : a ≤ x)
    (hx : readings[x]? = some (i, now))
    (hseen : ∀ (k j : Nat) (t : Int), a ≤ k → readings[k]? = some (j, t) → fromEpoch secs ≤ t)
    (hlive : policy.isExpired { session with lastSeenAt := fromEpoch secs } now = false) :
    rowBefore policy readings (some row) (x + 1) = some (row.seenAt (now / nanosPerSec)) := by
  obtain ⟨habs, -, hidle⟩ := SessionPolicy.isExpired_eq_false_iff.mp hlive
  have hstep : ∀ (k j : Nat) (t last : Int), k ≤ x → readings[k]? = some (j, t) →
      rowBefore policy readings (some row) k = some (row.seenAt last) →
        fromEpoch secs ≤ fromEpoch last → fromEpoch last ≤ t →
          rowBefore policy readings (some row) (k + 1) = some (row.seenAt (t / nanosPerSec)) := by
    intro k j t last hkx hk hrow hfirst hlast
    have hle := le_of_sorted hsorted hk hx hkx
    have hnow : policy.isExpired { session with lastSeenAt := fromEpoch last } t = false := by
      refine SessionPolicy.isExpired_eq_false_iff.mpr ⟨lt_of_le_of_lt hle habs, hlast, ?_⟩
      dsimp only at hidle ⊢
      omega
    rw [rowBefore_succ hk, hrow, turn_live (rowToSession_seenAt hs last) hnow]
    rfl
  -- up to this turn the session is there, and was last seen neither before `secs` nor too late
  have hup : ∀ k, a ≤ k → k ≤ x → ∃ last,
      rowBefore policy readings (some row) k = some (row.seenAt last) ∧
        fromEpoch secs ≤ fromEpoch last ∧
          ∀ (j : Nat) (t : Int), readings[k]? = some (j, t) → fromEpoch last ≤ t := by
    intro k hak
    induction k, hak using Nat.le_induction with
    | base => exact fun _ => ⟨secs, ha, le_rfl, fun j t hk => hseen a j t le_rfl hk⟩
    | succ k hak ih =>
        intro hkx
        obtain ⟨last, hrow, hfirst, hlast⟩ := ih (Nat.le_of_succ_le hkx)
        obtain ⟨⟨j, t⟩, hk⟩ : ∃ reading, readings[k]? = some reading :=
          ⟨_, List.getElem?_eq_getElem (Nat.lt_of_lt_of_le hkx
            (Nat.le_of_lt (List.getElem?_eq_some_iff.mp hx).1))⟩
        have hst := hseen k j t hak hk
        have htsec := le_div_of_fromEpoch_le hst
        refine ⟨t / nanosPerSec, hstep k j t last (Nat.le_of_succ_le hkx) hk hrow hfirst
          (hlast j t hk), fromEpoch_mono htsec, fun j' t' hk' => ?_⟩
        have hpos := (fromEpoch_nonneg secs).trans hst
        exact (fromEpoch_div_le hpos).trans (le_of_sorted hsorted hk hk' (Nat.le_succ k))
  obtain ⟨last, hrow, hfirst, hlast⟩ := hup x hax le_rfl
  exact hstep x i now last le_rfl hx hrow hfirst (hlast i now hx)

end

end AuthApp.Sessions
