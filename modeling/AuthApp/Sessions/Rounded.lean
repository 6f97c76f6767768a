import AuthApp.Sessions.System

/-!
# Sessions — rounding to whole seconds

The store keeps the instants of a session as whole seconds, each rounded down.  What comes back
is never live for longer than the session that was handed in, and for less than a second shorter.

* `RoundsDown.isExpired`, `RoundsDown.live`: the session that comes back, against the exact one.
* `HoldsRounded.serve`: what one call of the adapter does to a stored session.
* `stored_session_not_prolonged`: a session from its start, through any sequence of calls.
-/

namespace AuthApp.Sessions
open Interleave Accounts

/-! ### A session, and the same session at whole seconds -/

/-- `stored` is less than a second below `exact`. -/
def SecondBelow (stored exact : Int) : Prop := stored ≤ exact ∧ exact < stored + nanosPerSec

theorem secondBelow_fromEpoch {t secs : Int} (h : toEpoch t = some secs) :
    SecondBelow (fromEpoch secs) t :=
  fromEpoch_toEpoch h

/-- `stored` is `exact` with its two limits rounded down to whole seconds. -/
structure Session.RoundsDown (stored exact : Session) : Prop where
  token : stored.token = exact.token
  adminId : stored.adminId = exact.adminId
  role : stored.role = exact.role
  csrfToken : stored.csrfToken = exact.csrfToken
  absoluteExpiresAt : SecondBelow stored.absoluteExpiresAt exact.absoluteExpiresAt
  lastSeenAt : SecondBelow stored.lastSeenAt exact.lastSeenAt

/-- One full second is left before either limit of the session. -/
def SessionPolicy.SecondLeft (policy : SessionPolicy) (session : Session) (now : Int) : Prop :=
  now + nanosPerSec ≤ session.absoluteExpiresAt ∧
    now - session.lastSeenAt + nanosPerSec ≤ policy.idleTimeout

namespace Session.RoundsDown
variable {stored exact : Session}

/-- Rounding does not prolong a session. -/
theorem isExpired (h : stored.RoundsDown exact) {policy : SessionPolicy} {now : Int}
    (hseen : exact.lastSeenAt ≤ now) (hexp : policy.isExpired exact now = true) :
    policy.isExpired stored now = true := by
  by_contra hlive
  obtain ⟨habs, -, hidle⟩ := SessionPolicy.isExpired_eq_false_iff.mp (by simpa using hlive)
  have hexact : policy.isExpired exact now = false :=
    SessionPolicy.isExpired_eq_false_iff.mpr
      ⟨habs.trans_le h.absoluteExpiresAt.1, hseen, by have hle := h.lastSeenAt.1; omega⟩
  rw [hexp] at hexact
  cases hexact

/-- Rounding costs a session less than a second of its life. -/
theorem live (h : stored.RoundsDown exact) {policy : SessionPolicy} {now : Int}
    (hseen : exact.lastSeenAt ≤ now) (hleft : policy.SecondLeft exact now) :
    policy.isExpired stored now = false := by
  obtain ⟨habs, hidle⟩ := hleft
  have hdeadline := h.absoluteExpiresAt.2
  have hlast := h.lastSeenAt
  refine SessionPolicy.isExpired_eq_false_iff.mpr ⟨by omega, hlast.1.trans hseen, ?_⟩
  have hlt := hlast.2
  omega

theorem touched (h : stored.RoundsDown exact) {t secs : Int} (ht : toEpoch t = some secs) :
    RoundsDown { stored with lastSeenAt := fromEpoch secs } { exact with lastSeenAt := t } :=
  ⟨h.token, h.adminId, h.role, h.csrfToken, h.absoluteExpiresAt, secondBelow_fromEpoch ht⟩

end Session.RoundsDown

/-! ### The rounded session, in the store -/

namespace SessionDb
variable {τ : Type}

/-- The row behind the token of `exact` reads back as `exact` rounded down. -/
def HoldsRounded (db : SessionDb τ) (exact : Session) : Prop :=
  ∃ stored, db.find exact.token = .ok (some stored) ∧ stored.RoundsDown exact

theorem find_of_row {db : SessionDb τ} {token : SessionToken} {row : SessionRow}
    {session : Session} (h : db.row token = some row) (hs : rowToSession row = .ok session) :
    db.find token = .ok (some session) := by
  rw [find_eq, h]
  exact congrArg (Except.map some) hs

/-- The rows that an accepted session leaves behind. -/
theorem holdsRounded_insert {db db' : SessionDb τ} {session : Session}
    (h : db.insert session = (.ok (), db')) : db'.HoldsRounded session := by
  rw [insert] at h
  split at h
  · next createdAt lastSeenAt absoluteExpiresAt _ hseen habs =>
      split at h
      · split at h
        · next sessions hins =>
            cases h
            have hrow := Table.find?_insert? hins session.token.raw
            rw [if_pos rfl] at hrow
            refine ⟨_, find_of_row hrow (by rw [rowToSession, Role.parse_name]), ?_⟩
            exact ⟨rfl, rfl, rfl, rfl, secondBelow_fromEpoch habs, secondBelow_fromEpoch hseen⟩
        · cases h
      · cases h
  · cases h

theorem HoldsRounded.of_row {db db' : SessionDb τ} {exact : Session} (h : db.HoldsRounded exact)
    (hrow : db'.row exact.token = db.row exact.token) : db'.HoldsRounded exact := by
  obtain ⟨stored, hfind, hr⟩ := h
  exact ⟨stored, by rw [find_eq, hrow, ← find_eq, hfind], hr⟩

end SessionDb

/-- The call leaves the token in the store, and touches it at no instant before 1970. -/
def SessionOp.Keeps (token : SessionToken) : SessionOp → Prop
  | .delete t => t ≠ token
  | .touch t lastSeenAt => t = token → 0 ≤ lastSeenAt
  | _ => True

/-- The last instant at which the token was seen, after the call. -/
def SessionOp.seen (token : SessionToken) (lastSeen : Int) : SessionOp → Int
  | .touch t lastSeenAt => if t = token then lastSeenAt else lastSeen
  | _ => lastSeen

/-- The exact session, last seen at another instant. -/
def Session.seenAt (exact : Session) (lastSeenAt : Int) : Session := { exact with lastSeenAt }

namespace SessionDb
variable {τ : Type}

/-- A row that is there survives an insert: a taken token is refused. -/
theorem row_insert {db : SessionDb τ} {token : SessionToken} {row : SessionRow}
    (h : db.row token = some row) (session : Session) :
    (db.insert session).2.row token = some row := by
  rw [insert]
  split
  · split
    · split
      · next sessions hins =>
          have hne : session.token.raw ≠ token.raw := by
            intro heq
            rw [SessionDb.row, ← heq] at h
            exact absurd hins
              (ne_of_eq_of_ne (Table.insert?_eq_none_iff.mpr ⟨row, h⟩) (by simp))
          exact (Table.find?_insert? hins token.raw).trans ((if_neg hne).trans h)
      · exact h
    · exact h
  · exact h

theorem row_touch_ne {db : SessionDb τ} {token other : SessionToken} (h : other ≠ token)
    (lastSeenAt : Int) : (db.touch other lastSeenAt).2.row token = db.row token := by
  have hraw : other.raw ≠ token.raw := fun heq => h (congrArg SessionToken.mk heq)
  rw [touch]
  split
  · next secs _ =>
      exact Table.find?_modify_ne db.sessions (fun row => row.seenAt secs) (fun _ => rfl) hraw
  · split <;> rfl

/-- One call of the adapter: the row follows the exact session. -/
theorem HoldsRounded.serve {db : SessionDb τ} {exact : Session} (h : db.HoldsRounded exact)
    (G : SessionTokenGenerator τ) (op : SessionOp) (hop : op.Keeps exact.token) :
    (serve G op db).2.HoldsRounded
      (exact.seenAt (op.seen exact.token exact.lastSeenAt)) := by
  cases op with
  | insert session =>
      obtain ⟨stored, hfind, -⟩ := id h
      obtain ⟨row, hrow, -⟩ := find_eq_ok_some hfind
      exact h.of_row ((row_insert hrow session).trans hrow.symm)
  | touch token lastSeenAt =>
      rw [SessionOp.seen]
      by_cases heq : token = exact.token
      · subst heq
        rw [if_pos rfl]
        obtain ⟨stored, hfind, hr⟩ := h
        obtain ⟨row, hrow, hdec⟩ := find_eq_ok_some hfind
        have hsecs : toEpoch lastSeenAt = some (lastSeenAt / nanosPerSec) := if_pos (hop rfl)
        refine ⟨_, ?_, hr.touched hsecs⟩
        have hrow' := (touch_of_toEpoch hsecs db exact.token).2
        rw [hrow] at hrow'
        exact find_of_row hrow' (rowToSession_seenAt hdec _)
      · rw [if_neg heq]
        exact h.of_row (row_touch_ne heq lastSeenAt)
  | delete token =>
      have hraw : token.raw ≠ exact.token.raw := fun heq => hop (congrArg SessionToken.mk heq)
      exact h.of_row ((Table.find?_delete ..).trans (if_neg hraw))
  | _ => exact h

/-- The store after a sequence of calls. -/
def after (G : SessionTokenGenerator τ) (db : SessionDb τ) (calls : List SessionOp) :
    SessionDb τ :=
  calls.foldl (fun db op => (SessionDb.serve G op db).2) db

/-- Any sequence of calls, by induction on it. -/
theorem HoldsRounded.after {db : SessionDb τ} {exact : Session} (h : db.HoldsRounded exact)
    (G : SessionTokenGenerator τ) {calls : List SessionOp}
    (hcalls : ∀ op ∈ calls, op.Keeps exact.token) :
    (db.after G calls).HoldsRounded
      (exact.seenAt (calls.foldl (SessionOp.seen exact.token) exact.lastSeenAt)) := by
  induction calls generalizing db exact with
  | nil => exact h
  | cons op calls ih =>
      rw [List.forall_mem_cons] at hcalls
      exact ih (h.serve G op hcalls.1) hcalls.2

end SessionDb

/-! ### From the start of a session -/

/-- The session that is issued at `now`, exactly. -/
def IssuedSession.session (issued : IssuedSession) (adminId : AdminId) (role : Role) (now : Int) :
    Session :=
  { token := issued.token, adminId, role, csrfToken := issued.csrfToken, createdAt := now,
    absoluteExpiresAt := issued.absoluteExpiresAt, lastSeenAt := now }

/-- What a start is about to hand out, and the store once its tokens are drawn. -/
def IssuedSession.drawn {τ : Type} (G : SessionTokenGenerator τ) (policy : SessionPolicy)
    (db : SessionDb τ) : IssuedSession × SessionDb τ :=
  let session := G.generateSessionToken db.entropy
  let csrf := G.generateCsrfToken session.2
  (⟨session.1, csrf.1, db.clock + policy.absoluteTimeout⟩, { db with entropy := csrf.2 })

theorem start_run {τ : Type} {G : SessionTokenGenerator τ} {policy : SessionPolicy}
    {adminId : AdminId} {role : Role} {db after : SessionDb τ}
    {ans : Except RepositoryError Unit}
    (hins : (IssuedSession.drawn G policy db).2.insert
      ((IssuedSession.drawn G policy db).1.session adminId role db.clock) = (ans, after)) :
    (SessionService.start policy adminId role).run (SessionDb.serve G) db =
      (match ans with
        | .error e => .error (.internal e.display)
        | .ok () => .ok (IssuedSession.drawn G policy db).1, after) := by
  simp only [IssuedSession.drawn, IssuedSession.session] at hins
  simp only [SessionService.start, bind, Prog.bind, Prog.perform, Prog.run, SessionDb.serve, hins]
  cases ans <;> rfl

theorem holdsRounded_start {τ : Type} {G : SessionTokenGenerator τ} {policy : SessionPolicy}
    {adminId : AdminId} {role : Role} {db db' : SessionDb τ} {issued : IssuedSession}
    (h : (SessionService.start policy adminId role).run (SessionDb.serve G) db =
      (.ok issued, db')) :
    db'.HoldsRounded (issued.session adminId role db.clock) := by
  rcases hins : (IssuedSession.drawn G policy db).2.insert
      ((IssuedSession.drawn G policy db).1.session adminId role db.clock) with ⟨e | u, after⟩
  · cases (start_run hins).symm.trans h
  · cases (start_run hins).symm.trans h
    exact SessionDb.holdsRounded_insert hins

/-- A session that the store accepted, after any calls that leave it there: what is read back is
the exact session with its limits rounded down, expired whenever the exact one is and live as long
as a full second is left of both limits. -/
theorem stored_session_not_prolonged {τ : Type} (G : SessionTokenGenerator τ)
    (issuing policy : SessionPolicy) (adminId : AdminId) (role : Role) (db db' : SessionDb τ)
    (issued : IssuedSession)
    (hstart : (SessionService.start issuing adminId role).run (SessionDb.serve G) db =
      (.ok issued, db'))
    (calls : List SessionOp) (hcalls : ∀ op ∈ calls, op.Keeps issued.token) :
    let exact := (issued.session adminId role db.clock).seenAt
      (calls.foldl (SessionOp.seen issued.token) db.clock)
    ∃ stored, (db'.after G calls).find issued.token = .ok (some stored) ∧
      (stored.token = issued.token ∧ stored.adminId = adminId ∧ stored.role = role ∧
        stored.csrfToken = issued.csrfToken) ∧
      ∀ now, exact.lastSeenAt ≤ now →
        (policy.isExpired exact now = true → policy.isExpired stored now = true) ∧
        (policy.SecondLeft exact now → policy.isExpired stored now = false) := by
  intro exact
  obtain ⟨stored, hfind, hr⟩ := (holdsRounded_start hstart).after G hcalls
  exact ⟨stored, hfind, ⟨hr.token, hr.adminId, hr.role, hr.csrfToken⟩,
    fun now hseen => ⟨hr.isExpired hseen, hr.live hseen⟩⟩

/-- One administrator, and no session, half a second into 1970. -/
def halfSecondIn : SessionDb (Nat × Nat) := { noSessions with clock := 500000000 }

/-- A session of two idle seconds, touched a second and a half into 1970: one second later it is
live, and two seconds later it is not. -/
theorem stored_session_not_prolonged_touched :
    ∃ stored, (SessionDb.after unaryTokens.generator
        ((SessionService.start .recommended ⟨"admin-1"⟩ .admin).run
          (SessionDb.serve unaryTokens.generator) halfSecondIn).2
        [.touch (unaryTokens.session 0) 1500000000]).find (unaryTokens.session 0) =
          .ok (some stored) ∧
      SessionPolicy.isExpired ⟨fromSecs 2, fromSecs 60⟩ stored 2500000000 = false ∧
      SessionPolicy.isExpired ⟨fromSecs 2, fromSecs 60⟩ stored 3500000000 = true := by
  obtain ⟨stored, hfind, -, hnow⟩ := stored_session_not_prolonged unaryTokens.generator
    .recommended ⟨fromSecs 2, fromSecs 60⟩ ⟨"admin-1"⟩ .admin halfSecondIn _ _ rfl
    [.touch (unaryTokens.session 0) 1500000000]
    (by rintro op hop; cases List.mem_singleton.mp hop; exact fun _ => by decide)
  exact ⟨stored, hfind,
    (hnow 2500000000 (by decide)).2 (by unfold SessionPolicy.SecondLeft; decide),
    (hnow 3500000000 (by decide)).1 (by decide)⟩

end AuthApp.Sessions
