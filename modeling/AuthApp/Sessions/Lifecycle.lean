import AuthApp.Sessions.System
import Mathlib.Logic.Function.Basic

/-!
# Sessions — the life of a session

Requests served one after another, over a store that keeps sessions exactly: which tokens are
accepted is a function of what was asked and answered before.

* `alive_cons`: what one answered request does to the life of a token.
* `Mirrors`: a session is stored as its life says, or it is expired for good.
* `lifecycle`: a token is accepted exactly while it is alive and neither limit has been reached.
-/

namespace AuthApp.Sessions
open Interleave Accounts

/-! ### A store that keeps sessions exactly -/

/-- `InMemorySessions`, with the numbers of session and of CSRF tokens drawn so far. -/
structure InMemorySessions where
  rows : SessionToken → Option Session
  entropy : Nat × Nat

/-- What a call meets: the instant on the clock, and what becomes of it. -/
structure Moment where
  now : Int
  fate : Fate

namespace InMemorySessions

def empty : InMemorySessions := ⟨fun _ => none, (0, 0)⟩

def insert (db : InMemorySessions) (session : Session) : InMemorySessions :=
  { db with rows := Function.update db.rows session.token (some session) }

def touch (db : InMemorySessions) (token : SessionToken) (lastSeenAt : Int) : InMemorySessions :=
  { db with
    rows := Function.update db.rows token
      ((db.rows token).map fun session => { session with lastSeenAt }) }

def delete (db : InMemorySessions) (token : SessionToken) : InMemorySessions :=
  { db with rows := Function.update db.rows token none }

@[simp] theorem rows_insert (db : InMemorySessions) (session : Session) :
    (db.insert session).rows = Function.update db.rows session.token (some session) := rfl

@[simp] theorem rows_touch (db : InMemorySessions) (token : SessionToken) (lastSeenAt : Int) :
    (db.touch token lastSeenAt).rows = Function.update db.rows token
      ((db.rows token).map fun session => { session with lastSeenAt }) := rfl

@[simp] theorem rows_delete (db : InMemorySessions) (token : SessionToken) :
    (db.delete token).rows = Function.update db.rows token none := rfl

def serve (G : TokenStream) (now : Int) : Exec sessionSig InMemorySessions
  | .insert session, db => (.ok (), db.insert session)
  | .find token, db => (.ok (db.rows token), db)
  | .touch token lastSeenAt, db => (.ok (), db.touch token lastSeenAt)
  | .delete token, db => (.ok (), db.delete token)
  | .generateSessionToken, db =>
      let r := G.generator.generateSessionToken db.entropy
      (r.1, { db with entropy := r.2 })
  | .generateCsrfToken, db =>
      let r := G.generator.generateCsrfToken db.entropy
      (r.1, { db with entropy := r.2 })
  | .now, db => (now, db)

/-- Only a delete can fail. -/
def fault (msg : String) : (op : SessionOp) → Option op.Ans
  | .delete _ => some (.error (.backend msg))
  | _ => none

/-- A call at a moment. -/
def exec (G : TokenStream) (moment : Moment) : Exec sessionSig InMemorySessions :=
  Fate.under (S := sessionSig) fault (serve G moment.now) moment.fate

end InMemorySessions

/-! ### Visits -/

/-- One request, with what its calls meet.  `now` is the first reading of the clock, `later` the
reading a rotation issues its new session at, and `cleanup` the fate of the delete that follows an
expiry verdict. -/
structure Visit where
  request : SessionRequest
  now : Int
  later : Int
  cleanup : Fate

/-- The delete that follows an expiry verdict is the third call of its request; a request that
makes any other delete makes it first, or fourth. -/
def Visit.moments (v : Visit) : List Moment :=
  [⟨v.now, .served⟩, ⟨v.now, .served⟩, ⟨v.now, v.cleanup⟩, ⟨v.now, .served⟩] ++
    List.replicate 4 ⟨v.later, .served⟩

/-- One visit: what it is answered, and the store it leaves. -/
def Visit.run (G : TokenStream) (policy : SessionPolicy) (v : Visit) (db : InMemorySessions) :
    Option SessionResponse × InMemorySessions :=
  (v.request.code policy).runFates (InMemorySessions.exec G) v.moments db

/-- A visit with its answer. -/
structure Served where
  visit : Visit
  response : Option SessionResponse

/-- Visits from the empty store, one after another, the latest first, by a clock that does not go
back. -/
inductive Served.Run (G : TokenStream) (policy : SessionPolicy) :
    List Served → Int → InMemorySessions → Prop where
  | nil (clock : Int) : Run G policy [] clock .empty
  | visit {history : List Served} {clock : Int} {db : InMemorySessions}
      (h : Run G policy history clock db) (v : Visit) (hnow : clock ≤ v.now)
      (hlater : v.now ≤ v.later) :
      Run G policy (⟨v, (v.run G policy db).1⟩ :: history) v.later (v.run G policy db).2

/-! ### What the history says of a token -/

/-- The request takes the token out of use: it revokes it, it rotates it, or it is told that the
session has expired. -/
def Served.Ends (token : SessionToken) : Served → Prop
  | ⟨v, some (.revoked (.ok ()))⟩ => v.request = .revoke token
  | ⟨v, some (.issued (.ok _))⟩ => v.request = .rotate token
  | ⟨v, some (.issued (.error .expired))⟩ => v.request = .rotate token
  | ⟨v, some (.authenticated (.error .expired))⟩ => v.request = .authenticate token
  | _ => False

/-- The request authenticates the token. -/
def Served.uses (token : SessionToken) : Served → Bool
  | ⟨v, some (.authenticated (.ok _))⟩ => decide (v.request = .authenticate token)
  | _ => false

/-- In the history, the token was issued at an instant with the id, the role and the CSRF token of
`grant`, and `since` is what came after.  A rotation carries the id and the role over. -/
inductive Issued :
    List Served → SessionToken → Int → AuthenticatedSession → List Served → Prop where
  | start {v : Visit} {adminId : AdminId} {role : Role} {issued : IssuedSession}
      (since before : List Served) (hv : v.request = .start adminId role) :
      Issued (since ++ ⟨v, some (.issued (.ok issued))⟩ :: before) issued.token v.now
        ⟨adminId, role, issued.csrfToken⟩ since
  | rotate {v : Visit} {oldToken : SessionToken} {at₀ : Int} {grant : AuthenticatedSession}
      {issued : IssuedSession} {since₀ : List Served} (since before : List Served)
      (hv : v.request = .rotate oldToken) (h : Issued before oldToken at₀ grant since₀) :
      Issued (since ++ ⟨v, some (.issued (.ok issued))⟩ :: before) issued.token v.later
        { grant with csrfToken := issued.csrfToken } since

/-- The last instant at which the token was used, or else the one it was issued at. -/
def lastUse (token : SessionToken) (issuedAt : Int) : List Served → Int
  | [] => issuedAt
  | d :: since => if d.uses token then d.visit.now else lastUse token issuedAt since

/-- The token was issued at `issuedAt` with `grant`, has not been taken out of use since, and was
last used at `usedAt`. -/
def Alive (history : List Served) (token : SessionToken) (issuedAt : Int)
    (grant : AuthenticatedSession) (usedAt : Int) : Prop :=
  ∃ since, Issued history token issuedAt grant since ∧ (∀ d ∈ since, ¬ d.Ends token) ∧
    usedAt = lastUse token issuedAt since

/-- The request issues the token. -/
inductive Grants (before : List Served) :
    Served → SessionToken → Int → AuthenticatedSession → Prop where
  | start {v : Visit} {adminId : AdminId} {role : Role} (issued : IssuedSession)
      (hv : v.request = .start adminId role) :
      Grants before ⟨v, some (.issued (.ok issued))⟩ issued.token v.now
        ⟨adminId, role, issued.csrfToken⟩
  | rotate {v : Visit} {oldToken : SessionToken} {at₀ : Int} {grant : AuthenticatedSession}
      {since₀ : List Served} (issued : IssuedSession) (hv : v.request = .rotate oldToken)
      (h : Issued before oldToken at₀ grant since₀) :
      Grants before ⟨v, some (.issued (.ok issued))⟩ issued.token v.later
        { grant with csrfToken := issued.csrfToken }

section
variable {d : Served} {history since : List Served} {token : SessionToken} {issuedAt usedAt : Int}
  {grant : AuthenticatedSession}

theorem issued_cons :
    Issued (d :: history) token issuedAt grant since ↔
      (Grants history d token issuedAt grant ∧ since = []) ∨
        ∃ rest, Issued history token issuedAt grant rest ∧ since = d :: rest := by
  constructor
  · intro h
    generalize hl : d :: history = l at h
    cases h with
    | start since before hv =>
        cases since with
        | nil =>
            obtain ⟨rfl, rfl⟩ := List.cons.inj hl
            exact .inl ⟨.start _ hv, rfl⟩
        | cons e rest =>
            obtain ⟨rfl, rfl⟩ := List.cons.inj hl
            exact .inr ⟨rest, .start rest before hv, rfl⟩
    | rotate since before hv h =>
        cases since with
        | nil =>
            obtain ⟨rfl, rfl⟩ := List.cons.inj hl
            exact .inl ⟨.rotate _ hv h, rfl⟩
        | cons e rest =>
            obtain ⟨rfl, rfl⟩ := List.cons.inj hl
            exact .inr ⟨rest, .rotate rest before hv h, rfl⟩
  · rintro (⟨h, rfl⟩ | ⟨rest, h, rfl⟩)
    · cases h with
      | start issued hv => exact .start [] history hv
      | rotate issued hv h => exact .rotate [] history hv h
    · cases h with
      | start _ before hv => exact .start (d :: rest) before hv
      | rotate _ before hv h => exact .rotate (d :: rest) before hv h

/-- One more request: it issues the token, or it leaves it alive, used now or as before. -/
theorem alive_cons :
    Alive (d :: history) token issuedAt grant usedAt ↔
      (Grants history d token issuedAt grant ∧ usedAt = issuedAt) ∨
        ¬ d.Ends token ∧ ∃ before, Alive history token issuedAt grant before ∧
          usedAt = if d.uses token then d.visit.now else before := by
  constructor
  · rintro ⟨since, hissued, hends, rfl⟩
    rcases issued_cons.mp hissued with ⟨hgrant, rfl⟩ | ⟨rest, hrest, rfl⟩
    · exact .inl ⟨hgrant, rfl⟩
    · refine .inr ⟨hends d List.mem_cons_self, _, ⟨rest, hrest, ?_, rfl⟩, rfl⟩
      exact fun e he => hends e (List.mem_cons_of_mem _ he)
  · rintro (⟨hgrant, rfl⟩ | ⟨hends, before, ⟨rest, hrest, hothers, rfl⟩, rfl⟩)
    · exact ⟨[], issued_cons.mpr (.inl ⟨hgrant, rfl⟩), fun e he => absurd he List.not_mem_nil, rfl⟩
    · refine ⟨d :: rest, issued_cons.mpr (.inr ⟨rest, hrest, rfl⟩), ?_, rfl⟩
      intro e he
      rcases List.mem_cons.mp he with rfl | he
      · exact hends
      · exact hothers e he

end

/-! ### What a visit does -/

/-- The session a life comes to. -/
def storedSession (policy : SessionPolicy) (token : SessionToken) (issuedAt : Int)
    (grant : AuthenticatedSession) (usedAt : Int) : Session where
  token := token
  adminId := grant.adminId
  role := grant.role
  csrfToken := grant.csrfToken
  createdAt := issuedAt
  absoluteExpiresAt := issuedAt + policy.absoluteTimeout
  lastSeenAt := usedAt

/-- A new session is issued at `now` to an admin. -/
def InMemorySessions.issue (G : TokenStream) (policy : SessionPolicy) (adminId : AdminId)
    (role : Role) (now : Int) (db : InMemorySessions) : IssuedSession × InMemorySessions :=
  (⟨G.session db.entropy.1, G.csrf db.entropy.2, now + policy.absoluteTimeout⟩,
    InMemorySessions.insert { db with entropy := (db.entropy.1 + 1, db.entropy.2 + 1) }
      (storedSession policy (G.session db.entropy.1) now
        ⟨adminId, role, G.csrf db.entropy.2⟩ now))

/-- The request authenticates `token`, or rotates it, and is refused with `e`. -/
def Refused (token : SessionToken) (e : SessionError) (d : Served) : Prop :=
  (d.visit.request = .authenticate token ∧ d.response = some (.authenticated (.error e))) ∨
    (d.visit.request = .rotate token ∧ d.response = some (.issued (.error e)))

/-- What a visit can come to. -/
inductive Outcome (G : TokenStream) (policy : SessionPolicy) (v : Visit) (db : InMemorySessions) :
    Option SessionResponse × InMemorySessions → Prop where
  | started (adminId : AdminId) (role : Role) (hv : v.request = .start adminId role) :
      Outcome G policy v db (some (.issued (.ok (db.issue G policy adminId role v.now).1)),
        (db.issue G policy adminId role v.now).2)
  | unknown (token : SessionToken) (response : Option SessionResponse)
      (hr : Refused token .notFound ⟨v, response⟩) (hrow : db.rows token = none) :
      Outcome G policy v db (response, db)
  | expired (token : SessionToken) (session : Session) (response : Option SessionResponse)
      (db' : InMemorySessions) (hr : Refused token .expired ⟨v, response⟩)
      (hrow : db.rows token = some session) (hx : policy.isExpired session v.now = true)
      (hdb : db' = db ∨ db' = db.delete token) : Outcome G policy v db (response, db')
  | used (token : SessionToken) (session : Session) (hv : v.request = .authenticate token)
      (hrow : db.rows token = some session) (hx : policy.isExpired session v.now = false) :
      Outcome G policy v db
        (some (.authenticated (.ok session.authenticated)), db.touch token v.now)
  | rotated (token : SessionToken) (session : Session) (hv : v.request = .rotate token)
      (hrow : db.rows token = some session) (hx : policy.isExpired session v.now = false) :
      Outcome G policy v db
        (some (.issued (.ok (((db.touch token v.now).delete token).issue G policy session.adminId
            session.role v.later).1)),
          (((db.touch token v.now).delete token).issue G policy session.adminId session.role
            v.later).2)
  | revoked (token : SessionToken) (hv : v.request = .revoke token) :
      Outcome G policy v db (some (.revoked (.ok ())), db.delete token)

/-- The calls of an authentication, one after the other. -/
theorem authenticate_moments (G : TokenStream) (policy : SessionPolicy) (token : SessionToken)
    (now : Int) (cleanup : Fate) (rest : List Moment) {α : Type}
    (f : Except SessionError AuthenticatedSession → Prog sessionSig α) (db : InMemorySessions) :
    (SessionService.authenticate policy token >>= f).runFates (InMemorySessions.exec G)
        (⟨now, .served⟩ :: ⟨now, .served⟩ :: ⟨now, cleanup⟩ :: rest) db =
      match db.rows token with
      | none =>
          (f (.error .notFound)).runFates (InMemorySessions.exec G) (⟨now, cleanup⟩ :: rest) db
      | some session =>
          if policy.isExpired session now then
            (f (.error .expired)).runFates (InMemorySessions.exec G) rest
              (InMemorySessions.exec G ⟨now, cleanup⟩ (.delete token) db).2
          else
            (f (.ok session.authenticated)).runFates (InMemorySessions.exec G) rest
              (db.touch token now) := by
  change (Prog.call (S := sessionSig) (.find token) _).runFates _ _ db = _
  have hfind : InMemorySessions.exec G ⟨now, .served⟩ (.find token) db =
      (.ok (db.rows token), db) := rfl
  rw [Prog.runFates_cons, hfind]
  cases db.rows token with
  | none => rfl
  | some session =>
      change Prog.runFates _ _ (SessionService.useSession policy token now session >>= f) db = _
      dsimp only
      rw [SessionService.useSession]
      by_cases hx : policy.isExpired session now
      · rw [if_pos hx, if_pos hx]
        rfl
      · rw [if_neg hx, if_neg hx]
        cases cleanup <;> rfl

/-- Every visit comes to one of these. -/
theorem visit_outcome (G : TokenStream) (policy : SessionPolicy) (v : Visit)
    (db : InMemorySessions) : Outcome G policy v db (v.run G policy db) := by
  obtain ⟨request, now, later, cleanup⟩ := v
  have hcleanup : ∀ token, (InMemorySessions.exec G ⟨now, cleanup⟩ (.delete token) db).2 = db ∨
      (InMemorySessions.exec G ⟨now, cleanup⟩ (.delete token) db).2 = db.delete token :=
    fun token => Fate.under_state (S := sessionSig) _ _ _ _ _
  cases request with
  | start adminId role =>
      have hrun : Visit.run G policy ⟨.start adminId role, now, later, cleanup⟩ db =
          (some (.issued (.ok (db.issue G policy adminId role now).1)),
            (db.issue G policy adminId role now).2) := by
        cases cleanup <;> rfl
      rw [hrun]
      exact .started adminId role rfl
  | revoke token => exact .revoked token rfl
  | authenticate token =>
      have hrun : Visit.run G policy ⟨.authenticate token, now, later, cleanup⟩ db = _ :=
        authenticate_moments G policy token now cleanup
          (⟨now, .served⟩ :: List.replicate 4 ⟨later, .served⟩)
          (fun r => .ret (SessionResponse.authenticated r)) db
      rw [hrun]
      cases hrow : db.rows token with
      | none => exact .unknown token _ (.inl ⟨rfl, rfl⟩) hrow
      | some session =>
          dsimp only
          cases hx : policy.isExpired session now with
          | true => exact .expired token session _ _ (.inl ⟨rfl, rfl⟩) hrow hx (hcleanup token)
          | false => exact .used token session rfl hrow hx
  | rotate token =>
      have hrun : Visit.run G policy ⟨.rotate token, now, later, cleanup⟩ db = _ :=
        (congrArg (fun p => Prog.runFates (InMemorySessions.exec G) _ p db)
          ((congrArg (Prog.map SessionResponse.issued)
            (SessionService.rotate_eq policy token)).trans (Prog.map_bind _ _ _))).trans
        (authenticate_moments G policy token now cleanup
          (⟨now, .served⟩ :: List.replicate 4 ⟨later, .served⟩)
          (fun r => (SessionService.replace policy token r).map SessionResponse.issued) db)
      rw [hrun]
      cases hrow : db.rows token with
      | none => exact .unknown token _ (.inr ⟨rfl, rfl⟩) hrow
      | some session =>
          dsimp only
          cases hx : policy.isExpired session now with
          | true => exact .expired token session _ _ (.inr ⟨rfl, rfl⟩) hrow hx (hcleanup token)
          | false => exact .rotated token session rfl hrow hx

/-! ### The store mirrors the history -/

/-- The store, after a run that ended at `clock`: a session that is alive is stored as its life
says, and any other that is stored is expired for good. -/
structure Mirrors (G : TokenStream) (policy : SessionPolicy) (history : List Served) (clock : Int)
    (db : InMemorySessions) : Prop where
  alive : ∀ {token issuedAt grant usedAt}, Alive history token issuedAt grant usedAt →
    db.rows token = some (storedSession policy token issuedAt grant usedAt)
  stored : ∀ {token session}, db.rows token = some session →
    (∃ issuedAt grant usedAt, Alive history token issuedAt grant usedAt ∧
      session = storedSession policy token issuedAt grant usedAt) ∨
    ∀ now, clock ≤ now → policy.isExpired session now = true
  seen : ∀ {token session}, db.rows token = some session → session.lastSeenAt ≤ clock
  drawn : ∀ {token issuedAt grant since}, Issued history token issuedAt grant since →
    ∃ n < db.entropy.1, G.session n = token
  once : ∀ {token i j g g' s s'}, Issued history token i g s → Issued history token j g' s' → g = g'

section Steps
variable {G : TokenStream} {policy : SessionPolicy} {history : List Served} {clock : Int}
  {db : InMemorySessions}

/-- A request that issues nothing. -/
def Barren (d : Served) : Prop := ∀ issued, d.response ≠ some (.issued (.ok issued))

theorem Barren.not_grants {d : Served} (h : Barren d) {before : List Served} {token : SessionToken}
    {issuedAt : Int} {grant : AuthenticatedSession} : ¬ Grants before d token issuedAt grant := by
  intro hg
  cases hg with
  | start issued _ => exact h issued rfl
  | rotate issued _ _ => exact h issued rfl

theorem Barren.issued {d : Served} (h : Barren d) {token : SessionToken} {issuedAt : Int}
    {grant : AuthenticatedSession} {since : List Served}
    (hi : Issued (d :: history) token issuedAt grant since) :
    ∃ rest, Issued history token issuedAt grant rest := by
  rcases issued_cons.mp hi with ⟨hg, -⟩ | ⟨rest, hrest, -⟩
  · exact absurd hg h.not_grants
  · exact ⟨rest, hrest⟩

theorem Barren.alive {d : Served} (h : Barren d) {token : SessionToken} {issuedAt usedAt : Int}
    {grant : AuthenticatedSession} : Alive (d :: history) token issuedAt grant usedAt ↔
      ¬ d.Ends token ∧ ∃ before, Alive history token issuedAt grant before ∧
        usedAt = if d.uses token then d.visit.now else before :=
  alive_cons.trans (or_iff_right fun hg => h.not_grants hg.1)

theorem Mirrors.mono (h : Mirrors G policy history clock db) {later : Int} (hle : clock ≤ later) :
    Mirrors G policy history later db where
  alive := h.alive
  stored hrow := (h.stored hrow).imp_right fun hx now hnow => hx now (hle.trans hnow)
  seen hrow := (h.seen hrow).trans hle
  drawn := h.drawn
  once := h.once

/-- A request that issues nothing leaves the tokens that were issued before. -/
theorem Mirrors.barren (h : Mirrors G policy history clock db) {d : Served} (hd : Barren d)
    {db' : InMemorySessions} (hentropy : db'.entropy = db.entropy)
    (halive : ∀ {token issuedAt grant before}, Alive history token issuedAt grant before →
      ¬ d.Ends token →
        db'.rows token = some (storedSession policy token issuedAt grant
          (if d.uses token then d.visit.now else before)))
    (hstored : ∀ {token session}, db'.rows token = some session →
      (∃ issuedAt grant before, Alive history token issuedAt grant before ∧ ¬ d.Ends token ∧
        session = storedSession policy token issuedAt grant
          (if d.uses token then d.visit.now else before)) ∨
      ∀ now, clock ≤ now → policy.isExpired session now = true)
    (hseen : ∀ {token session}, db'.rows token = some session → session.lastSeenAt ≤ clock) :
    Mirrors G policy (d :: history) clock db' where
  alive hl := by
    obtain ⟨hends, before, hbefore, rfl⟩ := hd.alive.mp hl
    exact halive hbefore hends
  stored hrow := by
    rcases hstored hrow with ⟨issuedAt, grant, before, hbefore, hends, rfl⟩ | hx
    · exact .inl ⟨issuedAt, grant, _, hd.alive.mpr ⟨hends, before, hbefore, rfl⟩, rfl⟩
    · exact .inr hx
  seen := hseen
  drawn hi := by
    obtain ⟨rest, hrest⟩ := hd.issued hi
    rw [hentropy]
    exact h.drawn hrest
  once hi hj := by
    obtain ⟨_, hrest⟩ := hd.issued hi
    obtain ⟨_, hrest'⟩ := hd.issued hj
    exact h.once hrest hrest'

/-- A request that issues one token, and takes others out of use. -/
theorem Mirrors.granted (h : Mirrors G policy history clock db) {d : Served} {issuedAt : Int}
    (grant : AuthenticatedSession) (db₀ : InMemorySessions) {db' : InMemorySessions}
    (hle : clock ≤ issuedAt)
    (hgrants : ∀ {token i g}, Grants history d token i g ↔
      token = G.session db.entropy.1 ∧ i = issuedAt ∧ g = grant)
    (huses : ∀ token, d.uses token = false)
    (hkept : ∀ token, ¬ d.Ends token → db₀.rows token = db.rows token)
    (hended : ∀ token, d.Ends token → db₀.rows token = none)
    (hrows : db'.rows = Function.update db₀.rows (G.session db.entropy.1)
      (some (storedSession policy (G.session db.entropy.1) issuedAt grant issuedAt)))
    (hentropy : db'.entropy.1 = db.entropy.1 + 1) :
    Mirrors G policy (d :: history) issuedAt db' := by
  -- no token that was issued before is the new one
  have hnew : ∀ {token i g since}, Issued history token i g since →
      token ≠ G.session db.entropy.1 := by
    intro token i g since hi heq
    obtain ⟨n, hn, rfl⟩ := h.drawn hi
    exact Nat.ne_of_lt hn (G.fresh heq)
  -- a stored session is the new one, or was stored before
  have hcases : ∀ {token session}, db'.rows token = some session →
      token = G.session db.entropy.1 ∧ session =
          storedSession policy (G.session db.entropy.1) issuedAt grant issuedAt ∨
        ¬ d.Ends token ∧ db.rows token = some session := by
    intro token session hrow
    rw [hrows] at hrow
    by_cases heq : token = G.session db.entropy.1
    · rw [heq, Function.update_self] at hrow
      exact .inl ⟨heq, (Option.some.inj hrow).symm⟩
    · rw [Function.update_of_ne heq] at hrow
      have hends : ¬ d.Ends token := fun he => by
        rw [hended token he] at hrow
        cases hrow
      exact .inr ⟨hends, hkept token hends ▸ hrow⟩
  refine ⟨?_, ?_, ?_, ?_, ?_⟩
  · intro token i g usedAt hl
    rw [hrows]
    rcases alive_cons.mp hl with ⟨hg, rfl⟩ | ⟨hends, before, hbefore, rfl⟩
    · obtain ⟨rfl, rfl, rfl⟩ := hgrants.mp hg
      exact Function.update_self _ _ _
    · obtain ⟨since, hsince, -⟩ := id hbefore
      rw [Function.update_of_ne (hnew hsince), hkept token hends, h.alive hbefore, huses]
      rfl
  · intro token session hrow
    rcases hcases hrow with ⟨rfl, rfl⟩ | ⟨hends, hrow⟩
    · exact .inl ⟨issuedAt, grant, issuedAt,
        alive_cons.mpr (.inl ⟨hgrants.mpr ⟨rfl, rfl, rfl⟩, rfl⟩), rfl⟩
    · rcases h.stored hrow with ⟨i, g, usedAt, hl, rfl⟩ | hx
      · refine .inl ⟨i, g, usedAt, alive_cons.mpr (.inr ⟨hends, usedAt, hl, ?_⟩), rfl⟩
        rw [huses]
        rfl
      · exact .inr fun now hnow => hx now (hle.trans hnow)
  · intro token session hrow
    rcases hcases hrow with ⟨rfl, rfl⟩ | ⟨-, hrow⟩
    · exact Int.le_refl _
    · exact (h.seen hrow).trans hle
  · intro token i g since hi
    rw [hentropy]
    rcases issued_cons.mp hi with ⟨hg, -⟩ | ⟨rest, hrest, -⟩
    · exact ⟨_, Nat.lt_succ_self _, (hgrants.mp hg).1.symm⟩
    · obtain ⟨n, hn, heq⟩ := h.drawn hrest
      exact ⟨n, Nat.lt_succ_of_lt hn, heq⟩
  · intro token i j g g' since since' hi hj
    rcases issued_cons.mp hi with ⟨hg, -⟩ | ⟨rest, hrest, -⟩ <;>
      rcases issued_cons.mp hj with ⟨hg', -⟩ | ⟨rest', hrest', -⟩
    · rw [(hgrants.mp hg).2.2, (hgrants.mp hg').2.2]
    · exact absurd (hgrants.mp hg).1 (hnew hrest')
    · exact absurd (hgrants.mp hg').1 (hnew hrest)
    · exact h.once hrest hrest'

/-- A refused request issues nothing and uses nothing. -/
theorem Refused.barren {token : SessionToken} {e : SessionError} {d : Served}
    (h : Refused token e d) : Barren d ∧ ∀ t, d.uses t = false := by
  obtain ⟨v, response⟩ := d
  rcases h with ⟨-, h⟩ | ⟨-, h⟩ <;> cases h
  · exact ⟨fun _ h => by (cases h), fun _ => rfl⟩
  · exact ⟨fun _ h => by (cases h), fun _ => rfl⟩

theorem Refused.ends_iff {token t : SessionToken} {d : Served} (h : Refused token .expired d) :
    d.Ends t ↔ t = token := by
  obtain ⟨⟨request, now, later, cleanup⟩, response⟩ := d
  rcases h with ⟨hv, h⟩ | ⟨hv, h⟩ <;> cases hv <;> cases h <;> simp [Served.Ends, eq_comm]

theorem Refused.not_ends {token t : SessionToken} {d : Served} (h : Refused token .notFound d) :
    ¬ d.Ends t := by
  obtain ⟨⟨request, now, later, cleanup⟩, response⟩ := d
  rcases h with ⟨hv, h⟩ | ⟨hv, h⟩ <;> cases hv <;> cases h <;> exact id

theorem Mirrors.unknown (h : Mirrors G policy history clock db) {token : SessionToken} {d : Served}
    (hr : Refused token .notFound d) : Mirrors G policy (d :: history) clock db := by
  obtain ⟨hb, hu⟩ := hr.barren
  refine h.barren hb rfl (fun hl _ => ?_) (fun hs => (h.stored hs).imp_left ?_) h.seen
  · rw [hu]
    exact h.alive hl
  · rintro ⟨i, g, before, hl, rfl⟩
    exact ⟨i, g, before, hl, hr.not_ends, by rw [hu]; rfl⟩

/-- Whatever became of the delete, what is left of the session is expired for good. -/
theorem Mirrors.expired (h : Mirrors G policy history clock db) {token : SessionToken} {d : Served}
    {session : Session} {db' : InMemorySessions} (hr : Refused token .expired d)
    (hrow : db.rows token = some session)
    (hgone : ∀ now, clock ≤ now → policy.isExpired session now = true)
    (hdb : db' = db ∨ db' = db.delete token) : Mirrors G policy (d :: history) clock db' := by
  obtain ⟨hb, hu⟩ := hr.barren
  have hentropy : db'.entropy = db.entropy := by rcases hdb with rfl | rfl <;> rfl
  have hother : ∀ t, t ≠ token → db'.rows t = db.rows t := by
    intro t ht
    rcases hdb with rfl | rfl
    · rfl
    · simp [ht]
  have hself : ∀ s, db'.rows token = some s → s = session := by
    intro s hs
    rcases hdb with rfl | rfl
    · exact Option.some.inj (hs.symm.trans hrow)
    · simp at hs
  refine h.barren hb hentropy (fun {t i g before} hl he => ?_) (fun {t s} hs => ?_)
    fun {t s} hs => ?_
  · rw [hu, hother t fun heq => he (hr.ends_iff.mpr heq)]
    exact h.alive hl
  · by_cases ht : t = token
    · subst ht
      rw [hself s hs]
      exact .inr hgone
    · rw [hother t ht] at hs
      refine (h.stored hs).imp_left ?_
      rintro ⟨i, g, before, hl, rfl⟩
      exact ⟨i, g, before, hl, fun he => ht (hr.ends_iff.mp he), by rw [hu]; rfl⟩
  · by_cases ht : t = token
    · subst ht
      rw [hself s hs]
      exact h.seen hrow
    · rw [hother t ht] at hs
      exact h.seen hs

theorem Mirrors.used (h : Mirrors G policy history clock db) {token : SessionToken} {v : Visit}
    {session : Session} (hv : v.request = .authenticate token)
    (hrow : db.rows token = some session) (hx : policy.isExpired session v.now = false)
    (hnow : clock = v.now) :
    Mirrors G policy (⟨v, some (.authenticated (.ok session.authenticated))⟩ :: history) clock
      (db.touch token v.now) := by
  have huses : ∀ t, Served.uses t ⟨v, some (.authenticated (.ok session.authenticated))⟩ =
      decide (t = token) := by
    intro t
    simp [Served.uses, hv, eq_comm]
  have hother : ∀ t, t ≠ token → (db.touch token v.now).rows t = db.rows t := by
    intro t ht
    simp [ht]
  have hself : (db.touch token v.now).rows token = some { session with lastSeenAt := v.now } := by
    simp [hrow]
  refine h.barren (fun _ h => by (cases h)) rfl (fun {t i g before} hl _ => ?_)
    (fun {t s} hs => ?_) fun {t s} hs => ?_
  · rw [huses]
    by_cases ht : t = token
    · subst ht
      obtain rfl := Option.some.inj (hrow.symm.trans (h.alive hl))
      rw [hself, decide_eq_true rfl]
      rfl
    · rw [hother t ht, decide_eq_false ht]
      exact h.alive hl
  · by_cases ht : t = token
    · subst ht
      obtain rfl := Option.some.inj (hself.symm.trans hs)
      rcases h.stored hrow with ⟨i, g, before, hl, rfl⟩ | hgone
      · refine .inl ⟨i, g, before, hl, id, ?_⟩
        rw [huses, decide_eq_true rfl]
        rfl
      · rw [hgone v.now (Int.le_of_eq hnow)] at hx
        cases hx
    · rw [hother t ht] at hs
      refine (h.stored hs).imp_left ?_
      rintro ⟨i, g, before, hl, rfl⟩
      refine ⟨i, g, before, hl, id, ?_⟩
      rw [huses, decide_eq_false ht]
      rfl
  · by_cases ht : t = token
    · subst ht
      obtain rfl := Option.some.inj (hself.symm.trans hs)
      exact Int.le_of_eq hnow.symm
    · rw [hother t ht] at hs
      exact h.seen hs

theorem Mirrors.revoked (h : Mirrors G policy history clock db) {token : SessionToken} {v : Visit}
    (hv : v.request = .revoke token) :
    Mirrors G policy (⟨v, some (.revoked (.ok ()))⟩ :: history) clock (db.delete token) := by
  have hends : ∀ t, Served.Ends t ⟨v, some (.revoked (.ok ()))⟩ ↔ t = token := by
    intro t
    simp [Served.Ends, hv, eq_comm]
  have hkept : ∀ {t s}, (db.delete token).rows t = some s → t ≠ token ∧ db.rows t = some s := by
    intro t s hs
    by_cases ht : t = token
    · subst ht
      simp at hs
    · rw [InMemorySessions.rows_delete, Function.update_of_ne ht] at hs
      exact ⟨ht, hs⟩
  refine h.barren (fun _ h => by (cases h)) rfl (fun {t i g before} hl he => ?_)
    (fun {t s} hs => ?_) fun hs => h.seen (hkept hs).2
  · rw [InMemorySessions.rows_delete, Function.update_of_ne fun heq => he ((hends t).mpr heq)]
    exact h.alive hl
  · obtain ⟨ht, hs⟩ := hkept hs
    refine (h.stored hs).imp_left ?_
    rintro ⟨i, g, before, hl, rfl⟩
    exact ⟨i, g, before, hl, fun he => ht ((hends t).mp he), rfl⟩

theorem Mirrors.started (h : Mirrors G policy history clock db) {v : Visit} {adminId : AdminId}
    {role : Role} (hv : v.request = .start adminId role) (hnow : clock ≤ v.now) :
    Mirrors G policy
      (⟨v, some (.issued (.ok (db.issue G policy adminId role v.now).1))⟩ :: history) v.now
      (db.issue G policy adminId role v.now).2 := by
  refine h.granted ⟨adminId, role, G.csrf db.entropy.2⟩ db hnow
    (fun {t i g} => ?_) (fun _ => rfl) (fun _ _ => rfl) (fun t he => ?_) rfl rfl
  · constructor
    · intro hg
      cases hg with
      | start issued hv' => 
          cases hv.symm.trans hv'
          exact ⟨rfl, rfl, rfl⟩
      | rotate issued hv' _ => cases hv.symm.trans hv'
    · rintro ⟨rfl, rfl, rfl⟩
      exact .start _ hv
  · cases hv.symm.trans he

theorem Mirrors.rotated (h : Mirrors G policy history clock db) {token : SessionToken} {v : Visit}
    {session : Session} (hv : v.request = .rotate token)
    (hrow : db.rows token = some session) (hx : policy.isExpired session v.now = false)
    (hnow : clock ≤ v.now) (hlater : v.now ≤ v.later) {db₀ : InMemorySessions}
    (hdb : db₀ = (db.touch token v.now).delete token) :
    Mirrors G policy
      (⟨v, some (.issued (.ok (db₀.issue G policy session.adminId session.role v.later).1))⟩ ::
        history) v.later (db₀.issue G policy session.adminId session.role v.later).2 := by
  -- the old session is the one its life says
  obtain ⟨i₀, g₀, before, ⟨since₀, hissued, -⟩, hsession⟩ :=
    (h.stored hrow).resolve_right fun hgone => by
    rw [hgone v.now hnow] at hx
    cases hx
  subst hdb hsession
  have hends : ∀ t, Served.Ends t ⟨v, some (.issued (.ok ((((db.touch token v.now).delete
      token).issue G policy g₀.adminId g₀.role v.later).1)))⟩ ↔ t = token := by
    intro t
    simp [Served.Ends, hv, eq_comm]
  refine h.granted { g₀ with csrfToken := G.csrf db.entropy.2 }
    ((db.touch token v.now).delete token) (hnow.trans hlater)
    (fun {t i g} => ?_) (fun _ => rfl) (fun t he => ?_) (fun t he => ?_) rfl rfl
  · constructor
    · intro hg
      cases hg with
      | start issued hv' => cases hv.symm.trans hv'
      | rotate issued hv' hold =>
          cases hv.symm.trans hv'
          rw [h.once hold hissued]
          exact ⟨rfl, rfl, rfl⟩
    · rintro ⟨rfl, rfl, rfl⟩
      exact .rotate _ hv hissued
  · have ht : t ≠ token := fun heq => he ((hends t).mpr heq)
    simp [ht]
  · obtain rfl := (hends t).mp he
    simp

/-- One visit. -/
theorem Mirrors.visit (h : Mirrors G policy history clock db) (v : Visit) (hnow : clock ≤ v.now)
    (hlater : v.now ≤ v.later) :
    Mirrors G policy (⟨v, (v.run G policy db).1⟩ :: history) v.later (v.run G policy db).2 := by
  have h' := h.mono hnow
  have hout := visit_outcome G policy v db
  generalize v.run G policy db = out at hout
  cases hout with
  | started adminId role hv => exact (h.started hv hnow).mono hlater
  | unknown token response hr hrow => exact (h'.unknown hr).mono hlater
  | expired token session response db' hr hrow hx hdb =>
      refine (h'.expired hr hrow (fun now hle => ?_) hdb).mono hlater
      exact SessionPolicy.isExpired_mono hx (h'.seen hrow) hle
  | used token session hv hrow hx => exact (h'.used hv hrow hx rfl).mono hlater
  | rotated token session hv hrow hx => exact h'.rotated hv hrow hx (Int.le_refl _) hlater rfl
  | revoked token hv => exact (h'.revoked hv).mono hlater

theorem Served.Run.mirrors (h : Served.Run G policy history clock db) :
    Mirrors G policy history clock db := by
  induction h with
  | nil clock =>
      have hnone : ∀ {token i g since}, ¬ Issued [] token i g since := by
        intro token i g since hi
        generalize hl : ([] : List Served) = l at hi
        cases hi <;> simp at hl
      exact
        { alive := fun ⟨_, hi, _⟩ => absurd hi hnone
          stored := fun hs => by (cases hs)
          seen := fun hs => by (cases hs)
          drawn := fun hi => absurd hi hnone
          once := fun hi _ => absurd hi hnone }
  | visit _ v hnow hlater ih => exact ih.visit v hnow hlater

end Steps

/-- **The life of a session.** After any run, `authenticate` accepts a token exactly when it was
issued, has not been revoked or rotated since nor been told expired, is not as old as the absolute
timeout, and has not been idle for the idle timeout; it answers the id, the role and the CSRF
token fixed when the token was issued.  In these runs only the delete after an expiry verdict may
fail, so that a revocation is always answered well (`visit_outcome`). -/
theorem lifecycle (G : TokenStream) (policy : SessionPolicy) {history : List Served} {clock : Int}
    {db : InMemorySessions} (h : Served.Run G policy history clock db) (v : Visit)
    (token : SessionToken) (hv : v.request = .authenticate token) (hnow : clock ≤ v.now)
    (out : AuthenticatedSession) :
    (v.run G policy db).1 = some (.authenticated (.ok out)) ↔
      ∃ issuedAt usedAt, Alive history token issuedAt out usedAt ∧
        v.now < issuedAt + policy.absoluteTimeout ∧ v.now - usedAt < policy.idleTimeout := by
  have hm := h.mirrors
  have hout := visit_outcome G policy v db
  constructor
  · intro hok
    rw [show v.run G policy db = (_, (v.run G policy db).2) from Prod.ext hok rfl] at hout
    generalize (v.run G policy db).2 = db' at hout
    cases hout with
    | unknown token' _ hr _ => rcases hr with ⟨-, hr⟩ | ⟨-, hr⟩ <;> cases hr
    | expired token' _ _ _ hr _ _ _ => rcases hr with ⟨-, hr⟩ | ⟨-, hr⟩ <;> cases hr
    | used token' session hv' hrow hx =>
        cases hv.symm.trans hv'
        obtain ⟨habs, -, hidle⟩ := SessionPolicy.isExpired_eq_false_iff.mp hx
        rcases hm.stored hrow with ⟨issuedAt, grant, usedAt, hl, rfl⟩ | hgone
        · exact ⟨issuedAt, usedAt, hl, habs, hidle⟩
        · rw [hgone v.now hnow] at hx
          cases hx
  · rintro ⟨issuedAt, usedAt, hl, habs, hidle⟩
    have hrow := hm.alive hl
    have hlive : policy.isExpired (storedSession policy token issuedAt out usedAt) v.now = false :=
      SessionPolicy.isExpired_eq_false_iff.mpr ⟨habs, (hm.seen hrow).trans hnow, hidle⟩
    generalize v.run G policy db = r at hout
    cases hout with
    | started _ _ hv' => cases hv.symm.trans hv'
    | revoked _ hv' => cases hv.symm.trans hv'
    | rotated _ _ hv' _ _ => cases hv.symm.trans hv'
    | unknown token' response hr hnone =>
        rcases hr with ⟨hv', -⟩ | ⟨hv', -⟩ <;> cases hv.symm.trans hv'
        rw [hrow] at hnone
        cases hnone
    | expired token' session response db' hr hrow' hx hdb =>
        rcases hr with ⟨hv', -⟩ | ⟨hv', -⟩ <;> cases hv.symm.trans hv'
        obtain rfl := Option.some.inj (hrow.symm.trans hrow')
        rw [hlive] at hx
        cases hx
    | used token' session hv' hrow' hx =>
        cases hv.symm.trans hv'
        obtain rfl := Option.some.inj (hrow.symm.trans hrow')
        rfl

/-! ### Sessions that are rotated, revoked, and used at the last moment -/

def firstStart : Visit := ⟨.start ⟨"admin-1"⟩ .admin, 0, 0, .served⟩

/-- The token of the first session is rotated after a minute, and the new one is issued a second
later. -/
def firstRotation : Visit := ⟨.rotate ⟨""⟩, fromSecs 60, fromSecs 61, .served⟩

def secondStart : Visit := ⟨.start ⟨"admin-2"⟩ .admin, fromSecs 70, fromSecs 70, .served⟩

def secondRevocation : Visit := ⟨.revoke (unaryTokens.session 2), fromSecs 80, fromSecs 80, .served⟩

/-- The visits, the latest first, with their answers, and the store they leave. -/
def visited : List Visit → List Served × InMemorySessions
  | [] => ([], .empty)
  | v :: earlier =>
      let r := v.run unaryTokens .recommended (visited earlier).2
      (⟨v, r.1⟩ :: (visited earlier).1, r.2)

def fourVisits : List Visit := [secondRevocation, secondStart, firstRotation, firstStart]

theorem fourVisits_run : Served.Run unaryTokens .recommended (visited fourVisits).1
    (fromSecs 80 : Int) (visited fourVisits).2 :=
  .visit (.visit (.visit (.visit (.nil 0) firstStart (by decide) (by decide)) firstRotation
    (by decide) (by decide)) secondStart (by decide) (by decide)) secondRevocation (by decide)
    (by decide)

/-- A request a nanosecond before the rotated session has been idle for half an hour. -/
def lastMoment (token : SessionToken) : Visit :=
  ⟨.authenticate token, fromSecs (61 + 30 * 60) - 1, fromSecs (61 + 30 * 60), .served⟩

/-- The rotated session is alive since it was issued. -/
theorem alive_rotated : Alive (visited fourVisits).1 (unaryTokens.session 1) (fromSecs 61 : Int)
    ⟨⟨"admin-1"⟩, .admin, unaryTokens.csrf 1⟩ (fromSecs 61 : Int) := by
  have hstart : Issued ((visited fourVisits).1.drop 3) (unaryTokens.session 0) 0
      ⟨⟨"admin-1"⟩, .admin, unaryTokens.csrf 0⟩ [] := .start [] [] rfl
  have hrotated : Issued ((visited fourVisits).1.take 2 ++ ⟨firstRotation, some (.issued (.ok
        ⟨unaryTokens.session 1, unaryTokens.csrf 1, fromSecs (61 + 12 * 60 * 60)⟩))⟩ ::
          (visited fourVisits).1.drop 3) (unaryTokens.session 1) firstRotation.later
      ⟨⟨"admin-1"⟩, .admin, unaryTokens.csrf 1⟩ ((visited fourVisits).1.take 2) :=
    .rotate _ _ rfl hstart
  refine ⟨_, hrotated, fun d hd => ?_, rfl⟩
  have hsince : d ∈ [(⟨secondRevocation, some (.revoked (.ok ()))⟩ : Served),
      ⟨secondStart, some (.issued (.ok
        ⟨unaryTokens.session 2, unaryTokens.csrf 2, fromSecs (70 + 12 * 60 * 60)⟩))⟩] := hd
  -- one revokes another token, and one starts a session
  rcases List.mem_cons.mp hsince with rfl | hsince
  · intro h
    cases h
  · obtain rfl := List.mem_singleton.mp hsince
    intro h
    cases h

/-- The new token of the rotated session is accepted; its old one is not, and no more is the token
that was revoked. -/
theorem lastMoment_accepted :
    ((lastMoment (unaryTokens.session 1)).run unaryTokens .recommended (visited fourVisits).2).1 =
        some (.authenticated (.ok ⟨⟨"admin-1"⟩, .admin, unaryTokens.csrf 1⟩)) ∧
      ∀ token ∈ [unaryTokens.session 0, unaryTokens.session 2], ∀ out, ¬ ∃ issuedAt usedAt,
        Alive (visited fourVisits).1 token issuedAt out usedAt ∧
          (lastMoment token).now < issuedAt + SessionPolicy.recommended.absoluteTimeout ∧
          (lastMoment token).now - usedAt < SessionPolicy.recommended.idleTimeout := by
  have hnow : (fromSecs 80 : Int) ≤ fromSecs (61 + 30 * 60) - 1 := by decide
  have hiff := fun token out => lifecycle unaryTokens .recommended fourVisits_run
    (lastMoment token) token rfl hnow out
  refine ⟨(hiff _ _).mpr ⟨_, _, alive_rotated, by decide, by decide⟩, fun token htoken out => ?_⟩
  have hgone : ((lastMoment token).run unaryTokens .recommended (visited fourVisits).2).1 =
      some (.authenticated (.error .notFound)) := by
    rcases List.mem_cons.mp htoken with rfl | htoken
    · rfl
    · obtain rfl := List.mem_singleton.mp htoken
      rfl
  rw [← hiff, hgone]
  nofun

end AuthApp.Sessions
