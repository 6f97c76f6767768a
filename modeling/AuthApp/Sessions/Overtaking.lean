import AuthApp.Interleave.Marks
import AuthApp.Sessions.Turns

/-!
# Sessions — requests that overtake each other

Any number of authentications of one token are in flight.  Each reads the clock first, and finds
and touches the session later, so a request may find a session that was touched by one that read
the clock after it: it takes the session for expired, and deletes it.

* `step_kind`: what one step of an authentication reads and writes.
* `readings_pairwise`: the order in which the calls read the clock.
* `row_at`: the row behind the token along a run.
* `Orderly`: the condition under which no call is overtaken.
* `touch_le_seen`: under it, the session is never seen to have been used earlier than it was.
-/

namespace AuthApp.Sessions
open Interleave Pool Accounts

variable {τ : Type}

/-- Authentications of one token in flight. -/
abbrev AuthPool (τ : Type) :=
  Pool sessionSig (SessionDb τ) Unit (Except SessionError AuthenticatedSession)

/-- The authentications of a token, with storage healthy and a clock that never goes back. -/
def authentications (G : SessionTokenGenerator τ) (policy : SessionPolicy) (token : SessionToken) :
    System sessionSig (SessionDb τ) Unit (Except SessionError AuthenticatedSession) Unit
      SessionEnv where
  code := fun _ => SessionService.authenticate policy token
  exec := fun _ => SessionDb.serve G
  env := SessionEnv.act

def readingOf : Reply sessionSig → Option Int
  | ⟨.now, t⟩ => some t
  | _ => none

theorem readingOf_eq_some {r : Reply sessionSig} {t : Int} (h : readingOf r = some t) :
    r = ⟨.now, t⟩ := by
  obtain ⟨op, ans⟩ := r
  cases op with
  | now => cases h; rfl
  | _ => cases h

/-- The readings of the clock, each with its call, in the order they were taken. -/
def readings (log : List (Event sessionSig (SessionDb τ))) : List (Nat × Int) := marks readingOf log

/-- The call has not returned. -/
def inFlight (q : AuthPool τ) (i : Nat) : Bool :=
  match q.calls[i]? with
  | some ⟨_, .call _ _⟩ => true
  | _ => false

/-- The call has found the session expired, and has not deleted it yet. -/
def Deleting (policy : SessionPolicy) (token : SessionToken) (q : AuthPool τ) (i : Nat) : Prop :=
  ∃ now found, pastOf i q.log = [⟨.now, now⟩, ⟨.find token, .ok (some found)⟩] ∧
    policy.isExpired found now = true

/-- The call `i` has not read the clock before the session was last seen. -/
def NotOvertaken (token : SessionToken) (q : AuthPool τ) (i : Nat) : Prop :=
  ∀ row now, q.store.row token = some row → ⟨.now, now⟩ ∈ pastOf i q.log →
    fromEpoch row.lastSeenAt ≤ now

/-- If the call `i` is about to find the session expired, no other call is about to delete it, and
no earlier reader in flight could have kept it alive. -/
def ExpiresInTurn (policy : SessionPolicy) (token : SessionToken) (q : AuthPool τ) (i : Nat) :
    Prop :=
  ∀ row session now, q.store.row token = some row → rowToSession row = .ok session →
    pastOf i q.log = [⟨.now, now⟩] → policy.isExpired session now = true →
      (∀ j, ¬ Deleting policy token q j) ∧
        ∀ (x y j : Nat) (t : Int), x < y → (readings q.log)[x]? = some (j, t) →
          (readings q.log)[y]? = some (i, now) → inFlight q j = true →
            policy.isExpired { session with lastSeenAt := fromEpoch (t / nanosPerSec) } now = true

/-- If the call `i` is about to delete the session, the earlier readers have found it. -/
def DeletesInTurn (policy : SessionPolicy) (token : SessionToken) (q : AuthPool τ) (i : Nat) :
    Prop :=
  Deleting policy token q i → ∀ (x y j : Nat) (t now : Int), x < y →
    (readings q.log)[x]? = some (j, t) → (readings q.log)[y]? = some (i, now) →
      pastOf j q.log ≠ [⟨.now, t⟩]

/-- The condition on a step, and on the pool before it. -/
def Orderly (policy : SessionPolicy) (token : SessionToken) (q : AuthPool τ) :
    Act Unit Unit SessionEnv → Prop
  | .step i _ =>
      NotOvertaken token q i ∧ ExpiresInTurn policy token q i ∧ DeletesInTurn policy token q i
  | _ => True

/-! ### The condition, decided -/

/-- What the clock read, when the call has been answered nothing else. -/
def soleReading : List (Reply sessionSig) → Option Int
  | [⟨.now, now⟩] => some now
  | _ => none

theorem soleReading_eq_some_iff {past : List (Reply sessionSig)} {now : Int} :
    soleReading past = some now ↔ past = [⟨.now, now⟩] := by
  constructor
  · intro h
    unfold soleReading at h
    split at h
    · cases h
      rfl
    · cases h
  · rintro rfl
    rfl

/-- The call has read the clock, and found an expired session. -/
def foundExpired (policy : SessionPolicy) (token : SessionToken) : List (Reply sessionSig) → Bool
  | [⟨.now, now⟩, ⟨.find other, .ok (some found)⟩] => other = token && policy.isExpired found now
  | _ => false

section Decide
variable (policy : SessionPolicy) (token : SessionToken) (q : AuthPool τ) (i : Nat)

theorem deleting_iff : Deleting policy token q i ↔
    foundExpired policy token (pastOf i q.log) = true := by
  constructor
  · rintro ⟨now, found, hpast, hx⟩
    rw [hpast]
    simp [foundExpired, hx]
  · intro h
    rw [Deleting]
    unfold foundExpired at h
    split at h
    · next now other found hpast =>
        rw [Bool.and_eq_true, decide_eq_true_eq] at h
        obtain ⟨rfl, hx⟩ := h
        exact ⟨now, found, hpast, hx⟩
    · cases h

instance : Decidable (Deleting policy token q i) :=
  decidable_of_iff' _ (deleting_iff policy token q i)

instance : Decidable (NotOvertaken token q i) :=
  decidable_of_iff (∀ row ∈ q.store.row token, ∀ now ∈ (pastOf i q.log).filterMap readingOf,
      fromEpoch row.lastSeenAt ≤ now)
    ⟨fun h row now hrow hnow => h row hrow now (List.mem_filterMap.mpr ⟨_, hnow, rfl⟩),
      fun h row hrow now hnow => by
        obtain ⟨r, hr, hread⟩ := List.mem_filterMap.mp hnow
        exact h row now hrow (readingOf_eq_some hread ▸ hr)⟩

/-- A call that is deleting has taken a step. -/
theorem not_deleting_iff : (∀ j, ¬ Deleting policy token q j) ↔
    ∀ e ∈ q.log, ¬ Deleting policy token q e.caller := by
  refine ⟨fun h e _ => h e.caller, fun h j hj => ?_⟩
  obtain ⟨now, found, hpast, -⟩ := id hj
  obtain ⟨e, he, rfl, -⟩ := mem_pastOf (hpast ▸ List.mem_cons_self)
  exact h e he hj

instance {P : Nat × Int → Nat × Int → Prop} [∀ a b, Decidable (P a b)] :
    Decidable (∀ (x y : Nat) (a b : Nat × Int), x < y → (readings q.log)[x]? = some a →
      (readings q.log)[y]? = some b → P a b) :=
  decidable_of_iff (∀ a ∈ (readings q.log).zipIdx, ∀ b ∈ (readings q.log).zipIdx,
      a.2 < b.2 → P a.1 b.1)
    ⟨fun h x y a b hxy ha hb => h (a, x) (List.mk_mem_zipIdx_iff_getElem?.mpr ha) (b, y)
        (List.mk_mem_zipIdx_iff_getElem?.mpr hb) hxy,
      fun h a ha b hb hxy => h a.2 b.2 a.1 b.1 hxy (List.mem_zipIdx_iff_getElem?.mp ha)
        (List.mem_zipIdx_iff_getElem?.mp hb)⟩

/-- With the earlier reading, the session would be expired for the call with the later one. -/
def ExpiresAnyway (session : Session) (now : Int) (a b : Nat × Int) : Prop :=
  b = (i, now) → inFlight q a.1 = true →
    policy.isExpired { session with lastSeenAt := fromEpoch (a.2 / nanosPerSec) } now = true

instance (session : Session) (now : Int) (a b : Nat × Int) :
    Decidable (ExpiresAnyway policy q i session now a b) := by
  unfold ExpiresAnyway
  infer_instance

instance : Decidable (ExpiresInTurn policy token q i) :=
  decidable_of_iff (∀ row ∈ q.store.row token, ∀ session ∈ (rowToSession row).toOption,
      ∀ now ∈ soleReading (pastOf i q.log), policy.isExpired session now = true →
        (∀ e ∈ q.log, ¬ Deleting policy token q e.caller) ∧
          ∀ (x y : Nat) (a b : Nat × Int), x < y → (readings q.log)[x]? = some a →
            (readings q.log)[y]? = some b → ExpiresAnyway policy q i session now a b) <| by
    constructor
    · intro h row session now hrow hdec hpast hx
      obtain ⟨hnone, hall⟩ := h row hrow session (by rw [hdec]; rfl) now
        (soleReading_eq_some_iff.mpr hpast) hx
      exact ⟨(not_deleting_iff policy token q).mpr hnone, fun x y j t hxy hj hi hfly =>
        hall x y (j, t) (i, now) hxy hj hi rfl hfly⟩
    · intro h row hrow session hdec now hpast hx
      have hok : rowToSession row = .ok session := by
        cases hr : rowToSession row with
        | error e =>
            rw [hr] at hdec
            cases hdec
        | ok found =>
            rw [hr] at hdec
            exact congrArg Except.ok (Option.some.inj hdec)
      obtain ⟨hnone, hall⟩ := h row session now hrow hok (soleReading_eq_some_iff.mp hpast) hx
      refine ⟨(not_deleting_iff policy token q).mp hnone, ?_⟩
      rintro x y a b hxy ha hb rfl hfly
      exact hall x y a.1 a.2 hxy ha hb hfly

/-- The call with the earlier reading has not only read the clock. -/
def HasFound (a b : Nat × Int) : Prop := b.1 = i → soleReading (pastOf a.1 q.log) ≠ some a.2

instance (a b : Nat × Int) : Decidable (HasFound q i a b) := by
  unfold HasFound
  infer_instance

instance : Decidable (DeletesInTurn policy token q i) :=
  decidable_of_iff (Deleting policy token q i →
      ∀ (x y : Nat) (a b : Nat × Int), x < y → (readings q.log)[x]? = some a →
        (readings q.log)[y]? = some b → HasFound q i a b) <| by
    constructor
    · intro h hdel x y j t now hxy hj hi hpast
      exact h hdel x y (j, t) (i, now) hxy hj hi rfl (soleReading_eq_some_iff.mpr hpast)
    · rintro h hdel x y a b hxy ha hb rfl hpast
      exact h hdel x y a.1 a.2 b.2 hxy ha hb (soleReading_eq_some_iff.mp hpast)

instance (a : Act Unit Unit SessionEnv) : Decidable (Orderly policy token q a) := by
  cases a with
  | step i c =>
      unfold Orderly
      infer_instance
  | _ => exact .isTrue trivial

end Decide

/-- Every answer, and the session in the end, are those of the calls taking turns in the order of
their readings. -/
structure InOrder (G : SessionTokenGenerator τ) (policy : SessionPolicy) (token : SessionToken)
    (db : SessionDb τ) (p : AuthPool τ) : Prop where
  answered : ∀ i a, p.Returned i () a →
    ∀ b, (i, b) ∈ (inTurn G policy token (readings p.log) db).1 ↔ b = a
  stored : p.store.row token = (inTurn G policy token (readings p.log) db).2.row token

/-! ### One step -/

/-- What a step of an authentication reads and writes, by what its call has been answered. -/
inductive StepKind (policy : SessionPolicy) (token : SessionToken)
    (past : List (Reply sessionSig)) (e : Event sessionSig (SessionDb τ)) : Prop where
  | reads (h : past = []) (he : (⟨e.op, e.ans⟩ : Reply sessionSig) = ⟨.now, e.pre.clock⟩)
      (hrow : e.post.row token = e.pre.row token)
  | finds (now : Int) (h : past = [⟨.now, now⟩])
      (he : (⟨e.op, e.ans⟩ : Reply sessionSig) = ⟨.find token, e.pre.find token⟩)
      (hrow : e.post.row token = e.pre.row token)
  | deletes (now : Int) (session : Session)
      (h : past = [⟨.now, now⟩, ⟨.find token, .ok (some session)⟩])
      (hx : policy.isExpired session now = true)
      (he : (⟨e.op, e.ans⟩ : Reply sessionSig) = ⟨.delete token, .ok ()⟩)
      (hrow : e.post.row token = none)
  | touches (now : Int) (session : Session)
      (h : past = [⟨.now, now⟩, ⟨.find token, .ok (some session)⟩])
      (hx : policy.isExpired session now = false)
      (he : (⟨e.op, e.ans⟩ : Reply sessionSig) = ⟨.touch token now, .ok ()⟩)
      (hrow : e.post.row token = (e.pre.row token).map fun row => row.seenAt (now / nanosPerSec))

section
variable {G : SessionTokenGenerator τ} {policy : SessionPolicy} {token : SessionToken}
  {ok : AuthPool τ → Act Unit Unit SessionEnv → Prop} {db : SessionDb τ} {p : AuthPool τ}
  (h : (authentications G policy token).Run ok (.init db) p)
include h

theorem step_kind {n : Nat} {e : Event sessionSig (SessionDb τ)} (hn : p.log[n]? = some e) :
    StepKind policy token (pastOf e.caller (p.log.take n)) e := by
  obtain ⟨-, -, k, -, hk⟩ := h.event_point (fun _ => authenticate_trace policy token) hn
  obtain ⟨c, hx⟩ := h.event_exec e (List.mem_of_getElem? hn)
  have hfound := fun r hr => h.reply_exec (i := e.caller) (n := n) (r := r) hr
  obtain ⟨i, op, ans, pre, post⟩ := e
  generalize hpast : pastOf i (p.log.take n) = past at hk hfound ⊢
  cases hk with
  | start =>
      obtain rfl : pre.clock = ans := congrArg Prod.fst hx
      obtain rfl : pre = post := congrArg Prod.snd hx
      exact .reads rfl rfl rfl
  | lookup now =>
      obtain rfl : pre.find token = ans := congrArg Prod.fst hx
      obtain rfl : pre = post := congrArg Prod.snd hx
      exact .finds now rfl rfl rfl
  | expired now session hexp =>
      obtain rfl : Except.ok () = ans := congrArg Prod.fst hx
      obtain rfl : pre.delete token = post := congrArg Prod.snd hx
      exact .deletes now session rfl hexp rfl (SessionDb.row_delete pre token)
  | live now session hlive =>
      obtain ⟨m, -, c, s, s', -, hs⟩ := hfound ⟨.find token, .ok (some session)⟩ (by simp)
      obtain ⟨row, -, hdec⟩ := SessionDb.find_eq_ok_some (congrArg Prod.fst hs)
      obtain ⟨hans, hrow⟩ := SessionDb.touch_of_toEpoch (toEpoch_of_live hdec hlive) pre token
      obtain rfl : Except.ok () = ans := hans.symm.trans (congrArg Prod.fst hx)
      obtain rfl : (pre.touch token now).2 = post := congrArg Prod.snd hx
      exact .touches now session rfl hlive rfl hrow

/-- What a call has found, it found in one step, right after it read the clock. -/
theorem found_before {i n : Nat} {now : Int} {found : Except RepositoryError (Option Session)}
    {rest : List (Reply sessionSig)}
    (hpast : pastOf i (p.log.take n) = ⟨.now, now⟩ :: ⟨.find token, found⟩ :: rest) :
    ∃ m e, m < n ∧ p.log[m]? = some e ∧ e.caller = i ∧ pastOf i (p.log.take m) = [⟨.now, now⟩] ∧
      e.pre.find token = found ∧ e.post.row token = e.pre.row token := by
  obtain ⟨m, hmn, c, pre, post, hm, hx⟩ := h.reply_exec (i := i) (n := n)
    (r := ⟨.find token, found⟩) (by rw [hpast]; simp)
  have hfind : pre.find token = found := congrArg Prod.fst hx
  have hpost : pre = post := congrArg Prod.snd hx
  refine ⟨m, _, hmn, hm, rfl, ?_, hfind, by rw [hpost]⟩
  have hpre : pastOf i (p.log.take m) <+: pastOf i (p.log.take n) :=
    (List.take_prefix_take_left (Nat.le_of_lt hmn)).filterMap _
  cases step_kind h hm with
  | reads _ he => cases he
  | finds now' hp =>
      dsimp only at hp
      rw [hp, hpast, List.cons_prefix_cons] at hpre
      rw [hp, hpre.1]
  | deletes _ _ _ _ he => cases he
  | touches _ _ _ _ he => cases he

/-- A call that has read the clock and is not in flight has returned. -/
theorem returned_of_not_inFlight {i : Nat} {t : Int} (ht : (i, t) ∈ readings p.log)
    (hfly : inFlight p i = false) :
    ∃ a, AuthenticateTrace policy token (pastOf i p.log) (.ret a) := by
  obtain ⟨r, hr, -⟩ := mem_marks.mp ht
  obtain ⟨e, he, rfl, -⟩ := mem_pastOf hr
  obtain ⟨c, hc⟩ : ∃ c, p.calls[e.caller]? = some c :=
    ⟨_, List.getElem?_eq_getElem (h.caller_lt e he)⟩
  have hpoint := h.point (fun _ => authenticate_trace policy token) hc
  obtain ⟨req, prog⟩ := c
  cases prog with
  | ret a => exact ⟨a, hpoint⟩
  | call op k =>
      rw [inFlight, hc] at hfly
      cases hfly

omit h in
theorem length_of_returned {past : List (Reply sessionSig)}
    {a : Except SessionError AuthenticatedSession}
    (hret : AuthenticateTrace policy token past (.ret a)) : 2 ≤ past.length := by
  cases hret <;> exact Nat.le_of_ble_eq_true rfl

/-! ### The order of the readings -/

/-- Each call reads the clock once, and no reading is before an earlier one. -/
theorem readings_pairwise :
    (readings p.log).Pairwise fun a b => a.1 ≠ b.1 ∧ a.2 ≤ b.2 := by
  refine pairwise_marks fun n e b hn hb a ha => ?_
  obtain ⟨r, hr, hra⟩ := mem_marks.mp ha
  cases step_kind h hn with
  | finds _ _ he => rw [he] at hb; cases hb
  | deletes _ _ _ _ he => rw [he] at hb; cases hb
  | touches _ _ _ _ he => rw [he] at hb; cases hb
  | reads hpast he =>
      rw [he] at hb
      obtain rfl : e.pre.clock = b := Option.some.inj hb
      refine ⟨fun hi => ?_, ?_⟩
      · rw [hi, hpast] at hr
        cases hr
      · obtain rfl := readingOf_eq_some hra
        obtain ⟨m, hmn, c, pre, post, hm, hx⟩ := h.reply_exec hr
        have ha2 : pre.clock = a.2 := congrArg Prod.fst hx
        rw [← ha2]
        refine (h.trail.sinceTo hm hn hmn).mono_exec (M := fun s t => s.clock ≤ t.clock)
          (fun _ => le_rfl) le_trans (fun d s => ?_) fun c op s => ?_
        · cases d with
          | tick d => exact Int.le_add_of_nonneg_right (Int.natCast_nonneg d)
        · exact (SessionDb.serve_clock G op s).ge

theorem readings_sorted : (readings p.log).Pairwise fun a b => a.2 ≤ b.2 :=
  (readings_pairwise h).imp And.right

/-- A reading is known by its call. -/
theorem reading_unique {x y i : Nat} {now t : Int} (hx : (readings p.log)[x]? = some (i, now))
    (hy : (readings p.log)[y]? = some (i, t)) : x = y := by
  have hne : ∀ {x y : Nat} {now t : Int}, (readings p.log)[x]? = some (i, now) →
      (readings p.log)[y]? = some (i, t) → ¬ x < y := by
    intro x y now t hx hy hlt
    obtain ⟨hx', hi⟩ := List.getElem?_eq_some_iff.mp hx
    obtain ⟨hy', hj⟩ := List.getElem?_eq_some_iff.mp hy
    have hpair := List.pairwise_iff_getElem.mp (readings_pairwise h) x y hx' hy' hlt
    rw [hi, hj] at hpair
    exact hpair.1 rfl
  have hxy := hne hx hy
  have hyx := hne hy hx
  omega

/-- The readings before one that was taken were taken too. -/
theorem reading_taken {x y i n : Nat} {now : Int} {b : Nat × Int} {rest : List (Reply sessionSig)}
    (hpast : pastOf i (p.log.take n) = ⟨.now, now⟩ :: rest)
    (hx : (readings p.log)[x]? = some (i, now)) (hyx : y ≤ x)
    (hy : (readings p.log)[y]? = some b) : (readings (p.log.take n))[y]? = some b := by
  have hmem : (i, now) ∈ readings (p.log.take n) :=
    mem_marks.mpr ⟨⟨.now, now⟩, by rw [hpast]; exact List.mem_cons_self, rfl⟩
  obtain ⟨z, hz⟩ := List.mem_iff_getElem?.mp hmem
  obtain ⟨later, hlater⟩ := marks_take (f := readingOf) p.log n
  have hlen := (List.getElem?_eq_some_iff.mp hz).1
  have hsame : ∀ w < (readings (p.log.take n)).length,
      (readings p.log)[w]? = (readings (p.log.take n))[w]? := by
    intro w hw
    rw [readings, ← hlater]
    exact List.getElem?_append_left hw
  have hzx := reading_unique h ((hsame z hlen).trans hz) hx
  rw [← hsame y (by omega)]
  exact hy

end

/-! ### The row along a run -/

/-- The step `m` is the touch of a session that was found live for the reading `now`. -/
structure Touch (policy : SessionPolicy) (token : SessionToken) (p : AuthPool τ) (m : Nat)
    (e : Event sessionSig (SessionDb τ)) (now : Int) (session : Session) : Prop where
  step : p.log[m]? = some e
  past : pastOf e.caller (p.log.take m) = [⟨.now, now⟩, ⟨.find token, .ok (some session)⟩]
  live : policy.isExpired session now = false
  row : e.post.row token = (e.pre.row token).map fun row => row.seenAt (now / nanosPerSec)

/-- The step `m` is the deletion of a session that was found expired for the reading `now`. -/
structure Deletion (policy : SessionPolicy) (token : SessionToken) (p : AuthPool τ) (m : Nat)
    (e : Event sessionSig (SessionDb τ)) (now : Int) (session : Session) : Prop where
  step : p.log[m]? = some e
  past : pastOf e.caller (p.log.take m) = [⟨.now, now⟩, ⟨.find token, .ok (some session)⟩]
  expired : policy.isExpired session now = true
  row : e.post.row token = none

/-- The row behind the token, in the state `s` that the first `n` steps lead to. -/
inductive RowAt (policy : SessionPolicy) (token : SessionToken) (db : SessionDb τ) (p : AuthPool τ)
    (n : Nat) (s : SessionDb τ) : Prop where
  | first (hrow : s.row token = db.row token)
  | touched (m : Nat) (e : Event sessionSig (SessionDb τ)) (now : Int) (session : Session)
      (row : SessionRow) (hmn : m < n) (ht : Touch policy token p m e now session)
      (hdb : db.row token = some row) (hrow : s.row token = some (row.seenAt (now / nanosPerSec)))
  | deleted (m : Nat) (e : Event sessionSig (SessionDb τ)) (now : Int) (session : Session)
      (hmn : m < n) (hd : Deletion policy token p m e now session) (hrow : s.row token = none)

theorem SessionDb.row_act (token : SessionToken) (a : SessionEnv) (s : SessionDb τ) :
    (a.act s).row token = s.row token := by
  cases a
  rfl

section
variable {G : SessionTokenGenerator τ} {policy : SessionPolicy} {token : SessionToken}
  {db : SessionDb τ} {p : AuthPool τ}

theorem RowAt.congr {n : Nat} {s s' : SessionDb τ} (h : RowAt policy token db p n s)
    (hs : s'.row token = s.row token) : RowAt policy token db p n s' := by
  cases h with
  | first hrow => exact .first (hs.trans hrow)
  | touched m e now session row hmn ht hdb hrow =>
      exact .touched m e now session row hmn ht hdb (hs.trans hrow)
  | deleted m e now session hmn hd hrow => exact .deleted m e now session hmn hd (hs.trans hrow)

/-- What a call had read at one step it has read at every later one. -/
theorem read_earlier {i m n : Nat} (hmn : m < n) {now now' : Int} {session session' : Session}
    {rest : List (Reply sessionSig)}
    (hm : pastOf i (p.log.take m) = [⟨.now, now'⟩, ⟨.find token, .ok (some session')⟩])
    (hn : pastOf i (p.log.take n) =
      ⟨.now, now⟩ :: ⟨.find token, .ok (some session)⟩ :: rest) :
    now' = now ∧ session' = session := by
  have hprefix : pastOf i (p.log.take m) <+: pastOf i (p.log.take n) :=
    (List.take_prefix_take_left (Nat.le_of_lt hmn)).filterMap _
  rw [hm, hn, List.cons_prefix_cons, List.cons_prefix_cons] at hprefix
  obtain ⟨hnow, hfound, -⟩ := hprefix
  cases hnow
  cases hfound
  exact ⟨rfl, rfl⟩

section
variable {ok : AuthPool τ → Act Unit Unit SessionEnv → Prop}
  (h : (authentications G policy token).Run ok (.init db) p)
include h

theorem row_at {n : Nat} {s : SessionDb τ}
    (ht : (authentications G policy token).Trail db (p.log.take n) s) :
    RowAt policy token db p n s := by
  refine ht.inv_take (I := RowAt policy token db p n)
    (fun a s hs => hs.congr (SessionDb.row_act token a s)) (.first rfl) fun k g hkn hk hg => ?_
  cases step_kind h hk with
  | reads _ _ hrow => exact hg.congr hrow
  | finds _ _ _ hrow => exact hg.congr hrow
  | deletes now session hpast hx _ hrow =>
      exact .deleted k g now session hkn ⟨hk, hpast, hx, hrow⟩ hrow
  | touches now session hpast hx _ hrow =>
      have htouch : Touch policy token p k g now session := ⟨hk, hpast, hx, hrow⟩
      cases hg with
      | first hpre =>
          rw [hpre] at hrow
          cases hdb : db.row token with
          | none => exact .first (by rw [hrow, hdb]; rfl)
          | some row =>
              rw [hdb] at hrow
              exact .touched k g now session row hkn htouch hdb hrow
      | touched _ _ _ _ row _ _ hdb hpre =>
          rw [hpre] at hrow
          exact .touched k g now session row hkn htouch hdb hrow
      | deleted m e t session' hmn hd hpre =>
          rw [hpre] at hrow
          exact .deleted m e t session' hmn hd hrow

/-- A touch that has been answered was a step, and was answered well. -/
theorem touch_before {i n : Nat} {now : Int} {session : Session}
    {ans : Except RepositoryError Unit}
    (hpast : pastOf i (p.log.take n) =
      [⟨.now, now⟩, ⟨.find token, .ok (some session)⟩, ⟨.touch token now, ans⟩]) :
    ans = .ok () ∧ ∃ m e, m < n ∧ e.caller = i ∧ Touch policy token p m e now session := by
  obtain ⟨m, hmn, c, pre, post, hm, -⟩ := h.reply_exec (i := i) (n := n)
    (r := ⟨.touch token now, ans⟩) (by rw [hpast]; simp)
  cases step_kind h hm with
  | reads _ he => cases he
  | finds _ _ he => cases he
  | deletes _ _ _ _ he => cases he
  | touches now' session' hp hx he hrow =>
      obtain ⟨rfl, rfl⟩ := read_earlier hmn hp hpast
      refine ⟨by cases he; rfl, m, _, hmn, rfl, hm, hp, hx, hrow⟩

theorem deletion_before {i n : Nat} {now : Int} {session : Session}
    {ans : Except RepositoryError Unit}
    (hpast : pastOf i (p.log.take n) =
      [⟨.now, now⟩, ⟨.find token, .ok (some session)⟩, ⟨.delete token, ans⟩]) :
    ∃ m e, m < n ∧ e.caller = i ∧ Deletion policy token p m e now session := by
  obtain ⟨m, hmn, c, pre, post, hm, -⟩ := h.reply_exec (i := i) (n := n)
    (r := ⟨.delete token, ans⟩) (by rw [hpast]; simp)
  cases step_kind h hm with
  | reads _ he => cases he
  | finds _ _ he => cases he
  | touches _ _ _ _ he => cases he
  | deletes now' session' hp hx he hrow =>
      obtain ⟨rfl, rfl⟩ := read_earlier hmn hp hpast
      exact ⟨m, _, hmn, rfl, hm, hp, hx, hrow⟩

/-- A session that is gone stays gone. -/
theorem absent_after {m n : Nat} {e : Event sessionSig (SessionDb τ)} {s : SessionDb τ}
    (ht : (authentications G policy token).Trail db (p.log.take n) s) (hm : p.log[m]? = some e)
    (hmn : m < n) (hnone : e.post.row token = none) : s.row token = none := by
  refine ht.inv_after (I := fun s => s.row token = none)
    (fun a s hs => (SessionDb.row_act token a s).trans hs) hm hmn hnone fun k g _ _ hk hg => ?_
  cases step_kind h hk with
  | reads _ _ hrow => exact hrow.trans hg
  | finds _ _ _ hrow => exact hrow.trans hg
  | deletes _ _ _ _ _ hrow => exact hrow
  | touches _ _ _ _ _ hrow => rw [hrow, hg]; rfl

end

/-! ### Nothing is overtaken -/

section
variable (h : (authentications G policy token).Run (Orderly policy token) (.init db) p)
include h

/-- The pool of a step, which the condition allowed. -/
theorem orderly_at {n : Nat} {e : Event sessionSig (SessionDb τ)} (hn : p.log[n]? = some e) :
    ∃ q, (authentications G policy token).Run (Orderly policy token) (.init db) q ∧
      q.log = p.log.take n ∧ q.store = e.pre ∧ NotOvertaken token q e.caller ∧
        ExpiresInTurn policy token q e.caller ∧ DeletesInTurn policy token q e.caller := by
  obtain ⟨q, c, req, k, hq, ⟨hover, hexp, hdel⟩, hlog, hstore, -⟩ := h.before_event hn
  exact ⟨q, hq, hlog, hstore, hover, hexp, hdel⟩

/-- A call that takes a step read the clock after the session was last seen. -/
theorem seen_le_reading {n : Nat} {e : Event sessionSig (SessionDb τ)} (hn : p.log[n]? = some e)
    {now : Int} {rest : List (Reply sessionSig)}
    (hpast : pastOf e.caller (p.log.take n) = ⟨.now, now⟩ :: rest) {row : SessionRow}
    (hrow : e.pre.row token = some row) : fromEpoch row.lastSeenAt ≤ now := by
  obtain ⟨q, -, hlog, hstore, hover, -, -⟩ := orderly_at h hn
  refine hover row now (hstore ▸ hrow) ?_
  rw [hlog, hpast]
  exact List.mem_cons_self

/-- The session is never seen to have been used earlier than it was. -/
theorem seen_mono {g : Event sessionSig (SessionDb τ)} {k : Nat} (hk : p.log[k]? = some g)
    {secs : Int} (hpre : ∀ row, g.pre.row token = some row → secs ≤ row.lastSeenAt) :
    ∀ row, g.post.row token = some row → secs ≤ row.lastSeenAt := by
  intro row hpost
  cases step_kind h hk with
  | reads _ _ hrow => exact hpre row (hrow ▸ hpost)
  | finds _ _ _ hrow => exact hpre row (hrow ▸ hpost)
  | deletes _ _ _ _ _ hrow => rw [hrow] at hpost; cases hpost
  | touches now session hpast _ _ hrow =>
      rw [hrow] at hpost
      obtain ⟨old, hold, rfl⟩ := Option.map_eq_some_iff.mp hpost
      exact (hpre old hold).trans (le_div_of_fromEpoch_le (seen_le_reading h hk hpast hold))

theorem touch_le_seen {m n : Nat} {e : Event sessionSig (SessionDb τ)} {now : Int}
    {session : Session} {s : SessionDb τ}
    (ht : (authentications G policy token).Trail db (p.log.take n) s)
    (hm : Touch policy token p m e now session) (hmn : m < n) {row : SessionRow}
    (hrow : s.row token = some row) : now / nanosPerSec ≤ row.lastSeenAt := by
  refine ht.inv_after
    (I := fun s => ∀ row, s.row token = some row → now / nanosPerSec ≤ row.lastSeenAt)
    (fun a s hs row hrow => hs row ((SessionDb.row_act token a s).symm.trans hrow)) hm.step hmn
    (fun row hpost => ?_) (fun k g _ _ hk hg => seen_mono h hk hg) row hrow
  rw [hm.row] at hpost
  obtain ⟨old, -, rfl⟩ := Option.map_eq_some_iff.mp hpost
  exact le_rfl

theorem first_le_seen {n : Nat} {s : SessionDb τ}
    (ht : (authentications G policy token).Trail db (p.log.take n) s) {first row : SessionRow}
    (hdb : db.row token = some first) (hrow : s.row token = some row) :
    first.lastSeenAt ≤ row.lastSeenAt := by
  refine ht.inv_take
    (I := fun s => ∀ row, s.row token = some row → first.lastSeenAt ≤ row.lastSeenAt)
    (fun a s hs row hrow => hs row ((SessionDb.row_act token a s).symm.trans hrow))
    (fun row hfirst => ?_) (fun k g _ hk hg => seen_mono h hk hg) row hrow
  rw [hdb] at hfirst
  cases hfirst
  exact le_rfl

end

end

end AuthApp.Sessions
