import AuthApp.Sessions.Revocation

/-!
# Sessions — rotations of one token

Requests of every kind, interleaved, and among them any number of rotations of one token.  A
rotation authenticates the token, deletes its session and starts a new one, in separate steps, and
the delete does not say whether there was anything to delete.

* `rotate_points`: what a rotation has been answered when it starts its new session.
* `Exclusive`: a rotation finds the session live only while no other is on its way to delete it.
* `rotated_once`: under it, the token is rotated once.
* `rotated_twice`: two rotations that find the session before either deletes it.
-/

namespace AuthApp.Sessions
open Interleave Pool Accounts

/-! ### What a rotation has been answered -/

/-- The answers begin with a session that was live when it was found. -/
def FoundLive (policy : SessionPolicy) (token : SessionToken) (past : List (Reply sessionSig)) :
    Prop :=
  ∃ now session rest, past = ⟨.now, now⟩ :: ⟨.find token, .ok (some session)⟩ :: rest ∧
    policy.isExpired session now = false

/-- The session has been deleted. -/
def Removed (token : SessionToken) (past : List (Reply sessionSig)) : Prop :=
  (⟨.delete token, .ok ()⟩ : Reply sessionSig) ∈ past

section Answers
variable {policy : SessionPolicy} {token : SessionToken} {past past' : List (Reply sessionSig)}

theorem FoundLive.mono (h : FoundLive policy token past) (hp : past <+: past') :
    FoundLive policy token past' := by
  obtain ⟨now, session, rest, rfl, hlive⟩ := h
  obtain ⟨l, rfl⟩ := hp
  exact ⟨now, session, rest ++ l, rfl, hlive⟩

theorem Removed.mono (h : Removed token past) (hp : past <+: past') : Removed token past' :=
  hp.subset h

/-- A session is found live by the second answer. -/
theorem FoundLive.snoc {r : Reply sessionSig} (h : FoundLive policy token (past ++ [r])) :
    FoundLive policy token past ∨ ∃ now session, past = [⟨.now, now⟩] ∧
      r = ⟨.find token, .ok (some session)⟩ ∧ policy.isExpired session now = false := by
  obtain ⟨now, session, rest, heq, hlive⟩ := h
  cases past with
  | nil => cases heq
  | cons r₀ past =>
      obtain ⟨rfl, htail⟩ := List.cons.inj heq
      cases past with
      | nil =>
          obtain ⟨rfl, -⟩ := List.cons.inj htail
          exact .inr ⟨now, session, rfl, rfl, hlive⟩
      | cons r₁ past =>
          obtain ⟨rfl, -⟩ := List.cons.inj htail
          exact .inl ⟨now, session, past, rfl, hlive⟩

end Answers

/-- A rotation inserts a session, or comes to one, after it has found the old one live and deleted
it. -/
def Replaces (policy : SessionPolicy) (token : SessionToken) (past : List (Reply sessionSig))
    (head : Head sessionSig (Except SessionError IssuedSession)) : Prop :=
  ((∃ session, head = .call (.insert session)) ∨ ∃ issued, head = .ret (.ok issued)) →
    FoundLive policy token past ∧ Removed token past

theorem rotate_replaces (policy : SessionPolicy) (token : SessionToken) :
    Prog.Always (fun past p => Replaces policy token past p.head) []
      (SessionService.rotate policy token) := by
  rw [SessionService.rotate_eq]
  refine (authenticate_trace policy token).bind (fun past op k h => ?_) fun past r h => ?_
  · rintro (⟨session, heq⟩ | ⟨issued, heq⟩)
    · exact absurd (Head.call.inj heq) ((authenticate_inserts h).2 op rfl session)
    · cases heq
  cases r with
  | error e => rintro (⟨session, heq⟩ | ⟨issued, heq⟩) <;> cases heq
  | ok authenticated =>
      have hlive : FoundLive policy token past := by
        cases h with
        | liveDone now session hx => exact ⟨now, session, _, rfl, hx⟩
      refine ⟨?_, ?_⟩
      · rintro (⟨session, heq⟩ | ⟨issued, heq⟩) <;> cases heq
      rintro (e | ⟨⟩)
      · rintro (⟨session, heq⟩ | ⟨issued, heq⟩) <;> cases heq
      -- from the delete on, the answers are only added to
      have hsince := (Prog.always_of_forall (fun _ _ => trivial) _
        (SessionService.start policy authenticated.adminId authenticated.role)).since
          (P := fun _ _ => True)
          (List.prefix_refl (past ++ [(⟨.delete token, .ok ()⟩ : Reply sessionSig)]))
      refine hsince.mono fun past' p hp _ => ?_
      exact ⟨(hlive.mono (List.prefix_append _ _)).mono hp.1,
        Removed.mono (List.mem_append_right _ List.mem_cons_self) hp.1⟩

/-- The points of a rotation, among those of every request. -/
theorem rotate_points (policy : SessionPolicy) (req : SessionRequest) :
    Prog.Always (fun past p => ∀ token, req = .rotate token →
      ∃ head, Replaces policy token past head ∧ p.head = head.map .issued) []
      (req.code policy) := by
  cases req with
  | rotate token =>
      refine ((rotate_replaces policy token).map _).mono fun past p hp token' heq => ?_
      cases heq
      exact hp
  | _ => exact Prog.always_of_forall (fun _ _ _ heq => by cases heq) _ _

/-! ### The condition, and what is claimed -/

/-- The call `i` rotates the token. -/
def Rotates (token : SessionToken) (q : SessionPool) (i : Nat) : Prop :=
  ∃ d, q.calls[i]? = some ⟨.rotate token, d⟩

/-- The call `i` rotates the token, and has not returned. -/
def Rotating (token : SessionToken) (q : SessionPool) (i : Nat) : Prop :=
  ∃ op k, q.calls[i]? = some ⟨.rotate token, .call op k⟩

/-- The call `i` has found the session live, and has not deleted it yet. -/
def Holding (policy : SessionPolicy) (token : SessionToken) (q : SessionPool) (i : Nat) : Prop :=
  Rotating token q i ∧ FoundLive policy token (pastOf i q.log) ∧
    ¬ Removed token (pastOf i q.log)

/-- The condition on a step, and on the pool before it: when a rotation is about to find the
session live, no other holds it. -/
def Exclusive (policy : SessionPolicy) (token : SessionToken) (q : SessionPool) :
    Act SessionRequest Fate SessionEnv → Prop
  | .step i .served => Rotates token q i → ∀ now session, pastOf i q.log = [⟨.now, now⟩] →
      q.store.find token = .ok (some session) → policy.isExpired session now = false →
        ∀ j, ¬ Holding policy token q j
  | _ => True

/-- The token is rotated once: one call is answered `Ok`, and one session is inserted for it. -/
structure RotatedOnce (token : SessionToken) (p : SessionPool) : Prop where
  answered : ∀ i j r r', p.Returned i (.rotate token) (.issued (.ok r)) →
    p.Returned j (.rotate token) (.issued (.ok r')) → i = j
  inserted : ∀ (n m : Nat) (e f : Event sessionSig (SessionDb (Nat × Nat))), p.log[n]? = some e →
    p.log[m]? = some f → Rotates token p e.caller → Rotates token p f.caller →
      Inserts ⟨e.op, e.ans⟩ → Inserts ⟨f.op, f.ans⟩ → n = m

/-! ### Runs -/

/-- The call `i` has found the session live, and holds or has deleted it. -/
def Committed (policy : SessionPolicy) (token : SessionToken) (q : SessionPool) (i : Nat) :
    Prop :=
  Rotates token q i ∧ FoundLive policy token (pastOf i q.log) ∧
    (Removed token (pastOf i q.log) ∨ Rotating token q i)

structure RotationInv (policy : SessionPolicy) (token : SessionToken) (q : SessionPool) :
    Prop where
  one : ∀ i j, Committed policy token q i → Committed policy token q j → i = j
  gone : ∀ i, Rotates token q i → FoundLive policy token (pastOf i q.log) →
    Removed token (pastOf i q.log) → q.store.row token = none

section Runs
variable {G : TokenStream} {policy : SessionPolicy} {token : SessionToken}
  {db : SessionDb (Nat × Nat)} {q : SessionPool}

theorem rotationInv_init : RotationInv policy token (.init db) where
  one i j hi _ := by obtain ⟨⟨d, hd⟩, -⟩ := hi; cases hd
  gone i hi _ _ := by obtain ⟨d, hd⟩ := hi; cases hd

/-- A call that has found the session came in before. -/
theorem lt_of_foundLive (hq : (sessionSystem G policy).Run (Exclusive policy token) (.init db) q)
    {i : Nat} (h : FoundLive policy token (pastOf i q.log)) : i < q.calls.length := by
  obtain ⟨now, session, rest, heq, -⟩ := h
  obtain ⟨e, he, rfl, -⟩ := mem_pastOf (heq ▸ List.mem_cons_self)
  exact hq.caller_lt e he

theorem RotationInv.start (h : RotationInv policy token q)
    (hq : (sessionSystem G policy).Run (Exclusive policy token) (.init db) q)
    (req : SessionRequest) :
    RotationInv policy token { q with calls := q.calls ++ [⟨req, req.code policy⟩] } := by
  have hold : ∀ i, FoundLive policy token (pastOf i q.log) → ∀ d,
      (q.calls ++ [⟨req, req.code policy⟩])[i]? = some d → q.calls[i]? = some d :=
    fun i hlive d hd => (List.getElem?_append_left (lt_of_foundLive hq hlive)).symm.trans hd
  have hcommitted : ∀ i, Committed policy token
      { q with calls := q.calls ++ [⟨req, req.code policy⟩] } i → Committed policy token q i := by
    rintro i ⟨⟨d, hd⟩, hlive, hrest⟩
    exact ⟨⟨d, hold i hlive _ hd⟩, hlive, hrest.imp_right fun ⟨op, k, hk⟩ =>
      ⟨op, k, hold i hlive _ hk⟩⟩
  refine ⟨fun i j hi hj => h.one i j (hcommitted i hi) (hcommitted j hj), fun i hrot hlive => ?_⟩
  obtain ⟨d, hd⟩ := hrot
  exact h.gone i ⟨d, hold i hlive _ hd⟩ hlive

/-- A find that answers a session was served. -/
theorem served_of_found {fate : Fate} {session : Session} {s t : SessionDb (Nat × Nat)}
    (h : SessionDb.exec G.generator fate (.find token) s = (.ok (some session), t)) :
    fate = .served := by
  cases fate with
  | served => rfl
  | refused msg => cases h
  | unacknowledged msg => cases h

section Step
variable {i : Nat} {fate : Fate} {req : SessionRequest} {op : SessionOp}
  {k : op.Ans → Prog sessionSig SessionResponse}

/-- The pool after a step of the call `i`. -/
abbrev stepped (G : TokenStream) (q : SessionPool) (i : Nat) (fate : Fate) (req : SessionRequest)
    (op : SessionOp) (k : op.Ans → Prog sessionSig SessionResponse) : SessionPool :=
  q.advance i req op k (SessionDb.exec G.generator fate op q.store)

theorem pastOf_stepped_self : pastOf i (stepped G q i fate req op k).log =
    pastOf i q.log ++ [⟨op, (SessionDb.exec G.generator fate op q.store).1⟩] := by
  rw [stepped, advance, pastOf_append, pastOf_single_self]

theorem pastOf_stepped_ne {j : Nat} (h : i ≠ j) :
    pastOf j (stepped G q i fate req op k).log = pastOf j q.log := by
  rw [stepped, advance, pastOf_append, pastOf_single_ne h, List.append_nil]

variable (hi : q.calls[i]? = some ⟨req, .call op k⟩)
include hi

theorem rotates_of_stepped {j : Nat} (h : Rotates token (stepped G q i fate req op k) j) :
    Rotates token q j := by
  obtain ⟨d, hd⟩ := h
  by_cases hij : i = j
  · subst hij
    rw [stepped, advance, List.getElem?_set_self (List.getElem?_eq_some_iff.mp hi).1] at hd
    cases hd
    exact ⟨_, hi⟩
  · exact ⟨d, (List.getElem?_set_ne hij).symm.trans hd⟩

/-- A call that is committed was so before the step, or the step is its find. -/
theorem committed_of_stepped {j : Nat}
    (h : Committed policy token (stepped G q i fate req op k) j) :
    Committed policy token q j ∨ i = j ∧ fate = .served ∧ ∃ now session,
      pastOf i q.log = [⟨.now, now⟩] ∧ q.store.find token = .ok (some session) ∧
        policy.isExpired session now = false := by
  obtain ⟨hrot, hlive, hrest⟩ := h
  have hrot' := rotates_of_stepped hi hrot
  by_cases hij : i = j
  · subst hij
    rw [pastOf_stepped_self] at hlive
    rcases hlive.snoc with hlive | ⟨now, session, hpast, hr, hx⟩
    · obtain ⟨d, hd⟩ := hrot'
      obtain rfl : req = .rotate token := congrArg Call.req (Option.some.inj (hi.symm.trans hd))
      exact .inl ⟨⟨_, hi⟩, hlive, .inr ⟨op, k, hi⟩⟩
    · rcases hexec : SessionDb.exec G.generator fate op q.store with ⟨ans, after⟩
      rw [hexec] at hr
      cases hr
      exact .inr ⟨rfl, served_of_found hexec, now, session, hpast,
        SessionDb.find_of_answer hexec, hx⟩
  · rw [pastOf_stepped_ne hij] at hlive hrest
    refine .inl ⟨hrot', hlive, hrest.imp_right fun ⟨op', k', hk⟩ => ⟨op', k', ?_⟩⟩
    exact (List.getElem?_set_ne hij).symm.trans hk

theorem RotationInv.step (h : RotationInv policy token q)
    (hok : Exclusive policy token q (.step i fate))
    (hkeep : q.store.row token = none →
      (SessionDb.exec G.generator fate op q.store).2.row token = none) :
    RotationInv policy token (stepped G q i fate req op k) := by
  -- the find of one call leaves no other committed
  have hfind : ∀ j, Committed policy token (stepped G q i fate req op k) i →
      ¬ Committed policy token q i → ¬ Committed policy token q j := by
    intro j hnew hno hj
    rcases committed_of_stepped hi hnew with hold | ⟨-, rfl, now, session, hpast, hfound, hx⟩
    · exact hno hold
    obtain ⟨hrot, hlive, hrest⟩ := hj
    by_cases hremoved : Removed token (pastOf j q.log)
    · have hrow := h.gone j hrot hlive hremoved
      rw [SessionDb.find_eq, hrow] at hfound
      cases hfound
    · exact hok (rotates_of_stepped hi hnew.1) now session hpast hfound hx j
        ⟨hrest.resolve_left hremoved, hlive, hremoved⟩
  have hone : ∀ j, Committed policy token (stepped G q i fate req op k) i →
      Committed policy token q j → i = j := by
    intro j hnew hj
    by_contra hij
    exact hfind j hnew (fun hold => hij (h.one i j hold hj)) hj
  refine ⟨fun a b ha hb => ?_, fun j hrot hlive hremoved => ?_⟩
  · rcases committed_of_stepped hi ha with ha' | ⟨rfl, -⟩
    · rcases committed_of_stepped hi hb with hb' | ⟨rfl, -⟩
      · exact h.one a b ha' hb'
      · exact (hone a hb ha').symm
    · rcases committed_of_stepped hi hb with hb' | ⟨rfl, -⟩
      · exact hone b ha hb'
      · rfl
  · have hrot' := rotates_of_stepped hi hrot
    by_cases hij : i = j
    · subst hij
      rw [pastOf_stepped_self] at hlive hremoved
      rcases List.mem_append.mp hremoved with hremoved | hlast
      · rcases hlive.snoc with hlive | ⟨now, session, hpast, -⟩
        · exact hkeep (h.gone i hrot' hlive hremoved)
        · rw [hpast] at hremoved
          cases List.mem_singleton.mp hremoved
      · rcases hexec : SessionDb.exec G.generator fate op q.store with ⟨ans, after⟩
        rw [hexec] at hlast
        cases List.mem_singleton.mp hlast
        rw [stepped, hexec]
        exact row_of_deleted hexec
    · rw [pastOf_stepped_ne hij] at hlive hremoved
      exact hkeep (h.gone j hrot' hlive hremoved)

end Step

theorem rotation_inv (hnext : ∀ k, db.entropy.1 ≤ k → G.session k ≠ token)
    (hq : (sessionSystem G policy).Run (Exclusive policy token) (.init db) q) :
    RotationInv policy token q := by
  induction hq with
  | refl => exact rotationInv_init
  | @snoc q r a hq hok hs ih =>
      have hr := hq.snoc hok hs
      cases hs with
      | start req => exact ih.start hq req
      | env e =>
          cases e with
          | tick d => exact ⟨ih.one, ih.gone⟩
      | step i fate req op k hi =>
          refine ih.step hi hok fun hrow => row_exec G fate hrow fun session hop heq => ?_
          exact not_inserted_of_undrawn hr hnext (n := q.log.length)
            (List.getElem?_concat_length) ⟨session, hop, heq⟩

/-- **Rotations.** As long as no rotation finds the session live while another holds it, the token
is rotated once, whatever else is in flight. -/
theorem rotated_once (G : TokenStream) (policy : SessionPolicy) (token : SessionToken)
    (db : SessionDb (Nat × Nat)) (hnext : ∀ k, db.entropy.1 ≤ k → G.session k ≠ token)
    (p : SessionPool)
    (h : (sessionSystem G policy).Run (Exclusive policy token) (.init db) p) :
    RotatedOnce token p := by
  have hinv := rotation_inv hnext h
  have hpoint : ∀ i r, p.Returned i (.rotate token) (.issued (.ok r)) →
      Committed policy token p i := by
    intro i r hret
    obtain ⟨head, hrep, hhead⟩ := h.point (rotate_points policy) hret token rfl
    obtain ⟨r', rfl, hr⟩ := Head.map_eq_ret hhead.symm
    cases hr
    obtain ⟨hlive, hremoved⟩ := hrep (.inr ⟨r, rfl⟩)
    exact ⟨⟨_, hret⟩, hlive, .inl hremoved⟩
  have hinsert : ∀ (n : Nat) (e : Event sessionSig (SessionDb (Nat × Nat))), p.log[n]? = some e →
      Rotates token p e.caller → Inserts ⟨e.op, e.ans⟩ → Committed policy token p e.caller := by
    rintro n e hn ⟨d, hd⟩ ⟨session, hop⟩
    obtain ⟨req, d', k, hc, hp⟩ := h.event_point (rotate_points policy) hn
    obtain rfl : req = .rotate token := congrArg Call.req (Option.some.inj (hc.symm.trans hd))
    obtain ⟨head, hrep, hhead⟩ := hp token rfl
    obtain rfl := Head.map_eq_call hhead.symm
    obtain ⟨hlive, hremoved⟩ := hrep (.inl ⟨session, congrArg Head.call hop⟩)
    have hpre : pastOf e.caller (p.log.take n) <+: pastOf e.caller p.log :=
      (List.take_prefix n p.log).filterMap _
    exact ⟨⟨d, hd⟩, hlive.mono hpre, .inl (hremoved.mono hpre)⟩
  -- one call inserts once
  have hfirst : ∀ {n m : Nat} {e f : Event sessionSig (SessionDb (Nat × Nat))},
      p.log[n]? = some e → p.log[m]? = some f → e.caller = f.caller → Inserts ⟨e.op, e.ans⟩ →
        Inserts ⟨f.op, f.ans⟩ → ¬ n < m := by
    rintro n m e f hn hm hcaller he ⟨session, hop⟩ hlt
    refine (drawn_of_inserts h hm ⟨session, hop, rfl⟩).2 ⟨e.op, e.ans⟩ ?_ he
    rw [← hcaller]
    exact mem_pastOf_of_mem (List.mem_of_getElem? (by rw [List.getElem?_take_of_lt hlt, hn]))
  refine ⟨fun i j r r' hi hj => hinv.one i j (hpoint i r hi) (hpoint j r' hj), ?_⟩
  intro n m e f hn hm hre hrf he hf
  have hcaller := hinv.one _ _ (hinsert n e hn hre he) (hinsert m f hm hrf hf)
  have hnm := hfirst hn hm hcaller he hf
  have hmn := hfirst hm hn hcaller.symm hf he
  omega

end Runs

/-! ### Two schedules -/

/-- One administrator is signed in. -/
def oneSession : SessionDb (Nat × Nat) :=
  ((SessionService.start .recommended ⟨"admin-1"⟩ .admin).run
    (SessionDb.serve unaryTokens.generator) noSessions).2

def oldToken : SessionToken := unaryTokens.session 0

/-- Two rotations, and the second finds the session before the first deletes it. -/
def twoRotations : SessionPool :=
  ((sessionSystem unaryTokens .recommended).acts
    ([.start (.rotate oldToken), .start (.rotate oldToken)] ++ steps 0 2 ++ steps 1 2 ++
      steps 0 6 ++ steps 1 6) (.init oneSession)).get rfl

/-- Both are answered with a new session, and both sessions are stored. -/
theorem rotated_twice :
    (sessionSystem unaryTokens .recommended).Run (fun _ _ => True) (.init oneSession)
        twoRotations ∧
      ¬ RotatedOnce oldToken twoRotations ∧
      twoRotations.store.row (unaryTokens.session 1) ≠ none ∧
      twoRotations.store.row (unaryTokens.session 2) ≠ none := by
  refine ⟨.of_acts .refl (fun _ _ _ => trivial) (Option.some_get rfl).symm, fun h => ?_, ?_, ?_⟩
  · exact absurd (h.answered 0 1 _ _ rfl rfl) (by decide)
  · exact Option.ne_none_iff_exists'.mpr ⟨_, rfl⟩
  · exact Option.ne_none_iff_exists'.mpr ⟨_, rfl⟩

/-- Call `j` has read the clock at most, or it has returned. -/
def idle (q : SessionPool) (j : Nat) : Bool :=
  (pastOf j q.log).length ≤ 1 || match q.calls[j]? with
    | some ⟨_, .call _ _⟩ => false
    | _ => true

/-- Every call but the one that steps is idle. -/
def OthersIdle (q : SessionPool) : Act SessionRequest Fate SessionEnv → Prop
  | .step i _ => ∀ j < q.calls.length, j ≠ i → idle q j = true
  | _ => True

instance (q : SessionPool) (a : Act SessionRequest Fate SessionEnv) :
    Decidable (OthersIdle q a) := by
  cases a with
  | step i fate =>
      unfold OthersIdle
      infer_instance
  | _ => exact .isTrue trivial

theorem exclusive_of_othersIdle {policy : SessionPolicy} {token : SessionToken} {q : SessionPool}
    {a : Act SessionRequest Fate SessionEnv} (h : OthersIdle q a) : Exclusive policy token q a := by
  cases a with
  | step i fate =>
      cases fate with
      | served =>
          rintro - now session hpast - - j ⟨⟨op, k, hk⟩, ⟨now', session', rest, hpast', -⟩, -⟩
          by_cases hj : j = i
          · rw [hj, hpast] at hpast'
            cases hpast'
          · have hidle := h j (List.getElem?_eq_some_iff.mp hk).1 hj
            rw [idle, hk, hpast'] at hidle
            simp at hidle
      | _ => trivial
  | _ => trivial

/-- Two rotations that both read the clock, and the second goes on when the first is done. -/
def rotationsInTurn : SessionPool :=
  ((sessionSystem unaryTokens .recommended).guardedActs OthersIdle
    ([.start (.rotate oldToken), .start (.rotate oldToken)] ++ steps 0 1 ++ steps 1 1 ++
      steps 0 7 ++ steps 1 1) (.init oneSession)).get rfl

/-- The first is answered with a new session, and the second does not find the old one. -/
theorem rotated_once_in_turn :
    rotationsInTurn.Returned 0 (.rotate oldToken)
        (.issued (.ok ⟨unaryTokens.session 1, unaryTokens.csrf 1, fromSecs (12 * 60 * 60)⟩)) ∧
      rotationsInTurn.Returned 1 (.rotate oldToken) (.issued (.error .notFound)) ∧
      RotatedOnce oldToken rotationsInTurn := by
  have hrun : (sessionSystem unaryTokens .recommended).Run OthersIdle (.init oneSession)
      rotationsInTurn := .of_guardedActs .refl (Option.some_get rfl).symm
  refine ⟨rfl, rfl, rotated_once unaryTokens .recommended oldToken oneSession (fun k hk heq => ?_) _
    (hrun.mono fun _ _ => exclusive_of_othersIdle)⟩
  exact absurd (unaryTokens.fresh heq) (Nat.ne_of_gt hk)

end AuthApp.Sessions
