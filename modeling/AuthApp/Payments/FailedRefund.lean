import AuthApp.Payments.Delivery
import AuthApp.Payments.Overrefund
import AuthApp.Payments.System

/-!
# Payments — refunds that are reported failed

A refund sends the money first and records it after, so it can answer an error for money that has
moved: when the provider's answer cannot be recorded, when another request has moved the payment in
between, and when the database fails.

* `refund_point`: where a refund stands when it takes one of its steps.
* `failed_iff`: an error of a refund means that no money moved exactly when each step of the refund
  settles what the one before began.
* `overtaken_refund`: a refund that its own webhook overtakes.
-/

namespace AuthApp.Payments
open Interleave Pool

variable {π : Type}

/-- When a call of `refund` moves money at the provider.  It does when the answer is `Ok`. -/
structure Execution (P : PaymentProvider π) where
  executes : ProviderReference → Money → π → Prop
  of_ok : ∀ reference amount s intent, (P.refund reference amount s).1 = .ok intent →
    executes reference amount s

/-- A provider that moves money exactly when it answers `Ok`. -/
def Execution.answered (P : PaymentProvider π) : Execution P where
  executes reference amount s := ∃ intent, (P.refund reference amount s).1 = .ok intent
  of_ok := fun _ _ _ intent h => ⟨intent, h⟩

/-- The step moves money. -/
def Executes {P : PaymentProvider π} (X : Execution P) (e : Event paySig (PayDb π)) : Prop :=
  ∃ reference amount, e.op = .refund reference amount ∧ X.executes reference amount e.pre.provider

/-- The step of a refund settles what the call has begun: when it moves money, the provider answers
with a legal move from the status that was read; when it records the refund, the payment still has
that status, and the database serves the write. -/
structure Settles {P : PaymentProvider π} (X : Execution P) (id : PaymentId)
    (past : List (Reply paySig)) (e : Event paySig (PayDb π)) : Prop where
  answered : ∀ reference amount, e.op = .refund reference amount →
    X.executes reference amount e.pre.provider → ∃ payment intent,
      ⟨.find id, .ok (some payment)⟩ ∈ past ∧
        (P.refund reference amount e.pre.provider).1 = .ok intent ∧
          payment.status.canTransitionTo intent.status
  recorded : ∀ j expected next reason now, e.op = .transition j expected next reason now →
    e.pre.statusOf j = some expected ∧ (e.ans, e.post) = PayDb.serve P e.op e.pre

section Runs
variable {P : PaymentProvider π} {X : Execution P} {db : PayDb π}
  {ok : Pool paySig (PayDb π) PayRequest PayResponse → Act PayRequest Fate PayEnv → Prop}
  {p : Pool paySig (PayDb π) PayRequest PayResponse} {i n : Nat} {id : PaymentId}
  {r : Except RefundError RefundOutcome} {e : Event paySig (PayDb π)}

/-! ### Where a refund stands -/

/-- Where a refund stands when it takes a step. -/
theorem refund_point (h : (payContext P).Run ok (.init db) p)
    (hret : p.Returned i (.refund id) (.refunded r)) (hn : p.log[n]? = some e)
    (hi : e.caller = i) : RefundTrace id (pastOf i (p.log.take n)) (.call e.op) := by
  subst hi
  obtain ⟨req, d, k, hc, hpoint⟩ := h.event_point request_trace hn
  obtain rfl : req = .refund id := congrArg Call.req (Option.some.inj (hc.symm.trans hret))
  obtain ⟨head, htrace, hhead⟩ := hpoint
  exact Head.map_eq_call hhead.symm ▸ htrace

/-- Where a refund stands when it has returned. -/
theorem refund_end (h : (payContext P).Run ok (.init db) p)
    (hret : p.Returned i (.refund id) (.refunded r)) :
    RefundTrace id (pastOf i p.log) (.ret r) := by
  obtain ⟨head, htrace, hhead⟩ := h.point request_trace hret
  obtain ⟨r', rfl, heq⟩ := Head.map_eq_ret hhead.symm
  cases heq
  exact htrace

/-- The provider answers for itself. -/
theorem refund_answer (h : (payContext P).Run ok (.init db) p) (he : e ∈ p.log)
    {reference : ProviderReference} {amount : Money} {ans : Except ProviderError ProviderIntent}
    (hr : (⟨e.op, e.ans⟩ : Reply paySig) = ⟨.refund reference amount, ans⟩) :
    (P.refund reference amount e.pre.provider).1 = ans := by
  obtain ⟨c, hx⟩ := h.event_exec e he
  have hans := exec_of_reply hr hx
  cases c <;> exact congrArg Prod.fst hans

theorem refund_reply (h : (payContext P).Run ok (.init db) p) (he : e ∈ p.log)
    {reference : ProviderReference} {amount : Money} (hop : e.op = .refund reference amount) :
    (⟨.refund reference amount, (P.refund reference amount e.pre.provider).1⟩ : Reply paySig) ∈
      pastOf e.caller p.log := by
  obtain ⟨c, hx⟩ := h.event_exec e he
  have hmem := mem_pastOf_of_mem he
  obtain ⟨caller, op, ans, pre, post⟩ := e
  dsimp only at hop
  subst hop
  have hans : (P.refund reference amount pre.provider).1 = ans := by
    cases c <;> exact congrArg Prod.fst hx
  rw [hans]
  exact hmem

/-- Money moved where the provider answered `Ok`. -/
theorem executed_of_reply (h : (payContext P).Run ok (.init db) p) {reference : ProviderReference}
    {amount : Money} {intent : ProviderIntent}
    (hr : (⟨.refund reference amount, .ok intent⟩ : Reply paySig) ∈ pastOf i p.log) :
    ∃ e ∈ p.log, e.caller = i ∧ Executes X e := by
  obtain ⟨e, he, hi, heq⟩ := mem_pastOf hr
  exact ⟨e, he, hi, reference, amount, (Reply.mk.inj heq).1,
    X.of_ok _ _ _ intent (refund_answer h he heq)⟩

/-- A write that found the status it expects, and was served, is answered `Ok`. -/
theorem write_ok (h : (payContext P).Run ok (.init db) p)
    (hsettles : ∀ (n : Nat) (e : Event paySig (PayDb π)), p.log[n]? = some e → e.caller = i →
      Settles X id (pastOf i (p.log.take n)) e) {j : PaymentId} {expected next : PaymentStatus}
    {reason : Option String} {now : Int} {ans : Except PaymentRepositoryError Unit}
    (hnow : (⟨.now, now⟩ : Reply paySig) ∈ pastOf i p.log)
    (hr : (⟨.transition j expected next reason now, ans⟩ : Reply paySig) ∈ pastOf i p.log) :
    ans = .ok () := by
  rw [← List.take_length (l := p.log)] at hnow
  obtain ⟨k, -, c, pre, post, -, hx⟩ := h.reply_exec hnow
  have hclock : now = (pre.clock : Int) := by cases c <;> exact (congrArg Prod.fst hx).symm
  obtain ⟨⟨caller, op, ans', pre', post'⟩, he, hi, heq⟩ := mem_pastOf hr
  cases heq
  obtain ⟨n, hn⟩ := List.mem_iff_getElem?.mp he
  obtain ⟨hstatus, hserved⟩ := (hsettles n _ hn hi).recorded j expected next reason now rfl
  obtain ⟨row, hrow, rfl⟩ := Option.map_eq_some_iff.mp hstatus
  have hans := congrArg Prod.fst hserved
  rw [hclock] at hans
  exact hans.trans (congrArg Prod.fst (PayDb.transition_ok hrow next reason pre.clock))

/-! ### Errors and money -/

/-- An error of a refund that settled every step is of one that moved no money. -/
theorem unmoved_of_settles (h : (payContext P).Run ok (.init db) p) {err : RefundError}
    (hret : p.Returned i (.refund id) (.refunded (.error err)))
    (hsettles : ∀ (n : Nat) (e : Event paySig (PayDb π)), p.log[n]? = some e → e.caller = i →
      Settles X id (pastOf i (p.log.take n)) e) (he : e ∈ p.log) (hi : e.caller = i) :
    ¬ Executes X e := by
  rintro ⟨reference, amount, hop, hexec⟩
  obtain ⟨n, hn⟩ := List.mem_iff_getElem?.mp he
  obtain ⟨payment, intent, hfind, hanswer, hlegal⟩ :=
    (hsettles n e hn hi).answered reference amount hop hexec
  have hend := refund_end h hret
  have hwrite : ∀ {j : PaymentId} {expected next : PaymentStatus} {reason : Option String}
      (now : Int) {ans : Except PaymentRepositoryError Unit},
      (⟨.now, now⟩ : Reply paySig) ∈ pastOf i p.log →
        (⟨.transition j expected next reason now, ans⟩ : Reply paySig) ∈ pastOf i p.log →
          ans = .ok () := fun _ => write_ok h hsettles
  have hfound := mem_pastOf_of_take hfind
  have hmem := refund_reply h he hop
  rw [hi, hanswer] at hmem
  generalize pastOf i p.log = past at hend hwrite hfound hmem
  cases hend with
  | findFails e => simp at hmem
  | notFound => simp at hmem
  | notRefundable found hs => simp at hmem
  | noReference found hr => simp at hmem
  | declined found reference' e =>
      simp only [List.mem_cons, List.not_mem_nil, or_false] at hmem
      rcases hmem with heq | heq <;> cases heq
  | impossible found reference' intent' hillegal =>
      simp only [List.mem_cons, List.not_mem_nil, or_false] at hmem hfound
      obtain rfl : payment = found := by
        rcases hfound with heq | heq <;> cases heq
        rfl
      obtain rfl : intent = intent' := by
        rcases hmem with heq | heq <;> cases heq
        rfl
      rw [hlegal] at hillegal
      cases hillegal
  | conflict found reference intent' now =>
      cases hwrite now (by simp) (List.mem_of_getElem? (i := 3) rfl)
  | writeFails found reference intent' now msg =>
      cases hwrite now (by simp) (List.mem_of_getElem? (i := 3) rfl)

/-- A write that is answered `Ok` found the status it expects, and was served. -/
theorem served_of_ok {c : Fate} {j : PaymentId} {expected next : PaymentStatus}
    {reason : Option String} {now : Int} {pre post : PayDb π}
    (hx : PayDb.exec P c (.transition j expected next reason now) pre = (.ok (), post)) :
    pre.statusOf j = some expected ∧
      ((.ok (), post) : Except PaymentRepositoryError Unit × PayDb π) =
        PayDb.serve P (.transition j expected next reason now) pre := by
  cases c with
  | refused msg => cases hx
  | unacknowledged msg => cases hx
  | served =>
      rcases pre.transition_cases j expected next reason now with ⟨e, hno⟩ | ⟨hstatus, -, -⟩
      · cases (congrArg Prod.fst hx).symm.trans (congrArg Prod.fst hno)
      · exact ⟨hstatus, hx.symm⟩

/-- A refund that wrote a move did so because it is legal. -/
theorem legal_of_written (h : (payContext P).Run ok (.init db) p)
    (hret : p.Returned i (.refund id) (.refunded r)) {j : PaymentId}
    {expected next : PaymentStatus} {reason : Option String} {now : Int}
    {ans : Except PaymentRepositoryError Unit}
    (hr : (⟨.transition j expected next reason now, ans⟩ : Reply paySig) ∈ pastOf i p.log) :
    expected.canTransitionTo next := by
  obtain ⟨f, hf, hi, heq⟩ := mem_pastOf hr
  obtain ⟨m, hm⟩ := List.mem_iff_getElem?.mp hf
  have hpoint := refund_point h hret hm hi
  rw [(Reply.mk.inj heq).1] at hpoint
  generalize pastOf i (p.log.take m) = past at hpoint
  cases hpoint with
  | write found reference intent now hs hlegal => exact hlegal

/-- A refund that returned `Ok` has settled every step. -/
theorem settles_of_ok (h : (payContext P).Run ok (.init db) p) {outcome : RefundOutcome}
    (hret : p.Returned i (.refund id) (.refunded (.ok outcome))) (hn : p.log[n]? = some e)
    (hi : e.caller = i) : Settles X id (pastOf i (p.log.take n)) e := by
  have he := List.mem_of_getElem? hn
  have hpoint := refund_point h hret hn hi
  have hend := refund_end h hret
  refine ⟨fun reference amount hop _ => ?_, fun j expected next reason now hop => ?_⟩
  · have hanswer := refund_reply h he hop
    rw [hi] at hanswer
    generalize hpast : pastOf i (p.log.take n) = past at hpoint
    rw [hop] at hpoint
    cases hpoint with
    | send found reference hs hr =>
        have hfind : (⟨.find id, .ok (some found)⟩ : Reply paySig) ∈ pastOf i p.log :=
          mem_pastOf_of_take (n := n) (hpast ▸ List.mem_cons_self)
        have hlegal : ∀ {j : PaymentId} {expected next : PaymentStatus} {reason : Option String}
            {now : Int} {ans : Except PaymentRepositoryError Unit},
            (⟨.transition j expected next reason now, ans⟩ : Reply paySig) ∈ pastOf i p.log →
              expected.canTransitionTo next := legal_of_written h hret
        generalize pastOf i p.log = final at hend hanswer hfind hlegal
        cases hend with
        | done found' reference' intent now =>
            simp only [List.mem_cons, List.not_mem_nil, or_false] at hfind hanswer
            obtain rfl : found = found' := by
              rcases hfind with heq | heq | heq | heq <;> cases heq
              rfl
            refine ⟨found, intent, List.mem_cons_self, ?_,
              hlegal (List.mem_of_getElem? (i := 3) rfl)⟩
            rcases hanswer with heq | heq | heq | heq
            · cases heq
            · generalize (P.refund reference found.amount e.pre.provider).1 = ans at heq ⊢
              cases heq
              rfl
            · cases heq
            · cases heq
  · obtain ⟨c, hx⟩ := h.event_exec e he
    have hreply : (⟨e.op, e.ans⟩ : Reply paySig) ∈ pastOf i p.log := hi ▸ mem_pastOf_of_mem he
    obtain ⟨caller, op, ans, pre, post⟩ := e
    dsimp only at hop
    subst hop
    generalize pastOf i p.log = final at hend hreply
    cases hend with
    | done found reference intent written =>
        simp only [List.mem_cons, List.not_mem_nil, or_false] at hreply
        rcases hreply with heq | heq | heq | heq <;> cases heq
        exact served_of_ok hx

theorem settles_of_unmoved (h : (payContext P).Run ok (.init db) p)
    (hret : p.Returned i (.refund id) (.refunded r)) (hn : p.log[n]? = some e)
    (hi : e.caller = i) (hunmoved : ∀ e ∈ p.log, e.caller = i → ¬ Executes X e) :
    Settles X id (pastOf i (p.log.take n)) e := by
  have hpoint := refund_point h hret hn hi
  refine ⟨fun reference amount hop hexec => ?_, fun j expected next reason now hop => ?_⟩
  · exact absurd ⟨reference, amount, hop, hexec⟩ (hunmoved e (List.mem_of_getElem? hn) hi)
  · generalize hpast : pastOf i (p.log.take n) = past at hpoint
    rw [hop] at hpoint
    cases hpoint with
    | write found reference intent now hs hlegal =>
        have hreply : (⟨.refund reference found.amount, .ok intent⟩ : Reply paySig) ∈
            pastOf i p.log := mem_pastOf_of_take (n := n) (hpast ▸ by simp)
        obtain ⟨f, hf, hfi, hexec⟩ := executed_of_reply (X := X) h hreply
        exact absurd hexec (hunmoved f hf hfi)

/-- **Failed refunds.** Whatever runs beside it, and whatever fails, an error of a refund means that
the provider moved no money for it exactly when each of its steps settled what it had begun. -/
theorem failed_iff (P : PaymentProvider π) (X : Execution P) {db : PayDb π}
    {p : Pool paySig (PayDb π) PayRequest PayResponse}
    (h : (payContext P).Run (fun _ _ => True) (.init db) p) {i : Nat} {id : PaymentId}
    {r : Except RefundError RefundOutcome} (hret : p.Returned i (.refund id) (.refunded r)) :
    ((∃ err, r = .error err) → ∀ e ∈ p.log, e.caller = i → ¬ Executes X e) ↔
      ∀ (n : Nat) (e : Event paySig (PayDb π)), p.log[n]? = some e → e.caller = i →
        Settles X id (pastOf i (p.log.take n)) e := by
  constructor
  · intro hclean n e hn hi
    cases r with
    | ok outcome => exact settles_of_ok h hret hn hi
    | error err => exact settles_of_unmoved h hret hn hi (hclean ⟨err, rfl⟩)
  · rintro hsettles ⟨err, rfl⟩ e he hi
    exact unmoved_of_settles h hret hsettles he hi

end Runs

/-! ### A refund that its own webhook overtakes -/

def refundedEvent : WebhookEvent := ⟨"evt_1", some ⟨"pi_1"⟩, some .refunded⟩

def refundedVerifier : WebhookVerifier := .only [123, 125] "t=1,v1=ab" refundedEvent

/-- The refund is sent, and the provider's notification of it is handled before it is recorded. -/
def overtakenRefund : Pool paySig (PayDb FakePaymentProvider) PayRequest PayResponse :=
  ((payContext FakePaymentProvider.port).acts
    ([.start (.refund ⟨"pay_1"⟩), .step 0 .served, .step 0 .served,
      .start (.deliver refundedVerifier [123, 125] (some "t=1,v1=ab"))] ++
      List.replicate 4 (.step 1 .served) ++ List.replicate 2 (.step 0 .served))
    (.init capturedDb)).get rfl

/-- The refund answers a conflict, and the money has moved. -/
theorem overtaken_refund :
    (payContext FakePaymentProvider.port).Run (fun _ _ => True) (.init capturedDb)
        overtakenRefund ∧
      overtakenRefund.Returned 0 (.refund ⟨"pay_1"⟩) (.refunded (.error .conflict)) ∧
        ∃ e ∈ overtakenRefund.log, e.caller = 0 ∧
          Executes (.answered FakePaymentProvider.port) e := by
  have hlen : overtakenRefund.log.length = 8 := rfl
  refine ⟨.of_acts .refl (fun _ _ _ => trivial) (Option.some_get rfl).symm, rfl, ?_⟩
  exact ⟨overtakenRefund.log[1], List.getElem_mem _, rfl, _, _, rfl, _, rfl⟩

/-- So one of its steps did not settle what it had begun. -/
theorem overtakenRefund_iff :
    overtakenRefund.Returned 0 (.refund ⟨"pay_1"⟩) (.refunded (.error .conflict)) ∧
      ¬ ∀ (n : Nat) (e : Event paySig (PayDb FakePaymentProvider)),
        overtakenRefund.log[n]? = some e → e.caller = 0 →
          Settles (.answered FakePaymentProvider.port) ⟨"pay_1"⟩
            (pastOf 0 (overtakenRefund.log.take n)) e := by
  have hrun : (payContext FakePaymentProvider.port).Run (fun _ _ => True) (.init capturedDb)
      overtakenRefund := .of_acts .refl (fun _ _ _ => trivial) (Option.some_get rfl).symm
  have hret : overtakenRefund.Returned 0 (.refund ⟨"pay_1"⟩) (.refunded (.error .conflict)) := rfl
  have hlen : overtakenRefund.log.length = 8 := rfl
  refine ⟨hret, fun hsettles => ?_⟩
  have hclean := (failed_iff FakePaymentProvider.port (.answered _) hrun hret).mpr hsettles
    ⟨.conflict, rfl⟩ overtakenRefund.log[1] (List.getElem_mem _) rfl
  exact hclean ⟨_, _, rfl, _, rfl⟩

end AuthApp.Payments
