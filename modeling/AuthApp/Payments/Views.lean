import AuthApp.Interleave.Reads
import AuthApp.Payments.Frames

/-!
# Payments — the views

`PaymentsService::list` and `PaymentsService::get` each read twice.  They run among any other
programs over the calls of the store: the services, or calls of the repository by themselves.

* `list_answers`, `get_answers`: what a view that answers has been answered.
* `view_calls`: the calls of a view only read.
* `list_reads`, `get_reads`: the two steps of a view in the log of a run.
-/

namespace AuthApp.Payments
open Interleave Pool

/-- A page, a payment with its history, or a request of another kind. -/
inductive ViewRequest (ι : Type) where
  | list (query : PaymentQuery)
  | get (id : PaymentId)
  | other (request : ι)

inductive ViewResponse (α : Type) where
  | page (r : Except PaymentRepositoryError PaymentPage)
  | detail (r : Except PaymentRepositoryError (Option PaymentWithHistory))
  | other (response : α)

variable {π ι α : Type}

/-- The program behind each request. -/
def ViewRequest.code (code : ι → Prog paySig α) : ViewRequest ι → Prog paySig (ViewResponse α)
  | .list query => (PaymentsService.list query).map .page
  | .get id => (PaymentsService.get id).map .detail
  | .other request => (code request).map .other

/-- Views among other requests. -/
abbrev viewSystem (P : PaymentProvider π) (code : ι → Prog paySig α) :
    System paySig (PayDb π) (ViewRequest ι) (ViewResponse α) Fate PayEnv :=
  paySystem P (ViewRequest.code code)

abbrev ViewPool (π ι α : Type) := Pool paySig (PayDb π) (ViewRequest ι) (ViewResponse α)

/-! ### What a view has been answered -/

theorem list_answers (query : PaymentQuery) :
    Prog.Returns (fun (past : List (Reply paySig)) r => ∀ page, r = .ok page →
      past = [⟨.count query, .ok page.total⟩, ⟨.list query, .ok page.items⟩]) []
      (PaymentsService.list query) := by
  rintro (e | total)
  · exact fun page h => (nomatch h)
  rintro (e | items)
  · exact fun page h => (nomatch h)
  · intro page h
    cases h
    rfl

theorem get_answers (id : PaymentId) :
    Prog.Returns (fun (past : List (Reply paySig)) r => ∀ detail, r = .ok (some detail) →
      past = [⟨.find id, .ok (some detail.payment)⟩, ⟨.history id, .ok detail.history⟩]) []
      (PaymentsService.get id) := by
  rintro (e | _ | payment)
  · exact fun detail h => (nomatch h)
  · exact fun detail h => (nomatch h)
  rintro (e | history)
  · exact fun detail h => (nomatch h)
  · intro detail h
    cases h
    rfl

/-- The answers of the calls behind each request. -/
def ViewAnswers : ViewRequest ι → List (Reply paySig) → ViewResponse α → Prop
  | .list query, past, .page (.ok page) =>
      past = [⟨.count query, .ok page.total⟩, ⟨.list query, .ok page.items⟩]
  | .get id, past, .detail (.ok (some detail)) =>
      past = [⟨.find id, .ok (some detail.payment)⟩, ⟨.history id, .ok detail.history⟩]
  | _, _, _ => True

theorem view_answers (code : ι → Prog paySig α) (request : ViewRequest ι) :
    Prog.Returns (ViewAnswers request) [] (request.code code) := by
  cases request with
  | list query =>
      refine Prog.Returns.map ((list_answers query).mono fun past r h => ?_)
      cases r with
      | error e => trivial
      | ok page => exact h page rfl
  | get id =>
      refine Prog.Returns.map ((get_answers id).mono fun past r h => ?_)
      rcases r with e | _ | detail
      · trivial
      · trivial
      · exact h detail rfl
  | other request =>
      have hany := Prog.always_of_forall (P := fun _ _ => True) (fun _ _ => trivial) []
        ((code request).map ViewResponse.other)
      exact (Prog.Always.returns (P := fun _ _ => True) hany).mono fun _ _ _ => trivial

/-- The calls of a view only read. -/
theorem view_calls {code : ι → Prog paySig α} {Q : List (Reply paySig) → PayOp → Prop}
    (hread : ∀ past op, op.WritesPayment = false → Q past op)
    (hcode : ∀ request, Prog.Calls Q [] (code request)) (request : ViewRequest ι) :
    Prog.Calls Q [] (request.code code) := by
  cases request with
  | list query =>
      refine Prog.Calls.map (p := PaymentsService.list query) ⟨hread _ _ rfl, ?_⟩ _
      rintro (e | total)
      · trivial
      refine ⟨hread _ _ rfl, ?_⟩
      rintro (e | items) <;> trivial
  | get id =>
      refine Prog.Calls.map (p := PaymentsService.get id) ⟨hread _ _ rfl, ?_⟩ _
      rintro (e | _ | payment)
      · trivial
      · trivial
      refine ⟨hread _ _ rfl, ?_⟩
      rintro (e | history) <;> trivial
  | other request => exact (hcode request).map _

section Runs
variable {P : PaymentProvider π} {code : ι → Prog paySig α}
  {ok : ViewPool π ι α → Act (ViewRequest ι) Fate PayEnv → Prop} {db : PayDb π}
  {p : ViewPool π ι α} {i : Nat}

/-- A list that answers has counted, and then read the page. -/
theorem list_reads (h : (viewSystem P code).Run ok (.init db) p) {query : PaymentQuery}
    {page : PaymentPage} (hret : p.Returned i (.list query) (.page (.ok page))) :
    ∃ n m e f, TwoSteps p.log i n m e f ∧
      (⟨e.op, e.ans⟩ : Reply paySig) = ⟨.count query, .ok page.total⟩ ∧
      (⟨f.op, f.ans⟩ : Reply paySig) = ⟨.list query, .ok page.items⟩ :=
  pastOf_pair (h.returned (view_answers code) hret)

/-- A detail that answers has found the payment, and then read its history. -/
theorem get_reads (h : (viewSystem P code).Run ok (.init db) p) {id : PaymentId}
    {detail : PaymentWithHistory} (hret : p.Returned i (.get id) (.detail (.ok (some detail)))) :
    ∃ n m e f, TwoSteps p.log i n m e f ∧
      (⟨e.op, e.ans⟩ : Reply paySig) = ⟨.find id, .ok (some detail.payment)⟩ ∧
      (⟨f.op, f.ans⟩ : Reply paySig) = ⟨.history id, .ok detail.history⟩ :=
  pastOf_pair (h.returned (view_answers code) hret)

end Runs

/-! ### The payment a call writes to -/

/-- The payment that a call may write to. -/
def PayOp.subject (db : PayDb π) : PayOp → Option PaymentId
  | .insertPaymentRow _ => some db.randomUuid
  | .setProviderReference id _ => some id
  | .transition id _ _ _ _ => some id
  | _ => none

end AuthApp.Payments
