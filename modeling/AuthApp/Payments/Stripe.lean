import AuthApp.Accounts.Wire
import AuthApp.Interleave.Program
import AuthApp.Payments.Payment
import Mathlib.Data.List.DropRight

/-!
# Payments — the Stripe adapter

`StripeProvider`: each operation is one request to Stripe's API, a refund two.  The transport is
whatever executes the requests; the JSON parser is a parameter.

* `refund_run`: a refund, by the answers of its two requests.
* `getStatus_run`: what a lookup makes of the intent that it is answered with.
-/

namespace AuthApp.Payments
open Interleave Accounts

/-! ### The transport -/

/-- The requests of the `HttpClient` port. -/
inductive HttpOp where
  | postForm (url : String) (form : List (String × String)) (bearer : Option String)
  | getBearer (url bearer : String)
  deriving DecidableEq, Repr

abbrev transportSig : Sig := ⟨HttpOp, fun _ => Except HttpError HttpResponse⟩

/-- `serde_json`: the parser of a text, and what it says of one that is not of the type wanted. -/
structure SerdeJson where
  parseStr : String → Option Json
  strError : String → String

/-! ### What is read of a response -/

/-- The subset of a Stripe PaymentIntent that is read. -/
structure PaymentIntentResponse where
  id : String
  status : String
  amount : Int
  deriving DecidableEq, Repr

namespace PaymentIntentResponse

/-- The intent, from the values that are given; the amount has a default. -/
def ofValues (id status amount : Option Json) : Option PaymentIntentResponse := do
  let id ← id.bind Json.string?
  let status ← status.bind Json.string?
  let amount ← (amount.map Json.i64?).getD (some 0)
  return ⟨id, status, amount⟩

def decode : Json → Option PaymentIntentResponse
  | .object fields => do
      let id ← Json.field? "id" fields
      let status ← Json.field? "status" fields
      let amount ← Json.field? "amount" fields
      ofValues id status amount
  | .array items => if items.length ≤ 3 then ofValues items[0]? items[1]? items[2]? else none
  | _ => none

end PaymentIntentResponse

/-- A Stripe status, as one of ours; an intent that is not yet authorized is `Created`. -/
def mapStatus (stripe : String) : PaymentStatus :=
  match stripe with
  | "requires_capture" => .authorized
  | "succeeded" => .captured
  | "canceled" => .canceled
  | "requires_action" => .requiresAction
  | _ => .created

def parseIntent (J : SerdeJson) (body : String) : Except ProviderError PaymentIntentResponse :=
  match (J.parseStr body).bind PaymentIntentResponse.decode with
  | some intent => .ok intent
  | none => .error (.unavailable ("stripe response: " ++ J.strError body))

/-! ### The operations -/

structure StripeConfig where
  secretKey : String
  apiBase : String
  deriving DecidableEq, Repr

/-- The live API. -/
def StripeConfig.new (secretKey : String) : StripeConfig := ⟨secretKey, "https://api.stripe.com"⟩

namespace StripeProvider
variable (J : SerdeJson) (config : StripeConfig)

def url (path : String) : String :=
  .ofList (config.apiBase.toList.rdropWhile (· = '/')) ++ "/" ++ path

/-- A response that is not 2xx: a 4xx is a rejection, and anything else may be tried again. -/
def error (response : HttpResponse) : ProviderError :=
  if 400 ≤ response.status ∧ response.status < 500 then
    .rejected ("stripe returned " ++ toString response.status)
  else .unavailable ("stripe returned " ++ toString response.status)

/-- The answer of a request, when it is 2xx. -/
def accepted : Except HttpError HttpResponse → Except ProviderError HttpResponse
  | .error e => .error (.unavailable e.display)
  | .ok response => if response.isSuccess then .ok response else .error (error response)

/-- The intent that a request is answered with. -/
def answered (r : Except HttpError HttpResponse) : Except ProviderError PaymentIntentResponse :=
  match accepted r with
  | .error e => .error e
  | .ok response => parseIntent J response.body

/-- The request of `create_intent`: funds are authorized first, and captured by a later call. -/
def createRequest (amount : Money) : HttpOp :=
  .postForm (url config "v1/payment_intents")
    [("amount", toString amount.minorUnits),
      ("currency", .ofList (toAsciiLowercase amount.currency.bytes)),
      ("capture_method", "manual")]
    (some config.secretKey)

def captureRequest (reference : ProviderReference) (amount : Money) : HttpOp :=
  .postForm (url config ("v1/payment_intents/" ++ reference.raw ++ "/capture"))
    [("amount_to_capture", toString amount.minorUnits)] (some config.secretKey)

def refundRequest (reference : ProviderReference) (amount : Money) : HttpOp :=
  .postForm (url config "v1/refunds")
    [("payment_intent", reference.raw), ("amount", toString amount.minorUnits)]
    (some config.secretKey)

def fetchRequest (reference : ProviderReference) : HttpOp :=
  .getBearer (url config ("v1/payment_intents/" ++ reference.raw)) config.secretKey

/-! ### The operations, as programs -/

def request (op : HttpOp) : Prog transportSig (Except HttpError HttpResponse) :=
  Prog.perform (S := transportSig) op

/-- A request that is answered with the intent it leaves. -/
def intentOf (op : HttpOp) : Prog transportSig (Except ProviderError ProviderIntent) := do
  match answered J (← request op) with
  | .error e => return .error e
  | .ok intent => return .ok ⟨⟨intent.id⟩, mapStatus intent.status⟩

def createIntent (amount : Money) : Prog transportSig (Except ProviderError ProviderIntent) :=
  intentOf J (createRequest config amount)

def capture (reference : ProviderReference) (amount : Money) :
    Prog transportSig (Except ProviderError ProviderIntent) :=
  intentOf J (captureRequest config reference amount)

def fetchIntent (reference : ProviderReference) :
    Prog transportSig (Except ProviderError PaymentIntentResponse) := do
  return answered J (← request (fetchRequest config reference))

/-- The intent stays `succeeded` after a refund, so the amounts say whether it was a full one. -/
def refundStatus (amount : Money) (intent : PaymentIntentResponse) : PaymentStatus :=
  if intent.amount ≤ amount.minorUnits then .refunded else .partiallyRefunded

def refund (reference : ProviderReference) (amount : Money) :
    Prog transportSig (Except ProviderError ProviderIntent) := do
  match accepted (← request (refundRequest config reference amount)) with
  | .error e => return .error e
  | .ok _ =>
      match ← fetchIntent J config reference with
      | .error e => return .error e
      | .ok intent => return .ok ⟨reference, refundStatus amount intent⟩

def getStatus (reference : ProviderReference) :
    Prog transportSig (Except ProviderError PaymentStatus) := do
  match ← fetchIntent J config reference with
  | .error e => return .error e
  | .ok intent => return .ok (mapStatus intent.status)

/-- The adapter over a transport, behind the provider port. -/
def port {σ : Type} (exec : Exec transportSig σ) : PaymentProvider σ where
  createIntent amount := (createIntent J config amount).run exec
  capture reference amount := (capture J config reference amount).run exec
  refund reference amount := (refund J config reference amount).run exec
  getStatus reference := (getStatus J config reference).run exec

/-! ### What an operation answers -/

section
variable {J config} {σ : Type} (exec : Exec transportSig σ) (s : σ)

theorem intentOf_run (op : HttpOp) : (intentOf J op).run exec s =
    ((answered J (exec op s).1).map fun intent => ⟨⟨intent.id⟩, mapStatus intent.status⟩,
      (exec op s).2) := by
  rw [intentOf, request, Prog.perform_bind, Prog.run_call]
  cases answered J (exec op s).1 <;> rfl

theorem answered_of_intentOf {exec : Exec transportSig σ} {s t : σ} {op : HttpOp}
    {reported : ProviderIntent} (h : (intentOf J op).run exec s = (.ok reported, t)) :
    ∃ intent, answered J (exec op s).1 = .ok intent ∧
      reported = ⟨⟨intent.id⟩, mapStatus intent.status⟩ ∧ t = (exec op s).2 := by
  rw [intentOf_run] at h
  obtain ⟨hreported, rfl⟩ := Prod.mk.inj h
  cases hintent : answered J (exec op s).1 with
  | error e => rw [hintent] at hreported; cases hreported
  | ok intent => rw [hintent] at hreported; cases hreported; exact ⟨intent, rfl, rfl, rfl⟩

theorem fetchIntent_run (reference : ProviderReference) :
    (fetchIntent J config reference).run exec s =
      (answered J (exec (fetchRequest config reference) s).1,
        (exec (fetchRequest config reference) s).2) := rfl

theorem getStatus_run (reference : ProviderReference) :
    (getStatus J config reference).run exec s =
      ((answered J (exec (fetchRequest config reference) s).1).map fun intent =>
          mapStatus intent.status,
        (exec (fetchRequest config reference) s).2) := by
  rw [getStatus, Prog.run_bind, fetchIntent_run]
  dsimp only
  cases answered J (exec (fetchRequest config reference) s).1 <;> rfl

theorem refund_run (reference : ProviderReference) (amount : Money) :
    (refund J config reference amount).run exec s =
      let post := exec (refundRequest config reference amount) s
      match accepted post.1 with
      | .error e => (.error e, post.2)
      | .ok _ =>
          let fetch := exec (fetchRequest config reference) post.2
          ((answered J fetch.1).map fun intent => ⟨reference, refundStatus amount intent⟩,
            fetch.2) := by
  rw [refund, request, Prog.perform_bind, Prog.run_call]
  dsimp only
  cases accepted (exec (refundRequest config reference amount) s).1 with
  | error e => rfl
  | ok response =>
      dsimp only
      rw [Prog.run_bind, fetchIntent_run]
      dsimp only
      cases answered J (exec (fetchRequest config reference) _).1 <;> rfl

theorem accepted_of_refund {exec : Exec transportSig σ} {s t : σ} {reference : ProviderReference}
    {amount : Money} {reported : ProviderIntent}
    (h : (refund J config reference amount).run exec s = (.ok reported, t)) :
    ∃ response intent,
      let post := exec (refundRequest config reference amount) s
      accepted post.1 = .ok response ∧
        reported = ⟨reference, refundStatus amount intent⟩ ∧
          t = (exec (fetchRequest config reference) post.2).2 := by
  rw [refund_run] at h
  dsimp only at h
  cases hp : accepted (exec (refundRequest config reference amount) s).1 with
  | error e => rw [hp] at h; cases h
  | ok response =>
      rw [hp] at h
      obtain ⟨hreported, rfl⟩ := Prod.mk.inj h
      cases hf : answered J (exec (fetchRequest config reference)
          (exec (refundRequest config reference amount) s).2).1 with
      | error e => rw [hf] at hreported; cases hreported
      | ok intent => rw [hf] at hreported; cases hreported; exact ⟨response, intent, hp, rfl, rfl⟩

end

/-- An answer is accepted when it is a 2xx response. -/
theorem accepted_eq_ok_iff {r : Except HttpError HttpResponse} {response : HttpResponse} :
    accepted r = .ok response ↔ r = .ok response ∧ response.isSuccess = true := by
  rcases r with e | given
  · simp [accepted]
  · rw [accepted]
    by_cases h : given.isSuccess
    · rw [if_pos h]
      constructor
      · rintro ⟨⟩; exact ⟨rfl, h⟩
      · rintro ⟨heq, -⟩; cases heq; rfl
    · rw [if_neg h]
      constructor
      · rintro ⟨⟩
      · rintro ⟨heq, hs⟩; cases heq; exact absurd hs h

section
variable {J : SerdeJson}

theorem parseIntent_eq_ok_iff {body : String} {intent : PaymentIntentResponse} :
    parseIntent J body = .ok intent ↔
      ∃ j, J.parseStr body = some j ∧ PaymentIntentResponse.decode j = some intent := by
  rw [parseIntent, ← Option.bind_eq_some_iff]
  cases (J.parseStr body).bind PaymentIntentResponse.decode <;> simp

theorem answered_eq_ok_iff {r : Except HttpError HttpResponse} {intent : PaymentIntentResponse} :
    answered J r = .ok intent ↔ ∃ response j, r = .ok response ∧ response.isSuccess = true ∧
      J.parseStr response.body = some j ∧ PaymentIntentResponse.decode j = some intent := by
  rw [answered]
  constructor
  · intro h
    cases hr : accepted r with
    | error e => rw [hr] at h; cases h
    | ok response =>
        rw [hr] at h
        obtain ⟨hok, hs⟩ := accepted_eq_ok_iff.mp hr
        obtain ⟨j, hj, hi⟩ := parseIntent_eq_ok_iff.mp h
        exact ⟨response, j, hok, hs, hj, hi⟩
  · rintro ⟨response, j, hok, hs, hj, hi⟩
    rw [accepted_eq_ok_iff.mpr ⟨hok, hs⟩]
    exact parseIntent_eq_ok_iff.mpr ⟨j, hj, hi⟩

end

end StripeProvider

end AuthApp.Payments
