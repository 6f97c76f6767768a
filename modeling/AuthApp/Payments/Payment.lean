import AuthApp.Domain.Text
import AuthApp.Domain.Time

/-!
# Payments — the payment model

Money, the status state machine, and the values that cross the ports of the payments context.
`canTransitionTo` is the single source of truth for which moves of a payment are legal.
-/

namespace AuthApp.Payments

/-! ### Money -/

/-- An ISO 4217 code: three uppercase ASCII letters. -/
structure Currency where
  bytes : List Char
  len : bytes.length = 3
  upper : ∀ b ∈ bytes, b.isUpper
  deriving DecidableEq

inductive CurrencyError where
  | invalidLength
  | notAlphabetic
  deriving DecidableEq, Repr

/-- Three ASCII letters, in either case. -/
def Currency.parse (raw : String) : Except CurrencyError Currency :=
  if hl : raw.toList.length = 3 ∧ raw.toList.all fun c => c.val < 128 then
    if ha : raw.toList.all Char.isAlpha then
      .ok
        { bytes := raw.toList.map Char.toUpper
          len := by rw [List.length_map]; exact hl.1
          upper := by
            intro b hb
            obtain ⟨c, hc, rfl⟩ := List.mem_map.mp hb
            exact isUpper_toUpper (List.all_eq_true.mp ha c hc) }
    else .error .notAlphabetic
  else .error .invalidLength

/-- An amount in the currency's smallest unit, never negative. -/
structure Money where
  minorUnits : Int
  currency : Currency
  nonneg : 0 ≤ minorUnits
  deriving DecidableEq

inductive MoneyError where
  | negative
  deriving DecidableEq, Repr

def Money.fromMinorUnits (minorUnits : Int) (currency : Currency) : Except MoneyError Money :=
  if h : minorUnits < 0 then .error .negative
  else .ok ⟨minorUnits, currency, Int.not_lt.mp h⟩

theorem length_eur : ['E', 'U', 'R'].length = 3 := rfl

theorem isUpper_eur : ∀ c ∈ ['E', 'U', 'R'], c.isUpper = true := List.all_eq_true.mp rfl

def Money.euros (minorUnits : Nat) : Money :=
  ⟨minorUnits, ⟨['E', 'U', 'R'], length_eur, isUpper_eur⟩, Int.natCast_nonneg _⟩

/-! ### The state machine -/

structure PaymentId where
  raw : String
  deriving DecidableEq, Repr

structure ProviderReference where
  raw : String
  deriving DecidableEq, Repr

inductive PaymentStatus where
  | created
  | requiresAction
  | authorized
  | captured
  | partiallyRefunded
  | refunded
  | failed
  | canceled
  deriving DecidableEq, Repr

namespace PaymentStatus

def canTransitionTo : PaymentStatus → PaymentStatus → Bool
  | created, requiresAction | created, authorized | created, failed | created, canceled => true
  | requiresAction, authorized | requiresAction, failed | requiresAction, canceled => true
  | authorized, captured | authorized, failed | authorized, canceled => true
  | captured, partiallyRefunded | captured, refunded => true
  | partiallyRefunded, partiallyRefunded | partiallyRefunded, refunded => true
  | _, _ => false

/-- The form persisted to storage. -/
def asStr : PaymentStatus → String
  | created => "created"
  | requiresAction => "requires_action"
  | authorized => "authorized"
  | captured => "captured"
  | partiallyRefunded => "partially_refunded"
  | refunded => "refunded"
  | failed => "failed"
  | canceled => "canceled"

/-- The status a stored string names; the error is the string itself. -/
def parse (raw : String) : Except String PaymentStatus :=
  match raw with
  | "created" => .ok created
  | "requires_action" => .ok requiresAction
  | "authorized" => .ok authorized
  | "captured" => .ok captured
  | "partially_refunded" => .ok partiallyRefunded
  | "refunded" => .ok refunded
  | "failed" => .ok failed
  | "canceled" => .ok canceled
  | other => .error other

/-- A status survives its trip through a TEXT column. -/
theorem parse_asStr (s : PaymentStatus) : parse s.asStr = .ok s := by
  cases s <;> rfl

/-- `Failed`, `Canceled` and `Refunded`: nothing follows them. -/
def Terminal (s : PaymentStatus) : Prop := s = failed ∨ s = canceled ∨ s = refunded

theorem terminal_iff (s : PaymentStatus) :
    s.Terminal ↔ ∀ next, s.canTransitionTo next = false := by
  constructor
  · rintro (rfl | rfl | rfl) next <;> cases next <;> rfl
  · intro h
    cases s with
    | created => exact absurd (h failed) (by decide)
    | requiresAction => exact absurd (h failed) (by decide)
    | authorized => exact absurd (h failed) (by decide)
    | captured => exact absurd (h refunded) (by decide)
    | partiallyRefunded => exact absurd (h refunded) (by decide)
    | refunded => exact .inr (.inr rfl)
    | failed => exact .inl rfl
    | canceled => exact .inr (.inl rfl)

/-- Only a partial refund may repeat. -/
theorem canTransitionTo_self {s : PaymentStatus} (h : s.canTransitionTo s) :
    s = partiallyRefunded := by
  cases s <;> first | rfl | exact absurd h (by decide)

/-- No payment ever becomes `Created` again. -/
theorem canTransitionTo_created (s : PaymentStatus) : s.canTransitionTo created = false := by
  cases s <;> rfl

/-- How far along a status is. -/
def rank : PaymentStatus → Nat
  | created => 0
  | requiresAction => 1
  | authorized => 2
  | captured => 3
  | partiallyRefunded => 4
  | refunded | failed | canceled => 5

end PaymentStatus

/-- A legal move of the state machine. -/
abbrev Moves (s t : PaymentStatus) : Prop := s.canTransitionTo t

/-- A move goes further along, or repeats a partial refund. -/
theorem Moves.rank {s t : PaymentStatus} (h : Moves s t) :
    s.rank ≤ t.rank ∧ (s.rank = t.rank → s = t) := by
  revert h
  cases s <;> cases t <;> decide

/-! ### Payments -/

/-- A payment, as the repository hands it to a caller. -/
structure Payment where
  id : PaymentId
  providerReference : Option ProviderReference
  amount : Money
  status : PaymentStatus
  createdAt : Int
  updatedAt : Int
  deriving DecidableEq

/-- One recorded status change; `fromStatus` is `none` for the row recording creation. -/
structure PaymentStatusChange where
  paymentId : PaymentId
  fromStatus : Option PaymentStatus
  toStatus : PaymentStatus
  reason : Option String
  occurredAt : Int
  deriving DecidableEq

structure NewPayment where
  amount : Money
  createdAt : Int
  deriving DecidableEq

inductive PaymentRepositoryError where
  | conflict
  | backend (msg : String)
  deriving DecidableEq, Repr

def PaymentRepositoryError.display : PaymentRepositoryError → String
  | .conflict => "payment status changed concurrently"
  | .backend msg => "payment repository backend error: " ++ msg

/-! ### The provider port -/

/-- The provider's view of an intent after a mutating call. -/
structure ProviderIntent where
  reference : ProviderReference
  status : PaymentStatus
  deriving DecidableEq, Repr

inductive ProviderError where
  | rejected (msg : String)
  | unavailable (msg : String)
  deriving DecidableEq, Repr

/-- A payment gateway: what each call answers, and what it does to the provider's own state. -/
structure PaymentProvider (π : Type) where
  createIntent : Money → π → Except ProviderError ProviderIntent × π
  capture : ProviderReference → Money → π → Except ProviderError ProviderIntent × π
  refund : ProviderReference → Money → π → Except ProviderError ProviderIntent × π
  getStatus : ProviderReference → π → Except ProviderError PaymentStatus × π

/-! ### The webhook port -/

/-- A provider webhook, distilled to what the service acts on. -/
structure WebhookEvent where
  eventId : String
  reference : Option ProviderReference
  newStatus : Option PaymentStatus
  deriving DecidableEq, Repr

inductive WebhookError where
  | invalidSignature
  | malformed (msg : String)
  deriving DecidableEq, Repr

/-- Authenticates and parses the raw bytes of a delivery with its signature header.  A verifier
that also reads the clock is one such function at each instant. -/
structure WebhookVerifier where
  verify : List UInt8 → Option String → Except WebhookError WebhookEvent

structure WebhookStoreError where
  msg : String
  deriving DecidableEq, Repr

def WebhookStoreError.display (e : WebhookStoreError) : String :=
  "webhook store error: " ++ e.msg

end AuthApp.Payments
