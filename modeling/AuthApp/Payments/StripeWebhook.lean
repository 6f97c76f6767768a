import AuthApp.Accounts.Wire
import AuthApp.Domain.Hex
import AuthApp.Domain.Text
import AuthApp.Domain.Time
import AuthApp.Payments.Payment
import AuthApp.Sessions.Csrf

/-!
# Payments — the Stripe webhook verifier

`StripeWebhookVerifier`: the `Stripe-Signature` header carries a timestamp and an HMAC over
the timestamp and the raw body; a body whose signature is good is read as an event, and distilled
to what the service acts on.  The HMAC and the JSON parser are parameters.

* `verify_eq_ok_iff`: a body is accepted when its header is genuine and it reads as an event.
* `parseU64_lt`, `signatureHeader_lt`: the timestamp of a header is a `u64`.
* `parseU64_toString`: a `u64` is read back from its decimal digits.
-/

namespace AuthApp.Payments
open Accounts
open Sessions (asBytes)

/-- HMAC-SHA256: the tag of a message under a key, and the comparison with a given tag. -/
structure HmacSha256 where
  tag : List UInt8 → List UInt8 → List UInt8
  verifySlice : List UInt8 → List UInt8 → List UInt8 → Bool
  verifySlice_iff : ∀ key message given,
    verifySlice key message given = true ↔ given = tag key message

/-- `serde_json::from_slice`: the parser, and what it says of bytes that it cannot read. -/
structure SerdeSlice where
  parseSlice : List UInt8 → Option Json
  sliceError : List UInt8 → String

/-! ### The event envelope -/

structure StripeObject where
  id : Option String
  /-- On a charge, the id of the intent that it belongs to. -/
  paymentIntent : Option String
  deriving DecidableEq, Repr

structure StripeData where
  object : StripeObject
  deriving DecidableEq, Repr

structure StripeEvent where
  id : String
  eventType : String
  data : StripeData
  deriving DecidableEq, Repr

namespace StripeObject

/-- The object, from the values that are given; both have a default. -/
def ofValues (id paymentIntent : Option Json) : Option StripeObject := do
  let id ← (id.map (Json.optional Json.string?)).getD (some none)
  let paymentIntent ← (paymentIntent.map (Json.optional Json.string?)).getD (some none)
  return ⟨id, paymentIntent⟩

def decode : Json → Option StripeObject
  | .object fields => do
      let id ← Json.field? "id" fields
      let paymentIntent ← Json.field? "payment_intent" fields
      ofValues id paymentIntent
  | .array items => if items.length ≤ 2 then ofValues items[0]? items[1]? else none
  | _ => none

end StripeObject

def StripeData.decode : Json → Option StripeData
  | .object fields => do
      let object ← Json.field? "object" fields
      return ⟨← object.bind StripeObject.decode⟩
  | .array [object] => do return ⟨← StripeObject.decode object⟩
  | _ => none

namespace StripeEvent

def ofValues (id eventType data : Json) : Option StripeEvent := do
  return ⟨← id.string?, ← eventType.string?, ← StripeData.decode data⟩

def decode : Json → Option StripeEvent
  | .object fields => do
      let id ← Json.field? "id" fields
      let eventType ← Json.field? "type" fields
      let data ← Json.field? "data" fields
      ofValues (← id) (← eventType) (← data)
  | .array [id, eventType, data] => ofValues id eventType data
  | _ => none

end StripeEvent

/-- The payment and the status that an event type is about; of any other type, neither. -/
def distill (event : StripeEvent) : WebhookEvent :=
  let object := event.data.object
  let (reference, newStatus) : Option String × Option PaymentStatus :=
    match event.eventType with
    | "payment_intent.amount_capturable_updated" => (object.id, some .authorized)
    | "payment_intent.succeeded" => (object.id, some .captured)
    | "payment_intent.payment_failed" => (object.id, some .failed)
    | "payment_intent.canceled" => (object.id, some .canceled)
    | "payment_intent.requires_action" => (object.id, some .requiresAction)
    -- whether the charge was refunded in full is not looked at
    | "charge.refunded" => (object.paymentIntent, some .refunded)
    | _ => (none, none)
  ⟨event.id, reference.map .mk, newStatus⟩

/-! ### The signature header -/

/-- `str::split_once`. -/
def splitOnce (c : Char) (s : List Char) : Option (List Char × List Char) :=
  if c ∈ s then some (s.takeWhile (· ≠ c), (s.dropWhile (· ≠ c)).tail) else none

/-- Decimal digits, as long as the number is a `u64`. -/
def parseDigits (s : List Char) : Option Nat :=
  s.foldlM (fun n c =>
    if c.isDigit ∧ n * 10 + (c.toNat - 48) < 2 ^ 64 then some (n * 10 + (c.toNat - 48)) else none) 0

/-- `str::parse::<u64>`: digits, with a plus sign or without. -/
def parseU64 (s : List Char) : Option Nat :=
  let digits := if s.head? = some '+' then s.tail else s
  if digits = [] then none else parseDigits digits

/-- One part of the header: a later timestamp replaces an earlier one, even by none; the first
`v1` stays. -/
def parsePart (acc : Option Nat × Option (List Char)) (part : List Char) :
    Option (Option Nat × Option (List Char)) := do
  let (k, value) ← splitOnce '=' part
  if trim k = ['t'] then return (parseU64 (trim value), acc.2)
  else if trim k = ['v', '1'] ∧ acc.2 = none then return (acc.1, some (trim value))
  else return acc

def parseSignatureHeader (header : String) : Option (Nat × String) := do
  let (timestamp, v1) ← (header.toList.splitOn ',').foldlM parsePart (none, none)
  return (← timestamp, .ofList (← v1))

def hexDecode (s : String) : Option (List UInt8) :=
  if (asBytes s).length % 2 ≠ 0 then none else hexBytes (asBytes s)

/-! ### The verifier -/

structure StripeWebhookConfig where
  signingSecret : String
  toleranceSecs : Nat
  deriving DecidableEq, Repr

/-- The default tolerance is five minutes. -/
def StripeWebhookConfig.new (signingSecret : String) : StripeWebhookConfig := ⟨signingSecret, 300⟩

structure StripeWebhookVerifier where
  config : StripeWebhookConfig
  hmac : HmacSha256
  serde : SerdeSlice

namespace StripeWebhookVerifier
variable (V : StripeWebhookVerifier)

/-- The Unix time of an instant, in seconds; 0 before 1970. -/
def nowUnix (now : Int) : Nat := ((durationSince now 0).map asSecs).getD 0

/-- `u64::abs_diff`. -/
def absDiff (a b : Nat) : Nat := max a b - min a b

/-- What is signed: the timestamp, a full stop and the raw body. -/
def signedPayload (timestamp : Nat) (payload : List UInt8) : List UInt8 :=
  asBytes (toString timestamp) ++ asBytes "." ++ payload

/-- The event that a body reads as. -/
def event (payload : List UInt8) : Option WebhookEvent :=
  ((V.serde.parseSlice payload).bind StripeEvent.decode).map distill

/-- A key of any length is a key for HMAC, so the source's check of the secret never fails. -/
def verify (now : Int) (payload : List UInt8) (signature : Option String) :
    Except WebhookError WebhookEvent :=
  match signature with
  | none => .error .invalidSignature
  | some header =>
      match parseSignatureHeader header with
      | none => .error .invalidSignature
      | some (timestamp, v1) =>
          if V.config.toleranceSecs < absDiff (nowUnix now) timestamp then
            .error .invalidSignature
          else
            match hexDecode v1 with
            | none => .error .invalidSignature
            | some expected =>
                if V.hmac.verifySlice (asBytes V.config.signingSecret)
                    (signedPayload timestamp payload) expected then
                  match V.event payload with
                  | some event => .ok event
                  | none => .error (.malformed (V.serde.sliceError payload))
                else .error .invalidSignature

/-- The verifier at an instant, behind the port. -/
def verifierAt (now : Int) : WebhookVerifier := ⟨V.verify now⟩

/-- A header that the holder of the secret wrote for these bytes, not long ago: its timestamp is
within the tolerance, and its `v1` spells the tag of what is signed, in either case. -/
def Genuine (now : Int) (payload : List UInt8) (signature : Option String) : Prop :=
  ∃ header timestamp v1, signature = some header ∧
    parseSignatureHeader header = some (timestamp, v1) ∧ timestamp < 2 ^ 64 ∧
    (nowUnix now ≤ timestamp + V.config.toleranceSecs ∧
      timestamp ≤ nowUnix now + V.config.toleranceSecs) ∧
    (asBytes v1).map lowerByte =
      hexEncode (V.hmac.tag (asBytes V.config.signingSecret) (signedPayload timestamp payload))

end StripeWebhookVerifier

/-! ### What the parsers accept -/

theorem parseDigits_lt {s : List Char} {t : Nat} (h : parseDigits s = some t) : t < 2 ^ 64 := by
  have hstep : ∀ (s : List Char) (n t : Nat), n < 2 ^ 64 → s.foldlM (fun n c =>
      if c.isDigit ∧ n * 10 + (c.toNat - 48) < 2 ^ 64 then some (n * 10 + (c.toNat - 48))
      else none) n = some t → t < 2 ^ 64 := by
    intro s
    induction s with
    | nil => intro n t hn ht; cases ht; exact hn
    | cons c rest ih =>
        intro n t hn ht
        rw [List.foldlM_cons] at ht
        split at ht
        next hc => exact ih _ _ hc.2 ht
        next => cases ht
  exact hstep s 0 t (by decide) h

theorem parseU64_lt {s : List Char} {t : Nat} (h : parseU64 s = some t) : t < 2 ^ 64 := by
  rw [parseU64] at h
  generalize (if s.head? = some '+' then s.tail else s) = digits at h
  by_cases hd : digits = []
  · simp [hd] at h
  · exact parseDigits_lt ((if_neg hd).symm.trans h)

/-- The digits of a number read as that number. -/
theorem parseDigits_of_ofDigitChars {s : List Char} (hdigits : ∀ c ∈ s, c.isDigit)
    (h : Nat.ofDigitChars 10 s 0 < 2 ^ 64) : parseDigits s = some (Nat.ofDigitChars 10 s 0) := by
  have hstep : ∀ (s : List Char) (n : Nat), (∀ c ∈ s, c.isDigit) →
      Nat.ofDigitChars 10 s n < 2 ^ 64 → s.foldlM (fun n c =>
        if c.isDigit ∧ n * 10 + (c.toNat - 48) < 2 ^ 64 then some (n * 10 + (c.toNat - 48))
        else none) n = some (Nat.ofDigitChars 10 s n) := by
    intro s
    induction s with
    | nil => intro n _ _; rw [Nat.ofDigitChars_nil]; rfl
    | cons c rest ih =>
        intro n hdigits hlt
        rw [Nat.ofDigitChars_cons, Nat.mul_comm 10 n] at hlt ⊢
        -- a number is at least what was read of it so far
        have hle : n * 10 + (c.toNat - 48) ≤
            Nat.ofDigitChars 10 rest (n * 10 + (c.toNat - 48)) := by
          rw [Nat.ofDigitChars_eq_ofDigitChars_zero]
          exact Nat.le_add_right_of_le (Nat.le_mul_of_pos_left _ (Nat.pow_pos (by decide)))
        rw [List.foldlM_cons, if_pos ⟨hdigits c List.mem_cons_self, hle.trans_lt hlt⟩]
        exact ih _ (fun c hc => hdigits c (List.mem_cons_of_mem _ hc)) hlt
  exact hstep s 0 hdigits h

/-- A `u64` is read back from its decimal digits. -/
theorem parseU64_toString {n : Nat} (h : n < 2 ^ 64) : parseU64 (toString n).toList = some n := by
  have hs : (toString n).toList = Nat.toDigits 10 n := Nat.toList_repr
  have hdigits : ∀ c ∈ Nat.toDigits 10 n, c.isDigit := fun c hc =>
    Nat.isDigit_of_mem_toDigits (by decide) (by decide) hc
  have hplus : (Nat.toDigits 10 n).head? ≠ some '+' := fun hp =>
    absurd (hdigits _ (List.mem_of_mem_head? hp)) (by decide)
  rw [parseU64, hs, if_neg hplus, if_neg Nat.toDigits_ne_nil,
    parseDigits_of_ofDigitChars hdigits (by rwa [Nat.ofDigitChars_ten_toDigits]),
    Nat.ofDigitChars_ten_toDigits]

/-- Whatever the parts of a header say, the timestamp kept so far is a `u64`. -/
theorem parsePart_lt {parts : List (List Char)} {acc given : Option Nat × Option (List Char)}
    (hacc : ∀ t, acc.1 = some t → t < 2 ^ 64) (h : parts.foldlM parsePart acc = some given) :
    ∀ t, given.1 = some t → t < 2 ^ 64 := by
  induction parts generalizing acc with
  | nil => cases h; exact hacc
  | cons part rest ih =>
      rw [List.foldlM_cons] at h
      obtain ⟨next, hnext, hrest⟩ := Option.bind_eq_some_iff.mp h
      refine ih ?_ hrest
      obtain ⟨⟨k, value⟩, -, hpart⟩ := Option.bind_eq_some_iff.mp hnext
      dsimp only at hpart
      split at hpart
      · cases hpart
        exact fun t ht => parseU64_lt ht
      · split at hpart
        · cases hpart
          exact hacc
        · cases hpart
          exact hacc

theorem signatureHeader_lt {header v1 : String} {t : Nat}
    (h : parseSignatureHeader header = some (t, v1)) : t < 2 ^ 64 := by
  obtain ⟨⟨timestamp, value⟩, hparts, h⟩ := Option.bind_eq_some_iff.mp h
  obtain ⟨t', ht', h⟩ := Option.bind_eq_some_iff.mp h
  obtain ⟨value', -, h⟩ := Option.bind_eq_some_iff.mp h
  cases h
  exact parsePart_lt (fun _ h => by cases h) hparts t ht'

/-- A string decodes to the bytes that it spells, in either case, and to no others. -/
theorem hexDecode_eq_some_iff {s : String} {bytes : List UInt8} :
    hexDecode s = some bytes ↔ (asBytes s).map lowerByte = hexEncode bytes := by
  rw [hexDecode]
  split
  next hodd =>
    -- two digits are spelled for each byte
    have heven : (hexEncode bytes).length = 2 * bytes.length := by
      rw [hexEncode, List.length_flatMap]
      simp [Nat.mul_comm]
    constructor
    · rintro ⟨⟩
    · intro h
      have hlen := congrArg List.length h
      rw [List.length_map, heven] at hlen
      omega
  next => exact hexBytes_eq_some_iff

namespace StripeWebhookVerifier
variable {V : StripeWebhookVerifier} {now : Int} {payload : List UInt8}
  {signature : Option String} {event : WebhookEvent}

theorem absDiff_le_iff {a b d : Nat} : absDiff a b ≤ d ↔ a ≤ b + d ∧ b ≤ a + d := by
  rw [absDiff]
  omega

/-- **What the verifier accepts.** -/
theorem verify_eq_ok_iff : V.verify now payload signature = .ok event ↔
    V.Genuine now payload signature ∧ V.event payload = some event := by
  cases signature with
  | none => simp [verify, Genuine]
  | some header =>
      rw [verify]
      cases hp : parseSignatureHeader header with
      | none => simp [Genuine, hp]
      | some found =>
          obtain ⟨timestamp, v1⟩ := found
          have hgenuine : V.Genuine now payload (some header) ↔
              absDiff (nowUnix now) timestamp ≤ V.config.toleranceSecs ∧
                hexDecode v1 = some (V.hmac.tag (asBytes V.config.signingSecret)
                  (signedPayload timestamp payload)) := by
            rw [absDiff_le_iff, hexDecode_eq_some_iff]
            constructor
            · rintro ⟨_, t, v, ⟨⟩, hp', -, hnow, htag⟩
              cases hp.symm.trans hp'
              exact ⟨hnow, htag⟩
            · rintro ⟨hnow, htag⟩
              exact ⟨header, timestamp, v1, rfl, hp, signatureHeader_lt hp, hnow, htag⟩
          rw [hgenuine]
          dsimp only
          by_cases hnow : V.config.toleranceSecs < absDiff (nowUnix now) timestamp
          · simp [if_pos hnow, Nat.not_le.mpr hnow]
          · rw [if_neg hnow]
            cases hv : hexDecode v1 with
            | none => simp
            | some expected =>
                dsimp only
                by_cases htag : expected = V.hmac.tag (asBytes V.config.signingSecret)
                    (signedPayload timestamp payload)
                · rw [if_pos (V.hmac.verifySlice_iff _ _ _ |>.mpr htag)]
                  cases V.event payload <;> simp [Nat.le_of_not_lt hnow, htag]
                · rw [if_neg fun h => htag (V.hmac.verifySlice_iff _ _ _ |>.mp h)]
                  simp [htag]

theorem error_of_not_genuine (h : ¬ V.Genuine now payload signature) :
    ∃ e, V.verify now payload signature = .error e := by
  cases hv : V.verify now payload signature with
  | error e => exact ⟨e, rfl⟩
  | ok event => exact absurd (verify_eq_ok_iff.mp hv).1 h

/-! ### One signed body -/

/-- A body that was signed, and the tree that it reads as. -/
structure Signed where
  timestamp : Nat
  body : String
  tree : Json
  tag : List UInt8

/-- The verifier for the secret `whsec_test_secret`, on a body with its real tag. -/
def ofSigned (s : Signed) : StripeWebhookVerifier where
  config := .new "whsec_test_secret"
  hmac :=
    { tag := tag
      verifySlice := fun key message given => decide (given = tag key message)
      verifySlice_iff := fun _ _ _ => decide_eq_true_iff }
  serde :=
    { parseSlice := fun payload => if payload = asBytes s.body then some s.tree else none
      sliceError := fun _ => "expected value at line 1 column 1" }
where
  tag (key message : List UInt8) : List UInt8 :=
    if key = asBytes "whsec_test_secret" ∧
        message = signedPayload s.timestamp (asBytes s.body) then s.tag
    else []

/-- The tag, in hexadecimal. -/
def Signed.v1 (s : Signed) : String := .ofList ((hexEncode s.tag).map fun b => Char.ofNat b.toNat)

/-- The header that was sent with the body. -/
def Signed.header (s : Signed) : String := "t=" ++ toString s.timestamp ++ ",v1=" ++ s.v1

theorem genuine_of_header {s : Signed} (hlt : s.timestamp < 2 ^ 64)
    (hnow : nowUnix now ≤ s.timestamp + 300 ∧ s.timestamp ≤ nowUnix now + 300)
    (hheader : parseSignatureHeader s.header = some (s.timestamp, s.v1))
    (hv1 : (asBytes s.v1).map lowerByte = hexEncode s.tag) :
    (ofSigned s).Genuine now (asBytes s.body) (some s.header) := by
  refine ⟨_, _, _, rfl, hheader, hlt, hnow, hv1.trans (congrArg hexEncode ?_)⟩
  exact (if_pos ⟨rfl, rfl⟩).symm

end StripeWebhookVerifier

end AuthApp.Payments
