import AuthApp.Payments.Authentic

/-!
# Payments — the parts of a signature header

What the parser keeps of a header whose parts are all of the form `key=value`: the last timestamp
and the first `v1`, wherever they stand and whatever stands beside them.

* `parseSignatureHeader_eq`: the parser, as a function of the parts.
* `accepted_of_first_v1`: a header with one timestamp whose first `v1` is the tag is accepted.
-/

namespace AuthApp.Payments
open Sessions (asBytes)

/-- The parts of a header. -/
def headerParts (header : String) : List (List Char) := header.toList.splitOn ','

/-- Every part has a key and a value. -/
def KeyValues (header : String) : Prop := ∀ part ∈ headerParts header, '=' ∈ part

instance (header : String) : Decidable (KeyValues header) :=
  inferInstanceAs (Decidable (∀ part ∈ headerParts header, '=' ∈ part))

def partKey (part : List Char) : List Char := trim (part.takeWhile (· ≠ '='))

def partValue (part : List Char) : List Char := trim (part.dropWhile (· ≠ '=')).tail

/-- The values that the parts have for a key, in order. -/
def valuesIn (parts : List (List Char)) (key : List Char) : List (List Char) :=
  (parts.filter fun part => partKey part = key).map partValue

def valuesOf (header : String) (key : String) : List (List Char) :=
  valuesIn (headerParts header) key.toList

theorem valuesIn_cons_self {part : List Char} {parts : List (List Char)} {key : List Char}
    (h : partKey part = key) :
    valuesIn (part :: parts) key = partValue part :: valuesIn parts key := by
  rw [valuesIn, List.filter_cons_of_pos (by simpa using h), List.map_cons]
  rfl

theorem valuesIn_cons_ne {part : List Char} {parts : List (List Char)} {key : List Char}
    (h : partKey part ≠ key) : valuesIn (part :: parts) key = valuesIn parts key := by
  rw [valuesIn, List.filter_cons_of_neg (by simpa using h)]
  rfl

/-- One part that has a key and a value. -/
theorem parsePart_eq {acc : Option Nat × Option (List Char)} {part : List Char} (h : '=' ∈ part) :
    parsePart acc part =
      if partKey part = ['t'] then some (parseU64 (partValue part), acc.2)
      else if partKey part = ['v', '1'] ∧ acc.2 = none then some (acc.1, some (partValue part))
      else some acc := by
  rw [parsePart, splitOnce, if_pos h]
  rfl

/-- The parts are read in order: the last timestamp stays, and of the `v1` values the first. -/
theorem foldlM_parsePart {parts : List (List Char)} (h : ∀ part ∈ parts, '=' ∈ part)
    (acc : Option Nat × Option (List Char)) :
    parts.foldlM parsePart acc =
      some (((valuesIn parts ['t']).getLast?.map parseU64).getD acc.1,
        acc.2.or (valuesIn parts ['v', '1']).head?) := by
  induction parts generalizing acc with
  | nil => simp [valuesIn]
  | cons part rest ih =>
      have hrest : ∀ part ∈ rest, '=' ∈ part := fun p hp => h p (List.mem_cons_of_mem _ hp)
      rw [List.foldlM_cons, parsePart_eq (h part List.mem_cons_self)]
      by_cases ht : partKey part = ['t']
      · have hv1 : partKey part ≠ ['v', '1'] := by simp [ht]
        rw [if_pos ht, valuesIn_cons_self ht, valuesIn_cons_ne hv1]
        refine (ih hrest _).trans ?_
        cases hlast : (valuesIn rest ['t']).getLast? with
        | none => simp [List.getLast?_cons, hlast]
        | some v => simp [List.getLast?_cons, hlast]
      rw [if_neg ht, valuesIn_cons_ne ht]
      by_cases hv1 : partKey part = ['v', '1']
      · rw [valuesIn_cons_self hv1]
        cases hacc : acc.2 with
        | none =>
            rw [if_pos ⟨hv1, rfl⟩]
            exact ih hrest _
        | some first =>
            rw [if_neg (by simp)]
            refine (ih hrest acc).trans ?_
            simp [hacc]
      · rw [if_neg fun hboth => hv1 hboth.1, valuesIn_cons_ne hv1]
        exact ih hrest acc

/-- **The parser, as a function of the parts.** -/
theorem parseSignatureHeader_eq {header : String} (h : KeyValues header) :
    parseSignatureHeader header =
      ((valuesOf header "t").getLast?.bind parseU64).bind fun timestamp =>
        (valuesOf header "v1").head?.map fun v1 => (timestamp, .ofList v1) := by
  have hparts : (header.toList.splitOn ',').foldlM parsePart (none, none) =
      some ((valuesOf header "t").getLast?.bind parseU64, (valuesOf header "v1").head?) := by
    refine (foldlM_parsePart h (none, none)).trans ?_
    rw [Option.none_or]
    change some (((valuesOf header "t").getLast?.map parseU64).getD none, _) = _
    cases (valuesOf header "t").getLast? with
    | none => rfl
    | some v => rfl
  rw [parseSignatureHeader, hparts]
  cases (valuesOf header "t").getLast?.bind parseU64 with
  | none => rfl
  | some timestamp =>
      cases (valuesOf header "v1").head? with
      | none => rfl
      | some v1 => rfl

namespace StripeWebhookVerifier
variable {V : StripeWebhookVerifier}

/-- A `v1` that is the tag of the timestamp and the payload, in hexadecimal. -/
def Spells (V : StripeWebhookVerifier) (v1 : List Char) (timestamp : Nat) (payload : List UInt8) :
    Prop :=
  (asBytes (.ofList v1)).map lowerByte =
    hexEncode (V.hmac.tag (asBytes V.config.signingSecret) (signedPayload timestamp payload))

instance (v1 : List Char) (timestamp : Nat) (payload : List UInt8) :
    Decidable (V.Spells v1 timestamp payload) := inferInstanceAs (Decidable (_ = _))

/-- **A header whose first `v1` is genuine is accepted.**  It has parts of the form `key=value`, in
any order and with any keys, among them one timestamp, which is within the tolerance. -/
theorem accepted_of_first_v1 {now : Int} {payload : List UInt8} {header : String}
    {written v1 : List Char} {timestamp : Nat} {event : WebhookEvent}
    (hparts : KeyValues header) (hone : valuesOf header "t" = [written])
    (htimestamp : parseU64 written = some timestamp)
    (hnow : nowUnix now ≤ timestamp + V.config.toleranceSecs ∧
      timestamp ≤ nowUnix now + V.config.toleranceSecs)
    (hfirst : (valuesOf header "v1").head? = some v1) (hspells : V.Spells v1 timestamp payload)
    (hevent : V.event payload = some event) :
    V.verify now payload (some header) = .ok event := by
  have hheader : parseSignatureHeader header = some (timestamp, .ofList v1) := by
    rw [parseSignatureHeader_eq hparts, hone, hfirst, List.getLast?_singleton, Option.bind_some,
      htimestamp]
    rfl
  exact verify_eq_ok_iff.mpr
    ⟨⟨header, timestamp, _, rfl, hheader, parseU64_lt htimestamp, hnow, hspells⟩, hevent⟩

/-- The signature of `succeeded` after another scheme, before its timestamp and a second `v1`, with
spaces between. -/
def crowded : String :=
  "v0=6ffb, v1 = " ++ succeeded.v1 ++ " ,t=1700000000 , v1=00,note=a=b"

theorem crowded_accepted :
    ∃ event, (ofSigned succeeded).verify (fromEpoch 1700000100) (asBytes succeeded.body)
      (some crowded) = .ok event := by
  have hone : valuesOf crowded "t" = ["1700000000".toList] := by decide +kernel
  have hfirst : (valuesOf crowded "v1").head? = some succeeded.v1.toList := by decide +kernel
  have htimestamp : parseU64 "1700000000".toList = some 1700000000 := by decide +kernel
  exact ⟨_, accepted_of_first_v1 (by decide +kernel) hone htimestamp (by decide) hfirst
    (by decide +kernel) rfl⟩

/-- A header with the signature of a rolled secret before the one of `succeeded`. -/
def rolled : String := "t=1700000000,v1=00,v1=" ++ succeeded.v1

/-- A `v1` is the tag, and the header is rejected: it is not the first. -/
theorem rolled_rejected :
    KeyValues rolled ∧ valuesOf rolled "t" = ["1700000000".toList] ∧
      succeeded.v1.toList ∈ valuesOf rolled "v1" ∧
      (ofSigned succeeded).Spells succeeded.v1.toList 1700000000 (asBytes succeeded.body) ∧
      ((ofSigned succeeded).event (asBytes succeeded.body)).isSome ∧
      (ofSigned succeeded).verify (fromEpoch 1700000100) (asBytes succeeded.body) (some rolled) =
        .error .invalidSignature :=
  ⟨by decide +kernel, by decide +kernel, by decide +kernel, by decide +kernel, by decide +kernel,
    by decide +kernel⟩

end StripeWebhookVerifier

end AuthApp.Payments
