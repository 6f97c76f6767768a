import AuthApp.Domain.Hex

/-!
# Text — percent encoding

Bytes that are written where only some may stand: each of the others is written as a percent sign
and two digits.

* `decode_encode`: what is written is read back.
* `decode_requote`: writing a text that is already escaped, and keeping its escapes, changes nothing
  of what is read.
* `mem_encode`: what can stand in a text that is written so.
-/

namespace Percent
open AuthApp

/-- An upper-case digit. -/
def upperDigit (d : Nat) : UInt8 := .ofNat (if d < 10 then 48 + d else 55 + d)

/-- A byte, as it is written where only those that `keeps` admits stand for themselves. -/
def encodeByte (keeps : UInt8 → Bool) (b : UInt8) : List UInt8 :=
  if keeps b then [b] else [37, upperDigit (b.toNat / 16), upperDigit (b.toNat % 16)]

def encode (keeps : UInt8 → Bool) (bs : List UInt8) : List UInt8 := bs.flatMap (encodeByte keeps)

/-- The byte that two digits stand for. -/
def octet (hi lo : UInt8) : Option UInt8 :=
  match toDigit16 hi, toDigit16 lo with
  | some h, some l => some (.ofNat (h * 16 + l))
  | _, _ => none

/-- What is read: a percent sign with no two digits after it stands for itself. -/
def decode : List UInt8 → List UInt8
  | [] => []
  | [b] => [b]
  | [b, c] => [b, c]
  | b :: hi :: lo :: rest =>
      if b = 37 then
        match octet hi lo with
        | some c => c :: decode rest
        | none => b :: decode (hi :: lo :: rest)
      else b :: decode (hi :: lo :: rest)

/-! ### Reading, byte by byte -/

theorem toNat_upperDigit {d : Nat} (h : d < 16) :
    (upperDigit d).toNat = if d < 10 then 48 + d else 55 + d := by
  rw [upperDigit, UInt8.toNat_ofNat']
  split <;> omega

theorem toDigit16_upperDigit {d : Nat} (h : d < 16) : toDigit16 (upperDigit d) = some d := by
  rw [toDigit16_cases, toNat_upperDigit h]
  split <;> omega

theorem octet_upperDigit (b : UInt8) :
    octet (upperDigit (b.toNat / 16)) (upperDigit (b.toNat % 16)) = some b := by
  have hb : b.toNat < 256 := b.toNat_lt
  have hhi : b.toNat / 16 < 16 := by omega
  have hlo : b.toNat % 16 < 16 := by omega
  rw [octet, toDigit16_upperDigit hhi, toDigit16_upperDigit hlo]
  simp [show b.toNat / 16 * 16 + b.toNat % 16 = b.toNat by omega]

theorem decode_cons_ne {b : UInt8} (h : b ≠ 37) (rest : List UInt8) :
    decode (b :: rest) = b :: decode rest := by
  match rest with
  | [] => rfl
  | [c] => rfl
  | hi :: lo :: rest => rw [decode, if_neg h]

theorem decode_escape {hi lo c : UInt8} (h : octet hi lo = some c) (rest : List UInt8) :
    decode (37 :: hi :: lo :: rest) = c :: decode rest := by
  rw [decode, if_pos rfl, h]

theorem decode_literal {hi lo : UInt8} (h : octet hi lo = none) (rest : List UInt8) :
    decode (37 :: hi :: lo :: rest) = 37 :: decode (hi :: lo :: rest) := by
  rw [decode, if_pos rfl, h]

/-- A byte that is written is read back, whatever follows. -/
theorem decode_encodeByte {keeps : UInt8 → Bool} (hpercent : keeps 37 = false) (b : UInt8)
    (rest : List UInt8) : decode (encodeByte keeps b ++ rest) = b :: decode rest := by
  rw [encodeByte]
  by_cases hb : keeps b
  · rw [if_pos hb]
    refine decode_cons_ne ?_ rest
    rintro rfl
    rw [hpercent] at hb
    cases hb
  · rw [if_neg hb]
    exact decode_escape (octet_upperDigit b) rest

/-- **Round trip.** What is written is read back, where the percent sign is not kept. -/
theorem decode_encode {keeps : UInt8 → Bool} (hpercent : keeps 37 = false) (bs : List UInt8) :
    decode (encode keeps bs) = bs := by
  induction bs with
  | nil => rfl
  | cons b bs ih =>
      rw [encode, List.flatMap_cons, decode_encodeByte hpercent]
      exact congrArg (List.cons b) ih

/-- Where the percent sign is not kept, different texts are written differently. -/
theorem encode_injective {keeps : UInt8 → Bool} (hpercent : keeps 37 = false) :
    Function.Injective (encode keeps) :=
  Function.LeftInverse.injective (decode_encode hpercent)

/-! ### What stands in a text -/

theorem mem_encode {keeps : UInt8 → Bool} {c : UInt8} {bs : List UInt8} (h : c ∈ encode keeps bs) :
    keeps c = true ∧ c ∈ bs ∨ c = 37 ∨ toDigit16 c ≠ none := by
  rw [encode, List.mem_flatMap] at h
  obtain ⟨b, hb, hc⟩ := h
  have hdigit {d : Nat} (hd : d < 16) : toDigit16 (upperDigit d) ≠ none := by
    rw [toDigit16_upperDigit hd]
    nofun
  rw [encodeByte] at hc
  split at hc
  · next hkeeps =>
      obtain rfl := List.mem_singleton.mp hc
      exact .inl ⟨hkeeps, hb⟩
  · have hlt : b.toNat < 256 := b.toNat_lt
    rcases List.mem_cons.mp hc with rfl | hc
    · exact .inr (.inl rfl)
    rcases List.mem_cons.mp hc with rfl | hc
    · exact .inr (.inr (hdigit (by omega)))
    · obtain rfl := List.mem_singleton.mp hc
      exact .inr (.inr (hdigit (by omega)))

/-- A byte that is not kept, and that escapes are not made of, does not stand in the text. -/
theorem not_mem_encode {keeps : UInt8 → Bool} {c : UInt8} (hkeeps : keeps c = false) (h37 : c ≠ 37)
    (hdigit : toDigit16 c = none) (bs : List UInt8) : c ∉ encode keeps bs := by
  intro hc
  rcases mem_encode hc with ⟨h, -⟩ | h | h
  · rw [hkeeps] at h
    cases h
  · exact h37 h
  · exact h hdigit

/-- A byte that escapes are not made of stands only where it stood. -/
theorem mem_of_mem_encode {keeps : UInt8 → Bool} {c : UInt8} {bs : List UInt8} (h37 : c ≠ 37)
    (hdigit : toDigit16 c = none) (h : c ∈ encode keeps bs) : c ∈ bs := by
  rcases mem_encode h with ⟨-, h⟩ | h | h
  · exact h
  · exact absurd h h37
  · exact absurd hdigit h

/-! ### Writing what is escaped already -/

/-- No escape is read where a text begins. -/
def StartsPlain (bs : List UInt8) : Prop := ∀ hi lo rest, bs = hi :: lo :: rest → octet hi lo = none

theorem octet_of_left {hi : UInt8} (h : toDigit16 hi = none) (lo : UInt8) : octet hi lo = none := by
  rw [octet, h]

theorem octet_of_right {lo : UInt8} (h : toDigit16 lo = none) (hi : UInt8) :
    octet hi lo = none := by
  rw [octet, h]
  split
  · next heq => cases heq
  · rfl

theorem digits_of_octet {hi lo c : UInt8} (h : octet hi lo = some c) :
    toDigit16 hi ≠ none ∧ toDigit16 lo ≠ none := by
  constructor
  · intro hhi
    rw [octet_of_left hhi] at h
    cases h
  · intro hlo
    rw [octet_of_right hlo] at h
    cases h

/-- A percent sign with no two digits after it stands for itself. -/
theorem decode_percent {bs : List UInt8} (h : StartsPlain bs) :
    decode (37 :: bs) = 37 :: decode bs := by
  match bs with
  | [] => rfl
  | [c] => rfl
  | hi :: lo :: rest => exact decode_literal (h hi lo rest rfl) rest

/-- A text begins with an escape, or plainly. -/
theorem escape_or_plain (bs : List UInt8) :
    (∃ hi lo c rest, bs = hi :: lo :: rest ∧ octet hi lo = some c) ∨ StartsPlain bs := by
  match bs with
  | [] => exact .inr fun _ _ _ h => nomatch h
  | [_] => exact .inr fun _ _ _ h => nomatch h
  | hi :: lo :: rest =>
      cases h : octet hi lo with
      | some c => exact .inl ⟨hi, lo, c, rest, rfl, h⟩
      | none =>
          refine .inr fun hi' lo' rest' heq => ?_
          cases heq
          exact h

theorem encodeByte_of_keeps {keeps : UInt8 → Bool} {b : UInt8} (h : keeps b = true) :
    encodeByte keeps b = [b] := if_pos h

theorem encode_cons (keeps : UInt8 → Bool) (b : UInt8) (bs : List UInt8) :
    encode keeps (b :: bs) = encodeByte keeps b ++ encode keeps bs := List.flatMap_cons

/-- A byte is written as itself, or with a percent sign first. -/
theorem encode_cons_eq (keeps : UInt8 → Bool) (b : UInt8) (bs : List UInt8) :
    ∃ c tail, encode keeps (b :: bs) = c :: tail ∧
      (c = b ∧ tail = encode keeps bs ∨ c = 37) := by
  rw [encode_cons, encodeByte]
  split
  · exact ⟨b, _, rfl, .inl ⟨rfl, rfl⟩⟩
  · exact ⟨37, _, rfl, .inr rfl⟩

theorem StartsPlain.encode {bs : List UInt8} (h : StartsPlain bs) (keeps : UInt8 → Bool) :
    StartsPlain (encode keeps bs) := by
  have hpercent : toDigit16 37 = none := rfl
  intro hi lo rest heq
  cases bs with
  | nil => cases heq
  | cons b bs =>
      obtain ⟨c, tail, hcons, ⟨rfl, htail⟩ | rfl⟩ := encode_cons_eq keeps b bs
      · obtain ⟨rfl, htail'⟩ := List.cons.inj (hcons.symm.trans heq)
        cases bs with
        | nil => rw [htail] at htail'; cases htail'
        | cons c' bs =>
            obtain ⟨d, tail', hcons', ⟨rfl, -⟩ | rfl⟩ := encode_cons_eq keeps c' bs
            · rw [htail, hcons'] at htail'
              obtain ⟨rfl, -⟩ := List.cons.inj htail'
              exact h _ _ bs rfl
            · rw [htail, hcons'] at htail'
              obtain ⟨rfl, -⟩ := List.cons.inj htail'
              exact octet_of_right hpercent _
      · obtain ⟨rfl, -⟩ := List.cons.inj (hcons.symm.trans heq)
        exact octet_of_left hpercent _

/-- **Writing again.** Where the percent sign and the digits are kept, writing changes nothing of
what is read. -/
theorem decode_requote {keeps : UInt8 → Bool} (hpercent : keeps 37 = true)
    (hdigits : ∀ b, toDigit16 b ≠ none → keeps b = true) (bs : List UInt8) :
    decode (encode keeps bs) = decode bs := by
  induction hlen : bs.length using Nat.strongRecOn generalizing bs with
  | ind n ih =>
      subst hlen
      cases bs with
      | nil => rfl
      | cons b bs =>
          rw [encode_cons]
          by_cases hb : b = 37
          · subst hb
            rw [encodeByte_of_keeps hpercent, List.singleton_append]
            rcases escape_or_plain bs with ⟨hi, lo, c, rest, rfl, hoctet⟩ | hplain
            · obtain ⟨hhi, hlo⟩ := digits_of_octet hoctet
              rw [encode_cons, encodeByte_of_keeps (hdigits hi hhi), List.singleton_append,
                encode_cons, encodeByte_of_keeps (hdigits lo hlo), List.singleton_append,
                decode_escape hoctet, decode_escape hoctet,
                ih rest.length (by simp; omega) rest rfl]
            · rw [decode_percent hplain, decode_percent (hplain.encode keeps),
                ih bs.length (Nat.lt_succ_self _) bs rfl]
          · rw [decode_cons_ne hb, ← ih bs.length (Nat.lt_succ_self _) bs rfl, encodeByte]
            split
            · exact decode_cons_ne hb _
            · exact decode_escape (octet_upperDigit b) _

end Percent
