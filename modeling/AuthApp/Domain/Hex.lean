import Mathlib.Data.List.Basic

/-!
# Domain — hexadecimal

Byte strings, and the digits that spell them, in either case.

* `hexBytes_eq_some_iff`: what is read from digits is what those digits spell.
-/

namespace AuthApp

/-- `char::to_digit(16)`, of a byte that is read as a `char`. -/
def toDigit16 (b : UInt8) : Option Nat :=
  let n := b.toNat
  if 48 ≤ n ∧ n ≤ 57 then some (n - 48)
  else if 97 ≤ n ∧ n ≤ 102 then some (n - 87)
  else if 65 ≤ n ∧ n ≤ 70 then some (n - 55)
  else none

/-- The bytes that pairs of digits stand for. -/
def hexBytes : List UInt8 → Option (List UInt8)
  | [] => some []
  | hi :: lo :: rest => do
      let hi ← toDigit16 hi
      let lo ← toDigit16 lo
      let rest ← hexBytes rest
      return .ofNat (hi * 16 + lo) :: rest
  | [_] => none

/-! ### What is spelled -/

/-- A digit, as `{:x}` writes it. -/
def hexDigit (d : Nat) : UInt8 := .ofNat (if d < 10 then 48 + d else 87 + d)

/-- `{:02x}` of each byte. -/
def hexEncode (bytes : List UInt8) : List UInt8 :=
  bytes.flatMap fun b => [hexDigit (b.toNat / 16), hexDigit (b.toNat % 16)]

/-- `u8::to_ascii_lowercase`. -/
def lowerByte (b : UInt8) : UInt8 :=
  if 65 ≤ b.toNat ∧ b.toNat ≤ 90 then .ofNat (b.toNat + 32) else b

theorem toNat_hexDigit {d : Nat} (h : d < 16) :
    (hexDigit d).toNat = if d < 10 then 48 + d else 87 + d := by
  rw [hexDigit, UInt8.toNat_ofNat']
  split <;> omega

theorem toNat_lowerByte (b : UInt8) :
    (lowerByte b).toNat = if 65 ≤ b.toNat ∧ b.toNat ≤ 90 then b.toNat + 32 else b.toNat := by
  rw [lowerByte]
  split
  · rw [UInt8.toNat_ofNat']; omega
  · rfl

/-- The three ranges that digits are read from. -/
theorem toDigit16_cases {b : UInt8} {d : Nat} :
    toDigit16 b = some d ↔
      d < 10 ∧ b.toNat = 48 + d ∨
        10 ≤ d ∧ d < 16 ∧ (b.toNat = 87 + d ∨ b.toNat = 55 + d) := by
  rw [toDigit16]
  by_cases hdigit : 48 ≤ b.toNat ∧ b.toNat ≤ 57
  · rw [if_pos hdigit, Option.some.injEq]
    omega
  rw [if_neg hdigit]
  by_cases hlower : 97 ≤ b.toNat ∧ b.toNat ≤ 102
  · rw [if_pos hlower, Option.some.injEq]
    omega
  rw [if_neg hlower]
  by_cases hupper : 65 ≤ b.toNat ∧ b.toNat ≤ 70
  · rw [if_pos hupper, Option.some.injEq]
    omega
  · rw [if_neg hupper]
    simp only [reduceCtorEq, false_iff]
    omega

theorem toDigit16_eq_some_iff {b : UInt8} {d : Nat} :
    toDigit16 b = some d ↔ d < 16 ∧ lowerByte b = hexDigit d := by
  rw [toDigit16_cases]
  constructor
  · intro h
    have hd : d < 16 := by omega
    refine ⟨hd, UInt8.toNat_inj.mp ?_⟩
    rw [toNat_lowerByte, toNat_hexDigit hd]
    split <;> split <;> omega
  · rintro ⟨hd, h⟩
    have hn : (lowerByte b).toNat = (hexDigit d).toNat := congrArg UInt8.toNat h
    rw [toNat_lowerByte, toNat_hexDigit hd] at hn
    split at hn <;> split at hn <;> omega

/-- Digits are read as what they spell, in either case. -/
theorem hexBytes_eq_some_iff {digits bytes : List UInt8} :
    hexBytes digits = some bytes ↔ digits.map lowerByte = hexEncode bytes := by
  induction digits using hexBytes.induct generalizing bytes with
  | case1 => cases bytes <;> simp [hexBytes, hexEncode]
  | case2 hi lo rest ih =>
      simp only [hexBytes, Option.bind_eq_bind, Option.bind_eq_some_iff, Option.pure_def,
        Option.some.injEq, List.map_cons]
      constructor
      · rintro ⟨h, hh, l, hl, tail, ht, rfl⟩
        obtain ⟨h16, hhi⟩ := toDigit16_eq_some_iff.mp hh
        obtain ⟨l16, hlo⟩ := toDigit16_eq_some_iff.mp hl
        have hb : (UInt8.ofNat (h * 16 + l)).toNat = h * 16 + l := by
          rw [UInt8.toNat_ofNat']; omega
        rw [hexEncode, List.flatMap_cons, hb, show (h * 16 + l) / 16 = h by omega,
          show (h * 16 + l) % 16 = l by omega, hhi, hlo, ih.mp ht]
        rfl
      · intro h
        cases bytes with
        | nil => cases h
        | cons b tail =>
            have hb : b.toNat < 256 := b.toNat_lt
            rw [hexEncode, List.flatMap_cons] at h
            obtain ⟨hhi, h⟩ := List.cons.inj h
            obtain ⟨hlo, h⟩ := List.cons.inj h
            refine ⟨b.toNat / 16, toDigit16_eq_some_iff.mpr ⟨by omega, hhi⟩, b.toNat % 16,
              toDigit16_eq_some_iff.mpr ⟨by omega, hlo⟩, tail, ih.mpr h, ?_⟩
            rw [show b.toNat / 16 * 16 + b.toNat % 16 = b.toNat by omega, UInt8.ofNat_toNat]
  | case3 b =>
      cases bytes with
      | nil => simp [hexBytes, hexEncode]
      | cons c tail => simp [hexBytes, hexEncode]

end AuthApp
