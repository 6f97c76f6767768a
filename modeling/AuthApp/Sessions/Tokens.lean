import AuthApp.Domain.Hex
import AuthApp.Sessions.System

/-!
# Sessions — the tokens

`SecureRandomTokens` spells the bytes that the operating system's generator fills a buffer with.
Buffers that differ are spelled differently, so a generator that does not repeat itself hands out no
token twice.

* `randomHex_injective`: a buffer is read back from its token.
* `mem_randomHex`: a token is written in lower-case digits.
-/

namespace AuthApp.Sessions
open Interleave

/-- Bytes of entropy of a token. -/
def tokenBytes : Nat := 32

/-- A buffer that the generator has filled. -/
structure Block where
  bytes : List UInt8
  length : bytes.length = tokenBytes
  deriving DecidableEq

/-- `random_hex`: the digits of a buffer. -/
def randomHex (buf : Block) : String :=
  .ofList ((hexEncode buf.bytes).map fun b => Char.ofNat b.toNat)

/-! ### Digits -/

/-- A digit that `{:02x}` writes. -/
def IsLowerHex (b : UInt8) : Prop := 48 ≤ b.toNat ∧ b.toNat ≤ 57 ∨ 97 ≤ b.toNat ∧ b.toNat ≤ 102

theorem isLowerHex_hexDigit {d : Nat} (h : d < 16) : IsLowerHex (hexDigit d) := by
  rw [IsLowerHex, toNat_hexDigit h]
  split <;> omega

theorem isLowerHex_of_mem {bytes : List UInt8} {b : UInt8} (h : b ∈ hexEncode bytes) :
    IsLowerHex b := by
  obtain ⟨byte, -, hb⟩ := List.mem_flatMap.mp h
  have hlt := byte.toNat_lt
  rcases (by simpa using hb) with rfl | rfl
  · exact isLowerHex_hexDigit (by omega)
  · exact isLowerHex_hexDigit (by omega)

theorem IsLowerHex.lowerByte {b : UInt8} (h : IsLowerHex b) : lowerByte b = b := by
  rw [AuthApp.lowerByte, if_neg]
  rintro ⟨hlow, hhigh⟩
  rw [IsLowerHex] at h
  omega

/-- The bytes that were spelled are read back. -/
theorem hexBytes_hexEncode (bytes : List UInt8) : hexBytes (hexEncode bytes) = some bytes := by
  rw [hexBytes_eq_some_iff]
  exact (List.map_congr_left fun b hb => (isLowerHex_of_mem hb).lowerByte).trans (List.map_id _)

theorem hexEncode_injective : Function.Injective hexEncode := by
  intro bytes bytes' h
  have hread := hexBytes_hexEncode bytes
  rw [h, hexBytes_hexEncode bytes'] at hread
  exact (Option.some.inj hread).symm

/-! ### Tokens -/

/-- A byte, as the character of its number. -/
theorem toNat_char (b : UInt8) : (Char.ofNat b.toNat).toNat = b.toNat := by
  have hvalid : b.toNat.isValidChar := .inl (b.toNat_lt.trans (by decide))
  rw [Char.ofNat, dif_pos hvalid]
  rfl

/-- A token is written in digits, and in the letters from `a` to `f`. -/
theorem mem_randomHex {buf : Block} {c : Char} (h : c ∈ (randomHex buf).toList) :
    48 ≤ c.toNat ∧ c.toNat ≤ 57 ∨ 97 ≤ c.toNat ∧ c.toNat ≤ 102 := by
  rw [randomHex, String.toList_ofList] at h
  obtain ⟨b, hb, rfl⟩ := List.mem_map.mp h
  rw [toNat_char]
  exact isLowerHex_of_mem hb

theorem randomHex_ne_empty (buf : Block) : randomHex buf ≠ "" := by
  intro h
  have hnil := congrArg String.toList h
  rw [randomHex, String.toList_ofList] at hnil
  obtain ⟨bytes, hlength⟩ := buf
  cases bytes with
  | nil => cases hlength
  | cons b bytes => simp [hexEncode] at hnil

theorem randomHex_injective : Function.Injective randomHex := by
  intro buf buf' h
  have hchar : Function.Injective fun b : UInt8 => Char.ofNat b.toNat := by
    intro b b' hb
    have hnat := congrArg Char.toNat hb
    rw [toNat_char, toNat_char] at hnat
    exact UInt8.toNat_inj.mp hnat
  have hbytes := hexEncode_injective (hchar.list_map (String.ofList_injective h))
  cases buf
  cases buf'
  cases hbytes
  rfl

/-- `SecureRandomTokens`, where the operating system fills the buffers in turn. -/
def secureRandomTokens (buffers : Nat → Block) : SessionTokenGenerator Nat where
  generateSessionToken n := (⟨randomHex (buffers n)⟩, n + 1)
  generateCsrfToken n := (⟨randomHex (buffers n)⟩, n + 1)

/-- The first `n` buffers are different. -/
def NoRepeat (buffers : Nat → Block) (n : Nat) : Prop :=
  ∀ i j, i < j → j < n → buffers i ≠ buffers j

section Draws
variable {buffers : Nat → Block} {fate : Fate} {db : SessionDb Nat}

/-- No call takes a draw back. -/
theorem entropy_exec (op : SessionOp) :
    db.entropy ≤ (SessionDb.exec (secureRandomTokens buffers) fate op db).2.entropy := by
  rcases Fate.under_state (S := sessionSig) SessionOp.fault
    (SessionDb.serve (secureRandomTokens buffers)) fate op db with heq | heq
  · rw [SessionDb.exec, heq]
  rw [SessionDb.exec, heq]
  cases op with
  | insert session =>
      rw [SessionDb.serve, SessionDb.insert]
      split
      · split
        · split <;> exact Nat.le_refl _
        · exact Nat.le_refl _
      · exact Nat.le_refl _
  | touch token lastSeenAt =>
      rw [SessionDb.serve, SessionDb.touch]
      split
      · exact Nat.le_refl _
      · split <;> exact Nat.le_refl _
  | generateSessionToken => exact Nat.le_succ _
  | generateCsrfToken => exact Nat.le_succ _
  | _ => exact Nat.le_refl _

/-- A session token is spelled from the next buffer. -/
theorem exec_session {token : SessionToken} {db' : SessionDb Nat}
    (h : SessionDb.exec (secureRandomTokens buffers) fate .generateSessionToken db = (token, db')) :
    token.raw = randomHex (buffers db.entropy) ∧ db'.entropy = db.entropy + 1 := by
  cases fate <;> cases h <;> exact ⟨rfl, rfl⟩

theorem exec_csrf {token : CsrfToken} {db' : SessionDb Nat}
    (h : SessionDb.exec (secureRandomTokens buffers) fate .generateCsrfToken db = (token, db')) :
    token.raw = randomHex (buffers db.entropy) := by
  cases fate <;> cases h <;> rfl

end Draws

end AuthApp.Sessions
