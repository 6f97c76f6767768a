import AuthApp.Sessions.Service
import Mathlib.Data.List.Forall2

/-!
# Sessions — the CSRF check

A mutating request echoes the CSRF token of its session in a header, and the two are compared
without stopping at the first byte that differs.

* `CsrfToken.verify_iff`: the comparison accepts the token itself, and nothing else.
-/

namespace AuthApp.Sessions

/-- `str::as_bytes`. -/
def asBytes (s : String) : List UInt8 := s.toUTF8.data.toList

theorem asBytes_injective : Function.Injective asBytes := fun _ _ h =>
  String.toByteArray_inj.mp (ByteArray.ext (Array.toList_inj.mp h))

/-- What the bytes of two strings differ in, gathered over all of them. -/
def byteDiff : List (UInt8 × UInt8) → UInt8 → UInt8
  | [], diff => diff
  | (a, b) :: rest, diff => byteDiff rest (diff ||| (a ^^^ b))

theorem byteDiff_eq_zero_iff {pairs : List (UInt8 × UInt8)} {diff : UInt8} :
    byteDiff pairs diff = 0 ↔ diff = 0 ∧ ∀ p ∈ pairs, p.1 = p.2 := by
  induction pairs generalizing diff with
  | nil => simp [byteDiff]
  | cons p rest ih =>
      obtain ⟨a, b⟩ := p
      rw [byteDiff, ih, UInt8.or_eq_zero_iff, UInt8.xor_eq_zero_iff, List.forall_mem_cons,
        and_assoc]

/-- Compare with a candidate, byte by byte to the end. -/
def CsrfToken.verify (token : CsrfToken) (candidate : String) : Bool :=
  let expected := asBytes token.raw
  let given := asBytes candidate
  if expected.length ≠ given.length then false else byteDiff (expected.zip given) 0 == 0

theorem CsrfToken.verify_iff {token : CsrfToken} {candidate : String} :
    token.verify candidate = true ↔ candidate = token.raw := by
  -- the two byte lists agree when they are as long as each other and agree pairwise
  have heq : asBytes token.raw = asBytes candidate ↔
      (asBytes token.raw).length = (asBytes candidate).length ∧
        ∀ p ∈ (asBytes token.raw).zip (asBytes candidate), p.1 = p.2 := by
    rw [← List.forall₂_eq_eq_eq, List.forall₂_iff_zip]
    simp only [Prod.forall]
  rw [verify, eq_comm (a := candidate), ← asBytes_injective.eq_iff, heq]
  by_cases hlen : (asBytes token.raw).length = (asBytes candidate).length
  · rw [if_neg (not_not.mpr hlen), beq_iff_eq, byteDiff_eq_zero_iff]
    simp [hlen]
  · rw [if_pos hlen]
    simp [hlen]

/-- Check the header of a mutating request. -/
def SessionService.verifyCsrf (session : AuthenticatedSession) (headerValue : Option String) :
    Except SessionError Unit :=
  match headerValue with
  | some candidate => if session.csrfToken.verify candidate then .ok () else .error .csrfMismatch
  | none => .error .csrfMismatch

theorem SessionService.verifyCsrf_ok_iff {session : AuthenticatedSession}
    {headerValue : Option String} :
    verifyCsrf session headerValue = .ok () ↔ headerValue = some session.csrfToken.raw := by
  cases headerValue with
  | none => simp [verifyCsrf]
  | some candidate =>
      rw [verifyCsrf, Option.some.injEq, ← CsrfToken.verify_iff]
      cases session.csrfToken.verify candidate <;> simp

end AuthApp.Sessions
