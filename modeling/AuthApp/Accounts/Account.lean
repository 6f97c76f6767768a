import AuthApp.Domain.Text
import AuthApp.Domain.Time

/-!
# Accounts — the account model

Emails, roles, password hashes and lockout counters: the values of the `admin_users` row an
administrator logs in to, and the policy that locks it.

An `Email` or a `Role` is normalized when it is built, so two of them are equal exactly when they
name the same account or role.
-/

namespace AuthApp.Accounts

/-! ### Emails -/

inductive EmailError where
  | empty
  | missingAt
  | malformed
  deriving DecidableEq, Repr

def EmailError.display : EmailError → String
  | .empty => "email must not be empty"
  | .missingAt => "email must contain '@'"
  | .malformed => "email is malformed"

/-- The text before and after the first `c`. -/
def splitOnce (c : Char) (s : List Char) : Option (List Char × List Char) :=
  match s.dropWhile (· ≠ c) with
  | [] => none
  | _ :: rest => some (s.takeWhile (· ≠ c), rest)

/-- What keeps a normalized text from being an email. -/
def Email.check (normalized : List Char) : Option EmailError :=
  if normalized = [] then some .empty
  else
    match splitOnce '@' normalized with
    | none => some .missingAt
    | some (localPart, domain) =>
        let domainOk := '.' ∈ domain ∧ domain.head? ≠ some '.' ∧ domain.getLast? ≠ some '.'
        if localPart = [] ∨ '@' ∈ domain ∨ ¬ domainOk then some .malformed else none

/-- A normalized email address. -/
@[ext] structure Email where
  address : String
  normal : normalize address = address
  valid : Email.check address.toList = none

instance : DecidableEq Email := fun _ _ => decidable_of_iff _ Email.ext_iff.symm

def Email.parse (raw : String) : Except EmailError Email :=
  match h : Email.check (normalize raw).toList with
  | some e => .error e
  | none => .ok ⟨normalize raw, normalize_normalize raw, h⟩

/-- An email survives its trip through a TEXT column. -/
theorem Email.parse_address (e : Email) : Email.parse e.address = .ok e := by
  obtain ⟨address, normal, valid⟩ := e
  rw [parse]
  split
  · next err h =>
      rw [normal, valid] at h
      cases h
  · simp only [normal]

/-! ### Roles -/

inductive RoleError where
  | empty
  deriving DecidableEq, Repr

def RoleError.display : RoleError → String
  | .empty => "role must not be empty"

/-- A role, held as a normalized text so that a new role is a data change. -/
structure Role extends NormalName
  deriving DecidableEq

def Role.parse (raw : String) : Except RoleError Role :=
  match NormalName.of? raw with
  | none => .error .empty
  | some name => .ok ⟨name⟩

/-- A role survives its trip through a TEXT column. -/
theorem Role.parse_name (r : Role) : Role.parse r.name = .ok r := by
  rw [parse, NormalName.of?_name]

/-- The role of the first administrator. -/
def Role.admin : Role := ⟨"admin", by decide, by decide⟩

/-! ### Accounts -/

structure AdminId where
  raw : String
  deriving DecidableEq, Repr

structure PasswordHash where
  encoded : String
  deriving DecidableEq, Repr

/-- The lockout counters of an account or of a client address. -/
structure LockoutState where
  failedAttempts : Nat
  lockedUntil : Option Int
  deriving DecidableEq, Repr

def LockoutState.clear : LockoutState := ⟨0, none⟩

structure AdminAccount where
  id : AdminId
  email : Email
  passwordHash : PasswordHash
  lockout : LockoutState
  role : Role
  displayName : Option String
  deriving DecidableEq

inductive RepositoryError where
  | emailTaken
  | backend (msg : String)
  deriving DecidableEq, Repr

def RepositoryError.display : RepositoryError → String
  | .emailTaken => "an admin with that email already exists"
  | .backend msg => "repository backend error: " ++ msg

/-- A failure to hash or to verify a password, which is not a mismatch. -/
structure PasswordHashError where
  msg : String
  deriving DecidableEq, Repr

def PasswordHashError.display (e : PasswordHashError) : String :=
  "password hashing failed: " ++ e.msg

/-- The `PasswordHasher` port.  Its reference hash is one it can evaluate. -/
structure PasswordHasher where
  verify : String → PasswordHash → Except PasswordHashError Bool
  referenceHash : PasswordHash
  reference_valid : ∀ plaintext, ∃ b, verify plaintext referenceHash = .ok b

/-- Passwords stored in the clear. -/
def plainHasher : PasswordHasher where
  verify plaintext hash := .ok (plaintext == hash.encoded)
  referenceHash := ⟨""⟩
  reference_valid := fun _ => ⟨_, rfl⟩

end AuthApp.Accounts
