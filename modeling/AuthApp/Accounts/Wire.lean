import Mathlib.Algebra.Order.Ring.Int

/-!
# Accounts — what comes over the wire

The answers of an HTTP transport, and the JSON in their bodies.  A JSON text is read into a tree
first; what a derived `Deserialize` makes of a tree is up to each type.
-/

namespace AuthApp.Accounts

/-! ### JSON -/

/-- A JSON value.  An `int` is a number written without a fraction or an exponent, `-0` apart. -/
inductive Json where
  | null
  | bool (b : Bool)
  | int (n : Int)
  | float (text : String)
  | string (s : String)
  | array (items : List Json)
  | object (fields : List (String × Json))

namespace Json

def string? : Json → Option String
  | .string s => some s
  | _ => none

/-- An `i64`. -/
def i64? : Json → Option Int
  | .int n => if -2 ^ 63 ≤ n ∧ n < 2 ^ 63 then some n else none
  | _ => none

/-- A value of an optional field that is given. -/
def optional {α : Type} (decode : Json → Option α) : Json → Option (Option α)
  | .null => some none
  | j => (decode j).map some

/-- The value of a field, if it is given; a field that is given twice is an error. -/
def field? (name : String) (fields : List (String × Json)) : Option (Option Json) :=
  match fields.filter fun f => f.1 = name with
  | [] => some none
  | [f] => some (some f.2)
  | _ => none

end Json

/-! ### HTTP -/

structure HttpResponse where
  status : Nat
  body : String
  deriving DecidableEq, Repr

def HttpResponse.isSuccess (r : HttpResponse) : Bool := decide (200 ≤ r.status ∧ r.status < 300)

structure HttpError where
  msg : String
  deriving DecidableEq, Repr

def HttpError.display (e : HttpError) : String := "http transport error: " ++ e.msg

end AuthApp.Accounts
