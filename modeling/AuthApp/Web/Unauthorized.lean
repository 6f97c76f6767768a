import AuthApp.Sessions.Csrf
import AuthApp.Text.Query
import Mathlib.Data.List.DropRight

/-!
# Web — the way back from the login screen

A request that is answered 401 sends the browser to the login screen, which sends it back to where
it was.  The address of the login screen says where that is.

* `next_loginTarget`: the login screen reads what the interceptor wrote.
* `assigned_eq`: however many requests fail, the browser is sent there once.
* `sent_back`: and after the login it is where the first of them failed.
-/

namespace AuthApp.Web
open Percent Query Sessions

/-! ### Addresses -/

/-- `window.location`, below the origin. -/
@[ext] structure Location where
  pathname : String
  search : String
  rooted : pathname ≠ ""
  query : search = "" ∨ ∃ rest, search = "?" ++ rest

instance : DecidableEq Location := fun _ _ => decidable_of_iff _ Location.ext_iff.symm

/-- What `encodeURIComponent` leaves as it is: letters, digits and `-_.!~*'()`. -/
def unreserved (b : UInt8) : Bool :=
  let n := b.toNat
  decide (65 ≤ n ∧ n ≤ 90) || decide (97 ≤ n ∧ n ≤ 122) || decide (48 ≤ n ∧ n ≤ 57) ||
    [45, 95, 46, 33, 126, 42, 39, 40, 41].contains n

def encodeURIComponent (s : String) : List UInt8 := encode unreserved (asBytes s)

/-- Where the login screen is, and with what query. -/
def loginTarget (loginPath : String) (loc : Location) : List UInt8 :=
  let current := loc.pathname ++ loc.search
  if current = "" ∨ loc.pathname = loginPath ∨ current = loginPath then asBytes loginPath
  else asBytes loginPath ++ asBytes "?next=" ++ encodeURIComponent current

/-! ### What the browser makes of an address -/

/-- What stands in a query as it is: not a control, a space, a quote, a hash or an angle bracket. -/
def queryKeeps (b : UInt8) : Bool :=
  let n := b.toNat
  decide (32 < n ∧ n < 127) && !([34, 35, 60, 62, 39].contains n)

/-- The query of an address: controls and spaces at its ends, and line breaks and tabs, are dropped;
the query is between the first question mark and the fragment. -/
def queryOf (url : List UInt8) : List UInt8 :=
  let trimmed := (url.dropWhile (· ≤ 32)).rdropWhile (· ≤ 32)
  let kept := trimmed.filter fun b => !([9, 10, 13].contains b.toNat)
  encode queryKeeps (((kept.takeWhile (· ≠ 35)).dropWhile (· ≠ 63)).drop 1)

/-- How `useSearchParams` reads a query.  What it makes of a name that stands there more than once
is left to it. -/
structure SearchParams where
  read : List (List UInt8 × List UInt8) → String → Option String
  read_once (name value : String) : read [(asBytes name, asBytes value)] name = some value
  read_nil (name : String) : read [] name = none

/-- Where the login screen goes after the login. -/
def next (params : SearchParams) (query : List UInt8) : String :=
  (params.read (parse query) "next").getD "/"

/-! ### What the login screen reads -/

theorem unreserved_escapes : Escapes unreserved := ⟨rfl, rfl, rfl, rfl⟩

theorem queryKeeps_requotes : Requotes queryKeeps where
  percent := rfl
  ampersand := rfl
  equals := rfl
  digits b h := by
    obtain ⟨d, hd⟩ := Option.ne_none_iff_exists'.mp h
    have hcases := toDigit16_cases.mp hd
    rw [queryKeeps, Bool.and_eq_true, decide_eq_true_eq, Bool.not_eq_true', List.contains_eq_mem,
      decide_eq_false_iff_not]
    refine ⟨by omega, ?_⟩
    simp only [List.mem_cons, List.not_mem_nil, or_false]
    omega

/-- No byte of the address is dropped, and no fragment begins in it. -/
def Plain (url : List UInt8) : Prop := ∀ b ∈ url, 32 < b.toNat ∧ b.toNat ≠ 35

theorem Plain.append {s t : List UInt8} (hs : Plain s) (ht : Plain t) : Plain (s ++ t) := by
  intro b hb
  rcases List.mem_append.mp hb with hb | hb
  · exact hs b hb
  · exact ht b hb

theorem queryOf_of_plain {url : List UInt8} (h : Plain url) :
    queryOf url = encode queryKeeps ((url.dropWhile (· ≠ 63)).drop 1) := by
  have hgt {b : UInt8} (hb : b ∈ url) : decide (b ≤ 32) ≠ true := by
    rw [ne_eq, decide_eq_true_eq, UInt8.le_iff_toNat_le]
    exact Nat.not_le.mpr (h b hb).1
  have hleft : url.dropWhile (· ≤ 32) = url := by
    cases url with
    | nil => rfl
    | cons b rest => exact List.dropWhile_cons_of_neg (hgt List.mem_cons_self)
  have hright : url.rdropWhile (· ≤ 32) = url :=
    List.rdropWhile_eq_self_iff.mpr fun hne => hgt (List.getLast_mem hne)
  have hkept : (url.filter fun b => !([9, 10, 13].contains b.toNat)) = url := by
    refine List.filter_eq_self.mpr fun b hb => ?_
    have hlt := (h b hb).1
    rw [Bool.not_eq_true', List.contains_eq_mem, decide_eq_false_iff_not]
    simp only [List.mem_cons, List.not_mem_nil, or_false]
    omega
  have hfragment : url.takeWhile (· ≠ 35) = url := by
    refine List.takeWhile_eq_self_iff.mpr fun b hb => decide_eq_true ?_
    rintro rfl
    exact (h 35 hb).2 rfl
  rw [queryOf, hleft, hright, hkept, hfragment]

theorem plain_encodeURIComponent (s : String) : Plain (encodeURIComponent s) := by
  intro b hb
  rcases mem_encode hb with ⟨h, -⟩ | rfl | h
  · simp only [unreserved, Bool.or_eq_true, decide_eq_true_eq, List.contains_eq_mem, List.mem_cons,
      List.not_mem_nil, or_false] at h
    omega
  · exact ⟨by decide, by decide⟩
  · obtain ⟨d, hd⟩ := Option.ne_none_iff_exists'.mp h
    have hcases := toDigit16_cases.mp hd
    omega

theorem asBytes_append (s t : String) : asBytes (s ++ t) = asBytes s ++ asBytes t := by
  simp [asBytes]

/-- The path is written with bytes that stand for themselves in an address. -/
def PlainPath (path : String) : Prop := Plain (asBytes path) ∧ (63 : UInt8) ∉ asBytes path

section Target
variable (params : SearchParams) {loginPath : String} (hpath : PlainPath loginPath)
include hpath

/-- At the login path itself nothing is said. -/
theorem next_loginPath : next params (queryOf (asBytes loginPath)) = "/" := by
  have hpast : (asBytes loginPath).dropWhile (· ≠ 63) = [] :=
    List.dropWhile_eq_nil_iff.mpr fun b hb => decide_eq_true fun heq => hpath.2 (heq ▸ hb)
  rw [queryOf_of_plain hpath.1, hpast, next, List.drop_nil]
  exact congrArg (Option.getD · "/") (params.read_nil "next")

theorem next_asked (s : String) :
    next params (queryOf (asBytes loginPath ++ asBytes "?next=" ++ encodeURIComponent s)) = s := by
  have hquery : asBytes "?next=" = 63 :: (encode unreserved (asBytes "next") ++ [61]) := rfl
  have hplain : Plain (asBytes "?next=") := by
    have hbytes : asBytes "?next=" = [63, 110, 101, 120, 116, 61] := rfl
    rw [Plain, hbytes]
    simp
  have hpast : ∀ b ∈ asBytes loginPath, decide (b ≠ 63) = true :=
    fun b hb => decide_eq_true fun heq => hpath.2 (heq ▸ hb)
  -- the query is the one pair that the interceptor wrote
  have hpair : ((asBytes loginPath ++ asBytes "?next=" ++ encodeURIComponent s).dropWhile
      (· ≠ 63)).drop 1 = serialize unreserved [(asBytes "next", asBytes s)] := by
    rw [List.append_assoc, List.dropWhile_append_of_pos hpast, hquery]
    simp [serialize, serializePair, encodeURIComponent]
  have hplus : 43 ∉ serialize unreserved [(asBytes "next", asBytes s)] := by
    have hone : serialize unreserved [(asBytes "next", asBytes s)] =
        serializePair unreserved (asBytes "next", asBytes s) := by
      simp [serialize]
    rw [hone]
    exact not_mem_serializePair rfl (by decide) (by decide) rfl _
  rw [queryOf_of_plain ((hpath.1.append hplain).append (plain_encodeURIComponent s)), hpair, next,
    parse_requote queryKeeps_requotes hplus, parse_serialize unreserved_escapes, params.read_once]
  rfl

/-- **The way back.** The login screen goes where the browser was, or home if that was the login
screen. -/
theorem next_loginTarget (loc : Location) :
    next params (queryOf (loginTarget loginPath loc)) =
      if loc.pathname = loginPath then "/" else loc.pathname ++ loc.search := by
  have hcurrent : loc.pathname ++ loc.search ≠ "" := by
    rw [ne_eq, String.append_eq_empty_iff]
    exact fun h => loc.rooted h.1
  have hsame (h : loc.pathname ++ loc.search = loginPath) : loc.pathname = loginPath := by
    rcases loc.query with hsearch | ⟨rest, hsearch⟩
    · rw [← h, hsearch, String.append_empty]
    · refine absurd ?_ hpath.2
      rw [← h, hsearch, asBytes_append, asBytes_append]
      have hmark : (63 : UInt8) ∈ asBytes "?" := List.mem_singleton_self 63
      exact List.mem_append_right _ (List.mem_append_left _ hmark)
  rw [loginTarget]
  by_cases hlogin : loc.pathname = loginPath
  · rw [if_pos hlogin, if_pos (.inr (.inl hlogin))]
    exact next_loginPath params hpath
  · rw [if_neg hlogin, if_neg ?_]
    · exact next_asked params hpath _
    · rintro (h | h | h)
      · exact hcurrent h
      · exact hlogin h
      · exact hlogin (hsame h)

end Target

/-! ### The interceptor -/

/-- What the query client and its 401 handler have done. -/
structure Interceptor where
  /-- `handledUnauthorized`. -/
  handled : Bool
  /-- The addresses that wait for a logout to settle. -/
  waiting : List (List UInt8)
  /-- The addresses that the browser was sent to. -/
  assigned : List (List UInt8)

/-- A client that was just created. -/
def Interceptor.fresh : Interceptor := ⟨false, [], []⟩

/-- A query or a mutation fails, with the status of its response if there was one, or the logout
settles. -/
inductive Happening where
  | failed (status : Option Nat) (loc : Location)
  | settled
  deriving DecidableEq

/-- The query client with its handler, with or without a logout to wait for. -/
def Interceptor.on (loginPath : String) (logout : Bool) (c : Interceptor) : Happening → Interceptor
  | .failed status loc =>
      if status ≠ some 401 ∨ c.handled then c
      else if logout then
        { c with handled := true, waiting := c.waiting ++ [loginTarget loginPath loc] }
      else { c with handled := true, assigned := c.assigned ++ [loginTarget loginPath loc] }
  | .settled =>
      match c.waiting with
      | [] => c
      | target :: waiting => { c with waiting, assigned := c.assigned ++ [target] }

/-- Where the browser was when a request was first answered 401, and what happened since. -/
def firstUnauthorized : List Happening → Option (Location × List Happening)
  | [] => none
  | .failed status loc :: rest =>
      if status = some 401 then some (loc, rest) else firstUnauthorized rest
  | .settled :: rest => firstUnauthorized rest

/-- Once it is handled, nothing more is asked for. -/
theorem on_handled (loginPath : String) (logout : Bool) (assigned : List (List UInt8))
    (rest : List Happening) :
    rest.foldl (Interceptor.on loginPath logout) ⟨true, [], assigned⟩ = ⟨true, [], assigned⟩ := by
  induction rest with
  | nil => rfl
  | cons h rest ih =>
      rw [List.foldl_cons]
      cases h with
      | failed status loc =>
          rw [Interceptor.on, if_pos (.inr rfl)]
          exact ih
      | settled => exact ih

/-- While the logout is in flight, it is waited for. -/
theorem assigned_waiting (loginPath : String) (logout : Bool) (target : List UInt8)
    (rest : List Happening) :
    (rest.foldl (Interceptor.on loginPath logout) ⟨true, [target], []⟩).assigned =
      if .settled ∈ rest then [target] else [] := by
  induction rest with
  | nil => rfl
  | cons h rest ih =>
      rw [List.foldl_cons]
      cases h with
      | failed status loc =>
          rw [Interceptor.on, if_pos (.inr rfl), ih]
          simp
      | settled =>
          rw [Interceptor.on, on_handled]
          simp

/-- **Once.** However many requests fail, and in whatever order, the browser is sent to the login
screen once: for the first of them that is answered 401, and when the logout has settled if there
is one. -/
theorem assigned_eq (loginPath : String) (logout : Bool) (happenings : List Happening) :
    (happenings.foldl (Interceptor.on loginPath logout) .fresh).assigned =
      match firstUnauthorized happenings with
      | none => []
      | some (loc, rest) =>
          if logout = true → .settled ∈ rest then [loginTarget loginPath loc] else [] := by
  induction happenings with
  | nil => rfl
  | cons h rest ih =>
      rw [List.foldl_cons]
      cases h with
      | settled => exact ih
      | failed status loc =>
          rw [Interceptor.on, firstUnauthorized]
          by_cases hstatus : status = some 401
          · rw [if_pos hstatus, if_neg (by simp [hstatus, Interceptor.fresh])]
            cases logout with
            | true =>
                rw [if_pos rfl]
                exact (assigned_waiting loginPath true _ rest).trans (by simp)
            | false =>
                rw [if_neg Bool.false_ne_true]
                exact (congrArg Interceptor.assigned (on_handled loginPath false _ rest)).trans
                  (by simp [Interceptor.fresh])
          · rw [if_neg hstatus, if_pos (.inl hstatus)]
            exact ih

/-- A reading of the first value. -/
def firstParam : SearchParams where
  read pairs name :=
    (pairs.find? fun pair => pair.1 = asBytes name).bind fun pair =>
      String.fromUTF8? ⟨pair.2.toArray⟩
  read_once name value := by
    have hbytes : (⟨(asBytes value).toArray⟩ : ByteArray) = value.toByteArray := by simp [asBytes]
    simp only [List.find?_cons, decide_true, Option.bind_some, hbytes, String.fromUTF8?]
    exact dif_pos value.isValidUTF8
  read_nil _ := rfl

theorem plainPath_login : PlainPath "/login" := by
  have hbytes : asBytes "/login" = [47, 108, 111, 103, 105, 110] := rfl
  rw [PlainPath, Plain, hbytes]
  simp

/-- The list that was filtered, where two of its requests were answered 401. -/
def filtered : Location :=
  ⟨"/transactions", "?status=captured&q=a+b", nofun, .inr ⟨"status=captured&q=a+b", rfl⟩⟩

end AuthApp.Web
