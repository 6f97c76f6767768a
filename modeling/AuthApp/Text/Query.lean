import AuthApp.Text.Percent
import AuthApp.Text.Separated
import Mathlib.Data.List.TakeWhile

/-!
# Text — query strings

Pairs of names and values, written one after another: `&` between the pairs, `=` between a name and
its value, and every other byte that could be taken for one of these escaped.

* `parse_serialize`: the pairs that are written are read back.
* `parse_requote`: they are read back from a text that was escaped once more on its way.
-/

namespace Query
open AuthApp Percent

/-- Where a plus sign stands, a space is meant. -/
def plusToSpace (b : UInt8) : UInt8 := if b = 43 then 32 else b

theorem map_plusToSpace {bs : List UInt8} (h : 43 ∉ bs) : bs.map plusToSpace = bs := by
  have hid : bs.map plusToSpace = bs.map id := by
    refine List.map_congr_left fun b hb => if_neg ?_
    rintro rfl
    exact h hb
  rw [hid, List.map_id]

/-- A name or a value, as it is read. -/
def component (bs : List UInt8) : List UInt8 := decode (bs.map plusToSpace)

/-- A pair: what is before the first equals sign, and what is after it. -/
def field (bs : List UInt8) : List UInt8 × List UInt8 :=
  (component (bs.takeWhile (· ≠ 61)), component ((bs.dropWhile (· ≠ 61)).drop 1))

theorem field_name {name : List UInt8} (h : 61 ∉ name) :
    field name = (component name, component []) := by
  have hname : ∀ b ∈ name, decide (b ≠ 61) = true :=
    fun b hb => decide_eq_true fun heq => h (heq ▸ hb)
  rw [field, List.takeWhile_eq_self_iff.mpr hname, List.dropWhile_eq_nil_iff.mpr hname]
  rfl

theorem field_pair {name : List UInt8} (h : 61 ∉ name) (value : List UInt8) :
    field (name ++ 61 :: value) = (component name, component value) := by
  have hname : ∀ b ∈ name, decide (b ≠ 61) = true :=
    fun b hb => decide_eq_true fun heq => h (heq ▸ hb)
  rw [field, List.takeWhile_append_of_pos hname, List.dropWhile_append_of_pos hname]
  simp

/-- The pairs of a query string; nothing between two separators is no pair. -/
def parse (bs : List UInt8) : List (List UInt8 × List UInt8) :=
  ((bs.splitOn 38).filter fun part => part ≠ []).map field

def serializePair (keeps : UInt8 → Bool) (pair : List UInt8 × List UInt8) : List UInt8 :=
  encode keeps pair.1 ++ 61 :: encode keeps pair.2

def serialize (keeps : UInt8 → Bool) (pairs : List (List UInt8 × List UInt8)) : List UInt8 :=
  [38].intercalate (pairs.map (serializePair keeps))

/-- What is written of a name or a value: percent signs, separators and plus signs are not kept. -/
structure Escapes (keeps : UInt8 → Bool) : Prop where
  percent : keeps 37 = false
  ampersand : keeps 38 = false
  plus : keeps 43 = false
  equals : keeps 61 = false

section Serialize
variable {keeps : UInt8 → Bool} (h : Escapes keeps)
include h

theorem component_encode (bs : List UInt8) : component (encode keeps bs) = bs := by
  rw [component, map_plusToSpace (not_mem_encode h.plus (by decide) rfl bs),
    decode_encode h.percent]

theorem field_serializePair (pair : List UInt8 × List UInt8) :
    field (serializePair keeps pair) = pair := by
  rw [serializePair, field_pair (not_mem_encode h.equals (by decide) rfl pair.1),
    component_encode h, component_encode h]

omit h in
/-- What stands in a pair that is written. -/
theorem not_mem_serializePair {c : UInt8} (hkeeps : keeps c = false) (h37 : c ≠ 37) (h61 : c ≠ 61)
    (hdigit : toDigit16 c = none) (pair : List UInt8 × List UInt8) :
    c ∉ serializePair keeps pair := by
  rw [serializePair, List.mem_append, List.mem_cons]
  rintro (hc | hc | hc)
  · exact not_mem_encode hkeeps h37 hdigit _ hc
  · exact h61 hc
  · exact not_mem_encode hkeeps h37 hdigit _ hc

/-- **Round trip.** The pairs that are written are read back. -/
theorem parse_serialize (pairs : List (List UInt8 × List UInt8)) :
    parse (serialize keeps pairs) = pairs := by
  cases pairs with
  | nil => rfl
  | cons pair pairs =>
      have hsplit : (serialize keeps (pair :: pairs)).splitOn 38 =
          (pair :: pairs).map (serializePair keeps) := by
        refine List.splitOn_intercalate 38 (fun part hpart => ?_) (List.cons_ne_nil _ _)
        obtain ⟨pair, -, rfl⟩ := List.mem_map.mp hpart
        exact not_mem_serializePair h.ampersand (by decide) (by decide) rfl pair
      have hne : ∀ part ∈ (pair :: pairs).map (serializePair keeps), decide (part ≠ []) = true := by
        intro part hpart
        obtain ⟨pair, -, rfl⟩ := List.mem_map.mp hpart
        simp [serializePair]
      rw [parse, hsplit, List.filter_eq_self.mpr hne, List.map_map]
      exact (List.map_congr_left fun pair _ => field_serializePair h pair).trans (List.map_id _)

end Serialize

/-! ### A text that is escaped once more -/

/-- What is written of a text that is escaped already: percent signs, digits and separators are
kept. -/
structure Requotes (keeps : UInt8 → Bool) : Prop where
  percent : keeps 37 = true
  ampersand : keeps 38 = true
  equals : keeps 61 = true
  digits : ∀ b, toDigit16 b ≠ none → keeps b = true

theorem encode_append (keeps : UInt8 → Bool) (s t : List UInt8) :
    encode keeps (s ++ t) = encode keeps s ++ encode keeps t := List.flatMap_append

/-- Parts are written one by one, where what stands between them is kept. -/
theorem encode_intercalate {keeps : UInt8 → Bool} {c : UInt8} (hc : keeps c = true)
    (parts : List (List UInt8)) :
    encode keeps ([c].intercalate parts) = [c].intercalate (parts.map (encode keeps)) := by
  induction parts with
  | nil => rfl
  | cons part parts ih =>
      cases parts with
      | nil => simp [List.intercalate]
      | cons part' parts =>
          have hsep : encode keeps [c] = [c] := by
            rw [encode_cons, encodeByte_of_keeps hc]
            rfl
          rw [List.intercalate_cons_cons, encode_append, encode_append, ih, hsep]
          exact List.intercalate_cons_cons.symm

/-- Cutting at a separator that is kept. -/
theorem splitOn_encode {keeps : UInt8 → Bool} {c : UInt8} (hc : keeps c = true) (h37 : c ≠ 37)
    (hdigit : toDigit16 c = none) (bs : List UInt8) :
    (encode keeps bs).splitOn c = (bs.splitOn c).map (encode keeps) := by
  have hparts := encode_intercalate hc (bs.splitOn c)
  rw [List.intercalate_splitOn] at hparts
  rw [hparts]
  refine List.splitOn_intercalate c (fun part hpart => ?_) ?_
  · obtain ⟨part, hfield, rfl⟩ := List.mem_map.mp hpart
    exact fun hmem => Separated.not_mem_of_mem_splitOn hfield (mem_of_mem_encode h37 hdigit hmem)
  · simp [List.splitOn_ne_nil]

section Requote
variable {keeps : UInt8 → Bool} (h : Requotes keeps)
include h

/-- A name or a value in which no plus sign stands. -/
theorem component_encode_requote {bs : List UInt8} (hplus : 43 ∉ bs) :
    component (encode keeps bs) = component bs := by
  have hplus' : 43 ∉ encode keeps bs :=
    fun hmem => hplus (mem_of_mem_encode (by decide) rfl hmem)
  rw [component, component, map_plusToSpace hplus, map_plusToSpace hplus',
    decode_requote h.percent h.digits]

theorem field_encode {bs : List UInt8} (hplus : 43 ∉ bs) : field (encode keeps bs) = field bs := by
  have hequals {s : List UInt8} (hs : 61 ∉ s) : 61 ∉ encode keeps s :=
    fun hmem => hs (mem_of_mem_encode (by decide) rfl hmem)
  by_cases hmem : 61 ∈ bs
  · obtain ⟨name, value, rfl, hname⟩ := List.eq_append_cons_of_mem hmem
    rw [List.mem_append, List.mem_cons, not_or, not_or] at hplus
    rw [encode_append, encode_cons, encodeByte_of_keeps h.equals, List.singleton_append,
      field_pair (hequals hname), field_pair hname, component_encode_requote h hplus.1,
      component_encode_requote h hplus.2.2]
  · rw [field_name (hequals hmem), field_name hmem, component_encode_requote h hplus]

/-- **Once more.** The pairs are read back from a text that was escaped once more, where no plus
sign stands in it. -/
theorem parse_requote {bs : List UInt8} (hplus : 43 ∉ bs) : parse (encode keeps bs) = parse bs := by
  have hnil (part : List UInt8) : encode keeps part = [] ↔ part = [] := by
    cases part with
    | nil => exact Iff.rfl
    | cons b part =>
        obtain ⟨c, tail, hcons, -⟩ := encode_cons_eq keeps b part
        simp [hcons]
  have hfilter : (fun part => decide (part ≠ [])) ∘ encode keeps =
      fun part => decide (part ≠ []) := by
    funext part
    simp [hnil part]
  rw [parse, parse, splitOn_encode h.ampersand (by decide) rfl, List.filter_map, hfilter,
    List.map_map]
  refine List.map_congr_left fun part hpart => field_encode h fun hmem => hplus ?_
  exact Separated.mem_of_mem_splitOn (List.mem_filter.mp hpart).1 hmem

end Requote

end Query
