import Mathlib.Data.List.DropRight

/-!
# Domain — text

`normalize` is what every lookup key of the domain goes through: surrounding white space is
trimmed and ASCII letters are lowered.

* `normalize_normalize`: normalizing twice is normalizing once.
* `NormalName.of?_name`: a normalized name is read back from its own text.
-/

namespace AuthApp

/-- The Unicode property `White_Space`. -/
def isWhitespace (c : Char) : Bool :=
  let n := c.toNat
  decide (9 ≤ n ∧ n ≤ 13) || n == 0x20 || n == 0x85 || n == 0xA0 || n == 0x1680 ||
    decide (0x2000 ≤ n ∧ n ≤ 0x200A) || n == 0x2028 || n == 0x2029 || n == 0x202F ||
    n == 0x205F || n == 0x3000

/-- `str::trim`. -/
def trim (s : List Char) : List Char := (s.dropWhile isWhitespace).rdropWhile isWhitespace

/-- `str::to_ascii_lowercase`. -/
def toAsciiLowercase (s : List Char) : List Char := s.map Char.toLower

/-- Trimmed and lowered. -/
def normalize (raw : String) : String := .ofList (toAsciiLowercase (trim raw.toList))

/-! ### ASCII letters, by code point -/

theorem isUpper_iff {c : Char} : c.isUpper ↔ 65 ≤ c.toNat ∧ c.toNat ≤ 90 := by
  have h : c.isUpper ↔ c.val ≥ 65 ∧ c.val ≤ 90 := decide_eq_true_iff
  rw [h]
  exact and_congr UInt32.le_iff_toNat_le UInt32.le_iff_toNat_le

theorem isLower_iff {c : Char} : c.isLower ↔ 97 ≤ c.toNat ∧ c.toNat ≤ 122 := by
  have h : c.isLower ↔ decide (c.val ≥ 97) ∧ decide (c.val ≤ 122) := Bool.and_eq_true_iff
  rw [h, decide_eq_true_iff, decide_eq_true_iff]
  exact and_congr UInt32.le_iff_toNat_le UInt32.le_iff_toNat_le

theorem isAlpha_iff {c : Char} : c.isAlpha ↔ c.isUpper ∨ c.isLower := Bool.or_eq_true_iff

theorem toNat_toLower (c : Char) :
    c.toLower.toNat = if 65 ≤ c.toNat ∧ c.toNat ≤ 90 then c.toNat + 32 else c.toNat := by
  by_cases h : 65 ≤ c.toNat ∧ c.toNat ≤ 90
  · have h' : c.val ≥ 'A'.val ∧ c.val ≤ 'Z'.val :=
      ⟨UInt32.le_iff_toNat_le.mpr h.1, UInt32.le_iff_toNat_le.mpr h.2⟩
    have hc : c.toLower = ⟨c.val + ('a'.val - 'A'.val), _⟩ := dif_pos h'
    have hadd : (c.val + ('a'.val - 'A'.val)).toNat = (c.toNat + 32) % 2 ^ 32 :=
      UInt32.toNat_add _ _
    rw [if_pos h, hc]
    exact hadd.trans (Nat.mod_eq_of_lt (by omega))
  · have h' : ¬ (c.val ≥ 'A'.val ∧ c.val ≤ 'Z'.val) := fun hc =>
      h ⟨UInt32.le_iff_toNat_le.mp hc.1, UInt32.le_iff_toNat_le.mp hc.2⟩
    have hc : c.toLower = c := dif_neg h'
    rw [if_neg h, hc]

theorem toNat_toUpper (c : Char) :
    c.toUpper.toNat = if 97 ≤ c.toNat ∧ c.toNat ≤ 122 then c.toNat - 32 else c.toNat := by
  by_cases h : 97 ≤ c.toNat ∧ c.toNat ≤ 122
  · have h' : 'a'.val ≤ c.val ∧ c.val ≤ 'z'.val :=
      ⟨UInt32.le_iff_toNat_le.mpr h.1, UInt32.le_iff_toNat_le.mpr h.2⟩
    have hc : c.toUpper = ⟨c.val + ('A'.val - 'a'.val), _⟩ := dif_pos h'
    -- the offset wraps around
    have hadd : (c.val + ('A'.val - 'a'.val)).toNat = (c.toNat + (2 ^ 32 - 32)) % 2 ^ 32 :=
      UInt32.toNat_add _ _
    rw [if_pos h, hc]
    exact hadd.trans (by omega)
  · have h' : ¬ ('a'.val ≤ c.val ∧ c.val ≤ 'z'.val) := fun hc =>
      h ⟨UInt32.le_iff_toNat_le.mp hc.1, UInt32.le_iff_toNat_le.mp hc.2⟩
    have hc : c.toUpper = c := dif_neg h'
    rw [if_neg h, hc]

theorem isUpper_toUpper {c : Char} (h : c.isAlpha) : c.toUpper.isUpper := by
  rw [isUpper_iff, toNat_toUpper]
  rcases isAlpha_iff.mp h with h | h
  · have hu := isUpper_iff.mp h
    rw [if_neg (by omega)]
    exact hu
  · have hl := isLower_iff.mp h
    rw [if_pos hl]
    omega

/-! ### Normalizing twice -/

theorem toLower_toLower (c : Char) : c.toLower.toLower = c.toLower := by
  refine Char.toNat_inj.mp ?_
  simp only [toNat_toLower]
  split
  · rw [if_neg (by omega)]
  · rfl

/-- An ASCII letter is no white space, in either case. -/
theorem isWhitespace_toLower (c : Char) : isWhitespace c.toLower = isWhitespace c := by
  simp only [isWhitespace, toNat_toLower]
  split
  · grind
  · rfl

theorem trim_toAsciiLowercase (s : List Char) :
    trim (toAsciiLowercase s) = toAsciiLowercase (trim s) := by
  have hp : isWhitespace ∘ Char.toLower = isWhitespace := funext isWhitespace_toLower
  simp only [trim, toAsciiLowercase, List.rdropWhile, List.dropWhile_map, ← List.map_reverse, hp]

theorem trim_trim (s : List Char) : trim (trim s) = trim s := by
  have hfront : (trim s).dropWhile isWhitespace = trim s := by
    refine List.dropWhile_eq_self_iff.mpr fun hl => ?_
    -- what is left starts as the text without its leading white space does
    have hpre : trim s <+: s.dropWhile isWhitespace := List.rdropWhile_prefix isWhitespace _
    rw [hpre.getElem hl]
    exact List.dropWhile_eq_self_iff.mp (List.dropWhile_idempotent _ _) (hl.trans_le hpre.length_le)
  rw [trim, hfront]
  exact List.rdropWhile_idempotent isWhitespace _

theorem normalize_normalize (raw : String) : normalize (normalize raw) = normalize raw := by
  rw [normalize, normalize, String.toList_ofList, trim_toAsciiLowercase, trim_trim,
    toAsciiLowercase, toAsciiLowercase, List.map_map]
  congr 1
  exact List.map_congr_left fun c _ => toLower_toLower c

/-! ### Normalized names -/

/-- A nonempty normalized text that names something. -/
structure NormalName where
  name : String
  normal : normalize name = name
  nonempty : name ≠ ""
  deriving DecidableEq

/-- The name a text spells, if it spells one. -/
def NormalName.of? (raw : String) : Option NormalName :=
  if h : normalize raw = "" then none
  else some ⟨normalize raw, normalize_normalize raw, h⟩

theorem NormalName.of?_name (n : NormalName) : of? n.name = some n := by
  obtain ⟨name, normal, nonempty⟩ := n
  simp only [of?, normal, nonempty, dite_false]

end AuthApp
