import Palette.Text.Blank
import Palette.Text.DecimalDigit
import Palette.Text.HexDigit
import Palette.Text.WordCharacter

/-!
# Classes of characters

How the classes that readers go by lie to each other: digits and word characters of every
script are no blanks, and lower-case letters come from letters alone, by a change that leaves
all other characters as they are.
-/

namespace Palette.Text

variable {character : Char}

/-! ## Letter case -/

theorem isUpper_iff : character.isUpper = true ↔
    character.val ≥ 'A'.val ∧ character.val ≤ 'Z'.val :=
  decide_eq_true_iff

theorem isLower_iff : character.isLower = true ↔
    character.val ≥ 'a'.val ∧ character.val ≤ 'z'.val := by
  change (decide _ && decide _) = true ↔ _
  rw [Bool.and_eq_true, decide_eq_true_iff, decide_eq_true_iff]

theorem isAlpha_eq (character : Char) :
    character.isAlpha = (character.isUpper || character.isLower) := rfl

theorem toLower_of_not_isUpper (hupper : character.isUpper = false) :
    character.toLower = character := by
  unfold Char.toLower
  split
  · rename_i hrange
    rw [isUpper_iff.2 hrange] at hupper
    cases hupper
  · rfl

theorem toLower_of_not_isAlpha (halpha : character.isAlpha = false) :
    character.toLower = character := by
  rw [isAlpha_eq, Bool.or_eq_false_iff] at halpha
  exact toLower_of_not_isUpper halpha.1

theorem isLower_toLower (halpha : character.isAlpha = true) :
    character.toLower.isLower = true := by
  unfold Char.toLower
  split
  · rename_i hupper
    have hlow : 65 ≤ character.val.toNat := UInt32.le_iff_toNat_le.1 hupper.1
    have hhigh : character.val.toNat ≤ 90 := UInt32.le_iff_toNat_le.1 hupper.2
    have ha : 'a'.val.toNat = 97 := rfl
    have hA : 'A'.val.toNat = 65 := rfl
    have hz : 'z'.val.toNat = 122 := rfl
    rw [isLower_iff]
    simp only [ge_iff_le, UInt32.le_iff_toNat_le, UInt32.toNat_add, UInt32.toNat_sub]
    omega
  · rename_i hupper
    rw [isAlpha_eq, Bool.or_eq_true, isUpper_iff] at halpha
    exact halpha.resolve_left hupper

/-- Only letters become lower-case letters. -/
theorem isAlpha_of_isLower_toLower (hlower : character.toLower.isLower = true) :
    character.isAlpha = true := by
  cases halpha : character.isAlpha with
  | true => rfl
  | false =>
      rw [toLower_of_not_isAlpha halpha] at hlower
      rw [isAlpha_eq, hlower, Bool.or_true] at halpha
      cases halpha

/-- Only the character itself becomes one that is no lower-case letter. -/
theorem eq_of_toLower_eq {other : Char} (hother : other.isLower = false)
    (hlower : character.toLower = other) : character = other := by
  cases halpha : character.isAlpha with
  | true =>
      rw [← hlower, isLower_toLower halpha] at hother
      cases hother
  | false => rw [← hlower, toLower_of_not_isAlpha halpha]

/-! ## Ranges -/

theorem isUpper_codes : character.isUpper = true ↔
    65 ≤ character.toNat ∧ character.toNat ≤ 90 := by
  have hends : 'A'.val.toNat = 65 ∧ 'Z'.val.toNat = 90 := ⟨rfl, rfl⟩
  have hval : character.val.toNat = character.toNat := rfl
  rw [isUpper_iff]
  simp only [ge_iff_le, UInt32.le_iff_toNat_le]
  omega

theorem isLower_codes : character.isLower = true ↔
    97 ≤ character.toNat ∧ character.toNat ≤ 122 := by
  have hends : 'a'.val.toNat = 97 ∧ 'z'.val.toNat = 122 := ⟨rfl, rfl⟩
  have hval : character.val.toNat = character.toNat := rfl
  rw [isLower_iff]
  simp only [ge_iff_le, UInt32.le_iff_toNat_le]
  omega

theorem isAlpha_codes : character.isAlpha = true ↔
    (65 ≤ character.toNat ∧ character.toNat ≤ 90) ∨
      (97 ≤ character.toNat ∧ character.toNat ≤ 122) := by
  rw [isAlpha_eq, Bool.or_eq_true, isUpper_codes, isLower_codes]

theorem isAlpha_bounds (halpha : character.isAlpha = true) :
    65 ≤ character.toNat ∧ character.toNat ≤ 122 := by
  rw [isAlpha_codes] at halpha
  omega

theorem isDigit_bounds (hdigit : character.isDigit = true) :
    48 ≤ character.toNat ∧ character.toNat ≤ 57 := by
  have hrange : '0'.val.toNat = 48 ∧ '9'.val.toNat = 57 := ⟨rfl, rfl⟩
  have hval : character.val.toNat = character.toNat := rfl
  simp only [Char.isDigit, Bool.and_eq_true, decide_eq_true_eq, ge_iff_le,
    UInt32.le_iff_toNat_le] at hdigit
  omega

/-- Every digit lies in one of the ranges. -/
theorem exists_range_of_isDigit (hdigit : isDigit character = true) :
    ∃ range ∈ digitRanges, range.1 ≤ character.toNat ∧ character.toNat ≤ range.2 := by
  unfold isDigit digitValue? at hdigit
  split at hdigit
  · rename_i hrange
    exact ⟨(0x30, 0x39), by decide, hrange.1, hrange.2⟩
  · split at hdigit
    · cases hdigit
    · rw [Option.isSome_map, List.find?_isSome] at hdigit
      obtain ⟨range, hmem, hbounds⟩ := hdigit
      rw [Bool.and_eq_true, decide_eq_true_eq, decide_eq_true_eq] at hbounds
      exact ⟨range, hmem, hbounds⟩

/-- Among the ASCII characters the digits of all scripts are the usual ones. -/
theorem isDigit_of_ascii (hdigit : character.isDigit = true) : isDigit character = true := by
  have hrange : '0' ≤ character ∧ character ≤ '9' := by
    rw [Char.isDigit, Bool.and_eq_true, decide_eq_true_eq, decide_eq_true_eq] at hdigit
    exact hdigit
  rw [isDigit, digitValue?, if_pos hrange]
  rfl

theorem isDigit_iff_of_lt (hascii : character.toNat < 0x80) :
    isDigit character = true ↔ character.isDigit = true := by
  refine ⟨fun hdigit => ?_, isDigit_of_ascii⟩
  unfold isDigit digitValue? at hdigit
  split at hdigit
  · rename_i hrange
    rw [Char.isDigit, Bool.and_eq_true, decide_eq_true_eq, decide_eq_true_eq]
    exact hrange
  · cases hdigit

theorem isHexDigit_lt (hdigit : isHexDigit character = true) : character.toNat < 0x80 := by
  have hle {high : Char} (hbelow : character ≤ high) : character.toNat ≤ high.toNat := hbelow
  have hhigh : '9'.toNat < 0x80 ∧ 'f'.toNat < 0x80 ∧ 'F'.toNat < 0x80 := by decide
  unfold isHexDigit hexDigit? at hdigit
  split at hdigit
  · rename_i hrange
    exact Nat.lt_of_le_of_lt (hle hrange.2) hhigh.1
  · split at hdigit
    · rename_i hrange
      exact Nat.lt_of_le_of_lt (hle hrange.2) hhigh.2.1
    · split at hdigit
      · rename_i hrange
        exact Nat.lt_of_le_of_lt (hle hrange.2) hhigh.2.2
      · cases hdigit

/-- The code points of the blanks. -/
def blankCodes : List Nat :=
  [0x09, 0x0A, 0x0B, 0x0C, 0x0D, 0x1C, 0x1D, 0x1E, 0x1F, 0x20, 0x85, 0xA0, 0x1680, 0x2000, 0x2001,
    0x2002, 0x2003, 0x2004, 0x2005, 0x2006, 0x2007, 0x2008, 0x2009, 0x200A, 0x2028, 0x2029, 0x202F,
    0x205F, 0x3000]

theorem toNat_mem_blankCodes (hblank : isBlank character = true) :
    character.toNat ∈ blankCodes := by
  simp only [isBlank, Bool.or_eq_true, Bool.and_eq_true, decide_eq_true_eq, beq_iff_eq] at hblank
  simp only [blankCodes, List.mem_cons, List.not_mem_nil, or_false]
  omega

theorem isBlank_of_isAlpha (halpha : character.isAlpha = true) : isBlank character = false := by
  have hbounds := isAlpha_bounds halpha
  rw [← Bool.not_eq_true]
  intro hblank
  have hcode := toNat_mem_blankCodes hblank
  simp only [blankCodes, List.mem_cons, List.not_mem_nil, or_false] at hcode
  omega

theorem isDigit_of_isBlank (hblank : isBlank character = true) : isDigit character = false := by
  have hapart : ∀ code ∈ blankCodes, ∀ range ∈ digitRanges, code < range.1 ∨ range.2 < code := by
    decide
  have hcode := toNat_mem_blankCodes hblank
  rw [← Bool.not_eq_true]
  intro hdigit
  obtain ⟨range, hrange, hlow, hhigh⟩ := exists_range_of_isDigit hdigit
  have := hapart _ hcode range hrange
  omega

theorem isWordCharacter_of_isBlank (hblank : isBlank character = true) :
    isWordCharacter character = false := by
  have hapart : (blankCodes.all fun code => wordRanges.all fun range =>
      code.blt range.1 || range.2.blt code) = true := by
    decide +kernel
  have hascii : ∀ code ∈ blankCodes, code ≠ 95 ∧ ¬ (48 ≤ code ∧ code ≤ 57) := by decide
  have hcode := toNat_mem_blankCodes hblank
  rw [← Bool.not_eq_true]
  intro hword
  unfold isWordCharacter at hword
  split at hword
  · rw [Char.isAlphanum, Bool.or_eq_true, Bool.or_eq_true, beq_iff_eq] at hword
    rcases hword with (halpha | hdigit) | rfl
    · rw [isBlank_of_isAlpha halpha] at hblank
      cases hblank
    · exact (hascii _ hcode).2 (isDigit_bounds hdigit)
    · exact (hascii _ hcode).1 rfl
  · obtain ⟨range, hrange, hlow, hhigh⟩ := Ranges.contains_iff.1 hword
    have hoff := List.all_eq_true.1 (List.all_eq_true.1 hapart _ hcode) range hrange
    simp only [Bool.or_eq_true, Nat.blt_eq] at hoff
    omega

end Palette.Text
