import Palette.Binary.Decimal
import Palette.Proofs.Color.Grammar

/-!
# The texts of numerals

`Decimal.ofText?` accepts exactly the numbers of the grammar, with the digits of all
scripts (`isSome_ofText?_iff`).  The reader goes through a text from the front and takes as
many digits as it can, so each step needs to know that what follows does not begin with a
digit, or with a sign.
-/

namespace Palette.Grammar

open Palette.Text

/-! ## Signs and runs of digits -/

/-- A sign is taken off a text whose rest never begins with one. -/
theorem mem_sign_mul_iff {language : Language Char}
    (hlanguage : ∀ rest, '+' :: rest ∉ language ∧ '-' :: rest ∉ language) (text : List Char) :
    text ∈ sign * language ↔ (Decimal.takeSign text).2 ∈ language := by
  constructor
  · intro htext
    obtain ⟨front, hfront, rest, hrest, rfl⟩ := Language.mem_mul.1 htext
    rcases hfront with rfl | rfl | rfl
    · -- without a sign the text is the rest, which begins with none
      rw [List.nil_append]
      unfold Decimal.takeSign
      split
      · exact absurd hrest (hlanguage _).1
      · exact absurd hrest (hlanguage _).2
      · exact hrest
    · exact hrest
    · exact hrest
  · intro htext
    unfold Decimal.takeSign at htext
    split at htext
    · exact Language.append_mem_mul (a := ['+']) (Or.inr (Or.inl rfl)) htext
    · exact Language.append_mem_mul (a := ['-']) (Or.inr (Or.inr rfl)) htext
    · exact Language.append_mem_mul (a := []) (Or.inl rfl) htext

/-- Characters of a class in front of another one are what is taken while they last. -/
theorem span_append {isOf : Char → Bool} {front rest : List Char} (hfront : front.all isOf = true)
    (hrest : ∀ character ∈ rest.head?, isOf character = false) :
    (front ++ rest).takeWhile isOf = front ∧ (front ++ rest).dropWhile isOf = rest := by
  have hall := List.all_eq_true.1 hfront
  rw [List.takeWhile_append_of_pos hall, List.dropWhile_append_of_pos hall]
  cases rest with
  | nil => exact ⟨List.append_nil front, rfl⟩
  | cons character rest =>
      have hstop : ¬ isOf character = true := by simp [hrest character rfl]
      rw [List.takeWhile_cons_of_neg hstop, List.dropWhile_cons_of_neg hstop]
      exact ⟨List.append_nil front, rfl⟩

theorem sign_notMem_row (rest : List Char) : '+' :: rest ∉ row isDigit ∧ '-' :: rest ∉ row isDigit := by
  constructor
  all_goals
    rintro ⟨-, hall⟩
    rw [List.all_cons, Bool.and_eq_true] at hall
    exact absurd hall.1 (by decide)

/-! ## Exponents -/

theorem mem_exponent_iff (text : List Char) :
    text ∈ exponent isDigit ↔ text = [] ∨ ∃ letter rest, text = letter :: rest ∧
      (letter = 'e' ∨ letter = 'E') ∧ (Decimal.takeSign rest).2 ∈ row isDigit := by
  unfold exponent
  rw [mem_optional, mul_assoc]
  refine or_congr Iff.rfl ⟨?_, ?_⟩
  · intro htext
    obtain ⟨letter, hletter, rest, hrest, rfl⟩ := Language.mem_mul.1 htext
    rw [mem_sign_mul_iff sign_notMem_row] at hrest
    rcases hletter with rfl | rfl
    · exact ⟨'e', rest, rfl, Or.inl rfl, hrest⟩
    · exact ⟨'E', rest, rfl, Or.inr rfl, hrest⟩
  · rintro ⟨letter, rest, rfl, hletter, hrest⟩
    rw [← mem_sign_mul_iff sign_notMem_row] at hrest
    refine Language.append_mem_mul (a := [letter]) ?_ hrest
    rcases hletter with rfl | rfl
    · exact Or.inl rfl
    · exact Or.inr rfl

theorem isSome_readExponent?_cons (letter : Char) (rest : List Char) :
    (Decimal.readExponent? (letter :: rest)).isSome = true ↔
      (letter = 'e' ∨ letter = 'E') ∧ (Decimal.takeSign rest).2 ∈ row isDigit := by
  unfold Decimal.readExponent?
  by_cases hletter : letter = 'e' ∨ letter = 'E'
  · by_cases hdigits : (Decimal.takeSign rest).2 ≠ [] ∧ (Decimal.takeSign rest).2.all isDigit
    · simp only [if_pos hletter, if_pos hdigits]
      exact iff_of_true rfl ⟨hletter, hdigits⟩
    · simp only [if_pos hletter, if_neg hdigits]
      exact iff_of_false Bool.false_ne_true fun hboth => hdigits hboth.2
  · simp only [if_neg hletter]
    exact iff_of_false Bool.false_ne_true fun hboth => hletter hboth.1

theorem isSome_readExponent?_iff (text : List Char) :
    (Decimal.readExponent? text).isSome = true ↔ text ∈ exponent isDigit := by
  rw [mem_exponent_iff]
  cases text with
  | nil => exact iff_of_true rfl (Or.inl rfl)
  | cons letter rest =>
      rw [isSome_readExponent?_cons]
      constructor
      · intro hboth
        exact Or.inr ⟨letter, rest, rfl, hboth⟩
      · rintro (hnil | ⟨_, _, heq, hboth⟩)
        · cases hnil
        · cases heq
          exact hboth

/-- What an exponent begins with is no digit and no point. -/
theorem isDigit_of_mem_exponent {text : List Char} (htext : text ∈ exponent isDigit) :
    ∀ character ∈ text.head?, isDigit character = false ∧ character ≠ '.' := by
  rcases (mem_exponent_iff text).1 htext with rfl | ⟨letter, rest, rfl, rfl | rfl, -⟩
  · rintro character ⟨⟩
  · rintro character ⟨⟩
    decide
  · rintro character ⟨⟩
    decide

/-! ## Numbers without a sign -/

/-- Digits in front of something else than a digit or a point. -/
theorem isSome_readMagnitude?_plain (negative : Bool) {whole rest : List Char}
    (hwhole : whole.all isDigit = true)
    (hrest : ∀ character ∈ rest.head?, isDigit character = false ∧ character ≠ '.') :
    (Decimal.readMagnitude? negative (whole ++ rest)).isSome = true ↔
      whole ≠ [] ∧ (Decimal.readExponent? rest).isSome = true := by
  obtain ⟨htake, hdrop⟩ := span_append hwhole fun character hcharacter =>
    (hrest character hcharacter).1
  unfold Decimal.readMagnitude?
  simp only [htake, hdrop]
  split
  · exact absurd rfl (hrest '.' rfl).2
  · split
    · rename_i hnone
      exact iff_of_false Bool.false_ne_true fun hboth => hboth.1 hnone
    · rename_i hsome
      rw [Option.isSome_map, and_iff_right hsome]

/-- Digits around a point, in front of something else than a digit. -/
theorem isSome_readMagnitude?_point (negative : Bool) {whole fraction rest : List Char}
    (hwhole : whole.all isDigit = true) (hfraction : fraction.all isDigit = true)
    (hrest : ∀ character ∈ rest.head?, isDigit character = false) :
    (Decimal.readMagnitude? negative (whole ++ '.' :: (fraction ++ rest))).isSome = true ↔
      ¬ (whole = [] ∧ fraction = []) ∧ (Decimal.readExponent? rest).isSome = true := by
  have hpoint : ∀ character ∈ ('.' :: (fraction ++ rest)).head?, isDigit character = false := by
    rintro character ⟨⟩
    decide
  obtain ⟨htake, hdrop⟩ := span_append hwhole hpoint
  obtain ⟨htakeFraction, hdropFraction⟩ := span_append hfraction hrest
  unfold Decimal.readMagnitude?
  simp only [htake, hdrop, htakeFraction, hdropFraction]
  split
  · rename_i hnone
    exact iff_of_false Bool.false_ne_true fun hboth => hboth.1 hnone
  · rename_i hsome
    rw [Option.isSome_map, and_iff_right hsome]

/-- A text cut behind the characters of a class that it begins with. -/
theorem exists_span (isOf : Char → Bool) (text : List Char) :
    ∃ front rest : List Char, text = front ++ rest ∧ front.all isOf = true ∧
      ∀ character ∈ rest.head?, isOf character = false := by
  refine ⟨text.takeWhile isOf, text.dropWhile isOf, List.takeWhile_append_dropWhile.symm,
    List.all_takeWhile, ?_⟩
  intro character hcharacter
  have hstop := List.head?_dropWhile_not isOf text
  rw [Option.mem_def.1 hcharacter] at hstop
  exact hstop

/-- The two kinds of mantissas: digits alone, and digits around a point. -/
theorem mem_mantissa_iff (text : List Char) :
    text ∈ mantissa isDigit ↔ text ∈ row isDigit ∨ ∃ whole fraction : List Char,
      text = whole ++ '.' :: fraction ∧ whole.all isDigit = true ∧ fraction.all isDigit = true ∧
        ¬ (whole = [] ∧ fraction = []) := by
  constructor
  · rintro (hwhole | hpoint)
    · obtain ⟨whole, hrow, rest, hrest, rfl⟩ := Language.mem_mul.1 hwhole
      rcases hrest with rfl | hrest
      · rw [List.append_nil]
        exact Or.inl hrow
      · obtain ⟨point, rfl, fraction, hfraction, rfl⟩ := Language.mem_mul.1 hrest
        exact Or.inr ⟨whole, fraction, rfl, hrow.2, hfraction, fun hnone => hrow.1 hnone.1⟩
    · obtain ⟨point, rfl, fraction, hfraction, rfl⟩ := Language.mem_mul.1 hpoint
      exact Or.inr ⟨[], fraction, rfl, rfl, hfraction.2, fun hnone => hfraction.1 hnone.2⟩
  · rintro (hrow | ⟨whole, fraction, rfl, hwhole, hfraction, hsome⟩)
    · have hnone : [] ∈ optional (mark '.' * run isDigit) := Or.inl rfl
      have hmem := Language.append_mem_mul hrow hnone
      rw [List.append_nil] at hmem
      exact Or.inl hmem
    · have hpoint : '.' :: fraction ∈ mark '.' * run isDigit :=
        Language.append_mem_mul (a := ['.']) rfl hfraction
      by_cases hnone : whole = []
      · subst hnone
        refine Or.inr (Language.append_mem_mul (a := ['.']) rfl ⟨?_, hfraction⟩)
        exact fun hempty => hsome ⟨rfl, hempty⟩
      · exact Or.inl (Language.append_mem_mul ⟨hnone, hwhole⟩ (Or.inr hpoint))

theorem isSome_readMagnitude?_iff (negative : Bool) (text : List Char) :
    (Decimal.readMagnitude? negative text).isSome = true ↔
      text ∈ mantissa isDigit * exponent isDigit := by
  constructor
  · intro hread
    obtain ⟨whole, rest, rfl, hwhole, hrest⟩ := exists_span isDigit text
    by_cases hpoint : rest.head? = some '.'
    · obtain ⟨behind, rfl⟩ : ∃ behind, rest = '.' :: behind :=
        ⟨rest.tail, (List.cons_head?_tail hpoint).symm⟩
      obtain ⟨fraction, rest, rfl, hfraction, hstop⟩ := exists_span isDigit behind
      rw [isSome_readMagnitude?_point negative hwhole hfraction hstop,
        isSome_readExponent?_iff] at hread
      rw [← List.cons_append, ← List.append_assoc]
      exact Language.append_mem_mul
        ((mem_mantissa_iff _).2 (Or.inr ⟨whole, fraction, rfl, hwhole, hfraction, hread.1⟩)) hread.2
    · have hstop : ∀ character ∈ rest.head?, isDigit character = false ∧ character ≠ '.' := by
        intro character hcharacter
        refine ⟨hrest character hcharacter, ?_⟩
        rintro rfl
        exact hpoint hcharacter
      rw [isSome_readMagnitude?_plain negative hwhole hstop, isSome_readExponent?_iff] at hread
      exact Language.append_mem_mul ((mem_mantissa_iff _).2 (Or.inl ⟨hread.1, hwhole⟩)) hread.2
  · intro htext
    obtain ⟨front, hfront, rest, hrest, rfl⟩ := Language.mem_mul.1 htext
    have hread := (isSome_readExponent?_iff rest).2 hrest
    have hstop := isDigit_of_mem_exponent hrest
    rcases (mem_mantissa_iff front).1 hfront with hrow | ⟨whole, fraction, rfl, hwhole, hfraction, hsome⟩
    · exact (isSome_readMagnitude?_plain negative hrow.2 hstop).2 ⟨hrow.1, hread⟩
    · rw [List.append_assoc, List.cons_append]
      exact (isSome_readMagnitude?_point negative hwhole hfraction fun character hcharacter =>
        (hstop character hcharacter).1).2 ⟨hsome, hread⟩

/-! ## Numbers -/

/-- A number behind its sign begins with a digit or a point. -/
theorem sign_notMem_magnitude (rest : List Char) :
    '+' :: rest ∉ mantissa isDigit * exponent isDigit ∧
      '-' :: rest ∉ mantissa isDigit * exponent isDigit := by
  have hnone {letter : Char} (hdigit : isDigit letter = false) (hpoint : letter ≠ '.') :
      letter :: rest ∉ mantissa isDigit * exponent isDigit := by
    intro htext
    have hstop : ∀ character ∈ (letter :: rest).head?,
        isDigit character = false ∧ character ≠ '.' := by
      rintro character ⟨⟩
      exact ⟨hdigit, hpoint⟩
    have hread := (isSome_readMagnitude?_iff false (letter :: rest)).2 htext
    have hempty : ([] : List Char).all isDigit = true := rfl
    exact ((isSome_readMagnitude?_plain false hempty hstop).1 hread).1 rfl
  exact ⟨hnone (by decide) (by decide), hnone (by decide) (by decide)⟩

/-- Exactly the numbers of the grammar are read as numerals. -/
theorem isSome_ofText?_iff (text : List Char) :
    (Decimal.ofText? text).isSome = true ↔ text ∈ number isDigit := by
  unfold number
  rw [mem_sign_mul_iff sign_notMem_magnitude, ← isSome_readMagnitude?_iff]
  rfl

end Palette.Grammar
