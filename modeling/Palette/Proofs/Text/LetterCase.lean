import Palette.Proofs.Text.CharacterClass
import Palette.Text.LowerCase

/-!
# Letter case

Writing ASCII letters in another case changes neither the lower-case form of a text
(`lower_map_toLower`) nor where its words are (`words_map_toLower`).  So two texts with the
same letters (`SameLetters`) have the same words in lower case (`SameLetters.lower_words_eq`).

The lower-case form of a capital sigma depends on the characters around it.  These count
by whether they are cased alone, and an ASCII letter is cased in either case.
-/

namespace Palette.Text

/-- The texts differ at most in the case of ASCII letters. -/
def SameLetters (text other : List Char) : Prop :=
  text.map Char.toLower = other.map Char.toLower

instance (text other : List Char) : Decidable (SameLetters text other) :=
  inferInstanceAs (Decidable (_ = _))

/-! ## One character -/

/-- A character is its own lower-case form, or both are letters. -/
theorem toLower_eq_or_isAlpha (character : Char) :
    character.toLower = character ∨
      character.isAlpha = true ∧ character.toLower.isAlpha = true := by
  cases halpha : character.isAlpha with
  | true =>
      have hlower := isLower_toLower halpha
      exact Or.inr ⟨rfl, by rw [isAlpha_eq, hlower, Bool.or_true]⟩
  | false => exact Or.inl (toLower_of_not_isAlpha halpha)

theorem toLower_toLower (character : Char) : character.toLower.toLower = character.toLower := by
  cases halpha : character.isAlpha with
  | false => rw [toLower_of_not_isAlpha halpha, toLower_of_not_isAlpha halpha]
  | true =>
      have hlow := isLower_codes.1 (isLower_toLower halpha)
      refine toLower_of_not_isUpper ?_
      rw [← Bool.not_eq_true]
      intro hupper
      have hhigh := isUpper_codes.1 hupper
      omega

/-- What holds of all letters, or of none, does not depend on letter case. -/
theorem apply_toLower {holds : Char → Bool} {answer : Bool}
    (hletters : ∀ letter : Char, letter.isAlpha = true → holds letter = answer)
    (character : Char) : holds character.toLower = holds character := by
  rcases toLower_eq_or_isAlpha character with hsame | ⟨halpha, hlower⟩
  · rw [hsame]
  · rw [hletters _ halpha, hletters _ hlower]

theorem isBlank_toLower (character : Char) : isBlank character.toLower = isBlank character :=
  apply_toLower (fun _ => isBlank_of_isAlpha) character

theorem isCased_of_isAlpha {letter : Char} (halpha : letter.isAlpha = true) :
    casedRanges.contains letter = true := by
  rw [Ranges.contains_iff]
  rcases isAlpha_codes.1 halpha with hupper | hlower
  · exact ⟨(0x41, 0x5A), by decide, hupper⟩
  · exact ⟨(0x61, 0x7A), by decide, hlower⟩

theorem isCaseIgnorable_of_isAlpha {letter : Char} (halpha : letter.isAlpha = true) :
    caseIgnorableRanges.contains letter = false := by
  have hapart : ∀ range ∈ caseIgnorableRanges,
      range.2 < 65 ∨ (90 < range.1 ∧ range.2 < 97) ∨ 122 < range.1 := by
    decide +kernel
  have hcodes := isAlpha_codes.1 halpha
  rw [← Bool.not_eq_true, Ranges.contains_iff]
  rintro ⟨range, hrange, hlow, hhigh⟩
  have := hapart range hrange
  omega

/-! ## Lower case -/

theorem meetsCased_map_toLower (characters : List Char) :
    meetsCased (characters.map Char.toLower) = meetsCased characters := by
  have hignorable : caseIgnorableRanges.contains ∘ Char.toLower = caseIgnorableRanges.contains :=
    funext (apply_toLower fun _ => isCaseIgnorable_of_isAlpha)
  rw [meetsCased, meetsCased, List.dropWhile_map, hignorable]
  cases characters.dropWhile caseIgnorableRanges.contains with
  | nil => rfl
  | cons character rest => exact apply_toLower (fun _ => isCased_of_isAlpha) character

theorem lowerCharacter_toLower (character : Char) :
    lowerCharacter character.toLower = lowerCharacter character := by
  rcases toLower_eq_or_isAlpha character with hsame | ⟨halpha, hlower⟩
  · rw [hsame]
  · have hbounds := isAlpha_bounds halpha
    have hlowerBounds := isAlpha_bounds hlower
    rw [lowerCharacter, lowerCharacter, if_pos (by omega), if_pos (by omega), toLower_toLower]

theorem lowerFrom_map_toLower (before characters : List Char) :
    lowerFrom (before.map Char.toLower) (characters.map Char.toLower) =
      lowerFrom before characters := by
  induction characters generalizing before with
  | nil => rfl
  | cons character rest ih =>
      have hrest := ih (character :: before)
      rw [List.map_cons] at hrest
      rw [List.map_cons, lowerFrom, lowerFrom, hrest, meetsCased_map_toLower,
        meetsCased_map_toLower, lowerCharacter_toLower]
      rcases toLower_eq_or_isAlpha character with hsame | ⟨halpha, hlower⟩
      · rw [hsame]
      · -- neither form is a letter of the two special cases
        have hplain {letter : Char} (hletter : letter.isAlpha = true) :
            letter ≠ '\u03A3' ∧ letter ≠ '\u0130' := by
          constructor <;> rintro rfl <;> exact absurd hletter (by decide)
        rw [if_neg (hplain halpha).1, if_neg (hplain halpha).2, if_neg (hplain hlower).1,
          if_neg (hplain hlower).2]

theorem lower_map_toLower (characters : List Char) :
    lower (characters.map Char.toLower) = lower characters :=
  lowerFrom_map_toLower [] characters

/-! ## Words -/

theorem beginsWord_map_toLower (characters : List Char) :
    beginsWord (characters.map Char.toLower) = beginsWord characters := by
  cases characters with
  | nil => rfl
  | cons character rest => exact congrArg not (isBlank_toLower character)

theorem words_map_toLower (characters : List Char) :
    words (characters.map Char.toLower) = (words characters).map (List.map Char.toLower) := by
  induction characters with
  | nil => rfl
  | cons character rest ih =>
      have hlengthen (list : List (List Char)) :
          lengthenFirst character.toLower (list.map (List.map Char.toLower)) =
            (lengthenFirst character list).map (List.map Char.toLower) := by
        cases list <;> rfl
      rw [List.map_cons, words, words, isBlank_toLower, beginsWord_map_toLower, ih, hlengthen]
      split
      · rfl
      · split <;> rfl

/-- Texts with the same letters have the same words in lower case. -/
theorem SameLetters.lower_words_eq {text other : List Char} (hsame : SameLetters text other) :
    (words text).map lower = (words other).map lower := by
  have hforget (characters : List Char) :
      (words (characters.map Char.toLower)).map lower = (words characters).map lower := by
    rw [words_map_toLower, List.map_map]
    exact List.map_congr_left fun word _ => lower_map_toLower word
  rw [← hforget text, hsame, hforget]

end Palette.Text
