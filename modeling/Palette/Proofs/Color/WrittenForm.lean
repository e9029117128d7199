import Palette.Proofs.Binary.Integer
import Palette.Proofs.Color.Range
import Palette.Proofs.Color.Readable

/-!
# The form in which a color is written

What stands for a color in a stylesheet is to have one of three forms (`HasForm`): three
decimal numbers with two places, three whole numbers, or six hexadecimal digits, each in
its range.

Numbers that are computed from the channels always have them.  A text that is itself
written as hue, saturation and lightness keeps the components it spells, and these leave
the form for two kinds of numerals: a hue that is rounded to an infinity has no remainder
by a full turn, and a saturation or lightness that is rounded to a zero keeps its minus
sign (`IsUnprintable`).  For all other texts the form is kept (`resolve_hasForm_iff`).
-/

namespace Palette.Color

open Binary Palette.Text

/-! ## The forms -/

/-- A decimal number without a sign, with two places, of at most `limit`. -/
def IsDecimal (limit : ℕ) (text : String) : Prop :=
  ∃ whole tenths hundredths : ℕ, tenths < 10 ∧ hundredths < 10 ∧
    100 * whole + 10 * tenths + hundredths ≤ 100 * limit ∧
      text = toString whole ++ "." ++ toString tenths ++ toString hundredths

/-- Hue, saturation and lightness, the last two in percent. -/
def IsHslText (text : String) : Prop :=
  ∃ hue saturation lightness : String, IsDecimal 360 hue ∧ IsDecimal 100 saturation ∧
    IsDecimal 100 lightness ∧ text = hue ++ " " ++ saturation ++ "% " ++ lightness ++ "%"

/-- Red, green and blue as whole numbers. -/
def IsRgbText (text : String) : Prop :=
  ∃ red green blue : ℕ, red ≤ 255 ∧ green ≤ 255 ∧ blue ≤ 255 ∧
    text = toString red ++ ", " ++ toString green ++ ", " ++ toString blue

/-- Six hexadecimal digits in lower case behind a hash. -/
def IsHexText (text : String) : Prop :=
  ∃ digits : List Char, digits.length = 6 ∧ (∀ digit ∈ digits, digit ∈ "0123456789abcdef".toList) ∧
    text = String.ofList ('#' :: digits)

/-- The form that belongs to the name of a format. -/
def HasForm (format text : String) : Prop :=
  if format = "hsl" then IsHslText text
  else if format = "rgb" then IsRgbText text
  else IsHexText text

/-! ## Numerals that leave the form -/

/-- The numerals of hue, saturation and lightness, the last two in percent. -/
structure Hsl.Numerals where
  hue : Decimal
  saturation : Decimal
  lightness : Decimal
  deriving DecidableEq, Repr

/-- The numerals in a text that is written with hue, saturation and lightness. -/
def hslNumerals? (text : String) : Option Hsl.Numerals :=
  match Notation.ofText text with
  | .ok (.function .hsl body) => do
    let arguments ← (Arguments.ofBody text body).toOption
    let hue ← Decimal.ofText? (dropDegrees arguments.first)
    let saturation ← Decimal.ofText? (dropFinalLineFeed arguments.second.dropLast)
    let lightness ← Decimal.ofText? (dropFinalLineFeed arguments.third.dropLast)
    return ⟨hue, saturation, lightness⟩
  | _ => none

/-- A numeral with a minus sign that is rounded to zero. -/
def IsNegativeZero (numeral : Decimal) : Prop :=
  numeral.negative = true ∧ IsTiny numeral.toRat

instance : DecidablePred IsNegativeZero := fun _ => inferInstanceAs (Decidable (_ ∧ _))

/-- A hue without bounds, or a saturation or lightness that is a zero with a minus sign. -/
def Hsl.Numerals.LeaveForm (numerals : Hsl.Numerals) : Prop :=
  IsHuge numerals.hue.toRat ∨ IsNegativeZero numerals.saturation ∨
    IsNegativeZero numerals.lightness

instance : DecidablePred Hsl.Numerals.LeaveForm := fun _ => inferInstanceAs (Decidable (_ ∨ _))

/-- A text that spells hue, saturation and lightness with numerals that leave the form. -/
def IsUnprintable (text : String) : Prop :=
  ∃ numerals ∈ hslNumerals? text, numerals.LeaveForm

instance : DecidablePred IsUnprintable := fun text =>
  inferInstanceAs (Decidable (∃ numerals ∈ hslNumerals? text, numerals.LeaveForm))

/-! ## Printed numbers -/

theorem ofList_hundredthsText (count : ℕ) : String.ofList (hundredthsText count) =
    toString (count / 100) ++ "." ++ toString (count / 10 % 10) ++ toString (count % 10) := by
  simp only [hundredthsText, digitsOf, String.ofList_append, Nat.toString_eq_ofList_toDigits]

/-- A number in range is printed as a decimal number in range. -/
theorem isDecimal_hundredths {number : Binary} {limit : ℕ}
    (hnumber : Between number 0 (limit + margin)) : IsDecimal limit number.hundredths := by
  obtain ⟨value, rfl, hnonneg, -, hhigh⟩ := hnumber
  have hcount : roundHalfEven (value * 100) ≤ (100 * limit : ℕ) := by
    rw [roundHalfEven_le_even_iff (by omega)]
    unfold margin at hhigh
    push_cast
    linarith
  have hsign : 0 ≤ roundHalfEven (value * 100) := roundHalfEven_nonneg (by linarith)
  obtain ⟨count, heq⟩ := Int.eq_ofNat_of_zero_le hsign
  rw [heq] at hcount
  refine ⟨count / 100, count / 10 % 10, count % 10, by omega, by omega, by omega, ?_⟩
  rw [← ofList_hundredthsText]
  simp only [hundredths, if_neg (not_lt.2 hnonneg), heq]
  rfl

/-- Components in range are printed in form. -/
theorem Hsl.InRange.isHslText {hsl : Hsl} (hrange : hsl.InRange) : IsHslText hsl.text :=
  ⟨_, _, _, isDecimal_hundredths hrange.hue, isDecimal_hundredths hrange.saturation,
    isDecimal_hundredths hrange.lightness, rfl⟩

theorem digitChar_mem {value : ℕ} (hvalue : value < 16) :
    Nat.digitChar value ∈ "0123456789abcdef".toList := by
  have hall : ∀ digit : Fin 16, Nat.digitChar digit ∈ "0123456789abcdef".toList := by decide
  exact hall ⟨value, hvalue⟩

theorem hexDigits_mem (channel : Channel) :
    ∀ digit ∈ channel.hexDigits, digit ∈ "0123456789abcdef".toList := by
  have hbound := channel.isLt
  intro digit hdigit
  unfold Channel.hexDigits at hdigit
  simp only [List.mem_cons, List.not_mem_nil, or_false] at hdigit
  rcases hdigit with rfl | rfl
  · exact digitChar_mem (by omega)
  · exact digitChar_mem (by omega)

/-- A color's channels are always written in form. -/
theorem hasForm_encode (color : Color) (format : String) :
    HasForm format (color.encode (.ofName format)) := by
  unfold HasForm Encoding.ofName
  split
  · exact (inRange_toHsl color).isHslText
  · split
    · exact ⟨_, _, _, Nat.le_of_lt_succ color.red.isLt, Nat.le_of_lt_succ color.green.isLt,
        Nat.le_of_lt_succ color.blue.isLt, rfl⟩
    · refine ⟨color.red.hexDigits ++ color.green.hexDigits ++ color.blue.hexDigits, rfl, ?_, rfl⟩
      intro digit hdigit
      rcases List.mem_append.1 hdigit with hfront | hblue
      · rcases List.mem_append.1 hfront with hred | hgreen
        · exact hexDigits_mem _ _ hred
        · exact hexDigits_mem _ _ hgreen
      · exact hexDigits_mem _ _ hblue

/-! ## The characters of a form -/

/-- Whether a character may stand in hue, saturation and lightness. -/
def isHslCharacter (character : Char) : Bool :=
  character.isDigit || character == '.' || character == ' ' || character == '%'

theorem all_isHslCharacter_toString (count : ℕ) :
    (toString count).toList.all isHslCharacter = true := by
  rw [List.all_eq_true]
  intro character hcharacter
  rw [Nat.toString_eq_ofList_toDigits, String.toList_ofList] at hcharacter
  have hdigit : character.isDigit = true :=
    Nat.isDigit_of_mem_toDigits (by decide) (le_refl 10) hcharacter
  simp [isHslCharacter, hdigit]

theorem IsDecimal.all_isHslCharacter {limit : ℕ} {text : String} (htext : IsDecimal limit text) :
    text.toList.all isHslCharacter = true := by
  obtain ⟨whole, tenths, hundredths, -, -, -, rfl⟩ := htext
  simp only [String.toList_append, List.all_append, all_isHslCharacter_toString]
  rfl

theorem IsHslText.all_isHslCharacter {text : String} (htext : IsHslText text) :
    text.toList.all isHslCharacter = true := by
  obtain ⟨hue, saturation, lightness, hhue, hsaturation, hlightness, rfl⟩ := htext
  simp only [String.toList_append, List.all_append, hhue.all_isHslCharacter,
    hsaturation.all_isHslCharacter, hlightness.all_isHslCharacter]
  rfl

/-- In components that are printed in form, no single one has a foreign character. -/
theorem isHslCharacter_of_isHslText {hsl : Hsl} (htext : IsHslText hsl.text) :
    hsl.hue.hundredths.toList.all isHslCharacter = true ∧
      hsl.saturation.hundredths.toList.all isHslCharacter = true ∧
        hsl.lightness.hundredths.toList.all isHslCharacter = true := by
  have hall := htext.all_isHslCharacter
  unfold Hsl.text at hall
  simp only [String.toList_append, List.all_append, Bool.and_eq_true] at hall
  exact ⟨hall.1.1.1.1.1, hall.1.1.1.2, hall.1.2⟩

/-! ## Components that a text spells -/

theorem exists_numeral_of_readHue {token : List Char} {hue : Binary}
    (hhue : readHue token = .ok hue) :
    ∃ numeral, Decimal.ofText? (dropDegrees token) = some numeral ∧
      hue = modulo .double (numeral.toBinary .double) (.finite 360) := by
  unfold readHue at hhue
  split at hhue
  · rename_i numeral hnumeral
    cases hhue
    exact ⟨numeral, hnumeral, rfl⟩
  · cases hhue

theorem exists_numeral_of_readPercentage {token : List Char} {percentage : Binary}
    (hpercentage : readPercentage token = .ok percentage) :
    ∃ numeral, Decimal.ofText? (dropFinalLineFeed token.dropLast) = some numeral ∧
      percentage = clamp (.finite 0) (.finite 100) (numeral.toBinary .double) := by
  unfold readPercentage at hpercentage
  split at hpercentage
  · obtain ⟨number, hnumber, rfl⟩ := map_eq_ok_iff.1 hpercentage
    unfold readNumber at hnumber
    split at hnumber
    · rename_i numeral hnumeral
      cases hnumber
      exact ⟨numeral, hnumeral, rfl⟩
    · cases hnumber
  · cases hpercentage

/-- The components that numerals stand for: the hue within one turn, and the percentages
up to a hundred. -/
def Hsl.ofNumerals (numerals : Hsl.Numerals) : Hsl :=
  ⟨modulo .double (numerals.hue.toBinary .double) (.finite 360),
    clamp (.finite 0) (.finite 100) (numerals.saturation.toBinary .double),
    clamp (.finite 0) (.finite 100) (numerals.lightness.toBinary .double)⟩

/-- The own components of a text are those of its numerals. -/
theorem exists_numerals_of_ownHsl? {text : String} {hsl : Hsl}
    (hown : ownHsl? text = .ok (some hsl)) :
    ∃ numerals, hslNumerals? text = some numerals ∧ hsl = .ofNumerals numerals := by
  unfold ownHsl? at hown
  split at hown
  · rename_i body hform
    obtain ⟨arguments, harguments, hread⟩ := bind_eq_ok_iff.1 hown
    obtain ⟨_, hhsl, hresult⟩ := bind_eq_ok_iff.1 hread
    cases hresult
    obtain ⟨_, hhue, hrest⟩ := bind_eq_ok_iff.1 hhsl
    obtain ⟨_, hsaturation, hrest⟩ := bind_eq_ok_iff.1 hrest
    obtain ⟨_, hlightness, hrest⟩ := bind_eq_ok_iff.1 hrest
    cases hrest
    obtain ⟨hue, hhueText, rfl⟩ := exists_numeral_of_readHue hhue
    obtain ⟨saturation, hsaturationText, rfl⟩ := exists_numeral_of_readPercentage hsaturation
    obtain ⟨lightness, hlightnessText, rfl⟩ := exists_numeral_of_readPercentage hlightness
    refine ⟨⟨hue, saturation, lightness⟩, ?_, rfl⟩
    simp [hslNumerals?, hform, harguments, Except.toOption, hhueText, hsaturationText,
      hlightnessText]
  · cases hown

theorem hslNumerals?_of_ownHsl?_eq_none {text : String} (hown : ownHsl? text = .ok none) :
    hslNumerals? text = none := by
  unfold ownHsl? at hown
  split at hown
  · obtain ⟨arguments, -, hread⟩ := bind_eq_ok_iff.1 hown
    obtain ⟨_, -, hresult⟩ := bind_eq_ok_iff.1 hread
    cases hresult
  · rename_i hform
    unfold hslNumerals?
    split
    · rename_i body hfunction
      exact absurd hfunction (hform body)
    · rfl

/-! ## Numerals in and out of range -/

/-- A number with a value is clamped to one in range. -/
theorem between_clamp_finite (value : ℚ) :
    Between (clamp (.finite 0) (.finite 100) (.finite value)) 0 100 := by
  unfold clamp
  split
  · exact (between_finite (le_refl 0)).mono (le_refl _) (by norm_num)
  · rename_i hlow
    have hnonneg : 0 ≤ value := not_lt.1 (mt (lt_finite_iff value 0).2 hlow)
    split
    · exact (between_finite (by norm_num)).mono (by norm_num) (le_refl _)
    · rename_i hhigh
      have hlimit : value ≤ 100 := not_lt.1 (mt (lt_finite_iff 100 value).2 hhigh)
      exact ⟨value, rfl, hnonneg, hnonneg, hlimit⟩

/-- A percentage is in range unless its numeral is a zero with a minus sign. -/
theorem between_percentage {numeral : Decimal} (hnumeral : ¬ IsNegativeZero numeral) :
    Between (clamp (.finite 0) (.finite 100) (numeral.toBinary .double)) 0 (100 + margin) := by
  refine Between.mono ?_ (le_refl 0) (by unfold margin; norm_num : (100 : ℚ) ≤ 100 + margin)
  by_cases htiny : IsTiny numeral.toRat
  · have hsign : numeral.negative = false := by
      cases hnegative : numeral.negative with
      | false => rfl
      | true => exact absurd ⟨hnegative, htiny⟩ hnumeral
    rw [Decimal.toBinary_of_isTiny htiny, hsign]
    exact between_clamp_finite 0
  · by_cases hhuge : IsHuge numeral.toRat
    · rw [Decimal.toBinary_of_isHuge hhuge]
      cases numeral.negative with
      | false => exact (between_finite (by norm_num)).mono (by norm_num) (le_refl _)
      | true => exact (between_finite (le_refl 0)).mono (le_refl _) (by norm_num)
    · rw [Decimal.toBinary_of_moderate htiny hhuge]
      exact between_clamp_finite _

theorem hundredths_of_isNegativeZero {numeral : Decimal} (hnumeral : IsNegativeZero numeral) :
    (clamp (.finite 0) (.finite 100) (numeral.toBinary .double)).hundredths = "-0.00" := by
  rw [(numeral.toBinary_eq_negativeZero_iff).2 hnumeral]
  rfl

/-- A hue is in range unless its numeral is huge. -/
theorem between_hue_toBinary {numeral : Decimal} (hnumeral : ¬ IsHuge numeral.toRat) :
    Between (modulo .double (numeral.toBinary .double) (.finite 360)) 0 (360 + margin) := by
  have hvalue : (numeral.toBinary .double).value? ≠ none := fun hnone =>
    hnumeral ((numeral.value?_toBinary_eq_none_iff).1 hnone)
  obtain ⟨value, hvalue⟩ := Option.ne_none_iff_exists'.1 hvalue
  refine (between_modulo hvalue (by norm_num) (by norm_num)).mono (le_refl _) ?_
  unfold roundingError margin
  norm_num

theorem hundredths_of_isHuge {numeral : Decimal} (hnumeral : IsHuge numeral.toRat) :
    (modulo .double (numeral.toBinary .double) (.finite 360)).hundredths = "nan" := by
  have hvalue := (numeral.value?_toBinary_eq_none_iff).2 hnumeral
  unfold modulo
  rw [hvalue]
  rfl

/-- Own components are printed in form exactly if none of their numerals leaves it. -/
theorem isHslText_ofNumerals_iff (numerals : Hsl.Numerals) :
    IsHslText (Hsl.ofNumerals numerals).text ↔ ¬ numerals.LeaveForm := by
  constructor
  · intro htext
    obtain ⟨hhue, hsaturation, hlightness⟩ := isHslCharacter_of_isHslText htext
    -- a foreign letter or sign would show in the text
    rintro (hhuge | hzero | hzero)
    · rw [Hsl.ofNumerals, hundredths_of_isHuge hhuge] at hhue
      exact absurd hhue (by decide)
    · rw [Hsl.ofNumerals, hundredths_of_isNegativeZero hzero] at hsaturation
      exact absurd hsaturation (by decide)
    · rw [Hsl.ofNumerals, hundredths_of_isNegativeZero hzero] at hlightness
      exact absurd hlightness (by decide)
  · intro hnone
    obtain ⟨hhue, hrest⟩ := not_or.1 hnone
    obtain ⟨hsaturation, hlightness⟩ := not_or.1 hrest
    have hrange : (Hsl.ofNumerals numerals).InRange :=
      ⟨between_hue_toBinary hhue, between_percentage hsaturation, between_percentage hlightness⟩
    exact hrange.isHslText

/-! ## What a color is written as -/

/-- The text of a color in the format of hue, saturation and lightness. -/
theorem resolve_hsl_eq_ok_iff {text written : String} :
    resolve text .hsl = .ok written ↔
      ∃ color own, ofText text = .ok color ∧ ownHsl? text = .ok own ∧
        written = (own.getD color.toHsl).text := by
  constructor
  · intro hwritten
    obtain ⟨color, hcolor, hrest⟩ := bind_eq_ok_iff.1 hwritten
    obtain ⟨own, hown, hresult⟩ := bind_eq_ok_iff.1 hrest
    refine ⟨color, own, hcolor, hown, ?_⟩
    cases own with
    | none => cases hresult; rfl
    | some hsl => cases hresult; rfl
  · rintro ⟨color, own, hcolor, hown, rfl⟩
    refine bind_eq_ok_iff.2 ⟨color, hcolor, bind_eq_ok_iff.2 ⟨own, hown, ?_⟩⟩
    cases own <;> rfl

/-- In this format, the form is kept exactly by the texts that can be printed. -/
theorem isHslText_of_resolve_iff {text written : String} (hwritten : resolve text .hsl = .ok written) :
    IsHslText written ↔ ¬ IsUnprintable text := by
  obtain ⟨color, own, -, hown, rfl⟩ := resolve_hsl_eq_ok_iff.1 hwritten
  cases own with
  | none =>
      -- the text spells no components, so they are computed from the channels
      have hnone := hslNumerals?_of_ownHsl?_eq_none hown
      refine iff_of_true (inRange_toHsl color).isHslText ?_
      rintro ⟨numerals, hnumerals, -⟩
      rw [hnone] at hnumerals
      cases hnumerals
  | some hsl =>
      obtain ⟨numerals, hnumerals, rfl⟩ := exists_numerals_of_ownHsl? hown
      have honly : IsUnprintable text ↔ numerals.LeaveForm := by
        rw [IsUnprintable, hnumerals]
        exact ⟨fun ⟨_, hsame, hleave⟩ => Option.some.inj hsame ▸ hleave,
          fun hleave => ⟨numerals, rfl, hleave⟩⟩
      rw [honly]
      exact isHslText_ofNumerals_iff numerals

/-- In the other encodings nothing but the channels is written. -/
theorem exists_encode_of_resolve {text written : String} {encoding : Encoding}
    (hencoding : encoding ≠ .hsl) (hwritten : resolve text encoding = .ok written) :
    ∃ color : Color, written = color.encode encoding := by
  obtain ⟨color, -, hencoded⟩ := bind_eq_ok_iff.1 hwritten
  refine ⟨color, ?_⟩
  cases encoding with
  | hsl => exact absurd rfl hencoding
  | hex => cases hencoded; rfl
  | rgb => cases hencoded; rfl

/-- Whatever a text and a format are, what the color is written as has the form of the
format, unless the format is that of hue, saturation and lightness and the text spells
these with a numeral that leaves the form. -/
theorem resolve_hasForm_iff {text format written : String}
    (hwritten : resolve text (.ofName format) = .ok written) :
    HasForm format written ↔ ¬ (format = "hsl" ∧ IsUnprintable text) := by
  by_cases hformat : format = "hsl"
  · have hencoding : Encoding.ofName format = .hsl := if_pos hformat
    rw [hencoding] at hwritten
    rw [HasForm, if_pos hformat, and_iff_right hformat]
    exact isHslText_of_resolve_iff hwritten
  · refine iff_of_true ?_ fun hboth => hformat hboth.1
    have hencoding : Encoding.ofName format ≠ .hsl := by
      unfold Encoding.ofName
      rw [if_neg hformat]
      split <;> simp
    obtain ⟨color, rfl⟩ := exists_encode_of_resolve hencoding hwritten
    exact hasForm_encode color format

theorem resolve_hasForm_turnedHue :
    resolve "hsl(-30deg, 50%, 120%)" (.ofName "hsl") = .ok "330.00 50.00% 100.00%" ∧
      HasForm "hsl" "330.00 50.00% 100.00%" := by
  have hwritten : resolve "hsl(-30deg, 50%, 120%)" (.ofName "hsl") =
      .ok "330.00 50.00% 100.00%" := toOption_eq_some_iff.1 (by decide +kernel)
  have hprintable : ¬ IsUnprintable "hsl(-30deg, 50%, 120%)" := by decide +kernel
  exact ⟨hwritten, (resolve_hasForm_iff hwritten).2 fun hboth => hprintable hboth.2⟩

/-- A saturation of minus zero keeps its sign, and a hue without bounds is no number. -/
theorem not_hasForm_signedZero :
    (resolve "hsl(0, -0%, 0%)" (.ofName "hsl") = .ok "0.00 -0.00% 0.00%" ∧
      ¬ HasForm "hsl" "0.00 -0.00% 0.00%") ∧
    resolve "hsl(1e999, 0%, 0%)" (.ofName "hsl") = .ok "nan 0.00% 0.00%" ∧
      ¬ HasForm "hsl" "nan 0.00% 0.00%" := by
  have hforeign {text : String} (htext : text.toList.all isHslCharacter = false) :
      ¬ HasForm "hsl" text := by
    intro hform
    rw [HasForm, if_pos rfl] at hform
    rw [hform.all_isHslCharacter] at htext
    cases htext
  exact ⟨⟨toOption_eq_some_iff.1 (by decide +kernel), hforeign (by decide)⟩,
    toOption_eq_some_iff.1 (by decide +kernel), hforeign (by decide)⟩

end Palette.Color
