import Mathlib.Data.Int.ModEq
import Palette.Proofs.Color.IntegerChannel

/-!
# Hues a whole turn apart

A hue is an angle, so a whole number of degrees may be replaced by its remainder by 360.  It is
read as this remainder, with or without its unit and whatever its sign is, as long as numbers
of 64 bits hold it (`readHue_of_mem_wholeDegrees`).

The color is made of the hue that was read, and so are the components that a text keeps for
itself, although the text is read a second time for them.  Hence texts whose hues are whole
turns apart spell one color and are written alike (`spellOneColor_of_turns`).
-/

namespace Palette.Color

open Palette.Text Palette.Grammar

/-! ## Whole degrees -/

/-- The spellings of an integer. -/
def integerSpelling (integer : ℤ) : Language Char := {text | Written integer text}

/-- A whole number of degrees, with or without its unit. -/
def wholeDegrees (degrees : ℤ) : Language Char :=
  integerSpelling degrees * optional (word "deg")

theorem integerSpelling_le_number (integer : ℤ) :
    integerSpelling integer ≤ number tolerated.isDigit :=
  le_of_forall fun _ hwritten => Written.mem_number hwritten

theorem wholeDegrees_le_hue (degrees : ℤ) : wholeDegrees degrees ≤ hue tolerated :=
  mul_le_mul' (integerSpelling_le_number degrees) (le_refl _)

/-- A whole number of degrees is read as its remainder by a whole turn. -/
theorem readHue_of_mem_wholeDegrees {degrees : ℤ} (hsize : |degrees| ≤ 2 ^ 53)
    {token : List Char} (htoken : token ∈ wholeDegrees degrees) :
    readHue token = .ok (.finite (degrees % 360 : ℤ)) := by
  obtain ⟨number, hnumber, unit, hunit, rfl⟩ := Language.mem_mul.1 htoken
  obtain ⟨decimal, hdecimal, hexponent, rfl⟩ := Written.exists_ofText? hnumber
  rw [readHue, dropDegrees_append (integerSpelling_le_number _ hnumber) hunit, hdecimal]
  exact congrArg Except.ok (Decimal.modulo_toBinary hexponent hsize)

/-! ## Functions that take a hue -/

section

variable {space : Space} {first other second third : List Char} {alpha : Option (List Char)}

/-- Of the first component only the hue counts that it is read as. -/
theorem readHsl_congr (hhue : readHue first = readHue other) :
    readHsl ⟨first, second, third, alpha⟩ = readHsl ⟨other, second, third, alpha⟩ := by
  simp only [readHsl, hhue]

theorem ofArguments_congr (hspace : space ≠ .rgb) (hhue : readHue first = readHue other) :
    ofArguments space ⟨first, second, third, alpha⟩ =
      ofArguments space ⟨other, second, third, alpha⟩ := by
  have hhsl := @readHsl_congr first other second third alpha hhue
  cases space with
  | rgb => exact absurd rfl hspace
  | hsl => simp only [ofArguments, hhsl]
  | hwb => simp only [ofArguments, hhsl]

/-- A hue, two percentages and perhaps an alpha make a color. -/
theorem exists_ofArguments_of_hue (hspace : space ≠ .rgb) {arguments : Arguments}
    (harguments : ArgumentsIn (hue tolerated) (percentage tolerated 1) (amount tolerated 1)
      arguments) : ∃ color, ofArguments space arguments = .ok color := by
  have hpercentage := isComponent_percentage.one_le
  have hamount := isComponent_amount.one_le
  have hsolid := harguments.mono hue_le_solid (hpercentage.trans percentage_le_solid)
    (hamount.trans amount_le_solid)
  refine (exists_ofArguments_iff space hsolid).2 ?_
  cases space with
  | rgb => exact absurd rfl hspace
  | hsl => exact harguments.mono (le_refl _) hpercentage hamount
  | hwb => exact harguments.mono (le_refl _) hpercentage hamount

end

/-- The calls of a function whose hue is a whole number of degrees, with these other
components. -/
def hueCall (space : Space) (degrees : ℤ) (second third : List Char)
    (alpha : Option (List Char)) : Language Char :=
  {text | ∃ first ∈ wholeDegrees degrees,
    text ∈ call (namesOf space) (spelling ⟨first, second, third, alpha⟩)}

/-- Both texts spell one color, and are written alike in every encoding. -/
def SpellOneColor (first second : String) : Prop :=
  (∃ color, ofText first = .ok color ∧ ofText second = .ok color) ∧
    ∀ encoding, ∃ written,
      resolve first encoding = .ok written ∧ resolve second encoding = .ok written

/-- Reading both texts gives the same. -/
theorem spellOneColor_of_eq {first second : String} (hcolor : IsColor first)
    (hsame : ofText second = ofText first) (hown : ownHsl? second = ownHsl? first) :
    SpellOneColor first second := by
  refine ⟨?_, fun encoding => ?_⟩
  · obtain ⟨color, hcolor⟩ := hcolor
    exact ⟨color, hcolor, hsame.trans hcolor⟩
  · obtain ⟨written, hwritten⟩ := exists_resolve_of_isColor hcolor encoding
    exact ⟨written, hwritten, (resolve_congr hsame hown encoding).trans hwritten⟩

section

variable {space : Space} {degrees : ℤ} {second third : List Char} {alpha : Option (List Char)}
variable (hspace : space ≠ .rgb) (hsecond : second ∈ percentage tolerated 1)
  (hthird : third ∈ percentage tolerated 1) (halpha : ∀ token ∈ alpha, token ∈ amount tolerated 1)
include hspace hsecond hthird halpha

/-- The color of a call, and its own components, come of the hue's remainder. -/
theorem ofText_of_mem_hueCall (hsize : |degrees| ≤ 2 ^ 53) {text : String}
    (htext : text.toList ∈ hueCall space degrees second third alpha) :
    ∃ first, readHue first = .ok (.finite (degrees % 360 : ℤ)) ∧
      (∃ color, ofText text = .ok color) ∧
      ofText text = ofArguments space ⟨first, second, third, alpha⟩ ∧
      ownHsl? text = if space = .hsl then
        (readHsl ⟨first, second, third, alpha⟩).map some else .ok none := by
  obtain ⟨first, hfirst, hcall⟩ := htext
  have harguments : ArgumentsIn (hue tolerated) (percentage tolerated 1) (amount tolerated 1)
      ⟨first, second, third, alpha⟩ :=
    ⟨wholeDegrees_le_hue degrees hfirst, hsecond, hthird, halpha⟩
  have htokens : ArgumentsIn token token token ⟨first, second, third, alpha⟩ :=
    harguments.mono isComponent_hue.one_le_token isComponent_percentage.one_le_token
      isComponent_amount.one_le_token
  have hcolor := ofText_of_spelling htokens hcall
  refine ⟨first, readHue_of_mem_wholeDegrees hsize hfirst, ?_, hcolor,
    ownHsl?_of_spelling htokens hcall⟩
  rw [hcolor]
  exact exists_ofArguments_of_hue hspace harguments

/-- Calls whose hues have the same remainder spell one color. -/
theorem spellOneColor_of_emod_eq {other : ℤ} (hsize : |degrees| ≤ 2 ^ 53)
    (hother : |other| ≤ 2 ^ 53) (hsame : other % 360 = degrees % 360) {text turned : String}
    (htext : text.toList ∈ hueCall space degrees second third alpha)
    (hturned : turned.toList ∈ hueCall space other second third alpha) :
    SpellOneColor text turned := by
  obtain ⟨first, hfirst, hisColor, hcolor, hown⟩ :=
    ofText_of_mem_hueCall hspace hsecond hthird halpha hsize htext
  obtain ⟨again, hagain, -, hcolorAgain, hownAgain⟩ :=
    ofText_of_mem_hueCall hspace hsecond hthird halpha hother hturned
  have hhue : readHue again = readHue first := by rw [hagain, hfirst, hsame]
  refine spellOneColor_of_eq hisColor ?_ ?_
  · rw [hcolorAgain, hcolor, ofArguments_congr hspace hhue]
  · rw [hownAgain, hown, readHsl_congr hhue]

/-- A hue is an angle: a whole number of degrees may be replaced by its remainder by 360, and
turned by any multiple of 360, and still the text spells the same color and is written alike in
every encoding.  Among its own components the remainder stands. -/
theorem spellOneColor_of_turns (hsize : |degrees| ≤ 2 ^ 53) {text : String}
    (htext : text.toList ∈ hueCall space degrees second third alpha) :
    (∀ reduced : String, reduced.toList ∈ hueCall space (degrees % 360) second third alpha →
      SpellOneColor text reduced) ∧
    (∀ (turns : ℤ) (turned : String), |degrees + turns * 360| ≤ 2 ^ 53 →
      turned.toList ∈ hueCall space (degrees + turns * 360) second third alpha →
      SpellOneColor text turned) ∧
    (space = .hsl → ∃ hsl, ownHsl? text = .ok (some hsl) ∧
      hsl.hue = .finite (degrees % 360 : ℤ)) := by
  refine ⟨?_, ?_, ?_⟩
  · intro reduced hreduced
    have hlow := Int.emod_nonneg degrees (by decide : (360 : ℤ) ≠ 0)
    have hhigh := Int.emod_lt_of_pos degrees (by decide : (0 : ℤ) < 360)
    have hsmall : |degrees % 360| ≤ 2 ^ 53 := by
      rw [abs_of_nonneg hlow]
      omega
    exact spellOneColor_of_emod_eq hspace hsecond hthird halpha hsize hsmall
      (Int.emod_emod_of_dvd degrees dvd_rfl) htext hreduced
  · intro turns turned hturnedSize hturned
    exact spellOneColor_of_emod_eq hspace hsecond hthird halpha hsize hturnedSize
      (Int.add_mul_emod_self_right degrees turns 360) htext hturned
  · rintro rfl
    obtain ⟨first, hfirst, hisColor, -, hown⟩ :=
      ofText_of_mem_hueCall hspace hsecond hthird halpha hsize htext
    obtain ⟨own, hread⟩ := exists_ownHsl? hisColor
    rw [hown, if_pos rfl] at hread
    obtain ⟨hsl, hhsl, rfl⟩ := map_eq_ok_iff.1 hread
    obtain ⟨hue, hhue, hrest⟩ := bind_eq_ok_iff.1 hhsl
    obtain ⟨saturation, -, hrest⟩ := bind_eq_ok_iff.1 hrest
    obtain ⟨lightness, -, hrest⟩ := bind_eq_ok_iff.1 hrest
    cases hrest
    refine ⟨_, hown.trans hread, ?_⟩
    exact Except.ok.inj (hhue.symm.trans hfirst)

end

/-- The hue farthest below zero that a number holds, its remainder, and the hue one turn
above it. -/
theorem spellOneColor_farHue :
    |(-2 ^ 53 : ℤ)| ≤ 2 ^ 53 ∧
    SpellOneColor "hsl(-9007199254740992deg 50% 25%/.5)" "HSLA(+328,50%,25%,.5)" ∧
    SpellOneColor "hsl(-9007199254740992deg 50% 25%/.5)"
      "hsl(-9007199254740632 50% 25%/.5)" := by
  have hnumber {text : List Char} (hread : (Decimal.ofText? text).isSome = true) :
      text ∈ number tolerated.isDigit := (isSome_ofText?_iff text).1 hread
  have hpercentage {text : List Char} (hread : (Decimal.ofText? text).isSome = true) :
      text ++ ([] ++ ['%']) ∈ percentage tolerated 1 :=
    Language.append_mem_mul (hnumber hread) (Language.append_mem_mul Language.nil_mem_one rfl)
  have hblanks (first : List Char) :
      first ++ " ".toList ++ "50%".toList ++ " ".toList ++ "25%".toList ++
        ("/".toList ++ ".5".toList) ∈
      spelling ⟨first, "50%".toList, "25%".toList, some ".5".toList⟩ :=
    Or.inr (Language.append_mem_mul
      (append_mem_triple rfl ⟨by decide, rfl⟩ rfl ⟨by decide, rfl⟩ rfl)
      (Language.append_mem_mul (append_mem_padded [] [] rfl (mem_mark.2 rfl) rfl) rfl))
  have hcommas : "+328".toList ++ ",".toList ++ "50%".toList ++ ",".toList ++ "25%".toList ++
      (",".toList ++ ".5".toList) ∈
      spelling ⟨"+328".toList, "50%".toList, "25%".toList, some ".5".toList⟩ :=
    Or.inl (Language.append_mem_mul
      (append_mem_triple rfl (append_mem_padded [] [] rfl (mem_mark.2 rfl) rfl) rfl
        (append_mem_padded [] [] rfl (mem_mark.2 rfl) rfl) rfl)
      (Language.append_mem_mul (append_mem_padded [] [] rfl (mem_mark.2 rfl) rfl) rfl))
  have hfar : "hsl(-9007199254740992deg 50% 25%/.5)".toList ∈
      hueCall .hsl (-2 ^ 53) "50%".toList "25%".toList (some ".5".toList) :=
    ⟨"-9007199254740992".toList ++ "deg".toList,
      Language.append_mem_mul (Written.minus 0 (2 ^ 53)) (Or.inr rfl),
      mem_call_iff.2 ⟨"hsl".toList, Or.inl rfl, _, append_mem_padded [] [] rfl (hblanks _) rfl,
        by decide⟩⟩
  have hreduced : "HSLA(+328,50%,25%,.5)".toList ∈
      hueCall .hsl (-2 ^ 53 % 360) "50%".toList "25%".toList (some ".5".toList) :=
    ⟨"+328".toList ++ [], Language.append_mem_mul (Written.plus 0 328) (Or.inl rfl),
      mem_call_iff.2 ⟨"HSLA".toList, Or.inr rfl, _, append_mem_padded [] [] rfl hcommas rfl,
        by decide⟩⟩
  have hturned : "hsl(-9007199254740632 50% 25%/.5)".toList ∈
      hueCall .hsl (-2 ^ 53 + 1 * 360) "50%".toList "25%".toList (some ".5".toList) :=
    ⟨"-9007199254740632".toList ++ [],
      Language.append_mem_mul (Written.minus 0 9007199254740632) (Or.inl rfl),
      mem_call_iff.2 ⟨"hsl".toList, Or.inl rfl, _, append_mem_padded [] [] rfl (hblanks _) rfl,
        by decide⟩⟩
  have hsize : |(-2 ^ 53 : ℤ)| ≤ 2 ^ 53 := by decide
  obtain ⟨hremainder, hturn, -⟩ := spellOneColor_of_turns (by decide)
    (@hpercentage "50".toList (by decide +kernel))
    (@hpercentage "25".toList (by decide +kernel))
    (by
      rintro _ ⟨⟩
      exact Or.inl (hnumber (by decide +kernel)))
    hsize hfar
  exact ⟨hsize, hremainder _ hreduced, hturn 1 _ (by decide) hturned⟩

end Palette.Color
