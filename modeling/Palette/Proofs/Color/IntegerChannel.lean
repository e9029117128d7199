import Palette.Proofs.Binary.Integer
import Palette.Proofs.Color.Canonical
import Palette.Proofs.Color.Spelling

/-!
# Channels as integers

A channel of red, green and blue may be any integer in decimal.  It is read as a number of 64
bits first, which loses the last digits of a long one and turns a very long one into an
infinity, but the clamp behind it sees nothing of that: the channel is the integer, clamped to
the range of a channel (`readChannel_of_written`).

Writing a color as red, green and blue gives three such integers that are in range, so that
reading them again gives the color but for its alpha (`resolve_rgb_canonical`).
-/

namespace Palette

open Palette.Text

/-! ## Digits -/

namespace Decimal

theorem digitsValue_concat (digits : List Char) (digit : Char) :
    digitsValue (digits ++ [digit]) = 10 * digitsValue digits + (digitValue? digit).getD 0 := by
  rw [digitsValue, List.foldl_append]
  rfl

/-- The digits of a number spell it. -/
theorem digitsValue_toDigits (count : ℕ) : digitsValue (Nat.toDigits 10 count) = count := by
  have hdigit : ∀ digit < 10, (digitValue? (Nat.digitChar digit)).getD 0 = digit := by decide
  induction count using Nat.strong_induction_on with
  | _ count ih =>
      rcases Nat.lt_or_ge count 10 with hlt | hge
      · rw [Nat.toDigits_of_lt_base hlt]
        exact (Nat.zero_add _).trans (hdigit count hlt)
      · rw [Nat.toDigits_of_base_le (by decide) hge, digitsValue_concat,
          ih (count / 10) (by omega), hdigit (count % 10) (by omega), Nat.div_add_mod]

/-- Zeros in front of digits change nothing. -/
theorem digitsValue_zeros (zeros : ℕ) (digits : List Char) :
    digitsValue (List.replicate zeros '0' ++ digits) = digitsValue digits := by
  induction zeros with
  | zero => rfl
  | succ zeros ih =>
      rw [List.replicate_succ, List.cons_append, ← ih]
      rfl

/-- A row of digits is a numeral without a point and an exponent. -/
theorem readMagnitude?_of_digits {digits : List Char} (hdigits : digits ∈ Grammar.row isDigit)
    (negative : Bool) :
    readMagnitude? negative digits = some ⟨negative, digitsValue digits, 0⟩ := by
  have hspan := @Grammar.span_append isDigit digits [] hdigits.2 nofun
  rw [List.append_nil] at hspan
  simp only [readMagnitude?, hspan.1, hspan.2]
  rw [if_neg hdigits.1]
  rfl

/-- A row of digits begins with no sign. -/
theorem takeSign_of_digits {digits : List Char} (hdigits : digits ∈ Grammar.row isDigit) :
    takeSign digits = (false, digits) := by
  unfold takeSign
  split
  · exact absurd hdigits (Grammar.sign_notMem_row _).1
  · exact absurd hdigits (Grammar.sign_notMem_row _).2
  · rfl

end Decimal

namespace Color

/-- An integer in decimal, with any number of zeros in front.  A sign may be left out unless it
is needed. -/
inductive Written : ℤ → List Char → Prop
  | plain (zeros count : ℕ) :
      Written count (List.replicate zeros '0' ++ Nat.toDigits 10 count)
  | plus (zeros count : ℕ) :
      Written count ('+' :: (List.replicate zeros '0' ++ Nat.toDigits 10 count))
  | minus (zeros count : ℕ) :
      Written (-count) ('-' :: (List.replicate zeros '0' ++ Nat.toDigits 10 count))

/-! ## One channel -/

theorem digits_mem_row (zeros count : ℕ) :
    List.replicate zeros '0' ++ Nat.toDigits 10 count ∈ Grammar.row isDigit := by
  refine ⟨List.append_ne_nil_of_right_ne_nil _ Nat.toDigits_ne_nil, List.all_eq_true.2 ?_⟩
  intro digit hdigit
  apply isDigit_of_ascii
  rcases List.mem_append.1 hdigit with hzero | hcount
  · rw [List.eq_of_mem_replicate hzero]
    rfl
  · exact Nat.isDigit_of_mem_toDigits (by decide) (le_refl 10) hcount

/-- A written integer is a numeral without a point and an exponent, whose value it is. -/
theorem Written.exists_ofText? {integer : ℤ} {text : List Char} (hwritten : Written integer text) :
    ∃ decimal, Decimal.ofText? text = some decimal ∧ decimal.exponent = 0 ∧
      decimal.integer = integer := by
  have hvalue : ∀ zeros count : ℕ,
      Decimal.digitsValue (List.replicate zeros '0' ++ Nat.toDigits 10 count) = count :=
    fun zeros count => by rw [Decimal.digitsValue_zeros, Decimal.digitsValue_toDigits]
  have hread : ∀ (zeros count : ℕ) (negative : Bool), Decimal.readMagnitude? negative
      (List.replicate zeros '0' ++ Nat.toDigits 10 count) = some ⟨negative, count, 0⟩ := by
    intro zeros count negative
    rw [Decimal.readMagnitude?_of_digits (digits_mem_row zeros count), hvalue]
  cases hwritten with
  | plain zeros count =>
      refine ⟨⟨false, count, 0⟩, ?_, rfl, rfl⟩
      rw [Decimal.ofText?, Decimal.takeSign_of_digits (digits_mem_row zeros count)]
      exact hread zeros count false
  | plus zeros count => exact ⟨⟨false, count, 0⟩, hread zeros count false, rfl, rfl⟩
  | minus zeros count => exact ⟨⟨true, count, 0⟩, hread zeros count true, rfl, rfl⟩

theorem Written.mem_number {integer : ℤ} {text : List Char} (hwritten : Written integer text) :
    text ∈ Grammar.number Grammar.tolerated.isDigit := by
  obtain ⟨decimal, hdecimal, -⟩ := hwritten.exists_ofText?
  rw [Grammar.tolerated_isDigit, ← Grammar.isSome_ofText?_iff, hdecimal]
  rfl

theorem Written.mem_token {integer : ℤ} {text : List Char} (hwritten : Written integer text) :
    text ∈ Grammar.token :=
  Grammar.isComponent_amount.one_le_token (Or.inl hwritten.mem_number)

/-- A channel in decimal is its integer, clamped to the range of channels. -/
theorem readChannel_of_written {integer : ℤ} {text : List Char}
    (hwritten : Written integer text) :
    readChannel text = .ok (.ofInt (max 0 (min integer 255))) := by
  obtain ⟨decimal, hdecimal, hexponent, rfl⟩ := hwritten.exists_ofText?
  have hnumber := hwritten.mem_number
  have hpercentage : isPercentage text = false := by
    rw [isPercentage, beq_eq_false_iff_ne]
    exact Grammar.getLast?_ne_of_mem_number hnumber (by decide)
  have hcontent : dropFinalLineFeed text = text := if_neg (Grammar.number_le_unfed hnumber)
  have hround := @Decimal.round_clamp_toBinary decimal hexponent 255 (by norm_num)
  rw [readChannel, hpercentage, if_neg Bool.false_ne_true, readNumber, hcontent, hdecimal]
  exact congrArg (fun value => Except.ok (Channel.ofInt value)) hround

/-! ## Three channels -/

theorem val_ofInt_clamped (integer : ℤ) :
    ((Channel.ofInt (max 0 (min integer 255))).val : ℤ) = max 0 (min integer 255) := by
  simp only [Channel.ofInt, Channel.ofNat]
  omega

/-- Red, green and blue between parentheses. -/
def rgbCall (channels : String) : String := "rgb(" ++ channels ++ ")"

section

variable {one two three : ℤ} {first second third : List Char}

/-- Three texts with commas spell arguments of red, green and blue. -/
theorem rgbCall_mem_call (first second third : List Char) :
    (rgbCall (String.ofList first ++ ", " ++ String.ofList second ++ ", " ++
      String.ofList third)).toList ∈
      Grammar.call (Grammar.namesOf .rgb) (Grammar.spelling ⟨first, second, third, none⟩) := by
  have hcomma : [','] ++ [' '] ∈ Grammar.padded (Grammar.mark ',') :=
    Grammar.append_mem_padded [] [' '] rfl (Grammar.mem_mark.2 rfl) rfl
  have hspelling : first ++ ([','] ++ [' ']) ++ second ++ ([','] ++ [' ']) ++ third ++ [] ∈
      Grammar.spelling ⟨first, second, third, none⟩ :=
    Or.inl (Language.append_mem_mul
      (Grammar.append_mem_triple rfl hcomma rfl hcomma rfl) Language.nil_mem_one)
  refine Grammar.mem_call_iff.2 ⟨"rgb".toList, Or.inl rfl, _,
    Grammar.append_mem_padded [] [] rfl hspelling rfl, ?_⟩
  simp [rgbCall]

variable (hone : Written one first) (htwo : Written two second) (hthree : Written three third)
include hone htwo hthree

/-- Three integers are read as the channels nearest to them. -/
theorem ofText_rgbCall :
    ofText (rgbCall (String.ofList first ++ ", " ++ String.ofList second ++ ", " ++
      String.ofList third)) =
      .ok ⟨.ofInt (max 0 (min one 255)), .ofInt (max 0 (min two 255)),
        .ofInt (max 0 (min three 255)), 255⟩ := by
  have htokens : Grammar.ArgumentsIn Grammar.token Grammar.token Grammar.token
      ⟨first, second, third, none⟩ :=
    ⟨hone.mem_token, htwo.mem_token, hthree.mem_token, nofun⟩
  have halpha : Channel.ofInt (Binary.round (Binary.mul .double (.finite 1) (.finite 255))) =
      255 := by
    decide +kernel
  rw [Grammar.ofText_of_spelling htokens (rgbCall_mem_call first second third), ofArguments]
  simp only [readChannel_of_written hone, readChannel_of_written htwo,
    readChannel_of_written hthree, readAlpha]
  exact congrArg (fun alpha => Except.ok (Color.mk _ _ _ alpha)) halpha

/-- They have no components of their own. -/
theorem ownHsl?_rgbCall :
    ownHsl? (rgbCall (String.ofList first ++ ", " ++ String.ofList second ++ ", " ++
      String.ofList third)) = .ok none := by
  have htokens : Grammar.ArgumentsIn Grammar.token Grammar.token Grammar.token
      ⟨first, second, third, none⟩ :=
    ⟨hone.mem_token, htwo.mem_token, hthree.mem_token, nofun⟩
  rw [Grammar.ownHsl?_of_spelling htokens (rgbCall_mem_call first second third), if_neg nofun]

end

/-! ## Writing and reading again -/

section

variable (color : Color)

/-- A channel is written as an integer. -/
theorem written_channel (channel : Channel) :
    Written channel.val (Nat.toDigits 10 channel.val) :=
  .plain 0 channel.val

theorem encode_rgb : color.encode .rgb =
    String.ofList (Nat.toDigits 10 color.red.val) ++ ", " ++
      String.ofList (Nat.toDigits 10 color.green.val) ++ ", " ++
      String.ofList (Nat.toDigits 10 color.blue.val) := by
  simp only [encode, channelText, Nat.toString_eq_ofList_toDigits]

theorem ofInt_clamped_val (channel : Channel) :
    Channel.ofInt (max 0 (min (channel.val : ℤ) 255)) = channel := by
  apply Fin.ext
  have hbound := channel.isLt
  have hclamped := val_ofInt_clamped channel.val
  omega

/-- What a color is written as is read as this color without its alpha. -/
theorem ofText_rgbCall_encode : ofText (rgbCall (color.encode .rgb)) = .ok color.withoutAlpha := by
  rw [encode_rgb, ofText_rgbCall (written_channel color.red) (written_channel color.green)
    (written_channel color.blue), ofInt_clamped_val, ofInt_clamped_val, ofInt_clamped_val]
  rfl

/-- Written in any encoding, the red, green and blue of a color stand for the color. -/
theorem resolve_rgbCall_encode (encoding : Encoding) :
    resolve (rgbCall (color.encode .rgb)) encoding = .ok (color.encode encoding) := by
  have hown : ownHsl? (rgbCall (color.encode .rgb)) = .ok none := by
    rw [encode_rgb]
    exact ownHsl?_rgbCall (written_channel _) (written_channel _) (written_channel _)
  rw [resolve_of_ownHsl?_eq_none (ofText_rgbCall_encode color) hown, encode_withoutAlpha]

end

theorem resolve_rgb {text : String} {color : Color} (hcolor : ofText text = .ok color) :
    resolve text .rgb = .ok (color.encode .rgb) := by
  unfold resolve
  rw [hcolor]
  rfl

/-- Red, green and blue as integers are a second canonical form of colors.  Integers of any size
are read as the nearest channels; what a color is written as is read again but for its alpha;
and a color may be replaced by it before it is written in any encoding. -/
theorem resolve_rgb_canonical :
    (∀ (one two three : ℤ) (first second third : List Char),
      Written one first → Written two second → Written three third →
      ∃ color, ofText (rgbCall (String.ofList first ++ ", " ++ String.ofList second ++ ", " ++
          String.ofList third)) = .ok color ∧
        (color.red.val : ℤ) = max 0 (min one 255) ∧
        (color.green.val : ℤ) = max 0 (min two 255) ∧
        (color.blue.val : ℤ) = max 0 (min three 255) ∧ color.alpha = 255) ∧
    (∀ color : Color, ofText (rgbCall (color.encode .rgb)) = .ok { color with alpha := 255 }) ∧
    ∀ (text : String) (color : Color), ofText text = .ok color →
      ∃ written, resolve text .rgb = .ok written ∧
        ∀ encoding, resolve (rgbCall written) encoding = .ok (color.encode encoding) := by
  refine ⟨?_, ofText_rgbCall_encode, ?_⟩
  · intro one two three first second third hone htwo hthree
    exact ⟨_, ofText_rgbCall hone htwo hthree, val_ofInt_clamped one, val_ofInt_clamped two,
      val_ofInt_clamped three, rfl⟩
  · intro text color hcolor
    exact ⟨_, resolve_rgb hcolor, resolve_rgbCall_encode color⟩

/-- A negative integer, one with a sign and zeros, and one beyond all numbers of 64 bits; and a
hue that is written again from its red, green and blue. -/
theorem resolve_rgb_longIntegers :
    (∃ color, ofText (rgbCall (String.ofList ('-' :: Nat.toDigits 10 300) ++ ", " ++
        String.ofList ('+' :: '0' :: '0' :: Nat.toDigits 10 70) ++ ", " ++
        String.ofList (Nat.toDigits 10 (10 ^ 400)))) = .ok color ∧
      color.red = 0 ∧ color.green = 70 ∧ color.blue = 255) ∧
    ∃ written, resolve "hsl(120 100% 25% / 50%)" .rgb = .ok written ∧
      resolve (rgbCall written) .hex = .ok "#008000" := by
  obtain ⟨hread, -, hcanonical⟩ := resolve_rgb_canonical
  have hpower : ∀ zeros, 3 ≤ zeros → 255 ≤ 10 ^ zeros := fun zeros hzeros =>
    le_trans (by norm_num : 255 ≤ 10 ^ 3) (Nat.pow_le_pow_right (by norm_num) hzeros)
  have hlong := hpower 400 (by norm_num)
  have hgreenHue : ofText "hsl(120 100% 25% / 50%)" = .ok ⟨0, 128, 0, 128⟩ :=
    toOption_eq_some_iff.1 (by decide +kernel)
  obtain ⟨written, hwritten, hagain⟩ := hcanonical _ _ hgreenHue
  refine ⟨?_, written, hwritten, hagain .hex⟩
  generalize 10 ^ 400 = long at hlong ⊢
  obtain ⟨color, hcolor, hred, hgreen, hblue, -⟩ :=
    hread _ _ _ _ _ _ (.minus 0 300) (.plus 2 70) (.plain 0 long)
  refine ⟨color, hcolor, ?_, ?_, ?_⟩
  · exact Fin.ext (by show color.red.val = 0; omega)
  · exact Fin.ext (by show color.green.val = 70; omega)
  · exact Fin.ext (by show color.blue.val = 255; omega)

end Color

end Palette
