import Palette.Proofs.Color.Acceptance

/-!
# Hexadecimal digits as the canonical form of a color

A color is written as six hexadecimal digits, which spell its red, green and blue but not
its alpha.  Reading them gives the color again without its alpha (`Color.withoutAlpha`).
No encoding writes the alpha, so a text may be replaced by its hexadecimal digits before
it is written in any of them (`resolve_hex_canonical`).

The reader of digits and the writer of channels know nothing of each other.  They meet in
one fact about a pair of digits: the channel that it spells is written as this pair in
lower case (`hexDigits_ofPair`), and the digits of a channel spell it
(`ofPair_hexDigits`).
-/

namespace Palette

open Palette.Text

/-! ## A pair of digits -/

namespace Channel

/-- The channel that a pair of hexadecimal digits spells. -/
def ofPair (high low : Char) : Channel :=
  ofNat (hexValue [high, low])

end Channel

/-- The digit that is written for the value of a digit is this digit in lower case. -/
theorem digitChar_of_hexDigit? {digit : Char} {value : ℕ} (hvalue : hexDigit? digit = some value) :
    Nat.digitChar value = digit.toLower := by
  -- every digit is an ASCII character, so there are finitely many to look at
  have hall : ∀ code : Fin 128, ∀ value ∈ hexDigit? (Char.ofNat code),
      Nat.digitChar value = (Char.ofNat code).toLower := by decide
  have hcode : digit.toNat < 128 := isHexDigit_lt (by rw [isHexDigit, hvalue]; rfl)
  have hdigit := hall ⟨digit.toNat, hcode⟩
  rw [Char.ofNat_toNat] at hdigit
  exact hdigit value hvalue

theorem exists_value_of_isHexDigit {digit : Char} (hdigit : isHexDigit digit = true) :
    ∃ value, hexDigit? digit = some value ∧ value < 16 := by
  obtain ⟨value, hvalue⟩ := Option.isSome_iff_exists.1 hdigit
  exact ⟨value, hvalue, hexDigit?_lt hvalue⟩

theorem hexValue_pair {high low : Char} {first second : ℕ} (hhigh : hexDigit? high = some first)
    (hlow : hexDigit? low = some second) : hexValue [high, low] = 16 * first + second := by
  simp [hexValue, hhigh, hlow]

namespace Channel

/-- A channel is written with the digits that spell it, in lower case. -/
theorem hexDigits_ofPair {high low : Char} (hhigh : isHexDigit high = true)
    (hlow : isHexDigit low = true) :
    (ofPair high low).hexDigits = [high.toLower, low.toLower] := by
  obtain ⟨first, hfirst, hfirstLt⟩ := exists_value_of_isHexDigit hhigh
  obtain ⟨second, hsecond, hsecondLt⟩ := exists_value_of_isHexDigit hlow
  have hvalue : (ofPair high low).val = 16 * first + second := by
    rw [ofPair, hexValue_pair hfirst hsecond]
    simp only [ofNat]
    omega
  have hquotient : (16 * first + second) / 16 = first := by omega
  have hrest : (16 * first + second) % 16 = second := by omega
  rw [hexDigits, hvalue, hquotient, hrest, digitChar_of_hexDigit? hfirst,
    digitChar_of_hexDigit? hsecond]

/-- The digits with which a channel is written spell it. -/
theorem ofPair_hexDigits (channel : Channel) :
    ofPair (Nat.digitChar (channel.val / 16)) (Nat.digitChar (channel.val % 16)) = channel := by
  have hbound := channel.isLt
  have hhigh := hexDigit?_digitChar (show channel.val / 16 < 16 by omega)
  have hlow := hexDigit?_digitChar (show channel.val % 16 < 16 by omega)
  rw [ofPair, hexValue_pair hhigh hlow, Nat.div_add_mod, ofNat_val]

theorem all_isHexDigit_hexDigits (channel : Channel) :
    channel.hexDigits.all isHexDigit = true := by
  have hbound := channel.isLt
  have hhigh := hexDigit?_digitChar (show channel.val / 16 < 16 by omega)
  have hlow := hexDigit?_digitChar (show channel.val % 16 < 16 by omega)
  simp [hexDigits, isHexDigit, hhigh, hlow]

end Channel

namespace Color

/-! ## Reading digits -/

/-- Three or four digits stand for twice as many, each of them doubled. -/
def fullDigits (digits : List Char) : List Char :=
  if digits.length = 3 ∨ digits.length = 4 then digits.flatMap fun digit => [digit, digit]
  else digits

/-- The digits in full, in lower case, are those of the red, green and blue, and of the alpha
behind them; without an alpha the color is opaque. -/
def Spells (digits : List Char) (color : Color) : Prop :=
  let shown := color.red.hexDigits ++ color.green.hexDigits ++ color.blue.hexDigits
  (fullDigits digits).map Char.toLower = shown ∧ color.alpha = 255 ∨
    (fullDigits digits).map Char.toLower = shown ++ color.alpha.hexDigits

theorem pairValue_of_isHexDigit {high low : Char} (hhigh : isHexDigit high = true)
    (hlow : isHexDigit low = true) : pairValue [high, low] = .ok (hexValue [high, low]) := by
  have hfeed {digit : Char} (hdigit : isHexDigit digit = true) : digit ≠ '\n' := by
    rintro rfl
    exact absurd hdigit (by decide)
  rw [pairValue_cons hhigh, List.filter_eq_self.2]
  simp [hfeed hhigh, hfeed hlow]

theorem ofDigits_six {a b c d e f : Char} (hhex : [a, b, c, d, e, f].all isHexDigit = true) :
    ofDigits [a, b, c, d, e, f] = .ok ⟨.ofPair a b, .ofPair c d, .ofPair e f, 255⟩ := by
  simp only [List.all_cons, Bool.and_eq_true] at hhex
  obtain ⟨ha, hb, hc, hd, he, hf, -⟩ := hhex
  simp [ofDigits, pairValue_of_isHexDigit, ha, hb, hc, hd, he, hf]
  rfl

theorem ofDigits_eight {a b c d e f g h : Char}
    (hhex : [a, b, c, d, e, f, g, h].all isHexDigit = true) :
    ofDigits [a, b, c, d, e, f, g, h] =
      .ok ⟨.ofPair a b, .ofPair c d, .ofPair e f, .ofPair g h⟩ := by
  simp only [List.all_cons, Bool.and_eq_true] at hhex
  obtain ⟨ha, hb, hc, hd, he, hf, hg, hh, -⟩ := hhex
  simp [ofDigits, pairValue_of_isHexDigit, ha, hb, hc, hd, he, hf, hg, hh]
  rfl

/-- Short digits are read in full. -/
theorem ofDigits_fullDigits (digits : List Char) :
    ofDigits (fullDigits digits) = ofDigits digits := by
  by_cases hshort : digits.length = 3 ∨ digits.length = 4
  · rcases hshort with hthree | hfour
    · match digits, hthree with
      | [a, b, c], _ => rfl
    · match digits, hfour with
      | [a, b, c, d], _ => rfl
  · rw [fullDigits, if_neg hshort]

theorem fullDigits_mem_hexDigits {digits : List Char}
    (hdigits : digits ∈ Grammar.hexDigits [3, 4, 6, 8]) :
    fullDigits digits ∈ Grammar.hexDigits [6, 8] := by
  obtain ⟨hhex, hcount⟩ := hdigits
  simp only [List.mem_cons, List.not_mem_nil, or_false] at hcount
  unfold fullDigits
  split
  · rename_i hshort
    have hlength : (digits.flatMap fun digit => [digit, digit]).length = 2 * digits.length := by
      simp [List.length_flatMap, Nat.mul_comm]
    refine ⟨?_, ?_⟩
    · rw [List.all_flatMap]
      simpa using hhex
    · rw [hlength]
      simp only [List.mem_cons, List.not_mem_nil, or_false]
      omega
  · rename_i hlong
    refine ⟨hhex, ?_⟩
    simp only [List.mem_cons, List.not_mem_nil, or_false]
    omega

/-- Digits are read as the color that they spell. -/
theorem exists_ofDigits_spells {digits : List Char}
    (hdigits : digits ∈ Grammar.hexDigits [3, 4, 6, 8]) :
    ∃ color, ofDigits digits = .ok color ∧ Spells digits color := by
  obtain ⟨hhex, hcount⟩ := fullDigits_mem_hexDigits hdigits
  have hpair {high low : Char} (hhigh : isHexDigit high = true) (hlow : isHexDigit low = true) :=
    Channel.hexDigits_ofPair hhigh hlow
  -- in full there are three pairs, or three and that of the alpha
  rw [← ofDigits_fullDigits]
  unfold Spells
  generalize fullDigits digits = full at hhex hcount
  have hlength : full.length = 6 ∨ full.length = 8 := by simpa using hcount
  rcases hlength with hsix | height
  · match full, hsix with
    | [a, b, c, d, e, f], _ =>
        refine ⟨_, ofDigits_six hhex, Or.inl ⟨?_, rfl⟩⟩
        simp only [List.all_cons, Bool.and_eq_true] at hhex
        obtain ⟨ha, hb, hc, hd, he, hf, -⟩ := hhex
        simp only [hpair ha hb, hpair hc hd, hpair he hf]
        rfl
  · match full, height with
    | [a, b, c, d, e, f, g, h], _ =>
        refine ⟨_, ofDigits_eight hhex, Or.inr ?_⟩
        simp only [List.all_cons, Bool.and_eq_true] at hhex
        obtain ⟨ha, hb, hc, hd, he, hf, hg, hh, -⟩ := hhex
        simp only [hpair ha hb, hpair hc hd, hpair he hf, hpair hg hh]
        rfl

section

variable {text : String} {digits : List Char}

/-- A hash and digits are recognised as digits. -/
theorem notation_of_hexDigits (hdigits : digits ∈ Grammar.hexDigits [3, 4, 6, 8])
    (htext : text.toList = '#' :: digits) : Notation.ofText text = .ok (.digits digits) := by
  obtain ⟨hhex, hcount⟩ := id hdigits
  have hmany : isDigitCount digits.length = true := by
    rw [Grammar.isDigitCount_iff]
    simp only [List.mem_cons, List.not_mem_nil, or_false] at hcount
    omega
  have hmem : text.toList ∈ Grammar.digits [3, 4, 6, 8] := by
    rw [htext]
    exact Language.append_mem_mul (a := ['#']) rfl hdigits
  have hcontent : dropFinalLineFeed text.toList = '#' :: digits := by
    rw [dropFinalLineFeed, if_neg (Grammar.digits_le_unfed _ hmem), htext]
  rw [Grammar.notation_of_hash hcontent hhex hmany, htext]
  rfl

theorem ofText_of_hexDigits (hdigits : digits ∈ Grammar.hexDigits [3, 4, 6, 8])
    (htext : text.toList = '#' :: digits) : ofText text = ofDigits digits :=
  ofText_of_form (notation_of_hexDigits hdigits htext)

/-- Digits spell no components of their own. -/
theorem ownHsl?_of_hexDigits (hdigits : digits ∈ Grammar.hexDigits [3, 4, 6, 8])
    (htext : text.toList = '#' :: digits) : ownHsl? text = .ok none := by
  rw [ownHsl?, notation_of_hexDigits hdigits htext]

end

/-! ## Writing -/

/-- The color with nothing shining through. -/
def withoutAlpha (color : Color) : Color :=
  { color with alpha := 255 }

/-- No encoding writes the alpha. -/
theorem encode_withoutAlpha (color : Color) (encoding : Encoding) :
    color.withoutAlpha.encode encoding = color.encode encoding := by
  cases encoding <;> rfl

/-- A text without components of its own is written as its color. -/
theorem resolve_of_ownHsl?_eq_none {text : String} {color : Color}
    (hcolor : ofText text = .ok color) (hown : ownHsl? text = .ok none) (encoding : Encoding) :
    resolve text encoding = .ok (color.encode encoding) := by
  unfold resolve
  rw [hcolor, hown]
  cases encoding <;> rfl

theorem resolve_hex {text : String} {color : Color} (hcolor : ofText text = .ok color) :
    resolve text .hex = .ok (color.encode .hex) := by
  unfold resolve
  rw [hcolor]
  rfl

section

variable (color : Color)

theorem toList_encode_hex : (color.encode .hex).toList =
    '#' :: (color.red.hexDigits ++ color.green.hexDigits ++ color.blue.hexDigits) := by
  rw [encode, String.toList_ofList]
  rfl

theorem hexDigits_of_encode : color.red.hexDigits ++ color.green.hexDigits ++
    color.blue.hexDigits ∈ Grammar.hexDigits [3, 4, 6, 8] := by
  refine ⟨?_, by simp [Channel.hexDigits]⟩
  simp only [List.all_append, Channel.all_isHexDigit_hexDigits, Bool.and_self]

/-- The hexadecimal digits of a color are read as this color without its alpha. -/
theorem ofText_encode_hex : ofText (color.encode .hex) = .ok color.withoutAlpha := by
  have hhex := (hexDigits_of_encode color).1
  rw [ofText_of_hexDigits (hexDigits_of_encode color) (toList_encode_hex color)]
  have hsix := ofDigits_six hhex
  rw [Channel.ofPair_hexDigits, Channel.ofPair_hexDigits, Channel.ofPair_hexDigits] at hsix
  exact hsix

/-- Written in any encoding, the hexadecimal digits of a color stand for the color. -/
theorem resolve_encode_hex (encoding : Encoding) :
    resolve (color.encode .hex) encoding = .ok (color.encode encoding) := by
  have hown := ownHsl?_of_hexDigits (hexDigits_of_encode color) (toList_encode_hex color)
  rw [resolve_of_ownHsl?_eq_none (ofText_encode_hex color) hown, encode_withoutAlpha]

end

/-- Hexadecimal digits are a canonical form of colors.  In either letter case they are read
as the channels that they spell; what they are written for is read again but for its alpha;
and a color may be replaced by its digits before it is written in any encoding, which for
the digits themselves changes nothing any more. -/
theorem resolve_hex_canonical :
    (∀ (text : String) (digits : List Char), digits ∈ Grammar.hexDigits [3, 4, 6, 8] →
      text.toList = '#' :: digits → ∃ color, ofText text = .ok color ∧ Spells digits color) ∧
    (∀ color : Color, ofText (color.encode .hex) = .ok { color with alpha := 255 }) ∧
    ∀ (text : String) (color : Color), ofText text = .ok color →
      ∃ written, resolve text .hex = .ok written ∧ resolve written .hex = .ok written ∧
        ∀ encoding, resolve written encoding = .ok (color.encode encoding) := by
  refine ⟨fun text digits hdigits htext => ?_, ofText_encode_hex, fun text color hcolor => ?_⟩
  · rw [ofText_of_hexDigits hdigits htext]
    exact exists_ofDigits_spells hdigits
  · exact ⟨color.encode .hex, resolve_hex hcolor, resolve_encode_hex color .hex,
      resolve_encode_hex color⟩

/-- Four digits in both letter cases, and a hue with an alpha that is replaced by its
digits. -/
theorem resolve_hex_mixedCase :
    (∃ color, ofText "#aBc8" = .ok color ∧ Spells "aBc8".toList color) ∧
    ∃ written, resolve "hsl(120 100% 25% / 50%)" .hex = .ok written ∧
      resolve written .hex = .ok written ∧ resolve written .rgb = .ok "0, 128, 0" := by
  obtain ⟨hspells, -, hcanonical⟩ := resolve_hex_canonical
  have hgreen : ofText "hsl(120 100% 25% / 50%)" = .ok ⟨0, 128, 0, 128⟩ :=
    toOption_eq_some_iff.1 (by decide +kernel)
  obtain ⟨written, hwritten, hagain, hencodings⟩ := hcanonical _ _ hgreen
  exact ⟨hspells _ _ ⟨by decide, by decide⟩ rfl, written, hwritten, hagain, hencodings .rgb⟩

end Color

end Palette
