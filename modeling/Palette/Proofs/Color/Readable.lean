import Palette.Color.Encoding
import Palette.Proofs.Attempt

/-!
# Which texts are colors, and how reading the others fails

Reading a color is to fail in its notation alone: then the color is left out with a
warning.  One kind of text escapes this, three or four hexadecimal digits with a line
feed behind them (`ShortDigits`).  The line feed passes for one more digit, which
leaves a pair of digits without any (`ofText_eq_blankDigits_iff`).

Every other function that reads a part of a color keeps to the notation
(`InNotation`), which one lemma for each of them says, put together along the
structure of the reading.

In the encoding by hue, saturation and lightness a text is read a second time, for its
own components.  This second reading never fails after the first one succeeded, so
what is a color can be written in all of them (`exists_resolve_iff`).
-/

namespace Palette.Color

open Palette.Text

/-- A hash and three or four hexadecimal digits, with a line feed behind them. -/
def ShortDigits (text : String) : Prop :=
  let digits := (text.toList.drop 1).dropLast
  text.toList = '#' :: (digits ++ ['\n']) ∧ (digits.length = 3 ∨ digits.length = 4) ∧
    digits.all isHexDigit = true

instance : DecidablePred ShortDigits := fun _ => inferInstanceAs (Decidable (_ ∧ _ ∧ _))

/-- Whether a text is a color. -/
def IsColor (text : String) : Prop :=
  ∃ color, ofText text = .ok color

instance : DecidablePred IsColor := fun text =>
  match htext : ofText text with
  | .ok color => isTrue ⟨color, htext⟩
  | .error fault => isFalse fun ⟨color, hcolor⟩ => by rw [htext] at hcolor; cases hcolor

/-- The result of a reading that fails in the notation, if it fails. -/
def InNotation {α : Type} (result : Except ColorFault α) : Prop :=
  ∀ fault, result = .error fault → fault.isOfNotation = true

/-! ## Readings that fail in the notation -/

section

variable {α β : Type}

theorem inNotation_ok (value : α) : InNotation (.ok value) := by
  intro fault hfault
  cases hfault

theorem inNotation_error {fault : ColorFault} (hfault : fault.isOfNotation = true) :
    InNotation (.error fault : Except ColorFault α) := by
  intro other hother
  cases hother
  exact hfault

theorem InNotation.bind {first : Except ColorFault α} {next : α → Except ColorFault β}
    (hfirst : InNotation first) (hnext : ∀ value, InNotation (next value)) :
    InNotation (first >>= next) := by
  cases first with
  | error fault => exact inNotation_error (hfirst fault rfl)
  | ok value => exact hnext value

theorem InNotation.map {first : Except ColorFault α} (hfirst : InNotation first)
    (change : α → β) : InNotation (first.map change) := by
  cases first with
  | error fault => exact inNotation_error (hfirst fault rfl)
  | ok value => exact inNotation_ok (change value)

theorem inNotation_elim {fault : ColorFault} (hfault : fault.isOfNotation = true)
    (found : Option α) : InNotation (found.elim (.error fault) .ok) := by
  cases found with
  | none => exact inNotation_error hfault
  | some value => exact inNotation_ok value

end

theorem inNotation_readNumber (token : List Char) : InNotation (readNumber token) := by
  unfold readNumber
  split
  · exact inNotation_ok _
  · exact inNotation_error rfl

theorem inNotation_readPercentage (token : List Char) : InNotation (readPercentage token) := by
  unfold readPercentage
  split
  · exact (inNotation_readNumber _).map _
  · exact inNotation_error rfl

theorem inNotation_readHue (token : List Char) : InNotation (readHue token) := by
  unfold readHue
  split
  · exact inNotation_ok _
  · exact inNotation_error rfl

theorem inNotation_readAlpha (token : Option (List Char)) : InNotation (readAlpha token) := by
  unfold readAlpha
  split
  · exact inNotation_ok _
  · split
    · exact (inNotation_readPercentage _).map _
    · exact (inNotation_readNumber _).map _

theorem inNotation_readChannel (token : List Char) : InNotation (readChannel token) := by
  unfold readChannel
  split
  · exact (inNotation_readPercentage _).map _
  · exact (inNotation_readNumber _).map _

theorem inNotation_readHsl (arguments : Arguments) : InNotation (readHsl arguments) :=
  (inNotation_readHue _).bind fun _ => (inNotation_readPercentage _).bind fun _ =>
    (inNotation_readPercentage _).bind fun _ => inNotation_ok _

theorem inNotation_ofArguments (space : Space) (arguments : Arguments) :
    InNotation (ofArguments space arguments) := by
  cases space with
  | rgb =>
      exact (inNotation_readChannel _).bind fun _ => (inNotation_readChannel _).bind fun _ =>
        (inNotation_readChannel _).bind fun _ => (inNotation_readAlpha _).bind fun _ =>
          inNotation_ok _
  | hsl =>
      exact (inNotation_readHsl _).bind fun _ => (inNotation_readAlpha _).bind fun _ =>
        inNotation_ok _
  | hwb =>
      exact (inNotation_readHsl _).bind fun _ => (inNotation_readAlpha _).bind fun _ =>
        inNotation_ok _

theorem inNotation_ofBody (text : String) (body : List Char) :
    InNotation (Arguments.ofBody text body) := by
  unfold Arguments.ofBody
  split
  · split
    · exact inNotation_error rfl
    · exact inNotation_elim rfl _
  · exact inNotation_elim rfl _

theorem inNotation_formOf (text : String) : InNotation (Notation.ofText text) := by
  have hother : InNotation ((functionOf? (dropFinalLineFeed text.toList)).elim
      (.error (.unreadable (quoted text))) .ok) := inNotation_elim rfl _
  unfold Notation.ofText
  simp only
  split
  · exact hother
  · split
    · split
      · exact inNotation_ok _
      · exact hother
    · split
      · exact inNotation_ok _
      · exact hother

/-! ## Digits with a line feed behind them -/

theorem append_dropFinalLineFeed (characters : List Char) :
    characters = dropFinalLineFeed characters ∨
      characters = dropFinalLineFeed characters ++ ['\n'] := by
  unfold dropFinalLineFeed
  split
  · rename_i hlast
    exact Or.inr (List.dropLast_append_getLast? '\n' hlast).symm
  · exact Or.inl rfl

/-- A function is never read as digits. -/
theorem functionOf?_ne_digits (characters digits : List Char) :
    functionOf? characters ≠ some (.digits digits) := by
  intro hfunction
  unfold functionOf? at hfunction
  simp only at hfunction
  split at hfunction
  · cases hfunction
  · split at hfunction
    · obtain ⟨space, -, hform⟩ := Option.map_eq_some_iff.1 hfunction
      cases hform
    · cases hfunction

/-- What is read as digits: so many hexadecimal digits, perhaps with a line feed. -/
theorem exists_digits_of_notation {text : String} {marks : List Char}
    (hform : Notation.ofText text = .ok (.digits marks)) :
    ∃ digits : List Char, text.toList = '#' :: marks ∧ digits.all isHexDigit = true ∧
      isDigitCount digits.length = true ∧ (marks = digits ∨ marks = digits ++ ['\n']) := by
  have hother : ∀ content, (functionOf? content).elim
      (Except.error (ColorFault.unreadable (quoted text))) .ok ≠ .ok (.digits marks) := by
    intro content
    cases hfunction : functionOf? content with
    | none => exact fun heq => by cases heq
    | some form =>
        intro heq
        cases heq
        exact functionOf?_ne_digits content marks hfunction
  unfold Notation.ofText at hform
  simp only at hform
  split at hform
  · exact absurd hform (hother _)
  · rename_i first others hcontent
    split at hform
    · rename_i hfirst
      split at hform
      · rename_i hdigits
        rw [Bool.and_eq_true] at hdigits
        cases hform
        subst hfirst
        -- the digits were looked at without the line feed, but are read with it
        rcases append_dropFinalLineFeed text.toList with hsame | hfeed
        · rw [hcontent] at hsame
          rw [hsame]
          exact ⟨others, rfl, hdigits.1, hdigits.2, Or.inl rfl⟩
        · rw [hcontent] at hfeed
          rw [hfeed]
          exact ⟨others, rfl, hdigits.1, hdigits.2, Or.inr rfl⟩
      · exact absurd hform (hother _)
    · split at hform
      · cases hform
      · exact absurd hform (hother _)

/-- Digits with a line feed behind them are read as digits. -/
theorem notation_of_digits {text : String} {digits : List Char}
    (hhex : digits.all isHexDigit = true) (hcount : isDigitCount digits.length = true)
    (htext : text.toList = '#' :: (digits ++ ['\n'])) :
    Notation.ofText text = .ok (.digits (digits ++ ['\n'])) := by
  have hdrop : dropFinalLineFeed ('#' :: (digits ++ ['\n'])) = '#' :: digits := by
    rw [← List.cons_append, dropFinalLineFeed, List.getLast?_concat, if_pos rfl,
      List.dropLast_concat]
  unfold Notation.ofText
  simp [htext, hdrop, hhex, hcount]

/-- A pair that begins with a digit has a value. -/
theorem pairValue_cons {digit : Char} (hdigit : isHexDigit digit = true) (rest : List Char) :
    pairValue (digit :: rest) = .ok (hexValue ((digit :: rest).filter (· != '\n'))) := by
  have hne : digit ≠ '\n' := by
    rintro rfl
    exact absurd hdigit (by decide)
  simp [pairValue, hne]

/-- Six or eight digits make a color, whatever stands behind them. -/
theorem exists_ofDigits_of_long {digits : List Char} (hhex : digits.all isHexDigit = true)
    (hcount : digits.length = 6 ∨ digits.length = 8) (rest : List Char)
    (hrest : rest = [] ∨ rest = ['\n']) : ∃ color, ofDigits (digits ++ rest) = .ok color := by
  rcases hcount with hcount | hcount
  · match digits, hcount with
    | [a, b, c, d, e, f], _ =>
        simp only [List.all_cons, Bool.and_eq_true] at hhex
        obtain ⟨ha, -, hc, -, he, -⟩ := hhex
        rcases hrest with rfl | rfl
        · exact ⟨_, by simp [ofDigits, pairValue_cons, ha, hc, he]; rfl⟩
        · exact ⟨_, by simp [ofDigits, pairValue_cons, ha, hc, he]; rfl⟩
  · match digits, hcount with
    | [a, b, c, d, e, f, g, h], _ =>
        simp only [List.all_cons, Bool.and_eq_true] at hhex
        obtain ⟨ha, -, hc, -, he, -, hg, -⟩ := hhex
        rcases hrest with rfl | rfl
        · exact ⟨_, by simp [ofDigits, pairValue_cons, ha, hc, he, hg]; rfl⟩
        · exact ⟨_, by simp [ofDigits, pairValue_cons, ha, hc, he]; rfl⟩

/-- Three or four digits make a color. -/
theorem exists_ofDigits_of_short {digits : List Char} (hhex : digits.all isHexDigit = true)
    (hcount : digits.length = 3 ∨ digits.length = 4) : ∃ color, ofDigits digits = .ok color := by
  rcases hcount with hcount | hcount
  · match digits, hcount with
    | [a, b, c], _ =>
        simp only [List.all_cons, Bool.and_eq_true] at hhex
        obtain ⟨ha, hb, hc, -⟩ := hhex
        exact ⟨_, by simp [ofDigits, pairValue_cons, ha, hb, hc]; rfl⟩
  · match digits, hcount with
    | [a, b, c, d], _ =>
        simp only [List.all_cons, Bool.and_eq_true] at hhex
        obtain ⟨ha, hb, hc, hd, -⟩ := hhex
        exact ⟨_, by simp [ofDigits, pairValue_cons, ha, hb, hc, hd]; rfl⟩

/-- With a line feed behind them, they leave a pair without a digit. -/
theorem exists_ofDigits_eq_blankDigits {digits : List Char} (hhex : digits.all isHexDigit = true)
    (hcount : digits.length = 3 ∨ digits.length = 4) :
    ∃ pair, ofDigits (digits ++ ['\n']) = .error (.blankDigits pair) := by
  rcases hcount with hcount | hcount
  · match digits, hcount with
    | [a, b, c], _ =>
        simp only [List.all_cons, Bool.and_eq_true] at hhex
        obtain ⟨ha, hb, hc, -⟩ := hhex
        exact ⟨_, by simp [ofDigits, pairValue_cons, ha, hb, hc]; rfl⟩
  · match digits, hcount with
    | [a, b, c, d], _ =>
        simp only [List.all_cons, Bool.and_eq_true] at hhex
        obtain ⟨ha, hb, hc, hd, -⟩ := hhex
        exact ⟨_, by simp [ofDigits, pairValue_cons, ha, hc]; rfl⟩

/-- Where a pair of digits is blank, there were three or four with a line feed. -/
theorem shortDigits_of_ofDigits {text : String} {marks : List Char} {fault : ColorFault}
    (hform : Notation.ofText text = .ok (.digits marks)) (hfault : ofDigits marks = .error fault) :
    ShortDigits text := by
  obtain ⟨digits, htext, hhex, hcount, hmarks⟩ := exists_digits_of_notation hform
  have hnone : ¬ ∃ color, ofDigits marks = .ok color := by
    rintro ⟨color, hcolor⟩
    rw [hfault] at hcolor
    cases hcolor
  have hfew : ¬ (digits.length = 6 ∨ digits.length = 8) := by
    intro hmany
    rcases hmarks with rfl | rfl
    · rw [← List.append_nil marks] at hnone
      exact hnone (exists_ofDigits_of_long hhex hmany [] (Or.inl rfl))
    · exact hnone (exists_ofDigits_of_long hhex hmany _ (Or.inr rfl))
  have hshort : digits.length = 3 ∨ digits.length = 4 := by
    simp only [isDigitCount, Bool.or_eq_true, beq_iff_eq] at hcount
    omega
  rcases hmarks with rfl | rfl
  · exact absurd (exists_ofDigits_of_short hhex hshort) hnone
  · have hdigits : (text.toList.drop 1).dropLast = digits := by
      rw [htext, List.drop_one, List.tail_cons, List.dropLast_concat]
    unfold ShortDigits
    rw [hdigits]
    exact ⟨htext, hshort, hhex⟩

/-- A form that is not made of digits is read in the notation. -/
theorem inNotation_toColor {text : String} {form : Notation}
    (hform : ∀ marks, form ≠ .digits marks) : InNotation (form.toColor text) := by
  cases form with
  | digits marks => exact absurd rfl (hform marks)
  | name keyword => exact inNotation_elim rfl _
  | function space body =>
      exact (inNotation_ofBody text body).bind fun arguments =>
        inNotation_ofArguments space arguments

theorem ofText_of_form {text : String} {form : Notation}
    (hform : Notation.ofText text = .ok form) : ofText text = form.toColor text := by
  rw [ofText, hform]
  rfl

/-- Reading a color fails outside the notation for one kind of text alone. -/
theorem ofText_eq_blankDigits_iff (text : String) :
    (∃ pair, ofText text = .error (.blankDigits pair)) ↔ ShortDigits text := by
  constructor
  · rintro ⟨pair, hpair⟩
    cases hform : Notation.ofText text with
    | error fault =>
        have hkept := inNotation_formOf text fault hform
        rw [ofText, hform] at hpair
        cases hpair
        cases hkept
    | ok form =>
        rw [ofText_of_form hform] at hpair
        by_cases hdigits : ∃ marks, form = .digits marks
        · obtain ⟨marks, rfl⟩ := hdigits
          exact shortDigits_of_ofDigits hform hpair
        · have hkept := inNotation_toColor (fun marks heq => hdigits ⟨marks, heq⟩) _ hpair
          cases hkept
  · rintro ⟨htext, hcount, hhex⟩
    generalize (text.toList.drop 1).dropLast = digits at htext hcount hhex
    have hmany : isDigitCount digits.length = true := by
      rcases hcount with hcount | hcount <;> rw [hcount] <;> rfl
    obtain ⟨pair, hpair⟩ := exists_ofDigits_eq_blankDigits hhex hcount
    refine ⟨pair, ?_⟩
    rw [ofText_of_form (notation_of_digits hhex hmany htext)]
    exact hpair

/-! ## Reading a text once more for its own components -/

/-- A text that is a color has its own components or none, without a failure. -/
theorem exists_ownHsl? {text : String} (htext : IsColor text) :
    ∃ own, ownHsl? text = .ok own := by
  obtain ⟨color, hcolor⟩ := htext
  unfold ownHsl?
  split
  · rename_i body hform
    rw [ofText_of_form hform] at hcolor
    obtain ⟨arguments, harguments, hread⟩ := bind_eq_ok_iff.1 hcolor
    obtain ⟨hsl, hhsl, -⟩ := bind_eq_ok_iff.1 hread
    exact ⟨some hsl,
      bind_eq_ok_iff.2 ⟨arguments, harguments, bind_eq_ok_iff.2 ⟨hsl, hhsl, rfl⟩⟩⟩
  · exact ⟨none, rfl⟩

/-- What is a color can be written in every encoding. -/
theorem exists_resolve_of_isColor {text : String} (htext : IsColor text) (encoding : Encoding) :
    ∃ written, resolve text encoding = .ok written := by
  obtain ⟨own, hown⟩ := exists_ownHsl? htext
  obtain ⟨color, hcolor⟩ := htext
  -- only the encoding by hue reads the text a second time
  cases encoding with
  | hex => exact ⟨_, bind_eq_ok_iff.2 ⟨color, hcolor, rfl⟩⟩
  | rgb => exact ⟨_, bind_eq_ok_iff.2 ⟨color, hcolor, rfl⟩⟩
  | hsl =>
      cases own with
      | none =>
          exact ⟨_, bind_eq_ok_iff.2 ⟨color, hcolor, bind_eq_ok_iff.2 ⟨none, hown, rfl⟩⟩⟩
      | some hsl =>
          exact ⟨_, bind_eq_ok_iff.2 ⟨color, hcolor, bind_eq_ok_iff.2 ⟨some hsl, hown, rfl⟩⟩⟩

/-- Only a color can be written. -/
theorem resolve_of_not_isColor {text : String} {fault : ColorFault}
    (hfault : ofText text = .error fault) (encoding : Encoding) :
    resolve text encoding = .error fault := by
  unfold resolve
  rw [hfault]
  rfl

/-- What is read in the notation is written in it. -/
theorem inNotation_resolve {text : String} (htext : InNotation (ofText text))
    (encoding : Encoding) : InNotation (resolve text encoding) := by
  cases hcolor : ofText text with
  | error fault =>
      rw [resolve_of_not_isColor hcolor encoding]
      exact inNotation_error (htext fault hcolor)
  | ok color =>
      obtain ⟨written, hwritten⟩ := exists_resolve_of_isColor ⟨color, hcolor⟩ encoding
      rw [hwritten]
      exact inNotation_ok written

/-- Writing goes by the color and by the text's own components. -/
theorem resolve_congr {first second : String} (hcolor : ofText first = ofText second)
    (hown : ownHsl? first = ownHsl? second) (encoding : Encoding) :
    resolve first encoding = resolve second encoding := by
  unfold resolve
  rw [hcolor, hown]

theorem exists_resolve_iff (text : String) (encoding : Encoding) :
    (∃ written, resolve text encoding = .ok written) ↔ IsColor text := by
  constructor
  · rintro ⟨written, hwritten⟩
    cases htext : ofText text with
    | error fault =>
        rw [resolve_of_not_isColor htext encoding] at hwritten
        cases hwritten
    | ok color => exact ⟨color, htext⟩
  · intro htext
    exact exists_resolve_of_isColor htext encoding

/-- Writing a color fails outside the notation just as reading it does. -/
theorem exists_resolve_error_iff (text : String) (encoding : Encoding) :
    (∃ fault, resolve text encoding = .error fault ∧ fault.isOfNotation = false) ↔
      ShortDigits text := by
  rw [← ofText_eq_blankDigits_iff]
  cases htext : ofText text with
  | error fault =>
      rw [resolve_of_not_isColor htext encoding]
      cases fault <;> simp [ColorFault.isOfNotation]
  | ok color =>
      obtain ⟨written, hwritten⟩ := exists_resolve_of_isColor ⟨color, htext⟩ encoding
      simp [hwritten]

end Palette.Color
