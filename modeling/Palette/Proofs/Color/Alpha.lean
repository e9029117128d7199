import Palette.Proofs.Color.Canonical

/-!
# The alpha of a color

A color without an alpha may be given one: as a fourth component behind a comma, behind a
slash, or as further hexadecimal digits (`AddsAlpha`).  Whatever valid alpha it is, nothing
that is written for the color shows it (`AddsAlpha.resolve_eq`).

The alpha goes three ways.  Splitting finds it beside the same components
(`ofBody_append_alphaPart`); each color space makes the same red, green and blue of these
(`withoutAlpha_ofArguments`); and the components that a text keeps for itself do not include
it.
-/

namespace Palette.Grammar

open Palette.Text Palette.Color

variable {inner gap part rest : List Char} {arguments : Color.Arguments}

/-! ## One more part -/

/-- Blanks behind a text change none of its trimmed parts. -/
theorem map_trim_parts_append {separator : Char} (hseparator : isBlank separator = false)
    (hgap : gap.all isBlank = true) (text : List Char) :
    (parts separator (text ++ gap)).map trim = (parts separator text).map trim := by
  have hfree : separator ∉ gap := notMem_of_mem_run hgap hseparator
  obtain ⟨earlier, last, htext, happend⟩ := exists_parts_append_right text hfree
  rw [htext, happend, List.map_append, List.map_append, List.map_singleton, List.map_singleton,
    trim_append_right hgap]

theorem map_trim_parts_trim {separator : Char} (hseparator : isBlank separator = false)
    (text : List Char) :
    (parts separator (trim text)).map trim = (parts separator text).map trim := by
  obtain ⟨front, behind, hfront, hbehind, htext⟩ := exists_eq_append_trim text
  have hfree : separator ∉ front := notMem_of_mem_run hfront hseparator
  obtain ⟨first, others, hcore, happend⟩ := exists_parts_append_left (trim text) hfree
  conv_rhs => rw [htext]
  rw [map_trim_parts_append hseparator hbehind, hcore, happend, List.map_cons, List.map_cons,
    trim_append_left hfront]

/-- Trimming takes blanks away and nothing else. -/
theorem mem_trim_iff {mark : Char} (hmark : isBlank mark = false) (text : List Char) :
    mark ∈ trim text ↔ mark ∈ text := by
  obtain ⟨front, behind, hfront, hbehind, htext⟩ := exists_eq_append_trim text
  have hfrontFree : mark ∉ front := notMem_of_mem_run hfront hmark
  have hbehindFree : mark ∉ behind := notMem_of_mem_run hbehind hmark
  conv_rhs => rw [htext]
  simp [hfrontFree, hbehindFree]

/-- Arguments without an alpha take one. -/
theorem ofParts?_of_none {parts : List (List Char)} {alpha : List Char}
    (hparts : Arguments.ofParts? parts none = some arguments) (halpha : alpha ≠ []) :
    Arguments.ofParts? parts (some alpha) = some { arguments with alpha := some alpha } := by
  obtain ⟨rfl, -, hsome⟩ := ofParts?_eq_some_iff.1 hparts
  refine ofParts?_eq_some_iff.2 ⟨rfl, rfl, ?_⟩
  rintro (hfirst | hsecond | hthird | hempty)
  · exact hsome (Or.inl hfirst)
  · exact hsome (Or.inr (Or.inl hsecond))
  · exact hsome (Or.inr (Or.inr (Or.inl hthird)))
  · exact halpha (Option.some.inj hempty)

theorem ofCommas?_append (hcommas : Arguments.ofCommas? inner = some arguments)
    (hnone : arguments.alpha = none) (hgap : gap.all isBlank = true) (hrest : ',' ∉ rest)
    (hne : trim rest ≠ []) : Arguments.ofCommas? (inner ++ gap ++ ',' :: rest) =
      some { arguments with alpha := some (trim rest) } := by
  have hlong : (parts ',' (inner ++ gap ++ ',' :: rest)).map trim =
      (parts ',' inner).map trim ++ [trim rest] := by
    rw [parts_append_cons, List.map_append, map_trim_parts_append (by decide) hgap,
      parts_eq_singleton hrest, List.map_singleton]
  unfold Arguments.ofCommas? at hcommas ⊢
  rw [hlong]
  -- four parts have an alpha already, so there are three
  split at hcommas
  · obtain ⟨-, hsome, -⟩ := ofParts?_eq_some_iff.1 hcommas
    rw [hnone] at hsome
    cases hsome
  · obtain ⟨hthree, -, -⟩ := ofParts?_eq_some_iff.1 hcommas
    rw [hthree] at hcommas ⊢
    exact ofParts?_of_none hcommas hne

theorem ofWords?_append_slash (hwords : Arguments.ofWords? inner = some arguments)
    (hnone : arguments.alpha = none) (hgap : gap.all isBlank = true) (hne : trim rest ≠ []) :
    Arguments.ofWords? (inner ++ gap ++ '/' :: rest) =
      some { arguments with alpha := some (trim rest) } := by
  have hslash : '/' ∉ inner := by
    intro hmem
    obtain ⟨front, behind, rfl, hfree⟩ := List.eq_append_cons_of_mem hmem
    rw [ofWords?_append hfree] at hwords
    obtain ⟨-, hsome, -⟩ := ofParts?_eq_some_iff.1 hwords
    rw [hnone] at hsome
    cases hsome
  have hfree : '/' ∉ inner ++ gap := by
    intro hmem
    rcases List.mem_append.1 hmem with hin | hin
    · exact hslash hin
    · exact notMem_of_mem_run hgap (by decide) hin
  rw [ofWords?_of_notMem hslash] at hwords
  rw [ofWords?_append hfree, words_append_right hgap]
  exact ofParts?_of_none hwords hne

/-! ## Bodies -/

theorem ofCommas?_trim (body : List Char) :
    Arguments.ofCommas? (trim body) = Arguments.ofCommas? body := by
  unfold Arguments.ofCommas?
  rw [map_trim_parts_trim (by decide)]

theorem ofWords?_trim (body : List Char) :
    Arguments.ofWords? (trim body) = Arguments.ofWords? body := by
  obtain ⟨front, behind, hfront, hbehind, hbody⟩ := exists_eq_append_trim body
  by_cases hslash : '/' ∈ trim body
  · obtain ⟨first, rest, hcore, hfree⟩ := List.eq_append_cons_of_mem hslash
    have hfreeFront : '/' ∉ front ++ first := by
      intro hin
      rcases List.mem_append.1 hin with hin | hin
      · exact notMem_of_mem_run hfront (by decide) hin
      · exact hfree hin
    have hsplit : body = (front ++ first) ++ '/' :: (rest ++ behind) := by
      rw [hbody, hcore]
      simp
    rw [hsplit, ofWords?_append hfreeFront, ← hsplit, hcore, ofWords?_append hfree,
      words_append_left hfront, trim_append_right hbehind]
  · have hfree : '/' ∉ body := fun hin => hslash ((mem_trim_iff (by decide) body).2 hin)
    rw [ofWords?_of_notMem hslash, ofWords?_of_notMem hfree, words_trim]

/-- Splitting sees no blanks at the ends of a body. -/
theorem ofBody_trim (whole : String) (body : List Char) :
    Arguments.ofBody whole (trim body) = Arguments.ofBody whole body := by
  unfold Arguments.ofBody
  simp only [mem_trim_iff (show isBlank ',' = false by decide),
    mem_trim_iff (show isBlank '/' = false by decide), ofCommas?_trim, ofWords?_trim]

/-- The separator in front of an alpha: a comma if there are commas. -/
def alphaSeparator (text : List Char) : Char :=
  if ',' ∈ text then ',' else '/'

/-- What is put behind components to add an alpha: a separator and a number or percentage,
with blanks around them. -/
def alphaPart (separator : Char) : Language Char :=
  run isBlank * (mark separator * padded (amount tolerated tolerated.stray))

theorem mem_alphaPart_iff {separator : Char} : part ∈ alphaPart separator ↔
    ∃ gap rest : List Char, gap.all isBlank = true ∧
      trim rest ∈ amount tolerated tolerated.stray ∧ part = gap ++ separator :: rest := by
  rw [alphaPart, mem_mul_mark_iff]
  simp only [mem_padded_iff amount_le_solid]
  constructor
  · rintro ⟨gap, hgap, rest, hrest, rfl⟩
    exact ⟨gap, rest, hgap, hrest, rfl⟩
  · rintro ⟨gap, rest, hgap, hrest, rfl⟩
    exact ⟨gap, hgap, rest, hrest, rfl⟩

/-- With an alpha behind it, a body splits into the same components and the alpha. -/
theorem ofBody_append_alphaPart {whole : String}
    (hbody : Arguments.ofBody whole inner = .ok arguments) (hnone : arguments.alpha = none)
    (hpart : part ∈ alphaPart (alphaSeparator inner)) (other : String) :
    ∃ alpha ∈ amount tolerated tolerated.stray,
      Arguments.ofBody other (inner ++ part) = .ok { arguments with alpha := some alpha } := by
  obtain ⟨gap, rest, hgap, halpha, rfl⟩ := mem_alphaPart_iff.1 hpart
  have hne : trim rest ≠ [] := (amount_le_solid halpha).ne_nil
  have hinner : rest ∈ run isInner :=
    padded_le_inner amount_le_inner ((mem_padded_iff amount_le_solid).2 halpha)
  have hcommaGap : ',' ∉ gap := notMem_of_mem_run hgap (by decide)
  have hslashGap : '/' ∉ gap := notMem_of_mem_run hgap (by decide)
  have hcommaRest : ',' ∉ rest := notMem_of_mem_run hinner (by decide)
  have hslashRest : '/' ∉ rest := notMem_of_mem_run hinner (by decide)
  refine ⟨trim rest, halpha, ?_⟩
  unfold Arguments.ofBody at hbody ⊢
  simp only at hbody ⊢
  rw [← List.append_assoc]
  by_cases hcomma : ',' ∈ inner
  · rw [if_pos hcomma] at hbody
    rw [alphaSeparator, if_pos hcomma, if_pos (by simp)]
    by_cases hslash : '/' ∈ inner
    · rw [if_pos hslash] at hbody
      cases hbody
    · rw [if_neg hslash, elim_eq_ok_iff] at hbody
      rw [if_neg (by simp [hslash, hslashGap, hslashRest]),
        ofCommas?_append hbody hnone hgap hcommaRest hne]
      rfl
  · rw [if_neg hcomma, elim_eq_ok_iff] at hbody
    rw [alphaSeparator, if_neg hcomma, if_neg (by simp [hcomma, hcommaGap, hcommaRest]),
      ofWords?_append_slash hbody hnone hgap hne]
    rfl

theorem alphaPart_le_enclosed {separator : Char} (hseparator : isEnclosed separator = true) :
    alphaPart separator ≤ run isEnclosed := by
  have hclosed := isClosed_run isEnclosed
  have hinner : run isInner ≤ run isEnclosed := inner_le_enclosed
  have halpha : padded (amount tolerated tolerated.stray) ≤ run isEnclosed :=
    (padded_le_inner amount_le_inner).trans hinner
  exact hclosed.mul_le ((run_le_inner (by decide)).trans hinner)
    (hclosed.mul_le (mark_le_run hseparator) halpha)

/-! ## Functions -/

/-- A text that is read as a function: the name, the body, and what strays in behind them. -/
theorem exists_of_notation_function {whole : String} {space : Space} {body : List Char}
    (hform : Notation.ofText whole = .ok (.function space body)) :
    ∃ name ∈ namesOf space, ∃ inner ∈ run isEnclosed, ∃ stray ∈ tolerated.stray,
      whole.toList = name ++ '(' :: inner ++ ')' :: stray ∧ body = trim inner := by
  have hfunction : functionOf? (dropFinalLineFeed whole.toList) = some (.function space body) := by
    rcases notation_cases hform with ⟨marks, hmarks⟩ | hname | hfunction
    · cases hmarks
    · cases hname
    · exact hfunction
  obtain ⟨name, inner, found, hcontent, -, hinner, hspace, heq⟩ :=
    functionOf?_eq_some_iff.1 hfunction
  cases heq
  have hname := ofName?_eq_some_iff.1 hspace
  rcases append_dropFinalLineFeed whole.toList with hsame | hfeed
  · refine ⟨name, hname, inner, hinner, [], Or.inl rfl, ?_, rfl⟩
    rw [hsame, hcontent]
    simp
  · refine ⟨name, hname, inner, hinner, ['\n'], Or.inr rfl, ?_, rfl⟩
    rw [hfeed, hcontent]
    simp

theorem notation_of_call {whole : String} {space : Space} {name stray : List Char}
    (hname : name ∈ namesOf space) (hinner : inner ∈ run isEnclosed)
    (hstray : stray ∈ tolerated.stray)
    (hwhole : whole.toList = name ++ '(' :: inner ++ ')' :: stray) :
    Notation.ofText whole = .ok (.function space (trim inner)) := by
  have hcall : name ++ '(' :: (inner ++ [')']) ∈ call (namesOf space) (run isEnclosed) := by
    refine mem_call_iff.2 ⟨name, hname, inner, ?_, rfl⟩
    simpa using append_mem_padded [] [] rfl hinner rfl
  have hfree : '(' ∉ name := notMem_of_mem_namesOf hname (by decide)
  have hcontent : dropFinalLineFeed whole.toList = name ++ '(' :: (inner ++ [')']) := by
    have hsplit : whole.toList = name ++ '(' :: (inner ++ [')']) ++ stray := by
      rw [hwhole]
      simp
    rw [hsplit]
    rcases hstray with rfl | rfl
    · rw [List.append_nil, dropFinalLineFeed, if_neg (call_le_unfed _ _ hcall)]
    · rw [dropFinalLineFeed, if_pos List.getLast?_concat, List.dropLast_concat]
  refine notation_of_function (functionOf?_eq_some_iff.2 ?_)
  exact ⟨name, inner, space, hcontent, hfree, hinner, ofName?_eq_some_iff.2 hname, rfl⟩

end Palette.Grammar

namespace Palette.Color

open Palette.Text Palette.Grammar

/-! ## Colors without their alpha -/

theorem withoutAlpha_wideOfHsl (hue saturation lightness first second : Binary) :
    (wideOfHsl hue saturation lightness first).toColor.withoutAlpha =
      (wideOfHsl hue saturation lightness second).toColor.withoutAlpha := by
  cases hue <;> rfl

theorem withoutAlpha_wideOfHwb (hue whiteness blackness first second : Binary) :
    (wideOfHwb hue whiteness blackness first).toColor.withoutAlpha =
      (wideOfHwb hue whiteness blackness second).toColor.withoutAlpha := by
  unfold wideOfHwb
  simp only
  split
  · rfl
  · rfl

/-- An alpha that can be read changes nothing but the alpha of the color. -/
theorem withoutAlpha_ofArguments (space : Space) {arguments : Arguments} {alpha : List Char}
    {share : Binary} (hnone : arguments.alpha = none)
    (halpha : readAlpha (some alpha) = .ok share) :
    (ofArguments space { arguments with alpha := some alpha }).map withoutAlpha =
      (ofArguments space arguments).map withoutAlpha := by
  have hreadHsl : readHsl { arguments with alpha := some alpha } = readHsl arguments := rfl
  have hwhole : readAlpha none = .ok (.finite 1) := rfl
  cases space with
  | rgb =>
      simp only [ofArguments, hnone, halpha, hwhole]
      cases readChannel arguments.first with
      | error fault => rfl
      | ok red =>
          cases readChannel arguments.second with
          | error fault => rfl
          | ok green => cases readChannel arguments.third <;> rfl
  | hsl =>
      simp only [ofArguments, hreadHsl, hnone, halpha, hwhole]
      cases readHsl arguments with
      | error fault => rfl
      | ok hsl => exact congrArg Except.ok (withoutAlpha_wideOfHsl _ _ _ _ _)
  | hwb =>
      simp only [ofArguments, hreadHsl, hnone, halpha, hwhole]
      cases readHsl arguments with
      | error fault => rfl
      | ok hwb => exact congrArg Except.ok (withoutAlpha_wideOfHwb _ _ _ _ _)

/-- Writing goes by the color without its alpha and by the text's own components. -/
theorem resolve_congr_of_withoutAlpha {first second : String}
    (hcolor : (ofText first).map withoutAlpha = (ofText second).map withoutAlpha)
    (hown : ownHsl? first = ownHsl? second) (encoding : Encoding) :
    resolve first encoding = resolve second encoding := by
  unfold resolve
  rw [hown]
  cases hfirst : ofText first with
  | error fault =>
      rw [hfirst] at hcolor
      rw [map_eq_error_iff.1 hcolor.symm]
  | ok one =>
      rw [hfirst] at hcolor
      obtain ⟨two, hsecond, hsame⟩ := map_eq_ok_iff.1 hcolor.symm
      have hencode (encoding : Encoding) : one.encode encoding = two.encode encoding := by
        rw [← encode_withoutAlpha one, ← encode_withoutAlpha two, hsame]
      rw [hsecond]
      cases encoding with
      | hex => exact congrArg Except.ok (hencode .hex)
      | rgb => exact congrArg Except.ok (hencode .rgb)
      | hsl =>
          cases ownHsl? second with
          | error fault => rfl
          | ok own =>
              cases own with
              | none => exact congrArg Except.ok (hencode .hsl)
              | some hsl => rfl

theorem exists_readAlpha {alpha : List Char} (halpha : alpha ∈ amount tolerated tolerated.stray) :
    ∃ share, readAlpha (some alpha) = .ok share := by
  refine (exists_readAlpha_iff ?_).2 ?_
  · rintro _ ⟨⟩
    exact amount_le_solid halpha
  · rintro _ ⟨⟩
    exact halpha

/-! ## Adding an alpha -/

/-- A text is read as a function with three components and without an alpha. -/
def HasThreeComponents (text : String) : Prop :=
  ∃ space body arguments, Notation.ofText text = .ok (.function space body) ∧
    Arguments.ofBody text body = .ok arguments ∧ arguments.alpha = none

/-- The second text is the first one with a valid alpha. -/
inductive AddsAlpha : String → String → Prop
  /-- A number or a percentage in front of the closing parenthesis: of any size, behind a
  comma or a slash as the components have it. -/
  | toFunction {plain full : String} {front part stray : List Char} (hcolor : IsColor plain)
      (hthree : HasThreeComponents plain) (hplain : plain.toList = front ++ ')' :: stray)
      (hpart : part ∈ alphaPart (alphaSeparator front))
      (hfull : full.toList = front ++ part ++ ')' :: stray) : AddsAlpha plain full
  /-- One more digit behind three hexadecimal digits, or two behind six. -/
  | toDigits {plain full : String} {digits alpha : List Char}
      (hcount : digits.length = 3 ∧ alpha.length = 1 ∨ digits.length = 6 ∧ alpha.length = 2)
      (hhex : (digits ++ alpha).all isHexDigit = true) (hplain : plain.toList = '#' :: digits)
      (hfull : full.toList = '#' :: (digits ++ alpha)) : AddsAlpha plain full

theorem mem_hexDigits_of_plain {digits alpha : List Char}
    (hcount : digits.length = 3 ∧ alpha.length = 1 ∨ digits.length = 6 ∧ alpha.length = 2)
    (hhex : (digits ++ alpha).all isHexDigit = true) :
    digits ∈ Grammar.hexDigits [3, 4, 6, 8] := by
  rw [List.all_append, Bool.and_eq_true] at hhex
  refine ⟨hhex.1, ?_⟩
  simp only [List.mem_cons]
  omega

/-- The digits of the alpha stand behind those of the color. -/
theorem withoutAlpha_ofDigits {digits alpha : List Char}
    (hcount : digits.length = 3 ∧ alpha.length = 1 ∨ digits.length = 6 ∧ alpha.length = 2)
    (hhex : (digits ++ alpha).all isHexDigit = true) :
    (ofDigits (digits ++ alpha)).map withoutAlpha = (ofDigits digits).map withoutAlpha := by
  have hshort : digits.all isHexDigit = true := (mem_hexDigits_of_plain hcount hhex).1
  rcases hcount with ⟨hdigits, halpha⟩ | ⟨hdigits, halpha⟩
  · match digits, hdigits, alpha, halpha with
    | [a, b, c], _, [d], _ =>
        have hfull : ofDigits [a, b, c, d] = ofDigits [a, a, b, b, c, c, d, d] := rfl
        have hthree : ofDigits [a, b, c] = ofDigits [a, a, b, b, c, c] := rfl
        simp only [List.cons_append, List.nil_append, List.all_cons, List.all_nil, Bool.and_true,
          Bool.and_eq_true] at hhex ⊢
        rw [hfull, hthree, ofDigits_eight (by simp [hhex]), ofDigits_six (by simp [hhex])]
        rfl
  · match digits, hdigits, alpha, halpha with
    | [a, b, c, d, e, f], _, [g, h], _ =>
        rw [List.cons_append, List.cons_append, List.cons_append, List.cons_append,
          List.cons_append, List.cons_append, List.nil_append] at hhex ⊢
        rw [ofDigits_eight hhex, ofDigits_six hshort]
        rfl

/-- A function's text with an alpha in front of the closing parenthesis is read as the same
function, whose arguments have this alpha. -/
theorem exists_notation_with_alpha {plain full : String} {space : Space}
    {body front part stray : List Char} {arguments : Arguments}
    (hform : Notation.ofText plain = .ok (.function space body))
    (hbody : Arguments.ofBody plain body = .ok arguments) (hnone : arguments.alpha = none)
    (hplain : plain.toList = front ++ ')' :: stray)
    (hpart : part ∈ alphaPart (alphaSeparator front))
    (hfull : full.toList = front ++ part ++ ')' :: stray) :
    ∃ other, ∃ alpha ∈ amount tolerated tolerated.stray,
      Notation.ofText full = .ok (.function space other) ∧
        Arguments.ofBody full other = .ok { arguments with alpha := some alpha } := by
  obtain ⟨name, hname, inner, hinner, behind, hbehind, hwhole, rfl⟩ :=
    exists_of_notation_function hform
  have hparen : ')' ∉ name := notMem_of_mem_namesOf hname (by decide)
  have hcomma : ',' ∉ name := notMem_of_mem_namesOf hname (by decide)
  have hinnerFree : ')' ∉ inner := notMem_of_mem_run hinner (by decide)
  -- there is one closing parenthesis, so the alpha stands behind the components
  have hfront : ')' ∉ name ++ '(' :: inner := by simp [hparen, hinnerFree]
  have hclose : ')' ∉ behind := by
    rcases hbehind with rfl | rfl
    · exact List.not_mem_nil
    · decide
  obtain ⟨rfl, -, rfl⟩ := (List.append_cons_inj_of_notMem hfront hclose).1
    (hwhole.symm.trans hplain)
  have hseparator : alphaSeparator (name ++ '(' :: inner) = alphaSeparator inner := by
    simp [alphaSeparator, hcomma]
  rw [hseparator] at hpart
  have hmark : isEnclosed (alphaSeparator inner) = true := by
    unfold alphaSeparator
    split <;> rfl
  have henclosed : inner ++ part ∈ run isEnclosed :=
    (isClosed_run _).mul (Language.append_mem_mul hinner (alphaPart_le_enclosed hmark hpart))
  rw [ofBody_trim] at hbody
  obtain ⟨alpha, halpha, hfullBody⟩ := ofBody_append_alphaPart hbody hnone hpart full
  rw [← ofBody_trim] at hfullBody
  exact ⟨_, alpha, halpha, notation_of_call hname henclosed hbehind (by simp [hfull]), hfullBody⟩

/-- A text and this text with an alpha are read as the same color but for its alpha, and they
have the same components of their own. -/
theorem AddsAlpha.readAlike {plain full : String} (hadds : AddsAlpha plain full) :
    (ofText full).map withoutAlpha = (ofText plain).map withoutAlpha ∧
      ownHsl? full = ownHsl? plain := by
  cases hadds with
  | @toFunction front part stray _ hthree hplain hpart hfull =>
      obtain ⟨space, body, arguments, hform, hbody, hnone⟩ := hthree
      obtain ⟨other, alpha, halpha, hfullForm, hfullBody⟩ :=
        exists_notation_with_alpha hform hbody hnone hplain hpart hfull
      obtain ⟨share, hshare⟩ := exists_readAlpha halpha
      refine ⟨?_, ?_⟩
      · rw [ofText_of_form hfullForm, ofText_of_form hform, Notation.toColor, Notation.toColor,
          hfullBody, hbody]
        exact withoutAlpha_ofArguments space hnone hshare
      · rw [ownHsl?, ownHsl?, hfullForm, hform]
        cases space with
        | rgb => rfl
        | hwb => rfl
        | hsl =>
            simp only [hfullBody, hbody]
            rfl
  | @toDigits digits alpha hcount hhex hplain hfull =>
      have hshort := mem_hexDigits_of_plain hcount hhex
      have hlong : digits ++ alpha ∈ Grammar.hexDigits [3, 4, 6, 8] := by
        refine ⟨hhex, ?_⟩
        simp only [List.length_append, List.mem_cons]
        omega
      rw [ofText_of_hexDigits hlong hfull, ofText_of_hexDigits hshort hplain,
        ownHsl?_of_hexDigits hlong hfull, ownHsl?_of_hexDigits hshort hplain]
      exact ⟨withoutAlpha_ofDigits hcount hhex, rfl⟩

/-- A color with an alpha is written like the color without it. -/
theorem AddsAlpha.resolve_eq {plain full : String} (hadds : AddsAlpha plain full)
    (encoding : Encoding) : resolve full encoding = resolve plain encoding :=
  resolve_congr_of_withoutAlpha hadds.readAlike.1 hadds.readAlike.2 encoding

theorem AddsAlpha.isColor_plain {plain full : String} (hadds : AddsAlpha plain full) :
    IsColor plain := by
  cases hadds with
  | toFunction hcolor => exact hcolor
  | @toDigits digits alpha hcount hhex hplain hfull =>
      have hdigits := mem_hexDigits_of_plain hcount hhex
      rw [IsColor, ofText_of_hexDigits hdigits hplain]
      obtain ⟨color, hcolor, -⟩ := exists_ofDigits_spells hdigits
      exact ⟨color, hcolor⟩

/-- With an alpha, a color is still a color. -/
theorem AddsAlpha.isColor_full {plain full : String} (hadds : AddsAlpha plain full) :
    IsColor full := by
  obtain ⟨written, hwritten⟩ := exists_resolve_of_isColor hadds.isColor_plain .hex
  rw [← hadds.resolve_eq] at hwritten
  exact (exists_resolve_iff full .hex).1 ⟨written, hwritten⟩

end Palette.Color
