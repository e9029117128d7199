import Palette.Proofs.Color.Component

/-!
# The texts of argument lists

`Arguments.ofBody` cuts a function's body at commas or at blanks and a slash.  It finds
arguments of given languages exactly in the lists of the grammar
(`exists_ofBody_iff`), provided that these languages keep clear of the separators.
-/

namespace Palette.Grammar

open Palette.Text Palette.Color

variable {text body : List Char}

/-! ## Blanks around a text -/

theorem append_mem_padded {language : Language Char} {core : List Char} (front behind : List Char)
    (hfront : front.all isBlank = true) (hcore : core ∈ language)
    (hbehind : behind.all isBlank = true) : front ++ core ++ behind ∈ padded language :=
  Language.append_mem_mul (Language.append_mem_mul hfront hcore) hbehind

/-- Blanks around solid texts are what trimming takes off. -/
theorem mem_padded_iff {language : Language Char} (hsolid : language ≤ solid) :
    text ∈ padded language ↔ trim text ∈ language := by
  constructor
  · intro htext
    obtain ⟨left, hleft, behind, hbehind, rfl⟩ := Language.mem_mul.1 htext
    obtain ⟨front, hfront, core, hcore, rfl⟩ := Language.mem_mul.1 hleft
    rw [trim_append hfront (hsolid hcore) hbehind]
    exact hcore
  · intro hcore
    obtain ⟨front, behind, hfront, hbehind, htext⟩ := exists_eq_append_trim text
    rw [htext]
    exact append_mem_padded front behind hfront hcore hbehind

/-- Three texts with a separator between them. -/
def triple (separator first second third : Language Char) : Language Char :=
  first * separator * second * separator * third

theorem append_mem_triple {separator first second third : Language Char}
    {one gap two next three : List Char} (hone : one ∈ first) (hgap : gap ∈ separator)
    (htwo : two ∈ second) (hnext : next ∈ separator) (hthree : three ∈ third) :
    one ++ gap ++ two ++ next ++ three ∈ triple separator first second third := by
  have hpair := Language.append_mem_mul (Language.append_mem_mul hone hgap) htwo
  exact Language.append_mem_mul (Language.append_mem_mul hpair hnext) hthree

/-- A list with commas is three components, or four. -/
theorem padded_commaList (first second third alpha : Language Char) :
    padded (commaList first second third alpha) =
      padded (triple (padded (mark ',')) first second third) +
        padded (triple (padded (mark ',')) first second third * (padded (mark ',') * alpha)) := by
  simp only [padded, commaList, triple, optional, mul_add, add_mul, mul_one, mul_assoc]

/-- Texts with blanks around them and commas between them. -/
def commaRow (language : Language Char) : List (Language Char) → Language Char
  | [] => padded language
  | next :: others => padded language * (mark ',' * commaRow next others)

/-- Blanks around the components belong to the separators. -/
theorem padded_triple (first second third : Language Char) :
    padded (triple (padded (mark ',')) first second third) = commaRow first [second, third] := by
  simp only [padded, triple, commaRow, mul_assoc]

theorem padded_triple_mul (first second third alpha : Language Char) :
    padded (triple (padded (mark ',')) first second third * (padded (mark ',') * alpha)) =
      commaRow first [second, third, alpha] := by
  simp only [padded, triple, commaRow, mul_assoc]

theorem padded_blankList (first second third alpha : Language Char) :
    padded (blankList first second third alpha) =
      padded (triple (row isBlank) first second third) * optional (mark '/' * padded alpha) := by
  simp only [padded, blankList, triple, optional, mul_add, add_mul, mul_one, mul_assoc]

/-! ## Arguments of given languages -/

/-- Arguments whose components and alpha belong to languages. -/
structure ArgumentsIn (first other alpha : Language Char) (arguments : Color.Arguments) : Prop where
  first : arguments.first ∈ first
  second : arguments.second ∈ other
  third : arguments.third ∈ other
  alpha : ∀ token ∈ arguments.alpha, token ∈ alpha

theorem ArgumentsIn.mono {first other alpha first' other' alpha' : Language Char}
    {arguments : Color.Arguments} (hin : ArgumentsIn first other alpha arguments)
    (hfirst : first ≤ first') (hother : other ≤ other') (halpha : alpha ≤ alpha') :
    ArgumentsIn first' other' alpha' arguments :=
  ⟨hfirst hin.first, hother hin.second, hother hin.third,
    fun token htoken => halpha (hin.alpha token htoken)⟩

theorem ofParts?_eq_some_iff {parts : List (List Char)} {alpha : Option (List Char)}
    {arguments : Color.Arguments} : Arguments.ofParts? parts alpha = some arguments ↔
      parts = [arguments.first, arguments.second, arguments.third] ∧ alpha = arguments.alpha ∧
        ¬ (arguments.first = [] ∨ arguments.second = [] ∨ arguments.third = [] ∨
          arguments.alpha = some []) := by
  constructor
  · intro hparts
    unfold Arguments.ofParts? at hparts
    split at hparts
    · split at hparts
      · cases hparts
      · rename_i hsome
        cases hparts
        exact ⟨rfl, rfl, hsome⟩
    · cases hparts
  · rintro ⟨rfl, rfl, hsome⟩
    rw [Arguments.ofParts?, if_neg hsome]

/-- Solid components and alphas are not empty, so they are taken. -/
theorem ArgumentsIn.ofParts?_eq {first other alpha : Language Char} {arguments : Color.Arguments}
    (harguments : ArgumentsIn first other alpha arguments) (hfirst : first ≤ solid)
    (hother : other ≤ solid) (halpha : alpha ≤ solid) :
    Arguments.ofParts? [arguments.first, arguments.second, arguments.third] arguments.alpha =
      some arguments := by
  refine ofParts?_eq_some_iff.2 ⟨rfl, rfl, ?_⟩
  rintro (hempty | hempty | hempty | hempty)
  · exact (hfirst harguments.first).ne_nil hempty
  · exact (hother harguments.second).ne_nil hempty
  · exact (hother harguments.third).ne_nil hempty
  · exact (halpha (harguments.alpha [] hempty)).ne_nil rfl

/-- Between two solid texts anything may stand. -/
theorem mul_le_solid {left middle right : Language Char} (hleft : left ≤ solid)
    (hright : right ≤ solid) : left * middle * right ≤ solid := by
  apply le_of_forall
  intro text htext
  obtain ⟨_, hcore, behind, hbehind, rfl⟩ := Language.mem_mul.1 htext
  obtain ⟨front, hfront, core, -, rfl⟩ := Language.mem_mul.1 hcore
  exact (hleft hfront).append (hright hbehind) core

theorem commaList_le_solid {first second third alpha : Language Char} (hfirst : first ≤ solid)
    (hthird : third ≤ solid) (halpha : alpha ≤ solid) :
    commaList first second third alpha ≤ solid := by
  have hends : commaList first second third alpha =
      first * (padded (mark ',') * second * padded (mark ',')) * third +
        first * (padded (mark ',') * second * padded (mark ',') * third * padded (mark ',')) *
          alpha := by
    simp only [commaList, optional, mul_add, mul_one, mul_assoc]
  rw [hends]
  exact add_le (mul_le_solid hfirst hthird) (mul_le_solid hfirst halpha)

theorem blankList_le_solid {first second third alpha : Language Char} (hfirst : first ≤ solid)
    (hthird : third ≤ solid) (halpha : alpha ≤ solid) :
    blankList first second third alpha ≤ solid := by
  have hends : blankList first second third alpha =
      first * (row isBlank * second * row isBlank) * third +
        first * (row isBlank * second * row isBlank * third * padded (mark '/')) * alpha := by
    simp only [blankList, optional, mul_add, mul_one, mul_assoc]
  rw [hends]
  exact add_le (mul_le_solid hfirst hthird) (mul_le_solid hfirst halpha)

/-! ## Between commas -/

/-- With blanks around it, a text without separators still has none. -/
theorem padded_le_inner {language : Language Char} (hinner : language ≤ run isInner) :
    padded language ≤ run isInner :=
  isClosed_inner.padded_le (run_le_inner (by decide)) hinner

theorem mem_mul_mark_iff {separator : Char} {language next : Language Char} :
    text ∈ language * (mark separator * next) ↔
      ∃ part ∈ language, ∃ rest ∈ next, text = part ++ separator :: rest := by
  constructor
  · intro htext
    obtain ⟨part, hpart, behind, hbehind, rfl⟩ := Language.mem_mul.1 htext
    obtain ⟨single, rfl, rest, hrest, rfl⟩ := Language.mem_mul.1 hbehind
    exact ⟨part, hpart, rest, hrest, rfl⟩
  · rintro ⟨part, hpart, rest, hrest, rfl⟩
    exact Language.append_mem_mul hpart (Language.append_mem_mul (a := [separator]) rfl hrest)

theorem mem_optional_mark_iff {separator : Char} {language : Language Char} :
    text ∈ optional (mark separator * language) ↔
      text = [] ∨ ∃ rest ∈ language, text = separator :: rest := by
  refine or_congr Iff.rfl ⟨fun htext => ?_, ?_⟩
  · obtain ⟨single, rfl, rest, hrest, rfl⟩ := Language.mem_mul.1 htext
    exact ⟨rest, hrest, rfl⟩
  · rintro ⟨rest, hrest, rfl⟩
    exact Language.append_mem_mul (a := [separator]) rfl hrest

/-- Parts of a text without separators are found again, trimmed. -/
theorem trim_mem_iff {language : Language Char} (hlanguage : language ≤ solid ⊓ run isInner) :
    text ∈ padded language ↔ trim text ∈ language :=
  mem_padded_iff (hlanguage.trans inf_le_left)

theorem comma_notMem_of_padded {language : Language Char}
    (hlanguage : language ≤ solid ⊓ run isInner) (htext : text ∈ padded language) : ',' ∉ text :=
  notMem_of_mem_run (padded_le_inner (hlanguage.trans inf_le_right) htext) (by decide)

/-- The first part of a text with a comma, and what the others are the parts of. -/
theorem exists_of_parts_eq_cons {part second : List Char} {others : List (List Char)}
    (hparts : parts ',' text = part :: second :: others) :
    ∃ rest, text = part ++ ',' :: rest ∧ parts ',' rest = second :: others := by
  have hfree : ',' ∉ part := separator_not_mem_of_mem_parts (hparts ▸ List.mem_cons_self)
  have hjoin : [','].intercalate (parts ',' text) = text := intercalate_parts text
  rw [hparts, List.intercalate_cons_cons, List.append_assoc, List.singleton_append] at hjoin
  refine ⟨_, hjoin.symm, ?_⟩
  rw [← hjoin, parts_append_separator _ hfree] at hparts
  exact (List.cons.inj hparts).2

theorem eq_of_parts_eq_singleton {part : List Char} (hparts : parts ',' text = [part]) :
    text = part := by
  have hjoin : [','].intercalate (parts ',' text) = text := intercalate_parts text
  rw [← hjoin, hparts, List.intercalate_singleton]

/-- The parts of a row of texts belong to the languages one by one. -/
theorem mem_commaRow_iff {language : Language Char} {others : List (Language Char)}
    (hlanguage : language ≤ solid ⊓ run isInner)
    (hothers : ∀ other ∈ others, other ≤ solid ⊓ run isInner) :
    body ∈ commaRow language others ↔
      List.Forall₂ (fun part language => trim part ∈ language) (parts ',' body)
        (language :: others) := by
  induction others generalizing body language with
  | nil =>
      rw [commaRow]
      constructor
      · intro hbody
        rw [parts_eq_singleton (comma_notMem_of_padded hlanguage hbody)]
        exact .cons ((trim_mem_iff hlanguage).1 hbody) .nil
      · intro hparts
        obtain ⟨part, _, hpart, hnone, hsplit⟩ := List.forall₂_cons_right_iff.1 hparts
        obtain rfl := List.forall₂_nil_right_iff.1 hnone
        rw [eq_of_parts_eq_singleton hsplit]
        exact (trim_mem_iff hlanguage).2 hpart
  | cons next others ih =>
      have hnext := hothers next List.mem_cons_self
      have hrest : ∀ other ∈ others, other ≤ solid ⊓ run isInner :=
        fun other hother => hothers other (List.mem_cons_of_mem next hother)
      rw [commaRow, mem_mul_mark_iff]
      constructor
      · rintro ⟨part, hpart, behind, hbehind, rfl⟩
        rw [parts_append_separator _ (comma_notMem_of_padded hlanguage hpart)]
        exact .cons ((trim_mem_iff hlanguage).1 hpart) ((ih hnext hrest).1 hbehind)
      · intro hparts
        obtain ⟨part, _, hpart, hmore, hsplit⟩ := List.forall₂_cons_right_iff.1 hparts
        obtain ⟨second, more, -, -, rfl⟩ := List.forall₂_cons_right_iff.1 hmore
        obtain ⟨behind, rfl, hbehind⟩ := exists_of_parts_eq_cons hsplit
        exact ⟨part, (trim_mem_iff hlanguage).2 hpart, behind,
          (ih hnext hrest).2 (hbehind ▸ hmore), rfl⟩

section

variable {first second third alpha : Language Char}
variable (hfirst : first ≤ solid ⊓ run isInner) (hsecond : second ≤ solid ⊓ run isInner)
variable (hthird : third ≤ solid ⊓ run isInner)
include hfirst hsecond hthird

/-- The parts of three components with commas between them. -/
theorem mem_triple_iff : body ∈ padded (triple (padded (mark ',')) first second third) ↔
    ∃ one two three : List Char, trim one ∈ first ∧ trim two ∈ second ∧ trim three ∈ third ∧
      parts ',' body = [one, two, three] := by
  have hothers : ∀ other ∈ [second, third], other ≤ solid ⊓ run isInner := by
    simp only [List.forall_mem_cons, hsecond, hthird, true_and]
    exact fun other hother => absurd hother List.not_mem_nil
  rw [padded_triple, mem_commaRow_iff hfirst hothers]
  simp only [List.forall₂_cons_right_iff, List.forall₂_nil_right_iff]
  constructor
  · rintro ⟨one, _, hone, ⟨two, _, htwo, ⟨three, _, hthree, rfl, rfl⟩, rfl⟩, hparts⟩
    exact ⟨one, two, three, hone, htwo, hthree, hparts⟩
  · rintro ⟨one, two, three, hone, htwo, hthree, hparts⟩
    exact ⟨one, _, hone, ⟨two, _, htwo, ⟨three, _, hthree, rfl, rfl⟩, rfl⟩, hparts⟩

/-- The parts of three components and an alpha with commas between them. -/
theorem mem_triple_mul_iff (halpha : alpha ≤ solid ⊓ run isInner) :
    body ∈ padded (triple (padded (mark ',')) first second third * (padded (mark ',') * alpha)) ↔
      ∃ one two three four : List Char, trim one ∈ first ∧ trim two ∈ second ∧
        trim three ∈ third ∧ trim four ∈ alpha ∧ parts ',' body = [one, two, three, four] := by
  have hothers : ∀ other ∈ [second, third, alpha], other ≤ solid ⊓ run isInner := by
    simp only [List.forall_mem_cons, hsecond, hthird, halpha, true_and]
    exact fun other hother => absurd hother List.not_mem_nil
  rw [padded_triple_mul, mem_commaRow_iff hfirst hothers]
  simp only [List.forall₂_cons_right_iff, List.forall₂_nil_right_iff]
  constructor
  · rintro ⟨one, _, hone, ⟨two, _, htwo, ⟨three, _, hthree, ⟨four, _, hfour, rfl, rfl⟩, rfl⟩,
      rfl⟩, hparts⟩
    exact ⟨one, two, three, four, hone, htwo, hthree, hfour, hparts⟩
  · rintro ⟨one, two, three, four, hone, htwo, hthree, hfour, hparts⟩
    exact ⟨one, _, hone, ⟨two, _, htwo, ⟨three, _, hthree, ⟨four, _, hfour, rfl, rfl⟩, rfl⟩, rfl⟩,
      hparts⟩

end

section

variable {first other alpha : Language Char}
variable (hfirst : first ≤ solid ⊓ run isInner) (hother : other ≤ solid ⊓ run isInner)
variable (halpha : alpha ≤ solid ⊓ run isInner)
include hfirst hother halpha

/-- The parts of a list with commas. -/
theorem mem_commaList_iff : body ∈ padded (commaList first other other alpha) ↔
    ∃ one two three : List Char, trim one ∈ first ∧ trim two ∈ other ∧ trim three ∈ other ∧
      (parts ',' body = [one, two, three] ∨
        ∃ four, trim four ∈ alpha ∧ parts ',' body = [one, two, three, four]) := by
  rw [padded_commaList, Language.mem_add, mem_triple_iff hfirst hother hother,
    mem_triple_mul_iff hfirst hother hother halpha]
  constructor
  · rintro (⟨one, two, three, hone, htwo, hthree, hparts⟩ |
      ⟨one, two, three, four, hone, htwo, hthree, hfour, hparts⟩)
    · exact ⟨one, two, three, hone, htwo, hthree, Or.inl hparts⟩
    · exact ⟨one, two, three, hone, htwo, hthree, Or.inr ⟨four, hfour, hparts⟩⟩
  · rintro ⟨one, two, three, hone, htwo, hthree, hparts | ⟨four, hfour, hparts⟩⟩
    · exact Or.inl ⟨one, two, three, hone, htwo, hthree, hparts⟩
    · exact Or.inr ⟨one, two, three, four, hone, htwo, hthree, hfour, hparts⟩

/-- The parts between commas are arguments exactly in a list with commas. -/
theorem exists_ofCommas?_iff (body : List Char) :
    (∃ arguments, Arguments.ofCommas? body = some arguments ∧
      ArgumentsIn first other alpha arguments) ↔
      body ∈ padded (commaList first other other alpha) := by
  rw [mem_commaList_iff hfirst hother halpha]
  constructor
  · rintro ⟨arguments, hcommas, harguments⟩
    unfold Arguments.ofCommas? at hcommas
    -- a fourth part is the alpha, and with any other number of parts there is none
    generalize parts ',' body = found at hcommas
    split at hcommas
    · rename_i a b c d hparts
      obtain ⟨hthree, hfour, -⟩ := ofParts?_eq_some_iff.1 hcommas
      obtain ⟨one, _, rfl, hone, hrest⟩ := List.map_eq_cons_iff.1 hparts
      obtain ⟨two, _, rfl, htwo, hrest⟩ := List.map_eq_cons_iff.1 hrest
      obtain ⟨three, _, rfl, hlast, hrest⟩ := List.map_eq_cons_iff.1 hrest
      obtain ⟨four, _, rfl, halphaPart, hrest⟩ := List.map_eq_cons_iff.1 hrest
      obtain rfl := List.map_eq_nil_iff.1 hrest
      simp only [List.cons.injEq, and_true] at hthree
      obtain ⟨rfl, rfl, rfl⟩ := hthree
      exact ⟨one, two, three, hone ▸ harguments.first, htwo ▸ harguments.second,
        hlast ▸ harguments.third, Or.inr ⟨four, harguments.alpha _ (halphaPart ▸ hfour.symm), rfl⟩⟩
    · obtain ⟨hthree, -, -⟩ := ofParts?_eq_some_iff.1 hcommas
      obtain ⟨one, _, rfl, hone, hrest⟩ := List.map_eq_cons_iff.1 hthree
      obtain ⟨two, _, rfl, htwo, hrest⟩ := List.map_eq_cons_iff.1 hrest
      obtain ⟨three, _, rfl, hlast, hrest⟩ := List.map_eq_cons_iff.1 hrest
      obtain rfl := List.map_eq_nil_iff.1 hrest
      exact ⟨one, two, three, hone ▸ harguments.first, htwo ▸ harguments.second,
        hlast ▸ harguments.third, Or.inl rfl⟩
  · rintro ⟨one, two, three, hone, htwo, hthree, hparts | ⟨four, hfour, hparts⟩⟩
    · have hin : ArgumentsIn first other alpha ⟨trim one, trim two, trim three, none⟩ :=
        ⟨hone, htwo, hthree, by rintro _ ⟨⟩⟩
      refine ⟨_, ?_, hin⟩
      simp only [Arguments.ofCommas?, hparts, List.map_cons, List.map_nil]
      exact hin.ofParts?_eq (hfirst.trans inf_le_left) (hother.trans inf_le_left)
        (halpha.trans inf_le_left)
    · have hin : ArgumentsIn first other alpha ⟨trim one, trim two, trim three, some (trim four)⟩ :=
        ⟨hone, htwo, hthree, by rintro _ ⟨⟩; exact hfour⟩
      refine ⟨_, ?_, hin⟩
      simp only [Arguments.ofCommas?, hparts, List.map_cons, List.map_nil]
      exact hin.ofParts?_eq (hfirst.trans inf_le_left) (hother.trans inf_le_left)
        (halpha.trans inf_le_left)

end

/-! ## Between blanks -/

theorem all_ne_of_notMem {separator : Char} (htext : separator ∉ text) :
    text.all (· != separator) = true := by
  rw [List.all_eq_true]
  intro character hcharacter
  rw [bne_iff_ne]
  rintro rfl
  exact htext hcharacter

theorem ofWords?_append {front : List Char} (hfront : '/' ∉ front) (rest : List Char) :
    Arguments.ofWords? (front ++ '/' :: rest) =
      Arguments.ofParts? (words front) (some (trim rest)) := by
  have hslash : ∀ character ∈ ('/' :: rest).head?, (character != '/') = false := by
    rintro character ⟨⟩
    rfl
  obtain ⟨htake, hdrop⟩ := span_append (all_ne_of_notMem hfront) hslash
  simp only [Arguments.ofWords?, htake, hdrop]

theorem ofWords?_of_notMem (hbody : '/' ∉ body) :
    Arguments.ofWords? body = Arguments.ofParts? (words body) none := by
  have hnone : ∀ character ∈ ([] : List Char).head?, (character != '/') = false := by
    rintro _ ⟨⟩
  have hdrop := (span_append (all_ne_of_notMem hbody) hnone).2
  rw [List.append_nil] at hdrop
  simp only [Arguments.ofWords?, hdrop]

theorem beginsWord_append {gap : List Char} (hgap : gap ∈ row isBlank) (rest : List Char) :
    beginsWord (gap ++ rest) = false :=
  beginsWord_append_of_blanks hgap.1 hgap.2 rest

/-- The end of a text that consists of one word and blanks. -/
theorem words_append_blanks {word behind : List Char} (hne : word ≠ [])
    (hword : ∀ character ∈ word, isBlank character = false) (hbehind : behind ∈ run isBlank) :
    words (word ++ behind) = [word] := by
  rw [words_append_right hbehind, words_of_unbroken hne hword]

/-- What stands in front of a word, behind another one, is a gap. -/
theorem gap_of_beginsWord {gap word rest : List Char} (hgap : gap.all isBlank = true)
    (hne : word ≠ []) (hword : ∀ character ∈ word, isBlank character = false)
    (hbegins : beginsWord (gap ++ word ++ rest) = false) : gap ∈ row isBlank := by
  refine ⟨?_, hgap⟩
  rintro rfl
  cases word with
  | nil => exact hne rfl
  | cons letter word => simp [beginsWord, hword letter (by simp)] at hbegins

section

variable {first second third : Language Char}
variable (hfirst : first ≤ solid) (hsecond : second ≤ solid) (hthird : third ≤ solid)
include hfirst hsecond hthird

/-- The words of three components with blanks between them. -/
theorem mem_wordList_iff :
    text ∈ padded (triple (row isBlank) (first ⊓ unbroken) (second ⊓ unbroken)
      (third ⊓ unbroken)) ↔
      ∃ one ∈ first, ∃ two ∈ second, ∃ three ∈ third, words text = [one, two, three] := by
  constructor
  · intro htext
    obtain ⟨_, hleft, behind, hbehind, rfl⟩ := Language.mem_mul.1 htext
    obtain ⟨front, hfront, _, hcore, rfl⟩ := Language.mem_mul.1 hleft
    obtain ⟨_, hupToNext, three, hthree, rfl⟩ := Language.mem_mul.1 hcore
    obtain ⟨_, hupToTwo, next, hnext, rfl⟩ := Language.mem_mul.1 hupToNext
    obtain ⟨_, hupToGap, two, htwo, rfl⟩ := Language.mem_mul.1 hupToTwo
    obtain ⟨one, hone, gap, hgap, rfl⟩ := Language.mem_mul.1 hupToGap
    refine ⟨one, hone.1, two, htwo.1, three, hthree.1, ?_⟩
    -- each gap ends the word in front of it, and is skipped before the next one
    simp only [List.append_assoc]
    rw [words_append_left hfront,
      words_append (hfirst hone.1).ne_nil (isBlank_of_mem_unbroken hone.2)
        (beginsWord_append hgap _), words_append_left hgap.2,
      words_append (hsecond htwo.1).ne_nil (isBlank_of_mem_unbroken htwo.2)
        (beginsWord_append hnext _), words_append_left hnext.2,
      words_append_blanks (hthird hthree.1).ne_nil (isBlank_of_mem_unbroken hthree.2) hbehind]
  · rintro ⟨one, hone, two, htwo, three, hthree, hwords⟩
    obtain ⟨front, rest, rfl, hfront, hneOne, hletterOne, hbegins, hwords⟩ :=
      exists_of_words_eq_cons hwords
    obtain ⟨gap, rest, rfl, hgap, hneTwo, hletterTwo, hbeginsNext, hwords⟩ :=
      exists_of_words_eq_cons hwords
    obtain ⟨next, rest, rfl, hnext, hneThree, hletterThree, -, hwords⟩ :=
      exists_of_words_eq_cons hwords
    have hunbroken {word : List Char} (hword : ∀ character ∈ word, isBlank character = false) :
        word ∈ unbroken :=
      List.all_eq_true.2 fun character hcharacter => by rw [hword character hcharacter]; rfl
    have hgapRow := gap_of_beginsWord hgap hneTwo hletterTwo hbegins
    have hnextRow := gap_of_beginsWord hnext hneThree hletterThree hbeginsNext
    have hbehind : rest ∈ run isBlank := List.all_eq_true.2 ((words_eq_nil_iff rest).1 hwords)
    have honeMem : one ∈ first ⊓ unbroken := ⟨hone, hunbroken hletterOne⟩
    have htwoMem : two ∈ second ⊓ unbroken := ⟨htwo, hunbroken hletterTwo⟩
    have hthreeMem : three ∈ third ⊓ unbroken := ⟨hthree, hunbroken hletterThree⟩
    have hcore := append_mem_triple honeMem hgapRow htwoMem hnextRow hthreeMem
    have hmem := append_mem_padded front rest hfront hcore hbehind
    simpa only [List.append_assoc] using hmem

end

theorem slash_notMem_of_wordList {first second third : Language Char}
    (hfirst : first ≤ run isInner) (hsecond : second ≤ run isInner) (hthird : third ≤ run isInner)
    (htext : text ∈ padded (triple (row isBlank) first second third)) : '/' ∉ text := by
  have hgap : row isBlank ≤ run isInner := (row_le_run isBlank).trans (run_le_inner (by decide))
  have hpair := isClosed_inner.mul_le (isClosed_inner.mul_le hfirst hgap) hsecond
  have htriple := isClosed_inner.mul_le (isClosed_inner.mul_le hpair hgap) hthird
  exact notMem_of_mem_run (padded_le_inner htriple htext) (by decide)

section

variable {first other alpha : Language Char}
variable (hfirst : first ≤ solid) (hother : other ≤ solid)
include hfirst hother

variable (hfirstInner : first ≤ run isInner) (hotherInner : other ≤ run isInner)
variable (halpha : alpha ≤ solid)
include hfirstInner hotherInner halpha

/-- The words of a text are arguments, with what stands behind its first slash, exactly in
a list with blanks. -/
theorem exists_ofWords?_iff (body : List Char) :
    (∃ arguments, Arguments.ofWords? body = some arguments ∧
      ArgumentsIn first other alpha arguments) ↔
      body ∈ padded (blankList (first ⊓ unbroken) (other ⊓ unbroken) (other ⊓ unbroken) alpha) := by
  rw [padded_blankList]
  constructor
  · rintro ⟨arguments, hwords, harguments⟩
    -- only the first slash counts: a second one would be part of the alpha
    by_cases hslash : '/' ∈ body
    · obtain ⟨front, rest, rfl, hfree⟩ := List.eq_append_cons_of_mem hslash
      rw [ofWords?_append hfree, ofParts?_eq_some_iff] at hwords
      obtain ⟨hthree, hrest, -⟩ := hwords
      refine Language.append_mem_mul ((mem_wordList_iff hfirst hother hother).2
        ⟨_, harguments.first, _, harguments.second, _, harguments.third, hthree⟩) ?_
      refine mem_optional_mark_iff.2 (Or.inr ⟨rest, ?_, rfl⟩)
      exact (mem_padded_iff halpha).2 (harguments.alpha _ hrest.symm)
    · rw [ofWords?_of_notMem hslash, ofParts?_eq_some_iff] at hwords
      rw [← List.append_nil body]
      exact Language.append_mem_mul ((mem_wordList_iff hfirst hother hother).2
        ⟨_, harguments.first, _, harguments.second, _, harguments.third, hwords.1⟩) (Or.inl rfl)
  · intro hbody
    obtain ⟨front, hfront, behind, hbehind, rfl⟩ := Language.mem_mul.1 hbody
    have hfree := slash_notMem_of_wordList (inf_le_left.trans hfirstInner)
      (inf_le_left.trans hotherInner) (inf_le_left.trans hotherInner) hfront
    obtain ⟨one, hone, two, htwo, three, hthree, hwords⟩ :=
      (mem_wordList_iff hfirst hother hother).1 hfront
    rcases mem_optional_mark_iff.1 hbehind with rfl | ⟨rest, hrest, rfl⟩
    · have hin : ArgumentsIn first other alpha ⟨one, two, three, none⟩ :=
        ⟨hone, htwo, hthree, by rintro _ ⟨⟩⟩
      rw [List.append_nil, ofWords?_of_notMem hfree, hwords]
      exact ⟨_, hin.ofParts?_eq hfirst hother halpha, hin⟩
    · have hin : ArgumentsIn first other alpha ⟨one, two, three, some (trim rest)⟩ :=
        ⟨hone, htwo, hthree, by rintro _ ⟨⟩; exact (mem_padded_iff halpha).1 hrest⟩
      rw [ofWords?_append hfree, hwords]
      exact ⟨_, hin.ofParts?_eq hfirst hother halpha, hin⟩

end

/-! ## The body of a function -/

theorem comma_mem_of_commaList {first second third alpha : Language Char}
    (hbody : body ∈ padded (commaList first second third alpha)) : ',' ∈ body := by
  rw [padded_commaList, padded_triple, padded_triple_mul] at hbody
  rcases hbody with hbody | hbody
  · obtain ⟨one, -, rest, -, rfl⟩ := mem_mul_mark_iff.1 hbody
    simp
  · obtain ⟨one, -, rest, -, rfl⟩ := mem_mul_mark_iff.1 hbody
    simp

theorem inner_le_run_ne {separator : Char} (hseparator : isInner separator = false) :
    run isInner ≤ run (· != separator) := by
  refine run_le_run fun character hinner => ?_
  rw [bne_iff_ne]
  rintro rfl
  rw [hseparator] at hinner
  cases hinner

section

variable {first other alpha : Language Char}
variable (hfirst : first ≤ run isInner) (hother : other ≤ run isInner)
variable (halpha : alpha ≤ run isInner)
include hfirst hother halpha

theorem slash_notMem_of_commaList (hbody : body ∈ padded (commaList first other other alpha)) :
    '/' ∉ body := by
  have hinner : run isInner ≤ run (· != '/') := inner_le_run_ne (by decide)
  have hclosed := isClosed_run (· != '/')
  have hblank : run isBlank ≤ run (· != '/') := (run_le_inner (by decide)).trans hinner
  refine notMem_of_mem_run (hclosed.padded_le hblank ?_ hbody) (by decide)
  exact hclosed.commaList_le hblank (mark_le_run (by decide)) (hfirst.trans hinner)
    (hother.trans hinner) (halpha.trans hinner)

theorem comma_notMem_of_blankList (hbody : body ∈ padded (blankList first other other alpha)) :
    ',' ∉ body := by
  have hinner : run isInner ≤ run (· != ',') := inner_le_run_ne (by decide)
  have hclosed := isClosed_run (· != ',')
  have hblank : run isBlank ≤ run (· != ',') := (run_le_inner (by decide)).trans hinner
  refine notMem_of_mem_run (hclosed.padded_le hblank ?_ hbody) (by decide)
  exact hclosed.blankList_le hblank (mark_le_run (by decide)) (hfirst.trans hinner)
    (hother.trans hinner) (halpha.trans hinner)

end

theorem elim_eq_ok_iff {ε α : Type} {fault : ε} {found : Option α} {value : α} :
    found.elim (Except.error fault) Except.ok = .ok value ↔ found = some value := by
  cases found with
  | none => simp
  | some other => simp

section

variable {first other : Language Char → Language Char}

/-- Components between commas, and between blanks the same ones without a blank. -/
structure IsComponent (component : Language Char → Language Char) : Prop where
  solid : component tolerated.stray ≤ solid
  inner : component tolerated.stray ≤ run isInner
  one : component 1 = component tolerated.stray ⊓ unbroken

theorem isComponent_hue : IsComponent fun _ => hue tolerated where
  solid := hue_le_solid
  inner := hue_le_inner
  one := (inf_eq_left.2 hue_le_unbroken).symm

theorem isComponent_percentage : IsComponent (percentage tolerated) where
  solid := percentage_le_solid
  inner := percentage_le_inner
  one := by
    apply le_antisymm
    · refine le_inf ?_ percentage_le_unbroken
      exact mul_le_mul' (le_refl _) (mul_le_mul' (fun _ hnone => Or.inl hnone) (le_refl _))
    · exact le_of_forall fun _ htext => percentage_one_of_unbroken htext.1 htext.2

theorem isComponent_amount : IsComponent (amount tolerated) where
  solid := amount_le_solid
  inner := amount_le_inner
  one := by
    apply le_antisymm
    · refine le_inf (add_le_add (le_refl _) ?_) amount_le_unbroken
      rw [isComponent_percentage.one]
      exact inf_le_left
    · exact le_of_forall fun _ htext => amount_one_of_unbroken htext.1 htext.2

theorem IsComponent.one_le {component : Language Char → Language Char}
    (hcomponent : IsComponent component) : component 1 ≤ component tolerated.stray := by
  rw [hcomponent.one]
  exact inf_le_left

theorem IsComponent.one_le_inner {component : Language Char → Language Char}
    (hcomponent : IsComponent component) : component 1 ≤ run isInner :=
  hcomponent.one_le.trans hcomponent.inner

variable (hfirst : IsComponent first) (hother : IsComponent other)
include hfirst hother

theorem arguments_le_solid : arguments tolerated first other ≤ solid := by
  have hone {component : Language Char → Language Char} (hcomponent : IsComponent component) :
      component 1 ≤ solid := hcomponent.one_le.trans hcomponent.solid
  exact add_le (commaList_le_solid hfirst.solid hother.solid amount_le_solid)
    (blankList_le_solid (hone hfirst) (hone hother) amount_le_solid)

/-- The body of a function splits into tolerated arguments exactly if it is a list of
them. -/
theorem exists_ofBody_iff (whole : String) :
    (∃ arguments, Arguments.ofBody whole body = .ok arguments ∧
      ArgumentsIn (first tolerated.stray) (other tolerated.stray)
        (amount tolerated tolerated.stray) arguments) ↔
      body ∈ padded (arguments tolerated first other) := by
  have halpha := isComponent_amount
  have hsolidInner {component : Language Char → Language Char}
      (hcomponent : IsComponent component) : component tolerated.stray ≤ solid ⊓ run isInner :=
    le_inf hcomponent.solid hcomponent.inner
  have hcommas := exists_ofCommas?_iff (hsolidInner hfirst) (hsolidInner hother)
    (hsolidInner halpha) body
  have hwords := exists_ofWords?_iff hfirst.solid hother.solid hfirst.inner hother.inner
    halpha.solid body
  rw [← hfirst.one, ← hother.one] at hwords
  have hlists : padded (arguments tolerated first other) =
      padded (commaList (first tolerated.stray) (other tolerated.stray) (other tolerated.stray)
        (amount tolerated tolerated.stray)) +
      padded (blankList (first 1) (other 1) (other 1) (amount tolerated tolerated.stray)) := by
    simp only [padded, arguments, mul_add, add_mul]
  rw [hlists, Language.mem_add]
  unfold Arguments.ofBody
  simp only
  -- a comma in the body decides which of the two lists it can be
  by_cases hcomma : ',' ∈ body
  · have hnoWords : body ∉ padded (blankList (first 1) (other 1) (other 1)
        (amount tolerated tolerated.stray)) := fun hbody =>
      comma_notMem_of_blankList hfirst.one_le_inner hother.one_le_inner halpha.inner hbody hcomma
    rw [if_pos hcomma, or_iff_left hnoWords]
    by_cases hslash : '/' ∈ body
    · rw [if_pos hslash]
      refine iff_of_false (by rintro ⟨_, ⟨⟩, -⟩) fun hbody => ?_
      exact slash_notMem_of_commaList hfirst.inner hother.inner halpha.inner hbody hslash
    · rw [if_neg hslash, ← hcommas]
      simp only [elim_eq_ok_iff]
  · have hnoCommas : body ∉ padded (commaList (first tolerated.stray) (other tolerated.stray)
        (other tolerated.stray) (amount tolerated tolerated.stray)) := fun hbody =>
      hcomma (comma_mem_of_commaList hbody)
    rw [if_neg hcomma, or_iff_right hnoCommas, ← hwords]
    simp only [elim_eq_ok_iff]

end

end Palette.Grammar
