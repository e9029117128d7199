import Palette.Proofs.Color.Grammar

/-!
# What shows that a color is not in the documented form

A text that is tolerated without being in the documented form shows it (`HasLapse`): it
ends in a line feed, has a line feed in front of a percent sign, or holds a foreign
character, which is a digit of another script or a long s.  A text in the documented form
never does (`mem_documented_iff`).
-/

namespace Palette.Grammar

open Palette.Text

/-- A digit of another script, or a long s. -/
def isForeign (character : Char) : Bool :=
  (isDigit character && !character.isDigit) || character == '\u017F'

/-- A text with a line feed at its end or in front of a percent sign, or with a foreign
character. -/
def HasLapse (text : List Char) : Prop :=
  text.getLast? = some '\n' ∨ ['\n', '%'] <:+: text ∨ ∃ character ∈ text, isForeign character = true

/-- A text without a lapse but perhaps at its end. -/
def IsPlain (text : List Char) : Prop :=
  ¬ ['\n', '%'] <:+: text ∧ ∀ character ∈ text, isForeign character = false

theorem hasLapse_iff (text : List Char) :
    HasLapse text ↔ text.getLast? = some '\n' ∨ ¬ IsPlain text := by
  have hforeign : (∃ character ∈ text, isForeign character = true) ↔
      ¬ ∀ character ∈ text, isForeign character = false := by
    simp
  rw [HasLapse, hforeign, IsPlain, not_and_or, not_not]

/-! ## Between the documented form and what is tolerated -/

theorem documented_carries : documented.Carries (fun _ => True) tolerated where
  parts := fun _ _ _ _ => trivial
  isDigit := fun _ _ hdigit => isDigit_of_ascii hdigit
  stray := Carries.mul (fun _ _ _ _ => trivial) (fun _ htext _ => Or.inl htext) (carries_refl _)
  furtherNames := fun text htext _ => absurd htext (Language.notMem_zero text)

theorem passesToParts_isPlain : PassesToParts IsPlain := by
  intro part whole hpart hplain
  exact ⟨fun hpair => hplain.1 (hpair.trans hpart),
    fun character hcharacter => hplain.2 character (hpart.subset hcharacter)⟩

/-- A word with a long s is not plain. -/
theorem not_isPlain_of_longS {name : String} {text : List Char} (hname : '\u017F' ∈ name.toList)
    (htext : text ∈ word name) : ¬ IsPlain text := by
  rintro ⟨-, hplain⟩
  rw [← mem_word.1 htext, List.mem_map] at hname
  obtain ⟨character, hcharacter, hlower⟩ := hname
  rw [eq_of_toLower_eq (by decide) hlower] at hcharacter
  exact absurd (hplain _ hcharacter) (by decide)

theorem tolerated_carries : tolerated.Carries IsPlain documented where
  parts := passesToParts_isPlain
  isDigit := by
    rintro character ⟨-, hplain⟩ hdigit
    have hforeign := hplain character (List.mem_singleton_self character)
    have hdigit : isDigit character = true := hdigit
    rw [isForeign, hdigit, Bool.or_eq_false_iff, Bool.true_and, Bool.not_eq_false'] at hforeign
    exact hforeign.1
  stray := by
    intro text htext hplain
    obtain ⟨stray, hstray, percent, rfl, rfl⟩ := Language.mem_mul.1 htext
    rcases hstray with rfl | rfl
    · exact Language.append_mem_mul Language.nil_mem_one rfl
    · exact absurd (List.infix_refl _) hplain.1
  furtherNames := by
    rintro text (hshort | hlong) hplain
    · exact absurd hplain (not_isPlain_of_longS (by decide) hshort)
    · exact absurd hplain (not_isPlain_of_longS (by decide) hlong)

/-! ## The documented form shows no lapse -/

/-- The plain texts that can be joined: none begins with a percent sign. -/
def sound : Language Char := {text | IsPlain text ∧ text.head? ≠ some '%'}

/-- A pair of characters in a joined text stands in one of its parts or where they meet. -/
theorem pair_infix_append {first second : Char} {left right : List Char}
    (hpair : [first, second] <:+: left ++ right) :
    [first, second] <:+: left ∨ [first, second] <:+: right ∨ right.head? = some second := by
  obtain ⟨front, rest, heq⟩ := hpair
  -- the cut lies in front of the pair, behind it, or between its characters
  rcases List.append_eq_append_iff.1 heq with ⟨middle, rfl, -⟩ | ⟨middle, hsplit, rfl⟩
  · exact Or.inl ⟨front, middle, rfl⟩
  · rcases List.append_eq_append_iff.1 hsplit with ⟨part, rfl, hparts⟩ | ⟨part, -, rfl⟩
    · match part, hparts with
      | [], hparts => exact Or.inr (Or.inl ⟨[], rest, by rw [hparts]; rfl⟩)
      | [_], hparts =>
          rw [List.singleton_append, List.cons.injEq] at hparts
          exact Or.inr (Or.inr (by rw [← hparts.2]; rfl))
      | [_, _], hparts =>
          simp only [List.cons_append, List.nil_append, List.cons.injEq] at hparts
          exact Or.inl ⟨front, [], by simp [hparts.1, hparts.2.1]⟩
    · exact Or.inr (Or.inl ⟨part, rest, rfl⟩)

theorem isClosed_sound : IsClosed sound where
  one := by
    apply le_of_forall
    rintro text rfl
    exact ⟨⟨by simp, by simp⟩, by simp⟩
  mul := by
    apply le_of_forall
    intro text htext
    obtain ⟨left, ⟨hleft, hhead⟩, right, ⟨hright, hmeet⟩, rfl⟩ := Language.mem_mul.1 htext
    refine ⟨⟨fun hpair => ?_, fun character hcharacter => ?_⟩, ?_⟩
    · rcases pair_infix_append hpair with hin | hin | hin
      · exact hleft.1 hin
      · exact hright.1 hin
      · exact hmeet hin
    · rcases List.mem_append.1 hcharacter with hin | hin
      · exact hleft.2 character hin
      · exact hright.2 character hin
    · cases left with
      | nil => exact hmeet
      | cons first rest => exact hhead

theorem run_le_sound {isOf : Char → Bool}
    (hof : ∀ character, isOf character = true → isForeign character = false ∧ character ≠ '%') :
    run isOf ≤ sound := by
  apply le_of_forall
  intro text htext
  rw [mem_run, List.all_eq_true] at htext
  refine ⟨⟨fun hpair => ?_, fun character hcharacter => (hof _ (htext _ hcharacter)).1⟩, ?_⟩
  · exact (hof _ (htext '%' (hpair.subset (by simp)))).2 rfl
  · intro hhead
    exact (hof _ (htext '%' (List.mem_of_mem_head? hhead))).2 rfl

theorem isForeign_of_lt {character : Char} (hascii : character.toNat < 0x80) :
    isForeign character = false := by
  have hlong : character ≠ '\u017F' := by
    rintro rfl
    exact absurd hascii (by decide)
  rw [isForeign, beq_eq_false_iff_ne.2 hlong, Bool.or_false]
  cases hdigit : isDigit character with
  | false => rfl
  | true =>
      rw [(isDigit_iff_of_lt hascii).1 hdigit]
      rfl

theorem run_isBlank_le_sound : run isBlank ≤ sound := by
  refine run_le_sound fun character hblank => ⟨?_, ?_⟩
  · have hlong : character ≠ '\u017F' := by
      rintro rfl
      exact absurd hblank (by decide)
    rw [isForeign, isDigit_of_isBlank hblank, beq_eq_false_iff_ne.2 hlong]
    rfl
  · rintro rfl
    exact absurd hblank (by decide)

theorem run_isAlpha_le_sound : run Char.isAlpha ≤ sound := by
  refine run_le_sound fun character halpha => ?_
  have hbounds := isAlpha_bounds halpha
  refine ⟨isForeign_of_lt (by omega), ?_⟩
  rintro rfl
  exact absurd halpha (by decide)

theorem mark_le_sound {character : Char} (hcharacter : isForeign character = false)
    (hpercent : character ≠ '%') : mark character ≤ sound := by
  have hrun : mark character ≤ run (· == character) := mark_le_run (beq_self_eq_true character)
  refine hrun.trans (run_le_sound ?_)
  intro other hother
  rw [beq_iff_eq.1 hother]
  exact ⟨hcharacter, hpercent⟩

theorem isNumeral_bounds {character : Char} (hnumeral : isNumeral Char.isDigit character = true) :
    character.toNat < 0x80 ∧ character ≠ '%' ∧ character ≠ '\n' := by
  refine of_decide_eq_true (holds_of_isNumeral
    (fun other => decide (other.toNat < 0x80 ∧ other ≠ '%' ∧ other ≠ '\n'))
    hnumeral (fun digit hdigit => ?_) (by decide))
  have hbounds := isDigit_bounds hdigit
  rw [decide_eq_true_eq]
  refine ⟨by omega, ?_, ?_⟩
  · rintro rfl
    exact absurd hdigit (by decide)
  · rintro rfl
    exact absurd hdigit (by decide)

theorem number_le_sound : number documented.isDigit ≤ sound :=
  (number_le_run Char.isDigit).trans (run_le_sound fun _ hnumeral =>
    ⟨isForeign_of_lt (isNumeral_bounds hnumeral).1, (isNumeral_bounds hnumeral).2.1⟩)

/-- The percent sign stands behind a number at once. -/
theorem percentage_le_sound : percentage documented 1 ≤ sound := by
  apply le_of_forall
  intro text htext
  obtain ⟨front, hfront, rest, hrest, rfl⟩ := Language.mem_mul.1 htext
  rw [one_mul] at hrest
  obtain rfl := mem_mark.1 hrest
  have hall := List.all_eq_true.1 (number_le_run Char.isDigit hfront)
  have hsound := number_le_sound hfront
  refine ⟨⟨fun hpair => ?_, fun character hcharacter => ?_⟩, ?_⟩
  · have hfeed : '\n' ∈ front ++ ['%'] := hpair.subset (by simp)
    rcases List.mem_append.1 hfeed with hin | hin
    · exact (isNumeral_bounds (hall _ hin)).2.2 rfl
    · exact absurd hin (by decide)
  · rcases List.mem_append.1 hcharacter with hin | hin
    · exact hsound.1.2 character hin
    · rw [List.mem_singleton.1 hin]
      decide
  · have hne := ne_nil_of_mem_number hfront
    rw [List.head?_append_of_ne_nil _ hne]
    exact hsound.2

theorem amount_le_sound : amount documented 1 ≤ sound :=
  add_le number_le_sound percentage_le_sound

theorem hue_le_sound : hue documented ≤ sound :=
  isClosed_sound.mul_le number_le_sound
    (isClosed_sound.optional_le ((word_le_run (by decide)).trans run_isAlpha_le_sound))

theorem function_le_sound : function documented ≤ sound := by
  have hword {name : String} (hname : name.toList.all Char.isLower = true) :
      word name ≤ sound := (word_le_run hname).trans run_isAlpha_le_sound
  have hcall {name inner : Language Char} (hname : name ≤ sound) (hinner : inner ≤ sound) :
      call name inner ≤ sound := by
    have hpadded := isClosed_sound.padded_le run_isBlank_le_sound hinner
    have hparen : mark '(' ≤ sound := mark_le_sound (by decide) (by decide)
    have hopen := isClosed_sound.mul_le hname hparen
    exact isClosed_sound.mul_le (isClosed_sound.mul_le hopen hpadded)
      (mark_le_sound (by decide) (by decide))
  have harguments {first other : Language Char → Language Char} (hfirst : first 1 ≤ sound)
      (hother : other 1 ≤ sound) : arguments documented first other ≤ sound := by
    exact add_le
      (isClosed_sound.commaList_le run_isBlank_le_sound (mark_le_sound (by decide) (by decide))
        hfirst hother amount_le_sound)
      (isClosed_sound.blankList_le run_isBlank_le_sound (mark_le_sound (by decide) (by decide))
        hfirst hother amount_le_sound)
  have hhues : word "hsl" + word "hsla" + word "hwb" + documented.furtherNames ≤ sound :=
    add_le (add_le (add_le (hword (by decide)) (hword (by decide))) (hword (by decide)))
      zero_le
  exact add_le
    (hcall (add_le (hword (by decide)) (hword (by decide)))
      (harguments amount_le_sound amount_le_sound))
    (hcall hhues (harguments hue_le_sound percentage_le_sound))

theorem digits_le_sound (counts : List ℕ) : digits counts ≤ sound := by
  have hclass : hexDigits counts ≤ run isHexDigit := le_of_forall fun _ htext => htext.1
  refine isClosed_sound.mul_le (mark_le_sound (by decide) (by decide))
    (hclass.trans (run_le_sound fun character hdigit => ?_))
  refine ⟨isForeign_of_lt (isHexDigit_lt hdigit), ?_⟩
  rintro rfl
  exact absurd hdigit (by decide)

theorem keyword_le_sound : keyword ≤ sound := by
  have hclass : keyword ≤ run Char.isAlpha := le_of_forall fun _ htext => htext.1
  exact hclass.trans run_isAlpha_le_sound

theorem color_le_sound : color documented ≤ sound :=
  add_le (add_le (add_le (digits_le_sound _)
      (isClosed_sound.mul_le (digits_le_sound _) isClosed_sound.one)) keyword_le_sound)
    (isClosed_sound.mul_le function_le_sound isClosed_sound.one)

/-! ## The end of a text -/

/-- The texts that do not end in a line feed. -/
def unfed : Language Char := {text | text.getLast? ≠ some '\n'}

theorem run_le_unfed {isOf : Char → Bool} (hfeed : isOf '\n' = false) : run isOf ≤ unfed := by
  apply le_of_forall
  intro text htext hlast
  exact notMem_of_mem_run htext hfeed (List.mem_of_getLast? hlast)

theorem digits_le_unfed (counts : List ℕ) : digits counts ≤ unfed := by
  have hclass : hexDigits counts ≤ run isHexDigit := le_of_forall fun _ htext => htext.1
  have hrun : run isHexDigit ≤ run fun character => character == '#' || isHexDigit character :=
    run_le_run fun character hdigit => by rw [hdigit, Bool.or_true]
  refine ((isClosed_run _).mul_le (mark_le_run ?_) (hclass.trans hrun)).trans (run_le_unfed ?_)
  all_goals decide

theorem keyword_le_unfed : keyword ≤ unfed := by
  have hclass : keyword ≤ run Char.isAlpha := le_of_forall fun _ htext => htext.1
  exact hclass.trans (run_le_unfed (by decide))

theorem call_le_unfed (name inner : Language Char) : call name inner ≤ unfed := by
  apply le_of_forall
  intro text htext hlast
  obtain ⟨front, -, close, rfl, rfl⟩ := Language.mem_mul.1 htext
  rw [List.getLast?_concat, Option.some.injEq] at hlast
  exact absurd hlast (by decide)

theorem function_le_unfed (tolerance : Tolerance) : function tolerance ≤ unfed :=
  add_le (call_le_unfed _ _) (call_le_unfed _ _)

/-- Where no line feed ends a text, none has strayed in there. -/
theorem mem_of_mem_mul_stray {language : Language Char} {text : List Char}
    (htext : text ∈ language * tolerated.stray) (hlast : text.getLast? ≠ some '\n') :
    text ∈ language := by
  obtain ⟨front, hfront, stray, hstray, rfl⟩ := Language.mem_mul.1 htext
  rcases hstray with rfl | rfl
  · rwa [List.append_nil]
  · exact absurd List.getLast?_concat hlast

/-! ## What is documented -/

theorem mem_tolerated_of_mem_documented {text : List Char} (htext : text ∈ color documented) :
    text ∈ color tolerated := by
  have hparts : PassesToParts fun _ => True := documented_carries.parts
  have hstray : Carries (fun _ => True) 1 tolerated.stray := fun _ hnone _ => Or.inl hnone
  have hcolor : Carries (fun _ => True) (color documented) (color tolerated) :=
    (((carries_refl _).add ((carries_refl _).mul hparts hstray)).add (carries_refl _)).add
      ((carries_function documented_carries).mul hparts hstray)
  exact hcolor text htext trivial

/-- The documented form is what is tolerated without a lapse. -/
theorem mem_documented_iff (text : List Char) :
    text ∈ color documented ↔ text ∈ color tolerated ∧ ¬ HasLapse text := by
  rw [hasLapse_iff, not_or, not_not]
  constructor
  · intro htext
    -- blanks inside a function may be line feeds, so its end is looked at apart
    have hunfed : color documented ≤ unfed := by
      unfold color
      rw [show documented.stray = 1 from rfl, mul_one, mul_one]
      exact add_le (add_le (add_le (digits_le_unfed _) (digits_le_unfed _)) keyword_le_unfed)
        (function_le_unfed _)
    exact ⟨mem_tolerated_of_mem_documented htext, hunfed htext, (color_le_sound htext).1⟩
  · rintro ⟨htext, hlast, hplain⟩
    unfold color at htext ⊢
    rw [show documented.stray = 1 from rfl, mul_one, mul_one]
    rcases htext with ((hshort | hlong) | hname) | hfunction
    · exact Or.inl (Or.inl (Or.inl hshort))
    · exact Or.inl (Or.inl (Or.inr (mem_of_mem_mul_stray hlong hlast)))
    · exact Or.inl (Or.inr hname)
    · exact Or.inr (carries_function tolerated_carries text
        (mem_of_mem_mul_stray hfunction hlast) hplain)

end Palette.Grammar
