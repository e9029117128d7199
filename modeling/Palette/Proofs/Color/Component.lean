import Palette.Proofs.Color.Lapse
import Palette.Proofs.Color.NumeralText
import Palette.Proofs.Color.Readable
import Palette.Proofs.Text.Trimming

/-!
# The texts of components

The readers of a color's components accept exactly the tolerated components of the
grammar.  A component reaches its reader trimmed, so a line feed behind a number is only
seen where a percent sign follows.

Between commas a component may hold such a line feed; between blanks it would have been
cut there (`percentage_one_of_unbroken`, `amount_one_of_unbroken`).
-/

namespace Palette.Grammar

open Palette.Text Palette.Color

variable {text token : List Char}

/-! ## Shapes of components -/

theorem isBlank_of_isNumeral {character : Char} (hnumeral : isNumeral isDigit character = true) :
    isBlank character = false := by
  rw [← Bool.not_eq_true']
  refine holds_of_isNumeral (!isBlank ·) hnumeral (fun digit hdigit => ?_) (by decide)
  rw [Bool.not_eq_true', ← Bool.not_eq_true]
  intro hblank
  rw [isDigit_of_isBlank hblank] at hdigit
  cases hdigit

/-- The texts without a blank. -/
def unbroken : Language Char := run fun character => !isBlank character

theorem isClosed_unbroken : IsClosed unbroken := isClosed_run _

theorem isBlank_of_mem_unbroken (htext : text ∈ unbroken) :
    ∀ character ∈ text, isBlank character = false := by
  intro character hcharacter
  simpa using List.all_eq_true.1 htext character hcharacter

theorem number_le_unbroken : number tolerated.isDigit ≤ unbroken :=
  (number_le_run isDigit).trans (run_le_run fun _ hnumeral => by
    rw [isBlank_of_isNumeral hnumeral]
    rfl)

theorem word_le_unbroken {name : String} (hname : name.toList.all Char.isLower = true) :
    word name ≤ unbroken :=
  (word_le_run hname).trans (run_le_run fun _ halpha => by
    rw [isBlank_of_isAlpha halpha]
    rfl)

theorem hue_le_unbroken : hue tolerated ≤ unbroken :=
  isClosed_unbroken.mul_le number_le_unbroken
    (isClosed_unbroken.optional_le (word_le_unbroken (by decide)))

theorem percentage_le_unbroken : percentage tolerated 1 ≤ unbroken :=
  isClosed_unbroken.mul_le number_le_unbroken
    (isClosed_unbroken.mul_le isClosed_unbroken.one (mark_le_run (by decide)))

theorem amount_le_unbroken : amount tolerated 1 ≤ unbroken :=
  add_le number_le_unbroken percentage_le_unbroken

/-- Whether a character is none of the separators and parentheses of a function. -/
def isInner (character : Char) : Bool :=
  !([',', '/', '(', ')'].contains character)

/-- A class without separators and parentheses. -/
theorem run_le_inner {isOf : Char → Bool} (hof : [',', '/', '(', ')'].any isOf = false) :
    run isOf ≤ run isInner := by
  refine run_le_run fun character hcharacter => ?_
  rw [isInner, Bool.not_eq_true', ← Bool.not_eq_true, List.contains_iff_mem]
  intro hmark
  rw [List.any_eq_true.2 ⟨character, hmark, hcharacter⟩] at hof
  cases hof

theorem isClosed_inner : IsClosed (run isInner) := isClosed_run _

theorem number_le_inner : number tolerated.isDigit ≤ run isInner :=
  (number_le_run isDigit).trans (run_le_inner (by decide))

theorem hue_le_inner : hue tolerated ≤ run isInner :=
  isClosed_inner.mul_le number_le_inner
    (isClosed_inner.optional_le ((word_le_run (by decide)).trans (run_le_inner (by decide))))

theorem percentage_le_inner : percentage tolerated tolerated.stray ≤ run isInner :=
  isClosed_inner.mul_le number_le_inner (isClosed_inner.mul_le
    (isClosed_inner.optional_le (mark_le_run (by decide))) (mark_le_run (by decide)))

theorem amount_le_inner : amount tolerated tolerated.stray ≤ run isInner :=
  add_le number_le_inner percentage_le_inner

/-! ## Solid components -/

/-- The solid texts. -/
def solid : Language Char := {text | IsSolid text}

theorem number_le_solid : number tolerated.isDigit ≤ solid :=
  le_of_forall fun _ htext => isSolid_of_all (ne_nil_of_mem_number htext)
    (isBlank_of_mem_unbroken (number_le_unbroken htext))

theorem percentage_le_solid : percentage tolerated tolerated.stray ≤ solid := by
  apply le_of_forall
  intro text htext
  obtain ⟨front, hfront, rest, hrest, rfl⟩ := Language.mem_mul.1 htext
  obtain ⟨stray, -, percent, rfl, rfl⟩ := Language.mem_mul.1 hrest
  have hpercent : IsSolid ['%'] := ⟨'%', '%', rfl, rfl, by decide, by decide⟩
  rw [← List.append_assoc]
  exact (number_le_solid hfront).append hpercent stray

theorem amount_le_solid : amount tolerated tolerated.stray ≤ solid :=
  add_le number_le_solid percentage_le_solid

theorem hue_le_solid : hue tolerated ≤ solid := by
  apply le_of_forall
  intro text htext
  obtain ⟨front, hfront, unit, hunit, rfl⟩ := Language.mem_mul.1 htext
  refine isSolid_of_all (List.append_ne_nil_of_left_ne_nil (ne_nil_of_mem_number hfront) _) ?_
  exact isBlank_of_mem_unbroken (hue_le_unbroken (Language.append_mem_mul hfront hunit))

/-- A component without a blank has no stray line feed. -/
theorem percentage_one_of_unbroken (htoken : token ∈ percentage tolerated tolerated.stray)
    (hunbroken : token ∈ unbroken) : token ∈ percentage tolerated 1 := by
  obtain ⟨front, hfront, rest, hrest, rfl⟩ := Language.mem_mul.1 htoken
  obtain ⟨stray, hstray, percent, rfl, rfl⟩ := Language.mem_mul.1 hrest
  rcases hstray with rfl | rfl
  · exact Language.append_mem_mul hfront (Language.append_mem_mul Language.nil_mem_one rfl)
  · have hblank := isBlank_of_mem_unbroken hunbroken '\n' (by simp)
    exact absurd hblank (by decide)

theorem amount_one_of_unbroken (htoken : token ∈ amount tolerated tolerated.stray)
    (hunbroken : token ∈ unbroken) : token ∈ amount tolerated 1 :=
  htoken.imp id fun hpercentage => percentage_one_of_unbroken hpercentage hunbroken

/-! ## Readers of components -/

theorem number_le_unfed : number tolerated.isDigit ≤ unfed :=
  (number_le_run isDigit).trans (run_le_unfed (by decide))

/-- Where the texts of a language do not end in a line feed, dropping one is tolerating
one. -/
theorem mem_mul_stray_iff {language : Language Char} (hlanguage : language ≤ unfed) :
    text ∈ language * tolerated.stray ↔ dropFinalLineFeed text ∈ language := by
  constructor
  · intro htext
    obtain ⟨front, hfront, stray, hstray, rfl⟩ := Language.mem_mul.1 htext
    rcases hstray with rfl | rfl
    · rw [List.append_nil, dropFinalLineFeed, if_neg (hlanguage hfront)]
      exact hfront
    · rw [dropFinalLineFeed, if_pos List.getLast?_concat, List.dropLast_concat]
      exact hfront
  · intro htext
    rcases append_dropFinalLineFeed text with hsame | hfeed
    · rw [hsame, ← List.append_nil (dropFinalLineFeed text)]
      exact Language.append_mem_mul htext (Or.inl rfl)
    · rw [hfeed]
      exact Language.append_mem_mul htext (Or.inr rfl)

theorem exists_readNumber_iff : (∃ value, readNumber token = .ok value) ↔
    token ∈ number tolerated.isDigit * tolerated.stray := by
  rw [mem_mul_stray_iff number_le_unfed, tolerated_isDigit, ← isSome_ofText?_iff]
  unfold readNumber
  cases Decimal.ofText? (dropFinalLineFeed token) with
  | none => exact iff_of_false (by rintro ⟨_, ⟨⟩⟩) Bool.false_ne_true
  | some decimal => exact iff_of_true ⟨_, rfl⟩ rfl

/-- A percentage is a number in front of its sign. -/
theorem exists_readPercentage_iff : (∃ value, readPercentage token = .ok value) ↔
    token ∈ percentage tolerated tolerated.stray := by
  have hsplit : token ∈ percentage tolerated tolerated.stray ↔
      isPercentage token = true ∧ token.dropLast ∈ number tolerated.isDigit * tolerated.stray := by
    unfold percentage isPercentage
    rw [← mul_assoc, beq_iff_eq]
    constructor
    · intro htoken
      obtain ⟨front, hfront, percent, rfl, rfl⟩ := Language.mem_mul.1 htoken
      rw [List.dropLast_concat]
      exact ⟨List.getLast?_concat, hfront⟩
    · rintro ⟨hlast, hfront⟩
      rw [← List.dropLast_append_getLast? '%' hlast]
      exact Language.append_mem_mul hfront rfl
  rw [hsplit, ← exists_readNumber_iff]
  unfold readPercentage
  cases isPercentage token with
  | true => simp [exists_map_eq_ok_iff]
  | false => simp

/-- No number ends in a character that cannot stand in it. -/
theorem getLast?_ne_of_mem_number {last : Char} (htext : text ∈ number tolerated.isDigit)
    (hlast : isNumeral isDigit last = false) : text.getLast? ≠ some last := by
  intro hend
  exact notMem_of_mem_run (number_le_run isDigit htext) hlast (List.mem_of_getLast? hend)

/-- What reads a percentage in one way and a number in another one. -/
theorem exists_amount_iff {α : Type} (ofPercentage ofNumber : Binary → α)
    (htoken : token ∈ solid) :
    (∃ value, (if isPercentage token then (readPercentage token).map ofPercentage
      else (readNumber token).map ofNumber) = .ok value) ↔
      token ∈ amount tolerated tolerated.stray := by
  cases hpercentage : isPercentage token with
  | true =>
      rw [if_pos rfl, exists_map_eq_ok_iff, exists_readPercentage_iff]
      refine ⟨Or.inr, fun hamount => hamount.resolve_left fun hnumber => ?_⟩
      exact getLast?_ne_of_mem_number hnumber (by decide) (beq_iff_eq.1 hpercentage)
  | false =>
      have hunfed : token.getLast? ≠ some '\n' := by
        obtain ⟨-, last, -, hlast, -, hblank⟩ := htoken
        rintro hfeed
        rw [hfeed, Option.some.injEq] at hlast
        rw [← hlast] at hblank
        exact absurd hblank (by decide)
      rw [if_neg Bool.false_ne_true, exists_map_eq_ok_iff, exists_readNumber_iff]
      constructor
      · intro hnumber
        exact Or.inl (mem_of_mem_mul_stray hnumber hunfed)
      · rintro (hnumber | hother)
        · rw [← List.append_nil token]
          exact Language.append_mem_mul hnumber (Or.inl rfl)
        · obtain ⟨value, hvalue⟩ := exists_readPercentage_iff.2 hother
          rw [readPercentage, hpercentage] at hvalue
          cases hvalue

theorem toLower_ne_of_isNumeral {character : Char} (hnumeral : isNumeral isDigit character = true) :
    character.toLower ≠ 'g' := by
  refine bne_iff_ne.1
    (holds_of_isNumeral (·.toLower != 'g') hnumeral (fun digit hdigit => ?_) (by decide))
  rw [bne_iff_ne]
  intro hlower
  have hletter : digit.toLower.isLower = true := by
    rw [hlower]
    decide
  have hbounds := isAlpha_bounds (isAlpha_of_isLower_toLower hletter)
  have hdigit := isDigit_bounds ((isDigit_iff_of_lt (by omega)).1 hdigit)
  omega

/-- A unit behind a number is dropped, and nothing of the number. -/
theorem dropDegrees_append {front unit : List Char} (hfront : front ∈ number tolerated.isDigit)
    (hunit : unit ∈ optional (word "deg")) : dropDegrees (front ++ unit) = front := by
  unfold dropDegrees
  rcases hunit with rfl | hunit
  · -- a number of its own does not end like the unit
    rw [List.append_nil, if_neg]
    intro hunit
    have hlast : 'g' ∈ (front.drop (front.length - 3)).map Char.toLower := by
      rw [hunit]
      decide
    obtain ⟨character, hcharacter, hlower⟩ := List.mem_map.1 hlast
    have hall := List.all_eq_true.1 (number_le_run isDigit hfront)
    exact toLower_ne_of_isNumeral (hall _ (List.mem_of_mem_drop hcharacter)) hlower
  · have hlength : unit.length = 3 := by
      rw [← List.length_map Char.toLower, mem_word.1 hunit]
      rfl
    have hfrontLength : (front ++ unit).length - 3 = front.length := by
      rw [List.length_append, hlength, Nat.add_sub_cancel]
    have hletters : unit.map Char.toLower = ['d', 'e', 'g'] := hunit
    rw [hfrontLength, List.take_left, List.drop_left, if_pos hletters]

/-- A hue is what is a number without its unit. -/
theorem dropDegrees_mem_iff :
    dropDegrees token ∈ number tolerated.isDigit ↔ token ∈ hue tolerated := by
  constructor
  · unfold dropDegrees
    simp only
    split
    · rename_i hunit
      intro hnumber
      rw [← List.take_append_drop (token.length - 3) token]
      exact Language.append_mem_mul hnumber (Or.inr hunit)
    · intro hnumber
      rw [← List.append_nil token]
      exact Language.append_mem_mul hnumber (Or.inl rfl)
  · intro htoken
    obtain ⟨front, hfront, unit, hunit, rfl⟩ := Language.mem_mul.1 htoken
    rwa [dropDegrees_append hfront hunit]

theorem exists_readHue_iff : (∃ value, readHue token = .ok value) ↔ token ∈ hue tolerated := by
  rw [← dropDegrees_mem_iff, tolerated_isDigit, ← isSome_ofText?_iff]
  unfold readHue
  cases Decimal.ofText? (dropDegrees token) with
  | none => exact iff_of_false (by rintro ⟨_, ⟨⟩⟩) Bool.false_ne_true
  | some decimal => exact iff_of_true ⟨_, rfl⟩ rfl

end Palette.Grammar
