import Mathlib.Computability.Language
import Mathlib.Order.CompletePartialOrder
import Mathlib.Order.ConditionallyCompleteLattice.Basic
import Palette.Color.Name
import Palette.Proofs.Text.CharacterClass

/-!
# The grammar of colors

The texts that are colors, as a language of characters, put together from small ones.

The grammar has a `Tolerance` for what is read beyond the documented form: the digits of
other scripts, a stray line feed behind hexadecimal digits, behind a percentage's number
and behind a function, and further names.  `documented` tolerates nothing of that kind;
`tolerated` is what the reader tolerates.

What one tolerance accepts another one may accept as well, or only for texts with some
property.  This is carried through the grammar from its few ingredients
(`Tolerance.Carries`, `carries_function`).
-/

namespace Palette.Grammar

open Palette.Text

/-! ## Building blocks -/

/-- The text of a single character. -/
def mark (character : Char) : Language Char := {[character]}

/-- Any number of characters of a class. -/
def run (isOf : Char → Bool) : Language Char := {text | text.all isOf = true}

/-- One or more characters of a class. -/
def row (isOf : Char → Bool) : Language Char := {text | text ≠ [] ∧ text.all isOf = true}

/-- A word in any letter case. -/
def word (name : String) : Language Char := {text | text.map Char.toLower = name.toList}

/-- What may be left out. -/
def optional (language : Language Char) : Language Char := 1 + language

/-- With blanks around it. -/
def padded (language : Language Char) : Language Char := run isBlank * language * run isBlank

/-! ## The grammar -/

/-- What is read beyond the documented form. -/
structure Tolerance where
  isDigit : Char → Bool
  /-- What may stray in behind digits, a percentage's number or a function. -/
  stray : Language Char
  /-- Further names of functions that take a hue. -/
  furtherNames : Language Char

/-- Nothing beyond the documented form. -/
def documented : Tolerance := ⟨Char.isDigit, 1, 0⟩

/-- The digits of all scripts, a stray line feed, and names with a long s. -/
def tolerated : Tolerance :=
  ⟨isDigit, optional (mark '\n'), word "h\u017Fl" + word "h\u017Fla"⟩

@[simp] theorem tolerated_isDigit : tolerated.isDigit = isDigit := rfl

def sign : Language Char := optional (mark '+' + mark '-')

def mantissa (isDigit : Char → Bool) : Language Char :=
  row isDigit * optional (mark '.' * run isDigit) + mark '.' * row isDigit

def exponent (isDigit : Char → Bool) : Language Char :=
  optional ((mark 'e' + mark 'E') * sign * row isDigit)

def number (isDigit : Char → Bool) : Language Char :=
  sign * (mantissa isDigit * exponent isDigit)

section

variable (tolerance : Tolerance)

def percentage (stray : Language Char) : Language Char :=
  number tolerance.isDigit * (stray * mark '%')

/-- A number or a percentage. -/
def amount (stray : Language Char) : Language Char :=
  number tolerance.isDigit + percentage tolerance stray

/-- A number with or without its unit. -/
def hue : Language Char := number tolerance.isDigit * optional (word "deg")

/-- Three components and perhaps an alpha, with commas between them. -/
def commaList (first second third alpha : Language Char) : Language Char :=
  first * padded (mark ',') * second * padded (mark ',') * third *
    optional (padded (mark ',') * alpha)

/-- Three components with blanks between them, and perhaps an alpha behind a slash. -/
def blankList (first second third alpha : Language Char) : Language Char :=
  first * row isBlank * second * row isBlank * third * optional (padded (mark '/') * alpha)

/-- The arguments of a function, whose components are given by what may stray into them.
Between blanks there is no room for a line feed. -/
def arguments (first other : Language Char → Language Char) : Language Char :=
  commaList (first tolerance.stray) (other tolerance.stray) (other tolerance.stray)
      (amount tolerance tolerance.stray) +
    blankList (first 1) (other 1) (other 1) (amount tolerance tolerance.stray)

/-- A function's name, and its arguments between parentheses. -/
def call (name inner : Language Char) : Language Char :=
  name * mark '(' * padded inner * mark ')'

def function : Language Char :=
  call (word "rgb" + word "rgba") (arguments tolerance (amount tolerance) (amount tolerance)) +
    call (word "hsl" + word "hsla" + word "hwb" + tolerance.furtherNames)
      (arguments tolerance (fun _ => hue tolerance) (percentage tolerance))

/-- So many hexadecimal digits. -/
def hexDigits (counts : List ℕ) : Language Char :=
  {text | text.all isHexDigit = true ∧ text.length ∈ counts}

/-- A hash and so many hexadecimal digits. -/
def digits (counts : List ℕ) : Language Char := mark '#' * hexDigits counts

/-- The name of a color in any letter case. -/
def keyword : Language Char :=
  {text | text.all Char.isAlpha = true ∧
    ∃ entry ∈ Color.named, text.map Char.toLower = entry.1.toList}

/-- The texts that are colors. -/
def color : Language Char :=
  digits [3, 4] + digits [6, 8] * tolerance.stray + keyword + function tolerance * tolerance.stray

end

/-! ## Membership -/

section

variable {isOf isOther : Char → Bool} {text : List Char}

theorem mem_mark {character : Char} : text ∈ mark character ↔ text = [character] := Iff.rfl

theorem mem_run : text ∈ run isOf ↔ text.all isOf = true := Iff.rfl

theorem mem_word {name : String} : text ∈ word name ↔ text.map Char.toLower = name.toList := Iff.rfl

theorem mem_optional {language : Language Char} :
    text ∈ optional language ↔ text = [] ∨ text ∈ language := Iff.rfl

/-- A character that is not of a class does not stand in the texts of the class. -/
theorem notMem_of_mem_run {character : Char} (htext : text ∈ run isOf)
    (hof : isOf character = false) : character ∉ text := by
  intro hcharacter
  rw [List.all_eq_true.1 htext character hcharacter] at hof
  cases hof

end

/-! ## Languages that are closed under joining

What holds of each part of a text and of joined parts holds of the whole text.  As a
language, it has the empty text and all joins of its texts. -/

/-- A language with the empty text and with the joins of its texts. -/
structure IsClosed (language : Language Char) : Prop where
  one : 1 ≤ language
  mul : language * language ≤ language

section

variable {isOf isOther : Char → Bool} {closed : Language Char}

theorem le_of_forall {language other : Language Char}
    (hall : ∀ text, text ∈ language → text ∈ other) : language ≤ other := hall

theorem isClosed_run (isOf : Char → Bool) : IsClosed (run isOf) where
  one := by
    apply le_of_forall
    rintro text rfl
    rfl
  mul := by
    apply le_of_forall
    intro text htext
    obtain ⟨left, hleft, right, hright, rfl⟩ := Language.mem_mul.1 htext
    rw [mem_run, List.all_append, mem_run.1 hleft, mem_run.1 hright]
    rfl

theorem mark_le_run {character : Char} (hof : isOf character = true) :
    mark character ≤ run isOf := by
  apply le_of_forall
  rintro text rfl
  rw [mem_run, List.all_cons, hof]
  rfl

theorem run_le_run (hof : ∀ character, isOf character = true → isOther character = true) :
    run isOf ≤ run isOther := by
  apply le_of_forall
  intro text htext
  rw [mem_run, List.all_eq_true] at htext ⊢
  exact fun character hcharacter => hof character (htext character hcharacter)

theorem row_le_run (isOf : Char → Bool) : row isOf ≤ run isOf :=
  fun _ htext => htext.2

/-- All characters of a word are letters. -/
theorem word_le_run {name : String} (hname : name.toList.all Char.isLower = true) :
    word name ≤ run Char.isAlpha := by
  apply le_of_forall
  intro text htext
  rw [List.all_eq_true] at hname
  rw [mem_run, List.all_eq_true]
  intro character hcharacter
  apply isAlpha_of_isLower_toLower
  apply hname
  rw [← mem_word.1 htext]
  exact List.mem_map_of_mem hcharacter

variable (hclosed : IsClosed closed)
include hclosed

theorem IsClosed.optional_le {language : Language Char} (hlanguage : language ≤ closed) :
    optional language ≤ closed :=
  add_le hclosed.one hlanguage

theorem IsClosed.mul_le {language other : Language Char} (hlanguage : language ≤ closed)
    (hother : other ≤ closed) : language * other ≤ closed :=
  (mul_le_mul' hlanguage hother).trans hclosed.mul

theorem IsClosed.padded_le {language : Language Char} (hblank : run isBlank ≤ closed)
    (hlanguage : language ≤ closed) : padded language ≤ closed :=
  hclosed.mul_le (hclosed.mul_le hblank hlanguage) hblank

/-- A list belongs to a closed language if its components and separators do. -/
theorem IsClosed.commaList_le {first other alpha : Language Char} (hblank : run isBlank ≤ closed)
    (hcomma : mark ',' ≤ closed) (hfirst : first ≤ closed) (hother : other ≤ closed)
    (halpha : alpha ≤ closed) : commaList first other other alpha ≤ closed := by
  have hcommas := hclosed.padded_le hblank hcomma
  have hpair := hclosed.mul_le (hclosed.mul_le hfirst hcommas) hother
  exact hclosed.mul_le (hclosed.mul_le (hclosed.mul_le hpair hcommas) hother)
    (hclosed.optional_le (hclosed.mul_le hcommas halpha))

theorem IsClosed.blankList_le {first other alpha : Language Char} (hblank : run isBlank ≤ closed)
    (hslash : mark '/' ≤ closed) (hfirst : first ≤ closed) (hother : other ≤ closed)
    (halpha : alpha ≤ closed) : blankList first other other alpha ≤ closed := by
  have hrow : row isBlank ≤ closed := (row_le_run isBlank).trans hblank
  have hslashes := hclosed.padded_le hblank hslash
  have hpair := hclosed.mul_le (hclosed.mul_le hfirst hrow) hother
  exact hclosed.mul_le (hclosed.mul_le (hclosed.mul_le hpair hrow) hother)
    (hclosed.optional_le (hclosed.mul_le hslashes halpha))

end

/-! ## The characters of a number -/

/-- Whether a character may stand in a number with these digits. -/
def isNumeral (isDigit : Char → Bool) (character : Char) : Bool :=
  isDigit character || ['+', '-', '.', 'e', 'E'].contains character

/-- What holds of the digits and of the marks of a number holds of its characters. -/
theorem holds_of_isNumeral {isDigit : Char → Bool} {character : Char} (holds : Char → Bool)
    (hnumeral : isNumeral isDigit character = true)
    (hdigits : ∀ digit, isDigit digit = true → holds digit = true)
    (hmarks : ['+', '-', '.', 'e', 'E'].all holds = true) : holds character = true := by
  rw [isNumeral, Bool.or_eq_true, List.contains_iff_mem] at hnumeral
  rcases hnumeral with hdigit | hmark
  · exact hdigits character hdigit
  · exact List.all_eq_true.1 hmarks character hmark

theorem number_le_run (isDigit : Char → Bool) : number isDigit ≤ run (isNumeral isDigit) := by
  have hclosed := isClosed_run (isNumeral isDigit)
  have hmark {character : Char} (hof : ['+', '-', '.', 'e', 'E'].contains character = true) :
      mark character ≤ run (isNumeral isDigit) :=
    mark_le_run (by rw [isNumeral, hof, Bool.or_true])
  have hrun : run isDigit ≤ run (isNumeral isDigit) :=
    run_le_run fun character hdigit => by rw [isNumeral, hdigit, Bool.true_or]
  have hrow := (row_le_run isDigit).trans hrun
  have hsign : sign ≤ run (isNumeral isDigit) :=
    hclosed.optional_le (add_le (hmark (by decide)) (hmark (by decide)))
  have hpoint : mark '.' ≤ run (isNumeral isDigit) := hmark (by decide)
  have hmantissa : mantissa isDigit ≤ run (isNumeral isDigit) :=
    add_le (hclosed.mul_le hrow (hclosed.optional_le (hclosed.mul_le hpoint hrun)))
      (hclosed.mul_le hpoint hrow)
  have hletter : mark 'e' + mark 'E' ≤ run (isNumeral isDigit) :=
    add_le (hmark (by decide)) (hmark (by decide))
  have hexponent : exponent isDigit ≤ run (isNumeral isDigit) :=
    hclosed.optional_le (hclosed.mul_le (hclosed.mul_le hletter hsign) hrow)
  exact hclosed.mul_le hsign (hclosed.mul_le hmantissa hexponent)

/-- No number is empty. -/
theorem ne_nil_of_mem_number {isDigit : Char → Bool} {text : List Char}
    (htext : text ∈ number isDigit) : text ≠ [] := by
  obtain ⟨front, -, rest, hrest, rfl⟩ := Language.mem_mul.1 htext
  obtain ⟨middle, hmiddle, behind, -, rfl⟩ := Language.mem_mul.1 hrest
  have hmiddle : middle ≠ [] := by
    rcases hmiddle with hdigits | hpoint
    · obtain ⟨whole, hwhole, fraction, -, rfl⟩ := Language.mem_mul.1 hdigits
      exact List.append_ne_nil_of_left_ne_nil hwhole.1 fraction
    · obtain ⟨point, rfl, fraction, -, rfl⟩ := Language.mem_mul.1 hpoint
      exact List.cons_ne_nil _ _
  simp [hmiddle]

/-! ## Carrying texts from one tolerance to another

The property that makes a text pass from one tolerance to the other has to pass to the
parts of the text, which are what the smaller languages are about. -/

/-- The texts of the first language that have a property lie in the second one. -/
def Carries (property : List Char → Prop) (language other : Language Char) : Prop :=
  ∀ text ∈ language, property text → text ∈ other

/-- A property that passes to the parts of a text. -/
def PassesToParts (property : List Char → Prop) : Prop :=
  ∀ ⦃part whole : List Char⦄, part <:+: whole → property whole → property part

section

variable {property : List Char → Prop} {isOf isOther : Char → Bool}
variable {language other language' other' : Language Char}

theorem carries_refl (language : Language Char) : Carries property language language :=
  fun _ htext _ => htext

theorem Carries.add (hfirst : Carries property language language')
    (hsecond : Carries property other other') :
    Carries property (language + other) (language' + other') := by
  rintro text (hleft | hright) hproperty
  · exact Or.inl (hfirst text hleft hproperty)
  · exact Or.inr (hsecond text hright hproperty)

theorem Carries.optional (hlanguage : Carries property language language') :
    Carries property (optional language) (optional language') :=
  (carries_refl 1).add hlanguage

variable (hparts : PassesToParts property)
include hparts

theorem Carries.mul (hfirst : Carries property language language')
    (hsecond : Carries property other other') :
    Carries property (language * other) (language' * other') := by
  intro text htext hproperty
  obtain ⟨left, hleft, right, hright, rfl⟩ := Language.mem_mul.1 htext
  have hbefore := hparts (List.prefix_append left right).isInfix hproperty
  have hbehind := hparts (List.suffix_append left right).isInfix hproperty
  exact Language.append_mem_mul (hfirst left hleft hbefore) (hsecond right hright hbehind)

theorem carries_run
    (hof : ∀ character, property [character] → isOf character = true → isOther character = true) :
    Carries property (run isOf) (run isOther) := by
  intro text htext hproperty
  rw [mem_run, List.all_eq_true] at htext ⊢
  intro character hcharacter
  have hsingle := hparts ((List.singleton_infix_iff character text).2 hcharacter) hproperty
  exact hof character hsingle (htext character hcharacter)

theorem carries_row
    (hof : ∀ character, property [character] → isOf character = true → isOther character = true) :
    Carries property (row isOf) (row isOther) :=
  fun text htext hproperty => ⟨htext.1, carries_run hparts hof text htext.2 hproperty⟩

end

/-- How the texts with a property are carried from one tolerance to another. -/
structure Tolerance.Carries (property : List Char → Prop) (first second : Tolerance) : Prop where
  parts : PassesToParts property
  isDigit : ∀ character, property [character] → first.isDigit character = true →
    second.isDigit character = true
  stray : Grammar.Carries property (first.stray * mark '%') (second.stray * mark '%')
  furtherNames : Grammar.Carries property first.furtherNames second.furtherNames

section

variable {property : List Char → Prop} {tolerance tolerance' : Tolerance}
variable (hcarries : tolerance.Carries property tolerance')
include hcarries

theorem carries_number :
    Carries property (number tolerance.isDigit) (number tolerance'.isDigit) := by
  have hparts := hcarries.parts
  have hrow := carries_row hparts hcarries.isDigit
  have hrun := carries_run hparts hcarries.isDigit
  have hmantissa : Carries property (mantissa tolerance.isDigit) (mantissa tolerance'.isDigit) :=
    (hrow.mul hparts ((carries_refl _).mul hparts hrun).optional).add
      ((carries_refl _).mul hparts hrow)
  have hexponent : Carries property (exponent tolerance.isDigit) (exponent tolerance'.isDigit) :=
    ((carries_refl _).mul hparts hrow).optional
  exact (carries_refl sign).mul hparts (hmantissa.mul hparts hexponent)

theorem carries_hue : Carries property (hue tolerance) (hue tolerance') :=
  (carries_number hcarries).mul hcarries.parts (carries_refl _)

theorem carries_percentage {stray stray' : Language Char}
    (hstray : Carries property (stray * mark '%') (stray' * mark '%')) :
    Carries property (percentage tolerance stray) (percentage tolerance' stray') :=
  (carries_number hcarries).mul hcarries.parts hstray

theorem carries_amount {stray stray' : Language Char}
    (hstray : Carries property (stray * mark '%') (stray' * mark '%')) :
    Carries property (amount tolerance stray) (amount tolerance' stray') :=
  (carries_number hcarries).add (carries_percentage hcarries hstray)

/-- Arguments are carried if their components are, both with what may stray into them and
without. -/
theorem carries_arguments {first other first' other' : Language Char → Language Char}
    (hfirst : Carries property (first tolerance.stray) (first' tolerance'.stray))
    (hother : Carries property (other tolerance.stray) (other' tolerance'.stray))
    (hfirstOne : Carries property (first 1) (first' 1))
    (hotherOne : Carries property (other 1) (other' 1)) :
    Carries property (arguments tolerance first other) (arguments tolerance' first' other') := by
  have hparts := hcarries.parts
  have halpha (separator : Char) : Carries property
      (optional (padded (mark separator) * amount tolerance tolerance.stray))
      (optional (padded (mark separator) * amount tolerance' tolerance'.stray)) :=
    ((carries_refl _).mul hparts (carries_amount hcarries hcarries.stray)).optional
  have hcommas := (hfirst.mul hparts (carries_refl (padded (mark ',')))).mul hparts hother
  have hblanks := (hfirstOne.mul hparts (carries_refl (row isBlank))).mul hparts hotherOne
  exact (((hcommas.mul hparts (carries_refl _)).mul hparts hother).mul hparts (halpha ',')).add
    (((hblanks.mul hparts (carries_refl _)).mul hparts hotherOne).mul hparts (halpha '/'))

theorem carries_call {name name' inner inner' : Language Char}
    (hname : Carries property name name') (hinner : Carries property inner inner') :
    Carries property (call name inner) (call name' inner') := by
  have hparts := hcarries.parts
  have hpadded : Carries property (padded inner) (padded inner') :=
    ((carries_refl (run isBlank)).mul hparts hinner).mul hparts (carries_refl (run isBlank))
  exact ((hname.mul hparts (carries_refl _)).mul hparts hpadded).mul hparts (carries_refl _)

theorem carries_function : Carries property (function tolerance) (function tolerance') := by
  have hamount := carries_amount hcarries hcarries.stray
  have hpercentage := carries_percentage hcarries hcarries.stray
  have hamountOne := carries_amount hcarries (carries_refl (1 * mark '%'))
  have hpercentageOne := carries_percentage hcarries (carries_refl (1 * mark '%'))
  have hhue := carries_hue hcarries
  exact (carries_call hcarries (carries_refl _)
      (carries_arguments hcarries hamount hamount hamountOne hamountOne)).add
    (carries_call hcarries ((carries_refl _).add hcarries.furtherNames)
      (carries_arguments hcarries hhue hpercentage hhue hpercentageOne))

end

end Palette.Grammar
