import Palette.Proofs.Color.Acceptance

/-!
# The spellings of a color function

The same arguments may be spelled with commas or with blanks and a slash, with more or
fewer blanks, and behind any of the names of their color space.  All these spellings are
read alike: splitting a body gives the arguments back (`ofBody_of_mem_spelling`), and the
color and its written forms depend on them and on the color space alone
(`ofText_eq_of_spellings`).
-/

namespace Palette.Grammar

open Palette.Text Palette.Color

variable {body : List Char} {arguments : Color.Arguments}

/-! ## Tokens -/

/-- The texts without blanks, separators and parentheses that are not empty. -/
def token : Language Char := row fun character => isInner character && !isBlank character

theorem token_le_inner : token ≤ run isInner :=
  (row_le_run _).trans (run_le_run fun _ hcharacter => (Bool.and_eq_true_iff.1 hcharacter).1)

theorem token_le_unbroken : token ≤ unbroken :=
  (row_le_run _).trans (run_le_run fun _ hcharacter => (Bool.and_eq_true_iff.1 hcharacter).2)

theorem token_le_solid : token ≤ solid :=
  le_of_forall fun _ htext =>
    isSolid_of_all htext.1 (isBlank_of_mem_unbroken (token_le_unbroken htext))

/-- A component without a stray line feed is a token. -/
theorem IsComponent.one_le_token {component : Language Char → Language Char}
    (hcomponent : IsComponent component) : component 1 ≤ token := by
  apply le_of_forall
  intro text htext
  have hinner := List.all_eq_true.1 (hcomponent.one_le_inner htext)
  rw [hcomponent.one] at htext
  have hunbroken := List.all_eq_true.1 htext.2
  refine ⟨(hcomponent.solid htext.1).ne_nil, List.all_eq_true.2 fun character hmem => ?_⟩
  rw [hinner character hmem, hunbroken character hmem]
  rfl

/-- What holds of all texts of a language holds of each of them. -/
theorem singleton_le {text : List Char} {language : Language Char} (htext : text ∈ language) :
    ({text} : Language Char) ≤ language := by
  apply le_of_forall
  rintro other rfl
  exact htext

/-! ## Spellings -/

/-- The alpha behind the other components, if there is one. -/
def alphaBehind (separator : Char) : Option (List Char) → Language Char
  | none => 1
  | some alpha => padded (mark separator) * {alpha}

/-- The spellings of arguments with commas. -/
def commaSpelling (arguments : Color.Arguments) : Language Char :=
  triple (padded (mark ',')) {arguments.first} {arguments.second} {arguments.third} *
    alphaBehind ',' arguments.alpha

/-- The spellings of arguments with blanks, and a slash in front of the alpha. -/
def blankSpelling (arguments : Color.Arguments) : Language Char :=
  triple (row isBlank) {arguments.first} {arguments.second} {arguments.third} *
    alphaBehind '/' arguments.alpha

/-- All spellings of arguments. -/
def spelling (arguments : Color.Arguments) : Language Char :=
  commaSpelling arguments + blankSpelling arguments

section

variable (htokens : ArgumentsIn token token token arguments)
include htokens

theorem triple_le (separator : Language Char) :
    triple separator {arguments.first} {arguments.second} {arguments.third} ≤
      triple separator token token token := by
  have hfirst := singleton_le htokens.first
  have hsecond := singleton_le htokens.second
  have hthird := singleton_le htokens.third
  exact mul_le_mul' (mul_le_mul' (mul_le_mul' (mul_le_mul' hfirst (le_refl _)) hsecond)
    (le_refl _)) hthird

theorem alphaBehind_le (separator : Char) : alphaBehind separator arguments.alpha ≤
    optional (padded (mark separator) * token) := by
  cases halpha : arguments.alpha with
  | none => exact le_of_forall fun _ hnone => Or.inl hnone
  | some alpha =>
      have hpadded := mul_le_mul' (le_refl (padded (mark separator)))
        (singleton_le (htokens.alpha alpha halpha))
      exact le_of_forall fun _ htext => Or.inr (hpadded htext)

theorem commaSpelling_le : commaSpelling arguments ≤ commaList token token token token :=
  mul_le_mul' (triple_le htokens _) (alphaBehind_le htokens ',')

theorem blankSpelling_le : blankSpelling arguments ≤ blankList token token token token :=
  mul_le_mul' (triple_le htokens _) (alphaBehind_le htokens '/')

/-! ## Splitting a spelling -/

/-- Between commas the tokens are found again. -/
theorem ofCommas?_of_mem_commaSpelling (hbody : body ∈ padded (commaSpelling arguments)) :
    Arguments.ofCommas? body = some arguments := by
  have hclear {part : List Char} (hpart : part ∈ token) : ({part} : Language Char) ≤
      solid ⊓ run isInner := singleton_le ⟨token_le_solid hpart, token_le_inner hpart⟩
  have hfirst := hclear htokens.first
  have hsecond := hclear htokens.second
  have hthird := hclear htokens.third
  have hfound := htokens.ofParts?_eq token_le_solid token_le_solid token_le_solid
  unfold commaSpelling at hbody
  cases halpha : arguments.alpha with
  | none =>
      rw [halpha, alphaBehind, mul_one, mem_triple_iff hfirst hsecond hthird] at hbody
      obtain ⟨one, two, three, hone, htwo, hthree, hparts⟩ := hbody
      rw [halpha, ← Set.mem_singleton_iff.1 hone, ← Set.mem_singleton_iff.1 htwo,
        ← Set.mem_singleton_iff.1 hthree] at hfound
      simpa only [Arguments.ofCommas?, hparts, List.map_cons, List.map_nil] using hfound
  | some alpha =>
      have hlast := hclear (htokens.alpha alpha halpha)
      rw [halpha, alphaBehind, mem_triple_mul_iff hfirst hsecond hthird hlast] at hbody
      obtain ⟨one, two, three, four, hone, htwo, hthree, hfour, hparts⟩ := hbody
      rw [halpha, ← Set.mem_singleton_iff.1 hone, ← Set.mem_singleton_iff.1 htwo,
        ← Set.mem_singleton_iff.1 hthree, ← Set.mem_singleton_iff.1 hfour] at hfound
      simpa only [Arguments.ofCommas?, hparts, List.map_cons, List.map_nil] using hfound

/-- The words of three tokens with blanks between them. -/
theorem words_of_mem_triple {front : List Char} (hfront : front ∈ padded (triple (row isBlank)
    {arguments.first} {arguments.second} {arguments.third})) :
    words front = [arguments.first, arguments.second, arguments.third] ∧ '/' ∉ front := by
  have hinner {part : List Char} (hpart : part ∈ token) : ({part} : Language Char) ≤ run isInner :=
    singleton_le (token_le_inner hpart)
  have hsolid {part : List Char} (hpart : part ∈ token) : ({part} : Language Char) ≤ solid :=
    singleton_le (token_le_solid hpart)
  have hword {part : List Char} (hpart : part ∈ token) :
      ({part} : Language Char) ⊓ unbroken = {part} :=
    inf_eq_left.2 (singleton_le (token_le_unbroken hpart))
  refine ⟨?_, slash_notMem_of_wordList (hinner htokens.first) (hinner htokens.second)
    (hinner htokens.third) hfront⟩
  rw [← hword htokens.first, ← hword htokens.second, ← hword htokens.third,
    mem_wordList_iff (hsolid htokens.first) (hsolid htokens.second)
      (hsolid htokens.third)] at hfront
  obtain ⟨one, rfl, two, rfl, three, rfl, hwords⟩ := hfront
  exact hwords

/-- Between blanks, and behind a slash, the tokens are found again. -/
theorem ofWords?_of_mem_blankSpelling (hbody : body ∈ padded (blankSpelling arguments)) :
    Arguments.ofWords? body = some arguments := by
  have hfound := htokens.ofParts?_eq token_le_solid token_le_solid token_le_solid
  unfold blankSpelling at hbody
  cases halpha : arguments.alpha with
  | none =>
      rw [halpha, alphaBehind, mul_one] at hbody
      obtain ⟨hwords, hslash⟩ := words_of_mem_triple htokens hbody
      rw [ofWords?_of_notMem hslash, hwords, ← halpha, hfound]
  | some alpha =>
      have hshape : padded (triple (row isBlank) {arguments.first} {arguments.second}
          {arguments.third} * (padded (mark '/') * {alpha})) =
          padded (triple (row isBlank) {arguments.first} {arguments.second} {arguments.third}) *
            (mark '/' * padded {alpha}) := by
        simp only [padded, mul_assoc]
      rw [halpha, alphaBehind, hshape, mem_mul_mark_iff] at hbody
      obtain ⟨front, hfront, rest, hrest, rfl⟩ := hbody
      obtain ⟨hwords, hslash⟩ := words_of_mem_triple htokens hfront
      have htrim : trim rest = alpha :=
        (mem_padded_iff (singleton_le (token_le_solid (htokens.alpha alpha halpha)))).1 hrest
      rw [ofWords?_append hslash, hwords, htrim, ← halpha, hfound]

/-- A spelling of arguments splits into them. -/
theorem ofBody_of_mem_spelling (hbody : body ∈ padded (spelling arguments)) (whole : String) :
    Arguments.ofBody whole body = .ok arguments := by
  have hsplit : padded (spelling arguments) =
      padded (commaSpelling arguments) + padded (blankSpelling arguments) := by
    simp only [padded, spelling, mul_add, add_mul]
  rw [hsplit, Language.mem_add] at hbody
  unfold Arguments.ofBody
  simp only
  -- a comma in the body tells the two kinds of spelling apart
  rcases hbody with hcommas | hblanks
  · have hlist : body ∈ padded (commaList token token token token) :=
      mul_le_mul' (mul_le_mul' (le_refl _) (commaSpelling_le htokens)) (le_refl _) hcommas
    rw [if_pos (comma_mem_of_commaList hlist), if_neg (slash_notMem_of_commaList token_le_inner
      token_le_inner token_le_inner hlist), ofCommas?_of_mem_commaSpelling htokens hcommas]
    rfl
  · have hlist : body ∈ padded (blankList token token token token) :=
      mul_le_mul' (mul_le_mul' (le_refl _) (blankSpelling_le htokens)) (le_refl _) hblanks
    rw [if_neg (comma_notMem_of_blankList token_le_inner token_le_inner token_le_inner hlist),
      ofWords?_of_mem_blankSpelling htokens hblanks]
    rfl

/-! ## Reading a spelling -/

theorem spelling_le : spelling arguments ≤
    commaList token token token token + blankList token token token token :=
  add_le_add (commaSpelling_le htokens) (blankSpelling_le htokens)

variable {whole : String} {space : Space}
variable (hwhole : whole.toList ∈ call (namesOf space) (spelling arguments))
include hwhole

/-- A name of a color space and a spelling of arguments are read as a function of these
arguments. -/
theorem exists_notation_of_spelling : ∃ body, Notation.ofText whole = .ok (.function space body) ∧
    Arguments.ofBody whole body = .ok arguments := by
  have hcontent : dropFinalLineFeed whole.toList = whole.toList :=
    if_neg (call_le_unfed _ _ hwhole)
  obtain ⟨name, hname, inner, hinner, htext⟩ := mem_call_iff.1 hwhole
  have hlists := spelling_le htokens
  have hsolid : spelling arguments ≤ solid := hlists.trans
    (add_le (commaList_le_solid token_le_solid token_le_solid token_le_solid)
      (blankList_le_solid token_le_solid token_le_solid token_le_solid))
  have henclosed : inner ∈ run isEnclosed :=
    lists_le_enclosed token_le_inner token_le_inner token_le_inner token_le_inner token_le_inner
      (mul_le_mul' (mul_le_mul' (le_refl _) hlists) (le_refl _) hinner)
  have htrimmed : trim inner ∈ padded (spelling arguments) := by
    rw [mem_padded_iff hsolid] at hinner ⊢
    rwa [trim_trim]
  refine ⟨trim inner, notation_of_function ?_, ofBody_of_mem_spelling htokens htrimmed whole⟩
  rw [hcontent]
  have hfree : '(' ∉ name := notMem_of_mem_namesOf hname (by decide)
  exact functionOf?_eq_some_iff.2 ⟨name, inner, space, htext, hfree, henclosed,
    ofName?_eq_some_iff.2 hname, rfl⟩

/-- The color of a function comes from its color space and its arguments. -/
theorem ofText_of_spelling : Color.ofText whole = ofArguments space arguments := by
  obtain ⟨body, hform, hbody⟩ := exists_notation_of_spelling htokens hwhole
  rw [ofText_of_form hform, Notation.toColor, hbody]
  rfl

/-- So do its own components. -/
theorem ownHsl?_of_spelling :
    ownHsl? whole = if space = .hsl then (readHsl arguments).map some else .ok none := by
  obtain ⟨body, hform, hbody⟩ := exists_notation_of_spelling htokens hwhole
  rw [ownHsl?, hform]
  cases space with
  | rgb => rfl
  | hwb => rfl
  | hsl =>
      simp only [hbody]
      rfl

end

/-! ## Two spellings -/

/-- However the same arguments are spelled, and by which name of their color space, they are
read alike and written alike, and refused only as not being in the notation. -/
theorem ofText_eq_of_spellings {space : Space} (htokens : ArgumentsIn token token token arguments)
    {first second : String} (hfirst : first.toList ∈ call (namesOf space) (spelling arguments))
    (hsecond : second.toList ∈ call (namesOf space) (spelling arguments)) :
    (Color.ofText first = Color.ofText second ∧ InNotation (Color.ofText first)) ∧
      ∀ encoding, resolve first encoding = resolve second encoding ∧
        InNotation (resolve first encoding) := by
  have hcolor : Color.ofText first = Color.ofText second :=
    (ofText_of_spelling htokens hfirst).trans (ofText_of_spelling htokens hsecond).symm
  have hown : ownHsl? first = ownHsl? second :=
    (ownHsl?_of_spelling htokens hfirst).trans (ownHsl?_of_spelling htokens hsecond).symm
  have hread : InNotation (Color.ofText first) := by
    rw [ofText_of_spelling htokens hfirst]
    exact inNotation_ofArguments space arguments
  exact ⟨⟨hcolor, hread⟩, fun encoding =>
    ⟨resolve_congr hcolor hown encoding, inNotation_resolve hread encoding⟩⟩

/-- Half a green. -/
def translucentGreen : Color.Arguments :=
  ⟨"120".toList, "50%".toList, "50%".toList, some ".5".toList⟩

theorem argumentsIn_translucentGreen : ArgumentsIn token token token translucentGreen := by
  have htoken {text : List Char} (htext : text ≠ [] ∧
      text.all (fun character => isInner character && !isBlank character) = true) :
      text ∈ token := htext
  refine ⟨htoken (by decide), htoken (by decide), htoken (by decide), ?_⟩
  rintro _ ⟨⟩
  exact htoken (by decide)

/-- Half a green with commas, and with blanks and a slash behind another name. -/
theorem ofText_eq_translucentGreen :
    (Color.ofText "hsl( 120 ,50%,50% , .5 )" = Color.ofText "HSLA(120 50%  50%/.5)" ∧
      InNotation (Color.ofText "hsl( 120 ,50%,50% , .5 )")) ∧
      ∀ encoding, resolve "hsl( 120 ,50%,50% , .5 )" encoding =
          resolve "HSLA(120 50%  50%/.5)" encoding ∧
        InNotation (resolve "hsl( 120 ,50%,50% , .5 )" encoding) := by
  have hmark (separator : Char) : [separator] ∈ mark separator := rfl
  have hcommas : "120".toList ++ " ,".toList ++ "50%".toList ++ ",".toList ++ "50%".toList ++
      (" , ".toList ++ ".5".toList) ∈ spelling translucentGreen :=
    Or.inl (Language.append_mem_mul
      (append_mem_triple rfl (append_mem_padded [' '] [] rfl (hmark ',') rfl) rfl
        (append_mem_padded [] [] rfl (hmark ',') rfl) rfl)
      (Language.append_mem_mul (append_mem_padded [' '] [' '] rfl (hmark ',') rfl) rfl))
  have hblanks : "120".toList ++ " ".toList ++ "50%".toList ++ "  ".toList ++ "50%".toList ++
      ("/".toList ++ ".5".toList) ∈ spelling translucentGreen :=
    Or.inr (Language.append_mem_mul
      (append_mem_triple rfl ⟨by decide, rfl⟩ rfl ⟨by decide, rfl⟩ rfl)
      (Language.append_mem_mul (append_mem_padded [] [] rfl (hmark '/') rfl) rfl))
  have hshort : "hsl( 120 ,50%,50% , .5 )".toList ∈
      call (namesOf .hsl) (spelling translucentGreen) :=
    mem_call_iff.2 ⟨"hsl".toList, Or.inl rfl, _,
      append_mem_padded [' '] [' '] rfl hcommas rfl, by decide⟩
  have hlong : "HSLA(120 50%  50%/.5)".toList ∈ call (namesOf .hsl) (spelling translucentGreen) :=
    mem_call_iff.2 ⟨"HSLA".toList, Or.inr rfl, _, append_mem_padded [] [] rfl hblanks rfl,
      by decide⟩
  exact ofText_eq_of_spellings argumentsIn_translucentGreen hshort hlong

end Palette.Grammar
