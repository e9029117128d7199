import Palette.Proofs.Color.ArgumentList

/-!
# Which texts are colors

The reader accepts exactly the colors of the grammar with its tolerance
(`isColor_iff_mem`).  So the texts that are accepted beyond the documented form are those
that show a lapse, and no text in the documented form is refused
(`isColor_grammar`).
-/

namespace Palette.Grammar

open Palette.Text Palette.Color

variable {text body token : List Char}

/-! ## Arguments -/

/-- Arguments made of solid parts are solid. -/
theorem argumentsIn_solid_of_parts {parts : List (List Char)} {alpha : Option (List Char)}
    {arguments : Color.Arguments} (hfound : Arguments.ofParts? parts alpha = some arguments)
    (hparts : ∀ part ∈ parts, part ≠ [] → IsSolid part)
    (halpha : ∀ part ∈ alpha, part ≠ [] → IsSolid part) :
    ArgumentsIn solid solid solid arguments := by
  obtain ⟨rfl, rfl, hsome⟩ := ofParts?_eq_some_iff.1 hfound
  obtain ⟨hfirst, hrest⟩ := not_or.1 hsome
  obtain ⟨hsecond, hrest⟩ := not_or.1 hrest
  obtain ⟨hthird, hlast⟩ := not_or.1 hrest
  refine ⟨hparts _ (by simp) hfirst, hparts _ (by simp) hsecond, hparts _ (by simp) hthird, ?_⟩
  intro token htoken
  refine halpha token htoken fun hempty => hlast ?_
  rw [← hempty]
  exact htoken

/-- The arguments that a body splits into are solid. -/
theorem argumentsIn_solid {whole : String} {arguments : Color.Arguments}
    (hbody : Arguments.ofBody whole body = .ok arguments) :
    ArgumentsIn solid solid solid arguments := by
  have htrim {parts : List (List Char)} : ∀ part ∈ parts.map trim, part ≠ [] → IsSolid part := by
    intro part hpart hne
    obtain ⟨text, -, rfl⟩ := List.mem_map.1 hpart
    exact isSolid_trim hne
  have hword {text : List Char} : ∀ part ∈ words text, part ≠ [] → IsSolid part :=
    fun _ hpart _ => isSolid_of_mem_words hpart
  unfold Arguments.ofBody at hbody
  simp only at hbody
  split at hbody
  · split at hbody
    · cases hbody
    · rw [elim_eq_ok_iff] at hbody
      unfold Arguments.ofCommas? at hbody
      have hall : ∀ part ∈ (parts ',' body).map trim, part ≠ [] → IsSolid part := htrim
      split at hbody
      · rename_i first second third alpha hparts
        rw [hparts] at hall
        refine argumentsIn_solid_of_parts hbody (fun part hpart => hall part ?_) ?_
        · exact List.mem_append_left [alpha] hpart
        · rintro part ⟨⟩
          exact hall alpha (by simp)
      · exact argumentsIn_solid_of_parts hbody hall (by rintro _ ⟨⟩)
  · rw [elim_eq_ok_iff] at hbody
    unfold Arguments.ofWords? at hbody
    split at hbody
    · exact argumentsIn_solid_of_parts hbody hword (by rintro _ ⟨⟩)
    · refine argumentsIn_solid_of_parts hbody hword ?_
      rintro part ⟨⟩
      exact isSolid_trim

theorem exists_readChannel_iff (htoken : token ∈ solid) :
    (∃ channel, readChannel token = .ok channel) ↔ token ∈ amount tolerated tolerated.stray :=
  exists_amount_iff _ _ htoken

theorem exists_readAlpha_iff {alpha : Option (List Char)}
    (halpha : ∀ token ∈ alpha, token ∈ solid) : (∃ value, readAlpha alpha = .ok value) ↔
      ∀ token ∈ alpha, token ∈ amount tolerated tolerated.stray := by
  cases alpha with
  | none => exact iff_of_true ⟨_, rfl⟩ (by rintro _ ⟨⟩)
  | some token =>
      rw [show (∀ other ∈ some token, other ∈ amount tolerated tolerated.stray) ↔
        token ∈ amount tolerated tolerated.stray by simp]
      exact exists_amount_iff _ _ (halpha token rfl)

/-- What a color space takes as its first component. -/
def firstOf : Space → Language Char → Language Char
  | .rgb => amount tolerated
  | _ => fun _ => hue tolerated

/-- What a color space takes as its second and third component. -/
def otherOf : Space → Language Char → Language Char
  | .rgb => amount tolerated
  | _ => percentage tolerated

theorem exists_readHsl_iff (arguments : Color.Arguments) :
    (∃ hsl, readHsl arguments = .ok hsl) ↔ arguments.first ∈ hue tolerated ∧
      arguments.second ∈ percentage tolerated tolerated.stray ∧
        arguments.third ∈ percentage tolerated tolerated.stray := by
  rw [← exists_readHue_iff, ← exists_readPercentage_iff, ← exists_readPercentage_iff]
  exact exists_bind_eq_ok_iff fun hue => exists_bind_eq_ok_iff fun saturation =>
    exists_bind_pure_eq_ok_iff

/-- Solid arguments make a color exactly if they are components of its space. -/
theorem exists_ofArguments_iff (space : Space) {arguments : Color.Arguments}
    (hsolid : ArgumentsIn solid solid solid arguments) :
    (∃ color, ofArguments space arguments = .ok color) ↔
      ArgumentsIn (firstOf space tolerated.stray) (otherOf space tolerated.stray)
        (amount tolerated tolerated.stray) arguments := by
  have hparts (first other : Language Char) :
      ArgumentsIn first other (amount tolerated tolerated.stray) arguments ↔
        (arguments.first ∈ first ∧ arguments.second ∈ other ∧ arguments.third ∈ other) ∧
          ∃ value, readAlpha arguments.alpha = .ok value := by
    rw [exists_readAlpha_iff hsolid.alpha]
    exact ⟨fun hin => ⟨⟨hin.first, hin.second, hin.third⟩, hin.alpha⟩,
      fun hin => ⟨hin.1.1, hin.1.2.1, hin.1.2.2, hin.2⟩⟩
  have hhues {make : Hsl → Binary → Color} :
      (∃ color, (readHsl arguments >>= fun hsl => readAlpha arguments.alpha >>= fun alpha =>
        pure (make hsl alpha)) = .ok color) ↔
        ArgumentsIn (hue tolerated) (percentage tolerated tolerated.stray)
          (amount tolerated tolerated.stray) arguments := by
    rw [hparts, ← exists_readHsl_iff]
    exact exists_bind_eq_ok_iff fun hsl => exists_bind_pure_eq_ok_iff
  cases space with
  | rgb =>
      rw [firstOf, otherOf, hparts, ← exists_readChannel_iff hsolid.first,
        ← exists_readChannel_iff hsolid.second, ← exists_readChannel_iff hsolid.third, and_assoc,
        and_assoc]
      exact exists_bind_eq_ok_iff fun red => exists_bind_eq_ok_iff fun green =>
        exists_bind_eq_ok_iff fun blue => exists_bind_pure_eq_ok_iff
  | hsl => exact hhues
  | hwb => exact hhues

/-! ## Names of functions -/

theorem mem_word_iff {name : String} : text ∈ word name ↔
    String.ofList (text.map Char.toLower) = name := by
  rw [mem_word, ← String.toList_inj, String.toList_ofList]

/-- The names of a color space. -/
def namesOf : Space → Language Char
  | .rgb => word "rgb" + word "rgba"
  | .hsl => word "hsl" + word "hsla"
  | .hwb => word "hwb" + tolerated.furtherNames

/-- A function's name decides its color space. -/
theorem ofName?_eq_some_iff {space : Space} :
    Space.ofName? text = some space ↔ text ∈ namesOf space := by
  have hnames : text ∈ namesOf space ↔
      match space with
      | .rgb => String.ofList (text.map Char.toLower) = "rgb" ∨
          String.ofList (text.map Char.toLower) = "rgba"
      | .hsl => String.ofList (text.map Char.toLower) = "hsl" ∨
          String.ofList (text.map Char.toLower) = "hsla"
      | .hwb => String.ofList (text.map Char.toLower) = "hwb" ∨
          String.ofList (text.map Char.toLower) = "h\u017Fl" ∨
            String.ofList (text.map Char.toLower) = "h\u017Fla" := by
    cases space <;>
      simp only [namesOf, tolerated, Language.mem_add, mem_word_iff]
  rw [hnames]
  unfold Space.ofName?
  generalize String.ofList (text.map Char.toLower) = name
  split <;> cases space <;> simp_all

/-! ## Functions -/

/-- Whether a character may stand between a function's parentheses. -/
def isEnclosed (character : Char) : Bool :=
  character != '(' && character != ')'

/-- A text is read as a function exactly if it has a name of a color space and a body
between parentheses. -/
theorem functionOf?_eq_some_iff {form : Notation} :
    functionOf? text = some form ↔ ∃ name inner space,
      text = name ++ '(' :: (inner ++ [')']) ∧ '(' ∉ name ∧ inner ∈ run isEnclosed ∧
        Space.ofName? name = some space ∧ form = .function space (trim inner) := by
  constructor
  · intro hfunction
    -- the name reaches to the first parenthesis, and the body to the next one
    obtain ⟨name, rest, rfl, hname, hrest⟩ := exists_span (· != '(') text
    obtain ⟨htake, hdrop⟩ := span_append hname hrest
    unfold functionOf? at hfunction
    simp only [htake, hdrop] at hfunction
    cases rest with
    | nil => cases hfunction
    | cons paren inside =>
        have hparen : paren = '(' := by simpa using hrest paren rfl
        subst hparen
        obtain ⟨inner, behind, rfl, hinner, hbehind⟩ := exists_span isEnclosed inside
        have htakeInner : (inner ++ behind).takeWhile
            (fun character => character != '(' && character != ')') = inner :=
          (span_append hinner hbehind).1
        simp only [htakeInner, List.drop_left] at hfunction
        split at hfunction
        · rename_i hclose
          subst hclose
          obtain ⟨space, hspace, rfl⟩ := Option.map_eq_some_iff.1 hfunction
          have hfree : '(' ∉ name := notMem_of_mem_run hname (by decide)
          exact ⟨name, inner, space, rfl, hfree, hinner, hspace, rfl⟩
        · cases hfunction
  · rintro ⟨name, inner, space, rfl, hname, hinner, hspace, rfl⟩
    have hparen : ∀ character ∈ ('(' :: (inner ++ [')'])).head?, (character != '(') = false := by
      rintro character ⟨⟩
      rfl
    have hclose : ∀ character ∈ [')'].head?, isEnclosed character = false := by
      rintro character ⟨⟩
      rfl
    obtain ⟨htake, hdrop⟩ := span_append (all_ne_of_notMem hname) hparen
    have htakeInner : (inner ++ [')']).takeWhile
        (fun character => character != '(' && character != ')') = inner :=
      (span_append hinner hclose).1
    unfold functionOf?
    simp only [htake, hdrop, htakeInner, List.drop_left, if_true, hspace, Option.map_some]

theorem mem_call_iff {names inner : Language Char} : text ∈ call names inner ↔
    ∃ name ∈ names, ∃ body ∈ padded inner, text = name ++ '(' :: (body ++ [')']) := by
  have hshape : call names inner = names * (mark '(' * (padded inner * mark ')')) := by
    simp only [call, mul_assoc]
  rw [hshape, mem_mul_mark_iff]
  constructor
  · rintro ⟨name, hname, rest, hrest, rfl⟩
    obtain ⟨body, hbody, close, rfl, rfl⟩ := Language.mem_mul.1 hrest
    exact ⟨name, hname, body, hbody, rfl⟩
  · rintro ⟨name, hname, body, hbody, rfl⟩
    exact ⟨name, hname, _, Language.append_mem_mul hbody rfl, rfl⟩

/-- The functions are those of the color spaces. -/
theorem mem_function_iff : text ∈ function tolerated ↔
    ∃ space, text ∈ call (namesOf space) (arguments tolerated (firstOf space) (otherOf space)) := by
  have hshape : function tolerated =
      call (namesOf .rgb) (arguments tolerated (firstOf .rgb) (otherOf .rgb)) +
        (call (namesOf .hsl) (arguments tolerated (firstOf .hsl) (otherOf .hsl)) +
          call (namesOf .hwb) (arguments tolerated (firstOf .hwb) (otherOf .hwb))) := by
    simp only [function, call, namesOf, firstOf, otherOf, add_mul, add_assoc]
  rw [hshape]
  constructor
  · rintro (hrgb | hhsl | hhwb)
    · exact ⟨.rgb, hrgb⟩
    · exact ⟨.hsl, hhsl⟩
    · exact ⟨.hwb, hhwb⟩
  · rintro ⟨space, hspace⟩
    cases space with
    | rgb => exact Or.inl hspace
    | hsl => exact Or.inr (Or.inl hspace)
    | hwb => exact Or.inr (Or.inr hspace)

theorem isComponent_firstOf (space : Space) : IsComponent (firstOf space) := by
  cases space with
  | rgb => exact isComponent_amount
  | hsl => exact isComponent_hue
  | hwb => exact isComponent_hue

theorem isComponent_otherOf (space : Space) : IsComponent (otherOf space) := by
  cases space with
  | rgb => exact isComponent_amount
  | hsl => exact isComponent_percentage
  | hwb => exact isComponent_percentage

/-- A function makes a color exactly if its body is a list of its space's components. -/
theorem exists_toColor_function_iff (whole : String) (space : Space) :
    (∃ color, (Notation.function space (trim body)).toColor whole = .ok color) ↔
      body ∈ padded (arguments tolerated (firstOf space) (otherOf space)) := by
  have hfirst := isComponent_firstOf space
  have hother := isComponent_otherOf space
  have hsolid := arguments_le_solid hfirst hother
  have htrim : body ∈ padded (arguments tolerated (firstOf space) (otherOf space)) ↔
      trim body ∈ padded (arguments tolerated (firstOf space) (otherOf space)) := by
    rw [mem_padded_iff hsolid, mem_padded_iff hsolid, trim_trim]
  rw [htrim, ← exists_ofBody_iff hfirst hother whole]
  constructor
  · rintro ⟨color, hcolor⟩
    obtain ⟨arguments, hbody, harguments⟩ := bind_eq_ok_iff.1 hcolor
    exact ⟨arguments, hbody,
      (exists_ofArguments_iff space (argumentsIn_solid hbody)).1 ⟨color, harguments⟩⟩
  · rintro ⟨arguments, hbody, hin⟩
    obtain ⟨color, hcolor⟩ := (exists_ofArguments_iff space (argumentsIn_solid hbody)).2 hin
    exact ⟨color, bind_eq_ok_iff.2 ⟨arguments, hbody, hcolor⟩⟩

theorem inner_le_enclosed : run isInner ≤ run isEnclosed := by
  refine run_le_run fun character hcharacter => ?_
  rw [isEnclosed, Bool.and_eq_true, bne_iff_ne, bne_iff_ne]
  refine ⟨?_, ?_⟩ <;> rintro rfl <;> exact absurd hcharacter (by decide)

/-- Lists of components without separators and parentheses stand between parentheses. -/
theorem lists_le_enclosed {first other firstWord otherWord alpha : Language Char}
    (hfirst : first ≤ run isInner) (hother : other ≤ run isInner)
    (hfirstWord : firstWord ≤ run isInner) (hotherWord : otherWord ≤ run isInner)
    (halpha : alpha ≤ run isInner) :
    padded (commaList first other other alpha + blankList firstWord otherWord otherWord alpha) ≤
      run isEnclosed := by
  have hclosed := isClosed_run isEnclosed
  have hinner : run isInner ≤ run isEnclosed := inner_le_enclosed
  have hblank : run isBlank ≤ run isEnclosed := (run_le_inner (by decide)).trans hinner
  refine hclosed.padded_le hblank (add_le ?_ ?_)
  · exact hclosed.commaList_le hblank (mark_le_run (by decide)) (hfirst.trans hinner)
      (hother.trans hinner) (halpha.trans hinner)
  · exact hclosed.blankList_le hblank (mark_le_run (by decide)) (hfirstWord.trans hinner)
      (hotherWord.trans hinner) (halpha.trans hinner)

theorem arguments_le_enclosed (space : Space) :
    padded (arguments tolerated (firstOf space) (otherOf space)) ≤ run isEnclosed := by
  have hfirst := isComponent_firstOf space
  have hother := isComponent_otherOf space
  exact lists_le_enclosed hfirst.inner hother.inner hfirst.one_le_inner hother.one_le_inner
    amount_le_inner

/-- No other characters than these, in either letter case, stand in the names of functions. -/
theorem notMem_of_mem_namesOf {space : Space} {character : Char} (htext : text ∈ namesOf space)
    (hcharacter : character.toLower ∉ "rgbahslw\u017F".toList) : character ∉ text := by
  have hword {name : String}
      (hname : (name.toList.all fun letter => "rgbahslw\u017F".toList.contains letter) = true)
      (hmem : text ∈ word name) : character ∉ text := by
    intro hin
    rw [← mem_word.1 hmem, List.all_eq_true] at hname
    exact hcharacter (List.contains_iff_mem.1 (hname _ (List.mem_map_of_mem hin)))
  cases space with
  | rgb => exact htext.elim (hword (by decide)) (hword (by decide))
  | hsl => exact htext.elim (hword (by decide)) (hword (by decide))
  | hwb =>
      rcases htext with hname | hshort | hlong
      · exact hword (by decide) hname
      · exact hword (by decide) hshort
      · exact hword (by decide) hlong

/-- The functions of the grammar are the texts that are read as functions and make
colors. -/
theorem exists_function_iff (whole : String) :
    (∃ form, functionOf? text = some form ∧ ∃ color, form.toColor whole = .ok color) ↔
      text ∈ function tolerated := by
  rw [mem_function_iff]
  constructor
  · rintro ⟨form, hform, hcolor⟩
    obtain ⟨name, inner, space, rfl, -, -, hspace, rfl⟩ := functionOf?_eq_some_iff.1 hform
    exact ⟨space, mem_call_iff.2 ⟨name, ofName?_eq_some_iff.1 hspace, inner,
      (exists_toColor_function_iff whole space).1 hcolor, rfl⟩⟩
  · rintro ⟨space, hspace⟩
    obtain ⟨name, hname, inner, hinner, rfl⟩ := mem_call_iff.1 hspace
    have hfunction := functionOf?_eq_some_iff.2 ⟨name, inner, space, rfl,
      notMem_of_mem_namesOf hname (by decide), arguments_le_enclosed space hinner,
      ofName?_eq_some_iff.2 hname, rfl⟩
    exact ⟨_, hfunction, (exists_toColor_function_iff whole space).2 hinner⟩

/-! ## Names of colors -/

/-- All names are lower-case words. -/
theorem toList_mem_row_of_named {entry : String × ℕ} (hentry : entry ∈ named) :
    entry.1.toList ∈ row Char.isLower := by
  have hall : (named.all fun entry =>
      !entry.1.toList.isEmpty && entry.1.toList.all Char.isLower) = true := by decide +kernel
  have hboth := List.all_eq_true.1 hall entry hentry
  rw [Bool.and_eq_true, Bool.not_eq_true', List.isEmpty_eq_false_iff] at hboth
  exact hboth

theorem keyword_le_row : keyword ≤ row Char.isAlpha := by
  apply le_of_forall
  rintro text ⟨hletters, entry, hentry, htext⟩
  refine ⟨?_, hletters⟩
  rintro rfl
  exact (toList_mem_row_of_named hentry).1 htext.symm

/-- The names of the grammar are the texts that are found among the names of colors. -/
theorem mem_keyword_iff : text ∈ keyword ↔ ∃ color, Color.ofName? text = some color := by
  have hfound : (∃ color, Color.ofName? text = some color) ↔
      ∃ entry ∈ named, text.map Char.toLower = entry.1.toList := by
    rw [← Option.isSome_iff_exists, Color.ofName?, Option.isSome_map, List.find?_isSome]
    refine exists_congr fun entry => and_congr_right fun _ => ?_
    rw [beq_iff_eq, ← String.toList_inj, String.toList_ofList]
    exact eq_comm
  rw [hfound]
  refine ⟨fun htext => htext.2, ?_⟩
  rintro ⟨entry, hentry, htext⟩
  have hlower := (toList_mem_row_of_named hentry).2
  exact ⟨word_le_run hlower (mem_word.2 htext), entry, hentry, htext⟩

/-! ## The outer form -/

section

variable {whole : String}

/-- What a text is read as: digits, a name, or a function. -/
theorem notation_cases {form : Notation} (hform : Notation.ofText whole = .ok form) :
    (∃ marks, form = .digits marks) ∨ form = .name whole.toList ∨
      functionOf? (dropFinalLineFeed whole.toList) = some form := by
  unfold Notation.ofText at hform
  simp only at hform
  split at hform
  · exact Or.inr (Or.inr (elim_eq_ok_iff.1 hform))
  · split at hform
    · split at hform
      · cases hform
        exact Or.inl ⟨_, rfl⟩
      · exact Or.inr (Or.inr (elim_eq_ok_iff.1 hform))
    · split at hform
      · cases hform
        exact Or.inr (Or.inl rfl)
      · exact Or.inr (Or.inr (elim_eq_ok_iff.1 hform))

theorem notation_of_hash {digits : List Char}
    (hcontent : dropFinalLineFeed whole.toList = '#' :: digits)
    (hhex : digits.all isHexDigit = true) (hcount : isDigitCount digits.length = true) :
    Notation.ofText whole = .ok (.digits (whole.toList.drop 1)) := by
  simp [Notation.ofText, hcontent, hhex, hcount]

theorem notation_of_letters (hletters : whole.toList ∈ row Char.isAlpha) :
    Notation.ofText whole = .ok (.name whole.toList) := by
  obtain ⟨hne, hall⟩ := hletters
  have hunfed : whole.toList.getLast? ≠ some '\n' := run_le_unfed (by decide) hall
  have hcontent : dropFinalLineFeed whole.toList = whole.toList := if_neg hunfed
  obtain ⟨first, others, hsplit⟩ := List.exists_cons_of_ne_nil hne
  have hfirst : first ≠ '#' := by
    rintro rfl
    rw [hsplit, List.all_cons, Bool.and_eq_true] at hall
    exact absurd hall.1 (by decide)
  unfold Notation.ofText
  simp only [hcontent]
  rw [hall]
  simp only [hsplit, if_neg hfirst, if_true]

/-- A text with a parenthesis is read as a function, if at all. -/
theorem notation_of_function {form : Notation}
    (hfunction : functionOf? (dropFinalLineFeed whole.toList) = some form) :
    Notation.ofText whole = .ok form := by
  obtain ⟨name, inner, space, hcontent, -⟩ := functionOf?_eq_some_iff.1 hfunction
  have hparen : '(' ∈ dropFinalLineFeed whole.toList := by
    rw [hcontent]
    simp
  unfold Notation.ofText
  simp only [hfunction, Option.elim_some]
  split
  · rfl
  · rename_i first others hsplit
    rw [hsplit] at hparen
    split
    · rename_i hhash
      rw [if_neg]
      rw [Bool.and_eq_true]
      rintro ⟨hdigits, -⟩
      have hothers : '(' ∈ others := by
        rcases List.mem_cons.1 hparen with heq | hothers
        · rw [hhash] at heq
          exact absurd heq (by decide)
        · exact hothers
      exact notMem_of_mem_run hdigits (by decide) hothers
    · rw [if_neg]
      intro hletters
      rw [hsplit] at hletters
      exact notMem_of_mem_run hletters (by decide) hparen

/-! ## Colors -/

theorem isColor_of_form {form : Notation} (hform : Notation.ofText whole = .ok form)
    (hcolor : ∃ color, form.toColor whole = .ok color) : IsColor whole := by
  unfold IsColor
  rwa [ofText_of_form hform]

theorem isDigitCount_iff (count : ℕ) :
    isDigitCount count = true ↔ (count = 3 ∨ count = 4) ∨ (count = 6 ∨ count = 8) := by
  simp only [isDigitCount, Bool.or_eq_true, beq_iff_eq, or_assoc]

/-- What is read as digits and makes a color is digits of the grammar, with a line feed
behind six or eight at most. -/
theorem mem_digits_of_form {marks : List Char} (hform : Notation.ofText whole = .ok (.digits marks))
    (hcolor : ∃ color, ofDigits marks = .ok color) :
    whole.toList ∈ digits [3, 4] + digits [6, 8] * tolerated.stray := by
  obtain ⟨marked, htext, hhex, hcount, hmarks⟩ := exists_digits_of_notation hform
  have hdigits {counts : List ℕ} (hmem : marked.length ∈ counts) :
      '#' :: marked ∈ digits counts := Language.append_mem_mul (a := ['#']) rfl ⟨hhex, hmem⟩
  rw [htext]
  rcases hmarks with rfl | rfl
  · rcases (isDigitCount_iff _).1 hcount with hshort | hlong
    · exact Or.inl (hdigits (by simpa using hshort))
    · have hnone : [] ∈ tolerated.stray := Or.inl rfl
      have hmarked : '#' :: marks ∈ digits [6, 8] := hdigits (by simpa using hlong)
      have hmem := Language.append_mem_mul hmarked hnone
      rw [List.append_nil] at hmem
      exact Or.inr hmem
  · rcases (isDigitCount_iff _).1 hcount with hshort | hlong
    · -- behind three or four digits the line feed makes a pair without digits
      obtain ⟨pair, hpair⟩ := exists_ofDigits_eq_blankDigits hhex hshort
      obtain ⟨color, hcolor⟩ := hcolor
      rw [hpair] at hcolor
      cases hcolor
    · have hfeed : ['\n'] ∈ tolerated.stray := Or.inr rfl
      exact Or.inr (Language.append_mem_mul (hdigits (by simpa using hlong)) hfeed)

/-- Digits of the grammar, with a line feed behind six or eight at most, make a color. -/
theorem isColor_of_mem_digits
    (htext : whole.toList ∈ digits [3, 4] + digits [6, 8] * tolerated.stray) : IsColor whole := by
  rcases htext with hshort | hlong
  · have hcontent : dropFinalLineFeed whole.toList = whole.toList :=
      if_neg (digits_le_unfed _ hshort)
    obtain ⟨hash, rfl, marks, ⟨hhex, hcount⟩, hsplit⟩ := Language.mem_mul.1 hshort
    have hlength : marks.length = 3 ∨ marks.length = 4 := by simpa using hcount
    have hmany : isDigitCount marks.length = true := (isDigitCount_iff _).2 (Or.inl hlength)
    refine isColor_of_form (notation_of_hash (hcontent.trans hsplit.symm) hhex hmany) ?_
    rw [← hsplit]
    exact exists_ofDigits_of_short hhex hlength
  · have hcontent := (mem_mul_stray_iff (digits_le_unfed _)).1 hlong
    obtain ⟨hash, rfl, marks, ⟨hhex, hcount⟩, hsplit⟩ := Language.mem_mul.1 hcontent
    have hlength : marks.length = 6 ∨ marks.length = 8 := by simpa using hcount
    have hmany : isDigitCount marks.length = true := (isDigitCount_iff _).2 (Or.inr hlength)
    refine isColor_of_form (notation_of_hash hsplit.symm hhex hmany) ?_
    rcases append_dropFinalLineFeed whole.toList with hsame | hfeed
    · rw [hsame, ← hsplit]
      have hcolor := exists_ofDigits_of_long hhex hlength [] (Or.inl rfl)
      rwa [List.append_nil] at hcolor
    · rw [hfeed, ← hsplit]
      exact exists_ofDigits_of_long hhex hlength ['\n'] (Or.inr rfl)

/-- The reader accepts the colors of the grammar with its tolerance. -/
theorem isColor_iff_mem (whole : String) : IsColor whole ↔ whole.toList ∈ color tolerated := by
  constructor
  · rintro ⟨made, hmade⟩
    obtain ⟨form, hform, hcolor⟩ := bind_eq_ok_iff.1 hmade
    rcases notation_cases hform with ⟨marks, rfl⟩ | rfl | hfunction
    · exact Or.inl (Or.inl (mem_digits_of_form hform ⟨made, hcolor⟩))
    · refine Or.inl (Or.inr (mem_keyword_iff.2 ⟨made, elim_eq_ok_iff.1 hcolor⟩))
    · refine Or.inr ((mem_mul_stray_iff (function_le_unfed tolerated)).2 ?_)
      exact (exists_function_iff whole).1 ⟨form, hfunction, made, hcolor⟩
  · rintro ((hdigits | hname) | hfunction)
    · exact isColor_of_mem_digits hdigits
    · obtain ⟨made, hmade⟩ := mem_keyword_iff.1 hname
      exact isColor_of_form (notation_of_letters (keyword_le_row hname))
        ⟨made, elim_eq_ok_iff.2 hmade⟩
    · have hcontent := (mem_mul_stray_iff (function_le_unfed tolerated)).1 hfunction
      obtain ⟨form, hform, hcolor⟩ := (exists_function_iff whole).2 hcontent
      exact isColor_of_form (notation_of_function hform) hcolor

end

/-- The reader accepts exactly the tolerated texts, and among them those without a lapse
are the documented form. -/
theorem isColor_grammar (whole : String) :
    (IsColor whole ↔ whole.toList ∈ color tolerated) ∧
      (whole.toList ∈ color documented ↔ IsColor whole ∧ ¬ HasLapse whole.toList) := by
  refine ⟨isColor_iff_mem whole, ?_⟩
  rw [isColor_iff_mem]
  exact mem_documented_iff whole.toList

/-- A line feed at the end, digits of another script, a line feed in front of a percent
sign, and a long s are accepted, and none of them is documented. -/
theorem isColor_lapses :
    (IsColor "#aabbcc\n" ∧ "#aabbcc\n".toList ∉ color documented) ∧
    (IsColor "rgb(\u0661,2,3)" ∧ "rgb(\u0661,2,3)".toList ∉ color documented) ∧
    (IsColor "rgb(50\n%,0%,0%)" ∧ "rgb(50\n%,0%,0%)".toList ∉ color documented) ∧
    (IsColor "h\u017Fl(0,0%,0%)" ∧ "h\u017Fl(0,0%,0%)".toList ∉ color documented) := by
  have hlapse {text : List Char} (htext : HasLapse text) : text ∉ color documented :=
    fun hmem => ((mem_documented_iff text).1 hmem).2 htext
  refine ⟨⟨by decide +kernel, hlapse (Or.inl rfl)⟩,
    ⟨by decide +kernel, hlapse (Or.inr (Or.inr ⟨'\u0661', by decide, by decide⟩))⟩,
    ⟨by decide +kernel, hlapse (Or.inr (Or.inl ⟨"rgb(50".toList, ",0%,0%)".toList, rfl⟩))⟩,
    ⟨by decide +kernel, hlapse (Or.inr (Or.inr ⟨'\u017F', by decide, by decide⟩))⟩⟩

end Palette.Grammar
