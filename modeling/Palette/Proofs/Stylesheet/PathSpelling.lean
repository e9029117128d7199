import Palette.Proofs.Stylesheet.Completion
import Palette.Proofs.Stylesheet.Seam
import Palette.Proofs.Text.CharacterClass
import Palette.Proofs.Text.Trimming

/-!
# One path, written in several ways

A path may stand in a rule with or without quotes, blanks may stand around it, and the end
of the stylesheet may stand for the semicolon (`WrittenRule`).  All these rules name the same
file and come to the same, whatever else the path holds: an opening of a comment in it
opens nothing that the rule would be inside of, and the rule's own name in it is part of the
path (`expandAmong_writtenRule`).

## Strategy

The stylesheet is cut into a single invocation (`WrittenRule.exists_cut`): blanks behind the
name do not lengthen it, and nothing in front of the end ends the rule.  Trimming and leaving
the quotes away give the path again (`pathText_written`), and what an invocation comes to
depends on this path alone (`Becomes.of_pathText`).
-/

namespace Palette.Stylesheet

open Palette.Text

/-- A path that a rule can hold: no blanks are around it, and neither a quote nor an end
of a rule is in it. -/
structure IsPathText (name : List Char) : Prop where
  solid : IsSolid name
  plain : ∀ character ∈ name,
    character ≠ '"' ∧ character ≠ '\'' ∧ endsRule character = false

/-- A path as it stands in a rule. -/
inductive WrittenPath (name : List Char) : List Char → Prop
  | bare : WrittenPath name name
  | double : WrittenPath name (['"'] ++ name ++ ['"'])
  | single : WrittenPath name (['\''] ++ name ++ ['\''])

/-- A rule with a path, with blanks around the path, and with a semicolon or the end of the
text behind it. -/
inductive WrittenRule (name : List Char) : List Char → Prop
  | mk {front path behind semicolon : List Char} (hpath : WrittenPath name path)
      (hne : front ≠ []) (hfront : front.all isBlank = true)
      (hbehind : behind.all isBlank = true) (hsemicolon : semicolon = [';'] ∨ semicolon = []) :
      WrittenRule name (ruleName ++ ((front ++ path ++ behind) ++ semicolon))

/-! ## Characters of a rule -/

/-- A blank neither lengthens the name of a rule nor ends the rule. -/
theorem plain_of_isBlank {character : Char} (hblank : isBlank character = true) :
    lengthensName character = false ∧ endsRule character = false := by
  have hother : ∀ sign ∈ ['-', ';', '\x7b', '\x7d'], character ≠ sign := by
    rintro sign hsign rfl
    have hsigns : ['-', ';', '\x7b', '\x7d'].all (fun sign => !isBlank sign) = true := by decide
    have hnot := List.all_eq_true.1 hsigns _ hsign
    rw [hblank] at hnot
    cases hnot
  simp only [List.forall_mem_cons] at hother
  obtain ⟨hhyphen, hsemicolon, hopen, hclose, -⟩ := hother
  constructor
  · simp [lengthensName, isWordCharacter_of_isBlank hblank, hhyphen]
  · simp [endsRule, hsemicolon, hopen, hclose]

section

variable {name path front behind semicolon characters : List Char}

theorem WrittenPath.isSolid (hname : IsPathText name) (hpath : WrittenPath name path) :
    IsSolid path := by
  have hquote {quote : Char} (hplain : isBlank quote = false) : IsSolid [quote] :=
    ⟨quote, quote, rfl, rfl, hplain, hplain⟩
  cases hpath with
  | bare => exact hname.solid
  | double => exact (hquote rfl).append (hquote rfl) name
  | single => exact (hquote rfl).append (hquote rfl) name

theorem WrittenPath.endsRule_eq_false (hname : IsPathText name) (hpath : WrittenPath name path)
    {character : Char} (hmem : character ∈ path) : endsRule character = false := by
  have hplain : ∀ character ∈ name, endsRule character = false :=
    fun character hmem => (hname.plain character hmem).2.2
  have hquoted {quote : Char} (hquote : endsRule quote = false) :
      ∀ character ∈ [quote] ++ name ++ [quote], endsRule character = false := by
    simpa [hquote, or_imp, forall_and] using hplain
  cases hpath with
  | bare => exact hplain character hmem
  | double => exact hquoted rfl character hmem
  | single => exact hquoted rfl character hmem

/-- Without its quotes, a path is there again. -/
theorem WrittenPath.filter_eq (hname : IsPathText name) (hpath : WrittenPath name path) :
    path.filter (fun character => character != '"' && character != '\'') = name := by
  have hself : name.filter (fun character => character != '"' && character != '\'') = name := by
    refine List.filter_eq_self.2 fun character hmem => ?_
    obtain ⟨hdouble, hsingle, -⟩ := hname.plain character hmem
    simp [hdouble, hsingle]
  cases hpath with
  | bare => exact hself
  | double => simpa [List.filter_append] using hself
  | single => simpa [List.filter_append] using hself

/-- The path that was written is the one that is read. -/
theorem pathText_written (hname : IsPathText name) (hpath : WrittenPath name path)
    (hfront : front.all isBlank = true) (hbehind : behind.all isBlank = true) :
    pathText (front ++ path ++ behind) = name := by
  rw [pathText, trim_append hfront (hpath.isSolid hname) hbehind, hpath.filter_eq hname]

/-! ## The rule in the stylesheet -/

/-- A comment does not begin with the sign of a rule. -/
theorem exists_markComments_sign (rest : List Char) :
    ∃ behind, markComments ('@' :: rest) = ('@', false) :: behind := by
  have hplain : ¬ InComment ('@' :: rest) 0 := by
    intro hcomment
    obtain ⟨start, closing, hfirst, hstart⟩ :
        ∃ start closing, FirstComment ('@' :: rest) start closing ∧ start ≤ 0 := by
      generalize hplace : 0 = place at hcomment
      cases hcomment with
      | inFirst hfirst hstart => exact ⟨_, _, hfirst, hstart⟩
      | behind => omega
    obtain rfl := Nat.le_zero.1 hstart
    cases hfirst.opens.1
  rw [markComments_eq, List.mapIdx_cons, decide_eq_false hplain]
  exact ⟨_, rfl⟩

/-- A rule that is the whole stylesheet is one invocation. -/
theorem cut_of_spanFrom_eq (hrule : RuleAt characters 0)
    (hspan : spanFrom characters 0 = characters) :
    cut characters =
      [.text [], .invocation characters (parameterFrom characters 0), .text []] := by
  obtain ⟨rest, rfl⟩ : ∃ rest, characters = '@' :: rest := by
    have hsign := hrule.sign
    cases characters with
    | nil => cases hsign
    | cons first rest =>
        obtain rfl := Option.some.inj hsign
        exact ⟨rest, rfl⟩
  obtain ⟨marked, hmarked⟩ := exists_markComments_sign rest
  have hmap : (('@', false) :: marked).map Prod.fst = '@' :: rest := by
    rw [← hmarked, map_fst_markComments]
  have hlength : (('@', false) :: marked).length = ('@' :: rest).length := by
    rw [← hmap, List.length_map]
  have hpieces := @pieces_of_sign [] (fun _ hmem => absurd hmem List.not_mem_nil) ('@', false) rfl
    marked
  rw [if_pos ((beginsRule_iff _).2 (hmap.symm ▸ hrule)), spanAt_eq, parameterAt_eq, hmap, hspan,
    ← hlength, List.drop_length, pieces_of_no_sign fun _ hmem => absurd hmem List.not_mem_nil]
    at hpieces
  rw [cut, hmarked]
  exact hpieces

/-- Blanks behind the name keep it from being a longer name. -/
theorem ruleAt_of_blanks (hne : front ≠ []) (hfront : front.all isBlank = true)
    (rest : List Char) : RuleAt (ruleName ++ (front ++ rest)) 0 := by
  obtain ⟨blank, front, rfl⟩ := List.exists_cons_of_ne_nil hne
  rw [List.all_cons, Bool.and_eq_true] at hfront
  constructor
  · rw [List.drop_zero]
    exact List.prefix_append ..
  · intro next hnext
    rw [Nat.zero_add, List.getElem?_append_right (Nat.le_refl _), Nat.sub_self] at hnext
    obtain rfl := Option.some.inj hnext
    exact (plain_of_isBlank hfront.1).1

theorem parameterFrom_rule (hall : ∀ character ∈ characters, endsRule character = false)
    (hsemicolon : semicolon = [';'] ∨ semicolon = []) :
    parameterFrom (ruleName ++ (characters ++ semicolon)) 0 = characters := by
  have hpasses : ∀ character ∈ characters, (!endsRule character) = true := by
    intro character hmem
    rw [hall character hmem]
    rfl
  rw [parameterFrom, Nat.zero_add, List.drop_left, List.takeWhile_append_of_pos hpasses]
  rcases hsemicolon with rfl | rfl
  · exact List.append_nil characters
  · exact List.append_nil characters

/-- Behind the parameter there is the semicolon or nothing, so the rule is the whole text. -/
theorem spanFrom_rule (hall : ∀ character ∈ characters, endsRule character = false)
    (hsemicolon : semicolon = [';'] ∨ semicolon = []) :
    spanFrom (ruleName ++ (characters ++ semicolon)) 0 =
      ruleName ++ (characters ++ semicolon) := by
  have hparameter := parameterFrom_rule hall hsemicolon
  have hend : (ruleName ++ (characters ++ semicolon))[endFrom (ruleName ++
      (characters ++ semicolon)) 0]? = semicolon[0]? := by
    rw [endFrom, hparameter, Nat.zero_add, ← List.append_assoc, ← List.length_append,
      List.getElem?_append_right (Nat.le_refl _), Nat.sub_self]
  have hsign : (if semicolon[0]? = some ';' then [';'] else []) = semicolon := by
    rcases hsemicolon with rfl | rfl
    · rfl
    · rfl
  rw [spanFrom, hend, hsign, hparameter, List.append_assoc]

/-- A written rule is one invocation, and names the path that was written. -/
theorem WrittenRule.exists_cut (hname : IsPathText name) (hrule : WrittenRule name characters) :
    ∃ parameter, cut characters = [.text [], .invocation characters parameter, .text []] ∧
      pathText parameter = name := by
  obtain @⟨front, path, behind, semicolon, hpath, hne, hfront, hbehind, hsemicolon⟩ := hrule
  have hinside : ∀ character ∈ front ++ path ++ behind, endsRule character = false := by
    intro character hmem
    rw [List.mem_append, List.mem_append] at hmem
    rcases hmem with (hmem | hmem) | hmem
    · exact (plain_of_isBlank (List.all_eq_true.1 hfront _ hmem)).2
    · exact hpath.endsRule_eq_false hname hmem
    · exact (plain_of_isBlank (List.all_eq_true.1 hbehind _ hmem)).2
  have hbegins := ruleAt_of_blanks hne hfront (path ++ behind ++ semicolon)
  rw [← List.append_assoc front, ← List.append_assoc front] at hbegins
  have hcut := cut_of_spanFrom_eq hbegins (spanFrom_rule hinside hsemicolon)
  rw [parameterFrom_rule hinside hsemicolon] at hcut
  exact ⟨_, hcut, pathText_written hname hpath hfront hbehind⟩

end

/-! ## What the rule comes to -/

section

variable {load : Loader} {current : Path} {settings : Settings}

/-- What an invocation comes to depends on the path that it names alone. -/
theorem Becomes.of_pathText {parameter other : List Char} {outcome : Outcome}
    (hbecomes : Becomes load current settings parameter outcome)
    (hsame : pathText other = pathText parameter) :
    Becomes load current settings other outcome := by
  have hpath : themePath current settings parameter = themePath current settings other := by
    rw [themePath, themePath, hsame]
  cases hbecomes with
  | missingPath hname => exact .missingPath (hsame.trans hname)
  | failed hname hfile =>
      rw [hpath] at hfile ⊢
      exact .failed (hsame ▸ hname) hfile
  | expanded hname hfile =>
      rw [hpath] at hfile ⊢
      exact .expanded (hsame ▸ hname) hfile

/-- A stylesheet of one invocation is expanded to what this invocation comes to. -/
theorem expand_of_one_invocation (source : String) {text : String} {parameter : List Char}
    (hcut : cut text.toList = [.text [], .invocation text.toList parameter, .text []])
    (result : Result) :
    (expand load current settings source text).2 = .ok result ↔
      ∃ outcome, Becomes load current settings parameter outcome ∧
        result = Result.ofExpanded source [(.text [], none),
          (.invocation text.toList parameter, some outcome), (.text [], none)] := by
  have hpiece (expanded : Expanded) :
      expandPiece load current settings (.invocation text.toList parameter) = .ok expanded ↔
        ∃ outcome, Becomes load current settings parameter outcome ∧
          expanded = (.invocation text.toList parameter, some outcome) := by
    simp only [expandPiece, map_eq_ok_iff, invoke_eq_ok_iff]
    exact exists_congr fun outcome => and_congr_right fun _ => eq_comm
  simp only [expand_eq_ok_iff, hcut, invokeAll_eq_ok_iff, List.forall₂_cons_left_iff,
    List.forall₂_nil_left_iff, hpiece]
  constructor
  · rintro ⟨_, ⟨first, _, hfirst, ⟨_, _, ⟨outcome, hbecomes, rfl⟩,
      ⟨last, _, hlast, rfl, rfl⟩, rfl⟩, rfl⟩, rfl⟩
    cases hfirst
    cases hlast
    exact ⟨outcome, hbecomes, rfl⟩
  · rintro ⟨outcome, hbecomes, rfl⟩
    exact ⟨_, ⟨_, _, rfl, ⟨_, _, ⟨outcome, hbecomes, rfl⟩, ⟨_, _, rfl, rfl, rfl⟩, rfl⟩, rfl⟩, rfl⟩

/-- The rules of the file stand in place of the invocation, or the invocation stays. -/
theorem text_of_one_invocation (source : String) (span parameter : List Char)
    (outcome : Outcome) :
    (Result.ofExpanded source [(.text [], none), (.invocation span parameter, some outcome),
      (.text [], none)]).text = outcome.replacement?.getD (String.ofList span) := by
  cases outcome with
  | missingPath => simp [Result.ofExpanded, Expanded.characters, Outcome.replacement?,
      Piece.characters]
  | failed path fault => simp [Result.ofExpanded, Expanded.characters, Outcome.replacement?,
      Piece.characters]
  | expanded path sheet => simp [Result.ofExpanded, Expanded.characters, Outcome.replacement?,
      Piece.characters]

end

variable (files : FileSystem) (settings : Settings) (source : String)

/-- All ways to write a rule with a path depend on the one file of that path, and come to the
same faults and warnings.  The rules of that file stand in place of the whole rule if there
are any, and otherwise the rule stays. -/
theorem expandAmong_writtenRule {name : List Char} (hname : IsPathText name)
    {text other : String} (htext : WrittenRule name text.toList)
    (hother : WrittenRule name other.toList) {result : Result}
    (hresult : (expandAmong files settings source text).2 = .ok result) :
    ∃ again path, (expandAmong files settings source other).2 = .ok again ∧
      path = Path.resolve files.current (settings.directory.join (.ofText (String.ofList name))) ∧
      result.dependencies = [path] ∧ again.dependencies = [path] ∧
      again.faults = result.faults ∧ again.warnings = result.warnings ∧
      ((∃ sheet, (compileFile (ThemeFile.load files) settings.options path).2 = .ok sheet ∧
          result.faults = [] ∧ result.warnings = sheet.warnings ∧
          result.text = sheet.text ∧ again.text = sheet.text) ∨
        ∃ fault, (compileFile (ThemeFile.load files) settings.options path).2 =
            .error (.fault fault) ∧
          result.faults = [invocationFault path fault] ∧ result.warnings = [] ∧
          result.text = text ∧ again.text = other) := by
  obtain ⟨parameter, hcut, hpath⟩ := htext.exists_cut hname
  obtain ⟨parameter', hcut', hpath'⟩ := hother.exists_cut hname
  obtain ⟨outcome, hbecomes, rfl⟩ := (expand_of_one_invocation source hcut result).1 hresult
  have hagain := hbecomes.of_pathText (hpath'.trans hpath.symm)
  have hplace : themePath files.current settings parameter =
      Path.resolve files.current (settings.directory.join (.ofText (String.ofList name))) := by
    rw [themePath, hpath]
  refine ⟨_, _, (expand_of_one_invocation source hcut' _).2 ⟨outcome, hagain, rfl⟩, hplace, ?_⟩
  cases hbecomes with
  | missingPath hnone => exact absurd (hpath.symm.trans hnone) hname.solid.ne_nil
  | @failed fault _ hfile =>
      refine ⟨rfl, rfl, rfl, rfl, Or.inr ⟨fault, hfile, rfl, rfl, ?_, ?_⟩⟩
      · rw [text_of_one_invocation]
        exact String.ofList_toList
      · rw [text_of_one_invocation]
        exact String.ofList_toList
  | @expanded sheet _ hfile =>
      refine ⟨rfl, rfl, rfl, rfl, Or.inl ⟨sheet, hfile, rfl, ?_, ?_, ?_⟩⟩
      · simp [Result.ofExpanded, outcomes, Outcome.ruleWarnings, Outcome.themeWarnings]
      · rw [text_of_one_invocation]
        rfl
      · rw [text_of_one_invocation]
        rfl

/-- A path with a comment and the name of the rule in it, both of which it leaves again. -/
def windingPath : List Char := "x/*@theme-tokens */../../a.json".toList

/-- Without quotes and in single ones, between lines and at the end of the text, the path
leads to the one theme file. -/
theorem expandAmong_windingPath :
    IsPathText windingPath ∧
    ∃ result again,
      (expandAmong oneFile (.standard (.ofText "/")) ""
        "@theme-tokens x/*@theme-tokens */../../a.json;").2 = .ok result ∧
      (expandAmong oneFile (.standard (.ofText "/")) ""
        "@theme-tokens\n 'x/*@theme-tokens */../../a.json'\n").2 = .ok again ∧
      result.dependencies = [.ofText "/a.json"] ∧ again.dependencies = [.ofText "/a.json"] ∧
      again.text = result.text := by
  have hname : IsPathText windingPath := by
    have hplain : (windingPath.all fun character =>
        character != '"' && (character != '\'' && !endsRule character)) = true := by
      decide
    refine ⟨⟨'x', 'n', rfl, rfl, rfl, rfl⟩, fun character hmem => ?_⟩
    simpa using List.all_eq_true.1 hplain character hmem
  have hbare : WrittenRule windingPath
      "@theme-tokens x/*@theme-tokens */../../a.json;".toList := by
    have htext : "@theme-tokens x/*@theme-tokens */../../a.json;".toList =
        ruleName ++ (([' '] ++ windingPath ++ []) ++ [';']) := by
      decide +kernel
    rw [htext]
    exact .mk .bare (by simp) rfl rfl (Or.inl rfl)
  have hquoted : WrittenRule windingPath
      "@theme-tokens\n 'x/*@theme-tokens */../../a.json'\n".toList := by
    have htext : "@theme-tokens\n 'x/*@theme-tokens */../../a.json'\n".toList =
        ruleName ++ ((['\n', ' '] ++ (['\''] ++ windingPath ++ ['\'']) ++ ['\n']) ++ []) := by
      decide +kernel
    rw [htext]
    exact .mk .single (by simp) rfl rfl (Or.inr rfl)
  obtain ⟨sheet, hfile⟩ : ∃ sheet,
      (compileFile (ThemeFile.load oneFile) {} (.ofText "/a.json")).2 = .ok sheet := by
    have hloads : (compileFile (ThemeFile.load oneFile) {} (.ofText "/a.json")).2.isOk = true := by
      decide +kernel
    cases hsheet : (compileFile (ThemeFile.load oneFile) {} (.ofText "/a.json")).2 with
    | ok sheet => exact ⟨sheet, rfl⟩
    | error halt =>
        rw [hsheet] at hloads
        cases hloads
  obtain ⟨parameter, hcut, hpath⟩ := hbare.exists_cut hname
  have hplace : themePath oneFile.current (.standard (.ofText "/")) parameter =
      .ofText "/a.json" := by
    rw [themePath, hpath]
    decide
  have hbecomes : Becomes (ThemeFile.load oneFile) oneFile.current (.standard (.ofText "/"))
      parameter (.expanded (.ofText "/a.json") sheet) := by
    rw [← hplace] at hfile ⊢
    exact .expanded (by rw [hpath]; decide) hfile
  have hresult := (expand_of_one_invocation "" hcut _).2 ⟨_, hbecomes, rfl⟩
  obtain ⟨again, path, hagain, hat, hdependencies, hothers, -, -, hends⟩ :=
    expandAmong_writtenRule oneFile (.standard (.ofText "/")) "" hname hbare hquoted hresult
  refine ⟨hname, _, again, hresult, hagain, rfl, ?_, ?_⟩
  · rw [hothers, ← hdependencies]
    rfl
  · rcases hends with ⟨other, -, -, -, htext, hsame⟩ | ⟨fault, hfails, -⟩
    · rw [htext, hsame]
    · have hsettled : path = .ofText "/a.json" := by
        rw [hat]
        decide
      rw [hsettled] at hfails
      cases hfile.symm.trans hfails

end Palette.Stylesheet
