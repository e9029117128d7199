import Palette.Proofs.Stylesheet.Expansion
import Palette.Proofs.Stylesheet.Invocation
import Palette.Proofs.Theme.Compiling

/-!
# Which live rules are handled

A live rule is to be handled once, whatever stands in comments.  That is so for every
live rule that is not shadowed: those are the invocations, in order, and each leaves its
trace as a warning on a missing path or as a dependency (`expand_takenPlaces`).

A shadowed live rule is not handled at all.  A rule in a comment is passed over to its
whole extent, and where that runs out of the comment, the rule behind it is passed over
as well (`expand_commentedRule`).  So all live rules are handled exactly if none is
shadowed.
-/

namespace Palette.Stylesheet

/-- The places of the live rules, in order. -/
def livePlaces (characters : List Char) : List Nat :=
  (List.range characters.length).filter fun place => LiveRule characters place

theorem mem_livePlaces_iff (characters : List Char) (place : Nat) :
    place ∈ livePlaces characters ↔ LiveRule characters place := by
  simp only [livePlaces, List.mem_filter, List.mem_range, decide_eq_true_eq, and_iff_right_iff_imp]
  intro hlive
  exact hlive.1.lt_length

/-! ## Handled rules and live rules -/

/-- Of the live rules, the ones that are not shadowed are handled. -/
theorem takenPlaces_eq_filter (characters : List Char) :
    takenPlaces characters =
      (livePlaces characters).filter fun place => ¬ Shadowed characters place := by
  simp only [takenPlaces, livePlaces, List.filter_filter, Bool.decide_and, Bool.and_comm]

theorem length_takenPlaces_eq_iff (characters : List Char) :
    (takenPlaces characters).length = (livePlaces characters).length ↔
      ∀ place, LiveRule characters place → ¬ Shadowed characters place := by
  simp only [takenPlaces_eq_filter, List.length_filter_eq_length_iff, mem_livePlaces_iff,
    decide_eq_true_eq]

theorem takenPlaces_eq_iff (characters : List Char) :
    takenPlaces characters = livePlaces characters ↔
      ∀ place, LiveRule characters place → ¬ Shadowed characters place := by
  simp only [takenPlaces_eq_filter, List.filter_eq_self, mem_livePlaces_iff, decide_eq_true_eq]

theorem parameter_invocationsFrom (offset : Nat) (list : List Piece) :
    (invocationsFrom offset list).map Invocation.parameter = parameters list := by
  induction list generalizing offset with
  | nil => rfl
  | cons piece rest ih =>
      cases piece with
      | text characters => exact ih _
      | invocation span parameter =>
          rw [invocationsFrom, List.map_cons, ih]
          rfl

/-- The parameters in a stylesheet are those of the rules that are taken. -/
theorem parameters_cut (characters : List Char) :
    parameters (cut characters) = (takenPlaces characters).map (parameterFrom characters) := by
  rw [← parameter_invocationsFrom 0, ← invocations, invocations_eq, List.map_map]
  rfl

/-! ## Counting the traces -/

theorem head?_toList_append {first rest : String} {head : Char}
    (hfirst : first.toList.head? = some head) : (first ++ rest).toList.head? = some head := by
  rw [String.toList_append, List.head?_append, hfirst]
  rfl

/-- Warnings on themes are on schemes or on colors, and begin accordingly. -/
theorem head_of_mem_warnings {options : Options} {theme : Theme} {warning : String}
    (hmem : warning ∈ (theme.expectedBlock options).warnings) :
    warning.toList.head? = some 'I' ∨ warning.toList.head? = some 'E' := by
  rcases List.mem_append.1 hmem with hscheme | hleaf
  · rw [Option.mem_toList] at hscheme
    cases hread : Scheme.read theme.scheme with
    | empty =>
        rw [hread] at hscheme
        cases hscheme
        exact Or.inr (head?_toList_append (head?_toList_append rfl))
    | invalid directive =>
        rw [hread] at hscheme
        cases hscheme
        exact Or.inl (head?_toList_append (head?_toList_append (head?_toList_append
          (head?_toList_append (head?_toList_append (head?_toList_append rfl))))))
    | _ =>
        rw [hread] at hscheme
        cases hscheme
  · obtain ⟨leaf, -, rfl⟩ := List.mem_map.1 hleaf
    exact Or.inl (head?_toList_append (head?_toList_append (head?_toList_append rfl)))

/-- So no warning on theme data is the one on a missing path. -/
theorem missingPathWarning_not_mem {options : Options} {data : Value} {sheet : Theme.Sheet}
    (hsheet : Theme.sheetOfValue options data = .ok sheet) :
    missingPathWarning ∉ sheet.warnings := by
  obtain ⟨themes, -, -, rfl⟩ := (Theme.sheetOfValue_eq_ok_iff ..).1 hsheet
  intro hmem
  obtain ⟨block, hblock, hwarning⟩ := List.mem_flatMap.1 hmem
  obtain ⟨theme, -, rfl⟩ := List.mem_map.1 hblock
  have hhead := head_of_mem_warnings hwarning
  exact absurd hhead (by decide)

variable {load : Loader} {current : Path} {settings : Settings}

theorem missingPathWarning_not_mem_themeWarnings {parameter : List Char} {outcome : Outcome}
    (hbecomes : Becomes load current settings parameter outcome) :
    missingPathWarning ∉ outcome.themeWarnings := by
  cases hbecomes with
  | missingPath => exact List.not_mem_nil
  | failed => exact List.not_mem_nil
  | expanded _ hfile =>
      rw [snd_compileFile] at hfile
      obtain ⟨data, -, hsheet⟩ := bind_eq_ok_iff.1 hfile
      exact missingPathWarning_not_mem hsheet

/-- Each outcome leaves one trace: a warning on a missing path or a dependency. -/
theorem count_missingPath_add_length {handled : List Outcome}
    (hhandled : ∀ outcome ∈ handled, missingPathWarning ∉ outcome.themeWarnings) :
    (handled.flatMap Outcome.ruleWarnings ++
        handled.flatMap Outcome.themeWarnings).count missingPathWarning +
      (handled.filterMap Outcome.dependency?).length = handled.length := by
  have htheme : (handled.flatMap Outcome.themeWarnings).count missingPathWarning = 0 := by
    rw [List.count_eq_zero, List.mem_flatMap]
    rintro ⟨outcome, hmem, hwarning⟩
    exact hhandled outcome hmem hwarning
  have htrace : ∀ outcome : Outcome, outcome.ruleWarnings.count missingPathWarning +
      outcome.dependency?.toList.length = 1 := by
    intro outcome
    cases outcome with
    | missingPath => exact congrArg (· + 0) List.count_singleton_self
    | failed path fault => rfl
    | expanded path sheet => rfl
  rw [List.count_append, htheme, Nat.add_zero, List.filterMap_eq_flatMap_toList]
  -- what is left to count are sums over the outcomes, of one each
  clear hhandled htheme
  induction handled with
  | nil => rfl
  | cons outcome rest ih =>
      have hone := htrace outcome
      simp only [List.flatMap_cons, List.count_append, List.length_append, List.length_cons]
      omega

/-! ## The live rules of a stylesheet -/

/-- The live rules that are not shadowed are handled once each, in order, and all live
rules are handled exactly if none is shadowed. -/
theorem expand_takenPlaces {source text : String} {result : Result}
    (hresult : (expand load current settings source text).2 = .ok result) :
    (∃ handled : List Outcome,
      List.Forall₂ (fun place outcome =>
        (invoke load current settings (parameterFrom text.toList place)).2 = .ok outcome)
        (takenPlaces text.toList) handled ∧
      result.dependencies = handled.filterMap Outcome.dependency? ∧
      result.faults = handled.filterMap Outcome.fault? ∧
      result.warnings =
        handled.flatMap Outcome.ruleWarnings ++ handled.flatMap Outcome.themeWarnings) ∧
    result.warnings.count missingPathWarning + result.dependencies.length =
      (takenPlaces text.toList).length ∧
    takenPlaces text.toList =
      (livePlaces text.toList).filter (fun place => ¬ Shadowed text.toList place) ∧
    (takenPlaces text.toList = livePlaces text.toList ↔
      ∀ place, LiveRule text.toList place → ¬ Shadowed text.toList place) ∧
    (result.warnings.count missingPathWarning + result.dependencies.length =
        (livePlaces text.toList).length ↔
      ∀ place, LiveRule text.toList place → ¬ Shadowed text.toList place) := by
  obtain ⟨expanded, hexpanded, rfl⟩ := (expand_eq_ok_iff ..).1 hresult
  have heach := forall₂_outcomes load current settings hexpanded
  rw [parameters_cut, List.forall₂_map_left_iff] at heach
  have hcount : (Result.ofExpanded source expanded).warnings.count missingPathWarning +
      (Result.ofExpanded source expanded).dependencies.length =
        (takenPlaces text.toList).length := by
    rw [heach.length_eq]
    refine count_missingPath_add_length fun outcome hmem => ?_
    obtain ⟨place, -, houtcome⟩ := exists_of_mem_results heach outcome hmem
    exact missingPathWarning_not_mem_themeWarnings ((invoke_eq_ok_iff ..).1 houtcome)
  refine ⟨⟨outcomes expanded, heach, rfl, rfl, rfl⟩, hcount, takenPlaces_eq_filter _,
    takenPlaces_eq_iff _, ?_⟩
  rw [hcount, length_takenPlaces_eq_iff]

/-- A rule without a path, behind a comment. -/
def pathlessRule : String := "/* none */ @theme-tokens;"

/-- The rule without a path is handled by its warning. -/
theorem expand_pathlessRule :
    ∃ result, (expand (fun _ => ([], .ok .null)) (.ofText "/") (.standard (.ofText "/")) ""
        pathlessRule).2 = .ok result ∧
      takenPlaces pathlessRule.toList = [11] ∧
      result.warnings.count missingPathWarning + result.dependencies.length = 1 := by
  have hcut : cut pathlessRule.toList = [.text "/* none */ ".toList,
      .invocation "@theme-tokens;".toList [], .text []] := by decide +kernel
  have htaken : takenPlaces pathlessRule.toList = [11] := by decide +kernel
  have hexists : ∃ result, (expand (fun _ => ([], .ok .null)) (.ofText "/")
      (.standard (.ofText "/")) "" pathlessRule).2 = .ok result := by
    rw [exists_expand_iff, hcut]
    intro parameter hmem
    obtain rfl := List.mem_singleton.1 hmem
    exact ⟨_, rfl⟩
  obtain ⟨result, hresult⟩ := hexists
  refine ⟨result, hresult, htaken, ?_⟩
  rw [(expand_takenPlaces hresult).2.1, htaken]
  rfl

/-- A rule in a comment, with another rule behind the comment. -/
def commentedRule : String := "/* @theme-tokens */ @theme-tokens \"a.json\";"

/-- The rule behind the comment is live but shadowed, so it leaves no trace at all. -/
theorem expand_commentedRule :
    livePlaces commentedRule.toList = [20] ∧ Shadowed commentedRule.toList 20 ∧
      ∀ load current settings source, ∃ result,
        (expand load current settings source commentedRule).2 = .ok result ∧
          result.text = commentedRule ∧ result.warnings = [] ∧ result.faults = [] ∧
          result.dependencies = [] := by
  refine ⟨by decide +kernel, by decide +kernel, fun load current settings source => ?_⟩
  refine expand_of_no_parameters load current settings source commentedRule ?_
  rw [parameters_cut, show takenPlaces commentedRule.toList = [] by decide +kernel]
  rfl

end Palette.Stylesheet
