import Palette.Proofs.ThemeFile
import Palette.Stylesheet.File

/-!
# Failing invocations do not stop a stylesheet

An invocation whose file fails with a fault is left in place and adds this fault.  All
others are expanded as if it were not there, since an outcome depends on the parameter
of its invocation alone (`outcomes_eq_of_parameters`).

Only a file that aborts stops the stylesheet, and `ThemeFile.Unreported` says which ones
do.  So a stylesheet is expanded exactly if none of its invocations names such a file
(`expandAmong_complete`).
-/

namespace Palette.Stylesheet

section

variable {load : Loader} {current : Path} {settings : Settings}

/-- Expanded pieces can be told apart at an invocation, and the others stay expanded
without it. -/
theorem invokeAll_split {before after : List Piece} {span parameter : List Char}
    {expanded : List Expanded}
    (hexpanded : (invokeAll load current settings
      (before ++ .invocation span parameter :: after)).2 = .ok expanded) :
    ∃ earlier outcome later,
      expanded = earlier ++ (.invocation span parameter, some outcome) :: later ∧
      (invoke load current settings parameter).2 = .ok outcome ∧
      (invokeAll load current settings (before ++ after)).2 = .ok (earlier ++ later) := by
  simp only [invokeAll_eq_ok_iff] at hexpanded ⊢
  induction before generalizing expanded with
  | nil =>
      obtain ⟨result, later, hresult, hlater, rfl⟩ := List.forall₂_cons_left_iff.1 hexpanded
      obtain ⟨outcome, houtcome, rfl⟩ := map_eq_ok_iff.1 hresult
      exact ⟨[], outcome, later, rfl, houtcome, hlater⟩
  | cons piece before ih =>
      obtain ⟨result, rest, hresult, hrest, rfl⟩ := List.forall₂_cons_left_iff.1 hexpanded
      obtain ⟨earlier, outcome, later, rfl, houtcome, hothers⟩ := ih hrest
      exact ⟨result :: earlier, outcome, later, rfl, houtcome, List.Forall₂.cons hresult hothers⟩

/-- Outcomes depend on the parameters alone. -/
theorem outcomes_eq_of_parameters {first second : List Piece} {expanded others : List Expanded}
    (hexpanded : (invokeAll load current settings first).2 = .ok expanded)
    (hothers : (invokeAll load current settings second).2 = .ok others)
    (hparameters : parameters first = parameters second) : outcomes expanded = outcomes others := by
  have hfirst := mapM_eq_ok_iff.2 (forall₂_outcomes load current settings hexpanded)
  have hsecond := mapM_eq_ok_iff.2 (forall₂_outcomes load current settings hothers)
  rw [hparameters, hsecond] at hfirst
  exact (Except.ok.inj hfirst).symm

end

variable (files : FileSystem) (settings : Settings) (source text : String)

/-- A stylesheet is expanded exactly if none of its invocations names a file that aborts. -/
theorem exists_expandAmong_iff :
    (∃ result, (expandAmong files settings source text).2 = .ok result) ↔
      ∀ parameter ∈ parameters (cut text.toList), pathText parameter ≠ [] →
        ¬ ThemeFile.Unreported files (themePath files.current settings parameter) := by
  unfold expandAmong
  simp only [exists_expand_iff, exists_invoke_iff,
    ← ThemeFile.exists_compileFile_abort_iff files settings.options, not_exists, ne_eq]

/-- Only files that abort stop a stylesheet.  Otherwise each invocation whose file fails
adds one fault and is left in place, and the other ones come to what they come to without
it, also in any other stylesheet that has them alone. -/
theorem expandAmong_complete :
    ((∃ result, (expandAmong files settings source text).2 = .ok result) ↔
      ∀ parameter ∈ parameters (cut text.toList), pathText parameter ≠ [] →
        ¬ ThemeFile.Unreported files (themePath files.current settings parameter)) ∧
    ∀ result, (expandAmong files settings source text).2 = .ok result →
      ∀ before span parameter after fault,
        cut text.toList = before ++ .invocation span parameter :: after →
        pathText parameter ≠ [] →
        (compileFile (ThemeFile.load files) settings.options
          (themePath files.current settings parameter)).2 = .error (.fault fault) →
        ∃ earlier later,
          (invokeAll (ThemeFile.load files) files.current settings (before ++ after)).2 =
            .ok (earlier ++ later) ∧
          result.text.toList = earlier.flatMap Expanded.characters ++ span ++
            later.flatMap Expanded.characters ∧
          result.faults = (outcomes earlier).filterMap Outcome.fault? ++
            invocationFault (themePath files.current settings parameter) fault ::
              (outcomes later).filterMap Outcome.fault? ∧
          result.dependencies = (outcomes earlier).filterMap Outcome.dependency? ++
            themePath files.current settings parameter ::
              (outcomes later).filterMap Outcome.dependency? ∧
          result.warnings = (Result.ofExpanded source (earlier ++ later)).warnings ∧
          ∀ other : String, parameters (cut other.toList) = parameters (before ++ after) →
            ∃ others, (expandAmong files settings source other).2 =
                .ok (Result.ofExpanded source others) ∧
              outcomes others = outcomes (earlier ++ later) := by
  refine ⟨exists_expandAmong_iff files settings source text, ?_⟩
  intro result hresult before span parameter after fault hcut hname hfile
  obtain ⟨expanded, hexpanded, rfl⟩ := (expand_eq_ok_iff ..).1 hresult
  rw [hcut] at hexpanded
  obtain ⟨earlier, outcome, later, rfl, houtcome, hothers⟩ := invokeAll_split hexpanded
  -- the outcome is determined, so it is the fault of the file
  have hfailed := (invoke_eq_ok_iff ..).2 (Becomes.failed hname hfile)
  rw [houtcome] at hfailed
  obtain rfl := Except.ok.inj hfailed
  refine ⟨earlier, later, hothers, ?_, ?_, ?_, ?_, fun other hparameters => ?_⟩
  · simp [Result.ofExpanded, Expanded.characters, Outcome.replacement?, Piece.characters]
  · simp [Result.ofExpanded, outcomes, Outcome.fault?]
  · simp [Result.ofExpanded, outcomes, Outcome.dependency?]
  · simp [Result.ofExpanded, outcomes, Outcome.ruleWarnings, Outcome.themeWarnings]
  · have hexists : ∃ others, (invokeAll (ThemeFile.load files) files.current settings
        (cut other.toList)).2 = .ok others := by
      rw [exists_invokeAll_iff, hparameters, ← exists_invokeAll_iff]
      exact ⟨_, hothers⟩
    obtain ⟨others, hexpandedOthers⟩ := hexists
    exact ⟨others, (expand_eq_ok_iff ..).2 ⟨others, hexpandedOthers, rfl⟩,
      outcomes_eq_of_parameters hexpandedOthers hothers hparameters⟩

/-- A directory with one theme file. -/
def oneFile : FileSystem :=
  ⟨.directory [("a.json", .file ("\x7b\"themes\": \x7b\x7d\x7d".toList.map fun character =>
    UInt8.ofNat character.toNat) .granted)], .ofText "/"⟩

/-- A rule for a file of an unknown kind fails, and the rule behind it still warns. -/
theorem expandAmong_unsupported :
    ∃ result, (expandAmong oneFile (.standard (.ofText "/")) ""
        "@theme-tokens a.css;@theme-tokens;").2 = .ok result ∧
      ∃ earlier later, result.text.toList = earlier.flatMap Expanded.characters ++
          "@theme-tokens a.css;".toList ++ later.flatMap Expanded.characters ∧
        result.faults = (outcomes earlier).filterMap Outcome.fault? ++
          invocationFault (.ofText "/a.css") (ThemeFile.unsupported (.ofText "/a.css")) ::
            (outcomes later).filterMap Outcome.fault? := by
  have hcut : cut "@theme-tokens a.css;@theme-tokens;".toList =
      [.text []] ++ .invocation "@theme-tokens a.css;".toList " a.css".toList ::
        [.text [], .invocation "@theme-tokens;".toList [], .text []] := by
    decide +kernel
  have hfile : (compileFile (ThemeFile.load oneFile) {} (.ofText "/a.css")).2 =
      .error (.fault (ThemeFile.unsupported (.ofText "/a.css"))) := by
    rfl
  obtain ⟨hexists, hfailing⟩ :=
    expandAmong_complete oneFile (.standard (.ofText "/")) "" "@theme-tokens a.css;@theme-tokens;"
  have hresult : ∃ result, (expandAmong oneFile (.standard (.ofText "/")) ""
      "@theme-tokens a.css;@theme-tokens;").2 = .ok result := by
    rw [hexists, hcut]
    intro parameter hmem hname
    rcases List.mem_cons.1 hmem with rfl | hmem
    · rw [← ThemeFile.exists_compileFile_abort_iff oneFile {}]
      rintro ⟨abort, habort⟩
      cases hfile.symm.trans habort
    · obtain rfl := List.mem_singleton.1 hmem
      exact absurd rfl hname
  obtain ⟨result, hresult⟩ := hresult
  obtain ⟨earlier, later, -, htext, hfaults, -⟩ :=
    hfailing result hresult _ _ _ _ _ hcut (by decide) hfile
  exact ⟨result, hresult, earlier, later, htext, hfaults⟩

/-- A null character in a path stops the stylesheet before the rule behind it. -/
theorem expandAmong_nullInPath :
    (expandAmong oneFile (.standard (.ofText "/")) ""
      "@theme-tokens \"x\x00.json\"; @theme-tokens \"a.json\";").2 = .error .nullInPath := by
  have hcut : cut "@theme-tokens \"x\x00.json\"; @theme-tokens \"a.json\";".toList =
      [.text [], .invocation "@theme-tokens \"x\x00.json\";".toList " \"x\x00.json\"".toList,
        .text [' '], .invocation "@theme-tokens \"a.json\";".toList " \"a.json\"".toList,
        .text []] := by
    decide +kernel
  unfold expandAmong expand
  rw [hcut]
  rfl

end Palette.Stylesheet
