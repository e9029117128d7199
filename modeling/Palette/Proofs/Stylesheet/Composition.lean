import Palette.Proofs.Stylesheet.Account
import Palette.Proofs.Stylesheet.Seam

/-!
# Stylesheets one after the other

Expanding is compositional.  Behind a finished stylesheet another one is expanded as if
it stood alone: texts, faults and dependencies follow each other, and so do the warnings
on rules and the warnings on theme files (`expand_append`).  What a rule comes to does not
depend on the stylesheet around it.

The seam is in a piece of text on either side, and text comes to itself.  So the expanded
pieces of both are those of the two, but for that one (`exists_invokeAll_cut_append`).
-/

namespace Palette.Stylesheet

/-! ## Pieces -/

/-- The invocations of both texts are those of the first one and then of the second. -/
theorem parameters_cut_append {first : List Char} (hfinished : IsFinished first)
    (second : List Char) :
    parameters (cut (first ++ second)) = parameters (cut first) ++ parameters (cut second) := by
  obtain ⟨front, last, next, behind, hfirst, hsecond, hboth⟩ := cut_append hfinished second
  rw [hfirst, hsecond, hboth]
  simp [parameters]

section Results

variable {load : Loader} {current : Path} {settings : Settings}

/-- Text in front of pieces stays in front of them. -/
theorem mapM_text_cons_eq_ok_iff (characters : List Char) (behind : List Piece)
    (expanded : List Expanded) :
    (.text characters :: behind).mapM (expandPiece load current settings) = .ok expanded ↔
      ∃ later, behind.mapM (expandPiece load current settings) = .ok later ∧
        expanded = (.text characters, none) :: later := by
  rw [List.mapM_cons, bind_eq_ok_iff]
  constructor
  · rintro ⟨_, htext, hrest⟩
    cases htext
    obtain ⟨later, hlater, heq⟩ := bind_eq_ok_iff.1 hrest
    cases heq
    exact ⟨later, hlater, rfl⟩
  · rintro ⟨later, hlater, rfl⟩
    exact ⟨_, rfl, bind_eq_ok_iff.2 ⟨later, hlater, rfl⟩⟩

/-- The pieces of both texts come to what the pieces of each come to. -/
theorem exists_invokeAll_cut_append {first second : List Char} (hfinished : IsFinished first)
    {before behind : List Expanded}
    (hbefore : (invokeAll load current settings (cut first)).2 = .ok before)
    (hbehind : (invokeAll load current settings (cut second)).2 = .ok behind) :
    ∃ whole, (invokeAll load current settings (cut (first ++ second))).2 = .ok whole ∧
      outcomes whole = outcomes before ++ outcomes behind ∧
      whole.flatMap Expanded.characters =
        before.flatMap Expanded.characters ++ behind.flatMap Expanded.characters := by
  obtain ⟨front, last, next, rest, hfirst, hsecond, hboth⟩ := cut_append hfinished second
  rw [hfirst, snd_invokeAll, mapM_append_eq_ok_iff] at hbefore
  obtain ⟨earlier, _, hearlier, hlast, rfl⟩ := hbefore
  obtain ⟨_, hnil, rfl⟩ := (mapM_text_cons_eq_ok_iff ..).1 hlast
  cases hnil
  rw [hsecond, snd_invokeAll, mapM_text_cons_eq_ok_iff] at hbehind
  obtain ⟨later, hlater, rfl⟩ := hbehind
  refine ⟨earlier ++ (.text (last ++ next), none) :: later, ?_, ?_, ?_⟩
  · rw [hboth, snd_invokeAll, mapM_append_eq_ok_iff]
    exact ⟨earlier, _, hearlier, (mapM_text_cons_eq_ok_iff ..).2 ⟨later, hlater, rfl⟩, rfl⟩
  · simp [outcomes]
  · simp [Expanded.characters, Piece.characters]

/-! ## Results -/

/-- Behind a finished stylesheet another one is expanded as if it stood alone. -/
theorem expand_append {first : String} (hfinished : IsFinished first.toList)
    (second source firstSource secondSource : String) :
    ((∃ whole, (expand load current settings source (first ++ second)).2 = .ok whole) ↔
      (∃ before, (expand load current settings firstSource first).2 = .ok before) ∧
        ∃ behind, (expand load current settings secondSource second).2 = .ok behind) ∧
    ∀ before behind whole,
      (expand load current settings firstSource first).2 = .ok before →
      (expand load current settings secondSource second).2 = .ok behind →
      (expand load current settings source (first ++ second)).2 = .ok whole →
        whole.text = before.text ++ behind.text ∧
        whole.dependencies = before.dependencies ++ behind.dependencies ∧
        whole.faults = before.faults ++ behind.faults ∧
        ∃ earlier later : List Outcome,
          List.Forall₂ (Becomes load current settings) (parameters (cut first.toList)) earlier ∧
          List.Forall₂ (Becomes load current settings) (parameters (cut second.toList)) later ∧
          List.Forall₂ (Becomes load current settings)
            (parameters (cut (first ++ second).toList)) (earlier ++ later) ∧
          before.warnings = earlier.flatMap Outcome.ruleWarnings ++
            earlier.flatMap Outcome.themeWarnings ∧
          behind.warnings = later.flatMap Outcome.ruleWarnings ++
            later.flatMap Outcome.themeWarnings ∧
          whole.warnings = earlier.flatMap Outcome.ruleWarnings ++
            later.flatMap Outcome.ruleWarnings ++ earlier.flatMap Outcome.themeWarnings ++
            later.flatMap Outcome.themeWarnings := by
  have hparameters := parameters_cut_append hfinished second.toList
  rw [← String.toList_append] at hparameters
  constructor
  · rw [exists_expand_iff, exists_expand_iff, exists_expand_iff, hparameters]
    exact List.forall_mem_append
  · intro before behind whole hbefore hbehind hwhole
    obtain ⟨expandedBefore, hexpandedBefore, rfl⟩ := (expand_eq_ok_iff ..).1 hbefore
    obtain ⟨expandedBehind, hexpandedBehind, rfl⟩ := (expand_eq_ok_iff ..).1 hbehind
    obtain ⟨expanded, hexpanded, rfl⟩ := (expand_eq_ok_iff ..).1 hwhole
    obtain ⟨both, hboth, houtcomes, hcharacters⟩ :=
      exists_invokeAll_cut_append hfinished hexpandedBefore hexpandedBehind
    rw [← String.toList_append, hexpanded] at hboth
    cases hboth
    have hbecomes : ∀ {list : List Piece} {results : List Expanded},
        (invokeAll load current settings list).2 = .ok results →
          List.Forall₂ (Becomes load current settings) (parameters list) (outcomes results) :=
      fun hresults => (forall₂_outcomes load current settings hresults).imp
        fun parameter outcome => (invoke_eq_ok_iff load current settings parameter outcome).1
    refine ⟨?_, ?_, ?_, outcomes expandedBefore, outcomes expandedBehind,
      hbecomes hexpandedBefore, hbecomes hexpandedBehind, ?_, rfl, rfl, ?_⟩
    · simp [Result.ofExpanded, hcharacters]
    · simp [Result.ofExpanded, houtcomes]
    · simp [Result.ofExpanded, houtcomes]
    · rw [← houtcomes]
      exact hbecomes hexpanded
    · simp [Result.ofExpanded, houtcomes]

end Results

/-- A stylesheet with a rule in a comment and a rule behind it. -/
def commentThenRule : String := "/* @theme-tokens 'x'; */ @theme-tokens 'a.json'; p \x7b\x7d"

/-- A stylesheet with a rule without a path and a rule that the text ends. -/
def openRule : String := "@theme-tokens; @theme-tokens a.css"

/-- The rules of both stylesheets come to a file for each, and to one warning. -/
theorem expand_commentThenRule_openRule :
    IsFinished commentThenRule.toList ∧
    ∃ before behind whole,
      (expand emptyThemes (.ofText "/") (.standard (.ofText "/")) "" commentThenRule).2 =
        .ok before ∧
      (expand emptyThemes (.ofText "/") (.standard (.ofText "/")) "" openRule).2 = .ok behind ∧
      (expand emptyThemes (.ofText "/") (.standard (.ofText "/")) ""
        (commentThenRule ++ openRule)).2 = .ok whole ∧
      whole.text = before.text ++ behind.text ∧
      whole.dependencies = [.ofText "/a.json", .ofText "/a.css"] ∧
      whole.warnings = [missingPathWarning] := by
  have hfinished : IsFinished commentThenRule.toList := by decide +kernel
  have hfirst : cut commentThenRule.toList =
      [.text "/* ".toList, .text "@theme-tokens 'x';".toList, .text " */ ".toList,
        .invocation "@theme-tokens 'a.json';".toList " 'a.json'".toList,
        .text " p \x7b\x7d".toList] := by
    decide +kernel
  have hsecond : cut openRule.toList =
      [.text [], .invocation "@theme-tokens;".toList [], .text [' '],
        .invocation "@theme-tokens a.css".toList " a.css".toList, .text []] := by
    decide +kernel
  have hbefore : ∃ before, (expand emptyThemes (.ofText "/") (.standard (.ofText "/")) ""
      commentThenRule).2 = .ok before ∧ before.dependencies = [.ofText "/a.json"] ∧
        before.warnings = [] :=
    ⟨_, (expand_eq_ok_iff ..).2 ⟨_, by rw [hfirst]; rfl, rfl⟩, by rfl, by rfl⟩
  have hbehind : ∃ behind, (expand emptyThemes (.ofText "/") (.standard (.ofText "/")) ""
      openRule).2 = .ok behind ∧ behind.dependencies = [.ofText "/a.css"] ∧
        behind.warnings = [missingPathWarning] :=
    ⟨_, (expand_eq_ok_iff ..).2 ⟨_, by rw [hsecond]; rfl, rfl⟩, by rfl, by rfl⟩
  obtain ⟨before, hbefore, hfile, hnone⟩ := hbefore
  obtain ⟨behind, hbehind, hother, hmissing⟩ := hbehind
  obtain ⟨hreturns, hresults⟩ := @expand_append emptyThemes (.ofText "/")
    (.standard (.ofText "/")) commentThenRule hfinished openRule "" "" ""
  obtain ⟨whole, hwhole⟩ := hreturns.2 ⟨⟨before, hbefore⟩, behind, hbehind⟩
  obtain ⟨htext, hdependencies, -, earlier, later, -, -, -, hearlier, hlater, hwarnings⟩ :=
    hresults before behind whole hbefore hbehind hwhole
  refine ⟨hfinished, before, behind, whole, hbefore, hbehind, hwhole, htext, ?_, ?_⟩
  · rw [hdependencies, hfile, hother]
    rfl
  · obtain ⟨hrules, hthemes⟩ := List.append_eq_nil_iff.1 (hearlier.symm.trans hnone)
    rw [hwarnings, hrules, hthemes, List.nil_append, List.append_nil, ← hlater, hmissing]

end Palette.Stylesheet
