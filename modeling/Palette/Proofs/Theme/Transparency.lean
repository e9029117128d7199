import Palette.Proofs.Color.Alpha
import Palette.Proofs.Theme.Outcome

/-!
# Themes do not show an alpha

Any color of theme data may be given a valid alpha, or lose it (`AddsAlpha`).  Since a color
with an alpha is written like the color without it, its leaf puts the same line into the
rule and no warning (`outcome_of_addsAlpha`), and so two sets of themes that differ in valid
alphas alone become the same sheet (`sheetOfValue_of_alphas`).
-/

namespace Palette.Theme

/-- A text that is a color is given a valid alpha. -/
def GainsAlpha (value other : Value) : Prop :=
  ∃ plain full, Color.AddsAlpha plain full ∧ value = .text plain ∧ other = .text full

/-- A color in theme data is given a valid alpha. -/
inductive AddsAlpha (first second : Value) : Prop
  /-- The color is that of a token. -/
  | token (hin : InColors (Value.Changes (fun _ => True) GainsAlpha) first second)
  /-- The color is that of a shade. -/
  | shade (hin : InColors (Value.Changes (fun _ => True)
      (Value.Changes (fun _ => True) GainsAlpha)) first second)

section

variable {options : Options}

/-! ## Leaves and tokens -/

/-- A color puts a line into its rule, and no warning. -/
theorem outcome_of_resolve {text written : String}
    (hwritten : Color.resolve text (.ofName options.format) = .ok written)
    (token location : String) : Leaf.outcome options ⟨token, .text text, location⟩ =
      .ok (some ("  " ++ options.propertyName token ++ ": " ++ written ++ ";"), none) := by
  have hresolve : Leaf.resolve (.ofName options.format) ⟨token, .text text, location⟩ =
      .ok (.encoded written) := by
    simp only [Leaf.resolve, isWritable_text, if_true, Color.resolveValue, hwritten]
  rw [Leaf.outcome, hresolve]
  rfl

/-- The alpha of a color is not seen in what its leaf puts into the rule. -/
theorem outcome_of_addsAlpha {plain full : String} (hadds : Color.AddsAlpha plain full)
    (token location : String) : Leaf.outcome options ⟨token, .text plain, location⟩ =
      Leaf.outcome options ⟨token, .text full, location⟩ := by
  -- a warning would tell the alpha, but there is none on a color
  obtain ⟨written, hwritten⟩ :=
    Color.exists_resolve_of_isColor hadds.isColor_plain (.ofName options.format)
  have hfull := (hadds.resolve_eq (.ofName options.format)).trans hwritten
  rw [outcome_of_resolve hwritten, outcome_of_resolve hfull]

theorem map_seen_of_gainsAlpha {value other : Value} (hgains : GainsAlpha value other)
    (name : String) (key : Value) :
    (readToken? (key, value)).map (seen (Leaf.outcome options) name) =
      (readToken? (key, other)).map (seen (Leaf.outcome options) name) := by
  obtain ⟨plain, full, hadds, rfl, rfl⟩ := hgains
  rw [map_seen_readToken?_text, map_seen_readToken?_text]
  cases nameOf key with
  | error misshape => rfl
  | ok token => simp only [Except.map, outcome_of_addsAlpha hadds]

/-- Among shades, one leaf is as it was and the others are the same. -/
theorem map_seen_of_shade {value other : Value}
    (hchanges : Value.Changes (fun _ => True) GainsAlpha value other) (name : String)
    (key : Value) : (readToken? (key, value)).map (seen (Leaf.outcome options) name) =
      (readToken? (key, other)).map (seen (Leaf.outcome options) name) := by
  cases hchanges with
  | @intro front back shade one two _ hgains =>
      obtain ⟨plain, full, hadds, rfl, rfl⟩ := hgains
      rw [map_seen_readToken?_mapping, map_seen_readToken?_mapping, List.filter_append,
        List.filter_append, List.filter_cons_of_pos rfl, List.filter_cons_of_pos rfl]
      refine congrArg (nameOf key >>= ·) (funext fun token => ?_)
      apply mapM_append_cons_congr
      simp only [outcome_of_addsAlpha hadds]

/-! ## Theme data -/

variable {first second : Value}

/-- One alpha is not seen in the sheet. -/
theorem sheetOfValue_of_addsAlpha (hadds : AddsAlpha first second) :
    sheetOfValue options first = sheetOfValue options second := by
  apply sheetOfValue_of_blocks
  cases hadds with
  | token hin =>
      refine map_setOfValue_of_inColors (fun name scheme one two hchanges => ?_) hin
      exact map_readColors_of_changes (block_eq_ruleOf options)
        (fun name key _ _ _ hgains => map_seen_of_gainsAlpha hgains name key) hchanges name scheme
  | shade hin =>
      refine map_setOfValue_of_inColors (fun name scheme one two hchanges => ?_) hin
      exact map_readColors_of_changes (block_eq_ruleOf options)
        (fun name key _ _ _ hshade => map_seen_of_shade hshade name key) hchanges name scheme

end

/-- An alpha is never seen.  A color that is given a valid alpha, in whatever notation, is
still a color, and it is written the same in every encoding; and theme data that differs in
any number of valid alphas becomes the same rules with the same warnings. -/
theorem sheetOfValue_of_alphas :
    (∀ plain full, Color.AddsAlpha plain full → Color.IsColor full ∧
      ∀ encoding, Color.resolve full encoding = Color.resolve plain encoding) ∧
    ∀ first second, Relation.EqvGen AddsAlpha first second →
      ∀ options, sheetOfValue options first = sheetOfValue options second := by
  refine ⟨fun plain full hadds => ⟨hadds.isColor_full, hadds.resolve_eq⟩, ?_⟩
  intro first second hchanges options
  exact eq_of_eqvGen (fun _ _ hadds => sheetOfValue_of_addsAlpha hadds) hchanges

theorem addsAlpha_percentage : Color.AddsAlpha "rgb(1 2 3)" "rgb(1 2 3 / 50%)" := by
  have hthree : Color.HasThreeComponents "rgb(1 2 3)" :=
    ⟨.rgb, "1 2 3".toList, ⟨['1'], ['2'], ['3'], none⟩, toOption_eq_some_iff.1 (by decide),
      toOption_eq_some_iff.1 (by decide), rfl⟩
  have halpha : "50%".toList ∈ Grammar.percentage Grammar.tolerated Grammar.tolerated.stray :=
    Grammar.exists_readPercentage_iff.1 ⟨.finite 50, toOption_eq_some_iff.1 (by decide +kernel)⟩
  have hpart : " / 50%".toList ∈ Grammar.alphaPart '/' :=
    Grammar.mem_alphaPart_iff.2 ⟨[' '], " 50%".toList, rfl, Or.inr halpha, rfl⟩
  exact .toFunction (by decide +kernel) hthree
    (show "rgb(1 2 3)".toList = "rgb(1 2 3".toList ++ ')' :: [] by decide) hpart (by decide)

theorem addsAlpha_digit : Color.AddsAlpha "#abc" "#abc8" :=
  .toDigits (Or.inl ⟨show "abc".toList.length = 3 by decide, show ['8'].length = 1 from rfl⟩)
    (by decide) (by decide) (by decide)

/-- Of two tokens, one has an alpha in the first theme, and the other one in the second. -/
theorem sheetOfValue_translucentTokens :
    (Color.IsColor "rgb(1 2 3 / 50%)" ∧ ∀ encoding,
      Color.resolve "rgb(1 2 3 / 50%)" encoding = Color.resolve "rgb(1 2 3)" encoding) ∧
    ∀ options,
      sheetOfValue options (oneTheme [(.text "a", .text "rgb(1 2 3 / 50%)"),
        (.text "b", .mapping [(.text "1", .text "#abc")])]) =
      sheetOfValue options (oneTheme [(.text "a", .text "rgb(1 2 3)"),
        (.text "b", .mapping [(.text "1", .text "#abc8")])]) := by
  have htoken : AddsAlpha (oneTheme [(.text "a", .text "rgb(1 2 3)"),
        (.text "b", .mapping [(.text "1", .text "#abc")])])
      (oneTheme [(.text "a", .text "rgb(1 2 3 / 50%)"),
        (.text "b", .mapping [(.text "1", .text "#abc")])]) :=
    .token (inColors_oneTheme (@Value.Changes.intro _ _ [] [_] _ _ _ trivial
      ⟨_, _, addsAlpha_percentage, rfl, rfl⟩))
  have hshade : AddsAlpha (oneTheme [(.text "a", .text "rgb(1 2 3)"),
        (.text "b", .mapping [(.text "1", .text "#abc")])])
      (oneTheme [(.text "a", .text "rgb(1 2 3)"),
        (.text "b", .mapping [(.text "1", .text "#abc8")])]) :=
    .shade (inColors_oneTheme (@Value.Changes.intro _ _ [_] [] _ _ _ trivial
      (@Value.Changes.intro _ _ [] [] _ _ _ trivial ⟨_, _, addsAlpha_digit, rfl, rfl⟩)))
  exact ⟨sheetOfValue_of_alphas.1 _ _ addsAlpha_percentage,
    sheetOfValue_of_alphas.2 _ _ (.trans _ _ _ (.symm _ _ (.rel _ _ htoken)) (.rel _ _ hshade))⟩

end Palette.Theme
