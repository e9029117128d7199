import Palette.Proofs.Theme.Compiling

/-!
# Rules before they are written

Compiling theme data goes in two stages that do not know of each other.  The first
stage, which decides what is a color and what is reported, sees no options; it ends in
drafts (`Draft`).  The second stage writes drafts under options and cannot fail: the
prefix enters the names of the custom properties, the format enters their values, and
nothing else depends on either (`Draft.write`).

In the encoding by hue, saturation and lightness a color is read a second time.  A
`Declaration` carries the proof that its color is one, so that writing it needs no
second decision (`Color.written`).
-/

namespace Palette

namespace Color

/-- The text of a color in an encoding. -/
def written {text : String} (htext : IsColor text) (encoding : Encoding) : String :=
  match hwritten : resolve text encoding with
  | .ok value => value
  | .error fault => absurd (exists_resolve_of_isColor htext encoding) (by simp [hwritten])

theorem resolve_eq_written {text : String} (htext : IsColor text) (encoding : Encoding) :
    resolve text encoding = .ok (written htext encoding) := by
  obtain ⟨value, hvalue⟩ := exists_resolve_of_isColor htext encoding
  unfold written
  split
  · assumption
  · simp_all

/-- What is no color fails with one fault in all encodings. -/
theorem failAlike_resolve (text : String) (first second : Encoding) :
    FailAlike (resolve text first) (resolve text second) := by
  cases htext : ofText text with
  | error fault =>
      rw [resolve_of_not_isColor htext first, resolve_of_not_isColor htext second]
      exact failAlike_error fault
  | ok color =>
      rw [resolve_eq_written ⟨color, htext⟩ first, resolve_eq_written ⟨color, htext⟩ second]
      exact failAlike_ok _ _

theorem failAlike_resolveValue (value : Value) (first second : Encoding) :
    FailAlike (resolveValue value first) (resolveValue value second) := by
  cases value with
  | text text => exact failAlike_resolve text first second
  | _ => exact failAlike_error _

end Color

/-- A declaration before it is written: the token that it is for, and its color. -/
structure Declaration where
  token : String
  color : String
  isColor : Color.IsColor color

namespace Declaration

/-- The name of the custom property. -/
def name (namePrefix : String) (declaration : Declaration) : String :=
  Options.propertyName { namePrefix } declaration.token

/-- The value of the custom property. -/
def value (format : String) (declaration : Declaration) : String :=
  Color.written declaration.isColor (.ofName format)

end Declaration

/-- A rule before it is written. -/
structure Draft where
  name : String
  scheme : Option String
  declarations : List Declaration

namespace Draft

/-- The names of the custom properties, which depend on the prefix alone. -/
def names (namePrefix : String) (draft : Draft) : List String :=
  draft.declarations.map (Declaration.name namePrefix)

/-- The values of the custom properties, which depend on the format alone. -/
def values (format : String) (draft : Draft) : List String :=
  draft.declarations.map (Declaration.value format)

/-- The text of the rule. -/
def write (options : Options) (draft : Draft) : String :=
  String.intercalate "\n" (("." ++ draft.name ++ " \x7b") ::
    (draft.scheme.toList.map fun declaration => "  " ++ declaration) ++
    List.zipWith (fun name value => "  " ++ name ++ ": " ++ value ++ ";")
      (draft.names options.namePrefix) (draft.values options.format) ++ ["\x7d"])

end Draft

namespace Leaf

/-- The declaration of a leaf that is a color. -/
def declared? (leaf : Leaf) : Option Declaration :=
  match leaf.color with
  | .text text =>
    if htext : Color.IsColor text then some ⟨leaf.token, text, htext⟩ else none
  | _ => none

/-- The line of a leaf is its declaration, written under the options. -/
theorem declaration?_eq_map (options : Options) (leaf : Leaf) :
    leaf.declaration? options = leaf.declared?.map fun declaration =>
      "  " ++ declaration.name options.namePrefix ++ ": " ++
        declaration.value options.format ++ ";" := by
  unfold declaration? declared?
  cases hcolor : leaf.color with
  | text text =>
      by_cases htext : Color.IsColor text
      · simp only [htext, dif_pos, Option.map_some, Color.resolveValue,
          Color.resolve_eq_written htext, Except.toOption]
        rfl
      · cases hread : Color.ofText text with
        | ok color => exact absurd ⟨color, hread⟩ htext
        | error fault =>
            simp [htext, Color.resolveValue, Color.resolve_of_not_isColor hread, Except.toOption]
  | _ => rfl

/-- A leaf that aborts the compiling aborts it in all encodings in the same way. -/
theorem failAlike_resolve (leaf : Leaf) (first second : Encoding) :
    FailAlike (leaf.resolve first) (leaf.resolve second) := by
  have halike := Color.failAlike_resolveValue leaf.color first second
  unfold resolve
  split
  · cases hfirst : Color.resolveValue leaf.color first with
    | error fault =>
        rw [(halike fault).1 hfirst]
        cases fault with
        | blankDigits pair => exact failAlike_error _
        | _ => exact failAlike_ok _ _
    | ok written =>
        cases hsecond : Color.resolveValue leaf.color second with
        | error fault =>
            rw [(halike fault).2 hsecond] at hfirst
            cases hfirst
        | ok other => exact failAlike_ok _ _
  · exact failAlike_error _

end Leaf

namespace Theme

/-! ## One theme -/

/-- The draft of a theme: its leaves that are colors. -/
def draft (theme : Theme) : Draft where
  name := theme.name
  scheme := (Scheme.read theme.scheme).declaration?
  declarations := theme.leaves.filterMap Leaf.declared?

/-- The warnings on a theme: one for its scheme and one for each leaf that is no color. -/
def reports (theme : Theme) : List String :=
  ((Scheme.read theme.scheme).warning? theme.name).toList ++
    (theme.leaves.filter fun leaf => ¬ leaf.IsReadable).map Leaf.warning

/-- The expected rule is the draft, written under the options. -/
theorem expectedBlock_eq (options : Options) (theme : Theme) :
    expectedBlock options theme = ⟨theme.draft.write options, theme.reports⟩ := by
  have hlines : theme.leaves.filterMap (Leaf.declaration? options) =
      List.zipWith (fun name value => "  " ++ name ++ ": " ++ value ++ ";")
        (theme.draft.names options.namePrefix) (theme.draft.values options.format) := by
    rw [Draft.names, Draft.values, draft, List.zipWith_map, List.zipWith_self,
      List.map_filterMap]
    exact List.filterMap_congr fun leaf _ => leaf.declaration?_eq_map options
  rw [expectedBlock, hlines]
  rfl

theorem failAlike_block (theme : Theme) (first second : Options) :
    FailAlike (block first theme) (block second theme) := by
  have hleaves : FailAlike (resolved (.ofName first.format) theme.leaves)
      (resolved (.ofName second.format) theme.leaves) :=
    failAlike_mapM (fun leaf => (leaf.failAlike_resolve _ _).map _ _) theme.leaves
  exact hleaves.bind fun _ _ _ _ => failAlike_ok _ _

/-! ## Theme data -/

theorem failAlike_sheetOfThemes (themes : List Theme) (first second : Options) :
    FailAlike (sheetOfThemes first themes) (sheetOfThemes second themes) :=
  (failAlike_mapM (fun theme => failAlike_block theme first second) themes).map _ _

/-- The options never change what is accepted.  Either theme data stops short under all
options, with one and the same fault or abort; or it is accepted under all of them, with
the same warnings, and its rules are the same drafts, written under the options.  In
particular a text is a color in one encoding exactly if it is in every other. -/
theorem sheetOfValue_uniform (data : Value) :
    ((∃ halt, ∀ options, sheetOfValue options data = .error halt) ∨
      ∃ (drafts : List Draft) (warnings : List String), ∀ options,
        sheetOfValue options data = .ok ⟨drafts.map (Draft.write options), warnings⟩) ∧
    ∀ text first second, (∃ value, Color.resolve text first = .ok value) ↔
      ∃ value, Color.resolve text second = .ok value := by
  refine ⟨?_, fun text first second => ?_⟩
  · cases hthemes : setOfValue data with
    | error misshape =>
        exact Or.inl ⟨misshape.halt, fun options => by rw [sheetOfValue, hthemes]⟩
    | ok themes =>
        have hdata : ∀ options, sheetOfValue options data =
            (sheetOfThemes options themes).mapError .abort := by
          intro options
          rw [sheetOfValue, hthemes]
        cases hsheet : sheetOfThemes {} themes with
        | error abort =>
            refine Or.inl ⟨.abort abort, fun options => ?_⟩
            rw [hdata, (failAlike_sheetOfThemes themes {} options abort).1 hsheet]
            rfl
        | ok sheet =>
            obtain ⟨hsettled, -⟩ := (sheetOfThemes_eq_ok_iff ..).1 hsheet
            refine Or.inr ⟨themes.map draft, themes.flatMap reports, fun options => ?_⟩
            have hwritten : Sheet.ofBlocks (themes.map (expectedBlock options)) =
                ⟨(themes.map draft).map (Draft.write options), themes.flatMap reports⟩ := by
              simp only [Sheet.ofBlocks, List.map_map, List.flatMap_map, Function.comp_def,
                expectedBlock_eq]
            rw [hdata, (sheetOfThemes_eq_ok_iff ..).2 ⟨hsettled, hwritten.symm⟩]
            rfl
  · rw [Color.exists_resolve_iff, Color.exists_resolve_iff]

end Theme

end Palette
