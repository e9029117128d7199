import Palette.Proofs.Color.Readable
import Palette.Proofs.Theme.Shape
import Palette.Theme.Sheet

/-!
# What compiling a theme gives

`expectedBlock` says what the rule of a theme is to be: one declaration for each leaf
that can be read, and one warning for each other one, both in the order of the leaves.
The rule is exactly this one if every leaf is settled (`Leaf.IsSettled`), and otherwise
there is none (`block_eq_ok_iff`).

A leaf is not settled in two cases only: its value has no text that may be told, or it
is a text of three or four digits with a line feed behind them.  Theme data has texts
alone as colors, so only the second case is left there.  In data of the expected shape
it is the only way in which a color is fatal (`sheetOfValue_of_hasShape`).
-/

namespace Palette

namespace Leaf

/-- Whether a leaf's color can be read. -/
def IsReadable (leaf : Leaf) : Prop :=
  ∃ text ∈ leaf.color.text?, Color.IsColor text

/-- Whether a leaf is either a color or reported not to be one. -/
def IsSettled (leaf : Leaf) : Prop :=
  leaf.color.isWritable = true ∧ ∀ text ∈ leaf.color.text?, ¬ Color.ShortDigits text

instance : DecidablePred IsReadable := fun leaf =>
  inferInstanceAs (Decidable (∃ text ∈ leaf.color.text?, Color.IsColor text))

instance : DecidablePred IsSettled := fun leaf =>
  inferInstanceAs (Decidable (_ ∧ ∀ text ∈ leaf.color.text?, ¬ Color.ShortDigits text))

/-- The declaration of a leaf whose color can be read. -/
def declaration? (options : Options) (leaf : Leaf) : Option String :=
  (Color.resolveValue leaf.color (.ofName options.format)).toOption.map (leaf.line options)

/-! ## One leaf -/

theorem exists_resolveValue_iff (leaf : Leaf) (encoding : Encoding) :
    (∃ written, Color.resolveValue leaf.color encoding = .ok written) ↔ leaf.IsReadable := by
  unfold IsReadable
  cases hcolor : leaf.color with
  | text text => simp [Color.resolveValue, Color.exists_resolve_iff]
  | _ => simp [Color.resolveValue, Value.text?]

theorem exists_resolveValue_error_iff (leaf : Leaf) (encoding : Encoding) :
    (∃ fault, Color.resolveValue leaf.color encoding = .error fault ∧
      fault.isOfNotation = false) ↔ ∃ text ∈ leaf.color.text?, Color.ShortDigits text := by
  cases hcolor : leaf.color with
  | text text => simp [Color.resolveValue, Color.exists_resolve_error_iff]
  | _ => simp [Color.resolveValue, Value.text?, ColorFault.isOfNotation]

/-- A leaf that can be read has a declaration, and no other leaf has one. -/
theorem declaration?_eq_none_iff (options : Options) (leaf : Leaf) :
    leaf.declaration? options = none ↔ ¬ leaf.IsReadable := by
  rw [declaration?, Option.map_eq_none_iff, ← exists_resolveValue_iff]
  cases Color.resolveValue leaf.color (.ofName options.format) with
  | ok written => simp [Except.toOption]
  | error fault => simp [Except.toOption]

/-- What becomes of a settled leaf. -/
theorem resolve_eq_ok_iff (leaf : Leaf) (encoding : Encoding) (result : LeafResult) :
    leaf.resolve encoding = .ok result ↔
      leaf.IsSettled ∧ result =
        (Color.resolveValue leaf.color encoding).toOption.elim .unreadable .encoded := by
  have hshort := exists_resolveValue_error_iff leaf encoding
  unfold resolve IsSettled
  by_cases hwritable : leaf.color.isWritable = true
  · rw [if_pos hwritable]
    simp only [hwritable, true_and]
    cases hresolve : Color.resolveValue leaf.color encoding with
    | ok written =>
        rw [hresolve] at hshort
        have hnone : ∀ text ∈ leaf.color.text?, ¬ Color.ShortDigits text := by simpa using hshort
        simp only [Except.toOption, Option.elim_some, Except.ok.injEq]
        exact ⟨fun heq => ⟨hnone, heq.symm⟩, fun heq => heq.2.symm⟩
    | error fault =>
        rw [hresolve] at hshort
        -- the one fault that is not reported is the one of short digits
        cases fault with
        | blankDigits pair =>
            obtain ⟨text, hmem, htext⟩ := hshort.1 ⟨_, rfl, rfl⟩
            constructor
            · intro heq
              cases heq
            · intro heq
              exact absurd htext (heq.1 text hmem)
        | _ =>
            have hnone : ∀ text ∈ leaf.color.text?, ¬ Color.ShortDigits text := by
              simpa [ColorFault.isOfNotation] using hshort
            simp only [Except.toOption, Option.elim_none, Except.ok.injEq]
            exact ⟨fun heq => ⟨hnone, heq.symm⟩, fun heq => heq.2.symm⟩
  · simp [hwritable]

theorem line?_of_resolve {leaf : Leaf} {options : Options} {result : LeafResult}
    (hresult : leaf.resolve (.ofName options.format) = .ok result) :
    leaf.line? options result = leaf.declaration? options := by
  obtain ⟨-, rfl⟩ := (resolve_eq_ok_iff ..).1 hresult
  unfold declaration?
  cases (Color.resolveValue leaf.color (.ofName options.format)).toOption <;> rfl

theorem warning?_of_resolve {leaf : Leaf} {encoding : Encoding} {result : LeafResult}
    (hresult : leaf.resolve encoding = .ok result) :
    leaf.warning? result = if ¬ leaf.IsReadable then some leaf.warning else none := by
  obtain ⟨-, rfl⟩ := (resolve_eq_ok_iff ..).1 hresult
  have hreadable := exists_resolveValue_iff leaf encoding
  cases hresolve : Color.resolveValue leaf.color encoding with
  | ok written =>
      rw [if_neg (not_not_intro (hreadable.1 ⟨written, hresolve⟩))]
      rfl
  | error fault =>
      rw [hresolve] at hreadable
      rw [if_pos fun hread => by simpa using hreadable.2 hread]
      rfl

end Leaf

namespace Theme

/-! ## One theme -/

/-- The rule of a theme, with a declaration or a warning for each leaf. -/
def expectedBlock (options : Options) (theme : Theme) : Block :=
  let scheme := Scheme.read theme.scheme
  { text := String.intercalate "\n" (("." ++ theme.name ++ " \x7b") ::
      (scheme.declaration?.toList.map fun declaration => "  " ++ declaration) ++
      theme.leaves.filterMap (Leaf.declaration? options) ++ ["\x7d"])
    warnings := (scheme.warning? theme.name).toList ++
      (theme.leaves.filter fun leaf => ¬ leaf.IsReadable).map Leaf.warning }

theorem exists_resolved_iff (encoding : Encoding) (leaves : List Leaf) :
    (∃ results, resolved encoding leaves = .ok results) ↔ ∀ leaf ∈ leaves, leaf.IsSettled := by
  simp only [resolved, exists_mapM_eq_ok_iff, exists_map_eq_ok_iff, Leaf.resolve_eq_ok_iff,
    exists_and_left, exists_eq, and_true]

/-- The lines that leaves give are their declarations. -/
theorem blockLines_of_resolved {options : Options} {leaves : List Leaf}
    {results : List (Leaf × LeafResult)}
    (hresults : resolved (.ofName options.format) leaves = .ok results) (name : String)
    (scheme : Scheme.Outcome) :
    blockLines options name scheme results = ("." ++ name ++ " \x7b") ::
      (scheme.declaration?.toList.map fun declaration => "  " ++ declaration) ++
      leaves.filterMap (Leaf.declaration? options) ++ ["\x7d"] := by
  refine congrArg (fun lines => ("." ++ name ++ " \x7b") ::
    (scheme.declaration?.toList.map fun declaration => "  " ++ declaration) ++ lines ++ ["\x7d"]) ?_
  refine filterMap_eq_of_mapM hresults fun leaf _ pair hpair => ?_
  obtain ⟨result, hresult, rfl⟩ := map_eq_ok_iff.1 hpair
  exact Leaf.line?_of_resolve hresult

/-- The warnings that leaves give are on those that cannot be read. -/
theorem blockWarnings_of_resolved {encoding : Encoding} {leaves : List Leaf}
    {results : List (Leaf × LeafResult)} (hresults : resolved encoding leaves = .ok results)
    (name : String) (scheme : Scheme.Outcome) :
    blockWarnings name scheme results = (scheme.warning? name).toList ++
      (leaves.filter fun leaf => ¬ leaf.IsReadable).map Leaf.warning := by
  refine congrArg ((scheme.warning? name).toList ++ ·) ?_
  rw [← List.filterMap_eq_map', List.filterMap_filter]
  refine filterMap_eq_of_mapM hresults fun leaf _ pair hpair => ?_
  obtain ⟨result, hresult, rfl⟩ := map_eq_ok_iff.1 hpair
  simpa using Leaf.warning?_of_resolve hresult

/-- A theme has a rule exactly if its leaves are settled, and it is the expected one. -/
theorem block_eq_ok_iff (options : Options) (theme : Theme) (result : Block) :
    block options theme = .ok result ↔
      (∀ leaf ∈ theme.leaves, leaf.IsSettled) ∧ result = expectedBlock options theme := by
  have hexpected : ∀ results, resolved (.ofName options.format) theme.leaves = .ok results →
      expectedBlock options theme =
        ⟨String.intercalate "\n" (blockLines options theme.name (Scheme.read theme.scheme) results),
          blockWarnings theme.name (Scheme.read theme.scheme) results⟩ := by
    intro results hresults
    rw [blockLines_of_resolved hresults, blockWarnings_of_resolved hresults]
    rfl
  rw [← exists_resolved_iff (.ofName options.format)]
  constructor
  · intro hblock
    obtain ⟨results, hresults, heq⟩ := bind_eq_ok_iff.1 hblock
    cases heq
    exact ⟨⟨results, hresults⟩, (hexpected results hresults).symm⟩
  · rintro ⟨⟨results, hresults⟩, rfl⟩
    rw [hexpected results hresults]
    exact bind_eq_ok_iff.2 ⟨results, hresults, rfl⟩

/-! ## Theme data -/

/-- Themes have rules exactly if all their leaves are settled. -/
theorem sheetOfThemes_eq_ok_iff (options : Options) (themes : List Theme) (sheet : Sheet) :
    sheetOfThemes options themes = .ok sheet ↔
      (∀ theme ∈ themes, ∀ leaf ∈ theme.leaves, leaf.IsSettled) ∧
        sheet = Sheet.ofBlocks (themes.map (expectedBlock options)) := by
  have hexists : (∃ blocks, themes.mapM (block options) = .ok blocks) ↔
      ∀ theme ∈ themes, ∀ leaf ∈ theme.leaves, leaf.IsSettled := by
    simp only [exists_mapM_eq_ok_iff, block_eq_ok_iff, exists_and_left, exists_eq, and_true]
  have hexpected : ∀ blocks, themes.mapM (block options) = .ok blocks →
      blocks = themes.map (expectedBlock options) := by
    intro blocks hblocks
    rw [← List.map_id' blocks]
    refine map_eq_of_mapM hblocks fun theme _ result hresult => ?_
    exact ((block_eq_ok_iff ..).1 hresult).2
  rw [sheetOfThemes, map_eq_ok_iff, ← hexists]
  constructor
  · rintro ⟨blocks, hblocks, rfl⟩
    exact ⟨⟨blocks, hblocks⟩, by rw [hexpected blocks hblocks]⟩
  · rintro ⟨⟨blocks, hblocks⟩, rfl⟩
    exact ⟨blocks, hblocks, by rw [hexpected blocks hblocks]⟩

theorem isWritable_text (text : String) : (Value.text text).isWritable = true := rfl

/-- The leaves of themes that were read are settled if no color is short digits with a
line feed behind them. -/
theorem isSettled_leaves_iff {data : Value} {themes : List Theme}
    (hthemes : setOfValue data = .ok themes) :
    (∀ theme ∈ themes, ∀ leaf ∈ theme.leaves, leaf.IsSettled) ↔
      ∀ text ∈ writtenColors data, ¬ Color.ShortDigits text := by
  have hcolors := colors_leaves (hasShape_of_setOfValue hthemes) hthemes
  calc (∀ theme ∈ themes, ∀ leaf ∈ theme.leaves, leaf.IsSettled)
      ↔ ∀ leaf ∈ themes.flatMap leaves, leaf.IsSettled := List.forall_mem_flatMap.symm
    _ ↔ ∀ color ∈ (themes.flatMap leaves).map Leaf.color,
          color.isWritable = true ∧ ∀ text ∈ color.text?, ¬ Color.ShortDigits text := by
        rw [List.forall_mem_map]
        rfl
    _ ↔ ∀ text ∈ writtenColors data, ¬ Color.ShortDigits text := by
        rw [hcolors, List.forall_mem_map]
        simp only [isWritable_text, Value.text?_text, Option.mem_some_iff, forall_eq', true_and]

/-- The rules of theme data are the expected ones, if there are any. -/
theorem sheetOfValue_eq_ok_iff (options : Options) (data : Value) (sheet : Sheet) :
    sheetOfValue options data = .ok sheet ↔
      ∃ themes, setOfValue data = .ok themes ∧
        (∀ text ∈ writtenColors data, ¬ Color.ShortDigits text) ∧
        sheet = Sheet.ofBlocks (themes.map (expectedBlock options)) := by
  unfold sheetOfValue
  cases hthemes : setOfValue data with
  | error misshape => simp
  | ok themes =>
      simp only [Except.ok.injEq, exists_eq_left', ← isSettled_leaves_iff hthemes,
        ← sheetOfThemes_eq_ok_iff]
      cases sheetOfThemes options themes with
      | error abort => simp [Except.mapError]
      | ok other => simp [Except.mapError]

/-- Compiling theme data aborts for a name without a text and for a color of short
digits with a line feed behind them. -/
theorem sheetOfValue_eq_abort_iff (options : Options) (data : Value) :
    (∃ abort, sheetOfValue options data = .error (.abort abort)) ↔
      setOfValue data = .error .unwritableName ∨
        (∃ themes, setOfValue data = .ok themes) ∧
          ∃ text ∈ writtenColors data, Color.ShortDigits text := by
  unfold sheetOfValue
  cases hthemes : setOfValue data with
  | error misshape => cases misshape <;> simp [Misshape.halt]
  | ok themes =>
      have hsettled := isSettled_leaves_iff hthemes
      have hsheet := sheetOfThemes_eq_ok_iff options themes
      cases hresult : sheetOfThemes options themes with
      | error abort =>
          have hnot : ¬ ∀ text ∈ writtenColors data, ¬ Color.ShortDigits text := by
            intro hall
            have hok := (hsheet _).2 ⟨hsettled.2 hall, rfl⟩
            rw [hresult] at hok
            cases hok
          simpa [hresult, Except.mapError] using hnot
      | ok sheet =>
          have hall := hsettled.1 ((hsheet sheet).1 hresult).1
          simpa [hresult, Except.mapError] using hall

/-- In theme data of the expected shape a color is fatal exactly if it is three or four
digits with a line feed behind them.  Otherwise every color that cannot be read is left
out of its rule, with one warning. -/
theorem sheetOfValue_of_hasShape (options : Options) {data : Value} (hshape : HasShape data) :
    ((∃ sheet, sheetOfValue options data = .ok sheet) ↔
      (∀ name ∈ writtenNames data, name.isWritable = true) ∧
        ∀ text ∈ writtenColors data, ¬ Color.ShortDigits text) ∧
    (∀ sheet, sheetOfValue options data = .ok sheet →
      ∃ themes, setOfValue data = .ok themes ∧
        (themes.flatMap leaves).map Leaf.color = (writtenColors data).map Value.text ∧
        sheet = Sheet.ofBlocks (themes.map (expectedBlock options)) ∧
        ∀ leaf ∈ themes.flatMap leaves, leaf.declaration? options = none ↔ ¬ leaf.IsReadable) ∧
    ∀ text encoding, (∃ fault, Color.resolve text encoding = .error fault ∧
      fault.isOfNotation = false) ↔ Color.ShortDigits text := by
  refine ⟨?_, fun sheet hsheet => ?_, Color.exists_resolve_error_iff⟩
  · rw [← exists_setOfValue_iff hshape]
    simp only [sheetOfValue_eq_ok_iff]
    constructor
    · rintro ⟨sheet, themes, hthemes, hcolors, -⟩
      exact ⟨⟨themes, hthemes⟩, hcolors⟩
    · rintro ⟨⟨themes, hthemes⟩, hcolors⟩
      exact ⟨_, themes, hthemes, hcolors, rfl⟩
  · obtain ⟨themes, hthemes, -, hexpected⟩ := (sheetOfValue_eq_ok_iff ..).1 hsheet
    exact ⟨themes, hthemes, colors_leaves hshape hthemes, hexpected,
      fun leaf _ => leaf.declaration?_eq_none_iff options⟩

/-- Theme data with one theme that has these colors. -/
def oneTheme (colors : Value.Entries) : Value :=
  .mapping [(.text "themes", .mapping [(.text "t", .mapping [(.text "colors", .mapping colors)])])]

theorem hasShape_oneTheme (colors : Value.Entries) : HasShape (oneTheme colors) :=
  ⟨_, _, rfl, rfl, fun _ htheme => List.mem_singleton.1 htheme ▸ ⟨_, _, rfl, rfl⟩⟩

/-- A color that can be read and one that cannot. -/
theorem exists_sheetOfValue_oneTheme :
    HasShape (oneTheme [(.text "a", .text "red"), (.text "b", .text "#12345")]) ∧
      ∃ sheet, sheetOfValue {} (oneTheme [(.text "a", .text "red"), (.text "b", .text "#12345")]) =
        .ok sheet :=
  ⟨hasShape_oneTheme _,
    (sheetOfValue_of_hasShape {} (hasShape_oneTheme _)).1.2 ⟨by decide, by decide⟩⟩

/-- The color that is fatal: no rule and no warning is given. -/
theorem sheetOfValue_lineFeed :
    HasShape (oneTheme [(.text "a", .text "#abc\n")]) ∧
      sheetOfValue {} (oneTheme [(.text "a", .text "#abc\n")]) =
        .error (.abort (.badInteger 16 "\n\n")) ∧
      Color.resolve "#abc\n" .hex = .error (.blankDigits "\n\n") :=
  ⟨hasShape_oneTheme _, rfl, rfl⟩

end Theme

end Palette
