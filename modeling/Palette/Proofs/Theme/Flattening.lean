import Palette.Proofs.Theme.Outcome

/-!
# Shades as tokens of their own

A token with shades stands for several tokens with one color each: itself for its plain
shade, and its name with that of the shade for every other one (`Theme.flatName`).  With these
in its place (`Theme.flattened`), a theme has the same rule, and its warnings tell of the same
colors in the same order.  What they tell otherwise is where a color was written
(`TellElsewhere`).

A leaf is declared under the name of the flat token (`shadeToken_eq_flatName`).  So the leaves of
the two themes are the same but for this location (`leaves_flattened`), and no line shows it.
-/

namespace Palette

namespace Leaf

/-- The leaf as it would be if its color were written under its token in the theme of this
name. -/
def relocated (name : String) (leaf : Leaf) : Leaf :=
  { leaf with location := name ++ "." ++ leaf.token }

variable (name : String) (leaf : Leaf)

theorem isSettled_relocated : (leaf.relocated name).IsSettled ↔ leaf.IsSettled := Iff.rfl

theorem written_relocated (options : Options) :
    (leaf.relocated name).written options = leaf.written options := rfl

end Leaf

namespace Theme

/-! ## Flat themes -/

/-- The name of the flat token that stands for a shade of a token. -/
def flatName (token : String) : String → String
  | "DEFAULT" => token
  | shade => token ++ "-" ++ shade

/-- The tokens with one color each that a token stands for. -/
def flatTokens : String × TokenColor → List (String × TokenColor)
  | (token, .flat color) => [(token, .flat color)]
  | (token, .shaded shades) =>
    shades.map fun (shade, color) => (flatName token shade, .flat color)

/-- The theme with a token for each shade. -/
def flattened (theme : Theme) : Theme :=
  { theme with tokens := theme.tokens.flatMap flatTokens }

/-- Both warn of the scheme alike, and then of the same leaves of the theme in the same order;
the others tell each color as if it were written under its token. -/
def TellElsewhere (theme : Theme) (warnings others : List String) : Prop :=
  let schemeWarnings := ((Scheme.read theme.scheme).warning? theme.name).toList
  ∃ told : List Leaf, told.Sublist theme.leaves ∧
    warnings = schemeWarnings ++ told.map Leaf.warning ∧
    others = schemeWarnings ++ told.map fun leaf => (leaf.relocated theme.name).warning

@[simp] theorem flatName_plainShade (token : String) : flatName token plainShade = token := rfl

/-- A shade is declared under the name of its flat token. -/
theorem shadeToken_eq_flatName (token shade : String) :
    shadeToken token shade = flatName token shade := by
  unfold flatName
  split
  · exact shadeToken_plainShade token
  · rename_i hother
    exact shadeToken_of_ne token hother

section

variable (options : Options) (theme : Theme)

theorem leaves_flattened :
    theme.flattened.leaves = theme.leaves.map (Leaf.relocated theme.name) := by
  have htoken (token : String × TokenColor) :
      (flatTokens token).flatMap (fun flat => tokenLeaves theme.name flat.1 flat.2) =
        (tokenLeaves theme.name token.1 token.2).map (Leaf.relocated theme.name) := by
    obtain ⟨token, color⟩ := token
    cases color with
    | flat color => rfl
    | shaded shades =>
        rw [flatTokens, tokenLeaves, List.flatMap_map, List.map_map]
        simp only [← shadeToken_eq_flatName]
        exact List.flatMap_pure_eq_map _ _
  rw [leaves, leaves, flattened, List.flatMap_assoc, List.map_flatMap]
  exact congrArg (theme.tokens.flatMap ·) (funext htoken)

/-- A theme and the flat theme have the same rule, or fail alike. -/
theorem map_text_block_flattened :
    (block options theme.flattened).map Block.text = (block options theme).map Block.text := by
  have hwritten : theme.flattened.leaves.map (Leaf.written options) =
      theme.leaves.map (Leaf.written options) := by
    rw [leaves_flattened, List.map_map]
    exact List.map_congr_left fun leaf _ => leaf.written_relocated theme.name options
  rw [map_text_block, map_text_block, hwritten]
  rfl

/-- The warnings of the flat theme are those of the theme, one by one. -/
theorem warnings_flattened : TellElsewhere theme (expectedBlock options theme).warnings
    (expectedBlock options theme.flattened).warnings := by
  -- a leaf is as readable where it would be written as where it is
  have hunreadable : theme.flattened.leaves.filter (fun leaf => ¬ leaf.IsReadable) =
      (theme.leaves.filter fun leaf => ¬ leaf.IsReadable).map (Leaf.relocated theme.name) := by
    rw [leaves_flattened, List.filter_map]
    rfl
  refine ⟨theme.leaves.filter fun leaf => ¬ leaf.IsReadable, List.filter_sublist, rfl, ?_⟩
  simp only [expectedBlock]
  rw [hunreadable, List.map_map]
  rfl

theorem exists_block_flattened {theme : Theme} {rule : Block}
    (hblock : block options theme = .ok rule) :
    ∃ flat, block options theme.flattened = .ok flat ∧ flat.text = rule.text ∧
      TellElsewhere theme rule.warnings flat.warnings := by
  obtain ⟨hsettled, rfl⟩ := (block_eq_ok_iff ..).1 hblock
  have hflat : ∀ leaf ∈ theme.flattened.leaves, leaf.IsSettled := by
    rw [leaves_flattened, List.forall_mem_map]
    exact fun leaf hmem => (leaf.isSettled_relocated theme.name).2 (hsettled leaf hmem)
  have hflatBlock := (block_eq_ok_iff options theme.flattened _).2 ⟨hflat, rfl⟩
  have htext := map_text_block_flattened options theme
  rw [hflatBlock, hblock] at htext
  exact ⟨_, hflatBlock, Except.ok.inj htext, warnings_flattened options theme⟩

end

/-! ## A plain shade alone, and no shade -/

section

variable (options : Options) (name : String) (scheme : Option String)
variable (front back : List (String × TokenColor)) (token : String)

/-- A token whose only shade is the plain one is like the token with this color. -/
theorem map_text_block_plainShade (color : Value) :
    (block options ⟨name, scheme, front ++ (token, .shaded [(plainShade, color)]) :: back⟩).map
        Block.text =
      (block options ⟨name, scheme, front ++ (token, .flat color) :: back⟩).map Block.text := by
  have hflattened :
      flattened ⟨name, scheme, front ++ (token, .shaded [(plainShade, color)]) :: back⟩ =
        flattened ⟨name, scheme, front ++ (token, .flat color) :: back⟩ := by
    simp [flattened, flatTokens]
  rw [← map_text_block_flattened, hflattened, map_text_block_flattened]

/-- A token without shades puts nothing into the rule. -/
theorem block_noShade :
    block options ⟨name, scheme, front ++ (token, .shaded []) :: back⟩ =
      block options ⟨name, scheme, front ++ back⟩ := by
  have hleaves : leaves ⟨name, scheme, front ++ (token, .shaded []) :: back⟩ =
      leaves ⟨name, scheme, front ++ back⟩ := by
    simp [leaves, tokenLeaves]
  rw [block_eq_ruleOf, block_eq_ruleOf, hleaves]

end

/-- A value without shades is put under the plain shade. -/
def UnderPlainShade (value other : Value) : Prop :=
  value.entries? = none ∧ other = .mapping [(.text plainShade, value)]

/-- No shade of a mapping is a text; the key has a text that may be told. -/
def HasNoShade (key value : Value) : Prop :=
  key.isWritable = true ∧
    ∃ shades, value = .mapping shades ∧ ∀ shade ∈ shades, shade.2.text? = none

section

variable {options : Options} {first second : Value}

/-- A color may stand under the plain shade, and what is no color gives nothing there either. -/
theorem map_text_sheetOfValue_underPlainShade
    (hin : InColors (Value.Changes (·.isWritable = true) UnderPlainShade) first second) :
    (sheetOfValue options first).map Sheet.text = (sheetOfValue options second).map Sheet.text := by
  apply map_text_sheetOfValue_of_texts
  refine map_setOfValue_of_inColors (fun name scheme one two hchanges => ?_) hin
  refine map_readColors_of_changes (map_text_block options) ?_ hchanges name scheme
  rintro name key value _ hkey ⟨hvalue, rfl⟩
  -- a value that is no text gives no shade either, though the name of its token is told
  by_cases htext : value.text? = none
  · have hnone : ∀ shade ∈ [(Value.text plainShade, value)], shade.2.text? = none :=
      List.forall_mem_singleton.2 htext
    rw [readToken?_of_absent htext hvalue, map_seen_of_noShade hkey hnone]
    rfl
  · obtain ⟨text, htext⟩ := Option.ne_none_iff_exists'.1 htext
    obtain rfl := Value.text?_eq_some_iff.1 htext
    rw [map_seen_readToken?_text, map_seen_readToken?_mapping]
    cases nameOf key with
    | error misshape => rfl
    | ok token => rfl

theorem sheetOfValue_noShade (hin : InColors (Value.Inserts HasNoShade) first second) :
    sheetOfValue options first = sheetOfValue options second := by
  apply sheetOfValue_of_blocks
  refine map_setOfValue_of_inColors (fun name scheme one two hinserts => ?_) hin
  cases hinserts with
  | @intro front back key value hentry _ =>
      obtain ⟨hkey, shades, rfl, hnone⟩ := hentry
      rw [map_readColors (block_eq_ruleOf options), map_readColors (block_eq_ruleOf options)]
      symm
      apply map_mapM_insert
      · exact map_seen_of_noShade hkey hnone _ name
      · intro earlier later
        rw [List.flatten_append, List.flatten_append, List.flatten_cons, List.nil_append]

end

/-- Tokens with shades agree with the tokens that they stand for.  A theme that compiles does
so as well when these stand in their place, to the same text and to warnings of the same
leaves one by one, which at most tell another location.  In particular a color may stand under
the plain shade or for its token, and a mapping without a shade that is a text gives nothing,
both in themes and in theme data. -/
theorem block_flattened (options : Options) :
    (∀ (theme : Theme) (rule : Block), block options theme = .ok rule →
      ∃ flat, block options theme.flattened = .ok flat ∧ flat.text = rule.text ∧
        TellElsewhere theme rule.warnings flat.warnings) ∧
    (∀ (name : String) (scheme : Option String) (front back : List (String × TokenColor))
      (token : String) (color : Value),
      (block options ⟨name, scheme, front ++ (token, .shaded [(plainShade, color)]) :: back⟩).map
          Block.text =
        (block options ⟨name, scheme, front ++ (token, .flat color) :: back⟩).map Block.text) ∧
    (∀ (name : String) (scheme : Option String) (front back : List (String × TokenColor))
      (token : String),
      block options ⟨name, scheme, front ++ (token, .shaded []) :: back⟩ =
        block options ⟨name, scheme, front ++ back⟩) ∧
    (∀ first second,
      InColors (Value.Changes (·.isWritable = true) UnderPlainShade) first second →
      (sheetOfValue options first).map Sheet.text =
        (sheetOfValue options second).map Sheet.text) ∧
    ∀ first second, InColors (Value.Inserts HasNoShade) first second →
      sheetOfValue options first = sheetOfValue options second :=
  ⟨fun _ _ hblock => exists_block_flattened options hblock, map_text_block_plainShade options,
    block_noShade options, fun _ _ hin => map_text_sheetOfValue_underPlainShade hin,
    fun _ _ hin => sheetOfValue_noShade hin⟩

/-- A theme with a plain shade and one of a name, a shade that is no color, and a token that is
none. -/
def shadedTheme : Theme :=
  ⟨"t", some "dark", [("a", .shaded [("DEFAULT", .text "red"), ("500", .text "reddish"),
    ("600", .text "#abc")]), ("b", .flat (.text "blueish"))]⟩

/-- The shades are tokens of these names.  Only the location of the one that is no color is told
otherwise.  A color may go under the plain shade, and a mapping with a number for a shade may be
left out. -/
theorem block_flattened_shadedTheme :
    shadedTheme.flattened.tokens = [("a", .flat (.text "red")), ("a-500", .flat (.text "reddish")),
      ("a-600", .flat (.text "#abc")), ("b", .flat (.text "blueish"))] ∧
    (∃ flat, block {} shadedTheme.flattened = .ok flat ∧
      flat.text = ".t \x7b\n  color-scheme: dark;\n  --a: #ff0000;\n  --a-600: #aabbcc;\n\x7d" ∧
      TellElsewhere shadedTheme
        ["Invalid color: reddish for t.a.500", "Invalid color: blueish for t.b"] flat.warnings) ∧
    (sheetOfValue {} (oneTheme [(.text "a", .text "red")])).map Sheet.text =
      (sheetOfValue {} (oneTheme [(.text "a",
        .mapping [(.text plainShade, .text "red")])])).map Sheet.text ∧
    sheetOfValue {} (oneTheme [(.text "a", .text "red")]) =
      sheetOfValue {} (oneTheme [(.text "a", .text "red"),
        (.text "b", .mapping [(.text "1", .int 5)])]) := by
  obtain ⟨hflat, -, -, hplain, hnone⟩ := block_flattened {}
  have hblock : block {} shadedTheme =
      .ok ⟨".t \x7b\n  color-scheme: dark;\n  --a: #ff0000;\n  --a-600: #aabbcc;\n\x7d",
        ["Invalid color: reddish for t.a.500", "Invalid color: blueish for t.b"]⟩ :=
    toOption_eq_some_iff.1 (by decide +kernel)
  have hshade : HasNoShade (.text "b") (.mapping [(.text "1", .int 5)]) :=
    ⟨rfl, _, rfl, List.forall_mem_singleton.2 rfl⟩
  have hfresh : ∀ other ∈ [(Value.text "a", Value.text "red")] ++ [],
      Value.sameKey other.1 (.text "b") = false := by
    decide
  exact ⟨rfl, hflat _ _ hblock,
    hplain _ _ (inColors_oneTheme (@Value.Changes.intro _ _ [] [] _ _ _ rfl ⟨rfl, rfl⟩)),
    hnone _ _ (inColors_oneTheme (@Value.Inserts.intro _ [_] [] _ _ hshade hfresh))⟩

end Theme

end Palette
