import Palette.Proofs.Theme.Change

/-!
# What a rule shows of its leaves

A rule is made of what each leaf puts into it: a line or a warning (`Leaf.outcome`).  So the
rule, and with it the sheet, depends on the leaves only through this (`block_eq_ruleOf`),
and the text of the rule only through the lines (`map_text_block`).

Below a theme the tokens are read one by one, each into leaves of its own.  Where a change
in the colors of a theme leaves alone what is shown of one token, it leaves alone what is
shown of the theme (`map_readColors_of_changes`).
-/

namespace Palette

namespace Leaf

/-- What a leaf puts into its rule: a line, or a warning. -/
def outcome (options : Options) (leaf : Leaf) : Except Abort (Option String × Option String) :=
  (leaf.resolve (.ofName options.format)).map fun result =>
    (leaf.line? options result, leaf.warning? result)

/-- The line that a leaf puts into its rule. -/
def written (options : Options) (leaf : Leaf) : Except Abort (Option String) :=
  (leaf.resolve (.ofName options.format)).map (leaf.line? options)

theorem map_fst_outcome (options : Options) (leaf : Leaf) :
    (leaf.outcome options).map Prod.fst = leaf.written options := by
  unfold outcome written
  cases leaf.resolve (.ofName options.format) <;> rfl

end Leaf

namespace Theme

/-! ## Rules -/

/-- The text of a rule with these lines. -/
def ruleText (name : String) (scheme : Option String) (written : List (Option String)) : String :=
  String.intercalate "\n" (("." ++ name ++ " \x7b") ::
    ((Scheme.read scheme).declaration?.toList.map fun declaration => "  " ++ declaration) ++
    written.filterMap id ++ ["\x7d"])

/-- The text of the rule that is made of what leaves write. -/
def textOf (name : String) (scheme : Option String)
    (written : List (Except Abort (Option String))) : Except Abort String :=
  (written.mapM id).map (ruleText name scheme)

/-- The rule that is made of what leaves put into it. -/
def ruleOf (name : String) (scheme : Option String)
    (outcomes : List (Except Abort (Option String × Option String))) : Except Abort Block :=
  (outcomes.mapM id).map fun outcomes => {
    text := ruleText name scheme (outcomes.map Prod.fst)
    warnings := ((Scheme.read scheme).warning? name).toList ++ outcomes.filterMap Prod.snd }

/-- A rule is made of what its leaves put into it. -/
theorem block_eq_ruleOf (options : Options) (theme : Theme) :
    block options theme =
      ruleOf theme.name theme.scheme (theme.leaves.map (Leaf.outcome options)) := by
  have houtcome (leaf : Leaf) : leaf.outcome options =
      ((leaf.resolve (.ofName options.format)).map fun result => (leaf, result)).map
        fun pair => (pair.1.line? options pair.2, pair.1.warning? pair.2) := by
    unfold Leaf.outcome
    cases leaf.resolve (.ofName options.format) <;> rfl
  have hleaves : theme.leaves.mapM (Leaf.outcome options) =
      (resolved (.ofName options.format) theme.leaves).map
        (List.map fun pair => (pair.1.line? options pair.2, pair.1.warning? pair.2)) := by
    rw [resolved, map_mapM]
    exact congrArg (theme.leaves.mapM ·) (funext houtcome)
  rw [ruleOf, List.mapM_map, Function.id_comp, hleaves, block]
  cases resolved (.ofName options.format) theme.leaves with
  | error abort => rfl
  | ok results =>
      simp only [Except.map, ruleText, List.map_map, List.filterMap_map, Function.comp_def]
      rfl

theorem map_text_ruleOf (name : String) (scheme : Option String)
    (outcomes : List (Except Abort (Option String × Option String))) :
    (ruleOf name scheme outcomes).map Block.text =
      textOf name scheme (outcomes.map (Except.map Prod.fst)) := by
  have hwritten : (outcomes.mapM id).map (List.map Prod.fst) =
      outcomes.mapM (Except.map Prod.fst) := map_mapM Prod.fst outcomes
  rw [ruleOf, textOf, List.mapM_map, Function.id_comp, ← hwritten]
  cases outcomes.mapM id <;> rfl

/-- The text of a rule is made of the lines alone. -/
theorem map_text_block (options : Options) (theme : Theme) :
    (block options theme).map Block.text =
      textOf theme.name theme.scheme (theme.leaves.map (Leaf.written options)) := by
  rw [block_eq_ruleOf, map_text_ruleOf, List.map_map]
  exact congrArg (textOf _ _) (List.map_congr_left fun leaf _ => leaf.map_fst_outcome options)

/-! ## Sheets -/

/-- Themes with the same rules make the same sheet. -/
theorem sheetOfValue_of_blocks {options : Options} {first second : Value}
    (hblocks : (setOfValue first).map (List.map (block options)) =
      (setOfValue second).map (List.map (block options))) :
    sheetOfValue options first = sheetOfValue options second := by
  have hsheet (themes : List Theme) : sheetOfThemes options themes =
      ((themes.map (block options)).mapM id).map Sheet.ofBlocks := by
    rw [List.mapM_map]
    rfl
  unfold sheetOfValue
  cases hfirst : setOfValue first with
  | error misshape =>
      rw [hfirst] at hblocks
      rw [map_eq_error_iff.1 hblocks.symm]
  | ok themes =>
      rw [hfirst] at hblocks
      obtain ⟨others, hsecond, hsame⟩ := map_eq_ok_iff.1 hblocks.symm
      rw [hsecond]
      simp only [hsheet, hsame]

/-- Themes whose rules have the same texts make a sheet with the same text. -/
theorem map_text_sheetOfValue_of_texts {options : Options} {first second : Value}
    (htexts : (setOfValue first).map (List.map fun theme => (block options theme).map Block.text) =
      (setOfValue second).map (List.map fun theme => (block options theme).map Block.text)) :
    (sheetOfValue options first).map Sheet.text = (sheetOfValue options second).map Sheet.text := by
  have hsheet (themes : List Theme) : ((sheetOfThemes options themes).mapError Halt.abort).map
      Sheet.text = (((themes.map fun theme => (block options theme).map Block.text).mapM id).map
        (String.intercalate "\n\n")).mapError Halt.abort := by
    rw [List.mapM_map, Function.id_comp, ← map_mapM, sheetOfThemes]
    cases themes.mapM (block options) <;> rfl
  unfold sheetOfValue
  cases hfirst : setOfValue first with
  | error misshape =>
      rw [hfirst] at htexts
      rw [map_eq_error_iff.1 htexts.symm]
  | ok themes =>
      rw [hfirst] at htexts
      obtain ⟨others, hsecond, hsame⟩ := map_eq_ok_iff.1 htexts.symm
      rw [hsecond]
      simp only [hsheet, hsame]

/-! ## Tokens -/

section

variable {β γ : Type} {see : Leaf → β} {view : Theme → γ}
variable {make : String → Option String → List β → γ}

/-- What is seen of the leaves of a token, if it is one. -/
def seen (see : Leaf → β) (name : String) (token? : Option (String × TokenColor)) : List β :=
  token?.toList.flatMap fun token => (tokenLeaves name token.1 token.2).map see

theorem map_seen_readToken?_text (see : Leaf → β) (name : String) (key : Value) (text : String) :
    (readToken? (key, .text text)).map (seen see name) =
      (nameOf key).map fun token => [see ⟨token, .text text, name ++ "." ++ token⟩] := by
  rw [readToken?_text]
  cases nameOf key <;> rfl

theorem map_seen_readToken?_mapping (see : Leaf → β) (name : String) (key : Value)
    (shades : Value.Entries) :
    (readToken? (key, .mapping shades)).map (seen see name) = nameOf key >>= fun token =>
      (shades.filter fun entry => entry.2.text?.isSome).mapM fun entry =>
        (nameOf entry.1).map fun shade =>
          see ⟨shadeToken token shade, entry.2, name ++ "." ++ token ++ "." ++ shade⟩ := by
  rw [readToken?_mapping]
  cases nameOf key with
  | error misshape => rfl
  | ok token =>
      have hshades : (shades.filter fun entry => entry.2.text?.isSome).mapM (fun entry =>
          (nameOf entry.1).map fun shade =>
            see ⟨shadeToken token shade, entry.2, name ++ "." ++ token ++ "." ++ shade⟩) =
          (readShades shades).map (List.map fun shade =>
            see ⟨shadeToken token shade.1, shade.2,
              name ++ "." ++ token ++ "." ++ shade.1⟩) := by
        rw [readShades, map_mapM]
        refine congrArg (List.mapM · _) (funext fun (shade, color) => ?_)
        cases hshade : nameOf shade <;> simp only [hshade] <;> rfl
      simp only [bind, Except.bind]
      rw [hshades]
      cases readShades shades with
      | error misshape => rfl
      | ok read =>
          simp only [Except.map, seen, Option.toList_some, List.flatMap_singleton, tokenLeaves,
            List.map_map]
          rfl

/-- Of a mapping without a shade that is a text nothing is seen. -/
theorem map_seen_of_noShade {key : Value} {shades : Value.Entries}
    (hkey : key.isWritable = true) (hnone : ∀ shade ∈ shades, shade.2.text? = none)
    (see : Leaf → β) (name : String) :
    (readToken? (key, .mapping shades)).map (seen see name) = .ok [] := by
  obtain ⟨token, htoken⟩ := (exists_nameOf_iff key).2 hkey
  have hfilter : (shades.filter fun entry => entry.2.text?.isSome) = [] := by
    rw [List.filter_eq_nil_iff]
    intro shade hshade
    simp [hnone shade hshade]
  rw [map_seen_readToken?_mapping, htoken, hfilter]
  rfl

/-- What is seen of the theme with these colors is what is seen of the tokens one by one. -/
theorem map_readColors
    (hview : ∀ theme : Theme, view theme = make theme.name theme.scheme (theme.leaves.map see))
    (name : String) (scheme : Option String) (colors : Value.Entries) :
    (readColors name scheme (.mapping colors)).map view =
      (colors.mapM fun entry => (readToken? entry).map (seen see name)).map
        fun shown => make name scheme shown.flatten := by
  have hleaves (tokens : List (Option (String × TokenColor))) :
      (leaves ⟨name, scheme, tokens.filterMap id⟩).map see =
        (tokens.map (seen see name)).flatten := by
    rw [leaves, List.map_flatMap]
    -- the entries that are no tokens are dropped from the theme, and show nothing here
    induction tokens with
    | nil => rfl
    | cons token? tokens ih =>
        rw [List.map_cons, List.flatten_cons, ← ih]
        cases token? with
        | none => rfl
        | some token => simp [seen]
  rw [← map_mapM]
  have hread : readColors name scheme (.mapping colors) =
      (colors.mapM readToken?).map fun tokens => ⟨name, scheme, tokens.filterMap id⟩ := by
    unfold readColors readTokens
    simp only [Value.entries?_mapping]
    cases colors.mapM readToken? <;> rfl
  rw [hread]
  cases colors.mapM readToken? with
  | error misshape => rfl
  | ok tokens => simp only [Except.map, hview, hleaves]

/-- A change of one token that is not seen in its leaves is not seen in the theme. -/
theorem map_readColors_of_changes
    (hview : ∀ theme : Theme, view theme = make theme.name theme.scheme (theme.leaves.map see))
    {isKey : Value → Prop} {change : Value → Value → Prop}
    (hchange : ∀ name key first second, isKey key → change first second →
      (readToken? (key, first)).map (seen see name) =
        (readToken? (key, second)).map (seen see name))
    {colors others : Value} (hchanges : Value.Changes isKey change colors others)
    (name : String) (scheme : Option String) :
    (readColors name scheme colors).map view = (readColors name scheme others).map view := by
  cases hchanges with
  | @intro front back key first second hkey hone =>
      rw [map_readColors hview, map_readColors hview]
      refine congrArg (Except.map _) (mapM_append_cons_congr ?_ front back)
      exact hchange name key first second hkey hone

end

end Theme

end Palette
