import Palette.Proofs.Theme.Change

/-!
# What theme data may hold without being read

Some parts of theme data are as good as absent: tokens that are neither a text nor a
mapping, shades and directives that are no texts, and everything under keys that mean
nothing.  They may come and go, and the keys that do mean something may be put into another
order (`Unnoticed`), and the same themes are read (`setOfValue_of_unnoticed`).

Each of the three filters is passed at its own place: shades are filtered before their names
are told, tokens come to nothing before theirs are, and the directive is looked up and then
dropped.  So not even a name that has no text is noticed there.
-/

namespace Palette.Theme

variable {first second : Value}

/-- A change of theme data that is none of its themes. -/
inductive Unnoticed (first second : Value) : Prop
  /-- A token is inserted that is neither a text nor a mapping. -/
  | token (hin : InColors (Value.Inserts fun _ value => value.text? = none ∧ value.entries? = none)
      first second)
  /-- A shade is inserted that is no text. -/
  | shade (hin : InColors (Value.Changes (fun _ => True)
      (Value.Inserts fun _ value => value.text? = none)) first second)
  /-- A directive that is no text is replaced by another one. -/
  | scheme (hin : InDefinition (Value.Changes (· = .text "colorScheme")
      fun value other => value.text? = none ∧ other.text? = none) first second)
  /-- A directive that is no text is inserted where there is none. -/
  | newScheme (hin : InDefinition (Value.Inserts fun key value =>
      key = .text "colorScheme" ∧ value.text? = none) first second)
  /-- A further key is inserted into the definition of a theme. -/
  | definitionKey (hin : InDefinition (Value.Inserts fun key _ =>
      key ≠ .text "colorScheme" ∧ key ≠ .text "colors") first second)
  /-- A further key is inserted beside the themes. -/
  | topKey (hin : Value.Inserts (fun key _ => key ≠ .text "themes") first second)
  /-- The keys in the definition of a theme are reordered. -/
  | definitionOrder (hin : InDefinition Value.Reorders first second)
  /-- The keys beside the themes are reordered. -/
  | topOrder (hin : Value.Reorders first second)

/-! ## Tokens and shades -/

theorem readColors_mapping (name : String) (scheme : Option String) (colors : Value.Entries) :
    readColors name scheme (.mapping colors) =
      (readTokens colors).map fun tokens => ⟨name, scheme, tokens⟩ := rfl

/-- Tokens of another kind come to nothing. -/
theorem readColors_of_insertedToken {colors other : Value} (hinserts : Value.Inserts
    (fun _ value => value.text? = none ∧ value.entries? = none) colors other)
    (name : String) (scheme : Option String) :
    readColors name scheme colors = readColors name scheme other := by
  cases hinserts with
  | @intro front back key value hentry _ =>
      have htokens : readTokens (front ++ (key, value) :: back) = readTokens (front ++ back) :=
        map_mapM_insert (readToken?_of_absent hentry.1 hentry.2)
          (fun earlier later => by simp) front back
      rw [readColors_mapping, readColors_mapping, htokens]

/-- Shades that are no texts are filtered before anything is done with them. -/
theorem readShades_insert {key value : Value} (hvalue : value.text? = none)
    (front back : Value.Entries) :
    readShades (front ++ (key, value) :: back) = readShades (front ++ back) := by
  unfold readShades
  rw [List.filter_append, List.filter_append, List.filter_cons_of_neg]
  rw [hvalue]
  exact Bool.false_ne_true

theorem readColors_of_insertedShade {colors other : Value} (hchanges : Value.Changes
    (fun _ => True) (Value.Inserts fun _ value => value.text? = none) colors other)
    (name : String) (scheme : Option String) :
    readColors name scheme colors = readColors name scheme other := by
  cases hchanges with
  | @intro front back token shades others _ hinserts =>
      cases hinserts with
      | @intro earlier later shade value hvalue _ =>
          have hcolor : readColor? (.mapping (earlier ++ later)) =
              readColor? (.mapping (earlier ++ (shade, value) :: later)) := by
            rw [readColor?, readColor?, readShades_insert hvalue]
          have htoken : readToken? (token, .mapping (earlier ++ later)) =
              readToken? (token, .mapping (earlier ++ (shade, value) :: later)) := by
            simp only [readToken?, hcolor]
          rw [readColors_mapping, readColors_mapping, readTokens, readTokens,
            mapM_append_cons_congr htoken]

/-! ## The definition of a theme -/

/-- A directive that is no text is like any other one, and like none. -/
theorem ofEntry_of_scheme {definition other : Value} (hchanges : Value.Changes
    (· = .text "colorScheme") (fun value other => value.text? = none ∧ other.text? = none)
    definition other) (key : Value) : ofEntry (key, definition) = ofEntry (key, other) := by
  have hdefinition := hchanges
  cases hchanges with
  | intro hkey hboth =>
      refine ofEntry_congr (Value.lookup_of_changes (by decide) hdefinition) ?_ key
      have hlookup := Value.lookup_map_of_changes
        (fun _ _ hboth => hboth.1.trans hboth.2.symm) hdefinition
      have hbind := congrArg (Option.bind · id) hlookup
      simpa only [Option.bind_map, Function.id_comp] using hbind

theorem ofEntry_of_newScheme {definition other : Value} (hinserts : Value.Inserts
    (fun key value => key = .text "colorScheme" ∧ value.text? = none) definition other)
    (key : Value) : ofEntry (key, definition) = ofEntry (key, other) := by
  cases hinserts with
  | @intro front back scheme value hentry hfresh =>
      obtain ⟨rfl, hvalue⟩ := hentry
      have hcolors : Value.text "colorScheme" ≠ .text "colors" := by simp
      refine ofEntry_congr (Value.lookup_insert_of_ne hcolors front value back).symm ?_ key
      -- nothing is found without the directive, and what is found with it is dropped
      have hnone := Value.lookup_of_fresh hfresh
      rw [hnone, Value.lookup_append, Value.lookup_cons_same]
      rw [Value.lookup_append, Option.or_eq_none_iff] at hnone
      rw [hnone.1, Option.none_or, Option.bind_some, hvalue, Option.bind_none]

theorem ofEntry_of_insertedKey {definition other : Value} (hinserts : Value.Inserts
    (fun key _ => key ≠ .text "colorScheme" ∧ key ≠ .text "colors") definition other)
    (key : Value) : ofEntry (key, definition) = ofEntry (key, other) := by
  cases hinserts with
  | intro hentry _ =>
      refine ofEntry_congr (Value.lookup_insert_of_ne hentry.2 _ _ _).symm ?_ key
      rw [Value.lookup_insert_of_ne hentry.1]

theorem ofEntry_of_reorders {definition other : Value} (hreorders : Value.Reorders definition other)
    (key : Value) : ofEntry (key, definition) = ofEntry (key, other) := by
  have hdefinition := hreorders
  cases hreorders with
  | intro hperm hdistinct =>
      refine ofEntry_congr (Value.lookup_of_reorders hdefinition "colors") ?_ key
      rw [Value.lookup_of_reorders hdefinition "colorScheme"]

/-! ## Theme data -/

/-- The themes do not notice such a change. -/
theorem setOfValue_of_unnoticed (hunnoticed : Unnoticed first second) :
    setOfValue first = setOfValue second := by
  cases hunnoticed with
  | token hin =>
      exact setOfValue_of_inColors
        (fun name scheme _ _ hinserts => readColors_of_insertedToken hinserts name scheme) hin
  | shade hin =>
      exact setOfValue_of_inColors
        (fun name scheme _ _ hchanges => readColors_of_insertedShade hchanges name scheme) hin
  | scheme hin =>
      exact setOfValue_of_inDefinition (fun key _ _ hchanges => ofEntry_of_scheme hchanges key) hin
  | newScheme hin =>
      exact setOfValue_of_inDefinition
        (fun key _ _ hinserts => ofEntry_of_newScheme hinserts key) hin
  | definitionKey hin =>
      exact setOfValue_of_inDefinition
        (fun key _ _ hinserts => ofEntry_of_insertedKey hinserts key) hin
  | definitionOrder hin =>
      exact setOfValue_of_inDefinition
        (fun key _ _ hreorders => ofEntry_of_reorders hreorders key) hin
  | topKey hin =>
      cases hin with
      | intro hkey _ => exact setOfValue_congr (Value.lookup_insert_of_ne hkey _ _ _).symm
  | topOrder hin =>
      have htop := hin
      cases hin with
      | intro hperm hdistinct => exact setOfValue_congr (Value.lookup_of_reorders htop "themes")

/-- Theme data may change in this way at any number of places, to and fro: under no options
do the rules, the warnings, or what is at fault change. -/
theorem sheetOfValue_of_unnoticed (hunnoticed : Relation.EqvGen Unnoticed first second)
    (options : Options) : sheetOfValue options first = sheetOfValue options second := by
  refine eq_of_eqvGen (fun value other hchange => ?_) hunnoticed
  rw [sheetOfValue, sheetOfValue, setOfValue_of_unnoticed hchange]

/-- The definition of a theme with a number for a directive and with these colors. -/
def numberedDefinition (colors : Value.Entries) : Value :=
  .mapping [(.text "colorScheme", .int 5), (.text "colors", .mapping colors)]

/-- A shade without a color, a token without one, a number for a directive and a further key
come in one after the other. -/
theorem sheetOfValue_numberedDefinition :
    sheetOfValue {} (oneTheme [(.text "a", .mapping [(.text "1", .text "red")])]) =
      sheetOfValue {} (.mapping [(.text "themes", .mapping [(.text "t", numberedDefinition
        [(.text "a", .mapping [(.text "1", .text "red"), (.int 7, .null)]),
          (.text "b", .list [])])]), (.text "note", .null)]) := by
  have hshade : Unnoticed (oneTheme [(.text "a", .mapping [(.text "1", .text "red")])])
      (oneTheme [(.text "a", .mapping [(.text "1", .text "red"), (.int 7, .null)])]) :=
    .shade (inColors_oneTheme (@Value.Changes.intro _ _ [] [] _ _ _ trivial
      (@Value.Inserts.intro _ [_] [] _ _ rfl (by decide))))
  have htoken : Unnoticed
      (oneTheme [(.text "a", .mapping [(.text "1", .text "red"), (.int 7, .null)])])
      (oneTheme [(.text "a", .mapping [(.text "1", .text "red"), (.int 7, .null)]),
        (.text "b", .list [])]) :=
    .token (inColors_oneTheme (@Value.Inserts.intro _ [_] [] _ _ ⟨rfl, rfl⟩ (by decide)))
  have hscheme (colors : Value.Entries) : Unnoticed (oneTheme colors)
      (withThemes [(.text "t", numberedDefinition colors)]) :=
    .newScheme (inDefinition_of_single
      (@Value.Inserts.intro _ [] [_] _ _ ⟨rfl, rfl⟩ (by simp [Value.sameKey])))
  have htop (themes : Value.Entries) : Unnoticed (withThemes themes)
      (.mapping [(.text "themes", .mapping themes), (.text "note", .null)]) :=
    .topKey (@Value.Inserts.intro _ [_] [] _ _ (by simp)
      (by simp [Value.sameKey]))
  exact sheetOfValue_of_unnoticed (.trans _ _ _ (.rel _ _ hshade) (.trans _ _ _ (.rel _ _ htoken)
    (.trans _ _ _ (.rel _ _ (hscheme _)) (.rel _ _ (htop _))))) {}

end Palette.Theme
