import Mathlib.Data.List.Pairwise
import Mathlib.Logic.Relation
import Palette.Proofs.Theme.Compiling
import Palette.Proofs.Theme.Validation

/-!
# Changes at one place of theme data

A change of theme data is described at one place: a value under a key is changed
(`Value.Changes`), an entry with a fresh key is inserted (`Value.Inserts`), or entries are
put into another order (`Value.Reorders`).  The place may lie deep inside, in the definition
of any theme (`InDefinition`) or in its colors (`InColors`).  Many changes, to and fro, are
the equivalence that one of them generates, and what does not show one change does not show
many (`eq_of_eqvGen`).

How the data is read goes down the same way, so a change that cannot be seen in what is
read at its place cannot be seen in the themes (`map_setOfValue_of_inDefinition`,
`map_setOfValue_of_inColors`).  What is seen of a theme is any function of it, the rule of
the theme for instance.
-/

namespace Palette

namespace Value

/-- Two mappings have the same entries but for a changed value under one key. -/
inductive Changes (isKey : Value → Prop) (change : Value → Value → Prop) : Value → Value → Prop
  | intro {front back : Entries} {key first second : Value} (hkey : isKey key)
      (hchange : change first second) :
      Changes isKey change (.mapping (front ++ (key, first) :: back))
        (.mapping (front ++ (key, second) :: back))

/-- The second mapping has one entry more than the first, under a fresh key. -/
inductive Inserts (isEntry : Value → Value → Prop) : Value → Value → Prop
  | intro {front back : Entries} {key value : Value} (hentry : isEntry key value)
      (hfresh : ∀ other ∈ front ++ back, sameKey other.1 key = false) :
      Inserts isEntry (.mapping (front ++ back)) (.mapping (front ++ (key, value) :: back))

/-- Two mappings have the same entries in another order, with no key in them twice. -/
inductive Reorders : Value → Value → Prop
  | intro {first second : Entries} (hperm : first.Perm second)
      (hdistinct : first.Pairwise fun entry other => sameKey entry.1 other.1 = false) :
      Reorders (.mapping first) (.mapping second)

section

variable {γ : Type} {key name : String} {entry : Value} {change : Value → Value → Prop}
variable {first second : Entries}

theorem lookup_cons_of_ne_text (hentry : entry ≠ .text key) (value : Value) (rest : Entries) :
    lookup ((entry, value) :: rest) key = lookup rest key := by
  cases entry with
  | text other => exact lookup_cons_of_ne value rest fun heq => hentry (congrArg _ heq)
  | _ => rfl

/-- A value is looked up in the front entries first. -/
theorem lookup_append (front back : Entries) (key : String) :
    lookup (front ++ back) key = (lookup front key).or (lookup back key) := by
  induction front with
  | nil => rfl
  | cons head front ih =>
      obtain ⟨entry, value⟩ := head
      rw [List.cons_append]
      by_cases hentry : entry = .text key
      · subst hentry
        rw [lookup_cons_same, lookup_cons_same, Option.some_or]
      · rw [lookup_cons_of_ne_text hentry, lookup_cons_of_ne_text hentry, ih]

/-- An entry under another key is not looked up. -/
theorem lookup_insert_of_ne (hentry : entry ≠ .text key) (front : Entries) (value : Value)
    (back : Entries) :
    lookup (front ++ (entry, value) :: back) key = lookup (front ++ back) key := by
  rw [lookup_append, lookup_append, lookup_cons_of_ne_text hentry]

/-- Nothing is looked up under a fresh key. -/
theorem lookup_of_fresh {entries : Entries}
    (hfresh : ∀ other ∈ entries, sameKey other.1 (.text key) = false) :
    lookup entries key = none := by
  induction entries with
  | nil => rfl
  | cons head entries ih =>
      rw [List.forall_mem_cons] at hfresh
      have hhead : head.1 ≠ .text key := by
        intro heq
        rw [heq, sameKey, beq_self_eq_true] at hfresh
        cases hfresh.1
      rw [lookup_cons_of_ne_text hhead, ih hfresh.2]

theorem notMem_of_lookup_eq_none {entries : Entries} (hlookup : lookup entries key = none)
    (value : Value) : (.text key, value) ∉ entries := by
  intro hmem
  obtain ⟨front, back, rfl⟩ := List.append_of_mem hmem
  rw [lookup_append, lookup_cons_same, Option.or_eq_none_iff] at hlookup
  cases hlookup.2

theorem mem_of_lookup {entries : Entries} {value : Value}
    (hlookup : lookup entries key = some value) : (.text key, value) ∈ entries := by
  induction entries with
  | nil => cases hlookup
  | cons head entries ih =>
      obtain ⟨entry, other⟩ := head
      by_cases hentry : entry = .text key
      · subst hentry
        rw [lookup_cons_same] at hlookup
        cases hlookup
        exact List.mem_cons_self
      · rw [lookup_cons_of_ne_text hentry] at hlookup
        exact List.mem_cons_of_mem _ (ih hlookup)

/-- Where no key is there twice, the order of the entries does not matter. -/
theorem lookup_of_reorders (hreorders : Reorders (.mapping first) (.mapping second))
    (key : String) : lookup first key = lookup second key := by
  cases hreorders with
  | intro hperm hdistinct =>
      -- a key has one value, so it is found wherever its entry stands
      have hunique : ∀ entry ∈ first, ∀ other ∈ first,
          entry.1 = .text key → other.1 = .text key → entry.2 = other.2 := by
        have hnever : ∀ entry other : Value × Value, sameKey entry.1 other.1 = false →
            entry.1 = .text key → other.1 ≠ .text key := by
          intro entry other hother hone htwo
          rw [hone, htwo, sameKey, beq_self_eq_true] at hother
          cases hother
        refine List.Pairwise.forall_of_forall_of_flip (fun _ _ _ _ => rfl) ?_ ?_
        · exact hdistinct.imp fun hother hone htwo => absurd htwo (hnever _ _ hother hone)
        · exact hdistinct.imp fun hother hone htwo => absurd hone (hnever _ _ hother htwo)
      cases hfirst : lookup first key with
      | some value =>
          cases hsecond : lookup second key with
          | some other =>
              have hmem := hperm.mem_iff.2 (mem_of_lookup hsecond)
              exact congrArg some (hunique _ (mem_of_lookup hfirst) _ hmem rfl rfl)
          | none =>
              have hmem := hperm.mem_iff.1 (mem_of_lookup hfirst)
              exact absurd hmem (notMem_of_lookup_eq_none hsecond value)
      | none =>
          cases hsecond : lookup second key with
          | some other =>
              have hmem := hperm.mem_iff.2 (mem_of_lookup hsecond)
              exact absurd hmem (notMem_of_lookup_eq_none hfirst other)
          | none => rfl

/-- Under the key of a change, values are looked up that look alike if the changed ones do. -/
theorem lookup_map_of_changes {view : Value → γ}
    (hview : ∀ value other, change value other → view value = view other)
    (hchanges : Changes (· = .text key) change (.mapping first) (.mapping second)) :
    (lookup first key).map view = (lookup second key).map view := by
  cases hchanges with
  | @intro front back entry value other hkey hchange =>
      subst hkey
      rw [lookup_append, lookup_append, lookup_cons_same, lookup_cons_same]
      cases lookup front key with
      | none => exact congrArg some (hview value other hchange)
      | some found => rfl

/-- Under every other key the same value is looked up. -/
theorem lookup_of_changes (hname : name ≠ key)
    (hchanges : Changes (· = .text key) change (.mapping first) (.mapping second)) :
    lookup first name = lookup second name := by
  cases hchanges with
  | intro hkey hchange =>
      subst hkey
      have hne : Value.text key ≠ .text name := fun heq => hname (Value.text.inj heq).symm
      rw [lookup_insert_of_ne hne, lookup_insert_of_ne hne]

end

end Value

namespace Theme

/-! ## Places -/

/-- The change is made in the definition of a theme. -/
def InDefinition (change : Value → Value → Prop) : Value → Value → Prop :=
  Value.Changes (· = .text "themes") (Value.Changes (fun _ => True) change)

/-- The change is made in the colors of a theme. -/
def InColors (change : Value → Value → Prop) : Value → Value → Prop :=
  InDefinition (Value.Changes (· = .text "colors") change)

section

variable {γ : Type} {view : Theme → γ} {change : Value → Value → Prop}

theorem inDefinition_of_single {key first second : Value} (hchange : change first second) :
    InDefinition change (withThemes [(key, first)]) (withThemes [(key, second)]) :=
  @Value.Changes.intro _ _ [] [] _ _ _ rfl
    (@Value.Changes.intro _ _ [] [] _ _ _ trivial hchange)

theorem inColors_oneTheme {first second : Value.Entries}
    (hchange : change (.mapping first) (.mapping second)) :
    InColors change (oneTheme first) (oneTheme second) :=
  inDefinition_of_single (@Value.Changes.intro _ _ [] [] _ _ _ rfl hchange)

/-! ## Reading from the top down -/

/-- The themes that the value under the key of the themes spells. -/
def readThemes : Value → Except Misshape (List Theme)
  | .null => .error .noThemes
  | themes =>
    match themes.entries? with
    | none => .error (.themesNoMapping themes.kind)
    | some entries => entries.mapM ofEntry

/-- The theme whose colors are those of the value under the key of the colors. -/
def readColors (name : String) (scheme : Option String) (value : Value) : Except Misshape Theme :=
  match value.entries? with
  | none => .error (.colorsNoMapping name)
  | some colors => (readTokens colors).map fun tokens => ⟨name, scheme, tokens⟩

theorem setOfValue_mapping (entries : Value.Entries) : setOfValue (.mapping entries) =
    ((Value.lookup entries "themes").map readThemes).getD (.error .noThemes) := by
  unfold setOfValue
  rw [Value.entries?_mapping, Option.bind_some]
  cases Value.lookup entries "themes" with
  | none => rfl
  | some themes => cases themes <;> rfl

theorem ofEntry_mapping (key : Value) (definition : Value.Entries) :
    ofEntry (key, .mapping definition) = nameOf key >>= fun name =>
      ((Value.lookup definition "colors").map (readColors name
        ((Value.lookup definition "colorScheme").bind Value.text?))).getD
          (.error (.colorsNoMapping name)) := by
  unfold ofEntry
  refine congrArg (nameOf key >>= ·) (funext fun name => ?_)
  simp only [Value.entries?_mapping]
  cases Value.lookup definition "colors" with
  | none => rfl
  | some colors =>
      unfold readColors
      rw [Option.bind_some, Option.map_some, Option.getD_some]
      cases colors.entries? with
      | none => rfl
      | some entries => cases readTokens entries <;> rfl

/-! ## Changes that are not seen -/

/-- Theme data that holds the same themes is read alike. -/
theorem setOfValue_congr {first second : Value.Entries}
    (hthemes : Value.lookup first "themes" = Value.lookup second "themes") :
    setOfValue (.mapping first) = setOfValue (.mapping second) := by
  rw [setOfValue_mapping, setOfValue_mapping, hthemes]

/-- Of a definition nothing is read but its colors and its directive, if that is a text. -/
theorem ofEntry_congr {first second : Value.Entries}
    (hcolors : Value.lookup first "colors" = Value.lookup second "colors")
    (hscheme : (Value.lookup first "colorScheme").bind Value.text? =
      (Value.lookup second "colorScheme").bind Value.text?) (key : Value) :
    ofEntry (key, .mapping first) = ofEntry (key, .mapping second) := by
  rw [ofEntry_mapping, ofEntry_mapping, hcolors, hscheme]

/-- A change in the definition of a theme is not seen in the themes if it is not seen in the
theme. -/
theorem map_setOfValue_of_inDefinition
    (hview : ∀ key first second, change first second →
      (ofEntry (key, first)).map view = (ofEntry (key, second)).map view)
    {first second : Value} (hin : InDefinition change first second) :
    (setOfValue first).map (List.map view) = (setOfValue second).map (List.map view) := by
  -- the other themes are read as before, and a misshape of an earlier one is still the first
  have hthemes : ∀ value other, Value.Changes (fun _ => True) change value other →
      (readThemes value).map (List.map view) = (readThemes other).map (List.map view) := by
    intro value other hchanges
    cases hchanges with
    | @intro front back key one two _ hchange =>
        have hread (entries : Value.Entries) :
            readThemes (.mapping entries) = entries.mapM ofEntry := rfl
        rw [hread, hread, map_mapM, map_mapM]
        refine mapM_append_cons_congr ?_ front back
        exact hview key one two hchange
  have htop := hin
  cases hin with
  | intro hkey hchange =>
      have hlookup := Value.lookup_map_of_changes hthemes htop
      rw [setOfValue_mapping, setOfValue_mapping, map_getD_error, map_getD_error, Option.map_map,
        Option.map_map]
      exact congrArg (Option.getD · _) hlookup

/-- A change in the colors of a theme is not seen in the themes if it is not seen in a theme
with these colors, whatever its name and scheme. -/
theorem map_setOfValue_of_inColors
    (hview : ∀ name scheme first second, change first second →
      (readColors name scheme first).map view = (readColors name scheme second).map view)
    {first second : Value} (hin : InColors change first second) :
    (setOfValue first).map (List.map view) = (setOfValue second).map (List.map view) := by
  refine map_setOfValue_of_inDefinition (fun key one two hchanges => ?_) hin
  have hdefinition := hchanges
  cases hchanges with
  | intro hkey hchange =>
      have hscheme := Value.lookup_of_changes (show "colorScheme" ≠ "colors" by decide) hdefinition
      rw [ofEntry_mapping, ofEntry_mapping, hscheme]
      generalize (Value.lookup _ "colorScheme").bind Value.text? = scheme
      cases nameOf key with
      | error fault => rfl
      | ok name =>
          have hlookup := Value.lookup_map_of_changes (hview name scheme) hdefinition
          simp only [bind, Except.bind]
          rw [map_getD_error, map_getD_error, Option.map_map, Option.map_map]
          exact congrArg (Option.getD · _) hlookup

/-- A change that is not seen in what an entry of the themes spells is not seen at all. -/
theorem setOfValue_of_inDefinition
    (hchange : ∀ key first second, change first second →
      ofEntry (key, first) = ofEntry (key, second))
    {first second : Value} (hin : InDefinition change first second) :
    setOfValue first = setOfValue second := by
  rw [← map_id_id (setOfValue first), ← map_id_id (setOfValue second)]
  refine map_setOfValue_of_inDefinition (fun key one two hone => ?_) hin
  rw [hchange key one two hone]

/-- Neither is a change that is not seen in the tokens. -/
theorem setOfValue_of_inColors
    (hchange : ∀ name scheme first second, change first second →
      readColors name scheme first = readColors name scheme second)
    {first second : Value} (hin : InColors change first second) :
    setOfValue first = setOfValue second := by
  rw [← map_id_id (setOfValue first), ← map_id_id (setOfValue second)]
  refine map_setOfValue_of_inColors (fun name scheme one two hone => ?_) hin
  rw [hchange name scheme one two hone]

end

end Theme

end Palette
