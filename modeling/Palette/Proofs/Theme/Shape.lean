import Palette.Proofs.Attempt
import Palette.Theme.Structure

/-!
# The shape of theme data

Theme data that has the expected shape (`HasShape`) is read without a fault.  What can
still stop the reading is a name whose text cannot be told, and nothing else
(`exists_setOfValue_iff`).  The leaves of the themes then are the colors that are
written in the data, in the same order (`colors_leaves`).

`writtenNames` and `writtenColors` list these names and colors straight from the data,
by a walk through its entries that knows nothing of themes.
-/

namespace Palette.Theme

/-- The entries of the themes in theme data, if there are any. -/
def themeEntries (data : Value) : Value.Entries :=
  ((data.entries?.bind fun entries => Value.lookup entries "themes").bind Value.entries?).getD []

/-- The entries of the colors in the definition of a theme, if there are any. -/
def colorEntries (definition : Value) : Value.Entries :=
  ((definition.entries?.bind fun entries => Value.lookup entries "colors").bind
    Value.entries?).getD []

/-- Theme data is a mapping with a mapping of themes, each of which is a mapping with a
mapping of colors. -/
def HasShape (data : Value) : Prop :=
  ∃ entries themes, data = .mapping entries ∧
    Value.lookup entries "themes" = some (.mapping themes) ∧
    ∀ theme ∈ themes, ∃ definition colors, theme.2 = .mapping definition ∧
      Value.lookup definition "colors" = some (.mapping colors)

/-- The texts that a value holds as the color of a token. -/
def colorsOf : Value → List String
  | .text text => [text]
  | .mapping shades => shades.filterMap fun shade => shade.2.text?
  | _ => []

/-- The colors that are written in theme data, in order. -/
def writtenColors (data : Value) : List String :=
  (themeEntries data).flatMap fun theme =>
    (colorEntries theme.2).flatMap fun token => colorsOf token.2

/-- The names that an entry of the colors gives to colors. -/
def namesOf (token : Value × Value) : List Value :=
  match token.2 with
  | .text _ => [token.1]
  | .mapping shades =>
      token.1 :: (shades.filter fun shade => shade.2.text?.isSome).map Prod.fst
  | _ => []

/-- The names of themes, tokens and shades in theme data. -/
def writtenNames (data : Value) : List Value :=
  (themeEntries data).flatMap fun theme =>
    theme.1 :: (colorEntries theme.2).flatMap namesOf

/-! ## Reading names -/

theorem exists_nameOf_iff (key : Value) :
    (∃ name, nameOf key = .ok name) ↔ key.isWritable = true := by
  unfold nameOf Value.display?
  by_cases hkey : key.isWritable = true
  · simp [hkey]
  · simp [hkey]

theorem exists_readShades_iff (shades : Value.Entries) :
    (∃ read, readShades shades = .ok read) ↔
      ∀ key ∈ (shades.filter fun shade => shade.2.text?.isSome).map Prod.fst,
        key.isWritable = true := by
  unfold readShades
  rw [exists_mapM_eq_ok_iff, List.forall_mem_map]
  simp only [exists_map_eq_ok_iff, exists_nameOf_iff]

theorem exists_readToken?_iff (token : Value × Value) :
    (∃ read, readToken? token = .ok read) ↔ ∀ key ∈ namesOf token, key.isWritable = true := by
  obtain ⟨key, value⟩ := token
  cases value with
  | text text =>
      rw [namesOf, List.forall_mem_singleton, ← exists_nameOf_iff]
      exact @exists_map_eq_ok_iff _ _ _ (nameOf key) fun name =>
        some (name, TokenColor.flat (.text text))
  | mapping shades =>
      -- the shades are read first, but either failure is one of a name
      rw [namesOf, List.forall_mem_cons, ← exists_nameOf_iff, ← exists_readShades_iff]
      constructor
      · rintro ⟨read, hread⟩
        obtain ⟨color, hcolor, hrest⟩ := bind_eq_ok_iff.1 hread
        obtain ⟨shades, hshades, rfl⟩ := map_eq_ok_iff.1 hcolor
        obtain ⟨name, hname, -⟩ := bind_eq_ok_iff.1 hrest
        exact ⟨⟨name, hname⟩, shades, hshades⟩
      · rintro ⟨⟨name, hname⟩, read, hread⟩
        exact ⟨_, bind_eq_ok_iff.2 ⟨_, map_eq_ok_iff.2 ⟨read, hread, rfl⟩,
          bind_eq_ok_iff.2 ⟨name, hname, rfl⟩⟩⟩
  | _ => exact ⟨fun _ _ hmem => absurd hmem List.not_mem_nil, fun _ => ⟨none, rfl⟩⟩

theorem exists_readTokens_iff (entries : Value.Entries) :
    (∃ read, readTokens entries = .ok read) ↔
      ∀ key ∈ entries.flatMap namesOf, key.isWritable = true := by
  unfold readTokens
  simp only [exists_map_eq_ok_iff, exists_mapM_eq_ok_iff, exists_readToken?_iff, List.mem_flatMap]
  constructor
  · rintro hall key ⟨token, htoken, hkey⟩
    exact hall token htoken key hkey
  · intro hall token htoken key hkey
    exact hall key ⟨token, htoken, hkey⟩

/-! ## Reading themes -/

theorem ofEntry_eq_ok_iff {entry : Value × Value} {definition colors : Value.Entries}
    (hdefinition : entry.2 = .mapping definition)
    (hcolors : Value.lookup definition "colors" = some (.mapping colors)) (theme : Theme) :
    ofEntry entry = .ok theme ↔
      ∃ name tokens, nameOf entry.1 = .ok name ∧ readTokens colors = .ok tokens ∧
        theme = ⟨name, (Value.lookup definition "colorScheme").bind Value.text?, tokens⟩ := by
  have hentry : ofEntry entry = nameOf entry.1 >>= fun name => readTokens colors >>= fun tokens =>
      .ok ⟨name, (Value.lookup definition "colorScheme").bind Value.text?, tokens⟩ := by
    simp only [ofEntry, hdefinition, Value.entries?, hcolors, Option.bind_some]
    rfl
  rw [hentry, bind_eq_ok_iff]
  constructor
  · rintro ⟨name, hname, hrest⟩
    obtain ⟨tokens, htokens, htheme⟩ := bind_eq_ok_iff.1 hrest
    cases htheme
    exact ⟨name, tokens, hname, htokens, rfl⟩
  · rintro ⟨name, tokens, hname, htokens, rfl⟩
    exact ⟨name, hname, bind_eq_ok_iff.2 ⟨tokens, htokens, rfl⟩⟩

/-- An entry with colors is read exactly if every name in it has a text that may be told. -/
theorem exists_ofEntry_iff {entry : Value × Value} {definition colors : Value.Entries}
    (hdefinition : entry.2 = .mapping definition)
    (hcolors : Value.lookup definition "colors" = some (.mapping colors)) :
    (∃ theme, ofEntry entry = .ok theme) ↔
      ∀ name ∈ entry.1 :: colors.flatMap namesOf, name.isWritable = true := by
  rw [List.forall_mem_cons, ← exists_nameOf_iff, ← exists_readTokens_iff]
  constructor
  · rintro ⟨theme, htheme⟩
    obtain ⟨name, tokens, hname, htokens, -⟩ := (ofEntry_eq_ok_iff hdefinition hcolors _).1 htheme
    exact ⟨⟨name, hname⟩, tokens, htokens⟩
  · rintro ⟨⟨name, hname⟩, tokens, htokens⟩
    exact ⟨_, (ofEntry_eq_ok_iff hdefinition hcolors _).2 ⟨name, tokens, hname, htokens, rfl⟩⟩

/-- Theme data of the expected shape is read theme by theme. -/
theorem setOfValue_of_hasShape {data : Value} (hshape : HasShape data) :
    setOfValue data = (themeEntries data).mapM ofEntry := by
  obtain ⟨entries, themes, rfl, hthemes, -⟩ := hshape
  simp [setOfValue, themeEntries, hthemes]

/-- Only theme data of the expected shape is read. -/
theorem hasShape_of_setOfValue {data : Value} {themes : List Theme}
    (hthemes : setOfValue data = .ok themes) : HasShape data := by
  have hentry : ∀ entry theme, ofEntry entry = .ok theme → ∃ definition colors,
      entry.2 = .mapping definition ∧
        Value.lookup definition "colors" = some (.mapping colors) := by
    intro entry theme htheme
    obtain ⟨name, -, hrest⟩ := bind_eq_ok_iff.1 htheme
    split at hrest
    · cases hrest
    · rename_i definition hdefinition
      split at hrest
      · cases hrest
      · rename_i colors hcolors
        obtain ⟨value, hlookup, hvalue⟩ := Option.bind_eq_some_iff.1 hcolors
        rw [Value.entries?_eq_some_iff] at hdefinition hvalue
        exact ⟨definition, colors, hdefinition, hvalue ▸ hlookup⟩
  unfold setOfValue at hthemes
  split at hthemes
  · cases hthemes
  · cases hthemes
  · rename_i value _ hvalue
    split at hthemes
    · cases hthemes
    · rename_i entries hentries
      obtain ⟨top, hdata, hlookup⟩ := Option.bind_eq_some_iff.1 hvalue
      rw [Value.entries?_eq_some_iff] at hdata hentries
      refine ⟨top, entries, hdata, hentries ▸ hlookup, fun entry hmem => ?_⟩
      obtain ⟨theme, htheme⟩ := exists_mapM_eq_ok_iff.1 ⟨themes, hthemes⟩ entry hmem
      exact hentry entry theme htheme

/-- In theme data of the expected shape, every theme has a mapping of colors. -/
theorem exists_of_mem_themeEntries {data : Value} (hshape : HasShape data) {entry : Value × Value}
    (hentry : entry ∈ themeEntries data) :
    ∃ definition, entry.2 = .mapping definition ∧
      Value.lookup definition "colors" = some (.mapping (colorEntries entry.2)) := by
  obtain ⟨entries, themes, rfl, hthemes, hall⟩ := hshape
  have hmem : entry ∈ themes := by simpa [themeEntries, hthemes] using hentry
  obtain ⟨definition, colors, hdefinition, hcolors⟩ := hall entry hmem
  refine ⟨definition, hdefinition, ?_⟩
  simp [colorEntries, hdefinition, hcolors]

/-- Such data is read exactly if every name in it has a text that may be told. -/
theorem exists_setOfValue_iff {data : Value} (hshape : HasShape data) :
    (∃ themes, setOfValue data = .ok themes) ↔
      ∀ name ∈ writtenNames data, name.isWritable = true := by
  have hentry : ∀ entry ∈ themeEntries data, (∃ theme, ofEntry entry = .ok theme) ↔
      ∀ name ∈ entry.1 :: (colorEntries entry.2).flatMap namesOf, name.isWritable = true := by
    intro entry hmem
    obtain ⟨definition, hdefinition, hcolors⟩ := exists_of_mem_themeEntries hshape hmem
    exact exists_ofEntry_iff hdefinition hcolors
  rw [setOfValue_of_hasShape hshape, exists_mapM_eq_ok_iff]
  constructor
  · intro hall name hname
    obtain ⟨entry, hmem, hwritten⟩ := List.mem_flatMap.1 hname
    exact (hentry entry hmem).1 (hall entry hmem) name hwritten
  · intro hall entry hmem
    exact (hentry entry hmem).2 fun name hname =>
      hall name (List.mem_flatMap.2 ⟨entry, hmem, hname⟩)

/-! ## The leaves are the colors that are written -/

theorem color_readShades {shades : Value.Entries} {read : List (String × Value)}
    (hread : readShades shades = .ok read) :
    read.map Prod.snd = (shades.filterMap fun shade => shade.2.text?).map Value.text := by
  have hkept : read.map Prod.snd =
      (shades.filter fun shade => shade.2.text?.isSome).map Prod.snd := by
    refine map_eq_of_mapM hread fun shade _ result hresult => ?_
    obtain ⟨name, -, rfl⟩ := map_eq_ok_iff.1 hresult
    rfl
  rw [hkept]
  clear hread hkept
  induction shades with
  | nil => rfl
  | cons shade rest ih =>
      cases htext : shade.2.text? with
      | none => simp [htext, ih]
      | some text => simp [ih, Value.text?_eq_some_iff.1 htext]

/-- The leaves of a token have the colors of its entry. -/
theorem color_readToken? {token : Value × Value} {read : Option (String × TokenColor)}
    (hread : readToken? token = .ok read) (name : String) :
    (read.toList.flatMap fun found => tokenLeaves name found.1 found.2).map Leaf.color =
      (colorsOf token.2).map Value.text := by
  obtain ⟨key, value⟩ := token
  obtain ⟨color, hcolor, hrest⟩ := bind_eq_ok_iff.1 hread
  cases value with
  | text text =>
      cases hcolor
      obtain ⟨found, -, hfound⟩ := bind_eq_ok_iff.1 hrest
      cases hfound
      rfl
  | mapping shades =>
      obtain ⟨shades, hshades, rfl⟩ := map_eq_ok_iff.1 hcolor
      obtain ⟨found, -, hfound⟩ := bind_eq_ok_iff.1 hrest
      cases hfound
      rw [colorsOf, ← color_readShades hshades]
      simp [tokenLeaves]
  | _ =>
      cases hcolor
      cases hrest
      rfl

theorem color_readTokens {entries : Value.Entries} {read : List (String × TokenColor)}
    (hread : readTokens entries = .ok read) (name : String) :
    (read.flatMap fun found => tokenLeaves name found.1 found.2).map Leaf.color =
      (entries.flatMap fun token => colorsOf token.2).map Value.text := by
  obtain ⟨found, hfound, rfl⟩ := map_eq_ok_iff.1 hread
  rw [List.filterMap_eq_flatMap_toList, List.flatMap_assoc, List.map_flatMap, List.map_flatMap]
  exact flatMap_eq_of_mapM hfound fun token _ result hresult => color_readToken? hresult name

/-- The leaves of the themes are the colors that are written in the data. -/
theorem colors_leaves {data : Value} (hshape : HasShape data) {themes : List Theme}
    (hthemes : setOfValue data = .ok themes) :
    (themes.flatMap leaves).map Leaf.color = (writtenColors data).map Value.text := by
  rw [setOfValue_of_hasShape hshape] at hthemes
  rw [writtenColors, List.map_flatMap, List.map_flatMap]
  refine flatMap_eq_of_mapM hthemes fun entry hentry theme htheme => ?_
  obtain ⟨definition, hdefinition, hcolors⟩ := exists_of_mem_themeEntries hshape hentry
  obtain ⟨name, tokens, -, htokens, rfl⟩ := (ofEntry_eq_ok_iff hdefinition hcolors _).1 htheme
  exact color_readTokens htokens name

end Palette.Theme
