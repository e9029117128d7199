import Palette.Proofs.Theme.Shape

/-!
# One entry of the themes

An entry of the themes that is a mapping with a mapping of colors is formed (`IsFormed`).
It becomes the theme that is expected (`expectedTheme`): its name is the text of the key,
its directive is kept if it is a text, and of its colors and their shades exactly those
are kept that have the shape of one, in order.  An entry that is not formed is reported
with its name (`EntryMisshape`), the definition before its colors.

All this is so if the names in the entry have texts that may be told
(`ofEntry_of_isWritable`).  A name without such a text stops the reading, and nothing else
does in a formed entry (`ofEntry_of_not_isWritable`).
-/

namespace Palette.Theme

/-- Whether an entry of the themes is a mapping with a mapping of colors. -/
def IsFormed (entry : Value × Value) : Prop :=
  ∃ definition colors, entry.2 = .mapping definition ∧
    Value.lookup definition "colors" = some (.mapping colors)

/-- In which way an entry of the themes is not formed.  The definition comes before its
colors. -/
inductive EntryMisshape (entry : Value × Value) : Misshape → Prop
  | noMapping (hdefinition : ∀ definition, entry.2 ≠ .mapping definition) :
      EntryMisshape entry (.themeNoMapping entry.1.display)
  | noColors {definition : Value.Entries} (hdefinition : entry.2 = .mapping definition)
      (hcolors : ∀ colors, Value.lookup definition "colors" ≠ some (.mapping colors)) :
      EntryMisshape entry (.colorsNoMapping entry.1.display)

/-- The names that an entry of the themes gives to itself and to its colors. -/
def entryNames (entry : Value × Value) : List Value :=
  entry.1 :: (colorEntries entry.2).flatMap namesOf

/-- The shades of a mapping that are texts, in order. -/
def expectedShades (shades : Value.Entries) : List (String × Value) :=
  shades.filterMap fun shade => shade.2.text?.map fun text => (shade.1.display, .text text)

/-- The token that an entry of the colors is to become: a text is one color, a mapping one
for each of its shades, and nothing else is a token. -/
def expectedToken? (token : Value × Value) : Option (String × TokenColor) :=
  match token.2 with
  | .text text => some (token.1.display, .flat (.text text))
  | .mapping shades => some (token.1.display, .shaded (expectedShades shades))
  | _ => none

/-- The theme that an entry of the themes is to become. -/
def expectedTheme (entry : Value × Value) : Theme where
  name := entry.1.display
  scheme := (entry.2.entries?.bind fun definition =>
    Value.lookup definition "colorScheme").bind Value.text?
  tokens := (colorEntries entry.2).filterMap expectedToken?

/-! ## Names -/

theorem eq_display_of_nameOf {key : Value} {name : String} (hname : nameOf key = .ok name) :
    name = key.display := by
  unfold nameOf Value.display? at hname
  by_cases hkey : key.isWritable = true
  · simpa [hkey] using hname.symm
  · simp [hkey] at hname

theorem misshape_of_nameOf {key : Value} {misshape : Misshape}
    (hname : nameOf key = .error misshape) : misshape = .unwritableName := by
  unfold nameOf at hname
  split at hname
  · cases hname
  · cases hname
    rfl

/-! ## Colors -/

theorem eq_expectedShades {shades : Value.Entries} {read : List (String × Value)}
    (hread : readShades shades = .ok read) : read = expectedShades shades := by
  have hkept : read.map id = (shades.filter fun shade => shade.2.text?.isSome).map fun shade =>
      (shade.1.display, shade.2) := by
    refine map_eq_of_mapM hread fun shade _ result hresult => ?_
    obtain ⟨name, hname, rfl⟩ := map_eq_ok_iff.1 hresult
    rw [eq_display_of_nameOf hname]
    rfl
  rw [List.map_id] at hkept
  rw [hkept, expectedShades]
  clear hread hkept
  induction shades with
  | nil => rfl
  | cons shade rest ih =>
      cases htext : shade.2.text? with
      | none => simp [htext, ih]
      | some text => simp [ih, Value.text?_eq_some_iff.1 htext]

theorem misshape_of_readShades {shades : Value.Entries} {misshape : Misshape}
    (hread : readShades shades = .error misshape) : misshape = .unwritableName := by
  obtain ⟨shade, -, hshade⟩ := mapM_eq_error_iff.1 hread
  exact misshape_of_nameOf (map_eq_error_iff.1 hshade)

/-! ## Tokens -/

theorem readToken?_text (key : Value) (text : String) : readToken? (key, .text text) =
    (nameOf key).map fun token => some (token, .flat (.text text)) := by
  unfold readToken? readColor?
  cases nameOf key <;> rfl

/-- The name of a token may be told before those of its shades, since all that can go wrong
is the same. -/
theorem readToken?_mapping (key : Value) (shades : Value.Entries) :
    readToken? (key, .mapping shades) = nameOf key >>= fun token =>
      (readShades shades).map fun read => some (token, .shaded read) := by
  simp only [readToken?, readColor?]
  cases hread : readShades shades with
  | error misshape =>
      cases misshape_of_readShades hread
      cases hname : nameOf key with
      | error other =>
          cases misshape_of_nameOf hname
          rfl
      | ok token => rfl
  | ok read => cases nameOf key <;> rfl

theorem readToken?_of_absent {key value : Value} (htext : value.text? = none)
    (hentries : value.entries? = none) : readToken? (key, value) = .ok none := by
  cases value with
  | text text => cases htext
  | mapping shades => cases hentries
  | _ => rfl

theorem eq_expectedToken? {token : Value × Value} {read : Option (String × TokenColor)}
    (hread : readToken? token = .ok read) : read = expectedToken? token := by
  obtain ⟨key, value⟩ := token
  cases value with
  | text text =>
      rw [readToken?_text] at hread
      obtain ⟨name, hname, rfl⟩ := map_eq_ok_iff.1 hread
      rw [eq_display_of_nameOf hname]
      rfl
  | mapping shades =>
      rw [readToken?_mapping] at hread
      obtain ⟨name, hname, hrest⟩ := bind_eq_ok_iff.1 hread
      obtain ⟨found, hfound, rfl⟩ := map_eq_ok_iff.1 hrest
      rw [eq_display_of_nameOf hname, eq_expectedShades hfound]
      rfl
  | _ =>
      cases hread
      rfl

theorem misshape_of_readToken? {token : Value × Value} {misshape : Misshape}
    (hread : readToken? token = .error misshape) : misshape = .unwritableName := by
  obtain ⟨key, value⟩ := token
  cases value with
  | text text =>
      rw [readToken?_text] at hread
      exact misshape_of_nameOf (map_eq_error_iff.1 hread)
  | mapping shades =>
      rw [readToken?_mapping] at hread
      rcases bind_eq_error_iff.1 hread with hname | ⟨name, -, hrest⟩
      · exact misshape_of_nameOf hname
      · exact misshape_of_readShades (map_eq_error_iff.1 hrest)
  | _ => cases hread

theorem eq_expectedTokens {entries : Value.Entries} {read : List (String × TokenColor)}
    (hread : readTokens entries = .ok read) : read = entries.filterMap expectedToken? := by
  obtain ⟨found, hfound, rfl⟩ := map_eq_ok_iff.1 hread
  refine filterMap_eq_of_mapM hfound fun token _ result hresult => ?_
  exact eq_expectedToken? hresult

theorem misshape_of_readTokens {entries : Value.Entries} {misshape : Misshape}
    (hread : readTokens entries = .error misshape) : misshape = .unwritableName := by
  obtain ⟨token, -, htoken⟩ := mapM_eq_error_iff.1 (map_eq_error_iff.1 hread)
  exact misshape_of_readToken? htoken

/-! ## One entry -/

theorem EntryMisshape.not_isFormed {entry : Value × Value} {misshape : Misshape}
    (hentry : EntryMisshape entry misshape) : ¬ IsFormed entry := by
  rintro ⟨definition, colors, hdefinition, hcolors⟩
  cases hentry with
  | noMapping hnone => exact hnone definition hdefinition
  | noColors hother hnone =>
      cases hother.symm.trans hdefinition
      exact hnone colors hcolors

theorem colorEntries_eq {entry : Value × Value} {definition colors : Value.Entries}
    (hdefinition : entry.2 = .mapping definition)
    (hcolors : Value.lookup definition "colors" = some (.mapping colors)) :
    colorEntries entry.2 = colors := by
  simp [colorEntries, hdefinition, hcolors]

/-- The theme that a formed entry becomes, if it is read. -/
theorem eq_expectedTheme {entry : Value × Value} (hformed : IsFormed entry) {theme : Theme}
    (hread : ofEntry entry = .ok theme) : theme = expectedTheme entry := by
  obtain ⟨definition, colors, hdefinition, hcolors⟩ := hformed
  obtain ⟨name, tokens, hname, htokens, rfl⟩ := (ofEntry_eq_ok_iff hdefinition hcolors _).1 hread
  rw [expectedTheme, colorEntries_eq hdefinition hcolors, eq_display_of_nameOf hname,
    eq_expectedTokens htokens, hdefinition]
  rfl

/-- What stops the reading of a formed entry is a name. -/
theorem misshape_of_isFormed {entry : Value × Value} (hformed : IsFormed entry)
    {misshape : Misshape} (hread : ofEntry entry = .error misshape) :
    misshape = .unwritableName := by
  obtain ⟨definition, colors, hdefinition, hcolors⟩ := hformed
  rcases bind_eq_error_iff.1 hread with hname | ⟨name, -, hrest⟩
  · exact misshape_of_nameOf hname
  · simp only [hdefinition, Value.entries?_mapping, hcolors, Option.bind_some] at hrest
    rcases bind_eq_error_iff.1 hrest with htokens | ⟨tokens, -, hpure⟩
    · exact misshape_of_readTokens htokens
    · cases hpure

theorem exists_entryMisshape {entry : Value × Value} (hformed : ¬ IsFormed entry) :
    ∃ misshape, EntryMisshape entry misshape := by
  by_cases hdefinition : ∃ definition, entry.2 = .mapping definition
  · obtain ⟨definition, hdefinition⟩ := hdefinition
    exact ⟨_, .noColors hdefinition fun colors hcolors =>
      hformed ⟨definition, colors, hdefinition, hcolors⟩⟩
  · exact ⟨_, .noMapping fun definition hmapping => hdefinition ⟨definition, hmapping⟩⟩

/-- An entry whose name has a text and that is not formed is reported with its name. -/
theorem ofEntry_of_entryMisshape {entry : Value × Value} {misshape : Misshape}
    (hentry : EntryMisshape entry misshape) (hkey : entry.1.isWritable = true) :
    ofEntry entry = .error misshape := by
  have hname : nameOf entry.1 = .ok entry.1.display := by simp [nameOf, Value.display?, hkey]
  cases hentry with
  | noMapping hnone =>
      have hentries : entry.2.entries? = none := by
        rw [Option.eq_none_iff_forall_ne_some]
        exact fun definition hsome => hnone definition (Value.entries?_eq_some_iff.1 hsome)
      simp only [ofEntry, hname, hentries]
      rfl
  | @noColors definition hdefinition hcolors =>
      have hentries : (Value.lookup definition "colors").bind Value.entries? = none := by
        rw [Option.eq_none_iff_forall_ne_some]
        intro colors hsome
        obtain ⟨value, hlookup, hvalue⟩ := Option.bind_eq_some_iff.1 hsome
        exact hcolors colors (Value.entries?_eq_some_iff.1 hvalue ▸ hlookup)
      simp only [ofEntry, hname, hdefinition, Value.entries?_mapping, hentries]
      rfl

theorem colorEntries_of_not_isFormed {entry : Value × Value} (hformed : ¬ IsFormed entry) :
    colorEntries entry.2 = [] := by
  unfold colorEntries
  cases hcolors : (entry.2.entries?.bind fun entries => Value.lookup entries "colors").bind
      Value.entries? with
  | none => rfl
  | some colors =>
      obtain ⟨value, hvalue, hmapping⟩ := Option.bind_eq_some_iff.1 hcolors
      obtain ⟨definition, hdefinition, hlookup⟩ := Option.bind_eq_some_iff.1 hvalue
      rw [Value.entries?_eq_some_iff] at hdefinition hmapping
      exact absurd ⟨definition, colors, hdefinition, hmapping ▸ hlookup⟩ hformed

/-- An entry whose names have texts becomes its theme if it is formed, and otherwise is
reported. -/
theorem ofEntry_of_isWritable {entry : Value × Value}
    (hnames : ∀ name ∈ entryNames entry, name.isWritable = true) :
    IsFormed entry ∧ ofEntry entry = .ok (expectedTheme entry) ∨
      ∃ misshape, EntryMisshape entry misshape ∧ ofEntry entry = .error misshape := by
  by_cases hformed : IsFormed entry
  · obtain ⟨definition, colors, hdefinition, hcolors⟩ := id hformed
    rw [entryNames, colorEntries_eq hdefinition hcolors] at hnames
    obtain ⟨theme, htheme⟩ := (exists_ofEntry_iff hdefinition hcolors).2 hnames
    rw [eq_expectedTheme hformed htheme] at htheme
    exact Or.inl ⟨hformed, htheme⟩
  · obtain ⟨misshape, hentry⟩ := exists_entryMisshape hformed
    exact Or.inr ⟨misshape, hentry,
      ofEntry_of_entryMisshape hentry (hnames entry.1 List.mem_cons_self)⟩

/-- An entry with a name without a text stops the reading. -/
theorem ofEntry_of_not_isWritable {entry : Value × Value}
    (hname : ∃ name ∈ entryNames entry, name.isWritable = false) :
    ofEntry entry = .error .unwritableName := by
  obtain ⟨name, hmem, hname⟩ := hname
  by_cases hformed : IsFormed entry
  · cases hread : ofEntry entry with
    | error misshape => rw [misshape_of_isFormed hformed hread]
    | ok theme =>
        obtain ⟨definition, colors, hdefinition, hcolors⟩ := hformed
        rw [entryNames, colorEntries_eq hdefinition hcolors] at hmem
        have hwritable := (exists_ofEntry_iff hdefinition hcolors).1 ⟨theme, hread⟩ name hmem
        rw [hname] at hwritable
        cases hwritable
  · rw [entryNames, colorEntries_of_not_isFormed hformed, List.flatMap_nil,
      List.mem_singleton] at hmem
    subst hmem
    simp only [ofEntry, nameOf, Value.display?, hname]
    rfl

end Palette.Theme
