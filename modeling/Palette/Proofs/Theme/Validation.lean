import Palette.Proofs.Theme.Entry

/-!
# Validating theme data

Reading theme data checks it in a fixed order, and what is wrong first is what is
reported (`FirstMisshape`): the data, its themes, then theme by theme the definition and
its colors.  However many themes are read before and whatever stands behind, the outcome
is this misshape, or else the themes as they are expected, one for each entry.

There is one exception.  A name of which no text may be told stops the reading before
anything behind it is checked (`NamesTold`).  `setOfValue_exact` says what happens in
either case, and in the data of `setOfValue_longName` the first misshape is not reported.

The walk along the entries goes on exactly behind formed ones.  So the outcome is that of
the first entry of another kind (`mapM_ofEntry_cases`).
-/

namespace Palette.Theme

/-- Whether theme data has a mapping of themes with these entries. -/
def Holds (data : Value) (themes : Value.Entries) : Prop :=
  ∃ entries, data = .mapping entries ∧ Value.lookup entries "themes" = some (.mapping themes)

/-- In which way theme data is not of the expected shape.  Among the entries of the themes,
the first one that is not formed counts. -/
inductive FirstMisshape (data : Value) : Misshape → Prop
  | noThemes (hnone : ∀ entries themes, data = .mapping entries →
      Value.lookup entries "themes" = some themes → themes = .null) :
      FirstMisshape data .noThemes
  | themesNoMapping {entries : Value.Entries} {themes : Value} (hdata : data = .mapping entries)
      (hthemes : Value.lookup entries "themes" = some themes) (hnull : themes ≠ .null)
      (hmapping : ∀ inner, themes ≠ .mapping inner) :
      FirstMisshape data (.themesNoMapping themes.kind)
  | ofEntry {themes : Value.Entries} {entry : Value × Value} {misshape : Misshape}
      (hthemes : Holds data themes) (hreached : Reached IsFormed themes entry)
      (hentry : EntryMisshape entry misshape) :
      FirstMisshape data misshape

/-- Whether all names have texts that may be told, up to the first entry of the themes that
is not formed. -/
def NamesTold (data : Value) : Prop :=
  ∀ entry, Reached IsFormed (themeEntries data) entry →
    ∀ name ∈ entryNames entry, name.isWritable = true

/-! ## All themes -/

/-- What the entries of themes come to, by the first entry with a name without a text and the
first entry that is not formed. -/
theorem mapM_ofEntry_cases (themes : Value.Entries) :
    (∃ entry, Reached IsFormed themes entry ∧
        (∃ name ∈ entryNames entry, name.isWritable = false) ∧
        themes.mapM ofEntry = .error .unwritableName) ∨
      (∀ entry, Reached IsFormed themes entry →
        ∀ name ∈ entryNames entry, name.isWritable = true) ∧
      ((∀ entry ∈ themes, IsFormed entry) ∧
          themes.mapM ofEntry = .ok (themes.map expectedTheme) ∨
        ∃ entry misshape, Reached IsFormed themes entry ∧ EntryMisshape entry misshape ∧
          themes.mapM ofEntry = .error misshape) := by
  induction themes with
  | nil =>
      refine Or.inr ⟨fun entry hreached => absurd hreached (not_reached_nil _ entry), Or.inl ?_⟩
      exact ⟨fun entry hmem => absurd hmem List.not_mem_nil, rfl⟩
  | cons head rest ih =>
      simp only [reached_cons_iff]
      by_cases hnames : ∀ name ∈ entryNames head, name.isWritable = true
      · rcases ofEntry_of_isWritable hnames with ⟨hformed, htheme⟩ | ⟨misshape, hentry, hfault⟩
        · -- the head is passed, so the rest decides
          rcases ih with ⟨entry, hreached, hname, hfault⟩ | ⟨htold, ⟨hall, hthemes⟩ |
            ⟨entry, misshape, hreached, hentry, hfault⟩⟩
          · refine Or.inl ⟨entry, Or.inr ⟨hformed, hreached⟩, hname, ?_⟩
            rw [List.mapM_cons, htheme, hfault]
            rfl
          · refine Or.inr ⟨?_, Or.inl ⟨List.forall_mem_cons.2 ⟨hformed, hall⟩, ?_⟩⟩
            · rintro entry (rfl | ⟨-, hreached⟩)
              · exact hnames
              · exact htold entry hreached
            · rw [List.mapM_cons, htheme, hthemes]
              rfl
          · refine Or.inr ⟨?_, Or.inr ⟨entry, misshape, Or.inr ⟨hformed, hreached⟩, hentry, ?_⟩⟩
            · rintro other (rfl | ⟨-, hother⟩)
              · exact hnames
              · exact htold other hother
            · rw [List.mapM_cons, htheme, hfault]
              rfl
        · refine Or.inr ⟨?_, Or.inr ⟨head, misshape, Or.inl rfl, hentry, ?_⟩⟩
          · rintro entry (rfl | ⟨hpass, -⟩)
            · exact hnames
            · exact absurd hpass hentry.not_isFormed
          · rw [List.mapM_cons, hfault]
            rfl
      · have hname : ∃ name ∈ entryNames head, name.isWritable = false := by simpa using hnames
        refine Or.inl ⟨head, Or.inl rfl, hname, ?_⟩
        rw [List.mapM_cons, ofEntry_of_not_isWritable hname]
        rfl

/-! ## Theme data -/

section Data

variable {data : Value} {themes : Value.Entries}

theorem setOfValue_of_holds (hthemes : Holds data themes) :
    setOfValue data = themes.mapM ofEntry := by
  obtain ⟨entries, rfl, hlookup⟩ := hthemes
  simp [setOfValue, hlookup]

theorem themeEntries_of_holds (hthemes : Holds data themes) : themeEntries data = themes := by
  obtain ⟨entries, rfl, hlookup⟩ := hthemes
  simp [themeEntries, hlookup]

theorem hasShape_iff_of_holds (hthemes : Holds data themes) :
    HasShape data ↔ ∀ entry ∈ themes, IsFormed entry := by
  obtain ⟨entries, rfl, hlookup⟩ := hthemes
  constructor
  · rintro ⟨other, found, hdata, hfound, hall⟩
    cases hdata
    cases hfound.symm.trans hlookup
    exact hall
  · exact fun hall => ⟨entries, themes, rfl, hlookup, hall⟩

/-- Theme data holds themes, or is not of the expected shape for that reason. -/
theorem holds_or_firstMisshape (data : Value) :
    (∃ themes, Holds data themes) ∨
      themeEntries data = [] ∧ ∃ misshape, FirstMisshape data misshape := by
  cases hvalue : data.entries?.bind fun entries => Value.lookup entries "themes" with
  | none =>
      refine Or.inr ⟨by simp [themeEntries, hvalue], .noThemes, .noThemes ?_⟩
      rintro entries themes rfl hlookup
      rw [Value.entries?_mapping, Option.bind_some, hlookup] at hvalue
      cases hvalue
  | some value =>
      obtain ⟨entries, hentries, hlookup⟩ := Option.bind_eq_some_iff.1 hvalue
      obtain rfl := Value.entries?_eq_some_iff.1 hentries
      cases hthemes : value.entries? with
      | some themes =>
          rw [Value.entries?_eq_some_iff] at hthemes
          exact Or.inl ⟨themes, entries, rfl, hthemes ▸ hlookup⟩
      | none =>
          refine Or.inr ⟨by simp [themeEntries, hlookup, hthemes], ?_⟩
          by_cases hnull : value = .null
          · refine ⟨.noThemes, .noThemes fun other themes hdata hother => ?_⟩
            cases hdata
            exact (Option.some.inj (hother.symm.trans hlookup)).trans hnull
          · refine ⟨_, .themesNoMapping rfl hlookup hnull ?_⟩
            rintro inner rfl
            cases hthemes

theorem EntryMisshape.unique {entry : Value × Value} {misshape other : Misshape}
    (hentry : EntryMisshape entry misshape) (hother : EntryMisshape entry other) :
    misshape = other := by
  cases hentry with
  | noMapping hnone =>
      cases hother with
      | noMapping => rfl
      | noColors hdefinition => exact absurd hdefinition (hnone _)
  | noColors hdefinition =>
      cases hother with
      | noMapping hnone => exact absurd hdefinition (hnone _)
      | noColors => rfl

/-- The first misshape is reported, if all names before it have texts. -/
theorem setOfValue_of_firstMisshape (htold : NamesTold data) {misshape : Misshape}
    (hfirst : FirstMisshape data misshape) : setOfValue data = .error misshape := by
  cases hfirst with
  | noThemes hnone =>
      unfold setOfValue
      cases hvalue : data.entries?.bind fun entries => Value.lookup entries "themes" with
      | none => rfl
      | some value =>
          obtain ⟨entries, hentries, hlookup⟩ := Option.bind_eq_some_iff.1 hvalue
          rw [hnone entries value (Value.entries?_eq_some_iff.1 hentries) hlookup]
  | @themesNoMapping entries themes hdata hlookup hnull hmapping =>
      have hentries : themes.entries? = none := by
        rw [Option.eq_none_iff_forall_ne_some]
        exact fun inner hsome => hmapping inner (Value.entries?_eq_some_iff.1 hsome)
      subst hdata
      simp [setOfValue, hlookup, hentries]
  | @ofEntry themes entry misshape hthemes hreached hentry =>
      rw [NamesTold, themeEntries_of_holds hthemes] at htold
      rw [setOfValue_of_holds hthemes]
      rcases mapM_ofEntry_cases themes with ⟨other, hother, ⟨name, hmem, hname⟩, -⟩ |
        ⟨-, ⟨hall, -⟩ | ⟨other, found, hother, hfound, hfault⟩⟩
      · rw [htold other hother name hmem] at hname
        cases hname
      · exact absurd (hall entry hreached.mem) hentry.not_isFormed
      · cases hreached.unique hentry.not_isFormed hother hfound.not_isFormed
        rw [hfault, hentry.unique hfound]

/-- What theme data comes to. -/
theorem setOfValue_cases (data : Value) :
    ¬ NamesTold data ∧ setOfValue data = .error .unwritableName ∨
      NamesTold data ∧
        (HasShape data ∧ setOfValue data = .ok ((themeEntries data).map expectedTheme) ∨
          ∃ misshape, FirstMisshape data misshape ∧ setOfValue data = .error misshape) := by
  rcases holds_or_firstMisshape data with ⟨themes, hthemes⟩ | ⟨hnone, misshape, hfirst⟩
  · rw [setOfValue_of_holds hthemes, NamesTold, themeEntries_of_holds hthemes,
      hasShape_iff_of_holds hthemes]
    rcases mapM_ofEntry_cases themes with ⟨entry, hreached, ⟨name, hmem, hname⟩, hfault⟩ |
      ⟨htold, ⟨hall, hread⟩ | ⟨entry, misshape, hreached, hentry, hfault⟩⟩
    · refine Or.inl ⟨fun htold => ?_, hfault⟩
      rw [htold entry hreached name hmem] at hname
      cases hname
    · exact Or.inr ⟨htold, Or.inl ⟨hall, hread⟩⟩
    · exact Or.inr ⟨htold, Or.inr ⟨misshape, .ofEntry hthemes hreached hentry, hfault⟩⟩
  · have htold : NamesTold data := by
      intro entry hreached
      rw [hnone] at hreached
      exact absurd hreached (not_reached_nil _ entry)
    exact Or.inr ⟨htold, Or.inr ⟨misshape, hfirst, setOfValue_of_firstMisshape htold hfirst⟩⟩

/-- A name without a text, up to the first misshape, stops the reading. -/
theorem setOfValue_of_not_namesTold (htold : ¬ NamesTold data) :
    setOfValue data = .error .unwritableName := by
  rcases setOfValue_cases data with ⟨-, hname⟩ | ⟨hother, -⟩
  · exact hname
  · exact absurd hother htold

theorem FirstMisshape.halt_eq {misshape : Misshape} (hfirst : FirstMisshape data misshape) :
    misshape.halt = .fault (.ofStructure misshape.message) := by
  cases hfirst with
  | noThemes => rfl
  | themesNoMapping => rfl
  | ofEntry _ _ hentry => cases hentry <;> rfl

/-- Theme data has a first misshape exactly if it is not of the expected shape. -/
theorem exists_firstMisshape_iff (data : Value) :
    (∃ misshape, FirstMisshape data misshape) ↔ ¬ HasShape data := by
  constructor
  · rintro ⟨misshape, hfirst⟩ ⟨entries, themes, rfl, hlookup, hall⟩
    cases hfirst with
    | noThemes hnone => cases hnone entries _ rfl hlookup
    | themesNoMapping hdata hother _ hmapping =>
        cases hdata
        exact absurd (Option.some.inj (hother.symm.trans hlookup)) (hmapping themes)
    | ofEntry hthemes hreached hentry =>
        obtain ⟨other, hdata, hother⟩ := hthemes
        cases hdata
        cases hother.symm.trans hlookup
        exact hentry.not_isFormed (hall _ hreached.mem)
  · intro hshape
    rcases holds_or_firstMisshape data with ⟨themes, hthemes⟩ | ⟨-, hfirst⟩
    · rw [hasShape_iff_of_holds hthemes] at hshape
      obtain ⟨entry, hreached, hformed⟩ := exists_reached_not hshape
      obtain ⟨misshape, hentry⟩ := exists_entryMisshape hformed
      exact ⟨misshape, .ofEntry hthemes hreached hentry⟩
    · exact hfirst

end Data

/-- Theme data is validated exactly.  If all names up to the first misshape have texts, that
misshape is what is reported, and data without one becomes the expected themes. -/
theorem setOfValue_exact (data : Value) :
    ((∃ misshape, FirstMisshape data misshape) ↔ ¬ HasShape data) ∧
    (∀ misshape, FirstMisshape data misshape →
      misshape.halt = .fault (.ofStructure misshape.message)) ∧
    (NamesTold data →
      (∀ misshape, setOfValue data = .error misshape ↔ FirstMisshape data misshape) ∧
      ∀ themes, setOfValue data = .ok themes ↔
        HasShape data ∧ themes = (themeEntries data).map expectedTheme) ∧
    (¬ NamesTold data ↔ setOfValue data = .error .unwritableName) := by
  refine ⟨exists_firstMisshape_iff data, fun misshape hfirst => hfirst.halt_eq, ?_, ?_⟩
  · intro htold
    refine ⟨fun misshape => ⟨fun hfault => ?_, setOfValue_of_firstMisshape htold⟩, fun themes => ?_⟩
    · rcases setOfValue_cases data with ⟨hnot, -⟩ | ⟨-, ⟨-, hread⟩ | ⟨other, hfirst, hother⟩⟩
      · exact absurd htold hnot
      · rw [hread] at hfault
        cases hfault
      · rw [hother] at hfault
        cases hfault
        exact hfirst
    · rcases setOfValue_cases data with ⟨hnot, -⟩ | ⟨-, ⟨hshape, hread⟩ | ⟨other, hfirst, hother⟩⟩
      · exact absurd htold hnot
      · rw [hread, Except.ok.injEq, eq_comm, and_iff_right hshape]
      · have hshape := (exists_firstMisshape_iff data).1 ⟨other, hfirst⟩
        simp [hother, hshape]
  · rcases setOfValue_cases data with ⟨hnot, hfault⟩ | ⟨htold, ⟨-, hread⟩ | ⟨other, hfirst, hother⟩⟩
    · exact iff_of_true hnot hfault
    · simp [htold, hread]
    · refine iff_of_false (not_not_intro htold) fun hfault => ?_
      rw [hother] at hfault
      cases hfault
      cases hfirst.halt_eq

/-- Theme data with these entries of the themes. -/
def withThemes (themes : Value.Entries) : Value :=
  .mapping [(.text "themes", .mapping themes)]

theorem holds_withThemes (themes : Value.Entries) : Holds (withThemes themes) themes :=
  ⟨_, rfl, rfl⟩

/-- Names that all have texts have them up to the first misshape. -/
theorem namesTold_of_writtenNames {data : Value}
    (hnames : ∀ name ∈ writtenNames data, name.isWritable = true) :
    NamesTold data :=
  fun entry hreached name hmem => hnames name (List.mem_flatMap.2 ⟨entry, hreached.mem, hmem⟩)

/-- An entry with a directive, a token with one color, one with shades and one without. -/
def mixedEntry : Value × Value :=
  (.text "a", .mapping [(.text "colorScheme", .text "dark"), (.text "colors", .mapping
    [(.text "x", .text "red"), (.int 7, .mapping [(.text "1", .text "blue"), (.text "2", .null)]),
      (.text "z", .list [])])])

/-- A formed entry alone becomes its theme.  With two others behind it, the first of them is
reported. -/
theorem setOfValue_mixedEntry :
    setOfValue (withThemes [mixedEntry]) =
      .ok [⟨"a", some "dark", [("x", .flat (.text "red")),
        ("7", .shaded [("1", .text "blue")])]⟩] ∧
    setOfValue (withThemes [mixedEntry, (.text "b", .mapping []), (.text "c", .null)]) =
      .error (.colorsNoMapping "b") := by
  have hformed : IsFormed mixedEntry := ⟨_, _, rfl, rfl⟩
  refine ⟨?_, ?_⟩
  · have htold : NamesTold (withThemes [mixedEntry]) :=
      namesTold_of_writtenNames (by decide +kernel)
    refine (((setOfValue_exact _).2.2.1 htold).2 _).2 ⟨?_, rfl⟩
    rw [hasShape_iff_of_holds (holds_withThemes _), List.forall_mem_singleton]
    exact hformed
  · have htold : NamesTold
        (withThemes [mixedEntry, (.text "b", .mapping []), (.text "c", .null)]) :=
      namesTold_of_writtenNames (by decide +kernel)
    refine (((setOfValue_exact _).2.2.1 htold).1 _).2 (.ofEntry (holds_withThemes _)
      ⟨[mixedEntry], [(.text "c", .null)], rfl, List.forall_mem_singleton.2 hformed⟩
      (.noColors rfl ?_))
    rintro colors hcolors
    cases hcolors

/-- A name of which no text may be told. -/
def longName : Value :=
  .int (Nat.pow 10 Decimal.digitLimit)

theorem isWritable_longName : longName.isWritable = false := by
  decide +kernel

/-- An entry that is formed and has such a name. -/
def longEntry : Value × Value :=
  (longName, .mapping [(.text "colors", .mapping [])])

/-- Behind such a name a theme that is no mapping is not reported. -/
theorem setOfValue_longName :
    FirstMisshape (withThemes [longEntry, (.text "b", .int 5)]) (.themeNoMapping "b") ∧
      setOfValue (withThemes [longEntry, (.text "b", .int 5)]) = .error .unwritableName ∧
      ∀ message, Misshape.unwritableName.halt ≠ .fault (.ofStructure message) := by
  have hformed : IsFormed longEntry := ⟨_, _, rfl, rfl⟩
  refine ⟨.ofEntry (holds_withThemes _)
    ⟨[longEntry], [], rfl, List.forall_mem_singleton.2 hformed⟩ (.noMapping ?_), ?_, ?_⟩
  · intro definition hdefinition
    cases hdefinition
  · rw [setOfValue_of_holds (holds_withThemes _), List.mapM_cons,
      ofEntry_of_not_isWritable ⟨longName, List.mem_cons_self, isWritable_longName⟩]
    rfl
  · intro message hmessage
    cases hmessage

end Palette.Theme
