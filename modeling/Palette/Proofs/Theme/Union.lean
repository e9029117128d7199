import Palette.Proofs.Theme.Compiling
import Palette.Proofs.Theme.Validation

/-!
# The union of theme sets

Compiling theme data whose themes are those of two sets, one set behind the other, comes to
what compiling each of them comes to (`sheetOfValue_union`).  The rules and the warnings of
the first set stand before those of the second.  What is reported is what is reported of
the first set, or else of the second.

There is one exception, and it is the one of validation: a name in the first set of which
no text may be told hides what is wrong with the second (`sheetOfValue_longName`).

The reason is that the block of a theme is a function of its entry alone (`blockOf`).  So
a set that is put into another order has the same blocks, in that order.
-/

namespace Palette.Theme

/-- What compiling the theme of an entry gives. -/
def blockOf (options : Options) (entry : Value × Value) : Except Halt Block :=
  (ofEntry entry).mapError Misshape.halt >>= fun theme =>
    (block options theme).mapError .abort

theorem blockOf_eq_ok_iff (options : Options) (entry : Value × Value) (written : Block) :
    blockOf options entry = .ok written ↔
      ∃ theme, ofEntry entry = .ok theme ∧ block options theme = .ok written := by
  unfold blockOf
  simp only [bind_eq_ok_iff, mapError_eq_ok_iff]

variable {options : Options} {data : Value} {themes : Value.Entries}

/-! ## Blocks -/

/-- Compiling theme data gives the blocks of its themes. -/
theorem sheetOfValue_eq_ok_iff_of_holds (hthemes : Holds data themes) (sheet : Sheet) :
    sheetOfValue options data = .ok sheet ↔
      ∃ blocks, themes.mapM (blockOf options) = .ok blocks ∧ sheet = Sheet.ofBlocks blocks := by
  have hsheet : sheetOfValue options data = .ok sheet ↔
      ∃ read, themes.mapM ofEntry = .ok read ∧ sheetOfThemes options read = .ok sheet := by
    unfold sheetOfValue
    rw [setOfValue_of_holds hthemes]
    cases themes.mapM ofEntry with
    | error misshape => simp
    | ok read => simp [mapError_eq_ok_iff]
  rw [hsheet]
  simp only [sheetOfThemes, map_eq_ok_iff,
    mapM_mapM_eq_ok_iff (blockOf_eq_ok_iff options)]
  constructor
  · rintro ⟨read, hread, blocks, hblocks, rfl⟩
    exact ⟨blocks, ⟨read, hread, hblocks⟩, rfl⟩
  · rintro ⟨blocks, ⟨read, hread, hblocks⟩, rfl⟩
    exact ⟨read, hread, blocks, hblocks, rfl⟩

/-- Only a set without themes gives no block. -/
theorem blocks_eq_nil_iff (hthemes : Holds data themes) {sheet : Sheet}
    (hsheet : sheetOfValue options data = .ok sheet) : sheet.blocks = [] ↔ themes = [] := by
  obtain ⟨blocks, hblocks, rfl⟩ := (sheetOfValue_eq_ok_iff_of_holds hthemes sheet).1 hsheet
  have hlength := (mapM_eq_ok_iff.1 hblocks).length_eq
  simp only [Sheet.ofBlocks, ← List.length_eq_zero_iff, List.length_map, hlength]

/-! ## Faults -/

/-- What is reported of theme data is its misshape. -/
theorem sheetOfValue_eq_fault_iff (fault : Fault) :
    sheetOfValue options data = .error (.fault fault) ↔
      ∃ misshape, setOfValue data = .error misshape ∧ misshape.halt = .fault fault := by
  unfold sheetOfValue
  cases setOfValue data with
  | error misshape => simp
  | ok themes =>
      cases hsheet : sheetOfThemes options themes with
      | error abort => simp [hsheet, Except.mapError]
      | ok sheet => simp [hsheet, Except.mapError]

/-- What is reported is the first misshape. -/
theorem exists_firstMisshape_of_fault {fault : Fault}
    (hfault : sheetOfValue options data = .error (.fault fault)) :
    ∃ misshape, FirstMisshape data misshape ∧ fault = .ofStructure misshape.message := by
  obtain ⟨misshape, hread, hhalt⟩ := (sheetOfValue_eq_fault_iff fault).1 hfault
  rcases setOfValue_cases data with ⟨-, hname⟩ | ⟨-, ⟨-, hthemes⟩ | ⟨other, hfirst, hother⟩⟩
  · rw [hname] at hread
    cases hread
    cases hhalt
  · rw [hthemes] at hread
    cases hread
  · rw [hother] at hread
    cases hread
    rw [hfirst.halt_eq] at hhalt
    exact ⟨misshape, hfirst, (Halt.fault.inj hhalt).symm⟩

/-- Where the names have texts, theme data is read or its misshape is reported. -/
theorem exists_setOfValue_iff_of_namesTold (options : Options) (htold : NamesTold data) :
    (∃ themes, setOfValue data = .ok themes) ↔
      ¬ ∃ fault, sheetOfValue options data = .error (.fault fault) := by
  simp only [sheetOfValue_eq_fault_iff]
  rcases setOfValue_cases data with ⟨hnot, -⟩ | ⟨-, ⟨-, hthemes⟩ | ⟨misshape, hfirst, hmisshape⟩⟩
  · exact absurd htold hnot
  · simp [hthemes]
  · simp [hmisshape, hfirst.halt_eq]

section Union

variable {whole before behind : Value} {first second : Value.Entries}

/-- What is reported of two sets is what is reported of the first one or, if that one is
read, of the second. -/
theorem sheetOfValue_union_eq_fault_iff (options : Options) (hwhole : Holds whole (first ++ second))
    (hbefore : Holds before first) (hbehind : Holds behind second) (fault : Fault) :
    sheetOfValue options whole = .error (.fault fault) ↔
      sheetOfValue options before = .error (.fault fault) ∨
        (∃ themes, setOfValue before = .ok themes) ∧
          sheetOfValue options behind = .error (.fault fault) := by
  simp only [sheetOfValue_eq_fault_iff, setOfValue_of_holds hwhole, setOfValue_of_holds hbefore,
    setOfValue_of_holds hbehind, mapM_append_eq_error_iff]
  constructor
  · rintro ⟨misshape, hfirst | ⟨hread, hsecond⟩, hhalt⟩
    · exact Or.inl ⟨misshape, hfirst, hhalt⟩
    · exact Or.inr ⟨hread, misshape, hsecond, hhalt⟩
  · rintro (⟨misshape, hfirst, hhalt⟩ | ⟨hread, misshape, hsecond, hhalt⟩)
    · exact ⟨misshape, Or.inl hfirst, hhalt⟩
    · exact ⟨misshape, Or.inr ⟨hread, hsecond⟩, hhalt⟩

/-- Something is reported of two sets exactly if something is reported of one of them, unless
a name in the first one hides what is wrong with the second. -/
theorem exists_fault_union_iff (options : Options) (hwhole : Holds whole (first ++ second))
    (hbefore : Holds before first) (hbehind : Holds behind second) :
    ((∃ fault, sheetOfValue options whole = .error (.fault fault)) ↔
        (∃ fault, sheetOfValue options before = .error (.fault fault)) ∨
          ∃ fault, sheetOfValue options behind = .error (.fault fault)) ↔
      NamesTold before ∨ ¬ ∃ fault, sheetOfValue options behind = .error (.fault fault) := by
  simp only [sheetOfValue_union_eq_fault_iff options hwhole hbefore hbehind, exists_or,
    exists_and_left]
  by_cases htold : NamesTold before
  · rw [exists_setOfValue_iff_of_namesTold options htold]
    tauto
  · -- neither the first set nor both are reported: the name stops the reading
    have hname := setOfValue_of_not_namesTold htold
    have hnone : ¬ ∃ fault, sheetOfValue options before = .error (.fault fault) := by
      rintro ⟨fault, hfault⟩
      obtain ⟨misshape, hread, hhalt⟩ := (sheetOfValue_eq_fault_iff fault).1 hfault
      rw [hname] at hread
      cases hread
      cases hhalt
    have hunread : ¬ ∃ themes, setOfValue before = .ok themes := by
      rw [hname]
      rintro ⟨themes, hthemes⟩
      cases hthemes
    simp only [hnone, hunread, htold, false_and, or_false, false_or, false_iff]

/-- The sheet of two sets is that of the first one and then that of the second. -/
theorem sheetOfValue_union_eq_ok_iff (options : Options) (hwhole : Holds whole (first ++ second))
    (hbefore : Holds before first) (hbehind : Holds behind second) (sheet : Sheet) :
    sheetOfValue options whole = .ok sheet ↔
      ∃ earlier later, sheetOfValue options before = .ok earlier ∧
        sheetOfValue options behind = .ok later ∧
        sheet = ⟨earlier.blocks ++ later.blocks, earlier.warnings ++ later.warnings⟩ := by
  simp only [sheetOfValue_eq_ok_iff_of_holds hwhole, sheetOfValue_eq_ok_iff_of_holds hbefore,
    sheetOfValue_eq_ok_iff_of_holds hbehind, mapM_append_eq_ok_iff]
  constructor
  · rintro ⟨_, ⟨earlier, later, hearlier, hlater, rfl⟩, rfl⟩
    refine ⟨_, _, ⟨earlier, hearlier, rfl⟩, ⟨later, hlater, rfl⟩, ?_⟩
    simp [Sheet.ofBlocks]
  · rintro ⟨_, _, ⟨earlier, hearlier, rfl⟩, ⟨later, hlater, rfl⟩, rfl⟩
    refine ⟨_, ⟨earlier, later, hearlier, hlater, rfl⟩, ?_⟩
    simp [Sheet.ofBlocks]

/-- The rules of two sets stand behind each other, with a blank line between them if there
are any of both. -/
theorem text_union (hbefore : Holds before first) (hbehind : Holds behind second)
    {earlier later : Sheet} (hearlier : sheetOfValue options before = .ok earlier)
    (hlater : sheetOfValue options behind = .ok later) (warnings : List String) :
    let text := Sheet.text ⟨earlier.blocks ++ later.blocks, warnings⟩
    (first ≠ [] → second ≠ [] → text = earlier.text ++ "\n\n" ++ later.text) ∧
      (first = [] → text = later.text) ∧ (second = [] → text = earlier.text) := by
  rw [← blocks_eq_nil_iff hbefore hearlier, ne_eq, ← blocks_eq_nil_iff hbefore hearlier, ne_eq,
    ← blocks_eq_nil_iff hbehind hlater]
  refine ⟨fun hfirst hsecond => String.intercalate_append_of_ne_nil hfirst hsecond, ?_, ?_⟩
  · intro hfirst
    simp [Sheet.text, hfirst]
  · intro hsecond
    simp [Sheet.text, hsecond]

/-- Compiling two sets of themes, one behind the other, comes to what compiling each of them
comes to, and the block of a theme is that of its entry alone. -/
theorem sheetOfValue_union (hwhole : Holds whole (first ++ second))
    (hbefore : Holds before first) (hbehind : Holds behind second) (options : Options) :
    (∀ fault, sheetOfValue options whole = .error (.fault fault) →
      ∃ misshape, FirstMisshape whole misshape ∧ fault = .ofStructure misshape.message) ∧
    (NamesTold before → ∀ fault, sheetOfValue options whole = .error (.fault fault) ↔
      sheetOfValue options before = .error (.fault fault) ∨
        (¬ ∃ other, sheetOfValue options before = .error (.fault other)) ∧
          sheetOfValue options behind = .error (.fault fault)) ∧
    (((∃ fault, sheetOfValue options whole = .error (.fault fault)) ↔
        (∃ fault, sheetOfValue options before = .error (.fault fault)) ∨
          ∃ fault, sheetOfValue options behind = .error (.fault fault)) ↔
      NamesTold before ∨ ¬ ∃ fault, sheetOfValue options behind = .error (.fault fault)) ∧
    (∀ sheet, sheetOfValue options whole = .ok sheet ↔
      ∃ earlier later, sheetOfValue options before = .ok earlier ∧
        sheetOfValue options behind = .ok later ∧
        sheet = ⟨earlier.blocks ++ later.blocks, earlier.warnings ++ later.warnings⟩) ∧
    (∀ earlier later sheet, sheetOfValue options before = .ok earlier →
      sheetOfValue options behind = .ok later → sheetOfValue options whole = .ok sheet →
        (first ≠ [] → second ≠ [] → sheet.text = earlier.text ++ "\n\n" ++ later.text) ∧
        (first = [] → sheet.text = later.text) ∧ (second = [] → sheet.text = earlier.text)) ∧
    ∀ other themes, Holds other themes → themes.Perm (first ++ second) →
      ∀ sheet, sheetOfValue options whole = .ok sheet →
        ∃ blocks reordered, (first ++ second).mapM (blockOf options) = .ok blocks ∧
          themes.mapM (blockOf options) = .ok reordered ∧ reordered.Perm blocks ∧
          sheet = Sheet.ofBlocks blocks ∧
          sheetOfValue options other = .ok (Sheet.ofBlocks reordered) := by
  have hfaults := sheetOfValue_union_eq_fault_iff options hwhole hbefore hbehind
  have hsheets := sheetOfValue_union_eq_ok_iff options hwhole hbefore hbehind
  refine ⟨fun fault => exists_firstMisshape_of_fault, ?_, ?_, hsheets, ?_, ?_⟩
  · intro htold fault
    rw [hfaults, exists_setOfValue_iff_of_namesTold options htold]
  · exact exists_fault_union_iff options hwhole hbefore hbehind
  · intro earlier later sheet hearlier hlater hsheet
    obtain ⟨_, _, hbefore', hbehind', rfl⟩ := (hsheets sheet).1 hsheet
    cases hearlier.symm.trans hbefore'
    cases hlater.symm.trans hbehind'
    exact text_union hbefore hbehind hearlier hlater _
  · intro other themes hthemes hperm sheet hsheet
    obtain ⟨blocks, hblocks, rfl⟩ := (sheetOfValue_eq_ok_iff_of_holds hwhole sheet).1 hsheet
    obtain ⟨reordered, hreordered, hblocksPerm⟩ := exists_mapM_of_perm hperm hblocks
    exact ⟨blocks, reordered, hblocks, hreordered, hblocksPerm, rfl,
      (sheetOfValue_eq_ok_iff_of_holds hthemes _).2 ⟨reordered, hreordered, rfl⟩⟩

end Union

/-- A theme of this name with these colors. -/
def plainEntry (name : String) (colors : Value.Entries) : Value × Value :=
  (.text name, .mapping [(.text "colors", .mapping colors)])

/-- Two sets of one theme each, the second one with a color that cannot be read. -/
theorem sheetOfValue_plainEntries :
    ∃ sheet, sheetOfValue {} (withThemes [plainEntry "t" [], plainEntry "u"
        [(.text "a", .text "#12345")]]) = .ok sheet ∧
      sheet.text = ".t \x7b\n\x7d\n\n.u \x7b\n\x7d" ∧
      sheet.warnings = ["Invalid color: #12345 for u.a"] := by
  have hearlier : sheetOfValue {} (withThemes [plainEntry "t" []]) =
      .ok ⟨[".t \x7b\n\x7d"], []⟩ := rfl
  have hlater : sheetOfValue {} (withThemes [plainEntry "u" [(.text "a", .text "#12345")]]) =
      .ok ⟨[".u \x7b\n\x7d"], ["Invalid color: #12345 for u.a"]⟩ := rfl
  obtain ⟨-, -, -, hsheets, htexts, -⟩ := sheetOfValue_union
    (holds_withThemes ([plainEntry "t" []] ++ [plainEntry "u" [(.text "a", .text "#12345")]]))
    (holds_withThemes _) (holds_withThemes _) {}
  have hsheet := (hsheets _).2 ⟨_, _, hearlier, hlater, rfl⟩
  refine ⟨_, hsheet, ?_, rfl⟩
  rw [(htexts _ _ _ hearlier hlater hsheet).1 (List.cons_ne_nil _ _) (List.cons_ne_nil _ _)]
  rfl

/-- What is wrong with a theme is not reported behind a name of which no text may be told. -/
theorem sheetOfValue_longName :
    let mistaken : Value × Value := (.text "b", .int 5)
    sheetOfValue {} (withThemes [mistaken]) =
        .error (.fault (.ofStructure (Misshape.themeNoMapping "b").message)) ∧
      ¬ ((∃ fault, sheetOfValue {} (withThemes ([longEntry] ++ [mistaken])) =
          .error (.fault fault)) ↔
        (∃ fault, sheetOfValue {} (withThemes [longEntry]) = .error (.fault fault)) ∨
          ∃ fault, sheetOfValue {} (withThemes [mistaken]) = .error (.fault fault)) := by
  intro mistaken
  have hmistaken : sheetOfValue {} (withThemes [mistaken]) =
      .error (.fault (.ofStructure (Misshape.themeNoMapping "b").message)) := rfl
  refine ⟨hmistaken, ?_⟩
  rw [exists_fault_union_iff {} (holds_withThemes _) (holds_withThemes _) (holds_withThemes _)]
  rintro (htold | hnone)
  · have hreached : Reached IsFormed [longEntry] longEntry := (reached_cons_iff ..).2 (Or.inl rfl)
    have hwritable := htold longEntry hreached longName List.mem_cons_self
    rw [isWritable_longName] at hwritable
    cases hwritable
  · exact hnone ⟨_, hmistaken⟩

end Palette.Theme
