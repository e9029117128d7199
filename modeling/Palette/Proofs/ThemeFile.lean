import Palette.Proofs.Stylesheet.Expansion
import Palette.Proofs.Theme.Compiling
import Palette.ThemeFile

/-!
# Which theme files abort

Most ways in which a theme file is no theme file are reported as a fault.  This file
lists the others: those in loading it (`AbortsLoading`), where a path has a null
character or a reader gives up on the text, and those in compiling what was loaded, a
name without a text and a color of short digits with a line feed behind them.  The list
is complete (`exists_compileFile_abort_iff`).
-/

namespace Palette.ThemeFile

/-- The file at a path is read in a format: no earlier stage of loading refuses it. -/
structure IsRead (files : FileSystem) (path : Path) (format : ThemeFormat) : Prop where
  suffix : format? path = some format
  plain : path.hasNull = false
  small : ∃ size, files.size path = .ok size ∧ size ≤ sizeLimit

/-- Loading the file at a path stops without a report. -/
inductive AbortsLoading (files : FileSystem) (path : Path) : Prop
  | nullInPath {format : ThemeFormat} (hformat : format? path = some format)
      (hnull : path.hasNull = true) : AbortsLoading files path
  /-- An integer of a JSON text has more digits than are read. -/
  | tooManyDigits {characters : List Char} {count : Nat} (hread : IsRead files path .json)
      (htext : files.text path = .ok characters)
      (hdigits : Json.read characters = .error (.tooManyDigits count)) : AbortsLoading files path
  /-- A scalar of a YAML text has the form of a value that there is not. -/
  | impossible {characters : List Char} {abort : Abort} (hread : IsRead files path .yaml)
      (htext : files.text path = .ok characters)
      (himpossible : Yaml.read characters = .error (.impossible abort)) : AbortsLoading files path
  /-- A module raises what is not caught, or exports what cannot be exported. -/
  | raised {content : List UInt8} {abort : Abort} (hread : IsRead files path .module)
      (hbytes : files.bytes path = .ok content)
      (hraised : Script.readBytes content = .error (.abort abort)) : AbortsLoading files path

/-! ## Loading -/

theorem readJson_eq_abort_iff (characters : List Char) (abort : Abort) :
    readJson characters = .error (.abort abort) ↔
      ∃ count, Json.read characters = .error (.tooManyDigits count) ∧
        abort = .tooManyDigits count := by
  unfold readJson
  rcases Json.read characters with (⟨flaw, position⟩ | count) | value <;> simp [eq_comm]

theorem readYaml_eq_abort_iff (characters : List Char) (abort : Abort) :
    readYaml characters = .error (.abort abort) ↔
      Yaml.read characters = .error (.impossible abort) := by
  unfold readYaml
  rcases Yaml.read characters with (problem | other) | value <;> simp

/-- Of a file that is read, only its text can abort the loading. -/
theorem read_eq_abort_iff (format : ThemeFormat) (files : FileSystem) (path : Path)
    (abort : Abort) :
    read format files path = .error (.abort abort) ↔
      match format with
      | .json => ∃ characters, files.text path = .ok characters ∧
          readJson characters = .error (.abort abort)
      | .yaml => ∃ characters, files.text path = .ok characters ∧
          readYaml characters = .error (.abort abort)
      | .module => ∃ content, files.bytes path = .ok content ∧
          Script.readBytes content = .error (.abort abort) := by
  cases format with
  | json =>
      rw [read, bind_eq_error_iff]
      rcases files.text path with fault | characters <;> simp [Except.mapError]
  | yaml =>
      rw [read, bind_eq_error_iff]
      rcases files.text path with fault | characters <;> simp [Except.mapError]
  | module =>
      rw [read, bind_eq_error_iff]
      rcases files.bytes path with fault | content <;> simp [Except.mapError]

theorem mapError_halt_eq_abort_iff (path : Path) (result : Except Setback Value) (abort : Abort) :
    result.mapError (Setback.halt path) = .error (.abort abort) ↔
      result = .error (.abort abort) := by
  rcases result with (failure | other) | value <;> simp [Except.mapError, Setback.halt]

theorem load_of_load?_eq_ok {files : FileSystem} {path : Path} {value : Value}
    (hload : load? files path = .ok value) : load files path = ([.loaded path], .ok value) :=
  Prod.ext (by rw [fst_load, hload]; rfl) (by rw [snd_load, hload])

theorem load_of_load?_eq_error {files : FileSystem} {path : Path} {halt : Halt}
    (hload : load? files path = .error halt) : load files path = ([], .error halt) :=
  Prod.ext (by rw [fst_load, hload]; rfl) (by rw [snd_load, hload])

theorem load?_of_isRead {files : FileSystem} {path : Path} {format : ThemeFormat}
    (hread : IsRead files path format) :
    load? files path = (read format files path).mapError (Setback.halt path) := by
  obtain ⟨size, hsize, hlimit⟩ := hread.small
  simp [load?, hread.suffix, hread.plain, hsize, Nat.not_lt.2 hlimit]

/-- Only a null character and a file that is read can abort the loading. -/
theorem load?_eq_abort_iff (files : FileSystem) (path : Path) (abort : Abort) :
    load? files path = .error (.abort abort) ↔
      (abort = .nullInPath ∧ path.hasNull = true ∧ ∃ format, format? path = some format) ∨
        ∃ format, IsRead files path format ∧
          read format files path = .error (.abort abort) := by
  constructor
  · intro habort
    unfold load? at habort
    split at habort
    · cases habort
    · rename_i format hformat
      split at habort
      · rename_i hnull
        cases habort
        exact Or.inl ⟨rfl, hnull, format, hformat⟩
      · rename_i hnull
        split at habort
        · cases habort
        · rename_i size hsize
          split at habort
          · cases habort
          · rename_i hlimit
            exact Or.inr ⟨format, ⟨hformat, by simpa using hnull, size, hsize, by omega⟩,
              (mapError_halt_eq_abort_iff ..).1 habort⟩
  · rintro (⟨rfl, hnull, format, hformat⟩ | ⟨format, hread, habort⟩)
    · simp [load?, hformat, hnull]
    · rw [load?_of_isRead hread, mapError_halt_eq_abort_iff]
      exact habort

/-- The ways in which loading aborts, and no others. -/
theorem exists_load?_abort_iff (files : FileSystem) (path : Path) :
    (∃ abort, load? files path = .error (.abort abort)) ↔ AbortsLoading files path := by
  simp only [load?_eq_abort_iff]
  constructor
  · rintro ⟨abort, ⟨-, hnull, format, hformat⟩ | ⟨format, hread, habort⟩⟩
    · exact .nullInPath hformat hnull
    · rw [read_eq_abort_iff] at habort
      cases format with
      | json =>
          obtain ⟨characters, htext, habort⟩ := habort
          obtain ⟨count, hdigits, -⟩ := (readJson_eq_abort_iff ..).1 habort
          exact .tooManyDigits hread htext hdigits
      | yaml =>
          obtain ⟨characters, htext, habort⟩ := habort
          exact .impossible hread htext ((readYaml_eq_abort_iff ..).1 habort)
      | module =>
          obtain ⟨content, hbytes, hraised⟩ := habort
          exact .raised hread hbytes hraised
  · intro haborts
    cases haborts with
    | nullInPath hformat hnull => exact ⟨_, Or.inl ⟨rfl, hnull, _, hformat⟩⟩
    | tooManyDigits hread htext hdigits =>
        exact ⟨_, Or.inr ⟨_, hread, (read_eq_abort_iff ..).2
          ⟨_, htext, (readJson_eq_abort_iff ..).2 ⟨_, hdigits, rfl⟩⟩⟩⟩
    | impossible hread htext himpossible =>
        exact ⟨_, Or.inr ⟨_, hread, (read_eq_abort_iff ..).2
          ⟨_, htext, (readYaml_eq_abort_iff ..).2 himpossible⟩⟩⟩
    | raised hread hbytes hraised =>
        exact ⟨_, Or.inr ⟨_, hread, (read_eq_abort_iff ..).2 ⟨_, hbytes, hraised⟩⟩⟩

/-! ## Compiling what was loaded -/

/-- Neither a sheet nor a fault comes of the file at a path. -/
inductive Unreported (files : FileSystem) (path : Path) : Prop
  | loading (haborts : AbortsLoading files path) : Unreported files path
  /-- A name that is read has no text that can be told. -/
  | unwritableName {data : Value} (hload : load? files path = .ok data)
      (hname : Theme.setOfValue data = .error .unwritableName) : Unreported files path
  /-- A color is short digits with a line feed behind them. -/
  | shortDigits {data : Value} {themes : List Theme} {text : String}
      (hload : load? files path = .ok data) (hthemes : Theme.setOfValue data = .ok themes)
      (hmem : text ∈ Theme.writtenColors data) (htext : Color.ShortDigits text) :
      Unreported files path

/-- The ways in which a theme file aborts, and no others. -/
theorem exists_compileFile_abort_iff (files : FileSystem) (options : Options) (path : Path) :
    (∃ abort, (Stylesheet.compileFile (load files) options path).2 = .error (.abort abort)) ↔
      Unreported files path := by
  simp only [Stylesheet.snd_compileFile, bind_eq_error_iff, snd_load]
  constructor
  -- either loading stops, or compiling what was loaded does
  · rintro ⟨abort, hload | ⟨data, hload, hsheet⟩⟩
    · exact .loading ((exists_load?_abort_iff ..).1 ⟨abort, hload⟩)
    · rcases (Theme.sheetOfValue_eq_abort_iff options data).1 ⟨abort, hsheet⟩ with
        hname | ⟨⟨themes, hthemes⟩, text, hmem, htext⟩
      · exact .unwritableName hload hname
      · exact .shortDigits hload hthemes hmem htext
  · intro hunreported
    cases hunreported with
    | loading haborts =>
        obtain ⟨abort, hload⟩ := (exists_load?_abort_iff ..).2 haborts
        exact ⟨abort, Or.inl hload⟩
    | unwritableName hload hname =>
        obtain ⟨abort, hsheet⟩ :=
          (Theme.sheetOfValue_eq_abort_iff options _).2 (Or.inl hname)
        exact ⟨abort, Or.inr ⟨_, hload, hsheet⟩⟩
    | shortDigits hload hthemes hmem htext =>
        obtain ⟨abort, hsheet⟩ :=
          (Theme.sheetOfValue_eq_abort_iff options _).2 (Or.inr ⟨⟨_, hthemes⟩, _, hmem, htext⟩)
        exact ⟨abort, Or.inr ⟨_, hload, hsheet⟩⟩

end Palette.ThemeFile
