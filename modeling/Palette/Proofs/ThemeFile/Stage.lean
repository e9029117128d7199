import Palette.Proofs.Text.Utf8
import Palette.Proofs.ThemeFile

/-!
# The stage at which loading a theme file ends

Loading goes through stages, and the first one that fails decides the fault.
`NoContent` lists what keeps a file's bytes from being had, for every format, and `Ends` goes
on with the stages of a text: its bytes, its form and its data.  Each of them gives the whole
fault, with its message and its details.  Some stage is the last (`exists_ends`), and loading
ends as it says (`load?_eq_iff_ends`), so a code tells the stage (`load_firstFailure`).

The text of a file is the one that its bytes are the UTF-8 of (`Text.IsUtf8`), with its line
ends unified (`Text.UnifiesLines`).

A reader that gives up on a text is the one stage that is not reported
(`load_impossibleDate`).
-/

namespace Palette.ThemeFile

variable {files : FileSystem} {path : Path}

/-! ## Before the bytes of a file -/

/-- A file that is not too large is at the path, and can be read. -/
structure HasContent (files : FileSystem) (path : Path) (content : List UInt8) : Prop where
  found : files.find path = .ok (.file content .granted)
  small : content.length ≤ 1048576

/-- The fault of a file that cannot be read, by the failure that says why. -/
def unreadable (path : Path) (reason : String) : Fault :=
  .ofFile .themeFileUnreadable ("Unable to read " ++ path.text ++ ": " ++ reason) (some path) reason

/-- The fault of a file with malformed data. -/
def invalid (path : Path) (reason : String) : Fault :=
  .ofFile .themeFileInvalid ("Invalid theme data in " ++ path.text ++ ": " ++ reason) (some path)
    reason

/-- The fault of a file that is not there. -/
def notFound (path : Path) : Fault :=
  .ofFile .themeFileNotFound ("Theme file not found: " ++ path.text) (some path)
    (PathFault.missing.message path)

/-- No bytes come of the path, and the fault says why.  A file that is too large is not opened,
so it does not matter then whether it could be. -/
inductive NoContent (files : FileSystem) (path : Path) : Fault → Prop
  | missing (hfind : files.find path = .error .missing) : NoContent files path (notFound path)
  | unreached {fault : PathFault} (hfind : files.find path = .error fault)
      (hother : fault ≠ .missing) :
      NoContent files path (unreadable path (fault.message path))
  | oversized {content : List UInt8} {access : Access}
      (hfind : files.find path = .ok (.file content access))
      (hsize : 1048576 < content.length) : NoContent files path (oversized path)
  | directory {entries : List (String × FileNode)}
      (hfind : files.find path = .ok (.directory entries)) :
      NoContent files path (unreadable path (PathFault.isDirectory.message path))
  | barred {content : List UInt8} {access : Access} {fault : PathFault}
      (hfind : files.find path = .ok (.file content access)) (hsize : content.length ≤ 1048576)
      (hbar : access.fault? = some fault) :
      NoContent files path (unreadable path (fault.message path))

theorem exists_noContent_or_hasContent (files : FileSystem) (path : Path) :
    (∃ fault, NoContent files path fault) ∨ ∃ content, HasContent files path content := by
  cases hfind : files.find path with
  | error fault =>
      by_cases hmissing : fault = .missing
      · exact Or.inl ⟨_, .missing (hmissing ▸ hfind)⟩
      · exact Or.inl ⟨_, .unreached hfind hmissing⟩
  | ok node =>
      cases node with
      | directory entries => exact Or.inl ⟨_, .directory hfind⟩
      | file content access =>
          rcases Nat.lt_or_ge 1048576 content.length with hlarge | hsmall
          · exact Or.inl ⟨_, .oversized hfind hlarge⟩
          · cases hbar : access.fault? with
            | some fault => exact Or.inl ⟨_, .barred hfind hsmall hbar⟩
            | none =>
                obtain rfl := Access.fault?_eq_none_iff.1 hbar
                exact Or.inr ⟨content, hfind, hsmall⟩

/-- A file that is not too large comes to be read, whether or not it can be. -/
theorem isRead_of_file {content : List UInt8} {access : Access} {format : ThemeFormat}
    (hfind : files.find path = .ok (.file content access)) (hsize : content.length ≤ 1048576)
    (hformat : format? path = some format) (hplain : path.hasNull = false) :
    IsRead files path format :=
  ⟨hformat, hplain, content.length, by rw [FileSystem.size, hfind]; rfl, hsize⟩

theorem HasContent.isRead {content : List UInt8} {format : ThemeFormat}
    (hcontent : HasContent files path content) (hformat : format? path = some format)
    (hplain : path.hasNull = false) : IsRead files path format :=
  isRead_of_file hcontent.found hcontent.small hformat hplain

theorem HasContent.bytes_eq {content : List UInt8} (hcontent : HasContent files path content) :
    files.bytes path = .ok content := by
  rw [FileSystem.bytes, hcontent.found]
  rfl

/-- Bytes that cannot be had fail a text as they fail a module. -/
theorem read_of_bytes_eq_error {fault : PathFault} (hbytes : files.bytes path = .error fault)
    (format : ThemeFormat) :
    read format files path = .error (.failure (.ofRead path (.system fault))) := by
  have htext : files.text path = .error (.system fault) := by rw [FileSystem.text, hbytes]
  cases format with
  | json => rw [read, htext]; rfl
  | yaml => rw [read, htext]; rfl
  | module => rw [read, hbytes]; rfl

/-- Reading what is there fails with a fault of its own. -/
theorem load?_of_bytes_eq_error {format : ThemeFormat} (hread : IsRead files path format)
    {fault : PathFault} (hbytes : files.bytes path = .error fault) (hother : fault ≠ .missing) :
    load? files path = .error (.fault (unreadable path (fault.message path))) := by
  rw [load?_of_isRead hread, read_of_bytes_eq_error hbytes]
  simp [Except.mapError, Setback.halt, Failure.classify, Failure.ofRead, Failure.orNone,
    ReadFault.message, unreadable, hother]

/-- A path that gives no bytes ends the loading, whatever its format. -/
theorem load?_of_noContent {format : ThemeFormat} (hformat : format? path = some format)
    (hplain : path.hasNull = false) {fault : Fault} (hnot : NoContent files path fault) :
    load? files path = .error (.fault fault) := by
  cases hnot with
  | missing hfind =>
      have hsize : files.size path = .error .missing := by rw [FileSystem.size, hfind]; rfl
      simp [load?, hformat, hplain, hsize, Failure.classify, Failure.ofRead, Failure.orNone,
        ReadFault.message, notFound]
  | @unreached fault hfind hother =>
      have hsize : files.size path = .error fault := by rw [FileSystem.size, hfind]; rfl
      simp [load?, hformat, hplain, hsize, Failure.classify, Failure.ofRead, Failure.orNone,
        ReadFault.message, unreadable, hother]
  | @oversized content _ hfind hlarge =>
      have hsize : files.size path = .ok content.length := by rw [FileSystem.size, hfind]; rfl
      have hover : sizeLimit < content.length := hlarge
      simp [load?, hformat, hplain, hsize, hover]
  | directory hfind =>
      have hread : IsRead files path format :=
        ⟨hformat, hplain, 0, by rw [FileSystem.size, hfind]; rfl, Nat.zero_le _⟩
      have hbytes : files.bytes path = .error .isDirectory := by rw [FileSystem.bytes, hfind]
      exact load?_of_bytes_eq_error hread hbytes (by decide)
  | @barred content access fault hfind hsize hbar =>
      have hbytes : files.bytes path = .error fault := by simp only [FileSystem.bytes, hfind, hbar]
      exact load?_of_bytes_eq_error (isRead_of_file hfind hsize hformat hplain) hbytes
        (Access.ne_missing_of_fault? hbar)

/-! ## The stages of a text -/

/-- The suffixes of files that hold a text, with their formats. -/
def textFormats : List (String × ThemeFormat) :=
  [(".json", .json), (".yaml", .yaml), (".yml", .yaml)]

/-- The text of the file at a path, all of it and with its line ends unified. -/
def HasText (files : FileSystem) (path : Path) (text : List Char) : Prop :=
  ∃ content raw, HasContent files path content ∧ content = raw.flatMap String.utf8EncodeChar ∧
    Text.UnifiesLines raw text

/-- The reader of a format has a value for a text. -/
def Yields (text : List Char) (value : Value) : ThemeFormat → Prop
  | .json => Json.read text = .ok value
  | .yaml => Yaml.read text = .ok value
  | .module => False

/-- The reader of a format says what is wrong with a text. -/
def Refuses (text : List Char) (message : String) : ThemeFormat → Prop
  | .json => ∃ flaw position, Json.read text = .error (.malformed flaw position) ∧
      message = Json.placed flaw.message text position
  | .yaml => Yaml.read text = .error (.malformed message)
  | .module => False

/-- The reader of a format gives up on a text, without a word that is reported. -/
def GivesUp (text : List Char) (abort : Abort) : ThemeFormat → Prop
  | .json => ∃ count, Json.read text = .error (.tooManyDigits count) ∧
      abort = .tooManyDigits count
  | .yaml => Yaml.read text = .error (.impossible abort)
  | .module => False

/-- The stage at which loading a text ends, and how. -/
inductive Ends (files : FileSystem) (path : Path) (format : ThemeFormat) :
    Except Halt Value → Prop
  | noContent {fault : Fault} (hnot : NoContent files path fault) :
      Ends files path format (.error (.fault fault))
  | undecodable {content : List UInt8} {fault : Text.Utf8Fault}
      (hcontent : HasContent files path content)
      (hdecode : Text.decodeUtf8 content = .error fault) :
      Ends files path format (.error (.fault (unreadable path fault.message)))
  | refused {text : List Char} {message : String} (htext : HasText files path text)
      (hrefuses : Refuses text message format) :
      Ends files path format (.error (.fault (invalid path message)))
  | givenUp {text : List Char} {abort : Abort} (htext : HasText files path text)
      (hgives : GivesUp text abort format) : Ends files path format (.error (.abort abort))
  | yielded {text : List Char} {value : Value} (htext : HasText files path text)
      (hyields : Yields text value format) : Ends files path format (.ok value)

theorem mem_textFormats {suffix : String} {format : ThemeFormat}
    (hmem : (suffix, format) ∈ textFormats) :
    ThemeFormat.ofSuffix? suffix = some format ∧ (format = .json ∨ format = .yaml) := by
  simp only [textFormats, List.mem_cons, Prod.mk.injEq, List.not_mem_nil, or_false] at hmem
  rcases hmem with ⟨rfl, rfl⟩ | ⟨rfl, rfl⟩ | ⟨rfl, rfl⟩
  · exact ⟨rfl, Or.inl rfl⟩
  · exact ⟨rfl, Or.inr rfl⟩
  · exact ⟨rfl, Or.inr rfl⟩

section

variable {format : ThemeFormat} {text : List Char} {content : List UInt8}

theorem HasContent.text_eq (hcontent : HasContent files path content) :
    files.text path = ((Text.decodeUtf8 content).map Text.lineFeeds).mapError .undecodable := by
  rw [FileSystem.text, hcontent.bytes_eq]

theorem HasText.text_eq (htext : HasText files path text) : files.text path = .ok text := by
  obtain ⟨content, raw, hcontent, hutf8, hunifies⟩ := htext
  rw [hcontent.text_eq, Text.decodeUtf8_eq_ok_iff.2 hutf8, Text.unifiesLines_iff.1 hunifies]
  rfl

/-- A text is read by the reader of its format. -/
theorem read_of_hasText (htext : HasText files path text)
    (hkind : format = .json ∨ format = .yaml) :
    (∀ value, Yields text value format → read format files path = .ok value) ∧
    (∀ message, Refuses text message format →
      read format files path = .error (.failure (.ofMalformed message))) ∧
    ∀ abort, GivesUp text abort format → read format files path = .error (.abort abort) := by
  rcases hkind with rfl | rfl
  · have hread : read .json files path = readJson text := by rw [read, htext.text_eq]; rfl
    rw [hread]
    refine ⟨fun value hyields => ?_, ?_, ?_⟩
    · rw [readJson, hyields]
    · rintro message ⟨flaw, position, hmalformed, rfl⟩
      rw [readJson, hmalformed]
    · rintro abort ⟨count, hdigits, rfl⟩
      rw [readJson, hdigits]
  · have hread : read .yaml files path = readYaml text := by rw [read, htext.text_eq]; rfl
    rw [hread]
    refine ⟨fun value hyields => ?_, fun message hrefuses => ?_, fun abort hgives => ?_⟩
    · rw [readYaml, hyields]
    · rw [readYaml, hrefuses]
    · rw [readYaml, hgives]

/-- Every text comes to one of the three. -/
theorem yields_or_refuses_or_givesUp (hkind : format = .json ∨ format = .yaml) (text : List Char) :
    (∃ value, Yields text value format) ∨ (∃ message, Refuses text message format) ∨
      ∃ abort, GivesUp text abort format := by
  rcases hkind with rfl | rfl
  · rcases hread : Json.read text with (⟨flaw, position⟩ | count) | value
    · exact Or.inr (Or.inl ⟨_, flaw, position, hread, rfl⟩)
    · exact Or.inr (Or.inr ⟨_, count, hread, rfl⟩)
    · exact Or.inl ⟨value, hread⟩
  · rcases hread : Yaml.read text with (message | abort) | value
    · exact Or.inr (Or.inl ⟨message, hread⟩)
    · exact Or.inr (Or.inr ⟨abort, hread⟩)
    · exact Or.inl ⟨value, hread⟩

/-- Loading ends as the stage says. -/
theorem Ends.load?_eq (hformat : format? path = some format)
    (hkind : format = .json ∨ format = .yaml)
    (hplain : path.hasNull = false) {result : Except Halt Value}
    (hends : Ends files path format result) : load? files path = result := by
  have hload : ∀ {content}, HasContent files path content →
      load? files path = (read format files path).mapError (Setback.halt path) :=
    fun hcontent => load?_of_isRead (hcontent.isRead hformat hplain)
  cases hends with
  | noContent hnot => exact load?_of_noContent hformat hplain hnot
  | undecodable hcontent hdecode =>
      have htext := hcontent.text_eq
      rw [hdecode] at htext
      rw [hload hcontent]
      rcases hkind with rfl | rfl
      · rw [read, htext]
        rfl
      · rw [read, htext]
        rfl
  | refused htext hrefuses =>
      rw [hload htext.choose_spec.choose_spec.1, (read_of_hasText htext hkind).2.1 _ hrefuses]
      rfl
  | givenUp htext hgives =>
      rw [hload htext.choose_spec.choose_spec.1, (read_of_hasText htext hkind).2.2 _ hgives]
      rfl
  | yielded htext hyields =>
      rw [hload htext.choose_spec.choose_spec.1, (read_of_hasText htext hkind).1 _ hyields]
      rfl

/-- Some stage is the last one. -/
theorem exists_ends (files : FileSystem) (path : Path) (hkind : format = .json ∨ format = .yaml) :
    ∃ result, Ends files path format result := by
  rcases exists_noContent_or_hasContent files path with ⟨fault, hnot⟩ | ⟨content, hcontent⟩
  · exact ⟨_, .noContent hnot⟩
  · cases hdecode : Text.decodeUtf8 content with
    | error fault => exact ⟨_, .undecodable hcontent hdecode⟩
    | ok raw =>
        have htext : HasText files path (Text.lineFeeds raw) :=
          ⟨content, raw, hcontent, Text.decodeUtf8_eq_ok_iff.1 hdecode, Text.unifiesLines_iff.2 rfl⟩
        rcases yields_or_refuses_or_givesUp hkind (Text.lineFeeds raw) with
          ⟨value, hyields⟩ | ⟨message, hrefuses⟩ | ⟨abort, hgives⟩
        · exact ⟨_, .yielded htext hyields⟩
        · exact ⟨_, .refused htext hrefuses⟩
        · exact ⟨_, .givenUp htext hgives⟩

theorem load?_eq_iff_ends (hformat : format? path = some format)
    (hkind : format = .json ∨ format = .yaml) (hplain : path.hasNull = false)
    (result : Except Halt Value) :
    load? files path = result ↔ Ends files path format result := by
  refine ⟨fun hload => ?_, Ends.load?_eq hformat hkind hplain⟩
  obtain ⟨other, hends⟩ := exists_ends files path hkind
  rwa [← hload, hends.load?_eq hformat hkind hplain]

end

/-! ## What a code tells -/

/-- A fault with this code ends the loading. -/
def Reports (files : FileSystem) (path : Path) (code : FaultCode) : Prop :=
  ∃ fault, (load files path).2 = .error (.fault fault) ∧ fault.code = some code

/-- A fault in loading the file at a path. -/
def IsLoadFault (path : Path) (fault : Fault) : Prop :=
  fault.kind = .load ∧ fault.path = some path

theorem NoContent.isLoadFault {fault : Fault} (hnot : NoContent files path fault) :
    IsLoadFault path fault := by
  cases hnot with
  | missing => exact ⟨rfl, rfl⟩
  | unreached => exact ⟨rfl, rfl⟩
  | oversized => exact ⟨rfl, rfl⟩
  | directory => exact ⟨rfl, rfl⟩
  | barred => exact ⟨rfl, rfl⟩

theorem exists_noContent_notFound_iff :
    (∃ fault, NoContent files path fault ∧ fault.code = some .themeFileNotFound) ↔
      files.find path = .error .missing := by
  constructor
  · rintro ⟨fault, hnot, hcode⟩
    cases hnot with
    | missing hfind => exact hfind
    | unreached => cases hcode
    | oversized => cases hcode
    | directory => cases hcode
    | barred => cases hcode
  · intro hfind
    exact ⟨_, .missing hfind, rfl⟩

theorem exists_noContent_unreadable_iff :
    (∃ fault, NoContent files path fault ∧ fault.code = some .themeFileUnreadable) ↔
      (∃ fault, files.find path = .error fault ∧ fault ≠ .missing) ∨
        (∃ entries, files.find path = .ok (.directory entries)) ∨
        ∃ content access, files.find path = .ok (.file content access) ∧
          (1048576 < content.length ∨ access ≠ .granted) := by
  constructor
  · rintro ⟨fault, hnot, hcode⟩
    cases hnot with
    | missing => cases hcode
    | unreached hfind hother => exact Or.inl ⟨_, hfind, hother⟩
    | oversized hfind hlarge => exact Or.inr (Or.inr ⟨_, _, hfind, Or.inl hlarge⟩)
    | directory hfind => exact Or.inr (Or.inl ⟨_, hfind⟩)
    | barred hfind _ hbar =>
        refine Or.inr (Or.inr ⟨_, _, hfind, Or.inr ?_⟩)
        rintro rfl
        cases hbar
  · rintro (⟨fault, hfind, hother⟩ | ⟨entries, hfind⟩ | ⟨content, access, hfind, hfile⟩)
    · exact ⟨_, .unreached hfind hother, rfl⟩
    · exact ⟨_, .directory hfind, rfl⟩
    · -- of a file that is too large, it does not matter whether it can be read
      rcases Nat.lt_or_ge 1048576 content.length with hlarge | hsmall
      · exact ⟨_, .oversized hfind hlarge, rfl⟩
      · have hbarred : access.fault? ≠ none :=
          fun hnone => hfile.resolve_left (Nat.not_lt.2 hsmall) (Access.fault?_eq_none_iff.1 hnone)
        obtain ⟨fault, hbar⟩ := Option.ne_none_iff_exists'.1 hbarred
        exact ⟨_, .barred hfind hsmall hbar, rfl⟩

section

variable {format : ThemeFormat}

theorem exists_ends_notFound_iff :
    (∃ fault, Ends files path format (.error (.fault fault)) ∧
        fault.code = some .themeFileNotFound) ↔
      files.find path = .error .missing := by
  rw [← exists_noContent_notFound_iff]
  constructor
  · rintro ⟨fault, hends, hcode⟩
    cases hends with
    | noContent hnot => exact ⟨fault, hnot, hcode⟩
    | undecodable => cases hcode
    | refused => cases hcode
  · rintro ⟨fault, hnot, hcode⟩
    exact ⟨fault, .noContent hnot, hcode⟩

theorem exists_ends_unreadable_iff :
    (∃ fault, Ends files path format (.error (.fault fault)) ∧
        fault.code = some .themeFileUnreadable) ↔
      (∃ fault, files.find path = .error fault ∧ fault ≠ .missing) ∨
        (∃ entries, files.find path = .ok (.directory entries)) ∨
        ∃ content access, files.find path = .ok (.file content access) ∧
          (1048576 < content.length ∨ access ≠ .granted ∨ ¬ Text.IsUtf8 content) := by
  constructor
  · rintro ⟨fault, hends, hcode⟩
    cases hends with
    | noContent hnot =>
        rcases exists_noContent_unreadable_iff.1 ⟨fault, hnot, hcode⟩ with
          hunreached | hdirectory | ⟨content, access, hfind, hlarge | hbarred⟩
        · exact Or.inl hunreached
        · exact Or.inr (Or.inl hdirectory)
        · exact Or.inr (Or.inr ⟨content, access, hfind, Or.inl hlarge⟩)
        · exact Or.inr (Or.inr ⟨content, access, hfind, Or.inr (Or.inl hbarred)⟩)
    | undecodable hcontent hdecode =>
        have hnoText := Text.exists_decodeUtf8_eq_error_iff.1 ⟨_, hdecode⟩
        exact Or.inr (Or.inr ⟨_, _, hcontent.found, Or.inr (Or.inr hnoText)⟩)
    | refused => cases hcode
  · intro hstate
    by_cases hnone : ∃ fault, NoContent files path fault ∧ fault.code = some .themeFileUnreadable
    · obtain ⟨fault, hnot, hcode⟩ := hnone
      exact ⟨fault, .noContent hnot, hcode⟩
    · -- the bytes can be had, so it is they that are no text
      rw [exists_noContent_unreadable_iff, not_or, not_or] at hnone
      obtain ⟨hreached, hfile, hopen⟩ := hnone
      obtain ⟨content, access, hfind, hstate⟩ :=
        (hstate.resolve_left hreached).resolve_left hfile
      have hsmall : ¬ 1048576 < content.length :=
        fun hlarge => hopen ⟨content, access, hfind, Or.inl hlarge⟩
      have hgranted : ¬ access ≠ .granted :=
        fun hbarred => hopen ⟨content, access, hfind, Or.inr hbarred⟩
      obtain ⟨fault, hdecode⟩ := Text.exists_decodeUtf8_eq_error_iff.2
        ((hstate.resolve_left hsmall).resolve_left hgranted)
      obtain rfl := not_not.1 hgranted
      exact ⟨_, .undecodable ⟨hfind, Nat.not_lt.1 hsmall⟩ hdecode, rfl⟩

theorem exists_ends_invalid_iff :
    (∃ fault, Ends files path format (.error (.fault fault)) ∧
        fault.code = some .themeFileInvalid) ↔
      ∃ text message, HasText files path text ∧ Refuses text message format := by
  constructor
  · rintro ⟨fault, hends, hcode⟩
    cases hends with
    | noContent hnot =>
        cases hnot with
        | missing => cases hcode
        | unreached => cases hcode
        | oversized => cases hcode
        | directory => cases hcode
        | barred => cases hcode
    | undecodable => cases hcode
    | refused htext hrefuses => exact ⟨_, _, htext, hrefuses⟩
  · rintro ⟨text, message, htext, hrefuses⟩
    exact ⟨_, .refused htext hrefuses, rfl⟩

theorem ends_ok_iff (value : Value) :
    Ends files path format (.ok value) ↔
      ∃ text, HasText files path text ∧ Yields text value format := by
  constructor
  · intro hends
    cases hends with
    | yielded htext hyields => exact ⟨_, htext, hyields⟩
  · rintro ⟨text, htext, hyields⟩
    exact .yielded htext hyields

theorem ends_abort_iff (abort : Abort) :
    Ends files path format (.error (.abort abort)) ↔
      ∃ text, HasText files path text ∧ GivesUp text abort format := by
  constructor
  · intro hends
    cases hends with
    | givenUp htext hgives => exact ⟨_, htext, hgives⟩
  · rintro ⟨text, htext, hgives⟩
    exact .givenUp htext hgives

theorem Ends.isLoadFault {fault : Fault} (hends : Ends files path format (.error (.fault fault))) :
    IsLoadFault path fault := by
  cases hends with
  | noContent hnot => exact hnot.isLoadFault
  | undecodable => exact ⟨rfl, rfl⟩
  | refused => exact ⟨rfl, rfl⟩

end

/-- A file is loaded with a note of it, and nothing else is noted. -/
theorem mem_fst_load_iff (files : FileSystem) (path : Path) (note : Note) :
    note ∈ (load files path).1 ↔
      note = .loaded path ∧ ∃ value, (load files path).2 = .ok value := by
  rw [fst_load, snd_load]
  cases load? files path with
  | error halt => simp [Except.toOption]
  | ok value => simp [Except.toOption]

/-- The first stage that fails decides the code, and the codes tell which one that is.  What
is reported is a fault of the file at the path, and everything is reported unless the reader
of the format gives up on the text. -/
theorem load_firstFailure (files : FileSystem) {path : Path} (hplain : path.hasNull = false) :
    (suffix path ∉ [".json", ".yaml", ".yml", ".py"] →
      ∃ fault, (load files path).2 = .error (.fault fault) ∧ IsLoadFault path fault ∧
        fault.code = some .themeFileUnsupported) ∧
    (∀ format, (suffix path, format) ∈ textFormats →
      (Reports files path .themeFileNotFound ↔ files.find path = .error .missing) ∧
      (Reports files path .themeFileUnreadable ↔
        (∃ fault, files.find path = .error fault ∧ fault ≠ .missing) ∨
        (∃ entries, files.find path = .ok (.directory entries)) ∨
        ∃ content access, files.find path = .ok (.file content access) ∧
          (1048576 < content.length ∨ access ≠ .granted ∨ ¬ Text.IsUtf8 content)) ∧
      (Reports files path .themeFileInvalid ↔
        ∃ text message, HasText files path text ∧ Refuses text message format) ∧
      (∀ value, (load files path).2 = .ok value ↔
        ∃ text, HasText files path text ∧ Yields text value format) ∧
      ((∀ halt, (load files path).2 = .error halt →
          ∃ fault, halt = .fault fault ∧ IsLoadFault path fault) ↔
        ¬ ∃ text abort, HasText files path text ∧ GivesUp text abort format)) ∧
    ∀ note, note ∈ (load files path).1 ↔
      note = .loaded path ∧ ∃ value, (load files path).2 = .ok value := by
  refine ⟨fun hsuffix => ?_, fun format hmem => ?_, mem_fst_load_iff files path⟩
  · have hformat : format? path = none := by
      unfold format? ThemeFormat.ofSuffix?
      split
      · rename_i hjson; exact absurd (by simp [hjson]) hsuffix
      · rename_i hyaml; exact absurd (by simp [hyaml]) hsuffix
      · rename_i hyml; exact absurd (by simp [hyml]) hsuffix
      · rename_i hpy; exact absurd (by simp [hpy]) hsuffix
      · rfl
    rw [snd_load, load?_of_format?_eq_none hformat]
    exact ⟨_, rfl, ⟨rfl, rfl⟩, rfl⟩
  · obtain ⟨hformat, hkind⟩ := mem_textFormats hmem
    have hends := @load?_eq_iff_ends files path format hformat hkind hplain
    simp only [Reports, snd_load, hends]
    refine ⟨exists_ends_notFound_iff, exists_ends_unreadable_iff, exists_ends_invalid_iff,
      ends_ok_iff, ?_⟩
    constructor
    · rintro hreported ⟨text, abort, htext, hgives⟩
      obtain ⟨fault, hfault, -⟩ := hreported _ (.givenUp htext hgives)
      cases hfault
    · intro hnone halt hstage
      cases halt with
      | fault fault => exact ⟨fault, rfl, hstage.isLoadFault⟩
      | abort abort =>
          obtain ⟨text, htext, hgives⟩ := (ends_abort_iff abort).1 hstage
          exact absurd ⟨text, abort, htext, hgives⟩ hnone

/-- The abort that a loading comes to, if it comes to one. -/
def abort? : Except Halt Value → Option Abort
  | .error (.abort abort) => some abort
  | _ => none

theorem eq_of_abort?_eq_some {result : Except Halt Value} {abort : Abort}
    (habort : abort? result = some abort) : result = .error (.abort abort) := by
  unfold abort? at habort
  split at habort
  · rw [Option.some.inj habort]
  · cases habort

/-- The bytes of an ASCII text. -/
def asciiBytes (text : String) : List UInt8 :=
  text.toList.map fun character => UInt8.ofNat character.toNat

/-- A tree with one file, whose text is ASCII. -/
def fileWith (name text : String) : FileSystem :=
  ⟨.directory [(name, .file (asciiBytes text) .granted)], .ofText "/"⟩

/-- A tree with one file, with a date in a thirteenth month. -/
def datedFile : FileSystem := fileWith "t.yaml" "2001-13-45"

/-- A tree with a file that may not be opened, one that cannot be read, and no other one. -/
def barredFiles : FileSystem :=
  ⟨.directory [("b.json", .file (asciiBytes "\x7b\x7d") .denied),
    ("c.yml", .file (asciiBytes "\x7b\x7d") .failing)], .ofText "/"⟩

/-- A file that is not there and files that are, but cannot be read, are reported as such, and
nothing is noted. -/
theorem load_barredFiles :
    ((Path.ofText "a.json").hasNull = false ∧
      Reports barredFiles (.ofText "a.json") .themeFileNotFound) ∧
    ((Path.ofText "b.json").hasNull = false ∧
      Reports barredFiles (.ofText "b.json") .themeFileUnreadable) ∧
    (Path.ofText "c.yml").hasNull = false ∧
      Reports barredFiles (.ofText "c.yml") .themeFileUnreadable ∧
      ∀ note, note ∉ (load barredFiles (.ofText "c.yml")).1 := by
  have habsent : (Path.ofText "a.json").hasNull = false := by decide
  have hdenied : (Path.ofText "b.json").hasNull = false := by decide
  have hfailing : (Path.ofText "c.yml").hasNull = false := by decide
  obtain ⟨-, hfinding, -⟩ := load_firstFailure barredFiles habsent
  obtain ⟨hmissing, -⟩ := hfinding .json (by decide)
  obtain ⟨-, hopening, -⟩ := load_firstFailure barredFiles hdenied
  obtain ⟨-, hclosed, -⟩ := hopening .json (by decide)
  obtain ⟨-, hreading, hnotes⟩ := load_firstFailure barredFiles hfailing
  obtain ⟨-, hbroken, -⟩ := hreading .yaml (by decide)
  have hreports := hbroken.2 (Or.inr (Or.inr ⟨_, .failing, by rfl, Or.inr (Or.inl (by decide))⟩))
  refine ⟨⟨habsent, hmissing.2 (by rfl)⟩,
    ⟨hdenied, hclosed.2 (Or.inr (Or.inr ⟨_, .denied, by rfl, Or.inr (Or.inl (by decide))⟩))⟩,
    hfailing, hreports, fun note hnote => ?_⟩
  obtain ⟨-, value, hvalue⟩ := (hnotes note).1 hnote
  obtain ⟨fault, hfault, -⟩ := hreports
  rw [hfault] at hvalue
  cases hvalue

/-- A date that there is not is not reported: the text is there, but its reader gives up. -/
theorem load_impossibleDate :
    (load datedFile (.ofText "t.yaml")).2 = .error (.abort (.impossibleDate .month)) ∧
      ¬ ∀ halt, (load datedFile (.ofText "t.yaml")).2 = .error halt →
        ∃ fault, halt = .fault fault ∧ IsLoadFault (.ofText "t.yaml") fault := by
  have hload : (load datedFile (.ofText "t.yaml")).2 =
      .error (.abort (.impossibleDate .month)) :=
    eq_of_abort?_eq_some (by decide +kernel)
  refine ⟨hload, fun hreported => ?_⟩
  obtain ⟨fault, hfault, -⟩ := hreported _ hload
  cases hfault

end Palette.ThemeFile
