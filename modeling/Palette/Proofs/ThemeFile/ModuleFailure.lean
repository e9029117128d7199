import Palette.Proofs.ThemeFile.Stage

/-!
# Failures that a module raises

A module is run while its file is loaded, and what it raises is classified in the same way
as a failure to read the file, by its class alone.  So a failure of the module that is a
system failure, or one of a coding, is reported as one of the file (`load_raised`), although
the file is there and was read (`load_searchingModule`).  Every other failure whose message
can be told is reported under a code of its own.

`Script.Raises` says what a module raises.  From a run that it stops, no other code than
that of the failure's cause can come (`reports_module_iff`).
-/

namespace Palette.Script

/-- Running the source of a module ends in a raised failure. -/
def Raises (content : List UInt8) (raised : Raised) : Prop :=
  ∃ characters statements, sourceOf content = .ok characters ∧
    statements? characters = some statements ∧ run [] statements = .error raised

/-- A raised failure that is reported: a module may keep it to itself, and its message can
be told. -/
def Raised.IsTold (raised : Raised) : Prop :=
  raised.className ∉ finalClasses ∧ ∃ message, raised.message? = some message

/-- The failure that running the source of a module ends in, if it ends in one. -/
def raisedBy? (content : List UInt8) : Option Raised :=
  match sourceOf content with
  | .error _ => none
  | .ok characters =>
    match statements? characters with
    | none => none
    | some statements =>
      match run [] statements with
      | .error raised => some raised
      | .ok _ => none

variable {content : List UInt8} {raised : Raised}

theorem raises_of_raisedBy? (hraised : raisedBy? content = some raised) :
    Raises content raised := by
  unfold raisedBy? at hraised
  split at hraised
  · cases hraised
  · rename_i characters hsource
    split at hraised
    · cases hraised
    · rename_i statements hstatements
      split at hraised
      · rename_i hrun
        cases hraised
        exact ⟨characters, statements, hsource, hstatements, hrun⟩
      · cases hraised

/-- What is known of the failure that a module raises, by running it. -/
theorem exists_raises {className actualClass message : String}
    (hraised : ((raisedBy? content).map fun raised =>
      (raised.className, raised.actualClass, raised.message?)) =
        some (className, actualClass, some message)) :
    ∃ raised, Raises content raised ∧ raised.className = className ∧
      raised.actualClass = actualClass ∧ raised.message? = some message := by
  obtain ⟨raised, hfound, hparts⟩ := Option.map_eq_some_iff.1 hraised
  simp only [Prod.mk.injEq] at hparts
  exact ⟨raised, raises_of_raisedBy? hfound, hparts⟩

theorem Raises.readBytes_eq (hraises : Raises content raised) :
    readBytes content = .error raised.setback := by
  obtain ⟨characters, statements, hsource, hstatements, hrun⟩ := hraises
  have hread : read characters = .error raised.setback := by
    simp only [read, hstatements, hrun]
  simp only [readBytes, hsource, hread]

theorem Raised.setback_eq_failure_iff (failure : Failure) :
    raised.setback = .failure failure ↔
      raised.className ∉ finalClasses ∧
        ∃ message, raised.message? = some message ∧ failure = ⟨raised.cause, message⟩ := by
  unfold Raised.setback Raised.failure
  cases raised.message? with
  | none => simp
  | some message =>
      by_cases hfinal : raised.className ∈ finalClasses
      · simp [hfinal]
      · simp [hfinal, eq_comm]

/-- Data that cannot be read for a failure are malformed, or bytes that are no source, or
the module raised that failure. -/
theorem cause_of_readBytes_eq_failure {failure : Failure}
    (hread : readBytes content = .error (.failure failure)) :
    failure.cause = .malformed ∨ (∃ name, failure.cause = .other name) ∨
      ∃ raised, Raises content raised ∧ raised.setback = .failure failure := by
  unfold readBytes at hread
  split at hread
  · cases hread
    exact Or.inr (Or.inl ⟨_, rfl⟩)
  · cases hread
    exact Or.inl rfl
  · rename_i characters hsource
    unfold read at hread
    split at hread
    · cases hread
      exact Or.inl rfl
    · rename_i statements hstatements
      split at hread
      · rename_i raised hrun
        exact Or.inr (Or.inr ⟨raised, ⟨characters, statements, hsource, hstatements, hrun⟩,
          Except.error.inj hread⟩)
      · rename_i names hrun
        -- a module that ran to its end can only abort
        cases hexported : names.exported with
        | error abort =>
            rw [hexported] at hread
            cases hread
        | ok value =>
            rw [hexported] at hread
            cases hread

theorem Raised.exists_cause_missing_iff :
    (∃ file, raised.cause = .missing file) ↔ raised.actualClass = "FileNotFoundError" := by
  unfold Raised.cause
  dsimp only
  split
  · rename_i hclass
    simp [hclass]
  · rename_i hclass
    split
    · simp [hclass]
    · split <;> simp [hclass]

theorem Raised.cause_eq_unreadable_iff :
    raised.cause = .unreadable ↔ raised.actualClass ≠ "FileNotFoundError" ∧
      (raised.actualClass ∈ systemClasses ∨ raised.actualClass = "UnicodeDecodeError") := by
  unfold Raised.cause
  dsimp only
  split
  · rename_i hclass
    simp [hclass]
  · rename_i hclass
    split
    · rename_i hsystem
      simp [hclass, hsystem]
    · rename_i hsystem
      split <;> simp [hsystem]

end Palette.Script

namespace Palette

/-- The code of the fault that a failure of this cause becomes. -/
def FailureCause.code : FailureCause → FaultCode
  | .missing _ => .themeFileNotFound
  | .unreadable => .themeFileUnreadable
  | .malformed => .themeFileInvalid
  | .other _ => .operationFailed

theorem Failure.code_classify (failure : Failure) (path : Option Path) :
    (failure.classify path).code = some failure.cause.code := by
  unfold classify FailureCause.code
  cases failure.cause <;> rfl

theorem FailureCause.code_eq_notFound_iff (cause : FailureCause) :
    cause.code = .themeFileNotFound ↔ ∃ file, cause = .missing file := by
  cases cause <;> simp [code]

theorem FailureCause.code_eq_unreadable_iff (cause : FailureCause) :
    cause.code = .themeFileUnreadable ↔ cause = .unreadable := by
  cases cause <;> simp [code]

namespace ThemeFile

variable {files : FileSystem} {path : Path} {content : List UInt8} {raised : Script.Raised}

theorem format?_of_module (hsuffix : suffix path = ".py") : format? path = some .module := by
  rw [format?, hsuffix]
  rfl

theorem load?_of_module (hformat : format? path = some .module) (hplain : path.hasNull = false)
    (hcontent : HasContent files path content) :
    load? files path = (Script.readBytes content).mapError (Setback.halt path) := by
  rw [load?_of_isRead (hcontent.isRead hformat hplain), read, hcontent.bytes_eq]
  rfl

/-- The faults of a module's path are those of a path that gives no bytes and those that
reading the bytes as a module comes to. -/
theorem reports_module_iff (hformat : format? path = some .module)
    (hplain : path.hasNull = false) (code : FaultCode) :
    Reports files path code ↔
      (∃ fault, NoContent files path fault ∧ fault.code = some code) ∨
        ∃ content failure, HasContent files path content ∧
          Script.readBytes content = .error (.failure failure) ∧ failure.cause.code = code := by
  constructor
  · rintro ⟨fault, hload, hcode⟩
    rw [snd_load] at hload
    rcases exists_noContent_or_hasContent files path with ⟨other, hnot⟩ | ⟨content, hcontent⟩
    · rw [load?_of_noContent hformat hplain hnot] at hload
      cases hload
      exact Or.inl ⟨fault, hnot, hcode⟩
    · rw [load?_of_module hformat hplain hcontent] at hload
      cases hread : Script.readBytes content with
      | ok value =>
          rw [hread] at hload
          cases hload
      | error setback =>
          rw [hread] at hload
          cases setback with
          | abort abort => cases hload
          | failure failure =>
              cases hload
              rw [Failure.code_classify, Option.some.injEq] at hcode
              exact Or.inr ⟨content, failure, hcontent, hread, hcode⟩
  · rintro (⟨fault, hnot, hcode⟩ | ⟨content, failure, hcontent, hread, hcode⟩)
    · exact ⟨fault, by rw [snd_load, load?_of_noContent hformat hplain hnot], hcode⟩
    · refine ⟨failure.classify (some path), ?_, by rw [Failure.code_classify, hcode]⟩
      rw [snd_load, load?_of_module hformat hplain hcontent, hread]
      rfl

/-- A code that is not one of malformed data or of other causes comes of a module's bytes
exactly if the module raises a failure with it. -/
theorem exists_failure_iff_raises {code : FaultCode} {looks : Script.Raised → Prop}
    (hmalformed : code ≠ .themeFileInvalid) (hother : code ≠ .operationFailed)
    (hlooks : ∀ raised : Script.Raised, raised.cause.code = code ↔ looks raised) :
    (∃ content failure, HasContent files path content ∧
        Script.readBytes content = .error (.failure failure) ∧ failure.cause.code = code) ↔
      ∃ content raised, HasContent files path content ∧ Script.Raises content raised ∧
        raised.IsTold ∧ looks raised := by
  constructor
  · rintro ⟨content, failure, hcontent, hread, hcode⟩
    rcases Script.cause_of_readBytes_eq_failure hread with
      hcause | ⟨name, hcause⟩ | ⟨raised, hraises, hsetback⟩
    · rw [hcause] at hcode
      exact absurd hcode.symm hmalformed
    · rw [hcause] at hcode
      exact absurd hcode.symm hother
    · obtain ⟨hfinal, message, hmessage, rfl⟩ :=
        (Script.Raised.setback_eq_failure_iff failure).1 hsetback
      exact ⟨content, raised, hcontent, hraises, ⟨hfinal, message, hmessage⟩,
        (hlooks raised).1 hcode⟩
  · rintro ⟨content, raised, hcontent, hraises, ⟨hfinal, message, hmessage⟩, hlike⟩
    refine ⟨content, ⟨raised.cause, message⟩, hcontent, ?_, (hlooks raised).2 hlike⟩
    rw [hraises.readBytes_eq,
      (Script.Raised.setback_eq_failure_iff _).2 ⟨hfinal, message, hmessage, rfl⟩]

theorem code_cause_notFound_iff (raised : Script.Raised) :
    raised.cause.code = .themeFileNotFound ↔ raised.actualClass = "FileNotFoundError" := by
  rw [FailureCause.code_eq_notFound_iff, Script.Raised.exists_cause_missing_iff]

theorem code_cause_unreadable_iff (raised : Script.Raised) :
    raised.cause.code = .themeFileUnreadable ↔ raised.actualClass ≠ "FileNotFoundError" ∧
      (raised.actualClass ∈ Script.systemClasses ∨
        raised.actualClass = "UnicodeDecodeError") := by
  rw [FailureCause.code_eq_unreadable_iff, Script.Raised.cause_eq_unreadable_iff]

/-- A failure that a module raises and may keep to itself ends the loading with a fault of
its own cause, or aborts it if its message cannot be told. -/
theorem exists_fault_of_raises (hformat : format? path = some .module)
    (hplain : path.hasNull = false) (hcontent : HasContent files path content)
    (hraises : Script.Raises content raised) (hfinal : raised.className ∉ Script.finalClasses)
    (accepts : FaultCode → Prop) :
    (∃ fault code, (load files path).2 = .error (.fault fault) ∧ fault.code = some code ∧
        accepts code) ↔
      (∃ message, raised.message? = some message) ∧ accepts raised.cause.code := by
  rw [snd_load, load?_of_module hformat hplain hcontent, hraises.readBytes_eq]
  constructor
  · rintro ⟨fault, code, hload, hcode, haccepts⟩
    cases hsetback : raised.setback with
    | abort abort =>
        rw [hsetback] at hload
        cases hload
    | failure failure =>
        rw [hsetback] at hload
        cases hload
        obtain ⟨-, message, hmessage, rfl⟩ :=
          (Script.Raised.setback_eq_failure_iff failure).1 hsetback
        rw [Failure.code_classify, Option.some.injEq] at hcode
        exact ⟨⟨message, hmessage⟩, hcode ▸ haccepts⟩
  · rintro ⟨⟨message, hmessage⟩, haccepts⟩
    have hsetback := (Script.Raised.setback_eq_failure_iff _).2 ⟨hfinal, message, hmessage, rfl⟩
    have hcode := Failure.code_classify ⟨raised.cause, message⟩ (some path)
    refine ⟨_, _, ?_, hcode, haccepts⟩
    rw [hsetback]
    rfl

/-- A failure that a module raises is reported under a code of its own, if its message can be
told, unless it is a system failure or one in decoding.  A code of a file that is absent or
not readable means just that, or that the module raised one of these. -/
theorem load_raised (files : FileSystem) {path : Path} (hsuffix : suffix path = ".py")
    (hplain : path.hasNull = false) :
    (∀ content raised, HasContent files path content → Script.Raises content raised →
      raised.className ∉ Script.finalClasses →
      ((∃ fault code, (load files path).2 = .error (.fault fault) ∧ fault.code = some code ∧
          code ≠ .themeFileNotFound ∧ code ≠ .themeFileUnreadable) ↔
        (∃ message, raised.message? = some message) ∧
          raised.actualClass ∉ Script.systemClasses ∧
          raised.actualClass ≠ "UnicodeDecodeError")) ∧
    (Reports files path .themeFileNotFound ↔
      files.find path = .error .missing ∨
        ∃ content raised, HasContent files path content ∧ Script.Raises content raised ∧
          raised.IsTold ∧ raised.actualClass = "FileNotFoundError") ∧
    (Reports files path .themeFileUnreadable ↔
      ((∃ fault, files.find path = .error fault ∧ fault ≠ .missing) ∨
        (∃ entries, files.find path = .ok (.directory entries)) ∨
        ∃ content access, files.find path = .ok (.file content access) ∧
          (1048576 < content.length ∨ access ≠ .granted)) ∨
      ∃ content raised, HasContent files path content ∧ Script.Raises content raised ∧
        raised.IsTold ∧ raised.actualClass ≠ "FileNotFoundError" ∧
        (raised.actualClass ∈ Script.systemClasses ∨
          raised.actualClass = "UnicodeDecodeError")) := by
  have hformat := format?_of_module hsuffix
  refine ⟨fun content raised hcontent hraises hfinal => ?_, ?_, ?_⟩
  · have hsystem : "FileNotFoundError" ∈ Script.systemClasses := by decide
    rw [exists_fault_of_raises hformat hplain hcontent hraises hfinal
      fun code => code ≠ .themeFileNotFound ∧ code ≠ .themeFileUnreadable]
    refine and_congr_right fun _ => ?_
    rw [ne_eq, code_cause_notFound_iff, ne_eq, code_cause_unreadable_iff]
    constructor
    · rintro ⟨hmissing, hlike⟩
      rw [not_and, not_or] at hlike
      exact hlike hmissing
    · rintro ⟨hother, hdecoding⟩
      refine ⟨fun hmissing => hother (hmissing ▸ hsystem), ?_⟩
      rintro ⟨-, hlike | hlike⟩
      · exact hother hlike
      · exact hdecoding hlike
  · rw [reports_module_iff hformat hplain, exists_noContent_notFound_iff,
      exists_failure_iff_raises (by decide) (by decide) code_cause_notFound_iff]
  · rw [reports_module_iff hformat hplain, exists_noContent_unreadable_iff,
      exists_failure_iff_raises (by decide) (by decide) code_cause_unreadable_iff]

/-- A module whose last word is a failure of its own. -/
def boomingModule : String := "raise RuntimeError('boom')\n"

/-- A module that does not find a file that it looks for. -/
def searchingModule : String := "raise FileNotFoundError('tokens.txt')\n"

/-- What the one module reports is its own failure. -/
theorem load_boomingModule :
    HasContent (fileWith "t.py" boomingModule) (.ofText "t.py") (asciiBytes boomingModule) ∧
    ∃ fault code, (load (fileWith "t.py" boomingModule) (.ofText "t.py")).2 =
        .error (.fault fault) ∧ fault.code = some code ∧
      code ≠ .themeFileNotFound ∧ code ≠ .themeFileUnreadable := by
  have hsuffix : suffix (.ofText "t.py") = ".py" := by decide +kernel
  have hcontent : HasContent (fileWith "t.py" boomingModule) (.ofText "t.py")
      (asciiBytes boomingModule) := ⟨by rfl, by decide⟩
  obtain ⟨raised, hraises, hname, hclass, hmessage⟩ :
      ∃ raised, Script.Raises (asciiBytes boomingModule) raised ∧
        raised.className = "RuntimeError" ∧ raised.actualClass = "RuntimeError" ∧
        raised.message? = some "boom" :=
    Script.exists_raises (by decide +kernel)
  have hplain : (Path.ofText "t.py").hasNull = false := by decide
  obtain ⟨hreported, -⟩ := load_raised (fileWith "t.py" boomingModule) hsuffix hplain
  refine ⟨hcontent, (hreported _ raised hcontent hraises ?_).2 ⟨⟨_, hmessage⟩, ?_, ?_⟩⟩
  · rw [hname]
    decide
  · rw [hclass]
    decide
  · rw [hclass]
    decide

/-- What the other module reports is that its own file is not there, which it is. -/
theorem load_searchingModule :
    HasContent (fileWith "t.py" searchingModule) (.ofText "t.py") (asciiBytes searchingModule) ∧
    (∃ raised, Script.Raises (asciiBytes searchingModule) raised ∧
      raised.className ∉ Script.finalClasses) ∧
    Reports (fileWith "t.py" searchingModule) (.ofText "t.py") .themeFileNotFound := by
  have hsuffix : suffix (.ofText "t.py") = ".py" := by decide +kernel
  have hcontent : HasContent (fileWith "t.py" searchingModule) (.ofText "t.py")
      (asciiBytes searchingModule) := ⟨by rfl, by decide⟩
  obtain ⟨raised, hraises, hname, hclass, hmessage⟩ :
      ∃ raised, Script.Raises (asciiBytes searchingModule) raised ∧
        raised.className = "FileNotFoundError" ∧ raised.actualClass = "FileNotFoundError" ∧
        raised.message? = some "tokens.txt" :=
    Script.exists_raises (by decide +kernel)
  have hfinal : raised.className ∉ Script.finalClasses := by
    rw [hname]
    decide
  refine ⟨hcontent, ⟨raised, hraises, hfinal⟩, ?_⟩
  rw [reports_module_iff (format?_of_module hsuffix) (by decide),
    exists_failure_iff_raises (by decide) (by decide) code_cause_notFound_iff]
  exact Or.inr ⟨_, raised, hcontent, hraises, ⟨hfinal, _, hmessage⟩, hclass⟩

end ThemeFile

end Palette
