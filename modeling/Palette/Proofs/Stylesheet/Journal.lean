import Palette.Proofs.Stylesheet.Completion

/-!
# What is told of a stylesheet

While a stylesheet is expanded, the loader, the compiler and the processor each tell notes, at
their own times.  `Tells` says which ones the invocation of a file leads to: a file that was
loaded is told of, behind it the sheet that was compiled, and last a failure if there is no
sheet.

The journal of a stylesheet is what its invocations tell, one behind the other, and then the
warnings (`fst_invokeAll`, `fst_expand`).  So it is the account of the result once more
(`expandAmong_journal`): the processor's own records are the faults and the warnings, and how
many invocations were expanded and how many failed can be counted in it.
-/

namespace Palette

/-- A note as it stands in a journal. -/
abbrev Record := Severity × Teller × String

/-- The record of a note. -/
def Note.record (note : Note) : Record :=
  (note.severity, note.teller, note.text)

namespace Stylesheet

/-- The notes that an invocation with an outcome leads to. -/
inductive Tells (files : FileSystem) (options : Options) : Outcome → List Note → Prop
  | missingPath : Tells files options .missingPath []
  /-- How many warnings were counted is how many there are. -/
  | expanded {path : Path} {data : Value} {sheet : Theme.Sheet}
      (hload : ThemeFile.load? files path = .ok data)
      (hsheet : Theme.sheetOfValue options data = .ok sheet) :
      Tells files options (.expanded path sheet)
        [.loaded path,
          .compiled sheet.blocks.length (Outcome.expanded path sheet).themeWarnings.length]
  | notLoaded {path : Path} {fault : Fault}
      (hload : ThemeFile.load? files path = .error (.fault fault)) :
      Tells files options (.failed path (invocationFault path fault))
        [.failed (invocationFault path fault).message]
  | notCompiled {path : Path} {data : Value} {fault : Fault}
      (hload : ThemeFile.load? files path = .ok data)
      (hsheet : Theme.sheetOfValue options data = .error (.fault fault)) :
      Tells files options (.failed path (invocationFault path fault))
        [.loaded path, .failed (invocationFault path fault).message]

section

variable {files : FileSystem} {options : Options}

/-- The invocation of a file tells what its outcome leads to. -/
theorem tells_invokeFile {path : Path} {outcome : Outcome}
    (houtcome : (invokeFile (ThemeFile.load files) options path).2 = .ok outcome) :
    Tells files options outcome (invokeFile (ThemeFile.load files) options path).1 := by
  cases hload : ThemeFile.load? files path with
  | error halt =>
      rw [invokeFile, compileFile, ThemeFile.load_of_load?_eq_error hload] at houtcome ⊢
      cases halt with
      | abort abort => cases houtcome
      | fault fault =>
          cases houtcome
          exact .notLoaded hload
  | ok data =>
      rw [invokeFile, compileFile, ThemeFile.load_of_load?_eq_ok hload] at houtcome ⊢
      cases hsheet : Theme.sheetOfValue options data with
      | ok sheet =>
          simp only [hsheet] at houtcome ⊢
          cases houtcome
          exact .expanded hload hsheet
      | error halt =>
          simp only [hsheet] at houtcome ⊢
          cases halt with
          | abort abort => cases houtcome
          | fault fault =>
              cases houtcome
              exact .notCompiled hload hsheet

theorem tells_invoke {current : Path} {settings : Settings} {parameter : List Char}
    {outcome : Outcome}
    (houtcome : (invoke (ThemeFile.load files) current settings parameter).2 = .ok outcome) :
    Tells files settings.options outcome
      (invoke (ThemeFile.load files) current settings parameter).1 := by
  by_cases hname : pathText parameter = []
  · rw [invoke_of_no_path _ _ _ hname] at houtcome ⊢
    cases houtcome
    exact .missingPath
  · rw [invoke_of_path _ _ _ hname] at houtcome ⊢
    exact tells_invokeFile houtcome

/-! ## Reading the journal -/

variable {list : List Outcome} {tellings : List (List Note)}

/-- The records of one kind are those that the outcomes show, in order, if each outcome leads to
the one that it shows. -/
theorem filter_tellings {seen : Record → Bool} {shown : Outcome → Option Record}
    (hone : ∀ {outcome telling}, Tells files options outcome telling →
      (telling.map Note.record).filter seen = (shown outcome).toList)
    (htells : List.Forall₂ (Tells files options) list tellings) :
    (tellings.flatten.map Note.record).filter seen = list.filterMap shown := by
  induction htells with
  | nil => rfl
  | @cons outcome telling _ _ htelling _ ih =>
      rw [List.flatten_cons, List.map_append, List.filter_append, hone htelling, ih]
      cases hshown : shown outcome with
      | none => exact (List.filterMap_cons_none hshown).symm
      | some record => exact (List.filterMap_cons_some hshown).symm

/-- The record of a fault. -/
def faultRecord (fault : Fault) : Record := (.error, .processor, fault.message)

/-- The record of a sheet, if it was compiled. -/
def sheetRecord? : Outcome → Option Record
  | .expanded _ sheet => some sheet.note.record
  | _ => none

/-- Records of faults, and of nothing that the loader or the compiler tells, are those of the
outcomes' faults. -/
theorem filter_fault_tellings {seen : Record → Bool}
    (hfault : ∀ fault, seen (faultRecord fault) = true)
    (hloaded : ∀ path, seen (Note.loaded path).record = false)
    (hcompiled : ∀ themes warnings, seen (Note.compiled themes warnings).record = false)
    (htells : List.Forall₂ (Tells files options) list tellings) :
    (tellings.flatten.map Note.record).filter seen =
      (list.filterMap Outcome.fault?).map faultRecord := by
  have hfailed : ∀ fault : Fault, seen (Note.failed fault.message).record = true := hfault
  rw [List.map_filterMap]
  refine filter_tellings (fun htelling => ?_) htells
  cases htelling with
  | missingPath => rfl
  | expanded _ _ =>
      rw [List.map_cons, List.filter_cons_of_neg (by simp [hloaded]), List.map_singleton,
        List.filter_cons_of_neg (by simp [hcompiled])]
      rfl
  | notLoaded _ =>
      rw [List.map_singleton, List.filter_cons_of_pos (hfailed _)]
      rfl
  | notCompiled _ _ =>
      rw [List.map_cons, List.filter_cons_of_neg (by simp [hloaded]), List.map_singleton,
        List.filter_cons_of_pos (hfailed _)]
      rfl

theorem filter_compiler_tellings (htells : List.Forall₂ (Tells files options) list tellings) :
    (tellings.flatten.map Note.record).filter (·.2.1 = .compiler) = list.filterMap sheetRecord? := by
  refine filter_tellings (fun htelling => ?_) htells
  cases htelling with
  | missingPath => rfl
  | expanded _ _ => rfl
  | notLoaded _ => rfl
  | notCompiled _ _ => rfl

/-- Records of another kind than those of warnings are not among these. -/
theorem filter_warned {seen : Record → Bool}
    (hseen : ∀ warning, seen (.warning, .processor, warning) = false) (warnings : List String) :
    ((warnings.map Note.warned).map Note.record).filter seen = [] := by
  rw [List.map_map, List.filter_eq_nil_iff]
  intro record hrecord
  obtain ⟨warning, -, rfl⟩ := List.mem_map.1 hrecord
  exact Bool.eq_false_iff.1 (hseen warning)

end

variable (files : FileSystem) (settings : Settings) (source text : String)

/-- The journal of a stylesheet that is expanded tells, invocation by invocation, of the file
that was loaded and the sheet that was compiled, or of the failure, and at last the warnings.
The processor's records are the faults and behind them the warnings.  As many invocations were
expanded as there are records of the compiler, and as many failed as there are errors. -/
theorem expandAmong_journal {result : Result}
    (hresult : (expandAmong files settings source text).2 = .ok result) :
    (((expandAmong files settings source text).1.map Note.record).filter
        (·.2.1 = .processor) =
      result.faults.map (fun fault => (.error, .processor, fault.message)) ++
        result.warnings.map fun warning => (.warning, .processor, warning)) ∧
    ∃ expanded tellings,
      (invokeAll (ThemeFile.load files) files.current settings (cut text.toList)).2 =
        .ok expanded ∧
      result = Result.ofExpanded source expanded ∧
      result.warnings = (outcomes expanded).flatMap Outcome.ruleWarnings ++
        (outcomes expanded).flatMap Outcome.themeWarnings ∧
      List.Forall₂ (Tells files settings.options) (outcomes expanded) tellings ∧
      (expandAmong files settings source text).1 =
        tellings.flatten ++ result.warnings.map .warned ∧
      ((expandAmong files settings source text).1.map Note.record).countP
          (·.2.1 = .compiler) =
        (outcomes expanded).countP (fun outcome => outcome.replacement?.isSome) ∧
      ((expandAmong files settings source text).1.map Note.record).countP (·.1 = .error) =
        (outcomes expanded).countP fun outcome => outcome.fault?.isSome := by
  obtain ⟨expanded, hexpanded, rfl⟩ := (expand_eq_ok_iff ..).1 hresult
  have houtcomes := forall₂_outcomes _ _ _ hexpanded
  have htells : List.Forall₂ (Tells files settings.options) (outcomes expanded)
      ((parameters (cut text.toList)).map fun parameter =>
        (invoke (ThemeFile.load files) files.current settings parameter).1) := by
    rw [List.forall₂_map_right_iff]
    exact (houtcomes.imp fun _ _ houtcome => tells_invoke houtcome).flip
  have hnotes : (expandAmong files settings source text).1 =
      ((parameters (cut text.toList)).map fun parameter =>
        (invoke (ThemeFile.load files) files.current settings parameter).1).flatten ++
      (Result.ofExpanded source expanded).warnings.map .warned := by
    rw [expandAmong, fst_expand _ _ _ _ _ hexpanded, fst_invokeAll _ _ _ hexpanded,
      List.flatMap_def]
  have hsheet : ∀ outcome : Outcome,
      (sheetRecord? outcome).isSome = outcome.replacement?.isSome := by
    intro outcome
    cases outcome with
    | missingPath => rfl
    | failed _ _ => rfl
    | expanded _ _ => rfl
  -- the journal is cut where the warnings begin, and each kind of record is counted on both sides
  rw [hnotes, List.map_append]
  refine ⟨?_, expanded, _, hexpanded, rfl, rfl, htells, rfl, ?_, ?_⟩
  · rw [List.filter_append, filter_fault_tellings (fun _ => rfl) (fun _ => rfl) (fun _ _ => rfl)
      htells, List.map_map, List.filter_eq_self.2 ?_]
    · rfl
    · intro record hrecord
      obtain ⟨warning, -, rfl⟩ := List.mem_map.1 hrecord
      rfl
  · rw [List.countP_eq_length_filter, List.filter_append, filter_compiler_tellings htells,
      filter_warned (fun _ => rfl), List.append_nil, List.length_filterMap_eq_countP]
    exact congrArg (List.countP · _) (funext hsheet)
  · rw [List.countP_eq_length_filter, List.filter_append,
      filter_fault_tellings (fun _ => rfl) (fun _ => rfl) (fun _ _ => rfl) htells,
      filter_warned (fun _ => rfl), List.append_nil, List.length_map,
      List.length_filterMap_eq_countP]

/-- A directory with a theme file without themes, and one without the entry for them. -/
def twoFiles : FileSystem :=
  ⟨.directory
    [("a.json", .file ("\x7b\"themes\": \x7b\x7d\x7d".toList.map fun character =>
        UInt8.ofNat character.toNat) .granted),
      ("b.json", .file [123, 125] .granted)],
    .ofText "/"⟩

/-- Rules for these files, for one of an unknown kind, and one without a path. -/
def fourRules : String :=
  "@theme-tokens a.json;@theme-tokens b.json;@theme-tokens c.css;@theme-tokens;"

/-- One rule is expanded, one fails behind its loading and one before it, and one has no path. -/
theorem expandAmong_fourRules :
    ∃ result expanded,
      (expandAmong twoFiles (.standard (.ofText "/")) "" fourRules).2 = .ok result ∧
      result = Result.ofExpanded "" expanded ∧
      (outcomes expanded).countP (fun outcome => outcome.replacement?.isSome) = 1 ∧
      (outcomes expanded).countP (fun outcome => outcome.fault?.isSome) = 2 := by
  have hreturns : (expandAmong twoFiles (.standard (.ofText "/")) "" fourRules).2.isOk = true := by
    decide +kernel
  have hcompiled : ((expandAmong twoFiles (.standard (.ofText "/")) "" fourRules).1.map
      Note.record).countP (·.2.1 = .compiler) = 1 := by
    decide +kernel
  have hfailed : ((expandAmong twoFiles (.standard (.ofText "/")) "" fourRules).1.map
      Note.record).countP (·.1 = .error) = 2 := by
    decide +kernel
  cases hresult : (expandAmong twoFiles (.standard (.ofText "/")) "" fourRules).2 with
  | error abort =>
      rw [hresult] at hreturns
      cases hreturns
  | ok result =>
      obtain ⟨-, expanded, tellings, -, hread, -, -, -, hexpandedCount, hfailedCount⟩ :=
        expandAmong_journal twoFiles (.standard (.ofText "/")) "" fourRules hresult
      exact ⟨result, expanded, rfl, hread, hexpandedCount ▸ hcompiled, hfailedCount ▸ hfailed⟩

end Stylesheet

end Palette
