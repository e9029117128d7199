import Palette.Proofs.Attempt
import Palette.Stylesheet.Expansion

/-!
# What becomes of invocations

Three cases are all that an invocation can come to: it names no path, its file fails, or
its file gives rules.  `Becomes` says when each of them is the case, and `invoke` does
exactly what it says (`invoke_eq_ok_iff`).

A stylesheet is expanded piece by piece, and no piece knows of the others
(`snd_invokeAll`).  So the outcomes are those of the parameters, in order
(`forall₂_outcomes`), and the stylesheet is expanded exactly if each invocation comes to
something (`exists_expand_iff`).
-/

namespace Palette.Stylesheet

variable (load : Loader) (current : Path) (settings : Settings)

/-- The file that a parameter names. -/
def themePath (current : Path) (settings : Settings) (parameter : List Char) : Path :=
  Path.resolve current (settings.directory.join (.ofText (String.ofList (pathText parameter))))

/-- What an invocation with this parameter may come to. -/
inductive Becomes (parameter : List Char) : Outcome → Prop
  | missingPath (hname : pathText parameter = []) : Becomes parameter .missingPath
  | failed {fault : Fault} (hname : pathText parameter ≠ [])
      (hfile : (compileFile load settings.options (themePath current settings parameter)).2 =
        .error (.fault fault)) :
      Becomes parameter (.failed (themePath current settings parameter)
        (invocationFault (themePath current settings parameter) fault))
  | expanded {sheet : Theme.Sheet} (hname : pathText parameter ≠ [])
      (hfile : (compileFile load settings.options (themePath current settings parameter)).2 =
        .ok sheet) :
      Becomes parameter (.expanded (themePath current settings parameter) sheet)

/-! ## One file and one invocation -/

/-- A file is loaded, and what was loaded is compiled. -/
theorem snd_compileFile (options : Options) (path : Path) :
    (compileFile load options path).2 = (load path).2 >>= Theme.sheetOfValue options := by
  unfold compileFile
  split
  · rename_i hload
    rw [hload]
    rfl
  · rename_i data hload
    rw [hload]
    show _ = Theme.sheetOfValue options data
    cases Theme.sheetOfValue options data <;> rfl

/-- What the invocation of a file tells and comes to. -/
def invokeFile (options : Options) (path : Path) : List Note × Except Abort Outcome :=
  match compileFile load options path with
  | (notes, .ok sheet) => (notes, .ok (.expanded path sheet))
  | (notes, .error (.abort abort)) => (notes, .error abort)
  | (notes, .error (.fault fault)) =>
    (notes ++ [.failed (invocationFault path fault).message],
      .ok (.failed path (invocationFault path fault)))

/-- Of a parameter with a path, nothing but its file counts. -/
theorem invoke_of_path {parameter : List Char} (hname : pathText parameter ≠ []) :
    invoke load current settings parameter =
      invokeFile load settings.options (themePath current settings parameter) := by
  rw [invoke, if_neg hname]
  rfl

theorem invoke_of_no_path {parameter : List Char} (hname : pathText parameter = []) :
    invoke load current settings parameter = ([], .ok .missingPath) :=
  if_pos hname

/-- An invocation with a path comes to what its file comes to. -/
theorem snd_invoke_of_path {parameter : List Char} (hname : pathText parameter ≠ []) :
    (invoke load current settings parameter).2 =
      match (compileFile load settings.options (themePath current settings parameter)).2 with
      | .ok sheet => .ok (.expanded (themePath current settings parameter) sheet)
      | .error (.abort abort) => .error abort
      | .error (.fault fault) => .ok (.failed (themePath current settings parameter)
          (invocationFault (themePath current settings parameter) fault)) := by
  rw [invoke_of_path load current settings hname, invokeFile]
  rcases compileFile load settings.options (themePath current settings parameter) with
    ⟨notes, (fault | abort) | sheet⟩ <;> rfl

theorem invoke_eq_ok_iff (parameter : List Char) (outcome : Outcome) :
    (invoke load current settings parameter).2 = .ok outcome ↔
      Becomes load current settings parameter outcome := by
  by_cases hname : pathText parameter = []
  · rw [invoke_of_no_path load current settings hname]
    constructor
    · intro heq
      cases heq
      exact .missingPath hname
    · intro hbecomes
      cases hbecomes with
      | missingPath => rfl
      | failed hother => exact absurd hname hother
      | expanded hother => exact absurd hname hother
  · rw [snd_invoke_of_path load current settings hname]
    constructor
    · intro heq
      split at heq
      · rename_i hfile
        cases heq
        exact .expanded hname hfile
      · cases heq
      · rename_i hfile
        cases heq
        exact .failed hname hfile
    · intro hbecomes
      cases hbecomes with
      | missingPath hother => exact absurd hother hname
      | failed _ hfile => rw [hfile]
      | expanded _ hfile => rw [hfile]

/-- An invocation comes to something unless loading or compiling its file aborts. -/
theorem exists_invoke_iff (parameter : List Char) :
    (∃ outcome, (invoke load current settings parameter).2 = .ok outcome) ↔
      (pathText parameter ≠ [] → ∀ abort,
        (compileFile load settings.options (themePath current settings parameter)).2 ≠
          .error (.abort abort)) := by
  simp only [invoke_eq_ok_iff]
  constructor
  · rintro ⟨outcome, hbecomes⟩ hname abort habort
    cases hbecomes with
    | missingPath hother => exact hname hother
    | failed _ hfile =>
        rw [habort] at hfile
        cases hfile
    | expanded _ hfile =>
        rw [habort] at hfile
        cases hfile
  · intro hnone
    by_cases hname : pathText parameter = []
    · exact ⟨_, .missingPath hname⟩
    · rcases hfile : (compileFile load settings.options
        (themePath current settings parameter)).2 with (fault | abort) | sheet
      · exact ⟨_, .failed hname hfile⟩
      · exact absurd hfile (hnone hname abort)
      · exact ⟨_, .expanded hname hfile⟩

/-! ## All pieces -/

/-- What becomes of one piece. -/
def expandPiece : Piece → Except Abort Expanded
  | .text characters => .ok (.text characters, none)
  | .invocation span parameter => (invoke load current settings parameter).2.map fun outcome =>
      (.invocation span parameter, some outcome)

/-- The parameters of the invocations among pieces. -/
def parameters (list : List Piece) : List (List Char) :=
  list.filterMap fun piece =>
    match piece with
    | .text _ => none
    | .invocation _ parameter => some parameter

/-- The pieces are expanded each for itself. -/
theorem snd_invokeAll (list : List Piece) :
    (invokeAll load current settings list).2 =
      list.mapM (expandPiece load current settings) := by
  induction list with
  | nil => rfl
  | cons piece rest ih =>
      rw [List.mapM_cons, ← ih]
      cases piece with
      | text characters =>
          rw [invokeAll]
          rcases invokeAll load current settings rest with ⟨notes, abort | expanded⟩ <;> rfl
      | invocation span parameter =>
          rw [invokeAll, expandPiece]
          rcases invoke load current settings parameter with ⟨notes, abort | outcome⟩
          · rfl
          · rcases invokeAll load current settings rest with ⟨later, abort | expanded⟩ <;> rfl

/-- The pieces stay, and each invocation comes to what its parameter comes to. -/
theorem invokeAll_eq_ok_iff (list : List Piece) (expanded : List Expanded) :
    (invokeAll load current settings list).2 = .ok expanded ↔
      List.Forall₂ (fun piece result => expandPiece load current settings piece = .ok result)
        list expanded := by
  rw [snd_invokeAll, mapM_eq_ok_iff]

/-- Expanding changes no piece. -/
theorem map_fst_invokeAll {list : List Piece} {expanded : List Expanded}
    (hexpanded : (invokeAll load current settings list).2 = .ok expanded) :
    expanded.map Prod.fst = list := by
  rw [snd_invokeAll] at hexpanded
  rw [← List.map_id list]
  refine map_eq_of_mapM hexpanded fun piece _ result hresult => ?_
  cases piece with
  | text characters =>
      cases hresult
      rfl
  | invocation span parameter =>
      obtain ⟨outcome, -, rfl⟩ := map_eq_ok_iff.1 hresult
      rfl

theorem forall₂_outcomes {list : List Piece} {expanded : List Expanded}
    (hexpanded : (invokeAll load current settings list).2 = .ok expanded) :
    List.Forall₂ (fun parameter outcome =>
      (invoke load current settings parameter).2 = .ok outcome)
      (parameters list) (outcomes expanded) := by
  rw [invokeAll_eq_ok_iff] at hexpanded
  induction hexpanded with
  | nil => exact List.Forall₂.nil
  | @cons piece result _ _ hpiece _ ih =>
      cases piece with
      | text characters =>
          cases hpiece
          exact ih
      | invocation span parameter =>
          obtain ⟨outcome, houtcome, rfl⟩ := map_eq_ok_iff.1 hpiece
          exact List.Forall₂.cons houtcome ih

/-- If no invocation aborts, what each of them tells is told, in order. -/
theorem fst_invokeAll {list : List Piece} {expanded : List Expanded}
    (hexpanded : (invokeAll load current settings list).2 = .ok expanded) :
    (invokeAll load current settings list).1 =
      (parameters list).flatMap fun parameter => (invoke load current settings parameter).1 := by
  induction list generalizing expanded with
  | nil => rfl
  | cons piece rest ih =>
      cases piece with
      | text characters =>
          rw [invokeAll] at hexpanded ⊢
          obtain ⟨others, hothers, -⟩ := map_eq_ok_iff.1 hexpanded
          exact ih hothers
      | invocation span parameter =>
          have htold : parameters (.invocation span parameter :: rest) =
              parameter :: parameters rest := rfl
          rw [htold, List.flatMap_cons]
          rw [invokeAll] at hexpanded ⊢
          rcases hinvoke : invoke load current settings parameter with ⟨notes, abort | outcome⟩
          · rw [hinvoke] at hexpanded
            cases hexpanded
          · rw [hinvoke] at hexpanded
            obtain ⟨others, hothers, -⟩ := map_eq_ok_iff.1 hexpanded
            exact congrArg (notes ++ ·) (ih hothers)

/-- Pieces are expanded exactly if each invocation among them comes to something. -/
theorem exists_invokeAll_iff (list : List Piece) :
    (∃ expanded, (invokeAll load current settings list).2 = .ok expanded) ↔
      ∀ parameter ∈ parameters list,
        ∃ outcome, (invoke load current settings parameter).2 = .ok outcome := by
  rw [snd_invokeAll, exists_mapM_eq_ok_iff, parameters, List.forall_mem_filterMap]
  refine forall₂_congr fun piece _ => ?_
  cases piece with
  | text characters => simp [expandPiece]
  | invocation span parameter => simp [expandPiece, exists_map_eq_ok_iff]

/-! ## Stylesheets -/

variable (source text : String)

/-- The result of a stylesheet is read off its expanded pieces. -/
theorem expand_eq_ok_iff (result : Result) :
    (expand load current settings source text).2 = .ok result ↔
      ∃ expanded, (invokeAll load current settings (cut text.toList)).2 = .ok expanded ∧
        result = Result.ofExpanded source expanded := by
  unfold expand
  rcases invokeAll load current settings (cut text.toList) with ⟨notes, abort | expanded⟩
  · simp
  · simp [eq_comm]

/-- The warnings are told once all invocations have been. -/
theorem fst_expand {expanded : List Expanded}
    (hexpanded : (invokeAll load current settings (cut text.toList)).2 = .ok expanded) :
    (expand load current settings source text).1 =
      (invokeAll load current settings (cut text.toList)).1 ++
        (Result.ofExpanded source expanded).warnings.map .warned := by
  unfold expand
  rcases hall : invokeAll load current settings (cut text.toList) with ⟨notes, abort | others⟩
  · rw [hall] at hexpanded
    cases hexpanded
  · rw [hall] at hexpanded
    cases hexpanded
    rfl

/-- A stylesheet is expanded exactly if each of its invocations comes to something. -/
theorem exists_expand_iff :
    (∃ result, (expand load current settings source text).2 = .ok result) ↔
      ∀ parameter ∈ parameters (cut text.toList),
        ∃ outcome, (invoke load current settings parameter).2 = .ok outcome := by
  simp only [expand_eq_ok_iff, ← exists_invokeAll_iff]
  constructor
  · rintro ⟨result, expanded, hexpanded, -⟩
    exact ⟨expanded, hexpanded⟩
  · rintro ⟨expanded, hexpanded⟩
    exact ⟨_, expanded, hexpanded, rfl⟩

/-- A stylesheet without invocations is left as it is. -/
theorem expand_of_no_parameters (hnone : parameters (cut text.toList) = []) :
    ∃ result, (expand load current settings source text).2 = .ok result ∧ result.text = text ∧
      result.warnings = [] ∧ result.faults = [] ∧ result.dependencies = [] := by
  have hexists : ∃ result, (expand load current settings source text).2 = .ok result := by
    rw [exists_expand_iff, hnone]
    exact fun _ hmem => absurd hmem List.not_mem_nil
  obtain ⟨result, hresult⟩ := hexists
  obtain ⟨expanded, hexpanded, rfl⟩ := (expand_eq_ok_iff ..).1 hresult
  have houtcomes : outcomes expanded = [] := by
    have heach := forall₂_outcomes load current settings hexpanded
    rw [hnone] at heach
    exact List.forall₂_nil_left_iff.1 heach
  refine ⟨_, hresult, ?_, by simp [Result.ofExpanded, houtcomes],
    by simp [Result.ofExpanded, houtcomes], by simp [Result.ofExpanded, houtcomes]⟩
  have hcharacters : expanded.flatMap Expanded.characters = text.toList := by
    rw [← flatMap_cut text.toList, ← map_fst_invokeAll load current settings hexpanded,
      List.flatMap_map]
    refine List.flatMap_congr fun piece hmem => ?_
    rw [Expanded.characters, List.filterMap_eq_nil_iff.1 houtcomes piece hmem]
    rfl
  simp [Result.ofExpanded, hcharacters]

end Palette.Stylesheet
