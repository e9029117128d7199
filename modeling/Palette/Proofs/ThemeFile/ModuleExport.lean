import Mathlib.Data.List.Sort
import Palette.Proofs.Script.Binding
import Palette.Proofs.Theme.Change
import Palette.Proofs.ThemeFile.ModuleFailure

/-!
# What a module exports

A module of literals that runs to its end exports the value that `default` is bound to last,
if that is one other than null (`Script.Stands`).  Otherwise it exports its public names:
those that begin with no low line and are bound last to values rather than modules, each with
the last of its values and in the order of first bindings (`Script.Exports`).  No two lists
are such an export of one module (`Script.Exports.unique`).

Compiling reads no more of this than the standing default, or else what `themes` is bound to
last.  So a statement may be added anywhere that changes neither (`Script.Adds`): one that
binds private names, an import, `default = None` where it does not end a standing default, and
any other definition while a default stands (`load_module_exact`).

A default that stands is ended by a later `default = None`, which is what a last binding means.
And a module without `default` that binds `__getattr__` exports nothing: it is asked for its
default by a call of what is no function (`HasModule.load_of_asks`).  Both are seen in
`load_exceptionalModules`.
-/

namespace Palette.Script

/-! ## The exported data -/

/-- A value other than null is what `default` is bound to last. -/
def Stands (statements : List Statement) (value : Value) : Prop :=
  finalBinding? statements "default" = some (.value value) ∧ value ≠ .null

/-- A module without `default` has nothing that is asked for it. -/
def AsksNothing (statements : List Statement) : Prop :=
  finalBinding? statements "default" = none → finalBinding? statements "__getattr__" = none

/-- The public names of a module with their last values, in the order of first bindings. -/
structure Exports (statements : List Statement) (exported : List (String × Value)) : Prop where
  mem_iff : ∀ name value, (name, value) ∈ exported ↔
    Namespace.isPrivate name = false ∧ finalBinding? statements name = some (.value value)
  ordered : exported.Pairwise fun first second =>
    ((bindings statements).map Prod.fst).idxOf first.1 <
      ((bindings statements).map Prod.fst).idxOf second.1

/-- Names with values as the entries of a mapping. -/
def textEntries (exported : List (String × Value)) : Value.Entries :=
  exported.map fun entry => (.text entry.1, entry.2)

theorem mem_textEntries {exported : List (String × Value)} {name : String} {value : Value} :
    (.text name, value) ∈ textEntries exported ↔ (name, value) ∈ exported := by
  rw [textEntries, List.mem_map]
  constructor
  · rintro ⟨entry, hmem, heq⟩
    cases heq
    exact hmem
  · intro hmem
    exact ⟨_, hmem, rfl⟩

/-- No two lists are the export of one module. -/
theorem Exports.unique {statements : List Statement} {exported others : List (String × Value)}
    (hexported : Exports statements exported) (hothers : Exports statements others) :
    exported = others := by
  refine hexported.ordered.eq_of_mem_iff hothers.ordered fun entry => ?_
  rw [hexported.mem_iff, hothers.mem_iff]

/-- The public value that a name is bound to, with the name. -/
def publicValue? (entry : String × Binding) : Option (String × Value) :=
  match entry.2 with
  | .importedModule => none
  | .value value => if Namespace.isPrivate entry.1 then none else some (entry.1, value)

theorem publicValue?_eq_some_iff (entry : String × Binding) (name : String) (value : Value) :
    publicValue? entry = some (name, value) ↔
      Namespace.isPrivate name = false ∧ entry = (name, .value value) := by
  obtain ⟨bound, binding⟩ := entry
  cases binding with
  | importedModule => simp [publicValue?]
  | value found =>
      show (if Namespace.isPrivate bound then none else some (bound, found)) = _ ↔ _
      rw [Prod.mk.injEq, Binding.value.injEq]
      split
      · rename_i hprivate
        constructor
        · intro hnone
          cases hnone
        · rintro ⟨hpublic, rfl, -⟩
          exact absurd hprivate (Bool.eq_false_iff.1 hpublic)
      · rename_i hpublic
        rw [Option.some.injEq, Prod.mk.injEq]
        constructor
        · rintro ⟨rfl, rfl⟩
          exact ⟨Bool.eq_false_iff.2 hpublic, rfl, rfl⟩
        · exact And.right

theorem publicEntries_eq (names : Namespace) :
    names.publicEntries = .mapping (textEntries (names.filterMap publicValue?)) := by
  rw [Namespace.publicEntries, textEntries, List.map_filterMap]
  refine congrArg _ (List.filterMap_congr fun entry _ => ?_)
  obtain ⟨name, binding⟩ := entry
  cases binding with
  | importedModule => rfl
  | value value =>
      show (if Namespace.isPrivate name then none else some (Value.text name, value)) =
        (if Namespace.isPrivate name then none else some (name, value)).map _
      split <;> rfl

section

variable {statements : List Statement} {names : Namespace}
variable (hsupported : ∀ statement ∈ statements, statement.isSupported = true)
variable (hrun : run [] statements = .ok names)

include hsupported hrun

/-- The public names that a run leaves are the export of the module. -/
theorem exports_of_run : Exports statements (names.filterMap publicValue?) := by
  have honce := listsOnce_of_run hsupported hrun
  constructor
  · -- no name has two places, so what is looked up is what is there
    intro name value
    rw [← find?_of_run hsupported hrun, ← Namespace.mem_iff_find?_eq_some honce.nodup,
      List.mem_filterMap]
    simp only [publicValue?_eq_some_iff]
    constructor
    · rintro ⟨_, hmem, hpublic, rfl⟩
      exact ⟨hpublic, hmem⟩
    · rintro ⟨hpublic, hmem⟩
      exact ⟨_, hmem, hpublic, rfl⟩
  · rw [List.pairwise_filterMap]
    refine (List.pairwise_map.1 honce.ordered).imp fun {first second} hlt => ?_
    rintro ⟨one, value⟩ hone ⟨two, other⟩ htwo
    rw [publicValue?_eq_some_iff] at hone htwo
    rw [hone.2, htwo.2] at hlt
    exact hlt

/-- A module that ran imported only what can be imported, so no module is bound to another
name. -/
theorem finalBinding?_ne_importedModule {name : String} (hname : name ∉ importable) :
    finalBinding? statements name ≠ some .importedModule := by
  intro hfinal
  obtain ⟨statement, hmem, hbinding⟩ := mem_of_finalBinding?_eq_some hfinal
  obtain ⟨hexecutes, -⟩ := (run_eq_ok_iff hsupported).1 hrun
  cases statement with
  | importModules modules =>
      obtain ⟨-, bound, hbound⟩ := hexecutes _ hmem
      obtain ⟨himportable, -⟩ := importAll_eq_ok_iff.1 hbound
      obtain ⟨other, hother, heq⟩ := List.mem_map.1 hbinding
      cases heq
      exact hname (himportable _ hother)
  | assign targets value =>
      rw [Statement.bindings] at hbinding
      split at hbinding
      · cases hbinding
      · obtain ⟨target, -, heq⟩ := List.mem_map.1 hbinding
        cases heq
  | _ => cases hbinding

theorem exported_of_stands {value : Value} (hstands : Stands statements value) :
    names.exported = .ok value := by
  obtain ⟨hfinal, hvalue⟩ := hstands
  rw [← find?_of_run hsupported hrun] at hfinal
  rw [Namespace.exported, hfinal]
  cases value with
  | null => exact absurd rfl hvalue
  | _ => rfl

theorem exported_of_not_stands (hasks : AsksNothing statements)
    (hnone : ¬ ∃ value, Stands statements value) : names.exported = .ok names.publicEntries := by
  have hmodule := finalBinding?_ne_importedModule hsupported hrun
    (show "default" ∉ importable by decide)
  rw [Namespace.exported, find?_of_run hsupported hrun, find?_of_run hsupported hrun]
  rcases hfinal : finalBinding? statements "default" with _ | _ | value
  · rw [hasks hfinal]
  · exact absurd hfinal hmodule
  · have hnull : value = .null := by_contra fun hvalue => hnone ⟨value, hfinal, hvalue⟩
    rw [hnull]

/-- A module that has no default is asked for it by way of `__getattr__`, which is no
function. -/
theorem exported_of_asks {binding : Binding} (hdefault : finalBinding? statements "default" = none)
    (hasked : finalBinding? statements "__getattr__" = some binding) :
    names.exported = .error (.raised "TypeError" binding.uncallable) := by
  rw [Namespace.exported, find?_of_run hsupported hrun, find?_of_run hsupported hrun, hdefault,
    hasked]

end

/-! ## Additions to a module -/

/-- The statement `default = None`. -/
def nullDefault : Statement := .assign ["default"] (.literal .null)

/-- A statement is added that does not change what compiling reads. -/
inductive Adds : List Statement → List Statement → Prop
  | privateNames {before after : List Statement} {added : Statement} (hadded : added.Executes)
      (hprivate : ∀ entry ∈ added.bindings, Namespace.isPrivate entry.1 = true) :
      Adds (before ++ after) (before ++ added :: after)
  | imports {before after : List Statement} {modules : List String}
      (himportable : ∀ name ∈ modules, name ∈ importable) :
      Adds (before ++ after) (before ++ .importModules modules :: after)
  /-- A default is bound again afterwards, or none stands that would be ended. -/
  | nullDefault {before after : List Statement}
      (hkept : finalBinding? after "default" ≠ none ∨
        ¬ ∃ value, Stands (before ++ after) value) :
      Adds (before ++ after) (before ++ nullDefault :: after)
  | definition {before after : List Statement} {added : Statement} (hadded : added.Executes)
      (hother : ∀ entry ∈ added.bindings, entry.1 ≠ "default")
      (hstands : ∃ value, Stands (before ++ after) value) :
      Adds (before ++ after) (before ++ added :: after)

/-- Where one module runs to its end, so does the other, and compiling reads the same of
both. -/
structure Agrees (first second : List Statement) : Prop where
  executes : (∀ statement ∈ first, statement.Executes) → ∀ statement ∈ second, statement.Executes
  stands_iff : ∀ value, Stands first value ↔ Stands second value
  themes_eq : (¬ ∃ value, Stands first value) →
    finalBinding? first "themes" = finalBinding? second "themes"

section

variable {before after first second third : List Statement} {added : Statement}

theorem Agrees.refl (statements : List Statement) : Agrees statements statements :=
  ⟨id, fun _ => Iff.rfl, fun _ => rfl⟩

theorem Agrees.trans (hfirst : Agrees first second) (hsecond : Agrees second third) :
    Agrees first third where
  executes := hsecond.executes ∘ hfirst.executes
  stands_iff value := (hfirst.stands_iff value).trans (hsecond.stands_iff value)
  themes_eq hnone := by
    rw [hfirst.themes_eq hnone, hsecond.themes_eq]
    rintro ⟨value, hstands⟩
    exact hnone ⟨value, (hfirst.stands_iff value).2 hstands⟩

theorem forall_executes_insert (hadded : added.Executes)
    (hall : ∀ statement ∈ before ++ after, statement.Executes) :
    ∀ statement ∈ before ++ added :: after, statement.Executes := by
  rw [List.forall_mem_append] at hall ⊢
  exact ⟨hall.1, List.forall_mem_cons.2 ⟨hadded, hall.2⟩⟩

/-- What is bound under other names than these two is not read. -/
theorem agrees_insert (hadded : added.Executes)
    (hother : ∀ entry ∈ added.bindings, entry.1 ∉ ["default", "themes"]) :
    Agrees (before ++ after) (before ++ added :: after) := by
  have hsame : ∀ name ∈ ["default", "themes"],
      finalBinding? (before ++ added :: after) name = finalBinding? (before ++ after) name := by
    intro name hname
    refine finalBinding?_insert (fun entry hentry heq => ?_) before after
    exact hother entry hentry (heq ▸ hname)
  refine ⟨forall_executes_insert hadded, fun value => ?_, fun _ => ?_⟩
  · rw [Stands, Stands, hsame "default" (by decide)]
  · rw [hsame "themes" (by decide)]

/-- What is bound to null either is bound again or ends no default, so that it does not show. -/
theorem agrees_nullDefault (hkept : finalBinding? after "default" ≠ none ∨
      ¬ ∃ value, Stands (before ++ after) value) :
    Agrees (before ++ after) (before ++ nullDefault :: after) := by
  have hsecond : finalBinding? (before ++ nullDefault :: after) "default" =
      (finalBinding? after "default").or (some (.value .null)) := by
    have hnull : finalBinding? [nullDefault] "default" = some (.value .null) := rfl
    rw [List.append_cons, finalBinding?_append, finalBinding?_append, hnull, Option.some_or]
  have hfirst := finalBinding?_append before after "default"
  have hthemes : finalBinding? (before ++ nullDefault :: after) "themes" =
      finalBinding? (before ++ after) "themes" :=
    finalBinding?_insert (by decide) before after
  refine ⟨forall_executes_insert ⟨rfl, _, rfl⟩, fun value => ?_, fun _ => hthemes.symm⟩
  rcases hafter : finalBinding? after "default" with _ | found
  · -- the null is the last binding, and no default stood before it either
    have hnone := hkept.resolve_left (not_not.2 hafter)
    refine ⟨fun hstands => absurd ⟨value, hstands⟩ hnone, fun hstands => ?_⟩
    obtain ⟨hfinal, hvalue⟩ := hstands
    rw [hsecond, hafter, Option.none_or] at hfinal
    cases hfinal
    exact absurd rfl hvalue
  · -- the later binding is the last one with the null and without it
    rw [hafter, Option.some_or] at hsecond hfirst
    rw [Stands, Stands, hsecond, hfirst]

/-- While a default stands, no other name is read. -/
theorem agrees_definition (hadded : added.Executes)
    (hother : ∀ entry ∈ added.bindings, entry.1 ≠ "default")
    (hstands : ∃ value, Stands (before ++ after) value) :
    Agrees (before ++ after) (before ++ added :: after) := by
  have hdefault := finalBinding?_insert hother before after
  refine ⟨forall_executes_insert hadded, fun value => ?_, fun hnone => absurd hstands hnone⟩
  rw [Stands, Stands, hdefault]

theorem Adds.agrees (hadds : Adds first second) : Agrees first second := by
  cases hadds with
  | privateNames hadded hprivate =>
      refine agrees_insert hadded fun entry hentry hname => ?_
      have hpublic : ∀ name ∈ ["default", "themes"], Namespace.isPrivate name = false := by decide
      exact Bool.eq_false_iff.1 (hpublic _ hname) (hprivate entry hentry)
  | imports himportable =>
      refine agrees_insert ⟨rfl, _, importAll_eq_ok_iff.2 ⟨himportable, rfl⟩⟩ ?_
      intro entry hentry hname
      obtain ⟨name, hmem, rfl⟩ := List.mem_map.1 hentry
      have hnever : ∀ name ∈ importable, name ∉ ["default", "themes"] := by decide
      exact hnever _ (himportable _ hmem) hname
  | nullDefault hkept => exact agrees_nullDefault hkept
  | definition hadded hother hstands => exact agrees_definition hadded hother hstands

theorem agrees_of_reflTransGen (hadds : Relation.ReflTransGen Adds first second) :
    Agrees first second := by
  induction hadds with
  | refl => exact Agrees.refl first
  | tail _ hstep ih => exact ih.trans hstep.agrees

end

/-! ## What compiling reads -/

section

variable {first second : List Statement} {exported others : List (String × Value)}
variable {names bound : Namespace}

/-- A name has one value in an export, so it is looked up wherever its entry stands. -/
theorem Exports.lookup_eq_some_iff (hexported : Exports first exported) {name : String}
    {value : Value} :
    Value.lookup (textEntries exported) name = some value ↔ (name, value) ∈ exported := by
  have hmem {value : Value} (hlookup : Value.lookup (textEntries exported) name = some value) :
      (name, value) ∈ exported := mem_textEntries.1 (Value.mem_of_lookup hlookup)
  refine ⟨hmem, fun hvalue => ?_⟩
  rcases hlookup : Value.lookup (textEntries exported) name with _ | other
  · exact absurd (mem_textEntries.2 hvalue) (Value.notMem_of_lookup_eq_none hlookup value)
  · have hfinal := ((hexported.mem_iff name value).1 hvalue).2
    have hother := ((hexported.mem_iff name other).1 (hmem hlookup)).2
    rw [hfinal] at hother
    cases hother
    rfl

theorem Exports.lookup_congr (hexported : Exports first exported)
    (hothers : Exports second others) {name : String}
    (hname : finalBinding? first name = finalBinding? second name) :
    Value.lookup (textEntries exported) name = Value.lookup (textEntries others) name := by
  refine Option.ext fun value => ?_
  rw [hexported.lookup_eq_some_iff, hothers.lookup_eq_some_iff, hexported.mem_iff,
    hothers.mem_iff, hname]

/-- Modules that agree export data with the same themes. -/
theorem Agrees.exists_exported (hagrees : Agrees first second)
    (hsupported : ∀ statement ∈ first, statement.isSupported = true)
    (hrun : run [] first = .ok names) (hasks : AsksNothing first)
    (hasksAlso : AsksNothing second) :
    ∃ bound, run [] second = .ok bound ∧ ∃ data other, names.exported = .ok data ∧
      bound.exported = .ok other ∧ Theme.setOfValue data = Theme.setOfValue other := by
  obtain ⟨hexecutes, -⟩ := (run_eq_ok_iff hsupported).1 hrun
  have hall := hagrees.executes hexecutes
  have hother : ∀ statement ∈ second, statement.isSupported = true :=
    fun statement hmem => (hall statement hmem).supported
  have hbound : run [] second = .ok _ := (run_eq_ok_iff hother).2 ⟨hall, rfl⟩
  refine ⟨_, hbound, ?_⟩
  -- either a default stands in both, or compiling looks `themes` up in both mappings
  by_cases hstands : ∃ value, Stands first value
  · obtain ⟨value, hvalue⟩ := hstands
    exact ⟨value, value, exported_of_stands hsupported hrun hvalue,
      exported_of_stands hother hbound ((hagrees.stands_iff value).1 hvalue), rfl⟩
  · have hnone : ¬ ∃ value, Stands second value := by
      rintro ⟨value, hvalue⟩
      exact hstands ⟨value, (hagrees.stands_iff value).2 hvalue⟩
    refine ⟨_, _, exported_of_not_stands hsupported hrun hasks hstands,
      exported_of_not_stands hother hbound hasksAlso hnone, ?_⟩
    rw [publicEntries_eq, publicEntries_eq]
    exact Theme.setOfValue_congr ((exports_of_run hsupported hrun).lookup_congr
      (exports_of_run hother hbound) (hagrees.themes_eq hstands))

end

end Palette.Script

namespace Palette.ThemeFile

open Script (Statement)

variable {files : FileSystem} {path : Path} {statements : List Statement}

/-- A module that reads as these statements is at the path. -/
structure HasModule (files : FileSystem) (path : Path) (statements : List Statement) : Prop where
  suffix : suffix path = ".py"
  plain : path.hasNull = false
  source : ∃ content characters, HasContent files path content ∧
    Script.sourceOf content = .ok characters ∧ Script.statements? characters = some statements

/-- A module that runs to its end is loaded as what it exports. -/
theorem HasModule.load?_eq (hmodule : HasModule files path statements) {names : Script.Namespace}
    (hrun : Script.run [] statements = .ok names) :
    load? files path = names.exported.mapError .abort := by
  obtain ⟨content, characters, hcontent, hsource, hstatements⟩ := hmodule.source
  rw [load?_of_module (format?_of_module hmodule.suffix) hmodule.plain hcontent,
    Script.readBytes, hsource]
  simp only [Script.read, hstatements, hrun]
  cases names.exported <;> rfl

theorem HasModule.load_eq (hmodule : HasModule files path statements) {names : Script.Namespace}
    (hrun : Script.run [] statements = .ok names) {data : Value}
    (hexported : names.exported = .ok data) : load files path = ([.loaded path], .ok data) := by
  refine load_of_load?_eq_ok ?_
  rw [hmodule.load?_eq hrun, hexported]
  rfl

/-- A module that runs to its end but has no default is asked for it, if it binds
`__getattr__`, and that aborts the loading. -/
theorem HasModule.load_of_asks (hmodule : HasModule files path statements)
    (hsupported : ∀ statement ∈ statements, statement.isSupported = true)
    {names : Script.Namespace} (hrun : Script.run [] statements = .ok names)
    (hdefault : Script.finalBinding? statements "default" = none) {binding : Script.Binding}
    (hasked : Script.finalBinding? statements "__getattr__" = some binding) :
    (load files path).2 = .error (.abort (.raised "TypeError" binding.uncallable)) := by
  rw [snd_load, hmodule.load?_eq hrun, Script.exported_of_asks hsupported hrun hdefault hasked]
  rfl

/-- A module exports its default, if one stands, and else its public names with their last
values.  What it compiles to is not changed by statements that are added to it. -/
theorem load_module_exact (options : Options) (hmodule : HasModule files path statements)
    (hsupported : ∀ statement ∈ statements, statement.isSupported = true)
    {names : Script.Namespace} (hrun : Script.run [] statements = .ok names)
    (hasks : Script.AsksNothing statements) :
    (∀ value, Script.Stands statements value → (load files path).2 = .ok value) ∧
    ((¬ ∃ value, Script.Stands statements value) → ∃ exported,
      Script.Exports statements exported ∧
        (load files path).2 = .ok (.mapping (Script.textEntries exported))) ∧
    ∀ (changed : FileSystem) (others : List Statement), HasModule changed path others →
      Relation.ReflTransGen Script.Adds statements others → Script.AsksNothing others →
      Stylesheet.compileFile (load changed) options path =
        Stylesheet.compileFile (load files) options path := by
  rw [snd_load, hmodule.load?_eq hrun]
  refine ⟨fun value hstands => ?_, fun hnone => ?_, fun changed others hchanged hadds hother => ?_⟩
  · rw [Script.exported_of_stands hsupported hrun hstands]
    rfl
  · refine ⟨_, Script.exports_of_run hsupported hrun, ?_⟩
    rw [Script.exported_of_not_stands hsupported hrun hasks hnone, Script.publicEntries_eq]
    rfl
  · obtain ⟨bound, hbound, data, other, hdata, hotherData, hthemes⟩ :=
      (Script.agrees_of_reflTransGen hadds).exists_exported hsupported hrun hasks hother
    rw [Stylesheet.compileFile, Stylesheet.compileFile, hmodule.load_eq hrun hdata,
      hchanged.load_eq hbound hotherData]
    simp only [Theme.sheetOfValue, hthemes]

/-- A module that is the one file of a tree, with its text in ASCII. -/
theorem hasModule_fileWith {text : String} (hsmall : (asciiBytes text).length ≤ 1048576)
    (hsource : Script.sourceOf (asciiBytes text) = .ok text.toList)
    (hread : Script.statements? text.toList = some statements) :
    HasModule (fileWith "m.py" text) (.ofText "m.py") statements :=
  ⟨by decide +kernel, by decide, _, _, ⟨rfl, hsmall⟩, hsource, hread⟩

/-- A module without themes. -/
def plainModule : String := "themes = \x7b\x7d\n"

/-- The same module with an import in front and `default = None` behind. -/
def preparedModule : String := "import os\n" ++ plainModule ++ "default = None\n"

/-- The statement of the module without themes. -/
def plainStatement : Statement := .assign ["themes"] (.mapping [])

/-- Whether the one statement was read. -/
def isPlain : Option (List Statement) → Bool
  | some [.assign [name] (.mapping [])] => name == "themes"
  | _ => false

/-- Whether it was read between an import and `default = None`. -/
def isPrepared : Option (List Statement) → Bool
  | some [.importModules [imported], .assign [name] (.mapping []),
      .assign [last] (.literal .null)] =>
    imported == "os" && name == "themes" && last == "default"
  | _ => false

theorem hasModule_plain :
    HasModule (fileWith "m.py" plainModule) (.ofText "m.py") [plainStatement] := by
  have hshape (read : Option (List Statement)) (hread : isPlain read = true) :
      read = some [plainStatement] := by
    unfold isPlain at hread
    split at hread
    · obtain rfl := beq_iff_eq.1 hread
      rfl
    · cases hread
  exact hasModule_fileWith (by decide) (by decide +kernel) (hshape _ (by decide +kernel))

theorem hasModule_prepared :
    HasModule (fileWith "m.py" preparedModule) (.ofText "m.py")
      [.importModules ["os"], plainStatement, Script.nullDefault] := by
  have hshape (read : Option (List Statement)) (hread : isPrepared read = true) :
      read = some [.importModules ["os"], plainStatement, Script.nullDefault] := by
    unfold isPrepared at hread
    split at hread
    · simp only [Bool.and_eq_true, beq_iff_eq] at hread
      obtain ⟨⟨rfl, rfl⟩, rfl⟩ := hread
      rfl
    · cases hread
  exact hasModule_fileWith (by decide) (by decide +kernel) (hshape _ (by decide +kernel))

/-- The import and the default that is none do not change what the module compiles to. -/
theorem load_preparedModule :
    (∃ exported, Script.Exports [plainStatement] exported ∧
      (load (fileWith "m.py" plainModule) (.ofText "m.py")).2 =
        .ok (.mapping (Script.textEntries exported))) ∧
    Stylesheet.compileFile (load (fileWith "m.py" preparedModule)) {} (.ofText "m.py") =
      Stylesheet.compileFile (load (fileWith "m.py" plainModule)) {} (.ofText "m.py") := by
  have hnone (statements : List Statement)
      (hunbound : Script.finalBinding? statements "default" = none) :
      ¬ ∃ value, Script.Stands statements value := by
    rintro ⟨value, hfinal, -⟩
    rw [hunbound] at hfinal
    cases hfinal
  have hrun : Script.run [] [plainStatement] = .ok _ := rfl
  obtain ⟨-, hexports, hchanged⟩ := load_module_exact {} hasModule_plain (by decide) hrun
    fun _ => rfl
  refine ⟨hexports (hnone _ rfl), hchanged _ _ hasModule_prepared ?_ fun _ => rfl⟩
  have himport : Script.Adds ([] ++ [plainStatement])
      ([] ++ .importModules ["os"] :: [plainStatement]) := .imports (by decide)
  have hdefault : Script.Adds ([.importModules ["os"], plainStatement] ++ [])
      ([.importModules ["os"], plainStatement] ++ Script.nullDefault :: []) :=
    .nullDefault (Or.inr (hnone _ rfl))
  exact (Relation.ReflTransGen.single himport).tail hdefault

/-- A module whose default is a theme set. -/
def defaultModule : String := "default = \x7b'themes': \x7b\x7d\x7d\n"

/-- A module that binds the name that is asked for a default. -/
def askedModule : String := "__getattr__ = 1\n" ++ plainModule

/-- A default that stands is ended by `default = None` behind it.  And a module without a
default that binds `__getattr__` is not loaded, although it runs to its end. -/
theorem load_exceptionalModules :
    Stylesheet.compileFile (load (fileWith "m.py" (defaultModule ++ "default = None\n"))) {}
        (.ofText "m.py") ≠
      Stylesheet.compileFile (load (fileWith "m.py" defaultModule)) {} (.ofText "m.py") ∧
    (load (fileWith "m.py" askedModule) (.ofText "m.py")).2 =
      .error (.abort (.raised "TypeError" "'int' object is not callable")) := by
  refine ⟨fun hsame => ?_, eq_of_abort?_eq_some (by decide +kernel)⟩
  have hok : (Stylesheet.compileFile (load (fileWith "m.py" defaultModule)) {}
      (.ofText "m.py")).2.isOk = true := by decide +kernel
  have hfailed : (Stylesheet.compileFile (load (fileWith "m.py"
      (defaultModule ++ "default = None\n"))) {} (.ofText "m.py")).2.isOk = false := by
    decide +kernel
  rw [hsame, hok] at hfailed
  cases hfailed

end Palette.ThemeFile
