import Palette.Proofs.Scheme
import Palette.Script.Run

/-!
# What a module binds

An expression without names has the same value in every namespace (`value_of_isLiteral`), so
what a statement of literals binds is known without running what stands before it
(`Statement.bindings`).  A run of such statements makes these bindings one after the other and
nothing else (`run_of_run_eq_ok`).

Of the bindings made, the last one of a name counts (`find?_bindAll`) and the first one gives
the name its place (`map_fst_bindAll`).  In a namespace no name has two places, so membership
is look-up (`mem_iff_find?_eq_some`).
-/

namespace Palette.Script

/-! ## Literals -/

mutual

/-- Whether an expression has no names in it. -/
def Expression.isLiteral : Expression → Bool
  | .literal _ => true
  | .name _ => false
  | .list items => areLiterals items
  | .tuple items => areLiterals items
  | .set items => areLiterals items
  | .mapping entries => areLiteralEntries entries
  | .negative operand => operand.isLiteral
  | .positive operand => operand.isLiteral
  | .quotient left right => left.isLiteral && right.isLiteral

/-- Whether none of several expressions has names in it. -/
def areLiterals : List Expression → Bool
  | [] => true
  | item :: items => item.isLiteral && areLiterals items

/-- Whether the keys and values of a mapping's expressions have no names in them. -/
def areLiteralEntries : List (Expression × Expression) → Bool
  | [] => true
  | (key, item) :: entries => key.isLiteral && item.isLiteral && areLiteralEntries entries

end

section

variable (names others : Namespace)

-- Only the value of a name looks into the namespace, so all four go along the recursion of
-- `Expression.value` and meet no name.
mutual

/-- What has no names in it has the same value everywhere. -/
theorem value_of_isLiteral : ∀ expression : Expression, expression.isLiteral = true →
    expression.value names = expression.value others
  | .literal _, _ => rfl
  | .name _, hliteral => by cases hliteral
  | .list items, hliteral => by
      rw [Expression.value, Expression.value, values_of_areLiterals items hliteral]
  | .tuple items, hliteral => by
      rw [Expression.value, Expression.value, values_of_areLiterals items hliteral]
  | .set items, hliteral => by
      rw [Expression.value, Expression.value, elements_of_areLiterals _ items hliteral]
  | .mapping entries, hliteral => by
      rw [Expression.value, Expression.value,
        entryValues_of_areLiteralEntries _ _ entries hliteral]
  | .negative operand, hliteral => by
      rw [Expression.value, Expression.value, value_of_isLiteral operand hliteral]
  | .positive operand, hliteral => by
      rw [Expression.value, Expression.value, value_of_isLiteral operand hliteral]
  | .quotient left right, hliteral => by
      rw [Expression.isLiteral, Bool.and_eq_true] at hliteral
      rw [Expression.value, Expression.value, value_of_isLiteral left hliteral.1,
        value_of_isLiteral right hliteral.2]

theorem values_of_areLiterals : ∀ items : List Expression, areLiterals items = true →
    values names items = values others items
  | [], _ => rfl
  | item :: items, hliteral => by
      rw [areLiterals, Bool.and_eq_true] at hliteral
      rw [values, values, value_of_isLiteral item hliteral.1,
        values_of_areLiterals items hliteral.2]

theorem elements_of_areLiterals (atOnce : Bool) :
    ∀ items : List Expression, areLiterals items = true →
      elements names atOnce items = elements others atOnce items
  | [], _ => rfl
  | item :: items, hliteral => by
      rw [areLiterals, Bool.and_eq_true] at hliteral
      rw [elements, elements, value_of_isLiteral item hliteral.1,
        elements_of_areLiterals atOnce items hliteral.2]

theorem entryValues_of_areLiteralEntries (total index : Nat) :
    ∀ entries : List (Expression × Expression), areLiteralEntries entries = true →
      entryValues names total index entries = entryValues others total index entries
  | [], _ => rfl
  | (key, item) :: entries, hliteral => by
      rw [areLiteralEntries, Bool.and_eq_true, Bool.and_eq_true] at hliteral
      rw [entryValues, entryValues, value_of_isLiteral key hliteral.1.1,
        value_of_isLiteral item hliteral.1.2,
        entryValues_of_areLiteralEntries total (index + 1) entries hliteral.2]

end

end

/-! ## Statements -/

/-- Whether a statement spells the values that it makes without names. -/
def Statement.isSupported : Statement → Bool
  | .assign _ value => value.isLiteral
  | .evaluate value => value.isLiteral
  | _ => true

/-- The names that a statement binds, and what to, if no failure stops it. -/
def Statement.bindings : Statement → List (String × Binding)
  | .assign targets value =>
    match value.value [] with
    | .error _ => []
    | .ok found => targets.map fun target => (target, .value found)
  | .importModules modules => modules.map fun name => (name, .importedModule)
  | _ => []

/-- A statement without names that no failure stops. -/
structure Statement.Executes (statement : Statement) : Prop where
  supported : statement.isSupported = true
  completes : ∃ bound, statement.run [] = .ok bound

/-- Makes bindings one after the other. -/
def Namespace.bindAll (names : Namespace) (bindings : List (String × Binding)) : Namespace :=
  bindings.foldl (fun bound entry => bound.bind entry.1 entry.2) names

theorem Namespace.bindAll_append (names : Namespace) (first second : List (String × Binding)) :
    names.bindAll (first ++ second) = (names.bindAll first).bindAll second :=
  List.foldl_append

theorem importAll_eq_ok_iff {names bound : Namespace} {modules : List String} :
    importAll names modules = .ok bound ↔ (∀ name ∈ modules, name ∈ importable) ∧
      bound = names.bindAll (modules.map fun name => (name, .importedModule)) := by
  induction modules generalizing names with
  | nil =>
      rw [importAll, Except.ok.injEq, eq_comm]
      exact ⟨fun hbound => ⟨List.forall_mem_nil _, hbound⟩, And.right⟩
  | cons name modules ih =>
      rw [importAll, List.forall_mem_cons]
      split
      · rename_i hname
        rw [ih]
        exact ⟨fun ⟨hmodules, hbound⟩ => ⟨⟨hname, hmodules⟩, hbound⟩,
          fun ⟨⟨_, hmodules⟩, hbound⟩ => ⟨hmodules, hbound⟩⟩
      · rename_i hname
        exact ⟨fun himport => (by cases himport), fun hall => absurd hall.1.1 hname⟩

theorem run_assign_of_isLiteral {value : Expression} (hliteral : value.isLiteral = true)
    (names : Namespace) (targets : List String) :
    (Statement.assign targets value).run names = (value.value []).map fun found =>
      names.bindAll (targets.map fun target => (target, .value found)) := by
  have hassigned : assigned names value = (value.value []).map .value := by
    rw [value_of_isLiteral [] names value hliteral]
    cases value with
    | name name => cases hliteral
    | _ => rfl
  rw [Statement.run, hassigned]
  cases value.value [] with
  | error raised => rfl
  | ok found =>
      simp only [Except.map, Namespace.bindAll, List.foldl_map]

/-- A statement without names is stopped in every namespace, or makes its bindings in every
one. -/
theorem Statement.run_cases {statement : Statement} (hsupported : statement.isSupported = true) :
    (∀ names, ∃ raised, statement.run names = .error raised) ∨
      ∀ names, statement.run names = .ok (names.bindAll statement.bindings) := by
  cases statement with
  | assign targets value =>
      rcases hvalue : value.value [] with raised | found
      · refine Or.inl fun names => ⟨raised, ?_⟩
        rw [run_assign_of_isLiteral hsupported, hvalue]
        rfl
      · refine Or.inr fun names => ?_
        rw [run_assign_of_isLiteral hsupported, bindings, hvalue]
        rfl
  | importModules modules =>
      by_cases hall : ∀ name ∈ modules, name ∈ importable
      · exact Or.inr fun names => importAll_eq_ok_iff.2 ⟨hall, rfl⟩
      · refine Or.inl fun names => ?_
        rcases himport : importAll names modules with raised | bound
        · exact ⟨raised, himport⟩
        · exact absurd (importAll_eq_ok_iff.1 himport).1 hall
  | raise name =>
      refine Or.inl fun names => ?_
      rw [run]
      split <;> exact ⟨_, rfl⟩
  | raiseMade name arguments =>
      refine Or.inl fun names => ?_
      rw [run]
      split <;> exact ⟨_, rfl⟩
  | raiseAgain => exact Or.inl fun names => ⟨_, rfl⟩
  | raiseValue value =>
      refine Or.inl fun names => ?_
      rw [run]
      split <;> exact ⟨_, rfl⟩
  | evaluate value =>
      -- evaluating is an assignment that has no targets
      have hrun (names : Namespace) :
          (Statement.evaluate value).run names = (Statement.assign [] value).run names := rfl
      simp only [hrun, run_assign_of_isLiteral hsupported]
      rcases value.value [] with raised | found
      · exact Or.inl fun names => ⟨raised, rfl⟩
      · exact Or.inr fun names => rfl
  | nothing => exact Or.inr fun names => rfl

theorem Statement.run_eq_ok_iff {statement : Statement} (hsupported : statement.isSupported = true)
    {names bound : Namespace} :
    statement.run names = .ok bound ↔
      statement.Executes ∧ bound = names.bindAll statement.bindings := by
  rcases run_cases hsupported with hstopped | hbinds
  · have hnever (names bound : Namespace) : statement.run names ≠ .ok bound := by
      intro hrun
      obtain ⟨raised, hraised⟩ := hstopped names
      rw [hraised] at hrun
      cases hrun
    constructor
    · intro hrun
      exact absurd hrun (hnever names bound)
    · rintro ⟨⟨-, other, hother⟩, -⟩
      exact absurd hother (hnever [] other)
  · rw [hbinds, Except.ok.injEq, eq_comm]
    exact ⟨fun hbound => ⟨⟨hsupported, _, hbinds []⟩, hbound⟩, And.right⟩

/-! ## Runs -/

/-- All bindings that statements make, in their order. -/
def bindings (statements : List Statement) : List (String × Binding) :=
  statements.flatMap Statement.bindings

/-- What a name is bound to last. -/
def finalBinding? (statements : List Statement) (name : String) : Option Binding :=
  Namespace.find? (bindings statements).reverse name

/-- A run without names makes all bindings one after the other, unless some statement is
stopped. -/
theorem run_eq_ok_iff {statements : List Statement}
    (hsupported : ∀ statement ∈ statements, statement.isSupported = true)
    {names bound : Namespace} :
    run names statements = .ok bound ↔
      (∀ statement ∈ statements, statement.Executes) ∧
        bound = names.bindAll (bindings statements) := by
  induction statements generalizing names with
  | nil =>
      rw [run, Except.ok.injEq, eq_comm]
      exact ⟨fun hbound => ⟨List.forall_mem_nil _, hbound⟩, And.right⟩
  | cons statement statements ih =>
      obtain ⟨hfirst, hrest⟩ := List.forall_mem_cons.1 hsupported
      have hbindings : names.bindAll (bindings (statement :: statements)) =
          (names.bindAll statement.bindings).bindAll (bindings statements) :=
        names.bindAll_append ..
      rw [run, List.forall_mem_cons, hbindings]
      constructor
      · intro hrun
        split at hrun
        · cases hrun
        · rename_i next hnext
          obtain ⟨hexecutes, rfl⟩ := (Statement.run_eq_ok_iff hfirst).1 hnext
          obtain ⟨hall, hbound⟩ := (ih hrest).1 hrun
          exact ⟨⟨hexecutes, hall⟩, hbound⟩
      · rintro ⟨⟨hexecutes, hall⟩, hbound⟩
        rw [(Statement.run_eq_ok_iff hfirst).2 ⟨hexecutes, rfl⟩]
        exact (ih hrest).2 ⟨hall, hbound⟩

/-! ## Looking names up -/

namespace Namespace

theorem find?_cons (entry : String × Binding) (names : Namespace) (name : String) :
    find? (entry :: names) name = if entry.1 = name then some entry.2 else names.find? name := by
  rw [find?, List.find?_cons]
  by_cases hname : entry.1 = name
  · rw [if_pos hname, beq_iff_eq.2 hname]
    rfl
  · rw [if_neg hname, beq_eq_false_iff_ne.2 hname]
    rfl

theorem find?_append (first second : Namespace) (name : String) :
    find? (first ++ second) name = (first.find? name).or (second.find? name) := by
  rw [find?, List.find?_append, Option.map_or]
  rfl

theorem mem_of_find?_eq_some {names : Namespace} {name : String} {binding : Binding}
    (hfind : names.find? name = some binding) : (name, binding) ∈ names := by
  obtain ⟨entry, hentry, rfl⟩ := Option.map_eq_some_iff.1 hfind
  have hname := List.find?_some hentry
  rw [beq_iff_eq] at hname
  exact hname ▸ List.mem_of_find?_eq_some hentry

theorem find?_eq_none_iff {names : Namespace} {name : String} :
    names.find? name = none ↔ name ∉ names.map Prod.fst := by
  simp only [find?, Option.map_eq_none_iff, List.find?_eq_none, List.mem_map, not_exists, not_and,
    beq_iff_eq]

theorem bind_eq (names : Namespace) (name : String) (binding : Binding) :
    names.bind name binding =
      if name ∈ names.map Prod.fst then
        List.map (fun entry => if entry.1 = name then (name, binding) else entry) names
      else names ++ [(name, binding)] := by
  have hany : (List.any names fun entry => entry.1 == name) = true ↔ name ∈ names.map Prod.fst := by
    simp
  rw [bind]
  exact if_congr hany rfl rfl

/-- A name that is bound to something else keeps its place. -/
theorem find?_rebind (names : Namespace) (name other : String) (binding : Binding) :
    find? (List.map (fun entry => if entry.1 = name then (name, binding) else entry) names) other =
      if name = other then (names.find? name).map fun _ => binding else names.find? other := by
  induction names with
  | nil => exact (ite_self none).symm
  | cons entry names ih =>
      rw [List.map_cons, find?_cons, find?_cons, find?_cons, ih]
      by_cases hentry : entry.1 = name
      · rw [if_pos hentry, if_pos hentry, hentry]
        by_cases hname : name = other
        · rw [if_pos hname, if_pos hname]
          rfl
        · rw [if_neg hname, if_neg hname, if_neg hname, if_neg hname]
      · rw [if_neg hentry, if_neg hentry]
        by_cases hname : name = other
        · rw [if_pos hname, if_pos hname, if_neg fun heq => hentry (heq.trans hname.symm)]
        · rw [if_neg hname, if_neg hname]

theorem find?_bind (names : Namespace) (name other : String) (binding : Binding) :
    (names.bind name binding).find? other =
      if name = other then some binding else names.find? other := by
  rw [bind_eq]
  by_cases hmem : name ∈ names.map Prod.fst
  · rw [if_pos hmem, find?_rebind]
    obtain ⟨found, hfound⟩ :=
      Option.ne_none_iff_exists'.1 fun hnone => find?_eq_none_iff.1 hnone hmem
    rw [hfound, Option.map_some]
  · -- a name without a place comes behind all others
    rw [if_neg hmem, find?_append, find?_cons]
    by_cases hname : name = other
    · rw [if_pos hname, if_pos hname, ← hname, find?_eq_none_iff.2 hmem, Option.none_or]
    · rw [if_neg hname, if_neg hname]
      exact Option.or_none

theorem map_fst_bind (names : Namespace) (name : String) (binding : Binding) :
    (names.bind name binding).map Prod.fst =
      if name ∈ names.map Prod.fst then names.map Prod.fst else names.map Prod.fst ++ [name] := by
  rw [bind_eq]
  split
  · rw [List.map_map]
    refine List.map_congr_left fun entry _ => ?_
    show (if entry.1 = name then (name, binding) else entry).1 = entry.1
    split
    · rename_i hname
      exact hname.symm
    · rfl
  · exact List.map_append

/-- The last of the bindings counts. -/
theorem find?_bindAll (names : Namespace) (bindings : List (String × Binding)) (name : String) :
    (names.bindAll bindings).find? name =
      (find? bindings.reverse name).or (names.find? name) := by
  induction bindings generalizing names with
  | nil => rfl
  | cons entry bindings ih =>
      have hcons : names.bindAll (entry :: bindings) =
          (names.bind entry.1 entry.2).bindAll bindings := rfl
      -- in the reversed list the binding stands behind the later ones, as it should
      rw [hcons, ih, List.reverse_cons, find?_append, Option.or_assoc, find?_cons, find?_bind]
      split <;> rfl

/-- The first of the bindings of a name gives it its place. -/
theorem map_fst_bindAll (bindings : List (String × Binding)) :
    (bindAll [] bindings).map Prod.fst = Scheme.firstOccurrences (bindings.map Prod.fst) := by
  induction bindings using List.reverseRecOn with
  | nil => rfl
  | append_singleton bindings last ih =>
      rw [bindAll_append, List.map_append, List.map_singleton, Scheme.firstOccurrences_concat, ← ih]
      exact map_fst_bind ..

/-- Where no name has two places, an entry is what looking up its name gives. -/
theorem mem_iff_find?_eq_some {names : Namespace} (hnodup : (names.map Prod.fst).Nodup)
    (name : String) (binding : Binding) :
    (name, binding) ∈ names ↔ names.find? name = some binding := by
  refine ⟨fun hmem => ?_, mem_of_find?_eq_some⟩
  obtain ⟨found, hfound⟩ : ∃ found, names.find? name = some found :=
    Option.ne_none_iff_exists'.1 fun hnone => find?_eq_none_iff.1 hnone (List.mem_map_of_mem hmem)
  -- what is found is an entry of the same name, and there is only one
  have hentry : (name, found) = (name, binding) :=
    List.inj_on_of_nodup_map hnodup (mem_of_find?_eq_some hfound) hmem rfl
  rw [hfound, (Prod.mk.inj hentry).2]

end Namespace

/-! ## The last bindings of a run -/

section

variable {statements : List Statement} {names : Namespace}

theorem bindings_append (first second : List Statement) :
    bindings (first ++ second) = bindings first ++ bindings second :=
  List.flatMap_append

theorem finalBinding?_append (first second : List Statement) (name : String) :
    finalBinding? (first ++ second) name =
      (finalBinding? second name).or (finalBinding? first name) := by
  rw [finalBinding?, bindings_append, List.reverse_append, Namespace.find?_append]
  rfl

/-- A statement that does not bind a name is not seen in what the name is bound to. -/
theorem finalBinding?_insert {statement : Statement} {name : String}
    (hother : ∀ entry ∈ statement.bindings, entry.1 ≠ name) (before after : List Statement) :
    finalBinding? (before ++ statement :: after) name = finalBinding? (before ++ after) name := by
  have hnone : finalBinding? [statement] name = none := by
    rw [finalBinding?, Namespace.find?_eq_none_iff, List.mem_map]
    rintro ⟨entry, hmem, hname⟩
    rw [List.mem_reverse, bindings, List.flatMap_singleton] at hmem
    exact hother entry hmem hname
  rw [List.append_cons, finalBinding?_append, finalBinding?_append, finalBinding?_append, hnone,
    Option.none_or]

theorem mem_of_finalBinding?_eq_some {name : String} {binding : Binding}
    (hfinal : finalBinding? statements name = some binding) :
    ∃ statement ∈ statements, (name, binding) ∈ statement.bindings := by
  have hmem := Namespace.mem_of_find?_eq_some hfinal
  rwa [List.mem_reverse, bindings, List.mem_flatMap] at hmem

/-- After a run without names, a name is bound to what it was bound to last. -/
theorem find?_of_run (hsupported : ∀ statement ∈ statements, statement.isSupported = true)
    (hrun : run [] statements = .ok names) (name : String) :
    names.find? name = finalBinding? statements name := by
  obtain ⟨-, rfl⟩ := (run_eq_ok_iff hsupported).1 hrun
  rw [Namespace.find?_bindAll]
  exact Option.or_none

/-- After such a run, the names stand in the order of their first bindings. -/
theorem listsOnce_of_run (hsupported : ∀ statement ∈ statements, statement.isSupported = true)
    (hrun : run [] statements = .ok names) :
    Scheme.ListsOnce ((bindings statements).map Prod.fst) (names.map Prod.fst) := by
  obtain ⟨-, rfl⟩ := (run_eq_ok_iff hsupported).1 hrun
  rw [Namespace.map_fst_bindAll]
  exact Scheme.listsOnce_firstOccurrences _

end

end Palette.Script
