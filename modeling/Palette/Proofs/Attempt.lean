import Mathlib.Data.List.Forall2
import Mathlib.Data.List.Perm.Basic
import Mathlib.Logic.Relation

/-!
# Attempts one after the other

When a step that may fail is taken for each item of a list, the walk succeeds exactly
if each step does, and its results are those of the steps, in order.  If some step
fails, the walk fails as the first of them (`mapM_eq_error_iff`).  So what holds of one
step can be carried over to the walk without another induction.
-/

namespace Palette

variable {ε α β γ : Type}

theorem bind_eq_ok_iff {first : Except ε α} {next : α → Except ε β} {result : β} :
    (first >>= next) = .ok result ↔ ∃ value, first = .ok value ∧ next value = .ok result := by
  cases first with
  | error fault => simp [bind, Except.bind]
  | ok value => simp [bind, Except.bind]

theorem bind_eq_error_iff {first : Except ε α} {next : α → Except ε β} {fault : ε} :
    (first >>= next) = .error fault ↔
      first = .error fault ∨ ∃ value, first = .ok value ∧ next value = .error fault := by
  cases first with
  | error other => simp [bind, Except.bind]
  | ok value => simp [bind, Except.bind]

/-- A second attempt whose success does not depend on the first one's value. -/
theorem exists_bind_eq_ok_iff {first : Except ε α} {next : α → Except ε β} {succeeds : Prop}
    (hnext : ∀ value, (∃ result, next value = .ok result) ↔ succeeds) :
    (∃ result, (first >>= next) = .ok result) ↔ (∃ value, first = .ok value) ∧ succeeds := by
  simp only [bind_eq_ok_iff]
  constructor
  · rintro ⟨result, value, hfirst, hresult⟩
    exact ⟨⟨value, hfirst⟩, (hnext value).1 ⟨result, hresult⟩⟩
  · rintro ⟨⟨value, hfirst⟩, hsucceeds⟩
    obtain ⟨result, hresult⟩ := (hnext value).2 hsucceeds
    exact ⟨result, value, hfirst, hresult⟩

/-- The last attempt, of which only the result is used. -/
theorem exists_bind_pure_eq_ok_iff {first : Except ε α} {make : α → β} :
    (∃ result, (first >>= fun value => pure (make value)) = .ok result) ↔
      ∃ value, first = .ok value := by
  cases first with
  | error fault => simp [bind, Except.bind]
  | ok value => simp [bind, Except.bind, pure, Except.pure]

theorem map_eq_ok_iff {first : Except ε α} {change : α → β} {result : β} :
    first.map change = .ok result ↔ ∃ value, first = .ok value ∧ change value = result := by
  cases first with
  | error fault => simp [Except.map]
  | ok value => simp [Except.map]

theorem map_eq_error_iff {first : Except ε α} {change : α → β} {fault : ε} :
    first.map change = .error fault ↔ first = .error fault := by
  cases first with
  | error other => simp [Except.map]
  | ok value => simp [Except.map]

theorem mapError_eq_ok_iff {δ : Type} {first : Except ε α} {change : ε → δ} {value : α} :
    first.mapError change = .ok value ↔ first = .ok value := by
  cases first with
  | error fault => simp [Except.mapError]
  | ok other => simp [Except.mapError]

theorem toOption_eq_some_iff {first : Except ε α} {value : α} :
    first.toOption = some value ↔ first = .ok value := by
  cases first with
  | error fault => simp [Except.toOption]
  | ok other => simp [Except.toOption]

theorem exists_map_eq_ok_iff {first : Except ε α} {change : α → β} :
    (∃ result, first.map change = .ok result) ↔ ∃ value, first = .ok value := by
  simp [map_eq_ok_iff]

/-- The results of a walk are the results of its steps. -/
theorem mapM_eq_ok_iff {step : α → Except ε β} {items : List α} {results : List β} :
    items.mapM step = .ok results ↔
      List.Forall₂ (fun item result => step item = .ok result) items results := by
  induction items generalizing results with
  | nil =>
      rw [List.mapM_nil, List.forall₂_nil_left_iff]
      constructor
      · intro hresults
        cases hresults
        rfl
      · rintro rfl
        rfl
  | cons item items ih =>
      rw [List.mapM_cons, bind_eq_ok_iff, List.forall₂_cons_left_iff]
      constructor
      · rintro ⟨result, hresult, hrest⟩
        obtain ⟨others, hothers, heq⟩ := bind_eq_ok_iff.1 hrest
        cases heq
        exact ⟨result, others, hresult, ih.1 hothers, rfl⟩
      · rintro ⟨result, others, hresult, hothers, rfl⟩
        exact ⟨result, hresult, bind_eq_ok_iff.2 ⟨others, ih.2 hothers, rfl⟩⟩

/-- A walk along two lists goes along the first one and then along the second. -/
theorem mapM_append_eq_ok_iff {step : α → Except ε β} {first second : List α} {results : List β} :
    (first ++ second).mapM step = .ok results ↔ ∃ earlier later,
      first.mapM step = .ok earlier ∧ second.mapM step = .ok later ∧
        results = earlier ++ later := by
  rw [List.mapM_append, bind_eq_ok_iff]
  constructor
  · rintro ⟨earlier, hearlier, hrest⟩
    obtain ⟨later, hlater, heq⟩ := bind_eq_ok_iff.1 hrest
    cases heq
    exact ⟨earlier, later, hearlier, hlater, rfl⟩
  · rintro ⟨earlier, later, hearlier, hlater, rfl⟩
    exact ⟨earlier, hearlier, bind_eq_ok_iff.2 ⟨later, hlater, rfl⟩⟩

theorem mapM_append_eq_error_iff {step : α → Except ε β} {first second : List α} {fault : ε} :
    (first ++ second).mapM step = .error fault ↔
      first.mapM step = .error fault ∨
        (∃ earlier, first.mapM step = .ok earlier) ∧ second.mapM step = .error fault := by
  rw [List.mapM_append, bind_eq_error_iff]
  refine or_congr_right ?_
  constructor
  · rintro ⟨earlier, hearlier, hrest⟩
    rcases bind_eq_error_iff.1 hrest with hsecond | ⟨_, -, hpure⟩
    · exact ⟨⟨earlier, hearlier⟩, hsecond⟩
    · cases hpure
  · rintro ⟨⟨earlier, hearlier⟩, hsecond⟩
    exact ⟨earlier, hearlier, bind_eq_error_iff.2 (Or.inl hsecond)⟩

/-- Two walks, one along the results of the other, are one walk of both steps. -/
theorem mapM_mapM_eq_ok_iff {δ η : Type} {first : α → Except ε β} {second : β → Except δ γ}
    {both : α → Except η γ} (hboth : ∀ item result, both item = .ok result ↔
      ∃ middle, first item = .ok middle ∧ second middle = .ok result)
    {items : List α} {results : List γ} :
    items.mapM both = .ok results ↔
      ∃ middles, items.mapM first = .ok middles ∧ middles.mapM second = .ok results := by
  simp only [mapM_eq_ok_iff]
  constructor
  · intro hresults
    induction hresults with
    | nil => exact ⟨[], .nil, .nil⟩
    | cons hresult _ ih =>
        obtain ⟨middle, hmiddle, hlast⟩ := (hboth _ _).1 hresult
        obtain ⟨middles, hmiddles, hrest⟩ := ih
        exact ⟨middle :: middles, .cons hmiddle hmiddles, .cons hlast hrest⟩
  · rintro ⟨middles, hmiddles, hresults⟩
    induction hmiddles generalizing results with
    | nil =>
        cases hresults
        exact .nil
    | cons hmiddle _ ih =>
        cases hresults with
        | cons hresult hrest => exact .cons ((hboth _ _).2 ⟨_, hmiddle, hresult⟩) (ih hrest)

/-- A walk in another order has the same results, in that order. -/
theorem exists_mapM_of_perm {step : α → Except ε β} {items others : List α} {results : List β}
    (hperm : others.Perm items) (hresults : items.mapM step = .ok results) :
    ∃ reordered, others.mapM step = .ok reordered ∧ reordered.Perm results := by
  simp only [mapM_eq_ok_iff] at hresults ⊢
  exact List.perm_comp_forall₂ hperm hresults

/-- A walk succeeds exactly if each of its steps does. -/
theorem exists_mapM_eq_ok_iff {step : α → Except ε β} {items : List α} :
    (∃ results, items.mapM step = .ok results) ↔
      ∀ item ∈ items, ∃ result, step item = .ok result := by
  induction items with
  | nil => exact ⟨fun _ _ hmem => absurd hmem List.not_mem_nil, fun _ => ⟨[], rfl⟩⟩
  | cons item items ih =>
      rw [List.forall_mem_cons, ← ih]
      simp only [mapM_eq_ok_iff, List.forall₂_cons_left_iff]
      constructor
      · rintro ⟨-, result, others, hresult, hothers, rfl⟩
        exact ⟨⟨result, hresult⟩, others, hothers⟩
      · rintro ⟨⟨result, hresult⟩, others, hothers⟩
        exact ⟨_, result, others, hresult, hothers, rfl⟩

/-- Every result is the result of some item. -/
theorem exists_of_mem_results {relation : α → β → Prop} {items : List α} {results : List β}
    (hresults : List.Forall₂ relation items results) :
    ∀ result ∈ results, ∃ item ∈ items, relation item result := by
  induction hresults with
  | nil => exact fun _ hmem => absurd hmem List.not_mem_nil
  | cons hresult _ ih =>
      rw [List.forall_mem_cons]
      refine ⟨⟨_, List.mem_cons_self, hresult⟩, fun result hmem => ?_⟩
      obtain ⟨item, hitem, hrelation⟩ := ih result hmem
      exact ⟨item, List.mem_cons_of_mem _ hitem, hrelation⟩

/-- What each result shows of its item, all results show of all items. -/
theorem map_eq_of_mapM {step : α → Except ε β} {items : List α} {results : List β}
    {ofItem : α → γ} {ofResult : β → γ} (hresults : items.mapM step = .ok results)
    (hstep : ∀ item ∈ items, ∀ result, step item = .ok result → ofResult result = ofItem item) :
    results.map ofResult = items.map ofItem := by
  rw [mapM_eq_ok_iff] at hresults
  induction hresults with
  | nil => rfl
  | cons hresult hrest ih =>
      rw [List.map_cons, List.map_cons, hstep _ List.mem_cons_self _ hresult,
        ih fun item hmem => hstep item (List.mem_cons_of_mem _ hmem)]

theorem flatMap_eq_of_mapM {step : α → Except ε β} {items : List α} {results : List β}
    {ofItem : α → List γ} {ofResult : β → List γ} (hresults : items.mapM step = .ok results)
    (hstep : ∀ item ∈ items, ∀ result, step item = .ok result → ofResult result = ofItem item) :
    results.flatMap ofResult = items.flatMap ofItem := by
  rw [List.flatMap_def, List.flatMap_def, map_eq_of_mapM hresults hstep]

theorem filterMap_eq_of_mapM {step : α → Except ε β} {items : List α} {results : List β}
    {ofItem : α → Option γ} {ofResult : β → Option γ} (hresults : items.mapM step = .ok results)
    (hstep : ∀ item ∈ items, ∀ result, step item = .ok result → ofResult result = ofItem item) :
    results.filterMap ofResult = items.filterMap ofItem := by
  rw [← Function.id_comp ofResult, ← List.filterMap_map, map_eq_of_mapM hresults hstep,
    List.filterMap_map, Function.id_comp]

theorem map_id_id (attempt : Except ε (List α)) :
    attempt.map (List.map id) = attempt := by
  cases attempt <;> simp [Except.map]

theorem map_getD_error (found : Option (Except ε α)) (fault : ε) (change : α → β) :
    (found.getD (.error fault)).map change =
      (found.map (Except.map change)).getD (.error fault) := by
  cases found <;> rfl

/-- Changing all results of a walk is changing the result of each step. -/
theorem map_mapM {step : α → Except ε β} (change : β → γ) (items : List α) :
    (items.mapM step).map (List.map change) = items.mapM fun item => (step item).map change := by
  induction items with
  | nil => rfl
  | cons item items ih =>
      rw [List.mapM_cons, List.mapM_cons, ← ih]
      cases step item with
      | error fault => rfl
      | ok result => cases items.mapM step <;> rfl

/-- Two walks that differ in one item end alike if the step takes both items alike. -/
theorem mapM_append_cons_congr {step : α → Except ε β} {first second : α}
    (hstep : step first = step second) (front back : List α) :
    (front ++ first :: back).mapM step = (front ++ second :: back).mapM step := by
  rw [List.mapM_append, List.mapM_append, List.mapM_cons, List.mapM_cons, hstep]

/-- An item may be inserted into a walk whose results are gathered, if its own result is not
seen there. -/
theorem map_mapM_insert {step : α → Except ε β} {item : α} {result : β} {gather : List β → γ}
    (hstep : step item = .ok result)
    (hgather : ∀ earlier later, gather (earlier ++ result :: later) = gather (earlier ++ later))
    (front back : List α) :
    ((front ++ item :: back).mapM step).map gather = ((front ++ back).mapM step).map gather := by
  rw [List.mapM_append, List.mapM_append, List.mapM_cons, hstep]
  cases front.mapM step with
  | error fault => rfl
  | ok earlier =>
      cases back.mapM step with
      | error fault => rfl
      | ok later => exact congrArg Except.ok (hgather earlier later)

/-! ## The first failure -/

/-- An item that a walk comes to when it goes on only behind items that pass. -/
def Reached (passes : α → Prop) (items : List α) (item : α) : Prop :=
  ∃ before after, items = before ++ item :: after ∧ ∀ earlier ∈ before, passes earlier

theorem not_reached_nil (passes : α → Prop) (item : α) : ¬ Reached passes [] item := by
  rintro ⟨before, after, hitems, -⟩
  simp at hitems

theorem reached_cons_iff (passes : α → Prop) (head : α) (rest : List α) (item : α) :
    Reached passes (head :: rest) item ↔ item = head ∨ passes head ∧ Reached passes rest item := by
  constructor
  · rintro ⟨before, after, hitems, hpass⟩
    cases before with
    | nil => exact Or.inl (List.cons.inj hitems).1.symm
    | cons first before =>
        obtain ⟨rfl, hrest⟩ := List.cons.inj hitems
        rw [List.forall_mem_cons] at hpass
        exact Or.inr ⟨hpass.1, before, after, hrest, hpass.2⟩
  · rintro (rfl | ⟨hhead, before, after, rfl, hpass⟩)
    · exact ⟨[], rest, rfl, fun _ hmem => absurd hmem List.not_mem_nil⟩
    · exact ⟨head :: before, after, rfl, List.forall_mem_cons.2 ⟨hhead, hpass⟩⟩

/-- Only one item that does not pass is reached. -/
theorem Reached.unique {passes : α → Prop} {items : List α} {first second : α}
    (hfirst : Reached passes items first) (hstops : ¬ passes first)
    (hsecond : Reached passes items second) (hends : ¬ passes second) : first = second := by
  induction items with
  | nil => exact absurd hfirst (not_reached_nil passes first)
  | cons head rest ih =>
      rw [reached_cons_iff] at hfirst hsecond
      rcases hfirst with rfl | ⟨hpass, hfirst⟩
      · rcases hsecond with rfl | ⟨hpass, -⟩
        · rfl
        · exact absurd hpass hstops
      · rcases hsecond with rfl | ⟨-, hsecond⟩
        · exact absurd hpass hends
        · exact ih hfirst hsecond

theorem Reached.mem {passes : α → Prop} {items : List α} {item : α}
    (hreached : Reached passes items item) : item ∈ items := by
  obtain ⟨before, after, rfl, -⟩ := hreached
  exact List.mem_append_right _ List.mem_cons_self

/-- Where not everything passes, something is reached that does not. -/
theorem exists_reached_not {passes : α → Prop} {items : List α}
    (hsome : ¬ ∀ item ∈ items, passes item) :
    ∃ item, Reached passes items item ∧ ¬ passes item := by
  induction items with
  | nil => exact absurd (fun _ hmem => absurd hmem List.not_mem_nil) hsome
  | cons head rest ih =>
      by_cases hhead : passes head
      · rw [List.forall_mem_cons, and_iff_right hhead] at hsome
        obtain ⟨item, hreached, hitem⟩ := ih hsome
        exact ⟨item, (reached_cons_iff ..).2 (Or.inr ⟨hhead, hreached⟩), hitem⟩
      · exact ⟨head, (reached_cons_iff ..).2 (Or.inl rfl), hhead⟩

/-- A walk fails as the first step that fails. -/
theorem mapM_eq_error_iff {step : α → Except ε β} {items : List α} {fault : ε} :
    items.mapM step = .error fault ↔
      ∃ item, Reached (fun earlier => ∃ result, step earlier = .ok result) items item ∧
        step item = .error fault := by
  induction items with
  | nil =>
      constructor
      · intro hfault
        cases hfault
      · rintro ⟨item, hreached, -⟩
        exact absurd hreached (not_reached_nil _ item)
  | cons head rest ih =>
      rw [List.mapM_cons, bind_eq_error_iff]
      simp only [reached_cons_iff]
      constructor
      · rintro (hhead | ⟨result, hresult, hrest⟩)
        · exact ⟨head, Or.inl rfl, hhead⟩
        · rcases bind_eq_error_iff.1 hrest with hrest | ⟨_, -, hpure⟩
          · obtain ⟨item, hreached, hitem⟩ := ih.1 hrest
            exact ⟨item, Or.inr ⟨⟨result, hresult⟩, hreached⟩, hitem⟩
          · cases hpure
      · rintro ⟨item, rfl | ⟨⟨result, hresult⟩, hreached⟩, hitem⟩
        · exact Or.inl hitem
        · have hrest := ih.2 ⟨item, hreached, hitem⟩
          exact Or.inr ⟨result, hresult, bind_eq_error_iff.2 (Or.inl hrest)⟩

/-! ## Attempts that fail alike -/

/-- Two attempts fail alike if each fails exactly where the other does, with the same
fault. -/
def FailAlike (first : Except ε α) (second : Except ε β) : Prop :=
  ∀ fault, first = .error fault ↔ second = .error fault

theorem failAlike_error (fault : ε) :
    FailAlike (.error fault : Except ε α) (.error fault : Except ε β) := by
  intro other
  rw [Except.error.injEq, Except.error.injEq]

theorem failAlike_ok (first : α) (second : β) :
    FailAlike (.ok first : Except ε α) (.ok second : Except ε β) := by
  intro fault
  constructor
  · intro hfault
    cases hfault
  · intro hfault
    cases hfault

theorem FailAlike.bind {δ : Type} {first : Except ε α} {second : Except ε β}
    {next : α → Except ε γ} {other : β → Except ε δ} (halike : FailAlike first second)
    (hnext : ∀ value result, first = .ok value → second = .ok result →
      FailAlike (next value) (other result)) :
    FailAlike (first >>= next) (second >>= other) := by
  cases first with
  | error fault =>
      rw [(halike fault).1 rfl]
      exact failAlike_error fault
  | ok value =>
      cases second with
      | error fault => cases (halike fault).2 rfl
      | ok result => exact hnext value result rfl rfl

theorem FailAlike.map {first : Except ε α} {second : Except ε β} (halike : FailAlike first second)
    {δ : Type} (change : α → γ) (other : β → δ) :
    FailAlike (first.map change) (second.map other) := by
  cases first with
  | error fault =>
      rw [(halike fault).1 rfl]
      exact failAlike_error fault
  | ok value =>
      cases second with
      | error fault => cases (halike fault).2 rfl
      | ok result => exact failAlike_ok _ _

/-- Two walks fail alike if their steps do. -/
theorem failAlike_mapM {step : α → Except ε β} {other : α → Except ε γ}
    (hsteps : ∀ item, FailAlike (step item) (other item)) (items : List α) :
    FailAlike (items.mapM step) (items.mapM other) := by
  induction items with
  | nil => exact failAlike_ok [] []
  | cons item items ih =>
      rw [List.mapM_cons, List.mapM_cons]
      exact (hsteps item).bind fun _ _ _ _ => ih.bind fun _ _ _ _ => failAlike_ok _ _

/-! ## Changes one after the other -/

/-- What one change leaves alone, any number of them does. -/
theorem eq_of_eqvGen {α γ : Type} {view : α → γ} {change : α → α → Prop} {first second : α}
    (hview : ∀ value other, change value other → view value = view other)
    (hchanges : Relation.EqvGen change first second) : view first = view second := by
  induction hchanges with
  | rel value other hchange => exact hview value other hchange
  | refl value => rfl
  | symm value other _ ih => exact ih.symm
  | trans value middle other _ _ ihfirst ihsecond => exact ihfirst.trans ihsecond

end Palette
