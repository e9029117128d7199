import Mathlib.Data.List.Induction
import Mathlib.Data.List.Nodup
import Palette.Proofs.Attempt
import Palette.Proofs.Text.LetterCase
import Palette.Proofs.Text.Trimming
import Palette.Scheme

/-!
# Which directives are declared

A directive is read as one of three things: as empty, as the schemes that it declares, or
as invalid, and its words in lower case decide which (`read_eq_declared_iff`).  What is
declared lists each word once, in the order of first occurrence (`ListsOnce`), and there is
only one such list (`ListsOnce.unique`).

So whatever leaves this list alone leaves the declaration alone: blanks around the words and
longer gaps between them, the case of ASCII letters, and words that have occurred before
(`Rewritten`).  The declared words, written one after the other, are a directive that declares
them again.
-/

namespace Palette.Scheme

open Palette.Text

/-! ## Each word once -/

/-- The kept words are all the words, each once, in the order of first occurrence. -/
structure ListsOnce (names kept : List String) : Prop where
  nodup : kept.Nodup
  mem_iff : ∀ name, name ∈ kept ↔ name ∈ names
  ordered : kept.Pairwise fun first second => names.idxOf first < names.idxOf second

theorem ListsOnce.unique {names kept others : List String} (hkept : ListsOnce names kept)
    (hothers : ListsOnce names others) : kept = others := by
  have hperm : kept.Perm others := by
    rw [List.perm_ext_iff_of_nodup hkept.nodup hothers.nodup]
    intro name
    rw [hkept.mem_iff, hothers.mem_iff]
  refine hperm.eq_of_pairwise ?_ hkept.ordered hothers.ordered
  intro first second _ _ hlt hgt
  omega

/-- A later word is kept if it has not occurred. -/
theorem firstOccurrences_concat (names : List String) (name : String) :
    firstOccurrences (names ++ [name]) =
      if name ∈ firstOccurrences names then firstOccurrences names
      else firstOccurrences names ++ [name] := by
  rw [firstOccurrences, List.foldl_append]
  rfl

theorem mem_firstOccurrences_iff (names : List String) (name : String) :
    name ∈ firstOccurrences names ↔ name ∈ names := by
  induction names using List.reverseRecOn with
  | nil => rfl
  | append_singleton names last ih =>
      rw [firstOccurrences_concat, List.mem_append, ← ih, List.mem_singleton]
      split
      · rename_i hlast
        constructor
        · exact Or.inl
        · rintro (hname | rfl)
          · exact hname
          · exact hlast
      · rw [List.mem_append, List.mem_singleton]

theorem listsOnce_firstOccurrences (names : List String) :
    ListsOnce names (firstOccurrences names) := by
  induction names using List.reverseRecOn with
  | nil => exact ⟨List.nodup_nil, fun _ => Iff.rfl, List.Pairwise.nil⟩
  | append_singleton names last ih =>
      have hordered : (firstOccurrences names).Pairwise fun first second =>
          (names ++ [last]).idxOf first < (names ++ [last]).idxOf second := by
        refine ih.ordered.imp_of_mem fun {first second} hfirst hsecond hlt => ?_
        rwa [List.idxOf_append_of_mem ((ih.mem_iff first).1 hfirst),
          List.idxOf_append_of_mem ((ih.mem_iff second).1 hsecond)]
      refine ⟨?_, mem_firstOccurrences_iff _, ?_⟩
      · rw [firstOccurrences_concat]
        split
        · exact ih.nodup
        · rename_i hlast
          exact List.nodup_append.2 ⟨ih.nodup, List.nodup_singleton last, by
            rintro first hfirst _ hsecond rfl
            exact hlast (List.mem_singleton.1 hsecond ▸ hfirst)⟩
      · rw [firstOccurrences_concat]
        split
        · exact hordered
        · -- the new word comes behind all that are there
          rename_i hlast
          rw [List.pairwise_append]
          refine ⟨hordered, List.pairwise_singleton .., fun first hfirst second hsecond => ?_⟩
          obtain rfl := List.mem_singleton.1 hsecond
          have hmem := (ih.mem_iff first).1 hfirst
          rw [mem_firstOccurrences_iff] at hlast
          rw [List.idxOf_append_of_mem hmem, List.idxOf_append_of_notMem hlast]
          exact Nat.lt_of_lt_of_le (List.idxOf_lt_length_of_mem hmem) (Nat.le_add_right _ _)

/-- A word that has occurred is not kept again. -/
theorem firstOccurrences_append_cons {names : List String} {name : String}
    (hname : name ∈ names) (behind : List String) :
    firstOccurrences (names ++ name :: behind) = firstOccurrences (names ++ behind) := by
  have hkept : firstOccurrences (names ++ [name]) = firstOccurrences names := by
    rw [firstOccurrences_concat, if_pos ((mem_firstOccurrences_iff ..).2 hname)]
  unfold firstOccurrences at hkept ⊢
  rw [List.append_cons, List.foldl_append, hkept, List.foldl_append]

theorem firstOccurrences_of_nodup {names : List String} (hnodup : names.Nodup) :
    firstOccurrences names = names := by
  induction names using List.reverseRecOn with
  | nil => rfl
  | append_singleton names last ih =>
      have hparts := List.nodup_append.1 hnodup
      rw [firstOccurrences_concat, ih hparts.1, if_neg]
      intro hlast
      exact hparts.2.2 last hlast last List.mem_cons_self rfl

/-! ## Reading -/

theorem mem_valid_iff (name : String) : name ∈ valid ↔ name = "light" ∨ name = "dark" := by
  simp [valid]

theorem wordsOf_trim (directive : List Char) : wordsOf (trim directive) = wordsOf directive := by
  rw [wordsOf, words_trim, wordsOf]

theorem wordsOf_eq_nil_iff (directive : List Char) :
    wordsOf directive = [] ↔ trim directive = [] := by
  rw [wordsOf, List.map_eq_nil_iff, trim_eq_nil_iff]

/-- The words of a directive decide what it comes to. -/
theorem read_eq (raw : String) :
    read (some raw) =
      if wordsOf raw.toList = [] then .empty
      else if ∀ name ∈ wordsOf raw.toList, name ∈ valid then
        .declared (firstOccurrences (wordsOf raw.toList))
      else .invalid (String.ofList (trim raw.toList)) := by
  simp only [read, wordsOf_trim, wordsOf_eq_nil_iff, List.all_eq_true, decide_eq_true_eq]

theorem read_eq_declared_iff (raw : String) (kept : List String) :
    read (some raw) = .declared kept ↔
      wordsOf raw.toList ≠ [] ∧ (∀ name ∈ wordsOf raw.toList, name ∈ valid) ∧
        ListsOnce (wordsOf raw.toList) kept := by
  rw [read_eq]
  have honce := listsOnce_firstOccurrences (wordsOf raw.toList)
  constructor
  · intro hread
    split at hread
    · cases hread
    · rename_i hne
      split at hread
      · rename_i hvalid
        cases hread
        exact ⟨hne, hvalid, honce⟩
      · cases hread
  · rintro ⟨hne, hvalid, hkept⟩
    rw [if_neg hne, if_pos hvalid, honce.unique hkept]

theorem declaration?_eq_some_iff (outcome : Outcome) (text : String) :
    outcome.declaration? = some text ↔ ∃ kept, outcome = .declared kept ∧
      text = "color-scheme: " ++ String.intercalate " " kept ++ ";" := by
  cases outcome <;> simp [Outcome.declaration?, eq_comm]

/-- A directive has a declaration or a warning, and not both. -/
theorem isSome_declaration?_read (raw theme : String) :
    (read (some raw)).declaration?.isSome = !((read (some raw)).warning? theme).isSome := by
  rw [read_eq]
  split
  · rfl
  · split <;> rfl

/-- Directives with the same words, but for words that have occurred, have the same
declaration. -/
theorem declaration?_read_congr {raw other : String}
    (hnone : wordsOf raw.toList = [] ↔ wordsOf other.toList = [])
    (hmem : ∀ name, name ∈ wordsOf raw.toList ↔ name ∈ wordsOf other.toList)
    (honce : firstOccurrences (wordsOf raw.toList) = firstOccurrences (wordsOf other.toList)) :
    (read (some raw)).declaration? = (read (some other)).declaration? := by
  rw [read_eq, read_eq]
  simp only [hnone, hmem, honce]
  split
  · rfl
  · split <;> rfl

/-! ## Writing a directive in another way -/

/-- A change in how a directive is written that changes none of its schemes. -/
inductive Rewritten : List Char → List Char → Prop
  /-- Blanks are put around the words. -/
  | around (front text behind : List Char) (hfront : front.all isBlank = true)
      (hbehind : behind.all isBlank = true) : Rewritten text (front ++ text ++ behind)
  /-- The blanks between two words are other ones. -/
  | between (front gap other behind : List Char) (hgap : gap ≠ []) (hother : other ≠ [])
      (hblanks : gap.all isBlank = true) (hothers : other.all isBlank = true) :
      Rewritten (front ++ gap ++ behind) (front ++ other ++ behind)
  /-- ASCII letters are written in another case. -/
  | letterCase {text other : List Char} (hsame : SameLetters text other) : Rewritten text other
  /-- A word is added that has occurred before, in whatever letter case. -/
  | repetition (front gap word behind : List Char) (hgap : gap ≠ [])
      (hblanks : gap.all isBlank = true) (hne : word ≠ [])
      (hword : ∀ character ∈ word, isBlank character = false)
      (hbehind : beginsWord behind = false)
      (hearlier : ∃ earlier ∈ words front, lower earlier = lower word) :
      Rewritten (front ++ behind) (front ++ gap ++ word ++ behind)

theorem wordsOf_of_words {text other : List Char}
    (hwords : (words text).map lower = (words other).map lower) : wordsOf text = wordsOf other := by
  have hmap (characters : List Char) :
      wordsOf characters = ((words characters).map lower).map String.ofList := by
    rw [List.map_map]
    rfl
  rw [hmap, hmap, hwords]

/-- Blanks between two texts keep their words apart. -/
theorem words_gap {gap : List Char} (hne : gap ≠ []) (hgap : gap.all isBlank = true)
    (front behind : List Char) : words (front ++ gap ++ behind) = words front ++ words behind := by
  rw [List.append_assoc, words_append_of_break (beginsWord_append_of_blanks hne hgap behind),
    words_append_left hgap]

/-- Rewriting keeps the words, but for words that have occurred. -/
theorem Rewritten.wordsOf_cases {text other : List Char} (hrewritten : Rewritten text other) :
    wordsOf text = wordsOf other ∨
      ∃ names name behind, name ∈ names ∧ wordsOf text = names ++ behind ∧
        wordsOf other = names ++ name :: behind := by
  cases hrewritten with
  | around _ _ _ hfront hbehind =>
      refine Or.inl (wordsOf_of_words ?_)
      rw [words_append_right hbehind, words_append_left hfront]
  | between _ _ _ _ hgap hother hblanks hothers =>
      refine Or.inl (wordsOf_of_words ?_)
      rw [words_gap hgap hblanks, words_gap hother hothers]
  | letterCase hsame => exact Or.inl (wordsOf_of_words hsame.lower_words_eq)
  | repetition front gap word behind hgap hblanks hne hword hbehind hearlier =>
      obtain ⟨earlier, hmem, hlower⟩ := hearlier
      refine Or.inr ⟨wordsOf front, String.ofList (lower word), wordsOf behind, ?_, ?_, ?_⟩
      · rw [← hlower]
        exact List.mem_map.2 ⟨earlier, hmem, rfl⟩
      · rw [wordsOf, words_append_of_break hbehind, List.map_append]
        rfl
      · rw [wordsOf, List.append_assoc, words_gap hgap hblanks, words_append hne hword hbehind,
          List.map_append]
        rfl

theorem Rewritten.declaration?_eq {raw other : String}
    (hrewritten : Rewritten raw.toList other.toList) :
    (read (some raw)).declaration? = (read (some other)).declaration? := by
  rcases hrewritten.wordsOf_cases with hsame | ⟨names, name, behind, hname, hraw, hother⟩
  · exact declaration?_read_congr (by rw [hsame]) (by simp [hsame]) (by rw [hsame])
  · have hne : names ≠ [] := List.ne_nil_of_mem hname
    refine declaration?_read_congr ?_ ?_ ?_
    · simp [hraw, hother, hne]
    · intro found
      rw [hraw, hother, List.mem_append, List.mem_append, List.mem_cons]
      constructor
      · rintro (hin | hin)
        · exact Or.inl hin
        · exact Or.inr (Or.inr hin)
      · rintro (hin | rfl | hin)
        · exact Or.inl hin
        · exact Or.inl hname
        · exact Or.inr hin
    · rw [hraw, hother, firstOccurrences_append_cons hname]

/-- However often a directive is rewritten, to and fro, its declaration stays. -/
theorem declaration?_eq_of_eqvGen {text other : List Char}
    (hrewritten : Relation.EqvGen Rewritten text other) :
    (read (some (String.ofList text))).declaration? =
      (read (some (String.ofList other))).declaration? := by
  have hview : ∀ first second, Rewritten first second →
      (read (some (String.ofList first))).declaration? =
        (read (some (String.ofList second))).declaration? := by
    intro first second hone
    exact Rewritten.declaration?_eq (by rwa [String.toList_ofList, String.toList_ofList])
  have hsame := eq_of_eqvGen hview hrewritten
  exact hsame

/-- The declared words, written one after the other, are declared again. -/
theorem read_intercalate {raw : String} {kept : List String}
    (hread : read (some raw) = .declared kept) :
    read (some (String.intercalate " " kept)) = .declared kept := by
  obtain ⟨hne, hvalid, honce⟩ := (read_eq_declared_iff ..).1 hread
  have hplain : ∀ name ∈ kept, name ∈ valid := fun name hname =>
    hvalid name ((honce.mem_iff name).1 hname)
  -- both schemes are words, and their own lower-case form
  have hword : ∀ name ∈ valid,
      name.toList ≠ [] ∧ (name.toList.all fun character => !isBlank character) = true ∧
        String.ofList (lower name.toList) = name := by
    decide +kernel
  have hwords : wordsOf (String.intercalate " " kept).toList = kept := by
    have hlist : ∀ word ∈ kept.map String.toList,
        word ≠ [] ∧ ∀ character ∈ word, isBlank character = false := by
      rw [List.forall_mem_map]
      intro name hname
      obtain ⟨hne, hall, -⟩ := hword name (hplain name hname)
      exact ⟨hne, isBlank_eq_false_of_all hall⟩
    calc wordsOf (String.intercalate " " kept).toList
        = (words ([' '].intercalate (kept.map String.toList))).map
            fun word => String.ofList (lower word) := by
          rw [wordsOf, String.toList_intercalate]
          rfl
      _ = kept.map fun name => String.ofList (lower name.toList) := by
          rw [words_intercalate hlist, List.map_map]
          rfl
      _ = kept :=
          (List.map_congr_left fun name hname => (hword name (hplain name hname)).2.2).trans
            (List.map_id kept)
  have hkept : kept ≠ [] := by
    obtain ⟨name, hname⟩ := List.exists_mem_of_ne_nil _ hne
    exact List.ne_nil_of_mem ((honce.mem_iff name).2 hname)
  rw [read_eq, hwords, if_neg hkept, if_pos hplain, firstOccurrences_of_nodup honce.nodup]

/-! ## The declaration -/

/-- A directive has a declaration exactly if it has words and each of them is a scheme.  The
declaration lists them once each, stays when it is read again or when the directive is
rewritten, and one word that is no scheme keeps all of them from being declared. -/
theorem declaration_exact (raw theme : String) :
    (read (some raw)).declaration?.isSome = (!((read (some raw)).warning? theme).isSome) ∧
    (∀ text, (read (some raw)).declaration? = some text ↔
      wordsOf raw.toList ≠ [] ∧
        (∀ name ∈ wordsOf raw.toList, name = "light" ∨ name = "dark") ∧
        ∃ kept, ListsOnce (wordsOf raw.toList) kept ∧
          text = "color-scheme: " ++ String.intercalate " " kept ++ ";") ∧
    (∀ kept, ListsOnce (wordsOf raw.toList) kept → (read (some raw)).declaration?.isSome = true →
      (read (some (String.intercalate " " kept))).declaration? =
        (read (some raw)).declaration?) ∧
    (∀ other : String, Relation.EqvGen Rewritten raw.toList other.toList →
      (read (some other)).declaration? = (read (some raw)).declaration?) ∧
    ∀ name ∈ wordsOf raw.toList, name ≠ "light" → name ≠ "dark" →
      (read (some raw)).declaration? = none := by
  have hexact : ∀ text, (read (some raw)).declaration? = some text ↔
      wordsOf raw.toList ≠ [] ∧
        (∀ name ∈ wordsOf raw.toList, name = "light" ∨ name = "dark") ∧
        ∃ kept, ListsOnce (wordsOf raw.toList) kept ∧
          text = "color-scheme: " ++ String.intercalate " " kept ++ ";" := by
    intro text
    simp only [declaration?_eq_some_iff, read_eq_declared_iff, mem_valid_iff, and_assoc,
      exists_and_left]
  refine ⟨isSome_declaration?_read raw theme, hexact, ?_, ?_, ?_⟩
  · intro kept hkept hsome
    obtain ⟨text, htext⟩ := Option.isSome_iff_exists.1 hsome
    obtain ⟨declared, hread, -⟩ := (declaration?_eq_some_iff ..).1 htext
    obtain rfl := hkept.unique ((read_eq_declared_iff ..).1 hread).2.2
    rw [read_intercalate hread, hread]
  · intro other hrewritten
    have hsame := declaration?_eq_of_eqvGen hrewritten
    rw [String.ofList_toList, String.ofList_toList] at hsame
    exact hsame.symm
  · intro name hname hlight hdark
    rw [Option.eq_none_iff_forall_ne_some]
    intro text htext
    exact ((hexact text).1 htext).2.1 name hname |>.elim hlight hdark

/-- A directive in mixed case, with a tab, blanks around it and a word that occurs again, and
the same in two words. -/
theorem rewritten_darkLight :
    Relation.EqvGen Rewritten " DARK\tlight Dark ".toList "dark LIGHT".toList := by
  have hcase : Rewritten " DARK\tlight Dark ".toList " dark\tLIGHT dark ".toList :=
    .letterCase (by decide)
  have hagain : Rewritten " dark\tLIGHT ".toList " dark\tLIGHT dark ".toList :=
    .repetition " dark\tLIGHT".toList [' '] "dark".toList [' '] (by decide) (by decide)
      (by decide) (isBlank_eq_false_of_all (by decide)) (by decide) ⟨"dark".toList, by decide, rfl⟩
  have haround : Rewritten "dark\tLIGHT".toList " dark\tLIGHT ".toList :=
    .around [' '] _ [' '] (by decide) (by decide)
  have hbetween : Rewritten "dark\tLIGHT".toList "dark LIGHT".toList :=
    .between "dark".toList ['\t'] [' '] "LIGHT".toList (by decide) (by decide) (by decide) (by decide)
  exact (Relation.EqvGen.rel _ _ hcase).trans _ _ _
    (((Relation.EqvGen.rel _ _ hagain).symm _ _).trans _ _ _
      (((Relation.EqvGen.rel _ _ haround).symm _ _).trans _ _ _ (.rel _ _ hbetween)))

/-- It declares both schemes, in the order of first occurrence, in either form; and a word that
is no scheme keeps them from being declared. -/
theorem declaration_darkLight :
    (read (some " DARK\tlight Dark ")).declaration? = some "color-scheme: dark light;" ∧
      (read (some "dark LIGHT")).declaration? = some "color-scheme: dark light;" ∧
      (read (some "dark light")).declaration? = some "color-scheme: dark light;" ∧
      (read (some "light dusk")).declaration? = none := by
  have honce : ListsOnce (wordsOf " DARK\tlight Dark ".toList) ["dark", "light"] :=
    listsOnce_firstOccurrences _
  obtain ⟨-, hexact, hagain, hrewritten, -⟩ := declaration_exact " DARK\tlight Dark " "t"
  obtain ⟨-, -, -, -, hbad⟩ := declaration_exact "light dusk" "t"
  have hdeclared : (read (some " DARK\tlight Dark ")).declaration? =
      some "color-scheme: dark light;" :=
    (hexact _).2 ⟨by decide, by decide, _, honce, by rfl⟩
  refine ⟨hdeclared, ?_, ?_, ?_⟩
  · rw [hrewritten "dark LIGHT" rewritten_darkLight, hdeclared]
  · have hread := hagain _ honce (by rw [hdeclared]; rfl)
    rwa [hdeclared] at hread
  · exact hbad "dusk" (by decide) (by decide) (by decide)

end Palette.Scheme
