import Mathlib.Data.List.Basic
import Palette.Text.Blank

/-!
# Trimmed texts and words

Trimming takes blanks off both ends of a text, so it finds a text again around which
blanks were put, provided this text is solid: it begins and ends with other characters
(`IsSolid`, `trim_append`).  In the same way `words` finds words again between which
blanks were put (`words_append`).
-/

namespace Palette.Text

/-- A text that neither begins nor ends with a blank, and is not empty. -/
def IsSolid (text : List Char) : Prop :=
  ∃ first last, text.head? = some first ∧ text.getLast? = some last ∧ isBlank first = false ∧
    isBlank last = false

section

variable {text front core behind : List Char}

theorem isSolid_of_all (hne : text ≠ []) (hall : ∀ character ∈ text, isBlank character = false) :
    IsSolid text :=
  ⟨text.head hne, text.getLast hne, List.head?_eq_some_head hne,
    List.getLast?_eq_some_getLast hne, hall _ (List.head_mem hne), hall _ (List.getLast_mem hne)⟩

theorem isBlank_eq_false_of_all (hall : (text.all fun character => !isBlank character) = true) :
    ∀ character ∈ text, isBlank character = false := by
  intro character hmem
  simpa using List.all_eq_true.1 hall character hmem

theorem IsSolid.ne_nil (hsolid : IsSolid text) : text ≠ [] := by
  rintro rfl
  obtain ⟨first, -, hfirst, -⟩ := hsolid
  cases hfirst

/-- Between two solid texts anything may stand. -/
theorem IsSolid.append (hfront : IsSolid front) (hbehind : IsSolid behind) (core : List Char) :
    IsSolid (front ++ core ++ behind) := by
  have hfrontNe := hfront.ne_nil
  have hbehindNe := hbehind.ne_nil
  obtain ⟨first, -, hfirst, -, hfirstBlank, -⟩ := hfront
  obtain ⟨-, last, -, hlast, -, hlastBlank⟩ := hbehind
  refine ⟨first, last, ?_, ?_, hfirstBlank, hlastBlank⟩
  · rw [List.append_assoc, List.head?_append_of_ne_nil _ hfrontNe, hfirst]
  · rw [List.getLast?_append_of_ne_nil _ hbehindNe, hlast]

/-! ## Trimming -/

theorem trimLeft_append (hfront : front.all isBlank = true) (rest : List Char) :
    trimLeft (front ++ rest) = trimLeft rest :=
  List.dropWhile_append_of_pos fun character hcharacter =>
    List.all_eq_true.1 hfront character hcharacter

theorem trimRight_append (hbehind : behind.all isBlank = true) (rest : List Char) :
    trimRight (rest ++ behind) = trimRight rest := by
  unfold trimRight
  rw [List.reverse_append, List.dropWhile_append_of_pos]
  intro character hcharacter
  exact List.all_eq_true.1 hbehind character (List.mem_reverse.1 hcharacter)

theorem exists_eq_append_trimLeft (text : List Char) :
    ∃ front : List Char, front.all isBlank = true ∧ text = front ++ trimLeft text :=
  ⟨text.takeWhile isBlank, List.all_takeWhile, List.takeWhile_append_dropWhile.symm⟩

theorem exists_eq_trimRight_append (text : List Char) :
    ∃ behind : List Char, behind.all isBlank = true ∧ text = trimRight text ++ behind := by
  obtain ⟨front, hfront, htext⟩ := exists_eq_append_trimLeft text.reverse
  refine ⟨front.reverse, by rwa [List.all_reverse], ?_⟩
  have hreverse := congrArg List.reverse htext
  rwa [List.reverse_reverse, List.reverse_append] at hreverse

/-- A text is its trimmed text with blanks around it. -/
theorem exists_eq_append_trim (text : List Char) :
    ∃ front behind : List Char, front.all isBlank = true ∧ behind.all isBlank = true ∧
      text = front ++ trim text ++ behind := by
  obtain ⟨front, hfront, htext⟩ := exists_eq_append_trimLeft text
  obtain ⟨behind, hbehind, hrest⟩ := exists_eq_trimRight_append (trimLeft text)
  refine ⟨front, behind, hfront, hbehind, ?_⟩
  rw [List.append_assoc, trim, ← hrest, ← htext]

theorem trimLeft_of_head? {first : Char} (hfirst : text.head? = some first)
    (hblank : isBlank first = false) : trimLeft text = text := by
  cases text with
  | nil => rfl
  | cons character rest =>
      rw [List.head?_cons, Option.some.injEq] at hfirst
      rw [trimLeft, List.dropWhile_cons_of_neg]
      rw [hfirst, hblank]
      exact Bool.false_ne_true

theorem trimRight_eq_reverse (text : List Char) :
    trimRight text = (trimLeft text.reverse).reverse := rfl

/-- Blanks around a solid text are trimmed. -/
theorem trim_append (hfront : front.all isBlank = true) (hcore : IsSolid core)
    (hbehind : behind.all isBlank = true) : trim (front ++ core ++ behind) = core := by
  obtain ⟨first, last, hfirst, hlast, hfirstBlank, hlastBlank⟩ := id hcore
  have hhead : (core ++ behind).head? = some first := by
    rw [List.head?_append_of_ne_nil _ hcore.ne_nil, hfirst]
  have hreverse : core.reverse.head? = some last := by rw [List.head?_reverse, hlast]
  calc trim (front ++ core ++ behind) = trimRight (trimLeft (core ++ behind)) := by
        rw [trim, List.append_assoc, trimLeft_append hfront]
    _ = trimRight core := by rw [trimLeft_of_head? hhead hfirstBlank, trimRight_append hbehind]
    _ = core := by
        rw [trimRight_eq_reverse, trimLeft_of_head? hreverse hlastBlank, List.reverse_reverse]

theorem isBlank_of_head?_trimLeft {first : Char} (hfirst : (trimLeft text).head? = some first) :
    isBlank first = false := by
  have hstop := List.head?_dropWhile_not isBlank text
  unfold trimLeft at hfirst
  rw [hfirst] at hstop
  exact hstop

/-- What is left of a text by trimming is solid, if anything is. -/
theorem isSolid_trim (hne : trim text ≠ []) : IsSolid (trim text) := by
  obtain ⟨behind, -, hrest⟩ := exists_eq_trimRight_append (trimLeft text)
  have hfirst := List.head?_eq_some_head hne
  have hlast := List.getLast?_eq_some_getLast hne
  have hhead : (trimLeft text).head? = some ((trim text).head hne) := by
    rw [← hfirst, hrest]
    exact List.head?_append_of_ne_nil _ hne
  have hend : (trimLeft (trimLeft text).reverse).head? = some ((trim text).getLast hne) := by
    rw [← hlast]
    exact List.getLast?_reverse.symm
  exact ⟨_, _, hfirst, hlast, isBlank_of_head?_trimLeft hhead, isBlank_of_head?_trimLeft hend⟩

theorem trim_trim (text : List Char) : trim (trim text) = trim text := by
  by_cases hnone : trim text = []
  · rw [hnone, trim_nil]
  · have hempty : ([] : List Char).all isBlank = true := rfl
    have hagain := trim_append hempty (isSolid_trim hnone) hempty
    rwa [List.nil_append, List.append_nil] at hagain

/-- Blanks in front of any text are trimmed. -/
theorem trim_append_left (hfront : front.all isBlank = true) (rest : List Char) :
    trim (front ++ rest) = trim rest := by
  rw [trim, trim, trimLeft_append hfront]

/-- Blanks behind any text are trimmed. -/
theorem trim_append_right (hbehind : behind.all isBlank = true) (rest : List Char) :
    trim (rest ++ behind) = trim rest := by
  obtain ⟨front, last, hfront, hlast, hrest⟩ := exists_eq_append_trim rest
  have hend : (last ++ behind).all isBlank = true := by rw [List.all_append, hlast, hbehind]; rfl
  by_cases hnone : trim rest = []
  · -- nothing but blanks is there
    rw [hnone, List.append_nil] at hrest
    have hall : (rest ++ behind).all isBlank = true := by
      rw [hrest, List.append_assoc, List.all_append, hfront, hend]
      rfl
    rw [← List.append_nil (rest ++ behind), trim_append_left hall, trim_nil, hnone]
  · have hsolid := isSolid_trim hnone
    calc trim (rest ++ behind) = trim (front ++ trim rest ++ (last ++ behind)) := by
          rw [← List.append_assoc, ← hrest]
      _ = trim rest := trim_append hfront hsolid hend

end

/-! ## Words -/

section

variable {front behind word rest text : List Char} {others : List (List Char)}

theorem words_append_left (hfront : front.all isBlank = true) (rest : List Char) :
    words (front ++ rest) = words rest := by
  induction front with
  | nil => rfl
  | cons character front ih =>
      rw [List.all_cons, Bool.and_eq_true] at hfront
      rw [List.cons_append, words_cons_of_blank _ hfront.1, ih hfront.2]

theorem beginsWord_append_of_blanks {gap : List Char} (hne : gap ≠ [])
    (hgap : gap.all isBlank = true) (rest : List Char) : beginsWord (gap ++ rest) = false := by
  cases gap with
  | nil => exact absurd rfl hne
  | cons blank gap =>
      rw [List.all_cons, Bool.and_eq_true] at hgap
      simp [beginsWord, hgap.1]

/-- Before a blank or the end of a text no word goes on, so the words of what stands on
either side are the words of both. -/
theorem words_append_of_break (hrest : beginsWord rest = false) (front : List Char) :
    words (front ++ rest) = words front ++ words rest := by
  induction front with
  | nil => rfl
  | cons character front ih =>
      have hbegins : beginsWord (front ++ rest) = beginsWord front := by
        cases front with
        | nil => exact hrest
        | cons second front => rfl
      have hlengthen : beginsWord front = true →
          lengthenFirst character (words front ++ words rest) =
            lengthenFirst character (words front) ++ words rest := by
        intro hword
        cases front with
        | nil => cases hword
        | cons second front =>
            obtain ⟨first, others, hwords⟩ := List.exists_cons_of_ne_nil
              (words_cons_ne_nil front (by simpa [beginsWord] using hword))
            rw [hwords]
            rfl
      rw [List.cons_append, words, words, hbegins, ih]
      split
      · rfl
      · split
        · rename_i hword
          exact hlengthen hword
        · rfl

theorem words_append_right (hbehind : behind.all isBlank = true) (rest : List Char) :
    words (rest ++ behind) = words rest := by
  have hnone : words behind = [] := (words_eq_nil_iff behind).2 (List.all_eq_true.1 hbehind)
  have hbreak : beginsWord behind = false := by
    by_cases hne : behind = []
    · rw [hne]
      rfl
    · rw [← List.append_nil behind]
      exact beginsWord_append_of_blanks hne hbehind []
  rw [words_append_of_break hbreak, hnone, List.append_nil]

theorem words_trim (text : List Char) : words (trim text) = words text := by
  obtain ⟨front, behind, hfront, hbehind, htext⟩ := exists_eq_append_trim text
  conv_rhs => rw [htext]
  rw [words_append_right hbehind, words_append_left hfront]

/-- Trimming leaves nothing of a text exactly if it has no words. -/
theorem trim_eq_nil_iff (text : List Char) : trim text = [] ↔ words text = [] := by
  constructor
  · intro hnone
    rw [← words_trim, hnone, words_nil]
  · intro hwords
    by_contra hne
    obtain ⟨first, -, hfirst, -, hblank, -⟩ := isSolid_trim hne
    rw [← words_trim, words_eq_nil_iff] at hwords
    rw [hwords first (List.mem_of_mem_head? hfirst)] at hblank
    cases hblank

theorem words_of_unbroken (hne : word ≠ [])
    (hword : ∀ character ∈ word, isBlank character = false) : words word = [word] := by
  induction word with
  | nil => exact absurd rfl hne
  | cons character word ih =>
      rw [List.forall_mem_cons] at hword
      rw [words, if_neg (by simp [hword.1])]
      cases word with
      | nil => rfl
      | cons second word =>
          have hbegins : beginsWord (second :: word) = true := by
            simp [beginsWord, hword.2 second List.mem_cons_self]
          rw [if_pos hbegins, ih (by simp) hword.2]
          rfl

/-- A word in front of a blank or of the end of a text is the first word. -/
theorem words_append (hne : word ≠ []) (hword : ∀ character ∈ word, isBlank character = false)
    (hrest : beginsWord rest = false) : words (word ++ rest) = word :: words rest := by
  rw [words_append_of_break hrest, words_of_unbroken hne hword, List.singleton_append]

/-- Words between which single spaces are put are found again. -/
theorem words_intercalate {list : List (List Char)}
    (hlist : ∀ word ∈ list, word ≠ [] ∧ ∀ character ∈ word, isBlank character = false) :
    words ([' '].intercalate list) = list := by
  induction list with
  | nil => rfl
  | cons word list ih =>
      rw [List.forall_mem_cons] at hlist
      obtain ⟨⟨hne, hword⟩, hothers⟩ := hlist
      cases list with
      | nil => rw [List.intercalate_singleton, words_of_unbroken hne hword]
      | cons second list =>
          rw [List.intercalate_cons_cons, List.append_assoc, words_append hne hword rfl]
          exact congrArg _ (ih hothers)

/-- The first word of a text, and what the others are the words of. -/
theorem exists_of_words_eq_cons (hwords : words text = word :: others) :
    ∃ front rest : List Char, text = front ++ word ++ rest ∧ front.all isBlank = true ∧
      word ≠ [] ∧ (∀ character ∈ word, isBlank character = false) ∧ beginsWord rest = false ∧
        words rest = others := by
  induction text generalizing word with
  | nil => cases hwords
  | cons character text ih =>
      rw [words] at hwords
      split at hwords
      · rename_i hblank
        obtain ⟨front, rest, rfl, hfront, hword⟩ := ih hwords
        exact ⟨character :: front, rest, rfl, by simp [hblank, hfront], hword⟩
      · rename_i hblank
        split at hwords
        · -- the character lengthens the first word of the rest
          rename_i hbegins
          obtain ⟨second, text, rfl⟩ : ∃ second text', text = second :: text' := by
            cases text with
            | nil => cases hbegins
            | cons second text => exact ⟨second, text, rfl⟩
          have hsecond : isBlank second = false := by simpa [beginsWord] using hbegins
          obtain ⟨first, tail, htail⟩ :=
            List.exists_cons_of_ne_nil (words_cons_ne_nil text hsecond)
          rw [htail, lengthenFirst, List.cons.injEq] at hwords
          obtain ⟨rfl, rfl⟩ := hwords
          obtain ⟨front, rest, htext, hfront, -, hletters, hrest⟩ := ih htail
          have hnone : front = [] := by
            cases front with
            | nil => rfl
            | cons blank front =>
                rw [List.cons_append, List.cons_append, List.cons.injEq] at htext
                rw [← htext.1, List.all_cons, hsecond] at hfront
                cases hfront
          subst hnone
          refine ⟨[], rest, by rw [htext]; rfl, rfl, by simp, ?_, hrest⟩
          simpa [hblank] using hletters
        · rename_i hbegins
          rw [List.cons.injEq] at hwords
          obtain ⟨rfl, rfl⟩ := hwords
          exact ⟨[], text, rfl, rfl, by simp, by simp [hblank], by simpa using hbegins, rfl⟩

/-- Every word is solid. -/
theorem isSolid_of_mem_words (hword : word ∈ words text) : IsSolid word := by
  generalize hwords : words text = found at hword
  induction found generalizing text with
  | nil => cases hword
  | cons first others ih =>
      obtain ⟨_, rest, -, -, hne, hletters, -, hrest⟩ := exists_of_words_eq_cons hwords
      rcases List.mem_cons.1 hword with rfl | hothers
      · exact isSolid_of_all hne hletters
      · exact ih hrest hothers

end

end Palette.Text
