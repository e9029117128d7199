/-!
# The parts of a text

A separator cuts a text into parts, of which there is always at least one, and which
may be empty.  The parts hold no separator (`separator_not_mem_of_mem_parts`), and
joined by it they are the text again (`intercalate_parts`).
-/

namespace Palette.Text

/-- The parts of a text between its separators. -/
def parts (separator : Char) : List Char → List (List Char)
  | [] => [[]]
  | character :: rest =>
    if character = separator then [] :: parts separator rest
    else
      match parts separator rest with
      | [] => [[character]]
      | part :: others => (character :: part) :: others

/-! ## Interface lemmas -/

variable {separator : Char}

@[simp] theorem parts_nil : parts separator [] = [[]] := rfl

@[simp] theorem parts_cons_separator (rest : List Char) :
    parts separator (separator :: rest) = [] :: parts separator rest := by
  simp [parts]

theorem parts_ne_nil (characters : List Char) : parts separator characters ≠ [] := by
  cases characters with
  | nil => simp
  | cons character rest =>
    unfold parts
    split
    · simp
    · split <;> simp

/-- Another character than the separator is put in front of the first part. -/
theorem parts_cons_of_ne {character : Char} {rest part : List Char} {others : List (List Char)}
    (hne : character ≠ separator) (hrest : parts separator rest = part :: others) :
    parts separator (character :: rest) = (character :: part) :: others := by
  rw [parts, if_neg hne, hrest]

/-- The first part and the others of a text. -/
theorem exists_parts_eq_cons (separator : Char) (characters : List Char) :
    ∃ part others, parts separator characters = part :: others :=
  List.exists_cons_of_ne_nil (parts_ne_nil characters)

/-- Every part is free of the separator. -/
theorem separator_not_mem_of_mem_parts {characters part : List Char}
    (hpart : part ∈ parts separator characters) : separator ∉ part := by
  induction characters generalizing part with
  | nil => simp_all
  | cons character rest ih =>
    by_cases heq : character = separator
    · subst heq
      rcases List.mem_cons.1 (parts_cons_separator rest ▸ hpart) with rfl | hrest
      · simp
      · exact ih hrest
    · obtain ⟨first, others, hrest⟩ := exists_parts_eq_cons separator rest
      rw [parts_cons_of_ne heq hrest] at hpart
      rcases List.mem_cons.1 hpart with rfl | hothers
      · have hfirst : separator ∉ first := ih (by simp [hrest])
        simp [Ne.symm heq, hfirst]
      · exact ih (by simp [hrest, hothers])

/-- The parts with separators between them are the text. -/
theorem intercalate_parts (characters : List Char) :
    [separator].intercalate (parts separator characters) = characters := by
  induction characters with
  | nil => rfl
  | cons character rest ih =>
    obtain ⟨first, others, hrest⟩ := exists_parts_eq_cons separator rest
    by_cases heq : character = separator
    · subst heq
      rw [parts_cons_separator, hrest, List.intercalate_cons_cons, ← hrest, ih]
      simp
    · rw [parts_cons_of_ne heq hrest]
      rw [hrest] at ih
      cases others with
      | nil => simpa using ih
      | cons second others =>
        rw [List.intercalate_cons_cons] at ih ⊢
        simpa using ih

/-- A text without the separator is its only part. -/
theorem parts_eq_singleton {characters : List Char} (hfree : separator ∉ characters) :
    parts separator characters = [characters] := by
  induction characters with
  | nil => rfl
  | cons character rest ih =>
    simp only [List.mem_cons, not_or] at hfree
    exact parts_cons_of_ne (Ne.symm hfree.1) (ih hfree.2)

/-- A text without the separator, in front of a separator, is the first part. -/
theorem parts_append_separator {part : List Char} (rest : List Char) (hfree : separator ∉ part) :
    parts separator (part ++ separator :: rest) = part :: parts separator rest := by
  induction part with
  | nil => exact parts_cons_separator rest
  | cons character part ih =>
    simp only [List.mem_cons, not_or] at hfree
    exact parts_cons_of_ne (Ne.symm hfree.1) (ih hfree.2)

/-- What stands in front of a text, without the separator, belongs to its first part. -/
theorem exists_parts_append_left {front : List Char} (text : List Char)
    (hfree : separator ∉ front) :
    ∃ first others, parts separator text = first :: others ∧
      parts separator (front ++ text) = (front ++ first) :: others := by
  induction front with
  | nil =>
    obtain ⟨first, others, htext⟩ := exists_parts_eq_cons separator text
    exact ⟨first, others, htext, htext⟩
  | cons character front ih =>
    simp only [List.mem_cons, not_or] at hfree
    obtain ⟨first, others, htext, hfront⟩ := ih hfree.2
    exact ⟨first, others, htext, parts_cons_of_ne (Ne.symm hfree.1) hfront⟩

/-- What stands behind a text, without the separator, belongs to its last part. -/
theorem exists_parts_append_right {behind : List Char} (text : List Char)
    (hfree : separator ∉ behind) :
    ∃ earlier last, parts separator text = earlier ++ [last] ∧
      parts separator (text ++ behind) = earlier ++ [last ++ behind] := by
  induction text with
  | nil => exact ⟨[], [], parts_nil, parts_eq_singleton hfree⟩
  | cons character text ih =>
    obtain ⟨earlier, last, htext, hbehind⟩ := ih
    by_cases heq : character = separator
    · subst heq
      refine ⟨[] :: earlier, last, ?_, ?_⟩
      · rw [parts_cons_separator, htext, List.cons_append]
      · rw [List.cons_append, parts_cons_separator, hbehind, List.cons_append]
    · cases earlier with
      | nil =>
        exact ⟨[], character :: last, parts_cons_of_ne heq htext, parts_cons_of_ne heq hbehind⟩
      | cons first earlier =>
        exact ⟨(character :: first) :: earlier, last, parts_cons_of_ne heq htext,
          parts_cons_of_ne heq hbehind⟩

/-- A separator between two texts keeps their parts apart. -/
theorem parts_append_cons (text rest : List Char) :
    parts separator (text ++ separator :: rest) = parts separator text ++ parts separator rest := by
  induction text with
  | nil => exact parts_cons_separator rest
  | cons character text ih =>
    by_cases heq : character = separator
    · subst heq
      rw [List.cons_append, parts_cons_separator, parts_cons_separator, ih, List.cons_append]
    · obtain ⟨first, others, htext⟩ := exists_parts_eq_cons separator text
      rw [parts_cons_of_ne heq htext]
      rw [htext, List.cons_append] at ih
      exact parts_cons_of_ne heq ih

end Palette.Text
