/-!
# Comments of a stylesheet

A comment runs from a slash and a star to the nearest star and slash after them.
An opening without a closing is no comment.  `cutComments` cuts a text into
comments and what stands between them, and `markComments` marks each character
with whether it is part of a comment.
-/

namespace Palette.Stylesheet

/-- Where a search stops, the list is what was passed over, what was found, and the
rest. -/
theorem split_of_dropWhile {α : Type} {passes : α → Bool} {list rest : List α} {found : α}
    (hdrop : list.dropWhile passes = found :: rest) :
    passes found = false ∧ list = list.takeWhile passes ++ found :: rest := by
  have hhead := List.head?_dropWhile_not passes list
  have hsplit := List.takeWhile_append_dropWhile (p := passes) (l := list)
  rw [hdrop] at hhead hsplit
  exact ⟨by simpa using hhead, hsplit.symm⟩

/-- The rest behind what a search found is shorter than the list. -/
theorem length_of_dropWhile {α : Type} {passes : α → Bool} {list rest : List α} {found : α}
    (hdrop : list.dropWhile passes = found :: rest) : rest.length < list.length := by
  have hlength := congrArg List.length (split_of_dropWhile hdrop).2
  rw [List.length_append, List.length_cons] at hlength
  omega

/-- The text up to and including the first closing of a comment, and the text after
it. -/
def throughClosing? (characters : List Char) : Option (List Char × List Char) :=
  match _h : characters.dropWhile (· != '*') with
  | [] => none
  | _ :: '/' :: after => some (characters.takeWhile (· != '*') ++ ['*', '/'], after)
  | _ :: rest =>
    (throughClosing? rest).map fun (body, after) =>
      (characters.takeWhile (· != '*') ++ '*' :: body, after)
termination_by characters.length
decreasing_by
  have hlength := congrArg List.length _h
  have hle := (List.dropWhile_sublist (p := (· != '*')) (l := characters)).length_le
  simp only [List.length_cons] at hlength
  omega

/-- The comment that begins right at a slash, given what follows that slash: the
rest of the comment and the text after it. -/
def commentAt? : List Char → Option (List Char × List Char)
  | '*' :: rest => (throughClosing? rest).map fun (body, after) => ('*' :: body, after)
  | _ => none

/-- What follows a closing is shorter than what the closing was found in. -/
theorem length_of_throughClosing? {characters body after : List Char}
    (hclosing : throughClosing? characters = some (body, after)) :
    after.length < characters.length := by
  fun_induction throughClosing? characters generalizing body after with
  | case1 => simp at hclosing
  | case2 characters _ rest hdrop =>
    simp only [Option.some.injEq, Prod.mk.injEq] at hclosing
    obtain ⟨_, rfl⟩ := hclosing
    have hshorter := length_of_dropWhile hdrop
    rw [List.length_cons] at hshorter
    omega
  | case3 characters _ rest _ hdrop ih =>
    obtain ⟨⟨found, left⟩, hfound, heq⟩ := Option.map_eq_some_iff.1 hclosing
    simp only [Prod.mk.injEq] at heq
    obtain ⟨_, rfl⟩ := heq
    exact Nat.lt_trans (ih hfound) (length_of_dropWhile hdrop)

/-- What follows a comment is shorter than what follows its slash. -/
theorem length_of_commentAt? {characters body after : List Char}
    (hcomment : commentAt? characters = some (body, after)) :
    after.length < characters.length := by
  unfold commentAt? at hcomment
  split at hcomment
  · obtain ⟨⟨found, left⟩, hfound, heq⟩ := Option.map_eq_some_iff.1 hcomment
    simp only [Prod.mk.injEq] at heq
    obtain ⟨_, rfl⟩ := heq
    have hshorter := length_of_throughClosing? hfound
    simp only [List.length_cons]
    omega
  · simp at hcomment

/-- The text cut into parts, each with whether it is a comment. -/
def cutComments (characters : List Char) : List (Bool × List Char) :=
  match _h : characters.dropWhile (· != '/') with
  | [] => [(false, characters)]
  | slash :: rest =>
    let before := characters.takeWhile (· != '/')
    match _hcomment : commentAt? rest with
    | some (body, after) => (false, before) :: (true, slash :: body) :: cutComments after
    | none => (false, before ++ [slash]) :: cutComments rest
termination_by characters.length
decreasing_by
  · have hshorter := length_of_commentAt? _hcomment
    have hlength := congrArg List.length _h
    have hle := (List.dropWhile_sublist (p := (· != '/')) (l := characters)).length_le
    simp only [List.length_cons] at hlength
    omega
  · have hlength := congrArg List.length _h
    have hle := (List.dropWhile_sublist (p := (· != '/')) (l := characters)).length_le
    simp only [List.length_cons] at hlength
    omega

/-- A character of a stylesheet and whether it is part of a comment. -/
abbrev Marked := Char × Bool

/-- The characters, each marked with whether it is part of a comment. -/
def markComments (characters : List Char) : List Marked :=
  (cutComments characters).flatMap fun (isComment, part) =>
    part.map fun character => (character, isComment)

/-! ## Nothing is lost -/

/-- A closing is found inside the text, which it splits. -/
theorem append_of_throughClosing? {characters body after : List Char}
    (hclosing : throughClosing? characters = some (body, after)) :
    body ++ after = characters := by
  fun_induction throughClosing? characters generalizing body after with
  | case1 => simp at hclosing
  | case2 characters star rest hdrop =>
    simp only [Option.some.injEq, Prod.mk.injEq] at hclosing
    obtain ⟨rfl, rfl⟩ := hclosing
    obtain ⟨hfound, hsplit⟩ := split_of_dropWhile hdrop
    obtain rfl : star = '*' := by simpa using hfound
    rw [List.append_assoc, List.cons_append, List.singleton_append]
    exact hsplit.symm
  | case3 characters star rest _ hdrop ih =>
    obtain ⟨⟨found, left⟩, hfound, heq⟩ := Option.map_eq_some_iff.1 hclosing
    simp only [Prod.mk.injEq] at heq
    obtain ⟨rfl, rfl⟩ := heq
    obtain ⟨hstar, hsplit⟩ := split_of_dropWhile hdrop
    obtain rfl : star = '*' := by simpa using hstar
    rw [List.append_assoc, List.cons_append, ih hfound]
    exact hsplit.symm

/-- A comment is a beginning of what follows its slash. -/
theorem append_of_commentAt? {characters body after : List Char}
    (hcomment : commentAt? characters = some (body, after)) : body ++ after = characters := by
  unfold commentAt? at hcomment
  split at hcomment
  · obtain ⟨⟨found, left⟩, hfound, heq⟩ := Option.map_eq_some_iff.1 hcomment
    simp only [Prod.mk.injEq] at heq
    obtain ⟨rfl, rfl⟩ := heq
    simp [append_of_throughClosing? hfound]
  · simp at hcomment

/-- The parts of a text are the text. -/
theorem flatMap_cutComments (characters : List Char) :
    (cutComments characters).flatMap Prod.snd = characters := by
  fun_induction cutComments characters with
  | case1 => simp
  | case2 characters slash rest hdrop before body after hcomment ih =>
    simp only [List.flatMap_cons, ih, List.cons_append, append_of_commentAt? hcomment]
    exact (split_of_dropWhile hdrop).2.symm
  | case3 characters slash rest hdrop before hcomment ih =>
    simp only [List.flatMap_cons, ih, List.append_assoc, List.cons_append, List.nil_append]
    exact (split_of_dropWhile hdrop).2.symm

/-- Marking changes no character. -/
@[simp] theorem map_fst_markComments (characters : List Char) :
    (markComments characters).map Prod.fst = characters := by
  have hparts : (markComments characters).map Prod.fst =
      (cutComments characters).flatMap Prod.snd := by
    unfold markComments
    rw [List.map_flatMap]
    congr 1
    funext part
    rw [List.map_map]
    exact List.map_id' part.2
  rw [hparts, flatMap_cutComments]

end Palette.Stylesheet
