import Mathlib.Data.List.TakeWhile
import Palette.Stylesheet.Comment

/-!
# The places of comments

`markComments` marks the characters of a text while it cuts the text into parts.
This file says by places alone which characters are inside a comment:

* `CommentAt characters start closing`: a comment opens at `start`, and the nearest
  closing behind the opening is at `closing`;
* `FirstComment`: besides, no comment starts at an earlier place;
* `InComment`: inside the first comment, or inside a comment of the text behind it.

So an opening inside a comment opens nothing, a closing outside closes nothing, and
an opening that is never closed is text.  `mark_iff_inComment` is the result: the
marks are right.

The proof follows the recursion of `cutComments`.  Each step looks at the text from
the nearest slash on, and `inComment_append_iff` and `inComment_of_first_iff` move
`InComment` along with it.
-/

namespace Palette.Stylesheet

/-- A slash and a star. -/
def OpeningAt (characters : List Char) (place : Nat) : Prop :=
  characters[place]? = some '/' ∧ characters[place + 1]? = some '*'

/-- A star and a slash. -/
def ClosingAt (characters : List Char) (place : Nat) : Prop :=
  characters[place]? = some '*' ∧ characters[place + 1]? = some '/'

/-- A comment with its opening at `start` and its closing at `closing`. -/
structure CommentAt (characters : List Char) (start closing : Nat) : Prop where
  opens : OpeningAt characters start
  apart : start + 2 ≤ closing
  closes : ClosingAt characters closing
  nearest : ∀ between, start + 2 ≤ between → between < closing → ¬ ClosingAt characters between

/-- A comment that no other one starts before. -/
structure FirstComment (characters : List Char) (start closing : Nat) : Prop extends
    CommentAt characters start closing where
  first : ∀ earlier < start, ∀ later, ¬ CommentAt characters earlier later

/-- Inside a comment, when comments are taken one after the other from the left. -/
inductive InComment : List Char → Nat → Prop
  | inFirst {characters : List Char} {start closing place : Nat}
      (hcomment : FirstComment characters start closing) (hstart : start ≤ place)
      (hclosing : place < closing + 2) : InComment characters place
  | behind {characters : List Char} {start closing place : Nat}
      (hcomment : FirstComment characters start closing)
      (hplace : InComment (characters.drop (closing + 2)) place) :
      InComment characters (closing + 2 + place)

/-! ## Moving along the text -/

theorem openingAt_append_iff (before rest : List Char) (place : Nat) :
    OpeningAt (before ++ rest) (before.length + place) ↔ OpeningAt rest place := by
  simp [OpeningAt, Nat.add_assoc, List.getElem?_append_right]

theorem closingAt_append_iff (before rest : List Char) (place : Nat) :
    ClosingAt (before ++ rest) (before.length + place) ↔ ClosingAt rest place := by
  simp [ClosingAt, Nat.add_assoc, List.getElem?_append_right]

theorem commentAt_append_iff (before rest : List Char) (start closing : Nat) :
    CommentAt (before ++ rest) (before.length + start) (before.length + closing) ↔
      CommentAt rest start closing := by
  constructor
  · intro hcomment
    have hapart := hcomment.apart
    refine ⟨(openingAt_append_iff ..).1 hcomment.opens, by omega,
      (closingAt_append_iff ..).1 hcomment.closes, ?_⟩
    intro between hlow hhigh hclosing
    exact hcomment.nearest (before.length + between) (by omega) (by omega)
      ((closingAt_append_iff ..).2 hclosing)
  · intro hcomment
    have hapart := hcomment.apart
    refine ⟨(openingAt_append_iff ..).2 hcomment.opens, by omega,
      (closingAt_append_iff ..).2 hcomment.closes, ?_⟩
    intro between hlow hhigh hclosing
    obtain ⟨shifted, rfl⟩ := Nat.exists_eq_add_of_le (show before.length ≤ between by omega)
    exact hcomment.nearest shifted (by omega) (by omega) ((closingAt_append_iff ..).1 hclosing)

/-- A comment that starts behind a beginning of the text is one of the rest. -/
theorem CommentAt.exists_of_append {before rest : List Char} {start closing : Nat}
    (hcomment : CommentAt (before ++ rest) start closing) (hstart : before.length ≤ start) :
    ∃ shifted closed, start = before.length + shifted ∧ closing = before.length + closed ∧
      CommentAt rest shifted closed := by
  have hapart := hcomment.apart
  obtain ⟨shifted, rfl⟩ := Nat.exists_eq_add_of_le hstart
  obtain ⟨closed, rfl⟩ := Nat.exists_eq_add_of_le (show before.length ≤ closing by omega)
  exact ⟨shifted, closed, rfl, rfl, (commentAt_append_iff ..).1 hcomment⟩

/-- Where no comment starts in `before`, the first one is that of the rest. -/
theorem firstComment_append_iff {before rest : List Char}
    (hbefore : ∀ start < before.length, ∀ closing, ¬ CommentAt (before ++ rest) start closing)
    (start closing : Nat) :
    FirstComment (before ++ rest) start closing ↔
      ∃ shifted closed, start = before.length + shifted ∧ closing = before.length + closed ∧
        FirstComment rest shifted closed := by
  constructor
  · rintro ⟨hcomment, hearlier⟩
    have hpast : before.length ≤ start := by
      rcases Nat.lt_or_ge start before.length with hinside | hpast
      · exact absurd hcomment (hbefore start hinside closing)
      · exact hpast
    obtain ⟨shifted, closed, rfl, rfl, hrest⟩ := hcomment.exists_of_append hpast
    refine ⟨shifted, closed, rfl, rfl, hrest, fun earlier hlt later hother => ?_⟩
    exact hearlier (before.length + earlier) (by omega) (before.length + later)
      ((commentAt_append_iff ..).2 hother)
  · rintro ⟨shifted, closed, rfl, rfl, hrest, hearlier⟩
    refine ⟨(commentAt_append_iff ..).2 hrest, fun earlier hlt later hother => ?_⟩
    rcases Nat.lt_or_ge earlier before.length with hinside | hpast
    · exact hbefore earlier hinside later hother
    · obtain ⟨before', later', rfl, rfl, hother'⟩ := hother.exists_of_append hpast
      exact hearlier before' (by omega) later' hother'

/-- Two closings that are both the nearest one are the same. -/
theorem CommentAt.closing_unique {characters : List Char} {start closing other : Nat}
    (hcomment : CommentAt characters start closing) (hother : CommentAt characters start other) :
    closing = other := by
  rcases Nat.lt_trichotomy closing other with hlt | heq | hgt
  · exact absurd hcomment.closes (hother.nearest closing hcomment.apart hlt)
  · exact heq
  · exact absurd hother.closes (hcomment.nearest other hother.apart hgt)

theorem FirstComment.unique {characters : List Char} {start closing start' closing' : Nat}
    (hcomment : FirstComment characters start closing)
    (hother : FirstComment characters start' closing') : start = start' ∧ closing = closing' := by
  have hstart : start = start' := by
    rcases Nat.lt_trichotomy start start' with hlt | heq | hgt
    · exact absurd hcomment.toCommentAt (hother.first start hlt closing)
    · exact heq
    · exact absurd hother.toCommentAt (hcomment.first start' hgt closing')
  subst hstart
  exact ⟨rfl, hcomment.toCommentAt.closing_unique hother.toCommentAt⟩

/-- With the first comment known, a place is inside it or behind it. -/
theorem inComment_of_first_iff {characters : List Char} {start closing : Nat}
    (hcomment : FirstComment characters start closing) (place : Nat) :
    InComment characters place ↔
      start ≤ place ∧ place < closing + 2 ∨
        ∃ behind, place = closing + 2 + behind ∧
          InComment (characters.drop (closing + 2)) behind := by
  constructor
  · intro hplace
    cases hplace with
    | inFirst hfirst hstart hclosing =>
        obtain ⟨rfl, rfl⟩ := hcomment.unique hfirst
        exact Or.inl ⟨hstart, hclosing⟩
    | behind hfirst hbehind =>
        obtain ⟨rfl, rfl⟩ := hcomment.unique hfirst
        exact Or.inr ⟨_, rfl, hbehind⟩
  · rintro (⟨hstart, hclosing⟩ | ⟨behind, rfl, hbehind⟩)
    · exact .inFirst hcomment hstart hclosing
    · exact .behind hcomment hbehind

/-- A beginning in which no comment starts can be left away. -/
theorem inComment_append_iff {before rest : List Char}
    (hbefore : ∀ start < before.length, ∀ closing, ¬ CommentAt (before ++ rest) start closing)
    (place : Nat) :
    InComment (before ++ rest) place ↔
      ∃ shifted, place = before.length + shifted ∧ InComment rest shifted := by
  have hdrop : ∀ count, (before ++ rest).drop (before.length + count) = rest.drop count := by
    intro count
    rw [List.drop_length_add_append]
  constructor
  · intro hplace
    cases hplace with
    | inFirst hcomment hstart hclosing =>
        obtain ⟨start, closing, rfl, rfl, hfirst⟩ := (firstComment_append_iff hbefore ..).1 hcomment
        exact ⟨place - before.length, by omega, .inFirst hfirst (by omega) (by omega)⟩
    | behind hcomment hbehind =>
        obtain ⟨start, closing, rfl, rfl, hfirst⟩ := (firstComment_append_iff hbefore ..).1 hcomment
        rw [Nat.add_assoc, hdrop] at hbehind
        exact ⟨_, by omega, .behind hfirst hbehind⟩
  · rintro ⟨shifted, rfl, hshifted⟩
    cases hshifted with
    | inFirst hcomment hstart hclosing =>
        have hfirst := (firstComment_append_iff hbefore ..).2 ⟨_, _, rfl, rfl, hcomment⟩
        exact .inFirst hfirst (by omega) (by omega)
    | @behind _ start closing inner hcomment hbehind =>
        have hfirst := (firstComment_append_iff hbefore ..).2 ⟨_, _, rfl, rfl, hcomment⟩
        rw [← hdrop, ← Nat.add_assoc] at hbehind
        have hplace := InComment.behind hfirst hbehind
        rwa [show before.length + closing + 2 + inner = before.length + (closing + 2 + inner) by
          omega] at hplace

/-! ## What the scan finds -/

/-- Where a search stops, the sought character stands, for the first time. -/
theorem exists_split_of_dropWhile {sought found : Char} {characters rest : List Char}
    (hdrop : characters.dropWhile (· != sought) = found :: rest) :
    found = sought ∧ characters = characters.takeWhile (· != sought) ++ sought :: rest ∧
      sought ∉ characters.takeWhile (· != sought) := by
  obtain ⟨hfound, hsplit⟩ := split_of_dropWhile hdrop
  obtain rfl : found = sought := by simpa using hfound
  refine ⟨rfl, hsplit, fun hmem => ?_⟩
  have hne := List.mem_takeWhile_imp hmem
  simp at hne

/-- Where there is no star, there is no closing. -/
theorem not_closingAt_of_lt {before rest : List Char} {place : Nat} (hstar : '*' ∉ before)
    (hplace : place < before.length) : ¬ ClosingAt (before ++ rest) place := by
  rintro ⟨hhere, -⟩
  rw [List.getElem?_append_left hplace] at hhere
  exact hstar (List.mem_of_getElem? hhere)

/-- Where there is no slash, no comment starts. -/
theorem not_commentAt_of_lt {before rest : List Char} {place : Nat} (hslash : '/' ∉ before)
    (hplace : place < before.length) (closing : Nat) :
    ¬ CommentAt (before ++ rest) place closing := by
  rintro ⟨⟨hhere, -⟩, -⟩
  rw [List.getElem?_append_left hplace] at hhere
  exact hslash (List.mem_of_getElem? hhere)

/-- A star that no slash follows is no closing. -/
theorem closingAt_behind_star_iff {before rest : List Char} (hstar : '*' ∉ before)
    (hnext : ∀ after, rest ≠ '/' :: after) (place : Nat) :
    ClosingAt (before ++ '*' :: rest) place ↔
      ∃ shifted, place = before.length + (shifted + 1) ∧ ClosingAt rest shifted := by
  constructor
  · intro hplace
    rcases Nat.lt_or_ge place before.length with hinside | hpast
    · exact absurd hplace (not_closingAt_of_lt hstar hinside)
    · obtain ⟨count, rfl⟩ := Nat.exists_eq_add_of_le hpast
      rw [closingAt_append_iff] at hplace
      cases count with
      | zero =>
          cases rest with
          | nil => simp [ClosingAt] at hplace
          | cons next more => exact absurd (by simpa [ClosingAt] using hplace) (hnext more)
      | succ shifted => exact ⟨shifted, rfl, hplace⟩
  · rintro ⟨shifted, rfl, hshifted⟩
    exact (closingAt_append_iff before ('*' :: rest) (shifted + 1)).2 hshifted

/-- A closing that is found is the nearest one. -/
theorem closingAt_of_throughClosing? {characters body after : List Char}
    (hclosing : throughClosing? characters = some (body, after)) :
    ∃ closing, body.length = closing + 2 ∧ ClosingAt characters closing ∧
      ∀ between < closing, ¬ ClosingAt characters between := by
  fun_induction throughClosing? characters generalizing body after with
  | case1 => simp at hclosing
  | case2 characters star rest hdrop =>
      obtain ⟨-, hsplit, hstar⟩ := exists_split_of_dropWhile hdrop
      simp only [Option.some.injEq, Prod.mk.injEq] at hclosing
      obtain ⟨rfl, rfl⟩ := hclosing
      generalize characters.takeWhile (· != '*') = before at hsplit hstar ⊢
      subst hsplit
      refine ⟨before.length, by simp, ?_, fun between hlt => not_closingAt_of_lt hstar hlt⟩
      exact (closingAt_append_iff before _ 0).2 (by simp [ClosingAt])
  | case3 characters star rest hnext hdrop ih =>
      obtain ⟨rfl, hsplit, hstar⟩ := exists_split_of_dropWhile hdrop
      obtain ⟨⟨found, left⟩, hfound, heq⟩ := Option.map_eq_some_iff.1 hclosing
      obtain ⟨closing, hlength, hhere, hnearest⟩ := ih hfound
      simp only [Prod.mk.injEq] at heq
      obtain ⟨rfl, rfl⟩ := heq
      have hiff := closingAt_behind_star_iff hstar hnext
      rw [← hsplit] at hiff
      refine ⟨_, ?_, (hiff _).2 ⟨closing, rfl, hhere⟩, fun between hlt hbetween => ?_⟩
      · rw [List.length_append, List.length_cons, hlength]
        omega
      · obtain ⟨shifted, rfl, hshifted⟩ := (hiff between).1 hbetween
        exact hnearest shifted (by omega) hshifted

/-- Where none is found there is none. -/
theorem not_closingAt_of_throughClosing? {characters : List Char}
    (hclosing : throughClosing? characters = none) (place : Nat) :
    ¬ ClosingAt characters place := by
  fun_induction throughClosing? characters generalizing place with
  | case1 characters hdrop =>
      rintro ⟨hhere, -⟩
      have hne := List.dropWhile_eq_nil_iff.1 hdrop '*' (List.mem_of_getElem? hhere)
      simp at hne
  | case2 => simp at hclosing
  | case3 characters star rest hnext hdrop ih =>
      obtain ⟨rfl, hsplit, hstar⟩ := exists_split_of_dropWhile hdrop
      intro hplace
      rw [hsplit, closingAt_behind_star_iff hstar hnext] at hplace
      obtain ⟨shifted, -, hshifted⟩ := hplace
      exact ih (Option.map_eq_none_iff.1 hclosing) shifted hshifted

/-- What is read as a comment is one. -/
theorem commentAt_of_commentAt? {rest body after : List Char}
    (hcomment : commentAt? rest = some (body, after)) :
    ∃ closing, body.length = closing + 1 ∧ CommentAt ('/' :: rest) 0 closing := by
  unfold commentAt? at hcomment
  split at hcomment
  case h_2 => simp at hcomment
  case h_1 inner =>
    obtain ⟨⟨found, left⟩, hfound, heq⟩ := Option.map_eq_some_iff.1 hcomment
    obtain ⟨closing, hlength, hhere, hnearest⟩ := closingAt_of_throughClosing? hfound
    simp only [Prod.mk.injEq] at heq
    obtain ⟨rfl, rfl⟩ := heq
    have hiff := closingAt_append_iff ['/', '*'] inner
    refine ⟨2 + closing, by simp [hlength]; omega, ⟨rfl, rfl⟩, by omega,
      (hiff closing).2 hhere, fun between hlow hhigh hbetween => ?_⟩
    obtain ⟨shifted, rfl⟩ := Nat.exists_eq_add_of_le hlow
    rw [Nat.zero_add] at hbetween
    exact hnearest shifted (by omega) ((hiff shifted).1 hbetween)

/-- A slash that is not read as the beginning of a comment is none. -/
theorem not_commentAt_of_commentAt? {rest : List Char} (hcomment : commentAt? rest = none)
    (closing : Nat) : ¬ CommentAt ('/' :: rest) 0 closing := by
  rintro ⟨⟨-, hstar⟩, hapart, hcloses, -⟩
  obtain ⟨shifted, rfl⟩ := Nat.exists_eq_add_of_le hapart
  unfold commentAt? at hcomment
  split at hcomment
  case h_1 inner =>
    have hnone := not_closingAt_of_throughClosing? (Option.map_eq_none_iff.1 hcomment)
    exact hnone shifted ((closingAt_append_iff ['/', '*'] inner shifted).1 (by simpa using hcloses))
  case h_2 hother =>
    cases rest with
    | nil => simp at hstar
    | cons next more => exact hother more (by simpa using hstar)

/-! ## The marks are right -/

/-- What is marked in a part that is marked alike, and behind it. -/
theorem mark_part_iff (mark : Bool) (part : List Char) (rest : List Marked) (place : Nat) :
    ((part.map (fun character => (character, mark)) ++ rest)[place]?.map Prod.snd = some true) ↔
      place < part.length ∧ mark = true ∨
        ∃ shifted, place = part.length + shifted ∧ rest[shifted]?.map Prod.snd = some true := by
  rcases Nat.lt_or_ge place part.length with hinside | hpast
  · rw [List.getElem?_append_left (by simpa using hinside)]
    simp [hinside]
    omega
  · obtain ⟨shifted, rfl⟩ := Nat.exists_eq_add_of_le hpast
    have hpart : ¬ part.length + shifted < part.length := by omega
    rw [List.getElem?_append_right (by simp)]
    simp [hpart]

/-- A text without a slash has no comment. -/
theorem slash_mem_of_inComment {characters : List Char} {place : Nat}
    (hplace : InComment characters place) : '/' ∈ characters := by
  cases hplace with
  | inFirst hcomment => exact List.mem_of_getElem? hcomment.opens.1
  | behind hcomment => exact List.mem_of_getElem? hcomment.opens.1

/-- A character is marked exactly if it is inside a comment. -/
theorem mark_iff_inComment (characters : List Char) (place : Nat) :
    (markComments characters)[place]?.map Prod.snd = some true ↔ InComment characters place := by
  unfold markComments
  fun_induction cutComments characters generalizing place with
  | case1 characters hdrop =>
      have hslash : '/' ∉ characters := fun hmem => by
        simpa using List.dropWhile_eq_nil_iff.1 hdrop '/' hmem
      have hnone : ¬ InComment characters place := fun hplace =>
        hslash (slash_mem_of_inComment hplace)
      simp [hnone]
  | case2 characters slash rest hdrop before body after hcomment ih =>
      obtain ⟨rfl, hsplit, hslash⟩ := exists_split_of_dropWhile hdrop
      obtain ⟨closing, hlength, hhere⟩ := commentAt_of_commentAt? hcomment
      have hfirst : FirstComment ('/' :: rest) 0 closing :=
        ⟨hhere, fun earlier hlt => absurd hlt (Nat.not_lt_zero earlier)⟩
      have hafter : ('/' :: rest).drop (closing + 2) = after := by
        rw [← append_of_commentAt? hcomment, ← List.cons_append, List.drop_left']
        simp [hlength]
      have hbefore : ∀ start < before.length, ∀ later,
          ¬ CommentAt (before ++ '/' :: rest) start later :=
        fun start hlt => not_commentAt_of_lt hslash hlt
      have hiff := inComment_append_iff hbefore place
      rw [← hsplit] at hiff
      -- the slash begins the first comment, so both sides split at its ends
      have hcount : ('/' :: body).length = closing + 2 := by rw [List.length_cons, hlength]
      simp only [List.flatMap_cons, mark_part_iff, hiff, inComment_of_first_iff hfirst, hafter, ih,
        hcount, Bool.false_eq_true, and_false, false_or, and_true, Nat.zero_le, true_and]
  | case3 characters slash rest hdrop before hcomment ih =>
      obtain ⟨rfl, hsplit, hslash⟩ := exists_split_of_dropWhile hdrop
      -- the slash begins nothing and goes with the text before it
      have hbefore : ∀ start < (before ++ ['/']).length, ∀ closing,
          ¬ CommentAt ((before ++ ['/']) ++ rest) start closing := by
        intro start hlt closing hhere
        rw [List.append_assoc, List.singleton_append] at hhere
        rcases Nat.lt_or_ge start before.length with hinside | hpast
        · exact not_commentAt_of_lt hslash hinside closing hhere
        · obtain ⟨shifted, closed, rfl, rfl, hrest⟩ := hhere.exists_of_append hpast
          obtain rfl : shifted = 0 := by
            rw [List.length_append, List.length_singleton] at hlt
            omega
          exact not_commentAt_of_commentAt? hcomment closed hrest
      have hiff := inComment_append_iff hbefore place
      rw [List.append_assoc, List.singleton_append, ← hsplit] at hiff
      simp only [List.flatMap_cons, mark_part_iff, hiff, ih]
      simp

/-- Whether a place is inside a comment. -/
instance (characters : List Char) : DecidablePred (InComment characters) := fun place =>
  decidable_of_iff _ (mark_iff_inComment characters place)

end Palette.Stylesheet
