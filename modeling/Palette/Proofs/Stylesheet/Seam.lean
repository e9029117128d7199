import Mathlib.Data.Nat.Find
import Palette.Proofs.Stylesheet.RulePlace

/-!
# The seam of two stylesheets

A text is finished if no rule and no comment is open at its end (`IsFinished`).  What is
written behind it is cut as if it stood alone, and the text itself as if nothing stood
behind it (`cut_append`).  Only the last and the first piece grow together.

## Strategy

Both scans go over the whole text, so each of them has to be led over the seam:

* comments are described by places.  A comment of the first text stays the first one
  whatever follows (`FirstComment.append`), and when the last comment is left behind,
  nothing of the first text opens another one (`IsFinished.not_commentAt`);
* a rule that begins in the first text has its end there (`EndsRules.endFrom_lt`), so
  pieces are the same up to the seam, where two texts grow together (`pieces_append`).
-/

namespace Palette.Stylesheet

/-- Empty, or with a character at its end that ends a rule. -/
def EndsRules (characters : List Char) : Prop :=
  ∀ last ∈ characters.getLast?, endsRule last = true

/-- A text behind which a new one can begin: it does not end inside a rule, and no comment
is opened behind its last comment. -/
structure IsFinished (characters : List Char) : Prop where
  ends : EndsRules characters
  closes : ∀ place, OpeningAt characters place → ∃ later, place ≤ later ∧ InComment characters later

theorem EndsRules.drop {characters : List Char} (hends : EndsRules characters) (count : Nat) :
    EndsRules (characters.drop count) := by
  intro last hlast
  rw [List.getLast?_drop] at hlast
  split at hlast
  · cases hlast
  · exact hends last hlast

/-! ## Comments of the first text -/

theorem openingAt_append_left_iff {before : List Char} {place : Nat}
    (hplace : place + 1 < before.length) (rest : List Char) :
    OpeningAt (before ++ rest) place ↔ OpeningAt before place := by
  rw [OpeningAt, OpeningAt, List.getElem?_append_left (by omega), List.getElem?_append_left hplace]

theorem closingAt_append_left_iff {before : List Char} {place : Nat}
    (hplace : place + 1 < before.length) (rest : List Char) :
    ClosingAt (before ++ rest) place ↔ ClosingAt before place := by
  rw [ClosingAt, ClosingAt, List.getElem?_append_left (by omega), List.getElem?_append_left hplace]

theorem ClosingAt.lt_length {characters : List Char} {place : Nat}
    (hclosing : ClosingAt characters place) : place + 1 < characters.length :=
  (List.getElem?_eq_some_iff.1 hclosing.2).1

/-- Behind an opening, the nearest one of the closings makes a comment. -/
theorem exists_commentAt {characters : List Char} {start closing : Nat}
    (hopening : OpeningAt characters start) (hapart : start + 2 ≤ closing)
    (hclosing : ClosingAt characters closing) :
    ∃ nearest, CommentAt characters start nearest := by
  classical
  have hexists : ∃ closing, start + 2 ≤ closing ∧ ClosingAt characters closing :=
    ⟨closing, hapart, hclosing⟩
  obtain ⟨hlow, hnearest⟩ := Nat.find_spec hexists
  exact ⟨Nat.find hexists, hopening, hlow, hnearest, fun between hbetween hlt hother =>
    Nat.find_min hexists hlt ⟨hbetween, hother⟩⟩

/-- A first comment stays the first one, whatever is written behind it. -/
theorem FirstComment.append {before : List Char} {start closing : Nat}
    (hcomment : FirstComment before start closing) (rest : List Char) :
    FirstComment (before ++ rest) start closing := by
  have hlength := hcomment.closes.lt_length
  have hapart := hcomment.apart
  refine ⟨⟨(openingAt_append_left_iff (by omega) rest).2 hcomment.opens, hapart,
    (closingAt_append_left_iff hlength rest).2 hcomment.closes, ?_⟩, ?_⟩
  · intro between hlow hlt hother
    exact hcomment.nearest between hlow hlt ((closingAt_append_left_iff (by omega) rest).1 hother)
  · intro earlier hlt later hother
    -- the closing of the first comment closes every comment that starts before it
    have hopening := (openingAt_append_left_iff (by omega) rest).1 hother.opens
    obtain ⟨nearest, hnearest⟩ := exists_commentAt hopening (by omega) hcomment.closes
    exact hcomment.first earlier hlt nearest hnearest

theorem lt_length_of_inComment {characters : List Char} {place : Nat}
    (hplace : InComment characters place) : place < characters.length := by
  have hmarked := (mark_iff_inComment characters place).2 hplace
  obtain ⟨mark, hmark, -⟩ := Option.map_eq_some_iff.1 hmarked
  have hlt := (List.getElem?_eq_some_iff.1 hmark).1
  rwa [← List.length_map Prod.fst, map_fst_markComments] at hlt

/-- Where something is in a comment, there is a first comment. -/
theorem InComment.exists_firstComment {characters : List Char} {place : Nat}
    (hplace : InComment characters place) :
    ∃ start closing, FirstComment characters start closing := by
  cases hplace with
  | inFirst hcomment => exact ⟨_, _, hcomment⟩
  | behind hcomment => exact ⟨_, _, hcomment⟩

/-- What is behind the first comment of a finished text is finished. -/
theorem IsFinished.drop {characters : List Char} {start closing : Nat}
    (hfinished : IsFinished characters) (hcomment : FirstComment characters start closing) :
    IsFinished (characters.drop (closing + 2)) := by
  have hlength := hcomment.closes.lt_length
  refine ⟨hfinished.ends.drop (closing + 2), fun place hopening => ?_⟩
  have hiff := openingAt_append_iff (characters.take (closing + 2))
    (characters.drop (closing + 2)) place
  rw [List.take_append_drop, List.length_take, Nat.min_eq_left (by omega)] at hiff
  obtain ⟨later, hle, hlater⟩ := hfinished.closes _ (hiff.2 hopening)
  rcases (inComment_of_first_iff hcomment later).1 hlater with ⟨-, hlt⟩ | ⟨behind, rfl, hbehind⟩
  · omega
  · exact ⟨behind, by omega, hbehind⟩

/-- In a finished text without comments no comment starts, whatever is written behind it. -/
theorem IsFinished.not_commentAt {first : List Char} (hfinished : IsFinished first)
    (hnone : ¬ ∃ start closing, FirstComment first start closing) (second : List Char) :
    ∀ start < first.length, ∀ closing, ¬ CommentAt (first ++ second) start closing := by
  intro start hlt closing hcomment
  rcases Nat.lt_or_ge (start + 1) first.length with hinside | hlast
  · have hopening := (openingAt_append_left_iff hinside second).1 hcomment.opens
    obtain ⟨later, -, hlater⟩ := hfinished.closes start hopening
    exact hnone hlater.exists_firstComment
  · -- a slash ends no rule
    have hslash := hcomment.opens.1
    obtain rfl : start = first.length - 1 := by omega
    rw [List.getElem?_append_left hlt, ← List.getLast?_eq_getElem?] at hslash
    exact absurd (hfinished.ends '/' hslash) (by decide)

/-- The comments of a finished text and of one behind it are the comments of both. -/
theorem inComment_append_of_isFinished {first : List Char} (hfinished : IsFinished first)
    (second : List Char) (place : Nat) :
    InComment (first ++ second) place ↔
      InComment first place ∨
        ∃ shifted, place = first.length + shifted ∧ InComment second shifted := by
  -- by induction on the length of the first text, from its first comment to what is behind it
  induction hcount : first.length using Nat.strong_induction_on generalizing first place with
  | _ count ih =>
      subst hcount
      by_cases hexists : ∃ start closing, FirstComment first start closing
      · obtain ⟨start, closing, hcomment⟩ := hexists
        have hlength := hcomment.closes.lt_length
        have hrest := fun behind => ih (first.drop (closing + 2)).length
          (by rw [List.length_drop]; omega) (hfinished.drop hcomment) behind rfl
        have hdrop : (first ++ second).drop (closing + 2) = first.drop (closing + 2) ++ second :=
          List.drop_append_of_le_length (by omega)
        have hcount : closing + 2 + (first.drop (closing + 2)).length = first.length := by
          rw [List.length_drop]
          omega
        rw [inComment_of_first_iff (hcomment.append second), inComment_of_first_iff hcomment, hdrop,
          or_assoc]
        refine or_congr_right ?_
        simp only [hrest, ← hcount]
        constructor
        · rintro ⟨behind, rfl, hbehind | ⟨shifted, rfl, hshifted⟩⟩
          · exact Or.inl ⟨behind, rfl, hbehind⟩
          · exact Or.inr ⟨shifted, by omega, hshifted⟩
        · rintro (⟨behind, rfl, hbehind⟩ | ⟨shifted, rfl, hshifted⟩)
          · exact ⟨behind, rfl, Or.inl hbehind⟩
          · exact ⟨_, Nat.add_assoc _ _ _, Or.inr ⟨shifted, rfl, hshifted⟩⟩
      · have hplain : ¬ InComment first place := fun hplace => hexists hplace.exists_firstComment
        rw [inComment_append_iff (hfinished.not_commentAt hexists second)]
        exact (or_iff_right hplain).symm

/-- Whether a text is finished, by the places in it. -/
instance (characters : List Char) : Decidable (IsFinished characters) :=
  @decidable_of_iff _ (EndsRules characters ∧ ∀ place < characters.length,
      OpeningAt characters place →
        ∃ later < characters.length, place ≤ later ∧ InComment characters later)
    (by
      constructor
      · rintro ⟨hends, hcloses⟩
        refine ⟨hends, fun place hopening => ?_⟩
        obtain ⟨later, -, hle, hlater⟩ :=
          hcloses place (List.getElem?_eq_some_iff.1 hopening.1).1 hopening
        exact ⟨later, hle, hlater⟩
      · rintro ⟨hends, hcloses⟩
        refine ⟨hends, fun place _ hopening => ?_⟩
        obtain ⟨later, hle, hlater⟩ := hcloses place hopening
        exact ⟨later, lt_length_of_inComment hlater, hle, hlater⟩)
    (@instDecidableAnd _ _ (Option.decidableForallMem _)
      (@Nat.decidableBallLT characters.length _ fun _ _ =>
        @forall_prop_decidable _ _ instDecidableAnd fun _ => inferInstance))

/-! ## Marks -/

/-- The marks, place by place. -/
theorem markComments_eq (characters : List Char) :
    markComments characters = characters.mapIdx fun place character =>
      (character, decide (InComment characters place)) := by
  apply List.ext_getElem?
  intro place
  have hcharacter : ((markComments characters)[place]?).map Prod.fst = characters[place]? := by
    rw [← List.getElem?_map, map_fst_markComments]
  have hmark := mark_iff_inComment characters place
  rw [List.getElem?_mapIdx]
  cases hmarked : (markComments characters)[place]? with
  | none =>
      rw [hmarked] at hcharacter
      rw [← hcharacter]
      rfl
  | some marked =>
      rw [hmarked] at hcharacter hmark
      have hdecide : decide (InComment characters place) = marked.2 := by
        rw [Bool.eq_iff_iff, decide_eq_true_iff, ← hmark, Option.map_some, Option.some.injEq]
      rw [← hcharacter, Option.map_some, Option.map_some, hdecide]

/-- Behind a finished text, the marks of both texts are those of the two. -/
theorem markComments_append {first : List Char} (hfinished : IsFinished first)
    (second : List Char) :
    markComments (first ++ second) = markComments first ++ markComments second := by
  rw [markComments_eq, markComments_eq first, markComments_eq second, List.mapIdx_append]
  have hin := inComment_append_of_isFinished hfinished second
  congr 1
  · refine List.mapIdx_eq_mapIdx_iff.2 fun place hplace => ?_
    have hiff : InComment (first ++ second) place ↔ InComment first place := by
      rw [hin, or_iff_left]
      rintro ⟨shifted, rfl, -⟩
      omega
    rw [decide_eq_decide.2 hiff]
  · refine List.mapIdx_eq_mapIdx_iff.2 fun place _ => ?_
    have hiff : InComment (first ++ second) (place + first.length) ↔ InComment second place := by
      rw [hin, Nat.add_comm, or_iff_right fun hplace => by
        have hlt := lt_length_of_inComment hplace
        omega]
      simp
    rw [decide_eq_decide.2 hiff]

/-! ## Rules of the first text -/

section Rules

variable {first : List Char}

/-- A text that is not empty ends behind the name that it begins with. -/
theorem EndsRules.length_ruleName_lt (hends : EndsRules first) (hne : first ≠ [])
    {second : List Char} (hname : ruleName <+: first ++ second) :
    ruleName.length < first.length := by
  by_contra hle
  have hbeginning : first <+: ruleName :=
    List.prefix_of_prefix_length_le (List.prefix_append first second) hname (by omega)
  have hplain : ruleName.all (fun letter => !endsRule letter) = true := by decide
  have hlast := hends (first.getLast hne) (List.getLast?_eq_some_getLast hne)
  have hnot := List.all_eq_true.1 hplain _ (hbeginning.subset (List.getLast_mem hne))
  rw [hlast] at hnot
  exact Bool.noConfusion hnot

theorem EndsRules.ruleAt_append_iff (hends : EndsRules first) (hne : first ≠ [])
    (second : List Char) : RuleAt (first ++ second) 0 ↔ RuleAt first 0 := by
  simp only [RuleAt, List.drop_zero, Nat.zero_add]
  constructor
  · rintro ⟨hname, hnext⟩
    have hlength := hends.length_ruleName_lt hne hname
    rw [List.getElem?_append_left hlength] at hnext
    have hbeginning := List.prefix_append first second
    exact ⟨List.prefix_of_prefix_length_le hname hbeginning hlength.le, hnext⟩
  · rintro ⟨hname, hnext⟩
    have hwhole := hname.trans (List.prefix_append first second)
    rw [List.getElem?_append_left (hends.length_ruleName_lt hne hwhole)]
    exact ⟨hwhole, hnext⟩

/-- The rule that begins a text has its end in it. -/
theorem EndsRules.endFrom_lt (hends : EndsRules first) (hne : first ≠ [])
    (hrule : RuleAt first 0) : endFrom first 0 < first.length := by
  by_contra hpast
  have hpositive := List.length_pos_iff.2 hne
  have hlast := List.getLast?_eq_some_getLast hne
  have hinside := hrule.inExtent_endFrom (first.length - 1) (by omega) (Nat.zero_le _)
    (first.getLast hne) (by rw [← List.getLast?_eq_getElem?]; exact hlast)
  rw [hends _ hlast] at hinside
  exact Bool.noConfusion hinside

theorem EndsRules.parameterFrom_append (hends : EndsRules first) (hne : first ≠ [])
    (hrule : RuleAt first 0) (second : List Char) :
    parameterFrom (first ++ second) 0 = parameterFrom first 0 := by
  have hlt := hends.endFrom_lt hne hrule
  rw [endFrom, parameterFrom, Nat.zero_add] at hlt
  rw [parameterFrom, parameterFrom, Nat.zero_add, List.drop_append_of_le_length (by omega),
    List.takeWhile_append, if_neg]
  rw [List.length_drop]
  omega

theorem EndsRules.spanFrom_append (hends : EndsRules first) (hne : first ≠ [])
    (hrule : RuleAt first 0) (second : List Char) :
    spanFrom (first ++ second) 0 = spanFrom first 0 := by
  have hparameter := hends.parameterFrom_append hne hrule second
  have hend : endFrom (first ++ second) 0 = endFrom first 0 := by rw [endFrom, hparameter, endFrom]
  rw [spanFrom, spanFrom, hparameter, hend,
    List.getElem?_append_left (hends.endFrom_lt hne hrule)]

/-- The rule that begins a text is a part of it. -/
theorem EndsRules.length_spanFrom_le (hends : EndsRules first) (hne : first ≠ [])
    (hrule : RuleAt first 0) : (spanFrom first 0).length ≤ first.length := by
  have hlt := hends.endFrom_lt hne hrule
  have hlength := add_length_spanFrom first 0
  omega

/-! ### On marked text -/

variable {marked : List Marked}

theorem EndsRules.beginsRule_append (hends : EndsRules (marked.map Prod.fst)) (hne : marked ≠ [])
    (second : List Marked) : beginsRule (marked ++ second) = beginsRule marked := by
  rw [Bool.eq_iff_iff, beginsRule_iff, beginsRule_iff, List.map_append,
    hends.ruleAt_append_iff (mt List.map_eq_nil_iff.1 hne)]

theorem EndsRules.parameterAt_append (hends : EndsRules (marked.map Prod.fst))
    (hne : marked ≠ []) (hbegins : beginsRule marked = true) (second : List Marked) :
    parameterAt (marked ++ second) = parameterAt marked := by
  rw [parameterAt_eq, parameterAt_eq, List.map_append,
    hends.parameterFrom_append (mt List.map_eq_nil_iff.1 hne) ((beginsRule_iff marked).1 hbegins)]

theorem EndsRules.spanAt_append (hends : EndsRules (marked.map Prod.fst)) (hne : marked ≠ [])
    (hbegins : beginsRule marked = true) (second : List Marked) :
    spanAt (marked ++ second) = spanAt marked := by
  rw [spanAt_eq, spanAt_eq, List.map_append,
    hends.spanFrom_append (mt List.map_eq_nil_iff.1 hne) ((beginsRule_iff marked).1 hbegins)]

theorem EndsRules.length_spanAt_le (hends : EndsRules (marked.map Prod.fst)) (hne : marked ≠ [])
    (hbegins : beginsRule marked = true) : (spanAt marked).length ≤ marked.length := by
  rw [spanAt_eq, ← List.length_map Prod.fst]
  exact hends.length_spanFrom_le (mt List.map_eq_nil_iff.1 hne) ((beginsRule_iff marked).1 hbegins)

end Rules

/-! ## Pieces -/

/-- A text has no sign, or a first one. -/
theorem plain_or_exists_sign (marked : List Marked) :
    (∀ character ∈ marked, character.1 ≠ '@') ∨
      ∃ before sign rest, marked = before ++ sign :: rest ∧ sign.1 = '@' ∧
        ∀ character ∈ before, character.1 ≠ '@' := by
  cases hdrop : marked.dropWhile fun character => character.1 != '@' with
  | nil =>
      have hall := List.dropWhile_eq_nil_iff.1 hdrop
      exact Or.inl fun character hmem => bne_iff_ne.1 (hall character hmem)
  | cons sign rest =>
      obtain ⟨hfound, hsplit⟩ := split_of_dropWhile hdrop
      refine Or.inr ⟨_, sign, rest, hsplit, by simpa using hfound, fun character hmem => ?_⟩
      simpa using List.mem_takeWhile_imp hmem

theorem pieces_of_no_sign {marked : List Marked}
    (hplain : ∀ character ∈ marked, character.1 ≠ '@') :
    pieces marked = [.text (marked.map Prod.fst)] := by
  have hdrop : marked.dropWhile (fun character => character.1 != '@') = [] :=
    List.dropWhile_eq_nil_iff.2 fun character hmem => bne_iff_ne.2 (hplain character hmem)
  rw [pieces]
  split
  · rfl
  · rename_i hother
    rw [hdrop] at hother
    cases hother

/-- The pieces of a text with a sign in it, by what the sign begins. -/
theorem pieces_of_sign {before : List Marked} (hplain : ∀ character ∈ before, character.1 ≠ '@')
    {sign : Marked} (hsign : sign.1 = '@') (rest : List Marked) :
    pieces (before ++ sign :: rest) =
      if beginsRule (sign :: rest) then
        .text (before.map Prod.fst) ::
          (if sign.2 then .text (spanAt (sign :: rest))
            else .invocation (spanAt (sign :: rest)) (parameterAt (sign :: rest))) ::
          pieces ((sign :: rest).drop (spanAt (sign :: rest)).length)
      else .text (before.map Prod.fst ++ [sign.1]) :: pieces rest := by
  have hpasses : ∀ character ∈ before, (character.1 != '@') = true :=
    fun character hmem => bne_iff_ne.2 (hplain character hmem)
  have hdrop : (before ++ sign :: rest).dropWhile (fun character => character.1 != '@') =
      sign :: rest := by
    rw [List.dropWhile_append_of_pos hpasses]
    exact List.dropWhile_cons_of_neg (by simp [hsign])
  have htake : (before ++ sign :: rest).takeWhile (fun character => character.1 != '@') =
      before := by
    rw [List.takeWhile_append_of_pos hpasses, List.append_right_eq_self]
    exact List.takeWhile_cons_of_neg (by simp [hsign])
  rw [pieces]
  split
  · rename_i hother
    rw [hdrop] at hother
    cases hother
  · rename_i hother
    rw [hdrop] at hother
    cases hother
    rw [htake]

/-- A text without a sign goes to the text that the pieces behind it begin with. -/
theorem pieces_append_of_no_sign {first : List Marked}
    (hplain : ∀ character ∈ first, character.1 ≠ '@') (second : List Marked) :
    ∃ next behind, pieces second = .text next :: behind ∧
      pieces (first ++ second) = .text (first.map Prod.fst ++ next) :: behind := by
  rcases plain_or_exists_sign second with hnone | ⟨before, sign, rest, rfl, hsign, hbefore⟩
  · refine ⟨_, _, pieces_of_no_sign hnone, ?_⟩
    rw [pieces_of_no_sign (List.forall_mem_append.2 ⟨hplain, hnone⟩), List.map_append]
  · have hboth := pieces_of_sign (List.forall_mem_append.2 ⟨hplain, hbefore⟩) hsign rest
    rw [List.append_assoc] at hboth
    rw [hboth, pieces_of_sign hbefore hsign]
    split
    · exact ⟨_, _, rfl, by rw [List.map_append]⟩
    · exact ⟨_, _, rfl, by rw [List.map_append, List.append_assoc]⟩

/-- Where a text ends rules, the last piece of it and the first piece of the text behind it
are text and grow together, and all other pieces stay. -/
theorem pieces_append {first : List Marked} (hends : EndsRules (first.map Prod.fst))
    (second : List Marked) :
    ∃ front last next behind, pieces first = front ++ [.text last] ∧
      pieces second = .text next :: behind ∧
      pieces (first ++ second) = front ++ .text (last ++ next) :: behind := by
  -- by induction on the length of the first text, along its signs
  induction hcount : first.length using Nat.strong_induction_on generalizing first with
  | _ count ih =>
      subst hcount
      rcases plain_or_exists_sign first with hplain | ⟨before, sign, rest, rfl, hsign, hbefore⟩
      · obtain ⟨next, behind, hsecond, hboth⟩ := pieces_append_of_no_sign hplain second
        exact ⟨[], _, next, behind, pieces_of_no_sign hplain, hsecond, hboth⟩
      · have hhere : EndsRules ((sign :: rest).map Prod.fst) := by
          have hdrop := hends.drop before.length
          rwa [← List.map_drop, List.drop_left] at hdrop
        have hne : sign :: rest ≠ [] := List.cons_ne_nil _ _
        have hboth := pieces_of_sign hbefore hsign (rest ++ second)
        rw [← List.cons_append, hhere.beginsRule_append hne] at hboth
        rw [List.append_assoc, hboth, pieces_of_sign hbefore hsign]
        split
        · rename_i hbegins
          have hlow := ruleName_length_le_spanAt (sign :: rest)
          have hhigh := hhere.length_spanAt_le hne hbegins
          have hname : ruleName.length = 13 := rfl
          obtain ⟨front, last, next, behind, hfirst, hsecond, hrest⟩ :=
            ih ((sign :: rest).drop (spanAt (sign :: rest)).length).length
              (by rw [List.length_drop, List.length_append]; omega)
              (by rw [List.map_drop]; exact hhere.drop _) rfl
          rw [hhere.spanAt_append hne hbegins, hhere.parameterAt_append hne hbegins,
            List.drop_append_of_le_length hhigh, hfirst, hrest]
          exact ⟨_ :: _ :: front, last, next, behind, rfl, hsecond, rfl⟩
        · obtain ⟨front, last, next, behind, hfirst, hsecond, hrest⟩ :=
            ih rest.length (by rw [List.length_append, List.length_cons]; omega)
              (by simpa using hhere.drop 1) rfl
          rw [hfirst, hrest]
          exact ⟨_ :: front, last, next, behind, rfl, hsecond, rfl⟩

/-- Two stylesheets one after the other are cut at the seam and grow together there. -/
theorem cut_append {first : List Char} (hfinished : IsFinished first) (second : List Char) :
    ∃ front last next behind, cut first = front ++ [.text last] ∧
      cut second = .text next :: behind ∧
      cut (first ++ second) = front ++ .text (last ++ next) :: behind := by
  have hends : EndsRules ((markComments first).map Prod.fst) := by
    rw [map_fst_markComments]
    exact hfinished.ends
  rw [cut, cut, cut, markComments_append hfinished]
  exact pieces_append hends (markComments second)

end Palette.Stylesheet
