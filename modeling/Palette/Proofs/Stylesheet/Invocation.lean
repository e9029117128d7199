import Mathlib.Data.List.Sort
import Palette.Proofs.Stylesheet.RulePlace

/-!
# The invocations of a stylesheet

`pieces` cuts a stylesheet from the left, and `invocations` lists the at-rules that it
finds, each with its place.  They are the live rules without the shadowed ones, each
once and in order (`invocations_eq`).

## Strategy

A rule that is skipped hides what it reaches over in the same way as one that is
expanded, so the places are first described for any marks (`TakenAt`): a rule that
is not marked and that no earlier rule reaches over.  The recursion of `pieces` goes
from one rule to behind its end, and no rule before that end reaches farther, so the
description of the rest is the one of the whole text (`takenAt_drop_iff`).  Only at
the end are the marks those of comments (`takenAt_markComments_iff`).
-/

namespace Palette.Stylesheet

/-! ## Which rules are taken -/

/-- A rule whose sign is not marked, and that no earlier rule reaches over. -/
def TakenAt (marked : List Marked) (place : Nat) : Prop :=
  RuleAt (marked.map Prod.fst) place ∧ marked[place]?.map Prod.snd ≠ some true ∧
    ∀ earlier < place, RuleAt (marked.map Prod.fst) earlier →
      ¬ InExtent (marked.map Prod.fst) earlier place

/-- Where nothing reaches over from the part that is left away, the rules that are taken
stay the same. -/
theorem takenAt_drop_iff {marked : List Marked} {count place : Nat}
    (hfree : RuleAt (marked.map Prod.fst) (count + place) → ∀ earlier < count,
      RuleAt (marked.map Prod.fst) earlier →
        ¬ InExtent (marked.map Prod.fst) earlier (count + place)) :
    TakenAt (marked.drop count) place ↔ TakenAt marked (count + place) := by
  simp only [TakenAt, List.map_drop, ruleAt_drop_iff, inExtent_drop_iff, List.getElem?_drop]
  constructor
  · rintro ⟨hrule, hmark, hearlier⟩
    refine ⟨hrule, hmark, fun earlier hlt hother => ?_⟩
    rcases Nat.lt_or_ge earlier count with hbefore | hpast
    · exact hfree hrule earlier hbefore hother
    · obtain ⟨shifted, rfl⟩ := Nat.exists_eq_add_of_le hpast
      exact hearlier shifted (by omega) hother
  · rintro ⟨hrule, hmark, hearlier⟩
    exact ⟨hrule, hmark, fun earlier hlt hother => hearlier (count + earlier) (by omega) hother⟩

/-- A beginning without rules can be left away. -/
theorem takenAt_iff_of_not_ruleAt {marked : List Marked} {count : Nat}
    (hnone : ∀ earlier < count, ¬ RuleAt (marked.map Prod.fst) earlier) (place : Nat) :
    TakenAt marked place ↔
      ∃ shifted, place = count + shifted ∧ TakenAt (marked.drop count) shifted := by
  have hfree : ∀ shifted, TakenAt (marked.drop count) shifted ↔ TakenAt marked (count + shifted) :=
    fun shifted => takenAt_drop_iff fun _ earlier hlt hrule => absurd hrule (hnone earlier hlt)
  constructor
  · intro htaken
    rcases Nat.lt_or_ge place count with hbefore | hpast
    · exact absurd htaken.1 (hnone place hbefore)
    · obtain ⟨shifted, rfl⟩ := Nat.exists_eq_add_of_le hpast
      exact ⟨shifted, rfl, (hfree shifted).2 htaken⟩
  · rintro ⟨shifted, rfl, htaken⟩
    exact (hfree shifted).1 htaken

/-- At a rule, it is taken if it is not marked, and the next ones lie behind it. -/
theorem takenAt_iff_of_ruleAt {marked : List Marked}
    (hrule : RuleAt (marked.map Prod.fst) 0) (place : Nat) :
    TakenAt marked place ↔
      place = 0 ∧ marked[0]?.map Prod.snd ≠ some true ∨
        ∃ shifted, place = (spanFrom (marked.map Prod.fst) 0).length + shifted ∧
          TakenAt (marked.drop (spanFrom (marked.map Prod.fst) 0).length) shifted := by
  have hlength := add_length_spanFrom (marked.map Prod.fst) 0
  rw [Nat.zero_add] at hlength
  have hpositive := List.length_pos_iff.2 (spanFrom_ne_nil (marked.map Prod.fst) 0)
  generalize (spanFrom (marked.map Prod.fst) 0).length = count at hlength hpositive ⊢
  -- a rule behind the end is no longer reached over by anything before that end
  have hfree : ∀ shifted,
      TakenAt (marked.drop count) shifted ↔ TakenAt marked (count + shifted) := by
    intro shifted
    refine takenAt_drop_iff fun hother earlier hlt _ => ?_
    have hne : count + shifted ≠ endFrom (marked.map Prod.fst) 0 := by
      intro heq
      exact not_ruleAt_endFrom (marked.map Prod.fst) 0 (heq ▸ hother)
    exact @not_inExtent_of_past_end _ 0 _ _ (by omega) (by omega) hother
  constructor
  · intro htaken
    rcases Nat.lt_or_ge place count with hinside | hpast
    · rcases Nat.eq_zero_or_pos place with rfl | hplace
      · exact Or.inl ⟨rfl, htaken.2.1⟩
      · refine absurd (fun between hlt hle => ?_) (htaken.2.2 0 hplace hrule)
        exact hrule.inExtent_endFrom between (by omega) hle
    · obtain ⟨shifted, rfl⟩ := Nat.exists_eq_add_of_le hpast
      exact Or.inr ⟨shifted, rfl, (hfree shifted).2 htaken⟩
  · rintro (⟨rfl, hmark⟩ | ⟨shifted, rfl, htaken⟩)
    · exact ⟨hrule, hmark, fun earlier hlt => absurd hlt (Nat.not_lt_zero earlier)⟩
    · exact (hfree shifted).1 htaken

/-! ## Invocations -/

/-- An invocation at a place of a stylesheet. -/
structure Invocation where
  place : Nat
  span : List Char
  parameter : List Char

/-- The invocations among pieces, the first of which stands at `offset`. -/
def invocationsFrom (offset : Nat) : List Piece → List Invocation
  | [] => []
  | .text characters :: rest => invocationsFrom (offset + characters.length) rest
  | .invocation span parameter :: rest =>
      ⟨offset, span, parameter⟩ :: invocationsFrom (offset + span.length) rest

/-- The invocations of a stylesheet, in order. -/
def invocations (characters : List Char) : List Invocation :=
  invocationsFrom 0 (cut characters)

/-- The invocation that the rule at a place makes, in a text that stands at `offset`. -/
def invocationAt (offset : Nat) (characters : List Char) (place : Nat) : Invocation :=
  ⟨offset + place, spanFrom characters place, parameterFrom characters place⟩

theorem invocationAt_drop (offset count : Nat) (characters : List Char) (place : Nat) :
    invocationAt (offset + count) (characters.drop count) place =
      invocationAt offset characters (count + place) := by
  have hparameter : parameterFrom (characters.drop count) place =
      parameterFrom characters (count + place) := by
    simp only [parameterFrom, List.drop_drop, Nat.add_assoc]
  have hend : count + endFrom (characters.drop count) place =
      endFrom characters (count + place) := by
    simp only [endFrom, hparameter, Nat.add_assoc]
  simp only [invocationAt, spanFrom, hparameter, List.getElem?_drop, hend, Nat.add_assoc]

/-- The invocation that a taken rule makes. -/
def IsTaken (offset : Nat) (marked : List Marked) (invocation : Invocation) : Prop :=
  ∃ place, TakenAt marked place ∧ invocation = invocationAt offset (marked.map Prod.fst) place

theorem isTaken_iff_of_not_ruleAt {marked : List Marked} {count : Nat}
    (hnone : ∀ earlier < count, ¬ RuleAt (marked.map Prod.fst) earlier) (offset : Nat)
    (invocation : Invocation) :
    IsTaken offset marked invocation ↔
      IsTaken (offset + count) (marked.drop count) invocation := by
  simp only [IsTaken, List.map_drop, invocationAt_drop]
  constructor
  · rintro ⟨place, htaken, hinvocation⟩
    obtain ⟨shifted, rfl, hshifted⟩ := (takenAt_iff_of_not_ruleAt hnone place).1 htaken
    exact ⟨shifted, hshifted, hinvocation⟩
  · rintro ⟨shifted, hshifted, hinvocation⟩
    exact ⟨count + shifted, (takenAt_iff_of_not_ruleAt hnone _).2 ⟨shifted, rfl, hshifted⟩,
      hinvocation⟩

theorem isTaken_iff_of_ruleAt {marked : List Marked} (hrule : RuleAt (marked.map Prod.fst) 0)
    (offset : Nat) (invocation : Invocation) :
    IsTaken offset marked invocation ↔
      marked[0]?.map Prod.snd ≠ some true ∧
          invocation = invocationAt offset (marked.map Prod.fst) 0 ∨
        IsTaken (offset + (spanFrom (marked.map Prod.fst) 0).length)
          (marked.drop (spanFrom (marked.map Prod.fst) 0).length) invocation := by
  simp only [IsTaken, List.map_drop, invocationAt_drop]
  constructor
  · rintro ⟨place, htaken, hinvocation⟩
    rcases (takenAt_iff_of_ruleAt hrule place).1 htaken with ⟨rfl, hmark⟩ | ⟨shifted, rfl, hshifted⟩
    · exact Or.inl ⟨hmark, hinvocation⟩
    · exact Or.inr ⟨shifted, hshifted, hinvocation⟩
  · rintro (⟨hmark, hinvocation⟩ | ⟨shifted, hshifted, hinvocation⟩)
    · exact ⟨0, (takenAt_iff_of_ruleAt hrule 0).2 (Or.inl ⟨rfl, hmark⟩), hinvocation⟩
    · exact ⟨_, (takenAt_iff_of_ruleAt hrule _).2 (Or.inr ⟨shifted, rfl, hshifted⟩), hinvocation⟩

/-- Before the first sign, no rule begins. -/
theorem not_ruleAt_of_lt_sign {marked : List Marked} {place : Nat}
    (hplace : place < (marked.takeWhile fun character => character.1 != '@').length) :
    ¬ RuleAt (marked.map Prod.fst) place := by
  intro hrule
  have hsign := hrule.sign
  rw [← List.takeWhile_append_dropWhile (p := fun character : Marked => character.1 != '@')
    (l := marked), List.map_append, List.getElem?_append_left (by simpa using hplace)] at hsign
  obtain ⟨first, hfirst, hat⟩ := List.mem_map.1 (List.mem_of_getElem? hsign)
  have hne := List.mem_takeWhile_imp hfirst
  simp [hat] at hne

/-- The text behind what was passed over in the search for a sign. -/
theorem drop_length_before {marked : List Marked} {first : Marked} {rest : List Marked}
    (hdrop : (marked.dropWhile fun character => character.1 != '@') = first :: rest) :
    marked.drop ((marked.takeWhile fun character => character.1 != '@').map Prod.fst).length =
      first :: rest := by
  conv_lhs => rw [(split_of_dropWhile hdrop).2]
  rw [List.drop_left' (by rw [← (split_of_dropWhile hdrop).2, List.length_map])]

/-- The invocations among the pieces are the rules that are taken. -/
theorem mem_invocationsFrom_pieces (marked : List Marked) (offset : Nat)
    (invocation : Invocation) :
    invocation ∈ invocationsFrom offset (pieces marked) ↔ IsTaken offset marked invocation := by
  fun_induction pieces marked generalizing offset with
  | case1 marked hdrop =>
      have hall : marked.takeWhile (fun character => character.1 != '@') = marked :=
        List.takeWhile_eq_self_iff.2 (List.dropWhile_eq_nil_iff.1 hdrop)
      have hnone : ¬ IsTaken offset marked invocation := by
        rintro ⟨place, htaken, -⟩
        have hplace : place < marked.length := by simpa using htaken.1.lt_length
        exact not_ruleAt_of_lt_sign (by rwa [hall]) htaken.1
      simp [invocationsFrom, hnone]
  | case2 marked first rest hdrop before here hbegins span piece ih =>
      have hhere : marked.drop before.length = here := drop_length_before hdrop
      have hnone : ∀ earlier < before.length, ¬ RuleAt (marked.map Prod.fst) earlier :=
        fun earlier hlt => not_ruleAt_of_lt_sign (by simpa [before] using hlt)
      have hrule := (beginsRule_iff here).1 hbegins
      have hspan : span = spanFrom (here.map Prod.fst) 0 := spanAt_eq here
      have hparameter : parameterAt here = parameterFrom (here.map Prod.fst) 0 :=
        parameterAt_eq here
      rw [isTaken_iff_of_not_ruleAt hnone, hhere, isTaken_iff_of_ruleAt hrule, ← hspan, ← ih]
      -- a marked rule is text and no invocation, but is passed over like one
      cases hmark : first.2 with
      | true => simp [piece, here, hmark, invocationsFrom, Nat.add_assoc]
      | false =>
          simp [piece, here, hmark, invocationsFrom, invocationAt, hspan, hparameter, Nat.add_assoc]
  | case3 marked first rest hdrop before here hbegins ih =>
      have hhere : marked.drop before.length = here := drop_length_before hdrop
      have hnone : ∀ earlier < (before ++ [first.1]).length,
          ¬ RuleAt (marked.map Prod.fst) earlier := by
        intro earlier hlt hrule
        rcases Nat.lt_or_ge earlier before.length with hbefore | hpast
        · exact not_ruleAt_of_lt_sign (by simpa [before] using hbefore) hrule
        · obtain rfl : earlier = before.length := by
            rw [List.length_append, List.length_singleton] at hlt
            omega
          rw [← Nat.add_zero before.length, ← ruleAt_drop_iff, ← List.map_drop, hhere,
            ← beginsRule_iff] at hrule
          exact hbegins hrule
      have hrest : marked.drop (before ++ [first.1]).length = rest := by
        rw [List.length_append, ← List.drop_drop, hhere]
        rfl
      rw [isTaken_iff_of_not_ruleAt hnone, hrest, ← ih]
      rfl

/-- Invocations stand behind the beginning of the text. -/
theorem offset_le_place {offset : Nat} {list : List Piece} {invocation : Invocation}
    (hmem : invocation ∈ invocationsFrom offset list) : offset ≤ invocation.place := by
  induction list generalizing offset with
  | nil => simp [invocationsFrom] at hmem
  | cons piece rest ih =>
      cases piece with
      | text characters => exact (Nat.le_add_right _ _).trans (ih hmem)
      | invocation span parameter =>
          rcases List.mem_cons.1 hmem with rfl | hrest
          · exact Nat.le_refl _
          · exact (Nat.le_add_right _ _).trans (ih hrest)

/-- Invocations that are not empty stand one behind the other. -/
theorem pairwise_invocationsFrom {offset : Nat} {list : List Piece}
    (hspans : ∀ invocation ∈ invocationsFrom offset list, invocation.span ≠ []) :
    (invocationsFrom offset list).Pairwise fun first second => first.place < second.place := by
  induction list generalizing offset with
  | nil => exact List.Pairwise.nil
  | cons piece rest ih =>
      cases piece with
      | text characters => exact ih hspans
      | invocation span parameter =>
          have hspan : 0 < span.length :=
            List.length_pos_iff.2 (hspans ⟨offset, span, parameter⟩ List.mem_cons_self)
          refine List.Pairwise.cons (fun later hlater => ?_)
            (ih fun later hlater => hspans later (List.mem_cons_of_mem _ hlater))
          exact (Nat.lt_add_of_pos_right hspan).trans_le (offset_le_place hlater)

/-- In a stylesheet, the rules that are taken are the live ones without the shadowed ones. -/
theorem takenAt_markComments_iff (characters : List Char) (place : Nat) :
    TakenAt (markComments characters) place ↔
      LiveRule characters place ∧ ¬ Shadowed characters place := by
  simp only [TakenAt, map_fst_markComments, ne_eq, mark_iff_inComment]
  constructor
  · rintro ⟨hrule, hplain, hfree⟩
    refine ⟨⟨hrule, hplain, fun earlier hlt hearlier _ => hfree earlier hlt hearlier⟩, ?_⟩
    rintro ⟨earlier, hlt, hearlier, -, hextent⟩
    exact hfree earlier hlt hearlier hextent
  · rintro ⟨⟨hrule, hplain, hfree⟩, hshadow⟩
    refine ⟨hrule, hplain, fun earlier hlt hearlier hextent => ?_⟩
    by_cases hcomment : InComment characters earlier
    · exact hshadow ⟨earlier, hlt, hearlier, hcomment, hextent⟩
    · exact hfree earlier hlt hearlier hcomment hextent

/-- The places of the rules that are taken, in order. -/
def takenPlaces (characters : List Char) : List Nat :=
  (List.range characters.length).filter fun place =>
    LiveRule characters place ∧ ¬ Shadowed characters place

theorem mem_takenPlaces_iff (characters : List Char) (place : Nat) :
    place ∈ takenPlaces characters ↔ LiveRule characters place ∧ ¬ Shadowed characters place := by
  simp only [takenPlaces, List.mem_filter, List.mem_range, decide_eq_true_eq, and_iff_right_iff_imp]
  rintro ⟨hlive, -⟩
  exact hlive.1.lt_length

theorem mem_invocations_iff (characters : List Char) (invocation : Invocation) :
    invocation ∈ invocations characters ↔
      ∃ place ∈ takenPlaces characters, invocation = invocationAt 0 characters place := by
  simp only [invocations, cut, mem_invocationsFrom_pieces, IsTaken, takenAt_markComments_iff,
    map_fst_markComments, mem_takenPlaces_iff]

/-- The invocations of a stylesheet are made by the live rules that are not shadowed, each
once and in order. -/
theorem invocations_eq (characters : List Char) :
    invocations characters = (takenPlaces characters).map (invocationAt 0 characters) := by
  have hspans : ∀ invocation ∈ invocations characters, invocation.span ≠ [] := by
    intro invocation hmem
    obtain ⟨place, -, rfl⟩ := (mem_invocations_iff ..).1 hmem
    exact spanFrom_ne_nil characters place
  -- two lists of places in order are the same if they have the same members
  have hplaces : (invocations characters).map Invocation.place = takenPlaces characters := by
    refine List.Pairwise.eq_of_mem_iff (r := (· < ·)) ?_
      (List.Pairwise.filter _ List.pairwise_lt_range) fun place => ?_
    · rw [List.pairwise_map]
      exact pairwise_invocationsFrom hspans
    · simp only [List.mem_map, mem_invocations_iff]
      constructor
      · rintro ⟨invocation, ⟨place, hplace, rfl⟩, rfl⟩
        rwa [invocationAt, Nat.zero_add]
      · intro hplace
        exact ⟨_, ⟨place, hplace, rfl⟩, Nat.zero_add place⟩
  rw [← hplaces, List.map_map]
  refine (List.map_id' _).symm.trans (List.map_congr_left fun invocation hmem => ?_)
  obtain ⟨place, -, rfl⟩ := (mem_invocations_iff ..).1 hmem
  simp [invocationAt]

end Palette.Stylesheet
