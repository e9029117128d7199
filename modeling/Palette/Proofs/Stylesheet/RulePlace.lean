import Palette.Proofs.Stylesheet.CommentPlace
import Palette.Stylesheet.Piece

/-!
# The places of at-rules

Where at-rules begin and how far they reach, by places alone:

* `RuleAt characters place`: the name of the at-rule is at `place`, and nothing
  lengthens it;
* `InExtent characters start place`: from `start` on, nothing ends a rule before
  `place`, so that a rule that begins at `start` reaches over `place`;
* `LiveRule`: a rule that begins outside every comment and that no earlier rule of
  that kind reaches over;
* `Shadowed`: a place that a rule reaches over whose name stands in a comment.

Every rule has an end (`endFrom`), and nothing from before that end reaches farther
(`not_inExtent_of_past_end`).
-/

namespace Palette.Stylesheet

/-- The name of the at-rule, with nothing behind it that makes it longer. -/
def RuleAt (characters : List Char) (place : Nat) : Prop :=
  ruleName <+: characters.drop place ∧
    ∀ next ∈ characters[place + ruleName.length]?, lengthensName next = false

/-- From `start` on, no character before `place` ends a rule. -/
def InExtent (characters : List Char) (start place : Nat) : Prop :=
  ∀ between < place, start ≤ between →
    ∀ character ∈ characters[between]?, endsRule character = false

/-- A rule outside every comment, and outside the extent of every earlier such rule. -/
def LiveRule (characters : List Char) (place : Nat) : Prop :=
  RuleAt characters place ∧ ¬ InComment characters place ∧
    ∀ earlier < place, RuleAt characters earlier → ¬ InComment characters earlier →
      ¬ InExtent characters earlier place

/-- A place in the extent of an earlier rule whose name stands in a comment. -/
def Shadowed (characters : List Char) (place : Nat) : Prop :=
  ∃ earlier < place, RuleAt characters earlier ∧ InComment characters earlier ∧
    InExtent characters earlier place

-- Both name the decision over an option: one over all characters would be found as well.
instance (characters : List Char) : DecidablePred (RuleAt characters) := fun _ =>
  @instDecidableAnd _ _ inferInstance (Option.decidableForallMem _)

instance (characters : List Char) (start : Nat) : DecidablePred (InExtent characters start) :=
  fun place => @Nat.decidableBallLT place _ fun _ _ =>
    @forall_prop_decidable _ _ inferInstance fun _ => Option.decidableForallMem _

instance (characters : List Char) : DecidablePred (LiveRule characters) := fun place =>
  inferInstanceAs (Decidable (_ ∧ _ ∧ ∀ earlier < place, RuleAt characters earlier →
    ¬ InComment characters earlier → ¬ InExtent characters earlier place))

instance (characters : List Char) : DecidablePred (Shadowed characters) := fun place =>
  inferInstanceAs (Decidable (∃ earlier < place, RuleAt characters earlier ∧
    InComment characters earlier ∧ InExtent characters earlier place))

/-- What stands between the name of the rule at a place and its end. -/
def parameterFrom (characters : List Char) (place : Nat) : List Char :=
  (characters.drop (place + ruleName.length)).takeWhile fun character => !endsRule character

/-- Where the extent of the rule at a place ends. -/
def endFrom (characters : List Char) (place : Nat) : Nat :=
  place + ruleName.length + (parameterFrom characters place).length

/-- The whole rule at a place, with its semicolon. -/
def spanFrom (characters : List Char) (place : Nat) : List Char :=
  ruleName ++ parameterFrom characters place ++
    if characters[endFrom characters place]? = some ';' then [';'] else []

/-! ## One rule and its end -/

theorem ruleAt_drop_iff (characters : List Char) (count place : Nat) :
    RuleAt (characters.drop count) place ↔ RuleAt characters (count + place) := by
  simp [RuleAt, List.drop_drop, Nat.add_assoc]

theorem inExtent_drop_iff (characters : List Char) (count start place : Nat) :
    InExtent (characters.drop count) start place ↔
      InExtent characters (count + start) (count + place) := by
  constructor
  · intro hextent between hlt hle
    obtain ⟨shifted, rfl⟩ := Nat.exists_eq_add_of_le (show count ≤ between by omega)
    have hshifted := hextent shifted (by omega) (by omega)
    rwa [List.getElem?_drop] at hshifted
  · intro hextent between hlt hle
    rw [List.getElem?_drop]
    exact hextent (count + between) (by omega) (by omega)

/-- A rule begins with its sign. -/
theorem RuleAt.sign {characters : List Char} {place : Nat} (hrule : RuleAt characters place) :
    characters[place]? = some '@' := by
  obtain ⟨rest, hrest⟩ := hrule.1
  have hname : ruleName[0]? = some '@' := rfl
  have hfirst : (ruleName ++ rest)[0]? = some '@' := by
    rw [List.getElem?_append_left (by decide), hname]
  rw [hrest, List.getElem?_drop, Nat.add_zero] at hfirst
  exact hfirst

theorem RuleAt.lt_length {characters : List Char} {place : Nat} (hrule : RuleAt characters place) :
    place < characters.length :=
  (List.getElem?_eq_some_iff.1 hrule.sign).1

/-- What follows a parameter. -/
theorem drop_endFrom (characters : List Char) (place : Nat) :
    characters.drop (endFrom characters place) =
      (characters.drop (place + ruleName.length)).dropWhile fun character =>
        !endsRule character := by
  have hsplit := List.takeWhile_append_dropWhile (p := fun character => !endsRule character)
    (l := characters.drop (place + ruleName.length))
  have hdrop := congrArg (List.drop (parameterFrom characters place).length) hsplit
  rw [← parameterFrom, List.drop_left, List.drop_drop, ← endFrom] at hdrop
  exact hdrop.symm

/-- From the name of a rule on, the text is the name, the parameter and the rest. -/
theorem RuleAt.drop_eq {characters : List Char} {place : Nat} (hrule : RuleAt characters place) :
    characters.drop place =
      ruleName ++ (parameterFrom characters place ++
        characters.drop (endFrom characters place)) := by
  obtain ⟨rest, hrest⟩ := hrule.1
  rw [drop_endFrom, parameterFrom, List.takeWhile_append_dropWhile, ← List.drop_drop, ← hrest,
    List.drop_left]

/-- Nothing inside a rule ends it. -/
theorem RuleAt.inExtent_endFrom {characters : List Char} {place : Nat}
    (hrule : RuleAt characters place) :
    InExtent characters place (endFrom characters place) := by
  intro between hlt hle character hcharacter
  obtain ⟨shifted, rfl⟩ := Nat.exists_eq_add_of_le hle
  rw [Option.mem_def, ← List.getElem?_drop, hrule.drop_eq, ← List.append_assoc,
    List.getElem?_append_left (by rw [List.length_append, endFrom] at *; omega)] at hcharacter
  rcases List.mem_append.1 (List.mem_of_getElem? hcharacter) with hname | hparameter
  · have hall : ruleName.all (fun letter => endsRule letter == false) = true := rfl
    simpa using List.all_eq_true.1 hall character hname
  · simpa using List.mem_takeWhile_imp hparameter

/-- Where the extent of a rule ends, something ends a rule. -/
theorem endsRule_endFrom (characters : List Char) (place : Nat) :
    ∀ character ∈ characters[endFrom characters place]?, endsRule character = true := by
  intro character hcharacter
  have hhead := List.head?_dropWhile_not (fun character => !endsRule character)
    (characters.drop (place + ruleName.length))
  rw [← drop_endFrom, List.head?_drop, hcharacter] at hhead
  simpa using hhead

/-- No rule begins where a rule ends. -/
theorem not_ruleAt_endFrom (characters : List Char) (place : Nat) :
    ¬ RuleAt characters (endFrom characters place) := by
  intro hrule
  have hends := endsRule_endFrom characters place '@' hrule.sign
  exact absurd hends (by decide)

/-- Over the end of a rule, nothing from before it reaches. -/
theorem not_inExtent_of_past_end {characters : List Char} {start earlier place : Nat}
    (hearlier : earlier ≤ endFrom characters start) (hpast : endFrom characters start < place)
    (hrule : RuleAt characters place) : ¬ InExtent characters earlier place := by
  intro hextent
  have hplace := hrule.lt_length
  have hend := List.getElem?_eq_getElem (show endFrom characters start < characters.length by omega)
  have hnot := hextent (endFrom characters start) hpast hearlier _ hend
  rw [endsRule_endFrom characters start _ hend] at hnot
  exact Bool.noConfusion hnot

/-- A rule runs up to its end, or up to behind the semicolon there. -/
theorem add_length_spanFrom (characters : List Char) (place : Nat) :
    place + (spanFrom characters place).length = endFrom characters place ∨
      place + (spanFrom characters place).length = endFrom characters place + 1 := by
  unfold spanFrom endFrom
  split <;> simp only [List.length_append, List.length_cons, List.length_nil] <;> omega

theorem spanFrom_ne_nil (characters : List Char) (place : Nat) :
    spanFrom characters place ≠ [] := by
  unfold spanFrom
  rw [List.append_assoc]
  exact List.append_ne_nil_of_left_ne_nil (by decide) _

/-! ## The functions on marked text -/

theorem parameterAt_eq (marked : List Marked) :
    parameterAt marked = parameterFrom (marked.map Prod.fst) 0 := by
  unfold parameterAt parameterFrom
  rw [Nat.zero_add, ← List.map_drop, List.takeWhile_map]
  rfl

theorem spanAt_eq (marked : List Marked) :
    spanAt marked = spanFrom (marked.map Prod.fst) 0 := by
  have hsemicolon : ∀ rest : List Marked, semicolonAt rest =
      if (rest.map Prod.fst)[0]? = some ';' then [';'] else [] := by
    intro rest
    unfold semicolonAt
    split
    · rfl
    · rename_i hother
      rw [if_neg]
      intro hsemicolon
      cases rest with
      | nil => simp at hsemicolon
      | cons first rest =>
          obtain ⟨character, mark⟩ := first
          obtain rfl : character = ';' := by simpa using hsemicolon
          exact hother mark rest rfl
  simp only [spanAt, spanFrom, endFrom, hsemicolon, parameterAt_eq, List.map_drop,
    List.getElem?_drop, Nat.zero_add, Nat.add_zero, List.append_assoc]

theorem beginsRule_iff (marked : List Marked) :
    beginsRule marked = true ↔ RuleAt (marked.map Prod.fst) 0 := by
  generalize hcharacters : marked.map Prod.fst = characters
  have hhere : (marked.take (ruleName.length + 1)).map Prod.fst =
      characters.take (ruleName.length + 1) := by
    rw [List.map_take, hcharacters]
  have hnext : (characters.take (ruleName.length + 1)).drop ruleName.length =
      characters[ruleName.length]?.toList := by
    rw [List.drop_take, Nat.add_sub_cancel_left, List.take_one, List.head?_drop]
  have hlength : ruleName.length ≤ ruleName.length + 1 := Nat.le_succ _
  simp only [beginsRule, hhere, hnext, Bool.and_eq_true, List.isPrefixOf_iff_prefix,
    List.prefix_take_iff, hlength, and_true, RuleAt, List.drop_zero, Nat.zero_add]
  cases characters[ruleName.length]? with
  | none => simp
  | some next => simp

end Palette.Stylesheet
