import Palette.Stylesheet.Comment
import Palette.Text.WordCharacter

/-!
# Invocations in a stylesheet

An invocation is the at-rule's name, not followed by a word character or a hyphen,
with everything up to the next semicolon, brace or the end of the text; a semicolon
is part of it.  `pieces` cuts a marked text into invocations and the text between
them.  A rule whose name begins inside a comment is text, to its whole extent.
-/

namespace Palette.Stylesheet

open Palette.Text

/-- The name of the at-rule, with its sign. -/
def ruleName : List Char := "@theme-tokens".toList

/-- Whether a character may not follow the name of the at-rule. -/
def lengthensName (character : Char) : Bool :=
  isWordCharacter character || character == '-'

/-- Whether the at-rule begins here. -/
def beginsRule (marked : List Marked) : Bool :=
  let here := (marked.take (ruleName.length + 1)).map Prod.fst
  ruleName.isPrefixOf here &&
    match here.drop ruleName.length with
    | [] => true
    | next :: _ => !lengthensName next

/-- Whether a character ends an at-rule. -/
def endsRule (character : Char) : Bool :=
  character == ';' || character == '\x7b' || character == '\x7d'

/-- A part of a stylesheet. -/
inductive Piece where
  | text (characters : List Char)
  /-- An at-rule with what stands between its name and its end. -/
  | invocation (span parameter : List Char)
  deriving DecidableEq, Repr

/-- The characters of a piece. -/
def Piece.characters : Piece → List Char
  | .text characters => characters
  | .invocation span _ => span

/-- What stands between the name of an at-rule that begins here and its end. -/
def parameterAt (marked : List Marked) : List Char :=
  ((marked.drop ruleName.length).takeWhile fun character => !endsRule character.1).map Prod.fst

/-- The semicolon of an at-rule whose parameter ends here. -/
def semicolonAt : List Marked → List Char
  | (';', _) :: _ => [';']
  | _ => []

/-- The whole at-rule that begins here. -/
def spanAt (marked : List Marked) : List Char :=
  let parameter := parameterAt marked
  ruleName ++ parameter ++ semicolonAt (marked.drop (ruleName.length + parameter.length))

/-- An at-rule has at least the length of its name. -/
theorem ruleName_length_le_spanAt (marked : List Marked) :
    ruleName.length ≤ (spanAt marked).length := by
  simp only [spanAt, List.length_append]
  omega

/-- The text cut into invocations and what stands between them. -/
def pieces (marked : List Marked) : List Piece :=
  match _h : marked.dropWhile fun character => character.1 != '@' with
  | [] => [.text (marked.map Prod.fst)]
  | first :: rest =>
    let before := (marked.takeWhile fun character => character.1 != '@').map Prod.fst
    let here := first :: rest
    if beginsRule here then
      let span := spanAt here
      let piece := if first.2 then .text span else .invocation span (parameterAt here)
      .text before :: piece :: pieces (here.drop span.length)
    else .text (before ++ [first.1]) :: pieces rest
termination_by marked.length
decreasing_by
  · have hlength := congrArg List.length _h
    have hle := (List.dropWhile_sublist
      (p := fun character : Marked => character.1 != '@') (l := marked)).length_le
    have hspan := ruleName_length_le_spanAt (first :: rest)
    have hname : ruleName.length = 13 := rfl
    simp only [List.length_cons, List.length_drop] at hlength ⊢
    omega
  · have hlength := congrArg List.length _h
    have hle := (List.dropWhile_sublist
      (p := fun character : Marked => character.1 != '@') (l := marked)).length_le
    simp only [List.length_cons] at hlength
    omega

/-- A stylesheet cut into invocations and what stands between them. -/
def cut (characters : List Char) : List Piece :=
  pieces (markComments characters)

/-! ## Nothing is lost -/

/-- Where the at-rule begins, its whole extent is a beginning of the text. -/
theorem spanAt_eq_take {marked : List Marked} (hbegins : beginsRule marked = true) :
    spanAt marked = (marked.take (spanAt marked).length).map Prod.fst := by
  have hname : ruleName = (marked.take ruleName.length).map Prod.fst := by
    unfold beginsRule at hbegins
    simp only [Bool.and_eq_true] at hbegins
    obtain ⟨tail, htail⟩ := List.isPrefixOf_iff_prefix.1 hbegins.1
    have htake := congrArg (List.take ruleName.length) htail
    rw [List.take_left, ← List.map_take, List.take_take] at htake
    rw [show min ruleName.length (ruleName.length + 1) = ruleName.length by omega] at htake
    exact htake
  have hparameter : parameterAt marked =
      ((marked.drop ruleName.length).take (parameterAt marked).length).map Prod.fst := by
    unfold parameterAt
    rw [List.length_map]
    congr 1
    have hprefix := List.takeWhile_prefix
      (l := marked.drop ruleName.length) (fun character : Marked => !endsRule character.1)
    exact List.prefix_iff_eq_take.1 hprefix
  have hsemicolon : ∀ rest : List Marked,
      semicolonAt rest = (rest.take (semicolonAt rest).length).map Prod.fst := by
    intro rest
    unfold semicolonAt
    split <;> simp
  have hsplit : ∀ first second : Nat, (marked.take (first + second)).map Prod.fst =
      (marked.take first).map Prod.fst ++ ((marked.drop first).take second).map Prod.fst := by
    intro first second
    rw [List.take_add, List.map_append]
  simp only [spanAt, List.length_append]
  rw [hsplit, hsplit, ← hname, ← hparameter, ← hsemicolon]

/-- The pieces of a text are the text. -/
theorem flatMap_pieces (marked : List Marked) :
    (pieces marked).flatMap Piece.characters = marked.map Prod.fst := by
  fun_induction pieces marked with
  | case1 => simp [Piece.characters]
  | case2 marked first rest hdrop before here hbegins span piece ih =>
    obtain ⟨-, hsplit⟩ := split_of_dropWhile hdrop
    have hpiece : piece.characters = span := by
      simp only [piece]
      split <;> rfl
    have hspan : span ++ (here.drop span.length).map Prod.fst = here.map Prod.fst := by
      have htake : span = (here.take span.length).map Prod.fst := spanAt_eq_take hbegins
      calc span ++ (here.drop span.length).map Prod.fst
          = (here.take span.length).map Prod.fst ++ (here.drop span.length).map Prod.fst := by
            rw [← htake]
        _ = here.map Prod.fst := by rw [← List.map_append, List.take_append_drop]
    rw [List.flatMap_cons, List.flatMap_cons, ih, hpiece, hspan]
    simp only [Piece.characters, before, here]
    rw [← List.map_append, ← hsplit]
  | case3 marked first rest hdrop before here hbegins ih =>
    obtain ⟨-, hsplit⟩ := split_of_dropWhile hdrop
    rw [List.flatMap_cons, ih]
    simp only [Piece.characters, before]
    rw [List.append_assoc, List.singleton_append, ← List.map_cons, ← List.map_append, ← hsplit]

/-- Cutting a stylesheet loses nothing. -/
theorem flatMap_cut (characters : List Char) :
    (cut characters).flatMap Piece.characters = characters := by
  rw [cut, flatMap_pieces, map_fst_markComments]

end Palette.Stylesheet
