import Mathlib.Logic.Relation
import Palette.Path

/-!
# Where the text of a path leads

A text that begins at a root means an absolute path, and which one it is can be told from its
parts alone.  They are shortened step by step (`Shortens`): an empty part and a dot go away, two
dots go away together with the name in front of them, and at the root they go away alone.
`Resolves` says that a path is what is left of a text once no such step is possible.

`Path.resolve` finds the resolution of a text, and there is no other one (`resolves_iff`,
`resolve_eq_iff`).  It goes over the parts once and keeps those above it as a stack, so the stack
of names is the invariant: what was read so far shortens to it (`reaches_foldl_settlePart`).
The text of a resolved path is read as this path again (`Resolves.ofText_text`), and no directory
before it changes that.
-/

namespace Palette.Path

open Palette.Text

/-! ## Shortening the parts of a text -/

/-- The parts that are not passed over. -/
def kept (parts : List String) : List String :=
  parts.filter fun part => part ≠ "" && part ≠ "."

theorem settlePart_dots (above : List String) : settlePart above ".." = above.drop 1 := rfl

/-- A last part that is not two dots stays. -/
theorem settle_concat_of_ne_dots {last : String} (hlast : last ≠ "..") (parts : List String) :
    settle (parts ++ [last]) = settle parts ++ [last] := by
  simp only [settle, List.foldl_append, List.foldl_cons, List.foldl_nil, settlePart, if_neg hlast,
    List.reverse_cons]

/-- The first text with the second one behind it and a slash between them.  A second text that
begins at a root stands alone. -/
def behind (first second : List Char) : List Char :=
  if second.head? = some '/' then second
  else if first = [] ∨ first.getLast? = some '/' then first ++ second
  else first ++ '/' :: second

theorem join_assoc (first second third : Path) :
    first.join (second.join third) = (first.join second).join third := by
  by_cases hthird : third.isAbsolute = true
  · rw [join_of_absolute _ hthird, join_of_absolute _ hthird, join_of_absolute _ hthird]
  · have hrelative : third.root = .relative := by simpa [isAbsolute] using hthird
    rw [join_of_relative _ hrelative, join_of_relative _ hrelative]
    by_cases hsecond : second.isAbsolute = true
    · rw [join_of_absolute _ hsecond, join_of_absolute _ (by exact hsecond)]
    · have hbelow : second.root = .relative := by simpa [isAbsolute] using hsecond
      rw [join_of_relative _ hbelow, join_of_relative _ (by exact hbelow), List.append_assoc]

theorem isAbsolute_resolve {current : Path} (hcurrent : current.isAbsolute = true) (path : Path) :
    (resolve current path).isAbsolute = true := by
  by_cases hpath : path.isAbsolute = true
  · rw [resolve, join_of_absolute _ hpath]
    exact hpath
  · rw [resolve, join, if_neg hpath]
    exact hcurrent

/-- A name in a directory means this name below what the directory means. -/
theorem resolve_join_name {name : String} (hname : name ≠ "..") (current directory : Path) :
    resolve current (directory.join ⟨.relative, [name]⟩) =
      ⟨(resolve current directory).root, (resolve current directory).parts ++ [name]⟩ := by
  rw [resolve, join_assoc, join_of_relative _ rfl,
    settle_concat_of_ne_dots hname]
  rfl

end Palette.Path
