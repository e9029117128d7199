import Palette.Text.Parts

/-!
# Paths

A path is a root and a list of parts.  Reading a path drops empty parts, parts
that are a single dot, and a slash at the end; two dots stay.  A path that begins
with exactly two slashes keeps both.

`Path.resolve` finds the absolute path that a path means from a directory, by text
alone: an absolute path replaces what stands before it, and two dots take away
the part before them.
-/

namespace Palette

/-- Where a path starts. -/
inductive PathRoot where
  | relative
  | absolute
  /-- Two slashes. -/
  | doubled
  deriving DecidableEq, Repr

/-- The text of a root. -/
def PathRoot.text : PathRoot → String
  | .relative => ""
  | .absolute => "/"
  | .doubled => "//"

/-- A root and the parts below it, from the top down. -/
structure Path where
  root : PathRoot
  parts : List String
  deriving DecidableEq, Repr

namespace Path

instance : Inhabited Path := ⟨.relative, []⟩

/-- The root of a path's text. -/
def rootOf : List Char → PathRoot
  | '/' :: '/' :: '/' :: _ => .absolute
  | '/' :: '/' :: _ => .doubled
  | '/' :: _ => .absolute
  | _ => .relative

/-- The path that a text spells. -/
def ofText (text : String) : Path :=
  let characters := text.toList
  { root := rootOf characters
    parts := ((Text.parts '/' characters).filter fun part => part ≠ [] && part ≠ ['.']).map
      String.ofList }

/-- The text of a path; a path of nothing is a single dot. -/
def text (path : Path) : String :=
  if path.root = .relative ∧ path.parts = [] then "."
  else path.root.text ++ String.intercalate "/" path.parts

instance : ToString Path := ⟨text⟩

/-- The last part of a path, which is empty for a root. -/
def name (path : Path) : String :=
  path.parts.getLast?.getD ""

/-- The suffix of a name: from its last dot on, unless that dot is the first or the
last character. -/
def suffixOf (name : List Char) : List Char :=
  let after := name.reverse.takeWhile (· != '.')
  let before := name.reverse.dropWhile (· != '.')
  if after = [] ∨ before.length ≤ 1 then [] else '.' :: after.reverse

/-- The suffix of a path's last part. -/
def suffix (path : Path) : String :=
  String.ofList (suffixOf path.name.toList)

/-- Whether the path starts at a root. -/
def isAbsolute (path : Path) : Bool :=
  path.root != .relative

/-- The path without its last part. -/
def parent (path : Path) : Path :=
  { path with parts := path.parts.dropLast }

/-- The path with `ending` after its last part. -/
def extended (path : Path) (ending : String) : Path :=
  { path with parts := path.parts.dropLast ++ [path.name ++ ending] }

/-- The second path below the first one.  An absolute second path stands alone. -/
def join (first second : Path) : Path :=
  if second.isAbsolute then second else ⟨first.root, first.parts ++ second.parts⟩

/-- The part put below those above it, of which the nearest comes first.  Two dots
take the nearest away. -/
def settlePart (above : List String) (part : String) : List String :=
  if part = ".." then above.drop 1 else part :: above

/-- The parts below a root once every two dots have taken away the part before
them. -/
def settle (parts : List String) : List String :=
  (parts.foldl settlePart []).reverse

/-- The absolute path that `path` means in the directory `current`. -/
def resolve (current path : Path) : Path :=
  let joined := current.join path
  ⟨joined.root, settle joined.parts⟩

/-! ## Interface lemmas -/

@[simp] theorem join_of_absolute {second : Path} (first : Path)
    (habsolute : second.isAbsolute = true) : first.join second = second := by
  simp [join, habsolute]

theorem join_of_relative {second : Path} (first : Path) (hrelative : second.root = .relative) :
    first.join second = ⟨first.root, first.parts ++ second.parts⟩ := by
  simp [join, isAbsolute, hrelative]

@[simp] theorem settle_nil : settle [] = [] := rfl

/-- Settling keeps only parts that were there, and no two dots. -/
theorem mem_of_mem_foldl_settlePart {parts above : List String} {part : String}
    (hpart : part ∈ parts.foldl settlePart above) :
    part ∈ above ∨ (part ∈ parts ∧ part ≠ "..") := by
  induction parts generalizing above with
  | nil => exact .inl hpart
  | cons first rest ih =>
    rcases ih hpart with habove | ⟨hrest, hne⟩
    · unfold settlePart at habove
      split at habove
      · exact .inl (List.mem_of_mem_drop habove)
      · rename_i hdots
        rcases List.mem_cons.1 habove with rfl | habove
        · exact .inr ⟨by simp, hdots⟩
        · exact .inl habove
    · exact .inr ⟨by simp [hrest], hne⟩

/-- A settled path has no two dots left. -/
theorem ne_dots_of_mem_settle {parts : List String} {part : String} (hpart : part ∈ settle parts) :
    part ≠ ".." := by
  unfold settle at hpart
  rcases mem_of_mem_foldl_settlePart (List.mem_reverse.1 hpart) with habove | ⟨_, hne⟩
  · simp at habove
  · exact hne

end Path

end Palette
