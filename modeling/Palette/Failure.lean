import Palette.FileTree
import Palette.Halt

/-!
# Classifying failures

A failure is what went wrong in terms of its cause: a file that is not there, one
that cannot be read, malformed data, or anything else with a name of its own.
`Failure.classify` turns a failure at a path into a fault with a code.

What keeps data from being read at all is a setback: a failure or an abort.
-/

namespace Palette

/-- The cause of a failure. -/
inductive FailureCause where
  /-- Nothing is at the path; holds the name of the file that was looked for. -/
  | missing (file : Option String)
  | unreadable
  | malformed
  /-- Any other cause, with its name. -/
  | other (name : String)
  deriving DecidableEq, Repr

/-- A cause with the message that describes it. -/
structure Failure where
  cause : FailureCause
  message : String
  deriving DecidableEq, Repr

namespace Failure

/-- The text of something that may be absent. -/
def orNone (text : Option String) : String :=
  text.getD "None"

/-- The fault that reports a failure at a path. -/
def classify (failure : Failure) (path : Option Path) : Fault :=
  let file := orNone (path.map Path.text)
  match failure.cause with
  | .missing wanted =>
    .ofFile .themeFileNotFound
      ("Theme file not found: " ++ orNone ((path.map Path.text).or wanted)) path failure.message
  | .unreadable =>
    .ofFile .themeFileUnreadable ("Unable to read " ++ file ++ ": " ++ failure.message) path
      failure.message
  | .malformed =>
    .ofFile .themeFileInvalid ("Invalid theme data in " ++ file ++ ": " ++ failure.message) path
      failure.message
  | .other name =>
    .build .operation (some .operationFailed) (name ++ ": " ++ failure.message) path
      [(.text "original", .text failure.message)] ""

/-- The failure of reading the file at a path. -/
def ofRead (path : Path) (fault : ReadFault) : Failure :=
  { cause := if fault = .system .missing then .missing (some path.text) else .unreadable
    message := fault.message path }

/-- A failure of malformed data. -/
def ofMalformed (message : String) : Failure :=
  ⟨.malformed, message⟩

/-! ## Interface lemmas -/

@[simp] theorem path_classify (failure : Failure) (path : Option Path) :
    (failure.classify path).path = path := by
  unfold classify
  cases failure.cause <;> rfl

/-- Every failure but one of another cause is a fault of a theme file. -/
theorem kind_classify (failure : Failure) (path : Option Path) :
    (failure.classify path).kind = .operation ↔ ∃ name, failure.cause = .other name := by
  unfold classify
  cases failure.cause <;> simp [Fault.ofFile, Fault.build]

end Failure

/-- What keeps data from being read: a failure, which becomes a fault of the file, or an
abort. -/
inductive Setback where
  | failure (failure : Failure)
  | abort (abort : Abort)
  deriving Repr

/-- The halt that a setback in reading a file means. -/
def Setback.halt (path : Path) : Setback → Halt
  | .failure cause => .fault (cause.classify (some path))
  | .abort cause => .abort cause

end Palette
