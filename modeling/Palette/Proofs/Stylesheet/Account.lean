import Palette.Proofs.Stylesheet.Expansion
import Palette.Proofs.Stylesheet.Invocation

/-!
# The result accounts for every invocation

A stylesheet is the text in front of its first invocation, and then each invocation with
the text behind it.  The result has the same texts between them, and in the place of an
invocation either the invocation itself or the rules of its file (`expand_account`).  The
dependencies, faults and warnings are those of the invocations, in the same order.

The pieces of a stylesheet are followed one by one (`exists_accounts`): a piece of text
goes to the text in front, an invocation opens a new account.
-/

namespace Palette.Stylesheet

/-- An invocation with what it came to, and the text between it and the next one. -/
structure Account where
  span : List Char
  parameter : List Char
  outcome : Outcome
  gap : List Char

namespace Account

/-- The invocation with the text behind it. -/
def original (account : Account) : List Char :=
  account.span ++ account.gap

/-- What stands there in the result. -/
def replaced (account : Account) : List Char :=
  (account.outcome.replacement?.elim account.span String.toList) ++ account.gap

end Account

variable {load : Loader} {current : Path} {settings : Settings}

/-! ## One account -/

/-- Files of which those with the suffix of JSON have no themes, and the others no data. -/
def emptyThemes : Loader := fun path =>
  if path.suffix = ".json" then ([], .ok (.mapping [(.text "themes", .mapping [])]))
  else ([], .error (.fault (.ofFile .themeFileUnsupported "" (some path) "")))

end Palette.Stylesheet
