import Palette.Failure
import Palette.Json.Fault
import Palette.Text.Utf8

/-!
# Raised failures

A raised failure has a class, by name, and arguments.  Its message and its cause
follow from both:

* a system failure with a number and a reason shows both, and the file if there is
  one; a general one becomes the special class that belongs to its number;
* a failure of a look-up quotes its only argument;
* failures of syntax, of JSON texts and of a coding describe a place;
* every other failure shows its only argument, or all of them as a tuple.

A failure whose message cannot be told becomes an abort (`Raised.setback`).
-/

namespace Palette.Script

open Palette.Text

/-- The class of a failure and its arguments. -/
structure Raised where
  className : String
  arguments : List Value
  deriving Repr

/-- The classes of system failures. -/
def systemClasses : List String :=
  ["OSError", "FileNotFoundError", "PermissionError", "IsADirectoryError", "NotADirectoryError",
    "FileExistsError", "TimeoutError", "ConnectionError", "BrokenPipeError",
    "ConnectionAbortedError", "ConnectionRefusedError", "ConnectionResetError", "BlockingIOError",
    "ChildProcessError", "InterruptedError", "ProcessLookupError"]

/-- The classes of failures of syntax. -/
def syntaxClasses : List String := ["SyntaxError", "IndentationError", "TabError"]

/-- The classes of failures that no module may keep to itself. -/
def finalClasses : List String :=
  ["BaseException", "GeneratorExit", "KeyboardInterrupt", "SystemExit"]

/-- The classes that can be raised by name, besides those above. -/
def plainClasses : List String :=
  ["Exception", "ArithmeticError", "AssertionError", "AttributeError", "BufferError", "EOFError",
    "FloatingPointError", "ImportError", "IndexError", "KeyError", "LookupError", "MemoryError",
    "ModuleNotFoundError", "NameError", "NotImplementedError", "OverflowError", "RecursionError",
    "ReferenceError", "RuntimeError", "StopAsyncIteration", "StopIteration", "SystemError",
    "TypeError", "UnboundLocalError", "UnicodeDecodeError", "UnicodeEncodeError", "UnicodeError",
    "UnicodeTranslateError", "ValueError", "ZeroDivisionError", "Warning", "BytesWarning",
    "DeprecationWarning", "EncodingWarning", "FutureWarning", "ImportWarning",
    "PendingDeprecationWarning", "ResourceWarning", "RuntimeWarning", "SyntaxWarning",
    "UnicodeWarning", "UserWarning"]

/-- The class that a name stands for, where two names are other names of the general
system failure. -/
def classOfName? (name : String) : Option String :=
  if name = "IOError" ∨ name = "EnvironmentError" then some "OSError"
  else if (systemClasses ++ syntaxClasses ++ finalClasses ++ plainClasses).contains name then
    some name
  else none

/-! ## System failures -/

/-- The special classes of system failures, by number. -/
def numberedClasses : List (Int × String) :=
  [(1, "PermissionError"), (2, "FileNotFoundError"), (3, "ProcessLookupError"),
    (4, "InterruptedError"), (10, "ChildProcessError"), (11, "BlockingIOError"),
    (13, "PermissionError"), (17, "FileExistsError"), (20, "NotADirectoryError"),
    (21, "IsADirectoryError"), (32, "BrokenPipeError"), (103, "ConnectionAbortedError"),
    (104, "ConnectionResetError"), (108, "BrokenPipeError"), (110, "TimeoutError"),
    (111, "ConnectionRefusedError"), (114, "BlockingIOError"), (115, "BlockingIOError")]

/-- The integer that a value counts as, where truth values count as one and zero. -/
def integer? : Value → Option Int
  | .int value => some value
  | .bool value => some (if value then 1 else 0)
  | _ => none

/-- The number of a system failure, if it has from two to five arguments and the first
is an integer. -/
def errorNumber? : List Value → Option Int
  | number :: _ :: others => if others.length ≤ 3 then integer? number else none
  | _ => none

/-- The class of a raised failure: that of its number for a general system
failure. -/
def Raised.actualClass (raised : Raised) : String :=
  if raised.className = "OSError" then
    ((errorNumber? raised.arguments).bind fun number => numberedClasses.lookup number).getD
      raised.className
  else raised.className

/-- The parts of a system failure with a number and a reason. -/
structure SystemParts where
  number : Value
  reason : Value
  file : Option Value
  otherFile : Option Value
  deriving Repr

/-- A value that is not null. -/
def present? : Option Value → Option Value
  | some .null => none
  | value => value

/-- The parts of a system failure, if it has from two to five arguments.  A failure that
would block may count what was written in the place of a file. -/
def Raised.systemParts? (raised : Raised) : Option SystemParts :=
  match raised.arguments with
  | number :: reason :: others =>
    if 3 < others.length then none
    else
      match present? others[0]? with
      | none => some ⟨number, reason, none, none⟩
      | some file =>
        if raised.actualClass = "BlockingIOError" ∧ file.numeric?.isSome then
          some ⟨number, reason, none, none⟩
        else some ⟨number, reason, some file, present? others[2]?⟩
  | _ => none

/-- The message of a system failure with a number, if it can be told. -/
def SystemParts.message? (parts : SystemParts) : Option String := do
  let start := "[Errno " ++ (← parts.number.display?) ++ "] " ++ (← parts.reason.display?)
  match parts.file, parts.otherFile with
  | some file, some other => return start ++ ": " ++ (← file.shown?) ++ " -> " ++ (← other.shown?)
  | some file, none => return start ++ ": " ++ (← file.shown?)
  | none, _ => return start

/-! ## Failures of syntax -/

/-- The elements of a value that can be gone through. -/
def elements? : Value → Option (List Value)
  | .list items => some items
  | .tuple items => some items
  | .set items => some items
  | .text value => some (value.toList.map fun character => .text character.toString)
  | .bytes value => some (value.map fun byte => .int byte.toNat)
  | .mapping entries => some (entries.map Prod.fst)
  | _ => none

/-- The last part of a file's path. -/
def baseName (file : String) : String :=
  String.ofList (file.toList.reverse.takeWhile (· != '/')).reverse

/-- Whether a number fits into sixty-four bits with a sign. -/
def fitsWord (number : Int) : Bool :=
  -0x8000000000000000 ≤ number && number < 0x8000000000000000

/-- The number of a line, where one that does not fit counts as minus one. -/
def lineNumber (line : Int) : Int :=
  if fitsWord line then line else -1

/-- The place of a failure of syntax, given its file and its line. -/
def syntaxPlace : List Value → String
  | .text file :: .int line :: _ =>
    " (" ++ baseName file ++ ", line " ++ toString (lineNumber line) ++ ")"
  | .text file :: _ => " (" ++ baseName file ++ ")"
  | _ :: .int line :: _ => " (line " ++ toString (lineNumber line) ++ ")"
  | _ => ""

/-- The message of a failure of syntax, with the place that it is given, if it can be
told. -/
def syntaxMessage? : List Value → Option String
  | [] => some Value.null.display
  | [problem, details] =>
    problem.display?.map fun text => text ++ syntaxPlace ((elements? details).getD [])
  | problem :: _ => problem.display?

/-! ## Failures of a coding -/

/-- The byte at a position, if the span is that byte alone.  What lies before the first
byte has all bits set. -/
def singleByte? (bytes : List UInt8) (start stop : Int) : Option UInt8 :=
  if stop ≠ start + 1 then none
  else if start < 0 then some 0xFF
  else bytes[start.toNat]?

/-- The escape of a character that has no place in a coding. -/
def characterEscape (character : Char) : String :=
  let code := character.toNat
  let digits :=
    if code < 0x100 then 'x' :: hexDigits 2 code
    else if code < 0x10000 then 'u' :: hexDigits 4 code
    else 'U' :: hexDigits 8 code
  String.ofList ('\\' :: digits)

/-- The message for characters from `start` up to `stop` after words that say what
cannot be done with them. -/
def uncodable (words text : String) (start stop : Int) (reason : String) : String :=
  let single? := if stop = start + 1 ∧ 0 ≤ start then text.toList[start.toNat]? else none
  match single? with
  | some character =>
    words ++ " character '" ++ characterEscape character ++ "' in position " ++ toString start ++
      ": " ++ reason
  | none =>
    words ++ " characters in position " ++ toString start ++ "-" ++ toString (stop - 1) ++ ": " ++
      reason

/-- The message of a failure of a coding, if the arguments fit one. -/
def codingMessage? (className : String) (arguments : List Value) : Option String :=
  match className, arguments with
  | "UnicodeDecodeError", [.text encoding, .bytes bytes, start, stop, .text reason] => do
    let start ← integer? start
    let stop ← integer? stop
    return undecodable encoding (singleByte? bytes start stop) start stop reason
  | "UnicodeEncodeError", [.text encoding, .text text, start, stop, .text reason] => do
    return uncodable ("'" ++ encoding ++ "' codec can't encode") text (← integer? start)
      (← integer? stop) reason
  | "UnicodeTranslateError", [.text text, start, stop, .text reason] => do
    return uncodable "can't translate" text (← integer? start) (← integer? stop) reason
  | _, _ => none

/-! ## Messages and causes -/

/-- The message of a failure without further rules, if it can be told. -/
def plainMessage? : List Value → Option String
  | [] => some ""
  | [argument] => argument.display?
  | arguments => (Value.tuple arguments).shown?

/-- The message of a raised failure, if it can be told. -/
def Raised.message? (raised : Raised) : Option String :=
  let className := raised.className
  let arguments := raised.arguments
  if className ∈ systemClasses then
    match raised.systemParts? with
    | some parts => parts.message?
    | none => plainMessage? arguments
  else if className ∈ syntaxClasses then syntaxMessage? arguments
  else
    match className, arguments with
    | "KeyError", [key] => key.shown?
    | "JSONDecodeError", [problem, .text document, position] =>
      match integer? position with
      | some position => problem.display?.map (Json.placed · document.toList position)
      | none => plainMessage? arguments
    | _, _ =>
      match codingMessage? className arguments with
      | some message => some message
      | none => plainMessage? arguments

/-- The cause of a raised failure. -/
def Raised.cause (raised : Raised) : FailureCause :=
  let className := raised.actualClass
  if className = "FileNotFoundError" then
    .missing ((raised.systemParts?.bind SystemParts.file).map Value.display)
  else if className ∈ systemClasses ∨ className = "UnicodeDecodeError" then .unreadable
  else if className ∈ syntaxClasses ∨ className = "JSONDecodeError" ∨ className = "YAMLError" then
    .malformed
  else .other className

/-- The failure that a raised failure is, or an abort if its message cannot be told. -/
def Raised.failure (raised : Raised) : Except Abort Failure :=
  match raised.message? with
  | some message => .ok ⟨raised.cause, message⟩
  | none => .error .unwritableInteger

/-- What a raised failure that a module does not keep to itself keeps from being
read. -/
def Raised.setback (raised : Raised) : Setback :=
  match raised.failure with
  | .error abort => .abort abort
  | .ok failure =>
    if raised.className ∈ finalClasses then .abort (.raised raised.className failure.message)
    else .failure failure

end Palette.Script
