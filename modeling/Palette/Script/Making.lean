import Palette.Script.Raised

/-!
# Making failures

Most classes of failures take any arguments.  Some ask for arguments of certain kinds,
and making one from others is a failure itself (`Raised.make`):

* a failure of a coding takes the name of the coding, what was to be coded, where the
  trouble starts and stops, and a reason;
* a failure of syntax with two arguments takes the details of its place as the second,
  which are four to six;
* a failure that would block may take a count in the place of a file.
-/

namespace Palette.Script

/-- A failure of an operation on values of wrong kinds. -/
def wrongKind (message : String) : Raised :=
  ⟨"TypeError", [.text message]⟩

/-- The name of a value's kind where a parameter refuses it. -/
def refusedKind : Value → String
  | .null => "None"
  | value => value.kind

/-- What a parameter takes. -/
inductive Parameter where
  | text
  | anything
  | integer
  deriving DecidableEq, Repr

/-- Why an integer parameter does not take a value, if it does not. -/
def integerRefusal? (value : Value) : Option Raised :=
  match integer? value with
  | none => some (wrongKind ("'" ++ value.kind ++ "' object cannot be interpreted as an integer"))
  | some number =>
    if fitsWord number then none
    else some ⟨"OverflowError", [.text "Python int too large to convert to C ssize_t"]⟩

/-- Why the parameter at a place, counted from one, does not take a value, if it does
not. -/
def Parameter.refusal? (place : Nat) (parameter : Parameter) (value : Value) : Option Raised :=
  match parameter, value with
  | .anything, _ => none
  | .text, .text _ => none
  | .text, other =>
    some (wrongKind ("argument " ++ toString place ++ " must be str, not " ++ refusedKind other))
  | .integer, value => integerRefusal? value

/-- The parameters of a class that asks for certain arguments. -/
def parameters? (className : String) : Option (List Parameter) :=
  match className with
  | "UnicodeDecodeError" => some [.text, .anything, .integer, .integer, .text]
  | "UnicodeEncodeError" => some [.text, .text, .integer, .integer, .text]
  | "UnicodeTranslateError" => some [.text, .integer, .integer, .text]
  | _ => none

/-- Why parameters do not take arguments, if they do not. -/
def parametersRefusal? (parameters : List Parameter) (arguments : List Value) : Option Raised :=
  if arguments.length ≠ parameters.length then
    some (wrongKind ("function takes exactly " ++ toString parameters.length ++ " arguments (" ++
      toString arguments.length ++ " given)"))
  else
    (parameters.zip arguments).zipIdx.findSome? fun ((parameter, value), index) =>
      parameter.refusal? (index + 1) value

/-- Why what was to be decoded is not taken, if it is not: it has to be bytes. -/
def undecodedRefusal? (className : String) (arguments : List Value) : Option Raised :=
  match className, arguments with
  | "UnicodeDecodeError", [_, .bytes _, _, _, _] => none
  | "UnicodeDecodeError", [_, other, _, _, _] =>
    some (wrongKind ("a bytes-like object is required, not '" ++ other.kind ++ "'"))
  | _, _ => none

/-- Why the details of a failure of syntax are not taken, if they are not. -/
def detailsRefusal? (details : Value) : Option Raised :=
  match elements? details with
  | none => some (wrongKind ("'" ++ details.kind ++ "' object is not iterable"))
  | some elements =>
    let count := elements.length
    let given := " arguments (" ++ toString count ++ " given)"
    if count < 4 then some (wrongKind ("function takes at least 4" ++ given))
    else if 6 < count then some (wrongKind ("function takes at most 6" ++ given))
    else if count = 5 then
      some (wrongKind "end_offset must be provided when end_lineno is provided")
    else none

/-- Why the count of a failure that would block is not taken, if it is not. -/
def countRefusal? (raised : Raised) : Option Raised :=
  match raised.arguments with
  | _ :: _ :: file :: others =>
    if raised.actualClass = "BlockingIOError" ∧ others.length ≤ 2 ∧ file.numeric?.isSome then
      match integerRefusal? file with
      | some ⟨"OverflowError", _⟩ =>
        some ⟨"ValueError", [.text "cannot fit 'int' into an index-sized integer"]⟩
      | refusal => refusal
    else none
  | _ => none

/-- Why a class does not take arguments, if it does not. -/
def refusal? (className : String) (arguments : List Value) : Option Raised :=
  if className ∈ syntaxClasses then
    match arguments with
    | [_, details] => detailsRefusal? details
    | _ => none
  else
    match parameters? className with
    | some parameters =>
      (parametersRefusal? parameters arguments).or (undecodedRefusal? className arguments)
    | none => countRefusal? ⟨className, arguments⟩

/-- The failure of a class with arguments, or the failure to make it. -/
def Raised.make (className : String) (arguments : List Value) : Raised :=
  (refusal? className arguments).getD ⟨className, arguments⟩

end Palette.Script
