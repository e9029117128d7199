import Palette.Script.Making
import Palette.Script.Reader
import Palette.Script.Source

/-!
# Running a theme module

The statements of a module run in order and bind names in a namespace, where a
name keeps the place of its first binding.  A raised failure ends the run.

What a module exports is read off its namespace: the value bound to `default` if it
is not null, and otherwise the mapping of all names that begin with no low line and
are bound to values rather than modules.

All this is about modules that keep to the statements of `Statement`, import modules of the
standard library that are `importable`, raise failures of the classes of the language itself, and
use an imported module nowhere inside another value.  What else a module may be is left out: it is
malformed here, or fails for a name or a module that it would find.
-/

namespace Palette.Script

/-- What a name is bound to. -/
inductive Binding where
  | importedModule
  | value (value : Value)
  deriving Repr

/-- The kind of what a name is bound to, as messages show it. -/
def Binding.kind : Binding → String
  | .importedModule => "module"
  | .value bound => bound.kind

/-- The message for a use of something as if it were made to be called. -/
def Binding.uncallable (binding : Binding) : String :=
  "'" ++ binding.kind ++ "' object is not callable"

/-- The names bound so far, in the order of their first bindings. -/
abbrev Namespace := List (String × Binding)

namespace Namespace

/-- What a name is bound to, if it is. -/
def find? (names : Namespace) (name : String) : Option Binding :=
  (List.find? (fun entry => entry.1 == name) names).map Prod.snd

/-- Binds a name, which keeps its place if it is bound already. -/
def bind (names : Namespace) (name : String) (binding : Binding) : Namespace :=
  if List.any names fun entry => entry.1 == name then
    List.map (fun entry => if entry.1 = name then (name, binding) else entry) names
  else names ++ [(name, binding)]

/-- Whether a name is for the module's own use. -/
def isPrivate (name : String) : Bool :=
  name.toList.head? == some '_'

/-- The entry that a public name bound to a value exports. -/
def exportedEntry? (entry : String × Binding) : Option (Value × Value) :=
  match entry.2 with
  | .importedModule => none
  | .value value => if isPrivate entry.1 then none else some (.text entry.1, value)

/-- The mapping of the public names that are bound to values. -/
def publicEntries (names : Namespace) : Value :=
  .mapping (names.filterMap exportedEntry?)

/-- What a module with these names exports.  A module without `default` is asked for it
by way of `__getattr__`, if it has that, which no value can answer.  An imported module
that stands as `default` is exported itself; like null it is no theme data, and null
stands for it. -/
def exported (names : Namespace) : Except Abort Value :=
  match names.find? "default" with
  | some (.value .null) => .ok names.publicEntries
  | some (.value value) => .ok value
  | some .importedModule => .ok .null
  | none =>
    match names.find? "__getattr__" with
    | some binding => .error (.raised "TypeError" binding.uncallable)
    | none => .ok names.publicEntries

end Namespace

/-! ## Values of expressions -/

/-- The failure of a name that is not bound. -/
def unbound (name : String) : Raised :=
  ⟨"NameError", [.text ("name '" ++ name ++ "' is not defined")]⟩

/-- The failure of a value that is no key. -/
def noKey (value : Value) : Raised :=
  wrongKind ("unhashable type: '" ++ value.kind ++ "'")

/-- A failure of a number that is too large. -/
def tooLarge (message : String) : Raised :=
  ⟨"OverflowError", [.text message]⟩

/-- A number as a floating one, which an integer may be too large for. -/
def asFloat (number : Value) : Except Raised Binary :=
  match integer? number, number.numeric? with
  | some value, _ =>
    match Binary.ofInt .double value with
    | .infinity _ => .error (tooLarge "int too large to convert to float")
    | converted => .ok converted
  | none, some value => .ok value
  | none, none => .ok .nan

/-- The quotient of two values.  Two integers are divided exactly before the quotient is
rounded; with a floating number the other one is rounded first. -/
def quotient (left right : Value) : Except Raised Value :=
  match integer? left, integer? right, left.numeric?, right.numeric? with
  | some first, some second, _, _ =>
    if second = 0 then .error ⟨"ZeroDivisionError", [.text "division by zero"]⟩
    else
      match Binary.div .double (.finite first) (.finite second) with
      | .infinity _ => .error (tooLarge "integer division result too large for a float")
      | result => .ok (.float result)
  | _, _, some _, some _ => do
    let first ← asFloat left
    let second ← asFloat right
    if second.eq (.finite 0) then
      throw ⟨"ZeroDivisionError", [.text "float division by zero"]⟩
    else return .float (Binary.div .double first second)
  | _, _, _, _ =>
    .error (wrongKind ("unsupported operand type(s) for /: '" ++ left.kind ++ "' and '" ++
      right.kind ++ "'"))

/-- A value with a sign in front. -/
def signed (isNegative : Bool) : Value → Except Raised Value
  | .int value => .ok (.int (if isNegative then -value else value))
  | .bool value =>
    let number : Int := if value then 1 else 0
    .ok (.int (if isNegative then -number else number))
  | .float value => .ok (.float (if isNegative then value.neg else value))
  | other =>
    .error (wrongKind ("bad operand type for unary " ++ (if isNegative then "-" else "+") ++
      ": '" ++ other.kind ++ "'"))

/-- The keys without the repetitions of earlier ones. -/
def distinctKeys (keys : List Value) : List Value :=
  (Value.collect Value.sameKey (keys.map fun key => (key, Value.null))).map Prod.fst

/-- The greatest number of elements of a set that are all made before the first is put
into the set. -/
def setGroup : Nat := 30

/-- The number of entries of a mapping that are put into it in one group. -/
def entryGroup : Nat := 17

/-- Whether the entry at an index, of so many in a mapping, is put into it before the
next one is looked at.  That is so in all groups that lack at most one entry; a smaller
group is put in when all of it is made. -/
def isPutAtOnce (total index : Nat) : Bool :=
  index / entryGroup * entryGroup + (entryGroup - 1) ≤ total

/-- The failure of putting a key at once, if it is no key. -/
def keyRefusal? (atOnce : Bool) (key : Value) : Option Raised :=
  if atOnce then key.changeable?.map noKey else none

mutual

/-- The value of an expression. -/
def Expression.value (names : Namespace) : Expression → Except Raised Value
  | .literal value => .ok value
  | .name name =>
    match names.find? name with
    | some (.value value) => .ok value
    | _ => .error (unbound name)
  | .list items => (values names items).map .list
  | .tuple items => (values names items).map .tuple
  | .set items =>
    match elements names (setGroup < items.length) items with
    | .error raised => .error raised
    | .ok keys =>
      match Value.changeableIn? keys with
      | some found => .error (noKey found)
      | none => .ok (.set (distinctKeys keys))
  | .mapping entries =>
    match entryValues names entries.length 0 entries with
    | .error raised => .error raised
    | .ok entries =>
      match Value.changeableIn? (entries.map Prod.fst) with
      | some found => .error (noKey found)
      | none => .ok (.mapping (Value.collect Value.sameKey entries))
  | .negative operand =>
    match operand.value names with
    | .error raised => .error raised
    | .ok value => signed true value
  | .positive operand =>
    match operand.value names with
    | .error raised => .error raised
    | .ok value => signed false value
  | .quotient left right =>
    match left.value names with
    | .error raised => .error raised
    | .ok first =>
      match right.value names with
      | .error raised => .error raised
      | .ok second => quotient first second

/-- The values of several expressions. -/
def values (names : Namespace) : List Expression → Except Raised (List Value)
  | [] => .ok []
  | item :: items =>
    match item.value names with
    | .error raised => .error raised
    | .ok value => (values names items).map (value :: ·)

/-- The values of a set's expressions.  If `atOnce`, each is put into the set before the
next expression is looked at. -/
def elements (names : Namespace) (atOnce : Bool) : List Expression → Except Raised (List Value)
  | [] => .ok []
  | item :: items =>
    match item.value names with
    | .error raised => .error raised
    | .ok value =>
      match keyRefusal? atOnce value with
      | some raised => .error raised
      | none => (elements names atOnce items).map (value :: ·)

/-- The keys and values of a mapping's expressions, of which there are `total`, from the
one at `index` on. -/
def entryValues (names : Namespace) (total index : Nat) :
    List (Expression × Expression) → Except Raised (List (Value × Value))
  | [] => .ok []
  | (key, item) :: entries =>
    match key.value names with
    | .error raised => .error raised
    | .ok keyValue =>
      match item.value names with
      | .error raised => .error raised
      | .ok value =>
        match keyRefusal? (isPutAtOnce total index) keyValue with
        | some raised => .error raised
        | none => (entryValues names total (index + 1) entries).map ((keyValue, value) :: ·)

end

/-! ## Statements -/

/-- The modules that can be imported.  All others count as missing, also those that the
standard library has. -/
def importable : List String := ["os", "json", "sys"]

/-- Imports modules by name. -/
def importAll (names : Namespace) : List String → Except Raised Namespace
  | [] => .ok names
  | name :: rest =>
    if name ∈ importable then importAll (names.bind name .importedModule) rest
    else .error ⟨"ModuleNotFoundError", [.text ("No module named '" ++ name ++ "'")]⟩

/-- What an assignment binds its targets to.  A module under another name stays a
module. -/
def assigned (names : Namespace) (value : Expression) : Except Raised Binding :=
  match value with
  | .name name =>
    match names.find? name with
    | some binding => .ok binding
    | none => .error (unbound name)
  | other => (other.value names).map .value

/-- Runs one statement. -/
def Statement.run (names : Namespace) : Statement → Except Raised Namespace
  | .assign targets value =>
    (assigned names value).map fun binding =>
      targets.foldl (fun bound target => bound.bind target binding) names
  | .importModules modules => importAll names modules
  | .raise name =>
    match names.find? name, classOfName? name with
    | some _, _ => .error (wrongKind "exceptions must derive from BaseException")
    | none, none => .error (unbound name)
    | none, some className => .error (.make className [])
  | .raiseMade name arguments =>
    match names.find? name, classOfName? name, values names arguments with
    | none, none, _ => .error (unbound name)
    | _, _, .error raised => .error raised
    | some binding, _, .ok _ => .error (wrongKind binding.uncallable)
    | none, some className, .ok arguments => .error (.make className arguments)
  | .raiseAgain => .error ⟨"RuntimeError", [.text "No active exception to reraise"]⟩
  | .raiseValue value =>
    match value.value names with
    | .error raised => .error raised
    | .ok _ => .error (wrongKind "exceptions must derive from BaseException")
  | .evaluate value => (assigned names value).map fun _ => names
  | .nothing => .ok names

/-- Runs statements one after the other. -/
def run (names : Namespace) : List Statement → Except Raised Namespace
  | [] => .ok names
  | statement :: rest =>
    match statement.run names with
    | .error raised => .error raised
    | .ok bound => run bound rest

/-- The message of a module that is no sequence of statements. -/
def malformedMessage : String := "the module is no sequence of well-formed statements"

/-- The data that the text of a module exports, or why it has none.  A text whose statements are
not all among those of `Statement` is malformed, whatever else it may say. -/
def read (characters : List Char) : Except Setback Value :=
  match statements? characters with
  | none => .error (.failure (.ofMalformed malformedMessage))
  | some statements =>
    match run [] statements with
    | .error raised => .error raised.setback
    | .ok names => names.exported.mapError .abort

/-- The data that the bytes of a module export.  Bytes with a null character are refused
before anything else is looked at; bytes that are no source are malformed. -/
def readBytes (bytes : List UInt8) : Except Setback Value :=
  match sourceOf bytes with
  | .error .nullCharacter =>
    .error (.failure ⟨.other "ValueError", "source code string cannot contain null bytes"⟩)
  | .error .unreadable => .error (.failure (.ofMalformed malformedMessage))
  | .ok characters => read characters

end Palette.Script
