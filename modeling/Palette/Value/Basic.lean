import Palette.Binary.Basic
import Palette.Calendar

/-!
# Data values

Theme data and options are trees of values.  A mapping keeps its entries in the
order in which its keys first appeared; putting a key that is there already
changes the value and moves nothing (`Value.put`).

Keys are the same when they are equal values (`Value.sameKey`): numbers and truth
values compare by their numeric value, so the integer one, the number one and
`true` are one key, and what is not a number is never the same as another.
-/

namespace Palette

/-- A data value. -/
inductive Value where
  | null
  | bool (value : Bool)
  | int (value : Int)
  | float (value : Binary)
  | text (value : String)
  | bytes (value : List UInt8)
  | date (value : Date)
  | moment (value : Moment)
  | list (items : List Value)
  | tuple (items : List Value)
  | set (items : List Value)
  | mapping (entries : List (Value × Value))
  deriving Repr

namespace Value

instance : Inhabited Value := ⟨.null⟩

/-- The entries of a mapping. -/
abbrev Entries := List (Value × Value)

/-! ## Keys -/

/-- The exact numeric value of a number or truth value. -/
def numeric? : Value → Option Binary
  | bool value => some (.finite (if value then 1 else 0))
  | int value => some (.finite value)
  | float value => some value
  | _ => none

mutual

/-- Whether two values are the same key. -/
def sameKey : Value → Value → Bool
  | null, null => true
  | text left, text right => left == right
  | bytes left, bytes right => left == right
  | date left, date right => left == right
  | moment left, moment right => left.same right
  | tuple left, tuple right => sameKeys left right
  | left, right =>
    match left.numeric?, right.numeric? with
    | some first, some second => first.eq second
    | _, _ => false

/-- Whether two lists hold the same keys in the same order. -/
def sameKeys : List Value → List Value → Bool
  | [], [] => true
  | left :: lefts, right :: rights => sameKey left right && sameKeys lefts rights
  | _, _ => false

end

/-- Puts a value under a key.  A key that is there already keeps its place and its
first spelling. -/
def put {κ ν : Type} (same : κ → κ → Bool) (entries : List (κ × ν)) (key : κ) (value : ν) :
    List (κ × ν) :=
  if entries.any fun entry => same entry.1 key then
    entries.map fun entry => if same entry.1 key then (entry.1, value) else entry
  else entries ++ [(key, value)]

/-- The mapping with these entries, put one after the other. -/
def collect {κ ν : Type} (same : κ → κ → Bool) (entries : List (κ × ν)) : List (κ × ν) :=
  entries.foldl (fun collected entry => put same collected entry.1 entry.2) []

/-- The value under a textual key. -/
def lookup (entries : Entries) (key : String) : Option Value :=
  match entries with
  | [] => none
  | (text name, value) :: rest => if name = key then some value else lookup rest key
  | _ :: rest => lookup rest key

/-- The entries of a mapping, and nothing for any other value. -/
def entries? : Value → Option Entries
  | mapping entries => some entries
  | _ => none

/-- The text of a textual value, and nothing for any other value. -/
def text? : Value → Option String
  | text value => some value
  | _ => none

/-! ## Kinds -/

/-- The name of a value's kind, as messages show it. -/
def kind : Value → String
  | null => "NoneType"
  | bool _ => "bool"
  | int _ => "int"
  | float _ => "float"
  | text _ => "str"
  | bytes _ => "bytes"
  | date _ => "date"
  | moment _ => "datetime"
  | list _ => "list"
  | tuple _ => "tuple"
  | set _ => "set"
  | mapping _ => "dict"

mutual

/-- The value inside a would-be key that keeps it from being one: a list, a set or
a mapping, at the top or inside tuples. -/
def changeable? : Value → Option Value
  | list items => some (list items)
  | set items => some (set items)
  | mapping entries => some (mapping entries)
  | tuple items => changeableIn? items
  | _ => none

/-- The first such value among several. -/
def changeableIn? : List Value → Option Value
  | [] => none
  | item :: items =>
    match changeable? item with
    | some found => some found
    | none => changeableIn? items

end

/-! ## Interface lemmas -/

@[simp] theorem lookup_nil (key : String) : lookup [] key = none := rfl

@[simp] theorem lookup_cons_same (key : String) (value : Value) (rest : Entries) :
    lookup ((text key, value) :: rest) key = some value := by
  simp [lookup]

theorem lookup_cons_of_ne {key name : String} (value : Value) (rest : Entries)
    (hne : name ≠ key) : lookup ((text name, value) :: rest) key = lookup rest key := by
  simp [lookup, hne]

@[simp] theorem entries?_mapping (entries : Entries) : (mapping entries).entries? = some entries :=
  rfl

@[simp] theorem text?_text (value : String) : (text value).text? = some value := rfl

/-- A value has entries exactly when it is a mapping with those entries. -/
theorem entries?_eq_some_iff {value : Value} {entries : Entries} :
    value.entries? = some entries ↔ value = mapping entries := by
  cases value <;> simp [entries?]

/-- A value has a text exactly when it is that text. -/
theorem text?_eq_some_iff {value : Value} {content : String} :
    value.text? = some content ↔ value = text content := by
  cases value <;> simp [text?]

/-- Putting a key never loses an entry, and adds at most one. -/
theorem length_put {κ ν : Type} (same : κ → κ → Bool) (entries : List (κ × ν)) (key : κ)
    (value : ν) :
    (put same entries key value).length =
      if entries.any fun entry => same entry.1 key then entries.length else entries.length + 1 := by
  unfold put
  split <;> simp

/-- Putting a key that is there already changes no key. -/
theorem keys_put_of_present {κ ν : Type} {same : κ → κ → Bool} {entries : List (κ × ν)} {key : κ}
    (value : ν) (hpresent : (entries.any fun entry => same entry.1 key) = true) :
    (put same entries key value).map Prod.fst = entries.map Prod.fst := by
  unfold put
  rw [if_pos hpresent, List.map_map]
  apply List.map_congr_left
  intro entry _
  simp only [Function.comp]
  split <;> rfl

end Value

end Palette
