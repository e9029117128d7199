import Palette.Value.Basic

/-!
# Statements of a theme module

A theme module binds names to values, imports other modules and may raise a
failure.  Values are spelled by expressions: literals, names, collections, a sign,
and quotients of numbers.

This is a part of the language of modules, and the only one that is read here.  Left out are
definitions of functions and classes, annotations, compound statements, imports of parts of a
module or under another name, comprehensions, attributes, subscripts, calls other than one that
makes a failure to raise, and all other operations.  A module that has any of them is not told
from one whose statements are malformed.
-/

namespace Palette.Script

/-- What spells a value. -/
inductive Expression where
  | literal (value : Value)
  | name (name : String)
  | list (items : List Expression)
  | tuple (items : List Expression)
  | set (items : List Expression)
  | mapping (entries : List (Expression × Expression))
  | negative (operand : Expression)
  | positive (operand : Expression)
  | quotient (left right : Expression)
  deriving Repr

/-- A statement of a module, of those that are read here. -/
inductive Statement where
  /-- Binds every target to the value, from the first to the last. -/
  | assign (targets : List String) (value : Expression)
  | importModules (names : List String)
  /-- Raises a failure of the class that a name stands for, made without arguments. -/
  | raise (className : String)
  /-- Raises a failure of the class that a name stands for, made from arguments. -/
  | raiseMade (className : String) (arguments : List Expression)
  /-- Raises the failure that is being handled; there is none. -/
  | raiseAgain
  /-- Raises what is no failure at all. -/
  | raiseValue (value : Expression)
  | evaluate (value : Expression)
  | nothing
  deriving Repr

end Palette.Script
