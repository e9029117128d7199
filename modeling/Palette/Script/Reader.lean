import Palette.Script.Lexeme
import Palette.Script.Statement

/-!
# Reading a theme module

The lexemes of a module are read as statements, one or more to a line.  A module
that has any malformed statement has no statements at all, so none of it runs.  The same
holds of a module with statements that are not among those of `Statement`.
-/

namespace Palette.Script

/-- The texts that follow one another, as one text. -/
def joinTexts (first : String) : List Lexeme → String × List Lexeme
  | .text next :: rest => joinTexts (first ++ next) rest
  | rest => (first, rest)

/-- The bytes that follow one another, as one sequence. -/
def joinBytes (first : List UInt8) : List Lexeme → List UInt8 × List Lexeme
  | .bytes next :: rest => joinBytes (first ++ next) rest
  | rest => (first, rest)

mutual

/-- Reads one expression. -/
def readExpression? : Nat → List Lexeme → Option (Expression × List Lexeme)
  | 0, _ => none
  | fuel + 1, lexemes =>
    match readOperand? fuel lexemes with
    | none => none
    | some (first, rest) => readQuotient? fuel first rest

/-- Reads the divisors that follow an expression. -/
def readQuotient? : Nat → Expression → List Lexeme → Option (Expression × List Lexeme)
  | 0, _, _ => none
  | fuel + 1, left, lexemes =>
    match lexemes with
    | .mark '/' :: rest =>
      match readOperand? fuel rest with
      | none => none
      | some (right, rest) => readQuotient? fuel (.quotient left right) rest
    | rest => some (left, rest)

/-- Reads a literal, a name, a collection or a signed operand. -/
def readOperand? : Nat → List Lexeme → Option (Expression × List Lexeme)
  | 0, _ => none
  | fuel + 1, lexemes =>
    match lexemes with
    | .mark '-' :: rest =>
      (readOperand? fuel rest).map fun (operand, rest) => (.negative operand, rest)
    | .mark '+' :: rest =>
      (readOperand? fuel rest).map fun (operand, rest) => (.positive operand, rest)
    | .number value :: rest => some (.literal value, rest)
    | .text first :: rest =>
      let (text, rest) := joinTexts first rest
      match rest with
      | .bytes _ :: _ => none
      | _ => some (.literal (.text text), rest)
    | .bytes first :: rest =>
      let (bytes, rest) := joinBytes first rest
      match rest with
      | .text _ :: _ => none
      | _ => some (.literal (.bytes bytes), rest)
    | .keyword "None" :: rest => some (.literal .null, rest)
    | .keyword "True" :: rest => some (.literal (.bool true), rest)
    | .keyword "False" :: rest => some (.literal (.bool false), rest)
    | .name name :: rest => some (.name name, rest)
    | .mark '(' :: .mark ')' :: rest => some (.tuple [], rest)
    | .mark '(' :: rest =>
      match readItems? fuel ')' [] rest with
      | none => none
      | some (items, hasComma, rest) =>
        match items, hasComma with
        | [item], false => some (item, rest)
        | items, _ => some (.tuple items, rest)
    | .mark '[' :: .mark ']' :: rest => some (.list [], rest)
    | .mark '[' :: rest =>
      (readItems? fuel ']' [] rest).map fun (items, _, rest) => (.list items, rest)
    | .mark '\x7b' :: .mark '\x7d' :: rest => some (.mapping [], rest)
    | .mark '\x7b' :: rest =>
      match readExpression? fuel rest with
      | some (_, .mark ':' :: _) => readEntries? fuel [] rest
      | _ => (readItems? fuel '\x7d' [] rest).map fun (items, _, rest) => (.set items, rest)
    | _ => none

/-- Reads expressions up to and including a closing mark, and tells whether there
was a comma; `done` holds what was read, the latest first. -/
def readItems? : Nat → Char → List Expression → List Lexeme →
    Option (List Expression × Bool × List Lexeme)
  | 0, _, _, _ => none
  | fuel + 1, closing, done, lexemes =>
    match readExpression? fuel lexemes with
    | none => none
    | some (item, .mark ',' :: rest) =>
      match rest with
      | .mark mark :: left =>
        if mark = closing then some ((item :: done).reverse, true, left)
        else readItems? fuel closing (item :: done) rest
      | _ => readItems? fuel closing (item :: done) rest
    | some (item, .mark mark :: rest) =>
      if mark = closing then some ((item :: done).reverse, !done.isEmpty, rest) else none
    | some _ => none

/-- Reads the entries of a mapping up to and including its closing mark. -/
def readEntries? : Nat → List (Expression × Expression) → List Lexeme →
    Option (Expression × List Lexeme)
  | 0, _, _ => none
  | fuel + 1, done, lexemes =>
    match readExpression? fuel lexemes with
    | some (key, .mark ':' :: rest) =>
      match readExpression? fuel rest with
      | some (value, .mark ',' :: .mark '\x7d' :: rest) =>
        some (.mapping ((key, value) :: done).reverse, rest)
      | some (value, .mark ',' :: rest) => readEntries? fuel ((key, value) :: done) rest
      | some (value, .mark '\x7d' :: rest) => some (.mapping ((key, value) :: done).reverse, rest)
      | _ => none
    | _ => none

end

/-- Whether a statement ends here. -/
def endsStatement : List Lexeme → Bool
  | .lineEnd :: _ => true
  | .mark ';' :: _ => true
  | _ => false

/-- Reads one expression, or several with commas between them as a tuple. -/
def readTuple? (fuel : Nat) (lexemes : List Lexeme) : Option (Expression × List Lexeme) :=
  let rec others : Nat → List Expression → List Lexeme → Option (Expression × List Lexeme)
    | 0, _, _ => none
    | fuel + 1, done, lexemes =>
      match lexemes with
      | .mark ',' :: rest =>
        if endsStatement rest then some (.tuple done.reverse, rest)
        else
          match readExpression? fuel rest with
          | none => none
          | some (item, rest) => others fuel (item :: done) rest
      | rest => some (.tuple done.reverse, rest)
  match readExpression? fuel lexemes with
  | none => none
  | some (first, .mark ',' :: rest) => others fuel [first] (.mark ',' :: rest)
  | some (first, rest) => some (first, rest)

/-- A name that no statement may bind. -/
def fixedName : String := "__debug__"

/-- Reads the targets of an assignment, each with its equals sign. -/
def readTargets : List Lexeme → List String × List Lexeme
  | .name name :: .mark '=' :: rest =>
    let (targets, left) := readTargets rest
    (name :: targets, left)
  | rest => ([], rest)

/-- Reads the names of imported modules. -/
def readImports? : Nat → List String → List Lexeme → Option (Statement × List Lexeme)
  | 0, _, _ => none
  | fuel + 1, done, lexemes =>
    match lexemes with
    | .name name :: rest =>
      if name = fixedName then none
      else
        match rest with
        | .mark ',' :: rest => readImports? fuel (name :: done) rest
        | rest => some (.importModules (name :: done).reverse, rest)
    | _ => none

/-- Reads what follows the word that raises a failure. -/
def readRaise? (fuel : Nat) (lexemes : List Lexeme) : Option (Statement × List Lexeme) :=
  match lexemes with
  | .name name :: .mark '(' :: .mark ')' :: rest => some (.raiseMade name [], rest)
  | .name name :: .mark '(' :: rest =>
    (readItems? fuel ')' [] rest).map fun (items, _, rest) => (.raiseMade name items, rest)
  | lexemes =>
    if endsStatement lexemes then some (.raiseAgain, lexemes)
    else
      match readExpression? fuel lexemes with
      | some (.name name, left) => some (.raise name, left)
      | some (value, left) => some (.raiseValue value, left)
      | none => none

/-- Reads one statement. -/
def readStatement? (fuel : Nat) (lexemes : List Lexeme) : Option (Statement × List Lexeme) :=
  match lexemes with
  | .keyword "import" :: rest => readImports? fuel [] rest
  | .keyword "pass" :: rest => some (.nothing, rest)
  | .keyword "raise" :: rest => readRaise? fuel rest
  | _ =>
    let (targets, rest) := readTargets lexemes
    if targets.contains fixedName then none
    else
      (readTuple? fuel rest).map fun (value, left) =>
        (if targets.isEmpty then .evaluate value else .assign targets value, left)

/-- Reads all statements; `done` holds what was read, the latest first. -/
def readStatements? : Nat → List Statement → List Lexeme → Option (List Statement)
  | 0, _, _ => none
  | fuel + 1, done, lexemes =>
    match lexemes with
    | [] => some done.reverse
    | .lineEnd :: rest => readStatements? fuel done rest
    | lexemes =>
      match readStatement? (4 * lexemes.length + 4) lexemes with
      | some (statement, .lineEnd :: rest) => readStatements? fuel (statement :: done) rest
      | some (statement, .mark ';' :: rest) => readStatements? fuel (statement :: done) rest
      | _ => none

/-- The statements of a module's text, if all are well formed and among those that are read. -/
def statements? (characters : List Char) : Option (List Statement) :=
  (lexemes? characters).bind fun lexemes => readStatements? (lexemes.length + 1) [] lexemes

end Palette.Script
