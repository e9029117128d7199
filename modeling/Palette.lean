import Palette.Text.Ranges
import Palette.Text.WordCharacter
import Palette.Text.Visible
import Palette.Text.DecimalDigit
import Palette.Text.LowerCase
import Palette.Text.Blank
import Palette.Text.HexDigit
import Palette.Text.Parts
import Palette.Text.Quoted
import Palette.Text.Utf8
import Palette.Text.CodePage
import Palette.Text.NameCharacter
import Palette.Text.Decomposition
import Palette.Text.UsualForm
import Palette.Text.CharacterName
import Palette.Binary.Basic
import Palette.Binary.Decimal
import Palette.Binary.Shortest
import Palette.Calendar
import Palette.Value.Basic
import Palette.Value.Shown
import Palette.Color.Basic
import Palette.Color.Name
import Palette.Color.Space
import Palette.Color.Notation
import Palette.Color.Encoding
import Palette.Json.Fault
import Palette.Json.Reader
import Palette.Abort
import Palette.Path
import Palette.Fault
import Palette.Halt
import Palette.Scheme
import Palette.Journal
import Palette.Options
import Palette.Theme.Basic
import Palette.Theme.Structure
import Palette.Theme.Block
import Palette.Theme.Sheet
import Palette.FileTree
import Palette.Failure
import Palette.Stylesheet.Comment
import Palette.Stylesheet.Piece
import Palette.Stylesheet.Expansion
import Palette.Script.Raised
import Palette.Script.Statement
import Palette.Script.Lexeme
import Palette.Script.Source
import Palette.Script.Reader
import Palette.Script.Making
import Palette.Script.Run
import Palette.Yaml.Cursor
import Palette.Yaml.Token
import Palette.Yaml.Scalar
import Palette.Yaml.Property
import Palette.Yaml.Stream
import Palette.Yaml.Schema
import Palette.Yaml.Graph
import Palette.Yaml.Document
import Palette.Yaml.Merge
import Palette.Yaml.Part
import Palette.Yaml.Data
import Palette.ThemeFile
import Palette.LogFile
import Palette.Stylesheet.File
import Palette.Proofs.Stylesheet.CommentPlace
import Palette.Proofs.Stylesheet.RulePlace
import Palette.Proofs.Stylesheet.Invocation
import Palette.Proofs.Attempt
import Palette.Proofs.Color.Readable
import Palette.Proofs.Theme.Shape
import Palette.Proofs.Theme.Compiling
import Palette.Proofs.Theme.Entry
import Palette.Proofs.Theme.Validation
import Palette.Proofs.Theme.Union
import Palette.Proofs.Stylesheet.Expansion
import Palette.Proofs.Stylesheet.LiveRule
import Palette.Proofs.Stylesheet.Account
import Palette.Proofs.ThemeFile
import Palette.Proofs.Stylesheet.Completion
import Palette.Proofs.Stylesheet.Seam
import Palette.Proofs.Stylesheet.Composition
import Palette.Proofs.Theme.LeafAccount
import Palette.Proofs.Binary.Rounding
import Palette.Proofs.Theme.Draft
import Palette.Proofs.Binary.Numeral
import Palette.Proofs.Binary.Interval
import Palette.Proofs.Color.Range
import Palette.Proofs.Color.WrittenForm
import Palette.Proofs.Color.Grammar
import Palette.Proofs.Color.Lapse
import Palette.Proofs.Color.Component
import Palette.Proofs.Color.ArgumentList
import Palette.Proofs.Color.Acceptance
import Palette.Proofs.Color.Spelling
import Palette.Proofs.Color.Canonical
import Palette.Proofs.Color.Alpha
import Palette.Proofs.Theme.Change
import Palette.Proofs.Theme.Absence
import Palette.Proofs.Theme.Outcome
import Palette.Proofs.Theme.Flattening
import Palette.Proofs.Theme.Transparency
import Palette.Proofs.Text.LetterCase
import Palette.Proofs.Scheme
import Palette.Proofs.Stylesheet.PathSpelling
import Palette.Proofs.Text.Utf8
import Palette.Proofs.ThemeFile.Stage
import Palette.Proofs.ThemeFile.ModuleFailure
import Palette.Proofs.Path
import Palette.Proofs.Stylesheet.Dependency
import Palette.Proofs.Stylesheet.Journal
import Palette.Proofs.Binary.Integer
import Palette.Proofs.Color.IntegerChannel
import Palette.Proofs.Script.Binding
import Palette.Proofs.ThemeFile.ModuleExport
import Palette.Proofs.Color.HueTurn
import Palette.Proofs.Options
import Palette.Proofs.FileTree.Growth
import Palette.Proofs.FileTree.Directory
import Palette.Proofs.LogFile
