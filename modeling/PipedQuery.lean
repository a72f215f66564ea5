import PipedQuery.Keyword
import PipedQuery.Keyword.Role
import PipedQuery.Keyword.Arity
import PipedQuery.Keyword.Class
import PipedQuery.Text.Position
import PipedQuery.Text.Quoted
import PipedQuery.Json
import PipedQuery.Decimal
import PipedQuery.Token
import PipedQuery.Token.Scan
import PipedQuery.Literal
import PipedQuery.Name
import PipedQuery.Expr
import PipedQuery.Expr.Text
import PipedQuery.Expr.Encode
import PipedQuery.Command
import PipedQuery.Command.Text
import PipedQuery.Command.Encode
import PipedQuery.Text.CodeRange
import PipedQuery.Unicode.CodeSet
import PipedQuery.Unicode.Category
import PipedQuery.Unicode.Trait
import PipedQuery.Unicode.BinaryProperty
import PipedQuery.Unicode.Break
import PipedQuery.Unicode.Script
import PipedQuery.Unicode.ScriptExtension
import PipedQuery.Unicode.Age
import PipedQuery.Unicode.CaseFold
import PipedQuery.Text.Unprintable
import PipedQuery.Text.Visible
import PipedQuery.Text.Lines
import PipedQuery.Diagnostic
import PipedQuery.Diagnostic.Cause
import PipedQuery.Grammar.Parser
import PipedQuery.Grammar.Basic
import PipedQuery.Grammar.Value
import PipedQuery.Grammar.Call
import PipedQuery.Grammar.Expression
import PipedQuery.Grammar.Stage
import PipedQuery.Grammar.Aggregate
import PipedQuery.Pattern.Flaw
import PipedQuery.Pattern.Tree
import PipedQuery.Pattern.Reader
import PipedQuery.Pattern.ClassReader
import PipedQuery.Pattern.TreeReader
import PipedQuery.Pattern.PropertyName
import PipedQuery.Pattern.Admission
import PipedQuery.Pattern.Mode
import PipedQuery.Pattern.ClassRanges
import PipedQuery.Pattern.Form
import PipedQuery.Pattern.Form.OfTree
import PipedQuery.Pattern.ByteRange
import PipedQuery.Pattern.LiteralTrie
import PipedQuery.Pattern.Prefix
import PipedQuery.Pattern.Size
import PipedQuery.Pattern.Capture
import PipedQuery.Pattern.Check
import PipedQuery.Grammar.Extract
import PipedQuery.Pipeline
import PipedQuery.Cursor
import PipedQuery.Token.Listing
import PipedQuery.Console.DocPage
import PipedQuery.Console.Printout
import PipedQuery.Console.CommandLine
import PipedQuery.Main
import PipedQuery.Proofs.Diagnostic.Order
import PipedQuery.Proofs.Scan.Lexemes
import PipedQuery.Proofs.Scan.Boundary
import PipedQuery.Proofs.Parser.Run
import PipedQuery.Proofs.Pipeline.Stages
import PipedQuery.Proofs.Grammar.Operators
import PipedQuery.Proofs.Grammar.Precedence
import PipedQuery.Proofs.Grammar.Chain
import PipedQuery.Proofs.Pipeline.Standalone
import PipedQuery.Proofs.Keyword.Spelling
import PipedQuery.Proofs.Scan.Words
import PipedQuery.Proofs.Scan.Names
import PipedQuery.Proofs.Grammar.Numbers
import PipedQuery.Proofs.Expr.Lexemes
import PipedQuery.Proofs.Expr.Readable
import PipedQuery.Proofs.Expr.Scan
import PipedQuery.Proofs.Grammar.Levels
import PipedQuery.Proofs.Grammar.Constants
import PipedQuery.Proofs.Grammar.Calls
import PipedQuery.Proofs.Grammar.Primary
import PipedQuery.Proofs.Grammar.ReadBack
import PipedQuery.Proofs.Expr.Pipeless
import PipedQuery.Proofs.Expr.Buildable
import PipedQuery.Proofs.Pipeline.Printed
import PipedQuery.Proofs.Parser.Gives
import PipedQuery.Proofs.Parser.Forward
import PipedQuery.Proofs.Scan.Sources
import PipedQuery.Proofs.Command.Lexemes
import PipedQuery.Proofs.Command.Readable
import PipedQuery.Proofs.Command.Scan
import PipedQuery.Proofs.Command.Pipeless
import PipedQuery.Proofs.Grammar.Sources
import PipedQuery.Proofs.Grammar.Stages
import PipedQuery.Proofs.Grammar.Aggregates
import PipedQuery.Proofs.Scan.Octets
import PipedQuery.Proofs.Scan.Tiling
import PipedQuery.Proofs.Scan.Forms
import PipedQuery.Proofs.Scan.Munch.Classes
import PipedQuery.Proofs.Scan.Munch.Names
import PipedQuery.Proofs.Scan.Munch.Numbers
import PipedQuery.Proofs.Scan.Munch.Marks
import PipedQuery.Proofs.Scan.Munch.Quotations
import PipedQuery.Proofs.Scan.Munch
import PipedQuery.Proofs.Scan.Endings
import PipedQuery.Proofs.Scan.NameParts
import PipedQuery.Proofs.Grammar.Kept
import PipedQuery.Proofs.Grammar.KeptLevels
import PipedQuery.Proofs.Pipeline.Sessions
import PipedQuery.Proofs.Pipeline.Nesting
import PipedQuery.Proofs.Command.Kept
import PipedQuery.Proofs.Grammar.KeptStages
import PipedQuery.Proofs.Grammar.ForwardStages
import PipedQuery.Proofs.Command.WellFormed
import PipedQuery.Proofs.Pipeline.WellFormed
import PipedQuery.Proofs.Grammar.Extractions
import PipedQuery.Proofs.Pipeline.Queries
import PipedQuery.Proofs.Expr.Clear
import PipedQuery.Proofs.Command.Clear
import PipedQuery.Proofs.Pipeline.Canonical
import PipedQuery.Proofs.Pipeline.FailFast
import PipedQuery.Proofs.Pipeline.Limits
import PipedQuery.Proofs.Pipeline.Truncation
import PipedQuery.Proofs.Pipeline.Structural
import PipedQuery.Proofs.Parser.Faults
import PipedQuery.Proofs.Grammar.Faults
import PipedQuery.Proofs.Pipeline.Accounted
import PipedQuery.Proofs.Scan.Alone
import PipedQuery.Proofs.Pipeline.Respaced
import PipedQuery.Proofs.Text.Lines
import PipedQuery.Proofs.Pipeline.Places
import PipedQuery.Proofs.Pipeline.Contexts
import PipedQuery.Proofs.Grammar.NameParts
import PipedQuery.Proofs.Pipeline.Sources
import PipedQuery.Proofs.Scan.LetterCase
import PipedQuery.Proofs.Parser.LetterCase
import PipedQuery.Proofs.Grammar.LetterCase
import PipedQuery.Proofs.Pipeline.LetterCase
import PipedQuery.Proofs.Scan.Written
import PipedQuery.Proofs.Pipeline.Numbers
import PipedQuery.Proofs.Parser.Depth
import PipedQuery.Proofs.Grammar.Depth
import PipedQuery.Proofs.Parser.Seam
import PipedQuery.Proofs.Grammar.Seam
import PipedQuery.Proofs.Grammar.Dots
import PipedQuery.Proofs.Grammar.Parentheses
import PipedQuery.Proofs.Cursor.Stage
import PipedQuery.Proofs.Cursor.Refines
import PipedQuery.Proofs.Cursor.Levels
import PipedQuery.Proofs.Cursor.Commands
import PipedQuery.Proofs.Cursor.Discipline
import PipedQuery.Proofs.Cursor.Query
import PipedQuery.Proofs.Cursor.Isolation
import PipedQuery.Proofs.Pipeline.Parentheses
import PipedQuery.Proofs.Scan.Halves
import PipedQuery.Proofs.Grammar.ArgumentForms
import PipedQuery.Proofs.Pipeline.ArgumentForms
import PipedQuery.Proofs.Parser.Options
import PipedQuery.Proofs.Grammar.Options
import PipedQuery.Proofs.Pipeline.UnknownOptions
