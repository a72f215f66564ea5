import PipedQuery.Diagnostic
import PipedQuery.Keyword.Arity
import PipedQuery.Pattern.Flaw
import PipedQuery.Text.Visible
import PipedQuery.Token

/-!
# Causes of diagnostics

Everything that can be wrong with a query, and the wording for it.  A cause is turned into a
diagnostic by `Cause.diagnose`, given the token it concerns.  Behind the last token there is none.
-/

namespace PipedQuery

/-- What the grammar would have accepted. -/
inductive Expected where
  | token (kind : TokenKind)
  | command
  | stageEnd
  | expressionEnd
  | expression
  | fieldName
  | sourceName
  | literal
  | intervalUnit
  | typeName
  | percentileRank
  | namedOption
  | aggregation
  | spanLength
  | pattern
  | assignment
  | integer
  | boolean
  | string
deriving DecidableEq

/-- What was expected, in words. -/
def Expected.text : Expected → String
  | .token kind => kind.text
  | .command => "a command"
  | .stageEnd => "`|` or end of query"
  | .expressionEnd => "end of expression"
  | .expression => "an expression"
  | .fieldName => "a field name"
  | .sourceName => "a source name"
  | .literal => "a literal value"
  | .intervalUnit => "an interval unit"
  | .typeName => "a type name"
  | .percentileRank => "a percentile rank"
  | .namedOption => "a `name=value` option"
  | .aggregation => "an aggregation"
  | .spanLength => "a span length"
  | .pattern => "a quoted pattern"
  | .assignment => "`name=value`"
  | .integer => "an integer"
  | .boolean => "`true` or `false`"
  | .string => "a string"

/-- The clauses that a query or command cannot do without. -/
inductive Clause where
  | firstCommand
  | nextCommand
  | searchSource
  | describedSource
  | condition
  | fieldsToKeep
  | renaming
  | assignment
  | aggregation
  | dedupField
  | sortField
  | rankField (command : String)
  | patternsField
deriving DecidableEq

/-- The message on a missing clause. -/
def Clause.message : Clause → String
  | .firstCommand => "empty query: expected a command"
  | .nextCommand => "expected a command after `|`"
  | .searchSource => "search needs a `source=<index>` clause"
  | .describedSource => "describe needs a source name"
  | .condition => "where needs a condition"
  | .fieldsToKeep => "fields needs at least one field"
  | .renaming => "rename needs `<field> as <new name>`"
  | .assignment => "eval needs `<field> = <expression>`"
  | .aggregation => "stats needs at least one aggregation"
  | .dedupField => "dedup needs at least one field"
  | .sortField => "sort needs at least one field"
  | .rankField command => command ++ " needs at least one field"
  | .patternsField => "patterns needs a source field"

/-- The types that a parameter may ask for. -/
inductive ParameterType where
  | integer
  | number
  | text
deriving DecidableEq

/-- The type in words. -/
def ParameterType.describe : ParameterType → String
  | .integer => "an integer"
  | .number => "a number"
  | .text => "a string"

/-- What is wrong with a query. -/
inductive Cause where
  /-- Another token was expected. -/
  | expected (what : Expected)
  /-- A clause is missing. -/
  | missing (clause : Clause)
  /-- A comparison has a comparison as an operand. -/
  | chainedComparison
  /-- An expression goes deeper than the limit. -/
  | nestedTooDeeply
  /-- A word that is no function is called. -/
  | unknownFunction (name : String)
  /-- A number has too many digits for a decimal. -/
  | numberOutOfRange (digits : String)
  /-- A number has too many digits for an integer. -/
  | integerOutOfRange (digits : String)
  /-- A function that does not aggregate stands for an aggregation. -/
  | notAnAggregation (name : String)
  /-- A span is measured in no unit that spans have. -/
  | unknownSpanUnit
  /-- A field is weighted by something other than a number. -/
  | weightNotANumber (typeName : String)
  /-- A function has the wrong number of arguments. -/
  | wrongArity (function : Keyword) (arity : Arity) (count : Nat)
  /-- A function does not know an option. -/
  | unknownFunctionOption (name : String) (function : Keyword)
  /-- A command does not know an option. -/
  | unknownCommandOption (name : String) (command : String)
  /-- A learning algorithm does not know a parameter. -/
  | unknownParameter (name : String) (algorithm : String)
  /-- A parameter has a value of the wrong type. -/
  | wrongParameterType (name : String) (type : ParameterType) (found : String)
  /-- A pattern is not a valid regular expression. -/
  | uncheckedPattern (flaw : Pattern.Flaw)
  /-- A pattern of `parse` names no group. -/
  | noNamedGroup
  /-- A pattern of `grok` names no field. -/
  | noGrokField
  /-- A character starts no token. -/
  | unrecognizedCharacter (text : String)
  /-- A quotation has no end. -/
  | unterminated (kind : TokenKind)
deriving DecidableEq

namespace Cause

/-- The kind of the diagnostic, given the token at its place.  The end of a query where a pattern
    should be counts as a missing clause. -/
def kind (found : Option Lexeme) : Cause → DiagnosticKind
  | .expected .pattern =>
    if found.isNone then .missingRequiredClause else .unexpectedToken
  | .missing _ => .missingRequiredClause
  | .wrongArity _ _ _ => .arityMismatch
  | .unknownFunctionOption _ _ | .unknownCommandOption _ _ | .unknownParameter _ _ =>
    .invalidOptionName
  | .uncheckedPattern _ | .noNamedGroup | .noGrokField => .invalidPattern
  | .unrecognizedCharacter _ | .unterminated _ => .lexicalError
  | _ => .unexpectedToken

/-- What was found in place of something expected. -/
def foundText : Option Lexeme → String
  | some l => l.describe
  | none => "end of input"

/-- The message on something found in place of something expected. -/
def expectedText (what : Expected) (found : Option Lexeme) : String :=
  "expected " ++ what.text ++ ", found " ++ foundText found

/-- The message, given the token at the place of the diagnostic.  Where a span ends without a unit
    and without more tokens, only its parenthesis is missed. -/
def message (found : Option Lexeme) : Cause → String
  | .expected what => expectedText what found
  | .missing clause => clause.message
  | .chainedComparison => "comparisons cannot be chained; combine them with `and`"
  | .nestedTooDeeply => "expression nested too deeply"
  | .unknownFunction name => "unknown function `" ++ name ++ "`"
  | .numberOutOfRange digits => "number `" ++ digits ++ "` is out of range"
  | .integerOutOfRange digits => "integer `" ++ digits ++ "` is out of range"
  | .notAnAggregation name => "`" ++ name ++ "` is not an aggregation"
  | .unknownSpanUnit =>
    match found with
    | some l => "unknown span unit " ++ l.describe
    | none => expectedText (.token (.mark .rParen)) found
  | .weightNotANumber typeName => "field weight must be a number, found " ++ typeName
  | .wrongArity function arity count =>
    "`" ++ function.lowercase ++ "` takes " ++ arity.describe ++ ", found " ++ toString count
  | .unknownFunctionOption name function =>
    "`" ++ name ++ "` is not an option of `" ++ function.lowercase ++ "`"
  | .unknownCommandOption name command => "`" ++ name ++ "` is not an option of " ++ command
  | .unknownParameter name algorithm => "`" ++ name ++ "` is not a parameter of " ++ algorithm
  | .wrongParameterType name type found =>
    "`" ++ name ++ "` expects " ++ type.describe ++ ", found " ++ found
  | .uncheckedPattern flaw => "pattern could not be checked: " ++ flaw.message
  | .noNamedGroup => "pattern has no named groups, so parse adds no fields"
  | .noGrokField => "grok pattern has no `%\x7bPATTERN:field\x7d` captures"
  | .unrecognizedCharacter text => "unrecognized character `" ++ visibleAlone text ++ "`"
  | .unterminated kind => "unterminated " ++ kind.text

/-- The diagnostic at a token, or at the end of the text that `stop` is the place of. -/
def diagnose (stop : Position) (found : Option Token) (cause : Cause) : Diagnostic :=
  let lexeme := found.map Token.toLexeme
  match found with
  | some t => ⟨cause.kind lexeme, cause.message lexeme, t.span, t.place.line, t.place.column⟩
  | none =>
    ⟨cause.kind lexeme, cause.message lexeme, .point stop.offset, stop.line, stop.column⟩

end Cause

/-- The lexical problem of a token, if it has one. -/
def lexicalCause? (l : Lexeme) : Option Cause :=
  match l.kind with
  | .unrecognized => some (.unrecognizedCharacter l.text)
  | .quoted q => if (unquote l.text).terminated then none else some (.unterminated (.quoted q))
  | _ => none

/-- The lexical diagnostics of some tokens, in their order. -/
def lexicalDiagnostics (tokens : List Token) : List Diagnostic :=
  tokens.filterMap fun t => (lexicalCause? t.toLexeme).map (Cause.diagnose t.stop (some t))

end PipedQuery
