import PipedQuery.Json
import PipedQuery.Text.Lines
import PipedQuery.Text.Position

/-!
# Diagnostics

A diagnostic says what is wrong with a query and where.  `Diagnostic.snippet` shows the line with
a marker below it, and `report` puts several together.
-/

namespace PipedQuery

/-- The encoded span. -/
def Span.toJson (s : Span) : Json := .obj [("start", .nat s.start), ("end", .nat s.stop)]

/-- How bad a diagnostic is. -/
inductive Severity where
  | error
  | warning
deriving DecidableEq

/-- The word for the severity, which is also its tag in encoded answers. -/
def Severity.text : Severity → String
  | .error => "error"
  | .warning => "warning"

/-- What is wrong. -/
inductive DiagnosticKind where
  /-- An unrecognized character or a quotation without an end. -/
  | lexicalError
  /-- A token that the grammar does not allow where it stands. -/
  | unexpectedToken
  /-- A clause that a command cannot do without. -/
  | missingRequiredClause
  /-- An option with a name that the command or function does not know. -/
  | invalidOptionName
  /-- The wrong number of arguments for a function. -/
  | arityMismatch
  /-- A pattern that could not be checked, or that extracts nothing. -/
  | invalidPattern
deriving DecidableEq

namespace DiagnosticKind

/-- Every kind. -/
def all : List DiagnosticKind :=
  [.lexicalError, .unexpectedToken, .missingRequiredClause, .invalidOptionName, .arityMismatch,
   .invalidPattern]

/-- The name of the kind in reports. -/
def text : DiagnosticKind → String
  | .lexicalError => "lexical error"
  | .unexpectedToken => "unexpected token"
  | .missingRequiredClause => "missing clause"
  | .invalidOptionName => "invalid option"
  | .arityMismatch => "arity mismatch"
  | .invalidPattern => "invalid pattern"

/-- The kind's tag in encoded answers. -/
def tag : DiagnosticKind → String
  | .lexicalError => "lexical_error"
  | .unexpectedToken => "unexpected_token"
  | .missingRequiredClause => "missing_required_clause"
  | .invalidOptionName => "invalid_option_name"
  | .arityMismatch => "arity_mismatch"
  | .invalidPattern => "invalid_pattern"

/-- The severity of the kind.  Only patterns give warnings. -/
def severity : DiagnosticKind → Severity
  | .invalidPattern => .warning
  | _ => .error

end DiagnosticKind

/-- A problem in a query. -/
structure Diagnostic where
  kind : DiagnosticKind
  message : String
  span : Span
  line : Nat
  column : Nat
deriving DecidableEq

namespace Diagnostic

/-- The severity of the diagnostic's kind. -/
def severity (d : Diagnostic) : Severity := d.kind.severity

/-- Whether the diagnostic is an error rather than a warning. -/
def isError (d : Diagnostic) : Bool := d.severity = .error

/-- The message behind its line and column. -/
def text (d : Diagnostic) : String :=
  toString d.line ++ ":" ++ toString d.column ++ ": " ++ d.message

/-- How many characters of the span lie on its first line.  A span that is no part of the source
    has none. -/
def width (d : Diagnostic) (source : String) : Nat :=
  match sliceBytes d.span.start d.span.stop source.toList with
  | some part => ((textLines part).headD []).length
  | none => 0

/-- The line of the diagnostic with a marker below its column. -/
def snippet (d : Diagnostic) (source : String) : String :=
  let line := ((textLines source.toList)[d.line - 1]?).getD []
  String.ofList (line ++ '\n' :: List.replicate (d.column - 1) ' ' ++
    List.replicate (max (d.width source) 1) '^')

/-- The encoded diagnostic. -/
def toJson (d : Diagnostic) : Json :=
  .obj [("kind", .str d.kind.tag), ("severity", .str d.severity.text), ("message", .str d.message),
    ("span", d.span.toJson),
    ("line", .nat d.line), ("column", .nat d.column)]

/-- A diagnostic in a report: severity, kind, place and message, and the snippet below. -/
def entry (source : String) (d : Diagnostic) : String :=
  d.severity.text ++ "[" ++ d.kind.text ++ "] " ++ d.text ++ "\n" ++ d.snippet source ++ "\n"

/-- The report on several diagnostics. -/
def report (source : String) (ds : List Diagnostic) : String := String.join (ds.map (entry source))

/-- The errors among some diagnostics, put into one line: their number and the first of them. -/
def summary (errors : List Diagnostic) : String :=
  toString errors.length ++ " error(s), first at " ++
    match errors with
    | [] => ""
    | d :: _ => d.text

/-- Diagnostics in the order of their places.  Those at one place keep their order. -/
def sorted (ds : List Diagnostic) : List Diagnostic :=
  ds.mergeSort fun d e => decide (d.span.start ≤ e.span.start)

end Diagnostic

end PipedQuery
