import PipedQuery.Command.Encode
import PipedQuery.Grammar.Extract
import PipedQuery.Token.Scan

/-!
# Parsing queries and expressions

A query is parsed stage by stage.  Pipes cut the significant tokens into stages, and each stage is
read by itself, so a mistake in one never reaches another.  The issues of a stage become
diagnostics of the tokens they concern.

A `Session` holds what is left to parse.  It is what several expressions and then a query may be
read from, one after the other.
-/

namespace PipedQuery

/-- How to parse. -/
structure ParseOptions where
  /-- Whether to go on with the next stage after an error. -/
  recover : Bool := true
  /-- How many diagnostics are kept. -/
  maxDiagnostics : Nat := 100
deriving DecidableEq

/-- The pipeline that could be made out, and everything wrong with the text, in order of place. -/
structure ParseResult where
  query : Query
  diagnostics : List Diagnostic

namespace ParseResult

/-- The diagnostics that are errors. -/
def errors (r : ParseResult) : List Diagnostic := r.diagnostics.filter Diagnostic.isError

/-- The diagnostics that are warnings. -/
def warnings (r : ParseResult) : List Diagnostic := r.diagnostics.filter fun d => !d.isError

/-- Whether nothing is wrong but for warnings. -/
def isSuccess (r : ParseResult) : Bool := !r.diagnostics.any Diagnostic.isError

/-- The pipeline, unless there are errors. -/
def toExcept (r : ParseResult) : Except (List Diagnostic) Query :=
  if r.isSuccess then .ok r.query else .error r.errors

/-- The encoded result. -/
def toJson (r : ParseResult) : Json :=
  .obj [("query", r.query.toJson), ("diagnostics", .arr (r.diagnostics.map Diagnostic.toJson))]

end ParseResult

/-- The tokens between two pipes, and the pipe behind them if there is one. -/
structure Stage where
  tokens : List Token
  pipe : Option Token

namespace Stage

/-- What the grammar reads of the stage. -/
def lexemes (s : Stage) : List Lexeme := s.tokens.map Token.toLexeme

/-- The token in front of which `remaining` lexemes of the stage were left.  With none left that is
    the pipe. -/
def tokenAt (s : Stage) (remaining : Nat) : Option Token :=
  if remaining = 0 then s.pipe else s.tokens[s.tokens.length - remaining]?

/-- The diagnostic of an issue in the stage, in a text that ends at `stop`. -/
def diagnose (s : Stage) (stop : Position) (issue : Issue) : Diagnostic :=
  issue.cause.diagnose stop (s.tokenAt issue.remaining)

end Stage

/-- Whether the token is a pipe. -/
def Token.isPipe (t : Token) : Bool := t.kind = .mark .pipe

/-- The stages that pipes cut some tokens into.  There is one more than there are pipes. -/
def stages : List Token → List Stage
  | [] => [⟨[], none⟩]
  | t :: ts =>
    if t.isPipe then ⟨[], some t⟩ :: stages ts
    else match stages ts with
      | [] => [⟨[t], none⟩]
      | s :: more => { s with tokens := t :: s.tokens } :: more

/-- What is left to parse, where the text ends, and all diagnostics so far, in the order they were
    raised. -/
structure Session where
  tokens : List Token
  stop : Position
  options : ParseOptions
  raised : List Diagnostic

namespace Session

/-- The place behind the last token, as far as 32 bits can count its line and column. -/
def endOf (tokens : List Token) : Position :=
  match tokens.getLast? with
  | some t => t.stop.wrapped
  | none => .origin

/-- A session on the significant ones of some tokens, starting with their lexical diagnostics. -/
def ofTokens (tokens : List Token) (options : ParseOptions) : Session :=
  { tokens := tokens.filter fun t => t.isSignificant
    stop := endOf tokens
    options
    raised := lexicalDiagnostics tokens }

/-- The diagnostics that are kept: the first ones up to the limit. -/
def kept (s : Session) : List Diagnostic := s.raised.take s.options.maxDiagnostics

/-- Whether an error is among the kept diagnostics. -/
def hasErrors (s : Session) : Bool := s.kept.any Diagnostic.isError

/-- The session with more diagnostics. -/
def raise (s : Session) (ds : List Diagnostic) : Session := { s with raised := s.raised ++ ds }

/-- The stage that the session is in. -/
def stage (s : Session) : Stage :=
  { tokens := s.tokens.takeWhile fun t => !t.isPipe
    pipe := (s.tokens.dropWhile fun t => !t.isPipe).head? }

/-- Runs a parser within the current stage. -/
def run {α : Type} (s : Session) (p : StageParser α) : Except Diagnostic α × Session :=
  let stage := s.stage
  let o := p stage.lexemes
  let read := stage.tokens.length - o.rest.length
  let s := s.raise (o.raised.map (stage.diagnose s.stop))
  (o.result.mapError (stage.diagnose s.stop), { s with tokens := s.tokens.drop read })

/-- Reads one expression. -/
def expression (s : Session) : Except Diagnostic Expr × Session := s.run Parser.expression

/-- The kept errors, in order of place. -/
def errors (s : Session) : List Diagnostic :=
  Diagnostic.sorted (s.kept.filter Diagnostic.isError)

/-- Reads one expression that has to be all that is left. -/
def standalone (s : Session) : Except (List Diagnostic) Expr :=
  match s.expression with
  | (.ok e, s) =>
    match s.tokens with
    | [] => if s.hasErrors then .error s.errors else .ok e
    | t :: _ =>
      .error (s.raise [(Cause.expected .expressionEnd).diagnose s.stop (some t)]).errors
  | (.error d, s) => .error (s.raise [d]).errors

/-- Parses a stage: its command, if there is one, and its diagnostics.  An empty stage at the end of
    the query lacks a command, the whole query if it is the only one. -/
def parseStage (stop : Position) (first : Bool) (stage : Stage) :
    Option Command × List Diagnostic :=
  match stage with
  | ⟨[], none⟩ =>
    let clause := if first then Clause.firstCommand else .nextCommand
    (none, [(Cause.missing clause).diagnose stop none])
  | stage =>
    let o := Parser.stage first stage.lexemes
    match o.result with
    | .ok command => (command, o.raised.map (stage.diagnose stop))
    | .error issue => (none, (o.raised ++ [issue]).map (stage.diagnose stop))

/-- Parses stage after stage.  Unless parsing recovers from errors, it stops behind the first stage
    at which an error is among the kept diagnostics. -/
def parseStages (s : Session) (first : Bool) : List Stage → List Command × Session
  | [] => ([], s)
  | stage :: more =>
    let (command, ds) := parseStage s.stop first stage
    let s := s.raise ds
    if !s.options.recover && s.hasErrors then (command.toList, s)
    else
      let (commands, s) := s.parseStages false more
      (command.toList ++ commands, s)

/-- Parses everything that is left as a query. -/
def query (s : Session) : ParseResult :=
  let (commands, s) := s.parseStages true (stages s.tokens)
  ⟨⟨commands⟩, Diagnostic.sorted s.kept⟩

end Session

/-- Parses a query. -/
def parseWith (options : ParseOptions) (text : String) : ParseResult :=
  (Session.ofTokens (scan text) options).query

/-- Parses a query, recovering from errors and keeping a hundred diagnostics. -/
def parse (text : String) : ParseResult := parseWith {} text

/-- Parses a text that is a single expression. -/
def parseExpression (text : String) : Except (List Diagnostic) Expr :=
  (Session.ofTokens (scan text) {}).standalone

end PipedQuery
